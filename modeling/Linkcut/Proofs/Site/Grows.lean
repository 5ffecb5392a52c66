import Linkcut.Proofs.Site.Course

/-!
What requests leave alone, whatever abort calls do meanwhile: the journal only grows, transports
keep their reactions, and of the counters only those of connections change.
-/

set_option autoImplicit false

namespace Linkcut

def Counter.ofConnections : Counter → Bool
  | .accepted | .closed | .destroyed => true
  | _ => false

/-- Whether the event is no fatal end of an abort call. -/
def Event.isMild : Event → Bool
  | .failed _ f => f.isOrdinary
  | _ => true

namespace Site

structure Grows (s u : Site) : Prop where
  journal : s.journal <:+ u.journal
  reaction : ∀ h, (u.transport h).reaction = (s.transport h).reaction
  tallies : ∀ i c, c.ofConnections = false → (u.tallies i).get c = (s.tallies i).get c

theorem Grows.refl (s : Site) : s.Grows s := ⟨List.suffix_refl _, fun _ => rfl, fun _ _ _ => rfl⟩

theorem Grows.trans {s u v : Site} (h : s.Grows u) (h' : u.Grows v) : s.Grows v where
  journal := h.journal.trans h'.journal
  reaction k := (h'.reaction k).trans (h.reaction k)
  tallies i c hc := (h'.tallies i c hc).trans (h.tallies i c hc)

/-- No abort call that a drain made has ended in a fatal fault. -/
def Mild (s : Site) : Prop := ∀ e ∈ s.journal, e.isMild

instance (s : Site) : Decidable s.Mild := inferInstanceAs (Decidable (∀ e ∈ s.journal, e.isMild))

theorem Mild.ordinary {s : Site} (hs : s.Mild) {h : Handle} {f : Fault}
    (hf : Event.failed h f ∈ s.journal) : f.isOrdinary := hs _ hf

theorem Mild.of_grows {s u : Site} (h : u.Mild) (hg : s.Grows u) : s.Mild :=
  fun e he => h e (hg.journal.subset he)

theorem grows_note (s : Site) (e : Event) : s.Grows (s.note e) :=
  ⟨List.suffix_cons _ _, fun _ => rfl, fun _ _ _ => rfl⟩

theorem grows_setRegistry (s : Site) (i : Nat) (r : Registry) : s.Grows (s.setRegistry i r) :=
  ⟨List.suffix_refl _, fun _ => rfl, fun _ _ _ => rfl⟩

theorem grows_count (s : Site) (i : Nat) {c : Counter} (n : Int) (hc : c.ofConnections = true) :
    s.Grows (s.count i c n) := by
  refine ⟨List.suffix_refl _, fun _ => rfl, fun j d hd => ?_⟩
  have hne : d ≠ c := by
    rintro rfl
    rw [hd] at hc
    contradiction
  by_cases hj : j = i <;> simp [hj, hne]

theorem grows_setTransport (s : Site) (h : Handle) (t : Transport)
    (ht : t.reaction = (s.transport h).reaction) : s.Grows (s.setTransport h t) := by
  refine ⟨List.suffix_refl _, fun k => ?_, fun _ _ _ => rfl⟩
  by_cases hk : k = h
  · simp [hk, ht]
  · simp [hk]

theorem grows_insert (s : Site) (i : Nat) (h : Handle) : s.Grows (s.insert i h).2 := by
  unfold insert
  split
  · exact .refl s
  · exact (grows_setRegistry s i _).trans (grows_note _ _)

theorem grows_erase (s : Site) (i : Nat) (h : Handle) : s.Grows (s.erase i h).2 := by
  unfold erase
  split
  · exact (grows_setRegistry s i _).trans (grows_note _ _)
  · exact .refl s

theorem grows_record (s : Site) (t : Target) (h : Handle) : s.Grows (s.record t h).2 := by
  have hi := grows_insert s t.registryIndex h
  unfold record
  split
  rename_i b u heq
  rw [heq] at hi
  split
  · exact hi.trans ((grows_count u _ 1 rfl).trans (grows_note _ _))
  · exact hi

theorem grows_forget (s : Site) (t : Target) (h : Handle) : s.Grows (s.forget t h).2 := by
  have hi := grows_erase s t.registryIndex h
  unfold forget
  split
  rename_i b u heq
  rw [heq] at hi
  split
  · exact hi.trans ((grows_count u _ 1 rfl).trans (grows_note _ _))
  · exact hi

theorem grows_take (s : Site) (i : Nat) : s.Grows (s.take i).2 :=
  (grows_setRegistry s i .empty).trans (grows_note _ _)

theorem grows_settle (s : Site) (t : Target) (n : Nat) : s.Grows (s.settle t n) := by
  cases t with
  | registry i => exact .refl s
  | manager m => exact grows_count s m.counters n rfl

theorem grows_beginAbort (s : Site) (h : Handle) : s.Grows (s.beginAbort h) :=
  grows_setTransport s h _ rfl

end Site

open Site

theorem Course.Step.grows {self : Target} {x y : Course} (h : Step self x y) :
    x.site.Grows y.site := by
  cases h with
  | record s t h => exact grows_record s t h
  | forget s t h => exact grows_forget s t h
  | close s t h => exact grows_setTransport s h _ rfl
  | «break» s t h => exact grows_setTransport s h _ rfl
  | drain s t => exact grows_take s t.registryIndex
  | settle s t n => exact grows_settle s t n
  | enter s h => exact grows_beginAbort s h
  | abort s | pick s | hear s | giveUp s => exact grows_note s _
  | passOver s => exact (grows_note s _).trans (grows_note _ _)
  | _ => exact .refl _

theorem Course.Steps.grows {self : Target} {x y : Course} (h : Course.Steps self x y) :
    x.site.Grows y.site := by
  induction h with
  | refl => exact .refl x.site
  | tail _ hstep ih => exact ih.trans hstep.grows

theorem Site.Passes.grows {s : Site} {o : Order} {x : Course} (h : s.Passes o x) :
    s.Grows x.site := Course.Steps.grows h

namespace Site

theorem grows_perform (s : Site) (self target : Target) (q : Request) :
    s.Grows (s.perform self target q).2 := (s.passes_perform ⟨self, ⟨target, q⟩⟩).grows

theorem grows_abort (self : Target) (h : Handle) (s : Site) :
    s.Grows (abort self nestingLimit h s).2 :=
  (Course.reproduces self nestingLimit h s [] (Nat.zero_add _)).grows

theorem grows_abortAll (self : Target) (i : Nat) (hs : List Handle) (s : Site) :
    s.Grows (abortAll (abort self nestingLimit) i hs s).2 := by
  induction hs generalizing s with
  | nil => exact .refl s
  | cons h hs ih =>
    have hcall := (grows_note s (.aborted (some i) h)).trans (grows_abort self h _)
    rw [abortAll]
    rcases hr : abort self nestingLimit h (s.note (.aborted (some i) h)) with ⟨_ | f, u⟩
    · rw [hr] at hcall
      exact hcall.trans (ih u)
    · rw [hr] at hcall
      have hfailed := hcall.trans (grows_note u (.failed h f))
      dsimp only
      split
      · exact (hfailed.trans (grows_note _ _)).trans (ih _)
      · exact hfailed

/-- Only a fatal end of one of its abort calls keeps a drain from its end. -/
theorem abortAll_of_mild (call : Abort) (i : Nat) (hs : List Handle) (s : Site)
    (hm : (abortAll call i hs s).2.Mild) : (abortAll call i hs s).1 = none := by
  induction hs generalizing s with
  | nil => rfl
  | cons h hs ih =>
    rw [abortAll] at hm ⊢
    split at hm
    · exact ih _ hm
    · rename_i f u _
      dsimp only at hm ⊢
      split at hm
      · rename_i ho
        rw [if_pos ho]
        exact ih _ hm
      · rename_i hfatal
        have hin : Event.failed h f ∈ (u.note (.failed h f)).journal := by simp
        exact absurd (hm.ordinary hin) hfatal

theorem sweep_of_mild (call : Abort) (s : Site) (t : Target) (hm : (sweep call s t).2.Mild) :
    ∃ n, (sweep call s t).1 = .ok n := by
  have hall := abortAll_of_mild call t.registryIndex (s.take t.registryIndex).1
    (s.take t.registryIndex).2
  rcases hr : abortAll call t.registryIndex (s.take t.registryIndex).1
    (s.take t.registryIndex).2 with ⟨f, u⟩
  rw [hr] at hall
  cases f with
  | none => exact ⟨(s.take t.registryIndex).1.length, by cases t <;> simp only [sweep, drain, hr]⟩
  | some f =>
    have hsite : (sweep call s t).2 = u := by cases t <;> simp only [sweep, drain, hr]
    rw [hsite] at hm
    cases hall hm

/-- Ordinary ends of abort calls are passed over, so that only a fatal one ends them all. -/
theorem fatal_of_abortAll (call : Abort) (i : Nat) (hs : List Handle) (s : Site) {f : Fault}
    (h : (abortAll call i hs s).1 = some f) : ¬ f.isOrdinary := by
  induction hs generalizing s with
  | nil => cases h
  | cons k ks ih =>
    rw [abortAll] at h
    split at h
    · exact ih _ h
    · dsimp only at h
      split at h
      · exact ih _ h
      · rename_i hfatal
        rw [← Option.some.inj h]
        exact hfatal

theorem fatal_of_sweep (call : Abort) (s : Site) (t : Target) {f : Fault}
    (h : (sweep call s t).1 = .error f) : ¬ f.isOrdinary := by
  refine fatal_of_abortAll call t.registryIndex (s.take t.registryIndex).1
    (s.take t.registryIndex).2 ?_
  rcases hr : abortAll call t.registryIndex (s.take t.registryIndex).1
    (s.take t.registryIndex).2 with ⟨_ | g, u⟩
  · cases t <;> simp [sweep, drain, hr] at h
  · have hfault : (sweep call s t).1 = .error g := by cases t <;> simp only [sweep, drain, hr]
    rw [hfault] at h
    rw [Except.error.inj h]

end Site
end Linkcut

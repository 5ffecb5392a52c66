import Linkcut.Proofs.Site.Grows
import Linkcut.Proofs.Site.Requests

/-!
Sites that differ in nothing but the log and in some hidden counters. They answer every request
alike, whatever abort calls do meanwhile, for nothing that acts on connections reads either.
-/

set_option autoImplicit false

namespace Linkcut

/-- The counters with the hidden ones set to zero. -/
def Counters.mask (hidden : List Counter) (t : Counters Int) : Counters Int :=
  hidden.foldl (fun t k => t.modify k fun _ => 0) t

@[simp] theorem Counters.get_mask (hidden : List Counter) (t : Counters Int) (k : Counter) :
    (t.mask hidden).get k = if k ∈ hidden then 0 else t.get k := by
  induction hidden generalizing t with
  | nil => simp [mask]
  | cons j js ih =>
    have hcons : t.mask (j :: js) = (t.modify j fun _ => 0).mask js := rfl
    rw [hcons, ih]
    by_cases hk : k = j
    · simp [hk]
    · simp [hk]

theorem Counters.mask_congr {hidden : List Counter} {t u : Counters Int}
    (h : ∀ k ∉ hidden, u.get k = t.get k) : u.mask hidden = t.mask hidden := by
  ext k
  by_cases hk : k ∈ hidden
  · simp [hk]
  · simp [hk, h k hk]

/-- A reply to somebody who cannot see the hidden counters. -/
def Reply.mask (hidden : List Counter) : Reply → Reply
  | .manager live closing counters => .manager live closing (counters.mask hidden)
  | r => r

/-- An event as it is seen without the log and the hidden counters. -/
def Event.mask? (hidden : List Counter) : Event → Option Event
  | .logged _ => none
  | .noted q r => some (.noted q (r.mask hidden))
  | e => some e

namespace Site

structure Alike (hidden : List Counter) (s u : Site) : Prop where
  registries : ∀ i, u.registry i = s.registry i
  transports : ∀ h, u.transport h = s.transport h
  tallies : ∀ i, ∀ k ∉ hidden, (u.tallies i).get k = (s.tallies i).get k
  seen : u.observed (Event.mask? hidden) = s.observed (Event.mask? hidden)

/-- The same result, at sites that are alike. -/
inductive Matches (hidden : List Counter) {α : Type} : α × Site → α × Site → Prop
  | intro (a : α) {s u : Site} (h : Alike hidden s u) : Matches hidden (a, s) (a, u)

/-- What an abort call does is the same at sites that are alike. -/
def Respects (hidden : List Counter) (call : Abort) : Prop :=
  ∀ h s u, Alike hidden s u → Matches hidden (call h s) (call h u)

namespace Alike

variable {hidden : List Counter} {s u v : Site}

theorem refl (s : Site) : Alike hidden s s := ⟨fun _ => rfl, fun _ => rfl, fun _ _ _ => rfl, rfl⟩

theorem symm (h : Alike hidden s u) : Alike hidden u s :=
  ⟨fun i => (h.registries i).symm, fun k => (h.transports k).symm,
    fun i k hk => (h.tallies i k hk).symm, h.seen.symm⟩

theorem trans (h : Alike hidden s u) (h' : Alike hidden u v) : Alike hidden s v :=
  ⟨fun i => (h'.registries i).trans (h.registries i),
    fun k => (h'.transports k).trans (h.transports k),
    fun i k hk => (h'.tallies i k hk).trans (h.tallies i k hk), h'.seen.trans h.seen⟩

theorem log (h : Alike hidden s u) (e e' : Log.Entry) : Alike hidden (s.log e) (u.log e') :=
  ⟨h.registries, h.transports, h.tallies, by simp [Event.mask?, h.seen]⟩

theorem note (h : Alike hidden s u) {e e' : Event}
    (he : e'.mask? hidden = e.mask? hidden) : Alike hidden (s.note e) (u.note e') :=
  ⟨h.registries, h.transports, h.tallies, by simp [he, h.seen]⟩

theorem setRegistry (h : Alike hidden s u) (i : Nat) (r : Registry) :
    Alike hidden (s.setRegistry i r) (u.setRegistry i r) :=
  ⟨fun j => by simp [h.registries j], h.transports, h.tallies, by simp [h.seen]⟩

theorem setTransport (h : Alike hidden s u) (k : Handle) (t : Transport) :
    Alike hidden (s.setTransport k t) (u.setTransport k t) :=
  ⟨h.registries, fun j => by simp [h.transports j], h.tallies, by simp [h.seen]⟩

theorem count (h : Alike hidden s u) (i : Nat) (c : Counter) (n : Int) :
    Alike hidden (s.count i c n) (u.count i c n) := by
  refine ⟨h.registries, h.transports, fun j k hk => ?_, by simp [h.seen]⟩
  by_cases hj : j = i
  · simp [hj, h.tallies i k hk]
  · simp [hj, h.tallies j k hk]

/-- Who sees less than the masked events sees the same. -/
theorem observed (h : Alike hidden s u) {β : Type} (see : Event → Option β)
    (hsee : ∀ e, (e.mask? hidden).bind see = see e) : u.observed see = s.observed see := by
  have hmasked : ∀ v : Site, v.observed see = (v.observed (Event.mask? hidden)).filterMap see := by
    intro v
    simp only [Site.observed, List.filterMap_filterMap, hsee]
  rw [hmasked u, hmasked s, h.seen]

section Requests

variable (h : Alike hidden s u)
include h

theorem insert (i : Nat) (k : Handle) : Matches hidden (s.insert i k) (u.insert i k) := by
  simp only [Site.insert, h.registries i]
  split
  · exact .intro _ h
  · exact .intro _ ((h.setRegistry _ _).note rfl)

theorem erase (i : Nat) (k : Handle) : Matches hidden (s.erase i k) (u.erase i k) := by
  simp only [Site.erase, h.registries i]
  split
  · exact .intro _ ((h.setRegistry _ _).note rfl)
  · exact .intro _ h

theorem take (i : Nat) : Matches hidden (s.take i) (u.take i) := by
  simp only [Site.take, h.registries i]
  exact .intro _ ((h.setRegistry _ _).note rfl)

theorem record (t : Target) (k : Handle) : Matches hidden (s.record t k) (u.record t k) := by
  have hins := h.insert t.registryIndex k
  simp only [Site.record]
  generalize s.insert t.registryIndex k = r at hins ⊢
  generalize u.insert t.registryIndex k = r' at hins ⊢
  obtain ⟨b, hins⟩ := hins
  cases t with
  | registry i => exact .intro b hins
  | manager m =>
    cases b with
    | false => exact .intro false hins
    | true => exact .intro true ((hins.count m.counters .accepted 1).log _ _)

theorem forget (t : Target) (k : Handle) : Matches hidden (s.forget t k) (u.forget t k) := by
  have herase := h.erase t.registryIndex k
  simp only [Site.forget]
  generalize s.erase t.registryIndex k = r at herase ⊢
  generalize u.erase t.registryIndex k = r' at herase ⊢
  obtain ⟨b, herase⟩ := herase
  cases t with
  | registry i => exact .intro b herase
  | manager m =>
    cases b with
    | false => exact .intro false herase
    | true => exact .intro true ((herase.count m.counters .closed 1).log _ _)

theorem closingCount (hs : List Handle) : u.closingCount hs = s.closingCount hs := by
  induction hs with
  | nil => rfl
  | cons k ks ih => simp only [Site.closingCount, h.transports k, ih]

/-- The figures of a manager differ in hidden counters at most. -/
theorem reportOf (t : Target) :
    (u.reportOf t).map (Reply.mask hidden) = (s.reportOf t).map (Reply.mask hidden) := by
  cases t with
  | registry i => simp only [Site.reportOf, h.registries i, h.closingCount]
  | manager m =>
    simp only [Site.reportOf, managerReport, h.registries m.registry, h.closingCount]
    cases s.closingCount (s.registry m.registry).members with
    | error f => rfl
    | ok n => simp [Except.map, Reply.mask, Counters.mask_congr (h.tallies m.counters)]

variable {call : Abort} (hcall : Respects hidden call)
include hcall

theorem abortAll (i : Nat) (hs : List Handle) :
    Matches hidden (Site.abortAll call i hs s) (Site.abortAll call i hs u) := by
  induction hs generalizing s u with
  | nil => exact .intro none h
  | cons k ks ih =>
    have hcalled := hcall k _ _ (h.note (e := .aborted (some i) k) rfl)
    simp only [Site.abortAll]
    generalize call k (s.note (.aborted (some i) k)) = r at hcalled ⊢
    generalize call k (u.note (.aborted (some i) k)) = r' at hcalled ⊢
    obtain ⟨f, hcalled⟩ := hcalled
    cases f with
    | none => exact ih hcalled
    | some f =>
      have hfailed := hcalled.note (e := .failed k f) rfl
      dsimp only
      split
      · exact ih (hfailed.log _ _)
      · exact .intro (some f) hfailed

theorem drain (i : Nat) : Matches hidden (Site.drain call i s) (Site.drain call i u) := by
  have htake := h.take i
  simp only [Site.drain]
  generalize s.take i = r at htake ⊢
  generalize u.take i = r' at htake ⊢
  obtain ⟨hs, htake⟩ := htake
  have hall := htake.abortAll hcall i hs
  dsimp only
  generalize Site.abortAll call i hs _ = r at hall ⊢
  generalize Site.abortAll call i hs _ = r' at hall ⊢
  obtain ⟨f, hall⟩ := hall
  cases f with
  | none => exact .intro _ hall
  | some f => exact .intro _ hall

theorem sweep (t : Target) : Matches hidden (Site.sweep call s t) (Site.sweep call u t) := by
  have hdrain := h.drain hcall t.registryIndex
  simp only [Site.sweep]
  generalize Site.drain call t.registryIndex s = r at hdrain ⊢
  generalize Site.drain call t.registryIndex u = r' at hdrain ⊢
  obtain ⟨a, hdrain⟩ := hdrain
  cases t with
  | registry i => exact .intro a hdrain
  | manager m =>
    cases a with
    | error f => exact .intro _ hdrain
    | ok n => exact .intro _ (hdrain.count m.counters .destroyed n)

theorem answer (t : Target) (q : Request) :
    (Site.answer call t u q).1.map (Reply.mask hidden) =
        (Site.answer call t s q).1.map (Reply.mask hidden) ∧
      Alike hidden (Site.answer call t s q).2 (Site.answer call t u q).2 := by
  -- the replies that are no reports show no counter
  have hsame : ∀ {α : Type} {r r' : α × Site} (f : α → Except Fault Reply), Matches hidden r r' →
      (f r'.1).map (Reply.mask hidden) = (f r.1).map (Reply.mask hidden) ∧
        Alike hidden r.2 r'.2 := by
    rintro _ _ _ f ⟨a, hsites⟩
    exact ⟨rfl, hsites⟩
  cases q with
  | record k => exact hsame (fun b => .ok (.flag b)) (h.record t k)
  | forget k => exact hsame (fun b => .ok (.flag b)) (h.forget t k)
  | drain => exact hsame (Except.map .count) (h.sweep hcall t)
  | report => exact ⟨h.reportOf t, h⟩
  | live =>
    cases t with
    | registry i => exact ⟨rfl, h⟩
    | manager m => simp only [Site.answer, h.registries]; exact ⟨trivial, h⟩
  | containsValue v => exact ⟨rfl, h⟩
  | size | contains | snapshot | snapshotClear =>
    simp only [Site.answer, h.registries]
    exact ⟨trivial, h⟩
  | close k =>
    simp only [Site.answer, h.transports]
    exact ⟨trivial, h.setTransport k _⟩
  | «break» k f =>
    simp only [Site.answer, h.transports]
    exact ⟨trivial, h.setTransport k _⟩
  | abort k =>
    have hcalled := hcall k _ _ (h.note (e := .aborted none k) rfl)
    simp only [Site.answer]
    generalize call k (s.note (.aborted none k)) = r at hcalled ⊢
    generalize call k (u.note (.aborted none k)) = r' at hcalled ⊢
    obtain ⟨f, hcalled⟩ := hcalled
    cases f with
    | none => exact ⟨rfl, hcalled⟩
    | some f => exact ⟨rfl, hcalled⟩

theorem follow (es : List Errand) :
    Matches hidden (Site.follow (fun s e => Site.answer call e.target s e.request) es s)
      (Site.follow (fun s e => Site.answer call e.target s e.request) es u) := by
  induction es generalizing s u with
  | nil => exact .intro none h
  | cons e es ih =>
    have hans := h.answer hcall e.target e.request
    simp only [Site.follow]
    generalize Site.answer call e.target s e.request = r at hans ⊢
    generalize Site.answer call e.target u e.request = r' at hans ⊢
    obtain ⟨a, s'⟩ := r
    obtain ⟨a', u'⟩ := r'
    obtain ⟨hreply, hafter⟩ := hans
    cases a with
    | error f =>
      cases a' with
      | error g =>
        obtain rfl : g = f := Except.error.inj hreply
        exact .intro (some g) hafter
      | ok r' => cases hreply
    | ok r =>
      cases a' with
      | error g => cases hreply
      | ok r' =>
        have hmask : r'.mask hidden = r.mask hidden := Except.ok.inj hreply
        exact ih (hafter.note (by simp only [Event.mask?, hmask]))

end Requests

end Alike

/-- Abort calls do the same at sites that are alike, at every depth. -/
theorem respects_abort (hidden : List Counter) (self : Target) (depth : Nat) :
    Respects hidden (abort self depth) := by
  induction depth with
  | zero => exact fun _ _ _ h => .intro _ h
  | succ depth ih =>
    intro k s u h
    have hreact : u.reaction k = s.reaction k := by simp only [reaction, h.transports]
    have hbegun : Alike hidden (s.beginAbort k) (u.beginAbort k) := by
      simp only [beginAbort, h.transports]
      exact h.setTransport k _
    have hfollow := hbegun.follow ih ((s.reaction k).errands self)
    simp only [abort, hreact]
    generalize follow _ _ (s.beginAbort k) = r at hfollow ⊢
    generalize follow _ _ (u.beginAbort k) = r' at hfollow ⊢
    obtain ⟨f, hfollow⟩ := hfollow
    cases f with
    | none => exact .intro _ hfollow
    | some f => exact .intro _ hfollow

theorem Alike.perform {hidden : List Counter} {s u : Site} (h : Alike hidden s u)
    (self t : Target) (q : Request) :
    (u.perform self t q).1.map (Reply.mask hidden) =
        (s.perform self t q).1.map (Reply.mask hidden) ∧
      Alike hidden (s.perform self t q).2 (u.perform self t q).2 :=
  h.answer (respects_abort hidden self nestingLimit) t q

end Site
end Linkcut

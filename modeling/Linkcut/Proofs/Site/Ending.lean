import Linkcut.Proofs.Site.Modest
import Linkcut.Proofs.Site.Periods

/-!
How an open period comes to its end. Of the requests that abort nothing only a forget of the handle
ends it; a drain ends it at once, and has aborted the handle when it comes to its own end.
-/

set_option autoImplicit false

namespace Linkcut

namespace Site

/-- What was seen stays seen. -/
theorem observed_of_suffix {β : Type} (see : Event → Option β) {s u : Site}
    (h : s.journal <:+ u.journal) : ∃ l, u.observed see = s.observed see ++ l := by
  obtain ⟨es, hes⟩ := h
  exact ⟨es.reverse.filterMap see, by simp [observed, events, ← hes]⟩

/-- A drain that comes to its end has aborted every handle that it took. -/
theorem abortedBy_abortAll (self : Target) (i : Nat) (hs : List Handle) (s : Site)
    (hend : (abortAll (abort self nestingLimit) i hs s).1 = none) :
    ∃ l, (abortAll (abort self nestingLimit) i hs s).2.abortedBy i = s.abortedBy i ++ l ∧
      ∀ h ∈ hs, h ∈ l := by
  induction hs generalizing s with
  | nil => exact ⟨[], by simp [abortAll], by simp⟩
  | cons h hs ih =>
    -- the call on `h` is noted first, and nothing that follows undoes it
    have hstep : ∀ u, (s.note (.aborted (some i) h)).Grows u →
        (abortAll (abort self nestingLimit) i hs u).1 = none →
        ∃ l, (abortAll (abort self nestingLimit) i hs u).2.abortedBy i = s.abortedBy i ++ l ∧
          ∀ k ∈ h :: hs, k ∈ l := by
      intro u hu hrest
      obtain ⟨l, hl⟩ := observed_of_suffix (Event.abortedBy? i) hu.journal
      obtain ⟨l', hl', hall⟩ := ih u hrest
      refine ⟨h :: (l ++ l'), ?_, ?_⟩
      · rw [hl']
        simp only [abortedBy] at hl ⊢
        simp [hl, Event.abortedBy?]
      · intro k hk
        rcases List.mem_cons.1 hk with rfl | hk
        · exact List.mem_cons_self
        · exact List.mem_cons_of_mem _ (List.mem_append_right _ (hall k hk))
    have hcall := grows_abort self h (s.note (.aborted (some i) h))
    rw [abortAll] at hend ⊢
    rcases hr : abort self nestingLimit h (s.note (.aborted (some i) h)) with ⟨_ | f, u⟩
    · rw [hr] at hcall hend
      exact hstep u hcall hend
    · rw [hr] at hcall hend
      have hpass : (s.note (.aborted (some i) h)).Grows
          ((u.note (.failed h f)).log (ignoredEntry f)) :=
        hcall.trans ((grows_note _ _).trans (grows_note _ _))
      dsimp only at hend ⊢
      split at hend
      · rename_i ho
        rw [if_pos ho]
        exact hstep _ hpass hend
      · cases hend

variable {s : Site} {t : Target} {h : Handle}

/-- A manager counts what was destroyed, and the journal does not show that. -/
theorem journal_sweep (call : Abort) : (sweep call s t).2.journal =
    (abortAll call t.registryIndex (s.take t.registryIndex).1
      (s.take t.registryIndex).2).2.journal := by
  rcases hr : abortAll call t.registryIndex (s.take t.registryIndex).1
    (s.take t.registryIndex).2 with ⟨f, u⟩
  cases t <;> cases f <;> simp only [sweep, drain, hr]
  rfl

/-- A sweep ends the period of a tracked handle in an abort call. -/
theorem sweep_ends (self : Target) (hmem : h ∈ s.registry t.registryIndex)
    (hm : (sweep (abort self nestingLimit) s t).2.Mild) :
    (∃ es, (sweep (abort self nestingLimit) s t).2.edges t.registryIndex h =
      s.edges t.registryIndex h ++ .drained :: es) ∧
    ∃ hs, (sweep (abort self nestingLimit) s t).2.abortedBy t.registryIndex =
      s.abortedBy t.registryIndex ++ hs ∧ h ∈ hs := by
  have hjournal := journal_sweep (s := s) (t := t) (abort self nestingLimit)
  have hend := abortAll_of_mild _ _ _ _ fun e he => hm e (hjournal.symm ▸ he)
  constructor
  · have hgrows := grows_abortAll self t.registryIndex (s.take t.registryIndex).1
      (s.take t.registryIndex).2
    have hsuffix := hgrows.journal
    rw [← hjournal] at hsuffix
    obtain ⟨l, hl⟩ := observed_of_suffix (Event.edge? t.registryIndex h) hsuffix
    have hedge := edges_take s h t.registryIndex t.registryIndex
    rw [if_pos ⟨rfl, hmem⟩] at hedge
    refine ⟨l, hl.trans ?_⟩
    change (s.take t.registryIndex).2.edges t.registryIndex h ++ l = _
    rw [hedge, List.append_assoc]
    rfl
  · obtain ⟨hs, hhs, hall⟩ := abortedBy_abortAll self t.registryIndex (s.take t.registryIndex).1
      (s.take t.registryIndex).2 hend
    refine ⟨hs, ?_, hall h hmem⟩
    rw [abortedBy_take] at hhs
    rw [abortedBy, observed, events, hjournal]
    exact hhs

/-- Of the requests that abort nothing only a forget ends the period of a tracked handle. -/
theorem perform_ends (self : Target) (hmem : h ∈ s.registry t.registryIndex) {q : Request}
    (hq : q.spares) :
    ((s.perform self t q).2.edges t.registryIndex h = s.edges t.registryIndex h ∧
      h ∈ (s.perform self t q).2.registry t.registryIndex) ∨
    (s.perform self t q).2.edges t.registryIndex h = s.edges t.registryIndex h ++ [.forgotten] := by
  cases q with
  | record k =>
    have hedge := edges_record s t h t.registryIndex k
    rw [record_fst] at hedge
    have hreg : h ∈ (s.record t k).2.registry t.registryIndex := by simp [hmem]
    by_cases hk : k = h
    · exact .inl ⟨hedge.trans (by simp [hk, hmem]), hreg⟩
    · exact .inl ⟨hedge.trans (by simp [hk]), hreg⟩
  | forget k =>
    have hedge := edges_forget s t h t.registryIndex k
    rw [forget_fst] at hedge
    by_cases hk : k = h
    · exact .inr (hedge.trans (by simp [hk, hmem]))
    · have hne : h ≠ k := fun e => hk e.symm
      have hreg : h ∈ (s.forget t k).2.registry t.registryIndex := by simp [hmem, hne]
      exact .inl ⟨hedge.trans (by simp [hk]), hreg⟩
  | drain => cases hq
  | abort k => cases hq
  | live => cases t <;> exact .inl ⟨rfl, hmem⟩
  | _ => exact .inl ⟨rfl, hmem⟩

end Site
end Linkcut

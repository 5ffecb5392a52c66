import Linkcut.Proofs.Scheduler.Linked
import Mathlib.Data.List.Forall2

/-!
Schedulers that differ in nothing but the actions of their timers. Whatever is done to both of them
is answered alike, and the timers that fire are timers of one number, key and instant.
-/

set_option autoImplicit false

namespace Linkcut

variable {κ α β : Type}

/-- Timers of one number, due time and key, with actions that are related. -/
structure Timer.Like (R : α → β → Prop) (t : Timer (Job κ α)) (u : Timer (Job κ β)) : Prop where
  id : u.id = t.id
  due : u.due = t.due
  key : u.job.key = t.job.key
  action : R t.job.action u.job.action

theorem Loop.earliest_like {R : α → β → Prop} {ts : List (Timer (Job κ α))}
    {us : List (Timer (Job κ β))} (h : List.Forall₂ (Timer.Like R) ts us) :
    (earliest ts = none ∧ earliest us = none) ∨
      ∃ d t u, earliest ts = some (d, t) ∧ earliest us = some (d, u) ∧ t.Like R u := by
  induction h with
  | nil => exact .inl ⟨rfl, rfl⟩
  | @cons t u ts us htu _ ih =>
    simp only [earliest, htu.due]
    cases hdue : t.due with
    | none => exact ih
    | some d =>
      rcases ih with ⟨hts, hus⟩ | ⟨e, v, w, hts, hus, hvw⟩
      · exact .inr ⟨d, t, u, by rw [hts], by rw [hus], htu⟩
      · rw [hts, hus]
        by_cases hlt : e < d
        · exact .inr ⟨e, v, w, by simp only [if_pos hlt], by simp only [if_pos hlt], hvw⟩
        · exact .inr ⟨d, t, u, by simp only [if_neg hlt], by simp only [if_neg hlt], htu⟩

namespace Scheduler

/-- Timers are cancelled by their numbers, and nothing else changes. -/
theorem foldl_cancel (ps : List (κ × Nat)) (l : Loop (Job κ α)) :
    ps.foldl (fun l p => l.cancel p.2) l =
      { l with timers := l.timers.filter fun t => !(ps.map Prod.snd).contains t.id } := by
  have hrest : (ps.foldl (fun l p => l.cancel p.2) l).now = l.now ∧
      (ps.foldl (fun l p => l.cancel p.2) l).next = l.next := by
    induction ps generalizing l with
    | nil => exact ⟨rfl, rfl⟩
    | cons p ps ih => exact ih (l.cancel p.2)
  rw [← timers_foldl_cancel, ← hrest.1, ← hrest.2]

structure Like (R : α → β → Prop) (s : Scheduler κ α) (u : Scheduler κ β) : Prop where
  delay : u.delay = s.delay
  pending : u.pending = s.pending
  now : u.loop.now = s.loop.now
  next : u.loop.next = s.loop.next
  timers : List.Forall₂ (Timer.Like R) s.loop.timers u.loop.timers

namespace Like

variable {R : α → β → Prop} {s : Scheduler κ α} {u : Scheduler κ β}

theorem refl {R : α → α → Prop} (hR : ∀ a, R a a) (s : Scheduler κ α) : s.Like R s :=
  ⟨rfl, rfl, rfl, rfl, List.forall₂_same.2 fun t _ => ⟨rfl, rfl, rfl, hR t.job.action⟩⟩

theorem count (h : s.Like R u) : u.count = s.count := by
  simp only [Scheduler.count, h.pending]

/-- Timers are told apart by their numbers. -/
theorem filter (h : s.Like R u) (p : Nat → Bool) : List.Forall₂ (Timer.Like R)
    (s.loop.timers.filter fun t => p t.id) (u.loop.timers.filter fun t => p t.id) := by
  refine List.rel_filter ?_ h.timers
  intro t v htv
  simp only [htv.id]

theorem cancelAll (h : s.Like R u) : s.cancelAll.2.Like R u.cancelAll.2 := by
  have hleft := h.filter fun id => !(s.pending.map Prod.snd).contains id
  simp only [Scheduler.cancelAll, foldl_cancel, h.pending]
  exact ⟨h.delay, rfl, h.now, h.next, hleft⟩

theorem passTo (h : s.Like R u) (limit : Instant) : (s.passTo limit).Like R (u.passTo limit) :=
  ⟨h.delay, h.pending, by simp only [Scheduler.passTo, h.now], h.next, h.timers⟩

theorem enter (h : s.Like R u) (k : κ) {a : α} {b : β} (hab : R a b) :
    (s.enter k a).Like R (u.enter k b) := by
  have hnew : List.Forall₂ (Timer.Like R)
      [⟨s.loop.next, s.delay.wait.map (s.loop.now + ·), ⟨k, a⟩⟩]
      [⟨s.loop.next, s.delay.wait.map (s.loop.now + ·), ⟨k, b⟩⟩] :=
    .cons ⟨rfl, rfl, rfl, hab⟩ .nil
  rw [enter_eq, enter_eq, h.delay, h.now, h.next, h.pending]
  exact ⟨rfl, rfl, h.now, rfl, List.rel_append h.timers hnew⟩

variable [DecidableEq κ]

theorem isArmed (h : s.Like R u) (k : κ) : u.isArmed k = s.isArmed k := by
  simp only [Scheduler.isArmed, h.pending]

theorem deadline? (h : s.Like R u) (k : κ) : u.deadline? k = s.deadline? k := by
  have hdue : ∀ id, ((u.loop.timers.find? (·.id == id)).bind fun t => some t.due) =
      (s.loop.timers.find? (·.id == id)).bind fun t => some t.due := by
    intro id
    have htimers := h.timers
    generalize s.loop.timers = ts at htimers ⊢
    generalize u.loop.timers = us at htimers ⊢
    induction htimers with
    | nil => rfl
    | cons htv _ ih =>
      rw [List.find?_cons, List.find?_cons, htv.id]
      split
      · exact congrArg some htv.due
      · exact ih
  change ((u.pending.find? fun p => decide (p.1 = k)).bind fun p =>
      (u.loop.timers.find? (·.id == p.2)).bind fun t => some t.due) =
    (s.pending.find? fun p => decide (p.1 = k)).bind fun p =>
      (s.loop.timers.find? (·.id == p.2)).bind fun t => some t.due
  simp only [h.pending, hdue]

theorem arm (h : s.Like R u) (k : κ) {a : α} {b : β} (hab : R a b) :
    (u.arm k b).1 = (s.arm k a).1 ∧ (s.arm k a).2.Like R (u.arm k b).2 := by
  have hsame := h.isArmed k
  cases hk : s.isArmed k with
  | true =>
    rw [arm_of_armed hk, arm_of_armed (hsame.trans hk)]
    exact ⟨rfl, h⟩
  | false =>
    cases hf : s.delay.startFault? with
    | some f =>
      rw [arm_of_fault hk hf, arm_of_fault (hsame.trans hk) (h.delay ▸ hf)]
      exact ⟨rfl, h⟩
    | none =>
      rw [arm_of_free hk hf, arm_of_free (hsame.trans hk) (h.delay ▸ hf)]
      exact ⟨rfl, h.enter k hab⟩

theorem letFire (h : s.Like R u) {t : Timer (Job κ α)} {v : Timer (Job κ β)} (htv : t.Like R v)
    (time : Instant) : (s.letFire t time).Like R (u.letFire v time) := by
  have hleft := h.filter fun id => id != t.id
  simp only [Scheduler.letFire, htv.key, htv.id, h.pending]
  exact ⟨h.delay, rfl, rfl, h.next, hleft⟩

/-- Timers fire in pairs. -/
theorem popDue (h : s.Like R u) (limit : Instant) :
    (s.popDue limit = none ∧ u.popDue limit = none) ∨
      ∃ t v time, t.Like R v ∧ s.popDue limit = some (t.job, s.letFire t time) ∧
        u.popDue limit = some (v.job, u.letFire v time) := by
  rcases Loop.earliest_like h.timers with ⟨hs, hu⟩ | ⟨d, t, v, ht, hv, htv⟩
  · left
    simp [popDue_eq_none_iff, hs, hu]
  · by_cases hd : d ≤ limit
    · refine .inr ⟨t, v, max s.loop.now d, htv, popDue_of_earliest ht hd, ?_⟩
      rw [← h.now]
      exact popDue_of_earliest hv hd
    · left
      simp only [popDue_eq_none_iff, ht, hv, Option.some.injEq, Prod.mk.injEq]
      exact ⟨fun e w hew => hew.1 ▸ Nat.not_le.1 hd, fun e w hew => hew.1 ▸ Nat.not_le.1 hd⟩

end Like

end Scheduler
end Linkcut

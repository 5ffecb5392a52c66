import Linkcut.Proofs.Scheduler.Linked

/-!
Timers of one finite delay. They wait in the order in which they come due, so that the passing of
time takes them from the front, each at its own instant.
-/

set_option autoImplicit false

namespace Linkcut

/-- When the timer comes due; zero stands for one that never does. -/
def Timer.deadline {α : Type} (t : Timer α) : Instant := t.due.getD 0

/-- Timers that come due were started. -/
theorem Delay.wait_of_inUnits {d : Delay} {n : Nat} (hs : d.startFault? = none)
    (h : d.inUnits 1000000 = .ok (n : Int)) : d.wait = some n := by
  simp [wait, hs, h]

theorem Delay.startFault?_of_wait {d : Delay} {n : Nat} (h : d.wait = some n) :
    d.startFault? = none := by
  rw [wait] at h
  split at h
  · assumption
  · cases h

namespace Scheduler

variable {κ α : Type} {d : Nat} {s : Scheduler κ α}

/-- Keys with the instants at which their timers come due, the oldest first. -/
def waiting (s : Scheduler κ α) : List (κ × Instant) :=
  s.loop.timers.map fun t => (t.job.key, t.deadline)

/-- All timers were started with the delay `d`, and none of them is late. -/
structure Timed (d : Nat) (s : Scheduler κ α) : Prop where
  linked : s.Linked
  wait : s.delay.wait = some d
  due : ∀ t ∈ s.loop.timers, t.due = some t.deadline
  near : ∀ t ∈ s.loop.timers, s.now ≤ t.deadline ∧ t.deadline ≤ s.now + d
  sorted : s.loop.timers.Pairwise fun t u => t.deadline ≤ u.deadline

theorem Timed.of_empty (hp : s.pending = []) (ht : s.loop.timers = [])
    (hw : s.delay.wait = some d) : s.Timed d :=
  ⟨.of_empty hp ht, hw, by simp [ht], by simp [ht], by simp [ht]⟩

theorem Timed.cancelAll (h : s.Timed d) : s.cancelAll.2.Timed d :=
  .of_empty rfl h.linked.timers_cancelAll h.wait

theorem Timed.waiting_cancelAll (h : s.Timed d) : s.cancelAll.2.waiting = [] := by
  simp [waiting, h.linked.timers_cancelAll]

/-- The clock can be set to an instant that no timer precedes. -/
theorem Timed.passTo (h : s.Timed d) {limit : Instant}
    (hl : ∀ w ∈ s.waiting, limit ≤ w.2) : (s.passTo limit).Timed d where
  linked := h.linked.passTo limit
  wait := h.wait
  due := h.due
  near t ht := by
    have hw := hl (t.job.key, t.deadline) (List.mem_map.2 ⟨t, ht, rfl⟩)
    obtain ⟨hlow, hhigh⟩ := h.near t ht
    refine ⟨Nat.max_le.2 ⟨hlow, hw⟩, Nat.le_trans hhigh ?_⟩
    exact Nat.add_le_add_right (Nat.le_max_left _ _) d
  sorted := h.sorted

theorem Timed.waiting_sorted (h : s.Timed d) : s.waiting.Pairwise fun v w => v.2 ≤ w.2 :=
  List.pairwise_map.2 h.sorted

theorem Timed.near_waiting (h : s.Timed d) :
    ∀ w ∈ s.waiting, s.now ≤ w.2 ∧ w.2 ≤ s.now + d := by
  intro w hw
  obtain ⟨t, ht, rfl⟩ := List.mem_map.1 hw
  exact h.near t ht

variable {k : κ} {a : α} {limit : Instant}

/-- The timer at the front comes due first. -/
theorem Timed.front (h : s.Timed d) {e : Instant} {ws : List (κ × Instant)}
    (hw : s.waiting = (k, e) :: ws) :
    ∃ t ts, s.loop.timers = t :: ts ∧ t.job.key = k ∧ t.deadline = e ∧
      ts.map (fun t => (t.job.key, t.deadline)) = ws ∧
      Loop.earliest s.loop.timers = some (e, t) := by
  obtain ⟨t, ts, ht, hk, hws⟩ := List.map_eq_cons_iff.1 hw
  obtain ⟨hkey, hdue⟩ := Prod.mk.inj hk
  refine ⟨t, ts, ht, hkey, hdue, hws, ?_⟩
  have hd := h.due t (by simp [ht])
  have hs := h.sorted
  rw [ht] at hs ⊢
  rw [hdue] at hd
  refine Loop.earliest_of_sorted hd fun u hu f hf => ?_
  have hle := (List.pairwise_cons.1 hs).1 u hu
  rw [h.due u (by simp [ht, hu])] at hf
  rw [← hdue, ← Option.some.inj hf]
  exact hle

theorem Timed.front_of_earliest (h : s.Timed d) {e : Instant} {t : Timer (Job κ α)}
    (ht : Loop.earliest s.loop.timers = some (e, t)) :
    ∃ ts, s.loop.timers = t :: ts ∧ e = t.deadline := by
  cases hts : s.loop.timers with
  | nil =>
    rw [hts] at ht
    cases ht
  | cons u us =>
    have hw : s.waiting = (u.job.key, u.deadline) :: us.map fun t => (t.job.key, t.deadline) := by
      simp [waiting, hts]
    obtain ⟨v, vs, hvs, _, hdue, _, hfirst⟩ := h.front hw
    rw [ht] at hfirst
    obtain ⟨he, rfl⟩ := Prod.mk.inj (Option.some.inj hfirst)
    rw [hts] at hvs
    obtain ⟨rfl, rfl⟩ := List.cons.inj hvs
    exact ⟨_, rfl, he⟩

/-- Where nothing is due by `limit`, all timers come due after it. -/
theorem Timed.late (h : s.Timed d)
    (hlate : ∀ e t, Loop.earliest s.loop.timers = some (e, t) → limit < e) :
    ∀ t ∈ s.loop.timers, limit < t.deadline := by
  intro t ht
  have hdue := h.due t ht
  cases hfirst : Loop.earliest s.loop.timers with
  | none =>
    rw [Loop.earliest_eq_none hfirst t ht] at hdue
    cases hdue
  | some first =>
    obtain ⟨e, u⟩ := first
    have hle := (Loop.earliest_spec hfirst).2.2 t ht _ hdue
    exact Nat.lt_of_lt_of_le (hlate e u hfirst) hle

variable [DecidableEq κ]

/-- A timer that is started now comes due after those that wait. -/
theorem Timed.enter (h : s.Timed d) (hk : s.isArmed k = false) : (s.enter k a).Timed d := by
  have hlink := h.linked.enter (a := a) hk
  rw [enter_eq] at hlink ⊢
  simp only [h.wait, Option.map_some] at hlink ⊢
  refine ⟨hlink, h.wait, ?_, ?_, ?_⟩
  · intro t ht
    rcases List.mem_append.1 ht with ht | ht
    · exact h.due t ht
    · rw [List.mem_singleton.1 ht]
      rfl
  · intro t ht
    rcases List.mem_append.1 ht with ht | ht
    · exact h.near t ht
    · rw [List.mem_singleton.1 ht]
      exact ⟨Nat.le_add_right _ d, Nat.le_refl _⟩
  · refine List.pairwise_append.2 ⟨h.sorted, by simp, fun t ht u hu => ?_⟩
    rw [List.mem_singleton.1 hu]
    exact (h.near t ht).2

theorem Timed.arm (h : s.Timed d) : (s.arm k a).2.Timed d :=
  arm_invariant (Timed d) h fun hk _ => h.enter hk

theorem Timed.arm_eq (h : s.Timed d) (hk : s.isArmed k = false) :
    s.arm k a = (.ok true, s.enter k a) :=
  arm_of_free hk (Delay.startFault?_of_wait h.wait)

theorem Timed.waiting_arm (h : s.Timed d) (hk : s.isArmed k = false) :
    (s.arm k a).2.waiting = s.waiting ++ [(k, s.now + d)] := by
  rw [h.arm_eq hk, enter_eq]
  simp [waiting, h.wait, Timer.deadline, now]

theorem Timed.mem_waiting_arm (h : s.Timed d) {w : κ × Instant} (hw : w ∈ s.waiting) :
    w ∈ (s.arm k a).2.waiting := by
  cases hk : s.isArmed k with
  | true => rw [arm_of_armed hk]; exact hw
  | false =>
    rw [h.waiting_arm hk]
    exact List.mem_append_left _ hw

/-- Whatever an arm call answers, a timer of its key waits afterwards. -/
theorem Timed.waits_arm (h : s.Timed d) : ∃ e ≤ s.now + d, (k, e) ∈ (s.arm k a).2.waiting := by
  cases hk : s.isArmed k with
  | true =>
    obtain ⟨t, ht, hkey⟩ := List.mem_map.1 (h.linked.isArmed_iff.1 hk)
    have hw : (k, t.deadline) ∈ s.waiting := List.mem_map.2 ⟨t, ht, by rw [hkey]⟩
    rw [arm_of_armed hk]
    exact ⟨t.deadline, (h.near t ht).2, hw⟩
  | false =>
    rw [h.waiting_arm hk]
    exact ⟨s.now + d, Nat.le_refl _, by simp⟩

theorem popDue_of_waiting_nil (hw : s.waiting = []) : s.popDue limit = none := by
  have ht : s.loop.timers = [] := List.map_eq_nil_iff.1 hw
  simp [popDue, Loop.popDue, ht, Loop.earliest]

/-- It starts to fire at its own instant, and leaves those behind it. -/
theorem Timed.letFire (h : s.Timed d) {t : Timer (Job κ α)} {ts : List (Timer (Job κ α))}
    (ht : s.loop.timers = t :: ts) :
    (s.letFire t t.deadline).Timed d ∧ (s.letFire t t.deadline).loop.timers = ts ∧
      max s.loop.now t.deadline = t.deadline := by
  have hfirst : t ∈ s.loop.timers := by simp [ht]
  have hlink := (h.linked.letFire hfirst t.deadline).1
  have hids := h.linked.ids
  have hsorted := h.sorted
  rw [ht] at hids hsorted
  have hrest : (s.letFire t t.deadline).loop.timers = ts := by
    simp only [Scheduler.letFire]
    rw [ht, List.filter_cons_of_neg (by simp)]
    refine List.filter_eq_self.2 fun u hu => ?_
    have hne : u.id ≠ t.id := fun e => (List.nodup_cons.1 hids).1 (List.mem_map.2 ⟨u, hu, e⟩)
    simp [hne]
  refine ⟨⟨hlink, h.wait, ?_, ?_, ?_⟩, hrest, Nat.max_eq_right (h.near t hfirst).1⟩
  · intro u hu
    rw [hrest] at hu
    exact h.due u (by simp [ht, hu])
  · intro u hu
    rw [hrest] at hu
    refine ⟨(List.pairwise_cons.1 hsorted).1 u hu, ?_⟩
    have hlate := (h.near u (by simp [ht, hu])).2
    have hpast := (h.near t hfirst).1
    exact Nat.le_trans hlate (Nat.add_le_add_right hpast d)
  · rw [hrest]
    exact (List.pairwise_cons.1 hsorted).2

/-- It runs at its own instant, once that is reached. -/
theorem Timed.popDue_of_reached (h : s.Timed d) {e : Instant} {ws : List (κ × Instant)}
    (hw : s.waiting = (k, e) :: ws) (hl : e ≤ limit) :
    ∃ a u, s.popDue limit = some (⟨k, a⟩, u) ∧ u.Timed d ∧ u.waiting = ws ∧ u.now = e := by
  obtain ⟨t, ts, ht, rfl, rfl, rfl, hfirst⟩ := h.front hw
  obtain ⟨htimed, hrest, hnow⟩ := h.letFire ht
  have hpop := popDue_of_earliest hfirst hl
  rw [hnow] at hpop
  exact ⟨t.job.action, _, hpop, htimed, by simp [waiting, hrest], rfl⟩

theorem Timed.popDue_of_early (h : s.Timed d) {e : Instant} {ws : List (κ × Instant)}
    (hw : s.waiting = (k, e) :: ws) (hl : ¬ e ≤ limit) : s.popDue limit = none := by
  obtain ⟨t, ts, _, _, _, _, hfirst⟩ := h.front hw
  simp only [popDue, Loop.popDue, hfirst, if_neg hl]

end Scheduler
end Linkcut

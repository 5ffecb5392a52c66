import Linkcut.Proofs.Scheduler.Linked
import Mathlib.Data.List.Perm.Basic

/-!
What is due. Whatever the delay, and even where it never ends, a scheduler is told by its pending
keys with their deadlines: arming adds one of them, a cancellation takes all of them away, and a
timer that fires takes its own.
-/

set_option autoImplicit false

namespace Linkcut.Scheduler

variable {κ α : Type}

/-- Pending keys with their deadlines, the oldest first. -/
def dues (s : Scheduler κ α) : List (κ × Option Instant) :=
  s.loop.timers.map fun t => (t.job.key, t.due)

/-- Whether a deadline comes by `limit`. -/
def reached (limit : Instant) (d : Option Instant) : Bool := d.any fun d => decide (d ≤ limit)

theorem reached_iff {limit : Instant} {d : Option Instant} :
    reached limit d ↔ ∃ e ≤ limit, d = some e := by
  simp [reached, Option.any_eq_true, and_comm]

/-- How many timers fire by `limit`. -/
def dueCount (s : Scheduler κ α) (limit : Instant) : Nat :=
  s.dues.countP fun w => reached limit w.2

variable {s u : Scheduler κ α} {k : κ} {a : α} {limit : Instant}

theorem dueCount_le : s.dueCount limit ≤ s.loop.timers.length :=
  Nat.le_trans List.countP_le_length (Nat.le_of_eq (by simp [dues]))

theorem Linked.nodup_dues (h : s.Linked) : (s.dues.map Prod.fst).Nodup := by
  have hkeys : s.dues.map Prod.fst = s.loop.timers.map (·.job.key) := by simp [dues]
  rw [hkeys]
  exact h.keys

theorem now_cancelAll : s.cancelAll.2.now = s.now := by
  have hnow : ∀ (ps : List (κ × Nat)) (l : Loop (Job κ α)),
      (ps.foldl (fun l p => l.cancel p.2) l).now = l.now := by
    intro ps
    induction ps with
    | nil => intro l; rfl
    | cons p ps ih => intro l; exact ih _
  exact hnow s.pending s.loop

variable [DecidableEq κ]

theorem Linked.isArmed_iff_dues (h : s.Linked) : s.isArmed k ↔ k ∈ s.dues.map Prod.fst := by
  rw [h.isArmed_iff]
  simp [dues]

theorem Linked.deadline?_eq_some (h : s.Linked) {d : Option Instant} :
    s.deadline? k = some d ↔ (k, d) ∈ s.dues := by
  constructor
  · intro hd
    by_cases harmed : s.isArmed k
    · obtain ⟨t, ht, rfl⟩ := List.mem_map.1 (h.isArmed_iff.1 harmed)
      rw [h.deadline?_of_timer ht] at hd
      rw [← Option.some.inj hd]
      exact List.mem_map.2 ⟨t, ht, rfl⟩
    · rw [deadline?_of_not_armed (by simpa using harmed)] at hd
      cases hd
  · intro hin
    obtain ⟨t, ht, heq⟩ := List.mem_map.1 hin
    obtain ⟨rfl, rfl⟩ := Prod.mk.inj heq
    exact h.deadline?_of_timer ht

theorem Linked.isArmed_eq (h : s.Linked) : s.isArmed k = (s.deadline? k).isSome := by
  cases harmed : s.isArmed k with
  | false => rw [deadline?_of_not_armed harmed]; rfl
  | true =>
    obtain ⟨⟨j, d⟩, hin, rfl⟩ := List.mem_map.1 (h.isArmed_iff_dues.1 harmed)
    rw [h.deadline?_eq_some.2 hin]
    rfl

/-- Schedulers with the same deadlines have the same timers, in whatever order. -/
theorem Linked.dues_perm (h : s.Linked) (hu : u.Linked)
    (heq : ∀ k, u.deadline? k = s.deadline? k) : u.dues.Perm s.dues := by
  refine (List.perm_ext_iff_of_nodup hu.nodup_dues.of_map h.nodup_dues.of_map).2 fun w => ?_
  rw [← hu.deadline?_eq_some, heq, h.deadline?_eq_some]

theorem Linked.deadline?_enter (h : s.Linked) (hk : s.isArmed k = false) (j : κ) :
    (s.enter k a).deadline? j =
      if j = k then some (s.delay.wait.map (s.now + ·)) else s.deadline? j := by
  have hdues : (s.enter k a).dues = s.dues ++ [(k, s.delay.wait.map (s.now + ·))] := by
    rw [enter_eq]
    simp [dues, now]
  refine Option.ext fun d => ?_
  rw [(h.enter hk).deadline?_eq_some, hdues, List.mem_append, ← h.deadline?_eq_some]
  by_cases hj : j = k
  · simp [hj, deadline?_of_not_armed hk, eq_comm]
  · simp [hj]

theorem Linked.deadline?_arm (h : s.Linked) (j : κ) : (s.arm k a).2.deadline? j =
    if j = k ∧ s.isArmed k = false ∧ s.delay.starts then some (s.delay.wait.map (s.now + ·))
    else s.deadline? j := by
  cases hk : s.isArmed k with
  | true => simp [arm_of_armed hk]
  | false =>
    cases hf : s.delay.startFault? with
    | some f => simp [arm_of_fault hk hf, Delay.starts_of_fault hf]
    | none => simp [arm_of_free hk hf, h.deadline?_enter hk, Delay.starts_iff.2 hf]

theorem deadline?_cancelAll : s.cancelAll.2.deadline? k = none := deadline?_of_not_armed rfl

/-- A timer that fires was due, and takes its own entry with it. -/
theorem Linked.dues_popDue (h : s.Linked) {job : Job κ α} (hp : s.popDue limit = some (job, u)) :
    ∃ d ≤ limit, s.dues.Perm ((job.key, some d) :: u.dues) ∧ u.now = max s.now d := by
  obtain ⟨d, t, hfirst, hd, rfl, rfl⟩ := popDue_eq_some hp
  obtain ⟨ht, hdue, _⟩ := Loop.earliest_spec hfirst
  have htimers := perm_filter_ne (fun v : Timer (Job κ α) => v.id) h.ids ht
  have hsame : s.loop.timers.filter (fun v => !decide (v.id = t.id)) =
      s.loop.timers.filter (·.id != t.id) :=
    List.filter_congr fun v _ => by by_cases he : v.id = t.id <;> simp [he]
  rw [hsame] at htimers
  have hdues := htimers.map fun v => (v.job.key, v.due)
  rw [List.map_cons, hdue] at hdues
  exact ⟨d, hd, hdues, rfl⟩

theorem Linked.dueCount_popDue (h : s.Linked) {job : Job κ α}
    (hp : s.popDue limit = some (job, u)) : u.dueCount limit + 1 = s.dueCount limit := by
  obtain ⟨d, hd, hperm, _⟩ := h.dues_popDue hp
  have hdue : reached limit (some d) := reached_iff.2 ⟨d, hd, rfl⟩
  simp [dueCount, hperm.countP_eq, hdue]

/-- The key whose timer fires was due, and the other ones keep their deadlines. -/
theorem Linked.deadline?_popDue (h : s.Linked) {job : Job κ α}
    (hp : s.popDue limit = some (job, u)) :
    (s.deadline? job.key).any (reached limit) ∧
      ∀ j, u.deadline? j = if j = job.key then none else s.deadline? j := by
  obtain ⟨d, hd, hperm, _⟩ := h.dues_popDue hp
  have hlink := (h.popDue hp).1
  have hkeys := (hperm.map Prod.fst).nodup h.nodup_dues
  have hgone : job.key ∉ u.dues.map Prod.fst := (List.nodup_cons.1 hkeys).1
  refine ⟨?_, fun j => ?_⟩
  · rw [h.deadline?_eq_some.2 (hperm.mem_iff.2 List.mem_cons_self)]
    exact reached_iff.2 ⟨d, hd, rfl⟩
  · split
    · rename_i hj
      rw [hj]
      refine deadline?_of_not_armed (Bool.not_eq_true _ ▸ fun harmed => hgone ?_)
      exact hlink.isArmed_iff_dues.1 harmed
    · rename_i hj
      refine Option.ext fun e => ?_
      rw [hlink.deadline?_eq_some, h.deadline?_eq_some, hperm.mem_iff]
      simp [hj]

theorem popDue_eq_none_iff_dueCount : s.popDue limit = none ↔ s.dueCount limit = 0 := by
  rw [popDue_eq_none_iff, dueCount, List.countP_eq_zero]
  constructor
  · intro hlate w hw hdue
    obtain ⟨t, ht, rfl⟩ := List.mem_map.1 hw
    obtain ⟨d, hd, htd⟩ := reached_iff.1 hdue
    cases hfirst : Loop.earliest s.loop.timers with
    | none =>
      rw [Loop.earliest_eq_none hfirst t ht] at htd
      cases htd
    | some first =>
      obtain ⟨e, v⟩ := first
      have hearly : e ≤ d := (Loop.earliest_spec hfirst).2.2 t ht d htd
      exact Nat.not_le.2 (hlate e v hfirst) (Nat.le_trans hearly hd)
  · intro hnone d t hfirst
    obtain ⟨ht, hdue, _⟩ := Loop.earliest_spec hfirst
    refine Nat.not_le.1 fun hd => hnone (t.job.key, t.due) (List.mem_map.2 ⟨t, ht, rfl⟩) ?_
    exact reached_iff.2 ⟨d, hd, hdue⟩

theorem Linked.not_reached (h : s.Linked) (hnone : s.dueCount limit = 0) (k : κ) :
    (s.deadline? k).any (reached limit) = false := by
  rw [Option.any_eq_false]
  intro d hd
  exact Bool.not_eq_true _ ▸ List.countP_eq_zero.1 hnone (k, d) (h.deadline?_eq_some.1 hd)

/-- Two schedulers that agree on the clock, on the delay, and on some of the keys. -/
structure Agrees (p : κ → Prop) (s s' : Scheduler κ α) : Prop where
  linked : s.Linked
  linked' : s'.Linked
  delay : s'.delay = s.delay
  now : s'.now = s.now
  deadlines : ∀ k, p k → s'.deadline? k = s.deadline? k

namespace Agrees

variable {p : κ → Prop} {s' s'' : Scheduler κ α}

theorem refl (h : s.Linked) : Agrees p s s := ⟨h, h, rfl, rfl, fun _ _ => rfl⟩

theorem trans (h : Agrees p s s') (h' : Agrees p s' s'') : Agrees p s s'' :=
  ⟨h.linked, h'.linked', h'.delay.trans h.delay, h'.now.trans h.now,
    fun k hk => (h'.deadlines k hk).trans (h.deadlines k hk)⟩

theorem isArmed (h : Agrees p s s') (hk : p k) : s'.isArmed k = s.isArmed k := by
  rw [h.linked.isArmed_eq, h.linked'.isArmed_eq, h.deadlines k hk]

theorem arm (h : Agrees p s s') (hk : p k) (a : α) : Agrees p (s.arm k a).2 (s'.arm k a).2 where
  linked := h.linked.arm
  linked' := h.linked'.arm
  delay := by rw [delay_arm, delay_arm, h.delay]
  now := by rw [now_arm, now_arm, h.now]
  deadlines j hj := by
    rw [h.linked.deadline?_arm, h.linked'.deadline?_arm, h.isArmed hk, h.deadlines j hj, h.delay,
      h.now]

theorem arm_other (h : Agrees p s s') (hk : ¬ p k) (a : α) : Agrees p (s.arm k a).2 s' where
  linked := h.linked.arm
  linked' := h.linked'
  delay := by rw [delay_arm, h.delay]
  now := by rw [now_arm, h.now]
  deadlines j hj := by
    have hne : j ≠ k := fun e => hk (e ▸ hj)
    rw [h.linked.deadline?_arm, if_neg fun e => hne e.1]
    exact h.deadlines j hj

theorem cancelAll (h : Agrees p s s') : Agrees p s.cancelAll.2 s'.cancelAll.2 where
  linked := h.linked.cancelAll
  linked' := h.linked'.cancelAll
  delay := h.delay
  now := by rw [now_cancelAll, now_cancelAll, h.now]
  deadlines _ _ := by rw [deadline?_cancelAll, deadline?_cancelAll]

end Agrees

/-- Keys that come to be pending at one instant have the same deadline. -/
theorem agrees_arm_arm (h : s.Linked) (k j : κ) (a b : α) :
    Agrees (fun _ => True) ((s.arm k a).2.arm j b).2 ((s.arm j b).2.arm k a).2 where
  linked := h.arm.arm
  linked' := h.arm.arm
  delay := by simp only [delay_arm]
  now := by simp only [now_arm]
  deadlines i _ := by
    rw [h.arm.deadline?_arm, h.arm.deadline?_arm, h.deadline?_arm, h.deadline?_arm]
    simp only [isArmed_arm, delay_arm, now_arm]
    by_cases hi : i = k
    · subst hi
      by_cases hj : i = j
      · simp [hj]
      · simp [hj]
    · by_cases hj : i = j
      · subst hj
        simp [hi]
      · simp [hi, hj]

end Linkcut.Scheduler

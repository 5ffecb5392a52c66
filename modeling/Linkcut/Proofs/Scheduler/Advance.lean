import Linkcut.Proofs.Scheduler.Chronicle
import Linkcut.Proofs.Scheduler.Dues

/-!
What `Agenda.obey` does is a run of the punctual policy. Every timer that fires leaves less work
behind than there was before it, so that the passing of time comes to its end, and leaves nothing
that is due.
-/

set_option autoImplicit false

namespace Linkcut

/-- The work of timers: the sizes of their actions. -/
def Timer.work (ts : List (Timer (Job Key Task))) : Nat :=
  ts.foldr (fun t n => t.job.action.action.size + n) 0

namespace Action

theorem size_pos (action : Action) : 0 < action.size := by
  cases action
  rw [size]
  omega

theorem size_eq (action : Action) : action.size = 1 + sizeAll action.steps := by
  cases action
  rw [size]
  rfl

end Action

namespace Timer

variable (t : Timer (Job Key Task)) (ts us : List (Timer (Job Key Task)))

@[simp] theorem work_nil : work [] = 0 := rfl

@[simp] theorem work_cons : work (t :: ts) = t.job.action.action.size + work ts := rfl

theorem work_append : work (ts ++ us) = work ts + work us := by
  induction ts with
  | nil => simp
  | cons t ts ih =>
    simp only [List.cons_append, work_cons, ih]
    omega

theorem work_filter_le (p : Timer (Job Key Task) → Bool) : work (ts.filter p) ≤ work ts := by
  induction ts with
  | nil => simp
  | cons t ts ih =>
    by_cases hp : p t
    · rw [List.filter_cons_of_pos hp, work_cons, work_cons]
      omega
    · rw [List.filter_cons_of_neg hp, work_cons]
      omega

theorem work_filter_add_le (p : Timer (Job Key Task) → Bool) {t : Timer (Job Key Task)}
    {ts : List (Timer (Job Key Task))} (ht : t ∈ ts) (hp : p t = false) :
    work (ts.filter p) + t.job.action.action.size ≤ work ts := by
  obtain ⟨us, vs, rfl⟩ := List.append_of_mem ht
  have hus := work_filter_le us p
  have hvs := work_filter_le vs p
  rw [List.filter_append, List.filter_cons_of_neg (by simp [hp]), work_append, work_append,
    work_cons]
  omega

end Timer

namespace Agenda

theorem weight_eq (a : Agenda) : a.weight = Timer.work a.scheduler.loop.timers := rfl

section

variable (a : Agenda)

theorem weight_arm (s : Subject) (action : Action) :
    (a.arm s action).2.weight ≤ a.weight + action.size := by
  unfold arm
  cases s.key with
  | error f => exact Nat.le_add_right _ _
  | ok k =>
    refine Scheduler.arm_invariant
      (fun u => Timer.work u.loop.timers ≤ a.weight + action.size) (Nat.le_add_right _ _) ?_
    intro _ _
    simp [Scheduler.enter_eq, Timer.work_append, weight_eq]

theorem weight_cancelAll : a.cancelAll.2.weight ≤ a.weight := by
  rw [weight_eq, weight_eq]
  simp only [cancelAll, Scheduler.cancelAll, Scheduler.timers_foldl_cancel]
  exact Timer.work_filter_le _ _

theorem weight_step (s : Step) : (a.step s).2.weight ≤ a.weight + Action.stepSize s := by
  cases s with
  | arm word subject action =>
    have harm := weight_arm a subject action
    rw [step, Action.stepSize]
    rcases hr : a.arm subject action with ⟨_ | _, b⟩ <;> rw [hr] at harm <;> exact harm
  | cancelAll => exact weight_cancelAll a
  | probe subject =>
    rw [step]
    split <;> exact Nat.le_add_right _ _

theorem weight_steps (ss : List Step) :
    (a.steps ss).2.weight ≤ a.weight + Action.sizeAll ss := by
  induction ss generalizing a with
  | nil => exact Nat.le_add_right _ _
  | cons s ss ih =>
    have hstep := weight_step a s
    rw [steps, Action.sizeAll]
    rcases hr : a.step s with ⟨_ | f, b⟩ <;> rw [hr] at hstep
    · have hrest := ih b
      dsimp only at hstep hrest ⊢
      omega
    · dsimp only at hstep ⊢
      omega

@[simp] theorem scheduler_settle (shown : Value) (fault : Option Fault) :
    (a.settle shown fault).scheduler = a.scheduler := by
  unfold settle
  split
  · rfl
  · split <;> rfl

/-- An action starts timers for less work than it was itself. -/
theorem weight_fire (job : Job Key Task) :
    (a.fire job).2.weight + 1 ≤ a.weight + job.action.action.size := by
  have hsteps := weight_steps (a.note (.ran job.action.action.label a.scheduler.now))
    job.action.action.steps
  have hnote : (a.note (.ran job.action.action.label a.scheduler.now)).weight = a.weight := rfl
  rw [hnote] at hsteps
  have hsize := job.action.action.size_eq
  rw [fire_snd, run_eq, weight_eq, scheduler_settle, ← weight_eq]
  dsimp only
  omega

theorem weight_letFire {t : Timer (Job Key Task)} (time : Instant)
    (ht : t ∈ a.scheduler.loop.timers) :
    { a with scheduler := a.scheduler.letFire t time }.weight + t.job.action.action.size ≤
      a.weight := by
  rw [weight_eq, weight_eq]
  exact Timer.work_filter_add_le _ ht (by simp)

/-- Nothing that is due is left. -/
theorem popDue_fireDue (limit : Instant) (n : Nat) (hn : a.weight ≤ n) :
    (fireDue limit n a).2.scheduler.popDue limit = none := by
  induction n generalizing a with
  | zero =>
    -- a timer that waits would be some work
    have hnone : a.scheduler.loop.timers = [] := by
      cases ht : a.scheduler.loop.timers with
      | nil => rfl
      | cons t ts =>
        have hpos := t.job.action.action.size_pos
        rw [weight_eq, ht] at hn
        rw [Timer.work_cons] at hn
        omega
    rw [fireDue, Scheduler.popDue_eq_none_iff, hnone]
    intro d t ht
    cases ht
  | succ n ih =>
    rw [fireDue]
    cases hp : a.scheduler.popDue limit with
    | none => exact hp
    | some popped =>
      obtain ⟨job, u⟩ := popped
      obtain ⟨d, t, ht, _, rfl, rfl⟩ := Scheduler.popDue_eq_some hp
      refine ih _ ?_
      have hless := a.weight_letFire (max a.scheduler.loop.now d) (Loop.earliest_spec ht).1
      have hfire := weight_fire
        { a with scheduler := a.scheduler.letFire t (max a.scheduler.loop.now d) } t.job
      omega

end

section

variable (a : Agenda)

theorem now_step (s : Step) : (a.step s).2.scheduler.now = a.scheduler.now := by
  cases s with
  | arm word subject action =>
    have harm : (a.arm subject action).2.scheduler.now = a.scheduler.now := by
      unfold arm
      split
      · rfl
      · exact Scheduler.now_arm
    rw [step]
    rcases hr : a.arm subject action with ⟨_ | _, b⟩ <;> rw [hr] at harm <;> exact harm
  | cancelAll => exact Scheduler.now_cancelAll
  | probe subject =>
    rw [step]
    split <;> rfl

theorem now_steps (ss : List Step) : (a.steps ss).2.scheduler.now = a.scheduler.now := by
  induction ss generalizing a with
  | nil => rfl
  | cons s ss ih =>
    have hstep := now_step a s
    rw [steps]
    rcases hr : a.step s with ⟨_ | f, b⟩ <;> rw [hr] at hstep
    · exact (ih b).trans hstep
    · exact hstep

theorem now_fire (job : Job Key Task) : (a.fire job).2.scheduler.now = a.scheduler.now := by
  rw [fire_snd, run_eq, scheduler_settle]
  exact now_steps _ _

theorem now_fireDue {limit : Instant} (h : a.scheduler.now ≤ limit) (n : Nat) :
    (fireDue limit n a).2.scheduler.now ≤ limit := by
  induction n generalizing a with
  | zero => exact h
  | succ n ih =>
    rw [fireDue]
    cases hp : a.scheduler.popDue limit with
    | none => exact h
    | some popped =>
      obtain ⟨job, u⟩ := popped
      obtain ⟨d, t, _, hd, rfl, rfl⟩ := Scheduler.popDue_eq_some hp
      refine ih _ ?_
      rw [now_fire]
      exact Nat.max_le.2 ⟨h, hd⟩

theorem now_advance (micros : Nat) :
    (a.advance micros).2.scheduler.now = a.scheduler.now + micros :=
  Nat.max_eq_right (now_fireDue a (Nat.le_add_right _ _) _)

end

section

variable (a : Agenda) (past : List Occurrence)

theorem steps_advance (micros : Nat) : Steps .punctual ⟨a, none, past⟩
    ⟨(a.advance micros).2, none, past ++ a.advancePast micros⟩ := by
  have hdue := steps_fireDue a past (a.scheduler.now + micros) a.weight
  have hnone := a.popDue_fireDue (a.scheduler.now + micros) a.weight (Nat.le_refl _)
  exact hdue.tail (.wait _ _ _ (Scheduler.popDue_eq_none_iff.1 hnone))

theorem steps_obey (k : Command) :
    Steps .punctual ⟨a, none, past⟩ ⟨(a.obey k).2, none, past ++ a.obeyPast k⟩ := by
  cases k with
  | arm s action => exact .single (.arm ⟨a, none, past⟩ s action)
  | armOutside s =>
    rw [obeyPast, List.append_nil]
    exact .refl
  | advance micros => exact steps_advance a past micros
  | cancelAll => exact .single (.cancelAll ⟨a, none, past⟩)

end

end Agenda
end Linkcut

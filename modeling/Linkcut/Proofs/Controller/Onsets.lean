import Linkcut.Proofs.Controller.Steps

/-!
Sweeps as they begin along a run, each with the controller as it is at that moment. The controller
keeps a record of every one of them (`swept_run`).
-/

set_option autoImplicit false

namespace Linkcut.Controller

/-- A sweep as it begins. -/
structure Onset where
  /-- The session whose timer runs. -/
  sid : Sid
  start : Controller

namespace Onset

def time (o : Onset) : Instant := o.start.scheduler.now

def sweep (o : Onset) : Sweep :=
  ⟨o.sid, o.time, (o.start.site.registry o.start.manager.registry).members⟩

/-- The controller when the timer has run. -/
def after (o : Onset) : Controller := (o.start.fire o.sid).2

end Onset

/-- The sweeps that are due by `limit`, `count` sweeps at most. -/
def onsetsDue (limit : Instant) : Nat → Controller → List Onset
  | 0, _ => []
  | count + 1, c =>
    match c.scheduler.popDue limit with
    | none => []
    | some (job, scheduler) =>
      ⟨job.key, { c with scheduler }⟩ ::
        onsetsDue limit count ({ c with scheduler }.fire job.key).2

def onsetsOf (c : Controller) : Command → List Onset
  | .advance micros => onsetsDue (c.scheduler.now + micros) c.scheduler.loop.timers.length c
  | _ => []

/-- The sweeps that begin while commands are obeyed. -/
def onsets (c : Controller) : List Command → List Onset
  | [] => []
  | k :: ks => c.onsetsOf k ++ (c.step k).2.onsets ks

section

variable (c : Controller)

theorem swept_fireDue (limit : Instant) (n : Nat) :
    (c.fireDue limit n).2.swept.reverse =
      c.swept.reverse ++ (onsetsDue limit n c).map Onset.sweep := by
  induction n generalizing c with
  | zero => exact (List.append_nil _).symm
  | succ n ih =>
    rw [fireDue, onsetsDue]
    cases hp : c.scheduler.popDue limit with
    | none => exact (List.append_nil _).symm
    | some popped =>
      obtain ⟨job, u⟩ := popped
      have hfire : ({ c with scheduler := u }.fire job.key).2.swept =
          (⟨job.key, { c with scheduler := u }⟩ : Onset).sweep :: c.swept :=
        (aside_fire { c with scheduler := u } job.key).swept
      have hrest := ih ({ c with scheduler := u }.fire job.key).2
      rw [hfire, List.reverse_cons, List.append_assoc] at hrest
      exact hrest

theorem swept_step (k : Command) :
    (c.step k).2.swept.reverse = c.swept.reverse ++ (c.onsetsOf k).map Onset.sweep := by
  have hnone : c.swept.reverse = c.swept.reverse ++ ([] : List Onset).map Onset.sweep :=
    (List.append_nil _).symm
  cases k with
  | connect | release | disconnect => exact (congrArg _ (aside_step c rfl).swept).trans hnone
  | signal sid => exact (congrArg _ (aside_signal c sid).swept).trans hnone
  | request q => exact hnone
  | advance micros => exact swept_fireDue c _ _
  | shutdown => exact (congrArg _ (aside_shutdown c).swept).trans hnone

/-- The records of sweeps tell the sweeps that began. -/
theorem swept_run (ks : List Command) :
    (c.run ks).2.swept.reverse = c.swept.reverse ++ (c.onsets ks).map Onset.sweep := by
  induction ks generalizing c with
  | nil => exact (List.append_nil _).symm
  | cons k ks ih =>
    have hrest := ih (c.step k).2
    rw [swept_step, List.append_assoc, ← List.map_append] at hrest
    exact hrest

end

end Linkcut.Controller

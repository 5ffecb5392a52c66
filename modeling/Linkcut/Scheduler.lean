import Linkcut.Log.Entry
import Linkcut.Loop

/-!
The scheduler: at most one pending timer per key, all with the same delay. A timer leaves the
pending keys before its job runs, so a job may arm its own key again.
-/

set_option autoImplicit false

namespace Linkcut

/-- A waiting time in seconds, as it was given. -/
inductive Delay where
  | flag (b : Bool)
  | whole (n : Nat)
  | real (x : Double)
  deriving DecidableEq, Repr, Inhabited

namespace Delay

def toValue : Delay → Value
  | flag b => .bool b
  | whole n => .int n
  | real x => .float x

/-- A number that is not negative makes a delay. -/
def ofValue : Value → Except Fault Delay
  | .bool b => .ok (flag b)
  | .int (.ofNat n) => .ok (whole n)
  | .float x =>
    if x.isNegative then .error (.negativeDelay x.text) else .ok (real x)
  | .int n => .error (.negativeDelay (toString n))
  | v => .error (.unordered "<" v.type "int")

/-- The delay in units of `1 / scale` seconds, rounded once; infinity and nan are in no unit. -/
def inUnits (scale : Nat) : Delay → Except Double.NoInteger Int
  | flag b => .ok (if b then scale else 0)
  | whole n => .ok (n * scale)
  | real x => (x.times scale).round

/-- Why no timer can be started with the delay, where that is so: the clock of a loop is a double,
and a whole number past all doubles cannot be added to it. -/
def startFault? : Delay → Option Fault
  | flag _ | real _ => none
  | whole n =>
    match Double.ofInt? n with
    | some _ => none
    | none => some .integerTooLarge

/-- How long a timer waits, in whole microseconds, if one can be started and ever comes due. Real
clocks do not round; and where the delay is no number at all, they let a timer fire at once, which
waits for ever here. -/
def wait (d : Delay) : Option Nat :=
  match d.startFault?, d.inUnits 1000000 with
  | none, .ok n => some n.toNat
  | _, _ => none

/-- The delay in milliseconds, as reports show it. -/
def millis (d : Delay) : Except Fault Int := (d.inUnits 1000).mapError .noInteger

end Delay

structure Job (κ α : Type) where
  key : κ
  action : α
  deriving Repr

structure Scheduler (κ α : Type) where
  delay : Delay
  /-- Pending keys with their timers, the oldest first. -/
  pending : List (κ × Nat) := []
  loop : Loop (Job κ α) := {}
  deriving Repr

namespace Scheduler

variable {κ α : Type} [DecidableEq κ]

instance : Inhabited (Scheduler κ α) := ⟨⟨.whole 0, [], {}⟩⟩

def isArmed (s : Scheduler κ α) (k : κ) : Bool := s.pending.any fun p => decide (p.1 = k)

def count (s : Scheduler κ α) : Nat := s.pending.length

def now (s : Scheduler κ α) : Instant := s.loop.now

/-- Starts a timer for a key that is not pending. -/
def enter (s : Scheduler κ α) (k : κ) (action : α) : Scheduler κ α :=
  let (id, loop) := s.loop.start s.delay.wait ⟨k, action⟩
  { s with pending := s.pending ++ [(k, id)], loop }

/-- Starts a timer for the key, unless one is pending; whether it did. Where no timer can be started
nothing changes, and the fault is the caller's. -/
def arm (s : Scheduler κ α) (k : κ) (action : α) : Except Fault Bool × Scheduler κ α :=
  if s.isArmed k then (.ok false, s)
  else
    match s.delay.startFault? with
    | some f => (.error f, s)
    | none => (.ok true, s.enter k action)

/-- Arms from outside the loop: a pending key is refused as ever, and no timer can start. -/
def armOutside (s : Scheduler κ α) (k : κ) : Except Fault Bool :=
  if s.isArmed k then .ok false else .error .noRunningLoop

/-- Cancels every pending timer; how many there were. -/
def cancelAll (s : Scheduler κ α) : Nat × Scheduler κ α :=
  (s.count, { s with pending := [], loop := s.pending.foldl (fun l p => l.cancel p.2) s.loop })

def release (s : Scheduler κ α) (k : κ) : Scheduler κ α :=
  { s with pending := s.pending.filter fun p => !decide (p.1 = k) }

/-- Takes the first job that is due by `limit`; its key is pending no more. -/
def popDue (s : Scheduler κ α) (limit : Instant) : Option (Job κ α × Scheduler κ α) :=
  match s.loop.popDue limit with
  | none => none
  | some (job, loop) => some (job, { s with loop }.release job.key)

def passTo (s : Scheduler κ α) (limit : Instant) : Scheduler κ α :=
  { s with loop := { s.loop with now := max s.loop.now limit } }

/-- When the pending timer of a key comes due: its own answer is `none` for a key without one. -/
def deadline? (s : Scheduler κ α) (k : κ) : Option (Option Instant) := do
  let (_, id) ← s.pending.find? fun p => decide (p.1 = k)
  let t ← s.loop.timers.find? (·.id == id)
  return t.due

/-- The log entry for an action that ended in a fault. -/
def failedEntry (key : Value) (f : Fault) : Log.Entry :=
  { level := .error, logger := Log.schedulerName, message := "Scheduled disconnect action failed",
    fields := [("key", key)], fault := some f }

end Scheduler
end Linkcut

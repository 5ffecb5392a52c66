import Linkcut.Scheduler
import Linkcut.Value.Key

/-!
Actions as finite trees: an action makes its steps in order, and then perhaps fails. Running a
scheduler over such actions notes what they see, and logs those that end in an ordinary fault; a
fatal fault leaves the timer that ran the action.
-/

set_option autoImplicit false

namespace Linkcut

/-- A key as a caller names it: the value that logs show, and the key, if the value is one. -/
structure Subject where
  shown : Value
  key : Except Fault Key

mutual

inductive Action where
  | mk (label : String) (steps : List Step) (fault : Option Fault)

inductive Step where
  /-- Arms an action under a key, and notes the answer under a word. -/
  | arm (word : String) (subject : Subject) (action : Action)
  | cancelAll
  | probe (subject : Subject)

end

instance : Inhabited Action := ⟨.mk "" [] none⟩

namespace Action

def note (label : String) : Action := .mk label [] none

/-- An action that arms itself again, `times` times at most. -/
def rearm (label : String) (subject : Subject) : Nat → Action
  | 0 => note label
  | times + 1 => .mk label [.arm "rearm" subject (rearm label subject times)] none

mutual

def size : Action → Nat
  | .mk _ steps _ => 1 + sizeAll steps

def sizeAll : List Step → Nat
  | [] => 0
  | s :: ss => stepSize s + sizeAll ss

def stepSize : Step → Nat
  | .arm _ _ a => size a
  | .cancelAll => 0
  | .probe _ => 0

end

end Action

inductive Note where
  | ran (label : String) (time : Instant)
  | armed (word : String) (started : Bool)
  | cancelled (count : Nat)
  | probed (armed : Bool) (pending : Nat)
  deriving DecidableEq, Repr, Inhabited

/-- What a timer of an agenda runs: an action, and its key as logs show it. -/
structure Task where
  shown : Value
  action : Action

/-- A scheduler of actions, with what they saw and what was logged, the newest first. -/
structure Agenda where
  scheduler : Scheduler Key Task
  notes : List Note := []
  journal : List Log.Entry := []

namespace Agenda

def note (a : Agenda) (n : Note) : Agenda := { a with notes := n :: a.notes }

def arm (a : Agenda) (s : Subject) (action : Action) : Except Fault Bool × Agenda :=
  match s.key with
  | .error f => (.error f, a)
  | .ok k =>
    let (r, scheduler) := a.scheduler.arm k ⟨s.shown, action⟩
    (r, { a with scheduler })

/-- Arms where no loop runs. -/
def armOutside (a : Agenda) (s : Subject) : Except Fault Bool := do
  let k ← s.key
  a.scheduler.armOutside k

def isArmed (a : Agenda) (s : Subject) : Except Fault Bool := s.key.map a.scheduler.isArmed

def cancelAll (a : Agenda) : Nat × Agenda :=
  let (n, scheduler) := a.scheduler.cancelAll
  (n, { a with scheduler })

def step (a : Agenda) : Step → Option Fault × Agenda
  | .arm word subject action =>
    match a.arm subject action with
    | (.ok b, a) => (none, a.note (.armed word b))
    | (.error f, a) => (some f, a)
  | .cancelAll =>
    let (n, a) := a.cancelAll
    (none, a.note (.cancelled n))
  | .probe subject =>
    match a.isArmed subject with
    | .ok b => (none, a.note (.probed b a.scheduler.count))
    | .error f => (some f, a)

/-- Makes steps in order, up to the first fault. -/
def steps (a : Agenda) : List Step → Option Fault × Agenda
  | [] => (none, a)
  | s :: ss =>
    match a.step s with
    | (none, a) => a.steps ss
    | (some f, a) => (some f, a)

/-- Runs an action: its steps, then its own fault. -/
def run (a : Agenda) : Action → Option Fault × Agenda
  | .mk label ss fault =>
    match (a.note (.ran label a.scheduler.now)).steps ss with
    | (none, a) => (fault, a)
    | (some f, a) => (some f, a)

/-- Runs the job of a timer. An ordinary fault is logged, a fatal one is left to the loop. -/
def fire (a : Agenda) (job : Job Key Task) : Option Fault × Agenda :=
  match a.run job.action.action with
  | (none, a) => (none, a)
  | (some f, a) =>
    if f.isOrdinary then
      (none, { a with journal := Scheduler.failedEntry job.action.shown f :: a.journal })
    else (some f, a)

/-- Runs every job due by `limit`, `count` jobs at most; the faults that were left to the loop. -/
def fireDue (limit : Instant) : Nat → Agenda → List Fault × Agenda
  | 0, a => ([], a)
  | count + 1, a =>
    match a.scheduler.popDue limit with
    | none => ([], a)
    | some (job, scheduler) =>
      let (f, a) := { a with scheduler }.fire job
      let (fs, a) := fireDue limit count a
      (f.toList ++ fs, a)

/-- How many jobs can still run: every action in the waiting trees. -/
def weight (a : Agenda) : Nat :=
  a.scheduler.loop.timers.foldr (fun t n => t.job.action.action.size + n) 0

/-- Lets time pass and runs what comes due meanwhile. -/
def advance (a : Agenda) (micros : Nat) : List Fault × Agenda :=
  let limit := a.scheduler.now + micros
  let (fs, a) := fireDue limit a.weight a
  (fs, { a with scheduler := a.scheduler.passTo limit })

end Agenda
end Linkcut

import Linkcut.Controller
import Linkcut.Names

/-!
The figures of the manager and of the controller, and both of them together. They are collected step
by step, where a step might change the controller, and shown as dictionaries.
-/

set_option autoImplicit false

namespace Linkcut

def Counters.toValue (t : Counters Int) : Value :=
  .ofFields (t.snapshot.map fun e => (e.1, .int e.2))

def Reply.fields : Reply → List (String × Value)
  | .registry tracked closing =>
    [("tracked_connections", .int tracked), ("closing_connections", .int closing)]
  | .manager live closing counters =>
    [("live_connections", .int live), ("closing_connections", .int closing),
     ("metrics", counters.toValue)]
  | _ => []

def SessionReport.fields (r : SessionReport) : List (String × Value) :=
  [("active_sessions", .int r.active), ("armed_sessions", .int r.armed),
   ("pending_sweeps", .int r.pending), ("force_disconnect_delay_ms", .int r.delayMillis),
   ("session_states", .ofFields (r.phases.map fun p => (p.1.text, .int p.2)))]

/-- One more of a phase. The phases stay in the order in which they were met. -/
def tallyPhase (p : Phase) : List (Phase × Nat) → List (Phase × Nat)
  | [] => [(p, 1)]
  | e :: es => if e.1 = p then (p, e.2 + 1) :: es else e :: tallyPhase p es

namespace Controller

/-- Steps that may change the controller, up to the first fault. -/
abbrev Steps := ExceptT Fault (StateM Controller)

def Steps.on {α : Type} (m : Steps α) (c : Controller) : Except Fault α × Controller := m.run.run c

/-- How many of the sessions have a pending sweep, asked one by one. -/
def countArmed : List Sid → Steps Nat
  | [] => return 0
  | sid :: sids => do
    let armed := (← get).scheduler.isArmed sid
    let n ← countArmed sids
    return if armed then n + 1 else n

/-- Collects the figures of the sessions. -/
def collect : Steps SessionReport := do
  let phases := (← get).sessions.entries.foldl (fun counts e => tallyPhase e.2 counts) []
  let armed ← countArmed (← get).sessions.sids
  return {
    active := (← get).sessions.size
    armed
    pending := (← get).scheduler.count
    delayMillis := ← (← get).delayMillis
    phases }

def report (c : Controller) : Except Fault SessionReport := (collect.on c).1

/-- Asks the manager for its figures, as any request is made. -/
def askManager : Steps Reply := ExceptT.mk fun c => c.request .report

/-- Collects the figures of the manager and then those of the sessions. Of two figures of one name
the later one stands. -/
def collectStats : Steps (Names Value) := do
  let m ← askManager
  let r ← collect
  return (Names.ofPairs m.fields).enterAll r.fields

def statsFields (c : Controller) : Except Fault (Names Value) := (collectStats.on c).1

end Controller
end Linkcut

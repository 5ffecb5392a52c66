import Linkcut.Site

/-!
The update calls of a collector, by name. Nine calls add one to the counter that they own; two add
an amount given as a value. A call that fails changes nothing.
-/

set_option autoImplicit false

namespace Linkcut

/-- A tally as the callers of a collector may leave it: whole until a fraction is added. -/
inductive Amount where
  | whole (n : Int)
  | real (x : Double)
  deriving DecidableEq, Repr, Inhabited

namespace Amount

def toValue : Amount → Value
  | whole n => .int n
  | real x => .float x

/-- The amount that a value stands for, if it is a number: a truth value counts as one or zero. -/
def ofValue? : Value → Option Amount
  | .int n => some (whole n)
  | .bool b => some (whole (if b then 1 else 0))
  | .float x => some (real x)
  | _ => none

def toDouble : Amount → Except Fault Double
  | whole n => match Double.ofInt? n with
    | some x => .ok x
    | none => .error .integerTooLarge
  | real x => .ok x

/-- Whole amounts add up exactly; with a fraction in it the sum is rounded. -/
def plus : Amount → Amount → Except Fault Amount
  | whole m, whole n => .ok (whole (m + n))
  | a, b => do return real ((← a.toDouble).add (← b.toDouble))

end Amount

abbrev Collector := Counters Amount

namespace Collector

def empty : Collector := .replicate (.whole 0)

inductive Call where
  | increment (c : Counter)
  | add (c : Counter)
  | snapshot
  deriving DecidableEq, Repr

def owner : Counter → Call
  | .destroyed => .add .destroyed
  | .cancelled => .add .cancelled
  | c => .increment c

def ownerName : Counter → String
  | .accepted => "increment_connections_accepted"
  | .closed => "increment_connections_closed"
  | .destroyed => "add_connections_destroyed"
  | .established => "increment_sessions_established"
  | .ended => "increment_sessions_closed"
  | .probesSent => "increment_probes_sent"
  | .probesFailed => "increment_probes_failed"
  | .signals => "increment_force_disconnect_signals"
  | .duplicates => "increment_duplicate_signals"
  | .executed => "increment_sweeps_executed"
  | .cancelled => "add_sweeps_cancelled"

def callNamed? (name : String) : Option Call :=
  if name = "get_snapshot" then some .snapshot
  else (Counter.all.find? (ownerName · == name)).map owner

/-- The full name of a call, as faults show it. -/
def qualified (name : String) : String := "MetricsCollector." ++ name

def report (t : Collector) : Value := .ofFields (t.snapshot.map fun e => (e.1, e.2.toValue))

def add (t : Collector) (c : Counter) (v : Value) : Except Fault Collector := do
  let some b := Amount.ofValue? v | throw (.badOperand "+=" (t.get c).toValue.type v.type)
  let sum ← (t.get c).plus b
  return t.modify c fun _ => sum

def call (t : Collector) (name : String) (args : List Value) : Except Fault Value × Collector :=
  match callNamed? name, args with
  | none, _ => (.error (.noAttribute "MetricsCollector" name), t)
  | some (.increment c), [] =>
    match t.add c (.int 1) with
    | .ok u => (.ok .none, u)
    | .error f => (.error f, t)
  | some .snapshot, [] => (.ok t.report, t)
  | some (.increment _), _ | some .snapshot, _ =>
    (.error (.tooManyArguments (qualified name) "1" false (args.length + 1)), t)
  | some (.add _), [] => (.error (.missingArguments (qualified name) ["count"] false), t)
  | some (.add c), [v] =>
    match t.add c v with
    | .ok u => (.ok .none, u)
    | .error f => (.error f, t)
  | some (.add _), _ =>
    (.error (.tooManyArguments (qualified name) "2" true (args.length + 1)), t)

def ofTallies (t : Counters Int) : Collector :=
  Counter.all.foldl (fun c k => c.modify k fun _ => .whole (t.get k)) empty

end Collector
end Linkcut

/-!
The eleven counters: three of connections, four of sessions, four of sweeps. A counter is read and
changed by its name alone, and `get_modify` says that no change touches another one.
-/

set_option autoImplicit false

namespace Linkcut

inductive Counter where
  | accepted
  | closed
  | destroyed
  | established
  | ended
  | probesSent
  | probesFailed
  | signals
  | duplicates
  | executed
  | cancelled
  deriving DecidableEq, Repr, Inhabited

namespace Counter

/-- Every counter, in the order of reports. -/
def all : List Counter :=
  [accepted, closed, destroyed, established, ended, probesSent, probesFailed, signals, duplicates,
   executed, cancelled]

theorem mem_all (c : Counter) : c ∈ all := by cases c <;> decide

def key : Counter → String
  | accepted => "connections_accepted"
  | closed => "connections_closed"
  | destroyed => "connections_destroyed"
  | established => "sessions_established"
  | ended => "sessions_closed"
  | probesSent => "probes_sent"
  | probesFailed => "probes_failed"
  | signals => "force_disconnect_signals"
  | duplicates => "force_disconnect_duplicates"
  | executed => "sweeps_executed"
  | cancelled => "sweeps_cancelled"

end Counter

structure Counters (α : Type) where
  accepted : α
  closed : α
  destroyed : α
  established : α
  ended : α
  probesSent : α
  probesFailed : α
  signals : α
  duplicates : α
  executed : α
  cancelled : α
  deriving DecidableEq, Repr, Inhabited

namespace Counters

variable {α : Type}

def replicate (a : α) : Counters α := ⟨a, a, a, a, a, a, a, a, a, a, a⟩

def get (t : Counters α) : Counter → α
  | .accepted => t.accepted
  | .closed => t.closed
  | .destroyed => t.destroyed
  | .established => t.established
  | .ended => t.ended
  | .probesSent => t.probesSent
  | .probesFailed => t.probesFailed
  | .signals => t.signals
  | .duplicates => t.duplicates
  | .executed => t.executed
  | .cancelled => t.cancelled

def modify (t : Counters α) (c : Counter) (f : α → α) : Counters α :=
  match c with
  | .accepted => { t with accepted := f t.accepted }
  | .closed => { t with closed := f t.closed }
  | .destroyed => { t with destroyed := f t.destroyed }
  | .established => { t with established := f t.established }
  | .ended => { t with ended := f t.ended }
  | .probesSent => { t with probesSent := f t.probesSent }
  | .probesFailed => { t with probesFailed := f t.probesFailed }
  | .signals => { t with signals := f t.signals }
  | .duplicates => { t with duplicates := f t.duplicates }
  | .executed => { t with executed := f t.executed }
  | .cancelled => { t with cancelled := f t.cancelled }

@[simp] theorem get_replicate (a : α) (c : Counter) : (replicate a).get c = a := by cases c <;> rfl

@[simp] theorem get_modify (t : Counters α) (c d : Counter) (f : α → α) :
    (t.modify c f).get d = if d = c then f (t.get d) else t.get d := by
  cases c <;> cases d <;> rfl

@[ext] theorem ext_get {t u : Counters α} (h : ∀ c, t.get c = u.get c) : t = u := by
  cases t; cases u
  have := fun c => h c
  simp only [get] at this
  simp [this .accepted, this .closed, this .destroyed, this .established, this .ended,
    this .probesSent, this .probesFailed, this .signals, this .duplicates, this .executed,
    this .cancelled]

/-- Names and tallies, in the order of reports. -/
def snapshot (t : Counters α) : List (String × α) := Counter.all.map fun c => (c.key, t.get c)

/-- The tallies alone, in the order of reports. -/
def values (t : Counters α) : List α := Counter.all.map t.get

end Counters

def Counters.zero : Counters Int := .replicate 0

def Counters.add (t : Counters Int) (c : Counter) (n : Int) : Counters Int := t.modify c (· + n)

@[simp] theorem Counters.get_zero (c : Counter) : Counters.zero.get c = 0 := by simp [zero]

@[simp] theorem Counters.get_add (t : Counters Int) (c d : Counter) (n : Int) :
    (t.add c n).get d = if d = c then t.get d + n else t.get d := by simp [add]

end Linkcut

import Linkcut.Controller

/-!
Commands to a controller, and runs of them: what the handlers of sessions, the clock and the
transports ask of it, one after the other. Reading figures changes nothing and is no command.
-/

set_option autoImplicit false

namespace Linkcut.Controller

inductive Command where
  | connect (sid : Sid) (args : List Value) (probe : Probe)
  /-- The probe that waits under a name comes to its end, well or with a fault. -/
  | release (name : String) (fault : Option Fault)
  | disconnect (sid : Sid) (args : List Value)
  /-- Whatever else the event brings is taken and not read. -/
  | signal (sid : Sid)
  | request (q : Request)
  /-- Time passes, in microseconds. -/
  | advance (micros : Nat)
  | shutdown
  deriving Repr, Inhabited

inductive Answer where
  | handler (result : Except Fault Progress)
  | reply (result : Except Fault Reply)
  /-- The faults that were left to the loop. -/
  | escaped (faults : List Fault)
  | cancelled (count : Nat)

def Answer.ended : Option Fault → Answer
  | none => handler (.ok .finished)
  | some f => handler (.error f)

def step (c : Controller) : Command → Answer × Controller
  | .connect sid args probe => let (r, c) := c.onConnect sid args probe; (.handler r, c)
  | .release name fault => let (r, c) := c.release name fault; (.handler r, c)
  | .disconnect sid args => let (f, c) := c.onDisconnect sid args; (.ended f, c)
  | .signal sid => let (f, c) := c.signal sid; (.ended f, c)
  | .request q => let (r, c) := c.request q; (.reply r, c)
  | .advance micros => let (fs, c) := c.advance micros; (.escaped fs, c)
  | .shutdown => let (n, c) := c.shutdown; (.cancelled n, c)

/-- Obeys commands in order; the answers, and the controller after the last of them. -/
def run (c : Controller) : List Command → List Answer × Controller
  | [] => ([], c)
  | k :: ks =>
    let (a, c) := c.step k
    let (as, c) := c.run ks
    (a :: as, c)

@[simp] theorem run_nil (c : Controller) : c.run [] = ([], c) := rfl

theorem run_cons (c : Controller) (k : Command) (ks : List Command) :
    c.run (k :: ks) = ((c.step k).1 :: ((c.step k).2.run ks).1, ((c.step k).2.run ks).2) := rfl

theorem run_append (c : Controller) (ks js : List Command) :
    c.run (ks ++ js) = ((c.run ks).1 ++ ((c.run ks).2.run js).1, ((c.run ks).2.run js).2) := by
  induction ks generalizing c with
  | nil => rfl
  | cons k ks ih => simp [run_cons, ih]

end Linkcut.Controller

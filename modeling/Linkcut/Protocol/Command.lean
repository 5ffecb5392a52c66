import Linkcut.Protocol

/-!
Commands to protocols that are built, and runs of them: connections are made and lost, and the
manager is drained. Each call comes with the way in which the wrapped protocol ends it.
-/

set_option autoImplicit false

namespace Linkcut.Protocols

inductive Command where
  | made (name : String) (h : Handle) (wrapped : Option Fault)
  | lost (name : String) (fault wrapped : Option Fault)
  | drain
  deriving DecidableEq, Repr, Inhabited

inductive Answer where
  | call (fault : Option Fault)
  | reply (result : Except Fault Reply)

/-- From now on the wrapped protocol ends its calls like this. -/
def wrapping (ps : Protocols) (name : String) (fault : Option Fault) : Protocols :=
  match ps.table.lookup name with
  | none => ps
  | some p =>
    { ps with table := ps.table.enter name { p with failMade := fault, failLost := fault } }

def step (ps : Protocols) : Command → Answer × Protocols
  | .made name h wrapped =>
    let (f, ps) := (ps.wrapping name wrapped).made name h
    (.call f, ps)
  | .lost name fault wrapped =>
    let (f, ps) := (ps.wrapping name wrapped).lost name fault
    (.call f, ps)
  | .drain => let (r, ps) := ps.request .drain; (.reply r, ps)

/-- Obeys commands in order; the answers, and the protocols after the last of them. -/
def run (ps : Protocols) : List Command → List Answer × Protocols
  | [] => ([], ps)
  | k :: ks =>
    let (a, ps) := ps.step k
    let (as, ps) := ps.run ks
    (a :: as, ps)

@[simp] theorem run_nil (ps : Protocols) : ps.run [] = ([], ps) := rfl

theorem run_cons (ps : Protocols) (k : Command) (ks : List Command) :
    ps.run (k :: ks) =
      ((ps.step k).1 :: ((ps.step k).2.run ks).1, ((ps.step k).2.run ks).2) := rfl

theorem run_append (ps : Protocols) (ks js : List Command) :
    ps.run (ks ++ js) = ((ps.run ks).1 ++ ((ps.run ks).2.run js).1, ((ps.run ks).2.run js).2) := by
  induction ks generalizing ps with
  | nil => rfl
  | cons k ks ih => simp [run_cons, ih]

/-- The connections that are tracked. -/
def tracked (ps : Protocols) : Registry := ps.site.registry ps.manager.registry

/-- The connection that a protocol remembers. -/
def remembers (ps : Protocols) (name : String) : Option Handle :=
  (ps.table.lookup name).bind Protocol.handle

/-- Whether the protocol that is called is built. -/
def knows (ps : Protocols) : Command → Bool
  | .made name .. | .lost name .. => (ps.table.lookup name).isSome
  | .drain => true

end Linkcut.Protocols

import Linkcut.Names
import Linkcut.Site.Perform

/-!
Protocols that report their connections. A protocol records the connection that it is given, and
forgets the one that it was given last when it is lost; either way the protocol that it wraps is
told afterwards, with the same argument, whatever became of the report.
-/

set_option autoImplicit false

namespace Linkcut

/-- A tracked protocol over a wrapped one that may fail. -/
structure Protocol where
  handle : Option Handle := none
  failMade : Option Fault := none
  failLost : Option Fault := none
  deriving DecidableEq, Repr, Inhabited

namespace Protocol

/-- What a wrapped protocol was told, and how many connections were tracked then. -/
inductive Notice where
  | built (args : List Value) (named : List (String × Value))
  | made (h : Handle) (live : Nat)
  | lost (fault : Option Fault) (live : Nat)
  deriving Repr, Inhabited

end Protocol

/-- Protocols by name, over one manager. -/
structure Protocols where
  site : Site := {}
  manager : Manager := {}
  table : Names Protocol := []
  /-- What wrapped protocols were told, the newest notice first. -/
  notices : List Protocol.Notice := []

namespace Protocols

instance : Inhabited Protocols := ⟨{}⟩

def live (ps : Protocols) : Nat := (ps.site.registry ps.manager.registry).size

def tell (ps : Protocols) (n : Protocol.Notice) : Protocols :=
  { ps with notices := n :: ps.notices }

/-- What is said of a protocol that is built without a tracker. -/
def noTracker : Fault := .missingArguments "TrackedConnectionMixin.__init__" ["tracker"] true

/-- A protocol is not told itself by a name. -/
def ownArgument : Fault := .repeatedArgument "TrackedConnectionMixin.__init__" "self"

/-- Builds a protocol; the wrapped one may fail to be built. -/
def build (ps : Protocols) (name : String) (p : Protocol) (args : List Value)
    (named : List (String × Value)) (fault : Option Fault) : Option Fault × Protocols :=
  if named.any (·.1 == "self") then (some ownArgument, ps)
  else
    let ps := ps.tell (.built args named)
    match fault with
    | some f => (some f, ps)
    | none => (none, { ps with table := ps.table.enter name { p with handle := none } })

/-- A connection is made: the protocol remembers and records it. -/
def made (ps : Protocols) (name : String) (h : Handle) : Option Fault × Protocols :=
  match ps.table.lookup name with
  | none => (some (.noSuchKey (Text.quote name)), ps)
  | some p =>
    let (_, site) := ps.site.record (.manager ps.manager) h
    let ps := { ps with site, table := ps.table.enter name { p with handle := some h } }
    (p.failMade, ps.tell (.made h ps.live))

/-- A connection is lost: the protocol forgets the one that it remembers. -/
def lost (ps : Protocols) (name : String) (fault : Option Fault) : Option Fault × Protocols :=
  match ps.table.lookup name with
  | none => (some (.noSuchKey (Text.quote name)), ps)
  | some p =>
    let ps := match p.handle with
      | some h => { ps with site := (ps.site.forget (.manager ps.manager) h).2 }
      | none => ps
    (p.failLost, ps.tell (.lost fault ps.live))

/-- Requests go to the manager, and so do those that abort calls make. -/
def request (ps : Protocols) (q : Request) : Except Fault Reply × Protocols :=
  let target := Target.manager ps.manager
  let (answer, site) := ps.site.perform target target q
  (answer, { ps with site })

/-- A class of protocols: its name, and the names of the classes that it is made of. -/
structure Class where
  name : String
  order : List String
  deriving DecidableEq, Repr

def mixinName : String := "TrackedConnectionMixin"

/-- The classes for requests and for messages, each with its tracker bound. -/
def classes : List Class :=
  [⟨"TrackedH11Protocol", ["TrackedH11Protocol", mixinName, "H11Protocol"]⟩,
   ⟨"TrackedWSProtocol", ["TrackedWSProtocol", mixinName, "WSProtocol"]⟩]

end Protocols
end Linkcut

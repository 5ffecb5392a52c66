import Linkcut.Counters
import Linkcut.Log.Entry
import Linkcut.Registry
import Linkcut.Table

/-!
The site: registries, counters, the transports behind the handles, and a journal of what happened.
Managers are pairs of a registry and counters, so that several of them may share either.
-/

set_option autoImplicit false

namespace Linkcut

structure Manager where
  registry : Nat := 0
  counters : Nat := 0
  deriving DecidableEq, Repr, Inhabited

inductive Target where
  | registry (i : Nat)
  | manager (m : Manager)
  deriving DecidableEq, Repr, Inhabited

namespace Target

def registryIndex : Target → Nat
  | registry i => i
  | manager m => m.registry

end Target

/-- One request to a registry or a manager, or to a transport itself. -/
inductive Request where
  | record (h : Handle)
  | forget (h : Handle)
  | drain
  | report
  | size
  | live
  | contains (h : Handle)
  /-- Whether a value that is no transport is tracked. -/
  | containsValue (v : Value)
  | snapshot
  | snapshotClear
  | close (h : Handle)
  /-- Sets or removes the fault with which a transport answers when asked for its state. -/
  | break (h : Handle) (fault : Option Fault)
  | abort (h : Handle)
  deriving Repr, Inhabited

inductive Reply where
  | done
  | flag (b : Bool)
  | count (n : Nat)
  | names (hs : List Handle)
  | sizes (before after : Nat)
  | registry (tracked closing : Nat)
  | manager (live closing : Nat) (counters : Counters Int)
  deriving Repr, Inhabited

structure Errand where
  target : Target
  request : Request
  deriving Repr, Inhabited

/-- What one abort call on a transport does: requests, then perhaps a fault. -/
structure Reaction where
  requests : List Request := []
  /-- Where the requests go, in their order; those past its end go to no place of their own. -/
  targets : List Target := []
  fault : Option Fault := none
  deriving Repr, Inhabited

namespace Reaction

/-- Requests with their places; `self` is the place of those without one. -/
def address (self : Target) : List Target → List Request → List Errand
  | _, [] => []
  | [], q :: qs => ⟨self, q⟩ :: address self [] qs
  | t :: ts, q :: qs => ⟨t, q⟩ :: address self ts qs

def errands (r : Reaction) (self : Target) : List Errand := address self r.targets r.requests

end Reaction

structure Transport where
  closing : Bool := false
  closingFault : Option Fault := none
  /-- An inert transport does not begin to close when it is aborted. -/
  inert : Bool := false
  /-- How many abort calls it has had. -/
  aborts : Nat := 0
  /-- What each abort call does, by the number of calls before it. -/
  reaction : Nat → Reaction := fun _ => {}

instance : Inhabited Transport := ⟨{}⟩

/-- What happened, as far as anyone can tell. -/
inductive Event where
  | recorded (registry : Nat) (h : Handle)
  /-- The registry stopped tracking the handle because it was told to forget it. -/
  | forgotten (registry : Nat) (h : Handle)
  /-- The registry stopped tracking all these handles because they are about to be aborted. -/
  | drained (registry : Nat) (hs : List Handle)
  /-- The transport was aborted, by a drain of a registry or on its own. -/
  | aborted (registry : Option Nat) (h : Handle)
  /-- An abort call that a drain made ended in a fault. -/
  | failed (h : Handle) (fault : Fault)
  /-- A request made from within an abort call was answered. -/
  | noted (request : Request) (reply : Reply)
  | logged (entry : Log.Entry)
  deriving Repr

structure Site where
  registries : Table Nat Registry := ⟨.empty, []⟩
  counters : Table Nat (Counters Int) := ⟨.zero, []⟩
  transports : Table Handle Transport := ⟨{}, []⟩
  /-- The newest event first. -/
  journal : List Event := []

namespace Site

instance : Inhabited Site := ⟨{}⟩

def registry (s : Site) (i : Nat) : Registry := s.registries.get i

def tallies (s : Site) (i : Nat) : Counters Int := s.counters.get i

def transport (s : Site) (h : Handle) : Transport := s.transports.get h

/-- Events in the order in which they happened. -/
def events (s : Site) : List Event := s.journal.reverse

def note (s : Site) (e : Event) : Site := { s with journal := e :: s.journal }

def log (s : Site) (entry : Log.Entry) : Site := s.note (.logged entry)

def setRegistry (s : Site) (i : Nat) (r : Registry) : Site :=
  { s with registries := s.registries.set i r }

def setTransport (s : Site) (h : Handle) (t : Transport) : Site :=
  { s with transports := s.transports.set h t }

def count (s : Site) (i : Nat) (c : Counter) (n : Int) : Site :=
  { s with counters := s.counters.set i ((s.tallies i).add c n) }

section Lemmas

variable (s : Site) (i j : Nat) (h k : Handle) (r : Registry) (t : Transport) (e : Event)
  (c : Counter) (n : Int)

@[simp] theorem registry_note : (s.note e).registry i = s.registry i := rfl
@[simp] theorem tallies_note : (s.note e).tallies i = s.tallies i := rfl
@[simp] theorem transport_note : (s.note e).transport h = s.transport h := rfl
@[simp] theorem journal_note : (s.note e).journal = e :: s.journal := rfl

@[simp] theorem registry_setRegistry :
    (s.setRegistry i r).registry j = if j = i then r else s.registry j := by
  simp [registry, setRegistry]

@[simp] theorem tallies_setRegistry : (s.setRegistry i r).tallies j = s.tallies j := rfl
@[simp] theorem transport_setRegistry : (s.setRegistry i r).transport h = s.transport h := rfl
@[simp] theorem journal_setRegistry : (s.setRegistry i r).journal = s.journal := rfl

@[simp] theorem registry_setTransport : (s.setTransport h t).registry i = s.registry i := rfl
@[simp] theorem tallies_setTransport : (s.setTransport h t).tallies i = s.tallies i := rfl

@[simp] theorem transport_setTransport :
    (s.setTransport h t).transport k = if k = h then t else s.transport k := by
  simp [transport, setTransport]

@[simp] theorem journal_setTransport : (s.setTransport h t).journal = s.journal := rfl

@[simp] theorem registry_count : (s.count i c n).registry j = s.registry j := rfl

@[simp] theorem tallies_count :
    (s.count i c n).tallies j = if j = i then (s.tallies i).add c n else s.tallies j := by
  simp [tallies, count]

@[simp] theorem transport_count : (s.count i c n).transport h = s.transport h := rfl
@[simp] theorem journal_count : (s.count i c n).journal = s.journal := rfl

end Lemmas

end Site
end Linkcut

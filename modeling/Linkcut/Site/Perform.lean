import Linkcut.Site
import Linkcut.Value.Key

/-!
Answering requests. A drain takes every tracked handle out of the registry first and aborts them
afterwards, one by one; an abort call may make requests of its own, drains included. Calls nest to a
fixed depth, past which an abort call fails like any other that ends in an ordinary fault.
-/

set_option autoImplicit false

namespace Linkcut.Site

/-- How an abort call runs: on a handle, with perhaps a fault at its end. -/
abbrev Abort := Handle → Site → Option Fault × Site

/-- The registry begins to track a handle; whether it did not before. -/
def insert (s : Site) (i : Nat) (h : Handle) : Bool × Site :=
  if h ∈ s.registry i then (false, s)
  else (true, (s.setRegistry i ((s.registry i).insert h)).note (.recorded i h))

/-- The registry stops tracking a handle; whether it did before. -/
def erase (s : Site) (i : Nat) (h : Handle) : Bool × Site :=
  if h ∈ s.registry i then
    (true, (s.setRegistry i ((s.registry i).erase h)).note (.forgotten i h))
  else (false, s)

def take (s : Site) (i : Nat) : List Handle × Site :=
  let hs := (s.registry i).members
  (hs, (s.setRegistry i .empty).note (.drained i hs))

def ignoredEntry (f : Fault) : Log.Entry :=
  { level := .debug, logger := Log.registryName,
    message := "Abort on dead connection ignored: " ++ f.message }

def acceptedEntry (live : Nat) : Log.Entry :=
  { level := .debug, logger := Log.managerName, message := "Transport accepted",
    fields := [("live", .int live)] }

def closedEntry (live : Nat) : Log.Entry :=
  { level := .debug, logger := Log.managerName, message := "Transport closed",
    fields := [("live", .int live)] }

/-- Aborts handles in order for a registry. An ordinary fault is logged and passed over; a fatal one
ends it. -/
def abortAll (call : Abort) (i : Nat) : List Handle → Site → Option Fault × Site
  | [], s => (none, s)
  | h :: hs, s =>
    match call h (s.note (.aborted (some i) h)) with
    | (none, s) => abortAll call i hs s
    | (some f, s) =>
      let s := s.note (.failed h f)
      if f.isOrdinary then abortAll call i hs (s.log (ignoredEntry f)) else (some f, s)

/-- Takes out and aborts every tracked handle; how many there were. -/
def drain (call : Abort) (i : Nat) (s : Site) : Except Fault Nat × Site :=
  let (hs, s) := s.take i
  match abortAll call i hs s with
  | (none, s) => (.ok hs.length, s)
  | (some f, s) => (.error f, s)

/-- How many of the handles belong to transports that are closing; the first one that cannot tell
is the fault. -/
def closingCount (s : Site) : List Handle → Except Fault Nat
  | [] => .ok 0
  | h :: hs =>
    match (s.transport h).closingFault with
    | some f => .error f.drawn
    | none => (s.closingCount hs).map fun n => if (s.transport h).closing then n + 1 else n

def managerReport (s : Site) (m : Manager) : Except Fault Reply :=
  let r := s.registry m.registry
  (s.closingCount r.members).map fun n => .manager r.size n (s.tallies m.counters)

/-- The figures of a registry, or of a manager. -/
def reportOf (s : Site) : Target → Except Fault Reply
  | .registry i =>
    let r := s.registry i
    (s.closingCount r.members).map fun n => .registry r.size n
  | .manager m => s.managerReport m

/-- A handle is recorded; a manager counts and logs it when it was not tracked. -/
def record (s : Site) (target : Target) (h : Handle) : Bool × Site :=
  let (added, s) := s.insert target.registryIndex h
  match target, added with
  | .manager m, true =>
    let s := s.count m.counters .accepted 1
    (true, s.log (acceptedEntry (s.registry m.registry).size))
  | _, _ => (added, s)

/-- A handle is forgotten; a manager counts and logs it when it was tracked. -/
def forget (s : Site) (target : Target) (h : Handle) : Bool × Site :=
  let (removed, s) := s.erase target.registryIndex h
  match target, removed with
  | .manager m, true =>
    let s := s.count m.counters .closed 1
    (true, s.log (closedEntry (s.registry m.registry).size))
  | _, _ => (removed, s)

/-- A drain; a manager counts what it destroyed when the drain has come to its end. -/
def sweep (call : Abort) (s : Site) (target : Target) : Except Fault Nat × Site :=
  match target, drain call target.registryIndex s with
  | .manager m, (.ok n, s) => (.ok n, s.count m.counters .destroyed n)
  | _, answer => answer

/-- Answers one request; `call` runs the abort calls that it makes. -/
def answer (call : Abort) (target : Target) (s : Site) : Request → Except Fault Reply × Site
  | .record h => let (b, s) := s.record target h; (.ok (.flag b), s)
  | .forget h => let (b, s) := s.forget target h; (.ok (.flag b), s)
  | .drain => let (n, s) := sweep call s target; (n.map .count, s)
  | .report => (s.reportOf target, s)
  | .size => (.ok (.count (s.registry target.registryIndex).size), s)
  | .live =>
    match target with
    | .manager m => (.ok (.count (s.registry m.registry).size), s)
    | .registry _ => (.error (.noAttribute "ConnectionRegistry" "live_connections"), s)
  | .contains h => (.ok (.flag (decide (h ∈ s.registry target.registryIndex))), s)
  | .containsValue v => ((v.key 0).map fun _ => .flag false, s)
  | .snapshot => (.ok (.names (s.registry target.registryIndex).members), s)
  | .snapshotClear =>
    let n := (s.registry target.registryIndex).size
    (.ok (.sizes n n), s)
  | .close h => (.ok .done, s.setTransport h { s.transport h with closing := true })
  | .break h f => (.ok .done, s.setTransport h { s.transport h with closingFault := f })
  | .abort h =>
    match call h (s.note (.aborted none h)) with
    | (none, s) => (.ok .done, s)
    | (some f, s) => (.error f, s)

/-- Makes requests in order, noting the answers, up to the first fault. -/
def follow (step : Site → Errand → Except Fault Reply × Site) :
    List Errand → Site → Option Fault × Site
  | [], s => (none, s)
  | e :: es, s =>
    match step s e with
    | (.ok reply, s) => follow step es (s.note (.noted e.request reply))
    | (.error f, s) => (some f, s)

/-- A transport begins to close, unless it is inert, and counts the call. -/
def beginAbort (s : Site) (h : Handle) : Site :=
  let t := s.transport h
  s.setTransport h { t with closing := t.closing || !t.inert, aborts := t.aborts + 1 }

def reaction (s : Site) (h : Handle) : Reaction := (s.transport h).reaction (s.transport h).aborts

/-- Runs an abort call, with calls nested to `depth` at most; its requests go to `self` unless they
have a place of their own. -/
def abort (self : Target) : Nat → Abort
  | 0, _, s => (some .tooDeep, s)
  | depth + 1, h, s =>
    let r := s.reaction h
    match follow (fun s e => answer (abort self depth) e.target s e.request) (r.errands self)
        (s.beginAbort h) with
    | (none, s) => (r.fault, s)
    | (some f, s) => (some f, s)

def nestingLimit : Nat := 1000

/-- Answers one request. Requests made from abort calls go to `self` unless they have a place of
their own. -/
def perform (s : Site) (self target : Target) (q : Request) : Except Fault Reply × Site :=
  answer (abort self nestingLimit) target s q

end Linkcut.Site

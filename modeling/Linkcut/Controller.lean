import Linkcut.Scheduler
import Linkcut.Sessions
import Linkcut.Site.Perform

/-!
The controller of sessions. A session that connects gets a probe and then waits for a signal; a
signal arms a sweep under the name of its session, and the sweep, once it is due, aborts every
tracked connection, whatever session it came from. A pending sweep outlives its session.
-/

set_option autoImplicit false

namespace Linkcut

inductive Probe where
  | delivered
  | failed (fault : Fault)
  /-- The probe waits until the name is released. -/
  | held (name : String)
  deriving Repr, Inhabited

structure Message where
  event : String
  payload : String
  sid : Sid
  deriving DecidableEq, Repr, Inhabited

structure SessionReport where
  active : Nat
  /-- Live sessions with a pending sweep. -/
  armed : Nat
  pending : Nat
  delayMillis : Int
  /-- How many live sessions are in each phase that has any. -/
  phases : List (Phase × Nat)
  deriving DecidableEq, Repr, Inhabited

structure Sweep where
  /-- The session whose signal armed it. -/
  sid : Sid
  time : Instant
  /-- The connections that were tracked when it began. -/
  tracked : List Handle
  deriving DecidableEq, Repr, Inhabited

structure Controller where
  site : Site := {}
  manager : Manager := {}
  sessions : Sessions := .empty
  scheduler : Scheduler Sid Unit
  /-- Probes that wait, by name. -/
  inFlight : List (String × Sid) := []
  /-- Messages sent, the newest first. -/
  sent : List Message := []
  /-- Sweeps run, the newest first. -/
  swept : List Sweep := []

namespace Controller

instance : Inhabited Controller := ⟨{ scheduler := default }⟩

def log (c : Controller) (level : Level) (message : String) (fields : List (String × Value)) :
    Controller :=
  { c with site := c.site.log { level, logger := Log.controllerName, message, fields } }

def count (c : Controller) (k : Counter) (n : Int) : Controller :=
  { c with site := c.site.count c.manager.counters k n }

def setPhase (c : Controller) (sid : Sid) (p : Phase) : Controller :=
  { c with sessions := c.sessions.put sid p }

/-- Changes the phase of a session, if it is live. -/
def changePhase (c : Controller) (sid : Sid) (p : Phase) : Controller :=
  { c with sessions := c.sessions.change sid p }

def live (c : Controller) : Nat := (c.site.registry c.manager.registry).size

def probeEvent : String := "message"
def probePayload : String := "test"

def send (c : Controller) (sid : Sid) : Controller :=
  { c with sent := ⟨probeEvent, probePayload, sid⟩ :: c.sent }

/-- After its probe a session waits for a signal, unless it has moved on meanwhile. -/
def afterProbe (c : Controller) (sid : Sid) : Controller :=
  if c.sessions.get? sid = some .probeSent then c.setPhase sid .waitingForSignal else c

/-- A probe comes to its end. A failed delivery is counted; any other fault is the caller's, and
leaves the session as it is. -/
def endProbe (c : Controller) (sid : Sid) : Option Fault → Option Fault × Controller
  | none => (none, (c.count .probesSent 1).afterProbe sid)
  | some f =>
    if f.isDelivery then
      let c := c.count .probesFailed 1
      let c := c.log .warning "Failed to send probe" [("sid", .str sid), ("error", .str f.message)]
      (none, c.afterProbe sid)
    else (some f, c)

inductive Progress where
  | finished
  | waiting
  deriving DecidableEq, Repr, Inhabited

def connect (c : Controller) (sid : Sid) (probe : Probe) : Except Fault Progress × Controller :=
  let c := (c.setPhase sid .established).count .established 1
  let c := c.log .info "Client connected"
    [("sid", .str sid), ("live_connections", .int c.live)]
  let c := (c.setPhase sid .probeSent).send sid
  match probe with
  | .held name => (.ok .waiting, { c with inFlight := c.inFlight ++ [(name, sid)] })
  | .delivered =>
    let (_, c) := c.endProbe sid none
    (.ok .finished, c)
  | .failed f =>
    match c.endProbe sid (some f) with
    | (none, c) => (.ok .finished, c)
    | (some f, c) => (.error f, c)

def release (c : Controller) (name : String) (fault : Option Fault) :
    Except Fault Progress × Controller :=
  match c.inFlight.lookup name with
  | none => (.ok .finished, c)
  | some sid =>
    let c := { c with inFlight := c.inFlight.eraseP (·.1 == name) }
    match c.endProbe sid fault with
    | (none, c) => (.ok .finished, c)
    | (some f, c) => (.error f, c)

/-- A session disconnects, for a reason that only the log sees. -/
def disconnect (c : Controller) (sid : Sid) (reason : Value) : Controller :=
  match c.sessions.get? sid with
  | none => c
  | some p =>
    let c := { c with sessions := c.sessions.erase sid }.count .ended 1
    c.log .info "Client disconnected"
      [("sid", .str sid), ("reason", reason), ("last_state", .str p.text)]

/-- The handler of new sessions: two arguments may follow the session, and say nothing. -/
def onConnect (c : Controller) (sid : Sid) (args : List Value) (probe : Probe) :
    Except Fault Progress × Controller :=
  if args.length ≤ 2 then c.connect sid probe
  else (.error (.tooManyArguments "SessionController.on_connect" "from 2 to 4" true
    (args.length + 2)), c)

/-- The handler of sessions that end: a reason may follow the session. -/
def onDisconnect (c : Controller) (sid : Sid) (args : List Value) : Option Fault × Controller :=
  if args.length ≤ 1 then (none, c.disconnect sid (args.headD .none))
  else (some (.tooManyArguments "SessionController.on_disconnect" "from 2 to 3" true
    (args.length + 2)), c)

/-- The delay in milliseconds, unless it is in no unit. -/
def delayMillis (c : Controller) : Except Fault Int := c.scheduler.delay.millis

/-- A signal arms a sweep, unless one is pending for the session. It is counted first, even where no
sweep can be armed. -/
def signal (c : Controller) (sid : Sid) : Option Fault × Controller :=
  let c := c.count .signals 1
  match c.scheduler.arm sid () with
  | (.error f, _) => (some f, c)
  | (.ok false, _) =>
    let c := c.count .duplicates 1
    (none, c.log .info "Disconnect already scheduled, ignoring signal" [("sid", .str sid)])
  | (.ok true, scheduler) =>
    let c := { c with scheduler }.changePhase sid .disconnectArmed
    match c.delayMillis with
    | .error f => (some f, c)
    | .ok n =>
      (none, c.log .info s!"Will disconnect all clients in {n} ms" [("sid", .str sid)])

/-- Requests go to the manager, and so do those that abort calls make. -/
def request (c : Controller) (q : Request) : Except Fault Reply × Controller :=
  let target := Target.manager c.manager
  let (answer, site) := c.site.perform target target q
  (answer, { c with site })

def beginSweep (c : Controller) (sid : Sid) : Controller :=
  { c with swept := ⟨sid, c.scheduler.now, (c.site.registry c.manager.registry).members⟩ :: c.swept }

/-- The sweep of a session: every tracked connection is aborted. -/
def sweep (c : Controller) (sid : Sid) : Option Fault × Controller :=
  let target := Target.manager c.manager
  let c := c.beginSweep sid
  match Site.sweep (Site.abort target Site.nestingLimit) c.site target with
  | (.error f, site) => (some f, { c with site })
  | (.ok n, site) =>
    let c := { c with site }.count .executed 1
    let c := c.changePhase sid .terminated
    (none, c.log .info "Forcefully disconnected clients"
      [("destroyed", .int n), ("triggered_by", .str sid)])

/-- Runs the sweep of a timer. An ordinary fault is logged, a fatal one is left to the loop. -/
def fire (c : Controller) (sid : Sid) : Option Fault × Controller :=
  match c.sweep sid with
  | (none, c) => (none, c)
  | (some f, c) =>
    if f.isOrdinary then
      (none, { c with site := c.site.log (Scheduler.failedEntry (.str sid) f) })
    else (some f, c)

/-- Runs every sweep due by `limit`, `count` sweeps at most; the faults left to the loop. -/
def fireDue (limit : Instant) : Nat → Controller → List Fault × Controller
  | 0, c => ([], c)
  | count + 1, c =>
    match c.scheduler.popDue limit with
    | none => ([], c)
    | some (job, scheduler) =>
      let (f, c) := { c with scheduler }.fire job.key
      let (fs, c) := fireDue limit count c
      (f.toList ++ fs, c)

/-- Lets time pass and runs the sweeps that come due meanwhile. No sweep arms another one, so the
timers that wait now bound their number. -/
def advance (c : Controller) (micros : Nat) : List Fault × Controller :=
  let limit := c.scheduler.now + micros
  let (fs, c) := fireDue limit c.scheduler.loop.timers.length c
  (fs, { c with scheduler := c.scheduler.passTo limit })

/-- Cancels every pending sweep; how many there were. -/
def shutdown (c : Controller) : Nat × Controller :=
  let (n, scheduler) := c.scheduler.cancelAll
  let c := { c with scheduler }
  if n = 0 then (0, c)
  else
    let c := c.count .cancelled n
    (n, c.log .info "Cancelled pending sweeps on shutdown" [("count", .int n)])

/-- Sids with a pending sweep and without a live session. -/
def orphans (c : Controller) : List Sid :=
  (c.scheduler.pending.map Prod.fst).filter fun sid => !c.sessions.isLive sid

end Controller
end Linkcut

import Linkcut.Api
import Linkcut.Log.Setup
import Linkcut.Protocol

/-!
Launching: settings with problems are refused, one critical log line for each, and nothing is
served; all others make a server.
-/

set_option autoImplicit false

namespace Linkcut

inductive MessageEvent where
  | connect
  | disconnect
  | message
  | forceDisconnect
  deriving DecidableEq, Repr

namespace MessageEvent

def all : List MessageEvent := [connect, disconnect, message, forceDisconnect]

def text : MessageEvent → String
  | connect => "connect"
  | disconnect => "disconnect"
  | message => Controller.probeEvent
  | forceDisconnect => "force_disconnect"

def label : MessageEvent → String
  | connect => "CONNECT"
  | disconnect => "DISCONNECT"
  | message => "MESSAGE"
  | forceDisconnect => "FORCE_DISCONNECT"

def handler? : MessageEvent → Option String
  | connect => some "on_connect"
  | disconnect => some "on_disconnect"
  | message => none
  | forceDisconnect => some "on_force_disconnect"

end MessageEvent

def handlers : List (String × String) :=
  MessageEvent.all.filterMap fun e => e.handler?.map fun h => (e.text, h)

structure Server where
  host : String
  port : Int
  mount : String
  app : String := "ASGIApp"
  /-- The protocols of requests and of messages, which share their tracker. -/
  http : String := "TrackedH11Protocol"
  messages : String := "TrackedWSProtocol"
  sharedTracker : Bool := true
  lifespan : String := "on"
  accessLog : Bool := false
  events : List String := handlers.map Prod.fst
  origins : String := "*"
  alwaysConnect : Bool := true
  asyncMode : String := "asgi"
  deriving DecidableEq, Repr, Inhabited

/-- The variable that tells how many processes serve. -/
def Server.processesName : String := "WEB_CONCURRENCY"

/-- The server of settings, if their application can be built and the number of processes in the
environment is one. -/
def Server.ofSettings (s : Settings) (environment : Names String) : Except Fault Server := do
  let _ ← Api.ofSettings s (.int 0)
  if let some text := environment.lookup processesName then
    let _ ← (Value.str text).toWhole
  return { host := s.host, port := s.port, mount := Api.mountPath s.socketPath }

namespace Launch

def refusal (message : String) : Log.Call :=
  ⟨"critical", [.str "Invalid configuration"], [("error", .str message)]⟩

structure Outcome where
  exit : Option Nat := none
  fault : Option Fault := none
  output : String := ""
  served : List Server := []
  deriving Repr, Inhabited

def outputOf (s : Settings) (most : Nat) (now : Log.Moment) (cs : List Log.Call) : String :=
  let setup := Log.Setup.ofSettings s
  (cs.foldl (fun (written, loggers) c =>
    let (_, lines, loggers) := setup.call most now Log.rootName c loggers
    (written ++ lines, loggers)) ("", setup.loggers)).1

def run (s : Settings) (environment : Names String) (most : Nat) (now : Log.Moment) : Outcome :=
  match s.validate most with
  | .error f => { fault := some f }
  | .ok [] =>
    match Server.ofSettings s environment with
    | .ok server => { served := [server] }
    | .error f => { fault := some f }
  | .ok messages => { exit := some 1, output := outputOf s most now (messages.map refusal) }

end Launch
end Linkcut

import Linkcut.Text.Blank
import Linkcut.Value

/-!
Settings: six fields with defaults. `Settings.problems` names what would not work although it can be
read, and `Settings.validate` tells it.
-/

set_option autoImplicit false

namespace Linkcut

structure Settings where
  host : String := "0.0.0.0"
  port : Int := 4206
  socketPath : String := "socket.io"
  delayMillis : Int := 2000
  environment : String := "development"
  debug : Bool := false
  deriving DecidableEq, Repr, Inhabited

namespace Settings

/-- The fields, in order. -/
inductive Field where
  | host
  | port
  | socketPath
  | delayMillis
  | environment
  | debug
  deriving DecidableEq, Repr

namespace Field

def all : List Field := [host, port, socketPath, delayMillis, environment, debug]

theorem mem_all (f : Field) : f ∈ all := by cases f <;> decide

def name : Field → String
  | host => "host"
  | port => "port"
  | socketPath => "socketio_path"
  | delayMillis => "force_disconnect_delay_ms"
  | environment => "environment"
  | debug => "debug"

def names : List String := all.map name

end Field

/-- The fields as values, by name. -/
def toFields (s : Settings) : List (String × Value) :=
  [(Field.host.name, .str s.host), (Field.port.name, .int s.port),
   (Field.socketPath.name, .str s.socketPath), (Field.delayMillis.name, .int s.delayMillis),
   (Field.environment.name, .str s.environment), (Field.debug.name, .bool s.debug)]

/-- The delay in seconds, if it is a finite number. -/
def delaySeconds (s : Settings) : Except Fault Double :=
  match Double.quotient? s.delayMillis 1000 with
  | some x => .ok x
  | none => .error .quotientTooLarge

inductive Problem where
  | port (n : Int)
  | negativeDelay (n : Int)
  | slashes
  | debugInProduction
  deriving DecidableEq, Repr

/-- What is told of a problem. -/
def Problem.text : Problem → String
  | port n => s!"PORT must be between 0 and 65535, got {n}"
  | negativeDelay n => s!"FORCE_DISCONNECT_DELAY_MS must not be negative (got {n})"
  | slashes => "SOCKETIO_PATH must not start or end with '/'"
  | debugInProduction => "DEBUG must be False in production"

/-- Whether the number that is told, if there is one, is short enough. -/
def Problem.isShort (most : Nat) : Problem → Bool
  | port n | negativeDelay n => Linkcut.isShort most n
  | slashes | debugInProduction => true

def Problem.message (most : Nat) (p : Problem) : Except Fault String :=
  if p.isShort most then .ok p.text else .error (.integerTooLong most)

/-- The path without the slashes at both ends. -/
def strippedPath (s : Settings) : List Char := Text.trim (· == '/') s.socketPath.toList

def problems (s : Settings) : List Problem :=
  (if 0 ≤ s.port ∧ s.port ≤ 65535 then [] else [.port s.port]) ++
  (if s.delayMillis < 0 then [.negativeDelay s.delayMillis] else []) ++
  (if s.strippedPath = s.socketPath.toList then [] else [.slashes]) ++
  (if s.environment = "production" ∧ s.debug then [.debugInProduction] else [])

/-- The messages of the problems, in order. -/
def validate (s : Settings) (most : Nat) : Except Fault (List String) :=
  s.problems.mapM (Problem.message most)

end Settings
end Linkcut

import Linkcut.Log.Call
import Linkcut.Settings

/-!
How settings set up the log: one handler that writes lines to the standard output, with a level for
all loggers but those of other libraries that would say too much.
-/

set_option autoImplicit false

namespace Linkcut.Log

structure Setup where
  level : Level
  form : Form
  debug : Bool
  deriving DecidableEq, Repr, Inhabited

namespace Setup

/-- Debugging lowers the level; production writes JSON. -/
def ofSettings (s : Settings) : Setup :=
  { level := if s.debug then .debug else .info
    form := if s.environment = "production" then .json else .console
    debug := s.debug }

/-- Libraries whose loggers have levels of their own. -/
def libraryLevels : Names Level :=
  [("uvicorn.access", .warning), ("uvicorn.error", .info), ("socketio", .warning),
   ("engineio", .warning)]

/-- Libraries whose loggers are there before any can take fields. -/
def plainNames : List String :=
  ["asyncio", "concurrent.futures", "dotenv.main", "engineio.client", "engineio.server", "socketio",
   "socketio.client", "socketio.server", "uvicorn.error"]

def ownNames : List String :=
  [rootName, registryName, managerName, schedulerName, controllerName]

/-- The threshold of the outermost logger before any setup. -/
def unset : Level := .warning

def before : Loggers :=
  { outermost :=
      { name := Loggers.outermostName, kind := .outermost, threshold := .number unset }
    named := plainNames.map (fun name => (name, { name, kind := .plain })) ++
      ownNames.map fun name => (name, { name }) }

def loggers (s : Setup) : Loggers :=
  libraryLevels.foldl (fun ls e =>
    let seat := Loggers.seat e.1
    ls.set { ls.get seat with threshold := .number e.2 } seat)
    { before with
      outermost :=
        { before.outermost with threshold := .number s.level, handlers := [.writer] } }

/-- The place in the program where fields are put into records. -/
def source : Source := ⟨"logging.py", 103, some "_log_with_data"⟩

/-- The handler. A record that cannot be written is lost. -/
def writer (s : Setup) (most : Nat) (now : Moment) : Writer :=
  { level := s.level, form := s.form, now, debug := s.debug, most, strict := false }

/-- Calls the logger of a name: what the call gives back, and what it writes to the standard output.
-/
def call (s : Setup) (most : Nat) (now : Moment) (name : String) (c : Call) (ls : Loggers) :
    Except Fault Value × String × Loggers :=
  let seat := Loggers.seat name
  let (r, lines, ls) := c.make { seat, writer := s.writer most now, source } (ls.enter seat)
  (r, String.join (lines.map (· ++ "\n")), ls)

end Setup
end Linkcut.Log

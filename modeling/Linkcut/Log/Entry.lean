import Linkcut.Value

/-!
Log entries: a level, the name of the logger, a message, named fields in order, and perhaps a
fault. Levels are numbers; five of them and the lowest have names.
-/

set_option autoImplicit false

namespace Linkcut

abbrev Level := Int

namespace Level

def debug : Level := 10
def info : Level := 20
def warning : Level := 30
def error : Level := 40
def critical : Level := 50

def names : List (Level × String) :=
  [(0, "NOTSET"), (debug, "DEBUG"), (info, "INFO"), (warning, "WARNING"), (error, "ERROR"),
   (critical, "CRITICAL")]

/-- The name of a level; a level without one is shown by its number. -/
def text (l : Level) : String :=
  match names.lookup l with
  | some s => s
  | none => "Level " ++ toString (l : Int)

/-- Names that levels may be given by: two of them have another one. -/
def ofText? (s : String) : Option Level :=
  (("WARN", warning) :: ("FATAL", critical) :: names.map fun e => (e.2, e.1)).lookup s

end Level

namespace Log

structure Entry where
  level : Level
  logger : String
  message : String
  fields : List (String × Value) := []
  fault : Option Fault := none
  deriving Repr, Inhabited

def rootName : String := "reconnect_harness"

def registryName : String := rootName ++ ".components.connection.registry"
def managerName : String := rootName ++ ".connection_manager"
def schedulerName : String := rootName ++ ".core.session.scheduler"
def controllerName : String := rootName ++ ".core.session.controller"

end Log
end Linkcut

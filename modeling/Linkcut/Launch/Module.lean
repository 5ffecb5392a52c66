import Linkcut.Launch
import Linkcut.Settings.Load

/-!
Modules: the program can be entered by the name of one of its modules, whose parts have points
between them. Some launch it, some end at once, and packages without an entry of their own cannot be
run. `Module.ofName` finds the module of a name, or why there is none.
-/

set_option autoImplicit false

namespace Linkcut.Launch

inductive Module where
  | launcher
  /-- Reads the settings, and no more. -/
  | reader
  /-- Does nothing of its own. -/
  | idle
  /-- Holds other modules and cannot be run. -/
  | package
  /-- Holds other modules and launches the program. -/
  | program
  deriving DecidableEq, Repr, Inhabited

namespace Module

def isPackage : Module → Bool
  | package | program => true
  | _ => false

/-- The modules below the root, by name. -/
def parts : List (String × Module) :=
  [("__main__", launcher), ("server", launcher), ("main", idle), ("connection_manager", idle),
   ("config", package), ("config.settings", reader), ("config.logging", idle),
   ("core", package), ("core.session", package), ("core.session.controller", idle),
   ("core.session.scheduler", idle), ("components", package), ("components.connection", package),
   ("components.connection.registry", idle), ("components.connection.transport", idle),
   ("components.core", package), ("components.core.constants", idle),
   ("components.metrics", package), ("components.metrics.collector", idle),
   ("components.metrics.prometheus", idle)]

def all : List (String × Module) :=
  (Log.rootName, program) :: parts.map fun (n, m) => (Log.rootName ++ "." ++ n, m)

def find? (name : String) : Option Module := all.lookup name

/-- The names above a name, the shortest first. -/
def above (name : String) : List String :=
  let words := name.splitOn "."
  (List.range (words.length - 1)).map fun n => ".".intercalate (words.take (n + 1))

inductive Missing where
  | relative
  /-- The name lies in a package that does not hold it. -/
  | absent (name : String)
  /-- A package without an entry of its own. -/
  | noEntry (package : String)
  /-- The name above it lies in nothing, or in a module that is no package. -/
  | noPackage (name above : String) (outer : Option String)
  /-- The name lies in a module that is no package. -/
  | notPackage (name above : String)
  deriving DecidableEq, Repr, Inhabited

/-- The end of a file's name, which is no part of the name of its module. -/
def fileEnding : String := ".py"

/-- The account of a search that failed, with advice where the name is one of a file. -/
def Missing.searchText (name why : String) : String :=
  let n := Text.quote name
  let advice :=
    if name.endsWith fileEnding then
      let stem := (name.dropEnd fileEnding.length).toString
      s!". Try using '{stem}' instead of '{name}' as the module name."
    else ""
  s!"Error while finding module specification for {n} (ModuleNotFoundError: {why})" ++ advice

def Missing.message : Missing → String
  | relative => "Relative module names not supported"
  | absent n => "No module named " ++ n
  | noEntry p =>
    s!"No module named {p}.__main__; {Text.quote p} is a package and cannot be directly executed"
  | noPackage n a none => searchText n s!"No module named {Text.quote a}"
  | noPackage n a (some o) =>
    searchText n s!"No module named {Text.quote a}; {Text.quote o} is not a package"
  | notPackage n a =>
    searchText n
      s!"__path__ attribute not found on {Text.quote a} while trying to find {Text.quote n}"

/-- What is wrong with the first of the names above a name that is no package. -/
def missingAbove (name : String) : List String → Option Missing
  | [] => none
  | a :: rest =>
    match find? a, rest with
    | none, _ => some (.noPackage name a none)
    | some m, rest =>
      if m.isPackage then missingAbove name rest
      else match rest with
        | [] => some (.notPackage name a)
        | b :: _ => some (.noPackage name b (some a))

def ofName (name : String) : Except Missing Module :=
  if name.startsWith "." then .error .relative
  else match missingAbove name (above name), find? name with
    | some m, _ => .error m
    | none, some package => .error (.noEntry name)
    | none, some m => .ok m
    | none, none => .error (.absent name)

/-- Runs a module. Only one that asks for the settings is refused with them. -/
def run (m : Module) (settings : Except Settings.Refusal Settings) (environment : Names String)
    (most : Nat) (now : Log.Moment) : Except Settings.Refusal Outcome := do
  match m with
  | launcher | program => return Launch.run (← settings) environment most now
  | reader =>
    let _ ← settings
    return {}
  | idle | package => return {}

end Module
end Linkcut.Launch

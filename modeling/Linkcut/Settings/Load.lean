import Linkcut.Settings.Directions
import Linkcut.Settings.Entry

/-!
Where settings come from: the command line, arguments, the environment and an environment file, in
that order of precedence. Some arguments set no field and say how the others are read.
-/

set_option autoImplicit false

namespace Linkcut.Settings

/-- Arguments under the names of their fields, which may be in letters of any case; of two for one
field the first counts. Directions are left out. -/
def ofArguments (arguments : Names Value) : Names Value :=
  let fields := Field.names.filterMap fun name =>
    (arguments.find? fun a => Text.lower a.1 == name).map fun a => (name, a.2)
  fields ++ arguments.filter fun a =>
    !Field.names.contains (Text.lower a.1) && !Directions.all.contains a.1

/-- Entries from all that directions name. The file is read before the command line, and both before
it shows whether the environment can be. -/
def gather (arguments : Names Value) (environment : Names String) (file : Option (List UInt8)) :
    Except Refusal (Names Value) := do
  let ds : Directions := arguments
  let (scope, text) ← Except.mapError .fault do
    ds.checkParts
    return (← ds.scope, ← ds.fileText environment file)
  let fromLine ← ds.lineEntries
  let reading ← (ds.reading scope).mapError .misdirected
  ds.checkSecrets environment file.isSome
  let fromFile : Names Value := text.elim [] (reading.ofFile environment)
  let fromEnvironment := reading.ofEnvironment environment
  return ((fromFile.enterAll fromEnvironment).enterAll (ofArguments arguments)).enterAll fromLine

/-- Reads settings, with the bytes of the environment file if there is one. Sources among the
arguments take the place of all others. -/
def load (arguments : List (String × Value)) (environment : List (String × String))
    (file : Option (List UInt8)) : Except Refusal Settings := do
  let arguments := Names.ofPairs arguments
  match Directions.said? arguments "_build_sources" with
  | some v =>
    (Directions.checkSources v).mapError .fault
    return {}
  | none =>
    (ofEntries (← gather arguments (Names.ofPairs environment) file)).mapError .rejected

end Linkcut.Settings

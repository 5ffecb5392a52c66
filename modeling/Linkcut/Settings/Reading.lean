import Linkcut.EnvFile
import Linkcut.Settings
import Linkcut.Text.Lower

/-!
How the environment and its file set fields: which names count, and what their texts stand for.
-/

set_option autoImplicit false

namespace Linkcut.Settings

structure Reading where
  /-- The names are the fields' own, letter for letter. -/
  exactCase : Bool := false
  /-- What stands before the name of each field. -/
  scope : String := ""
  /-- The bare names of the fields say nothing in a file, unless they set a field. -/
  skipsBare : Bool := false
  /-- An empty text is no value. -/
  skipsEmpty : Bool := false
  /-- The text that stands for nothing. -/
  nothing : Option String := none
  deriving DecidableEq, Repr, Inhabited

namespace Reading

def name (r : Reading) (s : String) : String := if r.exactCase then s else Text.lower s

def fieldName (r : Reading) (field : String) : String := r.name (r.scope ++ field)

def value (r : Reading) (s : String) : Value := if r.nothing = some s then .none else .str s

def entries (r : Reading) (texts : Names (Option String)) : Names (Option String) :=
  Names.ofPairs <| (texts.filter fun e => !(r.skipsEmpty && e.2 == some "")).map fun e =>
    (r.name e.1, e.2)

def fields (r : Reading) (entries : Names (Option String)) : Names Value :=
  Field.names.filterMap fun field =>
    (entries.lookup (r.fieldName field)).bind fun t => t.map fun s => (field, r.value s)

def others (r : Reading) (entries : Names (Option String)) : Names Value :=
  let own := r.fields entries
  entries.filterMap fun e =>
    let known := (own.lookup e.1).isSome || (Field.names.map r.fieldName).contains e.1 ||
      (r.skipsBare && Field.names.contains e.1)
    e.2.bind fun s => if known || s == "" then none else some (e.1, .str s)

def ofEnvironment (r : Reading) (environment : Names String) : Names Value :=
  r.fields (r.entries (environment.map fun e => (e.1, some e.2)))

/-- What an environment file sets, and all else that it holds. -/
def ofFile (r : Reading) (environment : Names String) (text : String) : Names Value :=
  let entries := r.entries (EnvFile.resolve environment (EnvFile.read text))
  r.fields entries ++ r.others entries

end Reading
end Linkcut.Settings

import Linkcut.Settings.Path
import Linkcut.Settings.Reading
import Linkcut.Settings.Refusal

/-!
Directions: arguments that set no field and say where settings are looked for and how they are read.
A direction that is nothing is as good as none.
-/

set_option autoImplicit false

namespace Linkcut.Settings

/-- The arguments that say how to read, by name. -/
abbrev Directions := Names Value

namespace Directions

def all : List String :=
  ["_case_sensitive", "_env_prefix", "_env_file", "_env_ignore_empty", "_env_parse_none_str",
   "_env_file_encoding", "_env_file_depth", "_env_nested_delimiter", "_env_nested_max_split",
   "_env_parse_enums", "_env_prefix_target", "_nested_model_default_partial_update",
   "_secrets_dir", "_cli_prog_name", "_cli_parse_args", "_cli_settings_source",
   "_cli_parse_none_str", "_cli_hide_none_type", "_cli_avoid_json", "_cli_enforce_required",
   "_cli_use_class_docs_for_groups", "_cli_exit_on_error", "_cli_prefix", "_cli_flag_prefix_char",
   "_cli_implicit_flags", "_cli_ignore_unknown_args", "_cli_kebab_case", "_cli_shortcuts",
   "_build_sources"]

def said? (ds : Directions) (name : String) : Option Value :=
  match ds.lookup name with
  | some .none => none
  | v => v

def flag (ds : Directions) (name : String) (unset : Bool) : Bool :=
  (ds.said? name).elim unset Value.isTruthy

/-- The text that stands for nothing. -/
def nothing (ds : Directions) : Option String := (ds.said? "_env_parse_none_str").bind Value.text?

/-- Sources that take the place of all others: none of them leaves every field unset, and no value
is a source. -/
def checkSources (v : Value) : Except Fault Unit := do
  match ← v.elements.mapError fun _ => .notUnpackable v.type with
  | [sources, _] =>
    if sources.isTruthy then
      if let source :: _ := ← sources.elements then throw (.notCallable source.type)
  | vs => throw (if vs.length < 2 then .tooFewToUnpack vs.length else .tooManyToUnpack)

/-- A number of parts, one of which is taken off, or nothing. -/
def checkParts (ds : Directions) : Except Fault Unit :=
  match ds.said? "_env_nested_max_split" with
  | none | some (.bool _) | some (.int _) | some (.float _) => .ok ()
  | some v => if v.isTruthy then .error (.badOperand "-" v.type "int") else .ok ()

/-- What stands before names: a text, or at least a value with a length. -/
def scope (ds : Directions) : Except Fault Value :=
  match ds.said? "_env_prefix" with
  | none => .ok (.str "")
  | some v =>
    match v with
    | .str _ | .phase _ | .bytes _ | .list _ | .tuple _ | .dict _ => .ok v
    | v => .error (.noLength v.type)

/-- The scope belongs to the names of the fields, and not to other names alone. -/
def scopesFields (ds : Directions) : Bool :=
  match ds.said? "_env_prefix_target" with
  | none => true
  | some v => v.text? == some "variable" || v.text? == some "all"

def reading (ds : Directions) (scope : Value) : Except Misdirection Reading := do
  let scopeText ← match ds.scopesFields, scope.text? with
    | true, some s => pure s
    | true, none => throw .scopeNotText
    | false, _ => pure ""
  return { exactCase := ds.flag "_case_sensitive" false, scope := scopeText,
           skipsBare := scope.isTruthy, skipsEmpty := ds.flag "_env_ignore_empty" false,
           nothing := ds.nothing }

def encoding (ds : Directions) : Except Fault Text.Encoding :=
  match ds.said? "_env_file_encoding" with
  | none => .ok (.utf8 false)
  | some v =>
    match v.text? with
    | none => .error (.encodingNotText v.type)
    | some s =>
      if s.contains '\x00' then .error .nullInName
      else (Text.Encoding.ofName s).mapError .unreadable

/-- The text of the file, if one of the paths that are asked for leads there. -/
def fileText (ds : Directions) (environment : Names String) (file : Option (List UInt8)) :
    Except Fault (Option String) := do
  let paths ← match ds.lookup "_env_file" with
    | none => pure [.str fileName]
    | some .none => pure []
    | some v => Path.among v
  paths.foldlM (fun text v => do
    match file, ← Path.ofValue environment v with
    | some bytes, some p =>
      if ← p.leadsToFile then
        return some (← ((← ds.encoding).decode bytes).mapError .unreadable)
      else return text
    | none, some p =>
      let _ ← p.leadsToFile
      return text
    | _, none => return text) none

/-- Secrets lie in directories, each value in a file of its own; no file of a field's name lies in
one that can be named. -/
def checkSecrets (ds : Directions) (environment : Names String) (hasFile : Bool) :
    Except Refusal Unit := do
  let some v := ds.said? "_secrets_dir" | return
  let leads ← Except.mapError .fault do
    let paths ← (← Path.among v).mapM (Path.ofValue environment)
    (paths.filterMap id).mapM Path.leadsToFile
  if hasFile && leads.contains true then throw (.misdirected .secretsInFile)

/-- A name, or several with points between them. -/
def isDottedName (s : String) : Bool :=
  let isStart (c : Char) : Bool := c.isAlpha || c == '_' || 0x80 ≤ c.toNat
  let cs := s.toList.filter (· != '.')
  !s.startsWith "." && !s.endsWith "." && (cs.head?.any isStart) &&
    cs.all fun c => isStart c || c.isDigit

def lineScope (ds : Directions) : Except Refusal String :=
  match ds.said? "_cli_prefix" with
  | none => .ok ""
  | some v =>
    match v.text? with
    | some "" => .ok ""
    | some s => if isDottedName s then .ok (s ++ ".") else .error (.misdirected (.badLineScope s))
    | none =>
      .error (.fault (if v.isTruthy then .noAttribute v.type "startswith" else .noLength v.type))

def commandLine (ds : Directions) (scope : String) : CommandLine :=
  let bare := if ds.said? "_cli_avoid_json" matches some (.bool true) then "None" else "null"
  let own := match ds.said? "_cli_parse_none_str" with
    | some v => if v.isTruthy then v.text? else some bare
    | none => some bare
  { exactCase := ds.flag "_case_sensitive" false, scope
    dashed := ds.flag "_cli_kebab_case" false
    paired := ds.flag "_cli_implicit_flags" false
    lenient := ds.flag "_cli_ignore_unknown_args" false
    nothing := if ds.flag "_env_parse_none_str" false then ds.nothing else own }

/-- The arguments of a command line: none where it is no or zero; where it is yes they are those of
the program, which has none. -/
def arguments (line : Value) : Except Misdirection (Option (List Value)) :=
  match line with
  | .bool b => .ok (if b then some [] else none)
  | .int 0 => .ok none
  | .float x => if x.isZero then .ok none else .error (.lineNotListed line.type)
  | .list vs | .tuple vs => .ok (some vs)
  | _ => .error (.lineNotListed line.type)

/-- The statuses with which a program ends after a mistake on its command line, and after help. -/
def mistakenStatus : Int := 2
def helpStatus : Int := 0

/-- What the command line sets, if there is one. A mistake on it ends the program, unless directions
say that it does not. -/
def lineEntries (ds : Directions) : Except Refusal (Names Value) := do
  let some line := ds.said? "_cli_parse_args" | return []
  let c := ds.commandLine (← ds.lineScope)
  let some vs ← (arguments line).mapError .misdirected | return []
  let line ← (vs.mapM c.argument).mapError .fault
  match c.entries line with
  | .ok entries => return entries
  | .error .help => throw (.fault (.exit helpStatus))
  | .error m =>
    throw (if ds.flag "_cli_exit_on_error" true then .fault (.exit mistakenStatus)
      else .misdirected (.badLine m))

end Directions
end Linkcut.Settings

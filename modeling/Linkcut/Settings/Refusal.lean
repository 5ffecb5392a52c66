import Linkcut.Settings.CommandLine
import Linkcut.Settings.Rejection

/-!
Why settings cannot be had: values that are rejected, directions that cannot be followed, or faults
on the way.
-/

set_option autoImplicit false

namespace Linkcut.Settings

inductive Misdirection where
  /-- No name can be made of what should stand before the names of the fields. -/
  | scopeNotText
  | secretsInFile
  | lineNotListed (type : String)
  | badLineScope (text : String)
  | badLine (mistake : CommandLine.Mistake)
  deriving DecidableEq, Repr, Inhabited

def Misdirection.message : Misdirection → String
  | scopeNotText =>
    s!"error getting value for field \"{Field.host.name}\" from source \"EnvSettingsSource\""
  | secretsInFile => "secrets_dir must reference a directory, not a file"
  | lineNotListed t =>
    s!"cli_parse_args must be a list or tuple of strings, received <class '{t}'>"
  | badLineScope s => s!"CLI settings source prefix is invalid: {s}"
  | badLine m => "error parsing CLI: " ++ m.message

inductive Refusal where
  | rejected (rs : List Rejection)
  | misdirected (m : Misdirection)
  | fault (f : Fault)
  deriving Repr, Inhabited

end Linkcut.Settings

import Linkcut.Names
import Linkcut.Value

/-!
Paths: their parts, what stands for a home directory at their start, and whether they lead to the
environment file, which lies in the directory of the program.
-/

set_option autoImplicit false

namespace Linkcut.Settings

def fileName : String := ".env"

/-- A path by its parts, without those that say nothing. -/
structure Path where
  isAbsolute : Bool
  parts : List String
  deriving DecidableEq, Repr, Inhabited

namespace Path

def ofText (s : String) : Path :=
  ⟨s.startsWith "/", (s.splitOn "/").filter fun part => part != "" && part != "."⟩

def text (p : Path) : String := (if p.isAbsolute then "/" else "") ++ "/".intercalate p.parts

def homeName : String := "HOME"

/-- Users who have a home directory on every system, none of them that of the program. -/
def systemUsers : List String :=
  ["root", "daemon", "bin", "sys", "sync", "games", "man", "lp", "mail", "news", "uucp", "proxy",
   "www-data", "backup", "list", "irc", "nobody", "_apt"]

/-- The directory that the first part of a path stands for: the home directory of the environment,
or else one elsewhere. -/
def home (environment : Names String) (user : String) : Except Fault (Option Path) :=
  if user = "" then
    match environment.lookup homeName with
    | some s =>
      if s.startsWith "~" then .error .noHome
      else .ok (some { ofText s with isAbsolute := s.startsWith "/" || s == "" })
    | none => .ok none
  else if systemUsers.contains user then .ok none
  else .error .noHome

/-- A path with its home directory written out, unless that lies elsewhere. -/
def expand (environment : Names String) (p : Path) : Except Fault (Option Path) :=
  match p.isAbsolute, p.parts with
  | false, first :: rest =>
    match first.toList with
    | '~' :: user => do
      let directory ← home environment (String.ofList user)
      return directory.map fun d => { d with parts := d.parts ++ rest }
    | _ => .ok (some p)
  | _, _ => .ok (some p)

/-- The most bytes of a path, and of one of its parts. -/
def mostBytes : Nat := 4095
def mostPartBytes : Nat := 255

/-- Parts are looked up one by one, and a directory that is missing ends the search. -/
def isTooLong (p : Path) : Bool :=
  mostBytes < p.text.utf8ByteSize ||
    (p.parts.dropWhile (· == "..")).head?.any fun part => mostPartBytes < part.utf8ByteSize

def leadsToFile (p : Path) : Except Fault Bool :=
  if p.isTooLong then .error (.pathTooLong (Text.quote p.text))
  else .ok (!p.isAbsolute && p.parts == [fileName])

/-- The path that a value is, unless it lies elsewhere. -/
def ofValue (environment : Names String) (v : Value) : Except Fault (Option Path) :=
  match v, v.text? with
  | _, some s => expand environment (ofText s)
  | .bytes _, none => .error .bytesForPath
  | v, none => .error (.notAPath v.type)

/-- The values that are paths: a text alone, or the elements of a value. -/
def among (v : Value) : Except Fault (List Value) := if v.text?.isSome then .ok [v] else v.elements

end Path
end Linkcut.Settings

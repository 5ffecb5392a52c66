import Linkcut.Names
import Linkcut.Settings
import Linkcut.Text.Lower
import Linkcut.Text.Numeral

/-!
The command line: each field of the settings has a flag, and the argument of the flag, joined to it
by an equals sign or next to it, is the text of the field. A field of yes and no may have two flags
without arguments in its place. What is no flag and no argument of one is left over.
-/

set_option autoImplicit false

namespace Linkcut.Settings

structure CommandLine where
  /-- Flags are told apart by the case of their letters. -/
  exactCase : Bool := false
  /-- What stands before the name of each field. -/
  scope : String := ""
  /-- Dashes take the place of underscores in names. -/
  dashed : Bool := false
  /-- Fields of yes and no have flags without arguments. -/
  paired : Bool := false
  /-- Arguments that are left over do no harm. -/
  lenient : Bool := false
  /-- The text that stands for nothing. -/
  nothing : Option String := some "null"
  deriving DecidableEq, Repr, Inhabited

namespace CommandLine

inductive Flag where
  | help
  | text (f : Field)
  | yesNo (f : Field)
  deriving DecidableEq, Repr

def flags (c : CommandLine) : List Flag :=
  .help :: Field.all.map fun f => if c.paired && f = .debug then .yesNo f else .text f

def fieldName (c : CommandLine) (f : Field) : String :=
  let name := if c.dashed then f.name.map fun a => if a = '_' then '-' else a else f.name
  let name := c.scope ++ name
  if c.exactCase then name else Text.lower name

/-- The flags for yes begin with two dashes, those for no with a word more. -/
def yes : String := "--"
def no : String := "--no-"

def names (c : CommandLine) : Flag → List String
  | .help => ["-h", "--help"]
  | .text f => [yes ++ c.fieldName f]
  | .yesNo f => [yes ++ c.fieldName f, no ++ c.fieldName f]

inductive Mistake where
  | leftOver (arguments : List String)
  /-- A flag has no argument although it takes one. -/
  | noArgument (flag : List String)
  | needlessArgument (flag : List String) (quoted : String)
  | help
  deriving DecidableEq, Repr, Inhabited

def Mistake.message : Mistake → String
  | leftOver ss => "unrecognized arguments: " ++ " ".intercalate ss
  | noArgument ns => "argument " ++ "/".intercalate ns ++ ": expected one argument"
  | needlessArgument ns q =>
    "argument " ++ "/".intercalate ns ++ ": ignored explicit argument " ++ q
  | help => ""

inductive Word where
  /-- A flag by its name, with the argument that is joined to it. -/
  | flag (f : Flag) (name : String) (joined : Option String)
  | unknownFlag
  | plain
  | stop
  deriving DecidableEq, Repr

/-- A whole number or a fraction, with a minus sign. -/
def isNegative : List Char → Bool
  | '-' :: cs =>
    let isDigit (c : Char) : Bool := (Text.digitValue? c).isSome
    match cs.takeWhile isDigit, cs.dropWhile isDigit with
    | _ :: _, [] => true
    | _, '.' :: r => !r.isEmpty && r.all isDigit
    | _, _ => false
  | _ => false

def flag? (c : CommandLine) (name : String) : Option Flag :=
  c.flags.find? fun f => (c.names f).contains name

def splitJoined (s : String) : String × Option String :=
  let cs := s.toList
  (String.ofList (cs.takeWhile (· != '=')),
    match cs.dropWhile (· != '=') with
    | [] => none
    | _ :: r => some (String.ofList r))

def word (c : CommandLine) (s : String) : Word :=
  let (name, joined) := splitJoined s
  match s.toList, c.flag? s, c.flag? name with
  | ['-', '-'], _, _ => .stop
  | _, some f, _ => .flag f s none
  | ['-'], _, _ => .plain
  | '-' :: _ :: _, none, some f => .flag f name joined
  | '-' :: 'h' :: r, none, none =>
    .flag .help "-h" (if r.head? = some '-' then some (String.ofList r) else none)
  | '-' :: cs, none, none =>
    if isNegative ('-' :: cs) || cs.contains ' ' then .plain else .unknownFlag
  | _, none, _ => .plain

/-- What was read of a line: fields, and what is left over. -/
structure Parsed where
  entries : Names Value := []
  leftOver : List String := []
  deriving Repr, Inhabited

def value (c : CommandLine) (s : String) : Value := if c.nothing = some s then .none else .str s

namespace Parsed

def leave (p : Parsed) (ss : List String) : Parsed := { p with leftOver := p.leftOver ++ ss }

def enter (p : Parsed) (f : Field) (v : Value) : Parsed :=
  { p with entries := Names.enter f.name v p.entries }

end Parsed

def read (c : CommandLine) : List String → Parsed → Except Mistake Parsed
  | [], p => .ok p
  | s :: rest, p =>
    match c.word s with
    | .stop => .ok (p.leave (s :: rest))
    | .plain | .unknownFlag => read c rest (p.leave [s])
    | .flag .help _ none => .error .help
    | .flag (.yesNo f) name none => read c rest (p.enter f (.bool (!name.startsWith no)))
    | .flag (.text f) _ (some t) => read c rest (p.enter f (c.value t))
    | .flag f _ (some t) => .error (.needlessArgument (c.names f) (Text.quote t))
    | .flag (.text f) _ none =>
      match rest with
      | t :: rest =>
        if c.word t = .plain then read c rest (p.enter f (c.value t))
        else .error (.noArgument (c.names (.text f)))
      | [] => .error (.noArgument (c.names (.text f)))

/-- A flag in small letters; of what follows it nothing is kept past the end of the line. -/
def lowerFlag (s : String) : String :=
  let cs := s.toList
  let isPart (c : Char) : Bool := c != '=' && !Text.isSpace c
  match cs.takeWhile isPart with
  | '-' :: c :: r =>
    let rest := (cs.dropWhile isPart).takeWhile (· != '\n')
    Text.lower (String.ofList ('-' :: c :: r)) ++ String.ofList rest
  | _ => s

/-- The text of an argument; what is empty or zero is an empty one. -/
def argument (c : CommandLine) (v : Value) : Except Fault String :=
  match v, v.text? with
  | _, some s => .ok (if c.exactCase then s else lowerFlag s)
  | v, none =>
    if !v.isTruthy then .ok ""
    else if c.exactCase then .error (.noElements v.type)
    else match v with
      | .bytes _ => .error .bytesForText
      | v => .error (.notMatchable v.type)

def entries (c : CommandLine) (line : List String) : Except Mistake (Names Value) := do
  let p ← c.read line {}
  if p.leftOver.isEmpty || c.lenient then return p.entries
  throw (.leftOver p.leftOver)

end CommandLine
end Linkcut.Settings

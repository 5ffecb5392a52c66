import Linkcut.Names
import Linkcut.Text.Blank

/-!
Environment files: one binding of a name to a value on each line, with comments, quoted values and
references to other names. A line that is no binding is passed over.
-/

set_option autoImplicit false

namespace Linkcut.EnvFile

open Text

def isLineEnd (c : Char) : Bool := c = '\n' ∨ c = '\r'

/-- Blank, but on the same line. -/
def isInlineSpace (c : Char) : Bool := isSpace c && !isLineEnd c

/-- A reader gives what it read with the rest of the text, or the rest where it failed. -/
abbrev Reader (α : Type) := List Char → Except (List Char) (α × List Char)

def dropExport (cs : List Char) : List Char :=
  let word := "export".toList
  match cs.drop word.length with
  | c :: r => if cs.take word.length = word ∧ isInlineSpace c then r.dropWhile isInlineSpace else cs
  | [] => cs

def isNameChar (c : Char) : Bool := !(c = '=' ∨ c = '#') && !isSpace c

/-- A name, quoted or not; a comment has none. -/
def readName : Reader (Option String)
  | '#' :: r => .ok (none, '#' :: r)
  | '\'' :: r =>
    match r.takeWhile (· != '\''), r.dropWhile (· != '\'') with
    | c :: name, _ :: rest => .ok (some (String.ofList (c :: name)), rest)
    | _, _ => .error ('\'' :: r)
  | cs =>
    match cs.takeWhile isNameChar with
    | [] => .error cs
    | name => .ok (some (String.ofList name), cs.dropWhile isNameChar)

/-- The text up to the mark that closes it, and what follows; a backslash takes the next character
with it, also a mark. -/
def splitQuoted (mark : Char) : List Char → Option (List Char × List Char)
  | [] => none
  | '\\' :: c :: r => (splitQuoted mark r).map fun (t, rest) => ('\\' :: c :: t, rest)
  | c :: r =>
    if c = mark then some ([], r)
    else (splitQuoted mark r).map fun (t, rest) => (c :: t, rest)

/-- The characters that stand for others after a backslash. -/
def doubleEscapes : List (Char × Char) :=
  [('\\', '\\'), ('\'', '\''), ('"', '"'), ('a', '\x07'), ('b', '\x08'), ('f', '\x0c'), ('n', '\n'),
   ('r', '\r'), ('t', '\t'), ('v', '\x0b')]

def singleEscapes : List (Char × Char) := [('\\', '\\'), ('\'', '\'')]

def unescape (escapes : List (Char × Char)) : List Char → List Char
  | [] => []
  | '\\' :: c :: r =>
    match escapes.lookup c with
    | some d => d :: unescape escapes r
    | none => '\\' :: unescape escapes (c :: r)
  | c :: r => c :: unescape escapes r

/-- A quoted value, from after its first mark. -/
def readQuoted (mark : Char) (escapes : List (Char × Char)) : Reader String := fun r =>
  match splitQuoted mark r with
  | some (t, rest) => .ok (String.ofList (unescape escapes t), rest)
  | none => .error (mark :: r)

/-- The text before a comment, which blanks stand before. -/
def beforeComment : List Char → List Char
  | [] => []
  | c :: r =>
    if isSpace c && (r.dropWhile isSpace).head? == some '#' then [] else c :: beforeComment r

/-- A value from after the equals sign, quoted or not. -/
def readValue : Reader String := fun cs =>
  match cs.dropWhile isInlineSpace with
  | '\'' :: r => readQuoted '\'' singleEscapes r
  | '"' :: r => readQuoted '"' doubleEscapes r
  | _ =>
    let line := cs.takeWhile fun c => !isLineEnd c
    .ok (String.ofList (trim isSpace (beforeComment line)), cs.dropWhile fun c => !isLineEnd c)

/-- Blanks, perhaps a comment, and the end of the line. -/
def readEnd : Reader Unit := fun cs =>
  let afterBlanks := cs.dropWhile isInlineSpace
  let (cs, afterBlanks) := match afterBlanks with
    | '#' :: r =>
      let rest := r.dropWhile fun c => !isLineEnd c
      (rest, rest)
    | rest => (cs, rest)
  match afterBlanks with
  | [] => .ok ((), [])
  | '\r' :: '\n' :: r => .ok ((), r)
  | c :: r => if isLineEnd c then .ok ((), r) else .error cs

structure Binding where
  name : String
  /-- A name without an equals sign after it has no value. -/
  value : Option String
  deriving DecidableEq, Repr, Inhabited

/-- A binding, or a comment. -/
def readBinding : Reader (Option Binding) := fun cs => do
  let (name, cs) ← readName (dropExport cs)
  let (value, cs) ← match cs.dropWhile isInlineSpace with
    | '=' :: r => (readValue r).map fun (v, rest) => (some v, rest)
    | rest => pure (none, rest)
  let ((), cs) ← readEnd cs
  return (name.map fun n => ⟨n, value⟩, cs)

def dropLine (cs : List Char) : List Char := (cs.dropWhile fun c => !isLineEnd c).drop 1

/-- Reads at most `count` bindings. -/
def readFrom : Nat → List Char → List Binding
  | 0, _ => []
  | count + 1, cs =>
    match cs.dropWhile isSpace with
    | [] => []
    | cs =>
      match readBinding cs with
      | .ok (b, rest) => b.toList ++ readFrom count rest
      | .error rest => readFrom count (dropLine rest)

/-- Line ends of every kind become line feeds. -/
def unifyLineEnds : List Char → List Char
  | [] => []
  | '\r' :: '\n' :: r => '\n' :: unifyLineEnds r
  | '\r' :: r => '\n' :: unifyLineEnds r
  | c :: r => c :: unifyLineEnds r

/-- A mark of the byte order says nothing. -/
def dropMark : List Char → List Char
  | [] => []
  | c :: r => if c = '\ufeff' then r else c :: r

/-- The bindings of a file. Each takes a character at least, so their number is bounded. -/
def read (text : String) : List Binding :=
  let cs := unifyLineEnds (dropMark text.toList)
  readFrom (cs.length + 1) cs

/-- The name and the text for its absence in a reference, and what follows its closing brace. -/
def readReference (r : List Char) : Option (String × String × List Char) :=
  let stops (c : Char) : Bool := c = '\x7d' ∨ c = ':'
  let name := String.ofList (r.takeWhile fun c => !stops c)
  match r.dropWhile fun c => !stops c with
  | ':' :: '-' :: r =>
    match r.dropWhile (· != '\x7d') with
    | _ :: rest => some (name, String.ofList (r.takeWhile (· != '\x7d')), rest)
    | [] => none
  | '\x7d' :: rest => some (name, "", rest)
  | _ => none

/-- Puts in what names stand for, at most `count` characters or references of the text. -/
def expandFrom (find : String → Option (Option String)) : Nat → List Char → List Char
  | 0, _ | _, [] => []
  | count + 1, '$' :: '\x7b' :: r =>
    match readReference r with
    | some (name, absent, rest) =>
      let value := match find name with
        | some v => v.getD ""
        | none => absent
      value.toList ++ expandFrom find count rest
    | none => '$' :: expandFrom find count ('\x7b' :: r)
  | count + 1, c :: r => c :: expandFrom find count r

def expand (find : String → Option (Option String)) (s : String) : String :=
  String.ofList (expandFrom find s.length s.toList)

/-- The bindings with references put in: a name stands for what was bound before it, or else for its
value in the environment. -/
def resolve (environment : Names String) (bs : List Binding) : Names (Option String) :=
  bs.foldl (fun bound b =>
    let find (name : String) : Option (Option String) :=
      match bound.lookup name with
      | some v => some v
      | none => (environment.lookup name).map some
    Names.enter b.name (b.value.map (expand find)) bound) []

end Linkcut.EnvFile

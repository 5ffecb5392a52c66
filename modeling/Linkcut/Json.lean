import Linkcut.Value

/-!
JSON texts. A value becomes a JSON tree when every key of its dictionaries has a name and every
whole number in it is short enough for a text. A tree is written in one of two styles: in ASCII with
spaces after the marks, or compact.
-/

set_option autoImplicit false

namespace Linkcut

inductive Json where
  | null
  | bool (b : Bool)
  | int (n : Int)
  | real (x : Double)
  | str (s : String)
  | array (xs : List Json)
  | object (members : List (String × Json))
  deriving Repr, Inhabited

namespace Json

/-- How marks are spaced, and which characters stand for themselves in a string. -/
structure Style where
  comma : String
  colon : String
  shown : Char → Bool

/-- One line of ASCII: what is not printable in ASCII is escaped. -/
def Style.line : Style := ⟨", ", ": ", Text.isPrintableAscii⟩

/-- No spaces, and no escapes but those that JSON asks for. -/
def Style.compact : Style := ⟨",", ":", fun c => 0x20 ≤ c.toNat⟩

/-- A UTF-16 unit as an escape. -/
def escapeUnit (n : Nat) : List Char := '\\' :: 'u' :: Text.hex 4 n

/-- A code point as an escape: past the first plane, as two surrogates. -/
def escapeCode (n : Nat) : List Char :=
  if n < 0x10000 then escapeUnit n
  else escapeUnit (0xd800 + (n - 0x10000) / 0x400) ++ escapeUnit (0xdc00 + (n - 0x10000) % 0x400)

def escapeChar (shown : Char → Bool) (c : Char) : List Char :=
  if c = '"' then ['\\', '"']
  else if c = '\\' then ['\\', '\\']
  else if c = '\n' then ['\\', 'n']
  else if c = '\r' then ['\\', 'r']
  else if c = '\t' then ['\\', 't']
  else if c = '\x08' then ['\\', 'b']
  else if c = '\x0c' then ['\\', 'f']
  else if shown c then [c]
  else escapeCode c.toNat

def writeString (shown : Char → Bool) (s : String) : List Char :=
  '"' :: (s.toList.flatMap (escapeChar shown) ++ ['"'])

def intText (n : Int) : List Char := (toString n).toList

def realText : Double → List Char
  | .nan => "NaN".toList
  | .infinite s => if s then "-Infinity".toList else "Infinity".toList
  | x => x.text.toList

/-- Texts with a mark between each two. -/
def joined (mark : String) : List (List Char) → List Char
  | [] => []
  | [t] => t
  | t :: ts => t ++ mark.toList ++ joined mark ts

def write (style : Style) : Json → List Char
  | null => "null".toList
  | bool b => if b then "true".toList else "false".toList
  | int n => intText n
  | real x => realText x
  | str s => writeString style.shown s
  | array xs => '[' :: (joined style.comma (elements style xs) ++ [']'])
  | object ms => '\x7b' :: (joined style.comma (fields style ms) ++ ['\x7d'])
where
  elements (style : Style) : List Json → List (List Char)
    | [] => []
    | x :: xs => write style x :: elements style xs
  fields (style : Style) : List (String × Json) → List (List Char)
    | [] => []
    | (k, v) :: ms =>
      (writeString style.shown k ++ style.colon.toList ++ write style v) :: fields style ms

def render (style : Style) (j : Json) : String := String.ofList (j.write style)

end Json

namespace Value

/-- The name that a key has in a JSON object, if it has one. -/
def fieldName (most : Nat) : Value → Except Fault String
  | str s => .ok s
  | phase p => .ok p.text
  | none => .ok "null"
  | bool b => .ok (if b then "true" else "false")
  | int n => (int n).written most
  | float x => .ok (String.ofList (Json.realText x))
  | v => .error (.badFieldName v.type)

/-- The JSON tree of a value. What JSON has no form for is shown as its plain text. -/
def toJson (most : Nat) : Value → Except Fault Json
  | none => .ok .null
  | bool b => .ok (.bool b)
  | int n => if Linkcut.isShort most n then .ok (.int n) else .error (.integerTooLong most)
  | float x => .ok (.real x)
  | str s => .ok (.str s)
  | phase p => .ok (.str p.text)
  | list xs | tuple xs => do return .array (← elements most xs)
  | dict es => do return .object (← members most es)
  | v@(bytes _) | v@(fault _) | v@(foreign _) => .ok (.str v.show)
where
  elements (most : Nat) : List Value → Except Fault (List Json)
    | [] => .ok []
    | x :: xs => do
      let j ← toJson most x
      let js ← elements most xs
      return j :: js
  members (most : Nat) : List (Value × Value) → Except Fault (List (String × Json))
    | [] => .ok []
    | (k, v) :: es => do
      let name ← k.fieldName most
      let j ← toJson most v
      let js ← members most es
      return (name, j) :: js

end Value
end Linkcut

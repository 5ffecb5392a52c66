import Linkcut.Text.Printable

/-!
Quoted texts: a string or a byte string between quotation marks, with escapes for what would not
show as itself.
-/

set_option autoImplicit false

namespace Linkcut.Text

def hexDigit (n : Nat) : Char := Nat.digitChar (n % 16)

/-- The last `width` hexadecimal digits of a number. -/
def hex : Nat → Nat → List Char
  | 0, _ => []
  | width + 1, n => hex width (n / 16) ++ [hexDigit n]

/-- The single mark, unless the text holds one and no double mark. -/
def quotationMark (cs : List Char) : Char :=
  if cs.contains '\'' && !cs.contains '"' then '"' else '\''

/-- The shortest escape that names the code point. -/
def escapeCode (n : Nat) : List Char :=
  if n < 0x100 then '\\' :: 'x' :: hex 2 n
  else if n < 0x10000 then '\\' :: 'u' :: hex 4 n
  else '\\' :: 'U' :: hex 8 n

/-- One character of a quoted text; `shown` tells which ones stand for themselves. -/
def escapeChar (shown : Char → Bool) (mark c : Char) : List Char :=
  if c = mark ∨ c = '\\' then ['\\', c]
  else if c = '\t' then ['\\', 't']
  else if c = '\n' then ['\\', 'n']
  else if c = '\r' then ['\\', 'r']
  else if shown c then [c]
  else escapeCode c.toNat

def quoteChars (shown : Char → Bool) (cs : List Char) : List Char :=
  let mark := quotationMark cs
  mark :: (cs.flatMap (escapeChar shown mark) ++ [mark])

def quote (s : String) : String := String.ofList (quoteChars isPrintable s.toList)

def isPrintableAscii (c : Char) : Bool := 0x20 ≤ c.toNat && c.toNat < 0x7f

/-- A byte string: the bytes as characters, in ASCII, after the letter b. -/
def quoteBytes (bs : List UInt8) : String :=
  String.ofList ('b' :: quoteChars isPrintableAscii (bs.map fun b => Char.ofNat b.toNat))

def escapeBeyondAscii (s : String) : String :=
  String.ofList (s.toList.flatMap fun c => if c.toNat < 0x80 then [c] else escapeCode c.toNat)

end Linkcut.Text

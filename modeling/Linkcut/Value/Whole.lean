import Linkcut.Text.Blank
import Linkcut.Text.Numeral
import Linkcut.Value

/-!
The whole number that a value stands for: the integer part of a number, or the integer that a text
denotes in digits of any script.
-/

set_option autoImplicit false

namespace Linkcut.Value

/-- The beginning of a text, as faults quote it. -/
def quotedStart (s : String) : String := String.ofList (s.toList.take 200)

/-- Blank around the digits of bytes. -/
def isBlankByte (c : Char) : Bool := c = ' ' ∨ (9 ≤ c.toNat ∧ c.toNat ≤ 13)

/-- Reads a text; blanks around it say nothing. -/
def wholeOfText (digit? : Char → Option Nat) (isBlank : Char → Bool) (quoted : String)
    (cs : List Char) : Except Fault Int :=
  match Text.readWhole digit? (Text.trim isBlank cs) with
  | some n => .ok n
  | Option.none => .error (.badIntegerText (quotedStart quoted))

def toWhole (v : Value) : Except Fault Int :=
  match v with
  | int n => .ok n
  | bool b => .ok (if b then 1 else 0)
  | float x => x.truncate.mapError .noInteger
  | str s => wholeOfText Text.digitValue? Text.isBlank v.repr s.toList
  | bytes bs =>
    wholeOfText Text.asciiDigit? isBlankByte v.repr (bs.map fun b => Char.ofNat b.toNat)
  | phase _ => .error (.badIntegerText (quotedStart v.repr))
  | v => .error (.notConvertible v.type)

end Linkcut.Value

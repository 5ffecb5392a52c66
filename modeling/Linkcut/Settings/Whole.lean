import Linkcut.Settings.Rejection
import Linkcut.Text.Blank

/-!
Whole numbers in settings. A plain text has a minus sign or none, and digits that begin with zero
only where zero is all there is. Any other text is first freed of what says nothing: blanks around
it, a plus sign, zeros in front, a fraction of zeros, and underscores between digits. Too many
digits are told apart only in a text that is plain as it stands.
-/

set_option autoImplicit false

namespace Linkcut.Settings

def digitsValue (ds : List Char) : Nat := ds.foldl (fun n c => 10 * n + (c.toNat - '0'.toNat)) 0

def mostDigits : Nat := 4300

/-- Reads a plain text; too many digits count before what follows them. -/
def plainWhole (cs : List Char) : Except Reason Int :=
  let (negative, cs) := match cs with
    | '-' :: r => (true, r)
    | r => (false, r)
  match cs.takeWhile Char.isDigit, cs.dropWhile Char.isDigit with
  | [], _ | '0' :: _ :: _, _ => .error .noWholeText
  | ds, rest =>
    if mostDigits < ds.length then .error .tooManyDigits
    else if rest.isEmpty then .ok (if negative then -(digitsValue ds : Int) else digitsValue ds)
    else .error .noWholeText

/-- What follows zeros and underscores, from the last character on if that is a point or the end. -/
def dropZeros (last : Char) : List Char → Option (List Char)
  | [] => some [last]
  | c :: r =>
    if c = '0' ∨ c = '_' then dropZeros c r
    else if c.isDigit ∨ c = '-' then some (c :: r)
    else if c = '.' then some (last :: c :: r)
    else none

/-- A text without the zeros in front, if it begins as a number does. -/
def dropLeadingZeros : List Char → Option (List Char)
  | [] => none
  | '0' :: r => dropZeros '0' r
  | c :: r => if c.isDigit ∨ c = '-' then some (c :: r) else none

/-- A text without a point and the zeros after it, if it ends so. -/
def dropZeroFraction (cs : List Char) : List Char :=
  match cs.dropWhile (· != '.') with
  | _ :: z :: zs => if (z :: zs).all (· == '0') then cs.takeWhile (· != '.') else cs
  | _ => cs

def hasDoubled (c : Char) : List Char → Bool
  | a :: b :: r => (a == c && b == c) || hasDoubled c (b :: r)
  | _ => false

/-- A text without underscores, if each of them stands alone and between others. -/
def dropUnderscores (cs : List Char) : List Char :=
  if cs.head? = some '_' ∨ cs.getLast? = some '_' ∨ hasDoubled '_' cs then cs
  else cs.filter (· != '_')

/-- The plain text behind another, if it has the signs and the beginning of a number. -/
def plainText? (cs : List Char) : Option (List Char) :=
  let cs := Text.trim Text.isBlank cs
  let unsigned? := match cs with
    | '+' :: '-' :: _ => none
    | '+' :: r => some (false, r)
    | '-' :: r => some (true, r)
    | r => some (false, r)
  unsigned?.bind fun (negative, cs) =>
    (dropLeadingZeros cs).map fun cs =>
      let cs := dropUnderscores (dropZeroFraction cs)
      if negative then '-' :: cs else cs

/-- Reads a text as it is, or else the plain text behind it. -/
def wholeOfText (s : String) : Except Reason Int :=
  match plainWhole s.toList with
  | .error .noWholeText =>
    match plainText? s.toList with
    | some cs => (plainWhole cs).mapError fun _ => .noWholeText
    | none => .error .noWholeText
  | r => r

end Linkcut.Settings

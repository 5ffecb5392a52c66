import Linkcut.Double.Decimal

/-!
Numbers with a given number of digits: after the point, with an exponent, or in all, whichever of
the two forms is the plainer one.
-/

set_option autoImplicit false

namespace Linkcut.Double

/-- No number has more digits than this, after its point or in all; any further ones are zeros. -/
def mostPlaces : Nat := 1100

/-- The zeros that are left when `count` digits are asked for. -/
def furtherZeros (count : Nat) : List Char := List.replicate (count - mostPlaces) '0'

/-- The digits after a point; without digits the point goes too, unless it is kept. -/
def fractionText (keepPoint : Bool) (ds : List Char) : List Char :=
  if ds.isEmpty && !keepPoint then [] else '.' :: ds

/-- The magnitude with `places` digits after the point. -/
def fixedText (num den places : Nat) (keepPoint : Bool) : List Char :=
  let held := min places mostPlaces
  let ds := digits (inUnits num den (-(held : Int)))
  let ds := List.replicate (held + 1 - ds.length) '0' ++ ds
  ds.take (ds.length - held) ++
    fractionText keepPoint (ds.drop (ds.length - held) ++ furtherZeros places)

def powerText (k : Int) : List Char :=
  let ds := digits k.natAbs
  'e' :: (if k < 0 then '-' else '+') :: (List.replicate (2 - ds.length) '0' ++ ds)

/-- The magnitude with one digit before the point, `places` after it, and a power of ten. -/
def scientificText (num den places : Nat) (keepPoint : Bool) : List Char :=
  let (ds, k) := significant num den (min places mostPlaces + 1)
  ds.take 1 ++ fractionText keepPoint (ds.drop 1 ++ furtherZeros places) ++ powerText k

def dropZeros (ds : List Char) : List Char := (ds.reverse.dropWhile (· == '0')).reverse

/-- The magnitude with `count` significant digits, a power of ten only where the number is below
0.0001 or has more digits before the point than that. Unless all is kept, zeros at the end of the
fraction are left out. -/
def generalText (num den count : Nat) (keepAll : Bool) : List Char :=
  let count := max count 1
  let (ds, k) := significant num den (min count mostPlaces)
  let trimmed (r : List Char) : List Char :=
    fractionText keepAll (if keepAll then r ++ furtherZeros count else dropZeros r)
  if -4 ≤ k ∧ k < count then
    if k < 0 then '0' :: trimmed (List.replicate (-k - 1).toNat '0' ++ ds)
    else ds.take (k.toNat + 1) ++ trimmed (ds.drop (k.toNat + 1))
  else ds.take 1 ++ trimmed (ds.drop 1) ++ powerText k

inductive Form where
  | fixed
  | scientific
  | general
  deriving DecidableEq, Repr

/-- A number with `count` digits in one of the forms, after its sign. -/
def formatted (x : Double) (form : Form) (count : Nat) (keep : Bool) : List Char :=
  match x with
  | .nan => ['n', 'a', 'n']
  | .infinite s => if s then ['-', 'i', 'n', 'f'] else ['i', 'n', 'f']
  | .finite s m e =>
    let (num, den) := scaled m e
    let body := match form with
      | .fixed => fixedText num den count keep
      | .scientific => scientificText num den count keep
      | .general => generalText num den count keep
    if s then '-' :: body else body

end Linkcut.Double

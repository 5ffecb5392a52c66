import Linkcut.Double

/-!
Binary64 numbers and decimal digits: the digits of a number rounded to a given place, and the
number nearest to a written decimal.
-/

set_option autoImplicit false

namespace Linkcut

/-- The decimal digits of a number, most significant first. -/
def digits (n : Nat) : List Char := Nat.toDigits 10 n

/-- The most digits of a whole number in a text, unless another limit is set. -/
def usualMost : Nat := 4300

/-- Whether a whole number has few enough digits for a text: at most `most` of them, or any number
if that is zero. -/
def isShort (most : Nat) (n : Int) : Bool := most = 0 || (digits n.natAbs).length ≤ most

def ofDigits (ds : List Char) : Nat := ds.foldl (fun n c => 10 * n + (c.toNat - '0'.toNat)) 0

namespace Double

/-- `10^e` as a numerator over a denominator. -/
def powerOfTen (e : Int) : Nat × Nat :=
  if 0 ≤ e then (Nat.pow 10 e.toNat, 1) else (1, Nat.pow 10 (-e).toNat)

/-- The greatest `k` with `10^k ≤ num / den`, for positive `num` and `den`. -/
def log10Ratio (num den : Nat) : Int :=
  if den ≤ num then ((digits (num / den)).length : Int) - 1
  else
    let k := (digits (den / num)).length
    if num * Nat.pow 10 (k - 1) ≥ den then -((k : Int) - 1) else -(k : Int)

/-- `num / den` in units of `10^place`, rounded to the nearest unit, ties to even. -/
def inUnits (num den : Nat) (place : Int) : Nat :=
  let (p, q) := powerOfTen place
  roundRatio (num * q) (den * p)

/-- The first `count` significant digits of `num / den`, with the power of ten of the first one. -/
def significant (num den count : Nat) : List Char × Int :=
  if num = 0 then (List.replicate count '0', 0)
  else
    let k := log10Ratio num den
    let n := inUnits num den (k - (count : Int) + 1)
    if n = Nat.pow 10 count then (digits (n / 10), k + 1) else (digits n, k)

/-- A sign, digits, an optional fraction and an optional exponent, taken apart. -/
structure Written where
  negative : Bool
  whole : List Char
  fraction : List Char
  exponent : Int

def Written.value (w : Written) : Double :=
  let n := ofDigits (w.whole ++ w.fraction)
  let (p, q) := powerOfTen (w.exponent - w.fraction.length)
  ofRatio w.negative (n * p) q

/-- Reads `1`, `-0.5`, `1e+16`, `nan`, `inf` and `-inf`. -/
def ofText? (s : String) : Option Double :=
  let (negative, rest) := match s.toList with
    | '-' :: r => (true, r)
    | '+' :: r => (false, r)
    | r => (false, r)
  if rest = ['n', 'a', 'n'] then some .nan
  else if rest = ['i', 'n', 'f'] then some (.infinite negative)
  else
    let whole := rest.takeWhile Char.isDigit
    let rest := rest.dropWhile Char.isDigit
    let (fraction, rest) := match rest with
      | '.' :: r => (r.takeWhile Char.isDigit, r.dropWhile Char.isDigit)
      | r => ([], r)
    let power (r : List Char) : Option Int :=
      if r.isEmpty || !r.all Char.isDigit then none else some (ofDigits r)
    let exponent : Option Int := match rest with
      | [] => some 0
      | 'e' :: '-' :: r => (power r).map (- ·)
      | 'e' :: '+' :: r => power r
      | 'e' :: r => power r
      | _ => none
    if whole.isEmpty && fraction.isEmpty then none
    else exponent.map fun e => Written.value ⟨negative, whole, fraction, e⟩

end Double
end Linkcut

import Linkcut.Double.Decimal

/-!
The shortest decimal that reads back as a given binary64 number, and its written form.
-/

set_option autoImplicit false

namespace Linkcut.Double

/-- The reals that round to `m · 2^e`, as numerators over one denominator, with the value itself. -/
structure Interval where
  low : Nat
  value : Nat
  high : Nat
  den : Nat
  /-- Whether the two ends round to the number too. -/
  closed : Bool

/-- Below a power of two the neighbour is twice as near. -/
def interval (m : Nat) (e : Int) : Interval :=
  let (p, q) := scaled 1 e
  let low := if m = Nat.pow 2 52 ∧ minExponent < e then 4 * m - 1 else 4 * m - 2
  ⟨low * p, 4 * m * p, (4 * m + 2) * p, 4 * q, m % 2 == 0⟩

def Interval.holds (v : Interval) (num den : Nat) : Bool :=
  if v.closed then v.low * den ≤ num * v.den && num * v.den ≤ v.high * den
  else v.low * den < num * v.den && num * v.den < v.high * den

/-- The point of the grid of step `10^place` that lies in the interval, the nearer one of two. -/
def Interval.gridPoint? (v : Interval) (place : Int) : Option Nat :=
  let (p, q) := powerOfTen place
  let below := (v.value * q) / (v.den * p)
  let hits := [below, below + 1].filter fun n => v.holds (n * p) q
  match hits with
  | [] => none
  | [n] => some n
  | _ => some (roundRatio (v.value * q) (v.den * p))

/-- Digits and the power of ten of the first one; `count` runs over the digit counts still to
try. -/
def Interval.search (v : Interval) (top : Int) (count : Nat) : Nat → List Char × Int
  | 0 => significant v.value v.den count
  | left + 1 =>
    match v.gridPoint? (top - count + 1) with
    | some n =>
      let ds := digits n
      (ds, top - count + (ds.length : Int))
    | none => v.search top (count + 1) left

/-- The fewest digits that read back as the number, with the power of ten of the first one. -/
def shortest (m : Nat) (e : Int) : List Char × Int :=
  let v := interval m e
  let (ds, k) := v.search (log10Ratio v.value v.den) 1 17
  (ds.take (max 1 (ds.reverse.dropWhile (· == '0')).length), k)

structure Layout where
  /-- The least power of ten of a first digit that is written without an exponent. -/
  plainFrom : Int
  /-- The first power of ten that is written with an exponent. -/
  plainBelow : Int
  /-- The least number of digits of an exponent. -/
  exponentDigits : Nat

/-- Numbers from 0.0001 to just below 10^16 have no exponent; an exponent has two digits. -/
def plainLayout : Layout := ⟨-4, 16, 2⟩

def exponentText (least : Nat) (k : Int) : List Char :=
  let ds := digits k.natAbs
  'e' :: (if k < 0 then '-' else '+') :: (List.replicate (least - ds.length) '0' ++ ds)

/-- A whole number keeps one digit after the point. -/
def Layout.write (l : Layout) (ds : List Char) (k : Int) : List Char :=
  if l.plainFrom ≤ k ∧ k < l.plainBelow then
    if k < 0 then '0' :: '.' :: (List.replicate (-k - 1).toNat '0' ++ ds)
    else
      let whole := k.toNat + 1
      let left := ds.take whole ++ List.replicate (whole - ds.length) '0'
      let right := ds.drop whole
      left ++ '.' :: (if right.isEmpty then ['0'] else right)
  else
    let tail := match ds.drop 1 with
      | [] => []
      | r => '.' :: r
    ds.take 1 ++ tail ++ exponentText l.exponentDigits k

/-- The written form of a number: the fewest digits that read back as it. -/
def text : Double → String
  | .nan => "nan"
  | .infinite s => if s then "-inf" else "inf"
  | .finite s m e =>
    let body := if m = 0 then ['0', '.', '0']
      else let (ds, k) := shortest m e; plainLayout.write ds k
    String.ofList (if s then '-' :: body else body)

end Linkcut.Double

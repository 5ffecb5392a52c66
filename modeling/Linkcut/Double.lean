/-!
Binary64 numbers as exact values. A finite number is a sign, a mantissa below 2^53 and an exponent
of two; every operation here computes the exact rational result and rounds it once, to the nearest
number and to the even mantissa on a tie.
-/

set_option autoImplicit false

namespace Linkcut

/-- The nearest natural number to `num / den`; a half goes to the even neighbour. -/
def roundRatio (num den : Nat) : Nat :=
  let q := num / den
  let twice := 2 * (num % den)
  if twice > den || (twice == den && q % 2 == 1) then q + 1 else q

inductive Double where
  | nan
  | infinite (negative : Bool)
  | finite (negative : Bool) (mantissa : Nat) (exponent : Int)
  deriving DecidableEq, Repr, Inhabited

namespace Double

/-- The exponent of the least positive number, 2^(-1074). -/
def minExponent : Int := -1074

/-- The exponent of the numbers just below 2^1024. -/
def maxExponent : Int := 971

def zero : Double := .finite false 0 minExponent

/-- `a · 2^e` as a numerator over a denominator. -/
def scaled (a : Nat) (e : Int) : Nat × Nat :=
  if 0 ≤ e then (a * Nat.pow 2 e.toNat, 1) else (a, Nat.pow 2 (-e).toNat)

/-- The greatest `k` with `2^k ≤ num / den`, for positive `num` and `den`. -/
def log2Ratio (num den : Nat) : Int :=
  let k : Int := (num.log2 : Int) - (den.log2 : Int)
  let (p, q) := scaled 1 k
  if p * den ≤ num * q then k else k - 1

/-- The number nearest to `num / den`, or infinity past the largest one. -/
def ofRatio (negative : Bool) (num den : Nat) : Double :=
  if num = 0 then .finite negative 0 minExponent
  else
    let e := max (log2Ratio num den - 52) minExponent
    let (p, q) := scaled 1 e
    let m := roundRatio (num * q) (den * p)
    let (m, e) := if m = Nat.pow 2 53 then (Nat.pow 2 52, e + 1) else (m, e)
    if maxExponent < e then .infinite negative else .finite negative m e

/-- The number nearest to an integer, if it is finite. -/
def ofInt? (n : Int) : Option Double :=
  match ofRatio (decide (n < 0)) n.natAbs 1 with
  | .infinite _ => none
  | x => some x

/-- The quotient of an integer by a positive number, if it is finite. -/
def quotient? (n : Int) (den : Nat) : Option Double :=
  match ofRatio (decide (n < 0)) n.natAbs den with
  | .infinite _ => none
  | x => some x

def times (x : Double) (k : Nat) : Double :=
  match x with
  | .nan => .nan
  | .infinite s => .infinite s
  | .finite s m e => let (p, q) := scaled m e; ofRatio s (p * k) q

/-- The sum. Two zeros of different sign, and two numbers that cancel, make the positive zero. -/
def add : Double → Double → Double
  | .nan, _ | _, .nan => .nan
  | .infinite s, .infinite t => if s = t then .infinite s else .nan
  | .infinite s, _ | _, .infinite s => .infinite s
  | .finite s m e, .finite t n f =>
    if m = 0 ∧ n = 0 then .finite (s && t) 0 minExponent
    else
      let low := min e f
      let signed (neg : Bool) (k : Nat) : Int := if neg then -(k : Int) else k
      let sum := signed s (m * Nat.pow 2 (e - low).toNat) + signed t (n * Nat.pow 2 (f - low).toNat)
      let (p, q) := scaled sum.natAbs low
      ofRatio (decide (sum < 0)) p q

/-- Strictly below zero: the negative zero is not. -/
def isNegative : Double → Bool
  | .nan => false
  | .infinite s => s
  | .finite s m _ => s && m != 0

def isZero : Double → Bool
  | .finite _ m _ => m == 0
  | _ => false

/-- Not below an integer; nothing is said of nan. -/
def isAtLeast (x : Double) (n : Int) : Bool :=
  match x with
  | .nan => false
  | .infinite s => !s
  | .finite s m e =>
    let (p, q) := scaled m e
    decide (n * q ≤ if s then -(p : Int) else p)

/-- Why a number has no integer near it. -/
inductive NoInteger where
  | notANumber
  | unbounded
  deriving DecidableEq, Repr

def signed (negative : Bool) (n : Nat) : Int := if negative then -(n : Int) else n

/-- The nearest integer; a half goes to the even neighbour. -/
def round : Double → Except NoInteger Int
  | .nan => .error .notANumber
  | .infinite _ => .error .unbounded
  | .finite s m e => let (p, q) := scaled m e; .ok (signed s (roundRatio p q))

def truncate : Double → Except NoInteger Int
  | .nan => .error .notANumber
  | .infinite _ => .error .unbounded
  | .finite s m e => let (p, q) := scaled m e; .ok (signed s (p / q))

/-- The integer that the number is, if it is one. -/
def integer? : Double → Option Int
  | .finite s m e => let (p, q) := scaled m e; if p % q = 0 then some (signed s (p / q)) else none
  | _ => none

end Double
end Linkcut

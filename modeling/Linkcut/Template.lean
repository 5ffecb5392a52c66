import Linkcut.Double.Fixed
import Linkcut.Value.Key

/-!
Message templates: a text with directives, each a percent sign, perhaps a key, flags, a width and a
precision, and a conversion. `Template.read` takes a template apart without its arguments, and
`Template.fill` puts the arguments in, each directive in its turn.
-/

set_option autoImplicit false

namespace Linkcut

namespace Template

inductive KeyPart where
  | absent
  | named (key : String)
  | cut
  deriving DecidableEq, Repr

/-- A width or a precision: none, written out, or the next argument. -/
inductive Extent where
  | absent
  | given (n : Nat)
  | next
  deriving DecidableEq, Repr

structure Flags where
  left : Bool := false
  plus : Bool := false
  blank : Bool := false
  alternate : Bool := false
  zero : Bool := false
  deriving DecidableEq, Repr

structure Directive where
  key : KeyPart
  flags : Flags
  width : Extent
  precision : Extent
  /-- The conversion and its place in the template, unless the template ends before it. -/
  conversion : Option (Char × Nat)
  deriving DecidableEq, Repr

inductive Piece where
  | text (c : Char)
  | directive (d : Directive)
  deriving DecidableEq, Repr

/-- The text up to the parenthesis that closes `depth` open ones and the first, and the rest. -/
def closing : Nat → List Char → Option (List Char × List Char)
  | _, [] => none
  | depth, c :: r =>
    if c = ')' ∧ depth = 0 then some ([], r)
    else
      let depth := if c = ')' then depth - 1 else if c = '(' then depth + 1 else depth
      (closing depth r).map fun (key, rest) => (c :: key, rest)

def readKey : List Char → KeyPart × List Char
  | '(' :: r =>
    match closing 0 r with
    | some (key, rest) => (.named (String.ofList key), rest)
    | none => (.cut, [])
  | r => (.absent, r)

def flagChars : List Char := ['-', '+', ' ', '#', '0']

def readFlags (r : List Char) : Flags × List Char :=
  let fs := r.takeWhile flagChars.contains
  ({ left := fs.contains '-', plus := fs.contains '+', blank := fs.contains ' ',
     alternate := fs.contains '#', zero := fs.contains '0' },
   r.dropWhile flagChars.contains)

def readWidth : List Char → Extent × List Char
  | '*' :: r => (.next, r)
  | r =>
    match r.takeWhile Char.isDigit with
    | [] => (.absent, r)
    | ds => (.given (ofDigits ds), r.dropWhile Char.isDigit)

/-- A point without digits after it asks for none. -/
def readPrecision : List Char → Extent × List Char
  | '.' :: r =>
    match readWidth r with
    | (.absent, rest) => (.given 0, rest)
    | found => found
  | r => (.absent, r)

/-- One letter for a size of numbers says nothing. -/
def dropSize : List Char → List Char
  | [] => []
  | c :: r => if c = 'h' ∨ c = 'l' ∨ c = 'L' then r else c :: r

/-- Reads a directive after its percent sign; `total` is the length of the template. -/
def readDirective (total : Nat) (r : List Char) : Directive × List Char :=
  let (key, r) := readKey r
  let (flags, r) := readFlags r
  let (width, r) := readWidth r
  let (precision, r) := readPrecision r
  match dropSize r with
  | [] => (⟨key, flags, width, precision, none⟩, [])
  | c :: rest => (⟨key, flags, width, precision, some (c, total - rest.length - 1)⟩, rest)

/-- Takes apart what is left of a template, at most `count` pieces of it. -/
def readFrom (total : Nat) : Nat → List Char → List Piece
  | 0, _ | _, [] => []
  | count + 1, '%' :: '%' :: r => .text '%' :: readFrom total count r
  | count + 1, '%' :: r =>
    let (d, rest) := readDirective total r
    .directive d :: readFrom total count rest
  | count + 1, c :: r => .text c :: readFrom total count r

/-- The pieces of a template. Each one takes a character at least, so their number is bounded. -/
def read (s : String) : List Piece :=
  let cs := s.toList
  readFrom cs.length cs.length cs

/-- Arguments to fill in: the values still to take, and the one that keys look into. -/
structure Supply where
  values : List Value
  mapping : Option Value := none

/-- What keys may be looked up in, with success only in a dictionary. -/
def isMapping : Value → Bool
  | .dict _ | .list _ | .bytes _ => true
  | _ => false

/-- The elements of a tuple are the arguments; any other value is the only one. -/
def Supply.ofValue : Value → Supply
  | .tuple vs => ⟨vs, none⟩
  | v => ⟨[v], if isMapping v then some v else none⟩

def Supply.next (s : Supply) : Except Fault (Value × Supply) :=
  match s.values with
  | [] => .error .tooFewForTemplate
  | v :: vs => .ok (v, { s with values := vs })

def lookUp (name : String) : Value → Except Fault Value
  | .dict es =>
    match Value.find? name es with
    | some v => .ok v
    | none => .error (.noSuchKey (Text.quote name))
  | .bytes _ => .error (.elementIndex "byte" "str")
  | v => .error (.elementIndex v.type "str")

/-- Looks the key up; what is found is the one value to take next. -/
def Supply.select (s : Supply) : KeyPart → Except Fault Supply
  | .absent => .ok s
  | key =>
    match s.mapping, key with
    | none, _ => .error .templateNeedsMapping
    | some m, .named k => do return { s with values := [← lookUp k m] }
    | some _, _ => .error .templateKeyCut

/-- The greatest width and the greatest precision. -/
def widthLimit : Nat := Nat.pow 2 63 - 1
def precisionLimit : Nat := Nat.pow 2 31 - 1

/-- The integer behind a whole number or a truth value. -/
def wholeOf : Value → Option Int
  | .int n => some n
  | .bool b => some (if b then 1 else 0)
  | _ => none

/-- The size of a width or a precision, as a number that may be negative. -/
def Supply.extent (s : Supply) (precision : Bool) : Extent → Except Fault (Option Int × Supply)
  | .absent => .ok (none, s)
  | .given n =>
    if (if precision then precisionLimit else widthLimit) < n then .error (.fieldTooBig precision)
    else .ok (some n, s)
  | .next => do
    let (v, s) ← s.next
    let some n := wholeOf v | throw .starNeedsInteger
    let limit : Int := if precision then precisionLimit else widthLimit
    if limit < n ∨ n < -limit - 1 then throw (.starTooBig precision)
    return (some n, s)

structure Converted where
  /-- The sign of a number, if it has one. -/
  sign : List Char := []
  mark : List Char := []
  body : List Char
  /-- Numbers are filled up with zeros where the flags ask for it. -/
  number : Bool := false

/-- The sign that stands before a number that is not negative. -/
def Flags.signOf (f : Flags) : List Char :=
  if f.plus then ['+'] else if f.blank then [' '] else []

/-- The least precision that is refused for integers, although it can be written. -/
def digitLimit : Nat := precisionLimit - 2

/-- A number whose text starts with its sign if it is negative. -/
def Converted.ofNumber (f : Flags) : List Char → Converted
  | '-' :: r => { sign := ['-'], body := r, number := true }
  | r => { sign := f.signOf, body := r, number := true }

/-- An integer in a base, with at least `least` digits, and in base ten with `most` at most. -/
def Converted.ofInt (most : Nat) (f : Flags) (base : Nat) (mark : List Char) (least : Nat)
    (n : Int) : Except Fault Converted :=
  if digitLimit ≤ least then .error .precisionTooLarge
  else if base = 10 ∧ !isShort most n then .error (.integerTooLong most)
  else
    let ds := Nat.toDigits base n.natAbs
    .ok {
      sign := if n < 0 then ['-'] else f.signOf
      mark := if f.alternate then mark else []
      body := List.replicate (least - ds.length) '0' ++ ds
      number := true }

def integerPart (c : Char) : Value → Except Fault Int
  | .float x => x.truncate.mapError .noInteger
  | v => match wholeOf v with
    | some n => .ok n
    | none => .error (.templateNeedsNumber c v.type false)

/-- A whole number; fractions have no text in a base. -/
def integerExactly (c : Char) (v : Value) : Except Fault Int :=
  match wholeOf v with
  | some n => .ok n
  | none => .error (.templateNeedsNumber c v.type true)

def realOf : Value → Except Fault Double
  | .float x => .ok x
  | v => match wholeOf v with
    | some n => match Double.ofInt? n with
      | some x => .ok x
      | none => .error .integerTooLarge
    | none => .error (.templateNeedsReal v.type)

def characterOf (v : Value) : Except Fault Char :=
  match v with
  | .str s => match s.toList with
    | [c] => .ok c
    | _ => .error .templateNeedsChar
  | v => match wholeOf v with
    | some n => if 0 ≤ n ∧ n < 0x110000 then .ok (Char.ofNat n.toNat) else .error .templateCharRange
    | none => .error .templateNeedsChar

def upper (cs : List Char) : List Char := cs.map Char.toUpper

/-- The form that a conversion of real numbers asks for. -/
def realForm? : Char → Option Double.Form
  | 'e' | 'E' => some .scientific
  | 'f' | 'F' => some .fixed
  | 'g' | 'G' => some .general
  | _ => none

/-- Converts a value. A precision cuts a text, and is the least number of digits of an integer. -/
def convert (most : Nat) (f : Flags) (precision : Option Nat) (c : Char) (index : Nat) (v : Value) :
    Except Fault Converted := do
  let text (s : String) : Except Fault Converted :=
    if v.isShort most then
      .ok { body := match precision with
        | some n => s.toList.take n
        | none => s.toList }
    else .error (.integerTooLong most)
  let least := precision.getD 0
  match c with
  | 's' => text v.show
  | 'r' => text v.repr
  | 'a' => text (Text.escapeBeyondAscii v.repr)
  | 'd' | 'i' | 'u' => Converted.ofInt most f 10 [] least (← integerPart c v)
  | 'o' => Converted.ofInt most f 8 ['0', 'o'] least (← integerExactly c v)
  | 'x' => Converted.ofInt most f 16 ['0', 'x'] least (← integerExactly c v)
  | 'X' =>
    let t ← Converted.ofInt most f 16 ['0', 'X'] least (← integerExactly c v)
    return { t with body := upper t.body }
  | 'c' => return { body := [← characterOf v] }
  | _ =>
    match realForm? c with
    | some form =>
      let t := (← realOf v).formatted form (precision.getD 6) f.alternate
      return .ofNumber f (if c.isUpper then upper t else t)
    | none => throw (.badConversion c index)

/-- Fills a converted value up to its width: with zeros after the sign and the mark, or with blanks
before or after all. -/
def pad (f : Flags) (width : Nat) (t : Converted) : List Char :=
  let head := t.sign ++ t.mark
  let missing := width - (head.length + t.body.length)
  if f.left then head ++ t.body ++ List.replicate missing ' '
  else if f.zero && t.number then head ++ List.replicate missing '0' ++ t.body
  else List.replicate missing ' ' ++ head ++ t.body

/-- The text of one directive, and the arguments that are left. -/
def Directive.fill (most : Nat) (d : Directive) (s : Supply) :
    Except Fault (List Char × Supply) := do
  let s ← s.select d.key
  let (width, s) ← s.extent false d.width
  let (precision, s) ← s.extent true d.precision
  let some (c, index) := d.conversion | throw .templateCut
  let (v, s) ← s.next
  let t ← convert most d.flags (precision.map Int.toNat) c index v
  let width := width.getD 0
  let flags := if width < 0 then { d.flags with left := true } else d.flags
  return (pad flags width.natAbs t, s)

/-- The text of the pieces, and the arguments that are left. -/
def fillPieces (most : Nat) : List Piece → Supply → Except Fault (List Char × Supply)
  | [], s => .ok ([], s)
  | .text c :: ps, s => do
    let (cs, s) ← fillPieces most ps s
    return (c :: cs, s)
  | .directive d :: ps, s => do
    let (t, s) ← d.fill most s
    let (cs, s) ← fillPieces most ps s
    return (t ++ cs, s)

/-- Fills a template with arguments; each must be used, unless keys may look into them. -/
def fill (most : Nat) (s : String) (args : Value) : Except Fault String := do
  let (cs, rest) ← fillPieces most (read s) (.ofValue args)
  if !rest.values.isEmpty && rest.mapping.isNone then throw .tooManyForTemplate
  return String.ofList cs

end Template
end Linkcut

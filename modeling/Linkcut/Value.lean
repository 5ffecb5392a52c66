import Linkcut.Double.Shortest
import Linkcut.Fault
import Linkcut.Phase

/-!
Dynamic values: what a log field, a setting or a template argument may hold, and the two texts of
each, one for readers (`show`) and one that tells strings from other things (`repr`). Where the
digits of whole numbers in texts are limited, a value may have no text (`written`).
-/

set_option autoImplicit false

namespace Linkcut

inductive Value where
  | none
  | bool (b : Bool)
  | int (n : Int)
  | float (x : Double)
  | str (s : String)
  | bytes (bs : List UInt8)
  | list (xs : List Value)
  | tuple (xs : List Value)
  /-- Entries in order of insertion; `Value.ofEntries` keeps the keys distinct. -/
  | dict (entries : List (Value × Value))
  | phase (p : Phase)
  | fault (c : Chain)
  /-- A thing known by its text alone. -/
  | foreign (text : String)
  deriving Repr, Inhabited

namespace Value

def type : Value → String
  | none => "NoneType"
  | bool _ => "bool"
  | int _ => "int"
  | float _ => "float"
  | str _ => "str"
  | bytes _ => "bytes"
  | list _ => "list"
  | tuple _ => "tuple"
  | dict _ => "dict"
  | phase _ => "SessionState"
  | fault c => c.fault.kind.name
  | foreign _ => "Obj"

/-- Whether a condition on the value holds: zero and what is empty count as false. -/
def isTruthy : Value → Bool
  | none => false
  | bool b => b
  | int n => n != 0
  | float x => !x.isZero
  | str s => s != ""
  | bytes bs => !bs.isEmpty
  | list xs | tuple xs => !xs.isEmpty
  | dict es => !es.isEmpty
  | phase _ | fault _ | foreign _ => true

/-- The text that a value is: a phase is its own. -/
def text? : Value → Option String
  | str s => some s
  | phase p => some p.text
  | _ => Option.none

/-- The values that a loop over a value runs through. -/
def elements (v : Value) : Except Fault (List Value) :=
  match v, v.text? with
  | list xs, _ | tuple xs, _ => .ok xs
  | dict es, _ => .ok (es.map Prod.fst)
  | bytes bs, _ => .ok (bs.map fun b => int b.toNat)
  | _, some s => .ok (s.toList.map fun c => str (String.singleton c))
  | v, Option.none => .error (.notIterable v.type)

def ofFields (fields : List (String × Value)) : Value := dict (fields.map fun f => (str f.1, f.2))

def boolText (b : Bool) : String := if b then "True" else "False"

/-- A fault as an expression: its class applied to its text. -/
def faultExpression (f : Fault) : String :=
  match f with
  | .raised k (some t) => k.name ++ "(" ++ Text.quote t ++ ")"
  | .raised k .none => k.name ++ "()"
  | f => f.kind.name ++ "(" ++ Text.quote f.message ++ ")"

/-- A text with every element quoted as an expression. -/
def repr : Value → String
  | none => "None"
  | bool b => boolText b
  | int n => toString n
  | float x => x.text
  | str s => Text.quote s
  | bytes bs => Text.quoteBytes bs
  | list xs => "[" ++ ", ".intercalate (reprs xs) ++ "]"
  | tuple [x] => "(" ++ repr x ++ ",)"
  | tuple xs => "(" ++ ", ".intercalate (reprs xs) ++ ")"
  | dict es => "\x7b" ++ ", ".intercalate (reprEntries es) ++ "\x7d"
  | phase p => "<" ++ p.qualified ++ ": " ++ Text.quote p.text ++ ">"
  | fault c => faultExpression c.fault
  | foreign t => t
where
  reprs : List Value → List String
    | [] => []
    | x :: xs => repr x :: reprs xs
  reprEntries : List (Value × Value) → List String
    | [] => []
    | (k, v) :: es => (repr k ++ ": " ++ repr v) :: reprEntries es

/-- The plain text: a string stands for itself, a phase for its qualified name. -/
def «show» : Value → String
  | str s => s
  | phase p => p.qualified
  | fault c => c.fault.message
  | v => v.repr

/-- Whether all whole numbers in a value, at any depth, are short enough. -/
def isShort (most : Nat) : Value → Bool
  | int n => Linkcut.isShort most n
  | list xs | tuple xs => items most xs
  | dict es => entries most es
  | _ => true
where
  items (most : Nat) : List Value → Bool
    | [] => true
    | x :: xs => isShort most x && items most xs
  entries (most : Nat) : List (Value × Value) → Bool
    | [] => true
    | (k, v) :: es => isShort most k && isShort most v && entries most es

/-- The plain text, if the whole numbers in the value are short enough. -/
def written (most : Nat) (v : Value) : Except Fault String :=
  if v.isShort most then .ok v.show else .error (.integerTooLong most)

end Value

/-- The phase that a value names: the phase itself, or its text. -/
def Phase.ofValue : Value → Except Fault Phase
  | .phase p => .ok p
  | .str s =>
    match ofText? s with
    | some p => .ok p
    | none => .error (.notAMember (Text.quote s) "SessionState")
  | v => .error (.notAMember v.repr "SessionState")

end Linkcut

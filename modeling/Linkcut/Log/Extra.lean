import Linkcut.Parameters
import Linkcut.Value.Key

/-!
Extra fields of log calls: a dictionary that leaves the names of a record alone. The fields of a
call are one of them.
-/

set_option autoImplicit false

namespace Linkcut.Log

def reservedNames : List String :=
  ["message", "asctime", "name", "msg", "args", "levelname", "levelno", "pathname", "filename",
   "module", "exc_info", "exc_text", "stack_info", "lineno", "funcName", "created", "msecs",
   "relativeCreated", "thread", "threadName", "processName", "process"]

/-- The name of the extra field that formatters look at. -/
def dataName : String := "extra_data"

/-- A key of an extra field is taken if the record has it already. -/
def checkKey (seen : List Key) (v : Value) : Except Fault (List Key) := do
  let k ← v.key 0
  let reserved := match v with
    | .str s => reservedNames.contains s
    | _ => false
  if reserved || seen.any fun j => decide (j = k) then throw (.reservedField v.repr)
  return k :: seen

/-- An element of a sequence with `size` of them stands at a whole number, perhaps counted from the
end. -/
def checkIndex (sequence : Option String) (size : Nat) (v : Value) : Except Fault Unit :=
  let within (n : Int) : Except Fault Unit :=
    if -(size : Int) ≤ n ∧ n < size then .ok () else .error (.pastTheEnd sequence)
  match v with
  | .int n => within n
  | .bool b => within (if b then 1 else 0)
  | v => .error (.elementIndex (sequence.getD "byte") v.type)

/-- The elements of a sequence as keys of extra fields; each must find an element in it. -/
def checkElements (sequence : Option String) (vs : List Value) : Except Fault Unit := do
  let _ ← vs.foldlM (fun seen v => do
    let seen ← checkKey seen v
    checkIndex sequence vs.length v
    return seen) []

/-- No character finds an element of its text. -/
def checkText (s : String) : Except Fault Unit :=
  if s.isEmpty then .ok () else .error (.charIndex "str")

/-- The extra fields of a record, which leave its own names alone. Only a dictionary has any. -/
def extraFields (extra : Value) : Except Fault (List (Value × Value)) := do
  match extra with
  | .none => return []
  | .dict es =>
    es.forM fun e => do
      let _ ← checkKey [] e.1
    return es
  | .list vs =>
    checkElements (some "list") vs
    return []
  | .tuple vs =>
    checkElements (some "tuple") vs
    return []
  | .bytes bs =>
    checkElements none (bs.map fun b => Value.int b.toNat)
    return []
  | .str s =>
    checkText s
    return []
  | .phase p =>
    checkText p.text
    return []
  | v => throw (.notIterable v.type)

/-- The extra fields with the fields of the call among them. -/
def withFields (extra : Value) (fields : Named) : Except Fault Value := do
  let data := if fields.isEmpty then Value.none else .ofFields fields
  match extra with
  | .none => return .dict [(.str dataName, data)]
  | .dict es =>
    if es.any fun e => e.1.isNamed dataName then
      return .dict (es.map fun e => if e.1.isNamed dataName then (e.1, data) else e)
    else return .dict (es ++ [(.str dataName, data)])
  | .list _ => throw (.elementIndex "list" "str")
  | v => throw (.noAssignment v.type)

end Linkcut.Log

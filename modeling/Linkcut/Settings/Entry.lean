import Linkcut.Names
import Linkcut.Settings
import Linkcut.Settings.Whole

/-!
Entries of settings: what each type of field takes for a value of its own, and the settings of
entries by name, or all that is rejected in them.
-/

set_option autoImplicit false

namespace Linkcut.Settings

def textOfBytes? (bs : List UInt8) : Option String := String.fromUTF8? ⟨bs.toArray⟩

def readText : Value → Except Reason String
  | .str s => .ok s
  | .phase p => .ok p.text
  | .bytes bs =>
    match textOfBytes? bs with
    | some s => .ok s
    | none => .error .notUnicode
  | _ => .error .notText

/-- The text behind a value, if it has one; bytes must encode it. -/
def textOf? (garbled : Reason) : Value → Except Reason (Option String)
  | .str s => .ok (some s)
  | .phase p => .ok (some p.text)
  | .bytes bs =>
    match textOfBytes? bs with
    | some s => .ok (some s)
    | none => .error garbled
  | _ => .ok none

/-- A number without a fraction, in the range of 64-bit words. -/
def wholeOfDouble (x : Double) : Except Reason Int :=
  match x with
  | .finite .. =>
    match x.integer? with
    | some n => if n.natAbs < Nat.pow 2 63 then .ok n else .error .tooManyDigits
    | none => .error .fraction
  | _ => .error .unbounded

def readWhole (v : Value) : Except Reason Int := do
  match v with
  | .int n => return n
  | .bool b => return if b then 1 else 0
  | .float x => wholeOfDouble x
  | v =>
    match ← textOf? .noWholeText v with
    | some s => wholeOfText s
    | none => throw .notWhole

def trueTexts : List String := ["1", "on", "t", "true", "y", "yes"]
def falseTexts : List String := ["0", "off", "f", "false", "n", "no"]

/-- A word for yes or no, in letters of any case. -/
def flagOfText (s : String) : Except Reason Bool :=
  let s := String.ofList (s.toList.map Char.toLower)
  if trueTexts.contains s then .ok true
  else if falseTexts.contains s then .ok false
  else .error .noFlagText

/-- One and zero mean yes and no; no other number does, and past 64 bits it is no candidate. -/
def flagOfWhole (n : Int) : Except Reason Bool :=
  if n = 1 then .ok true
  else if n = 0 then .ok false
  else if -(Nat.pow 2 63 : Nat) ≤ n ∧ n < (Nat.pow 2 63 : Nat) then .error .noFlagText
  else .error .notFlag

def readFlag (v : Value) : Except Reason Bool := do
  match v with
  | .bool b => return b
  | .int n => flagOfWhole n
  | .float x =>
    match x.integer? with
    | some n => if n.natAbs < Nat.pow 2 63 then flagOfWhole n else throw .notFlag
    | none => throw .notFlag
  | v =>
    match ← textOf? .noFlagText v with
    | some s => flagOfText s
    | none => throw .notFlag

/-- Reads a field, unless it is not set. -/
def readField {α : Type} (entries : Names Value) (f : Field) (unset : α)
    (read : Value → Except Reason α) : Except Rejection α :=
  match entries.lookup f.name with
  | none => .ok unset
  | some v => (read v).mapError fun r => ⟨f.name, r, v⟩

def rejection? {α : Type} : Except Rejection α → List Rejection
  | .ok _ => []
  | .error r => [r]

/-- Reads every field; entries that are no field are rejected after those that are. -/
def ofEntries (entries : Names Value) : Except (List Rejection) Settings :=
  let unset : Settings := {}
  let host := readField entries .host unset.host readText
  let port := readField entries .port unset.port readWhole
  let socketPath := readField entries .socketPath unset.socketPath readText
  let delayMillis := readField entries .delayMillis unset.delayMillis readWhole
  let environment := readField entries .environment unset.environment readText
  let debug := readField entries .debug unset.debug readFlag
  let extras := (entries.filter fun e => !Field.names.contains e.1).map fun e =>
    (⟨e.1, .unknown, e.2⟩ : Rejection)
  match host, port, socketPath, delayMillis, environment, debug, extras with
  | .ok host, .ok port, .ok socketPath, .ok delayMillis, .ok environment, .ok debug, [] =>
    .ok { host, port, socketPath, delayMillis, environment, debug }
  | host, port, socketPath, delayMillis, environment, debug, extras =>
    .error (rejection? host ++ rejection? port ++ rejection? socketPath ++ rejection? delayMillis ++
      rejection? environment ++ rejection? debug ++ extras)

end Linkcut.Settings

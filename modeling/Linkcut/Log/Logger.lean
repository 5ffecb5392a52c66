import Linkcut.Log.Extra
import Linkcut.Log.Record

/-!
Loggers have a class, a threshold, filters and handlers. A threshold of zero is none: the loggers
above decide. What was once answered about a level stands until the answers are forgotten.
-/

set_option autoImplicit false

namespace Linkcut.Log

inductive LoggerKind where
  /-- Takes named arguments as fields. -/
  | structured
  | plain
  /-- Stands above all others. -/
  | outermost
  deriving DecidableEq, Repr, Inhabited

def LoggerKind.name : LoggerKind → String
  | structured => "StructuredLogger"
  | plain => "Logger"
  | outermost => "RootLogger"

/-- A threshold as it was set: by a number, or by a flag that counts as one. -/
inductive Threshold where
  | number (level : Level)
  | flag (b : Bool)
  deriving DecidableEq, Repr, Inhabited

namespace Threshold

def level : Threshold → Level
  | number l => l
  | flag b => if b then 1 else 0

def toValue : Threshold → Value
  | number l => .int l
  | flag b => .bool b

def isSet (t : Threshold) : Bool := t.level != 0

def ofValue : Value → Except Fault Threshold
  | .int n => .ok (.number n)
  | .bool b => .ok (.flag b)
  | .str s =>
    match Level.ofText? s with
    | some level => .ok (.number level)
    | none => .error (.unknownLevel (Text.quote s))
  | v => .error (.badLevel v.repr)

end Threshold

/-- The name of a level, whatever it was given as. -/
def levelName (most : Nat) (v : Value) : Except Fault String := do
  let _ ← v.key 0
  let number? := match v with
    | .int n => some n
    | .bool b => some (if b then 1 else 0)
    | .float x => x.integer?
    | _ => none
  match number?.bind fun n => Level.names.lookup n, v with
  | some name, _ => return name
  | none, .str s =>
    match Level.ofText? s with
    | some level => return toString (level : Int)
    | none => return "Level " ++ s
  | none, v => Template.fill most "Level %s" v

/-- Whether records of a level pass a threshold. Any number may be a level; those up to zero do not
pass. -/
def passes (threshold : Level) : Value → Except Fault Bool
  | .int n => .ok (decide (0 < n ∧ threshold ≤ n))
  | .bool b => .ok (b && decide (threshold ≤ 1))
  | .float x =>
    match x.integer? with
    | some n => .ok (decide (0 < n ∧ threshold ≤ n))
    | none => .ok (!x.isNegative && x.isAtLeast threshold)
  | v => .error (.unordered ">=" "int" v.type)

def reaches (v : Value) (level : Level) : Except Fault Bool :=
  match v with
  | .int n => .ok (decide (level ≤ n))
  | .bool b => .ok (decide (level ≤ if b then 1 else 0))
  | .float x => .ok (x.isAtLeast level)
  | v => .error (.unordered ">=" v.type "int")

inductive Handler where
  | writer
  /-- A thing that can handle no record. -/
  | thing (v : Value)
  deriving Repr, Inhabited

structure Logger where
  name : String
  kind : LoggerKind := .structured
  threshold : Threshold := .number 0
  handlers : List Handler := []
  /-- Things that were added as filters, although none of them can filter. -/
  filters : List Value := []
  /-- What was answered about levels. -/
  answers : List (Key × Bool) := []
  deriving Repr, Inhabited

/-- Whether two values are the same thing to those who look for one of them. -/
def isSame (v w : Value) : Bool :=
  match v.key 0, w.key 1 with
  | .ok k, .ok l => decide (k = l)
  | .error _, .error _ => v.repr == w.repr
  | _, _ => false

namespace Logger

def forget (l : Logger) : Logger := { l with answers := [] }

def addFilter (l : Logger) (v : Value) : Logger :=
  if l.filters.any (isSame v) then l else { l with filters := l.filters ++ [v] }

def removeFilter (l : Logger) (v : Value) : Logger :=
  { l with filters := l.filters.eraseP (isSame v) }

def isThing (v : Value) : Handler → Bool
  | .writer => false
  | .thing w => isSame v w

def addHandler (l : Logger) (v : Value) : Logger :=
  if l.handlers.any (isThing v) then l else { l with handlers := l.handlers ++ [.thing v] }

def removeHandler (l : Logger) (v : Value) : Logger :=
  { l with handlers := l.handlers.eraseP (isThing v) }

end Logger

/-- A record keeps the fault of a fault, or three things as they are; of anything else that counts
as true it keeps that there was no fault. -/
def troubleOf (v : Value) : Value :=
  if !v.isTruthy then .none
  else match v with
    | .fault c => .fault c
    | .tuple vs => .tuple vs
    | _ => .tuple [.none, .none, .none]

def makeRecord (most : Nat) (logger : String) (source : Source)
    (level message args trouble extra : Value) : Except Fault Record := do
  let args ← argumentsOf args
  let levelName ← levelName most level
  let entries ← extraFields extra
  return {
    level, levelName, logger, message, args
    fields := (Value.find? dataName entries).getD .none
    trouble, source }

end Linkcut.Log

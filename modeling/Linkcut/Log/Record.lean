import Linkcut.Json
import Linkcut.Log.Entry
import Linkcut.Template
import Linkcut.Value.Key

/-!
Log records and their two written forms: one JSON object on a line, and a coloured line for a
console. Both fill in the message first, so a template that does not fit its arguments spoils the
record whatever else it holds.
-/

set_option autoImplicit false

namespace Linkcut.Log

structure Moment where
  year : Nat
  month : Nat
  day : Nat
  hour : Nat
  minute : Nat
  second : Nat
  micro : Nat
  deriving DecidableEq, Repr, Inhabited

/-- The digits of a number, with zeros before them up to `width` digits. -/
def padded (width n : Nat) : String :=
  let ds := digits n
  String.ofList (List.replicate (width - ds.length) '0' ++ ds)

namespace Moment

def timeOfDay (m : Moment) : String :=
  padded 2 m.hour ++ ":" ++ padded 2 m.minute ++ ":" ++ padded 2 m.second

/-- Date and time in universal time; the fraction is left out where it is zero. -/
def stamp (m : Moment) : String :=
  let fraction := if m.micro = 0 then "" else "." ++ padded 6 m.micro
  padded 4 m.year ++ "-" ++ padded 2 m.month ++ "-" ++ padded 2 m.day ++ "T" ++ m.timeOfDay ++
    fraction ++ "+00:00"

end Moment

structure Source where
  path : String
  /-- The number of a line of a program's text, and so never too long for a text. -/
  line : Int
  function : Option String
  deriving DecidableEq, Repr, Inhabited

/-- The part of a path after its last slash. -/
def Source.file (s : Source) : String :=
  String.ofList (s.path.toList.reverse.takeWhile (· != '/')).reverse

structure Record where
  /-- Handlers compare it with their own level. -/
  level : Value
  levelName : String
  logger : String
  message : Value
  /-- What fills in the message, if it counts as true. -/
  args : Value
  /-- Named fields; formatters expect a dictionary and pass over what counts as false. -/
  fields : Value := .none
  /-- What went wrong: a fault, or three things of which the second is the fault. -/
  trouble : Value := .none
  source : Source := ⟨"", 0, none⟩
  deriving Repr, Inhabited

/-- The trace where there is no fault. -/
def noTrace : String := "NoneType: None"

/-- The trace of a fault that a value holds and of the frames that another one holds. -/
def traceOf (fault frames : Value) : Except Fault String :=
  match frames, fault with
  | .none, .none => .ok noTrace
  | .none, .fault c => .ok c.text
  | .none, v => .error (.noAttribute v.type "__suppress_context__")
  | v, _ => .error (.noAttribute v.type "tb_frame")

/-- The trace where characters stand for the three things: they have no frames. -/
def traceOfText (s : String) : Fault :=
  if s.length < 3 then .pastTheEnd (some "string") else .noAttribute "str" "tb_frame"

/-- The trace of entries under the keys 0, 1 and 2; the frames are looked up first. -/
def traceOfEntries (es : List (Value × Value)) : Except Fault String := do
  let entry (n : Int) : Except Fault Value :=
    match Value.at? (.int n) es with
    | some v => .ok v
    | none => .error (.noSuchKey (toString n))
  let frames ← entry 2
  let _ ← entry 0
  traceOf (← entry 1) frames

/-- The trace of what went wrong, if anything did. -/
def traceOf? (trouble : Value) : Except Fault (Option String) :=
  if !trouble.isTruthy then .ok none
  else match trouble with
    | .fault c => .ok (some c.text)
    | .list (_ :: v :: w :: _) | .tuple (_ :: v :: w :: _) => (traceOf v w).map some
    | .list _ => .error (.pastTheEnd (some "list"))
    | .tuple _ => .error (.pastTheEnd (some "tuple"))
    | .dict es => (traceOfEntries es).map some
    | .str s => .error (traceOfText s)
    | .phase p => .error (traceOfText p.text)
    | .bytes bs =>
      .error (if bs.length < 3 then .pastTheEnd none else .noAttribute "int" "tb_frame")
    | v => .error (.noElements v.type)

/-- What fills in the message: a dictionary that is the only argument stands for itself. -/
def argumentsOf (args : Value) : Except Fault Value :=
  if !args.isTruthy then .ok args
  else match args with
    | .tuple [.dict (e :: es)] | .list [.dict (e :: es)] => .ok (.dict (e :: es))
    | .dict [e] =>
      match Value.at? (.int 0) [e] with
      | some (.dict (d :: ds)) => .ok (.dict (d :: ds))
      | some _ => .ok args
      | none => .error (.noSuchKey "0")
    | .tuple _ | .list _ | .dict _ | .str _ | .bytes _ | .phase _ => .ok args
    | v => .error (.noLength v.type)

/-- The message; a template is filled in only if there are arguments. -/
def Record.text (r : Record) (most : Nat) : Except Fault String := do
  let message ← r.message.written most
  if r.args.isTruthy then Template.fill most message r.args else return message

/-- The record as a JSON object, with the place in the program where it was made if `debug`. -/
def Record.toJson (r : Record) (most : Nat) (now : Moment) (debug : Bool) : Except Fault Json := do
  let message ← r.text most
  let trace ← traceOf? r.trouble
  let data ← if r.fields.isTruthy then (r.fields.toJson most).map some else pure none
  let function := match r.source.function with
    | some f => Json.str f
    | none => .null
  return .object <|
    [("timestamp", .str now.stamp), ("level", .str r.levelName), ("logger", .str r.logger),
     ("message", .str message)] ++
    (data.map fun d => ("data", d)).toList ++
    (trace.map fun t => ("exception", .str t)).toList ++
    (if debug then
      [("source", .object
        [("file", .str r.source.file), ("line", .int r.source.line), ("function", function)])]
    else [])

def Record.line (r : Record) (most : Nat) (now : Moment) (debug : Bool) : Except Fault String :=
  (r.toJson most now debug).map (·.render .line)

/-- Codes that colour a console, by the name of a level. -/
def colours : List (String × String) :=
  [("DEBUG", "\x1b[36m"), ("INFO", "\x1b[32m"), ("WARNING", "\x1b[33m"), ("ERROR", "\x1b[31m"),
   ("CRITICAL", "\x1b[35m")]

/-- The code that ends a colour; it stands where a level has none, too. -/
def plain : String := "\x1b[0m"

/-- The text filled up with blanks on the right. -/
def widened (width : Nat) (s : String) : String :=
  s ++ String.ofList (List.replicate (width - s.length) ' ')

def fieldsText (most : Nat) (fields : Value) : Except Fault String :=
  if !fields.isTruthy then .ok ""
  else match fields with
    | .dict es => do
      let parts ← es.mapM fun e => do return (← e.1.written most) ++ "=" ++ (← e.2.written most)
      return " (" ++ " | ".intercalate parts ++ ")"
    | v => .error (.noAttribute v.type "items")

/-- The record on a console line, and its trace on the lines after that. -/
def Record.console (r : Record) (most : Nat) (now : Moment) : Except Fault String := do
  let colour := (colours.lookup r.levelName).getD plain
  let message ← r.text most
  let fields ← fieldsText most r.fields
  let trace ← traceOf? r.trouble
  return colour ++ "[" ++ now.timeOfDay ++ "] " ++ widened 8 r.levelName ++ plain ++ " " ++
    r.logger ++ ": " ++ message ++ fields ++ (trace.map ("\n" ++ ·)).getD ""

inductive Form where
  | json
  | console
  deriving DecidableEq, Repr, Inhabited

def Form.className : Form → String
  | json => "StructuredFormatter"
  | console => "DevelopmentFormatter"

def Record.render (r : Record) (most : Nat) (form : Form) (now : Moment) (debug : Bool) :
    Except Fault String :=
  match form with
  | .json => r.line most now debug
  | .console => r.console most now

end Linkcut.Log

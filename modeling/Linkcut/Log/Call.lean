import Linkcut.Log.Loggers
import Linkcut.Log.Writer

/-!
Calls of a logger by name, with positional and named arguments. Some make a record, at a level of
their own or at any; the others ask for thresholds and set them, or change filters and handlers. A
call may fail after lines were written.
-/

set_option autoImplicit false

namespace Linkcut.Log

structure Call where
  name : String
  args : List Value
  named : Named
  deriving Repr, Inhabited

structure Desk where
  loggers : Loggers
  /-- What writers have written, the latest line first. -/
  lines : List String := []
  deriving Repr, Inhabited

/-- Where calls go, and what handles their records. -/
structure Post where
  seat : Seat
  writer : Writer
  source : Source
  deriving Repr, Inhabited

abbrev Act := ReaderT Post (ExceptT Fault (StateM Desk))

namespace Act

def logger : Act Logger := do return (← get).loggers.get (← read).seat

def change (f : Logger → Logger) : Act Unit := do
  let seat := (← read).seat
  modify fun d => { d with loggers := d.loggers.set (f (d.loggers.get seat)) seat }

/-- Whether a level makes a record. The answer is kept, except for a level that is no number. -/
def isEnabled (level : Value) : Act Bool := do
  let key ← level.key 0
  let found := (← logger).answers.find? fun a => decide (a.1 = key)
  match key, found with
  | .lone _, _ => passes ((← get).loggers.threshold (← read).seat).level level
  | _, some a => return a.2
  | _, none =>
    let b ← passes ((← get).loggers.threshold (← read).seat).level level
    change fun l => { l with answers := (key, b) :: l.answers }
    return b

/-- Hands a record to the handlers of a logger and of those above it. -/
def passOn (r : Record) : Act Unit := do
  for l in (← get).loggers.line (← read).seat do
    for h in l.handlers do
      match h with
      | .writer =>
        if let some line ← (← read).writer.write r then
          modify fun d => { d with lines := line :: d.lines }
      | .thing v => throw (.noAttribute v.type "level")

/-- Anything but a record tells no level. The outermost logger has handlers, or the one that stands
alone. -/
def passOnThing (v : Value) : Act Unit := throw (.noAttribute v.type "levelno")

/-- A thing that was added as a filter cannot be asked. -/
def filter : Act Unit := do
  if let v :: _ := (← logger).filters then throw (.notCallable v.type)

/-- Makes a record and hands it on, if no filter keeps it. How many callers are passed over must be
a number. -/
def log (level message args trouble extra passedOver : Value) : Act Unit := do
  match passedOver with
  | .int _ | .bool _ | .float _ => pure ()
  | v => throw (.unordered ">" v.type "int")
  let post ← read
  let r ← makeRecord post.writer.most (← logger).name post.source level message args
    (troubleOf trouble) extra
  filter
  passOn r

def recordParameters : Parameters :=
  { callee := "Logger._log", required := ["level", "msg", "args"]
    optional := [("exc_info", .none), ("extra", .none), ("stack_info", .bool false),
      ("stacklevel", .int 1)] }

/-- Those of a call for a record with fields: every other name is one. -/
def fieldParameters : Parameters :=
  { callee := "StructuredLogger._log_with_data", required := ["level", "msg", "args"]
    optional := [("exc_info", .none), ("extra", .none)], takesNamed := true }

/-- A record whatever the threshold. -/
def logBound (args : List Value) (named : Named) : Act Unit := do
  let b ← recordParameters.bind args named
  log (b.at 0) (b.at 1) (b.at 2) (b.at 3) (b.at 4) (b.at 6)

/-- A record with fields, if its level makes one. -/
def logFields (args : List Value) (named : Named) : Act Unit := do
  let b ← fieldParameters.bind args named
  if ← isEnabled (b.at 0) then
    log (b.at 0) (b.at 1) (b.at 2) (b.at 3) (← withFields (b.at 4) b.named) (.int 1)

/-- A record at a level, with named arguments as fields where the logger takes them. -/
def logAt (level : Level) (b : Bound) : Act Unit := do
  let args := [.int level, b.at 0, .tuple b.more]
  match (← logger).kind with
  | .structured => logFields args b.named
  | _ => if ← isEnabled (.int level) then logBound args b.named

/-- A record at a level that is asked for, which must be a whole number. -/
def logAny (b : Bound) : Act Unit := do
  match b.at 0 with
  | .int _ | .bool _ => pure ()
  | _ => throw .levelNotInteger
  if ← isEnabled (b.at 0) then logBound [b.at 0, b.at 1, .tuple b.more] b.named

/-- A logger below, as it is shown. It comes to be, if there is none. -/
def child (suffix : Value) : Act Value := do
  let seat := (← read).seat
  let suffix? := match suffix with
    | .str s => some s
    | .phase p => some p.text
    | _ => none
  let name ← match seat, suffix? with
    | .outermost, some s => pure s
    | .outermost, none => throw .nameNotText
    | _, some s => pure ((← logger).name ++ "." ++ s)
    | _, none => throw (.partNotText 1 suffix.type)
  modify fun d => { d with loggers := d.loggers.enter (.named name) }
  return .foreign (← (← get).loggers.describe (← read).writer.most (.named name))

end Act

inductive Method where
  /-- A record at a level of its own. -/
  | record (level : Level)
  /-- A record of an error that notes a fault unless told otherwise. -/
  | failure
  /-- A record at any level. -/
  | any
  /-- A record whatever the threshold. -/
  | direct
  /-- A record with fields, at any level. -/
  | fields
  /-- A record that is handed to nobody. -/
  | make
  | handle
  | passOn
  | filter
  | addFilter
  | removeFilter
  | addHandler
  | removeHandler
  | hasHandlers
  | isEnabled
  | setThreshold
  | threshold
  | child
  | describe
  /-- The same text, as the plain one. -/
  | plainText
  deriving DecidableEq, Repr

namespace Method

def ofLevels : List (String × Level) :=
  [("debug", .debug), ("info", .info), ("warning", .warning), ("error", .error),
   ("critical", .critical)]

/-- The calls that all loggers have in common, with their names. -/
def common : List (String × Method) :=
  [("exception", .failure), ("warn", .record .warning), ("fatal", .record .critical),
   ("log", .any), ("_log", .direct), ("makeRecord", .make), ("handle", .handle),
   ("callHandlers", .passOn), ("addHandler", .addHandler), ("removeHandler", .removeHandler),
   ("hasHandlers", .hasHandlers), ("isEnabledFor", .isEnabled), ("setLevel", .setThreshold),
   ("getEffectiveLevel", .threshold), ("getChild", .child), ("__repr__", .describe),
   ("__str__", .plainText)]

/-- Those that loggers share with other things that filter. -/
def ofFilters : List (String × Method) :=
  [("filter", .filter), ("addFilter", .addFilter), ("removeFilter", .removeFilter)]

def fieldsName : String := "_log_with_data"

/-- The call of a name, with its full name. -/
def named? (kind : LoggerKind) (name : String) : Option (String × Method) :=
  let structured := kind == .structured
  if structured && name == fieldsName then some (Act.fieldParameters.callee, .fields)
  else match ofLevels.lookup name, common.lookup name, ofFilters.lookup name with
    | some level, _, _ =>
      let owner := if structured then kind.name else LoggerKind.plain.name
      some (owner ++ "." ++ name, .record level)
    | none, some m, _ => some (LoggerKind.plain.name ++ "." ++ name, m)
    | none, none, some m => some ("Filterer." ++ name, m)
    | none, none, none => none

def parameters (callee : String) : Method → Parameters
  | record _ | failure => { callee, required := ["msg"], takesMore := true, takesNamed := true }
  | any => { callee, required := ["level", "msg"], takesMore := true, takesNamed := true }
  | direct => Act.recordParameters
  | fields => Act.fieldParameters
  | make =>
    { callee, required := ["name", "level", "fn", "lno", "msg", "args", "exc_info"]
      optional := [("func", .none), ("extra", .none), ("sinfo", .none)] }
  | handle | passOn | filter => { callee, required := ["record"] }
  | addFilter | removeFilter => { callee, required := ["filter"] }
  | addHandler | removeHandler => { callee, required := ["hdlr"] }
  | isEnabled | setThreshold => { callee, required := ["level"] }
  | child => { callee, required := ["suffix"] }
  | hasHandlers | threshold | describe | plainText => { callee }

def shown (most : Nat) (b : Bound) : Except Fault Value := do
  let r ← makeRecord most (b.at 0).show ⟨"", 0, none⟩ (b.at 1) (b.at 4) (b.at 5) (b.at 6) (b.at 8)
  let parts := ", ".intercalate (← [b.at 0, b.at 1, b.at 2, b.at 3].mapM (Value.written most))
  let message ← r.message.written most
  return .foreign ("<LogRecord: " ++ parts ++ ", \"" ++ message ++ "\">")

def run (m : Method) (args : List Value) (named : Named) (b : Bound) : Act Value := do
  match m with
  | record level => Act.logAt level b
  | failure =>
    let (trouble, others) := Names.pop b.named "exc_info"
    Act.logAt .error { b with named := ("exc_info", trouble.getD (.bool true)) :: others }
  | any => Act.logAny b
  | direct => Act.logBound args named
  | fields => Act.logFields args named
  | make => return ← shown (← read).writer.most b
  | handle =>
    Act.filter
    Act.passOnThing (b.at 0)
  | passOn => Act.passOnThing (b.at 0)
  | filter =>
    Act.filter
    return .bool true
  | addFilter => Act.change (·.addFilter (b.at 0))
  | removeFilter => Act.change (·.removeFilter (b.at 0))
  | addHandler => Act.change (·.addHandler (b.at 0))
  | removeHandler => Act.change (·.removeHandler (b.at 0))
  | hasHandlers => return .bool true
  | isEnabled => return .bool (← Act.isEnabled (b.at 0))
  | setThreshold =>
    let t ← Threshold.ofValue (b.at 0)
    Act.change fun l => { l with threshold := t }
    modify fun d => { d with loggers := d.loggers.forget }
  | threshold => return ((← get).loggers.threshold (← read).seat).toValue
  | child => return ← Act.child (b.at 0)
  | describe | plainText =>
    let post ← read
    return .str (← (← get).loggers.describe post.writer.most post.seat)
  return .none

end Method

namespace Logger

/-- Parts of a logger that are no calls, with their types; the loggers above are given. -/
def parts (l : Logger) (above : List Logger) : List (String × String) :=
  [("name", "str"), ("level", l.threshold.toValue.type),
   ("parent", above.head?.elim "NoneType" fun p => p.kind.name), ("propagate", "bool"),
   ("handlers", "list"), ("filters", "list"), ("disabled", "bool"), ("manager", "Manager"),
   ("root", LoggerKind.outermost.name), ("_cache", "dict"), ("__dict__", "dict"),
   ("__doc__", "str"), ("__module__", "str"), ("__weakref__", "NoneType")]

end Logger

def Call.act (c : Call) : Act Value := do
  let l ← Act.logger
  match Method.named? l.kind c.name with
  | some (callee, m) =>
    if m = .plainText then
      if !c.named.isEmpty then throw (.needlessNames c.name)
      if !c.args.isEmpty then throw (.needlessArguments c.args.length)
    m.run c.args c.named (← (m.parameters callee).bind c.args c.named)
  | none =>
    match (l.parts ((← get).loggers.above (← read).seat)).lookup c.name with
    | some type => throw (.notCallable type)
    | none => throw (.noAttribute l.kind.name c.name)

/-- Makes a call at a post: what it gives back, the lines that it writes, and the loggers after it.
-/
def Call.make (c : Call) (p : Post) (ls : Loggers) :
    Except Fault Value × List String × Loggers :=
  let (r, d) := ((c.act.run p).run).run { loggers := ls }
  (r, d.lines.reverse, d.loggers)

end Linkcut.Log

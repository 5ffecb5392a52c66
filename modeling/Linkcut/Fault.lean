import Linkcut.Double.Decimal
import Linkcut.Text.Encoding
import Linkcut.Text.Quoted

/-!
What can go wrong. A fault is a cause; its kind says which handlers catch it, and `Fault.message`
is the one place where its wording stands.
-/

set_option autoImplicit false

namespace Linkcut

/-- Which handlers catch a fault: one for system faults, one for runtime faults, one for every
ordinary fault, or none but the outermost. -/
inductive Family where
  | system
  | runtime
  | ordinary
  | fatal
  deriving DecidableEq, Repr, Inhabited

/-- A class of faults: its name, the module before the name in a trace, and its family. -/
structure Kind where
  name : String
  home : Option String := none
  family : Family := .ordinary
  deriving DecidableEq, Repr, Inhabited

namespace Kind

def systemNames : List String :=
  ["OSError", "ConnectionError", "ConnectionResetError", "ConnectionRefusedError",
   "ConnectionAbortedError", "BrokenPipeError", "TimeoutError", "PermissionError",
   "FileNotFoundError", "FileExistsError", "InterruptedError", "IsADirectoryError",
   "NotADirectoryError", "ProcessLookupError", "ChildProcessError", "BlockingIOError"]

def runtimeNames : List String := ["RuntimeError", "NotImplementedError", "RecursionError"]

def fatalNames : List String :=
  ["BaseException", "KeyboardInterrupt", "SystemExit", "GeneratorExit", "BaseExceptionGroup"]

/-- The class of that name. Two names stand for other classes, and two classes live in modules. -/
def named (name : String) : Kind :=
  if name = "CancelledError" then ⟨name, some "asyncio.exceptions", .fatal⟩
  else if name = "SocketIOConnectionError" then
    ⟨"ConnectionError", some "socketio.exceptions", .ordinary⟩
  else if name = "IOError" || name = "EnvironmentError" then ⟨"OSError", none, .system⟩
  else if systemNames.contains name then ⟨name, none, .system⟩
  else if runtimeNames.contains name then ⟨name, none, .runtime⟩
  else if fatalNames.contains name then ⟨name, none, .fatal⟩
  else ⟨name, none, .ordinary⟩

def qualified (k : Kind) : String :=
  match k.home with
  | some m => m ++ "." ++ k.name
  | none => k.name

/-- Faults of a program's text. Their own text tells the detail, and they have one always. -/
def isSyntax (k : Kind) : Bool :=
  k.home.isNone && ["SyntaxError", "IndentationError", "TabError"].contains k.name

def typeError : Kind := ⟨"TypeError", none, .ordinary⟩
def valueError : Kind := ⟨"ValueError", none, .ordinary⟩
def indexError : Kind := ⟨"IndexError", none, .ordinary⟩
def keyError : Kind := ⟨"KeyError", none, .ordinary⟩
def attributeError : Kind := ⟨"AttributeError", none, .ordinary⟩
def overflowError : Kind := ⟨"OverflowError", none, .ordinary⟩
def runtimeError : Kind := ⟨"RuntimeError", none, .runtime⟩
def recursionError : Kind := ⟨"RecursionError", none, .runtime⟩
def systemExit : Kind := ⟨"SystemExit", none, .fatal⟩
def systemError : Kind := ⟨"OSError", none, .system⟩
def lookupError : Kind := ⟨"LookupError", none, .ordinary⟩
def unicodeError : Kind := ⟨"UnicodeError", none, .ordinary⟩
def unicodeDecodeError : Kind := ⟨"UnicodeDecodeError", none, .ordinary⟩

end Kind

inductive Fault where
  /-- Raised by a collaborator with its own text, or with none. -/
  | raised (kind : Kind) (text : Option String)
  | tooDeep
  | unhashable (type : String)
  /-- A comparison by `<` or another relation. -/
  | unordered (relation left right : String)
  | noRunningLoop
  | negativeDelay (delay : String)
  | noInteger (why : Double.NoInteger)
  | quotientTooLarge
  | integerTooLarge
  /-- More digits than a text may have. -/
  | integerTooLong (most : Nat)
  | notAMember (value enumeration : String)
  | noAttribute (type name : String)
  | notConvertible (type : String)
  | badIntegerText (quoted : String)
  | badOperand (operation left right : String)
  /-- A call whose arguments leave required ones out. -/
  | missingArguments (callee : String) (names : List String) (keywordOnly : Bool)
  /-- A call with more positional arguments than the callee takes. -/
  | tooManyArguments (callee takes : String) (plural : Bool) (given : Nat)
  | repeatedArgument (callee name : String)
  | unexpectedArgument (callee name : String)
  /-- Arguments of a call that takes none. -/
  | needlessArguments (given : Nat)
  | needlessNames (callee : String)
  /-- A part of a text that is no text, counted from zero. -/
  | partNotText (index : Nat) (type : String)
  | nameNotText
  | levelNotInteger
  | reservedField (quoted : String)
  | badFieldName (type : String)
  | tooFewForTemplate
  | tooManyForTemplate
  | templateNeedsMapping
  | templateNeedsNumber (conversion : Char) (type : String) (whole : Bool)
  | templateNeedsReal (type : String)
  | templateNeedsChar
  | templateCharRange
  | starNeedsInteger
  /-- A width or a precision that no text can have, written out or taken from the arguments. -/
  | fieldTooBig (precision : Bool)
  | starTooBig (precision : Bool)
  /-- More digits of an integer than can be asked for. -/
  | precisionTooLarge
  | badConversion (conversion : Char) (index : Nat)
  | templateCut
  | templateKeyCut
  | noSuchKey (quoted : String)
  | noElements (type : String)
  | noAssignment (type : String)
  | notIterable (type : String)
  | noLength (type : String)
  | notAPath (type : String)
  | bytesForPath
  | noHome
  | pathTooLong (quoted : String)
  | unreadable (why : Text.DecodingError)
  | encodingNotText (type : String)
  /-- A name with a null character in it. -/
  | nullInName
  | notCallable (type : String)
  /-- A value in place of two. -/
  | notUnpackable (type : String)
  | tooFewToUnpack (given : Nat)
  | tooManyToUnpack
  /-- A value in place of a text with a pattern. -/
  | notMatchable (type : String)
  | bytesForText
  | elementIndex (sequence type : String)
  | charIndex (type : String)
  /-- An index with no element; some sequences are named. -/
  | pastTheEnd (sequence : Option String)
  | unknownLevel (quoted : String)
  | badLevel (shown : String)
  | exit (code : Int)
  deriving DecidableEq, Repr, Inhabited

namespace Fault

def kind : Fault → Kind
  | raised k _ => k
  | tooDeep => .recursionError
  | unhashable _ | unordered .. | badOperand .. | missingArguments .. | tooManyArguments ..
  | repeatedArgument .. | unexpectedArgument .. | needlessArguments _ | needlessNames _
  | partNotText .. | nameNotText | levelNotInteger | badFieldName _
  | tooFewForTemplate | tooManyForTemplate | templateNeedsMapping | templateNeedsNumber ..
  | templateNeedsReal _ | templateNeedsChar | starNeedsInteger | notConvertible _
  | noElements _ | noAssignment _ | notIterable _ | noLength _ | notAPath _ | notCallable _
  | elementIndex .. | charIndex _ | badLevel _ | bytesForPath | encodingNotText _
  | notUnpackable _ | notMatchable _ | bytesForText => .typeError
  | noRunningLoop | noHome => .runtimeError
  | pathTooLong _ => .systemError
  | unreadable (.unknownName _) | unreadable (.noTextEncoding _) => .lookupError
  | unreadable (.undecodable ..) => .unicodeDecodeError
  | unreadable (.unordered _) => .unicodeError
  | negativeDelay _ | notAMember .. | badIntegerText _ | badConversion .. | templateCut
  | templateKeyCut | fieldTooBig _ | unknownLevel _ | nullInName | tooFewToUnpack _
  | tooManyToUnpack | integerTooLong _ => .valueError
  | noInteger .notANumber => .valueError
  | noInteger .unbounded => .overflowError
  | quotientTooLarge | integerTooLarge | templateCharRange | starTooBig _
  | precisionTooLarge => .overflowError
  | noAttribute .. => .attributeError
  | reservedField _ | noSuchKey _ => .keyError
  | pastTheEnd _ => .indexError
  | exit _ => .systemExit

/-- What is seen of a fault that leaves a suspended computation of this sort: the fault that ends an
iteration cannot leave one, and a runtime fault stands for it. -/
def leaving (sort : String) (f : Fault) : Fault :=
  match f with
  | raised k _ =>
    if k = ⟨"StopIteration", none, .ordinary⟩ then
      raised .runtimeError (some (sort ++ " raised StopIteration"))
    else f
  | f => f

/-- What a caller that waits for a call sees of its fault. -/
def awaited (f : Fault) : Fault := f.leaving "coroutine"

/-- What a caller that draws elements one by one sees of a fault in one of them. -/
def drawn (f : Fault) : Fault := f.leaving "generator"

/-- Caught by the handlers of ordinary faults. -/
def isOrdinary (f : Fault) : Bool := f.kind.family != .fatal

/-- What a probe may fail with: a system or a runtime fault. -/
def isDelivery (f : Fault) : Bool := f.kind.family == .system || f.kind.family == .runtime

private def plural (many : Bool) (s : String) : String := if many then s ++ "s" else s

private def listed (names : List String) : String :=
  match (names.map fun n => s!"'{n}'").reverse with
  | [] => ""
  | [n] => n
  | [n, m] => m ++ " and " ++ n
  | n :: ns => ", ".intercalate ns.reverse ++ ", and " ++ n

/-- The text of a fault. A missing key is shown in quotes. A fault that is raised has its own text
or none; one whose text cannot be had, because asking for it fails in turn, has no place here. -/
def message : Fault → String
  | raised k t =>
    match t with
    | some s => if k = .keyError then Text.quote s else s
    | none => if k.isSyntax then "None" else ""
  | tooDeep => "maximum recursion depth exceeded"
  | unhashable t => s!"unhashable type: '{t}'"
  | unordered relation l r => s!"'{relation}' not supported between instances of '{l}' and '{r}'"
  | noRunningLoop => "no running event loop"
  | negativeDelay d => s!"delay_seconds must not be negative, got {d}"
  | noInteger .notANumber => "cannot convert float NaN to integer"
  | noInteger .unbounded => "cannot convert float infinity to integer"
  | quotientTooLarge => "integer division result too large for a float"
  | integerTooLarge => "int too large to convert to float"
  | integerTooLong most =>
    s!"Exceeds the limit ({most} digits) for integer string conversion; " ++
      "use sys.set_int_max_str_digits() to increase the limit"
  | notAMember v e => s!"{v} is not a valid {e}"
  | noAttribute t n => s!"'{t}' object has no attribute '{n}'"
  | notConvertible t =>
    s!"int() argument must be a string, a bytes-like object or a real number, not '{t}'"
  | badIntegerText q => s!"invalid literal for int() with base 10: {q}"
  | badOperand o l r => s!"unsupported operand type(s) for {o}: '{l}' and '{r}'"
  | missingArguments c names keywordOnly =>
    let sort := if keywordOnly then "keyword-only" else "positional"
    let noun := plural (1 < names.length) "argument"
    s!"{c}() missing {names.length} required {sort} {noun}: {listed names}"
  | tooManyArguments c takes many given =>
    let noun := plural many "argument"
    s!"{c}() takes {takes} positional {noun} but {given} were given"
  | repeatedArgument c n => s!"{c}() got multiple values for argument '{n}'"
  | unexpectedArgument c n => s!"{c}() got an unexpected keyword argument '{n}'"
  | needlessArguments n => s!"expected 0 arguments, got {n}"
  | needlessNames c => s!"wrapper {c}() takes no keyword arguments"
  | partNotText i t => s!"sequence item {i}: expected str instance, {t} found"
  | nameNotText => "A logger name must be a string"
  | levelNotInteger => "level must be an integer"
  | reservedField q => Text.quote s!"Attempt to overwrite {q} in LogRecord"
  | badFieldName t => s!"keys must be str, int, float, bool or None, not {t}"
  | tooFewForTemplate => "not enough arguments for format string"
  | tooManyForTemplate => "not all arguments converted during string formatting"
  | templateNeedsMapping => "format requires a mapping"
  | templateNeedsNumber c t whole =>
    let noun := if whole then "an integer" else "a real number"
    s!"%{c} format: {noun} is required, not {t}"
  | templateNeedsReal t => s!"must be real number, not {t}"
  | templateNeedsChar => "%c requires int or char"
  | templateCharRange => "%c arg not in range(0x110000)"
  | starNeedsInteger => "* wants int"
  | fieldTooBig precision => if precision then "precision too big" else "width too big"
  | starTooBig precision =>
    "Python int too large to convert to C " ++ if precision then "int" else "ssize_t"
  | precisionTooLarge => "precision too large"
  | badConversion c i =>
    let shown := if 0x1f ≤ c.toNat && c.toNat < 0x7f then c else '?'
    let code := String.ofList (Nat.toDigits 16 c.toNat)
    s!"unsupported format character '{shown}' (0x{code}) at index {i}"
  | templateCut => "incomplete format"
  | templateKeyCut => "incomplete format key"
  | noSuchKey q => q
  | noElements t => s!"'{t}' object is not subscriptable"
  | noAssignment t => s!"'{t}' object does not support item assignment"
  | notIterable t => s!"'{t}' object is not iterable"
  | noLength t => s!"object of type '{t}' has no len()"
  | notAPath t => s!"expected str, bytes or os.PathLike object, not {t}"
  | bytesForPath =>
    "argument should be a str object or an os.PathLike object returning str, not <class 'bytes'>"
  | noHome => "Could not determine home directory."
  | pathTooLong q => "[Errno 36] File name too long: " ++ q
  | unreadable e => e.message
  | encodingNotText t => s!"open() argument 'encoding' must be str or None, not {t}"
  | nullInName => "embedded null character"
  | notCallable t => s!"'{t}' object is not callable"
  | notUnpackable t => s!"cannot unpack non-iterable {t} object"
  | tooFewToUnpack n => s!"not enough values to unpack (expected 2, got {n})"
  | tooManyToUnpack => "too many values to unpack (expected 2)"
  | notMatchable t => s!"expected string or bytes-like object, got '{t}'"
  | bytesForText => "cannot use a string pattern on a bytes-like object"
  | elementIndex s t => s!"{s} indices must be integers or slices, not {t}"
  | charIndex t => s!"string indices must be integers, not '{t}'"
  | pastTheEnd s => (s.map (· ++ " ")).getD "" ++ "index out of range"
  | unknownLevel q => s!"Unknown level: {q}"
  | badLevel v => s!"Level not an integer or a valid string: {v}"
  | exit c => toString c

def detail (f : Fault) : String :=
  match f with
  | raised k t =>
    if k.isSyntax && (t.getD "").isEmpty then "<no detail available>" else f.message
  | f => f.message

/-- The last line of a trace: the class and, if there is one, the text. -/
def lastLine (f : Fault) : String :=
  if f.detail = "" then f.kind.qualified else f.kind.qualified ++ ": " ++ f.detail

/-- The class and the text, as journals show them. -/
def brief (f : Fault) : String := f.kind.name ++ ": " ++ f.message

end Fault

inductive Chain where
  | alone (fault : Fault)
  | causedBy (fault : Fault) (cause : Chain)
  | during (fault : Fault) (context : Chain)
  deriving DecidableEq, Repr, Inhabited

namespace Chain

def fault : Chain → Fault
  | alone f => f
  | causedBy f _ => f
  | during f _ => f

/-- The whole account, the earliest fault first. -/
def text : Chain → String
  | alone f => f.lastLine
  | causedBy f c =>
    c.text ++ "\n\nThe above exception was the direct cause of the following exception:\n\n" ++
      f.lastLine
  | during f c =>
    c.text ++ "\n\nDuring handling of the above exception, another exception occurred:\n\n" ++
      f.lastLine

end Chain

/-- What comes after a computation is reached only when the computation gives a result. -/
theorem ok_of_bind {α β : Type} {x : Except Fault α} {f : α → Except Fault β} {b : β}
    (h : x >>= f = .ok b) : ∃ a, x = .ok a ∧ f a = .ok b := by
  cases x with
  | error e => cases h
  | ok a => exact ⟨a, rfl, h⟩

end Linkcut

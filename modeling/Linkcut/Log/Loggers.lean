import Linkcut.Log.Logger

/-!
Loggers by name. A name with points lies below the names that it begins with, and all names below
the outermost logger; one more logger may stand alone. Main statements: a logger is found where it
was put, and nowhere else.
-/

set_option autoImplicit false

namespace Linkcut.Log

structure Loggers where
  outermost : Logger
  named : Names Logger := []
  alone : Logger := { name := "" }
  deriving Repr, Inhabited

inductive Seat where
  | outermost
  | named (name : String)
  | alone
  deriving DecidableEq, Repr, Inhabited

namespace Loggers

/-- The logger that stands somewhere; a name without one stands for a new one. -/
def get (ls : Loggers) : Seat → Logger
  | .outermost => ls.outermost
  | .named name => (ls.named.lookup name).getD { name }
  | .alone => ls.alone

def set (ls : Loggers) (l : Logger) : Seat → Loggers
  | .outermost => { ls with outermost := l }
  | .named name => { ls with named := Names.enter name l ls.named }
  | .alone => { ls with alone := l }

theorem get_set (ls : Loggers) (l : Logger) (s t : Seat) :
    (ls.set l s).get t = if t = s then l else ls.get t := by
  cases s <;> cases t <;> simp [get, set, Names.lookup_enter]
  split <;> simp_all

/-- The name of the outermost logger, which may be left empty. -/
def outermostName : String := "root"

def seat (name : String) : Seat :=
  if name = "" ∨ name = outermostName then .outermost else .named name

/-- The logger of a seat comes to be, if there is none. -/
def enter (ls : Loggers) (s : Seat) : Loggers := ls.set (ls.get s) s

/-- The names above one that is spelt backwards, the nearest first: what stands before a point. A
point just before another parts nothing. -/
def namesAbove : Nat → List Char → List String
  | 0, _ => []
  | count + 1, backwards =>
    match backwards.dropWhile (· != '.') with
    | _ :: c :: r => String.ofList (c :: r).reverse :: namesAbove count r
    | _ => []

/-- The loggers above one, the nearest first. -/
def above (ls : Loggers) : Seat → List Logger
  | .named name =>
    ((namesAbove name.length name.toList.reverse).filterMap fun n => ls.named.lookup n) ++
      [ls.outermost]
  | _ => []

def line (ls : Loggers) (s : Seat) : List Logger := ls.get s :: ls.above s

/-- The threshold of a logger: its own, or else that of the nearest one above that has one. -/
def threshold (ls : Loggers) (s : Seat) : Threshold :=
  ((ls.line s).findSome? fun l => if l.threshold.isSet then some l.threshold else none).getD
    (.number 0)

/-- All answers about levels are forgotten; those of a logger that stands alone are not reached. -/
def forget (ls : Loggers) : Loggers :=
  { ls with
    outermost := ls.outermost.forget
    named := ls.named.map fun e => (e.1, e.2.forget) }

/-- A logger as it is shown: its class, its name and the name of its threshold. -/
def describe (ls : Loggers) (most : Nat) (s : Seat) : Except Fault String := do
  let l := ls.get s
  let level ← levelName most (ls.threshold s).toValue
  return s!"<{l.kind.name} {l.name} ({level})>"

end Loggers
end Linkcut.Log

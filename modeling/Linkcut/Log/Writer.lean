import Linkcut.Log.Logger

/-!
Writers are the handlers that write lines: one for each record that reaches their level. A record
that has no line is a fault to a strict writer, and lost to any other.
-/

set_option autoImplicit false

namespace Linkcut.Log

structure Writer where
  level : Level := 0
  form : Form
  now : Moment
  /-- Whether lines of JSON show where records were made. -/
  debug : Bool
  /-- The most digits of a whole number in a line. -/
  most : Nat := usualMost
  strict : Bool
  deriving Repr, Inhabited

/-- The line of a record, if it is written. -/
def Writer.write (w : Writer) (r : Record) : Except Fault (Option String) := do
  if !(← reaches r.level w.level) then return none
  match r.render w.most w.form w.now w.debug with
  | .ok line => return some line
  | .error f => if w.strict then throw f else return none

end Linkcut.Log

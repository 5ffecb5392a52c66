/-!
A virtual event loop: a clock of whole microseconds and the timers that wait for it. Timers come
due in the order of their due times, and in the order of their creation where those agree.
-/

set_option autoImplicit false

namespace Linkcut

/-- An instant, in microseconds since the loop began. -/
abbrev Instant := Nat

structure Timer (α : Type) where
  id : Nat
  /-- When the timer comes due; without it the timer waits for ever. -/
  due : Option Instant
  job : α
  deriving Repr

structure Loop (α : Type) where
  now : Instant := 0
  /-- The number of the next timer. -/
  next : Nat := 0
  /-- Timers that wait, the oldest first. -/
  timers : List (Timer α) := []
  deriving Repr

namespace Loop

variable {α : Type}

instance : Inhabited (Loop α) := ⟨{}⟩

/-- Starts a timer that waits for `wait` microseconds, or for ever. -/
def start (l : Loop α) (wait : Option Nat) (job : α) : Nat × Loop α :=
  let t : Timer α := ⟨l.next, wait.map (l.now + ·), job⟩
  (l.next, { l with next := l.next + 1, timers := l.timers ++ [t] })

def cancel (l : Loop α) (id : Nat) : Loop α :=
  { l with timers := l.timers.filter (·.id != id) }

/-- The timer that comes due first, with its due time. -/
def earliest : List (Timer α) → Option (Instant × Timer α)
  | [] => none
  | t :: ts =>
    match t.due, earliest ts with
    | none, first => first
    | some d, none => some (d, t)
    | some d, some (e, u) => if e < d then some (e, u) else some (d, t)

/-- Takes the first timer that is due by `limit`, and sets the clock to its due time. -/
def popDue (l : Loop α) (limit : Instant) : Option (α × Loop α) :=
  match earliest l.timers with
  | none => none
  | some (d, t) =>
    if d ≤ limit then some (t.job, { l.cancel t.id with now := max l.now d }) else none

end Loop
end Linkcut

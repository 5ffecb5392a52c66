import Linkcut.Collector
import Linkcut.Names
import Linkcut.Stats

/-!
A site whose collectors are called from outside, too. The site's own tallies are whole. A counter to
which a caller adds a number with a fraction holds a number from then on, and what the site counts
is added to that.
-/

set_option autoImplicit false

namespace Linkcut

structure Ledger where
  site : Site := {}
  /-- Numbers in place of tallies, by collector and counter. -/
  numbers : List ((Nat × Counter) × Double) := []

namespace Ledger

instance : Inhabited Ledger := ⟨{}⟩

def collector (b : Ledger) (i : Nat) : Collector :=
  b.numbers.foldl
    (fun t e => if e.1.1 = i then t.modify e.1.2 fun _ => .real e.2 else t)
    (.ofTallies (b.site.tallies i))

def keep (b : Ledger) (i : Nat) (t : Collector) : Ledger :=
  let whole (tallies : Counters Int) (c : Counter) : Counters Int :=
    match t.get c with
    | .whole n => tallies.modify c fun _ => n
    | .real _ => tallies
  let number? (c : Counter) : Option ((Nat × Counter) × Double) :=
    match t.get c with
    | .whole _ => none
    | .real x => some ((i, c), x)
  let tallies := Counter.all.foldl whole (b.site.tallies i)
  { site := { b.site with counters := b.site.counters.set i tallies }
    numbers := (b.numbers.filter fun e => e.1.1 != i) ++ Counter.all.filterMap number? }

def call (b : Ledger) (i : Nat) (name : String) (args : List Value) :
    Except Fault Value × Ledger :=
  let (r, t) := (b.collector i).call name args
  (r, b.keep i t)

/-- A number with what was counted between two sites added to it. -/
def carry (before after : Site) (e : (Nat × Counter) × Double) : (Nat × Counter) × Double :=
  let ((i, c), x) := e
  let n := (after.tallies i).get c - (before.tallies i).get c
  match n, Double.ofInt? n with
  | 0, _ | _, none => e
  | _, some y => ((i, c), x.add y)

def perform (b : Ledger) (self target : Target) (q : Request) : Except Fault Reply × Ledger :=
  let (r, after) := b.site.perform self target q
  (r, { site := after, numbers := b.numbers.map (carry b.site after) })

/-- The figures of a reply as named fields; those of a manager show its collector. -/
def fields (b : Ledger) (m : Manager) (r : Reply) : List (String × Value) :=
  match r with
  | .manager .. => Names.enter "metrics" (b.collector m.counters).report r.fields
  | r => r.fields

end Ledger
end Linkcut

import Linkcut.Value

/-!
Values as keys. Two values are the same key when they compare equal: whole numbers of any type by
their amount, phases and strings by their text. Lists and dictionaries are no keys.
-/

set_option autoImplicit false

namespace Linkcut

inductive Key where
  | none
  | int (n : Int)
  | float (x : Double)
  | str (s : String)
  | bytes (bs : List UInt8)
  | tuple (ks : List Key)
  /-- A value that equals itself alone, told apart by a number given to it. -/
  | lone (id : Nat)
  deriving Repr, Inhabited

namespace Key

def same : Key → Key → Bool
  | none, none => true
  | int m, int n => m == n
  | float x, float y => decide (x = y)
  | str s, str t => s == t
  | bytes a, bytes b => a == b
  | tuple a, tuple b => sameAll a b
  | lone i, lone j => i == j
  | _, _ => false
where
  sameAll : List Key → List Key → Bool
    | [], [] => true
    | a :: as, b :: bs => same a b && sameAll as bs
    | _, _ => false

mutual

theorem same_iff : (a b : Key) → (same a b = true ↔ a = b)
  | none, b => by cases b <;> simp [same]
  | int m, b => by cases b <;> simp [same]
  | float x, b => by cases b <;> simp [same]
  | str s, b => by cases b <;> simp [same]
  | bytes s, b => by cases b <;> simp [same]
  | lone i, b => by cases b <;> simp [same]
  | tuple as, b => by
    cases b with
    | tuple bs => simp [same, sameAll_iff as bs]
    | _ => simp [same]

theorem sameAll_iff : (as bs : List Key) → (same.sameAll as bs = true ↔ as = bs)
  | [], bs => by cases bs <;> simp [same.sameAll]
  | a :: as, bs => by
    cases bs with
    | nil => simp [same.sameAll]
    | cons b bs => simp [same.sameAll, same_iff a b, sameAll_iff as bs]

end

instance : DecidableEq Key := fun a b => decidable_of_iff _ (same_iff a b)

end Key

namespace Value

/-- The key of a value; `id` tells it apart from its equals if it equals itself alone. -/
def key (id : Nat) : Value → Except Fault Key
  | none => .ok .none
  | bool b => .ok (.int (if b then 1 else 0))
  | int n => .ok (.int n)
  | float .nan => .ok (.lone id)
  | float x => .ok (match x.integer? with
    | some n => .int n
    | Option.none => .float x)
  | str s => .ok (.str s)
  | bytes bs => .ok (.bytes bs)
  | tuple xs => (keys id xs).map .tuple
  | phase p => .ok (.str p.text)
  | fault _ | foreign _ => .ok (.lone id)
  | v@(list _) | v@(dict _) => .error (.unhashable v.type)
where
  keys (id : Nat) : List Value → Except Fault (List Key)
    | [] => .ok []
    | x :: xs => do
      let k ← key id x
      let ks ← keys id xs
      return k :: ks

/-- Entries under distinct keys: a repeated key keeps its first place and takes the last value. -/
def insertEntry (es : List ((Key × Value) × Value)) (k : Key) (v w : Value) :
    List ((Key × Value) × Value) :=
  if es.any (fun e => decide (e.1.1 = k)) then
    es.map fun e => if e.1.1 = k then (e.1, w) else e
  else es ++ [((k, v), w)]

/-- A dictionary of the entries, in order. -/
def ofEntries (entries : List (Value × Value)) : Except Fault Value := do
  let keyed ← entries.zipIdx.foldlM (fun es e => do
    let k ← e.1.1.key e.2
    return insertEntry es k e.1.1 e.1.2) []
  return dict (keyed.map fun e => (e.1.2, e.2))

/-- The value under a key in a dictionary, for a key that can equal another one. -/
def at? (v : Value) (es : List (Value × Value)) : Option Value :=
  match v.key es.length with
  | .ok k =>
    (es.find? fun e => match e.1.key es.length with
      | .ok k' => decide (k' = k)
      | .error _ => false).map Prod.snd
  | .error _ => Option.none

/-- Whether a key is a name: a string, or a phase with that text. -/
def isNamed (name : String) : Value → Bool
  | str s => s == name
  | phase p => p.text == name
  | _ => false

def find? (name : String) (es : List (Value × Value)) : Option Value :=
  (es.find? fun e => e.1.isNamed name).map Prod.snd

end Value
end Linkcut

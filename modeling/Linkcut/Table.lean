/-!
Total maps with finitely many entries of their own: every other key holds a common default.
-/

set_option autoImplicit false

namespace Linkcut

structure Table (κ α : Type) where
  default : α
  entries : List (κ × α) := []
  deriving Repr

namespace Table

variable {κ α : Type} [DecidableEq κ]

def lookup (k : κ) (a : α) : List (κ × α) → α
  | [] => a
  | (j, b) :: es => if j = k then b else lookup k a es

def get (t : Table κ α) (k : κ) : α := lookup k t.default t.entries

def store (k : κ) (a : α) : List (κ × α) → List (κ × α)
  | [] => [(k, a)]
  | (j, b) :: es => if j = k then (k, a) :: es else (j, b) :: store k a es

def set (t : Table κ α) (k : κ) (a : α) : Table κ α := { t with entries := store k a t.entries }

theorem lookup_store (k j : κ) (a d : α) (es : List (κ × α)) :
    lookup j d (store k a es) = if j = k then a else lookup j d es := by
  induction es with
  | nil =>
    by_cases h : j = k
    · simp [store, lookup, h]
    · simp [store, lookup, h, Ne.symm h]
  | cons e es ih =>
    obtain ⟨i, b⟩ := e
    by_cases hi : i = k
    · subst hi
      by_cases h : j = i
      · simp [store, lookup, h]
      · simp [store, lookup, h, Ne.symm h]
    · by_cases h : i = j
      · subst h
        simp [store, lookup, hi]
      · simp [store, lookup, hi, h, ih]

@[simp] theorem get_set (t : Table κ α) (k j : κ) (a : α) :
    (t.set k a).get j = if j = k then a else t.get j := by
  simp [get, set, lookup_store]

end Table
end Linkcut

/-!
Tables of names in the order of their first entry: a name that is entered again keeps its place and
takes the new value.
-/

set_option autoImplicit false

namespace Linkcut

abbrev Names (α : Type) := List (String × α)

namespace Names

variable {α : Type}

def enter (name : String) (a : α) : Names α → Names α
  | [] => [(name, a)]
  | e :: es => if e.1 = name then (name, a) :: es else e :: enter name a es

def enterAll (ns : Names α) (pairs : List (String × α)) : Names α :=
  pairs.foldl (fun ns p => enter p.1 p.2 ns) ns

def ofPairs (pairs : List (String × α)) : Names α := enterAll [] pairs

def pop (ns : Names α) (name : String) : Option α × Names α :=
  (ns.lookup name, ns.filter (·.1 != name))

theorem lookup_enter (name k : String) (a : α) (ns : Names α) :
    (enter name a ns).lookup k = if k = name then some a else ns.lookup k := by
  induction ns with
  | nil =>
    by_cases h : k = name
    · simp [enter, h]
    · simp [enter, List.lookup_cons, beq_false_of_ne h, h]
  | cons e es ih =>
    obtain ⟨b, x⟩ := e
    by_cases h : b = name
    · subst h
      by_cases hk : k = b
      · simp [enter, hk]
      · simp [enter, List.lookup_cons, beq_false_of_ne hk, hk]
    · by_cases hk : k = b
      · subst hk
        simp [enter, h]
      · simp [enter, List.lookup_cons, beq_false_of_ne hk, h, ih]

theorem enter_of_not_mem {name : String} {ns : Names α} (h : name ∉ ns.map Prod.fst) (a : α) :
    enter name a ns = ns ++ [(name, a)] := by
  induction ns with
  | nil => rfl
  | cons e es ih =>
    have hne : e.1 ≠ name := fun he => h (he ▸ List.mem_cons_self)
    rw [enter, if_neg hne, ih fun hm => h (List.mem_cons_of_mem _ hm), List.cons_append]

theorem enterAll_of_nodup {ns : Names α} {pairs : List (String × α)}
    (h : ((ns ++ pairs).map Prod.fst).Nodup) : ns.enterAll pairs = ns ++ pairs := by
  induction pairs generalizing ns with
  | nil => exact (List.append_nil ns).symm
  | cons p pairs ih =>
    have hp : p.1 ∉ ns.map Prod.fst := by
      rw [List.map_append, List.map_cons] at h
      intro hm
      exact (List.nodup_append.1 h).2.2 p.1 hm p.1 (by simp) rfl
    have hsplit : ns ++ p :: pairs = (ns ++ [p]) ++ pairs := by simp
    rw [hsplit] at h ⊢
    rw [← ih h, enterAll, List.foldl_cons, enter_of_not_mem hp]
    rfl

/-- Pairs with distinct names are a table as they are. -/
theorem ofPairs_of_nodup {pairs : List (String × α)} (h : (pairs.map Prod.fst).Nodup) :
    ofPairs pairs = pairs := by
  rw [ofPairs, enterAll_of_nodup (by simpa using h)]
  rfl

end Names
end Linkcut

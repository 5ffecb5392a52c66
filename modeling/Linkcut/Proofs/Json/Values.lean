import Linkcut.Proofs.Json.Reader

/-!
Values that JSON has a form for: nothing, truth values, whole numbers that are not too long,
strings, and lists and dictionaries of such values. Each of them becomes a tree that denotes it.
-/

set_option autoImplicit false

namespace Linkcut

/-- The value that a tree denotes. -/
def Json.toValue : Json → Value
  | null => .none
  | bool b => .bool b
  | int n => .int n
  | real x => .float x
  | str s => .str s
  | array xs => .list (elements xs)
  | object ms => .ofFields (members ms)
where
  elements : List Json → List Value
    | [] => []
    | x :: xs => toValue x :: elements xs
  members : List (String × Json) → List (String × Value)
    | [] => []
    | (name, x) :: ms => (name, toValue x) :: members ms

namespace Value

variable {most : Nat}

/-- Whole numbers are short enough for a text. Dictionaries have strings for keys, no two of them
the same. -/
inductive Plain (most : Nat) : Value → Prop where
  | none : Plain most .none
  | bool (b : Bool) : Plain most (.bool b)
  | int {n : Int} (short : Linkcut.isShort most n) : Plain most (.int n)
  | str (s : String) : Plain most (.str s)
  | list {xs : List Value} (items : ∀ x ∈ xs, Plain most x) : Plain most (.list xs)
  | dict {fields : List (String × Value)} (names : (fields.map Prod.fst).Nodup)
      (items : ∀ f ∈ fields, Plain most f.2) : Plain most (.ofFields fields)

/-- The value becomes a tree that denotes it. -/
def HasTree (most : Nat) (v : Value) : Prop := ∃ j, v.toJson most = .ok j ∧ j.toValue = v ∧ j.Plain

theorem elements_hasTree {xs : List Value} (h : ∀ x ∈ xs, x.HasTree most) :
    ∃ js, toJson.elements most xs = .ok js ∧ Json.toValue.elements js = xs ∧ ∀ j ∈ js, j.Plain := by
  induction xs with
  | nil => exact ⟨[], rfl, rfl, by simp⟩
  | cons x xs ih =>
    obtain ⟨j, hj, hx, hplain⟩ := h x List.mem_cons_self
    obtain ⟨js, hjs, hxs, hall⟩ := ih fun y hy => h y (List.mem_cons_of_mem _ hy)
    refine ⟨j :: js, ?_, ?_, List.forall_mem_cons.2 ⟨hplain, hall⟩⟩
    · rw [toJson.elements, hj, hjs]
      rfl
    · rw [Json.toValue.elements, hx, hxs]

theorem members_hasTree {fields : List (String × Value)} (h : ∀ f ∈ fields, f.2.HasTree most) :
    ∃ ms, toJson.members most (fields.map fun f => (str f.1, f.2)) = .ok ms ∧
      Json.toValue.members ms = fields ∧ ms.map Prod.fst = fields.map Prod.fst ∧
      ∀ m ∈ ms, m.2.Plain := by
  induction fields with
  | nil => exact ⟨[], rfl, rfl, rfl, by simp⟩
  | cons f fields ih =>
    obtain ⟨name, v⟩ := f
    obtain ⟨j, hj, hv, hplain⟩ := h (name, v) List.mem_cons_self
    obtain ⟨ms, hms, hfields, hnames, hall⟩ := ih fun g hg => h g (List.mem_cons_of_mem _ hg)
    refine ⟨(name, j) :: ms, ?_, ?_, ?_, List.forall_mem_cons.2 ⟨hplain, hall⟩⟩
    · rw [List.map_cons, toJson.members, hj, hms]
      rfl
    · rw [Json.toValue.members, hv, hfields]
    · rw [List.map_cons, List.map_cons, hnames]

theorem Plain.hasTree {v : Value} (h : v.Plain most) : v.HasTree most := by
  induction h with
  | none => exact ⟨.null, rfl, rfl, .null⟩
  | bool b => exact ⟨.bool b, rfl, rfl, .bool b⟩
  | @int n short => exact ⟨.int n, if_pos short, rfl, .int n⟩
  | str s => exact ⟨.str s, rfl, rfl, .str s⟩
  | @list xs items ih =>
    obtain ⟨js, hjs, hxs, hall⟩ := elements_hasTree ih
    refine ⟨.array js, ?_, ?_, .array hall⟩
    · rw [toJson, hjs]
      rfl
    · rw [Json.toValue, hxs]
  | @dict fields names items ih =>
    obtain ⟨ms, hms, hfields, hnames, hall⟩ := members_hasTree ih
    refine ⟨.object ms, ?_, ?_, .object (hnames ▸ names) hall⟩
    · rw [ofFields, toJson, hms]
      rfl
    · rw [Json.toValue, hfields]

end Value
end Linkcut

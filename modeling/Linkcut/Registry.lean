/-!
The registry: the set of live connection handles. A handle is tracked from a `record` until a
`forget` or a `clear`; it is tracked at most once.
-/

set_option autoImplicit false

namespace Linkcut

abbrev Handle := String

structure Registry where
  /-- Tracked handles, in the order in which tracking began. -/
  members : List Handle := []
  nodup : members.Nodup := by decide
  deriving Repr

namespace Registry

instance : Membership Handle Registry := ⟨fun r h => h ∈ r.members⟩

instance (h : Handle) (r : Registry) : Decidable (h ∈ r) :=
  inferInstanceAs (Decidable (h ∈ r.members))

theorem mem_def {h : Handle} {r : Registry} : h ∈ r ↔ h ∈ r.members := Iff.rfl

def empty : Registry := {}

instance : Inhabited Registry := ⟨empty⟩

@[simp] theorem not_mem_empty (h : Handle) : h ∉ empty := by simp [mem_def, empty]

def size (r : Registry) : Nat := r.members.length

/-- Starts tracking a handle, unless it is tracked. -/
def insert (r : Registry) (h : Handle) : Registry :=
  if hm : h ∈ r.members then r
  else ⟨r.members ++ [h], by
    refine List.nodup_append.2 ⟨r.nodup, by simp, ?_⟩
    intro a ha b hb e
    rw [List.mem_singleton.1 hb] at e
    exact hm (e ▸ ha)⟩

def erase (r : Registry) (h : Handle) : Registry := ⟨r.members.erase h, r.nodup.erase h⟩

@[simp] theorem mem_insert (r : Registry) (h x : Handle) : x ∈ r.insert h ↔ x ∈ r ∨ x = h := by
  simp only [mem_def, insert]
  split
  · rename_i hm
    exact ⟨.inl, fun o => o.elim id fun e => e ▸ hm⟩
  · simp

@[simp] theorem mem_erase (r : Registry) (h x : Handle) : x ∈ r.erase h ↔ x ≠ h ∧ x ∈ r := by
  simp [mem_def, erase, r.nodup.mem_erase_iff]

theorem size_insert (r : Registry) (h : Handle) (hm : h ∉ r) :
    (r.insert h).size = r.size + 1 := by
  have : h ∉ r.members := hm
  simp [size, insert, this]

theorem size_erase (r : Registry) (h : Handle) (hm : h ∈ r) :
    (r.erase h).size + 1 = r.size := by
  have hl : h ∈ r.members := hm
  have := List.length_pos_of_mem hl
  simp only [size, erase, List.length_erase_of_mem hl]
  omega

end Registry
end Linkcut

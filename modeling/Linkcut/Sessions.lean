import Linkcut.Phase

/-!
The sessions that are live, each with its phase, in the order in which they were entered.
-/

set_option autoImplicit false

namespace Linkcut

abbrev Sid := String

structure Sessions where
  entries : List (Sid × Phase) := []
  nodup : (entries.map Prod.fst).Nodup := by decide
  deriving Repr

namespace Sessions

def empty : Sessions := {}

instance : Inhabited Sessions := ⟨empty⟩

def sids (s : Sessions) : List Sid := s.entries.map Prod.fst

def size (s : Sessions) : Nat := s.entries.length

/-- The phase of a session, if it is live. -/
def get? (s : Sessions) (sid : Sid) : Option Phase := s.entries.lookup sid

def isLive (s : Sessions) (sid : Sid) : Bool := (s.get? sid).isSome

/-- The entries with a phase changed in place or added at the end. -/
def place (sid : Sid) (p : Phase) : List (Sid × Phase) → List (Sid × Phase)
  | [] => [(sid, p)]
  | e :: es => if e.1 = sid then (sid, p) :: es else e :: place sid p es

theorem map_fst_place (sid : Sid) (p : Phase) (es : List (Sid × Phase)) :
    (place sid p es).map Prod.fst =
      if sid ∈ es.map Prod.fst then es.map Prod.fst else es.map Prod.fst ++ [sid] := by
  induction es with
  | nil => simp [place]
  | cons e es ih =>
    by_cases h : e.1 = sid
    · simp [place, h]
    · have h' : ¬ sid = e.1 := fun c => h c.symm
      simp only [place, if_neg h, List.map_cons, ih, List.mem_cons, h', false_or]
      split <;> rfl

theorem nodup_place (sid : Sid) (p : Phase) {es : List (Sid × Phase)}
    (h : (es.map Prod.fst).Nodup) : ((place sid p es).map Prod.fst).Nodup := by
  rw [map_fst_place]
  split
  · exact h
  · rename_i hm
    refine List.nodup_append.2 ⟨h, by simp, ?_⟩
    intro a ha b hb e
    rw [List.mem_singleton.1 hb] at e
    exact hm (e ▸ ha)

/-- Enters a session, or changes its phase. -/
def put (s : Sessions) (sid : Sid) (p : Phase) : Sessions :=
  ⟨place sid p s.entries, nodup_place sid p s.nodup⟩

def erase (s : Sessions) (sid : Sid) : Sessions :=
  ⟨s.entries.filter (·.1 != sid), (List.filter_sublist.map Prod.fst).nodup s.nodup⟩

def change (s : Sessions) (sid : Sid) (p : Phase) : Sessions :=
  if s.isLive sid then s.put sid p else s

@[simp] theorem get?_empty (sid : Sid) : empty.get? sid = none := rfl

theorem lookup_place (sid k : Sid) (p : Phase) (es : List (Sid × Phase)) :
    (place sid p es).lookup k = if k = sid then some p else es.lookup k := by
  induction es with
  | nil =>
    by_cases h : k = sid
    · simp [place, h]
    · simp [place, List.lookup_cons, beq_false_of_ne h, h]
  | cons e es ih =>
    obtain ⟨a, q⟩ := e
    by_cases h : a = sid
    · subst h
      by_cases hk : k = a
      · simp [place, hk]
      · simp [place, List.lookup_cons, beq_false_of_ne hk, hk]
    · by_cases hk : k = a
      · subst hk
        simp [place, h]
      · simp [place, List.lookup_cons, beq_false_of_ne hk, h, ih]

@[simp] theorem get?_put (s : Sessions) (sid k : Sid) (p : Phase) :
    (s.put sid p).get? k = if k = sid then some p else s.get? k := lookup_place sid k p s.entries

theorem lookup_filter (sid k : Sid) (es : List (Sid × Phase)) :
    (es.filter (·.1 != sid)).lookup k = if k = sid then none else es.lookup k := by
  induction es with
  | nil => simp
  | cons e es ih =>
    obtain ⟨a, q⟩ := e
    by_cases h : a = sid
    · subst h
      rw [List.filter_cons_of_neg (by simp), ih]
      by_cases hk : k = a
      · simp [hk]
      · simp [List.lookup_cons, beq_false_of_ne hk, hk]
    · by_cases hk : k = a
      · subst hk
        simp [h]
      · simp [List.lookup_cons, beq_false_of_ne hk, h, ih]

@[simp] theorem get?_erase (s : Sessions) (sid k : Sid) :
    (s.erase sid).get? k = if k = sid then none else s.get? k := lookup_filter sid k s.entries

@[simp] theorem get?_change (s : Sessions) (sid k : Sid) (p : Phase) :
    (s.change sid p).get? k = if k = sid ∧ s.isLive sid then some p else s.get? k := by
  simp only [change]
  split <;> simp_all

end Sessions
end Linkcut

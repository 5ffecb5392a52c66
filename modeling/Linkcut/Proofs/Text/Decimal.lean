import Linkcut.Double.Decimal

/-!
Whole numbers in decimal: what is written of a number reads back as the number.
-/

set_option autoImplicit false

namespace Linkcut

theorem ofDigits_digits (n : Nat) : ofDigits (digits n) = n :=
  Nat.ofDigitChars_toDigits (by decide) (by decide)

theorem digits_ne_nil (n : Nat) : digits n ≠ [] := Nat.toDigits_ne_nil

theorem isDigit_of_mem_digits {n : Nat} {c : Char} (h : c ∈ digits n) : c.isDigit :=
  Nat.isDigit_of_mem_toDigits (by decide) (by decide) h

theorem exists_cons_digits (n : Nat) : ∃ c ds, digits n = c :: ds ∧ c.isDigit := by
  obtain ⟨c, ds, hds⟩ := List.exists_cons_of_ne_nil (digits_ne_nil n)
  exact ⟨c, ds, hds, isDigit_of_mem_digits (by rw [hds]; exact List.mem_cons_self)⟩

/-- No zero stands before other digits. -/
theorem digits_eq_of_zero {n : Nat} {r : List Char} (h : digits n = '0' :: r) : r = [] := by
  induction n using Nat.strongRecOn generalizing r with
  | ind n ih =>
    by_cases hn : n < 10
    · rw [digits, Nat.toDigits_of_lt_base hn] at h
      exact (List.cons.inj h).2.symm
    · have hsplit : digits n = digits (n / 10) ++ [(n % 10).digitChar] :=
        Nat.toDigits_of_base_le (by decide) (by omega)
      rw [hsplit] at h
      obtain ⟨c, ds, hds⟩ := List.exists_cons_of_ne_nil (digits_ne_nil (n / 10))
      rw [hds] at h
      obtain rfl : c = '0' := (List.cons.inj h).1
      -- the digits before the last are those of a smaller number, which is then zero itself
      have hzero : n / 10 = 0 := by
        rw [← ofDigits_digits (n / 10), hds, ih (n / 10) (by omega) hds]
        rfl
      omega

theorem toList_repr (n : Int) : n.repr.toList =
    if n < 0 then '-' :: digits n.natAbs else digits n.natAbs := by
  have hnat (m : Nat) : m.repr.toList = digits m := by simp [Nat.repr, digits]
  rw [Int.repr_eq_if]
  by_cases hn : n < 0
  · have habs : (-n).toNat = n.natAbs := by omega
    rw [if_neg (by omega), if_pos hn, String.toList_append, hnat, habs]
    rfl
  · have habs : n.toNat = n.natAbs := by omega
    rw [if_pos (by omega), if_neg hn, hnat, habs]

namespace Text

/-- The number that digits denote; there must be one digit at least. -/
def natural? (cs : List Char) : Option Nat :=
  if cs.isEmpty || !cs.all Char.isDigit then none else some (ofDigits cs)

/-- The number that digits denote after a sign, if there is one. -/
def decimal? : List Char → Option Int
  | '-' :: r => (natural? r).map fun n : Nat => -(n : Int)
  | r => (natural? r).map fun n : Nat => (n : Int)

theorem natural?_digits (n : Nat) : natural? (digits n) = some n := by
  have hall : (digits n).all Char.isDigit := List.all_eq_true.2 fun _ => isDigit_of_mem_digits
  simp [natural?, hall, digits_ne_nil, ofDigits_digits]

theorem decimal?_repr (n : Int) : decimal? n.repr.toList = some n := by
  rw [toList_repr]
  split
  · have hvalue : -(n.natAbs : Int) = n := by omega
    rw [decimal?, natural?_digits, Option.map_some, hvalue]
  · obtain ⟨c, ds, hds, hc⟩ := exists_cons_digits n.natAbs
    have hsign : c ≠ '-' := by
      rintro rfl
      exact absurd hc (by decide)
    have hread : decimal? (digits n.natAbs) = some (n.natAbs : Int) := by
      have hnat := natural?_digits n.natAbs
      rw [hds] at hnat ⊢
      simp [decimal?, hsign, hnat]
    have hvalue : (n.natAbs : Int) = n := by omega
    rw [hread, hvalue]

theorem repr_inj {m n : Int} (h : m.repr = n.repr) : m = n :=
  Option.some.inj (by rw [← decimal?_repr m, h, decimal?_repr])

theorem mem_repr {n : Int} {c : Char} (h : c ∈ n.repr.toList) : c = '-' ∨ c.isDigit := by
  rw [toList_repr] at h
  split at h
  · exact (List.mem_cons.1 h).imp_right isDigit_of_mem_digits
  · exact .inr (isDigit_of_mem_digits h)

theorem not_mem_repr (n : Int) {c : Char} (hsign : c ≠ '-') (hdigit : ¬ c.isDigit) :
    c ∉ n.repr.toList := fun hm => (mem_repr hm).elim hsign hdigit

end Text
end Linkcut

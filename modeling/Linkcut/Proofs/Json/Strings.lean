import Linkcut.Json

/-!
Strings of JSON texts. A string is read as UTF-16 units, those of escapes and those of characters
that stand for themselves, and the units are joined into characters.
-/

set_option autoImplicit false

namespace Linkcut

namespace Text

def hexDigitValue? (c : Char) : Option Nat :=
  if '0' ≤ c ∧ c ≤ '9' then some (c.toNat - '0'.toNat)
  else if 'a' ≤ c ∧ c ≤ 'f' then some (c.toNat - 'a'.toNat + 10)
  else if 'A' ≤ c ∧ c ≤ 'F' then some (c.toNat - 'A'.toNat + 10)
  else none

def hexValue? (cs : List Char) : Option Nat :=
  cs.foldlM (fun n c => (hexDigitValue? c).map (16 * n + ·)) 0

theorem hexDigitValue?_hexDigit (n : Nat) : hexDigitValue? (hexDigit n) = some (n % 16) := by
  have hall : ∀ d, d < 16 → hexDigitValue? (Nat.digitChar d) = some d := by decide
  exact hall _ (Nat.mod_lt n (by decide))

theorem hexValue?_hex (width n : Nat) : hexValue? (hex width n) = some (n % Nat.pow 16 width) := by
  induction width generalizing n with
  | zero => simp [hex, hexValue?, Nat.mod_one]
  | succ width ih =>
    have hlow := ih (n / 16)
    rw [hexValue?] at hlow ⊢
    have hvalue : 16 * (n / 16 % Nat.pow 16 width) + n % 16 = n % Nat.pow 16 (width + 1) := by
      have hpow : Nat.pow 16 (width + 1) = 16 * Nat.pow 16 width := Nat.mul_comm _ _
      rw [hpow, Nat.mod_mul]
      omega
    rw [hex, List.foldlM_append, hlow, ← hvalue]
    simp [hexDigitValue?_hexDigit]

theorem printable_hex (width n : Nat) : (hex width n).all isPrintableAscii := by
  have hall : ∀ d, d < 16 → isPrintableAscii (Nat.digitChar d) := by decide
  induction width generalizing n with
  | zero => rfl
  | succ width ih => simp [hex, ih, hexDigit, hall _ (Nat.mod_lt n (by decide))]

end Text

namespace Json

/-- The character that a letter stands for after a backslash. -/
def unescape? : Char → Option Char
  | '"' => some '"'
  | '\\' => some '\\'
  | '/' => some '/'
  | 'b' => some '\x08'
  | 'f' => some '\x0c'
  | 'n' => some '\n'
  | 'r' => some '\r'
  | 't' => some '\t'
  | _ => none

/-- The units up to the mark that ends a string, and the text after it. A character that stands for
itself is one unit, whatever its code point; control characters do not stand for themselves. -/
def readUnits : List Char → Option (List Nat × List Char)
  | [] => none
  | '"' :: r => some ([], r)
  | '\\' :: 'u' :: a :: b :: c :: d :: r => do
    let n ← Text.hexValue? [a, b, c, d]
    let (ns, r) ← readUnits r
    return (n :: ns, r)
  | '\\' :: e :: r => do
    let c ← unescape? e
    let (ns, r) ← readUnits r
    return (c.toNat :: ns, r)
  | c :: r =>
    if c = '\\' ∨ c.toNat < 0x20 then none
    else do
      let (ns, r) ← readUnits r
      return (c.toNat :: ns, r)

def isHigh (n : Nat) : Bool := 0xd800 ≤ n && n < 0xdc00

def isLow (n : Nat) : Bool := 0xdc00 ≤ n && n < 0xe000

/-- The characters that units make up. A surrogate counts in a pair only. -/
def joinUnits : List Nat → Option (List Char)
  | [] => some []
  | n :: ns =>
    if isHigh n then
      match ns with
      | m :: ms =>
        if isLow m then
          (joinUnits ms).map (Char.ofNat (0x10000 + (n - 0xd800) * 0x400 + (m - 0xdc00)) :: ·)
        else none
      | [] => none
    else if isLow n then none
    else (joinUnits ns).map (Char.ofNat n :: ·)

def readString (cs : List Char) : Option (String × List Char) := do
  let (ns, r) ← readUnits cs
  let cs ← joinUnits ns
  return (String.ofList cs, r)

/-- The units of a code point as `escapeCode` writes it. -/
def unitsOf (n : Nat) : List Nat :=
  if n < 0x10000 then [n] else [0xd800 + (n - 0x10000) / 0x400, 0xdc00 + (n - 0x10000) % 0x400]

theorem readUnits_escapeUnit {n : Nat} (h : n < 0x10000) (r : List Char) :
    readUnits (escapeUnit n ++ r) = (readUnits r).map fun p => (n :: p.1, p.2) := by
  have hvalue := Text.hexValue?_hex 4 n
  rw [Nat.mod_eq_of_lt (by omega)] at hvalue
  simp only [Text.hex, List.nil_append, List.cons_append] at hvalue
  simp only [escapeUnit, Text.hex, List.nil_append, List.cons_append, readUnits, hvalue]
  cases readUnits r <;> rfl

theorem readUnits_escapeCode {n : Nat} (h : n < 0x110000) (r : List Char) :
    readUnits (escapeCode n ++ r) = (readUnits r).map fun p => (unitsOf n ++ p.1, p.2) := by
  rw [escapeCode, unitsOf]
  split
  · rename_i hn
    exact readUnits_escapeUnit hn r
  · rw [List.append_assoc, readUnits_escapeUnit (by omega), readUnits_escapeUnit (by omega),
      Option.map_map]
    rfl

/-- A character is no surrogate. -/
theorem toNat_range (c : Char) : c.toNat < 0xd800 ∨ 0xdfff < c.toNat ∧ c.toNat < 0x110000 := c.valid

theorem joinUnits_toNat (c : Char) (ns : List Nat) :
    joinUnits (c.toNat :: ns) = (joinUnits ns).map (c :: ·) := by
  have hc := toNat_range c
  have hhigh : isHigh c.toNat = false := by
    simp only [isHigh, Bool.and_eq_false_iff, decide_eq_false_iff_not]
    omega
  have hlow : isLow c.toNat = false := by
    simp only [isLow, Bool.and_eq_false_iff, decide_eq_false_iff_not]
    omega
  rw [joinUnits.eq_def]
  simp only [hhigh, hlow, Bool.false_eq_true, if_false, Char.ofNat_toNat]

theorem joinUnits_pair {n m : Nat} (hn : isHigh n) (hm : isLow m) (ns : List Nat) :
    joinUnits (n :: m :: ns) =
      (joinUnits ns).map (Char.ofNat (0x10000 + (n - 0xd800) * 0x400 + (m - 0xdc00)) :: ·) := by
  rw [joinUnits.eq_def]
  simp only [hn, hm, if_true]

theorem joinUnits_unitsOf (c : Char) (ns : List Nat) :
    joinUnits (unitsOf c.toNat ++ ns) = (joinUnits ns).map (c :: ·) := by
  rw [unitsOf]
  split
  · exact joinUnits_toNat c ns
  · have hc := toNat_range c
    have hhigh : isHigh (0xd800 + (c.toNat - 0x10000) / 0x400) := by
      simp only [isHigh, Bool.and_eq_true, decide_eq_true_eq]
      omega
    have hlow : isLow (0xdc00 + (c.toNat - 0x10000) % 0x400) := by
      simp only [isLow, Bool.and_eq_true, decide_eq_true_eq]
      omega
    have hcode : 0x10000 + (0xd800 + (c.toNat - 0x10000) / 0x400 - 0xd800) * 0x400 +
        (0xdc00 + (c.toNat - 0x10000) % 0x400 - 0xdc00) = c.toNat := by
      omega
    rw [List.cons_append, List.cons_append, List.nil_append, joinUnits_pair hhigh hlow, hcode,
      Char.ofNat_toNat]

theorem readUnits_short {e c : Char} (he : unescape? e = some c) (hu : e ≠ 'u') (r : List Char) :
    readUnits ('\\' :: e :: r) = (readUnits r).map fun p => ([c.toNat] ++ p.1, p.2) := by
  rw [readUnits, he]
  · cases readUnits r <;> rfl
  · exact fun _ _ _ _ _ h => absurd h hu

theorem readUnits_shown {c : Char} (hmark : c ≠ '"') (hback : c ≠ '\\') (hc : 0x20 ≤ c.toNat)
    (r : List Char) : readUnits (c :: r) = (readUnits r).map fun p => ([c.toNat] ++ p.1, p.2) := by
  have hno : ¬ (c = '\\' ∨ c.toNat < 0x20) := by
    rintro (h | h)
    · exact hback h
    · omega
  rw [readUnits, if_neg hno]
  · cases readUnits r <;> rfl
  · exact hmark
  · exact fun _ _ _ _ _ h => absurd h hback
  · exact fun _ _ h => absurd h hback

/-- A character is written as a letter after a backslash, as itself, or as its code point. -/
theorem escapeChar_cases (shown : Char → Bool) (c : Char) :
    (∃ e, escapeChar shown c = ['\\', e] ∧ unescape? e = some c ∧ e ≠ 'u' ∧
      Text.isPrintableAscii e) ∨
    (escapeChar shown c = [c] ∧ shown c ∧ c ≠ '"' ∧ c ≠ '\\') ∨
    escapeChar shown c = escapeCode c.toNat := by
  unfold escapeChar
  split
  · subst c
    exact .inl ⟨_, rfl, rfl, by decide, rfl⟩
  split
  · subst c
    exact .inl ⟨_, rfl, rfl, by decide, rfl⟩
  split
  · subst c
    exact .inl ⟨_, rfl, rfl, by decide, rfl⟩
  split
  · subst c
    exact .inl ⟨_, rfl, rfl, by decide, rfl⟩
  split
  · subst c
    exact .inl ⟨_, rfl, rfl, by decide, rfl⟩
  split
  · subst c
    exact .inl ⟨_, rfl, rfl, by decide, rfl⟩
  split
  · subst c
    exact .inl ⟨_, rfl, rfl, by decide, rfl⟩
  split
  · rename_i hmark hback _ _ _ _ _ hc
    exact .inr (.inl ⟨rfl, hc, hmark, hback⟩)
  · exact .inr (.inr rfl)

/-- However a character is written, it is read back. -/
theorem escapeChar_reads {shown : Char → Bool} (hshown : ∀ c, shown c → 0x20 ≤ c.toNat) (c : Char) :
    ∃ us, (∀ r, readUnits (escapeChar shown c ++ r) =
        (readUnits r).map fun p => (us ++ p.1, p.2)) ∧
      ∀ ns, joinUnits (us ++ ns) = (joinUnits ns).map (c :: ·) := by
  rcases escapeChar_cases shown c with ⟨e, he, hc, hu, -⟩ | ⟨he, hc, hmark, hback⟩ | he
  · rw [he]
    exact ⟨[c.toNat], readUnits_short hc hu, joinUnits_toNat c⟩
  · rw [he]
    exact ⟨[c.toNat], readUnits_shown hmark hback (hshown c hc), joinUnits_toNat c⟩
  · rw [he]
    have hc := toNat_range c
    exact ⟨unitsOf c.toNat, readUnits_escapeCode (by omega), joinUnits_unitsOf c⟩

theorem readUnits_escaped {shown : Char → Bool} (hshown : ∀ c, shown c → 0x20 ≤ c.toNat)
    (cs r : List Char) : ∃ us, readUnits (cs.flatMap (escapeChar shown) ++ '"' :: r) = some (us, r) ∧
      joinUnits us = some cs := by
  induction cs with
  | nil => exact ⟨[], by simp [readUnits], by simp [joinUnits]⟩
  | cons c cs ih =>
    obtain ⟨us, hus, hjoin⟩ := ih
    obtain ⟨vs, hvs, hchar⟩ := escapeChar_reads hshown c
    refine ⟨vs ++ us, ?_, ?_⟩
    · rw [List.flatMap_cons, List.append_assoc, hvs, hus]
      rfl
    · rw [hchar, hjoin]
      rfl

theorem readString_writeString {shown : Char → Bool} (hshown : ∀ c, shown c → 0x20 ≤ c.toNat)
    (s : String) (r : List Char) :
    ∃ cs, writeString shown s ++ r = '"' :: cs ∧ readString cs = some (s, r) := by
  obtain ⟨us, hus, hjoin⟩ := readUnits_escaped hshown s.toList r
  refine ⟨s.toList.flatMap (escapeChar shown) ++ '"' :: r, by simp [writeString], ?_⟩
  simp [readString, hus, hjoin]

theorem printable_escapeUnit (n : Nat) : (escapeUnit n).all Text.isPrintableAscii := by
  rw [escapeUnit, List.all_cons, List.all_cons, Text.printable_hex]
  rfl

/-- What is not printable is escaped by characters that are. -/
theorem printable_escapeChar (c : Char) :
    (escapeChar Text.isPrintableAscii c).all Text.isPrintableAscii := by
  rcases escapeChar_cases Text.isPrintableAscii c with ⟨e, he, -, -, hprint⟩ | ⟨he, hc, -⟩ | he
  · rw [he, List.all_cons, List.all_cons, hprint]
    rfl
  · rw [he, List.all_cons, hc]
    rfl
  · rw [he, escapeCode]
    split
    · exact printable_escapeUnit _
    · rw [List.all_append, printable_escapeUnit, printable_escapeUnit]
      rfl

theorem printable_writeString (s : String) :
    (writeString Text.isPrintableAscii s).all Text.isPrintableAscii := by
  have hmark : Text.isPrintableAscii '"' := rfl
  simp only [writeString, List.all_cons, List.all_append, List.all_flatMap, List.all_nil, hmark,
    Bool.true_and, Bool.and_true]
  exact List.all_eq_true.2 fun c _ => printable_escapeChar c

end Json
end Linkcut

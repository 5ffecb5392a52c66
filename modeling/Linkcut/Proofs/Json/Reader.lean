import Linkcut.Names
import Linkcut.Proofs.Json.Strings
import Linkcut.Proofs.Text.Decimal

/-!
A reader of JSON texts. Blanks may stand around every mark, and in an object the last member of a
name counts. What is written of a tree without fractions, whose members have distinct names, is read
back as the tree.
-/

set_option autoImplicit false

namespace Linkcut.Json

def isBlank (c : Char) : Bool := c = ' ' ∨ c = '\t' ∨ c = '\n' ∨ c = '\r'

def skip (cs : List Char) : List Char := cs.dropWhile isBlank

/-- The digits of a fraction, at least one of them, if there is a point. -/
def readFraction : List Char → Option (List Char × List Char)
  | '.' :: r =>
    if (r.takeWhile Char.isDigit).isEmpty then none
    else some (r.takeWhile Char.isDigit, r.dropWhile Char.isDigit)
  | r => some ([], r)

/-- An exponent with its sign, if there is one. -/
def readExponent : List Char → Option (Option Int × List Char)
  | 'e' :: r | 'E' :: r =>
    let (negative, r) := match r with
      | '-' :: r => (true, r)
      | '+' :: r => (false, r)
      | r => (false, r)
    (Text.natural? (r.takeWhile Char.isDigit)).map fun n : Nat =>
      (some (if negative then -(n : Int) else n), r.dropWhile Char.isDigit)
  | r => some (none, r)

/-- A number without a fraction and an exponent is whole. No zero stands before other digits. -/
def readUnsigned (negative : Bool) (cs : List Char) : Option (Json × List Char) := do
  let whole := cs.takeWhile Char.isDigit
  let n ← Text.natural? whole
  if whole.head? = some '0' ∧ whole ≠ ['0'] then none
  else
    let (fraction, r) ← readFraction (cs.dropWhile Char.isDigit)
    let (exponent, r) ← readExponent r
    if fraction = [] ∧ exponent = none then
      return (.int (if negative then -(n : Int) else n), r)
    else return (.real (Double.Written.value ⟨negative, whole, fraction, exponent.getD 0⟩), r)

def readNumber : List Char → Option (Json × List Char)
  | '-' :: r => readUnsigned true r
  | r => readUnsigned false r

def readScalar : List Char → Option (Json × List Char)
  | 'n' :: 'u' :: 'l' :: 'l' :: r => some (.null, r)
  | 't' :: 'r' :: 'u' :: 'e' :: r => some (.bool true, r)
  | 'f' :: 'a' :: 'l' :: 's' :: 'e' :: r => some (.bool false, r)
  | cs => readNumber cs

mutual

/-- Reads a value. The fuel bounds how deep values stand in each other and how many stand in a row;
the length of the text is enough. -/
def readValue : Nat → List Char → Option (Json × List Char)
  | 0, _ => none
  | fuel + 1, cs =>
    match skip cs with
    | '"' :: r => do
      let (s, r) ← readString r
      return (.str s, r)
    | '[' :: r =>
      match skip r with
      | ']' :: r => some (.array [], r)
      | r => do
        let (xs, r) ← readElements fuel r
        return (.array xs, r)
    | '\x7b' :: r =>
      match skip r with
      | '\x7d' :: r => some (.object [], r)
      | r => do
        let (ms, r) ← readMembers fuel r
        return (.object (Names.ofPairs ms), r)
    | r => readScalar r

/-- Reads the elements of an array up to its end. -/
def readElements : Nat → List Char → Option (List Json × List Char)
  | 0, _ => none
  | fuel + 1, cs => do
    let (x, r) ← readValue fuel cs
    match skip r with
    | ',' :: r =>
      let (xs, r) ← readElements fuel r
      return (x :: xs, r)
    | ']' :: r => return ([x], r)
    | _ => none

/-- Reads the members of an object up to its end. -/
def readMembers : Nat → List Char → Option (List (String × Json) × List Char)
  | 0, _ => none
  | fuel + 1, cs =>
    match skip cs with
    | '"' :: r => do
      let (name, r) ← readString r
      match skip r with
      | ':' :: r =>
        let (x, r) ← readValue fuel r
        match skip r with
        | ',' :: r =>
          let (ms, r) ← readMembers fuel r
          return ((name, x) :: ms, r)
        | '\x7d' :: r => return ([(name, x)], r)
        | _ => none
      | _ => none
    | _ => none

end

/-- The tree that a text denotes; nothing but blanks may follow it. -/
def parse (text : String) : Option Json :=
  match readValue text.length text.toList with
  | some (j, r) => if (skip r).isEmpty then some j else none
  | none => none

/-- Marks are followed by blanks, and control characters are escaped. -/
structure Style.Regular (style : Style) : Prop where
  comma : ∃ bs, style.comma.toList = ',' :: bs ∧ ∀ b ∈ bs, isBlank b
  colon : ∃ bs, style.colon.toList = ':' :: bs ∧ ∀ b ∈ bs, isBlank b
  shown : ∀ c, style.shown c → 0x20 ≤ c.toNat

theorem Style.line_regular : Style.line.Regular where
  comma := ⟨[' '], by decide, by simp [isBlank]⟩
  colon := ⟨[' '], by decide, by simp [isBlank]⟩
  shown c hc := by simp_all [Style.line, Text.isPrintableAscii]

/-- Without fractions, and with distinct names in every object. -/
inductive Plain : Json → Prop where
  | null : Plain .null
  | bool (b : Bool) : Plain (.bool b)
  | int (n : Int) : Plain (.int n)
  | str (s : String) : Plain (.str s)
  | array {xs : List Json} (items : ∀ x ∈ xs, Plain x) : Plain (.array xs)
  | object {ms : List (String × Json)} (names : (ms.map Prod.fst).Nodup)
      (items : ∀ m ∈ ms, Plain m.2) : Plain (.object ms)

/-- What cannot carry a number on. -/
def Ends (r : List Char) : Prop :=
  ∀ c, r.head? = some c → ¬ c.isDigit ∧ c ≠ '.' ∧ c ≠ 'e' ∧ c ≠ 'E'

theorem ends_nil : Ends [] := by simp [Ends]

theorem ends_cons {c : Char} (h : ¬ c.isDigit ∧ c ≠ '.' ∧ c ≠ 'e' ∧ c ≠ 'E') (r : List Char) :
    Ends (c :: r) := by
  simpa [Ends] using h

theorem skip_append {bs : List Char} (h : ∀ b ∈ bs, isBlank b) (r : List Char) :
    skip (bs ++ r) = skip r := List.dropWhile_append_of_pos h

theorem skip_cons {c : Char} (h : ¬ isBlank c) (r : List Char) : skip (c :: r) = c :: r := by
  simp [skip, h]

theorem readUnsigned_digits (negative : Bool) (n : Nat) {r : List Char} (hr : Ends r) :
    readUnsigned negative (digits n ++ r) = some (.int (if negative then -(n : Int) else n), r) := by
  have hdigits : ∀ c ∈ digits n, c.isDigit := fun c hc => isDigit_of_mem_digits hc
  have htake : (digits n ++ r).takeWhile Char.isDigit = digits n := by
    rw [List.takeWhile_append_of_pos hdigits]
    cases r with
    | nil => simp
    | cons c r => simp [(hr c rfl).1]
  have hdrop : (digits n ++ r).dropWhile Char.isDigit = r := by
    rw [List.dropWhile_append_of_pos hdigits]
    cases r with
    | nil => simp
    | cons c r => simp [(hr c rfl).1]
  have hzero : ¬ ((digits n).head? = some '0' ∧ digits n ≠ ['0']) := by
    rintro ⟨hhead, hne⟩
    obtain ⟨ds, hds⟩ := List.head?_eq_some_iff.1 hhead
    exact hne (by rw [hds, digits_eq_of_zero hds])
  have hfraction : readFraction r = some ([], r) := by
    cases r with
    | nil => rfl
    | cons c r =>
      have hc := (hr c rfl).2.1
      simp [readFraction, hc]
  have hexponent : readExponent r = some (none, r) := by
    cases r with
    | nil => rfl
    | cons c r =>
      obtain ⟨-, -, he, hE⟩ := hr c rfl
      simp [readExponent, he, hE]
  rw [readUnsigned, htake, hdrop, Text.natural?_digits, hfraction]
  simp only [Option.bind_eq_bind, Option.bind_some, if_neg hzero, hexponent, and_self, if_true]
  rfl

theorem intText_eq (n : Int) :
    intText n = if n < 0 then '-' :: digits n.natAbs else digits n.natAbs := toList_repr n

theorem readNumber_intText (n : Int) {r : List Char} (hr : Ends r) :
    readNumber (intText n ++ r) = some (.int n, r) := by
  rw [intText_eq]
  split
  · have hvalue : -(n.natAbs : Int) = n := by omega
    rw [List.cons_append, readNumber, readUnsigned_digits true _ hr, if_pos rfl, hvalue]
  · obtain ⟨c, ds, hds, hc⟩ := exists_cons_digits n.natAbs
    have hsign : c ≠ '-' := by
      rintro rfl
      exact absurd hc (by decide)
    have hvalue : (n.natAbs : Int) = n := by omega
    have hread := readUnsigned_digits false n.natAbs hr
    rw [hds, List.cons_append] at hread ⊢
    rw [readNumber, hread, if_neg (by decide), hvalue]
    exact fun r h => absurd (List.cons.inj h).1 hsign

theorem intText_eq_cons (n : Int) : ∃ c cs, intText n = c :: cs ∧ (c = '-' ∨ c.isDigit) := by
  rw [intText_eq]
  split
  · exact ⟨'-', _, rfl, .inl rfl⟩
  · obtain ⟨c, ds, hds, hc⟩ := exists_cons_digits n.natAbs
    exact ⟨c, ds, hds, .inr hc⟩

theorem ne_of_intText {c d : Char} (hc : c = '-' ∨ c.isDigit) (hd : d ≠ '-' ∧ ¬ d.isDigit) :
    c ≠ d := by
  rintro rfl
  exact hc.elim hd.1 hd.2

theorem readScalar_intText (n : Int) {r : List Char} (hr : Ends r) :
    readScalar (intText n ++ r) = some (.int n, r) := by
  obtain ⟨c, cs, hcs, hc⟩ := intText_eq_cons n
  have hread := readNumber_intText n hr
  rw [hcs, List.cons_append] at hread ⊢
  rw [readScalar, hread]
  · exact fun r h => absurd (List.cons.inj h).1 (ne_of_intText hc (by decide))
  · exact fun r h => absurd (List.cons.inj h).1 (ne_of_intText hc (by decide))
  · exact fun r h => absurd (List.cons.inj h).1 (ne_of_intText hc (by decide))

section

variable {bs : List Char} (hbs : ∀ b ∈ bs, isBlank b) (n : Nat) (r : List Char)

include hbs

theorem readValue_blank : readValue n (bs ++ r) = readValue n r := by
  cases n with
  | zero => rw [readValue, readValue]
  | succ n => rw [readValue, readValue, skip_append hbs]

theorem readElements_blank : readElements n (bs ++ r) = readElements n r := by
  cases n with
  | zero => rw [readElements, readElements]
  | succ n => rw [readElements, readElements, readValue_blank hbs]

theorem readMembers_blank : readMembers n (bs ++ r) = readMembers n r := by
  cases n with
  | zero => rw [readMembers, readMembers]
  | succ n => rw [readMembers, readMembers, skip_append hbs]

end

/-- No value begins with a blank, or with the end of an array. -/
theorem write_eq_cons (style : Style) {j : Json} (hj : j.Plain) :
    ∃ c cs, j.write style = c :: cs ∧ ¬ isBlank c ∧ c ≠ ']' := by
  cases hj with
  | null => exact ⟨'n', _, rfl, by decide, by decide⟩
  | bool b =>
    cases b with
    | true => exact ⟨'t', _, rfl, by decide, by decide⟩
    | false => exact ⟨'f', _, rfl, by decide, by decide⟩
  | int n =>
    obtain ⟨c, cs, hcs, hc⟩ := intText_eq_cons n
    refine ⟨c, cs, by rw [write, hcs], ?_, ne_of_intText hc (by decide)⟩
    have hblank : ∀ d, isBlank d → d ≠ '-' ∧ ¬ d.isDigit := by
      simp only [isBlank, Bool.decide_or, Bool.or_eq_true, decide_eq_true_eq]
      rintro d (rfl | rfl | rfl | rfl)
      all_goals decide
    exact fun h => ne_of_intText hc (hblank c h) rfl
  | str s => exact ⟨'"', _, by rw [write, writeString], by decide, by decide⟩
  | array => exact ⟨'[', _, by rw [write], by decide, by decide⟩
  | object => exact ⟨'\x7b', _, by rw [write], by decide, by decide⟩

theorem joined_cons_cons (mark : String) (t u : List Char) (ts : List (List Char)) :
    joined mark (t :: u :: ts) = t ++ mark.toList ++ joined mark (u :: ts) := rfl

/-- Reads what is written of a tree, whatever stands behind it, on fuel for its length. -/
def ReadsBack (style : Style) (j : Json) : Prop :=
  ∀ n r, (j.write style).length ≤ n → Ends r → readValue n (j.write style ++ r) = some (j, r)

theorem readElements_write {style : Style} (h : style.Regular) {xs : List Json} (hne : xs ≠ [])
    (hxs : ∀ x ∈ xs, x.ReadsBack style) {n : Nat}
    (hn : (joined style.comma (write.elements style xs)).length + 1 ≤ n) (r : List Char) :
    readElements n (joined style.comma (write.elements style xs) ++ ']' :: r) = some (xs, r) := by
  induction xs generalizing n with
  | nil => exact absurd rfl hne
  | cons x xs ih =>
    obtain ⟨n, rfl⟩ : ∃ m, n = m + 1 := ⟨n - 1, by omega⟩
    have hx := hxs x List.mem_cons_self
    cases xs with
    | nil =>
      have hend : Ends (']' :: r) := ends_cons (by decide) r
      simp only [write.elements, joined] at hn ⊢
      rw [readElements, hx n _ (by omega) hend]
      rfl
    | cons y ys =>
      -- the mark behind an element pays for the step to the next one
      obtain ⟨bs, hbs, hblank⟩ := h.comma
      have hrest := ih (by simp) (fun z hz => hxs z (List.mem_cons_of_mem _ hz)) (n := n)
      simp only [write.elements, joined_cons_cons, hbs, List.length_append, List.length_cons,
        List.append_assoc, List.cons_append] at hn hrest ⊢
      have hend : ∀ r, Ends (',' :: r) := ends_cons (by decide)
      rw [readElements, hx n _ (by omega) (hend _)]
      simp only [Option.bind_eq_bind, Option.bind_some, skip_cons (c := ',') (by decide)]
      rw [readElements_blank hblank, hrest (by omega)]
      rfl

/-- A member is read up to what stands behind it. -/
theorem readMembers_member {style : Style} (h : style.Regular) {name : String} {x : Json}
    (hx : x.ReadsBack style) {n : Nat} (hn : (x.write style).length ≤ n) {c : Char} (hc : ¬ isBlank c)
    (hend : ∀ r, Ends (c :: r)) (r : List Char) :
    readMembers (n + 1)
        (writeString style.shown name ++ style.colon.toList ++ x.write style ++ c :: r) =
      match c :: r with
      | ',' :: r => do
        let (ms, r) ← readMembers n r
        return ((name, x) :: ms, r)
      | '\x7d' :: r => some ([(name, x)], r)
      | _ => none := by
  obtain ⟨bs, hbs, hblank⟩ := h.colon
  obtain ⟨cs, hcs, hname⟩ := readString_writeString h.shown name
    (style.colon.toList ++ (x.write style ++ c :: r))
  rw [List.append_assoc, List.append_assoc, hcs, readMembers, skip_cons (by decide)]
  simp only [hname, Option.bind_eq_bind, Option.bind_some]
  rw [hbs, List.cons_append, skip_cons (by decide)]
  simp only [readValue_blank hblank, hx n _ hn (hend r), Option.bind_some, skip_cons hc]
  rfl

theorem readMembers_write {style : Style} (h : style.Regular) {ms : List (String × Json)}
    (hne : ms ≠ []) (hms : ∀ m ∈ ms, m.2.ReadsBack style) {n : Nat}
    (hn : (joined style.comma (write.fields style ms)).length + 1 ≤ n) (r : List Char) :
    readMembers n (joined style.comma (write.fields style ms) ++ '\x7d' :: r) = some (ms, r) := by
  induction ms generalizing n with
  | nil => exact absurd rfl hne
  | cons m ms ih =>
    obtain ⟨n, rfl⟩ : ∃ k, n = k + 1 := ⟨n - 1, by omega⟩
    obtain ⟨name, x⟩ := m
    have hx : x.ReadsBack style := hms (name, x) List.mem_cons_self
    cases ms with
    | nil =>
      simp only [write.fields, joined, List.length_append] at hn ⊢
      rw [readMembers_member h hx (by omega) (by decide) (ends_cons (by decide))]
      rfl
    | cons m ms =>
      obtain ⟨bs, hbs, hblank⟩ := h.comma
      have hrest := ih (by simp) (fun m' hm' => hms m' (List.mem_cons_of_mem _ hm')) (n := n)
      simp only [write.fields, joined_cons_cons, hbs, List.length_append, List.length_cons] at hn hrest ⊢
      rw [List.append_assoc, List.append_assoc, List.cons_append,
        readMembers_member h hx (by omega) (by decide) (ends_cons (by decide))]
      simp only [readMembers_blank hblank, hrest (by omega)]
      rfl

theorem readValue_scalar {c : Char} (hblank : ¬ isBlank c) (hc : c ≠ '"' ∧ c ≠ '[' ∧ c ≠ '\x7b')
    (n : Nat) (r : List Char) : readValue (n + 1) (c :: r) = readScalar (c :: r) := by
  rw [readValue, skip_cons hblank]
  split
  · rename_i h
    exact absurd (List.cons.inj h).1 hc.1
  · rename_i h
    exact absurd (List.cons.inj h).1 hc.2.1
  · rename_i h
    exact absurd (List.cons.inj h).1 hc.2.2
  · rfl

theorem readValue_elements {c : Char} (hblank : ¬ isBlank c) (hc : c ≠ ']') (n : Nat)
    (r : List Char) :
    readValue (n + 1) ('[' :: c :: r) =
      (readElements n (c :: r)).map fun p => (.array p.1, p.2) := by
  rw [readValue, skip_cons (by decide)]
  simp only [skip_cons hblank]
  split
  · rename_i h
    exact absurd (List.cons.inj h).1 hc
  · cases readElements n (c :: r) <;> rfl

theorem readValue_members (n : Nat) (r : List Char) :
    readValue (n + 1) ('\x7b' :: '"' :: r) =
      (readMembers n ('"' :: r)).map fun p => (.object (Names.ofPairs p.1), p.2) := by
  rw [readValue, skip_cons (by decide)]
  simp only [skip_cons (c := '"') (by decide)]
  split
  · rename_i h
    exact absurd (List.cons.inj h).1 (by decide)
  · cases readMembers n ('"' :: r) <;> rfl

theorem joined_cons (mark : String) (t : List Char) (ts : List (List Char)) :
    ∃ r, joined mark (t :: ts) = t ++ r := by
  cases ts with
  | nil => exact ⟨[], (List.append_nil t).symm⟩
  | cons u ts => exact ⟨_, List.append_assoc _ _ _⟩

section

variable {style : Style}

/-- A text that is written is not empty, so there is fuel to begin with. -/
theorem ReadsBack.of_succ {j : Json} (hj : j.Plain)
    (h : ∀ n r, (j.write style).length ≤ n + 1 → Ends r →
      readValue (n + 1) (j.write style ++ r) = some (j, r)) : j.ReadsBack style := by
  intro n r hn hr
  obtain ⟨c, cs, hcs, -⟩ := write_eq_cons style hj
  have hpos : cs.length + 1 ≤ n := by rwa [hcs, List.length_cons] at hn
  obtain ⟨m, rfl⟩ : ∃ m, n = m + 1 := ⟨n - 1, by omega⟩
  exact h m r hn hr

theorem readsBack_int (m : Int) : (int m).ReadsBack style := by
  refine .of_succ (.int m) fun n r hn hr => ?_
  obtain ⟨c, cs, hcs, hc⟩ := intText_eq_cons m
  obtain ⟨d, ds, hds, hblank, -⟩ := write_eq_cons style (.int m)
  have hread := readScalar_intText m hr
  rw [write] at hds ⊢
  obtain ⟨rfl, rfl⟩ := List.cons.inj (hcs.symm.trans hds)
  rw [hcs, List.cons_append] at hread ⊢
  rw [readValue_scalar hblank _ n, hread]
  exact ⟨ne_of_intText hc (by decide), ne_of_intText hc (by decide), ne_of_intText hc (by decide)⟩

variable (h : style.Regular)

include h

theorem readsBack_str (s : String) : (str s).ReadsBack style := by
  refine .of_succ (.str s) fun n r hn hr => ?_
  obtain ⟨cs, hcs, hread⟩ := readString_writeString h.shown s r
  rw [write, hcs, readValue, skip_cons (by decide)]
  simp only [hread, Option.bind_eq_bind, Option.bind_some]
  rfl

theorem readsBack_array {xs : List Json} (items : ∀ x ∈ xs, x.Plain)
    (hxs : ∀ x ∈ xs, x.ReadsBack style) : (array xs).ReadsBack style := by
  refine .of_succ (.array items) fun n r hn hr => ?_
  simp only [write, List.length_cons, List.length_append, List.length_nil] at hn
  rw [write, List.cons_append, List.append_assoc, List.singleton_append]
  cases xs with
  | nil => rfl
  | cons x xs =>
    have hread := readElements_write h (List.cons_ne_nil x xs) hxs (n := n) (by omega) r
    obtain ⟨c, cs, hcs, hblank, hmark⟩ := write_eq_cons style (items x List.mem_cons_self)
    obtain ⟨ts, hts⟩ := joined_cons style.comma (x.write style) (write.elements style xs)
    rw [write.elements, hts, hcs, List.cons_append, List.cons_append] at hread ⊢
    rw [readValue_elements hblank hmark, hread]
    rfl

theorem readsBack_object {ms : List (String × Json)} (names : (ms.map Prod.fst).Nodup)
    (items : ∀ m ∈ ms, m.2.Plain) (hms : ∀ m ∈ ms, m.2.ReadsBack style) :
    (object ms).ReadsBack style := by
  refine .of_succ (.object names items) fun n r hn hr => ?_
  simp only [write, List.length_cons, List.length_append, List.length_nil] at hn
  rw [write, List.cons_append, List.append_assoc, List.singleton_append]
  cases ms with
  | nil => rfl
  | cons m ms =>
    have hread := readMembers_write h (List.cons_ne_nil m ms) hms (n := n) (by omega) r
    obtain ⟨ts, hts⟩ := joined_cons style.comma
      (writeString style.shown m.1 ++ style.colon.toList ++ m.2.write style)
      (write.fields style ms)
    rw [write.fields, hts, writeString, List.cons_append, List.cons_append, List.cons_append,
      List.cons_append] at hread ⊢
    rw [readValue_members, hread, Option.map_some, Names.ofPairs_of_nodup names]

theorem readsBack {j : Json} (hj : j.Plain) : j.ReadsBack style := by
  induction hj with
  | null => exact .of_succ .null fun n r _ _ => readValue_scalar (by decide) (by decide) n _
  | bool b =>
    refine .of_succ (.bool b) fun n r _ _ => ?_
    cases b with
    | true => exact readValue_scalar (by decide) (by decide) n _
    | false => exact readValue_scalar (by decide) (by decide) n _
  | int m => exact readsBack_int m
  | str s => exact readsBack_str h s
  | array items ih => exact readsBack_array h items ih
  | object names items ih => exact readsBack_object h names items ih

end

/-- What is written of a tree denotes the tree. -/
theorem parse_render {style : Style} (h : style.Regular) {j : Json} (hj : j.Plain) :
    parse (j.render style) = some j := by
  have hread := readsBack h hj (j.write style).length [] (Nat.le_refl _) ends_nil
  rw [List.append_nil] at hread
  rw [parse, render, String.toList_ofList, String.length_ofList, hread]
  rfl

theorem printable_of_isDigit {c : Char} (h : c.isDigit) : Text.isPrintableAscii c := by
  simp only [Char.isDigit, Bool.and_eq_true, decide_eq_true_eq, UInt32.le_iff_toNat_le,
    ge_iff_le] at h
  have hzero : '0'.val.toNat = 48 := rfl
  have hnine : '9'.val.toNat = 57 := rfl
  simp only [Text.isPrintableAscii, Bool.and_eq_true, decide_eq_true_eq, Char.toNat]
  omega

theorem all_joined {p : Char → Bool} {mark : String} (hmark : mark.toList.all p)
    {ts : List (List Char)} (h : ∀ t ∈ ts, t.all p) : (joined mark ts).all p := by
  induction ts with
  | nil => rfl
  | cons t ts ih =>
    cases ts with
    | nil => exact h t List.mem_cons_self
    | cons u ts =>
      rw [joined_cons_cons, List.all_append, List.all_append, h t List.mem_cons_self, hmark,
        ih fun v hv => h v (List.mem_cons_of_mem _ hv)]
      rfl

theorem elements_eq_map (style : Style) (xs : List Json) :
    write.elements style xs = xs.map (write style) := by
  induction xs with
  | nil => rfl
  | cons x xs ih => rw [write.elements, ih, List.map_cons]

theorem fields_eq_map (style : Style) (ms : List (String × Json)) : write.fields style ms =
    ms.map fun m => writeString style.shown m.1 ++ style.colon.toList ++ m.2.write style := by
  induction ms with
  | nil => rfl
  | cons m ms ih => rw [write.fields, ih, List.map_cons]

/-- A tree on one line is written in printable ASCII. -/
theorem printable_write {j : Json} (hj : j.Plain) :
    (j.write .line).all Text.isPrintableAscii := by
  induction hj with
  | null => decide
  | bool b => cases b <;> decide
  | int n =>
    refine List.all_eq_true.2 fun c hc => ?_
    rcases Text.mem_repr hc with rfl | hd
    · rfl
    · exact printable_of_isDigit hd
  | str s => exact printable_writeString s
  | @array xs items ih =>
    have hall : (joined Style.line.comma (write.elements .line xs)).all Text.isPrintableAscii := by
      refine all_joined (by decide) fun t ht => ?_
      rw [elements_eq_map] at ht
      obtain ⟨x, hx, rfl⟩ := List.mem_map.1 ht
      exact ih x hx
    rw [write, List.all_cons, List.all_append, hall]
    rfl
  | @object ms names items ih =>
    have hall : (joined Style.line.comma (write.fields .line ms)).all Text.isPrintableAscii := by
      refine all_joined (by decide) fun t ht => ?_
      rw [fields_eq_map] at ht
      obtain ⟨m, hm, rfl⟩ := List.mem_map.1 ht
      have hname : (writeString Style.line.shown m.1).all Text.isPrintableAscii :=
        printable_writeString m.1
      rw [List.all_append, List.all_append, hname, ih m hm]
      rfl
    rw [write, List.all_cons, List.all_append, hall]
    rfl

end Linkcut.Json

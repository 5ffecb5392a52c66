import Mathlib.Tactic.Tauto
import Linkcut.Controller
import Linkcut.Proofs.Log.Lines

/-!
Lines that are lost. JSON has names for keys that are nothing, truth values, numbers or texts, and
for no others, and no text for a whole number with too many digits. Fields take the line of a record
away if and only if there is such a number in them, or a key of another sort, at any depth.
-/

set_option autoImplicit false

namespace Linkcut

namespace Value

/-- Nothing, a truth value, a number or a text. -/
def isScalar : Value → Bool
  | none | bool _ | int _ | float _ | str _ | phase _ => true
  | bytes _ | list _ | tuple _ | dict _ | fault _ | foreign _ => false

/-- The keys of all dictionaries in a value, at any depth, in the order in which they are written.
-/
def innerKeys : Value → List Value
  | list xs | tuple xs => items xs
  | dict es => entries es
  | _ => []
where
  items : List Value → List Value
    | [] => []
    | x :: xs => innerKeys x ++ items xs
  entries : List (Value × Value) → List Value
    | [] => []
    | (k, v) :: es => k :: (innerKeys v ++ entries es)

/-- What a key meets on its way to a name. -/
def keyObstacles (most : Nat) : Value → List Fault
  | int n => if Linkcut.isShort most n then [] else [.integerTooLong most]
  | k => if k.isScalar then [] else [.badFieldName k.type]

/-- What a value meets on its way to JSON, in the order in which it is written: whole numbers that
are too long, and keys that have no name. -/
def obstacles (most : Nat) : Value → List Fault
  | int n => if Linkcut.isShort most n then [] else [.integerTooLong most]
  | list xs | tuple xs => items most xs
  | dict es => entries most es
  | _ => []
where
  items (most : Nat) : List Value → List Fault
    | [] => []
    | x :: xs => obstacles most x ++ items most xs
  entries (most : Nat) : List (Value × Value) → List Fault
    | [] => []
    | (k, v) :: es => k.keyObstacles most ++ (obstacles most v ++ entries most es)

theorem keyObstacles_eq_nil_iff (most : Nat) (k : Value) :
    k.keyObstacles most = [] ↔ k.isShort most ∧ k.isScalar := by
  cases k <;> simp [keyObstacles, isShort, isScalar]

mutual

/-- Nothing is in the way if and only if the whole numbers are short and the keys scalar. -/
theorem obstacles_eq_nil_iff (most : Nat) :
    (v : Value) → (v.obstacles most = [] ↔ v.isShort most ∧ ∀ k ∈ v.innerKeys, k.isScalar)
  | int n => by simp [obstacles, isShort, innerKeys]
  | none | bool _ | float _ | str _ | phase _ | bytes _ | fault _ | foreign _ => by
    simp [obstacles, isShort, innerKeys]
  | list xs | tuple xs => by
    rw [obstacles, isShort, innerKeys]
    exact items_eq_nil_iff most xs
  | dict es => by
    rw [obstacles, isShort, innerKeys]
    exact entries_eq_nil_iff most es

theorem items_eq_nil_iff (most : Nat) : (xs : List Value) →
    (obstacles.items most xs = [] ↔
      isShort.items most xs ∧ ∀ k ∈ innerKeys.items xs, k.isScalar)
  | [] => by simp [obstacles.items, isShort.items, innerKeys.items]
  | x :: xs => by
    simp only [obstacles.items, isShort.items, innerKeys.items, List.append_eq_nil_iff,
      obstacles_eq_nil_iff most x, items_eq_nil_iff most xs, Bool.and_eq_true,
      List.forall_mem_append]
    tauto

theorem entries_eq_nil_iff (most : Nat) : (es : List (Value × Value)) →
    (obstacles.entries most es = [] ↔
      isShort.entries most es ∧ ∀ k ∈ innerKeys.entries es, k.isScalar)
  | [] => by simp [obstacles.entries, isShort.entries, innerKeys.entries]
  | (k, v) :: es => by
    simp only [obstacles.entries, isShort.entries, innerKeys.entries, List.append_eq_nil_iff,
      keyObstacles_eq_nil_iff, obstacles_eq_nil_iff most v, entries_eq_nil_iff most es,
      Bool.and_eq_true, List.forall_mem_cons, List.forall_mem_append]
    tauto

end

/-- A computation that comes to a result if nothing is in its way, and to the first fault that is in
its way otherwise. -/
def HingesOn {α : Type} (fs : List Fault) (x : Except Fault α) : Prop :=
  match fs with
  | f :: _ => x = .error f
  | [] => ∃ a, x = .ok a

namespace HingesOn

variable {α β : Type} {fs gs : List Fault} {x : Except Fault α}

theorem ok (a : α) : HingesOn [] (.ok a) := ⟨a, rfl⟩

theorem guard (p : Bool) (a : α) (f : Fault) :
    HingesOn (if p then [] else [f]) (if p then .ok a else .error f) := by
  cases p with
  | true => exact ok a
  | false => rfl

theorem bind (hx : HingesOn fs x) {f : α → Except Fault β} (hf : ∀ a, HingesOn gs (f a)) :
    HingesOn (fs ++ gs) (x >>= f) := by
  cases fs with
  | cons fault fs =>
    obtain rfl : x = .error fault := hx
    rfl
  | nil =>
    obtain ⟨a, rfl⟩ := hx
    exact hf a

theorem bind_pure (hx : HingesOn fs x) (f : α → β) : HingesOn fs (x >>= fun a => pure (f a)) := by
  have h : HingesOn (fs ++ []) (x >>= fun a => pure (f a)) := hx.bind fun a => ok (f a)
  rwa [List.append_nil] at h

theorem map (hx : HingesOn fs x) (f : α → β) : HingesOn fs (x.map f) := by
  have h := hx.bind_pure f
  cases x <;> exact h

theorem exists_iff (h : HingesOn fs x) : (∃ a, x = .ok a) ↔ fs = [] := by
  cases fs with
  | nil => exact iff_of_true h rfl
  | cons f fs =>
    obtain rfl : x = .error f := h
    simp

theorem error_iff (h : HingesOn fs x) (f : Fault) : x = .error f ↔ fs.head? = some f := by
  cases fs with
  | nil =>
    obtain ⟨a, rfl⟩ := h
    simp
  | cons g fs =>
    obtain rfl : x = .error g := h
    simp

end HingesOn

theorem fieldName_hinges (most : Nat) :
    (k : Value) → HingesOn (k.keyObstacles most) (k.fieldName most)
  | int n => .guard (Linkcut.isShort most n) (toString n) (.integerTooLong most)
  | none | bool _ | float _ | str _ | phase _ => ⟨_, rfl⟩
  | bytes _ | list _ | tuple _ | dict _ | fault _ | foreign _ => rfl

mutual

/-- Whether a value has a JSON tree hinges on what is in its way, and on nothing else. -/
theorem toJson_hinges (most : Nat) : (v : Value) → HingesOn (v.obstacles most) (v.toJson most)
  | int n => by
    rw [obstacles, toJson]
    exact .guard (Linkcut.isShort most n) (Json.int n) (.integerTooLong most)
  | none | bool _ | float _ | str _ | phase _ | bytes _ | fault _ | foreign _ => ⟨_, rfl⟩
  | list xs | tuple xs => by
    rw [obstacles, toJson]
    exact (elements_hinges most xs).bind_pure Json.array
  | dict es => by
    rw [obstacles, toJson]
    exact (members_hinges most es).bind_pure Json.object

theorem elements_hinges (most : Nat) :
    (xs : List Value) → HingesOn (obstacles.items most xs) (toJson.elements most xs)
  | [] => .ok []
  | x :: xs => by
    rw [obstacles.items, toJson.elements]
    exact (toJson_hinges most x).bind fun j => (elements_hinges most xs).bind_pure (j :: ·)

theorem members_hinges (most : Nat) :
    (es : List (Value × Value)) → HingesOn (obstacles.entries most es) (toJson.members most es)
  | [] => .ok []
  | (k, v) :: es => by
    rw [obstacles.entries, toJson.members]
    refine (fieldName_hinges most k).bind fun name => ?_
    exact (toJson_hinges most v).bind fun j => (members_hinges most es).bind_pure ((name, j) :: ·)

end

/-- The names of fields are texts, so that only their values count. -/
theorem obstacles_ofFields (most : Nat) (fields : List (String × Value)) :
    (ofFields fields).obstacles most = fields.flatMap fun f => f.2.obstacles most := by
  rw [ofFields, obstacles]
  induction fields with
  | nil => rfl
  | cons f fields ih =>
    rw [List.map_cons, obstacles.entries, ih, List.flatMap_cons]
    rfl

theorem flatMap_obstacles_eq_nil_iff (most : Nat) (fields : List (String × Value)) :
    (fields.flatMap fun f => f.2.obstacles most) = [] ↔
      ∀ f ∈ fields, f.2.isShort most ∧ ∀ k ∈ f.2.innerKeys, k.isScalar := by
  simp only [List.flatMap_eq_nil_iff, obstacles_eq_nil_iff]

end Value

namespace Log

open Value

/-- The record with the fields of a call. -/
def Record.carrying (r : Record) (fields : List (String × Value)) : Record :=
  { r with fields := carried fields }

/-- The line of a record without its fields fails, or the line with them hinges on what is in the
way of their values. -/
theorem Record.line_carrying (r : Record) (fields : List (String × Value)) (most : Nat)
    (now : Moment) (debug : Bool) :
    (∃ f, (r.carrying []).line most now debug = .error f ∧
      (r.carrying fields).line most now debug = .error f) ∨
    ((∃ line, (r.carrying []).line most now debug = .ok line) ∧
      HingesOn (fields.flatMap fun f => f.2.obstacles most)
        ((r.carrying fields).line most now debug)) := by
  have htext : ∀ fs, (r.carrying fs).text = r.text := fun fs => rfl
  have htrouble : ∀ fs, (r.carrying fs).trouble = r.trouble := fun fs => rfl
  simp only [Record.line, Record.toJson, htext, htrouble]
  cases r.text most with
  | error f => exact .inl ⟨f, rfl, rfl⟩
  | ok message =>
    cases traceOf? r.trouble with
    | error f => exact .inl ⟨f, rfl, rfl⟩
    | ok trace =>
      refine .inr ⟨⟨_, rfl⟩, ?_⟩
      cases fields with
      | nil => exact ⟨_, rfl⟩
      | cons f fields =>
        have hdata := toJson_hinges most (ofFields (f :: fields))
        rw [obstacles_ofFields] at hdata
        exact ((hdata.map some).bind_pure _).map _

/-- Without fields a record has a line if its message and its trace can be had. -/
theorem Record.line_bare_iff (r : Record) (most : Nat) (now : Moment) (debug : Bool) :
    (∃ line, (r.carrying []).line most now debug = .ok line) ↔
      (∃ message, r.text most = .ok message) ∧ ∃ trace, traceOf? r.trouble = .ok trace := by
  have htext : (r.carrying []).text = r.text := rfl
  have htrouble : (r.carrying []).trouble = r.trouble := rfl
  simp only [Record.line, Record.toJson, htext, htrouble]
  cases r.text most with
  | error f => simp [bind, Except.bind, Except.map]
  | ok message =>
    cases traceOf? r.trouble with
    | error f => simp [bind, Except.bind, Except.map]
    | ok trace => exact ⟨fun _ => ⟨⟨_, rfl⟩, _, rfl⟩, fun _ => ⟨_, rfl⟩⟩

/-- The record that is made of an entry. -/
def Entry.record (e : Entry) (source : Source) : Record :=
  { level := .int e.level
    levelName := e.level.text
    logger := e.logger
    message := .str e.message
    args := .tuple []
    fields := carried e.fields
    trouble := (e.fault.map fun f => .fault (.alone f)).getD .none
    source }

theorem Entry.line_iff (e : Entry) (source : Source) (most : Nat) (now : Moment) (debug : Bool) :
    (∃ line, (e.record source).line most now debug = .ok line) ↔
      ∀ f ∈ e.fields, f.2.isShort most ∧ ∀ k ∈ f.2.innerKeys, k.isScalar := by
  have hbare : ∃ line, ((e.record source).carrying []).line most now debug = .ok line := by
    refine (Record.line_bare_iff _ most now debug).2 ⟨⟨e.message, rfl⟩, ?_⟩
    obtain ⟨level, logger, message, fields, fault⟩ := e
    cases fault <;> exact ⟨_, rfl⟩
  rcases (e.record source).line_carrying e.fields most now debug with ⟨f, hf, -⟩ | ⟨-, hhinges⟩
  · simp [hf] at hbare
  · exact hhinges.exists_iff.trans (flatMap_obstacles_eq_nil_iff _ _)

/-- A session's reason to disconnect is logged as it is, and the entry has a line if and only if
JSON has texts for the whole numbers and names for the keys in the reason. -/
theorem disconnect_line_iff (c : Controller) (sid : Sid) {p : Phase}
    (hlive : c.sessions.get? sid = some p) (reason : Value) (source : Source) (most : Nat)
    (now : Moment) (debug : Bool) :
    ∃ e, (c.disconnect sid reason).site.journal.head? = some (.logged e) ∧
      e.fields.lookup "reason" = some reason ∧
      ((∃ line, (e.record source).line most now debug = .ok line) ↔
        reason.isShort most ∧ ∀ k ∈ reason.innerKeys, k.isScalar) := by
  rw [Controller.disconnect, hlive]
  refine ⟨_, rfl, rfl, (Entry.line_iff _ source most now debug).trans ?_⟩
  simp [innerKeys, Value.isShort]

/-- A record loses its line to its fields if and only if some whole number in them is too long for a
text, or some key in them has no name in JSON. The fault is that of the first such number or key, in
the order of writing. What else takes a line away is a message that cannot be filled in, or a trace
that cannot be told. -/
theorem fields_lose_line_iff (r : Record) (fields : List (String × Value)) (most : Nat)
    (now : Moment) (debug : Bool) :
    ((∃ line, (r.carrying fields).line most now debug = .ok line) ↔
      (∃ line, (r.carrying []).line most now debug = .ok line) ∧
        ∀ f ∈ fields, f.2.isShort most ∧ ∀ k ∈ f.2.innerKeys, k.isScalar) ∧
    (∀ fault, (r.carrying fields).line most now debug = .error fault ↔
      (r.carrying []).line most now debug = .error fault ∨
        (∃ line, (r.carrying []).line most now debug = .ok line) ∧
          (fields.flatMap fun f => f.2.obstacles most).head? = some fault) ∧
    ((∃ line, (r.carrying []).line most now debug = .ok line) ↔
      (∃ message, r.text most = .ok message) ∧ ∃ trace, traceOf? r.trouble = .ok trace) := by
  refine ⟨?_, ?_, r.line_bare_iff most now debug⟩
  · rcases r.line_carrying fields most now debug with ⟨f, hbare, hf⟩ | ⟨hbare, hhinges⟩
    · simp [hbare, hf]
    · rw [hhinges.exists_iff, and_iff_right hbare, flatMap_obstacles_eq_nil_iff]
  · intro fault
    rcases r.line_carrying fields most now debug with ⟨f, hbare, hf⟩ | ⟨⟨line, hbare⟩, hhinges⟩
    · simp [hbare, hf]
    · simp [hbare, hhinges.error_iff]

example : (Value.list [.int 12, .dict [(.int 1234, .none)]]).toJson 3 =
    .error (.integerTooLong 3) := rfl

/-- A reason with a pair for a key. -/
def pairedReason : Value := .dict [(.tuple [.int 1, .int 2], .str "x")]

/-- A session disconnects for a reason with a pair for a key: the reason is logged, and the entry
has a line for a console, but none in JSON. -/
theorem paired_reason_loses_line :
    let c : Controller := ((default : Controller).connect "s" .delivered).2
    ∃ e, (c.disconnect "s" pairedReason).site.journal.head? = some (.logged e) ∧
      e.fields.lookup "reason" = some pairedReason ∧
      (∃ line, ((e.record default).carrying []).line usualMost default false = .ok line) ∧
      (∃ line, (e.record default).console usualMost default = .ok line) ∧
      (e.record default).line usualMost default false = .error (.badFieldName "tuple") :=
  ⟨_, rfl, rfl, ⟨_, rfl⟩, ⟨_, rfl⟩, rfl⟩

end Log
end Linkcut

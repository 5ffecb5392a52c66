import Linkcut.Log.Logger
import Linkcut.Proofs.Json.Values

/-!
Log lines in JSON. The line of a record is one line of ASCII, and as JSON it tells the level, the
logger, the message and the fields of the record.
-/

set_option autoImplicit false

namespace Linkcut.Log

/-- What a record carries of the fields of a call. -/
def carried (fields : List (String × Value)) : Value :=
  if fields.isEmpty then .none else .ofFields fields

/-- A record that is made for a call with fields carries them. -/
theorem fields_makeRecord {most : Nat} {logger : String} {source : Source}
    {level message args trouble extra : Value} {fields : List (String × Value)}
    (hextra : withFields .none fields = .ok extra) {r : Record}
    (hr : makeRecord most logger source level message args trouble extra = .ok r) :
    r.fields = carried fields := by
  obtain ⟨args, -, hr⟩ := ok_of_bind hr
  obtain ⟨levelName, -, hr⟩ := ok_of_bind hr
  obtain ⟨entries, hentries, hr⟩ := ok_of_bind hr
  cases hextra
  cases hentries
  cases hr
  rfl

section

variable {most : Nat} {r : Record} {fields : List (String × Value)}

/-- The tree of the fields, if there are any. -/
theorem carried_hasTree (hnames : (fields.map Prod.fst).Nodup)
    (hplain : ∀ f ∈ fields, f.2.Plain most) :
    ∃ data : Option Json,
      (if (carried fields).isTruthy then ((carried fields).toJson most).map some else pure none) =
        Except.ok data ∧
      data.map Json.toValue = (if fields.isEmpty then none else some (.ofFields fields)) ∧
      ∀ j ∈ data, j.Plain := by
  cases fields with
  | nil => exact ⟨none, rfl, rfl, by simp⟩
  | cons f fields =>
    obtain ⟨j, hj, hvalue, hj'⟩ := (Value.Plain.dict hnames hplain).hasTree
    refine ⟨some j, ?_, by simp [hvalue], by simpa using hj'⟩
    change ((Value.ofFields (f :: fields)).toJson most).map some = _
    rw [hj]
    rfl

/-- The members of the line of a record in which nothing went wrong. -/
def members (r : Record) (now : Moment) (debug : Bool) (message : String) (data : Option Json) :
    List (String × Json) :=
  [("timestamp", .str now.stamp), ("level", .str r.levelName), ("logger", .str r.logger),
   ("message", .str message)] ++
  (data.map fun d => ("data", d)).toList ++
  (if debug then
    [("source", .object
      [("file", .str r.source.file), ("line", .int r.source.line),
       ("function", r.source.function.elim .null .str)])]
  else [])

theorem toJson_eq (htrouble : r.trouble.isTruthy = false) {message : String}
    (hmessage : r.text most = .ok message) {data : Option Json}
    (hdata : (if r.fields.isTruthy then (r.fields.toJson most).map some else pure none) =
      Except.ok data)
    (now : Moment) (debug : Bool) :
    r.toJson most now debug = .ok (.object (members r now debug message data)) := by
  have htrace : traceOf? r.trouble = .ok none := by simp [traceOf?, htrouble]
  rw [Record.toJson, hmessage, htrace, members]
  generalize r.source.function = function
  cases ht : r.fields.isTruthy with
  | false =>
    rw [ht] at hdata
    cases hdata
    cases function <;> rfl
  | true =>
    rw [ht] at hdata
    cases hj : r.fields.toJson most with
    | error f =>
      rw [hj] at hdata
      cases hdata
    | ok j =>
      rw [hj] at hdata
      cases hdata
      cases function <;> rfl

theorem members_plain (r : Record) (now : Moment) (debug : Bool) (message : String)
    {data : Option Json} (h : ∀ j ∈ data, j.Plain) :
    (Json.object (members r now debug message data)).Plain := by
  refine .object ?_ ?_
  · cases data <;> cases debug <;> simp [members]
  · intro m hm
    simp only [members, List.mem_append, List.mem_cons, List.not_mem_nil, or_false] at hm
    rcases hm with ((rfl | rfl | rfl | rfl) | hm) | hm
    · exact .str _
    · exact .str _
    · exact .str _
    · exact .str _
    · obtain ⟨j, hj, rfl⟩ : ∃ j ∈ data, ("data", j) = m := by simpa using hm
      exact h j hj
    · cases debug with
      | false => cases hm
      | true =>
        obtain rfl := List.mem_singleton.1 hm
        refine .object (by simp) ?_
        simp only [List.forall_mem_cons]
        refine ⟨.str _, .int _, ?_, by simp⟩
        cases r.source.function with
        | none => exact .null
        | some f => exact .str f

end

/-- Every record whose message can be had and in which nothing went wrong has one line of printable
ASCII. As JSON the line is an object with the level, the logger and the message, and with the fields
in order, if there are any. The characters of a text are Unicode scalar values: a text has no
surrogates, alone or in pairs. -/
theorem line_decodes (r : Record) (most : Nat) (message : String)
    (hmessage : r.text most = .ok message) (htrouble : r.trouble.isTruthy = false) (fields : List (String × Value))
    (hfields : r.fields = carried fields) (hnames : (fields.map Prod.fst).Nodup)
    (hplain : ∀ f ∈ fields, f.2.Plain most) (now : Moment) (debug : Bool) :
    ∃ line, r.line most now debug = .ok line ∧ line.toList.all Text.isPrintableAscii ∧
      ∃ members, Json.parse line = some (.object members) ∧
        members.lookup "level" = some (.str r.levelName) ∧
        members.lookup "logger" = some (.str r.logger) ∧
        members.lookup "message" = some (.str message) ∧
        (members.lookup "data").map Json.toValue =
          if fields.isEmpty then none else some (.ofFields fields) := by
  obtain ⟨data, hdata, hvalue, hall⟩ := carried_hasTree hnames hplain
  rw [← hfields] at hdata
  have hjson := toJson_eq htrouble hmessage hdata now debug
  have htree := members_plain r now debug message hall
  refine ⟨(Json.object (members r now debug message data)).render .line, ?_, ?_, _,
    Json.parse_render Json.Style.line_regular htree, rfl, rfl, rfl, ?_⟩
  · rw [Record.line, hjson]
    rfl
  · rw [Json.render, String.toList_ofList]
    exact Json.printable_write htree
  · rw [← hvalue]
    cases data with
    | some d => rfl
    | none => cases debug <;> rfl

/-- Marks, a line break, a control character and a character past the first plane. -/
def loudMessage : String := "say \"hi\"\n\\ \x07 😀 é"

def loudFields : List (String × Value) :=
  [("sid", .str loudMessage), ("none", .none), ("count", .int (-120)),
   ("deep", .list [.bool true, .ofFields [(loudMessage, .list []), ("", .ofFields [])]])]

theorem loudFields_plain : ∀ f ∈ loudFields, f.2.Plain usualMost := by
  have hdeep : (Value.ofFields [(loudMessage, .list []), ("", .ofFields [])]).Plain usualMost := by
    refine .dict (by decide) (List.forall_mem_cons.2 ⟨.list (by simp), ?_⟩)
    exact List.forall_mem_cons.2 ⟨.dict (by simp) (by simp), by simp⟩
  simp only [loudFields, List.forall_mem_cons]
  refine ⟨.str _, .none, .int (by decide), .list ?_, by simp⟩
  exact List.forall_mem_cons.2 ⟨.bool true, List.forall_mem_cons.2 ⟨hdeep, by simp⟩⟩

def loud : Record where
  level := .int Level.info
  levelName := "INFO"
  logger := "app"
  message := .str loudMessage
  args := .tuple []
  fields := .ofFields loudFields
  source := ⟨"/srv/app.py", 7, none⟩

theorem line_decodes_loud :
    (withFields .none loudFields >>= makeRecord usualMost "app" ⟨"/srv/app.py", 7, none⟩
      (.int Level.info) (.str loudMessage) (.tuple []) .none) = .ok loud ∧
    loud.text usualMost = .ok loudMessage ∧ loud.trouble.isTruthy = false ∧
    loud.fields = carried loudFields ∧ (loudFields.map Prod.fst).Nodup ∧
    (∀ f ∈ loudFields, f.2.Plain usualMost) ∧
    ∃ line members, loud.line usualMost default true = .ok line ∧
      line.toList.all Text.isPrintableAscii ∧
      Json.parse line = some (.object members) ∧ members.lookup "level" = some (.str "INFO") ∧
      members.lookup "message" = some (.str loudMessage) ∧
      (members.lookup "data").map Json.toValue = some (.ofFields loudFields) := by
  have hmade : makeRecord usualMost "app" ⟨"/srv/app.py", 7, none⟩ (.int Level.info)
      (.str loudMessage) (.tuple []) .none (.dict [(.str dataName, carried loudFields)]) = .ok loud := rfl
  have hfields := fields_makeRecord rfl hmade
  have hnames : (loudFields.map Prod.fst).Nodup := by decide
  obtain ⟨line, hline, hascii, members, hparse, hlevel, -, hmessage, hdata⟩ :=
    line_decodes loud usualMost loudMessage rfl rfl loudFields hfields hnames loudFields_plain
      default true
  exact ⟨hmade, rfl, rfl, hfields, hnames, loudFields_plain, line, members, hline, hascii, hparse,
    hlevel, hmessage, hdata⟩

end Linkcut.Log

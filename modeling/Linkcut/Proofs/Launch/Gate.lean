import Linkcut.Launch
import Linkcut.Proofs.Log.Calls
import Linkcut.Proofs.Settings.Checks

/-!
The gate before a launch. Settings with problems end the launch: the log has one critical line for
each, in the order of the checks, and nothing is served. For all others a server is made, and the
log has no line.
-/

set_option autoImplicit false

namespace Linkcut.Launch

open Log

/-- The entry of a refusal, for what is wrong. -/
def entryOf (message : String) : Entry :=
  { level := .critical
    logger := rootName
    message := "Invalid configuration"
    fields := [("error", .str message)] }

/-- What a line of a refusal holds. In JSON it is one line of ASCII with the level, the logger, the
message, and what is wrong as its only field; on a console all of them can be read as they are. -/
def IsRefusal (now : Moment) (form : Form) (wrong line : String) : Prop :=
  match form with
  | .json => line.toList.all Text.isPrintableAscii ∧
    ∃ members, Json.parse line = some (.object members) ∧
      members.lookup "level" = some (.str "CRITICAL") ∧
      members.lookup "logger" = some (.str "reconnect_harness") ∧
      members.lookup "message" = some (.str "Invalid configuration") ∧
      (members.lookup "data").map Json.toValue = some (.ofFields [("error", .str wrong)])
  | .console => line = "\x1b[35m[" ++ now.timeOfDay ++
      "] CRITICAL\x1b[0m reconnect_harness: Invalid configuration (error=" ++ wrong ++ ")"

/-- The line on a console of a record in which nothing went wrong. -/
theorem console_eq {r : Record} {most : Nat} {message fields : String}
    (hmessage : r.text most = .ok message) (hfields : fieldsText most r.fields = .ok fields)
    (htrouble : r.trouble.isTruthy = false) (now : Moment) : r.console most now =
      .ok ((colours.lookup r.levelName).getD plain ++ "[" ++ now.timeOfDay ++ "] " ++
        widened 8 r.levelName ++ plain ++ " " ++ r.logger ++ ": " ++ message ++ fields) := by
  have htrace : traceOf? r.trouble = .ok none := by simp [traceOf?, htrouble]
  rw [Record.console, hmessage, hfields, htrace]
  exact congrArg Except.ok String.append_empty

/-- The entry of a refusal has a line in each form, and the line holds what it should. -/
theorem render_entryOf (message : String) (source : Source) (most : Nat) (form : Form)
    (now : Moment) (debug : Bool) :
    ∃ line, ((entryOf message).record source).render most form now debug = .ok line ∧
      IsRefusal now form message line := by
  cases form with
  | json =>
    have hplain : ∀ f ∈ (entryOf message).fields, f.2.Plain most := by
      intro f hf
      obtain rfl := List.mem_singleton.1 hf
      exact .str message
    obtain ⟨line, hline, hascii, members, hparse, hlevel, hlogger, hmessage, hdata⟩ :=
      line_decodes ((entryOf message).record source) most "Invalid configuration" rfl rfl
        (entryOf message).fields rfl (by simp [entryOf]) hplain now debug
    exact ⟨line, hline, hascii, members, hparse, hlevel, hlogger, hmessage, hdata⟩
  | console =>
    have hfields : fieldsText most ((entryOf message).record source).fields =
        .ok (" (" ++ ("error" ++ "=" ++ message) ++ ")") := rfl
    have hline := console_eq (r := (entryOf message).record source) rfl hfields rfl now
    refine ⟨_, hline, ?_⟩
    -- The parts of the line whose texts are known, put together.
    have hstart : (colours.lookup "CRITICAL").getD plain ++ "[" = "\x1b[35m[" := rfl
    have hmiddle : "] " ++ (widened 8 "CRITICAL" ++ (plain ++ (" " ++ (rootName ++ (": " ++
        ("Invalid configuration" ++ (" (" ++ ("error" ++ "=")))))))) =
          "] CRITICAL\x1b[0m reconnect_harness: Invalid configuration (error=" := by decide +kernel
    rw [IsRefusal, ← hstart, ← hmiddle]
    simp only [String.append_assoc]
    rfl

/-- What is written so far, and the loggers, after one more call. -/
def tell (s : Settings) (most : Nat) (now : Moment) (told : String × Loggers) (c : Call) :
    String × Loggers :=
  let (_, lines, ls) := (Setup.ofSettings s).call most now rootName c told.2
  (told.1 ++ lines, ls)

theorem outputOf_eq (s : Settings) (most : Nat) (now : Moment) (cs : List Call) :
    outputOf s most now cs = (cs.foldl (tell s most now) ("", (Setup.ofSettings s).loggers)).1 :=
  rfl

variable {s : Settings} {ls : Loggers}

theorem level_le_critical (s : Settings) : (Setup.ofSettings s).level ≤ Level.critical := by
  simp only [Setup.ofSettings]
  split <;> decide

/-- A refusal writes its line. -/
theorem tell_refusal (h : (Setup.ofSettings s).Ready ls) (most : Nat) (now : Moment)
    (written message : String) : ∃ line ls', (Setup.ofSettings s).Ready ls' ∧
      IsRefusal now (Setup.ofSettings s).form message line ∧
      tell s most now (written, ls) (refusal message) = (written ++ (line ++ "\n"), ls') := by
  have hname : ("critical", Level.critical) ∈ Method.ofLevels := by decide
  have hfree : ∀ e ∈ [("error", Value.str message)],
      e.1 ∉ Parameters.owner :: Act.fieldParameters.names := by
    have hnot : "error" ∉ Parameters.owner :: Act.fieldParameters.names := by decide
    simpa using hnot
  obtain ⟨ls', hls', hcall⟩ :=
    h.call_eq hname (level_le_critical s) "Invalid configuration" hfree most now
  obtain ⟨line, hline, hrefusal⟩ := render_entryOf message Setup.source most
    (Setup.ofSettings s).form now (Setup.ofSettings s).debug
  have hwritten : (Setup.ofSettings s).written most now (entryOf message) = line ++ "\n" := by
    rw [Setup.written, hline]
  refine ⟨line, ls', hls', hrefusal, ?_⟩
  rw [tell, refusal, hcall, ← hwritten]
  rfl

/-- Refusals write their lines, in order. -/
theorem tell_refusals (h : (Setup.ofSettings s).Ready ls) (most : Nat) (now : Moment)
    (written : String) (messages : List String) : ∃ lines,
      List.Forall₂ (IsRefusal now (Setup.ofSettings s).form) messages lines ∧
      ((messages.map refusal).foldl (tell s most now) (written, ls)).1 =
        written ++ String.join (lines.map (· ++ "\n")) := by
  induction messages generalizing ls written with
  | nil => exact ⟨[], .nil, by simp⟩
  | cons message messages ih =>
    obtain ⟨line, ls', hls', hline, htell⟩ := tell_refusal h most now written message
    obtain ⟨lines, hlines, htold⟩ := ih hls' (written ++ (line ++ "\n"))
    refine ⟨line :: lines, .cons hline hlines, ?_⟩
    rw [List.map_cons, List.foldl_cons, htell, htold, List.map_cons, String.join_cons,
      String.append_assoc]

/-- The problems of settings are told in the order of the checks, if the numbers in them are short.
Settings without any go on to a server, which is served or cannot be made, and nothing is logged.
All others end the launch before that, and the log has one critical line for each problem, in order:
in JSON for production, for a console otherwise. -/
theorem run_gated (s : Settings) (environment : Names String) (most : Nat) (now : Moment)
    (hport : isShort most s.port) (hdelay : isShort most s.delayMillis) :
    let messages := (s.objections.filter Prod.fst).map Prod.snd
    s.validate most = .ok messages ∧
    if messages = [] then
      run s environment most now =
        match Server.ofSettings s environment with
        | .ok server => { exit := none, fault := none, output := "", served := [server] }
        | .error f => { exit := none, fault := some f, output := "", served := [] }
    else
      ∃ lines, List.Forall₂
          (IsRefusal now (if s.environment = "production" then .json else .console))
          messages lines ∧
        run s environment most now =
          { exit := some 1
            fault := none
            output := String.join (lines.map (· ++ "\n"))
            served := [] } := by
  have hvalid := s.validate_eq most
  rw [if_pos ⟨fun _ => hport, fun _ => hdelay⟩] at hvalid
  refine ⟨hvalid, ?_⟩
  cases hmessages : (s.objections.filter Prod.fst).map Prod.snd with
  | nil =>
    rewrite [if_pos rfl, run, hvalid, hmessages]
    rfl
  | cons message messages =>
    obtain ⟨lines, hlines, htold⟩ :=
      tell_refusals (Setup.ready_loggers (Setup.ofSettings s)) most now "" (message :: messages)
    have houtput : outputOf s most now ((message :: messages).map refusal) =
        String.join (lines.map (· ++ "\n")) := by
      rw [outputOf_eq, htold, String.empty_append]
    refine ⟨lines, hlines, ?_⟩
    rw [run, hvalid, hmessages, ← houtput]

/-- Settings with a port that is too large and a slash after the path. -/
def refused (environment : String) : Settings :=
  { port := 70000, socketPath := "io/", environment }

def refusedFor : List String :=
  ["PORT must be between 0 and 65535, got 70000", "SOCKETIO_PATH must not start or end with '/'"]

theorem run_gated_refused :
    isShort usualMost (refused "production").port ∧
    isShort usualMost (refused "production").delayMillis ∧
    (refused "production").validate usualMost = .ok refusedFor ∧
    (∃ lines, List.Forall₂ (IsRefusal default .json) refusedFor lines ∧
      run (refused "production") [] usualMost default =
        { exit := some 1, output := String.join (lines.map (· ++ "\n")) }) ∧
    (run (refused "production") [] usualMost default).output =
      "\x7b\"timestamp\": \"0000-00-00T00:00:00+00:00\", \"level\": \"CRITICAL\", " ++
      "\"logger\": \"reconnect_harness\", \"message\": \"Invalid configuration\", " ++
      "\"data\": \x7b\"error\": \"PORT must be between 0 and 65535, got 70000\"\x7d\x7d\n" ++
      "\x7b\"timestamp\": \"0000-00-00T00:00:00+00:00\", \"level\": \"CRITICAL\", " ++
      "\"logger\": \"reconnect_harness\", \"message\": \"Invalid configuration\", " ++
      "\"data\": \x7b\"error\": \"SOCKETIO_PATH must not start or end with '/'\"\x7d\x7d\n" ∧
    (run (refused "development") [] usualMost default).output =
      "\x1b[35m[00:00:00] CRITICAL\x1b[0m reconnect_harness: Invalid configuration " ++
      "(error=PORT must be between 0 and 65535, got 70000)\n" ++
      "\x1b[35m[00:00:00] CRITICAL\x1b[0m reconnect_harness: Invalid configuration " ++
      "(error=SOCKETIO_PATH must not start or end with '/')\n" := by
  have hport : isShort usualMost (refused "production").port := by decide
  have hdelay : isShort usualMost (refused "production").delayMillis := by decide
  have hraised : ((refused "production").objections.filter Prod.fst).map Prod.snd = refusedFor := by
    decide +kernel
  have hgate := run_gated (refused "production") [] usualMost default hport hdelay
  simp only [hraised] at hgate
  obtain ⟨hvalid, lines, hlines, hrun⟩ := hgate
  exact ⟨hport, hdelay, hvalid, ⟨lines, hlines, hrun⟩, by decide +kernel, by decide +kernel⟩

end Linkcut.Launch

import Mathlib.Data.List.DropRight
import Linkcut.Settings

/-!
The checks of settings. Problems are told in a fixed order, and a path is one if and only if there
is a slash at one of its ends. Nothing but a number that is too long for a text keeps them from
being told.
-/

set_option autoImplicit false

namespace Linkcut

/-- Nothing is trimmed if and only if no end has what is trimmed. -/
theorem Text.trim_eq_self_iff (p : Char → Bool) (cs : List Char) :
    trim p cs = cs ↔ (∀ c ∈ cs.head?, ¬ p c) ∧ ∀ c ∈ cs.getLast?, ¬ p c := by
  have hstart : trimStart p cs = cs ↔ ∀ c ∈ cs.head?, ¬ p c := by
    rw [trimStart, List.dropWhile_eq_self_iff]
    cases cs with
    | nil => simp
    | cons c cs => simp
  have hend : trimEnd p cs = cs ↔ ∀ c ∈ cs.getLast?, ¬ p c := by
    refine List.rdropWhile_eq_self_iff.trans ?_
    cases cs with
    | nil => simp
    | cons c cs => simp [List.getLast?_eq_some_getLast (List.cons_ne_nil c cs)]
  -- What is left of the start is no longer than the text, and what is left of both ends no longer
  -- than that.
  have hfirst : trim p cs = cs → trimStart p cs = cs := by
    intro h
    refine (List.dropWhile_suffix p).eq_of_length_le ?_
    have hle := (List.rdropWhile_prefix p (trimStart p cs)).length_le
    calc cs.length = (trim p cs).length := by rw [h]
      _ ≤ (trimStart p cs).length := hle
  constructor
  · intro h
    have hs := hfirst h
    rw [trim, hs] at h
    exact ⟨hstart.1 hs, hend.1 h⟩
  · rintro ⟨hs, he⟩
    rw [trim, hstart.2 hs, hend.2 he]

namespace Settings

/-- What settings can be refused for, in the order of the checks, and whether they are. -/
def objections (s : Settings) : List (Bool × String) :=
  let path := s.socketPath.toList
  [(s.port < 0 ∨ 65535 < s.port,
      "PORT must be between 0 and 65535, got " ++ toString s.port),
   (s.delayMillis < 0,
      "FORCE_DISCONNECT_DELAY_MS must not be negative (got " ++ toString s.delayMillis ++ ")"),
   (path.head? = some '/' ∨ path.getLast? = some '/',
      "SOCKETIO_PATH must not start or end with '/'"),
   (s.environment = "production" ∧ s.debug = true, "DEBUG must be False in production")]

theorem strippedPath_eq_iff (s : Settings) : s.strippedPath = s.socketPath.toList ↔
    ¬ (s.socketPath.toList.head? = some '/' ∨ s.socketPath.toList.getLast? = some '/') := by
  have hslash : ∀ o : Option Char, (∀ c ∈ o, ¬ (c == '/') = true) ↔ ¬ o = some '/' := by
    intro o
    cases o <;> simp
  rw [strippedPath, Text.trim_eq_self_iff, hslash, hslash, not_or]

example : ({ socketPath := "" } : Settings).problems = [] := by decide

example : ({ socketPath := "a//" } : Settings).problems = [.slashes] := by decide

/-- One objection after another: what is raised is told. -/
theorem raised_cons (p : Prop) [Decidable p] (text : String) (os : List (Bool × String)) :
    (((decide p, text) :: os).filter Prod.fst).map Prod.snd =
      (if p then [text] else []) ++ (os.filter Prod.fst).map Prod.snd := by
  by_cases hp : p
  · simp [hp]
  · simp [hp]

/-- The problems are told as the objections that are raised. -/
theorem texts_eq (s : Settings) :
    s.problems.map Problem.text = (s.objections.filter Prod.fst).map Prod.snd := by
  have hport : (0 ≤ s.port ∧ s.port ≤ 65535) ↔ ¬ (s.port < 0 ∨ 65535 < s.port) := by omega
  simp only [problems, objections, hport, s.strippedPath_eq_iff, ite_not, raised_cons,
    List.map_append, List.append_assoc, apply_ite (List.map Problem.text), List.map_cons,
    List.map_nil, List.filter_nil, List.append_nil]
  rfl

theorem mapM_message (most : Nat) (ps : List Problem) : ps.mapM (Problem.message most) =
    if ps.all (Problem.isShort most) then .ok (ps.map Problem.text)
    else .error (.integerTooLong most) := by
  induction ps with
  | nil => rfl
  | cons p ps ih =>
    rw [List.mapM_cons, ih, Problem.message, List.all_cons]
    cases p.isShort most with
    | false => rfl
    | true => cases ps.all (Problem.isShort most) <;> rfl

/-- Only a number that is told and too long keeps the problems from being told. -/
theorem validate_eq (s : Settings) (most : Nat) : s.validate most =
    if (s.port < 0 ∨ 65535 < s.port → isShort most s.port) ∧
        (s.delayMillis < 0 → isShort most s.delayMillis) then
      .ok ((s.objections.filter Prod.fst).map Prod.snd)
    else .error (.integerTooLong most) := by
  have hall : s.problems.all (Problem.isShort most) ↔
      (s.port < 0 ∨ 65535 < s.port → isShort most s.port) ∧
        (s.delayMillis < 0 → isShort most s.delayMillis) := by
    simp [problems, Problem.isShort, apply_ite (List.all · (Problem.isShort most)), imp_iff_not_or]
  rw [validate, mapM_message, texts_eq]
  simp only [hall]

end Settings
end Linkcut

import Linkcut.Api
import Linkcut.Proofs.Double.Range
import Linkcut.Proofs.Settings.Checks

/-!
Delays of settings. A negative delay is reported as a problem. An application cannot be built with
it, nor with a delay of so many milliseconds that the seconds are past the largest number; that one
is not reported.
-/

set_option autoImplicit false

namespace Linkcut.Settings

/-- The least delay, in milliseconds, that is in no finite number of seconds. -/
def delayLimit : Int := Double.bound * 1000

theorem negativeDelay_mem_problems (s : Settings) (n : Int) :
    .negativeDelay n ∈ s.problems ↔ s.delayMillis < 0 ∧ n = s.delayMillis := by
  simp only [problems, List.mem_append, List.mem_ite_nil_left, List.mem_ite_nil_right,
    List.mem_singleton, Problem.negativeDelay.injEq, reduceCtorEq, and_false, false_or, or_false]

/-- The delay in seconds is a number with the sign of the delay, or past the largest number. -/
theorem delaySeconds_cases (s : Settings) :
    (s.delaySeconds = .error .quotientTooLarge ∧ delayLimit ≤ s.delayMillis.natAbs) ∨
      ∃ x, s.delaySeconds = .ok x ∧ x.isNegative = decide (s.delayMillis < 0) ∧
        s.delayMillis.natAbs < delayLimit := by
  have hleast : (2 ^ Double.minExponent * (1000 : Nat) : ℚ) ≤ 1 := by
    have : (2 : ℚ) ^ Double.minExponent ≤ 2 ^ (-10 : Int) := zpow_le_zpow_right₀ one_le_two (by decide)
    norm_num at this ⊢
    linarith
  have hnone : Double.quotient? s.delayMillis 1000 = none ↔ _ :=
    Double.quotient?_eq_none_iff s.delayMillis (by decide)
  simp only [delayLimit, delaySeconds]
  cases hq : Double.quotient? s.delayMillis 1000 with
  | none => exact .inl ⟨rfl, by exact_mod_cast hnone.1 hq⟩
  | some x =>
    have hsign := Double.isNegative_of_quotient? (by decide) hleast hq
    have hlt : ¬ Double.bound * 1000 ≤ s.delayMillis.natAbs := fun h => by simp [hnone.2 h] at hq
    exact .inr ⟨x, rfl, hsign, by exact_mod_cast not_le.1 hlt⟩

theorem delayLimit_pos : 0 < delayLimit := by
  unfold delayLimit Double.bound
  positivity

/-- What an application is refused for. -/
theorem ofSettings_cases (s : Settings) (time : Value) :
    (0 ≤ s.delayMillis ∧ s.delayMillis < delayLimit ∧ ∃ a, Api.ofSettings s time = .ok a) ∨
    (delayLimit ≤ s.delayMillis.natAbs ∧ Api.ofSettings s time = .error .quotientTooLarge) ∨
    (s.delayMillis < 0 ∧ ∃ text, Api.ofSettings s time = .error (.negativeDelay text)) := by
  rcases s.delaySeconds_cases with ⟨hseconds, hlimit⟩ | ⟨x, hseconds, hsign, hlimit⟩
  · refine .inr (.inl ⟨hlimit, ?_⟩)
    rw [Api.ofSettings, hseconds]
    rfl
  · have hbuild : Api.ofSettings s time = Api.build s (.float x) time := by
      rw [Api.ofSettings, hseconds]
      rfl
    rw [hbuild, Api.build, Delay.ofValue, hsign]
    by_cases hd : s.delayMillis < 0
    · refine .inr (.inr ⟨hd, x.text, ?_⟩)
      simp only [hd, decide_true, if_true]
      rfl
    · refine .inl ⟨not_lt.1 hd, by omega, ?_⟩
      simp only [hd, decide_false]
      exact ⟨_, rfl⟩

/-- A delay is reported when it is negative. The application is refused also when the delay is at
its limit or past it, so that the report and the refusal agree below the limit and nowhere else, and
settings without problems make an application there and nowhere else. The problems are
told unless a number among them is too long for a text. -/
theorem delay_checks_agree_iff (s : Settings) (time : Value) :
    ((∃ n, .negativeDelay n ∈ s.problems) ↔ s.delayMillis < 0) ∧
    ((∃ f, Api.ofSettings s time = .error f) ↔ s.delayMillis < 0 ∨ delayLimit ≤ s.delayMillis) ∧
    (delayLimit ≤ s.delayMillis → Api.ofSettings s time = .error .quotientTooLarge) ∧
    (((∃ n, .negativeDelay n ∈ s.problems) ↔ ∃ f, Api.ofSettings s time = .error f) ↔
      s.delayMillis < delayLimit) ∧
    (s.problems = [] → ((∃ a, Api.ofSettings s time = .ok a) ↔ s.delayMillis < delayLimit)) ∧
    ∀ most, (∃ messages, s.validate most = .ok messages) ↔
      (s.port < 0 ∨ 65535 < s.port → isShort most s.port) ∧
        (s.delayMillis < 0 → isShort most s.delayMillis) := by
  have hpos := delayLimit_pos
  have hreported : (∃ n, .negativeDelay n ∈ s.problems) ↔ s.delayMillis < 0 := by
    simp [negativeDelay_mem_problems]
  have hrefused : (∃ f, Api.ofSettings s time = .error f) ↔
      s.delayMillis < 0 ∨ delayLimit ≤ s.delayMillis := by
    rcases ofSettings_cases s time with ⟨hd, hl, a, ha⟩ | ⟨hl, ha⟩ | ⟨hd, text, ha⟩
    · simp only [ha, reduceCtorEq, exists_false, false_iff]
      omega
    · simp only [ha, Except.error.injEq, exists_eq', true_iff]
      omega
    · simp [ha, hd]
  have hmade : (∃ a, Api.ofSettings s time = .ok a) ↔ ¬ ∃ f, Api.ofSettings s time = .error f := by
    cases Api.ofSettings s time <;> simp
  refine ⟨hreported, hrefused, fun hl => ?_, ?_, fun hnone => ?_, fun most => ?_⟩
  · rcases ofSettings_cases s time with ⟨_, hlt, _⟩ | ⟨_, ha⟩ | ⟨hd, _⟩
    · omega
    · exact ha
    · omega
  · rw [hreported, hrefused]
    omega
  · have hd : ¬ s.delayMillis < 0 := by simp [← hreported, hnone]
    rw [hmade, hrefused]
    omega
  · rw [validate_eq]
    split
    next hshort => exact iff_of_true ⟨_, rfl⟩ hshort
    next hlong => exact iff_of_false (by simp) hlong

/-- A delay past its limit: nothing is reported, and the application cannot be built. -/
theorem overlong_delay_unreported :
    let s : Settings := { delayMillis := 10 ^ 156 * 10 ^ 156 }
    s.problems = [] ∧ Api.ofSettings s (.int 0) = .error .quotientTooLarge := by
  have hnone : Double.quotient? (10 ^ 156 * 10 ^ 156) 1000 = none := by decide +kernel
  refine ⟨by decide, ?_⟩
  simp only [Api.ofSettings, delaySeconds, hnone]
  rfl

end Linkcut.Settings

import Linkcut.Controller.Command
import Mathlib.Data.List.Forall2

/-!
Stages of a run, and runs from which some of them are left out. What is left out may depend on the
state in which a command finds the controller.
-/

set_option autoImplicit false

namespace Linkcut.Controller

/-- A command, with the controller that is about to obey it. -/
structure Stage where
  before : Controller
  command : Command

namespace Stage

def answer (s : Stage) : Answer := (s.before.step s.command).1

def after (s : Stage) : Controller := (s.before.step s.command).2

end Stage

def stages (c : Controller) : List Command → List Stage
  | [] => []
  | k :: ks => ⟨c, k⟩ :: (c.step k).2.stages ks

/-- The commands of the stages to keep. -/
def retained (keep : Stage → Bool) (c : Controller) (ks : List Command) : List Command :=
  ((c.stages ks).filter keep).map Stage.command

variable {keep : Stage → Bool} {c c' : Controller} {k : Command} {ks : List Command}

theorem retained_cons_of_pos (h : keep ⟨c, k⟩) :
    c.retained keep (k :: ks) = k :: (c.step k).2.retained keep ks := by
  rw [retained, stages, List.filter_cons_of_pos h]
  rfl

theorem retained_cons_of_neg (h : ¬ keep ⟨c, k⟩) :
    c.retained keep (k :: ks) = (c.step k).2.retained keep ks := by
  rw [retained, stages, List.filter_cons_of_neg h]
  rfl

/-- Where the command alone decides, the commands to keep are told beforehand. -/
theorem retained_of_command (p : Command → Bool) (c : Controller) (ks : List Command) :
    c.retained (fun s => p s.command) ks = ks.filter p := by
  induction ks generalizing c with
  | nil => rfl
  | cons k ks ih =>
    by_cases h : p k
    · rw [retained_cons_of_pos h, List.filter_cons_of_pos h, ih]
    · rw [retained_cons_of_neg h, List.filter_cons_of_neg h, ih]

/-- A relation between two controllers that no stage breaks which is left out, and no stage that is
kept, shows at every stage that is kept. -/
theorem forall₂_retained {R : Controller → Controller → Prop} {shows : Stage → Stage → Prop}
    (left_out : ∀ c c' k, R c c' → ¬ keep ⟨c, k⟩ → R (c.step k).2 c')
    (kept : ∀ c c' k, R c c' → keep ⟨c, k⟩ →
      R (c.step k).2 (c'.step k).2 ∧ shows ⟨c, k⟩ ⟨c', k⟩)
    (h : R c c') (ks : List Command) :
    List.Forall₂ shows ((c.stages ks).filter keep) (c'.stages (c.retained keep ks)) := by
  induction ks generalizing c c' with
  | nil => exact .nil
  | cons k ks ih =>
    by_cases hk : keep ⟨c, k⟩
    · obtain ⟨hafter, hshows⟩ := kept c c' k h hk
      rw [retained_cons_of_pos hk, stages, stages, List.filter_cons_of_pos hk]
      exact .cons hshows (ih hafter)
    · rw [retained_cons_of_neg hk, stages, List.filter_cons_of_neg hk]
      exact ih (left_out c c' k h hk)

end Linkcut.Controller

import Linkcut.Proofs.Site.Course

/-!
Requests step by step, where a drain aborts the handles that it took out in any order. `Site.perform`
aborts them in the order in which they were recorded, and takes one of these ways
(`Site.trail_perform`). All of them come to an answer (`Course.inevitably_answered`).
-/

set_option autoImplicit false

namespace Linkcut.Course

open Site

/-- One step; a drain may take its handles in any order. -/
inductive Turn (self : Target) : Course → Course → Prop where
  | step {x y : Course} (h : Step self x y) : Turn self x y
  | drain (s : Site) (t : Target) (fs : List Frame) (hs : List Handle)
      (perm : hs.Perm (s.registry t.registryIndex).members) :
    Turn self ⟨s, .asked ⟨t, .drain⟩, fs⟩
      ⟨(s.take t.registryIndex).2, .running, .drain t hs.length hs :: fs⟩

/-- The moments before `y` on a way from `x` to `y`, in order. -/
inductive Trail (self : Target) (x : Course) : List Course → Course → Prop where
  | start : Trail self x [] x
  | turn {xs : List Course} {y z : Course} (before : Trail self x xs y) (next : Turn self y z) :
    Trail self x (xs ++ [y]) z

/-- Whichever way is taken, it comes to a moment of this kind. -/
inductive Inevitably (self : Target) (goal : Course → Prop) : Course → Prop where
  | now {x : Course} (here : goal x) : Inevitably self goal x
  | later {x : Course} (goes : ∃ y, Turn self x y)
      (all : ∀ y, Turn self x y → Inevitably self goal y) : Inevitably self goal x

section

variable {self : Target} {goal : Course → Prop} {x y z : Course}

theorem Trail.of_steps (h : Steps self x y) : ∃ xs, Trail self x xs y := by
  induction h with
  | refl => exact ⟨[], .start⟩
  | tail _ hstep ih =>
    obtain ⟨xs, hxs⟩ := ih
    exact ⟨_, hxs.turn (.step hstep)⟩

/-- What holds at the start, and is kept by every turn, holds at every moment. -/
theorem Trail.invariant {xs : List Course} (inv : List Course → Course → Prop) (start : inv [] x)
    (keep : ∀ xs y z, Turn self y z → inv xs y → inv (xs ++ [y]) z) (h : Trail self x xs y) :
    inv xs y := by
  induction h with
  | start => exact start
  | turn _ next ih => exact keep _ _ _ next ih

/-- Only a drain leaves a choice. -/
theorem Turn.unique (hx : ∀ t, x.focus ≠ .asked ⟨t, .drain⟩) (h : Step self x y)
    (h' : Turn self x z) : z = y := by
  cases h' with
  | step h' => exact h'.unique h
  | drain s t => exact absurd rfl (hx t)

namespace Inevitably

theorem step (hx : ∀ t, x.focus ≠ .asked ⟨t, .drain⟩) (h : Step self x y)
    (hy : Inevitably self goal y) : Inevitably self goal x :=
  .later ⟨y, .step h⟩ fun _ h' => Turn.unique hx h h' ▸ hy

/-- The moment that is come to is at the end of a way. -/
theorem along {goal' : Course → Prop} {xs : List Course} (h : Inevitably self goal y)
    (before : Trail self x xs y) (hg : ∀ zs z, Trail self x zs z → goal z → goal' z) :
    Inevitably self goal' y := by
  induction h generalizing xs with
  | now here => exact .now (hg _ _ before here)
  | later goes _ ih => exact .later goes fun z hz => ih z hz (before.turn hz)

end Inevitably

/-- An abort call with `d` levels left returns, whatever it does, so that a moment that is
inevitable once it has returned is inevitable when it is made. -/
def Returns (self : Target) (goal : Course → Prop) (d : Nat) : Prop :=
  ∀ (h : Handle) (s : Site) (fs : List Frame), Frame.depth fs + d = nestingLimit →
    (∀ u f, Inevitably self goal ⟨u, .ended h f, fs⟩) → Inevitably self goal ⟨s, .called h, fs⟩

variable {d : Nat} {fs : List Frame}

theorem inevitably_drain (ret : Returns self goal d) (hd : Frame.depth fs + d = nestingLimit)
    (hend : ∀ u a, Inevitably self goal ⟨u, .answered a, fs⟩) (t : Target) (n : Nat)
    (hs : List Handle) (s : Site) :
    Inevitably self goal ⟨s, .running, .drain t n hs :: fs⟩ := by
  induction hs generalizing s with
  | nil => exact .step (by simp) (.settle s t n fs) (hend _ _)
  | cons h hs ih =>
    refine .step (by simp) (.pick s t n h hs fs) (ret h _ _ hd fun u f => ?_)
    cases f with
    | none => exact .step (by simp) (.goOn u t n h hs fs) (ih u)
    | some f =>
      by_cases ho : f.isOrdinary
      · exact .step (by simp) (.passOver u t n h hs fs f ho) (ih _)
      · exact .step (by simp) (.giveUp u t n h hs fs f ho) (hend _ _)

/-- A request comes to its answer if the calls that it makes return. -/
theorem inevitably_of_asked (ret : Returns self goal d) (hd : Frame.depth fs + d = nestingLimit)
    (direct : Frame.isDrain fs = false)
    (hend : ∀ u a, Inevitably self goal ⟨u, .answered a, fs⟩) (e : Errand) (s : Site) :
    Inevitably self goal ⟨s, .asked e, fs⟩ := by
  obtain ⟨t, q⟩ := e
  by_cases hl : q.isLook
  · have hq : q ≠ .drain := fun e => by simp [e, Request.isLook] at hl
    exact .step (by simp [hq]) (.look s ⟨t, q⟩ fs hl) (hend _ _)
  cases q with
  | record h => exact .step (by simp) (.record s t h fs) (hend _ _)
  | forget h => exact .step (by simp) (.forget s t h fs) (hend _ _)
  | close h => exact .step (by simp) (.close s t h fs) (hend _ _)
  | «break» h f => exact .step (by simp) (.break s t h f fs) (hend _ _)
  | abort h =>
    refine .step (by simp) (.abort s t h fs) (ret h _ fs hd fun u f => ?_)
    exact .step (by simp) (.reply u h f fs direct) (hend _ _)
  | drain =>
    refine .later ⟨_, .step (.drain s t fs)⟩ fun y hy => ?_
    cases hy with
    | step h =>
      cases h with
      | drain => exact inevitably_drain ret hd hend t _ _ _
      | look _ _ _ look => cases look
    | drain => exact inevitably_drain ret hd hend t _ _ _
  | _ => simp [Request.isLook] at hl

theorem inevitably_abort (ret : Returns self goal d)
    (hd : Frame.depth fs + (d + 1) = nestingLimit) {h : Handle}
    (hend : ∀ u f, Inevitably self goal ⟨u, .ended h f, fs⟩) (es : List Errand)
    (f : Option Fault) (s : Site) :
    Inevitably self goal ⟨s, .running, .abort h es f :: fs⟩ := by
  induction es generalizing s with
  | nil => exact .step (by simp) (.leave s h f fs) (hend _ _)
  | cons e es ih =>
    have hdeep : Frame.depth (.abort h (e :: es) f :: fs) + d = nestingLimit := by
      simp only [Frame.depth]
      omega
    refine .step (by simp) (.ask s h e es f fs)
      (inevitably_of_asked ret hdeep rfl (fun u a => ?_) e s)
    cases a with
    | ok r => exact .step (by simp) (.hear u h e es f fs r) (ih _)
    | error g =>
      exact .step (by simp) (.cutShort u h (e :: es) f fs g)
        (.step (by simp) (.leave u h _ fs) (hend _ _))

theorem returns (self : Target) (goal : Course → Prop) (d : Nat) : Returns self goal d := by
  -- on the levels that are left; each level makes its requests one level deeper
  induction d with
  | zero => exact fun h s fs hd hend => .step (by simp) (.tooDeep s h fs (by omega)) (hend _ _)
  | succ d ih =>
    intro h s fs hd hend
    exact .step (by simp) (.enter s h fs (by omega)) (inevitably_abort ih hd hend _ _ _)

end

/-- Every request comes to an answer. -/
theorem inevitably_answered (self : Target) (e : Errand) (s : Site) :
    Inevitably self (fun y => ∃ u a, y = ⟨u, .answered a, []⟩) ⟨s, .asked e, []⟩ :=
  inevitably_of_asked (returns self _ nestingLimit) (Nat.zero_add _) rfl
    (fun u a => .now ⟨u, a, rfl⟩) e s

end Linkcut.Course

namespace Linkcut.Site

/-- The answer to a request is at the end of one of the ways. -/
theorem trail_perform (s : Site) (self t : Target) (q : Request) :
    ∃ xs, Course.Trail self ⟨s, .asked ⟨t, q⟩, []⟩ xs
      ⟨(s.perform self t q).2, .answered (s.perform self t q).1, []⟩ :=
  Course.Trail.of_steps (s.passes_perform ⟨self, ⟨t, q⟩⟩)

end Linkcut.Site

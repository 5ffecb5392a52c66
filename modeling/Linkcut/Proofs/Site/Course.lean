import Linkcut.Site.Perform
import Mathlib.Data.List.Induction
import Mathlib.Logic.Relation

/-!
Requests step by step. `Site.perform` answers a request at once. Here the same answer is a run of
small steps over the calls that have not returned yet, so that one can say what holds while drains
and abort calls are still under way. The main statements are that the steps lead to what
`Site.perform` gives (`Site.passes_perform`), and that they lead nowhere else
(`Site.Passes.answered`).
-/

set_option autoImplicit false

namespace Linkcut

/-- A call that has not returned. -/
inductive Frame where
  /-- A drain: where it was asked for, how many handles it took out, and those still to be aborted. -/
  | drain (target : Target) (taken : Nat) (left : List Handle)
  /-- An abort call: the errands that it has not ended yet, and the fault at its end. -/
  | abort (h : Handle) (left : List Errand) (fault : Option Fault)

/-- What the innermost call is about to do, or what was just handed to it. -/
inductive Focus where
  | running
  | asked (e : Errand)
  | answered (a : Except Fault Reply)
  | called (h : Handle)
  /-- An abort call has returned, perhaps with a fault. -/
  | ended (h : Handle) (fault : Option Fault)

/-- A moment of a request that is being answered. -/
structure Course where
  site : Site
  focus : Focus
  /-- The innermost call first. -/
  frames : List Frame

def Frame.depth : List Frame → Nat
  | [] => 0
  | .drain .. :: fs => depth fs
  | .abort .. :: fs => depth fs + 1

/-- Whether a drain waits for the abort call that it has made. -/
def Frame.isDrain : List Frame → Bool
  | .drain .. :: _ => true
  | _ => false

def Request.isLook : Request → Bool
  | .report | .size | .live | .contains _ | .containsValue _ | .snapshot | .snapshotClear => true
  | _ => false

/-- The answer to a request that changes nothing. -/
def Site.look (s : Site) (e : Errand) : Except Fault Reply :=
  (s.answer (fun _ s => (none, s)) e.target e.request).1

/-- A drain has come to its end; a manager counts what it destroyed. -/
def Site.settle (s : Site) (target : Target) (n : Nat) : Site :=
  match target with
  | .registry _ => s
  | .manager m => s.count m.counters .destroyed n

def Reply.ofEnd : Option Fault → Except Fault Reply
  | none => .ok .done
  | some f => .error f

/-- One step; errands of abort calls without a place of their own go to `self`. -/
inductive Course.Step (self : Target) : Course → Course → Prop where
  | record (s : Site) (t : Target) (h : Handle) (fs : List Frame) :
    Step self ⟨s, .asked ⟨t, .record h⟩, fs⟩
      ⟨(s.record t h).2, .answered (.ok (.flag (s.record t h).1)), fs⟩
  | forget (s : Site) (t : Target) (h : Handle) (fs : List Frame) :
    Step self ⟨s, .asked ⟨t, .forget h⟩, fs⟩
      ⟨(s.forget t h).2, .answered (.ok (.flag (s.forget t h).1)), fs⟩
  | close (s : Site) (t : Target) (h : Handle) (fs : List Frame) :
    Step self ⟨s, .asked ⟨t, .close h⟩, fs⟩
      ⟨s.setTransport h { s.transport h with closing := true }, .answered (.ok .done), fs⟩
  | break (s : Site) (t : Target) (h : Handle) (f : Option Fault) (fs : List Frame) :
    Step self ⟨s, .asked ⟨t, .break h f⟩, fs⟩
      ⟨s.setTransport h { s.transport h with closingFault := f }, .answered (.ok .done), fs⟩
  | look (s : Site) (e : Errand) (fs : List Frame) (look : e.request.isLook) :
    Step self ⟨s, .asked e, fs⟩ ⟨s, .answered (s.look e), fs⟩
  /-- A drain takes every handle out before it aborts the first one. -/
  | drain (s : Site) (t : Target) (fs : List Frame) :
    Step self ⟨s, .asked ⟨t, .drain⟩, fs⟩
      ⟨(s.take t.registryIndex).2, .running,
        .drain t (s.take t.registryIndex).1.length (s.take t.registryIndex).1 :: fs⟩
  | abort (s : Site) (t : Target) (h : Handle) (fs : List Frame) :
    Step self ⟨s, .asked ⟨t, .abort h⟩, fs⟩ ⟨s.note (.aborted none h), .called h, fs⟩
  /-- A drain goes on to the next of its handles. -/
  | pick (s : Site) (t : Target) (n : Nat) (h : Handle) (hs : List Handle) (fs : List Frame) :
    Step self ⟨s, .running, .drain t n (h :: hs) :: fs⟩
      ⟨s.note (.aborted (some t.registryIndex) h), .called h, .drain t n hs :: fs⟩
  | settle (s : Site) (t : Target) (n : Nat) (fs : List Frame) :
    Step self ⟨s, .running, .drain t n [] :: fs⟩
      ⟨s.settle t n, .answered (.ok (.count n)), fs⟩
  | enter (s : Site) (h : Handle) (fs : List Frame) (room : Frame.depth fs < Site.nestingLimit) :
    Step self ⟨s, .called h, fs⟩
      ⟨s.beginAbort h, .running,
        .abort h ((s.reaction h).errands self) (s.reaction h).fault :: fs⟩
  | tooDeep (s : Site) (h : Handle) (fs : List Frame)
      (full : Site.nestingLimit ≤ Frame.depth fs) :
    Step self ⟨s, .called h, fs⟩ ⟨s, .ended h (some .tooDeep), fs⟩
  /-- An abort call makes the next of its requests. -/
  | ask (s : Site) (h : Handle) (e : Errand) (es : List Errand) (f : Option Fault)
      (fs : List Frame) :
    Step self ⟨s, .running, .abort h (e :: es) f :: fs⟩
      ⟨s, .asked e, .abort h (e :: es) f :: fs⟩
  | leave (s : Site) (h : Handle) (f : Option Fault) (fs : List Frame) :
    Step self ⟨s, .running, .abort h [] f :: fs⟩ ⟨s, .ended h f, fs⟩
  | hear (s : Site) (h : Handle) (e : Errand) (es : List Errand) (f : Option Fault)
      (fs : List Frame) (r : Reply) :
    Step self ⟨s, .answered (.ok r), .abort h (e :: es) f :: fs⟩
      ⟨s.note (.noted e.request r), .running, .abort h es f :: fs⟩
  /-- A request that fails ends the abort call that made it. -/
  | cutShort (s : Site) (h : Handle) (es : List Errand) (f : Option Fault) (fs : List Frame)
      (g : Fault) :
    Step self ⟨s, .answered (.error g), .abort h es f :: fs⟩
      ⟨s, .running, .abort h [] (some g) :: fs⟩
  | goOn (s : Site) (t : Target) (n : Nat) (h : Handle) (hs : List Handle) (fs : List Frame) :
    Step self ⟨s, .ended h none, .drain t n hs :: fs⟩ ⟨s, .running, .drain t n hs :: fs⟩
  | passOver (s : Site) (t : Target) (n : Nat) (h : Handle) (hs : List Handle) (fs : List Frame)
      (f : Fault) (ordinary : f.isOrdinary) :
    Step self ⟨s, .ended h (some f), .drain t n hs :: fs⟩
      ⟨(s.note (.failed h f)).log (Site.ignoredEntry f), .running, .drain t n hs :: fs⟩
  /-- A fatal fault ends the drain and leaves its other handles alone. -/
  | giveUp (s : Site) (t : Target) (n : Nat) (h : Handle) (hs : List Handle) (fs : List Frame)
      (f : Fault) (fatal : ¬ f.isOrdinary) :
    Step self ⟨s, .ended h (some f), .drain t n hs :: fs⟩
      ⟨s.note (.failed h f), .answered (.error f), fs⟩
  | reply (s : Site) (h : Handle) (f : Option Fault) (fs : List Frame)
      (direct : Frame.isDrain fs = false) :
    Step self ⟨s, .ended h f, fs⟩ ⟨s, .answered (Reply.ofEnd f), fs⟩

def Course.Steps (self : Target) : Course → Course → Prop := Relation.ReflTransGen (Step self)

namespace Course

open Site

variable {self : Target}

theorem Steps.single {x y : Course} (h : Step self x y) : Steps self x y :=
  Relation.ReflTransGen.single h

theorem Steps.head {x y z : Course} (h : Step self x y) (hs : Steps self y z) :
    Steps self x z := Relation.ReflTransGen.head h hs

theorem Steps.tail {x y z : Course} (hs : Steps self x y) (h : Step self y z) :
    Steps self x z := Relation.ReflTransGen.tail hs h

theorem Steps.trans {x y z : Course} (hs : Steps self x y) (ht : Steps self y z) :
    Steps self x z := Relation.ReflTransGen.trans hs ht

/-- The steps of an abort call with `d` levels left lead to what `Site.abort` gives. -/
def Reproduces (self : Target) (d : Nat) : Prop :=
  ∀ (h : Handle) (s : Site) (fs : List Frame), Frame.depth fs + d = nestingLimit →
    Steps self ⟨s, .called h, fs⟩ ⟨(abort self d h s).2, .ended h (abort self d h s).1, fs⟩

/-- What a drain comes to, given how its abort calls came out. -/
def afterDrain (t : Target) (n : Nat) (fs : List Frame) : Option Fault × Site → Course
  | (none, s) => ⟨s.settle t n, .answered (.ok (.count n)), fs⟩
  | (some f, s) => ⟨s, .answered (.error f), fs⟩

theorem steps_abortAll {d : Nat} (rep : Reproduces self d) (t : Target) (n : Nat)
    (hs : List Handle) (s : Site) (fs : List Frame) (hd : Frame.depth fs + d = nestingLimit) :
    Steps self ⟨s, .running, .drain t n hs :: fs⟩
      (afterDrain t n fs (abortAll (abort self d) t.registryIndex hs s)) := by
  induction hs generalizing s with
  | nil => exact .single (.settle s t n fs)
  | cons h hs ih =>
    have hcall := rep h (s.note (.aborted (some t.registryIndex) h)) (.drain t n hs :: fs) hd
    refine .head (.pick s t n h hs fs) (hcall.trans ?_)
    rw [abortAll]
    split
    · rename_i s' heq
      rw [heq]
      exact .head (.goOn s' t n h hs fs) (ih s')
    · rename_i f s' heq
      rw [heq]
      by_cases ho : f.isOrdinary
      · simp only [ho, if_true]
        exact .head (.passOver s' t n h hs fs f ho) (ih _)
      · simp only [ho]
        exact .single (.giveUp s' t n h hs fs f ho)

theorem afterDrain_sweep {d : Nat} (t : Target) (s : Site) (fs : List Frame) :
    afterDrain t (s.take t.registryIndex).1.length fs
        (abortAll (abort self d) t.registryIndex (s.take t.registryIndex).1
          (s.take t.registryIndex).2) =
      ⟨(answer (abort self d) t s .drain).2, .answered (answer (abort self d) t s .drain).1, fs⟩ := by
  simp only [answer, sweep, Site.drain]
  rcases abortAll (abort self d) t.registryIndex (s.take t.registryIndex).1
    (s.take t.registryIndex).2 with ⟨f, s'⟩
  cases t <;> cases f <;> rfl

theorem look_eq (call : Abort) (e : Errand) (s : Site) (h : e.request.isLook) :
    answer call e.target s e.request = (s.look e, s) := by
  obtain ⟨t, q⟩ := e
  cases q <;> simp only [Request.isLook, Bool.false_eq_true] at h <;> cases t <;> rfl

theorem steps_answer {d : Nat} (rep : Reproduces self d) (e : Errand) (s : Site)
    (fs : List Frame) (hd : Frame.depth fs + d = nestingLimit)
    (direct : Frame.isDrain fs = false) :
    Steps self ⟨s, .asked e, fs⟩
      ⟨(answer (abort self d) e.target s e.request).2,
        .answered (answer (abort self d) e.target s e.request).1, fs⟩ := by
  by_cases hl : e.request.isLook
  · rw [look_eq _ e s hl]
    exact .single (.look s e fs hl)
  obtain ⟨t, q⟩ := e
  cases q with
  | record h => exact .single (.record s t h fs)
  | forget h => exact .single (.forget s t h fs)
  | close h => exact .single (.close s t h fs)
  | «break» h f => exact .single (.break s t h f fs)
  | drain =>
    rw [← afterDrain_sweep]
    exact .head (.drain s t fs) (steps_abortAll rep t _ _ _ fs hd)
  | abort h =>
    have hcall := rep h (s.note (.aborted none h)) fs hd
    have hend : Step self _ _ := .reply (abort self d h (s.note (.aborted none h))).2 h
      (abort self d h (s.note (.aborted none h))).1 fs direct
    have hval : answer (abort self d) t s (.abort h) =
        (Reply.ofEnd (abort self d h (s.note (.aborted none h))).1,
          (abort self d h (s.note (.aborted none h))).2) := by
      rw [answer]
      rcases abort self d h (s.note (.aborted none h)) with ⟨f, s'⟩
      cases f <;> rfl
    simp only [hval]
    exact .head (.abort s t h fs) (hcall.tail hend)
  | _ => simp [Request.isLook] at hl

theorem steps_follow {d : Nat} (rep : Reproduces self d) (h : Handle) (es : List Errand)
    (f : Option Fault) (s : Site) (fs : List Frame)
    (hd : Frame.depth fs + (d + 1) = nestingLimit) :
    Steps self ⟨s, .running, .abort h es f :: fs⟩
      (match follow (fun s e => answer (abort self d) e.target s e.request) es s with
        | (none, s') => ⟨s', .ended h f, fs⟩
        | (some g, s') => ⟨s', .ended h (some g), fs⟩) := by
  induction es generalizing s with
  | nil => exact .single (.leave s h f fs)
  | cons e es ih =>
    have hans := steps_answer rep e s (.abort h (e :: es) f :: fs)
      (by simp only [Frame.depth]; omega) rfl
    refine .head (.ask s h e es f fs) (hans.trans ?_)
    rw [follow]
    rcases answer (abort self d) e.target s e.request with ⟨a, s'⟩
    cases a with
    | ok r => exact .head (.hear s' h e es f fs r) (ih _)
    | error g => exact .head (.cutShort s' h (e :: es) f fs g) (.single (.leave s' h _ fs))

theorem reproduces (self : Target) (d : Nat) : Reproduces self d := by
  -- on the levels that are left; each level makes its requests one level deeper
  induction d with
  | zero =>
    intro h s fs hd
    exact .single (.tooDeep s h fs (by omega))
  | succ d ih =>
    intro h s fs hd
    have hrun := steps_follow ih h ((s.reaction h).errands self) (s.reaction h).fault
      (s.beginAbort h) fs hd
    refine .head (.enter s h fs (by omega)) ?_
    rw [abort]
    rcases hf : follow (fun s e => answer (abort self d) e.target s e.request)
      ((s.reaction h).errands self) (s.beginAbort h) with ⟨g, s'⟩
    rw [hf] at hrun
    cases g <;> exact hrun

/-- At most one step is possible. -/
theorem Step.unique {x y z : Course} (h : Step self x y) (h' : Step self x z) : y = z := by
  cases h with
  | look s e fs look =>
    cases h' with
    | look => rfl
    | _ => cases look
  | record | forget | close | «break» | drain | abort =>
    cases h' with
    | look _ _ _ look => cases look
    | _ => rfl
  | enter s h fs room =>
    cases h' with
    | enter => rfl
    | tooDeep _ _ _ full => exact absurd room (Nat.not_lt.2 full)
  | tooDeep s h fs full =>
    cases h' with
    | enter _ _ _ room => exact absurd room (Nat.not_lt.2 full)
    | tooDeep => rfl
  | goOn =>
    cases h' with
    | goOn => rfl
    | reply _ _ _ _ direct => cases direct
  | passOver s t n h hs fs f ordinary =>
    cases h' with
    | passOver => rfl
    | giveUp _ _ _ _ _ _ _ fatal => exact absurd ordinary fatal
    | reply _ _ _ _ direct => cases direct
  | giveUp s t n h hs fs f fatal =>
    cases h' with
    | passOver _ _ _ _ _ _ _ ordinary => exact absurd ordinary fatal
    | giveUp => rfl
    | reply _ _ _ _ direct => cases direct
  | reply s h f fs direct =>
    cases h' with
    | reply => rfl
    | _ => cases direct
  | _ => cases h'; rfl

end Course

/-- A request from outside; errands of abort calls without a place of their own go to `self`. -/
structure Order where
  self : Target
  errand : Errand
  deriving Repr, Inhabited

namespace Site

def obey (s : Site) (o : Order) : Site := (s.perform o.self o.errand.target o.errand.request).2

def obeyAll (s : Site) (os : List Order) : Site := os.foldl obey s

theorem obeyAll_concat (s : Site) (os : List Order) (o : Order) :
    s.obeyAll (os ++ [o]) = (s.obeyAll os).obey o := by simp [obeyAll]

/-- The moments of carrying out an order. -/
def Passes (s : Site) (o : Order) : Course → Prop := Course.Steps o.self ⟨s, .asked o.errand, []⟩

theorem passes_perform (s : Site) (o : Order) :
    s.Passes o
      ⟨s.obey o, .answered (s.perform o.self o.errand.target o.errand.request).1, []⟩ :=
  Course.steps_answer (Course.reproduces o.self nestingLimit) o.errand s [] (by simp [Frame.depth])
    rfl

/-- Every moment of an order is on the way to its answer. -/
theorem Passes.answered {s : Site} {o : Order} {x : Course} (hx : s.Passes o x) :
    Course.Steps o.self x
      ⟨s.obey o, .answered (s.perform o.self o.errand.target o.errand.request).1, []⟩ := by
  have huniq : Relator.RightUnique (Course.Step o.self) := fun _ _ _ h h' => h.unique h'
  rcases hx.total_of_right_unique huniq (passes_perform s o) with hon | hback
  · exact hon
  · rcases hback.cases_head with heq | ⟨y, hy, _⟩
    · exact heq ▸ .refl
    · generalize (s.perform o.self o.errand.target o.errand.request).1 = a at hy
      cases hy

/-- The moments of a run of orders: before each of them, after the last, and while one is carried
out. -/
inductive Moment (start : Site) (allowed : Order → Prop) : Course → Prop where
  | rest (os : List Order) (hos : ∀ o ∈ os, allowed o) :
    Moment start allowed ⟨start.obeyAll os, .running, []⟩
  | during (os : List Order) (hos : ∀ o ∈ os, allowed o) (o : Order) (ho : allowed o) (x : Course)
      (hx : (start.obeyAll os).Passes o x) : Moment start allowed x

/-- What holds at the start, and is kept by every step, holds at every moment. -/
theorem Moment.invariant {start : Site} {allowed : Order → Prop} (inv : Course → Prop)
    (initially : inv ⟨start, .running, []⟩)
    (ask : ∀ s o, allowed o → inv ⟨s, .running, []⟩ → inv ⟨s, .asked o.errand, []⟩)
    (rest : ∀ s a, inv ⟨s, .answered a, []⟩ → inv ⟨s, .running, []⟩)
    (step : ∀ o x y, allowed o → Course.Step o.self x y → inv x → inv y)
    {x : Course} (hx : Moment start allowed x) : inv x := by
  have hpass : ∀ s o y, allowed o → inv ⟨s, .running, []⟩ → s.Passes o y → inv y := by
    intro s o y ho hs hy
    induction hy with
    | refl => exact ask s o ho hs
    | tail _ hstep ih => exact step o _ _ ho hstep ih
  have hrest : ∀ os : List Order, (∀ o ∈ os, allowed o) → inv ⟨start.obeyAll os, .running, []⟩ := by
    intro os
    induction os using List.reverseRecOn with
    | nil => exact fun _ => initially
    | append_singleton os o ih =>
      intro hos
      rw [obeyAll_concat]
      have hbefore := ih fun p hp => hos p (by simp [hp])
      exact rest _ _ (hpass _ o _ (hos o (by simp)) hbefore (passes_perform _ o))
  cases hx with
  | rest os hos => exact hrest os hos
  | during os hos o ho _ hx => exact hpass _ o _ ho (hrest os hos) hx

end Site
end Linkcut

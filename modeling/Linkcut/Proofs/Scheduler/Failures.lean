import Linkcut.Proofs.Scheduler.Like
import Linkcut.Proofs.Scheduler.Punctual

/-!
Failing actions. An action that ends in an ordinary fault has made all its steps by then, and its
key was released before: apart from the entry in the log nobody can tell that it has failed,
whatever it armed or cancelled.
-/

set_option autoImplicit false

namespace Linkcut

mutual

/-- The second action does what the first one does, and then it may fail. So may the actions that it
arms. -/
inductive Action.Spoils : Action → Action → Prop
  | keeps (label : String) (fault : Option Fault) {ss ss' : List Step}
      (steps : Action.SpoilsAll ss ss') : Action.Spoils (.mk label ss fault) (.mk label ss' fault)
  | fails (label : String) (fault : Option Fault) (f : Fault) (ordinary : f.isOrdinary)
      {ss ss' : List Step} (steps : Action.SpoilsAll ss ss') :
      Action.Spoils (.mk label ss fault) (.mk label ss' (fault.or (some f)))

inductive Action.SpoilsStep : Step → Step → Prop
  | arm (word : String) (subject : Subject) {action action' : Action}
      (spoils : Action.Spoils action action') :
      Action.SpoilsStep (.arm word subject action) (.arm word subject action')
  | cancelAll : Action.SpoilsStep .cancelAll .cancelAll
  | probe (subject : Subject) : Action.SpoilsStep (.probe subject) (.probe subject)

inductive Action.SpoilsAll : List Step → List Step → Prop
  | nil : Action.SpoilsAll [] []
  | cons {s s' : Step} {ss ss' : List Step} (step : Action.SpoilsStep s s')
      (steps : Action.SpoilsAll ss ss') : Action.SpoilsAll (s :: ss) (s' :: ss')

end

namespace Action

mutual

theorem Spoils.refl : ∀ action : Action, action.Spoils action
  | .mk label ss fault => .keeps label fault (SpoilsAll.refl ss)

theorem SpoilsStep.refl : ∀ s : Step, SpoilsStep s s
  | .arm word subject action => .arm word subject (Spoils.refl action)
  | .cancelAll => .cancelAll
  | .probe subject => .probe subject

theorem SpoilsAll.refl : ∀ ss : List Step, SpoilsAll ss ss
  | [] => .nil
  | s :: ss => .cons (SpoilsStep.refl s) (SpoilsAll.refl ss)

end

mutual

theorem Spoils.size_eq : ∀ {action action' : Action}, action.Spoils action' →
    action'.size = action.size
  | _, _, .keeps _ _ steps => by simp only [size, steps.size_eq]
  | _, _, .fails _ _ _ _ steps => by simp only [size, steps.size_eq]

theorem SpoilsStep.size_eq : ∀ {s s' : Step}, SpoilsStep s s' → stepSize s' = stepSize s
  | _, _, .arm _ _ spoils => by simp only [stepSize, spoils.size_eq]
  | _, _, .cancelAll => rfl
  | _, _, .probe _ => rfl

theorem SpoilsAll.size_eq : ∀ {ss ss' : List Step}, SpoilsAll ss ss' → sizeAll ss' = sizeAll ss
  | _, _, .nil => rfl
  | _, _, .cons step steps => by simp only [sizeAll, step.size_eq, steps.size_eq]

end

namespace Spoils

variable {action action' : Action}

theorem label_eq (h : action.Spoils action') : action'.label = action.label := by
  cases h <;> rfl

theorem steps (h : action.Spoils action') : SpoilsAll action.steps action'.steps := by
  cases h with
  | keeps _ _ steps => exact steps
  | fails _ _ _ _ steps => exact steps

/-- An action that would end well fails with an ordinary fault at most. -/
theorem isOrdinary (h : action.Spoils action') (hwell : action.fault = none) {f : Fault}
    (hf : action'.fault = some f) : f.isOrdinary := by
  cases h with
  | keeps label fault steps =>
    obtain rfl : fault = none := hwell
    cases hf
  | fails label fault g ordinary steps =>
    obtain rfl : fault = none := hwell
    cases hf
    exact ordinary

end Spoils

end Action

structure Task.Spoils (t t' : Task) : Prop where
  shown : t'.shown = t.shown
  action : t.action.Spoils t'.action

theorem Task.Spoils.refl (t : Task) : t.Spoils t := ⟨rfl, .refl t.action⟩

namespace Agenda

/-- A timer that fired, when it did, and how its action ended. -/
structure Firing where
  task : Task
  time : Instant
  fault : Option Fault

namespace Firing

/-- What the log is told of it. -/
def logged? (e : Firing) : Option Log.Entry :=
  (e.fault.filter Fault.isOrdinary).map (Scheduler.failedEntry e.task.shown)

/-- What is left to the loop. -/
def escaped? (e : Firing) : Option Fault := e.fault.filter (!·.isOrdinary)

/-- Nothing but an ordinary fault ended it, if anything did. -/
def IsCaught (e : Firing) : Prop := ∀ f, e.fault = some f → f.isOrdinary

theorem caught_of_well {e : Firing} (h : e.fault = none) : e.IsCaught := fun f hf => by
  rw [h] at hf
  cases hf

theorem escaped?_eq_none {e : Firing} (h : e.IsCaught) : e.escaped? = none := by
  rw [escaped?, Option.filter_eq_none_iff]
  intro f hf
  simp [h f hf]

end Firing

/-- The firing of a job, as it begins. -/
def firing (a : Agenda) (job : Job Key Task) : Firing :=
  ⟨job.action, a.scheduler.now, (a.run job.action.action).1⟩

def firingsDue (limit : Instant) : Nat → Agenda → List Firing
  | 0, _ => []
  | count + 1, a =>
    match a.scheduler.popDue limit with
    | none => []
    | some (job, scheduler) =>
      { a with scheduler }.firing job :: firingsDue limit count ({ a with scheduler }.fire job).2

def firingsOf (a : Agenda) : Command → List Firing
  | .advance micros => firingsDue (a.scheduler.now + micros) a.weight a
  | _ => []

/-- The timers that fire while commands are obeyed, in their order. -/
def firings (a : Agenda) : List Command → List Firing
  | [] => []
  | k :: ks => a.firingsOf k ++ (a.obey k).2.firings ks

section Journal

variable (a : Agenda)

theorem journal_arm (s : Subject) (action : Action) :
    (a.arm s action).2.journal = a.journal := by
  obtain ⟨shown, _ | k⟩ := s
  · rfl
  · rfl

theorem journal_step (s : Step) : (a.step s).2.journal = a.journal := by
  cases s with
  | arm word subject action =>
    have harm := a.journal_arm subject action
    rw [step]
    rcases hr : a.arm subject action with ⟨_ | _, b⟩ <;> rw [hr] at harm <;> exact harm
  | cancelAll => rfl
  | probe subject =>
    rw [step]
    split <;> rfl

theorem journal_steps (ss : List Step) : (a.steps ss).2.journal = a.journal := by
  induction ss generalizing a with
  | nil => rfl
  | cons s ss ih =>
    have hstep := a.journal_step s
    rw [steps]
    rcases hs : a.step s with ⟨_ | f, b⟩ <;> rw [hs] at hstep
    · exact (ih b).trans hstep
    · exact hstep

theorem journal_run (action : Action) : (a.run action).2.journal = a.journal := by
  rw [run_eq]
  exact journal_steps _ _

/-- A job tells the log of an ordinary fault, and leaves another one to the loop. -/
theorem fire_firing (job : Job Key Task) : (a.fire job).1 = (a.firing job).escaped? ∧
    (a.fire job).2.journal = (a.firing job).logged?.toList ++ a.journal := by
  have hjournal := a.journal_run job.action.action
  simp only [fire, firing, Firing.escaped?, Firing.logged?]
  rcases hr : a.run job.action.action with ⟨_ | f, b⟩ <;> rw [hr] at hjournal
  · exact ⟨rfl, hjournal⟩
  · cases hf : f.isOrdinary with
    | true => simpa [Option.filter, hf] using hjournal
    | false => simpa [Option.filter, hf] using hjournal

theorem fireDue_firings (limit : Instant) (n : Nat) :
    (fireDue limit n a).1 = (firingsDue limit n a).filterMap Firing.escaped? ∧
      (fireDue limit n a).2.journal =
        ((firingsDue limit n a).filterMap Firing.logged?).reverse ++ a.journal := by
  induction n generalizing a with
  | zero => exact ⟨rfl, rfl⟩
  | succ n ih =>
    rw [fireDue, firingsDue]
    cases a.scheduler.popDue limit with
    | none => exact ⟨rfl, rfl⟩
    | some due =>
      obtain ⟨job, u⟩ := due
      obtain ⟨hfault, hjournal⟩ := fire_firing { a with scheduler := u } job
      obtain ⟨hfaults, hrest⟩ := ih ({ a with scheduler := u }.fire job).2
      dsimp only
      rw [hfaults, hrest, hjournal, hfault]
      cases hlogged : Firing.logged? _ <;> cases hescaped : Firing.escaped? _ <;>
        simp [hlogged, hescaped]

theorem advance_of_caught {micros : Nat} (h : ∀ e ∈ a.firingsOf (.advance micros), e.IsCaught) :
    (a.advance micros).1 = [] :=
  (a.fireDue_firings _ _).1.trans
    (List.filterMap_eq_nil_iff.2 fun e he => Firing.escaped?_eq_none (h e he))

/-- Faults that are caught leave nothing to the loop. -/
theorem escaped_obeyAll {ks : List Command} (h : ∀ e ∈ a.firings ks, e.IsCaught) {fs : List Fault}
    (hfs : .escaped fs ∈ (a.obeyAll ks).1) : fs = [] := by
  induction ks generalizing a with
  | nil => cases hfs
  | cons k ks ih =>
    rw [obeyAll_cons] at hfs
    rcases List.mem_cons.1 hfs with hhead | htail
    · cases k with
      | advance micros =>
        obtain rfl := Answer.escaped.inj hhead
        exact a.advance_of_caught fun e he => h e (List.mem_append_left _ he)
      | _ => cases hhead
    · exact ih _ (fun e he => h e (List.mem_append_right _ he)) htail

/-- The log tells of the firings that ended in ordinary faults, of each one once. -/
theorem journal_obeyAll (ks : List Command) : (a.obeyAll ks).2.journal =
    ((a.firings ks).filterMap Firing.logged?).reverse ++ a.journal := by
  induction ks generalizing a with
  | nil => rfl
  | cons k ks ih =>
    have hobey : (a.obey k).2.journal =
        ((a.firingsOf k).filterMap Firing.logged?).reverse ++ a.journal := by
      cases k with
      | arm subject action => exact a.journal_arm subject action
      | armOutside subject => rfl
      | advance micros => exact (a.fireDue_firings _ _).2
      | cancelAll => rfl
    rw [obeyAll_cons, ih, hobey, firings]
    simp

end Journal

/-- The same scheduler with some of its actions spoiled. -/
structure Spoiled (a a' : Agenda) : Prop where
  scheduler : a.scheduler.Like Task.Spoils a'.scheduler
  notes : a'.notes = a.notes

/-- The same timer fires. Its action may be spoiled, and then it ends in the fault that it was
spoiled with; without that it would end well. -/
structure Firing.Spoils (e e' : Firing) : Prop where
  time : e'.time = e.time
  task : e.task.Spoils e'.task
  well : e.task.action.fault = none
  fault : e'.fault = e'.task.action.fault
  caught : e'.IsCaught

/-- What spoiling brings about holds of every firing. -/
theorem Firing.forall_of_spoils {P : Firing → Prop} (hP : ∀ {e e' : Firing}, e.Spoils e' → P e')
    {es es' : List Firing} (h : List.Forall₂ Firing.Spoils es es') : ∀ e ∈ es', P e := by
  induction h with
  | nil => exact List.forall_mem_nil _
  | cons hhead _ ih => exact List.forall_mem_cons.2 ⟨hP hhead, ih⟩

namespace Spoiled

variable {a a' : Agenda}

theorem refl (a : Agenda) : Spoiled a a := ⟨.refl Task.Spoils.refl a.scheduler, rfl⟩

theorem note (h : Spoiled a a') (n : Note) : Spoiled (a.note n) (a'.note n) :=
  ⟨h.scheduler, congrArg (n :: ·) h.notes⟩

theorem arm (h : Spoiled a a') (s : Subject) {action action' : Action}
    (hs : action.Spoils action') : (a'.arm s action').1 = (a.arm s action).1 ∧
      Spoiled (a.arm s action).2 (a'.arm s action').2 := by
  obtain ⟨shown, _ | k⟩ := s
  · exact ⟨rfl, h⟩
  · have htask : Task.Spoils ⟨shown, action⟩ ⟨shown, action'⟩ := ⟨rfl, hs⟩
    obtain ⟨hanswer, harmed⟩ := h.scheduler.arm k htask
    exact ⟨hanswer, harmed, h.notes⟩

theorem cancelAll (h : Spoiled a a') :
    a'.cancelAll.1 = a.cancelAll.1 ∧ Spoiled a.cancelAll.2 a'.cancelAll.2 :=
  ⟨h.scheduler.count, h.scheduler.cancelAll, h.notes⟩

theorem isArmed (h : Spoiled a a') (s : Subject) : a'.isArmed s = a.isArmed s := by
  obtain ⟨shown, _ | k⟩ := s
  · rfl
  · exact congrArg Except.ok (h.scheduler.isArmed k)

theorem step (h : Spoiled a a') {s s' : Step} (hs : Action.SpoilsStep s s') :
    (a'.step s').1 = (a.step s).1 ∧ Spoiled (a.step s).2 (a'.step s').2 := by
  cases hs with
  | arm word subject spoils =>
    have harm := h.arm subject spoils
    simp only [Agenda.step]
    generalize a.arm subject _ = r at harm ⊢
    generalize a'.arm subject _ = r' at harm ⊢
    obtain ⟨x, b⟩ := r
    obtain ⟨x', b'⟩ := r'
    obtain ⟨rfl, hb⟩ := harm
    cases x' with
    | error f => exact ⟨rfl, hb⟩
    | ok started => exact ⟨rfl, hb.note _⟩
  | cancelAll =>
    obtain ⟨hcount, hafter⟩ := h.cancelAll
    simp only [Agenda.step, hcount]
    exact ⟨trivial, hafter.note _⟩
  | probe subject =>
    simp only [Agenda.step, h.isArmed subject, h.scheduler.count]
    split
    · exact ⟨rfl, h.note _⟩
    · exact ⟨rfl, h⟩

theorem steps (h : Spoiled a a') {ss ss' : List Step} (hs : Action.SpoilsAll ss ss') :
    (a'.steps ss').1 = (a.steps ss).1 ∧ Spoiled (a.steps ss).2 (a'.steps ss').2 := by
  induction ss generalizing a a' ss' with
  | nil =>
    cases hs
    exact ⟨rfl, h⟩
  | cons s ss ih =>
    obtain _ | ⟨hhead, hrest⟩ := hs
    have hstep := h.step hhead
    simp only [Agenda.steps]
    generalize a.step s = r at hstep ⊢
    generalize a'.step _ = r' at hstep ⊢
    obtain ⟨f, b⟩ := r
    obtain ⟨f', b'⟩ := r'
    obtain ⟨rfl, hb⟩ := hstep
    cases f' with
    | none => exact ih hb hrest
    | some f => exact ⟨rfl, hb⟩

/-- How an action ended shows in the log only. -/
theorem settle (h : Spoiled a a') (shown shown' : Value) (fault fault' : Option Fault) :
    Spoiled (a.settle shown fault) (a'.settle shown' fault') := by
  have hnotes : ∀ (b : Agenda) v f, (b.settle v f).notes = b.notes := by
    intro b v f
    cases f with
    | none => rfl
    | some f =>
      rw [Agenda.settle]
      split <;> rfl
  refine ⟨?_, ?_⟩
  · rw [scheduler_settle, scheduler_settle]
    exact h.scheduler
  · rw [hnotes, hnotes, h.notes]

/-- An action that ends well does the same when it is spoiled, and then ends in its own fault. -/
theorem run (h : Spoiled a a') {action action' : Action} (hs : action.Spoils action')
    (hwell : (a.run action).1 = none) : action.fault = none ∧
      (a'.run action').1 = action'.fault ∧ Spoiled (a.run action).2 (a'.run action').2 := by
  have hnow : a'.scheduler.now = a.scheduler.now := h.scheduler.now
  rw [run_eq] at hwell
  rw [run_eq, run_eq, hs.label_eq, hnow]
  obtain ⟨hsteps, hfault⟩ := Option.or_eq_none_iff.1 hwell
  obtain ⟨hsame, hafter⟩ := (h.note (.ran action.label a.scheduler.now)).steps hs.steps
  refine ⟨hfault, ?_, hafter⟩
  rw [hsame, hsteps, Option.none_or]

theorem fire (h : Spoiled a a') {job job' : Job Key Task} (hjob : job.action.Spoils job'.action)
    (hwell : (a.firing job).fault = none) : (a.firing job).Spoils (a'.firing job') ∧
      Spoiled (a.fire job).2 (a'.fire job').2 := by
  obtain ⟨hfine, hfault, hafter⟩ := h.run hjob.action hwell
  have hcaught : (a'.firing job').IsCaught := fun f hf =>
    hjob.action.isOrdinary hfine (hfault.symm.trans hf)
  refine ⟨⟨h.scheduler.now, hjob, hfine, hfault, hcaught⟩, ?_⟩
  rw [fire_snd, fire_snd]
  exact hafter.settle _ _ _ _

theorem fireDue (h : Spoiled a a') (limit : Instant) (n : Nat)
    (hwell : ∀ e ∈ firingsDue limit n a, e.fault = none) :
    List.Forall₂ Firing.Spoils (firingsDue limit n a) (firingsDue limit n a') ∧
      Spoiled (Agenda.fireDue limit n a).2 (Agenda.fireDue limit n a').2 := by
  induction n generalizing a a' with
  | zero => exact ⟨.nil, h⟩
  | succ n ih =>
    simp only [firingsDue, Agenda.fireDue] at hwell ⊢
    rcases h.scheduler.popDue limit with ⟨hnone, hnone'⟩ | ⟨t, v, time, htv, hp, hp'⟩
    · rw [hnone, hnone']
      exact ⟨.nil, h⟩
    · rw [hp] at hwell
      rw [hp, hp']
      have hpopped : Spoiled { a with scheduler := a.scheduler.letFire t time }
          { a' with scheduler := a'.scheduler.letFire v time } :=
        ⟨h.scheduler.letFire htv time, h.notes⟩
      obtain ⟨hfiring, hafter⟩ := hpopped.fire htv.action (hwell _ List.mem_cons_self)
      obtain ⟨hfirings, hend⟩ := ih hafter fun e he => hwell e (List.mem_cons_of_mem _ he)
      exact ⟨.cons hfiring hfirings, hend⟩

theorem weight (h : Spoiled a a') : a'.weight = a.weight := by
  rw [weight_eq, weight_eq]
  have htimers := h.scheduler.timers
  generalize a.scheduler.loop.timers = ts at htimers ⊢
  generalize a'.scheduler.loop.timers = us at htimers ⊢
  induction htimers with
  | nil => rfl
  | cons htv _ ih => rw [Timer.work_cons, Timer.work_cons, ih, htv.action.action.size_eq]

theorem passTo (h : Spoiled a a') (limit : Instant) :
    Spoiled { a with scheduler := a.scheduler.passTo limit }
      { a' with scheduler := a'.scheduler.passTo limit } :=
  ⟨h.scheduler.passTo limit, h.notes⟩

end Spoiled

/-- The same command, with an action that may be spoiled where it arms one. -/
inductive Command.Spoils : Command → Command → Prop
  | arm (subject : Subject) {action action' : Action} (spoils : action.Spoils action') :
    Command.Spoils (.arm subject action) (.arm subject action')
  | same (k : Command) : Command.Spoils k k

namespace Spoiled

variable {a a' : Agenda}

theorem obey (h : Spoiled a a') {k k' : Command} (hk : k.Spoils k')
    (hwell : ∀ e ∈ a.firingsOf k, e.fault = none) :
    List.Forall₂ Firing.Spoils (a.firingsOf k) (a'.firingsOf k') ∧
      (a'.obey k').1 = (a.obey k).1 ∧ Spoiled (a.obey k).2 (a'.obey k').2 := by
  have harmed : ∀ (subject : Subject) {action action' : Action}, action.Spoils action' →
      List.Forall₂ Firing.Spoils (a.firingsOf (.arm subject action))
        (a'.firingsOf (.arm subject action')) ∧
      (a'.obey (.arm subject action')).1 = (a.obey (.arm subject action)).1 ∧
      Spoiled (a.obey (.arm subject action)).2 (a'.obey (.arm subject action')).2 := by
    intro subject action action' hs
    obtain ⟨hanswer, hafter⟩ := h.arm subject hs
    exact ⟨.nil, congrArg Answer.armed hanswer, hafter⟩
  cases hk with
  | arm subject spoils => exact harmed subject spoils
  | same k =>
    cases k with
    | arm subject action => exact harmed subject (.refl action)
    | armOutside subject =>
      refine ⟨.nil, congrArg Answer.armed ?_, h⟩
      simp only [Agenda.armOutside, Scheduler.armOutside, h.scheduler.isArmed]
    | advance micros =>
      have hnow : a'.scheduler.now = a.scheduler.now := h.scheduler.now
      obtain ⟨hfirings, hafter⟩ := h.fireDue (a.scheduler.now + micros) a.weight hwell
      have hfirings' : List.Forall₂ Firing.Spoils (a.firingsOf (.advance micros))
          (a'.firingsOf (.advance micros)) := by
        simp only [firingsOf, hnow, h.weight]
        exact hfirings
      have hnone := a.advance_of_caught fun e he => Firing.caught_of_well (hwell e he)
      have hnone' := a'.advance_of_caught (Firing.forall_of_spoils Firing.Spoils.caught hfirings')
      refine ⟨hfirings', congrArg Answer.escaped (hnone'.trans hnone.symm), ?_⟩
      simp only [Agenda.obey, Agenda.advance, hnow, h.weight]
      exact hafter.passTo _
    | cancelAll =>
      obtain ⟨hcount, hafter⟩ := h.cancelAll
      exact ⟨.nil, congrArg Answer.cancelled hcount, hafter⟩

theorem obeyAll (h : Spoiled a a') {ks ks' : List Command}
    (hks : List.Forall₂ Command.Spoils ks ks') (hwell : ∀ e ∈ a.firings ks, e.fault = none) :
    List.Forall₂ Firing.Spoils (a.firings ks) (a'.firings ks') ∧
      (a'.obeyAll ks').1 = (a.obeyAll ks).1 ∧
      Spoiled (a.obeyAll ks).2 (a'.obeyAll ks').2 := by
  induction hks generalizing a a' with
  | nil => exact ⟨.nil, rfl, h⟩
  | cons hk _ ih =>
    obtain ⟨hfirings, hanswer, hafter⟩ := h.obey hk fun e he =>
      hwell e (List.mem_append_left _ he)
    obtain ⟨hrest, hanswers, hend⟩ := ih hafter fun e he => hwell e (List.mem_append_right _ he)
    simp only [firings, obeyAll_cons, hanswer, hanswers]
    exact ⟨List.rel_append hfirings hrest, trivial, hend⟩

end Spoiled

/-- The entry of an action that fails, when it ran. -/
def Firing.failure? (e : Firing) : Option Log.Entry :=
  e.task.action.fault.map (Scheduler.failedEntry e.task.shown)

theorem Firing.Spoils.logged? {e e' : Firing} (h : e.Spoils e') : e'.logged? = e'.failure? := by
  rw [Firing.logged?, Firing.failure?, ← h.fault]
  cases hf : e'.fault with
  | none => rfl
  | some f => simp [Option.filter, h.caught f hf]

/-- An action that cancels what is pending and arms another one. -/
def clearing (fault : Option Fault) : Action :=
  .mk "clearing" [.cancelAll, .arm "late" (.ofText "m") (.note "last")] fault

/-- An action that arms its own key again, and one that is pending. -/
def renewing (fault : Option Fault) : Action :=
  .mk "renewing" [.arm "again" (.ofText "k") (clearing fault),
    .arm "busy" (.ofText "j") (.note "refused"), .probe (.ofText "k")] fault

def unhurriedRun (fault : Option Fault) : List Command :=
  [.arm (.ofText "k") (renewing fault), .arm (.ofText "j") (.note "other"), .advance 1500000,
    .arm (.ofText "l") (.note "cancelled"), .advance 1500000, .cancelAll]

end Agenda
end Linkcut

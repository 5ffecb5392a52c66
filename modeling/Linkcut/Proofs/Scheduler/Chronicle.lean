import Linkcut.Proofs.Scheduler.Linked
import Linkcut.Scheduler.Command
import Mathlib.Logic.Relation

/-!
Runs of an agenda in single steps, down to those of its actions, with what has happened to its
timers so far. Arm calls and cancellations may come at any moment, from callers as from the action
that runs, so that an action is free to decide by what it sees. Which timer fires next is left to a
policy of the loop. What `Agenda.obey` does is a run of the punctual policy (`steps_obey`).
-/

set_option autoImplicit false

namespace Linkcut

namespace Action

def label : Action → String
  | .mk l _ _ => l

def steps : Action → List Step
  | .mk _ ss _ => ss

def fault : Action → Option Fault
  | .mk _ _ f => f

end Action

namespace Agenda

/-- Nothing was asked of the agenda so far. Its clock may have a past. -/
structure IsNew (a : Agenda) : Prop where
  pending : a.scheduler.pending = []
  timers : a.scheduler.loop.timers = []
  notes : a.notes = []

/-- A timer by its number, with its key and its task, at an instant. -/
structure Mark where
  id : Nat
  key : Key
  task : Task
  time : Instant

inductive Occurrence where
  /-- An arm call returned true, and started this timer. -/
  | armed (m : Mark)
  /-- The timer started to fire. -/
  | fired (m : Mark)
  /-- All timers were cancelled, and the caller was told how many. -/
  | cancelled (count : Nat)

namespace Occurrence

def armed? : Occurrence → Option Mark
  | armed m => some m
  | _ => none

def fired? : Occurrence → Option Mark
  | fired m => some m
  | _ => none

def cancelCount : Occurrence → Nat
  | cancelled n => n
  | _ => 0

end Occurrence

/-- The successful arm calls, the oldest first. -/
def armed (past : List Occurrence) : List Mark := past.filterMap Occurrence.armed?

/-- The timers that started to fire, in their order. -/
def fired (past : List Occurrence) : List Mark := past.filterMap Occurrence.fired?

/-- The sum of what cancellations have answered. -/
def cancelled (past : List Occurrence) : Nat := past.foldl (fun n o => n + o.cancelCount) 0

section

variable (past : List Occurrence) (o : Occurrence)

@[simp] theorem armed_concat : armed (past ++ [o]) = armed past ++ o.armed?.toList := by
  cases o <;> simp [armed, Occurrence.armed?]

@[simp] theorem fired_concat : fired (past ++ [o]) = fired past ++ o.fired?.toList := by
  cases o <;> simp [fired, Occurrence.fired?]

@[simp] theorem cancelled_concat : cancelled (past ++ [o]) = cancelled past + o.cancelCount := by
  simp [cancelled]

end

/-- What is left of an action that runs. -/
structure Rest where
  shown : Value
  steps : List Step
  fault : Option Fault

/-- What is left when a step came out like this: a fault ends the action. -/
def Rest.after (r : Rest) : Option Fault → Rest
  | none => r
  | some f => { r with steps := [], fault := some f }

/-- A moment of a run. -/
structure Chronicle where
  agenda : Agenda
  running : Option Rest := none
  /-- The oldest occurrence first. -/
  past : List Occurrence := []

/-- Which timers a loop may let fire next and when, and how far it may let the clock go before. -/
structure Policy where
  fires : Loop (Job Key Task) → Timer (Job Key Task) → Instant → Prop
  passes : Loop (Job Key Task) → Instant → Prop

/-- Any timer that waits may fire next, be it early or late. -/
def Policy.free : Policy where
  fires l t time := t ∈ l.timers ∧ l.now ≤ time
  passes _ _ := True

/-- Timers fire in the order of due times and then of creation, each when it is due. -/
def Policy.punctual : Policy where
  fires l t time := ∃ due, Loop.earliest l.timers = some (due, t) ∧ time = max l.now due
  passes l limit := ∀ due t, Loop.earliest l.timers = some (due, t) → limit < due

/-- The timer that an arm call starts, if it returns true. -/
def startedBy (a : Agenda) (s : Subject) (action : Action) : List Occurrence :=
  match s.key, (a.arm s action).1 with
  | .ok k, .ok true => [.armed ⟨a.scheduler.loop.next, k, ⟨s.shown, action⟩, a.scheduler.now⟩]
  | _, _ => []

def occurrences (a : Agenda) : Step → List Occurrence
  | .arm _ s action => a.startedBy s action
  | .cancelAll => [.cancelled a.cancelAll.1]
  | .probe _ => []

def begin (a : Agenda) (t : Timer (Job Key Task)) (time : Instant) : Agenda :=
  { a with scheduler := a.scheduler.letFire t time }.note (.ran t.job.action.action.label time)

/-- An action has come to its end. -/
def settle (a : Agenda) (shown : Value) : Option Fault → Agenda
  | none => a
  | some f =>
    if f.isOrdinary then { a with journal := Scheduler.failedEntry shown f :: a.journal } else a

/-- What happens while steps are made, up to the first fault. -/
def stepsPast (a : Agenda) : List Step → List Occurrence
  | [] => []
  | s :: ss =>
    a.occurrences s ++
      match a.step s with
      | (none, b) => b.stepsPast ss
      | (some _, _) => []

/-- What happens when a timer fires, up to the end of its action. -/
def firePast (a : Agenda) (t : Timer (Job Key Task)) (time : Instant) : List Occurrence :=
  .fired ⟨t.id, t.job.key, t.job.action, time⟩ ::
    (a.begin t time).stepsPast t.job.action.action.steps

/-- What happens while those timers fire that are due by `limit`, `count` of them at most. -/
def duePast (limit : Instant) : Nat → Agenda → List Occurrence
  | 0, _ => []
  | count + 1, a =>
    match Loop.earliest a.scheduler.loop.timers with
    | none => []
    | some (due, t) =>
      if due ≤ limit then
        let time := max a.scheduler.now due
        a.firePast t time ++
          duePast limit count ({ a with scheduler := a.scheduler.letFire t time }.fire t.job).2
      else []

def advancePast (a : Agenda) (micros : Nat) : List Occurrence :=
  duePast (a.scheduler.now + micros) a.weight a

/-- What happens while a command is obeyed. -/
def obeyPast (a : Agenda) : Command → List Occurrence
  | .arm s action => a.startedBy s action
  | .armOutside _ => []
  | .advance micros => a.advancePast micros
  | .cancelAll => [.cancelled a.cancelAll.1]

inductive Next (p : Policy) : Chronicle → Chronicle → Prop
  | arm (x : Chronicle) (s : Subject) (action : Action) :
    Next p x { x with
      agenda := (x.agenda.arm s action).2, past := x.past ++ x.agenda.startedBy s action }
  | cancelAll (x : Chronicle) :
    Next p x { x with
      agenda := x.agenda.cancelAll.2, past := x.past ++ [.cancelled x.agenda.cancelAll.1] }
  | fire (a : Agenda) (past : List Occurrence) (t : Timer (Job Key Task)) (time : Instant)
      (may : p.fires a.scheduler.loop t time) :
    Next p ⟨a, none, past⟩
      ⟨a.begin t time,
        some ⟨t.job.action.shown, t.job.action.action.steps, t.job.action.action.fault⟩,
        past ++ [.fired ⟨t.id, t.job.key, t.job.action, time⟩]⟩
  /-- The action that runs makes its next step. -/
  | proceed (a : Agenda) (past : List Occurrence) (shown : Value) (s : Step) (ss : List Step)
      (fault : Option Fault) :
    Next p ⟨a, some ⟨shown, s :: ss, fault⟩, past⟩
      ⟨(a.step s).2, some (Rest.after ⟨shown, ss, fault⟩ (a.step s).1),
        past ++ a.occurrences s⟩
  | finish (a : Agenda) (past : List Occurrence) (shown : Value) (fault : Option Fault) :
    Next p ⟨a, some ⟨shown, [], fault⟩, past⟩ ⟨a.settle shown fault, none, past⟩
  | wait (a : Agenda) (past : List Occurrence) (limit : Instant)
      (may : p.passes a.scheduler.loop limit) :
    Next p ⟨a, none, past⟩ ⟨{ a with scheduler := a.scheduler.passTo limit }, none, past⟩

/-- The moments to which steps lead. -/
def Steps (p : Policy) : Chronicle → Chronicle → Prop := Relation.ReflTransGen (Next p)

/-- The moments of the runs that begin with the agenda. -/
def Reaches (a : Agenda) (p : Policy) (x : Chronicle) : Prop := Steps p ⟨a, none, []⟩ x

section

variable {p : Policy} (a : Agenda) (past : List Occurrence)

theorem run_eq (action : Action) : a.run action =
    (((a.note (.ran action.label a.scheduler.now)).steps action.steps).1.or action.fault,
      ((a.note (.ran action.label a.scheduler.now)).steps action.steps).2) := by
  obtain ⟨l, ss, fault⟩ := action
  rw [run]
  simp only [Action.label, Action.steps, Action.fault]
  rcases (a.note (.ran l a.scheduler.now)).steps ss with ⟨_ | f, b⟩ <;> rfl

theorem fire_snd (job : Job Key Task) :
    (a.fire job).2 = (a.run job.action.action).2.settle job.action.shown
      (a.run job.action.action).1 := by
  unfold fire settle
  rcases a.run job.action.action with ⟨_ | f, b⟩
  · rfl
  · by_cases hf : f.isOrdinary <;> simp [hf]

/-- The action that runs makes the steps that are left. -/
theorem steps_steps (shown : Value) (ss : List Step) (fault : Option Fault) :
    Steps p ⟨a, some ⟨shown, ss, fault⟩, past⟩
      ⟨(a.steps ss).2, some ⟨shown, [], (a.steps ss).1.or fault⟩, past ++ a.stepsPast ss⟩ := by
  induction ss generalizing a past with
  | nil =>
    rw [stepsPast, List.append_nil]
    exact .refl
  | cons s ss ih =>
    have hnext : Next p _ _ := .proceed a past shown s ss fault
    rw [steps, stepsPast, ← List.append_assoc]
    rcases hs : a.step s with ⟨_ | f, b⟩
    · rw [hs] at hnext
      exact .head hnext (ih b (past ++ a.occurrences s))
    · rw [hs] at hnext
      rw [List.append_nil]
      exact .single hnext

/-- A timer fires, and its action comes to its end. -/
theorem steps_fire {t : Timer (Job Key Task)} {time : Instant}
    (may : p.fires a.scheduler.loop t time) :
    Steps p ⟨a, none, past⟩
      ⟨({ a with scheduler := a.scheduler.letFire t time }.fire t.job).2, none,
        past ++ a.firePast t time⟩ := by
  have hsteps := steps_steps (p := p) (a.begin t time)
    (past ++ [.fired ⟨t.id, t.job.key, t.job.action, time⟩]) t.job.action.shown
    t.job.action.action.steps t.job.action.action.fault
  have hend := hsteps.tail (.finish _ _ _ _)
  have hrun : ({ a with scheduler := a.scheduler.letFire t time }.fire t.job).2 =
      ((a.begin t time).steps t.job.action.action.steps).2.settle t.job.action.shown
        (((a.begin t time).steps t.job.action.action.steps).1.or t.job.action.action.fault) := by
    rw [fire_snd, run_eq]
    rfl
  rw [hrun, firePast, ← List.singleton_append, ← List.append_assoc]
  exact .head (.fire a past t time may) hend

/-- A punctual loop lets those timers fire that are due. -/
theorem steps_fireDue (limit : Instant) (n : Nat) :
    Steps .punctual ⟨a, none, past⟩
      ⟨(fireDue limit n a).2, none, past ++ duePast limit n a⟩ := by
  induction n generalizing a past with
  | zero =>
    rw [duePast, List.append_nil]
    exact .refl
  | succ n ih =>
    rw [fireDue, duePast]
    cases ht : Loop.earliest a.scheduler.loop.timers with
    | none =>
      have hp : a.scheduler.popDue limit = none := by
        simp [Scheduler.popDue_eq_none_iff, ht]
      rw [hp, List.append_nil]
      exact .refl
    | some first =>
      obtain ⟨d, t⟩ := first
      by_cases hd : d ≤ limit
      · have hfire := steps_fire (p := .punctual) a past ⟨d, ht, rfl⟩
        rw [Scheduler.popDue_of_earliest ht hd]
        simp only [if_pos hd, ← List.append_assoc]
        exact hfire.trans (ih _ _)
      · have hp : a.scheduler.popDue limit = none := by
          simp [Scheduler.popDue_eq_none_iff, ht, Nat.not_le.1 hd]
        rw [hp]
        simp only [if_neg hd, List.append_nil]
        exact .refl

end

theorem Policy.free_of_punctual {l : Loop (Job Key Task)} {t : Timer (Job Key Task)}
    {time : Instant} (h : punctual.fires l t time) : free.fires l t time := by
  obtain ⟨due, ht, rfl⟩ := h
  exact ⟨(Loop.earliest_spec ht).1, Nat.le_max_left _ _⟩

theorem Steps.free {x y : Chronicle} (h : Steps .punctual x y) : Steps .free x y := by
  refine Relation.ReflTransGen.mono (fun x y hn => ?_) _ _ h
  cases hn with
  | arm x s action => exact .arm x s action
  | cancelAll x => exact .cancelAll x
  | fire a past t time may => exact .fire a past t time (Policy.free_of_punctual may)
  | proceed a past shown s ss fault => exact .proceed a past shown s ss fault
  | finish a past shown fault => exact .finish a past shown fault
  | wait a past limit _ => exact .wait a past limit trivial

end Agenda
end Linkcut

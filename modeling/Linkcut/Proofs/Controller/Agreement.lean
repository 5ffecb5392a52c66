import Linkcut.Proofs.Controller.Elapse

/-!
Two runs that agree on some sessions. What both of them do keeps them in agreement: a phase depends
on the deadline and on the probe of its own session only, whatever sweeps run meanwhile.
-/

set_option autoImplicit false

namespace Linkcut.Controller

/-- Whether nothing was left to the loop. -/
def Answer.isQuiet : Answer → Bool
  | .escaped fs => fs.isEmpty
  | _ => true

theorem isQuiet_of_mild {c : Controller} {k : Command} (hm : (c.step k).2.site.Mild) :
    (c.step k).1.isQuiet := by
  cases k with
  | advance micros => exact List.isEmpty_iff.2 (fireDue_fst_of_mild c _ _ hm)
  | signal s =>
    simp only [step]
    cases (c.signal s).1 <;> rfl
  | disconnect s args =>
    simp only [step]
    cases (c.onDisconnect s args).1 <;> rfl
  | _ => rfl

variable {c c' : Controller} {p : Sid → Prop} {sid : Sid} {k : Command}

theorem agrees_advance (h : c.scheduler.Agrees p c'.scheduler) (micros : Nat) :
    (c.advance micros).2.scheduler.Agrees p (c'.advance micros).2.scheduler := by
  obtain ⟨hall, hnow⟩ := elapsed_advance h.linked micros
  obtain ⟨hall', hnow'⟩ := elapsed_advance h.linked' micros
  refine ⟨hall.linked, hall'.linked, ?_, ?_, fun sid hsid => ?_⟩
  · rw [hall.delay, hall'.delay, h.delay]
  · rw [hnow, hnow', h.now]
  · rw [hall.deadlines, hall'.deadlines, dueBy, dueBy, h.deadlines sid hsid, h.now]

theorem agrees_step (h : c.scheduler.Agrees p c'.scheduler) (hk : ∀ s, k = .signal s → p s) :
    (c.step k).2.scheduler.Agrees p (c'.step k).2.scheduler := by
  cases k with
  | connect | release | disconnect =>
    rw [(aside_step c rfl).scheduler, (aside_step c' rfl).scheduler]
    exact h
  | signal s =>
    simp only [step, scheduler_signal]
    exact h.arm (hk s rfl) ()
  | request q => exact h
  | advance micros => exact agrees_advance h micros
  | shutdown =>
    simp only [step, scheduler_shutdown]
    exact h.cancelAll

theorem linked_step (h : c.scheduler.Linked) (k : Command) : (c.step k).2.scheduler.Linked := by
  have hself : c.scheduler.Agrees (fun _ => True) c.scheduler := .refl h
  exact (agrees_step hself fun _ _ => trivial).linked

theorem linked_run (h : c.scheduler.Linked) (ks : List Command) :
    (c.run ks).2.scheduler.Linked := by
  induction ks generalizing c with
  | nil => exact h
  | cons k ks ih => exact ih (linked_step h k)

/-- What both runs do leaves a session on which they agree in the same phase, where a name stands for
its probe in both or in neither. -/
theorem get?_step_congr (h : c.scheduler.Agrees p c'.scheduler) (hsid : p sid)
    (hphase : c'.sessions.get? sid = c.sessions.get? sid)
    (hname : ∀ name fault, k = .release name fault →
      (c'.inFlight.lookup name = some sid ↔ c.inFlight.lookup name = some sid))
    (hquiet : (c.step k).1.isQuiet) (hquiet' : (c'.step k).1.isQuiet) :
    (c'.step k).2.sessions.get? sid = (c.step k).2.sessions.get? sid := by
  cases k with
  | connect s args probe =>
    simp only [step, onConnect]
    split
    · rw [get?_connect, get?_connect, hphase]
    · exact hphase
  | release name fault => simp only [step, get?_release, hname name fault rfl, hphase]
  | disconnect s args =>
    simp only [step, onDisconnect]
    split
    · rw [get?_disconnect, get?_disconnect, hphase]
    · exact hphase
  | signal s =>
    simp only [step, get?_signal]
    by_cases hs : sid = s
    · subst hs
      rw [h.isArmed hsid, h.delay, Sessions.isLive, Sessions.isLive, hphase]
    · simp only [hs, false_and, if_false, hphase]
  | request q => exact hphase
  | advance micros =>
    have hall := (elapsed_advance h.linked micros).1.phases (List.isEmpty_iff.1 hquiet) sid
    have hall' := (elapsed_advance h.linked' micros).1.phases (List.isEmpty_iff.1 hquiet') sid
    simp only [step]
    rw [hall, hall', dueBy, dueBy, h.deadlines sid hsid, h.now, Sessions.isLive, Sessions.isLive,
      hphase]
  | shutdown =>
    simp only [step, sessions_shutdown]
    exact hphase

end Linkcut.Controller

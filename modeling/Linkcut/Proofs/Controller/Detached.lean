import Linkcut.Proofs.Controller.Alike
import Linkcut.Proofs.Controller.Stages
import Linkcut.Proofs.Site.Modest

/-!
Sweeps are detached from sessions. A pending sweep outlives the session that armed it, and more than
that: what connects, disconnects, and becomes of probes decides nothing about signals, sweeps and
connections, and can be left out of a run.
-/

set_option autoImplicit false

namespace Linkcut.Controller

/-- An answer to somebody who cannot see the hidden counters. -/
def Answer.mask (hidden : List Counter) : Answer → Answer
  | .reply r => .reply (r.map (Reply.mask hidden))
  | a => a

/-- All that concerns sweeps is the same at both. -/
structure Detached (c c' : Controller) : Prop where
  alike : Alike sessionCounters c c'
  scheduler : c'.scheduler = c.scheduler
  swept : c'.swept = c.swept

namespace Detached

variable {c c' : Controller}

theorem refl (c : Controller) : Detached c c := ⟨.refl c, rfl, rfl⟩

theorem of_session (h : Detached c c') {k : Command} (hk : k.isOfSession) :
    Detached (c.step k).2 c' := by
  have haside := aside_step c hk
  exact ⟨(Alike.of_aside haside (List.Subset.refl _)).symm.trans h.alike,
    h.scheduler.trans haside.scheduler.symm, h.swept.trans haside.swept.symm⟩

theorem signal (h : Detached c c') (sid : Sid) :
    (c'.signal sid).1 = (c.signal sid).1 ∧ Detached (c.signal sid).2 (c'.signal sid).2 := by
  refine ⟨?_, h.alike.signal (by rw [h.scheduler]), ?_, ?_⟩
  · simp only [signal_fst, signalFault?, delayMillis, h.scheduler]
  · rw [scheduler_signal, scheduler_signal, h.scheduler]
  · rw [(aside_signal c sid).swept, (aside_signal c' sid).swept]
    exact h.swept

theorem request (h : Detached c c') (q : Request) :
    (c'.request q).1.map (Reply.mask sessionCounters) =
        (c.request q).1.map (Reply.mask sessionCounters) ∧
      Detached (c.request q).2 (c'.request q).2 := by
  obtain ⟨hreply, halike⟩ := h.alike.request q
  exact ⟨hreply, halike, h.scheduler, h.swept⟩

theorem shutdown (h : Detached c c') :
    c'.shutdown.1 = c.shutdown.1 ∧ Detached c.shutdown.2 c'.shutdown.2 := by
  refine ⟨?_, h.alike.shutdown (by rw [h.scheduler]), ?_, ?_⟩
  · rw [shutdown_fst, shutdown_fst, h.scheduler]
  · rw [scheduler_shutdown, scheduler_shutdown, h.scheduler]
  · rw [(aside_shutdown c).swept, (aside_shutdown c').swept]
    exact h.swept

theorem fire (h : Detached c c') (sid : Sid) :
    (c'.fire sid).1 = (c.fire sid).1 ∧ Detached (c.fire sid).2 (c'.fire sid).2 := by
  obtain ⟨hfault, halike⟩ := h.alike.fire sid sid
  have hbegun : (c'.beginSweep sid).swept = (c.beginSweep sid).swept := by
    simp only [beginSweep, h.scheduler, h.swept, h.alike.manager, h.alike.site.registries]
  refine ⟨hfault, halike, ?_, ?_⟩
  · rw [scheduler_fire, scheduler_fire, h.scheduler]
  · rw [(aside_fire c sid).swept, (aside_fire c' sid).swept]
    exact hbegun

theorem fireDue (h : Detached c c') (limit : Instant) (n : Nat) :
    (c'.fireDue limit n).1 = (c.fireDue limit n).1 ∧
      Detached (c.fireDue limit n).2 (c'.fireDue limit n).2 := by
  refine fireDue_rel ?_ ?_ h n
  · intro x x' hx hp
    rw [hx.scheduler]
    exact hp
  · intro x x' job u hx hp
    have hpopped : Detached { x with scheduler := u } { x' with scheduler := u } :=
      ⟨⟨hx.alike.manager, hx.alike.site⟩, rfl, hx.swept⟩
    exact ⟨job, u, by rw [hx.scheduler]; exact hp, hpopped.fire job.key⟩

theorem advance (h : Detached c c') (micros : Nat) :
    (c'.advance micros).1 = (c.advance micros).1 ∧
      Detached (c.advance micros).2 (c'.advance micros).2 := by
  simp only [Controller.advance, h.scheduler]
  obtain ⟨hfaults, hafter⟩ :=
    h.fireDue (c.scheduler.now + micros) c.scheduler.loop.timers.length
  refine ⟨hfaults, ⟨hafter.alike.manager, hafter.alike.site⟩, ?_, hafter.swept⟩
  simp only [hafter.scheduler]

theorem step (h : Detached c c') {k : Command} (hk : ¬ k.isOfSession) :
    (c'.step k).1.mask sessionCounters = (c.step k).1.mask sessionCounters ∧
      Detached (c.step k).2 (c'.step k).2 := by
  cases k with
  | connect | release | disconnect => exact absurd rfl hk
  | signal sid =>
    obtain ⟨hanswer, hafter⟩ := h.signal sid
    exact ⟨by simp only [Controller.step, hanswer], hafter⟩
  | request q =>
    obtain ⟨hanswer, hafter⟩ := h.request q
    exact ⟨by simp only [Controller.step, Answer.mask, hanswer], hafter⟩
  | advance micros =>
    obtain ⟨hanswer, hafter⟩ := h.advance micros
    exact ⟨by simp only [Controller.step, hanswer], hafter⟩
  | shutdown =>
    obtain ⟨hanswer, hafter⟩ := h.shutdown
    exact ⟨by simp only [Controller.step, hanswer], hafter⟩

end Detached

/-- Two stages at which the same is done, and to the same connections and sweeps. -/
structure Stage.SameSweeps (s s' : Stage) : Prop where
  command : s'.command = s.command
  /-- Figures of the manager count sessions too. -/
  answer : s'.answer.mask sessionCounters = s.answer.mask sessionCounters
  tracked : ∀ i, s'.after.site.registry i = s.after.site.registry i
  aborts : s'.after.site.aborts = s.after.site.aborts
  swept : s'.after.swept = s.after.swept
  pending : s'.after.scheduler = s.after.scheduler
  counters : ∀ i, ∀ k ∉ sessionCounters,
    (s'.after.site.tallies i).get k = (s.after.site.tallies i).get k

theorem Detached.same {s s' : Stage} (hcommand : s'.command = s.command)
    (hanswer : s'.answer.mask sessionCounters = s.answer.mask sessionCounters)
    (h : Detached s.after s'.after) : s.SameSweeps s' where
  command := hcommand
  answer := hanswer
  tracked := h.alike.site.registries
  aborts := h.alike.site.observed Event.abort? fun e => by cases e <;> rfl
  swept := h.swept
  pending := h.scheduler
  counters := h.alike.site.tallies

/-- Sweeps do not depend on sessions: without its sessions and probes a run does the same to
connections, with the same sweeps at the same instants. -/
theorem sweeps_detached (c : Controller) (ks : List Command) :
    List.Forall₂ Stage.SameSweeps ((c.stages ks).filter fun s => !s.command.isOfSession)
      (c.stages (ks.filter fun k => !k.isOfSession)) := by
  rw [← retained_of_command (fun k => !k.isOfSession) c]
  refine forall₂_retained (R := Detached) ?_ ?_ (.refl c) ks
  · intro x x' k hx hk
    exact hx.of_session (by simpa using hk)
  · intro x x' k hx hk
    obtain ⟨hanswer, hafter⟩ := hx.step (by simpa using hk)
    exact ⟨hafter, hafter.same rfl hanswer⟩

end Linkcut.Controller

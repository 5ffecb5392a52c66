import Linkcut.Proofs.Controller.Agreement
import Linkcut.Proofs.Controller.Signals
import Linkcut.Proofs.Controller.Stages

/-!
Sessions apart. Every sweep cuts all connections, all timers share one clock, and yet what becomes of
a session, its phase and its pending sweep, depends on nothing that is done for another one.
-/

set_option autoImplicit false

namespace Linkcut.Controller

/-- Whether a stage is left without the other sessions: it is the session's own, or nobody's. A probe
that ends is that of the session that waits first under its name. -/
def Stage.concerns (sid : Sid) (s : Stage) : Bool :=
  match s.command with
  | .connect k _ _ | .disconnect k _ | .signal k => decide (k = sid)
  | .release name _ => (s.before.inFlight.lookup name).all fun k => decide (k = sid)
  | _ => true

/-- Probes of one session among those that wait. -/
def own (sid : Sid) (l : List (String × Sid)) : List (String × Sid) :=
  l.filter fun p => decide (p.2 = sid)

section

variable {l : List (String × Sid)} {name : String} {sid k : Sid}

theorem own_eraseP_of_other (h : l.lookup name = some k) (hk : k ≠ sid) :
    own sid (l.eraseP (·.1 == name)) = own sid l := by
  obtain ⟨l₁, l₂, rfl, herase⟩ := lookup_eraseP h
  rw [herase]
  simp [own, hk]

/-- A name that stands for no other session stands for the same without them. -/
theorem own_of_lookup (h : (l.lookup name).all fun k => decide (k = sid)) :
    (own sid l).lookup name = l.lookup name ∧
      (own sid l).eraseP (·.1 == name) = own sid (l.eraseP (·.1 == name)) := by
  induction l with
  | nil => exact ⟨rfl, rfl⟩
  | cons e es ih =>
    obtain ⟨n, s⟩ := e
    by_cases hn : n = name
    · subst hn
      obtain rfl : s = sid := by simpa using h
      simp [own]
    · have hlookup : ∀ es' : List (String × Sid), ((n, s) :: es').lookup name = es'.lookup name :=
        fun es' => by simp [List.lookup_cons, beq_false_of_ne (Ne.symm hn)]
      have herase : ∀ es' : List (String × Sid), ((n, s) :: es').eraseP (·.1 == name) =
          (n, s) :: es'.eraseP (·.1 == name) :=
        fun es' => List.eraseP_cons_of_neg (by simpa using hn)
      rw [hlookup] at h
      obtain ⟨hsame, hrest⟩ := ih h
      by_cases hs : s = sid
      · have hown : ∀ es' : List (String × Sid), own sid ((n, s) :: es') = (n, s) :: own sid es' :=
          fun es' => by simp [own, hs]
        rw [herase, hown, hown, hlookup, hlookup, herase, hsame, hrest]
        exact ⟨rfl, rfl⟩
      · have hown : ∀ es' : List (String × Sid), own sid ((n, s) :: es') = own sid es' :=
          fun es' => by simp [own, hs]
        rw [herase, hown, hown, hlookup]
        exact ⟨hsame, hrest⟩

end

/-- All that a session has in one run it has in the other. -/
structure Isolated (sid : Sid) (c c' : Controller) : Prop where
  scheduler : c.scheduler.Agrees (· = sid) c'.scheduler
  inFlight : c'.inFlight = own sid c.inFlight
  phase : c.site.Mild → c'.site.Mild → c'.sessions.get? sid = c.sessions.get? sid

namespace Isolated

variable {sid : Sid} {c c' : Controller}

theorem of_new (h : c.IsNew) (sid : Sid) : Isolated sid c c :=
  ⟨.refl (.of_empty h.pending h.timers), by rw [h.inFlight]; rfl, fun _ _ => rfl⟩

/-- What is done for another session is nothing to this one. -/
theorem of_other (h : Isolated sid c c') {k : Command} (hk : ¬ Stage.concerns sid ⟨c, k⟩) :
    Isolated sid (c.step k).2 c' := by
  -- the other run stands still, so that all must be as it was in the run that goes on
  obtain ⟨hsched, hflight, hphase⟩ : (c.step k).2.scheduler.Agrees (· = sid) c'.scheduler ∧
      own sid (c.step k).2.inFlight = own sid c.inFlight ∧
      (c.step k).2.sessions.get? sid = c.sessions.get? sid := by
    rw [inFlight_step]
    cases k with
    | connect s args probe =>
      have hne : s ≠ sid := by simpa [Stage.concerns] using hk
      rw [(aside_step c rfl).scheduler]
      refine ⟨h.scheduler, ?_, ?_⟩
      · cases probe with
        | held name =>
          dsimp only
          split
          · simp [own, hne]
          · rfl
        | _ => rfl
      · simp only [step, onConnect]
        split
        · rw [get?_connect, if_neg hne.symm]
        · rfl
    | release name fault =>
      obtain ⟨s, hs, hne⟩ : ∃ s, c.inFlight.lookup name = some s ∧ s ≠ sid := by
        simpa [Stage.concerns, Option.all_eq_false] using hk
      rw [(aside_step c rfl).scheduler]
      exact ⟨h.scheduler, own_eraseP_of_other hs hne, by simp [step, get?_release, hs, hne]⟩
    | disconnect s args =>
      have hne : s ≠ sid := by simpa [Stage.concerns] using hk
      rw [(aside_step c rfl).scheduler]
      refine ⟨h.scheduler, rfl, ?_⟩
      simp only [step, onDisconnect]
      split
      · rw [get?_disconnect, if_neg hne.symm]
      · rfl
    | signal s =>
      have hne : s ≠ sid := by simpa [Stage.concerns] using hk
      simp only [step, scheduler_signal]
      exact ⟨h.scheduler.arm_other hne (), trivial, by simp [get?_signal, hne.symm]⟩
    | _ => exact absurd rfl hk
  refine ⟨hsched, h.inFlight.trans hflight.symm, fun hm hm' => ?_⟩
  rw [hphase]
  exact h.phase (fun e he => hm e ((suffix_step c k).subset he)) hm'

theorem step (h : Isolated sid c c') {k : Command} (hk : Stage.concerns sid ⟨c, k⟩) :
    Isolated sid (c.step k).2 (c'.step k).2 := by
  have hsignal : ∀ s, k = .signal s → s = sid := by
    rintro s rfl
    simpa [Stage.concerns] using hk
  -- a name is released that stands for a probe of the session, or for none
  have hname : ∀ name fault, k = .release name fault →
      c'.inFlight.lookup name = c.inFlight.lookup name ∧
        own sid (c.inFlight.eraseP (·.1 == name)) = c'.inFlight.eraseP (·.1 == name) := by
    rintro name fault rfl
    obtain ⟨hlookup, herase⟩ := own_of_lookup (l := c.inFlight) hk
    rw [h.inFlight]
    exact ⟨hlookup, herase.symm⟩
  refine ⟨agrees_step h.scheduler hsignal, ?_, fun hm hm' => ?_⟩
  · rw [inFlight_step, inFlight_step]
    cases k with
    | connect s args probe =>
      obtain rfl : s = sid := by simpa [Stage.concerns] using hk
      cases probe with
      | held name =>
        dsimp only
        split
        · simp [own, h.inFlight]
        · exact h.inFlight
      | _ => exact h.inFlight
    | release name fault => exact (hname name fault rfl).2.symm
    | _ => exact h.inFlight
  · have hphase := h.phase (fun e he => hm e ((suffix_step c k).subset he))
      fun e he => hm' e ((suffix_step c' k).subset he)
    refine get?_step_congr h.scheduler rfl hphase (fun name fault e => ?_) (isQuiet_of_mild hm)
      (isQuiet_of_mild hm')
    rw [(hname name fault e).1]

end Isolated

/-- Two stages at which the same is done, and the session is in the same state afterwards. For phases
the abort calls of both runs are to end in ordinary faults at most. -/
structure Stage.SameSession (sid : Sid) (s s' : Stage) : Prop where
  command : s'.command = s.command
  isArmed : s'.after.scheduler.isArmed sid = s.after.scheduler.isArmed sid
  deadline : s'.after.scheduler.deadline? sid = s.after.scheduler.deadline? sid
  phase : s.after.site.Mild → s'.after.site.Mild →
    s'.after.sessions.get? sid = s.after.sessions.get? sid

/-- Sessions do not interfere: at every stage that is left without the other ones, a session is in
the phase, and has the pending sweep, that it has with them. -/
theorem sessions_isolated (c : Controller) (hc : c.IsNew) (sid : Sid) (ks : List Command) :
    List.Forall₂ (Stage.SameSession sid) ((c.stages ks).filter (Stage.concerns sid))
      (c.stages (c.retained (Stage.concerns sid) ks)) := by
  refine forall₂_retained (R := Isolated sid) ?_ ?_ (.of_new hc sid) ks
  · intro x x' k hx hk
    exact hx.of_other hk
  · intro x x' k hx hk
    have hafter := hx.step hk
    exact ⟨hafter, rfl, hafter.scheduler.isArmed rfl, hafter.scheduler.deadlines sid rfl,
      hafter.phase⟩

/-- Two probes that wait under one name, two sweeps that are due together, and a connection that
answers with a fault. -/
def crossed : List Command :=
  [.request (.record "a"), .connect "s" [] (.held "p"), .connect "t" [] (.held "p"),
    .release "p" none, .signal "s", .signal "t", .release "p" none, .advance 1000000, .signal "t",
    .shutdown]

/-- The release that comes first is that of the other session. -/
theorem sessions_isolated_crossed :
    frail.IsNew ∧ (frail.run crossed).2.site.Mild ∧
    (frail.run (frail.retained (Stage.concerns "t") crossed)).2.site.Mild ∧
    ((frail.stages crossed).filter (Stage.concerns "t")).map
      (fun s => s.after.sessions.get? "t") =
        [none, some .probeSent, some .disconnectArmed, some .disconnectArmed, some .terminated,
          some .disconnectArmed, some .disconnectArmed] ∧
    List.Forall₂ (Stage.SameSession "t") ((frail.stages crossed).filter (Stage.concerns "t"))
      (frail.stages (frail.retained (Stage.concerns "t") crossed)) := by
  have hnew : frail.IsNew := ⟨rfl, rfl, rfl, rfl, rfl⟩
  exact ⟨hnew, by decide, by decide, by decide, sessions_isolated frail hnew "t" crossed⟩

end Linkcut.Controller

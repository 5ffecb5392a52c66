import Linkcut.Proofs.Controller.Steps
import Linkcut.Proofs.Site.Alike

/-!
Controllers whose sites differ in nothing but the log and in some hidden counters. A sweep does the
same at both, whatever session it is for, and so do requests and signals: what becomes of the
connections does not depend on sessions, or on the order in which sweeps are pending.
-/

set_option autoImplicit false

namespace Linkcut.Controller

structure Alike (hidden : List Counter) (c c' : Controller) : Prop where
  manager : c'.manager = c.manager
  site : c.site.Alike hidden c'.site

namespace Alike

variable {hidden changed : List Counter} {c c' c'' : Controller}

theorem refl (c : Controller) : Alike hidden c c := ⟨rfl, .refl c.site⟩

theorem symm (h : Alike hidden c c') : Alike hidden c' c := ⟨h.manager.symm, h.site.symm⟩

theorem trans (h : Alike hidden c c') (h' : Alike hidden c' c'') : Alike hidden c c'' :=
  ⟨h'.manager.trans h.manager, h.site.trans h'.site⟩

theorem of_aside (h : Aside changed c c') (hsub : changed ⊆ hidden) : Alike hidden c c' := by
  refine ⟨h.manager, ⟨h.registry, fun k => ?_, fun i k hk => ?_, h.observed _ fun _ => rfl⟩⟩
  · simp only [Site.transport, h.transports]
  · exact h.counters i k fun hin => hk (hsub hin)

theorem count (h : Alike hidden c c') (k : Counter) (n : Int) :
    Alike hidden (c.count k n) (c'.count k n) := by
  refine ⟨h.manager, ?_⟩
  simp only [Controller.count, h.manager]
  exact h.site.count _ _ _

theorem count_comm (c : Controller) (j k : Counter) (m n : Int) :
    Alike hidden ((c.count j m).count k n) ((c.count k n).count j m) := by
  refine ⟨rfl, fun _ => rfl, fun _ => rfl, fun i l _ => ?_, rfl⟩
  by_cases hi : i = c.manager.counters
  · by_cases hj : l = j
    · subst hj
      by_cases hk : l = k
      · subst hk
        simp [Controller.count, hi, Int.add_right_comm]
      · simp [Controller.count, hi, hk]
    · simp [Controller.count, hi, hj]
  · simp [Controller.count, hi]

theorem log (h : Alike hidden c c') (level level' : Level) (message message' : String)
    (fields fields' : List (String × Value)) :
    Alike hidden (c.log level message fields) (c'.log level' message' fields') :=
  ⟨h.manager, h.site.log _ _⟩

theorem request (h : Alike hidden c c') (q : Request) :
    (c'.request q).1.map (Reply.mask hidden) = (c.request q).1.map (Reply.mask hidden) ∧
      Alike hidden (c.request q).2 (c'.request q).2 := by
  obtain ⟨hreply, hsite⟩ := h.site.perform (.manager c.manager) (.manager c.manager) q
  refine ⟨?_, h.manager, ?_⟩
  · simp only [Controller.request, h.manager]
    exact hreply
  · simp only [Controller.request, h.manager]
    exact hsite

theorem opened (h : Alike hidden c c') (sid : Sid) :
    Alike hidden (c.opened sid) (c'.opened sid) := by
  have hcounted := (h.count .established 1).log .info .info "Client connected" "Client connected"
    [("sid", .str sid), ("live_connections", .int c.live)]
    [("sid", .str sid), ("live_connections", .int c'.live)]
  exact ⟨hcounted.manager, hcounted.site⟩

theorem endProbe (h : Alike hidden c c') (sid : Sid) (fault : Option Fault) :
    Alike hidden (c.endProbe sid fault).2 (c'.endProbe sid fault).2 := by
  have hafter : ∀ {d d' : Controller}, Alike hidden d d' →
      Alike hidden (d.afterProbe sid) (d'.afterProbe sid) := by
    intro d d' hd
    unfold afterProbe
    split <;> split <;> exact ⟨hd.manager, hd.site⟩
  cases fault with
  | none => exact hafter (h.count _ _)
  | some f =>
    simp only [Controller.endProbe]
    split
    · exact hafter ((h.count _ _).log _ _ _ _ _ _)
    · exact h

theorem connect (h : Alike hidden c c') (sid : Sid) (probe : Probe) :
    Alike hidden (c.connect sid probe).2 (c'.connect sid probe).2 := by
  have hopened := h.opened sid
  rw [connect_snd, connect_snd]
  cases probe with
  | held name => exact ⟨hopened.manager, hopened.site⟩
  | delivered => exact hopened.endProbe sid none
  | failed f => exact hopened.endProbe sid (some f)

theorem release (h : Alike hidden c c') {name : String}
    (hname : c'.inFlight.lookup name = c.inFlight.lookup name) (fault : Option Fault) :
    Alike hidden (c.release name fault).2 (c'.release name fault).2 := by
  rw [release_snd, release_snd, hname]
  cases c.inFlight.lookup name with
  | none => exact h
  | some sid =>
    have hrest : Alike hidden { c with inFlight := c.inFlight.eraseP (·.1 == name) }
        { c' with inFlight := c'.inFlight.eraseP (·.1 == name) } := ⟨h.manager, h.site⟩
    exact hrest.endProbe sid fault

theorem disconnect (h : Alike hidden c c') {sid : Sid}
    (hlive : c'.sessions.isLive sid = c.sessions.isLive sid) (reason : Value) :
    Alike hidden (c.disconnect sid reason) (c'.disconnect sid reason) := by
  rw [Sessions.isLive, Sessions.isLive] at hlive
  unfold Controller.disconnect
  cases hp : c.sessions.get? sid with
  | none =>
    cases hp' : c'.sessions.get? sid with
    | none => exact h
    | some p' =>
      rw [hp, hp'] at hlive
      cases hlive
  | some p =>
    cases hp' : c'.sessions.get? sid with
    | none =>
      rw [hp, hp'] at hlive
      cases hlive
    | some p' =>
      have hcounted := h.count .ended 1
      exact ⟨hcounted.manager, hcounted.site.log _ _⟩

theorem signal_of_armed (c : Controller) (sid : Sid) (h : c.scheduler.isArmed sid) :
    Alike hidden ((c.count .signals 1).count .duplicates 1) (c.signal sid).2 := by
  rw [c.signal_of_armed sid h]
  exact of_aside (aside_log _ _ _ _) (List.nil_subset _)

theorem signal_of_not_armed (c : Controller) (sid : Sid)
    (h : c.scheduler.isArmed sid = false) :
    Alike hidden (c.count .signals 1) (c.signal sid).2 := by
  cases hf : c.scheduler.delay.startFault? with
  | some f =>
    rw [c.signal_of_fault sid h hf]
    exact refl _
  | none =>
    have hlogged : Alike hidden (c.armed sid) (c.signal sid).2 :=
      of_aside (aside_armed c sid h hf) (List.nil_subset _)
    exact ⟨hlogged.manager, hlogged.site⟩

/-- Two signals of which each arms a sweep, or neither does, act alike. -/
theorem signal (h : Alike hidden c c') {sid sid' : Sid}
    (harmed : c'.scheduler.isArmed sid' = c.scheduler.isArmed sid) :
    Alike hidden (c.signal sid).2 (c'.signal sid').2 := by
  cases hs : c.scheduler.isArmed sid with
  | true =>
    have hcounted := (h.count .signals 1).count .duplicates 1
    exact (signal_of_armed c sid hs).symm.trans
      (hcounted.trans (signal_of_armed c' sid' (harmed.trans hs)))
  | false =>
    exact (signal_of_not_armed c sid hs).symm.trans
      ((h.count .signals 1).trans (signal_of_not_armed c' sid' (harmed.trans hs)))

/-- It does not matter which of two signals is the duplicate. -/
theorem signal_comm (c : Controller) {a b : Sid} (hne : a ≠ b) :
    Alike hidden ((c.signal a).2.signal b).2 ((c.signal b).2.signal a).2 := by
  have hrest : ∀ {s k : Sid}, k ≠ s →
      (c.signal s).2.scheduler.isArmed k = c.scheduler.isArmed k := by
    intro s k hk
    rw [scheduler_signal, Scheduler.isArmed_arm, decide_eq_false hk, Bool.false_and, Bool.false_or]
  have hmixed : ∀ {s k : Sid}, s ≠ k → c.scheduler.isArmed s → c.scheduler.isArmed k = false →
      Alike hidden ((c.signal s).2.signal k).2 ((c.signal k).2.signal s).2 := by
    intro s k hsk hs hk
    have harmed : Alike hidden _ (c.signal s).2 := signal_of_armed c s hs
    have hnew : Alike hidden _ (c.signal k).2 := signal_of_not_armed c k hk
    have hfirst := (harmed.count .signals 1).trans
      (signal_of_not_armed _ k ((hrest hsk.symm).trans hk))
    have hsecond := ((hnew.count .signals 1).count .duplicates 1).trans
      (signal_of_armed _ s ((hrest hsk).trans hs))
    exact (hfirst.symm.trans (count_comm _ _ _ _ _)).trans hsecond
  by_cases hab : c.scheduler.isArmed b = c.scheduler.isArmed a
  · refine ((refl c).signal hab).signal ?_
    rw [hrest hne, hrest hne.symm, hab]
  · cases ha : c.scheduler.isArmed a with
    | true => exact hmixed hne ha (by simpa [ha] using hab)
    | false => exact (hmixed hne.symm (by simpa [ha] using hab) ha).symm

theorem shutdown (h : Alike hidden c c') (hcount : c'.scheduler.count = c.scheduler.count) :
    Alike hidden c.shutdown.2 c'.shutdown.2 := by
  have hstopped : Alike hidden { c with scheduler := c.scheduler.cancelAll.2 }
      { c' with scheduler := c'.scheduler.cancelAll.2 } := ⟨h.manager, h.site⟩
  have hn : c.scheduler.cancelAll.1 = c.scheduler.count := rfl
  have hn' : c'.scheduler.cancelAll.1 = c.scheduler.count := hcount
  simp only [Controller.shutdown, hn, hn']
  split
  · exact hstopped
  · exact (hstopped.count _ _).log _ _ _ _ _ _

/-- Sweeps come to the same end, whatever sessions they are for. -/
theorem sweep (h : Alike hidden c c') (sid sid' : Sid) :
    (c'.sweep sid').1 = (c.sweep sid).1 ∧ Alike hidden (c.sweep sid).2 (c'.sweep sid').2 := by
  have hdrain := h.site.sweep (Site.respects_abort hidden (.manager c.manager) Site.nestingLimit)
    (.manager c.manager)
  obtain ⟨site', manager', sessions', scheduler', inFlight', sent', swept'⟩ := c'
  obtain rfl : manager' = c.manager := h.manager
  simp only [Controller.sweep, beginSweep]
  generalize Site.sweep _ c.site _ = r at hdrain ⊢
  generalize Site.sweep _ site' _ = r' at hdrain ⊢
  obtain ⟨a, hafter⟩ := hdrain
  cases a with
  | error f => exact ⟨rfl, rfl, hafter⟩
  | ok n => exact ⟨rfl, rfl, (hafter.count _ _ _).log _ _⟩

theorem fire (h : Alike hidden c c') (sid sid' : Sid) :
    (c'.fire sid').1 = (c.fire sid).1 ∧ Alike hidden (c.fire sid).2 (c'.fire sid').2 := by
  have hsweep := h.sweep sid sid'
  simp only [Controller.fire]
  generalize c.sweep sid = r at hsweep ⊢
  generalize c'.sweep sid' = r' at hsweep ⊢
  obtain ⟨f, d⟩ := r
  obtain ⟨f', d'⟩ := r'
  obtain ⟨rfl, hafter⟩ := hsweep
  cases f' with
  | none => exact ⟨rfl, hafter⟩
  | some f =>
    dsimp only
    split
    · exact ⟨rfl, hafter.manager, hafter.site.log _ _⟩
    · exact ⟨rfl, hafter⟩

end Alike

/-- What is left to the loop is the same, where timers fire pair by pair and always leave the
controllers in one relation. -/
theorem fireDue_rel {R : Controller → Controller → Prop} {limit : Instant}
    (stop : ∀ c c', R c c' → c.scheduler.popDue limit = none → c'.scheduler.popDue limit = none)
    (fire : ∀ c c' job u, R c c' → c.scheduler.popDue limit = some (job, u) →
      ∃ job' u', c'.scheduler.popDue limit = some (job', u') ∧
        ({ c' with scheduler := u' }.fire job'.key).1 =
          ({ c with scheduler := u }.fire job.key).1 ∧
        R ({ c with scheduler := u }.fire job.key).2 ({ c' with scheduler := u' }.fire job'.key).2)
    {c c' : Controller} (h : R c c') (n : Nat) :
    (c'.fireDue limit n).1 = (c.fireDue limit n).1 ∧
      R (c.fireDue limit n).2 (c'.fireDue limit n).2 := by
  induction n generalizing c c' with
  | zero => exact ⟨rfl, h⟩
  | succ n ih =>
    cases hp : c.scheduler.popDue limit with
    | none =>
      simp only [fireDue, hp, stop c c' h hp]
      exact ⟨trivial, h⟩
    | some due =>
      obtain ⟨job, u⟩ := due
      obtain ⟨job', u', hp', hfault, hfired⟩ := fire c c' job u h hp
      obtain ⟨hrest, hend⟩ := ih hfired
      simp only [fireDue, hp, hp', hfault, hrest]
      exact ⟨trivial, hend⟩

end Linkcut.Controller

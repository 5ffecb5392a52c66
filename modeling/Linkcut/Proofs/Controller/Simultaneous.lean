import Linkcut.Proofs.Controller.Agreement
import Linkcut.Proofs.Controller.Alike

/-!
Signals at one instant. Their order decides which of them is the duplicate, and in which order the
sweeps run that are then due together; what a run leads to is the same in every order.
-/

set_option autoImplicit false

namespace Linkcut.Controller

/-- As many sweeps are due on both sides. -/
structure Paired (limit : Instant) (c c' : Controller) : Prop where
  alike : Alike [] c c'
  linked : c.scheduler.Linked
  linked' : c'.scheduler.Linked
  dueCount : c'.scheduler.dueCount limit = c.scheduler.dueCount limit

namespace Paired

variable {c c' : Controller} {limit : Instant}

theorem popDue_none (h : Paired limit c c') (hp : c.scheduler.popDue limit = none) :
    c'.scheduler.popDue limit = none := by
  rw [Scheduler.popDue_eq_none_iff_dueCount] at hp ⊢
  exact h.dueCount.trans hp

theorem fire (h : Paired limit c c') {job : Job Sid Unit} {u : Scheduler Sid Unit}
    (hp : c.scheduler.popDue limit = some (job, u)) :
    ∃ job' u', c'.scheduler.popDue limit = some (job', u') ∧
      ({ c' with scheduler := u' }.fire job'.key).1 = ({ c with scheduler := u }.fire job.key).1 ∧
      Paired limit ({ c with scheduler := u }.fire job.key).2
        ({ c' with scheduler := u' }.fire job'.key).2 := by
  have hcount := h.linked.dueCount_popDue hp
  cases hp' : c'.scheduler.popDue limit with
  | none =>
    have hzero := Scheduler.popDue_eq_none_iff_dueCount.1 hp'
    rw [h.dueCount] at hzero
    omega
  | some due =>
    obtain ⟨job', u'⟩ := due
    have hcount' := h.linked'.dueCount_popDue hp'
    -- the timers may be those of different sessions, for which their sweeps do the same
    have hpopped : Alike [] { c with scheduler := u } { c' with scheduler := u' } :=
      ⟨h.alike.manager, h.alike.site⟩
    obtain ⟨hfault, halike⟩ := hpopped.fire job.key job'.key
    refine ⟨job', u', rfl, hfault, halike, ?_, ?_, ?_⟩
    · rw [scheduler_fire]
      exact (h.linked.popDue hp).1
    · rw [scheduler_fire]
      exact (h.linked'.popDue hp').1
    · rw [scheduler_fire, scheduler_fire]
      have hsame := h.dueCount
      dsimp only
      omega

theorem fireDue (h : Paired limit c c') (n : Nat) :
    (c'.fireDue limit n).1 = (c.fireDue limit n).1 ∧
      Paired limit (c.fireDue limit n).2 (c'.fireDue limit n).2 :=
  fireDue_rel (fun _ _ hx hp => hx.popDue_none hp) (fun _ _ _ _ hx hp => hx.fire hp) h n

end Paired

/-- Two controllers that differ at most in the order of their sessions and of their pending sweeps,
and in what they have told the log. -/
structure Matched (c c' : Controller) : Prop where
  alike : Alike [] c c'
  scheduler : c.scheduler.Agrees (fun _ => True) c'.scheduler
  inFlight : c'.inFlight = c.inFlight
  phases : ∀ sid, c'.sessions.get? sid = c.sessions.get? sid

namespace Matched

variable {c c' c'' : Controller}

theorem refl (h : c.scheduler.Linked) : Matched c c := ⟨.refl c, .refl h, rfl, fun _ => rfl⟩

theorem trans (h : Matched c c') (h' : Matched c' c'') : Matched c c'' :=
  ⟨h.alike.trans h'.alike, h.scheduler.trans h'.scheduler, h'.inFlight.trans h.inFlight,
    fun sid => (h'.phases sid).trans (h.phases sid)⟩

theorem isLive (h : Matched c c') (sid : Sid) :
    c'.sessions.isLive sid = c.sessions.isLive sid := by
  rw [Sessions.isLive, Sessions.isLive, h.phases]

theorem signal (h : Matched c c') (sid : Sid) : Matched (c.signal sid).2 (c'.signal sid).2 where
  alike := h.alike.signal (h.scheduler.isArmed trivial)
  scheduler := by
    rw [scheduler_signal, scheduler_signal]
    exact h.scheduler.arm trivial ()
  inFlight := by rw [inFlight_signal, inFlight_signal, h.inFlight]
  phases k := by
    rw [get?_signal, get?_signal, h.scheduler.isArmed trivial, h.scheduler.delay, h.isLive,
      h.phases]

theorem signals (h : Matched c c') (l : List Sid) :
    Matched (c.run (l.map .signal)).2 (c'.run (l.map .signal)).2 := by
  induction l generalizing c c' with
  | nil => exact h
  | cons sid l ih => exact ih (h.signal sid)

theorem swap (h : c.scheduler.Linked) {a b : Sid} (hne : a ≠ b) :
    Matched ((c.signal a).2.signal b).2 ((c.signal b).2.signal a).2 where
  alike := .signal_comm c hne
  scheduler := by
    simp only [scheduler_signal]
    exact Scheduler.agrees_arm_arm h a b () ()
  inFlight := by simp only [inFlight_signal]
  phases k := by
    simp only [get?_signal, isLive_signal, scheduler_signal, Scheduler.isArmed_arm,
      Scheduler.delay_arm]
    by_cases hka : k = a
    · simp [hka, hne]
    · simp [hka, hne.symm]

theorem perm {l l' : List Sid} (hl : l.Perm l') (h : Matched c c') :
    Matched (c.run (l.map .signal)).2 (c'.run (l'.map .signal)).2 := by
  induction hl generalizing c c' with
  | nil => exact h
  | cons sid _ ih => exact ih (h.signal sid)
  | swap a b l =>
    -- first both sides take one list, then its two first signals change places on one side
    have hsame := h.signals (b :: a :: l)
    by_cases hab : b = a
    · rw [hab] at hsame ⊢
      exact hsame
    · exact hsame.trans ((swap h.scheduler.linked' hab).signals l)
  | trans _ _ ih ih' => exact (ih h).trans (ih' (.refl h.scheduler.linked'))

theorem dues (h : Matched c c') : c'.scheduler.dues.Perm c.scheduler.dues :=
  h.scheduler.linked.dues_perm h.scheduler.linked' fun k => h.scheduler.deadlines k trivial

theorem count (h : Matched c c') : c'.scheduler.count = c.scheduler.count := by
  rw [h.scheduler.linked.count_eq, h.scheduler.linked'.count_eq]
  simpa [Scheduler.dues] using h.dues.length_eq

theorem alike_advance (h : Matched c c') (micros : Nat) :
    (c'.advance micros).1 = (c.advance micros).1 ∧
      Alike [] (c.advance micros).2 (c'.advance micros).2 := by
  have hlength := h.count
  rw [h.scheduler.linked.count_eq, h.scheduler.linked'.count_eq] at hlength
  have hpaired : Paired (c.scheduler.now + micros) c c' :=
    ⟨h.alike, h.scheduler.linked, h.scheduler.linked', h.dues.countP_eq _⟩
  obtain ⟨hfaults, hall⟩ := hpaired.fireDue c.scheduler.loop.timers.length
  simp only [advance, h.scheduler.now, hlength]
  exact ⟨hfaults, hall.alike.manager, hall.alike.site⟩

theorem alike_step (h : Matched c c') (k : Command) :
    (c'.step k).1.isQuiet = (c.step k).1.isQuiet ∧ Alike [] (c.step k).2 (c'.step k).2 := by
  cases k with
  | connect sid args probe =>
    simp only [Controller.step, onConnect]
    split
    · exact ⟨rfl, h.alike.connect sid probe⟩
    · exact ⟨rfl, h.alike⟩
  | release name fault => exact ⟨rfl, h.alike.release (by rw [h.inFlight]) fault⟩
  | disconnect sid args =>
    simp only [Controller.step, onDisconnect]
    split
    · exact ⟨rfl, h.alike.disconnect (h.isLive sid) _⟩
    · exact ⟨rfl, h.alike⟩
  | signal sid =>
    refine ⟨?_, (h.signal sid).alike⟩
    simp only [Controller.step]
    cases (c.signal sid).1 <;> cases (c'.signal sid).1 <;> rfl
  | request q => exact ⟨rfl, (h.alike.request q).2⟩
  | advance micros =>
    obtain ⟨hfaults, halike⟩ := h.alike_advance micros
    exact ⟨by simp only [Controller.step, hfaults], halike⟩
  | shutdown => exact ⟨rfl, h.alike.shutdown h.count⟩

theorem step (h : Matched c c') (k : Command) (hquiet : (c.step k).1.isQuiet) :
    Matched (c.step k).2 (c'.step k).2 := by
  obtain ⟨hanswer, halike⟩ := h.alike_step k
  refine ⟨halike, agrees_step h.scheduler fun _ _ => trivial, ?_, fun sid => ?_⟩
  · rw [inFlight_step, inFlight_step, h.inFlight]
  · refine get?_step_congr h.scheduler trivial (h.phases sid) (fun _ _ _ => ?_) hquiet
      (hanswer.trans hquiet)
    rw [h.inFlight]

theorem run (h : Matched c c') (ks : List Command) (hquiet : ∀ a ∈ (c.run ks).1, a.isQuiet) :
    Matched (c.run ks).2 (c'.run ks).2 := by
  induction ks generalizing c c' with
  | nil => exact h
  | cons k ks ih =>
    rw [run_cons] at hquiet
    exact ih (h.step k (hquiet _ List.mem_cons_self)) fun a ha =>
      hquiet a (List.mem_cons_of_mem _ ha)

end Matched

/-- Nobody tells them apart who looks at connections, sessions, pending sweeps and counters. -/
structure Indistinct (c c' : Controller) : Prop where
  tracked : ∀ i, c'.site.registry i = c.site.registry i
  phases : ∀ sid, c'.sessions.get? sid = c.sessions.get? sid
  isArmed : ∀ sid, c'.scheduler.isArmed sid = c.scheduler.isArmed sid
  deadlines : ∀ sid, c'.scheduler.deadline? sid = c.scheduler.deadline? sid
  counters : ∀ i, c'.site.tallies i = c.site.tallies i

theorem Matched.indistinct {c c' : Controller} (h : Matched c c') : Indistinct c c' where
  tracked := h.alike.site.registries
  phases := h.phases
  isArmed _ := h.scheduler.isArmed trivial
  deadlines sid := h.scheduler.deadlines sid trivial
  counters i := Counters.ext_get fun k => h.alike.site.tallies i k List.not_mem_nil

/-- Signals that come at one instant commute: in whatever state they find the controller, every order
leads to the same. So it does at every later moment, as long as no fault is left to the loop, and
abort calls that end in ordinary faults leave none. -/
theorem signals_commute (c : Controller) (hc : c.IsNew) (past : List Command) (l l' : List Sid)
    (hl : l.Perm l') :
    let x := (c.run past).2
    Indistinct (x.run (l.map .signal)).2 (x.run (l'.map .signal)).2 ∧
    ∀ ks, (∀ a ∈ ((x.run (l.map .signal)).2.run ks).1, a.isQuiet) →
      Indistinct (x.run (l.map .signal ++ ks)).2 (x.run (l'.map .signal ++ ks)).2 := by
  intro x
  have hlinked : x.scheduler.Linked := linked_run (.of_empty hc.pending hc.timers) past
  have hmatched := Matched.perm hl (.refl hlinked)
  refine ⟨hmatched.indistinct, fun ks hquiet => ?_⟩
  rw [run_append, run_append]
  exact (hmatched.run ks hquiet).indistinct

/-- A delay of one second. A connection that records another one when it is aborted, and whose abort
call fails. -/
def restive : Controller where
  site := ({} : Site).setTransport "a"
    { reaction := fun _ => { requests := [.record "b"], fault := some .tooDeep } }
  scheduler := { delay := .whole 1 }

/-- One order finds a live session first, the other one a session that never connected. The sweep
that runs first aborts the one connection, and the next sweep the one that was recorded meanwhile. -/
theorem signals_commute_restive :
    let x := (restive.run [.connect "s" [] .delivered, .request (.record "a")]).2
    let l := ["s", "t", "s", "u"]
    let l' := ["u", "s", "s", "t"]
    let ks := [.advance 1000000, .signal "t"]
    restive.IsNew ∧ l.Perm l' ∧ (∀ a ∈ ((x.run (l.map .signal)).2.run ks).1, a.isQuiet) ∧
    (x.run (l.map .signal ++ ks)).2.swept.map Sweep.sid = ["u", "t", "s"] ∧
    (x.run (l'.map .signal ++ ks)).2.swept.map Sweep.sid = ["t", "s", "u"] ∧
    Indistinct (x.run (l.map .signal ++ ks)).2 (x.run (l'.map .signal ++ ks)).2 := by
  intro x l l' ks
  have hnew : restive.IsNew := ⟨rfl, rfl, rfl, rfl, rfl⟩
  have hperm : l.Perm l' := by decide
  have hquiet : ∀ a ∈ ((x.run (l.map .signal)).2.run ks).1, a.isQuiet := by decide
  have h := signals_commute restive hnew [.connect "s" [] .delivered, .request (.record "a")]
    l l' hperm
  exact ⟨hnew, hperm, hquiet, by decide, by decide, h.2 ks hquiet⟩

end Linkcut.Controller

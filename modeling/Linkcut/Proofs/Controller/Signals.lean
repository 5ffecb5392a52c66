import Linkcut.Proofs.Controller.Steps
import Linkcut.Proofs.Double.Range

/-!
The account of signals. A signal that was counted was a duplicate, or armed a sweep that was
executed, was cancelled, or is pending; unless no timer can be started with the delay, where all
that a signal does is to be counted.
-/

set_option autoImplicit false

namespace Linkcut

/-- No timer can be started with a whole number from the bound of doubles on, and with no other
delay. -/
theorem Delay.starts_iff_lt_bound {d : Delay} :
    d.starts ↔ ∀ n, d = .whole n → n < Double.bound := by
  rw [starts_iff]
  cases d with
  | flag b => simp [startFault?]
  | real x => simp [startFault?]
  | whole n =>
    have hbound := Double.ofInt?_eq_none_iff n
    cases hx : Double.ofInt? n with
    | none => simpa [startFault?, hx] using hbound.1 hx
    | some x =>
      have hlt : ¬ Double.bound ≤ n := fun hle => by
        rw [hbound.2 hle] at hx
        cases hx
      simpa [startFault?, hx] using hlt

theorem Delay.startFault?_of_bound_le {n : Nat} (h : Double.bound ≤ n) :
    (whole n).startFault? = some .integerTooLarge := by
  simp only [startFault?, (Double.ofInt?_eq_none_iff n).2 h]

namespace Controller

/-- As long as abort calls end in ordinary faults at most, the counters of signals and sweeps and
the number of pending sweeps agree. -/
structure Accounted (c : Controller) : Prop where
  linked : c.scheduler.Linked
  balance : c.site.Mild → c.tally .signals =
    c.tally .duplicates + c.tally .executed + c.tally .cancelled + c.scheduler.count

namespace Accounted

variable {c c' : Controller}

theorem of_new (hc : c.IsNew) (h0 : c.site.tallies c.manager.counters = .zero) :
    c.Accounted where
  linked := .of_empty hc.pending hc.timers
  balance _ := by simp [tally, h0, Scheduler.count, hc.pending]

theorem of_aside (hc : c.Accounted) (h : Aside sessionCounters c c') : c'.Accounted where
  linked := by rw [h.scheduler]; exact hc.linked
  balance hm := by
    have hbefore := hc.balance fun e he => hm e (h.suffix.subset he)
    rw [h.scheduler, h.tally (by decide), h.tally (by decide), h.tally (by decide),
      h.tally (by decide)]
    exact hbefore

theorem request (hc : c.Accounted) (q : Request) : (c.request q).2.Accounted := by
  have hg : c.site.Grows (c.request q).2.site := Site.grows_perform c.site _ _ q
  have htally : ∀ k, k.ofConnections = false → (c.request q).2.tally k = c.tally k :=
    fun k hk => hg.tallies c.manager.counters k hk
  refine ⟨hc.linked, fun hm => ?_⟩
  rw [htally _ rfl, htally _ rfl, htally _ rfl, htally _ rfl]
  exact hc.balance (hm.of_grows hg)

theorem signal (hc : c.Accounted) (hs : c.scheduler.delay.starts) (sid : Sid) :
    (c.signal sid).2.Accounted := by
  have h := aside_signal c sid
  refine ⟨by rw [scheduler_signal]; exact hc.linked.arm, fun hm => ?_⟩
  have hbefore := hc.balance fun e he => hm e (h.suffix.subset he)
  simp only [scheduler_signal, tally_signal, reduceCtorEq, if_true, if_false, true_and, false_and]
  cases ha : c.scheduler.isArmed sid with
  | true =>
    have harm : (c.scheduler.arm sid ()).2 = c.scheduler := by rw [Scheduler.arm_of_armed ha]
    rw [harm, if_pos rfl]
    omega
  | false =>
    have harm : (c.scheduler.arm sid ()).2 = c.scheduler.enter sid () := by
      rw [Scheduler.arm_of_free ha (Delay.starts_iff.1 hs)]
    rw [harm, Scheduler.count_enter, if_neg (by simp)]
    omega

theorem shutdown (hc : c.Accounted) : c.shutdown.2.Accounted := by
  have h := aside_shutdown c
  have htally : ∀ k ∉ [Counter.cancelled], c.shutdown.2.tally k = c.tally k :=
    fun k hk => h.tally hk
  refine ⟨by rw [scheduler_shutdown]; exact hc.linked.cancelAll, fun hm => ?_⟩
  have hbefore := hc.balance fun e he => hm e (h.suffix.subset he)
  have hnone : c.scheduler.cancelAll.2.count = 0 := rfl
  rw [scheduler_shutdown, tally_shutdown, hnone, htally .signals (by decide),
    htally .duplicates (by decide), htally .executed (by decide)]
  omega

/-- A timer that comes due takes one sweep from those pending to those executed. -/
theorem fire (hc : c.Accounted) {limit : Instant} {job : Job Sid Unit}
    {scheduler : Scheduler Sid Unit} (hp : c.scheduler.popDue limit = some (job, scheduler)) :
    ({ c with scheduler }.fire job.key).2.Accounted := by
  obtain ⟨hlinked, hcount⟩ := hc.linked.popDue hp
  have hsched : ({ c with scheduler }.fire job.key).2.scheduler = scheduler := scheduler_fire _ _
  refine ⟨by rw [hsched]; exact hlinked, fun hm => ?_⟩
  have hbefore := hc.balance fun e he => hm e ((suffix_fire _ _).subset he)
  -- the drain may record, forget and drain anew, but touches no counter of signals or sweeps
  have hother : ∀ k, k.ofConnections = false → k ≠ .executed →
      ({ c with scheduler }.fire job.key).2.tally k = c.tally k :=
    fun k hk hne => tally_fire_of_ne { c with scheduler } job.key hk hne
  have hfired : ({ c with scheduler }.fire job.key).2.tally .executed = c.tally .executed + 1 :=
    tally_fire { c with scheduler } job.key hm
  rw [hsched, hfired, hother .signals rfl (by decide), hother .duplicates rfl (by decide),
    hother .cancelled rfl (by decide)]
  omega

theorem fireDue (hc : c.Accounted) (limit : Instant) (n : Nat) :
    (c.fireDue limit n).2.Accounted :=
  fireDue_invariant c Accounted (fun _ _ _ _ hp hx => hx.fire hp) hc limit n

theorem step (hc : c.Accounted) (hs : c.scheduler.delay.starts) (k : Command) :
    (c.step k).2.Accounted := by
  cases k with
  | connect | release | disconnect => exact hc.of_aside (aside_step c rfl)
  | signal sid => exact hc.signal hs sid
  | request q => exact hc.request q
  | advance micros =>
    have hdue := hc.fireDue (c.scheduler.now + micros) c.scheduler.loop.timers.length
    exact ⟨hdue.linked.passTo _, hdue.balance⟩
  | shutdown => exact hc.shutdown

theorem run (hc : c.Accounted) (hs : c.scheduler.delay.starts) (ks : List Command) :
    (c.run ks).2.Accounted := by
  induction ks generalizing c with
  | nil => exact hc
  | cons k ks ih =>
    have hafter : (c.step k).2.scheduler.delay.starts := by rwa [delay_step]
    exact ih (hc.step hs k) hafter

end Accounted

/-- No timer can be started, and none waits. -/
structure Sweepless (f : Fault) (c : Controller) : Prop where
  startFault : c.scheduler.delay.startFault? = some f
  pending : c.scheduler.pending = []
  timers : c.scheduler.loop.timers = []

/-- The counters of what becomes of a signal. -/
def outcomeCounters : List Counter := [.duplicates, .executed, .cancelled]

namespace Sweepless

variable {f : Fault} {c : Controller}

theorem count_eq (hc : c.Sweepless f) : c.scheduler.count = 0 := by
  simp [Scheduler.count, hc.pending]

/-- The handler fails once it has counted the signal. -/
theorem signal_eq (hc : c.Sweepless f) (sid : Sid) :
    c.signal sid = (some f, c.count .signals 1) :=
  c.signal_of_fault sid (by simp [Scheduler.isArmed, hc.pending]) hc.startFault

theorem fireDue_eq (hc : c.Sweepless f) (limit : Instant) (n : Nat) :
    c.fireDue limit n = ([], c) := by
  have hnone : c.scheduler.popDue limit = none := by
    simp [Scheduler.popDue_eq_none_iff, hc.timers, Loop.earliest]
  cases n with
  | zero => rfl
  | succ n => rw [fireDue, hnone]

theorem advance_eq (hc : c.Sweepless f) (micros : Nat) : c.advance micros =
    ([], { c with scheduler := c.scheduler.passTo (c.scheduler.now + micros) }) := by
  simp only [advance, hc.fireDue_eq]

theorem shutdown_eq (hc : c.Sweepless f) : c.shutdown = (0, c) := by
  have hcancel : c.scheduler.cancelAll = (0, c.scheduler) := by
    rw [Scheduler.cancelAll, hc.count_eq, hc.pending]
    exact congrArg (fun p => (0, { c.scheduler with pending := p })) hc.pending.symm
  simp [shutdown, hcancel]

/-- Commands leave it so, and no signal comes to anything. -/
theorem step (hc : c.Sweepless f) (k : Command) : (c.step k).2.Sweepless f ∧
    ∀ n ∈ outcomeCounters, (c.step k).2.tally n = c.tally n := by
  have hsession : k.isOfSession → (c.step k).2.Sweepless f ∧
      ∀ n ∈ outcomeCounters, (c.step k).2.tally n = c.tally n := by
    intro hk
    have haside := aside_step c hk
    refine ⟨?_, fun n hn => haside.tally fun hin => ?_⟩
    · exact ⟨by rw [haside.scheduler]; exact hc.startFault,
        by rw [haside.scheduler]; exact hc.pending, by rw [haside.scheduler]; exact hc.timers⟩
    · revert n
      decide
  cases k with
  | connect | release | disconnect => exact hsession rfl
  | signal sid =>
    rw [Controller.step, hc.signal_eq]
    refine ⟨⟨hc.startFault, hc.pending, hc.timers⟩, fun n hn => ?_⟩
    rw [tally_count, if_neg]
    rintro rfl
    simp [outcomeCounters] at hn
  | request q =>
    have hg : c.site.Grows (c.request q).2.site := Site.grows_perform c.site _ _ q
    refine ⟨⟨hc.startFault, hc.pending, hc.timers⟩, fun n hn => hg.tallies c.manager.counters n ?_⟩
    revert n
    decide
  | advance micros =>
    rw [Controller.step, hc.advance_eq]
    exact ⟨⟨hc.startFault, hc.pending, hc.timers⟩, fun _ _ => rfl⟩
  | shutdown =>
    rw [Controller.step, hc.shutdown_eq]
    exact ⟨hc, fun _ _ => rfl⟩

theorem run (hc : c.Sweepless f) (ks : List Command) : (c.run ks).2.Sweepless f ∧
    ∀ n ∈ outcomeCounters, (c.run ks).2.tally n = c.tally n := by
  induction ks generalizing c with
  | nil => exact ⟨hc, fun _ _ => rfl⟩
  | cons k ks ih =>
    obtain ⟨hnext, hsame⟩ := hc.step k
    obtain ⟨hend, hrest⟩ := ih hnext
    exact ⟨hend, fun n hn => (hrest n hn).trans (hsame n hn)⟩

end Sweepless

def Command.isSignal : Command → Bool
  | .signal _ => true
  | _ => false

theorem tally_signals_step (c : Controller) (k : Command) :
    (c.step k).2.tally .signals = c.tally .signals + if k.isSignal then 1 else 0 := by
  have hsession : k.isOfSession → (c.step k).2.tally .signals = c.tally .signals :=
    fun hk => (aside_step c hk).tally (by decide)
  cases k with
  | connect | release | disconnect => simp [hsession rfl, Command.isSignal]
  | signal sid => simpa [Command.isSignal, step] using tally_signal c sid .signals
  | request q =>
    have hg : c.site.Grows (c.request q).2.site := Site.grows_perform c.site _ _ q
    have hsame : (c.step (.request q)).2.tally .signals = c.tally .signals :=
      hg.tallies c.manager.counters .signals rfl
    simp [hsame, Command.isSignal]
  | advance micros =>
    have hsame : (c.step (.advance micros)).2.tally .signals = c.tally .signals :=
      c.tally_fireDue_of_ne rfl (by decide) _ _
    simp [hsame, Command.isSignal]
  | shutdown =>
    have hsame : (c.step .shutdown).2.tally .signals = c.tally .signals :=
      (aside_shutdown c).tally (by decide)
    simp [hsame, Command.isSignal]

theorem tally_signals_run (c : Controller) (ks : List Command) :
    (c.run ks).2.tally .signals = c.tally .signals + ks.countP Command.isSignal := by
  induction ks generalizing c with
  | nil => simp
  | cons k ks ih =>
    rw [run_cons, ih, tally_signals_step, List.countP_cons]
    split
    · omega
    · omega

/-- The moments at which no sweep is executing, when these commands were obeyed: after the last of
them, and after any of the sweeps that come due while the clock is advanced then. -/
def Rests (c : Controller) (ks : List Command) (x : Controller) : Prop :=
  ∃ limit n, x = ((c.run ks).2.fireDue limit n).2

/-- Whenever no sweep is executing, every signal was counted. As many signals were counted as were
duplicates and as sweeps were executed, were cancelled or are pending, if and only if the delay is
no whole number from the bound of doubles on, or no signal came; it does not matter whether the
handler of the signal came to its end. With a larger whole number the handler fails once it has
counted the signal, and there is neither a duplicate nor a sweep. -/
theorem signals_accounted (c : Controller) (hc : c.IsNew)
    (h0 : c.site.tallies c.manager.counters = .zero) (ks : List Command) (x : Controller)
    (hx : c.Rests ks x) (mild : x.site.Mild) :
    x.tally .signals = ks.countP Command.isSignal ∧
    (x.tally .signals =
        x.tally .duplicates + x.tally .executed + x.tally .cancelled + x.scheduler.count ↔
      (∀ n, c.scheduler.delay = .whole n → n < Double.bound) ∨
        ks.countP Command.isSignal = 0) ∧
    ∀ n, c.scheduler.delay = .whole n → Double.bound ≤ n →
      x.tally .duplicates = 0 ∧ x.tally .executed = 0 ∧ x.tally .cancelled = 0 ∧
      x.scheduler.count = 0 ∧ ∀ sid, x.signal sid = (some .integerTooLarge, x.count .signals 1) := by
  obtain ⟨limit, n, rfl⟩ := hx
  have hsignals : ((c.run ks).2.fireDue limit n).2.tally .signals =
      ks.countP Command.isSignal := by
    rw [tally_fireDue_of_ne _ rfl (by decide), tally_signals_run]
    simp [tally, h0]
  have hnone : ∀ {f}, c.scheduler.delay.startFault? = some f →
      ((c.run ks).2.fireDue limit n).2.Sweepless f ∧
        ∀ k ∈ outcomeCounters, ((c.run ks).2.fireDue limit n).2.tally k = 0 := by
    intro f hf
    have hnew : c.Sweepless f := ⟨hf, hc.pending, hc.timers⟩
    obtain ⟨hrun, hsame⟩ := hnew.run ks
    rw [hrun.fireDue_eq]
    exact ⟨hrun, fun k hk => (hsame k hk).trans (by simp [tally, h0])⟩
  refine ⟨hsignals, ?_, fun m hm hle => ?_⟩
  · rw [← Delay.starts_iff_lt_bound]
    cases hf : c.scheduler.delay.startFault? with
    | none =>
      have hs : c.scheduler.delay.starts := Delay.starts_iff.2 hf
      exact iff_of_true ((((Accounted.of_new hc h0).run hs ks).fireDue limit n).balance mild)
        (.inl hs)
    | some f =>
      obtain ⟨h, hzero⟩ := hnone hf
      rw [hsignals, hzero .duplicates (by decide), hzero .executed (by decide),
        hzero .cancelled (by decide), h.count_eq, Delay.starts_of_fault hf]
      simp
  · obtain ⟨h, hzero⟩ := hnone (hm ▸ Delay.startFault?_of_bound_le hle)
    exact ⟨hzero .duplicates (by decide), hzero .executed (by decide),
      hzero .cancelled (by decide), h.count_eq, h.signal_eq⟩

/-- A delay of one second, and a connection whose abort call fails. -/
def frail : Controller where
  site := ({} : Site).setTransport "a" { reaction := fun _ => { fault := some .tooDeep } }
  scheduler := { delay := .whole 1 }

/-- One duplicate, two sweeps of which the first finds a connection, one that is cancelled, and one
that stays pending. -/
def frailRun : List Command :=
  [.request (.record "a"), .connect "s" [] .delivered, .signal "s", .signal "s", .signal "t",
    .advance 1000000, .signal "t", .shutdown, .disconnect "s" [], .signal "s"]

theorem signals_accounted_frail :
    frail.IsNew ∧ frail.site.tallies frail.manager.counters = .zero ∧
    (frail.run frailRun).2.site.Mild ∧ (frail.run frailRun).2.tally .signals = 5 ∧
    5 = (frail.run frailRun).2.tally .duplicates + (frail.run frailRun).2.tally .executed +
      (frail.run frailRun).2.tally .cancelled + (frail.run frailRun).2.scheduler.count := by
  have hnew : frail.IsNew := ⟨rfl, rfl, rfl, rfl, rfl⟩
  have hmild : (frail.run frailRun).2.site.Mild := by decide
  have h := signals_accounted frail hnew rfl frailRun (frail.run frailRun).2 ⟨0, 0, rfl⟩ hmild
  have hsignals : (frail.run frailRun).2.tally .signals = 5 := h.1.trans (by decide)
  have hstarts : ∀ n, frail.scheduler.delay = .whole n → n < Double.bound :=
    Delay.starts_iff_lt_bound.1 (by decide)
  exact ⟨hnew, rfl, hmild, hsignals, hsignals ▸ h.2.1.2 (.inl hstarts)⟩

/-- A delay that is accepted, and is past all doubles. -/
def endless : Controller where
  scheduler := { delay := .whole (10 ^ 200 * 10 ^ 200) }

/-- The handler of a signal fails, and the signal is counted though nothing is armed. -/
theorem endless_unaccounted :
    Delay.ofValue (.int (10 ^ 200 * 10 ^ 200)) = .ok endless.scheduler.delay ∧ endless.IsNew ∧
    endless.site.tallies endless.manager.counters = .zero ∧
    (endless.step (.signal "s")).1 = .ended (some .integerTooLarge) ∧
    (endless.run [.signal "s"]).2.site.Mild ∧
    ¬ (endless.run [.signal "s"]).2.tally .signals =
      (endless.run [.signal "s"]).2.tally .duplicates +
        (endless.run [.signal "s"]).2.tally .executed +
        (endless.run [.signal "s"]).2.tally .cancelled +
        (endless.run [.signal "s"]).2.scheduler.count := by
  have hnew : endless.IsNew := ⟨rfl, rfl, rfl, rfl, rfl⟩
  have hbound : Double.bound ≤ 10 ^ 200 * 10 ^ 200 := by decide +kernel
  have h : endless.Sweepless .integerTooLarge :=
    ⟨Delay.startFault?_of_bound_le hbound, rfl, rfl⟩
  have hstep : endless.step (.signal "s") =
      (.ended (some .integerTooLarge), endless.count .signals 1) := by
    rw [step, h.signal_eq]
  have hrun : (endless.run [.signal "s"]).2 = endless.count .signals 1 := by
    rw [run_cons, hstep]
    rfl
  refine ⟨rfl, hnew, rfl, congrArg Prod.fst hstep, ?_, ?_⟩
  · rw [hrun]
    decide
  · rw [hrun]
    decide

/-- A delay that never ends is in no number of milliseconds: the handler fails, its timer waits. -/
example : let x := ({ scheduler := { delay := .real (.infinite false) } } : Controller).signal "s"
    x.1.isSome ∧ x.2.scheduler.count = 1 := by decide

end Controller
end Linkcut

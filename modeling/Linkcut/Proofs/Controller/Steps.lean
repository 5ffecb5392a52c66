import Linkcut.Controller.Command
import Linkcut.Proofs.Scheduler.Linked
import Linkcut.Proofs.Site.Grows
import Linkcut.Proofs.Site.Requests

/-!
What the commands to a controller do. Those about sessions leave the connections and the pending
sweeps alone; a signal arms one sweep at most, a shutdown cancels all, and time takes away those
that it runs.
-/

set_option autoImplicit false

namespace Linkcut.Controller

/-- Nothing was asked of the controller so far. Its site and its clock may have a past. -/
structure IsNew (c : Controller) : Prop where
  sessions : c.sessions = .empty
  inFlight : c.inFlight = []
  pending : c.scheduler.pending = []
  timers : c.scheduler.loop.timers = []
  swept : c.swept = []

/-- The value of a counter of the controller. -/
def tally (c : Controller) (k : Counter) : Int := (c.site.tallies c.manager.counters).get k

/-- From `c` to `c'` nothing changed but sessions, probes, these counters and the log. -/
structure Aside (changed : List Counter) (c c' : Controller) : Prop where
  scheduler : c'.scheduler = c.scheduler
  manager : c'.manager = c.manager
  swept : c'.swept = c.swept
  registries : c'.site.registries = c.site.registries
  transports : c'.site.transports = c.site.transports
  counters : ∀ i, ∀ k ∉ changed, (c'.site.tallies i).get k = (c.site.tallies i).get k
  journal : ∃ es : List Log.Entry, c'.site.journal = es.map Event.logged ++ c.site.journal

namespace Aside

variable {changed : List Counter} {c c' c'' : Controller}

theorem refl (c : Controller) : Aside changed c c :=
  ⟨rfl, rfl, rfl, rfl, rfl, fun _ _ _ => rfl, [], rfl⟩

theorem trans (h : Aside changed c c') (h' : Aside changed c' c'') : Aside changed c c'' where
  scheduler := h'.scheduler.trans h.scheduler
  manager := h'.manager.trans h.manager
  swept := h'.swept.trans h.swept
  registries := h'.registries.trans h.registries
  transports := h'.transports.trans h.transports
  counters i k hk := (h'.counters i k hk).trans (h.counters i k hk)
  journal := by
    obtain ⟨es, hes⟩ := h.journal
    obtain ⟨es', hes'⟩ := h'.journal
    exact ⟨es' ++ es, by simp [hes, hes']⟩

theorem tally (h : Aside changed c c') {k : Counter} (hk : k ∉ changed) :
    c'.tally k = c.tally k := by
  rw [Controller.tally, h.manager]
  exact h.counters _ k hk

theorem suffix (h : Aside changed c c') : c.site.journal <:+ c'.site.journal := by
  obtain ⟨es, hes⟩ := h.journal
  exact ⟨es.map Event.logged, hes.symm⟩

theorem registry (h : Aside changed c c') (i : Nat) : c'.site.registry i = c.site.registry i := by
  simp only [Site.registry, h.registries]

/-- Whoever does not look at the log sees the same. -/
theorem observed (h : Aside changed c c') {β : Type} (see : Event → Option β)
    (hl : ∀ entry, see (.logged entry) = none) : c'.site.observed see = c.site.observed see := by
  obtain ⟨es, hes⟩ := h.journal
  have hnone : es.reverse.filterMap (see ∘ Event.logged) = [] :=
    List.filterMap_eq_nil_iff.2 fun e _ => hl e
  simp only [Site.observed, Site.events, hes, List.reverse_append, List.filterMap_append,
    ← List.map_reverse, List.filterMap_map, hnone, List.append_nil]

end Aside

section

variable {changed : List Counter} (c : Controller) (sid : Sid)

theorem aside_entry (e : Log.Entry) : Aside changed c { c with site := c.site.log e } :=
  ⟨rfl, rfl, rfl, rfl, rfl, fun _ _ _ => rfl, [e], rfl⟩

theorem aside_log (level : Level) (message : String) (fields : List (String × Value)) :
    Aside changed c (c.log level message fields) := aside_entry c _

theorem aside_count {k : Counter} (n : Int) (hk : k ∈ changed) : Aside changed c (c.count k n) := by
  refine ⟨rfl, rfl, rfl, rfl, rfl, fun i j hj => ?_, [], rfl⟩
  have hne : j ≠ k := fun e => hj (e ▸ hk)
  by_cases hi : i = c.manager.counters <;> simp [count, hi, hne]

/-- Sessions, probes and messages are no concern of connections and sweeps. -/
theorem aside_sessions (sessions : Sessions) (inFlight : List (String × Sid))
    (sent : List Message) : Aside changed c { c with sessions, inFlight, sent } :=
  ⟨rfl, rfl, rfl, rfl, rfl, fun _ _ _ => rfl, [], rfl⟩

theorem aside_setPhase (p : Phase) : Aside changed c (c.setPhase sid p) :=
  aside_sessions c _ c.inFlight c.sent

theorem aside_changePhase (p : Phase) : Aside changed c (c.changePhase sid p) :=
  aside_sessions c _ c.inFlight c.sent

theorem aside_send : Aside changed c (c.send sid) := aside_sessions c c.sessions c.inFlight _

@[simp] theorem tally_log (level : Level) (message : String) (fields : List (String × Value))
    (k : Counter) : (c.log level message fields).tally k = c.tally k := rfl

@[simp] theorem tally_count (j k : Counter) (n : Int) :
    (c.count k n).tally j = if j = k then c.tally j + n else c.tally j := by
  simp [tally, count]

@[simp] theorem tally_changePhase (p : Phase) (k : Counter) :
    (c.changePhase sid p).tally k = c.tally k := rfl

end

def sessionCounters : List Counter := [.established, .ended, .probesSent, .probesFailed]

section

variable (c : Controller) (sid : Sid)

theorem aside_afterProbe : Aside sessionCounters c (c.afterProbe sid) := by
  unfold afterProbe
  split
  · exact aside_setPhase c sid _
  · exact .refl c

theorem aside_endProbe (fault : Option Fault) :
    Aside sessionCounters c (c.endProbe sid fault).2 := by
  cases fault with
  | none => exact (aside_count c 1 (by decide)).trans (aside_afterProbe _ sid)
  | some f =>
    rw [endProbe]
    split
    · exact ((aside_count c 1 (by decide)).trans (aside_log _ _ _ _)).trans (aside_afterProbe _ sid)
    · exact .refl c

/-- The controller when a session has been entered and its probe goes out. -/
def opened (c : Controller) (sid : Sid) : Controller :=
  let c := (c.setPhase sid .established).count .established 1
  let c := c.log .info "Client connected"
    [("sid", .str sid), ("live_connections", .int c.live)]
  (c.setPhase sid .probeSent).send sid

/-- The caller is told how a probe ended, and the controller stays as it is. -/
theorem endProbe_told (r : Option Fault × Controller) :
    (match r with
      | (none, c) => (Except.ok Progress.finished, c)
      | (some f, c) => (.error f, c)).2 = r.2 := by
  obtain ⟨_ | f, c⟩ := r
  · rfl
  · rfl

/-- Once its session is entered a probe waits, or comes to its end at once. -/
theorem connect_snd (probe : Probe) : (c.connect sid probe).2 =
    match probe with
    | .held name => { c.opened sid with inFlight := (c.opened sid).inFlight ++ [(name, sid)] }
    | .delivered => ((c.opened sid).endProbe sid none).2
    | .failed f => ((c.opened sid).endProbe sid (some f)).2 := by
  cases probe with
  | held name => rfl
  | delivered => rfl
  | failed f => exact endProbe_told _

theorem release_snd (name : String) (fault : Option Fault) : (c.release name fault).2 =
    match c.inFlight.lookup name with
    | none => c
    | some sid =>
      ({ c with inFlight := c.inFlight.eraseP (·.1 == name) }.endProbe sid fault).2 := by
  unfold release
  cases c.inFlight.lookup name with
  | none => rfl
  | some sid => exact endProbe_told _

theorem aside_opened : Aside sessionCounters c (c.opened sid) :=
  (((aside_setPhase c sid .established).trans (aside_count _ 1 (by decide))).trans
    (aside_log _ _ _ _)).trans ((aside_setPhase _ sid .probeSent).trans (aside_send _ sid))

theorem aside_connect (probe : Probe) : Aside sessionCounters c (c.connect sid probe).2 := by
  have hopened := aside_opened c sid
  rw [connect_snd]
  cases probe with
  | held name => exact hopened.trans (aside_sessions _ _ _ _)
  | delivered => exact hopened.trans (aside_endProbe _ sid none)
  | failed f => exact hopened.trans (aside_endProbe _ sid (some f))

theorem aside_release (name : String) (fault : Option Fault) :
    Aside sessionCounters c (c.release name fault).2 := by
  rw [release_snd]
  split
  · exact .refl c
  · exact (aside_sessions c c.sessions _ c.sent).trans (aside_endProbe _ _ fault)

theorem aside_disconnect (reason : Value) :
    Aside sessionCounters c (c.disconnect sid reason) := by
  unfold disconnect
  split
  · exact .refl c
  · exact ((aside_sessions c _ c.inFlight c.sent).trans (aside_count _ 1 (by decide))).trans
      (aside_log _ _ _ _)

end

def Command.isOfSession : Command → Bool
  | .connect .. | .release .. | .disconnect .. => true
  | _ => false

theorem aside_step (c : Controller) {k : Command} (hk : k.isOfSession) :
    Aside sessionCounters c (c.step k).2 := by
  cases k with
  | connect sid args probe =>
    simp only [step, onConnect]
    split
    · exact aside_connect c sid probe
    · exact .refl c
  | release name fault => exact aside_release c name fault
  | disconnect sid args =>
    simp only [step, onDisconnect]
    split
    · exact aside_disconnect c sid _
    · exact .refl c
  | _ => cases hk

section

variable (c : Controller) (sid : Sid)

theorem signal_of_armed (h : c.scheduler.isArmed sid) : c.signal sid =
    (none, ((c.count .signals 1).count .duplicates 1).log .info
      "Disconnect already scheduled, ignoring signal" [("sid", .str sid)]) := by
  have harm : (c.count .signals 1).scheduler.arm sid () = (.ok false, c.scheduler) :=
    Scheduler.arm_of_armed h
  simp only [signal, harm]

theorem signal_of_fault (h : c.scheduler.isArmed sid = false) {f : Fault}
    (hf : c.scheduler.delay.startFault? = some f) : c.signal sid = (some f, c.count .signals 1) := by
  have harm : (c.count .signals 1).scheduler.arm sid () = (.error f, c.scheduler) :=
    Scheduler.arm_of_fault h hf
  simp only [signal, harm]

/-- The state in which the handler of a signal leaves the controller, but for the log, where a sweep
is armed. -/
def armed (c : Controller) (sid : Sid) : Controller :=
  { c.count .signals 1 with scheduler := c.scheduler.enter sid () }.changePhase sid .disconnectArmed

theorem signal_of_free (h : c.scheduler.isArmed sid = false)
    (hs : c.scheduler.delay.startFault? = none) : c.signal sid =
    match c.delayMillis with
    | .error f => (some f, c.armed sid)
    | .ok n => (none, (c.armed sid).log .info s!"Will disconnect all clients in {n} ms"
        [("sid", .str sid)]) := by
  have harm : (c.count .signals 1).scheduler.arm sid () = (.ok true, c.scheduler.enter sid ()) :=
    Scheduler.arm_of_free h hs
  simp only [signal, harm]
  rfl

/-- Why the handler of a signal fails where no sweep is pending: no sweep can be armed, or the
handler cannot tell the delay of the sweep that it armed. -/
def signalFault? (c : Controller) : Option Fault :=
  match c.scheduler.delay.startFault?, c.delayMillis with
  | some f, _ => some f
  | none, .error f => some f
  | none, .ok _ => none

theorem signal_fst :
    (c.signal sid).1 = if c.scheduler.isArmed sid then none else c.signalFault? := by
  cases h : c.scheduler.isArmed sid with
  | true => rw [c.signal_of_armed sid h]; rfl
  | false =>
    rw [signalFault?]
    cases hf : c.scheduler.delay.startFault? with
    | some f => rw [c.signal_of_fault sid h hf]; rfl
    | none =>
      rw [c.signal_of_free sid h hf]
      cases c.delayMillis <;> rfl

/-- Once its sweep is armed a signal tells the log at most. -/
theorem aside_armed {changed : List Counter} (h : c.scheduler.isArmed sid = false)
    (hs : c.scheduler.delay.startFault? = none) :
    Aside changed (c.armed sid) (c.signal sid).2 := by
  rw [c.signal_of_free sid h hs]
  split
  · exact .refl _
  · exact aside_log _ _ _ _

/-- A signal arms a sweep of its session if it can, counts, and tells the log. -/
theorem aside_signal : Aside [.signals, .duplicates]
    { c with scheduler := (c.scheduler.arm sid ()).2 } (c.signal sid).2 := by
  cases h : c.scheduler.isArmed sid with
  | true =>
    have hcount : Aside [.signals, .duplicates] c ((c.count .signals 1).count .duplicates 1) :=
      (aside_count c 1 (by simp)).trans (aside_count _ 1 (by simp))
    rw [c.signal_of_armed sid h, Scheduler.arm_of_armed h]
    exact hcount.trans (aside_log _ _ _ _)
  | false =>
    cases hf : c.scheduler.delay.startFault? with
    | some f =>
      rw [c.signal_of_fault sid h hf, Scheduler.arm_of_fault h hf]
      exact aside_count c 1 (by simp)
    | none =>
      have harmed : Aside [.signals, .duplicates]
          { c with scheduler := c.scheduler.enter sid () } (c.armed sid) :=
        (aside_count { c with scheduler := c.scheduler.enter sid () } 1 (by simp)).trans
          (aside_changePhase _ sid _)
      rw [Scheduler.arm_of_free h hf]
      exact harmed.trans (aside_armed c sid h hf)

@[simp] theorem scheduler_signal :
    (c.signal sid).2.scheduler = (c.scheduler.arm sid ()).2 := (aside_signal c sid).scheduler

/-- The sessions are told of a sweep that was armed, and of nothing else. -/
theorem sessions_signal : (c.signal sid).2.sessions =
    if c.scheduler.isArmed sid = false ∧ c.scheduler.delay.starts then
      c.sessions.change sid .disconnectArmed
    else c.sessions := by
  cases h : c.scheduler.isArmed sid with
  | true => rw [c.signal_of_armed sid h]; rfl
  | false =>
    cases hf : c.scheduler.delay.startFault? with
    | some f =>
      rw [c.signal_of_fault sid h hf, Delay.starts_of_fault hf]
      rfl
    | none =>
      rw [c.signal_of_free sid h hf, Delay.starts_iff.2 hf]
      split <;> rfl

theorem inFlight_signal : (c.signal sid).2.inFlight = c.inFlight := by
  cases h : c.scheduler.isArmed sid with
  | true => rw [c.signal_of_armed sid h]; rfl
  | false =>
    cases hf : c.scheduler.delay.startFault? with
    | some f => rw [c.signal_of_fault sid h hf]; rfl
    | none =>
      rw [c.signal_of_free sid h hf]
      split <;> rfl

/-- Every signal is counted, and one whose sweep is pending is counted as a duplicate too. -/
theorem tally_signal (k : Counter) : (c.signal sid).2.tally k =
    c.tally k + (if k = .signals then 1 else 0) +
      if k = .duplicates ∧ c.scheduler.isArmed sid then 1 else 0 := by
  cases h : c.scheduler.isArmed sid with
  | true =>
    rw [c.signal_of_armed sid h]
    by_cases hs : k = .signals <;> by_cases hd : k = .duplicates <;> simp [hs, hd]
  | false =>
    have hcount : (c.count .signals 1).tally k = c.tally k + if k = .signals then 1 else 0 := by
      rw [tally_count]
      split
      · rfl
      · exact (Int.add_zero _).symm
    cases hf : c.scheduler.delay.startFault? with
    | some f => simp [c.signal_of_fault sid h hf, hcount]
    | none =>
      have harmed : (c.armed sid).tally k = (c.count .signals 1).tally k := rfl
      rw [c.signal_of_free sid h hf]
      split
      · simp [harmed, hcount]
      · simp [harmed, hcount]

theorem aside_shutdown :
    Aside [.cancelled] { c with scheduler := c.scheduler.cancelAll.2 } c.shutdown.2 := by
  simp only [shutdown]
  split
  · exact .refl _
  · exact (aside_count _ _ (by simp)).trans (aside_log _ _ _ _)

@[simp] theorem scheduler_shutdown : c.shutdown.2.scheduler = c.scheduler.cancelAll.2 :=
  (aside_shutdown c).scheduler

theorem shutdown_fst : c.shutdown.1 = c.scheduler.count := by
  have hn : c.scheduler.cancelAll.1 = c.scheduler.count := rfl
  simp only [shutdown, hn]
  split
  · rename_i hz
    exact hz.symm
  · rfl

theorem tally_shutdown :
    c.shutdown.2.tally .cancelled = c.tally .cancelled + c.scheduler.count := by
  have hn : c.scheduler.cancelAll.1 = c.scheduler.count := rfl
  simp only [shutdown, hn]
  split
  · rename_i hz
    rw [hz]
    exact (Int.add_zero _).symm
  · rw [tally_log, tally_count, if_pos rfl]
    rfl

/-- A sweep is a drain by the manager; it counts, and tells the log. -/
theorem aside_sweep : Aside [.executed] ((c.beginSweep sid).request .drain).2 (c.sweep sid).2 := by
  have hsite : ((c.beginSweep sid).request .drain).2 = { c.beginSweep sid with
      site := (Site.sweep (Site.abort (.manager c.manager) Site.nestingLimit)
        (c.beginSweep sid).site (.manager c.manager)).2 } := rfl
  rw [hsite]
  simp only [sweep]
  split
  · rename_i f u heq
    rw [heq]
    exact .refl _
  · rename_i n u heq
    rw [heq]
    exact ((aside_count _ 1 (by simp)).trans (aside_changePhase _ sid _)).trans
      (aside_log _ _ _ _)

theorem aside_fire : Aside [.executed] ((c.beginSweep sid).request .drain).2 (c.fire sid).2 := by
  have hsweep := aside_sweep c sid
  unfold fire
  rcases hr : c.sweep sid with ⟨f, d⟩
  rw [hr] at hsweep
  cases f with
  | none => exact hsweep
  | some f =>
    dsimp only
    split
    · exact hsweep.trans (aside_entry d _)
    · exact hsweep

/-- A timer adds to what its sweep did at most an entry of the log. -/
theorem fire_snd : ∃ site, (c.fire sid).2 = { (c.sweep sid).2 with site } := by
  unfold fire
  rcases c.sweep sid with ⟨_ | f, d⟩
  · exact ⟨d.site, rfl⟩
  · dsimp only
    split
    · exact ⟨_, rfl⟩
    · exact ⟨d.site, rfl⟩

@[simp] theorem scheduler_fire : (c.fire sid).2.scheduler = c.scheduler :=
  (aside_fire c sid).scheduler

theorem suffix_fire : c.site.journal <:+ (c.fire sid).2.site.journal :=
  (Site.grows_perform c.site (.manager c.manager) (.manager c.manager) .drain).journal.trans
    (aside_fire c sid).suffix

/-- A sweep changes counters of connections, and counts itself. -/
theorem tally_fire_of_ne {k : Counter} (hk : k.ofConnections = false) (hne : k ≠ .executed) :
    (c.fire sid).2.tally k = c.tally k := by
  have hg : c.site.Grows ((c.beginSweep sid).request .drain).2.site :=
    Site.grows_perform c.site _ _ .drain
  exact ((aside_fire c sid).tally (by simpa using hne)).trans (hg.tallies c.manager.counters k hk)

/-- What the timers keep that run meanwhile is kept. -/
theorem fireDue_invariant (inv : Controller → Prop)
    (hfire : ∀ (c : Controller) (job : Job Sid Unit) (scheduler : Scheduler Sid Unit) limit,
      c.scheduler.popDue limit = some (job, scheduler) → inv c →
        inv ({ c with scheduler }.fire job.key).2)
    (hc : inv c) (limit : Instant) (n : Nat) : inv (c.fireDue limit n).2 := by
  induction n generalizing c with
  | zero => exact hc
  | succ n ih =>
    rw [fireDue]
    split
    · exact hc
    · rename_i job scheduler hp
      exact ih _ (hfire c job scheduler limit hp hc)

theorem tally_fireDue_of_ne {k : Counter} (hk : k.ofConnections = false) (hne : k ≠ .executed)
    (limit : Instant) (n : Nat) : (c.fireDue limit n).2.tally k = c.tally k :=
  fireDue_invariant c (fun x => x.tally k = c.tally k)
    (fun x job u _ _ hx => (tally_fire_of_ne { x with scheduler := u } job.key hk hne).trans hx)
    rfl limit n

theorem manager_fireDue (limit : Instant) (n : Nat) : (c.fireDue limit n).2.manager = c.manager :=
  fireDue_invariant c (fun x => x.manager = c.manager)
    (fun x job u _ _ hx => (aside_fire { x with scheduler := u } job.key).manager.trans hx)
    rfl limit n

theorem suffix_fireDue (limit : Instant) (n : Nat) :
    c.site.journal <:+ (c.fireDue limit n).2.site.journal :=
  fireDue_invariant c (fun x => c.site.journal <:+ x.site.journal)
    (fun x job u _ _ hx => hx.trans (suffix_fire { x with scheduler := u } job.key))
    (List.suffix_refl _) limit n

theorem manager_step (k : Command) : (c.step k).2.manager = c.manager := by
  cases k with
  | connect | release | disconnect => exact (aside_step c rfl).manager
  | signal sid => exact (aside_signal c sid).manager
  | request q => rfl
  | advance micros => exact manager_fireDue c _ _
  | shutdown => exact (aside_shutdown c).manager

theorem delay_fireDue (limit : Instant) (n : Nat) :
    (c.fireDue limit n).2.scheduler.delay = c.scheduler.delay := by
  refine fireDue_invariant c (fun x => x.scheduler.delay = c.scheduler.delay) ?_ rfl limit n
  intro x job u _ hp hx
  rw [scheduler_fire, Scheduler.delay_popDue hp, hx]

theorem delay_step (k : Command) : (c.step k).2.scheduler.delay = c.scheduler.delay := by
  cases k with
  | connect | release | disconnect => rw [(aside_step c rfl).scheduler]
  | signal sid => exact (congrArg Scheduler.delay (scheduler_signal c sid)).trans Scheduler.delay_arm
  | request q => rfl
  | advance micros => exact delay_fireDue c _ _
  | shutdown => exact (congrArg Scheduler.delay (scheduler_shutdown c)).trans rfl

theorem suffix_step (k : Command) : c.site.journal <:+ (c.step k).2.site.journal := by
  cases k with
  | connect | release | disconnect => exact (aside_step c rfl).suffix
  | signal sid => exact (aside_signal c sid).suffix
  | request q => exact (Site.grows_perform c.site _ _ q).journal
  | advance micros => exact suffix_fireDue c _ _
  | shutdown => exact (aside_shutdown c).suffix

theorem suffix_run (ks : List Command) : c.site.journal <:+ (c.run ks).2.site.journal := by
  induction ks generalizing c with
  | nil => exact List.suffix_refl _
  | cons k ks ih => exact (suffix_step c k).trans (ih _)

/-- A sweep whose drain comes to its end goes on to its own. -/
theorem sweep_of_ok {n : Nat} (h : (Site.sweep (Site.abort (.manager c.manager) Site.nestingLimit)
      c.site (.manager c.manager)).1 = .ok n) : c.sweep sid =
    (none, (((((c.beginSweep sid).request .drain).2.count .executed 1).changePhase sid .terminated
      ).log .info "Forcefully disconnected clients"
        [("destroyed", .int n), ("triggered_by", .str sid)])) := by
  rcases hr : Site.sweep (Site.abort (.manager c.manager) Site.nestingLimit)
    c.site (.manager c.manager) with ⟨a, u⟩
  rw [hr] at h
  have hr' : Site.sweep (Site.abort (.manager c.manager) Site.nestingLimit)
      (c.beginSweep sid).site (.manager c.manager) = (.ok n, u) := hr.trans (by rw [← h])
  have hsite : ((c.beginSweep sid).request .drain).2 = { c.beginSweep sid with
      site := (Site.sweep (Site.abort (.manager c.manager) Site.nestingLimit)
        (c.beginSweep sid).site (.manager c.manager)).2 } := rfl
  rw [hsite]
  simp only [sweep, hr']

/-- A sweep whose drain comes to its end counts. -/
theorem fire_of_ok {n : Nat} (h : (Site.sweep (Site.abort (.manager c.manager) Site.nestingLimit)
      c.site (.manager c.manager)).1 = .ok n) :
    (c.fire sid).1 = none ∧ (c.fire sid).2.tally .executed = c.tally .executed + 1 ∧
    (c.fire sid).2.sessions = c.sessions.change sid .terminated := by
  have hg : c.site.Grows ((c.beginSweep sid).request .drain).2.site :=
    Site.grows_perform c.site (.manager c.manager) (.manager c.manager) .drain
  have hbefore : ((c.beginSweep sid).request .drain).2.tally .executed = c.tally .executed :=
    hg.tallies c.manager.counters .executed rfl
  refine ⟨?_, ?_, ?_⟩
  · simp only [fire, c.sweep_of_ok sid h]
  · simp only [fire, c.sweep_of_ok sid h, tally_log, tally_changePhase, tally_count, if_pos,
      hbefore]
  · simp only [fire, c.sweep_of_ok sid h]
    rfl

theorem sweep_ok_of_mild (hm : (c.fire sid).2.site.Mild) :
    ∃ n, (Site.sweep (Site.abort (.manager c.manager) Site.nestingLimit) c.site
      (.manager c.manager)).1 = .ok n :=
  Site.sweep_of_mild _ _ _ fun e he => hm e ((aside_fire c sid).suffix.subset he)

/-- A sweep that leaves no fault to the loop has come to its end. -/
theorem sweep_ok_of_fire (h : (c.fire sid).1 = none) :
    ∃ n, (Site.sweep (Site.abort (.manager c.manager) Site.nestingLimit) c.site
      (.manager c.manager)).1 = .ok n := by
  rcases hr : Site.sweep (Site.abort (.manager c.manager) Site.nestingLimit) c.site
    (.manager c.manager) with ⟨f | n, u⟩
  · have hfatal := Site.fatal_of_sweep _ _ _ (congrArg Prod.fst hr)
    have hr' : Site.sweep (Site.abort (.manager c.manager) Site.nestingLimit)
      (c.beginSweep sid).site (.manager c.manager) = (.error f, u) := hr
    simp [fire, sweep, hr', hfatal] at h
  · exact ⟨n, rfl⟩

theorem fire_fst_of_mild (hm : (c.fire sid).2.site.Mild) : (c.fire sid).1 = none := by
  obtain ⟨n, hn⟩ := c.sweep_ok_of_mild sid hm
  exact (c.fire_of_ok sid hn).1

theorem tally_fire (hm : (c.fire sid).2.site.Mild) :
    (c.fire sid).2.tally .executed = c.tally .executed + 1 := by
  obtain ⟨n, hn⟩ := c.sweep_ok_of_mild sid hm
  exact (c.fire_of_ok sid hn).2.1

end

end Linkcut.Controller

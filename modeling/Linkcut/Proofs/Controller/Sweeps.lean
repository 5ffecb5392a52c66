import Linkcut.Proofs.Controller.Steps
import Linkcut.Proofs.Scheduler.Timed
import Linkcut.Proofs.Site.Modest

/-!
Which sweeps run, when, and what they abort. With a finite delay the sweeps of a run are told by its
signals alone: a signal whose session has no sweep pending is answered by one sweep, the delay
later, unless a shutdown comes between.
-/

set_option autoImplicit false

namespace Linkcut.Controller

/-- Commands that abort nothing by themselves. -/
def Command.spares : Command → Bool
  | .request q => q.spares
  | _ => true

/-- A signal that found no sweep of its session pending: when that was, and what was asked of the
controller afterwards. -/
structure Accepted where
  sid : Sid
  time : Instant
  rest : List Command

def accepts (c : Controller) : Command → List Command → List Accepted
  | .signal sid, rest => if c.scheduler.isArmed sid then [] else [⟨sid, c.scheduler.now, rest⟩]
  | _, _ => []

/-- The accepted signals of a run, in order. -/
def accepted (c : Controller) : List Command → List Accepted
  | [] => []
  | k :: ks => c.accepts k ks ++ (c.step k).2.accepted ks

/-- Whether the clock, which shows `now`, is advanced to `due` or past it before any shutdown. -/
def reaches (due : Instant) : Instant → List Command → Bool
  | _, [] => false
  | now, .advance micros :: ks => decide (due ≤ now + micros) || reaches due (now + micros) ks
  | _, .shutdown :: _ => false
  | now, _ :: ks => reaches due now ks

/-- From `c` to `c'` the sweeps of these sessions began at these instants; each aborted what was
tracked when it began, and was counted. -/
structure Swept (c : Controller) (ws : List (Sid × Instant)) (c' : Controller) : Prop where
  manager : c'.manager = c.manager
  modest : c'.site.Modest
  executed : c'.tally .executed = c.tally .executed + ws.length
  swept : ∃ vs : List Sweep, c'.swept.reverse = c.swept.reverse ++ vs ∧
    vs.map (fun v => (v.sid, v.time)) = ws ∧ (∀ v ∈ vs, v.tracked.Nodup) ∧
    c'.site.aborts = c.site.aborts ++
      vs.flatMap fun v => v.tracked.map (some c.manager.registry, ·)

theorem Aside.modest {changed : List Counter} {c c' : Controller} (h : Aside changed c c')
    (hm : c.site.Modest) : c'.site.Modest := by
  intro k n
  have ht : c'.site.transport k = c.site.transport k := by simp only [Site.transport, h.transports]
  rw [ht]
  exact hm k n

namespace Swept

variable {c c' c'' : Controller} {ws ws' : List (Sid × Instant)}

theorem refl (hm : c.site.Modest) : Swept c [] c :=
  ⟨rfl, hm, by simp, [], by simp, rfl, by simp, by simp⟩

theorem trans (h : Swept c ws c') (h' : Swept c' ws' c'') : Swept c (ws ++ ws') c'' := by
  obtain ⟨vs, hvs, hws, hnodup, habort⟩ := h.swept
  obtain ⟨vs', hvs', hws', hnodup', habort'⟩ := h'.swept
  refine ⟨h'.manager.trans h.manager, h'.modest, ?_, vs ++ vs', ?_, ?_, ?_, ?_⟩
  · rw [h'.executed, h.executed, List.length_append]
    omega
  · rw [hvs', hvs, List.append_assoc]
  · rw [List.map_append, hws, hws']
  · exact fun v hv => (List.mem_append.1 hv).elim (hnodup v) (hnodup' v)
  · rw [habort', habort, h.manager, List.flatMap_append, List.append_assoc]

/-- The scheduler that was there before plays no part in it. -/
theorem of_scheduler {u : Scheduler Sid Unit} (h : Swept { c with scheduler := u } ws c') :
    Swept c ws c' := ⟨h.manager, h.modest, h.executed, h.swept⟩

theorem of_aside {changed : List Counter} (h : Aside changed c c') (hk : .executed ∉ changed)
    (hm : c.site.Modest) : Swept c [] c' := by
  refine ⟨h.manager, h.modest hm, by simp [h.tally hk], [], by simp [h.swept], rfl, by simp, ?_⟩
  have ha : c'.site.aborts = c.site.aborts := h.observed Event.abort? fun _ => rfl
  simp [ha]

theorem request (hm : c.site.Modest) {q : Request} (hq : q.spares) :
    Swept c [] (c.request q).2 := by
  have hg : c.site.Grows (c.request q).2.site := Site.grows_perform c.site _ _ q
  have htally : (c.request q).2.tally .executed = c.tally .executed :=
    hg.tallies c.manager.counters .executed rfl
  have hsame : (c.request q).2.swept = c.swept := rfl
  have ha : (c.request q).2.site.aborts = c.site.aborts := Site.aborts_perform c.site _ _ q hq
  exact ⟨rfl, hm.of_grows hg, by simp [htally], [], by simp [hsame], rfl, by simp, by simp [ha]⟩

theorem fire (hm : c.site.Modest) (sid : Sid) :
    Swept c [(sid, c.scheduler.now)] (c.fire sid).2 := by
  obtain ⟨u, hu, hg, ha⟩ := Site.sweep_modest (.manager c.manager) (.manager c.manager) 999 hm
  have h := aside_fire c sid
  have hsite : ((c.beginSweep sid).request .drain).2.site = u := congrArg Prod.snd hu
  have hmodest : ((c.beginSweep sid).request .drain).2.site.Modest := by
    rw [hsite]
    exact hm.of_grows hg
  have hswept : (c.fire sid).2.swept = ⟨sid, c.scheduler.now,
      (c.site.registry c.manager.registry).members⟩ :: c.swept := h.swept
  have haborts : (c.fire sid).2.site.aborts = u.aborts := by
    rw [← hsite]
    exact h.observed Event.abort? fun _ => rfl
  refine ⟨h.manager, h.modest hmodest, (c.fire_of_ok sid (congrArg Prod.fst hu)).2.1,
    [⟨sid, c.scheduler.now, (c.site.registry c.manager.registry).members⟩], by simp [hswept], rfl,
    ?_, ?_⟩
  · intro v hv
    rw [List.mem_singleton.1 hv]
    exact (c.site.registry c.manager.registry).nodup
  · rw [haborts, ha]
    simp [Target.registryIndex]

end Swept

/-- Of keys in the order of their instants none is reached when the first one is not. -/
theorem filter_unreached {w : Sid × Instant} {ws : List (Sid × Instant)} {limit : Instant}
    (hs : (w :: ws).Pairwise fun v w => v.2 ≤ w.2) (hl : ¬ w.2 ≤ limit) :
    (w :: ws).filter (fun v => decide (v.2 ≤ limit)) = [] ∧
    (w :: ws).filter (fun v => decide (limit < v.2)) = w :: ws := by
  have hlater : ∀ v ∈ w :: ws, limit < v.2 := by
    intro v hv
    rcases List.mem_cons.1 hv with rfl | hv
    · exact Nat.not_le.1 hl
    · exact Nat.lt_of_lt_of_le (Nat.not_le.1 hl) ((List.pairwise_cons.1 hs).1 v hv)
  exact ⟨List.filter_eq_nil_iff.2 fun v hv => by simpa using hlater v hv,
    List.filter_eq_self.2 fun v hv => by simpa using hlater v hv⟩

/-- Those that are reached come first. -/
theorem filter_reached {ws : List (Sid × Instant)} (hs : ws.Pairwise fun v w => v.2 ≤ w.2)
    (limit : Instant) (p : Sid × Instant → Bool) :
    ws.filter (fun w => decide (w.2 ≤ limit) || p w) =
      ws.filter (fun w => decide (w.2 ≤ limit)) ++
        (ws.filter fun w => decide (limit < w.2)).filter p := by
  induction ws with
  | nil => rfl
  | cons w ws ih =>
    by_cases hl : w.2 ≤ limit
    · have hl' : ¬ limit < w.2 := Nat.not_lt.2 hl
      simp [hl, hl', ih (List.pairwise_cons.1 hs).2]
    · obtain ⟨hnone, hall⟩ := filter_unreached hs hl
      rw [hnone, hall, List.nil_append]
      refine List.filter_congr fun v hv => ?_
      have hv' : ¬ v.2 ≤ limit := by simpa using List.filter_eq_nil_iff.1 hnone v hv
      simp [hv']

section

variable {d : Nat} {c : Controller}

/-- While time passes, the timers that come due go, each at its own instant, and no others. -/
theorem fireDue_timed (ht : c.scheduler.Timed d) (limit : Instant) {n : Nat}
    (hn : c.scheduler.waiting.length ≤ n) :
    (c.fireDue limit n).2.scheduler.Timed d ∧
    (c.fireDue limit n).2.scheduler.waiting =
      c.scheduler.waiting.filter (fun w => decide (limit < w.2)) ∧
    (c.fireDue limit n).2.scheduler.now ≤ max c.scheduler.now limit := by
  -- `n` bounds the timers that wait, and a sweep starts none
  induction n generalizing c with
  | zero =>
    have hw : c.scheduler.waiting = [] := List.length_eq_zero_iff.1 (Nat.le_zero.1 hn)
    rw [hw]
    exact ⟨ht, hw, Nat.le_max_left _ _⟩
  | succ n ih =>
    rw [fireDue]
    cases hw : c.scheduler.waiting with
    | nil =>
      rw [Scheduler.popDue_of_waiting_nil hw]
      exact ⟨ht, hw, Nat.le_max_left _ _⟩
    | cons w ws =>
      obtain ⟨sid, e⟩ := w
      by_cases hl : e ≤ limit
      · obtain ⟨a, u, hpop, htu, hwu, hnow⟩ := ht.popDue_of_reached hw hl
        rw [hpop]
        have hsched : ({ c with scheduler := u }.fire sid).2.scheduler = u := scheduler_fire _ _
        have hrest := ih (c := ({ c with scheduler := u }.fire sid).2) (by rw [hsched]; exact htu)
          (by rw [hsched, hwu]; rw [hw] at hn; exact Nat.le_of_succ_le_succ hn)
        rw [hsched, hwu, hnow] at hrest
        obtain ⟨htimed, hleft, hlast⟩ := hrest
        have hlater : ¬ limit < e := Nat.not_lt.2 hl
        refine ⟨htimed, by simpa [hlater] using hleft, ?_⟩
        rw [Nat.max_eq_right hl] at hlast
        exact Nat.le_trans hlast (Nat.le_max_right _ _)
      · rw [ht.popDue_of_early hw hl]
        have hsorted := ht.waiting_sorted
        rw [hw] at hsorted
        rw [(filter_unreached hsorted hl).2]
        exact ⟨ht, hw, Nat.le_max_left _ _⟩

theorem advance_timed (ht : c.scheduler.Timed d) (micros : Nat) :
    (c.advance micros).2.scheduler.Timed d ∧
    (c.advance micros).2.scheduler.waiting =
      c.scheduler.waiting.filter (fun w => decide (c.scheduler.now + micros < w.2)) ∧
    (c.advance micros).2.scheduler.now = c.scheduler.now + micros := by
  have hn : c.scheduler.waiting.length ≤ c.scheduler.loop.timers.length := by
    simp [Scheduler.waiting]
  obtain ⟨htimed, hleft, hlast⟩ := fireDue_timed ht (c.scheduler.now + micros) hn
  refine ⟨htimed.passTo ?_, hleft, ?_⟩
  · intro w hw
    rw [hleft] at hw
    have hlt := (List.mem_filter.1 hw).2
    exact Nat.le_of_lt (by simpa using hlt)
  · rw [Nat.max_eq_right (Nat.le_add_right _ _)] at hlast
    exact Nat.max_eq_right hlast

/-- The sweeps that come due meanwhile run in order. -/
theorem fireDue_swept (ht : c.scheduler.Timed d) (hm : c.site.Modest) (limit : Instant) {n : Nat}
    (hn : c.scheduler.waiting.length ≤ n) :
    Swept c (c.scheduler.waiting.filter fun w => decide (w.2 ≤ limit)) (c.fireDue limit n).2 := by
  induction n generalizing c with
  | zero =>
    have hw : c.scheduler.waiting = [] := List.length_eq_zero_iff.1 (Nat.le_zero.1 hn)
    rw [hw]
    exact .refl hm
  | succ n ih =>
    rw [fireDue]
    cases hw : c.scheduler.waiting with
    | nil =>
      rw [Scheduler.popDue_of_waiting_nil hw]
      exact .refl hm
    | cons w ws =>
      obtain ⟨sid, e⟩ := w
      by_cases hl : e ≤ limit
      · obtain ⟨a, u, hpop, htu, hwu, hnow⟩ := ht.popDue_of_reached hw hl
        rw [hpop]
        have hfire : Swept c [(sid, e)] ({ c with scheduler := u }.fire sid).2 := by
          have h := Swept.fire (c := { c with scheduler := u }) hm sid
          rw [show ({ c with scheduler := u } : Controller).scheduler.now = e from hnow] at h
          exact h.of_scheduler
        have hsched : ({ c with scheduler := u }.fire sid).2.scheduler = u := scheduler_fire _ _
        have hrest := ih (c := ({ c with scheduler := u }.fire sid).2) (by rw [hsched]; exact htu)
          hfire.modest (by rw [hsched, hwu]; rw [hw] at hn; exact Nat.le_of_succ_le_succ hn)
        rw [hsched, hwu] at hrest
        simpa [hl] using hfire.trans hrest
      · rw [ht.popDue_of_early hw hl]
        have hsorted := ht.waiting_sorted
        rw [hw] at hsorted
        rw [(filter_unreached hsorted hl).1]
        exact .refl hm

theorem advance_swept (ht : c.scheduler.Timed d) (hm : c.site.Modest) (micros : Nat) :
    Swept c (c.scheduler.waiting.filter fun w => decide (w.2 ≤ c.scheduler.now + micros))
      (c.advance micros).2 := by
  have hn : c.scheduler.waiting.length ≤ c.scheduler.loop.timers.length := by
    simp [Scheduler.waiting]
  have hswept := fireDue_swept ht hm (c.scheduler.now + micros) hn
  exact ⟨hswept.manager, hswept.modest, hswept.executed, hswept.swept⟩

theorem step_timed (ht : c.scheduler.Timed d) (k : Command) : (c.step k).2.scheduler.Timed d := by
  cases k with
  | connect | release | disconnect =>
    rw [(aside_step c rfl).scheduler]
    exact ht
  | signal sid =>
    have hsched : (c.step (.signal sid)).2.scheduler = (c.scheduler.arm sid ()).2 :=
      scheduler_signal c sid
    rw [hsched]
    exact ht.arm
  | request q => exact ht
  | advance micros => exact (advance_timed ht micros).1
  | shutdown =>
    have hsched : (c.step .shutdown).2.scheduler = c.scheduler.cancelAll.2 := scheduler_shutdown c
    rw [hsched]
    exact ht.cancelAll

theorem run_timed (ht : c.scheduler.Timed d) (ks : List Command) :
    (c.run ks).2.scheduler.Timed d := by
  induction ks generalizing c with
  | nil => exact ht
  | cons k ks ih => exact ih (step_timed ht k)

/-- The sweeps that a run of commands is going to make: of those that are pending, and of the
signals that it accepts. -/
def expected (d : Nat) (c : Controller) (ks : List Command) : List (Sid × Instant) :=
  (c.scheduler.waiting.filter fun w => reaches w.2 c.scheduler.now ks) ++
    ((c.accepted ks).filter fun a => reaches (a.time + d) a.time a.rest).map
      fun a => (a.sid, a.time + d)

theorem expected_nil : expected d c [] = [] := by
  simp [expected, reaches, accepted]

theorem expected_of_same {k : Command} {ks : List Command}
    (hs : (c.step k).2.scheduler = c.scheduler)
    (hk : ∀ due now, reaches due now (k :: ks) = reaches due now ks)
    (ha : c.accepts k ks = []) : expected d c (k :: ks) = expected d (c.step k).2 ks := by
  simp only [expected, accepted, hs, hk, ha, List.nil_append]

theorem expected_of_session {k : Command} (hk : k.isOfSession) (ks : List Command) :
    expected d c (k :: ks) = expected d (c.step k).2 ks := by
  have hs := (aside_step c hk).scheduler
  cases k with
  | connect | release | disconnect => exact expected_of_same hs (fun _ _ => rfl) rfl
  | _ => cases hk

theorem expected_signal (ht : c.scheduler.Timed d) (sid : Sid) (ks : List Command) :
    expected d c (.signal sid :: ks) = expected d (c.signal sid).2 ks := by
  have hsched : (c.step (.signal sid)).2.scheduler = (c.scheduler.arm sid ()).2 :=
    scheduler_signal c sid
  cases ha : c.scheduler.isArmed sid with
  | true =>
    rw [Scheduler.arm_of_armed ha] at hsched
    exact expected_of_same hsched (fun _ _ => rfl) (by simp [accepts, ha])
  | false =>
    have hwait : (c.step (.signal sid)).2.scheduler.waiting =
        c.scheduler.waiting ++ [(sid, c.scheduler.now + d)] := by
      rw [hsched]
      exact ht.waiting_arm ha
    have hnow : (c.step (.signal sid)).2.scheduler.now = c.scheduler.now := by
      rw [hsched]
      exact Scheduler.now_arm
    change _ = expected d (c.step (.signal sid)).2 ks
    -- the signal moves from the accepted ones to those that wait, and is judged alike in both
    by_cases hr : reaches (c.scheduler.now + d) c.scheduler.now ks <;>
      simp [expected, accepted, accepts, ha, hwait, hnow, hr, reaches]

theorem expected_advance (ht : c.scheduler.Timed d) (micros : Nat)
    (ks : List Command) : expected d c (.advance micros :: ks) =
      c.scheduler.waiting.filter (fun w => decide (w.2 ≤ c.scheduler.now + micros)) ++
        expected d (c.advance micros).2 ks := by
  obtain ⟨_, hleft, hnow⟩ := advance_timed ht micros
  have hstep : (c.step (.advance micros)).2 = (c.advance micros).2 := rfl
  simp only [expected, accepted, accepts, reaches, hstep, hleft, hnow, List.nil_append,
    filter_reached ht.waiting_sorted, List.append_assoc]

theorem expected_shutdown (ht : c.scheduler.Timed d) (ks : List Command) :
    expected d c (.shutdown :: ks) = expected d c.shutdown.2 ks := by
  have hstep : (c.step .shutdown).2 = c.shutdown.2 := rfl
  simp [expected, accepted, accepts, reaches, hstep, ht.waiting_cancelAll]

theorem step_swept (ht : c.scheduler.Timed d) (hm : c.site.Modest) {k : Command} (hk : k.spares)
    (ks : List Command) :
    ∃ ws, Swept c ws (c.step k).2 ∧ expected d c (k :: ks) = ws ++ expected d (c.step k).2 ks := by
  by_cases hof : k.isOfSession
  · exact ⟨[], .of_aside (aside_step c hof) (by decide) hm, expected_of_session hof ks⟩
  cases k with
  | connect | release | disconnect => exact absurd rfl hof
  | signal sid =>
    have hswept : Swept { c with scheduler := (c.scheduler.arm sid ()).2 } [] (c.signal sid).2 :=
      .of_aside (aside_signal c sid) (by decide) hm
    exact ⟨[], hswept.of_scheduler, expected_signal ht sid ks⟩
  | request q => exact ⟨[], .request hm hk, expected_of_same rfl (fun _ _ => rfl) rfl⟩
  | advance micros => exact ⟨_, advance_swept ht hm micros, expected_advance ht micros ks⟩
  | shutdown =>
    have hswept : Swept { c with scheduler := c.scheduler.cancelAll.2 } [] c.shutdown.2 :=
      .of_aside (aside_shutdown c) (by decide) hm
    exact ⟨[], hswept.of_scheduler, expected_shutdown ht ks⟩

/-- The sweeps of a run are those that were expected at its beginning. -/
theorem run_swept (ht : c.scheduler.Timed d) (hm : c.site.Modest) {ks : List Command}
    (hks : ∀ k ∈ ks, k.spares) : Swept c (expected d c ks) (c.run ks).2 := by
  induction ks generalizing c with
  | nil => rw [expected_nil]; exact .refl hm
  | cons k ks ih =>
    obtain ⟨ws, hswept, hexp⟩ := step_swept ht hm (hks k (by simp)) ks
    rw [hexp]
    exact hswept.trans (ih (step_timed ht k) hswept.modest fun j hj => hks j (by simp [hj]))

end

/-- Which sweeps run, when, and what they abort. With a delay of `d` microseconds and modest abort
calls, the sweeps are those of the accepted signals whose instant is reached before a shutdown, each
at the end of its delay and in the order of the signals. The abort calls are one on each connection
that was tracked when a sweep began, sweep by sweep, and no others. -/
theorem sweeps_exact (c : Controller) (hc : c.IsNew) (d : Nat)
    (hd : c.scheduler.delay.wait = some d) (hm : c.site.Modest) (ks : List Command)
    (hks : ∀ k ∈ ks, k.spares) :
    (c.run ks).2.swept.reverse.map (fun v => (v.sid, v.time)) =
      ((c.accepted ks).filter fun a => reaches (a.time + d) a.time a.rest).map
        (fun a => (a.sid, a.time + d)) ∧
    (c.run ks).2.tally .executed = c.tally .executed + (c.run ks).2.swept.length ∧
    (c.run ks).2.site.aborts = c.site.aborts ++ (c.run ks).2.swept.reverse.flatMap
      (fun v => v.tracked.map (some c.manager.registry, ·)) ∧
    ∀ v ∈ (c.run ks).2.swept, v.tracked.Nodup := by
  have ht : c.scheduler.Timed d := .of_empty hc.pending hc.timers hd
  have hexp : expected d c ks = ((c.accepted ks).filter fun a =>
      reaches (a.time + d) a.time a.rest).map fun a => (a.sid, a.time + d) := by
    simp [expected, Scheduler.waiting, hc.timers]
  have h := run_swept ht hm hks
  obtain ⟨vs, hvs, hws, hnodup, haborts⟩ := h.swept
  rw [hc.swept, List.reverse_nil, List.nil_append] at hvs
  have hlen : (expected d c ks).length = (c.run ks).2.swept.length := by
    rw [← hws, List.length_map, ← hvs, List.length_reverse]
  refine ⟨?_, ?_, ?_, fun v hv => hnodup v ?_⟩
  · rw [hvs, hws, hexp]
  · rw [h.executed, hlen]
  · rw [haborts, hvs]
  · rw [← hvs]
    exact List.mem_reverse.2 hv

/-- A delay of one second. A connection that forgets a second one and records a third when it is
aborted, and whose abort call fails. -/
def busy : Controller where
  site := ({} : Site).setTransport "a"
    { reaction := fun _ => { requests := [.forget "b", .record "c"], fault := some .tooDeep } }
  scheduler := { delay := .whole 1 }

def busyRun : List Command :=
  [.request (.record "a"), .request (.record "b"), .connect "s" [] .delivered, .signal "s",
    .advance 500000, .signal "s", .signal "t", .disconnect "s" [], .advance 1000000, .signal "s",
    .shutdown, .advance 2000000]

theorem sweeps_exact_busy :
    busy.IsNew ∧ busy.scheduler.delay.wait = some 1000000 ∧ busy.site.Modest ∧
    (∀ k ∈ busyRun, k.spares) ∧
    (busy.run busyRun).2.swept.reverse.map (fun v => (v.sid, v.time)) =
      [("s", 1000000), ("t", 1500000)] ∧
    (busy.run busyRun).2.site.aborts = [(some 0, "a"), (some 0, "b"), (some 0, "c")] := by
  have hnew : busy.IsNew := ⟨rfl, rfl, rfl, rfl, rfl⟩
  have hdelay : busy.scheduler.delay.wait = some 1000000 := by decide
  have hmodest : busy.site.Modest := by
    intro h n
    by_cases ha : h = "a"
    · exact ⟨by simp [busy, ha, Request.isModest], by simp [busy, ha]; decide⟩
    · have hnone : (busy.site.transport h).reaction n = {} := by
        simp only [busy, Site.transport_setTransport, if_neg ha]
        rfl
      rw [hnone]
      exact ⟨by simp, by simp⟩
  have hspares : ∀ k ∈ busyRun, k.spares := by decide
  have h := sweeps_exact busy hnew 1000000 hdelay hmodest busyRun hspares
  exact ⟨hnew, hdelay, hmodest, hspares, h.1.trans (by decide), h.2.2.1.trans (by decide)⟩

end Linkcut.Controller

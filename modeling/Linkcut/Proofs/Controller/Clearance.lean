import Linkcut.Proofs.Controller.Onsets
import Linkcut.Proofs.Controller.Sweeps
import Linkcut.Proofs.Site.Ending

/-!
No signal is in vain. What was tracked when a signal was handled has been forgotten, or was aborted
by a sweep, once the delay has passed. A duplicate has no timer of its own and relies on the one
that is pending for its session. Abort calls may do what they like, as long as they end in ordinary
faults at most.
-/

set_option autoImplicit false

namespace Linkcut.Controller

/-- The sweep ends the period of a handle, and aborts it. -/
structure Onset.Ends (o : Onset) (i : Nat) (h : Handle) : Prop where
  ended : ∃ es, o.after.site.edges i h = o.start.site.edges i h ++ .drained :: es
  aborted : ∃ hs, o.after.site.abortedBy i = o.start.site.abortedBy i ++ hs ∧ h ∈ hs

/-- While the commands are obeyed, the period of the handle that is open now comes to its end: it is
forgotten, or a sweep ends it that begins between these instants. -/
def Clears (c : Controller) (h : Handle) (early late : Instant) (ks : List Command) : Prop :=
  ∃ e rest, (c.run ks).2.site.edges c.manager.registry h =
      c.site.edges c.manager.registry h ++ e :: rest ∧
    (e = .forgotten ∨ e = .drained ∧ ∃ o ∈ c.onsets ks, o.sweep ∈ (c.run ks).2.swept ∧
      early ≤ o.time ∧ o.time ≤ late ∧
      o.start.site.edges c.manager.registry h = c.site.edges c.manager.registry h ∧
      o.Ends c.manager.registry h)

section

variable {c : Controller} {h : Handle} {d : Nat} {early late : Instant} {k : Command}
  {ks : List Command}

theorem onset_ends {sid : Sid} (hmem : h ∈ c.site.registry c.manager.registry)
    (hm : (c.fire sid).2.site.Mild) : (⟨sid, c⟩ : Onset).Ends c.manager.registry h := by
  have haside := aside_fire c sid
  have hdrain : (Site.sweep (Site.abort (.manager c.manager) Site.nestingLimit) c.site
      (.manager c.manager)).2.Mild := fun e he => hm e (haside.suffix.subset he)
  obtain ⟨⟨es, hes⟩, hs, hhs, hin⟩ := Site.sweep_ends (t := .manager c.manager) _ hmem hdrain
  have hedges : (c.fire sid).2.site.edges c.manager.registry h = _ :=
    haside.observed (Event.edge? c.manager.registry h) fun _ => rfl
  have haborts : (c.fire sid).2.site.abortedBy c.manager.registry = _ :=
    haside.observed (Event.abortedBy? c.manager.registry) fun _ => rfl
  exact ⟨⟨es, hedges.trans hes⟩, hs, haborts.trans hhs, hin⟩

/-- A command that begins and ends no period of the handle. -/
theorem Clears.cons
    (hsame : (c.step k).2.site.edges c.manager.registry h = c.site.edges c.manager.registry h)
    (hrest : (c.step k).2.Clears h early late ks) : c.Clears h early late (k :: ks) := by
  obtain ⟨e, rest, hedges, hend⟩ := hrest
  rw [manager_step, hsame] at hedges hend
  refine ⟨e, rest, hedges, hend.imp_right fun ⟨hdrained, o, ho, hends⟩ => ?_⟩
  exact ⟨hdrained, o, List.mem_append_right _ ho, hends⟩

theorem clears_aside {changed : List Counter} {u : Scheduler Sid Unit}
    (haside : Aside changed { c with scheduler := u } (c.step k).2)
    (hmem : h ∈ c.site.registry c.manager.registry)
    (hrest : h ∈ (c.step k).2.site.registry (c.step k).2.manager.registry →
      (c.step k).2.Clears h early late ks) : c.Clears h early late (k :: ks) := by
  refine .cons (haside.observed _ fun _ => rfl) (hrest ?_)
  rw [haside.manager, haside.registry]
  exact hmem

theorem clears_of_forgotten (hforgotten : (c.step k).2.site.edges c.manager.registry h =
      c.site.edges c.manager.registry h ++ [.forgotten]) : c.Clears h early late (k :: ks) := by
  obtain ⟨rest, hrest⟩ := Site.observed_of_suffix (Event.edge? c.manager.registry h)
    (suffix_run (c.step k).2 ks)
  refine ⟨.forgotten, rest, ?_, .inl rfl⟩
  change (c.run (k :: ks)).2.site.edges c.manager.registry h =
    (c.step k).2.site.edges c.manager.registry h ++ rest at hrest
  rw [hrest, hforgotten, List.append_assoc]
  rfl

theorem clears_request (hmem : h ∈ c.site.registry c.manager.registry) {q : Request}
    (hq : q.spares) (hrest : h ∈ (c.request q).2.site.registry c.manager.registry →
      (c.request q).2.Clears h early late ks) : c.Clears h early late (.request q :: ks) := by
  rcases Site.perform_ends (t := .manager c.manager) (.manager c.manager) hmem hq with
    ⟨hsame, hkept⟩ | hforgotten
  · exact .cons hsame (hrest hkept)
  · exact clears_of_forgotten hforgotten

/-- The sweep that is due first takes whatever is tracked. -/
theorem clears_advance (ht : c.scheduler.Timed d)
    (hmem : h ∈ c.site.registry c.manager.registry) {sid : Sid} {e : Instant}
    {ws : List (Sid × Instant)} (hw : c.scheduler.waiting = (sid, e) :: ws) (hearly : early ≤ e)
    (hlate : e ≤ late) {micros : Nat} (hdue : e ≤ c.scheduler.now + micros)
    (hm : (c.run (.advance micros :: ks)).2.site.Mild) :
    c.Clears h early late (.advance micros :: ks) := by
  obtain ⟨a, u, hpop, _, _, hnow⟩ := ht.popDue_of_reached hw hdue
  obtain ⟨n, hn⟩ : ∃ n, c.scheduler.loop.timers.length = n + 1 := by
    have hlen := congrArg List.length hw
    rw [Scheduler.waiting, List.length_map, List.length_cons] at hlen
    exact ⟨_, hlen⟩
  -- the sweep, and what comes after it
  let o : Onset := ⟨sid, { c with scheduler := u }⟩
  have hstep : (c.step (.advance micros)).2.site =
      (o.after.fireDue (c.scheduler.now + micros) n).2.site := by
    change (c.fireDue (c.scheduler.now + micros) c.scheduler.loop.timers.length).2.site = _
    rw [hn, fireDue, hpop]
    rfl
  have hon : o ∈ c.onsets (.advance micros :: ks) := by
    refine List.mem_append_left _ ?_
    change o ∈ onsetsDue (c.scheduler.now + micros) c.scheduler.loop.timers.length c
    rw [hn, onsetsDue, hpop]
    exact List.mem_cons_self
  have hafter : o.after.site.journal <:+ (c.run (.advance micros :: ks)).2.site.journal := by
    refine List.IsSuffix.trans ?_ (suffix_run (c.step (.advance micros)).2 ks)
    rw [hstep]
    exact suffix_fireDue o.after _ _
  have hends : o.Ends c.manager.registry h :=
    onset_ends hmem fun e he => hm e (hafter.subset he)
  obtain ⟨es, hes⟩ := hends.ended
  obtain ⟨rest, hrest⟩ := Site.observed_of_suffix (Event.edge? c.manager.registry h) hafter
  have hrecord : o.sweep ∈ (c.run (.advance micros :: ks)).2.swept := by
    rw [← List.mem_reverse, swept_run]
    exact List.mem_append_right _ (List.mem_map_of_mem hon)
  refine ⟨.drained, es ++ rest, ?_, .inr ⟨rfl, o, hon, hrecord, ?_, ?_, rfl, hends⟩⟩
  · change _ = o.after.site.edges c.manager.registry h ++ rest at hrest
    rw [hes, List.append_assoc] at hrest
    exact hrest
  · exact Nat.le_trans hearly (Nat.le_of_eq hnow.symm)
  · exact Nat.le_trans (Nat.le_of_eq hnow) hlate

/-- Nothing runs before the first timer is due. -/
theorem advance_early (ht : c.scheduler.Timed d) {sid : Sid} {e : Instant}
    {ws : List (Sid × Instant)} (hw : c.scheduler.waiting = (sid, e) :: ws) {micros : Nat}
    (hl : ¬ e ≤ c.scheduler.now + micros) : (c.advance micros).2 =
      { c with scheduler := c.scheduler.passTo (c.scheduler.now + micros) } := by
  have hnone : ∀ n, c.fireDue (c.scheduler.now + micros) n = ([], c) := by
    intro n
    cases n with
    | zero => rfl
    | succ n => rw [fireDue, ht.popDue_of_early hw hl]
  simp only [advance, hnone]

theorem reaches_of_session (hof : k.isOfSession) (due now : Instant) :
    reaches due now (k :: ks) = reaches due now ks := by
  cases k with
  | connect | release | disconnect => rfl
  | _ => cases hof

/-- A timer that waits is enough: if another one comes due before it, that one clears what is
tracked. -/
theorem clears_of_waiting (ht : c.scheduler.Timed d)
    (hmem : h ∈ c.site.registry c.manager.registry) {w : Sid × Instant}
    (hw : w ∈ c.scheduler.waiting) (hearly : early ≤ c.scheduler.now) (hlate : w.2 ≤ late)
    (hks : ∀ k ∈ ks, k.spares) (hr : reaches late c.scheduler.now ks)
    (hm : (c.run ks).2.site.Mild) : c.Clears h early late ks := by
  induction ks generalizing c with
  | nil => cases hr
  | cons k ks ih =>
    have hks' : ∀ j ∈ ks, j.spares := fun j hj => hks j (List.mem_cons_of_mem _ hj)
    have htimed := step_timed ht k
    by_cases hof : k.isOfSession
    · have haside := aside_step c hof
      refine clears_aside haside hmem fun hkept => ih htimed hkept ?_ ?_ hks' ?_ hm
      · exact haside.scheduler ▸ hw
      · exact haside.scheduler ▸ hearly
      · rw [haside.scheduler, ← reaches_of_session hof]
        exact hr
    cases k with
    | connect | release | disconnect => exact absurd rfl hof
    | signal sid =>
      have hsched : (c.step (.signal sid)).2.scheduler = (c.scheduler.arm sid ()).2 :=
        scheduler_signal c sid
      have hnow : (c.step (.signal sid)).2.scheduler.now = c.scheduler.now := by
        rw [hsched, Scheduler.now_arm]
      refine clears_aside (aside_signal c sid) hmem fun hkept =>
        ih htimed hkept ?_ (hnow.symm ▸ hearly) hks' (hnow.symm ▸ hr) hm
      rw [hsched]
      exact ht.mem_waiting_arm hw
    | request q =>
      refine clears_request hmem (hks (.request q) List.mem_cons_self) fun hkept => ?_
      exact ih ht hkept hw hearly hks' hr hm
    | advance micros =>
      cases hws : c.scheduler.waiting with
      | nil => rw [hws] at hw; cases hw
      | cons v vs =>
        obtain ⟨sid, e⟩ := v
        have hnow := ht.near_waiting (sid, e) (by simp [hws])
        have hsorted := ht.waiting_sorted
        rw [hws] at hw hsorted
        have hfirst : e ≤ w.2 := by
          rcases List.mem_cons.1 hw with rfl | hw
          · exact Nat.le_refl _
          · exact (List.pairwise_cons.1 hsorted).1 w hw
        by_cases hl : e ≤ c.scheduler.now + micros
        · exact clears_advance ht hmem hws (Nat.le_trans hearly hnow.1)
            (Nat.le_trans hfirst hlate) hl hm
        · have hstep : (c.step (.advance micros)).2 =
              { c with scheduler := c.scheduler.passTo (c.scheduler.now + micros) } :=
            advance_early ht hws hl
          have hfar : ¬ late ≤ c.scheduler.now + micros :=
            fun hle => hl (Nat.le_trans hfirst (Nat.le_trans hlate hle))
          rw [reaches, decide_eq_false hfar, Bool.false_or] at hr
          have hclock := (advance_timed ht micros).2.2
          refine .cons (by rw [hstep]) (ih htimed ?_ ?_ ?_ hks' ?_ hm)
          · rw [hstep]
            exact hmem
          · rw [hstep]
            exact hws ▸ hw
          · exact Nat.le_trans hearly (hclock.symm ▸ Nat.le_add_right _ _)
          · exact hclock.symm ▸ hr
    | shutdown => cases hr

end

/-- Whatever is tracked when a signal is handled, be it a duplicate or not and whatever becomes of
its session, has been forgotten, or was aborted by a sweep at the end of the delay or before, once
the clock was advanced to the end of the delay and nothing was shut down until then. -/
theorem signal_clears (c : Controller) (hc : c.IsNew) (d : Nat)
    (hd : c.scheduler.delay.wait = some d) (past : List Command) (x : Controller)
    (hx : (c.run past).2 = x) (sid : Sid) (ks : List Command) (hks : ∀ k ∈ ks, k.spares)
    (hr : reaches (x.scheduler.now + d) x.scheduler.now ks)
    (hm : (c.run (past ++ .signal sid :: ks)).2.site.Mild) (h : Handle)
    (hmem : h ∈ x.site.registry x.manager.registry) :
    x.Clears h x.scheduler.now (x.scheduler.now + d) (.signal sid :: ks) := by
  have ht : x.scheduler.Timed d :=
    hx ▸ run_timed (.of_empty hc.pending hc.timers hd) past
  rw [run_append, hx] at hm
  have hsched : (x.step (.signal sid)).2.scheduler = (x.scheduler.arm sid ()).2 :=
    scheduler_signal x sid
  have hnow : (x.step (.signal sid)).2.scheduler.now = x.scheduler.now := by
    rw [hsched, Scheduler.now_arm]
  obtain ⟨e, he, hw⟩ := ht.waits_arm (k := sid) (a := ())
  rw [← hsched] at hw
  exact clears_aside (aside_signal x sid) hmem fun hkept => clears_of_waiting
    (step_timed ht (.signal sid)) hkept hw (Nat.le_of_eq hnow.symm) he hks (hnow.symm ▸ hr) hm

/-- A delay of one second. A connection that records itself again and asks for another drain when it
is aborted first, and whose abort calls fail. -/
def obstinate : Controller where
  site := ({} : Site).setTransport "a"
    { reaction := fun n =>
        { requests := if n = 0 then [.record "a", .drain] else [], fault := some .tooDeep } }
  scheduler := { delay := .whole 1 }

/-- A duplicate half a second after the signal; its session leaves, and the connection is recorded
once more after the sweep. -/
theorem signal_clears_obstinate :
    let past := [.connect "s" [] .delivered, .signal "s", .advance 500000, .request (.record "a")]
    let x := (obstinate.run past).2
    let ks := [.disconnect "s" [], .advance 600000, .request (.record "a"), .advance 400000]
    obstinate.IsNew ∧ obstinate.scheduler.delay.wait = some 1000000 ∧
    (∀ k ∈ ks, k.spares) ∧ reaches (x.scheduler.now + 1000000) x.scheduler.now ks ∧
    (obstinate.run (past ++ .signal "s" :: ks)).2.site.Mild ∧
    "a" ∈ x.site.registry x.manager.registry ∧
    x.Clears "a" x.scheduler.now (x.scheduler.now + 1000000) (.signal "s" :: ks) := by
  intro past x ks
  have hnew : obstinate.IsNew := ⟨rfl, rfl, rfl, rfl, rfl⟩
  have hdelay : obstinate.scheduler.delay.wait = some 1000000 := by decide
  have hspares : ∀ k ∈ ks, k.spares := by decide
  have hreaches : reaches (x.scheduler.now + 1000000) x.scheduler.now ks := by decide
  have hmild : (obstinate.run (past ++ .signal "s" :: ks)).2.site.Mild := by decide
  have hmem : "a" ∈ x.site.registry x.manager.registry := by decide
  exact ⟨hnew, hdelay, hspares, hreaches, hmild, hmem,
    signal_clears obstinate hnew 1000000 hdelay past x rfl "s" ks hspares hreaches hmild "a" hmem⟩

end Linkcut.Controller

import Linkcut.Proofs.Controller.LiveSessions
import Linkcut.Proofs.Controller.Phases
import Linkcut.Proofs.Controller.Signals
import Linkcut.Proofs.Controller.Stages
import Mathlib.Data.List.Chain

/-!
The order of the phases. A session that connects once passes through its phases in their order, but
for one way back: a signal that comes when the sweep of the session has run arms another one, and
the session that was terminated is armed again.
-/

set_option autoImplicit false

namespace Linkcut.Controller

/-- What a command leads through before it is obeyed: a new session is entered, and its probe goes
out; while time passes, sweeps run. -/
def between (c : Controller) : Command → List Controller
  | .connect sid args _ =>
    if args.length ≤ 2 then [c.setPhase sid .established, c.opened sid] else []
  | .advance micros => (c.onsetsOf (.advance micros)).map Onset.after
  | _ => []

/-- All that the controller is along a run, in order. -/
def course (c : Controller) : List Command → List Controller
  | [] => [c]
  | k :: ks => c :: (c.between k ++ (c.step k).2.course ks)

/-- The successive phases of a session, while it is live. -/
def phasesOf (sid : Sid) (xs : List Controller) : List Phase :=
  xs.filterMap fun x => x.sessions.get? sid

/-- Whether a signal arms a session that was terminated. -/
def Stage.revives (sid : Sid) (s : Stage) : Bool :=
  match s.command with
  | .signal k => decide (k = sid) && !s.before.scheduler.isArmed sid &&
      decide (s.before.sessions.get? sid = some .terminated)
  | _ => false

/-- If the session is live at `c'`, it was so at `c`, and in no later phase. -/
def Onward (sid : Sid) (c c' : Controller) : Prop :=
  ∀ q, c'.sessions.get? sid = some q → ∃ p, c.sessions.get? sid = some p ∧ p.rank ≤ q.rank

namespace Onward

variable {sid : Sid} {c c' c'' : Controller}

theorem of_eq (h : c'.sessions.get? sid = c.sessions.get? sid) : Onward sid c c' :=
  fun q hq => ⟨q, h ▸ hq, Nat.le_refl _⟩

theorem trans (h : Onward sid c c') (h' : Onward sid c' c'') : Onward sid c c'' := by
  intro r hr
  obtain ⟨q, hq, hqr⟩ := h' r hr
  obtain ⟨p, hp, hpq⟩ := h q hq
  exact ⟨p, hp, Nat.le_trans hpq hqr⟩

theorem none (h : Onward sid c c') (hc : c.sessions.get? sid = none) :
    c'.sessions.get? sid = none := by
  refine Option.eq_none_iff_forall_not_mem.2 fun q hq => ?_
  obtain ⟨p, hp, _⟩ := h q hq
  rw [hc] at hp
  cases hp

theorem fire (c : Controller) (s : Sid) : Onward sid c (c.fire s).2 := by
  rcases c.get?_fire_cases s sid with hsame | ⟨-, hended⟩
  · exact of_eq hsame
  · intro q hq
    have hlive : c.sessions.isLive sid := by
      rw [← isLive_fire c s sid, Sessions.isLive, hended]
      rfl
    obtain ⟨p, hp⟩ := Option.isSome_iff_exists.1 hlive
    rw [hended] at hq
    rw [← Option.some.inj hq]
    exact ⟨p, hp, by cases p <;> decide⟩

/-- The sweeps of other sessions, and its own, take a session onward one by one. -/
theorem fireDue (c : Controller) (limit : Instant) (n : Nat) {d : Controller}
    (hd : d.sessions = (c.fireDue limit n).2.sessions) :
    (c :: ((onsetsDue limit n c).map Onset.after ++ [d])).IsChain (Onward sid) := by
  induction n generalizing c with
  | zero => exact List.isChain_pair.2 (of_eq (by rw [hd]; rfl))
  | succ n ih =>
    rw [Controller.fireDue] at hd
    rw [onsetsDue]
    cases hp : c.scheduler.popDue limit with
    | none =>
      simp only [hp] at hd
      exact List.isChain_pair.2 (of_eq (by rw [hd]))
    | some due =>
      obtain ⟨job, u⟩ := due
      simp only [hp] at hd
      have hfired : Onward sid c ({ c with scheduler := u }.fire job.key).2 :=
        fire { c with scheduler := u } job.key
      exact List.isChain_cons_cons.2 ⟨hfired, ih _ hd⟩

/-- A command that does not connect the session, and does not revive it, takes it onward. -/
theorem step {k : Command} (hopens : k.opens? sid ≠ some true)
    (hrevives : Stage.revives sid ⟨c, k⟩ = false) :
    (c :: (c.between k ++ [(c.step k).2])).IsChain (Onward sid) := by
  cases k with
  | connect s args probe =>
    simp only [between, Controller.step, onConnect]
    split
    · rename_i hargs
      have hne : sid ≠ s := fun e => hopens (by simp [Command.opens?, e, hargs])
      have hentered : (c.setPhase s .established).sessions.get? sid = c.sessions.get? sid := by
        simp [setPhase, hne]
      have hopened : (c.opened s).sessions.get? sid = c.sessions.get? sid := by
        rw [get?_opened, if_neg hne]
      have hend : (c.connect s probe).2.sessions.get? sid = c.sessions.get? sid := by
        rw [get?_connect, if_neg hne]
      refine List.isChain_cons_cons.2 ⟨of_eq hentered, List.isChain_cons_cons.2
        ⟨of_eq (hopened.trans hentered.symm), List.isChain_pair.2 (of_eq ?_)⟩⟩
      exact hend.trans hopened.symm
    · exact List.isChain_pair.2 (of_eq rfl)
  | release name fault =>
    refine List.isChain_pair.2 fun q hq => ?_
    simp only [Controller.step, get?_release] at hq
    split at hq
    · rename_i hwaits
      rw [← Option.some.inj hq]
      exact ⟨.probeSent, hwaits.2.2, by decide⟩
    · exact ⟨q, hq, Nat.le_refl _⟩
  | disconnect s args =>
    refine List.isChain_pair.2 fun q hq => ?_
    simp only [Controller.step, onDisconnect] at hq
    split at hq
    · rw [get?_disconnect] at hq
      split at hq
      · cases hq
      · exact ⟨q, hq, Nat.le_refl _⟩
    · exact ⟨q, hq, Nat.le_refl _⟩
  | signal s =>
    refine List.isChain_pair.2 fun q hq => ?_
    simp only [Controller.step, get?_signal] at hq
    split at hq
    · rename_i harms
      obtain ⟨rfl, hfree, hlive⟩ := harms
      obtain ⟨p, hp⟩ := Option.isSome_iff_exists.1 hlive
      have hearly : p ≠ .terminated := by
        intro e
        simp [Stage.revives, hfree, hp, e] at hrevives
      rw [← Option.some.inj hq]
      exact ⟨p, hp, by cases p <;> first | decide | exact absurd rfl hearly⟩
    · exact ⟨q, hq, Nat.le_refl _⟩
  | request q => exact List.isChain_pair.2 (of_eq rfl)
  | advance micros => exact fireDue c _ _ rfl
  | shutdown =>
    refine List.isChain_pair.2 (of_eq ?_)
    simp only [Controller.step, sessions_shutdown]

instance : Trans (Onward sid) (Onward sid) (Onward sid) := ⟨trans⟩

end Onward

section

variable {sid : Sid} {c : Controller} {k : Command} {ks : List Command}

theorem course_eq_cons (c : Controller) (ks : List Command) : ∃ xs, c.course ks = c :: xs := by
  cases ks with
  | nil => exact ⟨[], rfl⟩
  | cons k ks => exact ⟨_, rfl⟩

theorem chain_course_cons (hstep : (c :: (c.between k ++ [(c.step k).2])).IsChain (Onward sid))
    (hrest : ((c.step k).2.course ks).IsChain (Onward sid)) :
    (c.course (k :: ks)).IsChain (Onward sid) := by
  obtain ⟨xs, hxs⟩ := course_eq_cons (c.step k).2 ks
  rw [course, hxs]
  rw [hxs] at hrest
  have hjoin : (c :: c.between k ++ [(c.step k).2] ++ xs).IsChain (Onward sid) :=
    List.IsChain.append_overlap hstep hrest (by simp)
  simpa using hjoin

theorem chain_course (hopens : ∀ k ∈ ks, k.opens? sid ≠ some true)
    (hrevives : ∀ s ∈ c.stages ks, s.revives sid = false) :
    (c.course ks).IsChain (Onward sid) := by
  induction ks generalizing c with
  | nil => exact List.isChain_singleton c
  | cons k ks ih =>
    rw [stages] at hrevives
    refine chain_course_cons (Onward.step (hopens k List.mem_cons_self) ?_) (ih ?_ ?_)
    · exact hrevives _ List.mem_cons_self
    · exact fun j hj => hopens j (List.mem_cons_of_mem _ hj)
    · exact fun s hs => hrevives s (List.mem_cons_of_mem _ hs)

theorem sorted_of_chain {xs : List Controller} (h : xs.IsChain (Onward sid)) :
    (phasesOf sid xs).Pairwise fun p q => p.rank ≤ q.rank := by
  refine h.pairwise.filterMap _ fun x y hxy p hp q hq => ?_
  obtain ⟨p', hp', hle⟩ := hxy q hq
  rw [hp] at hp'
  rw [Option.some.inj hp']
  exact hle

/-- Where the session is not live, and does not connect, it has no phases. -/
theorem phasesOf_eq_nil {xs : List Controller} (h : (c :: xs).IsChain (Onward sid))
    (hc : c.sessions.get? sid = none) : phasesOf sid (c :: xs) = [] := by
  refine List.filterMap_eq_nil_iff.2 fun x hx => ?_
  rcases List.mem_cons.1 hx with rfl | hx
  · exact hc
  · exact ((List.pairwise_cons.1 h.pairwise).1 x hx).none hc

/-- The command that connects the session takes it through its first phases. -/
theorem chain_connect (hk : k.opens? sid = some true)
    (hrest : ((c.step k).2.course ks).IsChain (Onward sid)) :
    (c.between k ++ (c.step k).2.course ks).IsChain (Onward sid) := by
  obtain ⟨xs, hxs⟩ := course_eq_cons (c.step k).2 ks
  rw [hxs] at hrest ⊢
  cases k with
  | connect s args probe =>
    obtain ⟨rfl, hargs⟩ : s = sid ∧ args.length ≤ 2 := by
      by_contra hnot
      simp [Command.opens?, hnot] at hk
    have hentered : (c.setPhase s .established).sessions.get? s = some .established := by
      simp [setPhase]
    have hopened : (c.opened s).sessions.get? s = some .probeSent := by simp [get?_opened]
    have hend : (c.step (.connect s args probe)).2.sessions.get? s = some probe.phase := by
      simp only [step, onConnect, if_pos hargs, get?_connect, if_true]
    have hphase : Phase.probeSent.rank ≤ probe.phase.rank := by
      cases probe with
      | failed f => by_cases hf : f.isDelivery <;> simp [Probe.phase, hf, Phase.rank]
      | held name => exact Nat.le_refl _
      | delivered => decide
    simp only [between, if_pos hargs]
    have hfirst : Onward s (c.setPhase s .established) (c.opened s) :=
      fun q _ => ⟨_, hentered, Nat.zero_le _⟩
    have hsecond : Onward s (c.opened s) (c.step (.connect s args probe)).2 := by
      intro q hq
      rw [hend] at hq
      exact ⟨_, hopened, Option.some.inj hq ▸ hphase⟩
    exact List.isChain_cons_cons.2 ⟨hfirst, List.isChain_cons_cons.2 ⟨hsecond, hrest⟩⟩
  | disconnect s args =>
    simp only [Command.opens?] at hk
    split at hk <;> cases hk
  | _ => cases hk

/-- Only a sweep terminates a session. -/
theorem Sweepless.not_terminated {f : Fault} (hc : c.Sweepless f)
    (h : c.sessions.get? sid ≠ some .terminated) (k : Command) :
    (c.step k).2.sessions.get? sid ≠ some .terminated := by
  cases k with
  | connect s args probe =>
    simp only [Controller.step, onConnect]
    split
    · rw [get?_connect]
      split
      · cases probe with
        | failed f => by_cases hf : f.isDelivery <;> simp [Probe.phase, hf]
        | held name => simp [Probe.phase]
        | delivered => simp [Probe.phase]
      · exact h
    · exact h
  | release name fault =>
    simp only [Controller.step, get?_release]
    split
    · simp
    · exact h
  | disconnect s args =>
    simp only [Controller.step, onDisconnect]
    split
    · rw [get?_disconnect]
      split
      · simp
      · exact h
    · exact h
  | signal s =>
    rw [Controller.step, hc.signal_eq]
    exact h
  | request q => exact h
  | advance micros =>
    rw [Controller.step, hc.advance_eq]
    exact h
  | shutdown =>
    rw [Controller.step, hc.shutdown_eq]
    exact h

theorem Sweepless.not_revives {f : Fault} (hc : c.Sweepless f)
    (h : c.sessions.get? sid ≠ some .terminated) {s : Stage} (hs : s ∈ c.stages ks) :
    s.revives sid = false := by
  induction ks generalizing c with
  | nil => cases hs
  | cons k ks ih =>
    rcases List.mem_cons.1 hs with rfl | hs
    · unfold Stage.revives
      split
      · simp [h]
      · rfl
    · exact ih (hc.step k).1 (hc.not_terminated h k) hs

/-- Until the session connects it has no phases, and afterwards it goes onward. -/
theorem sorted_course (hc : c.sessions.get? sid = none)
    (honce : ks.countP (fun k => decide (k.opens? sid = some true)) ≤ 1)
    (hrevives : ∀ s ∈ c.stages ks, s.revives sid = false) :
    (phasesOf sid (c.course ks)).Pairwise fun p q => p.rank ≤ q.rank := by
  induction ks generalizing c with
  | nil => exact sorted_of_chain (List.isChain_singleton c)
  | cons k ks ih =>
    have hlater : ∀ s ∈ (c.step k).2.stages ks, s.revives sid = false :=
      fun s hs => hrevives s (List.mem_cons_of_mem _ hs)
    by_cases hk : k.opens? sid = some true
    -- this is the one time, and from here on the session goes onward
    · have hnever : ∀ j ∈ ks, j.opens? sid ≠ some true := by
        simpa [List.countP_cons, hk, List.countP_eq_zero] using honce
      have hchain := chain_connect (c := c) hk (chain_course hnever hlater)
      have hskip : phasesOf sid (c.course (k :: ks)) =
          phasesOf sid (c.between k ++ (c.step k).2.course ks) := List.filterMap_cons_none hc
      rw [hskip]
      exact sorted_of_chain hchain
    -- the session is not live yet, and the command leaves it so
    · have hchain := Onward.step hk (hrevives _ List.mem_cons_self)
      have hnone := phasesOf_eq_nil hchain hc
      have hafter : (c.step k).2.sessions.get? sid = none :=
        List.filterMap_eq_nil_iff.1 hnone _ (by simp)
      have hskip : phasesOf sid (c.course (k :: ks)) = phasesOf sid ((c.step k).2.course ks) := by
        rw [phasesOf, ← List.cons_append, List.filterMap_append] at hnone
        rw [phasesOf, course, ← List.cons_append, List.filterMap_append,
          (List.append_eq_nil_iff.1 hnone).1]
        rfl
      rw [hskip]
      exact ih hafter (by simpa [List.countP_cons, hk] using honce) hlater

theorem not_sorted_of_revives (hstarts : c.scheduler.delay.starts) {s : Stage}
    (hs : s ∈ c.stages ks) (hrevives : s.revives sid) :
    ¬ (phasesOf sid (c.course ks)).Pairwise fun p q => p.rank ≤ q.rank := by
  induction ks generalizing c with
  | nil => cases hs
  | cons k ks ih =>
    obtain ⟨xs, hxs⟩ := course_eq_cons (c.step k).2 ks
    rcases List.mem_cons.1 hs with rfl | hs
    · cases k with
      | signal s =>
        obtain ⟨⟨rfl, hfree⟩, hended⟩ : (s = sid ∧ c.scheduler.isArmed sid = false) ∧
            c.sessions.get? sid = some .terminated := by
          simpa [Stage.revives] using hrevives
        have harmed : (c.step (.signal s)).2.sessions.get? s = some .disconnectArmed := by
          simp [step, get?_signal, hfree, hstarts, Sessions.isLive, hended]
        have hback : phasesOf s (c.course (.signal s :: ks)) =
            .terminated :: .disconnectArmed :: phasesOf s xs := by
          simp [phasesOf, course, between, hxs, hended, harmed]
        rw [hback]
        intro hsorted
        have hle := (List.pairwise_cons.1 hsorted).1 .disconnectArmed (by simp)
        exact absurd hle (by decide)
      | _ => cases hrevives
    · intro hsorted
      refine ih (by rwa [delay_step]) hs (hsorted.sublist (List.Sublist.filterMap _ ?_))
      exact (List.sublist_append_right _ _).cons c

end

/-- A session that connects at most once passes through its phases in their order, and goes back in
it if and only if a signal revives it. -/
theorem forward_iff (c : Controller) (hc : c.IsNew) (sid : Sid) (ks : List Command)
    (once : ks.countP (fun k => decide (k.opens? sid = some true)) ≤ 1) :
    ((phasesOf sid (c.course ks)).Pairwise fun p q => p.rank ≤ q.rank) ↔
      ∀ s ∈ c.stages ks, s.revives sid = false := by
  constructor
  · intro hsorted s hs
    cases hf : c.scheduler.delay.startFault? with
    | some f =>
      have hnone : c.Sweepless f := ⟨hf, hc.pending, hc.timers⟩
      exact hnone.not_revives (by simp [hc.sessions, Sessions.get?, Sessions.empty]) hs
    | none =>
      rw [← Bool.not_eq_true]
      exact fun hrevives =>
        not_sorted_of_revives (Delay.starts_iff.2 hf) hs hrevives hsorted
  · exact sorted_course (by rw [hc.sessions]; rfl) once

/-- A shutdown, a probe that comes to its end late, a duplicate, and the sweep of another session
after the one that ends it. -/
def patient : List Command :=
  [.connect "s" [] (.held "p"), .signal "s", .shutdown, .release "p" none, .signal "s",
    .signal "s", .advance 1000000, .signal "t", .advance 1000000, .disconnect "s" []]

theorem forward_iff_patient :
    frail.IsNew ∧ patient.countP (fun k => decide (k.opens? "s" = some true)) ≤ 1 ∧
    (∀ s ∈ frail.stages patient, s.revives "s" = false) ∧
    (phasesOf "s" (frail.course patient)).dedup =
      [.established, .probeSent, .disconnectArmed, .terminated] ∧
    (phasesOf "s" (frail.course patient)).Pairwise fun p q => p.rank ≤ q.rank := by
  have hnew : frail.IsNew := ⟨rfl, rfl, rfl, rfl, rfl⟩
  have honce : patient.countP (fun k => decide (k.opens? "s" = some true)) ≤ 1 := by decide
  have hrevives : ∀ s ∈ frail.stages patient, s.revives "s" = false := by decide
  exact ⟨hnew, honce, hrevives, by decide,
    (forward_iff frail hnew "s" patient honce).2 hrevives⟩

/-- A session that is still there when its sweep has run, and signals once more. -/
def relapse : List Command :=
  [.connect "s" [] .delivered, .signal "s", .advance 1000000, .signal "s"]

/-- Its last phase comes before the one that it was in. -/
theorem backward_relapse :
    frail.IsNew ∧ relapse.countP (fun k => decide (k.opens? "s" = some true)) ≤ 1 ∧
    (frail.run relapse).2.sessions.get? "s" = some .disconnectArmed ∧
    ¬ (phasesOf "s" (frail.course relapse)).Pairwise fun p q => p.rank ≤ q.rank :=
  ⟨⟨rfl, rfl, rfl, rfl, rfl⟩, by decide, by decide, by decide⟩

end Linkcut.Controller

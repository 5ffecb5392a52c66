import Linkcut.Proofs.Controller.LiveSessions
import Linkcut.Proofs.Controller.Phases
import Linkcut.Proofs.Controller.Scenes

/-!
Armed sessions and pending sweeps. The phases of sessions and the pending sweeps are kept apart, and
yet they agree until there is a shutdown: a session that is armed has a pending sweep, and a pending
sweep shows in the phase of its session. The second half is about sessions that connect once, for a
session that connects anew starts from its first phase, whatever is pending for it.
-/

set_option autoImplicit false

namespace Linkcut.Controller

def Command.signals (sid : Sid) : Command → Bool
  | .signal s => decide (s = sid)
  | _ => false

/-- A session that was connected once, and for which no signal came before. -/
def ConnectedOnce (sid : Sid) (ks : List Command) : Prop :=
  ∃ past k rest, ks = past ++ k :: rest ∧ k.opens? sid = some true ∧
    (∀ j ∈ past, j.opens? sid ≠ some true ∧ j.signals sid = false) ∧
    ∀ j ∈ rest, j.opens? sid ≠ some true

/-- As long as abort calls end in ordinary faults at most, the session has a pending sweep if it is
armed. -/
def Backed (c : Controller) (sid : Sid) : Prop :=
  c.site.Mild → c.sessions.get? sid = some .disconnectArmed → c.scheduler.isArmed sid

/-- A pending sweep of the session shows in its phase, if the session is live. -/
def Shows (c : Controller) (sid : Sid) : Prop :=
  c.scheduler.isArmed sid → c.sessions.isLive sid → c.sessions.get? sid = some .disconnectArmed

section

variable {c : Controller} {sid : Sid} {k : Command} {ks : List Command} {limit : Instant}

/-- Only a signal arms a session. -/
theorem armed_of_session (hk : k.isOfSession)
    (h : (c.step k).2.sessions.get? sid = some .disconnectArmed) :
    c.sessions.get? sid = some .disconnectArmed := by
  cases k with
  | connect s args probe =>
    simp only [step, onConnect] at h
    split at h
    · rw [get?_connect] at h
      split at h
      · cases probe with
        | failed f => by_cases hf : f.isDelivery <;> simp [Probe.phase, hf] at h
        | _ => cases h
      · exact h
    · exact h
  | release name fault =>
    simp only [step, get?_release] at h
    split at h
    · cases h
    · exact h
  | disconnect s args =>
    simp only [step, onDisconnect] at h
    split at h
    · rw [get?_disconnect] at h
      split at h
      · cases h
      · exact h
    · exact h
  | _ => cases hk

/-- A session that is armed stays so until it disconnects or connects anew. -/
theorem still_armed_of_session (hk : k.isOfSession) (hopens : k.opens? sid ≠ some true)
    (h : c.sessions.get? sid = some .disconnectArmed)
    (hlive : (c.step k).2.sessions.isLive sid) :
    (c.step k).2.sessions.get? sid = some .disconnectArmed := by
  cases k with
  | connect s args probe =>
    simp only [step, onConnect]
    split
    · rename_i hargs
      have hne : sid ≠ s := fun e => hopens (by simp [Command.opens?, e, hargs])
      rw [get?_connect, if_neg hne]
      exact h
    · exact h
  | release name fault =>
    simp only [step, get?_release, h]
    simp
  | disconnect s args =>
    simp only [step, onDisconnect] at hlive ⊢
    split
    · rename_i hargs
      rw [if_pos hargs, isLive_disconnect] at hlive
      have hne : sid ≠ s := by
        intro e
        simp [e] at hlive
      rw [get?_disconnect, if_neg hne]
      exact h
    · exact h
  | _ => cases hk

theorem isArmed_signal (s : Sid) : (c.signal s).2.scheduler.isArmed sid =
    ((decide (sid = s) && c.scheduler.delay.starts) || c.scheduler.isArmed sid) := by
  rw [scheduler_signal, Scheduler.isArmed_arm]

namespace Backed

theorem signal (h : c.Backed sid) (s : Sid) : (c.signal s).2.Backed sid := by
  intro hm harmed
  have hbefore := h fun e he => hm e ((aside_signal c s).suffix.subset he)
  rw [get?_signal] at harmed
  rw [isArmed_signal]
  split at harmed
  · rename_i hs
    simp [hs.1, hs.2.1.2]
  · simp [hbefore harmed]

theorem fire (h : c.Backed sid) {job : Job Sid Unit} {u : Scheduler Sid Unit}
    (hp : c.scheduler.popDue limit = some (job, u)) :
    ({ c with scheduler := u }.fire job.key).2.Backed sid := by
  intro hm harmed
  have hbefore := h fun e he => hm e ((suffix_fire { c with scheduler := u } job.key).subset he)
  -- the timer takes away the pending sweep of its own session, which is armed no more
  have hne : sid ≠ job.key := by
    rintro rfl
    exact get?_fire_ne_armed { c with scheduler := u } job.key hm harmed
  rw [get?_fire_of_ne _ _ _ hne] at harmed
  rw [scheduler_fire, Scheduler.isArmed_popDue hp]
  simp [hne, hbefore harmed]

theorem fireDue (h : c.Backed sid) (limit : Instant) (n : Nat) :
    (c.fireDue limit n).2.Backed sid :=
  fireDue_invariant c (Backed · sid) (fun _ _ _ _ hp hx => hx.fire hp) h limit n

theorem step (h : c.Backed sid) (hk : k ≠ .shutdown) : (c.step k).2.Backed sid := by
  have hsession : k.isOfSession → (c.step k).2.Backed sid := by
    intro hof hm harmed
    have haside := aside_step c hof
    rw [haside.scheduler]
    exact h (fun e he => hm e (haside.suffix.subset he)) (armed_of_session hof harmed)
  cases k with
  | connect | release | disconnect => exact hsession rfl
  | signal s => exact h.signal s
  | request q =>
    intro hm harmed
    exact h (hm.of_grows (Site.grows_perform c.site _ _ q)) harmed
  | advance micros => exact h.fireDue _ _
  | shutdown => exact absurd rfl hk

theorem run (h : c.Backed sid) (hks : .shutdown ∉ ks) : (c.run ks).2.Backed sid := by
  induction ks generalizing c with
  | nil => exact h
  | cons k ks ih =>
    obtain ⟨hk, hrest⟩ := not_or.1 (mt List.mem_cons.2 hks)
    exact ih (h.step (Ne.symm hk)) hrest

end Backed

namespace Shows

theorem signal (h : c.Shows sid) (s : Sid) : (c.signal s).2.Shows sid := by
  intro harmed hlive
  rw [isLive_signal] at hlive
  rw [get?_signal]
  split
  · rfl
  · rename_i hs
    rw [isArmed_signal] at harmed
    -- a signal that armed nothing found the sweep pending
    by_cases he : sid = s
    · subst he
      have hpending : c.scheduler.isArmed sid := by
        by_contra hfree
        simp only [Bool.not_eq_true] at hfree
        exact hs ⟨rfl, ⟨hfree, by simpa [hfree] using harmed⟩, hlive⟩
      exact h hpending hlive
    · exact h (by simpa [he] using harmed) hlive

theorem fire (h : c.Shows sid) {job : Job Sid Unit} {u : Scheduler Sid Unit}
    (hp : c.scheduler.popDue limit = some (job, u)) :
    ({ c with scheduler := u }.fire job.key).2.Shows sid := by
  intro harmed hlive
  rw [scheduler_fire, Scheduler.isArmed_popDue hp] at harmed
  rw [isLive_fire] at hlive
  obtain ⟨hne, hpending⟩ : sid ≠ job.key ∧ c.scheduler.isArmed sid := by simpa using harmed
  rw [get?_fire_of_ne _ _ _ hne]
  exact h hpending hlive

theorem fireDue (h : c.Shows sid) (limit : Instant) (n : Nat) :
    (c.fireDue limit n).2.Shows sid :=
  fireDue_invariant c (Shows · sid) (fun _ _ _ _ hp hx => hx.fire hp) h limit n

theorem step (h : c.Shows sid) (hk : k.opens? sid ≠ some true) : (c.step k).2.Shows sid := by
  have hsession : k.isOfSession → (c.step k).2.Shows sid := by
    intro hof harmed hlive
    rw [(aside_step c hof).scheduler] at harmed
    have hbefore : c.sessions.isLive sid := by
      rw [isLive_step] at hlive
      cases ho : k.opens? sid with
      | none => simpa [ho] using hlive
      | some b => cases b <;> simp_all
    exact still_armed_of_session hof hk (h harmed hbefore) hlive
  cases k with
  | connect | release | disconnect => exact hsession rfl
  | signal s => exact h.signal s
  | request q => exact h
  | advance micros => exact h.fireDue _ _
  | shutdown =>
    intro harmed
    rw [show (c.step .shutdown).2.scheduler = c.scheduler.cancelAll.2 from scheduler_shutdown c]
      at harmed
    cases harmed

theorem run (h : c.Shows sid) (hks : ∀ k ∈ ks, k.opens? sid ≠ some true) :
    (c.run ks).2.Shows sid := by
  induction ks generalizing c with
  | nil => exact h
  | cons k ks ih =>
    exact ih (h.step (hks k List.mem_cons_self)) fun j hj => hks j (List.mem_cons_of_mem _ hj)

/-- Nothing is pending for a session when it connects for the first time and no signal came. -/
theorem of_unarmed (h : c.scheduler.isArmed sid = false) : c.Shows sid := by
  intro harmed
  rw [h] at harmed
  cases harmed

end Shows

theorem unarmed_fireDue (h : c.scheduler.isArmed sid = false) (limit : Instant) (n : Nat) :
    (c.fireDue limit n).2.scheduler.isArmed sid = false := by
  refine fireDue_invariant c (fun x => x.scheduler.isArmed sid = false) ?_ h limit n
  intro x job u _ hp hx
  rw [scheduler_fire, Scheduler.isArmed_popDue hp, hx, Bool.and_false]

theorem unarmed_step (h : c.scheduler.isArmed sid = false) (hk : k.signals sid = false) :
    (c.step k).2.scheduler.isArmed sid = false := by
  have hsession : k.isOfSession → (c.step k).2.scheduler.isArmed sid = false := by
    intro hof
    rw [(aside_step c hof).scheduler]
    exact h
  cases k with
  | connect | release | disconnect => exact hsession rfl
  | signal s =>
    have hne : sid ≠ s := fun e => by simp [Command.signals, e] at hk
    exact (isArmed_signal s).trans (by simp [hne, h])
  | request q => exact h
  | advance micros => exact unarmed_fireDue h _ _
  | shutdown =>
    rw [show (c.step .shutdown).2.scheduler = c.scheduler.cancelAll.2 from scheduler_shutdown c]
    rfl

theorem unarmed_run (h : c.scheduler.isArmed sid = false)
    (hks : ∀ k ∈ ks, k.signals sid = false) : (c.run ks).2.scheduler.isArmed sid = false := by
  induction ks generalizing c with
  | nil => exact h
  | cons k ks ih =>
    exact ih (unarmed_step h (hks k List.mem_cons_self)) fun j hj =>
      hks j (List.mem_cons_of_mem _ hj)

theorem ConnectedOnce.shows (h : c.scheduler.isArmed sid = false) (hks : ConnectedOnce sid ks) :
    (c.run ks).2.Shows sid := by
  obtain ⟨past, k, rest, rfl, hk, hpast, hrest⟩ := hks
  have hbefore := unarmed_run h fun j hj => (hpast j hj).2
  -- the command that connects the session is no signal
  have hsignals : k.signals sid = false := by
    cases k with
    | signal s => cases hk
    | _ => rfl
  rw [run_append]
  exact (Shows.of_unarmed (unarmed_step hbefore hsignals)).run hrest

/-- The last command connects the session, or else it was connected before. -/
theorem ConnectedOnce.of_concat (h : ConnectedOnce sid (ks ++ [k])) :
    (∀ j ∈ ks, j.signals sid = false) ∨ k.opens? sid ≠ some true ∧ ConnectedOnce sid ks := by
  obtain ⟨past, j, rest, heq, hj, hpast, hrest⟩ := h
  rcases List.eq_nil_or_concat rest with rfl | ⟨rest, i, rfl⟩
  · obtain ⟨rfl, -⟩ := List.append_inj' heq rfl
    exact .inl fun i hi => (hpast i hi).2
  · have heq' : ks ++ [k] = (past ++ j :: rest) ++ [i] := by simpa using heq
    obtain ⟨rfl, hki⟩ := List.append_inj' heq' rfl
    obtain rfl : k = i := by simpa using hki
    refine .inr ⟨hrest k (by simp), past, j, rest, rfl, hj, hpast, fun i hi => hrest i ?_⟩
    simp [hi]

end

/-- Before any shutdown, and while no timer runs: a session that is armed has a pending sweep; and a
session that connected once, and no signal came for it before, is armed if it is live and has a
pending sweep. -/
theorem armed_iff_pending (c : Controller) (hc : c.IsNew) (ks : List Command)
    (hks : .shutdown ∉ ks) (a : Activity) (ha : a ≠ .timer) (x : Controller)
    (hx : c.Scene ks a x) (mild : x.site.Mild) (sid : Sid) :
    (x.sessions.get? sid = some .disconnectArmed → x.scheduler.isArmed sid) ∧
    (ConnectedOnce sid ks → x.sessions.isLive sid → x.scheduler.isArmed sid →
      x.sessions.get? sid = some .disconnectArmed) := by
  have hbacked : c.Backed sid := by
    intro _ harmed
    rw [hc.sessions] at harmed
    cases harmed
  have hunarmed : c.scheduler.isArmed sid = false := by simp [Scheduler.isArmed, hc.pending]
  cases hx with
  | rest ks limit n =>
    exact ⟨((hbacked.run hks).fireDue limit n) mild, fun once hlive harmed =>
      ((once.shows hunarmed).fireDue limit n) harmed hlive⟩
  | emitting ks s args probe few =>
    have haside := aside_opened (c.run ks).2 s
    have hearly : .shutdown ∉ ks := fun hin => hks (by simp [hin])
    have hbefore := hbacked.run hearly
    rw [haside.scheduler, get?_opened]
    refine ⟨fun harmed => ?_, fun once hlive harmed => ?_⟩
    · by_cases hs : sid = s
      · simp [hs] at harmed
      · rw [if_neg hs] at harmed
        exact hbefore (fun e he => mild e (haside.suffix.subset he)) harmed
    · rcases once.of_concat with hnone | ⟨hopens, hearlier⟩
      · rw [unarmed_run hunarmed hnone] at harmed
        cases harmed
      · have hs : sid ≠ s := fun e => hopens (by simp [Command.opens?, e, few])
        rw [isLive_opened] at hlive
        rw [if_neg hs]
        exact hearlier.shows hunarmed harmed (by simpa [hs] using hlive)
  | asked ks q y hy =>
    have hearly : .shutdown ∉ ks := fun hin => hks (by simp [hin])
    have hbefore := hbacked.run hearly
    refine ⟨hbefore (mild.of_grows hy.grows), fun once hlive harmed => ?_⟩
    rcases once.of_concat with hnone | ⟨_, hearlier⟩
    · rw [unarmed_run hunarmed hnone] at harmed
      cases harmed
    · exact hearlier.shows hunarmed harmed hlive
  | sweeping => exact absurd rfl ha

/-- A probe that comes to its end after the signal, a duplicate, and a signal when the sweep has
run, which a connection answers with a fault. -/
def steadfast : List Command :=
  [.request (.record "a"), .connect "s" [] (.held "p"), .signal "s", .release "p" none,
    .signal "s", .advance 1000000, .signal "t", .signal "s"]

theorem armed_iff_pending_steadfast :
    let x := (frail.run steadfast).2
    frail.IsNew ∧ .shutdown ∉ steadfast ∧ frail.Scene steadfast .rest x ∧ x.site.Mild ∧
    ConnectedOnce "s" steadfast ∧ x.swept.map Sweep.sid = ["s"] ∧
    x.sessions.get? "s" = some .disconnectArmed ∧ x.scheduler.isArmed "s" := by
  intro x
  have hnew : frail.IsNew := ⟨rfl, rfl, rfl, rfl, rfl⟩
  have hgoing : .shutdown ∉ steadfast := by simp [steadfast]
  have hscene : frail.Scene steadfast .rest x := .rest steadfast 0 0
  have hmild : x.site.Mild := by decide
  have honce : ConnectedOnce "s" steadfast :=
    ⟨[.request (.record "a")], .connect "s" [] (.held "p"), _, rfl, by decide, by
      simp [Command.opens?, Command.signals], by simp [Command.opens?]⟩
  have h := armed_iff_pending frail hnew steadfast hgoing .rest (by decide) x hscene hmild "s"
  have hphase := h.2 honce (by decide) (by decide)
  exact ⟨hnew, hgoing, hscene, hmild, honce, by decide, hphase, h.1 hphase⟩

end Linkcut.Controller

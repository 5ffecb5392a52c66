import Linkcut.Proofs.Controller.Armed
import Linkcut.Proofs.Controller.Probes

/-!
Probes that fail. A probe may fail at once or after it waited, while other commands are obeyed. A
failure of delivery breaks nothing: it is counted, and the session, if it was left alone meanwhile,
goes on to wait for a signal. Any other fault, ordinary or not, ends the handler and is not counted,
and the session stays where it is.
-/

set_option autoImplicit false

namespace Linkcut.Controller

/-- By the end of a failed probe the failure is counted, its handler has ended without a fault, and
the session waits for a signal if it is still there and was left alone. -/
structure Harmless (sid : Sid) (alone : Prop) (before : Controller) (r : Answer × Controller) :
    Prop where
  answer : r.1 = .handler (.ok .finished)
  failed : r.2.tally .probesFailed = before.tally .probesFailed + 1
  sent : r.2.tally .probesSent = before.tally .probesSent
  waits : alone → r.2.sessions.get? sid = some .waitingForSignal

/-- What the handler of a session answers and leaves behind when its probe fails. -/
def failProbe (c : Controller) (sid : Sid) (f : Fault) : Answer × Controller :=
  let (left, c) := c.endProbe sid (some f)
  (.ended left, c)

/-- While these commands were obeyed, and some of the sweeps that are due by `limit` were run, the
session did not connect anew, did not signal and was not swept. -/
structure LeftAlone (c : Controller) (sid : Sid) (ks : List Command) (limit : Instant) (n : Nat) :
    Prop where
  opens : ∀ k ∈ ks, k.opens? sid ≠ some true
  signals : ∀ k ∈ ks, k.signals sid = false
  sweeps : ∀ o ∈ c.onsets ks ++ onsetsDue limit n (c.run ks).2, o.sid ≠ sid

/-- The session is gone, or no further than at the end of its probe. -/
def Lingers (c : Controller) (sid : Sid) : Prop :=
  ∀ p, c.sessions.get? sid = some p → p = .probeSent ∨ p = .waitingForSignal

section

variable {c : Controller} {sid : Sid} {name : String} {k : Command} {ks : List Command}

theorem lookup_eraseP_of_ne {other : String} (h : other ≠ name) (l : List (String × Sid)) :
    (l.eraseP (·.1 == other)).lookup name = l.lookup name := by
  induction l with
  | nil => rfl
  | cons e es ih =>
    obtain ⟨n, s⟩ := e
    by_cases hn : n = other
    · have hne : (name == n) = false := beq_false_of_ne fun e => h (hn.symm.trans e.symm)
      rw [List.eraseP_cons_of_pos (by simpa using hn), List.lookup_cons, hne]
    · rw [List.eraseP_cons_of_neg (by simpa using hn), List.lookup_cons, List.lookup_cons, ih]

theorem lookup_step (h : c.inFlight.lookup name = some sid) (hk : ∀ g, k ≠ .release name g) :
    (c.step k).2.inFlight.lookup name = some sid := by
  rw [inFlight_step]
  cases k with
  | connect s args probe =>
    cases probe with
    | held other =>
      dsimp only
      split
      · rw [List.lookup_append, h, Option.some_or]
      · exact h
    | _ => exact h
  | release other g =>
    have hne : other ≠ name := fun e => hk g (by rw [e])
    exact (lookup_eraseP_of_ne hne _).trans h
  | _ => exact h

theorem lookup_run (h : c.inFlight.lookup name = some sid) (hks : ∀ g, .release name g ∉ ks) :
    (c.run ks).2.inFlight.lookup name = some sid := by
  induction ks generalizing c with
  | nil => exact h
  | cons k ks ih =>
    refine ih (lookup_step h fun g e => hks g ?_) fun g hg => hks g (List.mem_cons_of_mem _ hg)
    rw [← e]
    exact List.mem_cons_self

/-- Sweeps of other sessions leave a session as it is. -/
theorem get?_fireDue_of_onsets {limit : Instant} {n : Nat}
    (h : ∀ o ∈ onsetsDue limit n c, o.sid ≠ sid) :
    (c.fireDue limit n).2.sessions.get? sid = c.sessions.get? sid := by
  induction n generalizing c with
  | zero => rfl
  | succ n ih =>
    rw [onsetsDue] at h
    rw [fireDue]
    cases hp : c.scheduler.popDue limit with
    | none => rfl
    | some due =>
      obtain ⟨job, u⟩ := due
      simp only [hp] at h
      have hne : sid ≠ job.key := (h _ List.mem_cons_self).symm
      exact (ih fun o ho => h o (List.mem_cons_of_mem _ ho)).trans
        ({ c with scheduler := u }.get?_fire_of_ne job.key sid hne)

namespace Lingers

theorem of_eq {c' : Controller} (h : c.Lingers sid)
    (heq : c'.sessions.get? sid = c.sessions.get? sid) : c'.Lingers sid :=
  fun p hp => h p (heq ▸ hp)

theorem step (h : c.Lingers sid) (hopens : k.opens? sid ≠ some true)
    (hsignals : k.signals sid = false) (hsweeps : ∀ o ∈ c.onsetsOf k, o.sid ≠ sid) :
    (c.step k).2.Lingers sid := by
  cases k with
  | connect s args probe =>
    simp only [Controller.step, onConnect]
    split
    · rename_i hargs
      have hne : sid ≠ s := fun e => hopens (by simp [Command.opens?, e, hargs])
      exact h.of_eq (by rw [get?_connect, if_neg hne])
    · exact h
  | release name fault =>
    intro p hp
    simp only [Controller.step, get?_release] at hp
    split at hp
    · exact .inr (Option.some.inj hp).symm
    · exact h p hp
  | disconnect s args =>
    intro p hp
    simp only [Controller.step, onDisconnect] at hp
    split at hp
    · rw [get?_disconnect] at hp
      split at hp
      · cases hp
      · exact h p hp
    · exact h p hp
  | signal s =>
    have hne : sid ≠ s := fun e => by simp [Command.signals, e] at hsignals
    refine h.of_eq ?_
    simp only [Controller.step, get?_signal, hne, false_and, if_false]
  | request q => exact h
  | advance micros => exact h.of_eq (get?_fireDue_of_onsets hsweeps)
  | shutdown => exact h.of_eq (by simp only [Controller.step, sessions_shutdown])

theorem run (h : c.Lingers sid) (hopens : ∀ k ∈ ks, k.opens? sid ≠ some true)
    (hsignals : ∀ k ∈ ks, k.signals sid = false) (hsweeps : ∀ o ∈ c.onsets ks, o.sid ≠ sid) :
    (c.run ks).2.Lingers sid := by
  induction ks generalizing c with
  | nil => exact h
  | cons k ks ih =>
    have hfirst := h.step (hopens k List.mem_cons_self) (hsignals k List.mem_cons_self)
      fun o ho => hsweeps o (List.mem_append_left _ ho)
    exact ih hfirst (fun j hj => hopens j (List.mem_cons_of_mem _ hj))
      (fun j hj => hsignals j (List.mem_cons_of_mem _ hj))
      fun o ho => hsweeps o (List.mem_append_right _ ho)

theorem of_leftAlone {limit : Instant} {n : Nat} (h : c.Lingers sid)
    (ha : c.LeftAlone sid ks limit n) : ((c.run ks).2.fireDue limit n).2.Lingers sid := by
  have hrun := h.run ha.opens ha.signals fun o ho => ha.sweeps o (List.mem_append_left _ ho)
  exact hrun.of_eq (get?_fireDue_of_onsets fun o ho => ha.sweeps o (List.mem_append_right _ ho))

end Lingers

theorem failProbe_fst (f : Fault) :
    (c.failProbe sid f).1 = .ended ((some f).filter fun f => !f.isDelivery) :=
  congrArg Answer.ended (c.endProbe_fst sid (some f))

theorem failProbe_snd (f : Fault) : (c.failProbe sid f).2 = (c.endProbe sid (some f)).2 := rfl

theorem tally_failProbe {f : Fault} (hf : f.isDelivery) (k : Counter) :
    (c.failProbe sid f).2.tally k = c.tally k + if k = .probesFailed then 1 else 0 := by
  rw [failProbe_snd, endProbe, if_pos hf]
  simp only [tally_afterProbe, tally_log, tally_count]
  split <;> simp

theorem tally_opened (k : Counter) :
    (c.opened sid).tally k = c.tally k + if k = .established then 1 else 0 := by
  have htally : (c.opened sid).tally k = (c.count .established 1).tally k := rfl
  rw [htally, tally_count]
  split <;> simp

theorem step_connect_failed {args : List Value} (few : args.length ≤ 2) (f : Fault) :
    c.step (.connect sid args (.failed f)) = (c.opened sid).failProbe sid f := by
  have hend : c.probeEnd? (.connect sid args (.failed f)) = some (sid, some f) := by
    simp [probeEnd?, few]
  refine Prod.ext ?_ ?_
  · rw [answer_of_probeEnd c sid hend, failProbe_fst]
  · simp only [step, onConnect, few, if_true, connect_snd, failProbe_snd]

theorem step_release_failed (h : c.inFlight.lookup name = some sid) (f : Fault) :
    c.step (.release name (some f)) =
      { c with inFlight := c.inFlight.eraseP (·.1 == name) }.failProbe sid f := by
  have hend : c.probeEnd? (.release name (some f)) = some (sid, some f) := by simp [probeEnd?, h]
  refine Prod.ext ?_ ?_
  · rw [answer_of_probeEnd c sid hend, failProbe_fst]
  · simp only [step, release_snd, h, failProbe_snd]

theorem failProbe_of_not_delivery {f : Fault} (hf : f.isDelivery = false) :
    c.failProbe sid f = (.handler (.error f), c) := by
  simp [failProbe, endProbe, hf, Answer.ended]

/-- What a failed probe comes to depends on its fault alone. -/
theorem harmless_failProbe_iff {alone : Prop} {before : Controller} (f : Fault)
    (hfailed : c.tally .probesFailed = before.tally .probesFailed)
    (hsent : c.tally .probesSent = before.tally .probesSent)
    (halone : alone → c.sessions.get? sid = some .probeSent ∨
      c.sessions.get? sid = some .waitingForSignal) :
    Harmless sid alone before (c.failProbe sid f) ↔ f.isDelivery := by
  constructor
  · intro h
    by_contra hf
    have hanswer := h.answer
    rw [failProbe_of_not_delivery (Bool.eq_false_iff.2 hf)] at hanswer
    cases hanswer
  · intro hf
    refine ⟨?_, ?_, ?_, fun ha => ?_⟩
    · simp [failProbe_fst, Option.filter, hf, Answer.ended]
    · simp [tally_failProbe hf, hfailed]
    · simp [tally_failProbe hf, hsent]
    · rcases halone ha with hp | hp <;> simp [failProbe_snd, get?_endProbe, hf, hp]

end

/-- A probe that fails, at once or when it is released after other commands and sweeps, is harmless
if and only if it failed with a fault of the system or of the runtime. Any other fault, also an
ordinary one, is that of the handler, and nothing changes on its account but that the probe waits no
more. -/
theorem failed_probe_harmless_iff (c : Controller) (sid : Sid) (args : List Value)
    (few : args.length ≤ 2) (f : Fault) (name : String) (ks : List Command)
    (fresh : c.inFlight.lookup name = none) (waits : ∀ g, .release name g ∉ ks)
    (limit : Instant) (n : Nat) (held y : Controller)
    (hheld : held = (c.step (.connect sid args (.held name))).2)
    (hy : y = ((held.run ks).2.fireDue limit n).2) :
    (Harmless sid True c (c.step (.connect sid args (.failed f))) ↔ f.isDelivery) ∧
    (Harmless sid (y.sessions.isLive sid ∧ held.LeftAlone sid ks limit n) y
      (y.step (.release name (some f))) ↔ f.isDelivery) ∧
    (f.isDelivery = false →
      c.step (.connect sid args (.failed f)) = (.handler (.error f), c.opened sid) ∧
      y.step (.release name (some f)) =
        (.handler (.error f), { y with inFlight := y.inFlight.eraseP (·.1 == name) })) := by
  have hopened : held =
      { c.opened sid with inFlight := (c.opened sid).inFlight ++ [(name, sid)] } := by
    simp only [hheld, step, onConnect, few, if_true]
    rfl
  have hphase : held.sessions.get? sid = some .probeSent := by
    rw [hopened]
    simp [get?_opened]
  have hwaits : held.inFlight.lookup name = some sid := by
    have hbefore : (c.opened sid).inFlight = c.inFlight := rfl
    rw [hopened]
    simp [hbefore, List.lookup_append, fresh]
  have hlater : y.inFlight.lookup name = some sid := by
    rw [hy, inFlight_fireDue]
    exact lookup_run hwaits waits
  rw [step_connect_failed few, step_release_failed hlater]
  refine ⟨?_, ?_, fun hf => ?_⟩
  · refine harmless_failProbe_iff f ?_ ?_ fun _ => .inl ?_
    · simp [tally_opened]
    · simp [tally_opened]
    · simp [get?_opened]
  · refine harmless_failProbe_iff f rfl rfl fun h => ?_
    have hlingers : held.Lingers sid := fun p hp => .inl (Option.some.inj (hp.symm.trans hphase))
    obtain ⟨p, hp⟩ := Option.isSome_iff_exists.1 h.1
    rcases hlingers.of_leftAlone h.2 p (hy ▸ hp) with rfl | rfl
    · exact .inl hp
    · exact .inr hp
  · exact ⟨failProbe_of_not_delivery hf, failProbe_of_not_delivery hf⟩

/-- While the probe of one session waits, another one of it comes to its end, a session comes and
goes, and one more is swept. -/
def meanwhile : List Command :=
  [.request (.record "a"), .connect "t" [] .delivered, .signal "t", .signal "u",
    .connect "s" [.none, .none, .none] .delivered, .advance 1000000, .disconnect "t" [],
    .release "q" none]

theorem failed_probe_harmless_meanwhile :
    let c := (frail.step (.connect "s" [] (.held "q"))).2
    let held := (c.step (.connect "s" [] (.held "p"))).2
    let y := ((held.run meanwhile).2.fireDue 0 0).2
    c.inFlight.lookup "p" = none ∧ (∀ g, .release "p" g ∉ meanwhile) ∧
    y.swept.map Sweep.sid = ["u", "t"] ∧ y.sessions.isLive "s" ∧
    held.LeftAlone "s" meanwhile 0 0 ∧
    (y.step (.release "p" (some .tooDeep))).2.sessions.get? "s" = some .waitingForSignal := by
  intro c held y
  have hfresh : c.inFlight.lookup "p" = none := by decide
  have hwaits : ∀ g, .release "p" g ∉ meanwhile := by simp [meanwhile]
  have hlive : y.sessions.isLive "s" := by decide
  have halone : held.LeftAlone "s" meanwhile 0 0 :=
    ⟨by simp [meanwhile, Command.opens?], by simp [meanwhile, Command.signals], by decide⟩
  obtain ⟨-, hlater, -⟩ :=
    failed_probe_harmless_iff c "s" [] (by decide) .tooDeep "p" meanwhile hfresh hwaits 0 0 held y
      rfl rfl
  have hphase := (hlater.2 (by decide)).waits ⟨hlive, halone⟩
  exact ⟨hfresh, hwaits, by decide, hlive, halone, hphase⟩

/-- An ordinary fault that is neither one of the system nor one of the runtime, although its name is
that of a system fault: the handler ends in it, and the session stays where it is. -/
theorem probe_refused_by_server :
    let f := Fault.raised (Kind.named "SocketIOConnectionError") (some "gone")
    let r := frail.step (.connect "s" [] (.failed f))
    f.isOrdinary ∧ r.1 = .handler (.error f) ∧ r.2.tally .probesFailed = 0 ∧
    r.2.sessions.get? "s" = some .probeSent :=
  ⟨by decide, rfl, by decide, by decide⟩

end Linkcut.Controller

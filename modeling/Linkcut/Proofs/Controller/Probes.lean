import Linkcut.Proofs.Controller.LiveSessions
import Linkcut.Proofs.Controller.Phases
import Linkcut.Proofs.Controller.Scenes

/-!
The account of probes. A session that was established had its probe sent, or failed to get it, or
its probe waits, or the fault that ended its probe was left to the caller of the handler.
-/

set_option autoImplicit false

namespace Linkcut.Controller

/-- The end of a probe, and the answer of the handler that had sent it. -/
structure Ending where
  sid : Sid
  /-- The fault in which the probe ended, if it did in any. -/
  fault : Option Fault
  answer : Answer

/-- Whether the handler ended in a fault. -/
def Ending.raised (e : Ending) : Bool :=
  match e.answer with
  | .handler (.error _) => true
  | _ => false

/-- The session whose probe the command brings to its end, and how it ends. -/
def probeEnd? (c : Controller) : Command → Option (Sid × Option Fault)
  | .connect sid args probe =>
    if args.length ≤ 2 then
      match probe with
      | .held _ => none
      | .delivered => some (sid, none)
      | .failed f => some (sid, some f)
    else none
  | .release name fault => (c.inFlight.lookup name).map fun sid => (sid, fault)
  | _ => none

def ending? (c : Controller) (k : Command) : Option Ending :=
  (c.probeEnd? k).map fun p => ⟨p.1, p.2, (c.step k).1⟩

/-- The ends of probes while commands are obeyed, in order. -/
def endings (c : Controller) : List Command → List Ending
  | [] => []
  | k :: ks => (c.ending? k).toList ++ (c.step k).2.endings ks

/-- Sessions that were established, less the probes that were sent, that failed, and that wait. -/
def unaccounted (c : Controller) : Int :=
  c.tally .established - c.tally .probesSent - c.tally .probesFailed - c.inFlight.length

section

variable (c : Controller) (sid : Sid)

/-- The handler leaves to its caller what is no failure of delivery. -/
theorem endProbe_fst (fault : Option Fault) :
    (c.endProbe sid fault).1 = fault.filter fun f => !f.isDelivery := by
  cases fault with
  | none => rfl
  | some f => by_cases hf : f.isDelivery <;> simp [endProbe, Option.filter, hf]

theorem connect_fst (probe : Probe) : (c.connect sid probe).1 =
    match probe with
    | .held _ => .ok .waiting
    | .delivered => .ok .finished
    | .failed f => if f.isDelivery then .ok .finished else .error f := by
  cases probe with
  | held name => rfl
  | delivered => rfl
  | failed f => by_cases hf : f.isDelivery <;> simp [connect, endProbe, hf]

theorem tally_afterProbe (k : Counter) : (c.afterProbe sid).tally k = c.tally k := by
  unfold afterProbe
  split <;> rfl

theorem unaccounted_afterProbe : (c.afterProbe sid).unaccounted = c.unaccounted := by
  simp only [unaccounted, tally_afterProbe, inFlight_afterProbe]

/-- A probe that was delivered, or failed on its way, is counted. -/
theorem unaccounted_endProbe (fault : Option Fault) : (c.endProbe sid fault).2.unaccounted =
    c.unaccounted - if fault.all Fault.isDelivery then 1 else 0 := by
  cases fault with
  | none =>
    have hsent : (c.endProbe sid none).2 = (c.count .probesSent 1).afterProbe sid := rfl
    have hflight : (c.count .probesSent 1).inFlight = c.inFlight := rfl
    rw [hsent, unaccounted_afterProbe]
    simp only [unaccounted, tally_count, hflight, reduceCtorEq, if_true, if_false, Option.all_none]
    omega
  | some f =>
    rw [endProbe]
    split
    · rename_i hf
      rw [unaccounted_afterProbe]
      have hflight : ((c.count .probesFailed 1).log .warning "Failed to send probe"
        [("sid", .str sid), ("error", .str f.message)]).inFlight = c.inFlight := rfl
      simp only [unaccounted, tally_log, tally_count, hflight, reduceCtorEq, if_true, if_false,
        Option.all_some, hf]
      omega
    · rename_i hf
      simp [hf]

theorem unaccounted_opened : (c.opened sid).unaccounted = c.unaccounted + 1 := by
  have htally : ∀ k, (c.opened sid).tally k = (c.count .established 1).tally k := fun _ => rfl
  have hflight : (c.opened sid).inFlight = c.inFlight := rfl
  simp only [unaccounted, htally, tally_count, hflight, reduceCtorEq, if_true, if_false]
  omega

theorem unaccounted_inFlight (l : List (String × Sid)) :
    { c with inFlight := l }.unaccounted = c.unaccounted + c.inFlight.length - l.length := by
  have htally : ∀ k, { c with inFlight := l }.tally k = c.tally k := fun _ => rfl
  simp only [unaccounted, htally]
  omega

theorem answer_of_probeEnd {k : Command} {fault : Option Fault}
    (h : c.probeEnd? k = some (sid, fault)) :
    (c.step k).1 = .ended (fault.filter fun f => !f.isDelivery) := by
  cases k with
  | connect s args probe =>
    simp only [probeEnd?] at h
    split at h
    · rename_i hargs
      simp only [step, onConnect, hargs, if_true]
      cases probe with
      | held name => cases h
      | delivered =>
        cases h
        rfl
      | failed f =>
        cases h
        rw [connect_fst]
        by_cases hf : f.isDelivery <;> simp [Option.filter, hf, Answer.ended]
    · cases h
  | release name f =>
    obtain ⟨s, hs, he⟩ := Option.map_eq_some_iff.1 h
    cases he
    simp only [step, release, hs]
    have hfst := endProbe_fst { c with inFlight := c.inFlight.eraseP (·.1 == name) } sid fault
    rcases hr : endProbe { c with inFlight := c.inFlight.eraseP (·.1 == name) } sid fault with
      ⟨g, d⟩
    rw [hr] at hfst
    cases g with
    | none =>
      rw [← hfst]
      rfl
    | some g =>
      rw [← hfst]
      rfl
  | _ => cases h

/-- The handler ends in a fault when its probe did, and the fault is no failure of delivery. -/
theorem raised_of_ending {k : Command} {e : Ending} (h : c.ending? k = some e) :
    e.raised = !e.fault.all Fault.isDelivery := by
  obtain ⟨⟨s, fault⟩, hp, rfl⟩ := Option.map_eq_some_iff.1 h
  simp only [Ending.raised, answer_of_probeEnd c s hp]
  cases fault with
  | none => rfl
  | some f => by_cases hf : f.isDelivery <;> simp [Option.filter, hf, Answer.ended]

theorem countP_ending (k : Command) : ((c.ending? k).toList.countP Ending.raised : Int) =
    match c.probeEnd? k with
    | none => 0
    | some (_, fault) => if fault.all Fault.isDelivery then 0 else 1 := by
  cases hp : c.probeEnd? k with
  | none => simp [ending?, hp]
  | some p =>
    have he : c.ending? k = some ⟨p.1, p.2, (c.step k).1⟩ := by simp [ending?, hp]
    have hr := c.raised_of_ending he
    rw [he]
    by_cases hf : p.2.all Fault.isDelivery <;> simp_all

theorem unaccounted_connect (probe : Probe) : (c.connect sid probe).2.unaccounted =
    c.unaccounted + match probe with
      | .failed f => if f.isDelivery then 0 else 1
      | _ => 0 := by
  rw [connect_snd]
  cases probe with
  | held name =>
    rw [unaccounted_inFlight, unaccounted_opened, List.length_append, List.length_singleton]
    dsimp only
    omega
  | delivered =>
    rw [unaccounted_endProbe, unaccounted_opened]
    simp
  | failed f =>
    rw [unaccounted_endProbe, unaccounted_opened]
    by_cases hf : f.isDelivery <;> simp [hf]

/-- A name that is released is waited for no more. -/
theorem unaccounted_release (name : String) (fault : Option Fault) :
    (c.release name fault).2.unaccounted = c.unaccounted +
      if (c.inFlight.lookup name).isSome ∧ fault.all Fault.isDelivery = false then 1 else 0 := by
  rw [release_snd]
  cases hs : c.inFlight.lookup name with
  | none => simp
  | some s =>
    obtain ⟨l₁, l₂, hl, herase⟩ := lookup_eraseP hs
    dsimp only
    rw [unaccounted_endProbe, unaccounted_inFlight, herase, hl]
    simp only [List.length_append, List.length_cons]
    by_cases hf : fault.all Fault.isDelivery
    · simp only [hf]
      simp
      omega
    · simp only [hf]
      simp
      omega

/-- Commands that are about no probe leave the account alone. -/
theorem unaccounted_of_same {c c' : Controller} (htally : ∀ k,
      k = .established ∨ k = .probesSent ∨ k = .probesFailed → c'.tally k = c.tally k)
    (hflight : c'.inFlight = c.inFlight) : c'.unaccounted = c.unaccounted := by
  simp only [unaccounted, hflight, htally .established (by simp), htally .probesSent (by simp),
    htally .probesFailed (by simp)]

theorem unaccounted_disconnect (reason : Value) :
    (c.disconnect sid reason).unaccounted = c.unaccounted := by
  unfold disconnect
  split
  · rfl
  · refine unaccounted_of_same (fun k hk => ?_) rfl
    rw [tally_log, tally_count]
    rcases hk with rfl | rfl | rfl <;> rfl

theorem unaccounted_fireDue (limit : Instant) (n : Nat) :
    (c.fireDue limit n).2.unaccounted = c.unaccounted := by
  refine unaccounted_of_same (fun k hk => ?_) (inFlight_fireDue c limit n)
  rcases hk with rfl | rfl | rfl <;> exact tally_fireDue_of_ne c rfl (by decide) limit n

/-- Only the handlers of new sessions touch the account, and a command adds to it those that end in
a fault. -/
theorem unaccounted_step (k : Command) : (c.step k).2.unaccounted =
    c.unaccounted + (c.ending? k).toList.countP Ending.raised := by
  rw [countP_ending]
  cases k with
  | connect s args probe =>
    simp only [step, onConnect, probeEnd?]
    by_cases hargs : args.length ≤ 2
    · simp only [hargs, if_true, unaccounted_connect]
      cases probe <;> simp
    · simp [hargs]
  | release name fault =>
    simp only [step, unaccounted_release, probeEnd?]
    cases hs : c.inFlight.lookup name <;> cases hf : fault.all Fault.isDelivery <;> simp [hf]
  | disconnect s args =>
    simp only [step, onDisconnect, probeEnd?]
    split <;> simp [unaccounted_disconnect]
  | signal s =>
    have hsame : (c.signal s).2.unaccounted = c.unaccounted := by
      refine unaccounted_of_same (fun k hk => ?_) (inFlight_signal c s)
      rcases hk with rfl | rfl | rfl <;> exact (aside_signal c s).tally (by decide)
    simp [step, probeEnd?, hsame]
  | request q =>
    have hsame : (c.request q).2.unaccounted = c.unaccounted := by
      have hg : c.site.Grows (c.request q).2.site := Site.grows_perform c.site _ _ q
      refine unaccounted_of_same (fun k hk => ?_) rfl
      rcases hk with rfl | rfl | rfl <;> exact hg.tallies c.manager.counters _ rfl
    simp [step, probeEnd?, hsame]
  | advance micros =>
    have hsame : (c.advance micros).2.unaccounted = c.unaccounted := unaccounted_fireDue c _ _
    simp [step, probeEnd?, hsame]
  | shutdown =>
    have hsame : c.shutdown.2.unaccounted = c.unaccounted := by
      refine unaccounted_of_same (fun k hk => ?_) (inFlight_shutdown c)
      rcases hk with rfl | rfl | rfl <;> exact (aside_shutdown c).tally (by decide)
    simp [step, probeEnd?, hsame]

theorem unaccounted_run (ks : List Command) : (c.run ks).2.unaccounted =
    c.unaccounted + (c.endings ks).countP Ending.raised := by
  induction ks generalizing c with
  | nil => simp [endings]
  | cons k ks ih =>
    rw [run_cons, ih, unaccounted_step, endings, List.countP_append]
    omega

/-- Every end of a probe along a run is that of one command. -/
theorem raised_of_endings {ks : List Command} {e : Ending} (he : e ∈ c.endings ks) :
    e.raised = !e.fault.all Fault.isDelivery := by
  induction ks generalizing c with
  | nil => cases he
  | cons k ks ih =>
    rcases List.mem_append.1 he with he | he
    · exact c.raised_of_ending (Option.mem_toList.1 he)
    · exact ih _ he

end

section

variable {c : Controller} {sid : Sid} {p : Phase} {k : Command}

theorem early_of_fireDue (hp : p.rank ≤ 1) {limit : Instant} {n : Nat}
    (h : (c.fireDue limit n).2.sessions.get? sid = some p) : c.sessions.get? sid = some p := by
  refine fireDue_invariant c
    (fun x => x.sessions.get? sid = some p → c.sessions.get? sid = some p) ?_ id limit n h
  intro x job u _ _ hx hfire
  rcases { x with scheduler := u }.get?_fire_cases job.key sid with hsame | ⟨_, hended⟩
  · exact hx (hsame ▸ hfire)
  · rw [hended] at hfire
    cases hfire
    exact absurd hp (by decide)

/-- No command but one that connects it brings a session to one of its first two phases. -/
theorem early_of_step (hp : p.rank ≤ 1) (hk : k.opens? sid ≠ some true)
    (h : (c.step k).2.sessions.get? sid = some p) : c.sessions.get? sid = some p := by
  cases k with
  | connect s args probe =>
    simp only [step, onConnect] at h
    split at h
    · rename_i hargs
      have hne : sid ≠ s := fun e => hk (by simp [Command.opens?, e, hargs])
      rwa [get?_connect, if_neg hne] at h
    · exact h
  | release name fault =>
    simp only [step, get?_release] at h
    split at h
    · cases h
      exact absurd hp (by decide)
    · exact h
  | disconnect s args =>
    simp only [step, onDisconnect] at h
    split at h
    · rw [get?_disconnect] at h
      split at h
      · cases h
      · exact h
    · exact h
  | signal s =>
    simp only [step, get?_signal] at h
    split at h
    · cases h
      exact absurd hp (by decide)
    · exact h
  | request q => exact h
  | advance micros => exact early_of_fireDue hp h
  | shutdown =>
    simp only [step, shutdown] at h
    split at h <;> exact h

/-- Where the probe of a session has gone that is in the phase of probes: it waits, or the handler
ended in a fault, if `raised` says so. -/
def Probing (c : Controller) (sid : Sid) (raised : Prop) : Prop :=
  c.sessions.get? sid = some .probeSent → (∃ name, (name, sid) ∈ c.inFlight) ∨ raised

/-- The command ends the handler of the session in a fault. -/
def Raises (c : Controller) (sid : Sid) (k : Command) : Prop :=
  ∃ e ∈ c.ending? k, e.sid = sid ∧ e.raised

theorem raises_of_probeEnd {fault : Option Fault} (h : c.probeEnd? k = some (sid, fault))
    (hf : fault.all Fault.isDelivery = false) : c.Raises sid k := by
  have he : c.ending? k = some ⟨sid, fault, (c.step k).1⟩ := by simp [ending?, h]
  exact ⟨_, he, rfl, (c.raised_of_ending he).trans (by simp [hf])⟩

namespace Probing

variable {raised : Prop}

theorem imp {raised' : Prop} (h : c.Probing sid raised) (hr : raised → raised') :
    c.Probing sid raised' := fun hp => (h hp).imp_right hr

/-- A command that is not about the probe of the session. -/
theorem of_same {c' : Controller} (h : c.Probing sid raised)
    (hphase : c'.sessions.get? sid = some .probeSent → c.sessions.get? sid = some .probeSent)
    (hflight : c'.inFlight = c.inFlight) : c'.Probing sid raised := by
  intro hp
  rw [hflight]
  exact h (hphase hp)

theorem connect (h : c.Probing sid raised) (s : Sid) {args : List Value}
    (hargs : args.length ≤ 2) (probe : Probe) :
    (c.connect s probe).2.Probing sid (raised ∨ c.Raises sid (.connect s args probe)) := by
  intro hp
  rw [get?_connect] at hp
  rw [inFlight_connect]
  by_cases hs : sid = s
  · subst hs
    cases probe with
    | held name => exact .inl ⟨name, by simp⟩
    | delivered => simp [Probe.phase] at hp
    | failed f =>
      have hf : f.isDelivery = false := by
        by_contra hf
        simp [Probe.phase, hf] at hp
      have hend : c.probeEnd? (.connect sid args (.failed f)) = some (sid, some f) := by
        simp [probeEnd?, hargs]
      exact .inr (.inr (raises_of_probeEnd hend hf))
  · rw [if_neg hs] at hp
    rcases h hp with ⟨name, hn⟩ | hr
    · cases probe with
      | held other => exact .inl ⟨name, List.mem_append_left _ hn⟩
      | _ => exact .inl ⟨name, hn⟩
    · exact .inr (.inl hr)

/-- The probe that a name stands for waits no more; its session goes on, or its handler ends in a
fault. -/
theorem release (h : c.Probing sid raised) (name : String) (fault : Option Fault) :
    (c.release name fault).2.Probing sid (raised ∨ c.Raises sid (.release name fault)) := by
  intro hp
  rw [get?_release] at hp
  split at hp
  · cases hp
  · rename_i hstays
    rw [release_snd]
    cases hs : c.inFlight.lookup name with
    | none => exact (h hp).imp_right .inl
    | some s =>
      obtain ⟨l₁, l₂, hl, herase⟩ := lookup_eraseP hs
      dsimp only
      rw [inFlight_endProbe, herase]
      rcases h hp with ⟨n, hn⟩ | hr
      · by_cases hsame : (n, sid) = (name, s)
        · cases hsame
          have hf : fault.all Fault.isDelivery = false := by simpa [hs, hp] using hstays
          exact .inr (.inr (raises_of_probeEnd (by simp [probeEnd?, hs]) hf))
        · rw [hl] at hn
          refine .inl ⟨n, ?_⟩
          rcases List.mem_append.1 hn with hn | hn
          · exact List.mem_append_left _ hn
          · exact List.mem_append_right _ ((List.mem_cons.1 hn).resolve_left hsame)
      · exact .inr (.inl hr)

theorem step (h : c.Probing sid raised) (k : Command) :
    (c.step k).2.Probing sid (raised ∨ c.Raises sid k) := by
  have hsame : (c.step k).2.inFlight = c.inFlight → k.opens? sid ≠ some true →
      (c.step k).2.Probing sid (raised ∨ c.Raises sid k) := fun hflight hk =>
    (h.of_same (early_of_step (by decide) hk) hflight).imp .inl
  cases k with
  | connect s args probe =>
    by_cases hargs : args.length ≤ 2
    · have hstep : (c.step (.connect s args probe)).2 = (c.connect s probe).2 := by
        simp only [Controller.step, onConnect, hargs, if_true]
      rw [hstep]
      exact h.connect s hargs probe
    · have hstep : (c.step (.connect s args probe)).2 = c := by
        simp only [Controller.step, onConnect, hargs, if_false]
      rw [hstep]
      exact h.imp .inl
  | release name fault => exact h.release name fault
  | disconnect s args =>
    refine hsame ?_ ?_
    · simp only [Controller.step, onDisconnect, disconnect]
      split
      · split <;> rfl
      · rfl
    · simp only [Command.opens?]
      split <;> simp
  | signal s => exact hsame (inFlight_signal c s) (by simp [Command.opens?])
  | request q => exact hsame rfl (by simp [Command.opens?])
  | advance micros => exact hsame (inFlight_fireDue c _ _) (by simp [Command.opens?])
  | shutdown => exact hsame (inFlight_shutdown c) (by simp [Command.opens?])

theorem run (h : c.Probing sid raised) (ks : List Command) :
    (c.run ks).2.Probing sid (raised ∨ ∃ e ∈ c.endings ks, e.sid = sid ∧ e.raised) := by
  induction ks generalizing c raised with
  | nil => exact h.imp .inl
  | cons k ks ih =>
    refine (ih (h.step k)).imp ?_
    rintro ((hr | ⟨e, he, hraised⟩) | ⟨e, he, hraised⟩)
    · exact .inl hr
    · exact .inr ⟨e, List.mem_append_left _ (Option.mem_toList.2 he), hraised⟩
    · exact .inr ⟨e, List.mem_append_right _ he, hraised⟩

end Probing

/-- A session leaves its first phase before its probe goes out. -/
theorem not_established_step (h : c.sessions.get? sid ≠ some .established) (k : Command) :
    (c.step k).2.sessions.get? sid ≠ some .established := by
  intro hp
  by_cases hk : k.opens? sid = some true
  · cases k with
    | connect s args probe =>
      simp only [Command.opens?] at hk
      split at hk
      · rename_i hs
        simp only [step, onConnect, hs.2, if_true, get?_connect, hs.1] at hp
        cases probe with
        | failed f => by_cases hf : f.isDelivery <;> simp [Probe.phase, hf] at hp
        | _ => cases hp
      · cases hk
    | disconnect s args =>
      simp only [Command.opens?] at hk
      split at hk <;> cases hk
    | _ => cases hk
  · exact h (early_of_step (by decide) hk hp)

theorem not_established_run (h : c.sessions.get? sid ≠ some .established) (ks : List Command) :
    (c.run ks).2.sessions.get? sid ≠ some .established := by
  induction ks generalizing c with
  | nil => exact h
  | cons k ks ih => exact ih (not_established_step h k)

end

/-- Whenever every handler has ended or waits for its probe: of the sessions that were established
the probe was sent, or failed, or waits, or its handler ended in a fault, which is so when the probe
ended in a fault that is neither one of the system nor one of the runtime. No session is in its
first phase, and one is in its second only while a probe of it waits, or when a handler of it ended
in a fault. -/
theorem probes_accounted (c : Controller) (hc : c.IsNew)
    (h0 : c.site.tallies c.manager.counters = .zero) (ks : List Command) (a : Activity)
    (ha : a ≠ .handler) (x : Controller) (hx : c.Scene ks a x) :
    x.tally .established = x.tally .probesSent + x.tally .probesFailed + x.inFlight.length +
      (c.endings ks).countP Ending.raised ∧
    (∀ e ∈ c.endings ks, e.raised ↔
      ∃ f, e.fault = some f ∧ f.kind.family ≠ .system ∧ f.kind.family ≠ .runtime) ∧
    (∀ sid, x.sessions.get? sid ≠ some .established) ∧
    ∀ sid, x.sessions.get? sid = some .probeSent →
      (∃ name, (name, sid) ∈ x.inFlight) ∨ ∃ e ∈ c.endings ks, e.sid = sid ∧ e.raised := by
  obtain ⟨y, ⟨limit, n, rfl⟩, hsessions, hflight, htallies⟩ := hx.rests ha
  have hnone : ∀ sid, c.sessions.get? sid = none := by simp [hc.sessions]
  refine ⟨?_, fun e he => ?_, fun sid => ?_, fun sid => ?_⟩
  · have hstart : c.unaccounted = 0 := by simp [unaccounted, tally, h0, hc.inFlight]
    have hend := unaccounted_fireDue (c.run ks).2 limit n
    rw [unaccounted_run, hstart] at hend
    rw [htallies .established (by decide), htallies .probesSent (by decide),
      htallies .probesFailed (by decide), hflight]
    simp only [unaccounted] at hend
    omega
  · rw [c.raised_of_endings he]
    cases e.fault with
    | none => simp
    | some f => simp [Fault.isDelivery]
  · rw [hsessions]
    have hbefore : c.sessions.get? sid ≠ some .established := by simp [hnone]
    exact fun h => not_established_run hbefore ks (early_of_fireDue (by decide) h)
  · rw [hsessions, hflight, inFlight_fireDue]
    have hnew : c.Probing sid False := by simp [Probing, hnone]
    intro h
    exact ((hnew.run ks).imp (fun h => h.resolve_left id)) (early_of_fireDue (by decide) h)

/-- Two probes of one session, the second of which is cut short when the session has left and come
again; a probe that fails on its way, and one that fails otherwise. -/
def crowded : List Command :=
  [.connect "s" [] (.held "p"), .connect "s" [] (.held "q"), .signal "t", .disconnect "s" [],
    .connect "s" [] (.held "r"), .release "q" (some (.exit 1)), .connect "t" [] (.failed .tooDeep),
    .connect "u" [] (.failed (.raised .valueError none)), .release "p" none, .advance 1000000]

theorem probes_accounted_crowded :
    let x := (frail.run crowded).2
    frail.IsNew ∧ frail.site.tallies frail.manager.counters = .zero ∧
    frail.Scene crowded .rest x ∧ x.tally .established = 5 ∧ x.inFlight = [("r", "s")] ∧
    (frail.endings crowded).map (fun e => (e.sid, e.raised)) =
      [("s", true), ("t", false), ("u", true), ("s", false)] ∧
    5 = x.tally .probesSent + x.tally .probesFailed + x.inFlight.length +
      (frail.endings crowded).countP Ending.raised ∧
    x.sessions.get? "u" = some .probeSent ∧
    ((∃ name, (name, "u") ∈ x.inFlight) ∨
      ∃ e ∈ frail.endings crowded, e.sid = "u" ∧ e.raised) := by
  intro x
  have hnew : frail.IsNew := ⟨rfl, rfl, rfl, rfl, rfl⟩
  have hscene : frail.Scene crowded .rest x := .rest crowded 0 0
  have h := probes_accounted frail hnew rfl crowded .rest (by decide) x hscene
  have hsessions : x.tally .established = 5 := by decide
  have hphase : x.sessions.get? "u" = some .probeSent := by decide
  exact ⟨hnew, rfl, hscene, hsessions, by decide, by decide, hsessions ▸ h.1, hphase,
    h.2.2.2 "u" hphase⟩

end Linkcut.Controller

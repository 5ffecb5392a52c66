import Linkcut.Proofs.Controller.Steps

/-!
What commands do to the phases of sessions, and which probes wait afterwards. Each lemma says for one
operation what becomes of every session.
-/

set_option autoImplicit false

namespace Linkcut

/-- The phase to which the handler of a new session brings it before it waits or ends. -/
def Probe.phase : Probe → Phase
  | .delivered => .waitingForSignal
  | .failed f => if f.isDelivery then .waitingForSignal else .probeSent
  | .held _ => .probeSent

namespace Controller

/-- What a name stands for is the first that waits under it, and goes when the name is released. -/
theorem lookup_eraseP {l : List (String × Sid)} {name : String} {sid : Sid}
    (h : l.lookup name = some sid) :
    ∃ l₁ l₂, l = l₁ ++ (name, sid) :: l₂ ∧ l.eraseP (·.1 == name) = l₁ ++ l₂ := by
  induction l with
  | nil => cases h
  | cons e es ih =>
    obtain ⟨n, s⟩ := e
    by_cases hn : n = name
    · subst hn
      obtain rfl : s = sid := by simpa using h
      exact ⟨[], es, rfl, by simp⟩
    · have hrest : es.lookup name = some sid := by
        simpa [List.lookup_cons, beq_false_of_ne (Ne.symm hn)] using h
      obtain ⟨l₁, l₂, rfl, herase⟩ := ih hrest
      refine ⟨(n, s) :: l₁, l₂, rfl, ?_⟩
      rw [List.eraseP_cons_of_neg (by simpa using hn), herase]
      rfl

section

variable (c : Controller) (sid k : Sid)

theorem get?_afterProbe : (c.afterProbe sid).sessions.get? k =
    if k = sid ∧ c.sessions.get? sid = some .probeSent then some .waitingForSignal
    else c.sessions.get? k := by
  unfold afterProbe
  by_cases hp : c.sessions.get? sid = some .probeSent
  · simp [hp, setPhase]
  · simp [hp]

/-- A probe that was delivered, or failed on its way, lets its session go on; any other fault leaves
it where it is. -/
theorem get?_endProbe (fault : Option Fault) : (c.endProbe sid fault).2.sessions.get? k =
    if k = sid ∧ fault.all Fault.isDelivery ∧ c.sessions.get? sid = some .probeSent then
      some .waitingForSignal
    else c.sessions.get? k := by
  cases fault with
  | none =>
    simp only [Option.all_none, true_and]
    exact get?_afterProbe (c.count .probesSent 1) sid k
  | some f =>
    rw [endProbe]
    split
    · rename_i hf
      simp only [Option.all_some, hf, true_and]
      exact get?_afterProbe _ sid k
    · rename_i hf
      simp [hf]

theorem get?_opened : (c.opened sid).sessions.get? k =
    if k = sid then some .probeSent else c.sessions.get? k := by
  have hput : (c.opened sid).sessions = (c.sessions.put sid .established).put sid .probeSent := rfl
  by_cases h : k = sid <;> simp [hput, h]

/-- A session that connects waits for the end of its probe, or has seen it. -/
theorem get?_connect (probe : Probe) : (c.connect sid probe).2.sessions.get? k =
    if k = sid then some probe.phase else c.sessions.get? k := by
  rw [connect_snd]
  cases probe with
  | held name => exact get?_opened c sid k
  | delivered =>
    rw [get?_endProbe, get?_opened, get?_opened]
    by_cases h : k = sid <;> simp [h, Probe.phase]
  | failed f =>
    rw [get?_endProbe, get?_opened, get?_opened]
    by_cases h : k = sid <;> by_cases hf : f.isDelivery <;> simp [h, hf, Probe.phase]

theorem get?_release (name : String) (fault : Option Fault) :
    (c.release name fault).2.sessions.get? k =
      if c.inFlight.lookup name = some k ∧ fault.all Fault.isDelivery ∧
          c.sessions.get? k = some .probeSent then some .waitingForSignal
      else c.sessions.get? k := by
  rw [release_snd]
  cases hs : c.inFlight.lookup name with
  | none => simp
  | some sid =>
    dsimp only
    rw [get?_endProbe]
    by_cases h : k = sid
    · simp [h]
    · simp [h, Ne.symm h]

theorem get?_disconnect (reason : Value) : (c.disconnect sid reason).sessions.get? k =
    if k = sid then none else c.sessions.get? k := by
  unfold disconnect
  split
  · rename_i hnone
    by_cases h : k = sid
    · simp [h, hnone]
    · simp [h]
  · exact Sessions.get?_erase c.sessions sid k

/-- A signal that arms a sweep shows in the phase of its session, if that is live. -/
theorem get?_signal : (c.signal sid).2.sessions.get? k =
    if k = sid ∧ (c.scheduler.isArmed sid = false ∧ c.scheduler.delay.starts) ∧
        c.sessions.isLive sid then some .disconnectArmed
    else c.sessions.get? k := by
  rw [sessions_signal]
  by_cases h : c.scheduler.isArmed sid = false ∧ c.scheduler.delay.starts
  · rw [if_pos h, Sessions.get?_change]
    simp only [h, true_and, and_self]
  · rw [if_neg h, if_neg fun hk => h hk.2.1]

/-- A timer ends its own session at most. -/
theorem get?_fire_cases : (c.fire sid).2.sessions.get? k = c.sessions.get? k ∨
    k = sid ∧ (c.fire sid).2.sessions.get? k = some .terminated := by
  obtain ⟨site, hs⟩ := c.fire_snd sid
  rw [hs]
  simp only [sweep]
  split
  · exact .inl rfl
  · by_cases h : k = sid ∧ c.sessions.isLive sid
    · exact .inr ⟨h.1, (Sessions.get?_change c.sessions sid k _).trans (if_pos h)⟩
    · exact .inl ((Sessions.get?_change c.sessions sid k _).trans (if_neg h))

theorem get?_fire_of_ne (hk : k ≠ sid) :
    (c.fire sid).2.sessions.get? k = c.sessions.get? k :=
  (c.get?_fire_cases sid k).resolve_right fun h => hk h.1

/-- A sweep that leaves no fault to the loop ends its own session, if that is live. -/
theorem get?_fire (h : (c.fire sid).1 = none) : (c.fire sid).2.sessions.get? k =
    if k = sid ∧ c.sessions.isLive sid then some .terminated else c.sessions.get? k := by
  obtain ⟨n, hn⟩ := c.sweep_ok_of_fire sid h
  rw [(c.fire_of_ok sid hn).2.2, Sessions.get?_change]

theorem get?_fire_ne_armed (hm : (c.fire sid).2.site.Mild) :
    (c.fire sid).2.sessions.get? sid ≠ some .disconnectArmed := by
  rw [get?_fire c sid sid (c.fire_fst_of_mild sid hm)]
  by_cases hl : c.sessions.isLive sid
  · simp [hl]
  · have hnone : c.sessions.get? sid = none := by simpa [Sessions.isLive] using hl
    simp [hl, hnone]

theorem inFlight_afterProbe : (c.afterProbe sid).inFlight = c.inFlight := by
  unfold afterProbe
  split <;> rfl

theorem inFlight_endProbe (fault : Option Fault) :
    (c.endProbe sid fault).2.inFlight = c.inFlight := by
  cases fault with
  | none => exact inFlight_afterProbe (c.count .probesSent 1) sid
  | some f =>
    rw [endProbe]
    split
    · exact inFlight_afterProbe _ sid
    · rfl

theorem inFlight_connect (probe : Probe) : (c.connect sid probe).2.inFlight =
    match probe with
    | .held name => c.inFlight ++ [(name, sid)]
    | _ => c.inFlight := by
  rw [connect_snd]
  cases probe with
  | held name => rfl
  | delivered => exact inFlight_endProbe (c.opened sid) sid none
  | failed f => exact inFlight_endProbe (c.opened sid) sid (some f)

theorem inFlight_release (name : String) (fault : Option Fault) :
    (c.release name fault).2.inFlight = c.inFlight.eraseP (·.1 == name) := by
  rw [release_snd]
  cases hs : c.inFlight.lookup name with
  | none =>
    refine (List.eraseP_of_forall_not fun p hp => ?_).symm
    have hne : name ≠ p.1 := by simpa using List.lookup_eq_none_iff.1 hs p hp
    simpa using hne.symm
  | some sid => exact inFlight_endProbe _ sid fault

theorem inFlight_disconnect (reason : Value) : (c.disconnect sid reason).inFlight = c.inFlight := by
  unfold disconnect
  split <;> rfl

theorem sessions_shutdown : c.shutdown.2.sessions = c.sessions := by
  simp only [shutdown]
  split <;> rfl

theorem inFlight_shutdown : c.shutdown.2.inFlight = c.inFlight := by
  simp only [shutdown]
  split <;> rfl

theorem inFlight_fire : (c.fire sid).2.inFlight = c.inFlight := by
  obtain ⟨site, hs⟩ := c.fire_snd sid
  rw [hs]
  simp only [sweep]
  split <;> rfl

theorem inFlight_fireDue (limit : Instant) (n : Nat) :
    (c.fireDue limit n).2.inFlight = c.inFlight :=
  fireDue_invariant c (fun x => x.inFlight = c.inFlight)
    (fun x job u _ _ hx => (inFlight_fire { x with scheduler := u } job.key).trans hx) rfl limit n

/-- A probe waits from the call that connects its session until its name is released. -/
theorem inFlight_step (k : Command) : (c.step k).2.inFlight =
    match k with
    | .connect s args (.held name) =>
      if args.length ≤ 2 then c.inFlight ++ [(name, s)] else c.inFlight
    | .release name _ => c.inFlight.eraseP (·.1 == name)
    | _ => c.inFlight := by
  cases k with
  | connect s args probe =>
    simp only [step, onConnect]
    split
    · rename_i hargs
      rw [inFlight_connect]
      cases probe with
      | held name => exact (if_pos hargs).symm
      | _ => rfl
    · rename_i hargs
      cases probe with
      | held name => exact (if_neg hargs).symm
      | _ => rfl
  | release name fault => exact inFlight_release c name fault
  | disconnect s args =>
    simp only [step, onDisconnect]
    split
    · exact inFlight_disconnect c s _
    · rfl
  | signal s => exact inFlight_signal c s
  | request q => rfl
  | advance micros => exact inFlight_fireDue c _ _
  | shutdown => exact inFlight_shutdown c

end

end Controller
end Linkcut

import Linkcut.Proofs.Controller.Onsets
import Mathlib.Data.List.Induction

/-!
Which sessions are live. A session is entered when it connects and leaves when it disconnects. What
comes later on its behalf, be it the end of its probe, a signal, or a sweep, finds it as it is and
neither brings it back nor drops it.
-/

set_option autoImplicit false

namespace Linkcut

namespace Sessions

variable (s : Sessions) (sid k : Sid) (p : Phase)

@[simp] theorem isLive_put : (s.put sid p).isLive k = (decide (k = sid) || s.isLive k) := by
  by_cases h : k = sid <;> simp [isLive, h]

@[simp] theorem isLive_erase : (s.erase sid).isLive k = (decide (k ≠ sid) && s.isLive k) := by
  by_cases h : k = sid <;> simp [isLive, h]

@[simp] theorem isLive_change : (s.change sid p).isLive k = s.isLive k := by
  by_cases h : k = sid <;> by_cases hs : s.isLive sid <;> simp_all [change]

end Sessions

namespace Controller

section

variable (c : Controller) (sid k : Sid)

theorem isLive_afterProbe : (c.afterProbe sid).sessions.isLive k = c.sessions.isLive k := by
  unfold afterProbe
  split
  · rename_i hp
    by_cases h : k = sid
    · simp [setPhase, h, Sessions.isLive, hp]
    · simp [setPhase, h]
  · rfl

/-- However a probe ends, no session comes or goes. -/
theorem isLive_endProbe (fault : Option Fault) :
    (c.endProbe sid fault).2.sessions.isLive k = c.sessions.isLive k := by
  cases fault with
  | none => exact isLive_afterProbe (c.count .probesSent 1) sid k
  | some f =>
    rw [endProbe]
    split
    · exact isLive_afterProbe _ sid k
    · rfl

theorem isLive_opened :
    (c.opened sid).sessions.isLive k = (decide (k = sid) || c.sessions.isLive k) := by
  have hput : (c.opened sid).sessions = (c.sessions.put sid .established).put sid .probeSent := rfl
  by_cases h : k = sid <;> simp [hput, h]

theorem isLive_connect (probe : Probe) :
    (c.connect sid probe).2.sessions.isLive k = (decide (k = sid) || c.sessions.isLive k) := by
  rw [connect_snd, ← isLive_opened]
  cases probe with
  | held name => rfl
  | delivered => exact isLive_endProbe _ sid k none
  | failed f => exact isLive_endProbe _ sid k (some f)

theorem isLive_release (name : String) (fault : Option Fault) :
    (c.release name fault).2.sessions.isLive k = c.sessions.isLive k := by
  rw [release_snd]
  split
  · rfl
  · exact isLive_endProbe _ _ k fault

theorem isLive_disconnect (reason : Value) :
    (c.disconnect sid reason).sessions.isLive k = (decide (k ≠ sid) && c.sessions.isLive k) := by
  unfold disconnect
  split
  · rename_i hnone
    by_cases h : k = sid
    · simp [h, Sessions.isLive, hnone]
    · simp [h]
  · exact Sessions.isLive_erase c.sessions sid k

theorem isLive_signal : (c.signal sid).2.sessions.isLive k = c.sessions.isLive k := by
  rw [sessions_signal]
  split
  · exact Sessions.isLive_change c.sessions sid k _
  · rfl

theorem isLive_fire : (c.fire sid).2.sessions.isLive k = c.sessions.isLive k := by
  obtain ⟨site, hs⟩ := c.fire_snd sid
  rw [hs]
  simp only [sweep]
  split
  · rfl
  · exact Sessions.isLive_change c.sessions sid k _

end

/-- Whether a command starts a call that enters the session, or one that drops it. Calls with too
many arguments do not start. -/
def Command.opens? (sid : Sid) : Command → Option Bool
  | .connect s args _ => if s = sid ∧ args.length ≤ 2 then some true else none
  | .disconnect s args => if s = sid ∧ args.length ≤ 1 then some false else none
  | _ => none

section

variable (c : Controller) (sid : Sid)

theorem isLive_fireDue (limit : Instant) (n : Nat) :
    (c.fireDue limit n).2.sessions.isLive sid = c.sessions.isLive sid :=
  fireDue_invariant c (fun x => x.sessions.isLive sid = c.sessions.isLive sid)
    (fun x job u _ _ hx => (isLive_fire { x with scheduler := u } job.key sid).trans hx) rfl limit n

theorem isLive_step (k : Command) :
    (c.step k).2.sessions.isLive sid = (k.opens? sid).getD (c.sessions.isLive sid) := by
  cases k with
  | connect s args probe =>
    simp only [step, onConnect, Command.opens?]
    split
    · rename_i hargs
      rw [isLive_connect]
      by_cases hs : s = sid
      · simp [hs, hargs]
      · simp [hs, Ne.symm hs]
    · rename_i hargs
      simp [hargs]
  | disconnect s args =>
    simp only [step, onDisconnect, Command.opens?]
    split
    · rename_i hargs
      rw [isLive_disconnect]
      by_cases hs : s = sid
      · simp [hs, hargs]
      · simp [hs, Ne.symm hs]
    · rename_i hargs
      simp [hargs]
  | release name fault => exact isLive_release c sid name fault
  | signal s => exact isLive_signal c s sid
  | request q => rfl
  | advance micros => exact isLive_fireDue c sid _ _
  | shutdown =>
    simp only [step, shutdown]
    split <;> rfl

/-- The call that started last tells whether the session is live. -/
theorem isLive_run (ks : List Command) : (c.run ks).2.sessions.isLive sid =
    ((ks.filterMap (Command.opens? sid)).getLast?).getD (c.sessions.isLive sid) := by
  induction ks using List.reverseRecOn with
  | nil => rfl
  | append_singleton ks k ih =>
    have hrun : (c.run (ks ++ [k])).2 = ((c.run ks).2.step k).2 := by rw [run_append]; rfl
    rw [hrun, isLive_step, ih, List.filterMap_append]
    cases hk : k.opens? sid with
    | none => simp [hk]
    | some b => simp [hk]

theorem isLive_of_onset {o : Onset} {limit : Instant} {n : Nat} (ho : o ∈ onsetsDue limit n c) :
    o.start.sessions.isLive sid = c.sessions.isLive sid := by
  induction n generalizing c with
  | zero => cases ho
  | succ n ih =>
    rw [onsetsDue] at ho
    split at ho
    · cases ho
    · rename_i job u _
      rcases List.mem_cons.1 ho with rfl | ho
      · rfl
      · exact (ih _ ho).trans (isLive_fire { c with scheduler := u } job.key sid)

end

/-- The points of a run at which somebody can look at the sessions, with the commands that have
started by then. -/
inductive Point (c : Controller) : List Command → Controller → Prop
  /-- Between commands, and between the sweeps that come due while the clock is advanced. -/
  | rest (ks : List Command) (limit : Instant) (n : Nat) :
    Point c ks ((c.run ks).2.fireDue limit n).2
  /-- The probe of a session goes out. -/
  | emitting (ks : List Command) (sid : Sid) (args : List Value) (probe : Probe)
      (few : args.length ≤ 2) :
    Point c (ks ++ [.connect sid args probe]) ((c.run ks).2.opened sid)
  /-- A request is answered, and abort calls are under way. -/
  | asked (ks : List Command) (q : Request) (x : Course)
      (hx : (c.run ks).2.site.Passes
        ⟨.manager (c.run ks).2.manager, ⟨.manager (c.run ks).2.manager, q⟩⟩ x) :
    Point c (ks ++ [.request q]) { (c.run ks).2 with site := x.site }
  /-- A sweep is under way. -/
  | sweeping (ks : List Command) (limit : Instant) (n : Nat) (o : Onset)
      (ho : o ∈ onsetsDue limit n (c.run ks).2) (x : Course)
      (hx : o.start.site.Passes
        ⟨.manager o.start.manager, ⟨.manager o.start.manager, .drain⟩⟩ x) :
    Point c ks { o.start.beginSweep o.sid with site := x.site }

theorem Point.isLive {c x : Controller} {ks : List Command} (hx : c.Point ks x) (sid : Sid) :
    x.sessions.isLive sid =
      ((ks.filterMap (Command.opens? sid)).getLast?).getD (c.sessions.isLive sid) := by
  cases hx with
  | rest ks limit n => rw [isLive_fireDue, isLive_run]
  | emitting ks s args probe few =>
    -- the session is entered before its probe goes out
    rw [isLive_opened, isLive_run, List.filterMap_append]
    by_cases hs : s = sid
    · simp [Command.opens?, hs, few]
    · simp [Command.opens?, hs, Ne.symm hs]
  | asked ks q x hx =>
    rw [isLive_run, List.filterMap_append]
    simp [Command.opens?]
  | sweeping ks limit n o ho x hx =>
    have hstart := (isLive_of_onset _ sid ho).trans (isLive_run c sid ks)
    exact hstart

/-- At every point of every run a session is live exactly when the last of the calls that connect
or disconnect it, as they were started, was one that connects it. -/
theorem live_iff_connected_last (c : Controller) (hc : c.IsNew) (ks : List Command)
    (x : Controller) (hx : c.Point ks x) (sid : Sid) :
    x.sessions.get? sid ≠ none ↔
      (ks.filterMap (Command.opens? sid)).getLast? = some true := by
  have hlive := hx.isLive sid
  have hnone : c.sessions.isLive sid = false := by
    rw [hc.sessions]
    rfl
  rw [hnone] at hlive
  have hsome : x.sessions.get? sid ≠ none ↔ x.sessions.isLive sid = true :=
    Option.ne_none_iff_isSome
  rw [hsome, hlive]
  cases hlast : (ks.filterMap (Command.opens? sid)).getLast? with
  | none => simp
  | some b => simp

/-- A session leaves while its probe waits and its sweep is pending. Then the probe comes to its
end, another session connects, and a new signal finds the sweep of the one that is gone. -/
def departed : List Command :=
  [.connect "s" [] (.held "p"), .signal "s", .disconnect "s" [], .release "p" none,
    .connect "t" [] (.failed .tooDeep), .signal "s"]

theorem live_iff_connected_last_departed :
    let c : Controller := { scheduler := { delay := .whole 1 } }
    let x := ((c.run departed).2.fireDue 1000000 1).2
    c.IsNew ∧ c.Point departed x ∧ x.swept.map Sweep.sid = ["s"] ∧
    (x.sessions.get? "s" ≠ none ↔
      (departed.filterMap (Command.opens? "s")).getLast? = some true) ∧
    departed.filterMap (Command.opens? "s") = [true, false] ∧ x.sessions.get? "s" = none ∧
    x.sessions.get? "t" ≠ none := by
  intro c x
  have hnew : c.IsNew := ⟨rfl, rfl, rfl, rfl, rfl⟩
  have hpoint : c.Point departed x := .rest departed 1000000 1
  have hgone := live_iff_connected_last c hnew departed x hpoint "s"
  have hthere := live_iff_connected_last c hnew departed x hpoint "t"
  exact ⟨hnew, hpoint, by decide, hgone, by decide, by decide, hthere.2 (by decide)⟩

end Controller
end Linkcut

import Linkcut.Proofs.Controller.Probes
import Linkcut.Proofs.Controller.Stages

/-!
The census of sessions. A session that was established has been closed, or is live, or its name was
taken over by a session that connected while it was live.
-/

set_option autoImplicit false

namespace Linkcut

namespace Sessions

variable {s t : Sessions} {sid : Sid}

theorem mem_sids (s : Sessions) (k : Sid) : k ∈ s.sids ↔ s.isLive k := by
  rw [isLive, get?, Option.isSome_iff_ne_none, Ne, List.lookup_eq_none_iff]
  simp [sids]

/-- Those who are live tell how many there are. -/
theorem size_of_perm {l : List Sid} (hl : l.Nodup) (h : ∀ k, s.isLive k ↔ k ∈ l) :
    s.size = l.length := by
  have hperm : s.sids.Perm l :=
    (List.perm_ext_iff_of_nodup s.nodup hl).2 fun k => (s.mem_sids k).trans (h k)
  rw [← hperm.length_eq, size, sids, List.length_map]

theorem size_congr (h : ∀ k, t.isLive k = s.isLive k) : t.size = s.size := by
  rw [size_of_perm (l := s.sids) s.nodup fun k => by rw [h, mem_sids], size, sids, List.length_map]

theorem size_of_entered (h : ∀ k, t.isLive k = (decide (k = sid) || s.isLive k)) :
    (t.size : Int) = s.size + if s.isLive sid then 0 else 1 := by
  cases hs : s.isLive sid with
  | true =>
    have hsame : ∀ k, t.isLive k = s.isLive k := by
      intro k
      rw [h]
      by_cases hk : k = sid <;> simp [hk, hs]
    simp [size_congr hsame]
  | false =>
    have hout : sid ∉ s.sids := by simp [mem_sids, hs]
    have hsize : t.size = (sid :: s.sids).length :=
      size_of_perm (List.nodup_cons.2 ⟨hout, s.nodup⟩) fun k => by simp [h, mem_sids]
    rw [hsize]
    simp [sids, size]

theorem size_of_left (h : ∀ k, t.isLive k = (decide (k ≠ sid) && s.isLive k)) :
    (t.size : Int) = s.size - if s.isLive sid then 1 else 0 := by
  cases hs : s.isLive sid with
  | true =>
    have hback : ∀ k, s.isLive k = (decide (k = sid) || t.isLive k) := by
      intro k
      rw [h]
      by_cases hk : k = sid <;> simp [hk, hs]
    have hsize := size_of_entered hback
    have hgone : t.isLive sid = false := by simp [h]
    rw [hgone] at hsize
    simp only [Bool.false_eq_true, if_false, if_true] at hsize ⊢
    omega
  | false =>
    have hsame : ∀ k, t.isLive k = s.isLive k := by
      intro k
      rw [h]
      by_cases hk : k = sid <;> simp [hk, hs]
    simp [size_congr hsame]

end Sessions

namespace Controller

/-- Sessions that were established, less those that were closed and those that are live. -/
def surplus (c : Controller) : Int := c.tally .established - c.tally .ended - c.sessions.size

/-- Whether the command connects a session that is live; with too many arguments its handler does not
begin. -/
def Stage.reconnects (s : Stage) : Bool :=
  match s.command with
  | .connect sid args _ => decide (args.length ≤ 2) && s.before.sessions.isLive sid
  | _ => false

section

variable (c : Controller) (sid : Sid)

theorem surplus_of_same {c c' : Controller} (hlive : ∀ k, c'.sessions.isLive k = c.sessions.isLive k)
    (hestablished : c'.tally .established = c.tally .established)
    (hended : c'.tally .ended = c.tally .ended) : c'.surplus = c.surplus := by
  rw [surplus, surplus, hestablished, hended, Sessions.size_congr hlive]

/-- However a probe ends, it is counted as a probe only. -/
theorem tally_endProbe (fault : Option Fault) {k : Counter} (hsent : k ≠ .probesSent)
    (hfailed : k ≠ .probesFailed) : (c.endProbe sid fault).2.tally k = c.tally k := by
  cases fault with
  | none => simp [endProbe, tally_afterProbe, hsent]
  | some f =>
    rw [endProbe]
    split
    · simp [tally_afterProbe, hfailed]
    · rfl

theorem surplus_endProbe (fault : Option Fault) :
    (c.endProbe sid fault).2.surplus = c.surplus :=
  surplus_of_same (fun k => c.isLive_endProbe sid k fault)
    (c.tally_endProbe sid fault (by decide) (by decide))
    (c.tally_endProbe sid fault (by decide) (by decide))

theorem surplus_opened :
    (c.opened sid).surplus = c.surplus + if c.sessions.isLive sid then 1 else 0 := by
  have htally : ∀ k, (c.opened sid).tally k = (c.count .established 1).tally k := fun _ => rfl
  have hsize := Sessions.size_of_entered fun k => c.isLive_opened sid k
  simp only [surplus, htally, tally_count, hsize, reduceCtorEq, if_true, if_false]
  split <;> omega

theorem surplus_connect (probe : Probe) :
    (c.connect sid probe).2.surplus = c.surplus + if c.sessions.isLive sid then 1 else 0 := by
  rw [connect_snd, ← surplus_opened]
  cases probe with
  | held name => rfl
  | delivered => exact surplus_endProbe _ sid none
  | failed f => exact surplus_endProbe _ sid (some f)

theorem surplus_release (name : String) (fault : Option Fault) :
    (c.release name fault).2.surplus = c.surplus := by
  rw [release_snd]
  split
  · rfl
  · exact surplus_endProbe _ _ fault

/-- A session is closed once, and only if it is live. -/
theorem surplus_disconnect (reason : Value) : (c.disconnect sid reason).surplus = c.surplus := by
  have hsize := Sessions.size_of_left fun k => c.isLive_disconnect sid k reason
  rw [surplus, hsize]
  unfold disconnect
  split
  · rename_i hnone
    simp [surplus, Sessions.isLive, hnone]
  · rename_i p hsome
    have htally : ∀ k, tally (Controller.log ({ c with sessions := c.sessions.erase sid }.count
        .ended 1) .info "Client disconnected" [("sid", .str sid), ("reason", reason),
          ("last_state", .str p.text)]) k = (c.count .ended 1).tally k := fun _ => rfl
    have hlive : c.sessions.isLive sid := by simp [Sessions.isLive, hsome]
    simp only [surplus, htally, tally_count, hlive, reduceCtorEq, if_true, if_false]
    omega

theorem surplus_fireDue (limit : Instant) (n : Nat) :
    (c.fireDue limit n).2.surplus = c.surplus :=
  surplus_of_same (fun k => c.isLive_fireDue k limit n)
    (c.tally_fireDue_of_ne rfl (by decide) limit n) (c.tally_fireDue_of_ne rfl (by decide) limit n)

/-- Only a session that connects while it is live is neither closed nor added. -/
theorem surplus_step (k : Command) :
    (c.step k).2.surplus = c.surplus + if Stage.reconnects ⟨c, k⟩ then 1 else 0 := by
  cases k with
  | connect s args probe =>
    simp only [step, onConnect, Stage.reconnects]
    by_cases hargs : args.length ≤ 2
    · simp [hargs, surplus_connect]
    · simp [hargs]
  | release name fault => simp [step, Stage.reconnects, surplus_release]
  | disconnect s args =>
    simp only [step, onDisconnect, Stage.reconnects]
    split <;> simp [surplus_disconnect]
  | signal s =>
    have hsame : (c.signal s).2.surplus = c.surplus :=
      surplus_of_same (c.isLive_signal s) ((aside_signal c s).tally (by decide))
        ((aside_signal c s).tally (by decide))
    simp [step, Stage.reconnects, hsame]
  | request q =>
    have hg : c.site.Grows (c.request q).2.site := Site.grows_perform c.site _ _ q
    have hsame : (c.request q).2.surplus = c.surplus :=
      surplus_of_same (fun _ => rfl) (hg.tallies c.manager.counters .established rfl)
        (hg.tallies c.manager.counters .ended rfl)
    simp [step, Stage.reconnects, hsame]
  | advance micros =>
    have hsame : (c.advance micros).2.surplus = c.surplus := surplus_fireDue c _ _
    simp [step, Stage.reconnects, hsame]
  | shutdown =>
    have hlive : ∀ k, c.shutdown.2.sessions.isLive k = c.sessions.isLive k := by
      simp [sessions_shutdown]
    have hsame : c.shutdown.2.surplus = c.surplus :=
      surplus_of_same hlive ((aside_shutdown c).tally (by decide))
        ((aside_shutdown c).tally (by decide))
    simp [step, Stage.reconnects, hsame]

theorem surplus_run (ks : List Command) :
    (c.run ks).2.surplus = c.surplus + (c.stages ks).countP Stage.reconnects := by
  induction ks generalizing c with
  | nil => simp [stages]
  | cons k ks ih =>
    rw [run_cons, ih, surplus_step, stages, List.countP_cons]
    split
    · omega
    · omega

theorem Scene.surplus {c x : Controller} {ks : List Command} {a : Activity}
    (hx : c.Scene ks a x) :
    x.surplus = c.surplus + (c.stages ks).countP Stage.reconnects := by
  by_cases ha : a = .handler
  -- the session has been counted and entered when its probe goes out
  · subst ha
    cases hx with
    | emitting ks sid args probe few =>
      have hrun : (c.run (ks ++ [.connect sid args probe])).2 =
          ((c.run ks).2.connect sid probe).2 := by
        simp [run_append, run_cons, step, onConnect, few]
      rw [← surplus_run, hrun, surplus_connect, surplus_opened]
  · obtain ⟨y, ⟨limit, n, rfl⟩, hsessions, -, htallies⟩ := hx.rests ha
    have hrest : x.surplus = ((c.run ks).2.fireDue limit n).2.surplus :=
      surplus_of_same (fun k => by rw [hsessions]) (htallies .established (by decide))
        (htallies .ended (by decide))
    rw [hrest, surplus_fireDue, surplus_run]

end

/-- At every point of a run: the sessions that were established are those that were closed, those
that are live, and as many again as connected while they were live. So where no live session
connects, those that were established and not closed are the live ones. -/
theorem sessions_accounted (c : Controller) (hc : c.IsNew)
    (h0 : c.site.tallies c.manager.counters = .zero) (ks : List Command) (a : Activity)
    (x : Controller) (hx : c.Scene ks a x) :
    x.tally .established =
      x.tally .ended + x.sessions.size + (c.stages ks).countP Stage.reconnects ∧
    ((∀ s ∈ c.stages ks, s.reconnects = false) →
      x.tally .established - x.tally .ended = x.sessions.size) := by
  have hx' := hx.surplus
  have hstart : c.surplus = 0 := by simp [surplus, tally, h0, hc.sessions, Sessions.size,
    Sessions.empty]
  rw [hstart, surplus] at hx'
  refine ⟨by omega, fun hnone => ?_⟩
  have hzero : (c.stages ks).countP Stage.reconnects = 0 :=
    List.countP_eq_zero.2 fun s hs => by simp [hnone s hs]
  omega

/-- A session leaves twice and comes again, another one connects twice while it is live, with a probe
that waits and one that ends in a fault, and a sweep is pending. -/
def restless : List Command :=
  [.connect "s" [] .delivered, .disconnect "s" [], .disconnect "s" [],
    .connect "t" [] (.held "p"), .signal "t", .connect "t" [] (.failed (.exit 1)),
    .connect "s" [] (.failed .tooDeep), .release "p" none, .connect "u" [] .delivered,
    .disconnect "t" [], .advance 1000000, .shutdown]

theorem sessions_accounted_restless :
    let x := (frail.run restless).2
    frail.IsNew ∧ frail.site.tallies frail.manager.counters = .zero ∧
    frail.Scene restless .rest x ∧ x.tally .established = 5 ∧ x.tally .ended = 2 ∧
    x.sessions.sids = ["s", "u"] ∧ (frail.stages restless).countP Stage.reconnects = 1 ∧
    x.tally .established =
      x.tally .ended + x.sessions.size + (frail.stages restless).countP Stage.reconnects := by
  intro x
  have hnew : frail.IsNew := ⟨rfl, rfl, rfl, rfl, rfl⟩
  have hscene : frail.Scene restless .rest x := .rest restless 0 0
  have h := sessions_accounted frail hnew rfl restless .rest x hscene
  exact ⟨hnew, rfl, hscene, by decide, by decide, by decide, by decide, h.1⟩

end Controller
end Linkcut

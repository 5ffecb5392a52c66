import Linkcut.Proofs.Controller.Census
import Linkcut.Proofs.Controller.Reports
import Linkcut.Proofs.Exposition.Scrape
import Mathlib.Algebra.BigOperators.Group.List.Lemmas
import Mathlib.Algebra.Ring.Nat

/-!
The figures of sessions. They are read off two stores, the live sessions and the timers that wait,
neither of which follows the other: a sweep may wait for a session that has left or never came, and
a shutdown leaves the phase of an armed session as it is. The figures agree all the same.
-/

set_option autoImplicit false

namespace Linkcut

section Counts

variable {α : Type} [DecidableEq α]

/-- What is met is met as often as there are places. -/
theorem sum_count_eraseDups (l : List α) : (l.eraseDups.map fun a => l.count a).sum = l.length := by
  have hperm : l.eraseDups.Perm l.dedup :=
    (List.perm_ext_iff_of_nodup (nodup_eraseDups l) l.nodup_dedup).2 fun a => by simp
  rw [(hperm.map _).sum_eq, List.sum_map_count_dedup_eq_length]

/-- Of two lists without repetitions each has as many of its members in the other one. -/
theorem countP_mem_comm {l m : List α} (hl : l.Nodup) (hm : m.Nodup) :
    l.countP (fun a => decide (a ∈ m)) = m.countP fun a => decide (a ∈ l) := by
  rw [List.countP_eq_length_filter, List.countP_eq_length_filter]
  have hperm : (l.filter fun a => decide (a ∈ m)).Perm (m.filter fun a => decide (a ∈ l)) :=
    (List.perm_ext_iff_of_nodup (hl.filter _) (hm.filter _)).2 fun a => by simp [and_comm]
  exact hperm.length_eq

end Counts

namespace Sessions

/-- A session that is entered with a phase is in that phase, and in no other one. -/
theorem get?_of_entry (s : Sessions) {e : Sid × Phase} (he : e ∈ s.entries) :
    s.get? e.1 = some e.2 := by
  obtain ⟨l, r, hsplit⟩ := List.append_of_mem he
  refine List.lookup_eq_some_iff.2 ⟨l, r, hsplit, fun d hd => ?_⟩
  have hdistinct := s.nodup
  rw [hsplit, List.map_append] at hdistinct
  have hne := (List.nodup_append.1 hdistinct).2.2 d.1 (List.mem_map_of_mem hd) e.1 (by simp)
  simpa using Ne.symm hne

/-- As many sessions are in a phase as are entered with it. -/
theorem count_phase (s : Sessions) (p : Phase) : (s.entries.map Prod.snd).count p =
    s.sids.countP fun sid => decide (s.get? sid = some p) := by
  rw [sids, List.countP_map, List.count, List.countP_map]
  refine List.countP_congr fun e he => ?_
  simp [s.get?_of_entry he]

end Sessions

namespace Controller

/-- The figures tell the live sessions and the sweeps that wait as they are. -/
structure Coherent (x : Controller) (r : SessionReport) : Prop where
  /-- The phases that are shown are those of live sessions, each with how many are in it. -/
  phases : ∀ p n, (p, n) ∈ r.phases ↔
    0 < n ∧ n = x.sessions.sids.countP fun sid => decide (x.sessions.get? sid = some p)
  names : (r.phases.map (·.1.text)).Nodup
  total : (r.phases.map Prod.snd).sum = r.active
  active : r.active = x.sessions.sids.length
  armed : r.armed =
    x.sessions.sids.countP fun sid => x.scheduler.loop.timers.any fun t => t.job.key == sid
  pending : r.pending = x.scheduler.loop.timers.length
  /-- The sweeps that are pending for no live session. -/
  orphans : (r.pending : Int) - r.armed =
    x.scheduler.loop.timers.countP fun t => !x.sessions.isLive t.job.key

theorem mem_phaseCounts (c : Controller) (p : Phase) (n : Nat) : (p, n) ∈ c.phaseCounts ↔
    0 < n ∧ n = c.sessions.sids.countP fun sid => decide (c.sessions.get? sid = some p) := by
  rw [← c.sessions.count_phase p]
  simp only [phaseCounts, List.mem_map, List.mem_eraseDups, Prod.mk.injEq]
  constructor
  · rintro ⟨q, hq, rfl, rfl⟩
    exact ⟨List.count_pos_iff.2 (List.mem_map.2 hq), rfl⟩
  · rintro ⟨hn, rfl⟩
    exact ⟨p, List.mem_map.1 (List.count_pos_iff.1 hn), rfl, rfl⟩

theorem text_injective : Function.Injective Phase.text := fun p q h => by
  have hp := Phase.ofText?_text p
  rw [h, Phase.ofText?_text] at hp
  exact (Option.some.inj hp).symm

theorem nodup_phaseCounts (c : Controller) : (c.phaseCounts.map (·.1.text)).Nodup := by
  rw [phaseCounts, List.map_map]
  exact (nodup_eraseDups _).map text_injective

/-- Live sessions that are armed are as many as timers with a live session. -/
theorem countP_armed {c : Controller} (h : c.scheduler.Linked) :
    c.sessions.sids.countP c.scheduler.isArmed =
      c.scheduler.loop.timers.countP fun t => c.sessions.isLive t.job.key := by
  have harmed : c.sessions.sids.countP c.scheduler.isArmed =
      c.sessions.sids.countP fun sid => decide (sid ∈ c.scheduler.loop.timers.map (·.job.key)) :=
    List.countP_congr fun sid _ => by rw [h.isArmed_iff, decide_eq_true_eq]
  rw [harmed, countP_mem_comm (l := c.sessions.sids) c.sessions.nodup h.keys, List.countP_map]
  exact List.countP_congr fun t _ => by
    rw [Function.comp_apply, decide_eq_true_eq, ← c.sessions.mem_sids]

theorem coherent_report {c : Controller} (h : c.scheduler.Linked) {r : SessionReport}
    (hr : c.report = .ok r) : Coherent c r := by
  obtain ⟨millis, -, rfl⟩ := report_eq_ok hr
  have hcount := h.count_eq
  have harmed := countP_armed h
  have hsplit := List.length_eq_countP_add_countP
    (fun t : Timer (Job Sid Unit) => c.sessions.isLive t.job.key) (l := c.scheduler.loop.timers)
  exact {
    phases := c.mem_phaseCounts
    names := c.nodup_phaseCounts
    total := by
      have hlength : (c.sessions.entries.map Prod.snd).length = c.sessions.size := List.length_map _
      simp only [sessionFigures, phaseCounts]
      rw [← hlength, ← sum_count_eraseDups, List.map_map]
      rfl
    active := (List.length_map _).symm
    armed := by
      simp only [sessionFigures, ← List.countP_eq_length_filter]
      refine List.countP_congr fun sid _ => ?_
      rw [h.isArmed_iff]
      simp
    pending := hcount
    orphans := by
      simp only [Bool.not_eq_true, Bool.decide_eq_false] at hsplit
      simp only [sessionFigures, ← List.countP_eq_length_filter, harmed, hcount]
      omega }

/-- At every point of a run where the figures of sessions can be had they agree with each other and
with the sessions and sweeps of that moment; and whoever collects them leaves the controller as it
is. -/
theorem stats_coherent (c : Controller) (hc : c.IsNew) (ks : List Command) (a : Activity)
    (x : Controller) (hx : c.Scene ks a x) (r : SessionReport) (x' : Controller)
    (hcollect : collect.on x = (.ok r, x')) : x.report = .ok r ∧ Coherent x r ∧ x' = x := by
  rw [on_collect] at hcollect
  obtain ⟨hr, rfl⟩ := Prod.mk.inj hcollect
  exact ⟨hr, coherent_report (hx.linked hc) hr, rfl⟩

/-- One session is armed before it connects, one comes back while its sweep is pending, one keeps
its phase after a shutdown, and a sweep is pending for a session that never came. -/
def adrift : List Command :=
  [.connect "a" [] .delivered, .signal "a", .shutdown, .signal "b", .connect "b" [] .delivered,
    .connect "c" [] (.held "p"), .signal "d", .connect "e" [] .delivered, .signal "e",
    .disconnect "e" [], .connect "e" [] .delivered]

theorem stats_coherent_adrift :
    let x := (frail.run adrift).2
    let r : SessionReport := {
      active := 4
      armed := 2
      pending := 3
      delayMillis := 1000
      phases := [(.disconnectArmed, 1), (.waitingForSignal, 2), (.probeSent, 1)] }
    frail.IsNew ∧ frail.Scene adrift .rest x ∧ collect.on x = (.ok r, x) ∧ Coherent x r := by
  intro x r
  have hnew : frail.IsNew := ⟨rfl, rfl, rfl, rfl, rfl⟩
  have hscene : frail.Scene adrift .rest x := .rest adrift 0 0
  have hreport : x.report = .ok r := by decide
  have hcollect : collect.on x = (.ok r, x) := by rw [on_collect, hreport]
  exact ⟨hnew, hscene, hcollect, (stats_coherent frail hnew adrift .rest x hscene r x hcollect).2.1⟩

end Controller
end Linkcut

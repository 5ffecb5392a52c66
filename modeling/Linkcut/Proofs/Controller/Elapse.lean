import Linkcut.Proofs.Controller.LiveSessions
import Linkcut.Proofs.Controller.Phases
import Linkcut.Proofs.Scheduler.Dues

/-!
What the passing of time does. Each sweep that comes due is taken from the pending ones and ends its
own session; what is left does not depend on the order in which they ran.
-/

set_option autoImplicit false

namespace Linkcut.Controller

open Scheduler (reached)

def dueBy (c : Controller) (limit : Instant) (sid : Sid) : Bool :=
  (c.scheduler.deadline? sid).any (reached limit)

/-- The faults left to the loop, and the controller, when all sweeps due by `limit` have run. -/
structure Elapsed (limit : Instant) (c : Controller) (r : List Fault × Controller) : Prop where
  linked : r.2.scheduler.Linked
  deadlines : ∀ sid, r.2.scheduler.deadline? sid =
    if c.dueBy limit sid then none else c.scheduler.deadline? sid
  delay : r.2.scheduler.delay = c.scheduler.delay
  now : r.2.scheduler.now ≤ max c.scheduler.now limit
  phases : r.1 = [] → ∀ sid, r.2.sessions.get? sid =
    if c.dueBy limit sid ∧ c.sessions.isLive sid then some .terminated else c.sessions.get? sid

variable {c : Controller} {limit : Instant} {n : Nat}

theorem Elapsed.of_none (h : c.scheduler.Linked) (hnone : c.scheduler.dueCount limit = 0) :
    Elapsed limit c ([], c) := by
  have hlate : ∀ sid, c.dueBy limit sid = false := fun sid => h.not_reached hnone sid
  exact ⟨h, by simp [hlate], rfl, Nat.le_max_left _ _, by simp [hlate]⟩

/-- One sweep runs, and then the other ones do. -/
theorem Elapsed.of_fire (h : c.scheduler.Linked) {job : Job Sid Unit} {u : Scheduler Sid Unit}
    (hp : c.scheduler.popDue limit = some (job, u)) {f : Option Fault} {d : Controller}
    (hfire : { c with scheduler := u }.fire job.key = (f, d)) {r : List Fault × Controller}
    (hr : Elapsed limit d r) : Elapsed limit c (f.toList ++ r.1, r.2) := by
  obtain ⟨hdue, hrest⟩ := h.deadline?_popDue hp
  obtain ⟨e, he, _, hnow⟩ := h.dues_popDue hp
  have hsched : d.scheduler = u := by
    have hkept : ({ c with scheduler := u }.fire job.key).2.scheduler = u := scheduler_fire _ _
    rwa [hfire] at hkept
  have hlater : ∀ sid, d.dueBy limit sid = (decide (sid ≠ job.key) && c.dueBy limit sid) := by
    intro sid
    rw [dueBy, hsched, hrest sid]
    by_cases hs : sid = job.key
    · simp [hs]
    · simp [hs, dueBy]
  refine ⟨hr.linked, fun sid => ?_, ?_, ?_, fun hnil sid => ?_⟩
  · rw [hr.deadlines, hlater, hsched, hrest sid]
    by_cases hs : sid = job.key
    · simp [hs, dueBy, hdue]
    · simp [hs]
  · rw [hr.delay, hsched, Scheduler.delay_popDue hp]
  · have hlast := hr.now
    rw [hsched, hnow] at hlast
    refine Nat.le_trans hlast (Nat.max_le.2 ⟨Nat.max_le.2 ⟨Nat.le_max_left _ _, ?_⟩, ?_⟩)
    · exact Nat.le_trans he (Nat.le_max_right _ _)
    · exact Nat.le_max_right _ _
  · obtain ⟨hf, hfs⟩ := List.append_eq_nil_iff.1 hnil
    have hended : ({ c with scheduler := u }.fire job.key).1 = none := by
      rw [hfire]
      exact Option.toList_eq_nil_iff.1 hf
    have hphase := get?_fire { c with scheduler := u } job.key sid hended
    have hlive := isLive_fire { c with scheduler := u } job.key sid
    rw [hfire] at hphase hlive
    rw [hr.phases hfs, hlater, hphase, hlive]
    by_cases hs : sid = job.key
    · simp [hs, dueBy, hdue]
    · simp [hs]

theorem elapsed_fireDue (h : c.scheduler.Linked) (hn : c.scheduler.dueCount limit ≤ n) :
    Elapsed limit c (c.fireDue limit n) := by
  induction n generalizing c with
  | zero => exact .of_none h (Nat.le_zero.1 hn)
  | succ n ih =>
    rw [fireDue]
    split
    · rename_i hp
      exact .of_none h (Scheduler.popDue_eq_none_iff_dueCount.1 hp)
    · rename_i job u hp
      rcases hfire : { c with scheduler := u }.fire job.key with ⟨f, d⟩
      have hsched : ({ c with scheduler := u }.fire job.key).2.scheduler = u := scheduler_fire _ _
      have hlink := (h.popDue hp).1
      have hcount := h.dueCount_popDue hp
      rw [hfire] at hsched ⊢
      refine .of_fire h hp hfire (ih (by rw [hsched]; exact hlink) ?_)
      rw [hsched]
      omega

theorem elapsed_advance (h : c.scheduler.Linked) (micros : Nat) :
    Elapsed (c.scheduler.now + micros) c (c.advance micros) ∧
      (c.advance micros).2.scheduler.now = c.scheduler.now + micros := by
  have hall : Elapsed (c.scheduler.now + micros) c
      (c.fireDue (c.scheduler.now + micros) c.scheduler.loop.timers.length) :=
    elapsed_fireDue h Scheduler.dueCount_le
  have hnow := hall.now
  refine ⟨⟨hall.linked.passTo _, hall.deadlines, hall.delay, ?_, hall.phases⟩, ?_⟩
  · exact Nat.max_le.2 ⟨hnow, Nat.le_max_right _ _⟩
  · exact Nat.max_eq_right (Nat.le_trans hnow (by omega))

/-- Abort calls that end in ordinary faults at most leave nothing to the loop. -/
theorem fireDue_fst_of_mild (c : Controller) (limit : Instant) (n : Nat)
    (hm : (c.fireDue limit n).2.site.Mild) : (c.fireDue limit n).1 = [] := by
  induction n generalizing c with
  | zero => rfl
  | succ n ih =>
    rw [fireDue] at hm ⊢
    split
    · rfl
    · rename_i job u hp
      simp only [hp] at hm
      have hfired : ({ c with scheduler := u }.fire job.key).2.site.Mild :=
        fun e he => hm e ((suffix_fireDue _ limit n).subset he)
      have hended := fire_fst_of_mild { c with scheduler := u } job.key hfired
      simp only [hended, ih _ hm]
      rfl

end Linkcut.Controller

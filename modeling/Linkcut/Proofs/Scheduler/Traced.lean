import Linkcut.Proofs.Scheduler.Advance

/-!
Timers told by their past. At every moment of every run, whatever actions do and in whatever order
timers fire, the pending keys and the timers of the loop are those that were armed and have since
then neither started to fire nor been cancelled.
-/

set_option autoImplicit false

namespace Linkcut.Agenda

/-- The timer of a mark, where timers wait for `wait` microseconds. -/
def Mark.timer (wait : Option Nat) (m : Mark) : Timer (Job Key Task) :=
  ⟨m.id, wait.map (m.time + ·), ⟨m.key, m.task⟩⟩

/-- The timers that are left when this has happened to `ms`. -/
@[simp] def Occurrence.update (ms : List Mark) : Occurrence → List Mark
  | armed m => ms ++ [m]
  | fired m => ms.filter (·.id != m.id)
  | cancelled _ => []

/-- The timers that were armed and have since then neither started to fire nor been cancelled. -/
def outstanding (past : List Occurrence) : List Mark := past.foldl Occurrence.update []

@[simp] theorem outstanding_concat (past : List Occurrence) (o : Occurrence) :
    outstanding (past ++ [o]) = o.update (outstanding past) := by
  simp [outstanding]

/-- What a step does to the scheduler, and the occurrences in which that shows. -/
inductive Turn (p : Policy) (s : Scheduler Key Task) :
    Scheduler Key Task → List Occurrence → Prop where
  | same : Turn p s s []
  | armed (k : Key) (task : Task) (unarmed : s.isArmed k = false)
      (starts : s.delay.startFault? = none) :
    Turn p s (s.enter k task) [.armed ⟨s.loop.next, k, task, s.now⟩]
  | cancelled : Turn p s s.cancelAll.2 [.cancelled s.cancelAll.1]
  | fired (t : Timer (Job Key Task)) (time : Instant) (may : p.fires s.loop t time) :
    Turn p s (s.letFire t time) [.fired ⟨t.id, t.job.key, t.job.action, time⟩]
  | passed (limit : Instant) (may : p.passes s.loop limit) : Turn p s (s.passTo limit) []

section

variable {p : Policy}

theorem turn_arm (a : Agenda) (s : Subject) (action : Action) :
    Turn p a.scheduler (a.arm s action).2.scheduler (a.startedBy s action) := by
  obtain ⟨shown, key⟩ := s
  cases key with
  | error f => exact .same
  | ok k =>
    cases hk : a.scheduler.isArmed k with
    | true =>
      simp only [arm, startedBy, Scheduler.arm_of_armed hk]
      exact .same
    | false =>
      cases hf : a.scheduler.delay.startFault? with
      | some f =>
        simp only [arm, startedBy, Scheduler.arm_of_fault hk hf]
        exact .same
      | none =>
        have hturn := Turn.armed (p := p) k ⟨shown, action⟩ hk hf
        simp only [arm, startedBy, Scheduler.arm_of_free hk hf]
        exact hturn

theorem turn_step (a : Agenda) (s : Step) :
    Turn p a.scheduler (a.step s).2.scheduler (a.occurrences s) := by
  cases s with
  | arm word subject action =>
    have hturn := turn_arm (p := p) a subject action
    simp only [step, occurrences]
    rcases hr : a.arm subject action with ⟨_ | _, b⟩ <;> rw [hr] at hturn <;> exact hturn
  | cancelAll => exact .cancelled
  | probe subject =>
    simp only [step, occurrences]
    split <;> exact .same

theorem Turn.delay {s u : Scheduler Key Task} {os : List Occurrence} (h : Turn p s u os) :
    u.delay = s.delay := by
  cases h <;> rfl

theorem Turn.armed_eq_nil {s u : Scheduler Key Task} {os : List Occurrence} (h : Turn p s u os)
    {f : Fault} (hf : s.delay.startFault? = some f) : Agenda.armed os = [] := by
  cases h with
  | armed k task _ starts =>
    rw [hf] at starts
    cases starts
  | same | cancelled | fired t time may | passed limit may => rfl

theorem Next.turn {x y : Chronicle} (h : Next p x y) :
    ∃ os, y.past = x.past ++ os ∧ Turn p x.agenda.scheduler y.agenda.scheduler os := by
  cases h with
  | arm x s action => exact ⟨_, rfl, turn_arm x.agenda s action⟩
  | cancelAll x => exact ⟨_, rfl, .cancelled⟩
  | fire a past t time may => exact ⟨_, rfl, .fired t time may⟩
  | proceed a past shown s ss fault => exact ⟨_, rfl, turn_step a s⟩
  | finish a past shown fault =>
    refine ⟨[], by simp, ?_⟩
    rw [scheduler_settle]
    exact .same
  | wait a past limit may => exact ⟨[], by simp, .passed limit may⟩

end

/-- The scheduler is what its past says. -/
structure Traced (s : Scheduler Key Task) (past : List Occurrence) : Prop where
  linked : s.Linked
  timers : s.loop.timers = (outstanding past).map (Mark.timer s.delay.wait)
  last : ∀ m ∈ outstanding past,
    (armed past).reverse.find? (fun n => decide (n.key = m.key)) = some m
  ascending : (armed past).Pairwise fun m n => m.id < n.id
  fresh : ∀ m ∈ armed past, m.id < s.loop.next
  balance : (armed past).length = (fired past).length + cancelled past + s.count

namespace Traced

variable {p : Policy} {s u : Scheduler Key Task} {past os : List Occurrence}

theorem of_new {a : Agenda} (h : a.IsNew) : Traced a.scheduler [] where
  linked := .of_empty h.pending h.timers
  timers := by simp [outstanding, h.timers]
  last := by simp [outstanding]
  ascending := by simp [armed]
  fresh := by simp [armed]
  balance := by simp [armed, fired, cancelled, Scheduler.count, h.pending]

theorem pending (h : Traced s past) :
    s.pending = (outstanding past).map fun m => (m.key, m.id) := by
  rw [h.linked.pending, h.timers, List.map_map]
  rfl

theorem timer_mem (h : Traced s past) {m : Mark} (hm : m ∈ outstanding past) :
    m.timer s.delay.wait ∈ s.loop.timers := by
  rw [h.timers]
  exact List.mem_map_of_mem hm

theorem isArmed_iff (h : Traced s past) {k : Key} :
    s.isArmed k ↔ ∃ m ∈ outstanding past, m.key = k := by
  rw [h.linked.isArmed_iff, h.timers, List.map_map, List.mem_map]
  rfl

theorem enter (h : Traced s past) {k : Key} (task : Task) (hk : s.isArmed k = false) :
    Traced (s.enter k task) (past ++ [.armed ⟨s.loop.next, k, task, s.now⟩]) := by
  have hlinked := h.linked.enter (a := task) hk
  have hcount := s.count_enter k task
  have hnew : ∀ m ∈ outstanding past, k ≠ m.key := by
    intro m hm hkey
    have harmed := h.isArmed_iff.2 ⟨m, hm, hkey.symm⟩
    rw [hk] at harmed
    cases harmed
  refine ⟨hlinked, ?_, ?_, ?_, ?_, ?_⟩
  · simp only [Scheduler.enter_eq, outstanding_concat, Occurrence.update, List.map_append,
      h.timers]
    rfl
  · intro m hm
    simp only [armed_concat, Occurrence.armed?, Option.toList_some, List.reverse_append,
      List.reverse_singleton, List.singleton_append]
    simp only [outstanding_concat, Occurrence.update, List.mem_append, List.mem_singleton] at hm
    rcases hm with hm | rfl
    · rw [List.find?_cons_of_neg (by simpa using hnew m hm)]
      exact h.last m hm
    · exact List.find?_cons_of_pos (by simp)
  · rw [armed_concat]
    refine List.pairwise_append.2 ⟨h.ascending, List.pairwise_singleton _ _, fun m hm n hn => ?_⟩
    rw [List.mem_singleton.1 hn]
    exact h.fresh m hm
  · intro m hm
    rw [Scheduler.enter_eq]
    rw [armed_concat] at hm
    rcases List.mem_append.1 hm with hm | hm
    · exact Nat.lt_succ_of_lt (h.fresh m hm)
    · rw [List.mem_singleton.1 hm]
      exact Nat.lt_succ_self _
  · have hbalance := h.balance
    simp only [armed_concat, fired_concat, cancelled_concat, Occurrence.armed?, Occurrence.fired?,
      Occurrence.cancelCount, Option.toList_some, Option.toList_none, List.length_append,
      List.length_singleton, List.append_nil]
    omega

/-- A step that starts no timer and takes some away. -/
theorem of_fewer (h : Traced s past) {o : Occurrence} (hlinked : u.Linked)
    (hdelay : u.delay = s.delay) (hnext : u.loop.next = s.loop.next)
    (htimers : u.loop.timers = (o.update (outstanding past)).map (Mark.timer s.delay.wait))
    (hfewer : ∀ m ∈ o.update (outstanding past), m ∈ outstanding past) (harmed : o.armed? = none)
    (hcount : s.count = o.fired?.toList.length + o.cancelCount + u.count) :
    Traced u (past ++ [o]) := by
  have hsame : armed (past ++ [o]) = armed past := by simp [harmed]
  refine ⟨hlinked, ?_, ?_, ?_, ?_, ?_⟩
  · rw [htimers, outstanding_concat, hdelay]
  · intro m hm
    rw [hsame]
    rw [outstanding_concat] at hm
    exact h.last m (hfewer m hm)
  · rw [hsame]
    exact h.ascending
  · rw [hsame, hnext]
    exact h.fresh
  · have hbalance := h.balance
    rw [hsame, fired_concat, cancelled_concat, List.length_append]
    omega

theorem letFire (h : Traced s past) {t : Timer (Job Key Task)} (ht : t ∈ s.loop.timers)
    (time : Instant) :
    Traced (s.letFire t time) (past ++ [.fired ⟨t.id, t.job.key, t.job.action, time⟩]) := by
  obtain ⟨hlinked, hcount⟩ := h.linked.letFire ht time
  refine h.of_fewer hlinked rfl rfl ?_ (fun m hm => List.mem_of_mem_filter hm) rfl ?_
  · simp only [Scheduler.letFire, h.timers, Occurrence.update, List.filter_map]
    rfl
  · simp only [Occurrence.fired?, Occurrence.cancelCount, Option.toList_some,
      List.length_singleton]
    omega

theorem cancelAll (h : Traced s past) :
    Traced s.cancelAll.2 (past ++ [.cancelled s.cancelAll.1]) := by
  have hnone := h.linked.timers_cancelAll
  have hnext : ∀ (ps : List (Key × Nat)) (l : Loop (Job Key Task)),
      (ps.foldl (fun l p => l.cancel p.2) l).next = l.next := by
    intro ps
    induction ps with
    | nil => exact fun l => rfl
    | cons p ps ih => exact fun l => ih (l.cancel p.2)
  refine h.of_fewer h.linked.cancelAll rfl (hnext _ _) hnone (by simp) rfl ?_
  exact (Nat.zero_add _).symm

theorem turn (h : Traced s past)
    (hp : ∀ (l : Loop (Job Key Task)) t time, p.fires l t time → t ∈ l.timers)
    (ht : Turn p s u os) : Traced u (past ++ os) := by
  cases ht with
  | same => rwa [List.append_nil]
  | armed k task unarmed _ => exact h.enter task unarmed
  | cancelled => exact h.cancelAll
  | fired t time may => exact h.letFire (hp _ _ _ may) time
  | passed limit _ =>
    rw [List.append_nil]
    exact ⟨h.linked.passTo limit, h.timers, h.last, h.ascending, h.fresh, h.balance⟩

end Traced

theorem Reaches.traced {a : Agenda} (hnew : a.IsNew) {x : Chronicle} (hx : a.Reaches .free x) :
    Traced x.agenda.scheduler x.past := by
  induction hx with
  | refl => exact .of_new hnew
  | tail _ hnext ih =>
    obtain ⟨os, hpast, hturn⟩ := hnext.turn
    rw [hpast]
    exact ih.turn (fun l t time (h : Policy.free.fires l t time) => h.1) hturn

/-- An arm call that does not return true changes nothing. -/
theorem arm_refused (a : Agenda) (s : Subject) (action : Action)
    (h : (a.arm s action).1 ≠ .ok true) : (a.arm s action).2 = a := by
  obtain ⟨shown, key⟩ := s
  cases key with
  | error f => rfl
  | ok k =>
    cases hk : a.scheduler.isArmed k with
    | true => simp only [arm, Scheduler.arm_of_armed hk]
    | false =>
      cases hf : a.scheduler.delay.startFault? with
      | some f => simp only [arm, Scheduler.arm_of_fault hk hf]
      | none => exact absurd (by simp only [arm, Scheduler.arm_of_free hk hf]) h

theorem armOutside_ne_true (a : Agenda) (s : Subject) : a.armOutside s ≠ .ok true := by
  obtain ⟨shown, key⟩ := s
  intro h
  cases key with
  | error f => cases h
  | ok k =>
    change a.scheduler.armOutside k = .ok true at h
    unfold Scheduler.armOutside at h
    split at h
    · cases h
    · cases h

/-- At every moment of every run, also while an action is running: the pending keys and the timers
of the loop are the outstanding timers of the past, one for each key, which is the one that the last
successful arm call of the key has started. As many arm calls returned true as timers started to
fire, were cancelled or are pending. Arm calls that did not return true, and those where no loop
runs, change nothing. A command that is obeyed then leads to such a moment again, and what happens
meanwhile is added to the past. -/
theorem timers_correspond (a : Agenda) (hnew : a.IsNew) (x : Chronicle)
    (hx : a.Reaches .free x) :
    (x.agenda.scheduler.pending = (outstanding x.past).map (fun m => (m.key, m.id)) ∧
      x.agenda.scheduler.loop.timers =
        (outstanding x.past).map (Mark.timer x.agenda.scheduler.delay.wait) ∧
      ((outstanding x.past).map (·.key)).Nodup ∧
      ((armed x.past).Pairwise fun m n => m.id < n.id) ∧
      ∀ m ∈ outstanding x.past,
        (armed x.past).reverse.find? (fun n => decide (n.key = m.key)) = some m) ∧
    (armed x.past).length =
      (fired x.past).length + cancelled x.past + x.agenda.scheduler.count ∧
    (∀ s action, (x.agenda.arm s action).1 ≠ .ok true → (x.agenda.arm s action).2 = x.agenda) ∧
    (∀ s, x.agenda.armOutside s ≠ .ok true ∧ (x.agenda.obey (.armOutside s)).2 = x.agenda) ∧
    (x.running = none → ∀ k,
      a.Reaches .free ⟨(x.agenda.obey k).2, none, x.past ++ x.agenda.obeyPast k⟩) := by
  have h := hx.traced hnew
  have hkeys : ((outstanding x.past).map (·.key)).Nodup := by
    have hnodup := h.linked.keys
    rw [h.timers, List.map_map] at hnodup
    exact hnodup
  refine ⟨⟨h.pending, h.timers, hkeys, h.ascending, h.last⟩, h.balance, arm_refused x.agenda,
    fun s => ⟨armOutside_ne_true x.agenda s, rfl⟩, fun hidle k => ?_⟩
  obtain ⟨b, running, past⟩ := x
  cases hidle
  exact hx.trans (steps_obey b past k).free

def undelayed : Agenda := { scheduler := { delay := .whole 0 } }

/-- An action that arms its own key again, cancels all timers and ends in a fault. -/
def restless : Action :=
  .mk "restless" [.arm "again" ⟨.str "k", .ok (.str "k")⟩ (.note "next"), .cancelAll]
    (some .tooDeep)

/-- The action above after its first step. -/
def restlessMoment : Chronicle where
  agenda :=
    { scheduler :=
        { delay := .whole 0
          pending := [(.str "k", 1)]
          loop :=
            { now := 0
              next := 2
              timers := [⟨1, some 0, ⟨.str "k", ⟨.str "k", .note "next"⟩⟩⟩] } }
      notes := [.armed "again" true, .ran "restless" 0] }
  running := some ⟨.str "k", [.cancelAll], some .tooDeep⟩
  past :=
    [.armed ⟨0, .str "k", ⟨.str "k", restless⟩, 0⟩,
      .fired ⟨0, .str "k", ⟨.str "k", restless⟩, 0⟩,
      .armed ⟨1, .str "k", ⟨.str "k", .note "next"⟩, 0⟩]

theorem timers_correspond_restless :
    undelayed.IsNew ∧ undelayed.Reaches .free restlessMoment ∧
    restlessMoment.agenda.scheduler.pending =
      (outstanding restlessMoment.past).map (fun m => (m.key, m.id)) ∧
    (armed restlessMoment.past).length = (fired restlessMoment.past).length +
      cancelled restlessMoment.past + restlessMoment.agenda.scheduler.count ∧
    (outstanding restlessMoment.past).map (·.id) = [1] := by
  have hnew : undelayed.IsNew := ⟨rfl, rfl, rfl⟩
  have harm : undelayed.Reaches .free _ := Relation.ReflTransGen.refl.tail
    (.arm ⟨undelayed, none, []⟩ ⟨.str "k", .ok (.str "k")⟩ restless)
  have hfire := harm.tail (.fire _ _ ⟨0, some 0, ⟨.str "k", ⟨.str "k", restless⟩⟩⟩ 0
    ⟨List.mem_cons_self, Nat.le_refl _⟩)
  have hx : undelayed.Reaches .free restlessMoment := hfire.tail (.proceed _ _ _ _ _ _)
  have h := timers_correspond undelayed hnew restlessMoment hx
  exact ⟨hnew, hx, h.1.1, h.2.1, rfl⟩

end Linkcut.Agenda

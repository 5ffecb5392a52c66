import Linkcut.Proofs.Scheduler.Timed
import Linkcut.Proofs.Scheduler.Traced
import Mathlib.Data.List.Induction

/-!
When actions run. On a punctual loop and with a finite delay the timers that fired, followed by
those that are outstanding, are what was armed, in its order and each at the end of its delay;
only cancellations leave some of them out.
-/

set_option autoImplicit false

namespace Linkcut

/-- A text names a key as it is. -/
def Subject.ofText (k : String) : Subject := ⟨.str k, .ok (.str k)⟩

namespace Agenda

def Mark.after (d : Nat) (m : Mark) : Mark := { m with time := m.time + d }

/-- The action that ran, and when. -/
def Note.ran? : Note → Option (String × Instant)
  | .ran label time => some (label, time)
  | _ => none

/-- The actions that ran, in their order, as notes tell them. -/
def ran (a : Agenda) : List (String × Instant) := a.notes.reverse.filterMap Note.ran?

/-- Numbers tell the armed timers apart. -/
theorem Traced.eq_of_id_eq {s : Scheduler Key Task} {past : List Occurrence} (h : Traced s past)
    {m n : Mark} (hm : m ∈ armed past) (hn : n ∈ armed past) (e : m.id = n.id) : m = n := by
  have hids : ((armed past).map (·.id)).Nodup :=
    List.pairwise_map.2 (h.ascending.imp Nat.ne_of_lt)
  exact List.inj_on_of_nodup_map hids hm hn e

structure InTime (d : Nat) (s : Scheduler Key Task) (past : List Occurrence) : Prop where
  traced : Traced s past
  timed : s.Timed d
  order : (fired past ++ (outstanding past).map (Mark.after d)).Sublist
    ((armed past).map (Mark.after d))

namespace InTime

variable {d : Nat} {s u : Scheduler Key Task} {past os : List Occurrence}

theorem enter (h : InTime d s past) {k : Key} (task : Task) (hk : s.isArmed k = false) :
    InTime d (s.enter k task) (past ++ [.armed ⟨s.loop.next, k, task, s.now⟩]) where
  traced := h.traced.enter task hk
  timed := h.timed.enter hk
  order := by
    simp only [armed_concat, fired_concat, outstanding_concat, Occurrence.armed?,
      Occurrence.fired?, Occurrence.update, Option.toList_some, Option.toList_none,
      List.append_nil, List.map_append, ← List.append_assoc]
    exact h.order.append (List.Sublist.refl _)

theorem cancelAll (h : InTime d s past) :
    InTime d s.cancelAll.2 (past ++ [.cancelled s.cancelAll.1]) where
  traced := h.traced.cancelAll
  timed := h.timed.cancelAll
  order := by
    have hfired := (List.sublist_append_left (fired past) _).trans h.order
    simpa [Occurrence.armed?, Occurrence.fired?] using hfired

/-- The timer that comes due first is the oldest one, and fires at the end of its delay. -/
theorem letFire (h : InTime d s past) {due : Instant} {t : Timer (Job Key Task)}
    (ht : Loop.earliest s.loop.timers = some (due, t)) :
    InTime d (s.letFire t (max s.loop.now due))
      (past ++ [.fired ⟨t.id, t.job.key, t.job.action, max s.loop.now due⟩]) := by
  obtain ⟨ts, hts, rfl⟩ := h.timed.front_of_earliest ht
  obtain ⟨htimed, _, hnow⟩ := h.timed.letFire hts
  have htraced := h.traced.letFire (Loop.earliest_spec ht).1 (max s.loop.now t.deadline)
  obtain ⟨m, ms, hms, rfl, hrest⟩ := List.map_eq_cons_iff.1 (h.traced.timers.symm.trans hts)
  have hdue : (m.timer s.delay.wait).deadline = m.time + d := by
    rw [h.timed.wait]
    rfl
  have hids := h.traced.linked.ids
  rw [h.traced.timers, hms, List.map_map, List.map_cons] at hids
  have hleft : (m :: ms).filter (·.id != m.id) = ms := by
    rw [List.filter_cons_of_neg (by simp)]
    refine List.filter_eq_self.2 fun n hn => ?_
    have hne : n.id ≠ m.id := fun e => (List.nodup_cons.1 hids).1 (List.mem_map.2 ⟨n, hn, e⟩)
    simpa using hne
  rw [hnow] at htraced ⊢
  refine ⟨htraced, htimed, ?_⟩
  have horder := h.order
  rw [hms] at horder
  simp only [armed_concat, fired_concat, outstanding_concat, Occurrence.armed?, Occurrence.fired?,
    Occurrence.update, Option.toList_some, Option.toList_none, List.append_nil, hms]
  simp only [Mark.timer] at hdue ⊢
  rw [hleft, hdue, List.append_assoc]
  exact horder

theorem turn (h : InTime d s past) (ht : Turn .punctual s u os) : InTime d u (past ++ os) := by
  cases ht with
  | same => rwa [List.append_nil]
  | armed k task unarmed _ => exact h.enter task unarmed
  | cancelled => exact h.cancelAll
  | fired t time may =>
    obtain ⟨due, ht, rfl⟩ := may
    exact h.letFire ht
  | passed limit may =>
    rw [List.append_nil]
    refine ⟨⟨h.traced.linked.passTo limit, h.traced.timers, h.traced.last, h.traced.ascending,
      h.traced.fresh, h.traced.balance⟩, h.timed.passTo ?_, h.order⟩
    intro w hw
    obtain ⟨t, ht, rfl⟩ := List.mem_map.1 hw
    exact Nat.le_of_lt (h.timed.late may t ht)

theorem fired_sublist (h : InTime d s past) :
    (fired past).Sublist ((armed past).map (Mark.after d)) :=
  (List.sublist_append_left _ _).trans h.order

/-- A pending key waits for the end of the delay that began with its own arm call. -/
theorem deadline_eq (h : InTime d s past) {m : Mark} (hm : m ∈ outstanding past) :
    s.deadline? m.key = some (some (m.time + d)) := by
  have hdue := h.traced.linked.deadline?_of_timer (h.traced.timer_mem hm)
  rw [h.timed.wait] at hdue
  exact hdue

/-- The clock has not gone past a timer that is outstanding. -/
theorem now_le (h : InTime d s past) {m : Mark} (hm : m ∈ outstanding past) :
    s.now ≤ m.time + d := by
  have hnear := (h.timed.near _ (h.traced.timer_mem hm)).1
  rw [h.timed.wait] at hnear
  exact hnear

end InTime

theorem Reaches.inTime {a : Agenda} (hnew : a.IsNew) {d : Nat}
    (hd : a.scheduler.delay.wait = some d) {x : Chronicle} (hx : a.Reaches .punctual x) :
    InTime d x.agenda.scheduler x.past := by
  induction hx with
  | refl =>
    exact ⟨.of_new hnew, .of_empty hnew.pending hnew.timers hd, by simp [fired, outstanding]⟩
  | tail _ hnext ih =>
    obtain ⟨os, hpast, hturn⟩ := hnext.turn
    rw [hpast]
    exact ih.turn hturn

/-- Where no timer can be started none ever was. -/
theorem Reaches.armed_eq_nil {a : Agenda} {f : Fault}
    (hf : a.scheduler.delay.startFault? = some f) {p : Policy} {x : Chronicle}
    (hx : a.Reaches p x) : armed x.past = [] := by
  have hboth : x.agenda.scheduler.delay = a.scheduler.delay ∧ armed x.past = [] := by
    induction hx with
    | refl => exact ⟨rfl, rfl⟩
    | tail _ hnext ih =>
      obtain ⟨os, hpast, hturn⟩ := hnext.turn
      refine ⟨hturn.delay.trans ih.1, ?_⟩
      rw [hpast, armed, List.filterMap_append, ← armed, ← armed, ih.2,
        hturn.armed_eq_nil (ih.1 ▸ hf), List.append_nil]
  exact hboth.2

/-- Where nothing was armed nothing fired, and nothing is outstanding. -/
theorem Traced.nothing {s : Scheduler Key Task} {past : List Occurrence} (h : Traced s past)
    (hnone : armed past = []) : fired past = [] ∧ outstanding past = [] := by
  have hbalance := h.balance
  rw [hnone, h.linked.count_eq, h.timers, List.length_map, List.length_nil] at hbalance
  exact ⟨List.length_eq_zero_iff.1 (by omega), List.length_eq_zero_iff.1 (by omega)⟩

/-- With a delay of `d` microseconds every timer is in time, if one was armed at all. -/
theorem Reaches.inTime_or {a : Agenda} (hnew : a.IsNew) {d : Nat}
    (hd : a.scheduler.delay.inUnits 1000000 = .ok (d : Int)) {x : Chronicle}
    (hx : a.Reaches .punctual x) :
    InTime d x.agenda.scheduler x.past ∨
      armed x.past = [] ∧ fired x.past = [] ∧ outstanding x.past = [] := by
  cases hf : a.scheduler.delay.startFault? with
  | none => exact .inl (hx.inTime hnew (Delay.wait_of_inUnits hf hd))
  | some f =>
    have hnone := hx.armed_eq_nil hf
    exact .inr ⟨hnone, (Reaches.traced hnew hx.free).nothing hnone⟩

/-- A timer that was armed is outstanding, or it fired since or was cancelled when it was. -/
theorem armed_cases (before after : List Occurrence) (m : Mark) :
    m ∈ outstanding (before ++ .armed m :: after) ∨
      (∃ n, .fired n ∈ after ∧ n.id = m.id) ∨
      ∃ mid k rest, after = mid ++ .cancelled k :: rest ∧
        m ∈ outstanding (before ++ .armed m :: mid) := by
  induction after using List.reverseRecOn with
  | nil => simp
  | append_singleton after o ih =>
    rw [← List.cons_append, ← List.append_assoc, outstanding_concat]
    rcases ih with hm | ⟨n, hn, hid⟩ | ⟨mid, k, rest, rfl, hmid⟩
    · cases o with
      | armed n => exact .inl (List.mem_append_left _ hm)
      | fired n =>
        by_cases hid : n.id = m.id
        · exact .inr (.inl ⟨n, by simp, hid⟩)
        · have hne : m.id ≠ n.id := fun e => hid e.symm
          exact .inl (List.mem_filter.2 ⟨hm, by simpa using hne⟩)
      | cancelled k => exact .inr (.inr ⟨after, k, [], rfl, hm⟩)
    · exact .inr (.inl ⟨n, by simp [hn], hid⟩)
    · exact .inr (.inr ⟨mid, k, rest ++ [o], by simp, hmid⟩)

theorem Reaches.fired_sublist {a : Agenda} (hnew : a.IsNew) {d : Nat}
    (hd : a.scheduler.delay.inUnits 1000000 = .ok (d : Int)) {x : Chronicle}
    (hx : a.Reaches .punctual x) :
    (fired x.past).Sublist ((armed x.past).map (Mark.after d)) := by
  rcases hx.inTime_or hnew hd with hin | ⟨_, hfired, _⟩
  · exact hin.fired_sublist
  · rw [hfired]
    exact List.nil_sublist _

/-- After an advance nothing that is due is outstanding. -/
theorem Reaches.late_of_advance {a : Agenda} (hnew : a.IsNew) {d : Nat}
    (hd : a.scheduler.delay.inUnits 1000000 = .ok (d : Int)) {b : Agenda}
    {past : List Occurrence} (hx : a.Reaches .punctual ⟨b, none, past⟩) {micros : Nat} {m : Mark}
    (hm : m ∈ outstanding (past ++ b.advancePast micros)) :
    b.scheduler.now + micros < m.time + d := by
  have hreach : a.Reaches .punctual _ :=
    hx.trans (steps_fireDue b past (b.scheduler.now + micros) b.weight)
  rcases hreach.inTime_or hnew hd with hin | ⟨_, _, hnone⟩
  · have hdone := b.popDue_fireDue (b.scheduler.now + micros) b.weight (Nat.le_refl _)
    have hlate := hin.timed.late (Scheduler.popDue_eq_none_iff.1 hdone) _
      (hin.traced.timer_mem hm)
    rw [hin.timed.wait] at hlate
    exact hlate
  · exact absurd hm (hnone ▸ List.not_mem_nil)

section

variable (a : Agenda)

theorem ran_note (n : Note) : (a.note n).ran = a.ran ++ (Note.ran? n).toList := by
  cases n <;> simp [note, ran, Note.ran?]

theorem ran_arm (s : Subject) (action : Action) : (a.arm s action).2.ran = a.ran := by
  unfold arm
  split <;> rfl

theorem ran_settle (shown : Value) (fault : Option Fault) :
    (a.settle shown fault).ran = a.ran := by
  unfold settle
  split
  · rfl
  · split <;> rfl

/-- The steps of an action run no other one. -/
theorem ran_step (s : Step) : (a.step s).2.ran = a.ran := by
  cases s with
  | arm word subject action =>
    have harm := ran_arm a subject action
    rw [step]
    rcases hr : a.arm subject action with ⟨f | b, c⟩ <;> rw [hr] at harm
    · exact harm
    · exact (ran_note c (.armed word b)).trans (by simp [Note.ran?, harm])
  | cancelAll => exact (ran_note a.cancelAll.2 _).trans (by simp [Note.ran?]; rfl)
  | probe subject =>
    rw [step]
    split
    · exact (ran_note a _).trans (by simp [Note.ran?])
    · rfl

theorem fired_startedBy (s : Subject) (action : Action) : fired (a.startedBy s action) = [] := by
  unfold startedBy
  split <;> rfl

theorem fired_occurrences (s : Step) : fired (a.occurrences s) = [] := by
  cases s with
  | arm word subject action => exact fired_startedBy a subject action
  | cancelAll => rfl
  | probe subject => rfl

end

theorem fired_append (past os : List Occurrence) : fired (past ++ os) = fired past ++ fired os :=
  List.filterMap_append

/-- Notes tell what fired. -/
theorem Reaches.ran_eq {a : Agenda} (hnew : a.IsNew) {p : Policy} {x : Chronicle}
    (hx : a.Reaches p x) :
    x.agenda.ran = (fired x.past).map fun m => (m.task.action.label, m.time) := by
  induction hx with
  | refl => simp [ran, fired, hnew.notes]
  | @tail y z _ hnext ih =>
    cases hnext with
    | arm _ s action =>
      rw [ran_arm, fired_append, fired_startedBy, List.append_nil]
      exact ih
    | cancelAll _ =>
      have hran : y.agenda.cancelAll.2.ran = y.agenda.ran := rfl
      simpa [Occurrence.fired?, hran] using ih
    | fire b past t time may =>
      rw [begin, ran_note, fired_concat, List.map_append, ← ih]
      rfl
    | proceed b past shown s ss fault =>
      rw [ran_step, fired_append, fired_occurrences, List.append_nil]
      exact ih
    | finish b past shown fault =>
      rw [ran_settle]
      exact ih
    | wait b past limit may => exact ih

/-- When actions run, at every moment of every run on a punctual loop with a delay of `d`
microseconds. The timers that fired are some of those that were armed, in the order of the arm
calls, each once and `d` microseconds after it was armed; the notes of the agenda tell their actions
and these instants. What happens while time passes is added to the past, and the clock is moved to
the end of that time; a timer whose own delay has ended by then has fired, unless all were cancelled
while it was outstanding. The clock never goes past what is outstanding. An arm call that returns
false changes nothing, and a pending key keeps the deadline that its own arm call gave it. -/
theorem actions_in_time (a : Agenda) (hnew : a.IsNew) (d : Nat)
    (hd : a.scheduler.delay.inUnits 1000000 = .ok (d : Int)) (x : Chronicle)
    (hx : a.Reaches .punctual x) :
    ((fired x.past).Sublist ((armed x.past).map (Mark.after d)) ∧
      ((armed x.past).Pairwise fun m n => m.id < n.id) ∧
      ((fired x.past).Pairwise fun m n => m.id < n.id) ∧
      x.agenda.ran = (fired x.past).map fun m => (m.task.action.label, m.time)) ∧
    (x.running = none → ∀ micros,
      a.Reaches .punctual
        ⟨(x.agenda.advance micros).2, none, x.past ++ x.agenda.advancePast micros⟩ ∧
      (x.agenda.advance micros).2.scheduler.now = x.agenda.scheduler.now + micros ∧
      ∀ m before after, x.past ++ x.agenda.advancePast micros = before ++ .armed m :: after →
        m.time + d ≤ x.agenda.scheduler.now + micros →
          .fired (m.after d) ∈ after ∨ ∃ mid k rest, after = mid ++ .cancelled k :: rest ∧
            m ∈ outstanding (before ++ .armed m :: mid)) ∧
    (∀ s action, (x.agenda.arm s action).1 = .ok false →
      (x.agenda.arm s action).2 = x.agenda) ∧
    ∀ m ∈ outstanding x.past, x.agenda.scheduler.now ≤ m.time + d ∧
      x.agenda.scheduler.deadline? m.key = some (some (m.time + d)) := by
  have h := Reaches.traced hnew hx.free
  have hsub := hx.fired_sublist hnew hd
  have hfired : (fired x.past).Pairwise fun m n => m.id < n.id :=
    List.Pairwise.sublist hsub (List.pairwise_map.2 h.ascending)
  refine ⟨⟨hsub, h.ascending, hfired, hx.ran_eq hnew⟩, fun hidle micros => ?_,
    fun s action hf => arm_refused x.agenda s action (by rw [hf]; simp), fun m hm => ?_⟩
  · obtain ⟨b, running, past⟩ := x
    cases hidle
    have hreach : a.Reaches .punctual _ := hx.trans (steps_advance b past micros)
    refine ⟨hreach, now_advance b micros, fun m before after hsplit hdue => ?_⟩
    rcases armed_cases before after m with hm | ⟨n, hn, hid⟩ | hk
    · rw [← hsplit] at hm
      exact absurd hdue (Nat.not_le.2 (hx.late_of_advance hnew hd hm))
    · -- what fired under the number of `m` is `m` itself
      have hmem : n ∈ fired (past ++ b.advancePast micros) := by
        rw [hsplit]
        exact List.mem_filterMap.2 ⟨.fired n, by simp [hn], rfl⟩
      obtain ⟨m', hm', rfl⟩ := List.mem_map.1 ((hreach.fired_sublist hnew hd).subset hmem)
      have hm : m ∈ armed (past ++ b.advancePast micros) := by
        rw [hsplit]
        exact List.mem_filterMap.2 ⟨.armed m, by simp, rfl⟩
      exact .inl ((Reaches.traced hnew hreach.free).eq_of_id_eq hm' hm hid ▸ hn)
    · exact .inr hk
  · rcases hx.inTime_or hnew hd with hin | ⟨_, _, hnone⟩
    · exact ⟨hin.now_le hm, hin.deadline_eq hm⟩
    · exact absurd hm (hnone ▸ List.not_mem_nil)

/-- Timers here wait for a second. -/
def unhurried : Agenda := { scheduler := { delay := .whole 1 } }

/-- An action armed its own key again, and the next key was armed at the same instant. -/
def unhurriedMoment : Chronicle where
  agenda :=
    { scheduler :=
        { delay := .whole 1
          pending := [(.str "k", 1), (.str "j", 2)]
          loop :=
            { now := 1000000
              next := 3
              timers :=
                [⟨1, some 2000000, ⟨.str "k", ⟨.str "k", .note "tick"⟩⟩⟩,
                  ⟨2, some 2000000, ⟨.str "j", ⟨.str "j", .note "last"⟩⟩⟩] } }
      notes := [.armed "rearm" true, .ran "tick" 1000000] }
  past :=
    [.armed ⟨0, .str "k", ⟨.str "k", .rearm "tick" (.ofText "k") 1⟩, 0⟩,
      .fired ⟨0, .str "k", ⟨.str "k", .rearm "tick" (.ofText "k") 1⟩, 1000000⟩,
      .armed ⟨1, .str "k", ⟨.str "k", .note "tick"⟩, 1000000⟩,
      .armed ⟨2, .str "j", ⟨.str "j", .note "last"⟩, 1000000⟩]

/-- What is due a second later. -/
def unhurriedEnd : List Occurrence :=
  [.fired ⟨1, .str "k", ⟨.str "k", .note "tick"⟩, 2000000⟩,
    .fired ⟨2, .str "j", ⟨.str "j", .note "last"⟩, 2000000⟩]

theorem actions_in_time_unhurried :
    unhurried.IsNew ∧ unhurried.scheduler.delay.inUnits 1000000 = .ok (1000000 : Nat) ∧
    unhurried.Reaches .punctual unhurriedMoment ∧
    (fired unhurriedMoment.past).Sublist
      ((armed unhurriedMoment.past).map (Mark.after 1000000)) ∧
    unhurriedMoment.agenda.ran = [("tick", 1000000)] ∧
    unhurriedMoment.agenda.scheduler.deadline? (.str "k") = some (some 2000000) ∧
    unhurried.Reaches .punctual ⟨(unhurriedMoment.agenda.advance 1000000).2, none,
      unhurriedMoment.past ++ unhurriedEnd⟩ ∧
    (unhurriedMoment.agenda.advance 1000000).2.scheduler.now = 2000000 ∧
    .fired ⟨2, .str "j", ⟨.str "j", .note "last"⟩, 2000000⟩ ∈ unhurriedEnd ∧
    (unhurriedMoment.agenda.advance 1000000).2.ran =
      [("tick", 1000000), ("tick", 2000000), ("last", 2000000)] := by
  have hnew : unhurried.IsNew := ⟨rfl, rfl, rfl⟩
  have hdelay : unhurried.scheduler.delay.inUnits 1000000 = .ok (1000000 : Nat) := rfl
  have harm : unhurried.Reaches .punctual _ := Relation.ReflTransGen.refl.tail
    (.arm ⟨unhurried, none, []⟩ (.ofText "k") (.rearm "tick" (.ofText "k") 1))
  have hfire := harm.tail (.fire _ _
    ⟨0, some 1000000, ⟨.str "k", ⟨.str "k", .rearm "tick" (.ofText "k") 1⟩⟩⟩ 1000000
    ⟨1000000, rfl, rfl⟩)
  have hend := (hfire.tail (.proceed _ _ _ _ _ _)).tail (.finish _ _ _ _)
  have hx : unhurried.Reaches .punctual unhurriedMoment :=
    hend.tail (.arm _ (.ofText "j") (.note "last"))
  have h := actions_in_time unhurried hnew 1000000 hdelay unhurriedMoment hx
  obtain ⟨hreach, hnow, hfired⟩ := h.2.1 rfl 1000000
  have hpast : unhurriedMoment.agenda.advancePast 1000000 = unhurriedEnd := by
    have hlimit : unhurriedMoment.agenda.scheduler.now + 1000000 = 2000000 := rfl
    have hcount : unhurriedMoment.agenda.weight = 2 := rfl
    rewrite [advancePast, hlimit, hcount]
    rfl
  rw [hpast] at hreach hfired
  have hk : (⟨1, .str "k", ⟨.str "k", .note "tick"⟩, 1000000⟩ : Mark) ∈
      outstanding unhurriedMoment.past := List.mem_cons_self
  -- nothing is cancelled meanwhile
  have hlast := (hfired ⟨2, .str "j", ⟨.str "j", .note "last"⟩, 1000000⟩
    (unhurriedMoment.past.take 3) unhurriedEnd rfl (Nat.le_refl _)).resolve_right (by
      rintro ⟨mid, k, rest, hsplit, -⟩
      have hcancel : Occurrence.cancelled k ∈ unhurriedEnd := by simp [hsplit]
      simp [unhurriedEnd] at hcancel)
  exact ⟨hnew, hdelay, hx, h.1.1, h.1.2.2.2, (h.2.2.2 _ hk).2, hreach, hnow.trans (by decide),
    hlast, rfl⟩

end Agenda
end Linkcut

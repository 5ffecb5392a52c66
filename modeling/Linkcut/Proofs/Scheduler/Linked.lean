import Linkcut.Scheduler
import Mathlib.Data.List.Nodup

/-!
Pending keys and timers. In every state that arming, cancelling and the passing of time lead to, the
pending keys of a scheduler and the timers that wait are the same list, read twice.
-/

set_option autoImplicit false

namespace Linkcut

namespace Loop

variable {α : Type}

theorem earliest_eq_none {ts : List (Timer α)} (h : earliest ts = none) :
    ∀ t ∈ ts, t.due = none := by
  induction ts with
  | nil => simp
  | cons t ts ih =>
    rw [earliest] at h
    split at h
    · rename_i hd
      intro u hu
      rcases List.mem_cons.1 hu with rfl | hu
      · exact hd
      · exact ih h u hu
    · cases h
    · split at h <;> cases h

/-- The timer that comes due first waits, and none that waits comes due before it. -/
theorem earliest_spec {ts : List (Timer α)} {d : Instant} {t : Timer α}
    (h : earliest ts = some (d, t)) :
    t ∈ ts ∧ t.due = some d ∧ ∀ u ∈ ts, ∀ e, u.due = some e → d ≤ e := by
  induction ts generalizing d t with
  | nil => cases h
  | cons u us ih =>
    rw [earliest] at h
    split at h
    · rename_i hu
      obtain ⟨hm, hd, hle⟩ := ih h
      refine ⟨List.mem_cons_of_mem _ hm, hd, fun v hv e he => ?_⟩
      rcases List.mem_cons.1 hv with rfl | hv
      · rw [hu] at he; cases he
      · exact hle v hv e he
    · rename_i c hu hnone
      cases h
      refine ⟨by simp, hu, fun v hv e he => ?_⟩
      rcases List.mem_cons.1 hv with rfl | hv
      · rw [hu] at he; cases he; exact Nat.le_refl _
      · rw [earliest_eq_none hnone v hv] at he; cases he
    · rename_i c e v hu hfirst
      obtain ⟨hm, hd, hle⟩ := ih hfirst
      split at h
      · rename_i hlt
        cases h
        refine ⟨List.mem_cons_of_mem _ hm, hd, fun w hw x hx => ?_⟩
        rcases List.mem_cons.1 hw with rfl | hw
        · rw [hu] at hx; cases hx; exact Nat.le_of_lt hlt
        · exact hle w hw x hx
      · rename_i hge
        cases h
        refine ⟨by simp, hu, fun w hw x hx => ?_⟩
        rcases List.mem_cons.1 hw with rfl | hw
        · rw [hu] at hx; cases hx; exact Nat.le_refl _
        · exact Nat.le_trans (Nat.le_of_not_lt hge) (hle w hw x hx)

/-- Of timers in the order of their due times the oldest comes due first. -/
theorem earliest_of_sorted {t : Timer α} {ts : List (Timer α)} {d : Instant} (hd : t.due = some d)
    (hs : ∀ u ∈ ts, ∀ e, u.due = some e → d ≤ e) : earliest (t :: ts) = some (d, t) := by
  rw [earliest, hd]
  cases h : earliest ts with
  | none => rfl
  | some p =>
    obtain ⟨e, u⟩ := p
    obtain ⟨hm, he, _⟩ := earliest_spec h
    exact if_neg (Nat.not_lt.2 (hs u hm e he))

end Loop

theorem find?_eq_of_unique {β : Type} {l : List β} {p : β → Bool} {b : β} (hb : b ∈ l)
    (hp : p b) (hu : ∀ c ∈ l, p c → c = b) : l.find? p = some b := by
  cases hf : l.find? p with
  | none => exact absurd hp (List.find?_eq_none.1 hf b hb)
  | some c => rw [hu c (List.mem_of_find?_eq_some hf) (List.find?_some hf)]

/-- In a list told apart by `f`, one element has the value of a given one. -/
theorem perm_filter_ne {β γ : Type} [DecidableEq γ] (f : β → γ) {l : List β}
    (hn : (l.map f).Nodup) {a : β} (ha : a ∈ l) :
    l.Perm (a :: l.filter fun b => !decide (f b = f a)) := by
  induction l with
  | nil => cases ha
  | cons b bs ih =>
    obtain ⟨hb, hbs⟩ := List.nodup_cons.1 hn
    by_cases hab : f b = f a
    · have hhead : a = b := by
        rcases List.mem_cons.1 ha with rfl | hin
        · rfl
        · exact absurd (List.mem_map.2 ⟨a, hin, hab.symm⟩) hb
      have hrest : bs.filter (fun c => !decide (f c = f a)) = bs := by
        refine List.filter_eq_self.2 fun c hc => ?_
        have hne : f c ≠ f a := fun e => hb (List.mem_map.2 ⟨c, hc, e.trans hab.symm⟩)
        simp [hne]
      rw [List.filter_cons_of_neg (by simp [hab]), hrest, hhead]
    · have hin : a ∈ bs := by
        rcases List.mem_cons.1 ha with rfl | hin
        · exact absurd rfl hab
        · exact hin
      rw [List.filter_cons_of_pos (by simp [hab])]
      exact ((ih hbs hin).cons b).trans (.swap a b _)

/-- Whether a timer can be started with the delay. -/
def Delay.starts (d : Delay) : Bool := d.startFault?.isNone

theorem Delay.starts_iff {d : Delay} : d.starts ↔ d.startFault? = none := Option.isNone_iff_eq_none

theorem Delay.starts_of_fault {d : Delay} {f : Fault} (h : d.startFault? = some f) :
    d.starts = false := by
  simp [starts, h]

namespace Scheduler

variable {κ α : Type}

/-- The pending keys are the keys of the timers that wait, each with its own timer. -/
structure Linked (s : Scheduler κ α) : Prop where
  pending : s.pending = s.loop.timers.map fun t => (t.job.key, t.id)
  keys : (s.loop.timers.map (·.job.key)).Nodup
  ids : (s.loop.timers.map (·.id)).Nodup
  fresh : ∀ t ∈ s.loop.timers, t.id < s.loop.next

theorem Linked.of_empty {s : Scheduler κ α} (hp : s.pending = []) (ht : s.loop.timers = []) :
    s.Linked := ⟨by simp [hp, ht], by simp [ht], by simp [ht], by simp [ht]⟩

theorem Linked.count_eq {s : Scheduler κ α} (h : s.Linked) :
    s.count = s.loop.timers.length := by simp [count, h.pending]

theorem timers_foldl_cancel (ps : List (κ × Nat)) (l : Loop (Job κ α)) :
    (ps.foldl (fun l p => l.cancel p.2) l).timers =
      l.timers.filter fun t => !(ps.map Prod.snd).contains t.id := by
  induction ps generalizing l with
  | nil => simp
  | cons p ps ih =>
    rw [List.foldl_cons, ih]
    simp only [Loop.cancel, List.filter_filter, List.map_cons, List.contains_cons, Bool.not_or]
    exact List.filter_congr fun t _ => Bool.and_comm _ _

theorem Linked.timers_cancelAll {s : Scheduler κ α} (h : s.Linked) : s.cancelAll.2.loop.timers = [] := by
  simp only [Scheduler.cancelAll, timers_foldl_cancel, h.pending]
  refine List.filter_eq_nil_iff.2 fun t ht => ?_
  simp only [List.map_map, Bool.not_eq_true', Bool.not_eq_false, List.contains_eq_mem,
    decide_eq_true_eq]
  exact List.mem_map.2 ⟨t, ht, rfl⟩

theorem Linked.cancelAll {s : Scheduler κ α} (h : s.Linked) : s.cancelAll.2.Linked :=
  .of_empty rfl h.timers_cancelAll

theorem Linked.passTo {s : Scheduler κ α} (h : s.Linked) (limit : Instant) :
    (s.passTo limit).Linked := ⟨h.pending, h.keys, h.ids, h.fresh⟩

/-- A timer that waits is told apart by its key as by its number. -/
theorem Linked.key_eq_iff {s : Scheduler κ α} (h : s.Linked) {t v : Timer (Job κ α)} (ht : t ∈ s.loop.timers)
    (hv : v ∈ s.loop.timers) : v.job.key = t.job.key ↔ v.id = t.id := by
  constructor
  · intro e
    rw [List.inj_on_of_nodup_map h.keys hv ht e]
  · intro e
    rw [List.inj_on_of_nodup_map h.ids hv ht e]

/-- The timer that starts comes last. -/
theorem enter_eq (s : Scheduler κ α) (k : κ) (a : α) : s.enter k a = { s with
    pending := s.pending ++ [(k, s.loop.next)]
    loop := { s.loop with
      next := s.loop.next + 1
      timers := s.loop.timers ++ [⟨s.loop.next, s.delay.wait.map (s.loop.now + ·), ⟨k, a⟩⟩] } } :=
  rfl

@[simp] theorem count_enter (s : Scheduler κ α) (k : κ) (a : α) :
    (s.enter k a).count = s.count + 1 := by
  simp [enter_eq, count]

variable [DecidableEq κ] {s u : Scheduler κ α} {k : κ} {a : α} {limit : Instant}

theorem Linked.isArmed_iff (h : s.Linked) :
    s.isArmed k ↔ k ∈ s.loop.timers.map (·.job.key) := by
  simp [isArmed, h.pending]

/-- The deadline of a pending key is that of its timer. -/
theorem Linked.deadline?_of_timer (h : s.Linked) {t : Timer (Job κ α)}
    (ht : t ∈ s.loop.timers) : s.deadline? t.job.key = some t.due := by
  have hpending : (t.job.key, t.id) ∈ s.pending := by
    rw [h.pending]
    exact List.mem_map.2 ⟨t, ht, rfl⟩
  have hkeys : (s.pending.map Prod.fst).Nodup := by
    rw [h.pending, List.map_map]
    exact h.keys
  have hfind : s.pending.find? (fun p => decide (p.1 = t.job.key)) = some (t.job.key, t.id) := by
    refine find?_eq_of_unique hpending (by simp) fun p hp e => ?_
    exact List.inj_on_of_nodup_map hkeys hp hpending (of_decide_eq_true e)
  have hfound : s.loop.timers.find? (·.id == t.id) = some t := by
    refine find?_eq_of_unique ht (by simp) fun v hv e => ?_
    exact List.inj_on_of_nodup_map h.ids hv ht (beq_iff_eq.1 e)
  change (s.pending.find? fun p => decide (p.1 = t.job.key)).bind
    (fun p => (s.loop.timers.find? (·.id == p.2)).bind fun v => some v.due) = _
  rw [hfind]
  change (s.loop.timers.find? (·.id == t.id)).bind (fun v => some v.due) = _
  rw [hfound]
  rfl

theorem deadline?_of_not_armed (h : s.isArmed k = false) : s.deadline? k = none := by
  have hnone : s.pending.find? (fun p => decide (p.1 = k)) = none := by
    rw [List.find?_eq_none]
    exact List.any_eq_false.1 h
  change (s.pending.find? fun p => decide (p.1 = k)).bind _ = none
  rw [hnone]
  rfl

theorem arm_of_armed (h : s.isArmed k) : s.arm k a = (.ok false, s) := by simp [arm, h]

theorem arm_of_fault {f : Fault} (h : s.isArmed k = false) (hf : s.delay.startFault? = some f) :
    s.arm k a = (.error f, s) := by
  simp [arm, h, hf]

/-- Where no timer can be started an arm call changes nothing, whatever it answers. -/
theorem arm_of_startFault {f : Fault} (hf : s.delay.startFault? = some f) : (s.arm k a).2 = s := by
  cases hk : s.isArmed k with
  | true => rw [arm_of_armed hk]
  | false => rw [arm_of_fault hk hf]

theorem arm_of_free (h : s.isArmed k = false) (hs : s.delay.startFault? = none) :
    s.arm k a = (.ok true, s.enter k a) := by
  simp [arm, h, hs]

/-- An arm call leaves everything as it is, or a timer starts for a key that was not pending. -/
theorem arm_invariant (inv : Scheduler κ α → Prop) (hsame : inv s)
    (hnew : s.isArmed k = false → s.delay.startFault? = none → inv (s.enter k a)) :
    inv (s.arm k a).2 := by
  cases hk : s.isArmed k with
  | true => rwa [arm_of_armed hk]
  | false =>
    cases hf : s.delay.startFault? with
    | some f => rwa [arm_of_fault hk hf]
    | none =>
      rw [arm_of_free hk hf]
      exact hnew hk hf

theorem now_arm : (s.arm k a).2.now = s.now :=
  arm_invariant (fun u => u.now = s.now) rfl fun _ _ => rfl

theorem delay_arm : (s.arm k a).2.delay = s.delay :=
  arm_invariant (fun u => u.delay = s.delay) rfl fun _ _ => rfl

theorem Linked.enter (h : s.Linked) (hk : s.isArmed k = false) : (s.enter k a).Linked := by
  have hnew : k ∉ s.loop.timers.map (·.job.key) := fun c => by
    rw [← h.isArmed_iff, hk] at c; cases c
  rw [enter_eq]
  refine ⟨by simp [h.pending], ?_, ?_, ?_⟩
  · simp only [List.map_append, List.map_cons, List.map_nil]
    refine List.nodup_append.2 ⟨h.keys, by simp, ?_⟩
    intro x hx y hy e
    rw [List.mem_singleton.1 hy] at e
    exact hnew (e ▸ hx)
  · simp only [List.map_append, List.map_cons, List.map_nil]
    refine List.nodup_append.2 ⟨h.ids, by simp, ?_⟩
    intro x hx y hy e
    rw [List.mem_singleton.1 hy] at e
    obtain ⟨t, ht, rfl⟩ := List.mem_map.1 hx
    have := h.fresh t ht
    omega
  · intro t ht
    rcases List.mem_append.1 ht with ht | ht
    · have := h.fresh t ht
      simp only
      omega
    · rw [List.mem_singleton.1 ht]
      exact Nat.lt_succ_self _

theorem Linked.arm (h : s.Linked) : (s.arm k a).2.Linked :=
  arm_invariant Linked h fun hk _ => h.enter hk

theorem isArmed_enter (k j : κ) (a : α) :
    (s.enter k a).isArmed j = (decide (j = k) || s.isArmed j) := by
  rw [enter_eq]
  by_cases hj : j = k
  · simp [isArmed, hj]
  · simp [isArmed, hj, Ne.symm hj]

/-- An armed key is pending, if a timer can be started, and the other ones stay as they are. -/
@[simp] theorem isArmed_arm (k j : κ) (a : α) :
    (s.arm k a).2.isArmed j = ((decide (j = k) && s.delay.starts) || s.isArmed j) := by
  cases hf : s.delay.startFault? with
  | some f => simp [arm_of_startFault hf, Delay.starts_of_fault hf]
  | none =>
    rw [Delay.starts_iff.2 hf, Bool.and_true]
    cases hk : s.isArmed k with
    | true =>
      rw [arm_of_armed hk]
      by_cases hj : j = k
      · simp [hj, hk]
      · simp [hj]
    | false => rw [arm_of_free hk hf, isArmed_enter]

/-- A timer that waits starts to fire: it leaves the loop, and its key the pending ones. -/
def letFire (s : Scheduler κ α) (t : Timer (Job κ α)) (time : Instant) : Scheduler κ α :=
  { s with
    pending := s.pending.filter fun p => !decide (p.1 = t.job.key)
    loop := { s.loop with now := time, timers := s.loop.timers.filter (·.id != t.id) } }

theorem Linked.letFire (h : s.Linked) {t : Timer (Job κ α)} (hm : t ∈ s.loop.timers)
    (time : Instant) : (s.letFire t time).Linked ∧ (s.letFire t time).count + 1 = s.count := by
  -- the scheduler lets go of a key and the loop of a number, which say the same here
  have hlink : s.pending.filter (fun p => !decide (p.1 = t.job.key)) =
      (s.loop.timers.filter (·.id != t.id)).map fun t => (t.job.key, t.id) := by
    rw [h.pending, List.filter_map]
    congr 1
    refine List.filter_congr fun v hv => ?_
    simp only [Function.comp_apply, h.key_eq_iff hm hv]
    by_cases he : v.id = t.id <;> simp [he]
  have hsub := List.filter_sublist (p := (·.id != t.id)) (l := s.loop.timers)
  have hu : (s.letFire t time).Linked :=
    ⟨hlink, (hsub.map _).nodup h.keys, (hsub.map _).nodup h.ids,
      fun v hv => h.fresh v (List.mem_of_mem_filter hv)⟩
  refine ⟨hu, ?_⟩
  have hlen := (perm_filter_ne (fun v : Timer (Job κ α) => v.id) h.ids hm).length_eq
  have hsame : s.loop.timers.filter (fun v => !decide (v.id = t.id)) =
      s.loop.timers.filter (·.id != t.id) :=
    List.filter_congr fun v _ => by by_cases he : v.id = t.id <;> simp [he]
  rw [hu.count_eq, h.count_eq, hlen, hsame]
  rfl

/-- What `popDue` gives, when it gives something: the timer that comes due first starts to fire. -/
theorem popDue_eq_some {job : Job κ α} (hp : s.popDue limit = some (job, u)) :
    ∃ d t, Loop.earliest s.loop.timers = some (d, t) ∧ d ≤ limit ∧ t.job = job ∧
      u = s.letFire t (max s.loop.now d) := by
  unfold popDue Loop.popDue at hp
  split at hp
  · cases hp
  · rename_i job' l hl
    split at hl
    · cases hl
    · rename_i d t ht
      split at hl
      · rename_i hd
        cases hl
        cases hp
        exact ⟨d, t, ht, hd, rfl, rfl⟩
      · cases hl

theorem popDue_of_earliest {d : Instant} {t : Timer (Job κ α)}
    (ht : Loop.earliest s.loop.timers = some (d, t)) (hd : d ≤ limit) :
    s.popDue limit = some (t.job, s.letFire t (max s.loop.now d)) := by
  simp only [popDue, Loop.popDue, ht, if_pos hd]
  rfl

/-- Nothing is due by `limit` when the timer that comes due first is not. -/
theorem popDue_eq_none_iff :
    s.popDue limit = none ↔ ∀ d t, Loop.earliest s.loop.timers = some (d, t) → limit < d := by
  cases ht : Loop.earliest s.loop.timers with
  | none => simp [popDue, Loop.popDue, ht]
  | some p =>
    obtain ⟨d, t⟩ := p
    by_cases hd : d ≤ limit
    · simp [popDue_of_earliest ht hd, hd]
    · simp [popDue, Loop.popDue, ht, hd, Nat.not_le.1 hd]

theorem Linked.popDue (h : s.Linked) {job : Job κ α} (hp : s.popDue limit = some (job, u)) :
    u.Linked ∧ u.count + 1 = s.count := by
  obtain ⟨d, t, ht, _, _, rfl⟩ := popDue_eq_some hp
  exact h.letFire (Loop.earliest_spec ht).1 _

theorem delay_popDue {job : Job κ α} (hp : s.popDue limit = some (job, u)) :
    u.delay = s.delay := by
  obtain ⟨d, t, _, _, _, rfl⟩ := popDue_eq_some hp
  rfl

/-- A key is pending no more when its timer fires; the other ones stay as they are. -/
theorem isArmed_popDue {job : Job κ α} (hp : s.popDue limit = some (job, u)) (j : κ) :
    u.isArmed j = (decide (j ≠ job.key) && s.isArmed j) := by
  obtain ⟨d, t, _, _, rfl, rfl⟩ := popDue_eq_some hp
  simp only [isArmed, letFire, List.any_filter]
  by_cases hj : j = t.job.key
  · simp [hj]
  · simp only [ne_eq, hj, not_false_eq_true, decide_true, Bool.true_and]
    refine List.any_congr rfl fun p => ?_
    by_cases hp : p.1 = j
    · simp [hp, hj]
    · simp [hp]

end Scheduler
end Linkcut

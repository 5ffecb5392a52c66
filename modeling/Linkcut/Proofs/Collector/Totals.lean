import Linkcut.Proofs.Exposition.Exported
import Mathlib.Algebra.BigOperators.Group.List.Basic
import Mathlib.Algebra.Ring.Int.Defs

/-!
What counters stand at. Nine calls count, two add amounts, and a call that fails leaves the
collector as it is. After any updates each counter stands at the number of the calls that own it, or
at the sum of what they added, whatever their order was.
-/

set_option autoImplicit false

namespace Linkcut.Collector

/-- The calls that count one each. -/
def countingNames : List String :=
  ["increment_connections_accepted", "increment_connections_closed",
   "increment_sessions_established", "increment_sessions_closed", "increment_probes_sent",
   "increment_probes_failed", "increment_force_disconnect_signals", "increment_duplicate_signals",
   "increment_sweeps_executed"]

/-- The calls that add an amount. -/
def addingNames : List String := ["add_connections_destroyed", "add_sweeps_cancelled"]

/-- An update has the arguments that its call takes. What is added is a whole number, or nothing
that can be added to one. -/
inductive IsUpdate : String × List Value → Prop
  | count {name : String} (h : name ∈ countingNames) : IsUpdate (name, [])
  | add {name : String} (h : name ∈ addingNames) {v : Value} (hv : ∀ x, v ≠ .float x) :
    IsUpdate (name, [v])

/-- What an update with these arguments adds, if it is accepted: one, or the amount given. -/
def amount? : List Value → Option Int
  | [] => some 1
  | .int n :: _ => some n
  | .bool b :: _ => some (if b then 1 else 0)
  | _ :: _ => none

/-- How many calls have a name. -/
def callsOf (name : String) (calls : List (String × List Value)) : Int :=
  (calls.countP fun k => k.1 == name : Nat)

/-- The sum of the amounts that were accepted from calls of a name. -/
def sumOf (name : String) (calls : List (String × List Value)) : Int :=
  ((calls.filter fun k => k.1 == name).filterMap fun k => amount? k.2).sum

/-- The names of a snapshot, in order, and what the calls that own them came to. -/
def totals (calls : List (String × List Value)) : List (String × Int) :=
  [("connections_accepted", callsOf "increment_connections_accepted" calls),
   ("connections_closed", callsOf "increment_connections_closed" calls),
   ("connections_destroyed", sumOf "add_connections_destroyed" calls),
   ("sessions_established", callsOf "increment_sessions_established" calls),
   ("sessions_closed", callsOf "increment_sessions_closed" calls),
   ("probes_sent", callsOf "increment_probes_sent" calls),
   ("probes_failed", callsOf "increment_probes_failed" calls),
   ("force_disconnect_signals", callsOf "increment_force_disconnect_signals" calls),
   ("force_disconnect_duplicates", callsOf "increment_duplicate_signals" calls),
   ("sweeps_executed", callsOf "increment_sweeps_executed" calls),
   ("sweeps_cancelled", sumOf "add_sweeps_cancelled" calls)]

/-- What a call adds to a counter. -/
def credit (c : Counter) (k : String × List Value) : Int :=
  if k.1 = ownerName c then (amount? k.2).getD 0 else 0

theorem ownerName_inj {c d : Counter} (h : ownerName c = ownerName d) : c = d := by
  have hnodup : (Counter.all.map ownerName).Nodup := by decide
  exact List.inj_on_of_nodup_map hnodup (Counter.mem_all c) (Counter.mem_all d) h

theorem exists_counting {name : String} (h : name ∈ countingNames) :
    ∃ c, name = ownerName c ∧ callNamed? name = some (.increment c) := by
  have hall : ∀ name ∈ countingNames, ∃ c ∈ Counter.all, name = ownerName c ∧
      callNamed? name = some (.increment c) := by decide
  obtain ⟨c, -, hc⟩ := hall name h
  exact ⟨c, hc⟩

theorem exists_adding {name : String} (h : name ∈ addingNames) :
    ∃ c, name = ownerName c ∧ callNamed? name = some (.add c) := by
  have hall : ∀ name ∈ addingNames, ∃ c ∈ Counter.all, name = ownerName c ∧
      callNamed? name = some (.add c) := by decide
  obtain ⟨c, -, hc⟩ := hall name h
  exact ⟨c, hc⟩

/-- A call that fails changes nothing, whatever it is called with. -/
theorem call_snd_of_error {t : Collector} {name : String} {args : List Value} {f : Fault}
    (h : (t.call name args).1 = .error f) : (t.call name args).2 = t := by
  generalize hanswer : t.call name args = answer at h ⊢
  unfold call at hanswer
  split at hanswer
  · exact hanswer ▸ rfl
  · split at hanswer
    · cases hanswer
      cases h
    · exact hanswer ▸ rfl
  · exact hanswer ▸ rfl
  · exact hanswer ▸ rfl
  · exact hanswer ▸ rfl
  · exact hanswer ▸ rfl
  · split at hanswer
    · cases hanswer
      cases h
    · exact hanswer ▸ rfl
  · exact hanswer ▸ rfl

/-- An amount is added to a counter that stands at a whole number. -/
theorem add_of_amount {t : Collector} {c : Counter} {m n : Int} (hm : t.get c = .whole m)
    {v : Value} (hv : amount? [v] = some n) :
    t.add c v = .ok (t.modify c fun _ => .whole (m + n)) := by
  cases v with
  | int k =>
    cases hv
    simp only [add, Amount.ofValue?, hm]
    rfl
  | bool b =>
    cases hv
    simp only [add, Amount.ofValue?, hm]
    rfl
  | _ => cases hv

theorem add_of_no_amount {t : Collector} {c : Counter} {m : Int} (hm : t.get c = .whole m)
    {v : Value} (hv : amount? [v] = none) (hfloat : ∀ x, v ≠ .float x) :
    t.add c v = .error (.badOperand "+=" "int" v.type) := by
  have hnone : Amount.ofValue? v = none := by
    cases v with
    | float x => exact absurd rfl (hfloat x)
    | int k => cases hv
    | bool b => cases hv
    | _ => rfl
  simp only [add, hnone, hm]
  rfl

/-- An update goes to the counter that it owns: its amount is added, or there is none and nothing
changes. -/
theorem call_of_isUpdate {t : Collector} (ht : t.IsWhole) {k : String × List Value}
    (hk : IsUpdate k) : ∃ c m, k.1 = ownerName c ∧ t.get c = .whole m ∧
      ((∃ n, amount? k.2 = some n ∧
          t.call k.1 k.2 = (.ok .none, t.modify c fun _ => .whole (m + n))) ∨
        (amount? k.2 = none ∧
          ∃ type, t.call k.1 k.2 = (.error (.badOperand "+=" "int" type), t))) := by
  cases hk with
  | count h =>
    obtain ⟨c, hname, hcall⟩ := exists_counting h
    obtain ⟨m, hm⟩ := ht c
    have hadd : t.add c (.int 1) = _ := add_of_amount hm rfl
    exact ⟨c, m, hname, hm, .inl ⟨1, rfl, by simp only [call, hcall, hadd]⟩⟩
  | @add name h v hv =>
    obtain ⟨c, hname, hcall⟩ := exists_adding h
    obtain ⟨m, hm⟩ := ht c
    refine ⟨c, m, hname, hm, ?_⟩
    cases hn : amount? [v] with
    | some n => exact .inl ⟨n, rfl, by simp only [call, hcall, add_of_amount hm hn]⟩
    | none => exact .inr ⟨rfl, v.type, by simp only [call, hcall, add_of_no_amount hm hn hv]⟩

theorem get_call {t : Collector} (ht : t.IsWhole) {k : String × List Value} (hk : IsUpdate k)
    {d : Counter} {n : Int} (hd : t.get d = .whole n) :
    (t.call k.1 k.2).2.get d = .whole (n + credit d k) := by
  obtain ⟨c, m, hname, hm, hcases⟩ := call_of_isUpdate ht hk
  by_cases hdc : d = c
  · subst hdc
    obtain rfl : n = m := by simpa [hd] using hm
    rcases hcases with ⟨a, ha, hcall⟩ | ⟨ha, type, hcall⟩
    · rw [hcall, credit, if_pos hname, ha]
      simp
    · rw [hcall, credit, if_pos hname, ha]
      simp [hd]
  · have hcredit : credit d k = 0 := if_neg fun h => hdc (ownerName_inj (h.symm.trans hname))
    rw [hcredit, Int.add_zero]
    rcases hcases with ⟨a, -, hcall⟩ | ⟨-, type, hcall⟩
    · simp [hcall, hdc, hd]
    · simp [hcall, hd]

theorem after_concat (calls : List (String × List Value)) (k : String × List Value) :
    after (calls ++ [k]) = ((after calls).call k.1 k.2).2 := by
  simp [after]

theorem IsUpdate.no_float {k : String × List Value} (h : IsUpdate k) :
    ∀ v ∈ k.2, ∀ x, v ≠ .float x := by
  cases h with
  | count _ => simp
  | add _ hv => simpa using hv

variable {calls : List (String × List Value)}

/-- Every counter stands at the sum of what the calls added to it. -/
theorem get_after (h : ∀ k ∈ calls, IsUpdate k) (c : Counter) :
    (after calls).get c = .whole (calls.map (credit c)).sum := by
  induction calls using List.reverseRecOn with
  | nil => simp [after, empty]
  | append_singleton calls k ih =>
    have hcalls : ∀ k ∈ calls, IsUpdate k := fun j hj => h j (List.mem_append_left _ hj)
    have hwhole := isWhole_after fun j hj => (hcalls j hj).no_float
    rw [after_concat, get_call hwhole (h k (by simp)) (ih hcalls)]
    simp

theorem sum_credit_counting (h : ∀ k ∈ calls, IsUpdate k) {c : Counter}
    (hc : ownerName c ∈ countingNames) :
    (calls.map (credit c)).sum = callsOf (ownerName c) calls := by
  have hdisjoint : ∀ name ∈ addingNames, name ∉ countingNames := by decide
  induction calls with
  | nil => rfl
  | cons k calls ih =>
    rw [List.map_cons, List.sum_cons, ih fun j hj => h j (List.mem_cons_of_mem _ hj)]
    by_cases hk : k.1 = ownerName c
    · have hone : amount? k.2 = some 1 := by
        cases h k List.mem_cons_self with
        | count _ => rfl
        | add hadding _ =>
          rw [← hk] at hc
          exact absurd hc (hdisjoint _ hadding)
      simp [callsOf, credit, hk, hone, Int.add_comm]
    · simp [callsOf, credit, hk]

theorem sum_credit (calls : List (String × List Value)) (c : Counter) :
    (calls.map (credit c)).sum = sumOf (ownerName c) calls := by
  induction calls with
  | nil => rfl
  | cons k calls ih =>
    rw [List.map_cons, List.sum_cons, ih]
    by_cases hk : k.1 = ownerName c
    · cases hn : amount? k.2 with
      | none => simp [sumOf, credit, hk, hn]
      | some n => simp [sumOf, credit, hk, hn]
    · simp [sumOf, credit, hk]

theorem report_after (h : ∀ k ∈ calls, IsUpdate k) :
    (after calls).report = .ofFields ((totals calls).map fun e => (e.1, .int e.2)) := by
  have hcounted : ∀ c, ownerName c ∈ countingNames →
      (after calls).get c = .whole (callsOf (ownerName c) calls) := fun c hc => by
    rw [get_after h, sum_credit_counting h hc]
  have hadded : ∀ c, (after calls).get c = .whole (sumOf (ownerName c) calls) := fun c => by
    rw [get_after h, sum_credit]
  rw [report, Counters.snapshot]
  simp only [Counter.all, List.map_cons, List.map_nil, totals, hadded .destroyed, hadded .cancelled,
    hcounted .accepted (by decide), hcounted .closed (by decide),
    hcounted .established (by decide), hcounted .ended (by decide),
    hcounted .probesSent (by decide), hcounted .probesFailed (by decide),
    hcounted .signals (by decide), hcounted .duplicates (by decide),
    hcounted .executed (by decide)]
  rfl

theorem totals_perm {calls' : List (String × List Value)} (h : calls.Perm calls') :
    totals calls = totals calls' := by
  have hcount : ∀ name, callsOf name calls = callsOf name calls' := fun name => by
    rw [callsOf, callsOf, h.countP_eq]
  have hsum : ∀ name, sumOf name calls = sumOf name calls' := fun name =>
    ((h.filter _).filterMap _).sum_eq
  simp only [totals, hcount, hsum]

/-- After any updates the snapshot shows, for every name, how many calls own it, or what they added
up to. An update is refused if and only if there is no amount in it, and whatever call fails changes
nothing. The same updates in any other order give the same snapshot. -/
theorem counters_exact (calls : List (String × List Value)) (h : ∀ k ∈ calls, IsUpdate k) :
    (after calls).call "get_snapshot" [] =
        (.ok (.ofFields ((totals calls).map fun e => (e.1, .int e.2))), after calls) ∧
      (∀ before k, before ++ [k] <+: calls →
        match amount? k.2 with
        | some _ => ((after before).call k.1 k.2).1 = .ok .none
        | none => ∃ f, f.kind = .typeError ∧ ((after before).call k.1 k.2).1 = .error f) ∧
      (∀ (t : Collector) (name : String) (args : List Value) (f : Fault),
        (t.call name args).1 = .error f → (t.call name args).2 = t) ∧
      ∀ calls', calls'.Perm calls →
        ((after calls').call "get_snapshot" []).1 = ((after calls).call "get_snapshot" []).1 := by
  have hsnapshot : ∀ t : Collector, t.call "get_snapshot" [] = (.ok t.report, t) := fun t => rfl
  refine ⟨by rw [hsnapshot, report_after h], fun before k hbefore => ?_,
    fun t name args f => call_snd_of_error, fun calls' hperm => ?_⟩
  · have hmem : ∀ j ∈ before ++ [k], IsUpdate j := fun j hj => h j (hbefore.subset hj)
    have hwhole : (after before).IsWhole :=
      isWhole_after fun j hj => (hmem j (List.mem_append_left _ hj)).no_float
    obtain ⟨c, m, -, -, ⟨n, hn, hcall⟩ | ⟨hn, type, hcall⟩⟩ :=
      call_of_isUpdate hwhole (hmem k (by simp))
    · rw [hn, hcall]
    · rw [hn, hcall]
      exact ⟨_, rfl, rfl⟩
  · have h' : ∀ k ∈ calls', IsUpdate k := fun k hk => h k (hperm.mem_iff.1 hk)
    rw [hsnapshot, hsnapshot, report_after h', report_after h, totals_perm hperm]

/-- Counts and amounts among each other, with a negative amount, a truth value and a text. -/
def assorted : List (String × List Value) :=
  [("increment_sessions_closed", []), ("add_sweeps_cancelled", [.int (-3)]),
   ("add_connections_destroyed", [.str "two"]), ("increment_duplicate_signals", []),
   ("add_sweeps_cancelled", [.bool true]), ("increment_sessions_closed", [])]

theorem assorted_isUpdate : ∀ k ∈ assorted, IsUpdate k := by
  simp only [assorted, List.forall_mem_cons]
  refine ⟨.count (by decide), .add (by decide) (by simp), .add (by decide) (by simp),
    .count (by decide), .add (by decide) (by simp), .count (by decide), by simp⟩

theorem counters_exact_assorted :
    (∀ k ∈ assorted, IsUpdate k) ∧
    totals assorted =
      [("connections_accepted", 0), ("connections_closed", 0), ("connections_destroyed", 0),
       ("sessions_established", 0), ("sessions_closed", 2), ("probes_sent", 0),
       ("probes_failed", 0), ("force_disconnect_signals", 0), ("force_disconnect_duplicates", 1),
       ("sweeps_executed", 0), ("sweeps_cancelled", -2)] ∧
    ((after assorted).call "get_snapshot" []).1 =
      .ok (.ofFields ((totals assorted).map fun e => (e.1, .int e.2))) ∧
    ((after assorted.reverse).call "get_snapshot" []).1 =
      ((after assorted).call "get_snapshot" []).1 := by
  obtain ⟨hsnapshot, -, -, hperm⟩ := counters_exact assorted assorted_isUpdate
  exact ⟨assorted_isUpdate, by decide, by rw [hsnapshot], hperm _ assorted.reverse_perm⟩

end Linkcut.Collector

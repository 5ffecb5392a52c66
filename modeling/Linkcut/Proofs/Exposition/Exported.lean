import Linkcut.Collector
import Linkcut.Proofs.Exposition.Scrape

/-!
What a scrape keeps of a collector. The text of a scrape determines the nine counters that metrics
show, and no other counter: of the sessions that ended and of the sweeps that were cancelled it says
nothing.
-/

set_option autoImplicit false

namespace Linkcut

open Exposition

/-- Texts with a mark behind them are told apart when there is no mark in them. -/
theorem Text.append_mark_inj {mark : Char} {cs ds rs us : List Char} (hcs : mark ∉ cs)
    (hds : mark ∉ ds) (h : cs ++ mark :: rs = ds ++ mark :: us) : cs = ds ∧ rs = us := by
  have hsplit := splitFirst_append hcs rs
  rw [h, splitFirst_append hds] at hsplit
  obtain ⟨hcs, hrs⟩ := Prod.mk.inj (Option.some.inj hsplit)
  exact ⟨hcs.symm, hrs.symm⟩

namespace Exposition

theorem mem_exported (k : Counter) : k ∈ exported ↔ k ≠ .ended ∧ k ≠ .cancelled := by
  cases k <;> decide

section

variable (scope : Value)

/-- The text of samples, a line break after each line. -/
def block (ss : List Sample) : List Char :=
  (ss.flatMap (Sample.lines scope)).flatMap fun l => l.toList ++ ['\n']

theorem block_append (ss us : List Sample) :
    block scope (ss ++ us) = block scope ss ++ block scope us := by
  simp [block]

/-- What stands before the value of a metric. -/
def preamble (m : Metric) : List Char :=
  let name := scope.show ++ "_" ++ m.name
  ("# HELP " ++ name ++ " " ++ m.help).toList ++ '\n' ::
    (("# TYPE " ++ name ++ " " ++ m.type.text).toList ++ '\n' :: (name ++ " ").toList)

theorem block_reading (m : Metric) (n : Int) (us : List Sample) :
    block scope ((m.reading n).sample :: us) =
      preamble scope m ++ (n.repr.toList ++ '\n' :: block scope us) := by
  have hlines : (m.reading n).sample.lines scope =
      ["# HELP " ++ (scope.show ++ "_" ++ m.name) ++ " " ++ m.help,
       "# TYPE " ++ (scope.show ++ "_" ++ m.name) ++ " " ++ m.type.text,
       scope.show ++ "_" ++ m.name ++ " " ++ n.repr] := rfl
  rw [block, List.flatMap_cons, hlines, List.flatMap_append, ← block, preamble]
  simp only [List.flatMap_cons, List.flatMap_nil, String.toList_append, List.append_assoc,
    List.cons_append, List.nil_append]

/-- The text tells the values of metrics apart. -/
theorem block_readings_inj {ms : List Metric} {ns ps : List Int} (hns : ns.length = ms.length)
    (hps : ps.length = ms.length)
    (h : block scope ((ms.zipWith Metric.reading ns).map Reading.sample) =
      block scope ((ms.zipWith Metric.reading ps).map Reading.sample)) : ns = ps := by
  have hline : ∀ n : Int, '\n' ∉ n.repr.toList := fun n =>
    Text.not_mem_repr n (by decide) (by decide)
  induction ms generalizing ns ps with
  | nil => rw [List.length_eq_zero_iff.1 hns, List.length_eq_zero_iff.1 hps]
  | cons m ms ih =>
    obtain ⟨n, ns, rfl⟩ := List.exists_cons_of_length_eq_add_one hns
    obtain ⟨p, ps, rfl⟩ := List.exists_cons_of_length_eq_add_one hps
    simp only [List.zipWith_cons_cons, List.map_cons, block_reading, List.append_cancel_left_eq] at h
    obtain ⟨hvalue, hrest⟩ := Text.append_mark_inj (hline n) (hline p) h
    rw [Text.repr_inj (String.toList_inj.1 hvalue),
      ih (Nat.succ.inj hns) (Nat.succ.inj hps) hrest]

end

/-- The samples of a dictionary that has a report under `metrics`. -/
theorem samples_dict {es : List (Value × Value)} {t : Collector} {n : Counter → Int}
    (ht : ∀ k, t.get k = .whole (n k)) (hes : Value.find? "metrics" es = some t.report)
    {clock : Value} {time : Int} (hclock : clock.toWhole = .ok time) :
    samples (.dict es) clock = .ok ((gauges.map fun m =>
        (⟨.str m.name, (Value.find? m.figure es).getD (.int 0), .str m.help, m.type⟩ : Sample)) ++
      (counters.zipWith Metric.reading (exported.map n)).map Reading.sample ++
        [(stamp time).sample]) := by
  have hreport : (Value.dict es).entry "metrics" (.dict []) = .ok t.report := by
    rw [Value.entry, hes]
    rfl
  refine samples_eq hreport rfl (mapM_counters fun k => ?_) hclock
  rw [lookup_map_snd, Counters.lookup_snapshot, ht]
  rfl

end Exposition

namespace Collector

/-- A collector after calls, from when it was new. -/
def after (calls : List (String × List Value)) : Collector :=
  calls.foldl (fun t k => (t.call k.1 k.2).2) empty

/-- Nothing but whole amounts was ever added. -/
def IsWhole (t : Collector) : Prop := ∀ k, ∃ n, t.get k = .whole n

variable {t : Collector}

theorem IsWhole.add (h : t.IsWhole) {c : Counter} {v : Value} (hv : ∀ x, v ≠ .float x)
    {u : Collector} (hu : t.add c v = .ok u) : u.IsWhole := by
  obtain ⟨n, hn⟩ := h c
  have hwhole : ∀ b, Amount.ofValue? v = some b → ∃ m, b = .whole m := by
    intro b hb
    cases v with
    | float x => exact absurd rfl (hv x)
    | int m => exact ⟨m, (Option.some.inj hb).symm⟩
    | bool b => exact ⟨_, (Option.some.inj hb).symm⟩
    | _ => cases hb
  unfold Collector.add at hu
  cases hb : Amount.ofValue? v with
  | none =>
    rw [hb] at hu
    cases hu
  | some b =>
    obtain ⟨m, rfl⟩ := hwhole b hb
    rw [hb, hn] at hu
    cases hu
    intro k
    rw [Counters.get_modify]
    split
    · exact ⟨n + m, rfl⟩
    · exact h k

theorem IsWhole.call (h : t.IsWhole) (name : String) {args : List Value}
    (hargs : ∀ v ∈ args, ∀ x, v ≠ .float x) : (t.call name args).2.IsWhole := by
  -- two kinds of calls add an amount; any other leaves the collector as it is
  unfold Collector.call
  split
  · exact h
  · split
    · rename_i hu
      exact h.add (by simp) hu
    · exact h
  · exact h
  · exact h
  · exact h
  · exact h
  · split
    · rename_i hu
      exact h.add (hargs _ (by simp)) hu
    · exact h
  · exact h

theorem isWhole_after {calls : List (String × List Value)}
    (h : ∀ k ∈ calls, ∀ v ∈ k.2, ∀ x, v ≠ .float x) : (after calls).IsWhole := by
  have hrun : ∀ t : Collector, t.IsWhole →
      (calls.foldl (fun t k => (t.call k.1 k.2).2) t).IsWhole := by
    induction calls with
    | nil => exact fun t ht => ht
    | cons k calls ih =>
      intro t ht
      exact ih (fun k' hk' => h k' (List.mem_cons_of_mem _ hk')) _
        (ht.call k.1 (h k List.mem_cons_self))
  exact hrun empty fun k => ⟨0, by simp [empty]⟩

/-- Two scrapes at one time, of figures that differ in nothing but the report of a collector: their
texts are the same if and only if no counter differs, apart from the sessions that ended and the
sweeps that were cancelled. Both texts can be had if no whole number in them is too long. -/
theorem scrapes_eq_iff (calls calls' : List (String × List Value))
    (hcalls : ∀ k ∈ calls, ∀ v ∈ k.2, ∀ x, v ≠ .float x)
    (hcalls' : ∀ k ∈ calls', ∀ v ∈ k.2, ∀ x, v ≠ .float x) (es fs : List (Value × Value))
    (hes : Value.find? "metrics" es = some (after calls).report)
    (hfs : Value.find? "metrics" fs = some (after calls').report)
    (hsame : ∀ name, name ≠ "metrics" → Value.find? name es = Value.find? name fs)
    (scope clock : Value) (time : Int) (hclock : clock.toWhole = .ok time) :
    (∀ text text', expose scope (.dict es) clock = .ok text →
      expose scope (.dict fs) clock = .ok text' →
      (text = text' ↔
        ∀ k, k ≠ .ended → k ≠ .cancelled → (after calls).get k = (after calls').get k)) ∧
    (scope.isShort usualMost → (Value.dict es).isShort usualMost →
      (Value.dict fs).isShort usualMost → isShort usualMost time →
      ∃ text text', expose scope (.dict es) clock = .ok text ∧
        expose scope (.dict fs) clock = .ok text') := by
  choose n hn using isWhole_after hcalls
  choose p hp using isWhole_after hcalls'
  have hgauges : (gauges.map fun m =>
      (⟨.str m.name, (Value.find? m.figure es).getD (.int 0), .str m.help, m.type⟩ : Sample)) =
      gauges.map fun m => ⟨.str m.name, (Value.find? m.figure fs).getD (.int 0), .str m.help,
        m.type⟩ := by
    refine List.map_congr_left fun m hm => ?_
    have hname : ∀ m ∈ gauges, m.figure ≠ "metrics" := by decide
    rw [hsame _ (hname m hm)]
  have hsamples := samples_dict hn hes hclock
  have hsamples' := samples_dict hp hfs hclock
  rw [← hgauges] at hsamples'
  refine ⟨fun text text' htext htext' => ?_,
    fun _ _ _ _ => ⟨_, _, expose_eq hsamples, expose_eq hsamples'⟩⟩
  obtain rfl := Except.ok.inj (htext.symm.trans (expose_eq hsamples))
  obtain rfl := Except.ok.inj (htext'.symm.trans (expose_eq hsamples'))
  have hcounters : (exported.map n = exported.map p) ↔
      ∀ k, k ≠ .ended → k ≠ .cancelled → (after calls).get k = (after calls').get k := by
    simp only [List.map_inj_left, mem_exported, hn, hp, Amount.whole.injEq, and_imp]
  rw [← hcounters]
  constructor
  · intro heq
    have hblock := congrArg String.toList heq
    rw [toList_render scope (by simp), toList_render scope (by simp), ← block, ← block,
      block_append, block_append, block_append, block_append] at hblock
    exact block_readings_inj scope rfl rfl
      (List.append_cancel_left (List.append_cancel_right hblock))
  · intro heq
    rw [heq]

theorem scrapes_eq_iff_busy :
    let busy := after [("increment_connections_accepted", []), ("increment_sessions_closed", [])]
    let grim := after [("add_connections_destroyed", [.int 5])]
    let es := [(Value.str "live_connections", Value.int 4), (.str "metrics", busy.report)]
    let fs := [(Value.str "metrics", grim.report), (.str "live_connections", .int 4)]
    Value.find? "metrics" es = some busy.report ∧ Value.find? "metrics" fs = some grim.report ∧
    (Value.dict es).isShort usualMost ∧ (Value.dict fs).isShort usualMost ∧
    ∃ text text', expose defaultScope (.dict es) (.int 0) = .ok text ∧
      expose defaultScope (.dict fs) (.int 0) = .ok text' ∧ text ≠ text' := by
  intro busy grim es fs
  have hsame : ∀ name, name ≠ "metrics" → Value.find? name es = Value.find? name fs := by
    intro name hname
    by_cases hlive : name = "live_connections"
    · subst hlive
      rfl
    · simp [es, fs, Value.find?, Value.isNamed, Ne.symm hname, Ne.symm hlive]
  obtain ⟨hiff, htexts⟩ := scrapes_eq_iff
    [("increment_connections_accepted", []), ("increment_sessions_closed", [])]
    [("add_connections_destroyed", [.int 5])] (by simp) (by simp) es fs rfl rfl hsame defaultScope
    (.int 0) 0 rfl
  have hes : (Value.dict es).isShort usualMost := by decide
  have hfs : (Value.dict fs).isShort usualMost := by decide
  obtain ⟨text, text', htext, htext'⟩ := htexts (by decide) hes hfs (by decide)
  refine ⟨rfl, rfl, hes, hfs, text, text', htext, htext', fun heq => ?_⟩
  exact absurd ((hiff text text' htext htext').1 heq .accepted (by decide) (by decide)) (by decide)

/-- One session has ended, three sweeps were cancelled, and the scrape is that of a new collector. -/
theorem scrape_of_silent_counters :
    let silent := after [("increment_sessions_closed", []), ("add_sweeps_cancelled", [.int 3])]
    silent.get .ended ≠ empty.get .ended ∧ silent.get .cancelled ≠ empty.get .cancelled ∧
    expose defaultScope (.dict [(.str "metrics", silent.report)]) (.int 0) =
      expose defaultScope (.dict [(.str "metrics", empty.report)]) (.int 0) :=
  ⟨by decide, by decide, rfl⟩

end Collector
end Linkcut

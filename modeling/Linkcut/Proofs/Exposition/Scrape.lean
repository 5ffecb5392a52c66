import Linkcut.Api
import Linkcut.Proofs.Controller.Agreement
import Linkcut.Proofs.Controller.Reports
import Linkcut.Proofs.Controller.Scenes
import Linkcut.Proofs.Exposition.Document

/-!
What a scrape tells. The exposition of a controller reads back as one sample for every metric, each
with the figure that is current at that moment.
-/

set_option autoImplicit false

namespace Linkcut

theorem Value.find?_fields (name : String) (fields : List (String × Value)) :
    find? name (fields.map fun f => (str f.1, f.2)) = fields.lookup name := by
  induction fields with
  | nil => rfl
  | cons f fields ih =>
    obtain ⟨n, v⟩ := f
    by_cases h : n = name
    · subst h
      simp [find?, isNamed]
    · rw [List.lookup_cons, beq_false_of_ne (Ne.symm h)]
      simp only [List.map_cons]
      rw [← ih, find?, find?, List.find?_cons_of_neg (by simpa [isNamed] using h)]

theorem Value.entry_ofFields (fields : List (String × Value)) (name : String) (absent : Value) :
    (ofFields fields).entry name absent = .ok ((fields.lookup name).getD absent) := by
  rw [ofFields, entry, find?_fields]

/-- Every counter is found under its key. -/
theorem Counters.lookup_snapshot {α : Type} (t : Counters α) (k : Counter) :
    t.snapshot.lookup k.key = some (t.get k) := by
  cases k <;> rfl

theorem lookup_map_snd {α β : Type} (f : α → β) (name : String) (l : List (String × α)) :
    (l.map fun e => (e.1, f e.2)).lookup name = (l.lookup name).map f := by
  induction l with
  | nil => rfl
  | cons e l ih =>
    obtain ⟨n, a⟩ := e
    simp only [List.map_cons, List.lookup_cons, ih]
    cases name == n <;> rfl

namespace Exposition

/-- The counters that a scrape shows, in the order of their metrics. -/
def exported : List Counter :=
  [.accepted, .closed, .destroyed, .established, .probesSent, .probesFailed, .signals, .duplicates,
   .executed]

theorem figures_counters : counters.map Metric.figure = exported.map Counter.key := rfl

/-- What a metric tells when its figure is a number. -/
def Metric.reading (m : Metric) (n : Int) : Reading := ⟨m.name, m.help, m.type, n⟩

/-- What the last metric tells. -/
def stamp (time : Int) : Reading :=
  ⟨"scrape_timestamp", "Timestamp of metrics scrape", .gauge, time⟩

/-- When there is a number under the figure of every metric, no sample takes the default. -/
theorem mapM_sample {fields : List (String × Value)} {ms : List Metric} {ns : List Int}
    (h : List.Forall₂ (fun m n => fields.lookup m.figure = some (.int n)) ms ns) :
    ms.mapM (·.sample (.ofFields fields)) =
      .ok ((ms.zipWith Metric.reading ns).map Reading.sample) := by
  induction h with
  | nil => rfl
  | @cons m n ms ns hfigure _ ih =>
    have hsample : m.sample (.ofFields fields) = .ok (m.reading n).sample := by
      rw [Metric.sample, Value.entry_ofFields, hfigure]
      rfl
    rw [List.mapM_cons, hsample, ih]
    rfl

/-- The samples of the counters, when every counter is found under its key. -/
theorem mapM_counters {tallies : List (String × Value)} {n : Counter → Int}
    (h : ∀ k, tallies.lookup k.key = some (.int (n k))) :
    counters.mapM (Metric.sample (.ofFields tallies)) =
      .ok ((counters.zipWith Metric.reading (exported.map n)).map Reading.sample) := by
  refine mapM_sample (List.forall₂_map_left_iff.1 (?_ : List.Forall₂
    (fun figure n => tallies.lookup figure = some (.int n)) (counters.map Metric.figure) _))
  rw [figures_counters, List.forall₂_map_left_iff, List.forall₂_map_right_iff, List.forall₂_same]
  exact fun k _ => h k

theorem samples_eq {figures tallies clock : Value} {gs cs : List Sample} {time : Int}
    (htallies : figures.entry "metrics" (.dict []) = .ok tallies)
    (hgs : gauges.mapM (Metric.sample figures) = .ok gs)
    (hcs : counters.mapM (Metric.sample tallies) = .ok cs) (hclock : clock.toWhole = .ok time) :
    samples figures clock = .ok (gs ++ cs ++ [(stamp time).sample]) := by
  have hstamp : scrapeSample clock = .ok (stamp time).sample := by
    rw [scrapeSample, hclock]
    rfl
  rw [samples, htallies]
  change (do
    let gs ← gauges.mapM (Metric.sample figures)
    let cs ← counters.mapM (Metric.sample tallies)
    return gs ++ cs ++ [← scrapeSample clock]) = _
  rw [hgs, hcs, hstamp]
  rfl

theorem expose_eq {figures clock scope : Value} {ss : List Sample}
    (h : samples figures clock = .ok ss) : expose scope figures clock = .ok (render scope ss) := by
  rw [expose, h]
  rfl

theorem clean_zipWith {scope : String} {ms : List Metric} (ns : List Int)
    (h : ∀ m ∈ ms, (m.reading 0).Clean scope) :
    ∀ r ∈ ms.zipWith Metric.reading ns, r.Clean scope := by
  intro r hr
  obtain ⟨i, hi, rfl⟩ := List.mem_iff_getElem.1 hr
  rw [List.getElem_zipWith]
  exact h _ (List.getElem_mem _)

end Exposition

open Exposition

namespace Api

/-- Whoever collects the figures changes nothing. -/
theorem stats_eq (a : Api) : a.stats = (a.controller.statsFields, a) := by
  rw [stats, Controller.on_collectStats]

theorem scrape_eq (a : Api) : a.scrape = (a.controller.statsFields.bind fun fields =>
    expose defaultScope (.ofFields fields) a.time, a) := by
  rw [scrape, stats_eq]
  cases a.controller.statsFields <;> rfl

theorem metrics_eq (a : Api) : a.metrics = a.controller.statsFields.bind fun fields =>
    expose defaultScope (.ofFields fields) a.time := by
  rw [metrics, scrape_eq]

end Api

namespace Controller

theorem linked_fireDue {c : Controller} (h : c.scheduler.Linked) (limit : Instant) (n : Nat) :
    (c.fireDue limit n).2.scheduler.Linked := by
  induction n generalizing c with
  | zero => exact h
  | succ n ih =>
    rw [fireDue]
    split
    · exact h
    · rename_i job u hp
      have hfired : ({ c with scheduler := u }.fire job.key).2.scheduler = u := scheduler_fire _ _
      exact ih (by rw [hfired]; exact (h.popDue hp).1)

theorem Scene.linked {c x : Controller} (hc : c.IsNew) {ks : List Command} {a : Activity}
    (hx : c.Scene ks a x) : x.scheduler.Linked := by
  have hrun : ∀ ks, (c.run ks).2.scheduler.Linked := linked_run (.of_empty hc.pending hc.timers)
  cases hx with
  | rest ks limit n => exact linked_fireDue (hrun ks) limit n
  | emitting ks => exact hrun ks
  | asked ks => exact hrun ks
  | sweeping ks limit n o ho =>
    obtain ⟨m, job, u, hp, rfl⟩ := start_of_onset ho
    exact ((linked_fireDue (hrun ks) limit m).popDue hp).1

/-- What a scrape of the controller should tell: the gauges, the counters, and the time. -/
def readings (c : Controller) (millis time : Int) : List Reading :=
  gauges.zipWith Metric.reading [c.live, c.sessions.size, c.scheduler.count, millis] ++
    counters.zipWith Metric.reading (exported.map c.tally) ++ [stamp time]

theorem samples_statsFields {c : Controller} {fields : List (String × Value)}
    (h : c.statsFields = .ok fields) {clock : Value} {time : Int}
    (hclock : clock.toWhole = .ok time) :
    ∃ millis, c.delayMillis = .ok millis ∧
      samples (.ofFields fields) clock = .ok ((c.readings millis time).map Reading.sample) := by
  obtain ⟨closing, r, hr, rfl⟩ := statsFields_eq_ok h
  obtain ⟨millis, hmillis, rfl⟩ := report_eq_ok hr
  refine ⟨millis, hmillis, ?_⟩
  rw [readings, List.map_append, List.map_append]
  refine samples_eq (Value.entry_ofFields _ _ _) (mapM_sample ?_) (mapM_counters fun k => ?_) hclock
  · exact .cons rfl (.cons rfl (.cons rfl (.cons rfl .nil)))
  · rw [lookup_map_snd, Counters.lookup_snapshot]
    rfl

theorem clean_readings (c : Controller) (millis time : Int) :
    ∀ r ∈ c.readings millis time, r.Clean "reconnect_harness" := by
  intro r hr
  simp only [readings, List.mem_append, List.mem_singleton] at hr
  rcases hr with (hr | hr) | rfl
  · exact clean_zipWith _ (by decide +kernel) r hr
  · exact clean_zipWith _ (by decide +kernel) r hr
  · exact (by decide +kernel : (stamp 0).Clean "reconnect_harness")

/-- The figures of a moment: what is tracked, live and pending, the delay, and the counters. -/
def figures (c : Controller) (millis time : Int) : List (String × Int) :=
  [("connections_live", c.live), ("sessions_active", c.sessions.size),
   ("sweeps_pending", c.scheduler.loop.timers.length), ("force_disconnect_delay_ms", millis),
   ("connections_accepted_total", c.tally .accepted), ("connections_closed_total", c.tally .closed),
   ("connections_destroyed_total", c.tally .destroyed),
   ("sessions_established_total", c.tally .established), ("probes_sent_total", c.tally .probesSent),
   ("probes_failed_total", c.tally .probesFailed),
   ("force_disconnect_signals_total", c.tally .signals),
   ("force_disconnect_duplicates_total", c.tally .duplicates),
   ("sweeps_executed_total", c.tally .executed), ("scrape_timestamp", time)]

/-- At every point of a run where the figures can be had, the scrape reads back, line by line and to
its last line break, as one sample for every metric in order, no two of one name, each after its help
and its type; and what a sample tells is the figure of that moment. -/
theorem metrics_truthful (c : Controller) (hc : c.IsNew) (ks : List Command) (a : Activity)
    (x : Controller) (hx : c.Scene ks a x) (settings : Settings) (clock : Value) (time : Int)
    (hclock : clock.toWhole = .ok time) (fields : List (String × Value))
    (hfields : x.statsFields = .ok fields) :
    ∃ (millis : Int) (text : String) (document : List Reading), x.delayMillis = .ok millis ∧
      (⟨x, settings, clock⟩ : Api).metrics = .ok text ∧
      readLines text = some (document.flatMap (Reading.lines "reconnect_harness")) ∧
      (∃ lines, text.toList.splitOn '\n' = lines ++ [[]] ∧ [] ∉ lines) ∧
      document.map (fun r => (r.name, r.help, r.type)) =
        (gauges ++ counters).map (fun m => (m.name, m.help, m.type)) ++
          [("scrape_timestamp", "Timestamp of metrics scrape", .gauge)] ∧
      (document.map (Reading.fullName "reconnect_harness")).Nodup ∧
      document.map (fun r => (r.name, r.value)) = x.figures millis time := by
  obtain ⟨millis, hmillis, hsamples⟩ := samples_statsFields hfields hclock
  have htext : (⟨x, settings, clock⟩ : Api).metrics =
      .ok (render defaultScope ((x.readings millis time).map Reading.sample)) := by
    rw [Api.metrics_eq, hfields]
    exact expose_eq hsamples
  have hread : readLines (render defaultScope ((x.readings millis time).map Reading.sample)) =
      some ((x.readings millis time).flatMap (Reading.lines "reconnect_harness")) :=
    readLines_render (by simp [readings]) (x.clean_readings millis time)
  have hpending : x.scheduler.count = x.scheduler.loop.timers.length := (hx.linked hc).count_eq
  have hnames : (x.readings millis time).map (Reading.fullName "reconnect_harness") =
      (gauges ++ counters).map (fun m => "reconnect_harness_" ++ m.name) ++
        ["reconnect_harness_scrape_timestamp"] := rfl
  refine ⟨millis, _, x.readings millis time, hmillis, htext, hread, splitOn_of_readLines hread, rfl,
    ?_, ?_⟩
  · rw [hnames]
    decide
  · rw [figures, ← hpending]
    rfl

/-- Half a second after a whole one. -/
def someTime : Value := .float (.finite false 7130316802097152 (-22))

/-- A pending sweep is left, and then a connection is made and a session comes. -/
def frailThenBusy : List Command :=
  frailRun ++ [.request (.record "b"), .connect "u" [] .delivered]

theorem metrics_truthful_frail :
    let x := (frail.run frailThenBusy).2
    frail.IsNew ∧ frail.Scene frailThenBusy .rest x ∧ someTime.toWhole = .ok 1700000000 ∧
    ∃ (text : String) (document : List Reading),
      (⟨x, {}, someTime⟩ : Api).metrics = .ok text ∧
      readLines text = some (document.flatMap (Reading.lines "reconnect_harness")) ∧
      document.map (fun r => (r.name, r.value)) =
        [("connections_live", 1), ("sessions_active", 1), ("sweeps_pending", 1),
         ("force_disconnect_delay_ms", 1000), ("connections_accepted_total", 2),
         ("connections_closed_total", 0), ("connections_destroyed_total", 1),
         ("sessions_established_total", 2), ("probes_sent_total", 2), ("probes_failed_total", 0),
         ("force_disconnect_signals_total", 5), ("force_disconnect_duplicates_total", 1),
         ("sweeps_executed_total", 2), ("scrape_timestamp", 1700000000)] := by
  intro x
  have hnew : frail.IsNew := ⟨rfl, rfl, rfl, rfl, rfl⟩
  have hscene : frail.Scene frailThenBusy .rest x := .rest frailThenBusy 0 0
  have hclock : someTime.toWhole = .ok 1700000000 := rfl
  obtain ⟨millis, text, document, hmillis, htext, hread, -, -, -, hfigures⟩ :=
    metrics_truthful frail hnew frailThenBusy .rest x hscene {} someTime 1700000000 hclock _ rfl
  cases hmillis
  exact ⟨hnew, hscene, hclock, text, document, htext, hread, hfigures⟩

end Controller
end Linkcut

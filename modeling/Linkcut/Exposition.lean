import Linkcut.Value.Whole
import Linkcut.Value.Key

/-!
The text exposition of figures: per metric a line of help, a line with its type, and its sample.
Gauges are read from the figures themselves, counters from the dictionary under `metrics`, and the
last metric is the time of the scrape. A figure that is missing counts as zero.
-/

set_option autoImplicit false

namespace Linkcut

namespace Value

/-- The entry of a dictionary under a name; nothing but a dictionary has entries. -/
def entry (v : Value) (name : String) (absent : Value) : Except Fault Value :=
  match v with
  | dict es => .ok ((find? name es).getD absent)
  | v => .error (.noAttribute v.type "get")

end Value

namespace Exposition

inductive MetricType where
  | counter
  | gauge
  deriving DecidableEq, Repr, Inhabited

namespace MetricType

def all : List MetricType := [counter, gauge]

def text : MetricType → String
  | counter => "counter"
  | gauge => "gauge"

def label : MetricType → String
  | counter => "COUNTER"
  | gauge => "GAUGE"

def ofValue (v : Value) : Except Fault MetricType :=
  match v with
  | .str s =>
    match all.find? (·.text == s) with
    | some t => .ok t
    | none => .error (.notAMember v.repr "MetricType")
  | v => .error (.notAMember v.repr "MetricType")

end MetricType

/-- A metric: its name, the figure that it shows, and its help. -/
structure Metric where
  name : String
  figure : String
  help : String
  type : MetricType
  deriving DecidableEq, Repr, Inhabited

def gauges : List Metric :=
  [⟨"connections_live", "live_connections",
    "Transport connections currently tracked by the registry", .gauge⟩,
   ⟨"sessions_active", "active_sessions", "Socket.IO sessions currently open", .gauge⟩,
   ⟨"sweeps_pending", "pending_sweeps", "Force-disconnect sweeps armed and waiting to fire",
    .gauge⟩,
   ⟨"force_disconnect_delay_ms", "force_disconnect_delay_ms",
    "Delay between a force_disconnect signal and its sweep", .gauge⟩]

def counters : List Metric :=
  [⟨"connections_accepted_total", "connections_accepted", "Transport connections accepted",
    .counter⟩,
   ⟨"connections_closed_total", "connections_closed",
    "Transport connections closed by the peer or the server", .counter⟩,
   ⟨"connections_destroyed_total", "connections_destroyed",
    "Transport connections aborted by a sweep", .counter⟩,
   ⟨"sessions_established_total", "sessions_established", "Socket.IO sessions established",
    .counter⟩,
   ⟨"probes_sent_total", "probes_sent", "Probe messages sent", .counter⟩,
   ⟨"probes_failed_total", "probes_failed", "Probe messages that could not be sent", .counter⟩,
   ⟨"force_disconnect_signals_total", "force_disconnect_signals",
    "force_disconnect events received", .counter⟩,
   ⟨"force_disconnect_duplicates_total", "force_disconnect_duplicates",
    "force_disconnect events ignored because a sweep was pending", .counter⟩,
   ⟨"sweeps_executed_total", "sweeps_executed", "Sweeps that fired", .counter⟩]

/-- The name before every metric, unless a caller has another one. -/
def defaultScope : Value := .str "reconnect_harness"

/-- A metric with its value, all as values to be shown. -/
structure Sample where
  name : Value
  value : Value
  help : Value
  type : MetricType
  deriving Repr, Inhabited

/-- The lines of a sample. The whole numbers in it are taken to be short enough for a
text (`Value.isShort`). -/
def Sample.lines (scope : Value) (s : Sample) : List String :=
  let name := scope.show ++ "_" ++ s.name.show
  ["# HELP " ++ name ++ " " ++ s.help.show,
   "# TYPE " ++ name ++ " " ++ s.type.text,
   name ++ " " ++ s.value.show]

def Sample.text (scope : Value) (s : Sample) : String := "\n".intercalate (s.lines scope)

/-- The sample of a metric over a dictionary of figures. -/
def Metric.sample (figures : Value) (m : Metric) : Except Fault Sample := do
  return ⟨.str m.name, ← figures.entry m.figure (.int 0), .str m.help, m.type⟩

def scrapeSample (time : Value) : Except Fault Sample := do
  return ⟨.str "scrape_timestamp", .int (← time.toWhole), .str "Timestamp of metrics scrape",
    .gauge⟩

/-- All samples, in the order of the exposition. -/
def samples (figures time : Value) : Except Fault (List Sample) := do
  let tallies ← figures.entry "metrics" (.dict [])
  let gs ← gauges.mapM (·.sample figures)
  let cs ← counters.mapM (·.sample tallies)
  return gs ++ cs ++ [← scrapeSample time]

/-- Every line ends with a line break. -/
def render (scope : Value) (ss : List Sample) : String :=
  "\n".intercalate (ss.map (·.text scope)) ++ "\n"

def expose (scope figures time : Value) : Except Fault String := do
  return render scope (← samples figures time)

end Exposition
end Linkcut

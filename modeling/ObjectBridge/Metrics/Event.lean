import ObjectBridge.Data.Json
import ObjectBridge.Decimal.Notation
import ObjectBridge.Metrics.Basic

/-!
# `ObjectBridge.Metrics.Event`: events by name

Everything that can be entered in the books, as one type, and what the
books look like from outside: the totals and the gathered series.
-/

set_option autoImplicit false

/-!
## Metrics as they are published

Each kind of event has a published name, and its series are told apart by
named labels. The published text has one line per counter or gauge.
-/

namespace ObjectBridge

/-- What a series holds. -/
inductive Reading
  | number (n : Int)
  | histogram (h : Histogram)

/-- A published name with its series, each with its labels. -/
structure Family where
  name : String
  series : List (List (String × String) × Reading)

namespace Metrics

/-- A family with labels. -/
def labelledFamily {α : Type} (name : String) (labels : List String) (reading : α → Reading)
    (d : Labelled α) : Family where
  name := "scriptbridge_" ++ name
  series := d.entries.map fun (values, x) => (labels.zip values, reading x)

/-- A family of a single series without labels. -/
def plainFamily (name : String) (n : Int) : Family where
  name := "scriptbridge_" ++ name
  series := [([], .number n)]

/-- Everything that is published. -/
def families (m : Metrics) : List Family :=
  let counter (n : Nat) : Reading := .number n
  [ labelledFamily "http_requests_total" ["method", "path", "status"] counter m.requests,
    labelledFamily "http_request_duration_seconds" ["method", "path"] .histogram m.requestDurations,
    labelledFamily "http_request_size_bytes" ["method", "path"] .histogram m.requestSizes,
    labelledFamily "http_response_size_bytes" ["method", "path"] .histogram m.responseSizes,
    plainFamily "instances_active" m.instancesActive,
    plainFamily "instances_total" m.instancesTotal,
    plainFamily "wrappers_created_total" m.wrappersCreated,
    plainFamily "wrappers_live" m.wrappersLive,
    labelledFamily "exceptions_total" ["message"] counter m.exceptions,
    labelledFamily "script_runs_total" ["source", "status"] counter m.scriptRuns,
    labelledFamily "script_duration_seconds" ["source"] .histogram m.scriptDurations,
    plainFamily "pool_in_use" m.poolInUse,
    plainFamily "ws_connections" m.consoleConnections,
    labelledFamily "ws_messages_total" ["direction", "type"] counter m.consoleMessages ]

/-- The number of a counter or gauge as it is published. -/
def numberText (n : Int) : String := Decimal.writePlain (Float.ofInt n)

/-- A label value between quotes. -/
def escapeLabel (s : String) : String :=
  String.join (s.toList.map fun c =>
    if c = '\\' then "\\\\" else if c = '"' then "\\\"" else if c = '\n' then "\\n" else c.toString)

/-- The name and labels of a published line. -/
def lineHead (name : String) (labels : List (String × String)) : String :=
  if labels.isEmpty then name
  else
    let pairs := labels.map fun (k, v) => k ++ "=\"" ++ escapeLabel v ++ "\""
    name ++ "\x7b" ++ ",".intercalate pairs ++ "\x7d"

/-- The published lines of counters and gauges. -/
def lines (m : Metrics) : List String :=
  m.families.flatMap fun f => f.series.filterMap fun (labels, r) =>
    match r with
    | .number n => some (lineHead f.name labels ++ " " ++ numberText n)
    | .histogram _ => none

end Metrics

end ObjectBridge

namespace ObjectBridge

namespace Metrics

/-- A script evaluation that is timed. -/
structure Timer where
  source : String
  /-- When it was started, in nanoseconds. -/
  start : Int

/-- The evaluation is over. -/
def Timer.stop (t : Timer) (m : Metrics) (status : String) (now : Int) : Metrics :=
  m.recordScript t.source status (now - t.start)

/-- What is counted. -/
inductive Event
  | request (method path status : String) (nanoseconds requestSize responseSize : Int)
  | instanceCreated
  | instanceDestroyed
  | wrapperCreated
  | wrapperReleased
  | exception (message : String)
  | script (source status : String) (nanoseconds : Int)
  | stopped (t : Timer) (status : String) (now : Int)
  | consoleMessage (direction type : String)
  | consoleOpened
  | consoleClosed

/-- Enters an event. -/
def record (m : Metrics) : Event → Metrics
  | .request method path status ns req resp => m.recordRequest method path status ns req resp
  | .instanceCreated => m.instanceCreated
  | .instanceDestroyed => m.instanceDestroyed
  | .wrapperCreated => m.wrapperCreated
  | .wrapperReleased => m.wrapperReleased
  | .exception message => m.recordException message
  | .script source status ns => m.recordScript source status ns
  | .stopped t status now => t.stop m status now
  | .consoleMessage direction type => m.recordConsoleMessage direction type
  | .consoleOpened => m.consoleOpened
  | .consoleClosed => m.consoleClosed

/-- The books after each of a list of events. -/
def history (m : Metrics) : List Event → List Metrics
  | [] => []
  | e :: rest => m.record e :: history (m.record e) rest

end Metrics

/-- The totals by name, the time spent apart. -/
def Snapshot.counts (s : Snapshot) : List (String × Int) :=
  [("total_requests", s.totalRequests), ("total_errors", s.totalErrors),
    ("active_instances", s.activeInstances), ("live_wrappers", s.liveWrappers),
    ("exceptions", s.exceptions), ("script_runs", s.scriptRuns), ("request_count", s.requestCount)]

/-- The totals as published. -/
def Snapshot.report (s : Snapshot) : Json :=
  .object (("total_duration_seconds", .string (Decimal.writePlain s.totalDuration))
    :: s.counts.map fun e => (e.1, .int e.2))

namespace Metrics

/-- A histogram in full. -/
def histogramReport (h : Histogram) : Json :=
  .object [("count", .int h.count), ("sum", .string (Decimal.writePlain h.sum)),
    ("buckets", .array (h.buckets.map fun b => .array [.string (Decimal.writePlain b.1),
    .int b.2]))]

/-- The name a series is gathered under. -/
def seriesName (name : String) (labels : List (String × String)) : String :=
  name ++ "\x7b" ++ ",".intercalate (labels.map fun l => l.1 ++ "=" ++ l.2) ++ "\x7d"

/-- Everything gathered. Where script durations were measured by a clock
only their number is told. -/
def gathered (m : Metrics) (clocked : Bool) : Json :=
  .object (m.families.flatMap fun f => f.series.map fun s =>
    (seriesName f.name s.1, match s.2 with
      | .number n => .string (numberText n)
      | .histogram h =>
        if clocked && f.name = "scriptbridge_script_duration_seconds" then
          .object [("count", .int h.count)]
        else histogramReport h))

end Metrics

end ObjectBridge

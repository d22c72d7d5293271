import ObjectBridge.Data.Dict

/-!
# `ObjectBridge.Metrics.Basic`: counting what the program does

Every event is entered in two books. The detailed one keeps a series for
each combination of labels; the `Snapshot` keeps totals. Each event is one
function here, which makes both entries, so the books cannot drift apart.
Measurements are entered in a `Histogram`.

Durations are in nanoseconds and enter histograms as seconds.
-/

set_option autoImplicit false

namespace ObjectBridge

/-- How many measurements there were, their sum, and how many of them did
not exceed each bound. -/
structure Histogram where
  count : Nat := 0
  sum : Float := 0.0
  /-- Bounds, ascending, with the number of measurements up to each. -/
  buckets : List (Float × Nat)
  deriving Inhabited

namespace Histogram

/-- A histogram without measurements. -/
def empty (bounds : List Float) : Histogram := { buckets := bounds.map fun b => (b, 0) }

/-- Adds a measurement. -/
def observe (h : Histogram) (x : Float) : Histogram where
  count := h.count + 1
  sum := h.sum + x
  buckets := h.buckets.map fun (bound, n) => (bound, if x ≤ bound then n + 1 else n)

end Histogram

/-- The seconds of a duration: whole seconds and the rest are converted
separately and then added. -/
def secondsOf (nanoseconds : Int) : Float :=
  Float.ofInt (nanoseconds.tdiv 1000000000) + Float.ofInt (nanoseconds.tmod 1000000000) / 1e9

/-- Totals over all labels. -/
structure Snapshot where
  totalRequests : Int := 0
  totalErrors : Int := 0
  activeInstances : Int := 0
  liveWrappers : Int := 0
  exceptions : Int := 0
  scriptRuns : Int := 0
  totalDuration : Float := 0.0
  requestCount : Int := 0
  deriving Inhabited

/-- Series by the values of their labels. -/
abbrev Labelled (α : Type) := Dict (List String) α

/-- Series are ordered by their first label, then by the next. -/
instance labelsLE : LE (List String) := List.instLE
instance labelsLinear : Std.IsLinearOrder (List String) := inferInstance
instance labelsLawful : Std.LawfulOrderLT (List String) := inferInstance

namespace Labelled

/-- Adds one to a counter, which starts at zero. -/
def increment (d : Labelled Nat) (labels : List String) : Labelled Nat :=
  d.alter labels fun n => n.getD 0 + 1

/-- Adds a measurement to a histogram, which starts empty. -/
def observe (bounds : List Float) (d : Labelled Histogram) (labels : List String) (x : Float) :
    Labelled Histogram :=
  d.alter labels fun h => (h.getD (.empty bounds)).observe x

end Labelled

/-- Everything that is counted. -/
structure Metrics where
  /-- By method, path and status. -/
  requests : Labelled Nat := {}
  /-- By method and path. -/
  requestDurations : Labelled Histogram := {}
  requestSizes : Labelled Histogram := {}
  responseSizes : Labelled Histogram := {}
  instancesActive : Int := 0
  instancesTotal : Nat := 0
  wrappersCreated : Nat := 0
  wrappersLive : Int := 0
  /-- By message. -/
  exceptions : Labelled Nat := {}
  /-- By source and status. -/
  scriptRuns : Labelled Nat := {}
  /-- By source. -/
  scriptDurations : Labelled Histogram := {}
  poolInUse : Int := 0
  consoleConnections : Int := 0
  /-- By direction and type. -/
  consoleMessages : Labelled Nat := {}
  snapshot : Snapshot := {}
  deriving Inhabited

namespace Metrics

/-- The bounds that requests are sorted by. -/
def requestSeconds : List Float := [0.001, 0.005, 0.01, 0.025, 0.05, 0.1, 0.25, 0.5, 1, 2.5, 5, 10]

/-- The bounds that scripts are sorted by. -/
def scriptSeconds : List Float := [0.001, 0.005, 0.01, 0.025, 0.05, 0.1, 0.25, 0.5, 1, 2.5, 5]

/-- The bounds that sizes are sorted by. -/
def byteSizes : List Float := [100, 1000, 10000, 100000, 1000000]

/-- Does a status report an error? -/
def isErrorStatus (status : String) : Bool :=
  match status.toList with
  | c :: _ => c = '4' || c = '5'
  | [] => false

/-- A request was answered. -/
def recordRequest (m : Metrics) (method path status : String)
    (nanoseconds requestSize responseSize : Int) :
    Metrics :=
  let seconds := secondsOf nanoseconds
  { m with
    requests := Labelled.increment m.requests [method, path, status]
    requestDurations := Labelled.observe requestSeconds m.requestDurations [method, path] seconds
    requestSizes := Labelled.observe byteSizes m.requestSizes [method, path]
      (Float.ofInt requestSize)
    responseSizes := Labelled.observe byteSizes m.responseSizes [method, path]
      (Float.ofInt responseSize)
    snapshot :=
      { m.snapshot with
        totalRequests := m.snapshot.totalRequests + 1
        totalDuration := m.snapshot.totalDuration + seconds
        requestCount := m.snapshot.requestCount + 1
        totalErrors := m.snapshot.totalErrors + (if isErrorStatus status then 1 else 0) } }

/-- Counts an instance that was made. -/
def instanceCreated (m : Metrics) : Metrics :=
  { m with
    instancesActive := m.instancesActive + 1
    instancesTotal := m.instancesTotal + 1
    snapshot := { m.snapshot with activeInstances := m.snapshot.activeInstances + 1 } }

/-- Counts an instance that was destroyed. -/
def instanceDestroyed (m : Metrics) : Metrics :=
  { m with
    instancesActive := m.instancesActive - 1
    snapshot := { m.snapshot with activeInstances := m.snapshot.activeInstances - 1 } }

/-- Counts a wrapper that was made. -/
def wrapperCreated (m : Metrics) : Metrics :=
  { m with
    wrappersCreated := m.wrappersCreated + 1
    wrappersLive := m.wrappersLive + 1
    snapshot := { m.snapshot with liveWrappers := m.snapshot.liveWrappers + 1 } }

/-- The last reference to a wrapper went away. -/
def wrapperReleased (m : Metrics) : Metrics :=
  { m with
    wrappersLive := m.wrappersLive - 1
    snapshot := { m.snapshot with liveWrappers := m.snapshot.liveWrappers - 1 } }

/-- An exception was reported to a host. -/
def recordException (m : Metrics) (message : String) : Metrics :=
  { m with
    exceptions := Labelled.increment m.exceptions [message]
    snapshot := { m.snapshot with exceptions := m.snapshot.exceptions + 1 } }

/-- A script was evaluated. -/
def recordScript (m : Metrics) (source status : String) (nanoseconds : Int) : Metrics :=
  { m with
    scriptRuns := Labelled.increment m.scriptRuns [source, status]
    scriptDurations := Labelled.observe scriptSeconds m.scriptDurations [source]
      (secondsOf nanoseconds)
    snapshot := { m.snapshot with scriptRuns := m.snapshot.scriptRuns + 1 } }

/-- A message went over a console connection. -/
def recordConsoleMessage (m : Metrics) (direction type : String) : Metrics :=
  { m with consoleMessages := Labelled.increment m.consoleMessages [direction, type] }

/-- Counts a console that was opened. -/
def consoleOpened (m : Metrics) : Metrics :=
  { m with consoleConnections := m.consoleConnections + 1 }

/-- Counts a console that was closed. -/
def consoleClosed (m : Metrics) : Metrics :=
  { m with consoleConnections := m.consoleConnections - 1 }

/-- Sessions were taken from a pool, or given back when `n` is negative. -/
def poolUsed (m : Metrics) (n : Int) : Metrics := { m with poolInUse := m.poolInUse + n }

end Metrics

end ObjectBridge

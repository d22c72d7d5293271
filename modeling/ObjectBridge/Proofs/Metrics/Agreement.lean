import ObjectBridge.Metrics.Event
import ObjectBridge.Proofs.Data.Dict

/-!
# `ObjectBridge.Proofs.Metrics.Agreement`: two books that agree

Every event is entered twice: in the totals, and in the series that are
published with labels. A figure of either book *counts* something when it
starts at nothing and each event adds its share (`Counts`). After any events
in any order it is the sum of their shares (`Counts.foldl`), so two figures
that count the same are equal.

Each total has its figures among the published series. `agree` puts the two
books side by side, and says what the totals tell about the events.
-/

set_option autoImplicit false

namespace ObjectBridge

/-! ### Sums over series -/

/-- What a series adds to the sum over its family: its number, or how many
measurements it holds. -/
def Reading.amount : Reading → Int
  | .number n => n
  | .histogram h => h.count

/-- The sum over the series of a family that have the wanted labels. -/
def Family.sum (f : Family) (wanted : List (String × String) → Bool) : Int :=
  (f.series.map fun s => if wanted s.1 then s.2.amount else 0).sum

namespace Metrics

variable {wanted : List (String × String) → Bool}

/-- The sum over the series that are published under a name and have the
wanted labels. -/
def published (m : Metrics) (name : String) (wanted : List (String × String) → Bool) : Int :=
  ((m.families.filter (·.name = name)).map (·.sum wanted)).sum

/-- No name is published twice. -/
theorem nodup_names (m : Metrics) : (m.families.map Family.name).Nodup := by
  show (["http_requests_total", "http_request_duration_seconds", "http_request_size_bytes",
    "http_response_size_bytes", "instances_active", "instances_total", "wrappers_created_total",
    "wrappers_live", "exceptions_total", "script_runs_total", "script_duration_seconds",
    "pool_in_use", "ws_connections", "ws_messages_total"].map ("scriptbridge_" ++ ·)).Nodup
  decide

/-- Where names are distinct a name is that of one family. -/
theorem filter_name_of_mem {fs : List Family} {f : Family} (hnodup : (fs.map Family.name).Nodup)
    (hf : f ∈ fs) :
    fs.filter (·.name = f.name) = [f] := by
  induction fs with
  | nil => cases hf
  | cons g rest ih =>
    rw [List.map_cons, List.nodup_cons] at hnodup
    rcases List.mem_cons.mp hf with rfl | hrest
    · have hnone : rest.filter (·.name = f.name) = [] := by
        rw [List.filter_eq_nil_iff]
        intro h hh hname
        exact hnodup.1 (of_decide_eq_true hname ▸ List.mem_map_of_mem hh)
      rw [List.filter_cons_of_pos (by simp), hnone]
    · have hne : g.name ≠ f.name := fun heq => hnodup.1 (heq ▸ List.mem_map_of_mem hrest)
      rw [List.filter_cons_of_neg (by simpa using hne), ih hnodup.2 hrest]

/-- What is published under the name of a family is that family. -/
theorem published_of_mem (m : Metrics) {f : Family} (hf : f ∈ m.families) {name : String}
    (hname : f.name = name) :
    m.published name wanted = f.sum wanted := by
  subst hname
  unfold published
  rw [filter_name_of_mem m.nodup_names hf]
  exact Int.add_zero _

/-! ### Entering an event -/

/-- A family of counters. -/
abbrev counters (name : String) (labels : List String) (d : Labelled Nat) : Family :=
  labelledFamily name labels (fun n : Nat => .number n) d

/-- A family of histograms. -/
abbrev histograms (name : String) (labels : List String) (d : Labelled Histogram) : Family :=
  labelledFamily name labels .histogram d

/-- The sum over a family with labels is that over its wanted entries. -/
theorem sum_labelledFamily {α : Type} (name : String) (labels : List String) (reading : α → Reading)
    (d : Labelled α) :
    (labelledFamily name labels reading d).sum wanted =
      (d.entries.map fun e => if wanted (labels.zip e.1) then (reading e.2).amount else 0).sum := by
  unfold Family.sum labelledFamily
  rw [List.map_map]
  rfl

/-- That over a family without labels is its only number. -/
theorem sum_plainFamily (name : String) (n : Int) (h : wanted []) :
    (plainFamily name n).sum wanted = n := by
  show (if wanted [] then n else 0) + 0 = n
  rw [if_pos h, Int.add_zero]

/-- A series that goes up by one takes the sum over its family with it, if it
has the wanted labels. -/
theorem sum_alter {α : Type} (name : String) (labels : List String) {reading : α → Reading}
    (d : Labelled α) (values : List String) {f : Option α → α}
    (hf : ∀ x, (reading (f x)).amount = (x.map fun y => (reading y).amount).getD 0 + 1) :
    (labelledFamily name labels reading (d.alter values f)).sum wanted =
      (labelledFamily name labels reading d).sum wanted + if wanted (labels.zip values) then 1
      else 0 := by
  have hinsert := d.sum_insert values (f (d.find? values)) fun k x =>
    if wanted (labels.zip k) then (reading x).amount else 0
  rw [hf] at hinsert
  rw [sum_labelledFamily, sum_labelledFamily]
  show ((d.insert values (f (d.find? values))).entries.map _).sum = _
  -- A new series starts with one, and an old one goes up by one.
  cases hfind : d.find? values with
  | none =>
    simp only [hfind, Option.toList_none, Option.map_none, Option.getD_none, List.map_nil,
      List.sum_nil, add_zero, zero_add] at hinsert
    exact hinsert
  | some x =>
    simp only [hfind, Option.toList_some, Option.map_some, Option.getD_some, List.map_cons,
      List.map_nil, List.sum_cons, List.sum_nil, add_zero] at hinsert
    by_cases hwanted : wanted (labels.zip values) = true
    · simp only [if_pos hwanted] at hinsert ⊢
      omega
    · simpa only [if_neg hwanted, add_zero] using hinsert

/-- A count that is raised raises the sum by one, if it is wanted. -/
theorem sum_increment (name : String) (labels : List String) (d : Labelled Nat)
    (values : List String) :
    (counters name labels (Labelled.increment d values)).sum wanted =
      (counters name labels d).sum wanted + if wanted (labels.zip values) then 1 else 0 :=
  sum_alter name labels d values fun x => by cases x <;> rfl

/-- So does an observation. -/
theorem sum_observe (name : String) (labels : List String) (bounds : List Float)
    (d : Labelled Histogram) (values : List String) (x : Float) :
    (histograms name labels (Labelled.observe bounds d values x)).sum wanted =
      (histograms name labels d).sum wanted + if wanted (labels.zip values) then 1 else 0 :=
  sum_alter name labels d values fun h => by cases h <;> rfl

/-! ### Figures that count -/

/-- The figure starts at nothing, and each event adds its share. -/
structure Counts (figure : Metrics → Int) (share : Event → Int) : Prop where
  zero : figure {} = 0
  add : ∀ m e, figure (m.record e) = figure m + share e

/-- After any events a figure is the sum of their shares. -/
theorem Counts.foldl {figure : Metrics → Int} {share : Event → Int} (h : Counts figure share)
    (events : List Event) :
    figure (events.foldl record {}) = (events.map share).sum := by
  have hfrom (m : Metrics) : figure (events.foldl record m) =
      figure m + (events.map share).sum := by
    induction events generalizing m with
    | nil => exact (Int.add_zero _).symm
    | cons e rest ih =>
      rw [List.foldl_cons, ih, h.add, List.map_cons, List.sum_cons, Int.add_assoc]
  rw [hfrom, h.zero, Int.zero_add]

/-- Does a status start with a 4 or a 5? -/
def isFailure (status : String) : Bool :=
  status.toList.head? = some '4' || status.toList.head? = some '5'

/-- A status is an error exactly when it is a failure. -/
theorem isErrorStatus_eq (status : String) : isErrorStatus status = isFailure status := by
  unfold isErrorStatus isFailure
  cases status.toList <;> simp

/-- The label that tells a status tells a failure. -/
def failed (labels : List (String × String)) : Bool := (labels.lookup "status").any isFailure

namespace Event

/-- One for every request that is as wanted. -/
def requests (wanted : String → Bool) : Event → Int
  | request _ _ status _ _ _ => if wanted status then 1 else 0
  | _ => 0

/-- By how much an event changes the number of instances. -/
def instances : Event → Int
  | instanceCreated => 1
  | instanceDestroyed => -1
  | _ => 0

/-- By how much an event changes the number of wrappers. -/
def wrappers : Event → Int
  | wrapperCreated => 1
  | wrapperReleased => -1
  | _ => 0

/-- How many exceptions an event reports. -/
def exceptions : Event → Int
  | exception _ => 1
  | _ => 0

/-- One for every evaluation, timed or not. -/
def scripts : Event → Int
  | script _ _ _ => 1
  | stopped _ _ _ => 1
  | _ => 0

end Event

/-- The snapshot counts all requests, -/
theorem counts_totalRequests :
    Counts (·.snapshot.totalRequests) (Event.requests fun _ => true) where
  zero := rfl
  add m e := by
    cases e with
    | request => rfl
    | _ => exact (Int.add_zero _).symm

/-- once more for their durations, -/
theorem counts_requestCount : Counts (·.snapshot.requestCount) (Event.requests fun _ => true) where
  zero := rfl
  add m e := by
    cases e with
    | request => rfl
    | _ => exact (Int.add_zero _).symm

/-- and those that fail. -/
theorem counts_totalErrors : Counts (·.snapshot.totalErrors) (Event.requests isFailure) where
  zero := rfl
  add m e := by
    cases e with
    | request method path status =>
      show m.snapshot.totalErrors + (if isErrorStatus status then 1 else 0) = _
      rw [isErrorStatus_eq]
      rfl
    | _ => exact (Int.add_zero _).symm

/-- It counts the instances, -/
theorem counts_activeInstances : Counts (·.snapshot.activeInstances) Event.instances where
  zero := rfl
  add m e := by
    cases e with
    | instanceCreated => rfl
    | instanceDestroyed => rfl
    | _ => exact (Int.add_zero _).symm

/-- the wrappers, -/
theorem counts_liveWrappers : Counts (·.snapshot.liveWrappers) Event.wrappers where
  zero := rfl
  add m e := by
    cases e with
    | wrapperCreated => rfl
    | wrapperReleased => rfl
    | _ => exact (Int.add_zero _).symm

/-- the exceptions -/
theorem counts_exceptions : Counts (·.snapshot.exceptions) Event.exceptions where
  zero := rfl
  add m e := by
    cases e with
    | exception => rfl
    | _ => exact (Int.add_zero _).symm

/-- and the scripts that have run. -/
theorem counts_scriptRuns : Counts (·.snapshot.scriptRuns) Event.scripts where
  zero := rfl
  add m e := by
    cases e with
    | script => rfl
    | stopped => rfl
    | _ => exact (Int.add_zero _).symm

/-- A figure that is published is the sum over its family. -/
theorem Counts.published {f : Metrics → Family} {name : String} {share : Event → Int}
    (h : Counts (fun m => (f m).sum wanted) share) (hf : ∀ m, f m ∈ m.families)
    (hname : ∀ m, (f m).name = name) :
    Counts (·.published name wanted) share where
  zero := (published_of_mem {} (hf {}) (hname {})).trans h.zero
  add m e := by
    rw [published_of_mem _ (hf _) (hname _), published_of_mem m (hf m) (hname m)]
    exact h.add m e

/-- The series of requests count the requests with the statuses that their
labels tell. -/
theorem counts_requestSeries {statuses : String → Bool}
    (h : ∀ method path status, wanted [("method", method), ("path", path), ("status", status)] =
      statuses status) :
    Counts (·.published "scriptbridge_http_requests_total" wanted) (Event.requests statuses) := by
  refine .published (f := fun m => counters "http_requests_total" ["method", "path",
    "status"] m.requests) ⟨rfl, fun m e => ?_⟩ (fun m => by simp [families]) fun _ => rfl
  cases e with
  | request method path status =>
    rw [Event.requests, ← h method path]
    exact sum_increment _ _ m.requests [method, path, status]
  | _ => exact (Int.add_zero _).symm

/-- Any labels. -/
def anyLabels : List (String × String) → Bool := fun _ => true

/-- The published durations count all requests. -/
theorem counts_requestDurations :
    Counts (·.published "scriptbridge_http_request_duration_seconds" anyLabels)
      (Event.requests fun _ => true) := by
  refine .published (f := fun m => histograms "http_request_duration_seconds" ["method", "path"]
    m.requestDurations) ⟨rfl, fun m e => ?_⟩ (fun m => by simp [families]) fun _ => rfl
  cases e with
  | request method path => exact sum_observe _ _ _ m.requestDurations [method, path] _
  | _ => exact (Int.add_zero _).symm

/-- The published gauges count the instances -/
theorem counts_instanceGauge :
    Counts (·.published "scriptbridge_instances_active" anyLabels) Event.instances := by
  refine .published (f := fun m => plainFamily "instances_active" m.instancesActive)
    ⟨rfl, fun m e => ?_⟩ (fun m => by simp [families]) fun _ => rfl
  rw [sum_plainFamily _ _ rfl, sum_plainFamily _ _ rfl]
  cases e with
  | instanceCreated => rfl
  | instanceDestroyed => rfl
  | _ => exact (Int.add_zero _).symm

/-- and the wrappers. -/
theorem counts_wrapperGauge :
    Counts (·.published "scriptbridge_wrappers_live" anyLabels) Event.wrappers := by
  refine .published (f := fun m => plainFamily "wrappers_live" m.wrappersLive)
    ⟨rfl, fun m e => ?_⟩ (fun m => by simp [families]) fun _ => rfl
  rw [sum_plainFamily _ _ rfl, sum_plainFamily _ _ rfl]
  cases e with
  | wrapperCreated => rfl
  | wrapperReleased => rfl
  | _ => exact (Int.add_zero _).symm

/-- The published series count the exceptions, -/
theorem counts_exceptionSeries :
    Counts (·.published "scriptbridge_exceptions_total" anyLabels) Event.exceptions := by
  refine .published (f := fun m => counters "exceptions_total" ["message"] m.exceptions)
    ⟨rfl, fun m e => ?_⟩ (fun m => by simp [families]) fun _ => rfl
  cases e with
  | exception message => exact sum_increment _ _ m.exceptions [message]
  | _ => exact (Int.add_zero _).symm

/-- the scripts that have run -/
theorem counts_scriptSeries :
    Counts (·.published "scriptbridge_script_runs_total" anyLabels) Event.scripts := by
  refine .published (f := fun m => counters "script_runs_total" ["source", "status"] m.scriptRuns)
    ⟨rfl, fun m e => ?_⟩ (fun m => by simp [families]) fun _ => rfl
  cases e with
  | script source status => exact sum_increment _ _ m.scriptRuns [source, status]
  | stopped t status => exact sum_increment _ _ m.scriptRuns [t.source, status]
  | _ => exact (Int.add_zero _).symm

/-- and their durations. -/
theorem counts_scriptDurations :
    Counts (·.published "scriptbridge_script_duration_seconds" anyLabels) Event.scripts := by
  refine .published (f := fun m => histograms "script_duration_seconds" ["source"]
    m.scriptDurations) ⟨rfl, fun m e => ?_⟩ (fun m => by simp [families]) fun _ => rfl
  cases e with
  | script source => exact sum_observe _ _ _ m.scriptDurations [source] _
  | stopped t => exact sum_observe _ _ _ m.scriptDurations [t.source] _
  | _ => exact (Int.add_zero _).symm

/-! ### The two books -/

/-- The totals, and what they are after the events. -/
structure Tells (events : List Event) (m : Metrics) : Prop where
  requests : m.snapshot.totalRequests = (events.map (Event.requests fun _ => true)).sum
  errors : m.snapshot.totalErrors = (events.map (Event.requests isFailure)).sum
  instances : m.snapshot.activeInstances = (events.map Event.instances).sum
  wrappers : m.snapshot.liveWrappers = (events.map Event.wrappers).sum
  exceptions : m.snapshot.exceptions = (events.map Event.exceptions).sum
  scripts : m.snapshot.scriptRuns = (events.map Event.scripts).sum

/-- Each total has the value that is published in series. -/
structure Agree (m : Metrics) : Prop where
  requestCount : m.snapshot.totalRequests = m.snapshot.requestCount
  requests : m.snapshot.requestCount = m.published "scriptbridge_http_requests_total" anyLabels
  requestDurations : m.published "scriptbridge_http_requests_total" anyLabels =
    m.published "scriptbridge_http_request_duration_seconds" anyLabels
  errors : m.snapshot.totalErrors = m.published "scriptbridge_http_requests_total" failed
  instances : m.snapshot.activeInstances = m.published "scriptbridge_instances_active" anyLabels
  wrappers : m.snapshot.liveWrappers = m.published "scriptbridge_wrappers_live" anyLabels
  exceptions : m.snapshot.exceptions = m.published "scriptbridge_exceptions_total" anyLabels
  scripts : m.snapshot.scriptRuns = m.published "scriptbridge_script_runs_total" anyLabels
  scriptDurations : m.snapshot.scriptRuns =
    m.published "scriptbridge_script_duration_seconds" anyLabels

/-- After any events in any order the books agree, and the totals tell the
events. -/
theorem agree (events : List Event) :
    Agree (events.foldl record {}) ∧ Tells events (events.foldl record {}) := by
  -- Two figures that count the same share of each event agree after all events.
  have hsame {figure figure' : Metrics → Int} {share : Event → Int} (h : Counts figure share)
      (h' : Counts figure' share) : figure (events.foldl record {}) =
      figure' (events.foldl record {}) :=
    (h.foldl events).trans (h'.foldl events).symm
  have hany : Counts (·.published "scriptbridge_http_requests_total" anyLabels)
      (Event.requests fun _ => true) :=
    counts_requestSeries fun _ _ _ => rfl
  have hfailed : Counts (·.published "scriptbridge_http_requests_total" failed)
      (Event.requests isFailure) :=
    counts_requestSeries fun _ _ _ => rfl
  constructor
  · exact {
      requestCount := hsame counts_totalRequests counts_requestCount
      requests := hsame counts_requestCount hany
      requestDurations := hsame hany counts_requestDurations
      errors := hsame counts_totalErrors hfailed
      instances := hsame counts_activeInstances counts_instanceGauge
      wrappers := hsame counts_liveWrappers counts_wrapperGauge
      exceptions := hsame counts_exceptions counts_exceptionSeries
      scripts := hsame counts_scriptRuns counts_scriptSeries
      scriptDurations := hsame counts_scriptRuns counts_scriptDurations }
  · exact {
      requests := counts_totalRequests.foldl events
      errors := counts_totalErrors.foldl events
      instances := counts_activeInstances.foldl events
      wrappers := counts_liveWrappers.foldl events
      exceptions := counts_exceptions.foldl events
      scripts := counts_scriptRuns.foldl events }

end Metrics

end ObjectBridge

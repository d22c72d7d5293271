import ObjectBridge.Data.Dict
import ObjectBridge.Data.Json

/-!
# `ObjectBridge.Trace`: spans of work

A span is one operation of a trace. The trace and the span that work is
done for travel in a `TraceContext`; starting a span continues the trace
of its context, or begins a new one when there is none. Finished spans
are submitted to the tracer, where they wait until they are logged, in
the order they came. Closing a tracer logs those that still wait.

Where new identifiers come from is not said here: the tracer numbers
them, and `idText` is the text of each.
-/

set_option autoImplicit false

namespace ObjectBridge

/-- The trace and span that work is done for; empty when there is none. -/
structure TraceContext where
  trace : String := ""
  span : String := ""
  deriving DecidableEq, Repr, Inhabited

/-- Continues a trace; what is empty is not changed. -/
def TraceContext.continuing (c : TraceContext) (trace parent : String) : TraceContext where
  trace := if trace = "" then c.trace else trace
  span := if parent = "" then c.span else parent

/-- A measured operation and what became of it. -/
structure Span where
  trace : String
  id : String
  /-- The span it belongs to; empty when there is none. -/
  parent : String
  name : String
  service : String
  tags : Dict String String := {}
  error : Option String := none
  /-- Zero until it is set. -/
  status : Int := 0

instance : Inhabited Span := ⟨{ trace := "", id := "", parent := "", name := "", service := "" }⟩

namespace Span

/-- The span with a tag, which replaces one of the same key. -/
def setTag (s : Span) (key value : String) : Span := { s with tags := s.tags.insert key value }

/-- What is logged about a span besides its duration. -/
def fields (s : Span) : List (String × String) :=
  [("trace_id", s.trace), ("span_id", s.id), ("operation", s.name), ("service", s.service)]
    ++ (if s.parent = "" then [] else [("parent_id", s.parent)])
    ++ (if s.status = 0 then [] else [("status", toString s.status)])
    ++ s.tags.entries
    ++ (s.error.map fun e => ("error", e)).toList

/-- The level a span is logged at, and the message. -/
def outcome (s : Span) : String × String :=
  if s.error.isSome then ("warn", "span completed with error") else ("debug", "span completed")

/-- The log entry of a span; its fields are in order. -/
def logEntry (s : Span) : Json :=
  let texts := "duration" :: s.fields.map fun f => f.1 ++ "=" ++ f.2
  let (level, message) := s.outcome
  .object [("level", .string level), ("message", .string message),
    ("fields", .strings (texts.mergeSort fun a b => decide (a ≤ b)))]

/-- The span as it is logged. -/
def report (s : Span) : Json :=
  .object [("trace", .string s.trace), ("id", .string s.id), ("parent", .string s.parent),
    ("name", .string s.name), ("service", .string s.service),
    ("tags", .object (s.tags.entries.map fun e => (e.1, .string e.2))),
    ("error", .string (s.error.getD "")), ("status", .int s.status)]

end Span

/-- What makes spans and keeps them until they are logged. -/
structure Tracer where
  service : String
  /-- The text of a new identifier, by its number. -/
  idText : Nat → String
  issued : Nat := 0
  /-- Spans that wait to be logged, the one that waits longest first. -/
  waiting : List Span := []
  /-- Spans that were logged, latest first. -/
  logged : List Span := []
  closed : Bool := false

namespace Tracer

/-- A new identifier. -/
def freshId (t : Tracer) : String × Tracer :=
  (t.idText (t.issued + 1), { t with issued := t.issued + 1 })

/-- Starts a span, and gives the context of the work done in it. -/
def startSpan (t : Tracer) (c : TraceContext) (name : String) : Span × TraceContext × Tracer :=
  let (trace, t) := if c.trace = "" then t.freshId else (c.trace, t)
  let (id, t) := t.freshId
  ({ trace, id, parent := c.span, name, service := t.service }, { trace, span := id }, t)

/-- How many spans may wait. -/
def bufferSize : Nat := 1000

/-- Takes a finished span, which then waits. A tracer that is closed, or
in which too many wait, drops it. -/
def submit (t : Tracer) (s : Span) : Tracer :=
  if t.closed || bufferSize ≤ t.waiting.length then t else { t with waiting := t.waiting ++ [s] }

/-- Logs the span that waits longest. -/
def collect (t : Tracer) : Tracer :=
  match t.waiting with
  | [] => t
  | s :: rest => { t with waiting := rest, logged := s :: t.logged }

/-- Takes a finished span and logs it before anything else happens. -/
def deliver (t : Tracer) (s : Span) : Tracer := (t.submit s).collect

/-- Logs all spans that wait and takes no more. Only the first time has an
effect. -/
def close (t : Tracer) : Tracer :=
  if t.closed then t else { t with closed := true, waiting := [], logged := t.waiting.reverse ++
    t.logged }

/-- The log, in the order spans were submitted. -/
def log (t : Tracer) : List Span := t.logged.reverse

end Tracer

/-! ### Steps -/

namespace Tracer

/-- Something done with a tracer, where contexts and spans have names. -/
inductive Step
  | continuing (context name trace parent : String)
  | start (context spanName name operation : String)
  | tag (spanName key value : String)
  | error (spanName : String) (message : Option String)
  | status (spanName : String) (code : Int)
  | finish (spanName : String)
  | submit (spanName : String)
  | close

/-- A tracer with the contexts and spans that are known by names. -/
structure Desk where
  tracer : Tracer
  contexts : Dict String TraceContext := {}
  spans : Dict String Span := {}

namespace Desk

/-- A context by its name; names without one stand for the empty
context. -/
def contextOf (d : Desk) (name : String) : TraceContext := (d.contexts.find? name).getD {}

/-- Changes the span of that name, if there is one. -/
def changeSpan (d : Desk) (name : String) (f : Span → Span) : Desk :=
  match d.spans.find? name with
  | some s => { d with spans := d.spans.insert name (f s) }
  | none => d

/-- What a step does. -/
def perform (d : Desk) : Step → Desk
  | .continuing context name trace parent =>
    { d with contexts := d.contexts.insert name ((d.contextOf context).continuing trace parent) }
  | .start context spanName name operation =>
    let (s, c, tracer) := d.tracer.startSpan (d.contextOf context) operation
    { tracer, contexts := d.contexts.insert name c, spans := d.spans.insert spanName s }
  | .tag name key value => d.changeSpan name (·.setTag key value)
  | .error name message => d.changeSpan name fun s => { s with error := message }
  | .status name code => d.changeSpan name fun s => { s with status := code }
  | .finish _ => d
  | .submit name =>
    match d.spans.find? name with
    | some s => { d with tracer := d.tracer.deliver s }
    | none => d
  | .close => { d with tracer := d.tracer.close }

/-- The report on a context and, if there is one, a span. -/
def report (d : Desk) (context : TraceContext) (spanName : Option String) : Json :=
  .object ([("ctx_trace", .string context.trace), ("ctx_span", .string context.span)]
    ++ ((spanName.bind d.spans.find?).map fun s => ("span", s.report)).toList)

end Desk

/-- The context a step shows: the one it makes, or the one it was given. -/
def Step.shownContext (given : String) : Step → String
  | .continuing _ name _ _ => name
  | .start _ _ name _ => name
  | _ => given

/-- The span a step names. -/
def Step.spanName? : Step → Option String
  | .start _ s _ _ | .tag s _ _ | .error s _ | .status s _ | .finish s | .submit s => some s
  | _ => none

/-- Reports on steps, each with the context it was given. -/
def reports (d : Desk) : List (String × Step) → List Json × Desk
  | [] => ([], d)
  | (given, s) :: rest =>
    let d := d.perform s
    let r := d.report (d.contextOf (s.shownContext given)) s.spanName?
    let (rs, d) := reports d rest
    (r :: rs, d)

end Tracer

end ObjectBridge

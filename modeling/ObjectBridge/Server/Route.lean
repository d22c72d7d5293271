import ObjectBridge.Bench.Report
import ObjectBridge.Http.Cors
import ObjectBridge.Http.Redirect
import ObjectBridge.Server.Evaluate

/-!
# `ObjectBridge.Server.Route`: answering requests

Every request passes the same gates: it becomes a span of a trace, it is
counted, its origin is checked, and its client may not ask too often. Only
then is it handled, or answered with status 404 if nothing is at its path.

A path that only has one slash too many is the exception. Such a request
is sent on to the right path before any of that.
-/

set_option autoImplicit false

namespace ObjectBridge

/-- What can be asked for. -/
inductive Route
  | root
  | health
  | classes
  | graph
  | eval
  | console
  | metrics
  | totals
  deriving DecidableEq, Repr

namespace Route

def all : List Route := [.root, .health, .classes, .graph, .eval, .console, .metrics, .totals]

def path : Route → String
  | .root => "/"
  | .health => "/health"
  | .classes => "/classes"
  | .graph => "/graph"
  | .eval => "/eval"
  | .console => "/console"
  | .metrics => "/metrics"
  | .totals => "/metrics/json"

def method : Route → String
  | .eval => "POST"
  | _ => "GET"

def find? (method path : String) : Option Route :=
  all.find? fun r => r.method = method && r.path = path

end Route

/-- Where a request goes. -/
inductive Destination
  | route (r : Route)
  /-- The path has a slash too many. -/
  | moved
  | nowhere
  deriving DecidableEq, Repr

namespace Destination

/-- A path without the slash at its end, if it has one and more. -/
def withoutSlash? (path : String) : Option String :=
  match path.toList.reverse with
  | '/' :: c :: rest => some (String.ofList (c :: rest).reverse)
  | _ => none

def find (method path : String) : Destination :=
  match Route.find? method path with
  | some r => .route r
  | none =>
    if ((withoutSlash? path).filter fun p => (Route.find? method p).isSome).isSome then .moved
    else .nowhere

/-- The name under which requests are counted. -/
def label : Destination → String
  | .route r => r.path
  | _ => "unmatched"

end Destination

namespace Server

/-! ### Handlers -/

/-- How a handler ended. -/
inductive Handled
  | answered (r : Response)
  /-- The handler was unwound; the response has a status and the headers
  that were set by then. -/
  | abandoned (status : Nat) (headers : Headers)

def describeServer (s : Server) : Json :=
  .object [("status", .string "online"), ("name", .string s.plugin.manifest.name.toStringLossy),
    ("description", .string s.plugin.manifest.description.toStringLossy),
    ("mime", .string s.plugin.mimeDescription.toStringLossy),
    ("version", .string Behaviour.versionText)]

def describeHealth (s : Server) : Json :=
  .object [("status", .string "healthy"),
    ("pool", Report.poolStats (Pool.stats (s.world.pools.getD s.pool default))),
    ("classes", Report.registryStats s.registry)]

def describeClasses (s : Server) : Json :=
  let classes := s.registry.names.filterMap s.registry.find?
  .object [("classes", .array (classes.map fun c => .object (Report.classFields c)))]

/-- The graph that a new instance would get. -/
def describeGraph (s : Server) : Handled :=
  match Graph.assemble s.registry s.plugin.manifest {} with
  | .error e => .answered (.failure 500 e.message)
  | .ok (g, root) =>
    match g.describe root with
    | some d => .answered (.json 200 (Report.description d))
    | none => .abandoned 500 {}

/-- What is said when the script is missing. -/
def scriptRequired : String :=
  "Key: 'EvalRequest.Script' Error:Field validation for 'Script' failed on the 'required' tag"

/-- The script in the body of a request, or the response without it. -/
def scriptOf (body : String) : Except Response String :=
  match decodeMembers body with
  | .error e => .error (.failure 400 e.message)
  | .ok members =>
    match textMember "script" "" members with
    | .error e => .error (.failure 400 e.message)
    | .ok script =>
      if script = "" then .error (.failure 400 scriptRequired)
      else if maxScriptBytes < script.utf8ByteSize then .error (.failure 413 "script too large")
      else .ok script

/-- The response to a run. A value without a form as JSON leaves the body
empty. -/
def runResponse (id : String) (x : Runtime.Execution) : Response :=
  let status := if x.succeeded then 200 else 422
  match x.json? id with
  | some v => .json status v
  | none => { Response.json status .null with body := .empty }

/-- Runs a script on a session of the pool. -/
def evaluate (trace : TraceContext) (script : String) : Act Handled := do
  let id ← freshId .request
  let s ← get
  let (span, _, tracer) := s.tracer.startSpan trace "script.eval"
  set { s with tracer }
  let result ← inWorld (Pool.execute s.pool script false)
  match result with
  | .error _ => return .abandoned 500 {}
  | .ok result =>
    let error := match result with
      | .error e => some e.message
      | .ok x => match x.result with
        | .error e => some e.message
        | .ok _ => none
    modify fun s => { s with tracer := s.tracer.deliver { span.setTag "request" id with error } }
    match result with
    | .error e =>
      meter fun m => m.recordScript "http" "unavailable" 0
      return .answered (.json 503 (.object [("id", .string id), ("error", .string e.message)]))
    | .ok x =>
      if x.isMute then return .abandoned 500 {}
      meter fun m => m.recordScript "http" x.status 0
      return .answered (runResponse id x)

/-- The response to one who wants a console and does not ask properly. -/
def noConsole : Response :=
  (Response.text 400 "text/plain; charset=utf-8" "Bad Request\n").withHeaders
    (.ofPairs [("Sec-Websocket-Version", "13"), ("X-Content-Type-Options", "nosniff")])

/-- Handles a request at a route. The connection of a plain request
cannot be turned into a console, which shows only when a proper handshake
has been begun. -/
def handle (trace : TraceContext) (r : Request) (route : Route) : Act Handled := do
  let s ← get
  match route with
  | .root => return .answered (.json 200 s.describeServer)
  | .health => return .answered (.json 200 s.describeHealth)
  | .classes => return .answered (.json 200 s.describeClasses)
  | .graph => return s.describeGraph
  | .metrics => return .answered { status := 200, body := .lines s.world.metrics.lines }
  | .totals =>
    let counts := s.world.metrics.snapshot.counts
    return .answered (.json 200 (.object (counts.map fun e => (e.1, .int e.2))))
  | .console => return if r.isHandshake then .abandoned 200 {} else .answered noConsole
  | .eval =>
    match scriptOf r.body with
    | .error response => return .answered response
    | .ok script => evaluate trace script

/-! ### Gates -/

/-- Does the client ask too often? -/
def admitted (r : Request) : Act Bool := do
  let s ← get
  match s.limiter with
  | none => return true
  | some l =>
    let (ok, l) := l.consider r.client r.arrival
    set { s with limiter := some l }
    return ok

/-- Handles a request whose client does not ask too often. -/
def handleLimited (trace : TraceContext) (r : Request) (d : Destination) : Act Handled := do
  if ← admitted r then
    match d with
    | .route route => handle trace r route
    | _ => return .answered .notFound
  else return .answered Limiter.refusal

/-- Handles a request whose origin is welcome. -/
def handleChecked (trace : TraceContext) (r : Request) (d : Destination) : Act Handled := do
  match ({} : CorsPolicy).verdict r with
  | .error _ => return .abandoned 500 {}
  | .ok .unrelated => handleLimited trace r d
  | .ok .refused => return .answered { status := 403 }
  | .ok (.asked fields) => return .answered { status := 204, headers := fields }
  | .ok (.allowed fields) =>
    match ← handleLimited trace r d with
    | .answered response => return .answered (response.withHeaders fields)
    | .abandoned status _ => return .abandoned status fields

/-- Handles a request as a span of a trace, and counts it. A handler that
is unwound takes both with it. -/
def handleTraced (r : Request) (d : Destination) : Act Response := do
  let s ← get
  let context : TraceContext :=
    TraceContext.continuing {} (r.headers.value "X-Trace-Id") (r.headers.value "X-Span-Id")
  let (span, inner, tracer) := s.tracer.startSpan context (r.method ++ " " ++ d.label)
  set { s with tracer }
  let fields : Headers := .ofPairs [("X-Trace-Id", span.trace), ("X-Span-Id", span.id)]
  match ← handleChecked inner r d with
  | .abandoned status headers => return ({ status, headers } : Response).withHeaders fields
  | .answered response =>
    meter fun m => m.recordRequest r.method d.label (toString response.status) 0 r.body.utf8ByteSize
      response.body.size
    modify fun s =>
      { s with tracer := s.tracer.deliver { span.setTag "http.host"
        r.host with status := response.status } }
    return response.withHeaders fields

/-- Answers a request. -/
def respond (r : Request) : Act Response := do
  match Destination.find r.method r.path with
  | .moved => return Redirect.response r
  | d => handleTraced r d

end Server

end ObjectBridge

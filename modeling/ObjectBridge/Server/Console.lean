import ObjectBridge.Server.Evaluate

/-!
# `ObjectBridge.Server.Console`: a conversation with scripts

A console is a connection with a session of its own, so what one message
defines is there for the next. Messages are counted in both directions.
The first message that cannot be read ends the conversation.
-/

set_option autoImplicit false

namespace ObjectBridge

/-- What is sent to a console. -/
structure ConsoleReply where
  type : String
  fields : List (String × Json) := []
  /-- Is nothing sent instead, because a field has no form as JSON? -/
  isBlank : Bool := false

/-- A reply as JSON, if anything is sent. -/
def ConsoleReply.json? (r : ConsoleReply) : Option Json :=
  if r.isBlank then none else some (.object (("type", .string r.type) :: r.fields))

/-- What a console sends. -/
inductive ConsoleMessage
  | eval (script : String)
  | reset
  | ping
  | unknown
  deriving DecidableEq, Repr

namespace ConsoleMessage

/-- Reads a message. -/
def decode (text : String) : Except DecodeError ConsoleMessage := do
  let members ← decodeMembers text
  let type ← textMember "type" "" members
  let script ← textMember "script" "" members
  match type with
  | "eval" => return .eval script
  | "reset" => return .reset
  | "ping" => return .ping
  | _ => return .unknown

/-- The type under which a message is counted. -/
def label : ConsoleMessage → String
  | .eval _ => "eval"
  | .reset => "reset"
  | .ping => "ping"
  | .unknown => "unknown"

end ConsoleMessage

namespace Server

def errorReply (message : String) : ConsoleReply :=
  { type := "error", fields := [("error", .string message)] }

/-- The reply to a run. -/
def resultReply (id : String) (x : Runtime.Execution) : ConsoleReply :=
  match x.json? id with
  | some v => { type := "result", fields := [("result", v)] }
  | none => { type := "result", isBlank := true }

/-- Runs a script in the session of a console. -/
def consoleRun (session : Nat) (script : String) : Act (Option ConsoleReply) := do
  if maxScriptBytes < script.utf8ByteSize then return some (errorReply "script too large")
  match ← inWorld (Session.execute session script false) with
  | .error _ => return none
  | .ok x =>
    meter fun m => m.recordScript "console" x.status 0
    let id ← freshId .request
    return if x.isMute then none else some (resultReply id x)

/-- What is replied to a message; nothing when the handler is unwound. -/
def consoleReply (session : Nat) : ConsoleMessage → Act (Option ConsoleReply)
  | .eval script => consoleRun session script
  | .reset => do
    match ← inWorld (Session.reset session) with
    | .ok (.ok _) =>
      return some { type := "reset", fields := [("instance", .string (← freshId .inst))] }
    | .ok (.error e) => return some (errorReply e.message)
    | .error _ => return none
  | .ping => return some { type := "pong" }
  | .unknown => return some (errorReply "unknown message type")

/-- Counts and sends a reply. -/
def send (reply : ConsoleReply) : Act Unit := meter fun m => m.recordConsoleMessage "out" reply.type

/-- Replies to messages, up to the first that cannot be read or replied
to. Nothing stands for the end. -/
def converse (session : Nat) : List String → Act (List (Option ConsoleReply))
  | [] => return []
  | text :: rest => do
    match ConsoleMessage.decode text with
    | .error _ => return [none]
    | .ok message =>
      meter fun m => m.recordConsoleMessage "in" message.label
      match ← consoleReply session message with
      | none => return [none]
      | some reply =>
        send reply
        return some reply :: (← converse session rest)

/-- The first reply. -/
def greeting : Act ConsoleReply := do
  let id ← freshId .session
  let inst ← freshId .inst
  return { type := "system",
           fields := [("session", .string id), ("instance", .string inst),
             ("message", .string ("Connected to " ++ (← get).plugin.manifest.name.toStringLossy))] }

/-- A whole conversation. Without a session there is only an error. -/
def console (messages : List String) : Act (List (Option ConsoleReply)) := do
  let s ← get
  match ← inWorld (Session.new s.plugin s.runtime) with
  | .error _ => return [none]
  | .ok (.error e) =>
    let reply := errorReply e.message
    send reply
    return if messages.isEmpty then [some reply] else [some reply, none]
  | .ok (.ok session) =>
    meter Metrics.consoleOpened
    let hello ← greeting
    send hello
    let replies ← converse session messages
    meter Metrics.consoleClosed
    let _ ← inWorld (Session.close session)
    return some hello :: replies

/-- The published lines about conversations and the scripts run. -/
def consoleLines (s : Server) : List String :=
  let about (name line : String) : Bool := (("scriptbridge_" ++ name).toList).isPrefixOf line.toList
  s.world.metrics.lines.filter fun line => about "ws_messages" line || about "script_runs" line

end Server

end ObjectBridge

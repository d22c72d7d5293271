import ObjectBridge.Plugin.Instance
import ObjectBridge.Bridge.Runtime

/-!
# `ObjectBridge.Plugin.Session`: plugins in script runtimes

A session is an instance in a runtime of its own, in which scripts find
the root object under a global name. Resetting a session starts over with
a new instance in a cleared runtime.
-/

set_option autoImplicit false

namespace ObjectBridge

/-- Why there is no session. -/
inductive SessionError
  | assembly (e : AssemblyError)
  | bind (e : Runtime.BindError)
  deriving DecidableEq, Repr

/-- The text of the error. -/
def SessionError.message : SessionError → String
  | .assembly e => e.message
  | .bind e => e.message

namespace Session

variable {β : Type}

/-- Changes a session. -/
def modifySession (s : Nat) (f : Session → Session) : M β Unit :=
  modify fun w => { w with sessions := w.sessions.modify s f }

/-- The session of that number, if there is one. -/
def get? (s : Nat) : M β (Option Session) := do return (← get).sessions[s]?

/-- Destroys the instance of a session, if it has one. -/
def detach (s : Nat) : M β Unit := do
  match (← get? s).bind (·.inst) with
  | some i =>
    Instance.destroy i
    modifySession s fun x => { x with inst := none }
  | none => return ()

/-- Destroys the instance and closes the runtime. -/
def close (s : Nat) : M β Unit := do
  match ← get? s with
  | none => return ()
  | some x =>
    modifySession s fun x => { x with closings := x.closings + 1 }
    detach s
    Runtime.close x.runtime

variable [Native β]

/-- Makes an instance in the session's runtime and binds its root. -/
def attach (s : Nat) : M β (Except SessionError Unit) := do
  match ← get? s with
  | none => return .ok ()
  | some x =>
    match ← Instance.new x.plugin (.script x.runtime) with
    | .error e => return .error (.assembly e)
    | .ok i =>
      match ← Runtime.bind x.runtime x.plugin.options.global (← Instance.scriptableObject i) with
      | .error e =>
        Instance.destroy i
        return .error (.bind e)
      | .ok _ =>
        modifySession s fun x => { x with inst := some i }
        return .ok ()

/-- Makes a session. -/
def new (p : Plugin) (config : RuntimeConfig) : M β (Except SessionError Nat) := do
  let runtime ← Runtime.open_ config
  let s ← modifyGet fun w =>
    (w.sessions.size, { w with sessions := w.sessions.push { plugin := p, runtime } })
  match ← attach s with
  | .ok _ => return .ok s
  | .error e =>
    Runtime.close runtime
    return .error e

/-- Starts over with a new instance in a cleared runtime. -/
def reset (s : Nat) : M β (Except SessionError Unit) := do
  match ← get? s with
  | none => return .ok ()
  | some x =>
    detach s
    Runtime.reset x.runtime
    attach s

/-- Runs a script in a session. -/
def execute (s : Nat) (script : String) (cancelled : Bool) : M β Runtime.Execution := do
  match ← get? s with
  | none => throw .fault
  | some x => Runtime.execute x.runtime script cancelled

end Session

end ObjectBridge

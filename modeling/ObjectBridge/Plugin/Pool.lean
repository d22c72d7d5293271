import ObjectBridge.Plugin.Session

/-!
# `ObjectBridge.Plugin.Pool`: sessions for many clients

A pool makes its sessions at the start and lends them out. A session that
comes back is reset before it is lent again; one that cannot be reset is
closed, and a new one takes its place if one can be made. Once a pool is
closed, sessions that come back are closed too.
-/

set_option autoImplicit false

namespace ObjectBridge.Pool

variable {β : Type}

/-- Why no session was lent. -/
inductive AcquireError
  | closed
  | cancelled
  | timeout
  deriving DecidableEq, Repr

/-- The text of the error. -/
def AcquireError.message : AcquireError → String
  | .closed => "session pool is closed"
  | .cancelled => "context canceled"
  | .timeout => "session acquisition timeout"

/-- Changes a pool. -/
def modifyPool (p : Nat) (f : Pool → Pool) : M β Unit :=
  modify fun w => { w with pools := w.pools.modify p f }

/-- The pool of that number. -/
def pool (p : Nat) : M β Pool := do return (← get).pools.getD p default

/-- Enters how many sessions are lent. -/
def countUse (x : Pool) (n : Int) : M β Unit :=
  modify fun w => if x.plugin.metered then { w with metrics := w.metrics.poolUsed n } else w

/-- Takes a new session in. -/
def enrol (p : Nat) (s : Nat) : M β Unit :=
  modifyPool p fun x => { x with idle := x.idle ++ [s], made := x.made ++ [s] }

/-- Closes sessions. -/
def closeSessions : List Nat → M β Unit
  | [] => return ()
  | s :: rest => do
    Session.close s
    closeSessions rest

/-- Closes a pool and the sessions in it. -/
def close (p : Nat) : M β Unit := do
  let x ← pool p
  if x.closed then return ()
  modifyPool p fun x => { x with closed := true, idle := [] }
  closeSessions x.idle

/-- Lends a session. Without one ready, it depends on who gives up
first. A caller who gives up while a session is ready may get the session or
not; here it is lent. -/
def acquire (p : Nat) (cancelled : Bool) : M β (Except AcquireError Nat) := do
  let x ← pool p
  if x.closed then return .error .closed
  match x.idle with
  | s :: rest =>
    modifyPool p fun x => { x with idle := rest }
    countUse x 1
    return .ok s
  | [] => return .error (if cancelled then .cancelled else .timeout)

/-- What is said about a pool. -/
structure Stats where
  size : Nat
  available : Nat
  inUse : Int
  closed : Bool
  deriving DecidableEq, Repr

/-- What a pool says about itself. A session is in use if it is not available.
-/
def stats (x : Pool) : Stats :=
  let available := if x.closed then 0 else x.idle.length
  { size := x.size, available, inUse := (x.size : Int) - available, closed := x.closed }

variable [Native β]

/-- Makes `n` sessions, stopping at the first that cannot be made. -/
def fill (p : Nat) : (n : Nat) → M β (Except SessionError Unit)
  | 0 => return .ok ()
  | n + 1 => do
    let x ← pool p
    match ← Session.new x.plugin x.config with
    | .error e => return .error e
    | .ok s =>
      enrol p s
      fill p n

/-- Makes a pool. Without a positive size there are four sessions. -/
def new (plugin : Plugin) (config : RuntimeConfig)
    (size : Int) : M β (Except SessionError Nat) := do
  let size := if size ≤ 0 then 4 else size.toNat
  let p ← modifyGet fun w =>
    (w.pools.size, { w with pools := w.pools.push { plugin, config, size } })
  match ← fill p size with
  | .ok _ => return .ok p
  | .error e =>
    close p
    return .error e

/-- Takes a session back. -/
def release (p : Nat) (s : Nat) : M β (Except SessionError Unit) := do
  let x ← pool p
  countUse x (-1)
  if x.closed then
    Session.close s
    return .ok ()
  match ← Session.reset s with
  | .error e =>
    Session.close s
    match ← Session.new x.plugin x.config with
    | .ok fresh => enrol p fresh
    | .error _ => pure ()
    return .error e
  | .ok _ =>
    if x.idle.length < x.size then
      modifyPool p fun x => { x with idle := x.idle ++ [s] }
      return .ok ()
    else
      Session.close s
      return .ok ()

/-- Runs a script on a lent session. -/
def execute (p : Nat) (script : String)
    (cancelled : Bool) : M β (Except AcquireError Runtime.Execution) := do
  match ← acquire p cancelled with
  | .error e => return .error e
  | .ok s =>
    cleanly (return .ok (← Session.execute s script cancelled)) (do let _ ← release p s)

end ObjectBridge.Pool

import ObjectBridge.Bridge.Native

/-!
# `ObjectBridge.Bridge.Accessor`: reading and writing host objects

An accessor follows a policy for indexes and times every primitive it
calls, when there is a recorder. A read that is unwound leaves its
measurement open; a write and the making of an array do not.
-/

set_option autoImplicit false

namespace ObjectBridge

/-- Reads and writes properties for native code under a policy. -/
structure Accessor where
  policy : IndexPolicy := {}
  /-- The number of the recorder, when operations are timed. -/
  recorder : Option Nat := none
  deriving Repr

variable {β : Type}

/-- Changes a recorder, if there is one. -/
def withRecorder (recorder : Option Nat) (f : Recorder → Recorder) : M β Unit :=
  match recorder with
  | some i => modify fun w => { w with recorders := w.recorders.modify i f }
  | none => return ()

/-- Begins a measurement, if there is a recorder. -/
def startTimer (recorder : Option Nat) (key : Bytes) : M β Unit :=
  withRecorder recorder fun r => r.start key 0

/-- Ends a measurement, if there is a recorder. -/
def stopTimer (recorder : Option Nat) (key : Bytes) : M β Unit :=
  withRecorder recorder fun r => r.stop key 0

/-- Leaves a measurement open, if there is a recorder. -/
def strandTimer (recorder : Option Nat) (key : Bytes) : M β Unit :=
  withRecorder recorder fun r => r.strand key

namespace Accessor

/-- Times a primitive; the measurement stays open when the primitive is
unwound. -/
def timed {α : Type} (a : Accessor) (primitive : String) (act : M β α) : M β α := do
  let key := Bytes.ofString ("host." ++ primitive)
  startTimer a.recorder key
  let x ← noting act (strandTimer a.recorder key)
  stopTimer a.recorder key
  return x

/-- Times a primitive; the measurement is closed in any case. -/
def timedCleanly {α : Type} (a : Accessor) (primitive : String) (act : M β α) : M β α := do
  let key := Bytes.ofString ("host." ++ primitive)
  startTimer a.recorder key
  cleanly act (stopTimer a.recorder key)

/-- Reads a property by name. There is none when the host says so. -/
def getNamed (a : Accessor) (ops : HostOps β) (host : HostId) (o : ObjectRef) (name : Bytes) :
    M β (Option Variant) := do
  let id ← a.timed "StringIdentifier" (stringIdentifier host name)
  if ← a.timed "HasProperty" (ops.hasProperty host o id) then
    a.timed "GetProperty" (ops.getProperty host o id)
  else return none

/-- Reads a property by index, as the policy says. -/
def getIndexed (a : Accessor) (ops : HostOps β) (host : HostId) (o : ObjectRef) (index : Int32) :
    M β (Option Variant) := do
  let id ← a.timed "IntIdentifier" (intIdentifier host index)
  if a.policy.skipExistenceCheck then
    match ← a.timed "GetProperty" (ops.getProperty host o id), a.policy.missing with
    | some v, _ => return some v
    | none, .undefined => return some .void
    | none, .null => return some .null
    | none, .absent => return none
  else if ← a.timed "HasProperty" (ops.hasProperty host o id) then
    a.timed "GetProperty" (ops.getProperty host o id)
  else return none

/-- Stores a borrowed variant under a name. -/
def setNamed (a : Accessor) (ops : HostOps β) (host : HostId) (o : ObjectRef) (name : Bytes)
    (v : Variant) :
    M β Bool := do
  let id ← a.timed "StringIdentifier" (stringIdentifier host name)
  a.timedCleanly "SetProperty" (ops.setProperty host o id v)

/-- Stores a borrowed variant under an index. -/
def setIndexed (a : Accessor) (ops : HostOps β) (host : HostId) (o : ObjectRef) (index : Int32)
    (v : Variant) :
    M β Bool := do
  let id ← a.timed "IntIdentifier" (intIdentifier host index)
  a.timedCleanly "SetProperty" (ops.setProperty host o id v)

/-- Evaluates the empty array in the scope of the global object, which is
then given back. -/
def evaluateArray (a : Accessor) (ops : HostOps β) (host : HostId) (window : ObjectRef) :
    M β (Option ObjectRef) := do
  match ← a.timed "Evaluate" (ops.evaluate host (some window) (.ofString "[]")) with
  | none => return none
  | some (.object o) => return some o
  | some v =>
    a.timed "ReleaseVariant" (releaseVariant host v)
    return none

/-- Asks the host for a new empty array, owned by the caller. -/
def createArray (a : Accessor) (ops : HostOps β) (host : HostId) : M β (Option ObjectRef) := do
  let key := Bytes.ofString "CreateArray"
  startTimer a.recorder key
  cleanly (do
    match ← a.timed "WindowObject" (windowObject host) with
    | none => return none
    | some window => cleanly (a.evaluateArray ops host window) (release window))
    (stopTimer a.recorder key)

end Accessor

/-- The accessor native code uses in a context: that of the instance, or
one without policy and recorder. -/
def accessorFor (ctx : Context) : M β Accessor := do
  match (← get).instanceOf? ctx with
  | some i => return { policy := i.plugin.options.index, recorder := i.recorder }
  | none => return {}

/-- The wide encoding native code uses in a context. -/
def encodingFor (ctx : Context) : M β WideEncoding := do
  match (← get).instanceOf? ctx with
  | some i => return i.plugin.options.wide
  | none => return .platform

end ObjectBridge

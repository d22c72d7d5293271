import ObjectBridge.Bridge.Proxy
import ObjectBridge.Script.Parser
import ObjectBridge.Script.Step
import ObjectBridge.Text.Template

/-!
# `ObjectBridge.Bridge.ScriptHost`: scripts as a host

A runtime runs scripts and serves their requests to native objects. A
proxy reaches a script as an object of its own; the runtime holds a
reference to the proxy for as long as the script may hold the object,
that is, until it is reset or closed. Values cross in both directions:

* `toVariant` makes a variant that belongs to the caller, and
* `toValue` makes a value from a variant that is only borrowed.

An exception raised by a proxy is thrown into the script, and what a
script throws unwinds the native code that called it.
-/

set_option autoImplicit false

namespace ObjectBridge.ScriptHost

open Script (Value Realm Machine Control Text Key)

variable {β : Type}

/-- Steps any script may make, also one that is to be interrupted soon. -/
def leastSteps : Nat := 2000000

/-- Steps that no script may exceed. -/
def mostSteps : Nat := 16000000

/-- Steps a script makes in a millisecond. -/
def stepsPerMillisecond : Nat := 3200

/-- Steps a script may make before it has run for too long. -/
def stepLimit (c : RuntimeConfig) : Nat :=
  if c.timeout ≤ 0 then mostSteps
  else min mostSteps (max leastSteps (c.timeout.toNat * stepsPerMillisecond))

/-- Functions that may be entered when nothing else is said. -/
def defaultCallStack : Nat := 100000

/-- How deep calls may be nested. -/
def limitOf (c : RuntimeConfig) : Nat := c.callStack.getD defaultCallStack

/-! ### Values -/

/-- Changes the heap. -/
def withHeap {α : Type} (f : Script.Heap → α × Script.Heap) : M β α :=
  modifyGet fun w =>
    let h := w.heap
    let w := { w with heap := {} }
    let (x, h) := f h
    (x, { w with heap := h })

/-- Throws a new error into the script. Its message is read as a
template. -/
def throwText {α : Type} (i : Nat) (message : Bytes) : M β α := do
  let realm := ((← get).runtime i).realm
  let text := (Template.fill message).toStringLossy
  let e ← withHeap fun h => let (h, e) := h.newError realm "TypeError" text; (e, h)
  throw (.thrown (.object e))

/-- The native object behind a script object, if the runtime made it
since it was last reset. -/
def unwrap? (i : Nat) (o : Script.ObjId) : M β (Option ObjectRef) := do
  let w ← get
  let r := w.runtime i
  match (w.heap.obj o).kind with
  | .native realm ref => return if r.isOpen && realm = r.realm.number && w.has ref then some ref
  else none
  | _ => return none

/-- A text as a string in the host's bytes, unless there are too few. -/
def textVariant? (i : Nat) (t : Text) : M β (Option Variant) := do
  let bytes := t.toBytes
  if ← memAlloc (.script i) bytes.length then return some (.string bytes) else return none

/-- A value as a variant that belongs to the caller. Big integers have no
variant, and a string may not find the bytes. -/
def toVariant (i : Nat) (v : Value) : M β (Option Variant) := do
  match v with
  | .undefined => return some .void
  | .null => return some .null
  | .bool b => return some (.bool b)
  | .number n => return some (.ofNumber n)
  | .bigint _ => return none
  | .string t => textVariant? i t
  | .symbol s => textVariant? i s.label
  | .object o =>
    match ← unwrap? i o with
    | some ref =>
      retain ref
      return some (.object ref)
    | none => return some (.object (← newHandle i o))

/-- Makes a proxy known to scripts. The runtime holds it from now on. -/
def exposeObject (i : Nat) (ref : ObjectRef) : M β Value := do
  retain ref
  modifyRuntime i fun r => { r with adopted := ref :: r.adopted }
  let r := (← get).runtime i
  if r.isOpen then
    let o ← withHeap fun h => let (h, o) := h.newNative r.realm ref; (o, h)
    return .object o
  else throw .fault

/-- A borrowed variant as a value. Objects of the in-memory host are
nothing to a script. -/
def toValue (i : Nat) (v : Variant) : M β Value := do
  match v with
  | .void => return .undefined
  | .null => return .null
  | .bool b => return .bool b
  | .int32 n => return .number (Float.ofInt n.toInt)
  | .double d => return .number d
  | .string bytes => return .string (.ofBytes bytes)
  | .object (.handle h) => return .object ((← get).handles.getD h default).object
  | .object (.proxy p) => exposeObject i (.proxy p)
  | .object (.table _) => return .null

/-- Throws the pending exception into the script. A string becomes the
message of an error; the reference of an object is used up. -/
def throwPending {α : Type} (i : Nat) (slot : Slot) : M β α := do
  match (slot.getD {}).value with
  | .string bytes => throwText i bytes
  | v =>
    let value ← toValue i v
    match v with
    | .object o => release o
    | _ => pure ()
    throw (.thrown value)

/-- Has the request failed? -/
def pending (slot : Slot) : Bool := (slot.getD {}).isPending

/-! ### Requests of scripts -/

/-- What a script gets back. -/
inductive Reply
  | value (v : Value)
  | absent
  | names (keys : List Key)

/-- How the machine goes on after a reply. -/
def Reply.control : Reply → Control
  | .value v => .give v
  | .absent => .absent
  | .names keys => .names keys

/-- Arguments as variants, together with those made before one could not
be. -/
def toVariants (i : Nat) : (done : List Variant) → List Value → M β (List Variant × Bool)
  | done, [] => return (done.reverse, true)
  | done, v :: rest => do
    match ← toVariant i v with
    | some x => toVariants i (x :: done) rest
    | none => return (done.reverse, false)

section

variable [Native β]

/-- Does a native object answer to a name? -/
def serveHas (p : Proxy) (key : Bytes) : M β Bool := do
  let (method, slot) ← p.hasMethod (.string key) (some {})
  if method then return true
  return (← p.hasProperty (.string key) slot).1

/-- Reads a name of a native object: a method becomes a function. -/
def serveGet (ops : HostOps β) (i : Nat) (ref : ObjectRef) (p : Proxy)
    (key : String) : M β Reply := do
  let name := Variant.ofText key
  let (method, slot) ← p.hasMethod name (some {})
  if method then
    let realm := ((← get).runtime i).realm
    let f ← withHeap fun h => let (h, f) := h.newNativeMethod realm ref key; (f, h)
    return .value (.object f)
  let (property, slot) ← p.hasProperty name slot
  if !property then
    if pending slot then throwPending i slot else return .absent
  else
    let (v, slot) ← p.getProperty ops name slot
    if pending slot then throwPending i slot
    else cleanly (return .value (← toValue i v)) (releaseVariant (.script i) v)

/-- Writes a name of a native object. -/
def serveSet (ops : HostOps β) (i : Nat) (p : Proxy) (key : String) (v : Value) : M β Reply := do
  match ← toVariant i v with
  | none => throwText i (.ofString "cannot pass value to native object")
  | some x =>
    cleanly (do
      let slot ← p.setProperty ops (.ofText key) x (some {})
      if pending slot then throwPending i slot else return .value .undefined)
      (releaseVariant (.script i) x)

/-- The names of a native object's members. -/
def serveKeys (i : Nat) (p : Proxy) : M β Reply := do
  let (names, slot) ← p.propertyNames (some {})
  if pending slot then throwPending i slot
  else
    let names := names.getD []
    releaseAll (.script i) names
    return .names (names.map fun n => .ofText (.ofBytes n.asBytes))

/-- Calls a method of a native object, or constructs it when there is no
method. -/
def serveCall (ops : HostOps β) (i : Nat) (p : Proxy) (method : Variant)
    (args : List Value) : M β Reply := do
  let (variants, complete) ← toVariants i [] args
  cleanly (do
    if !complete then throwText i (.ofString "cannot pass argument to native method")
    else
      let (result, slot) ← p.call ops method variants (some {})
      if pending slot then
        releaseVariant (.script i) result
        throwPending i slot
      else cleanly (return .value (← toValue i result)) (releaseVariant (.script i) result))
    (releaseAll (.script i) variants)

/-- The proxy a request is for. -/
def requested (ref : ObjectRef) : M β Proxy := do
  match ref with
  | .proxy p =>
    match (← get).proxies[p]? with
    | some x => return x
    | none => throw .fault
  | _ => throw .fault

/-- Serves a request of a script. -/
def serve (ops : HostOps β) (i : Nat) (q : Script.Request) : M β Reply := do
  match q with
  | .get ref key => serveGet ops i ref (← requested ref) key
  | .set ref key v => serveSet ops i (← requested ref) key v
  | .has ref key => return .value (.bool (← serveHas (← requested ref) (.ofString key)))
  | .keys ref => serveKeys i (← requested ref)
  | .call ref method args => serveCall ops i (← requested ref) (.ofText method) args
  | .construct ref args => serveCall ops i (← requested ref) .void args
  | .log level message =>
    modifyRuntime i fun r => { r with console := r.console ++ [(level, message)] }
    return .value .undefined

/-! ### Running scripts -/

/-- Runs a machine until it ends, serving its requests. At most `rounds`
requests are served. -/
def drive (ops : HostOps β) (i : Nat) : (rounds : Nat) → Machine → M β Script.Outcome
  | 0, _ => throw .interrupted
  | rounds + 1, m => do
    let r := (← get).runtime i
    let (left, stop) ← withHeap fun h =>
      let (h, left, stop) := Script.run r.realm (limitOf r.config) r.steps h m
      ((left, stop), h)
    modifyRuntime i fun r => { r with steps := left }
    match stop with
    | .spent => throw .interrupted
    | .done o => return o
    | .ask q stack depth =>
      modifyRuntime i fun r => { r with depth }
      let reply ← caught (serve ops i q)
      match reply with
      | .ok reply => drive ops i rounds { control := reply.control, stack, depth }
      | .error (.thrown v) => drive ops i rounds { control := .throw v, stack, depth }
      | .error u => throw u

/-- Runs a machine, on top of what is already running. Only a machine
with nothing below it has `steps` to itself. -/
def runMachine (ops : HostOps β) (i : Nat) (steps : Nat) (m : Machine) : M β Script.Outcome := do
  let r := (← get).runtime i
  if r.running then
    cleanly (drive ops i (r.steps + 1) m) (modifyRuntime i fun x => { x with depth := r.depth })
  else
    modifyRuntime i fun x => { x with running := true, steps }
    withHeap fun h => ((), { h with effort := 0 })
    cleanly (drive ops i (steps + 1) m) (modifyRuntime i fun x =>
      { x with running := false, depth := 0 })

/-- The result of a run, when nothing was thrown. -/
def outcomeValue (o : Script.Outcome) : M β (Option Value) :=
  match o with
  | .value v => return some v
  | .absent => return none
  | .thrown v => throw (.thrown v)
  | .overflow => throw .overflow

/-- Reads a property of a script object. -/
def fetch (ops : HostOps β) (i : Nat) (o : Script.ObjId) (key : Key) : M β (Option Value) := do
  let depth := ((← get).runtime i).depth
  outcomeValue (← runMachine ops i mostSteps { control := .fetch (some o) key (.object o), depth })

/-- Stores a property of a script object, and says whether that was
possible. -/
def assign (ops : HostOps β) (i : Nat) (o : Script.ObjId) (key : Key)
    (v : Value) : M β (Except Unwind Unit) := do
  let depth := ((← get).runtime i).depth
  let m : Machine := { control := .store o key v true, depth }
  match ← caught (do outcomeValue (← runMachine ops i mostSteps m)) with
  | .ok _ => return .ok ()
  | .error (.misuse s) => throw (.misuse s)
  | .error .fault => throw .fault
  | .error u => return .error u

/-- A value as text. -/
def textOf (ops : HostOps β) (i : Nat) (v : Value) : M β Text := do
  let depth := ((← get).runtime i).depth
  match v with
  | .symbol s => return s.label
  | v =>
    match ← outcomeValue (← runMachine ops i mostSteps
      { control := .primitive v .text, stack := [.toText], depth }) with
    | some (.string t) => return t
    | _ => return default

/-- The property name of an identifier. -/
def keyOf (id : Identifier) : Key := .ofText (.ofBytes id.text)

/-! ### The operations of a host -/

/-- Does the object have the property? A script object is asked for its value.
-/
def hasProperty (ops : HostOps β) (i : Nat) (o : ObjectRef) (id : Identifier) : M β Bool := do
  let w ← get
  match o with
  | .handle h => return (← fetch ops i (w.handles.getD h default).object (keyOf id)).isSome
  | .proxy p => return (← (w.proxy p).hasProperty (.string id.text) (some {})).1
  | .table _ => return false

/-- Reads a property of a script object or of a proxy. -/
def getProperty (ops : HostOps β) (i : Nat) (o : ObjectRef)
    (id : Identifier) : M β (Option Variant) := do
  let w ← get
  match o with
  | .handle h =>
    match ← fetch ops i (w.handles.getD h default).object (keyOf id) with
    | some v => toVariant i v
    | none => return none
  | .proxy p =>
    let (v, slot) ← (w.proxy p).getProperty ops (.string id.text) (some {})
    if pending slot then
      releaseVariant (.script i) v
      abandon slot
      return none
    else return some v
  | .table _ => return none

/-- Writes a property of a script object or of a proxy. -/
def setProperty (ops : HostOps β) (i : Nat) (o : ObjectRef) (id : Identifier)
    (v : Variant) : M β Bool := do
  let w ← get
  match o with
  | .handle h =>
    let value ← toValue i v
    return (← assign ops i (w.handles.getD h default).object (keyOf id) value).isOk
  | .proxy p =>
    let slot ← (w.proxy p).setProperty ops (.string id.text) v (some {})
    abandon slot
    return !pending slot
  | .table _ => return false

/-- Runs a program in the realm of a runtime. A program run by native
code counts as a function that was entered, and leaves the value of the
program that waits for it alone. Without one that waits there is no value. -/
def runProgram (ops : HostOps β) (i : Nat) (program : Script.Program)
    (steps : Nat) : M β Script.Outcome := do
  let w ← get
  let r := w.runtime i
  if r.running && limitOf r.config ≤ r.depth then throw .overflow
  let depth := if r.running then r.depth + 1 else 0
  let waiting := if r.running then w.heap.result else .undefined
  let machine ← withHeap fun h =>
    let h := { h with result := .undefined }
    match Script.refusedFunction? r.realm h program with
    | some name =>
      let (h, e) := h.newError r.realm "TypeError" ("Cannot redefine global function '" ++
          name ++ "'")
      (({ control := .throw (.object e), depth } : Machine), h)
    | none => (.ofProgram r.realm program depth, Script.prepare r.realm h program)
  cleanly (runMachine ops i steps machine) (withHeap fun h => ((), { h with result := waiting }))

/-- Evaluates a script. One that cannot be read, or is stopped, or throws,
has no result. -/
def evaluate (ops : HostOps β) (i : Nat) (scope : Option ObjectRef)
    (script : Bytes) : M β (Option Variant) := do
  let r := (← get).runtime i
  if scope.isNone || !r.isOpen || r.watch.flag.isSome then return none
  match script.toString?.bind Script.parse? with
  | none => return none
  | some program =>
    match ← caught (runProgram ops i program mostSteps) with
    | .ok (.value v) => toVariant i v
    | .ok .absent => return some .void
    | .ok _ => return none
    | .error (.misuse s) => throw (.misuse s)
    | .error .fault => throw .fault
    | .error _ => return none

end

end ObjectBridge.ScriptHost

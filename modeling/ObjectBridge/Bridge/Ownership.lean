import ObjectBridge.Bridge.World

/-!
# `ObjectBridge.Bridge.Ownership`: references and bytes

Who holds an object holds a reference to it, and who holds a string from
a host holds the host's bytes. `releaseVariant` gives both back.

The two hosts differ in their books: the in-memory host counts its calls
and lets its byte count go below zero, a script runtime does neither.
-/

set_option autoImplicit false

namespace ObjectBridge

variable {β : Type}

/-! ### References -/

/-- Takes a reference to an object. -/
def retain (o : ObjectRef) : M β Unit :=
  modify fun w =>
    match o with
    | .table i => { w with tables := w.tables.modify i fun t => { t with refs := t.refs.retain } }
    | .proxy i => { w with proxies := w.proxies.modify i fun p => { p with refs := p.refs.retain } }
    | .handle i =>
      { w with handles := w.handles.modify i fun h => { h with refs := h.refs.retain } }

/-- Drops a count by one, and says what that did to the object. -/
def dropRef (o : ObjectRef) (w : World β) : RefCount.Fate × World β :=
  match o with
  | .table i =>
    let (c, fate) := (w.table i).refs.release
    (fate, { w with tables := w.tables.modify i fun t => { t with refs := c } })
  | .proxy i =>
    let (c, fate) := (w.proxy i).refs.release
    (fate, { w with proxies := w.proxies.modify i fun p => { p with refs := c } })
  | .handle i =>
    let (c, fate) := (w.handles.getD i default).refs.release
    (fate, { w with handles := w.handles.modify i fun h => { h with refs := c } })

/-- Gives a reference back. Losing the last reference to a proxy of an
instance is counted. -/
def release (o : ObjectRef) : M β Unit := do
  match ← modifyGet (dropRef o) with
  | .kept => return ()
  | .unretained => throw (.misuse RefCount.unretainedMessage)
  | .freed =>
    match o with
    | .proxy i => meter ((← get).proxy i).context Metrics.wrapperReleased
    | _ => return ()

/-- A new table of the in-memory host that nobody holds. -/
def newTable (t : Table) : M β ObjectRef :=
  modifyGet fun w => (.table w.tables.size, { w with tables := w.tables.push t })

/-- A new handle on a script object, held once. -/
def newHandle (runtime : Nat) (object : Script.ObjId) : M β ObjectRef :=
  modifyGet fun w =>
    (.handle w.handles.size,
      { w with handles := w.handles.push { refs := { refs := 1 }, runtime, object } })

/-- A new proxy of a node, held once. -/
def newProxy (ctx : Context) (node : NodeId) : M β ObjectRef := do
  let i ← modifyGet fun w =>
    (w.proxies.size,
      { w with proxies := w.proxies.push { refs := { refs := 1 }, context := ctx, node } })
  meter ctx Metrics.wrapperCreated
  return .proxy i

/-! ### Bytes -/

/-- Counts a call of the in-memory host. -/
def countCall (name : String) : M β Unit :=
  modifyMemory fun m => { m with calls := m.calls.alter name fun n => n.getD 0 + 1 }

/-- May a runtime with a budget give out `size` more bytes? -/
def withinBudget (maxAlloc allocated size : Int) : Bool :=
  maxAlloc ≤ 0 || allocated + size ≤ maxAlloc

/-- Asks a host for bytes, and says whether it gave them. -/
def memAlloc (host : HostId) (size : Int) : M β Bool := do
  match host with
  | .memory =>
    countCall "MemAlloc"
    let m := (← get).memory
    if size < 0 || (0 < m.allocLimit && m.allocLimit < size) then return false
    modifyMemory fun m => { m with allocated := m.allocated + size }
    return true
  | .script i =>
    let r := (← get).runtime i
    if size < 0 || !withinBudget r.config.maxAlloc r.allocated size then return false
    modifyRuntime i fun r => { r with allocated := r.allocated + size }
    return true

/-- Gives bytes back to a host. -/
def memFree (host : HostId) (size : Nat) : M β Unit :=
  match host with
  | .memory => do
    countCall "MemFree"
    modifyMemory fun m => { m with allocated := m.allocated - size }
  | .script i => modifyRuntime i fun r => { r with allocated := max 0 (r.allocated - size) }

/-- Gives back what a variant holds. -/
def releaseVariant (host : HostId) (v : Variant) : M β Unit := do
  if host = .memory then countCall "ReleaseVariant"
  match v with
  | .string bytes => memFree host bytes.length
  | .object o => release o
  | _ => return ()

/-- Gives back what variants hold, in order. -/
def releaseAll (host : HostId) : List Variant → M β Unit
  | [] => return ()
  | v :: rest => do
    releaseVariant host v
    releaseAll host rest

/-! ### Making variants -/

/-- A string in the host's bytes. The empty string needs none. -/
def valueFromString (host : HostId) (bytes : Bytes) : M β (Except Failure Variant) := do
  if bytes = [] then return .ok (.string [])
  if ← memAlloc host bytes.length then return .ok (.string bytes)
  else return .error (.allocation bytes.length)

/-- Wide text as a string in the host's bytes. -/
def valueFromWide (host : HostId) (enc : WideEncoding) (units : List UInt32) :
    M β (Except Failure Variant) := do
  match Wide.toUtf8 enc units with
  | .ok bytes => valueFromString host bytes
  | .error e => return .error (.text e)

/-- A variant of one's own like a borrowed one: a string is copied, an
object is held once more. -/
def copyVariant (host : HostId) (v : Variant) : M β (Except Failure Variant) := do
  match v with
  | .string bytes => valueFromString host bytes
  | .object o =>
    retain o
    return .ok v
  | v => return .ok v

/-- The bytes a host has given out and not got back. -/
def allocatedBy (host : HostId) : M β Int := do
  let w ← get
  match host with
  | .memory => return w.memory.allocated
  | .script i => return (w.runtime i).allocated

end ObjectBridge

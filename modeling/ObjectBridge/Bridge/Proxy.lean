import ObjectBridge.Bridge.Accessor

/-!
# `ObjectBridge.Bridge.Proxy`: answering a host's requests

A proxy checks the shape of a request, passes it to its node, and turns a
failure into the exception of the request. The exception slot is passed
in and handed back; there may be none.

A failure is entered in two places: in the slot, where the first one
stays, and as the instance's last error, where the last one stays.
-/

set_option autoImplicit false

namespace ObjectBridge

variable {β : Type}

/-! ### Nodes -/

namespace Node

variable [Native β]

/-- Reads a property of a node. A child comes as a new proxy. -/
def getProperty (ops : HostOps β) (ctx : Context) (n : NodeId)
    (name : Bytes) : M β (Except Failure Variant) := do
  match (← get).graph.property? n name with
  | some (.declared { get := some code, .. }) => Native.call ops ctx code []
  | some (.declared _) => return .error .unknownProperty
  | some (.child c) => return .ok (.object (← newProxy ctx c))
  | none => return .error .unknownProperty

/-- Writes a property of a node. -/
def setProperty (ops : HostOps β) (ctx : Context) (n : NodeId) (name : Bytes) (v : Variant) :
    M β (Except Failure Unit) := do
  match (← get).graph.declaration? n name with
  | some { set := some code, .. } => Native.store ops ctx code v
  | some _ => return .error .readOnlyProperty
  | none => return .error .unknownProperty

/-- Calls a method of a node. -/
def call (ops : HostOps β) (ctx : Context) (n : NodeId) (name : Bytes) (args : List Variant) :
    M β (Except Failure Variant) := do
  match (← get).graph.method? n name with
  | some code => Native.call ops ctx code args
  | none => return .error .methodNotFound

/-- Constructs a node. -/
def construct (ops : HostOps β) (ctx : Context) (n : NodeId) (args : List Variant) :
    M β (Except Failure Variant) := do
  match (← get).graph.constructor? n with
  | some code => Native.call ops ctx code args
  | none => return .error .missingConstructor

end Node

/-! ### Requests -/

/-- The exception slot of a request, if it has one. -/
abbrev Slot := Option ExceptionSlot

/-- Leaves the exception of a request alone. An object it carries is with
nobody from then on. -/
def abandon (slot : Slot) : M β Unit :=
  match (slot.getD {}).value with
  | .object o => modify fun w => { w with abandoned := o :: w.abandoned }
  | _ => return ()

namespace Proxy

/-- The name a node's measurements go by. -/
def className (g : Graph β) (n : NodeId) : Bytes :=
  match g.class? n with
  | some c => if c.name = [] then .ofString "Namespace" else c.name
  | none => .ofString "Namespace"

/-- Times a request of an instance that is profiled. -/
def measured {α : Type} (p : Proxy) (operation : String) (name : Bytes) (act : M β α) : M β α := do
  let w ← get
  let recorder := (w.instanceOf? p.context).bind (·.recorder)
  let key := className w.graph p.node ++ .ofString ("::" ++ operation ++ "(") ++ name ++
      .ofString ")"
  startTimer recorder key
  cleanly act (stopTimer recorder key)

/-- Gives back the object that a failure throws, if it throws one. -/
def dropThrown (f : Failure) : M β Unit :=
  match f.thrown? with
  | some (.object o) => release o
  | _ => return ()

/-- Enters a failure in the slot. A thrown object that the slot does not
take is given back. -/
def raiseInto (slot : Slot) (f : Failure) : M β Slot := do
  let (recorded, slot) := ExceptionSlot.raiseInto slot f.exceptionValue
  if !recorded then dropThrown f
  return slot

/-- Makes a message the last error of the instance a context belongs
to. -/
def setLastError (ctx : Context) (message : Bytes) : M β Unit := do
  match ctx.inst with
  | some i =>
    modifyInstance i fun x => { x with lastError := message }
    meter ctx fun m => m.recordException (Failure.label message)
  | none => return ()

/-- Reports a failure. -/
def fail (p : Proxy) (slot : Slot) (f : Failure) : M β Slot := do
  let slot ← raiseInto slot f
  setLastError p.context f.describe
  return slot

/-- Turns an answer into the variant and the slot of a request. -/
def answer (p : Proxy) (slot : Slot) : Except Failure Variant → M β (Variant × Slot)
  | .ok v => return (v, slot)
  | .error f => return (.void, ← p.fail slot f)

/-- Does the node have a method? -/
def hasMethod (p : Proxy) (name : Variant) (slot : Slot) : M β (Bool × Slot) := do
  match name with
  | .string n => p.measured "HasMethod" n do return ((← get).graph.hasMethod p.node n, slot)
  | _ => return (false, ← p.fail slot .methodNameNotString)

/-- Does the node have a property? -/
def hasProperty (p : Proxy) (name : Variant) (slot : Slot) : M β (Bool × Slot) := do
  match name with
  | .string n => p.measured "HasProperty" n do return ((← get).graph.hasProperty p.node n, slot)
  | _ => return (false, ← p.fail slot .propertyNameNotString)

/-- The names as strings in the host's bytes; those made before an
allocation fails are given back. -/
def nameVariants (host : HostId) :
    (done : List Variant) → List Bytes → M β (Except Failure (List Variant))
  | done, [] => return .ok done.reverse
  | done, name :: rest => do
    match ← valueFromString host name with
    | .ok v => nameVariants host (v :: done) rest
    | .error f =>
      releaseAll host done.reverse
      return .error f

/-- The names of the node's members, which belong to the caller; there
are none when the request fails. -/
def propertyNames (p : Proxy) (slot : Slot) : M β (Option (List Variant) × Slot) :=
  p.measured "PropertyNames" [] do
    match ← nameVariants p.context.host [] ((← get).graph.memberNames p.node) with
    | .ok names => return (some names, slot)
    | .error f => return (none, ← p.fail slot f)

variable [Native β]

/-- Reads a property. -/
def getProperty (p : Proxy) (ops : HostOps β) (name : Variant)
    (slot : Slot) : M β (Variant × Slot) := do
  match name with
  | .string n =>
    p.measured "GetProperty" n do p.answer slot (← Node.getProperty ops p.context p.node n)
  | _ => return (.void, ← p.fail slot .propertyNameNotString)

/-- Writes a property. -/
def setProperty (p : Proxy) (ops : HostOps β) (name v : Variant) (slot : Slot) : M β Slot := do
  match name with
  | .string n =>
    p.measured "SetProperty" n do
      match ← Node.setProperty ops p.context p.node n v with
      | .ok _ => return slot
      | .error f => p.fail slot f
  | _ => p.fail slot .propertyNameNotString

/-- Constructs the node. -/
def construct (p : Proxy) (ops : HostOps β) (args : List Variant) (slot : Slot) :
    M β (Variant × Slot) :=
  p.measured "Construct" [] do p.answer slot (← Node.construct ops p.context p.node args)

/-- Calls a method. Without a name this is a request to construct. -/
def call (p : Proxy) (ops : HostOps β) (method : Variant) (args : List Variant) (slot : Slot) :
    M β (Variant × Slot) := do
  match method with
  | .void => p.construct ops args slot
  | .string n => p.measured "Call" n do p.answer slot (← Node.call ops p.context p.node n args)
  | _ => return (.void, ← p.fail slot .methodNameNotString)

end Proxy

end ObjectBridge

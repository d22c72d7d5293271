import ObjectBridge.Bridge.Proxy

/-!
# `ObjectBridge.Bridge.MemoryHost`: the in-memory host

Tables are read and written directly; what is stored in one belongs to
it, and what is read from one is a copy. Proxies are asked with a slot of
their own, and an exception is simply a request that was not possible.
Objects of other hosts have no properties here.
-/

set_option autoImplicit false

namespace ObjectBridge.MemoryHost

variable {β : Type}

/-- A copy that belongs to the receiver; a string that cannot be copied
becomes nothing. -/
def copyOut (v : Variant) : M β Variant := do
  match v with
  | .string bytes => if ← memAlloc .memory bytes.length then return v else return .void
  | .object o =>
    retain o
    return v
  | v => return v

/-- The name of the length of an array. -/
def lengthName : Bytes := .ofString "length"

/-- Does a table have a property? -/
def tableHas (t : Table) (broken : Bool) : Identifier → Bool
  | .index i => !broken && t.isArray && 0 ≤ i.toInt && i.toInt.toNat < t.elems.size
  | .name n => (t.isArray && n = lengthName) || t.props.contains n

/-- What a table stores under an identifier. -/
def tableGet (t : Table) : Identifier → Option Variant
  | .index i => if t.isArray && 0 ≤ i.toInt then t.elems[i.toInt.toNat]? else none
  | .name n =>
    if t.isArray && n = lengthName then some (.int32 (Int32.ofNat t.elems.size))
    else t.props.find? n

/-- Puts a variant in the place of what a table stores, with nothing in
the places before it that were not there, and gives back the variant it
replaces. -/
def tableSet (i : Nat) (id : Identifier) (v : Variant) : M β Unit := do
  let t := (← get).table i
  match id with
  | .index n =>
    let n := n.toInt.toNat
    modifyTable i fun t =>
      if n < t.elems.size then t
      else { t with elems := t.elems ++ Array.replicate (n + 1 - t.elems.size) .void }
    releaseVariant .memory (t.elems.getD n .void)
    modifyTable i fun t => { t with elems := t.elems.setIfInBounds n v }
  | .name n =>
    match t.props.find? n with
    | some old => releaseVariant .memory old
    | none => pure ()
    modifyTable i fun t => { t with props := t.props.insert n v }

variable [Native β]

/-- Does the object have the property? It is asked itself if it is not a table.
-/
def hasProperty (o : ObjectRef) (id : Identifier) : M β Bool := do
  countCall "HasProperty"
  let w ← get
  match o with
  | .table i => return tableHas (w.table i) w.memory.brokenIndexHas id
  | .proxy i => return (← (w.proxy i).hasProperty (.string id.text) (some {})).1
  | .handle _ => return false

/-- Reads a property. The object is asked itself if it is not a table. -/
def getProperty (ops : HostOps β) (o : ObjectRef) (id : Identifier) : M β (Option Variant) := do
  countCall "GetProperty"
  let w ← get
  match o with
  | .table i =>
    match tableGet (w.table i) id with
    | some v => return some (← copyOut v)
    | none => return none
  | .proxy i =>
    let (v, slot) ← (w.proxy i).getProperty ops (.string id.text) (some {})
    if (slot.getD {}).isPending then
      releaseVariant .memory v
      abandon slot
      return none
    else return some v
  | .handle _ => return none

/-- Writes a property. The object is asked itself if it is not a table. -/
def setProperty (ops : HostOps β) (o : ObjectRef) (id : Identifier) (v : Variant) : M β Bool := do
  countCall "SetProperty"
  let w ← get
  match o with
  | .table i =>
    let copy ← copyOut v
    let possible := match id with
      | .index n => (w.table i).isArray && 0 ≤ n.toInt
      | .name _ => true
    if possible then
      tableSet i id copy
      return true
    else
      releaseVariant .memory copy
      return false
  | .proxy i =>
    let slot ← (w.proxy i).setProperty ops (.string id.text) v (some {})
    abandon slot
    return !(slot.getD {}).isPending
  | .handle _ => return false

/-- Evaluates a text: one with a registered result gives a copy of it,
and the empty array is always there. -/
def evaluate (scope : Option ObjectRef) (script : Bytes) : M β (Option Variant) := do
  countCall "Evaluate"
  if scope.isNone then return none
  match (← get).memory.scripts.find? script with
  | some (some v) =>
    match ← copyVariant .memory v with
    | .ok v => return some v
    | .error _ => return none
  | some none => return none
  | none =>
    if script = .ofString "[]" then
      let o ← newTable { refs := { refs := 1 }, isArray := true }
      return some (.object o)
    else return none

end ObjectBridge.MemoryHost

import ObjectBridge.Bench.Report

/-!
# `ObjectBridge.Bench.Basic`: a bench to try things on

A bench is a world together with names for the things in it, so that one
can work on it step by step. This module has the names, the monad `Act`
in which steps run, and the rule for results: a variant that a step
yields is reported, and then either kept under a name or given back.

Nothing else is given back by itself: what is left over at the end is
what the steps left over.
-/

set_option autoImplicit false

namespace ObjectBridge

/-- A world and the names that steps have given to what is in it. -/
structure Bench where
  world : World StandIn
  /-- The host that steps talk to when they name no other. -/
  main : HostId := .memory
  /-- The number of the class registry in use. -/
  registry : Nat := 0
  accessor : Accessor := {}
  /-- The recorder of the last accessor that had one. -/
  recorder : Option Nat := none
  classes : Dict Bytes (Class StandIn) := {}
  slots : Dict String ExceptionSlot := {}
  plugins : Dict String Plugin := {}
  instances : Dict String Nat := {}
  sessions : Dict String Nat := {}
  pools : Dict String Nat := {}

namespace Bench

/-- Steps on a bench. Like operations on the world they may be unwound. -/
abbrev Act := ExceptT Unwind (StateM Bench)

/-- Does something to the world. -/
def inWorld {α : Type} (m : M StandIn α) : Act α := fun b =>
  let (result, world) := m.run.run b.world
  (result, { b with world })

/-- The world as it is now. -/
def theWorld : Act (World StandIn) := return (← get).world

/-- What must be there. -/
def need {α : Type} : Option α → Act α
  | some x => return x
  | none => throw .fault

/-! ### Where steps act -/

/-- The context of a step: that of an instance, that of a session, or the
bench's own host. -/
inductive Place
  | main
  | inst (name : String)
  | session (name : String)

/-- What natives at that place are called with. -/
def contextOf (place : Place) : Act Context := do
  let b ← get
  match place with
  | .main => return { host := b.main }
  | .inst name =>
    let i ← need (b.instances.find? name)
    let x ← need b.world.instances[i]?
    return Instance.context x.host i
  | .session name =>
    let x ← need (b.world.sessions[← need (b.sessions.find? name)]?)
    return Instance.context (.script x.runtime) (← need x.inst)

/-- Instances have accessors of their own. -/
def accessorOf (place : Place) : Act Accessor := do
  match place with
  | .inst _ => inWorld (accessorFor (← contextOf place))
  | _ => return (← get).accessor

/-! ### Variants -/

/-- The variant that is meant. -/
def given (g : Given) : Act Variant := inWorld g.variant

/-- The variant that is kept under a name. -/
def keptVariant? (name : String) : Act (Option Variant) := return (← theWorld).kept.find? name

/-- The object kept under a name. -/
def keptObject (name : String) : Act ObjectRef := do
  match ← keptVariant? name with
  | some (.object o) => return o
  | _ => throw .fault

/-- The proxy kept under a name. -/
def keptProxy (name : String) : Act Proxy := do
  match ← keptObject name with
  | .proxy i => return (← theWorld).proxy i
  | _ => throw .fault

/-- Keeps a variant under a name. -/
def keep (name : String) (v : Variant) : Act Unit :=
  inWorld (modify fun w => { w with kept := w.kept.insert name v })

/-- Forgets what is kept under a name. -/
def forget (name : String) : Act Unit :=
  inWorld (modify fun w => { w with kept := w.kept.erase name })

/-- Reports a variant, and keeps it or gives it back. -/
def yields (keepAs : Option String) (ctx : Context) (v : Variant) (more : Report) : Act Report := do
  let out := Report.variant (← theWorld) v
  match keepAs with
  | some name => keep name v
  | none => inWorld (releaseVariant ctx.host v)
  return ("value", out) :: more

/-- The same for a result that may be a failure. -/
def yieldsResult (keepAs : Option String) (ctx : Context) (result : Except Failure Variant) :
    Act Report :=
  match handed result with
  | (v, none) => yields keepAs ctx v []
  | (v, some f) => return Report.failure f ++ [("void", .bool v.isVoid)]

/-- The same for a result that may be missing. -/
def yieldsOption (keepAs : Option String) (ctx : Context) (v : Option Variant) : Act Report :=
  yields keepAs ctx (v.getD .void) [("ok", .bool v.isSome)]

/-- The same for an object that may be missing. -/
def yieldsObject (keepAs : Option String) (ctx : Context) : Option ObjectRef → Act Report
  | some o => yields keepAs ctx (.object o) [("ok", .bool true)]
  | none => return [("ok", .bool false), ("valid", .bool false)]

/-! ### Other things with names -/

/-- The node of that name. -/
def nodeNamed (name : String) : Act NodeId := do need ((← theWorld).nodeNames.find? name)

/-- Gives a node a name. -/
def nameNode (name : String) (n : NodeId) : Act Unit :=
  inWorld (modify fun w => { w with nodeNames := w.nodeNames.insert name n })

/-- The first name of a node. -/
def nameOfNode (n : NodeId) : Act String := do
  return (((← theWorld).nodeNames.entries.find? fun e => e.2 == n).map Prod.fst).getD ""

/-- The class registry in use. -/
def registryInUse : Act (Registry StandIn) := do
  let b ← get
  return b.world.registries.getD b.registry {}

/-- Replaces the class registry in use. -/
def setRegistry (r : Registry StandIn) : Act Unit := do
  let i := (← get).registry
  inWorld (modify fun w => { w with registries := w.registries.setIfInBounds i r })

/-- A class, by its name or as it is given. -/
inductive ClassChoice
  | none
  | named (name : String)
  | given (c : Class StandIn)

/-- The class that is meant. A name is looked for on the bench and then
in the registry. -/
def chosenClass (c : ClassChoice) : Act (Option (Class StandIn)) := do
  match c with
  | .none => return .none
  | .given c => return some c
  | .named name =>
    let name := Bytes.ofString name
    match (← get).classes.find? name with
    | some c => return some c
    | none => return (← registryInUse).find? name

/-- The exception slot of that name, or a fresh one. -/
def slotNamed (name : Option String) : Act ExceptionSlot := do
  return (name.bind (← get).slots.find?).getD {}

/-- Replaces an exception slot. -/
def setSlot (name : String) (slot : ExceptionSlot) : Act Unit :=
  modify fun b => { b with slots := b.slots.insert name slot }

/-- The plugin of that name. -/
def pluginNamed (name : String) : Act Plugin := do need ((← get).plugins.find? name)

/-- The instance of that name and its number. -/
def instanceNamed (name : String) : Act (Nat × Instance) := do
  let b ← get
  let i ← need (b.instances.find? name)
  return (i, ← need b.world.instances[i]?)

/-- The session of that name and its number. -/
def sessionNamed (name : String) : Act (Nat × Session) := do
  let b ← get
  let s ← need (b.sessions.find? name)
  return (s, ← need b.world.sessions[s]?)

/-- The number of the pool of that name. -/
def poolNamed (name : String) : Act Nat := do need ((← get).pools.find? name)

/-- What a recorder has counted. -/
def callsOf (recorder : Option Nat) : Act (List (Bytes × Nat)) := do
  return ((recorder.bind ((← theWorld).recorders[·]?)).map (·.calls)).getD []

end Bench

end ObjectBridge

/-!
## Steps on hosts and their objects
-/

namespace ObjectBridge.Bench

/-- A native value that may be kept on the bench. -/
inductive NativeGiven
  | plain (v : NativeValue)
  | variant (g : Given)
  /-- A reference of its own to the object of that name. -/
  | owned (name : String)
  | object (name : String)

/-- The native value that is meant. -/
def NativeGiven.value : NativeGiven → Act NativeValue
  | .plain v => return v
  | .variant g => return .variant (← given g)
  | .owned name => do
    let o ← keptObject name
    inWorld (retain o)
    return .owned (some o)
  | .object name => return .object (← keptObject name)

/-- Steps that talk to a host. -/
inductive HostStep
  /-- Sets up the in-memory host; what is not said stays. -/
  | setUp (allocLimit : Option Int) (brokenIndexHas noWindow : Option Bool)
  | registerScript (text : Bytes) (result : Option Given)
  | newObject (props : List (Bytes × Given))
  | newArray (elems : List Given)
  | dump (name : String)
  | element (name : String) (i : Int)
  | has (name : String) (key : Identifier)
  | get (name : String) (key : Identifier)
  | set (name : String) (key : Identifier) (v : Given)
  | window
  | evaluate (scope : Option String) (text : Bytes)
  | allocate (size : Int)
  | giveBack (size : Nat)
  | free (name : String)
  | retain (name : String)
  | release (name : String)
  | ofString (text : Bytes)
  | ofWide (encoding : String) (units : List UInt32)
  | ofNative (v : NativeGiven)
  | policy (p : IndexPolicy) (profile : Bool)
  | getNamed (name : String) (property : Bytes)
  | getIndexed (name : String) (index : Int32)
  | setNamed (name : String) (property : Bytes) (v : Given)
  | setIndexed (name : String) (index : Int32) (v : Given)
  | createArray

/-- A name or an index as the host hands it out. -/
def intern (host : HostId) : Identifier → Act Identifier
  | .name n => inWorld (stringIdentifier host n)
  | .index i => inWorld (intIdentifier host i)

/-- The members that are meant. -/
def givenMembers : List (Bytes × Given) → Act (List (Bytes × Variant))
  | [] => return []
  | (k, g) :: rest => return (k, ← given g) :: (← givenMembers rest)

/-- The variants that are meant. -/
def givens : List Given → Act (List Variant)
  | [] => return []
  | g :: rest => return (← given g) :: (← givens rest)

/-- A table of the in-memory host. -/
def tableNamed (name : String) : Act Table := do
  match ← keptObject name with
  | .table i => return (← theWorld).table i
  | _ => throw .fault

/-- What a table has. -/
def dumped (w : World StandIn) (t : Table) : Report :=
  [("array", .bool t.isArray), ("elems", .array (t.elems.toList.map (Report.variant w))),
    ("props", .object (t.props.entries.map fun e => (e.1.toStringLossy, Report.variant w e.2)))]

/-- Keeps a new table, held once. -/
def keepTable (keepAs : Option String) (t : Table) : Act Report := do
  keep (keepAs.getD "") (.object (← inWorld (newTable { t with refs := { refs := 1 } })))
  return []

/-- Carries out a step that talks to a host. -/
def hostStep (place : Place) (keepAs : Option String) : HostStep → Act Report
  | .setUp limit broken noWindow => do
    inWorld (modifyMemory fun m =>
      { m with
        allocLimit := limit.getD m.allocLimit
        brokenIndexHas := broken.getD m.brokenIndexHas
        noWindow := noWindow.getD m.noWindow })
    return []
  | .registerScript text result => do
    let result ← match result with
      | some g => do pure (some (← given g))
      | none => pure none
    inWorld (modifyMemory fun m => { m with scripts := m.scripts.insert text result })
    return []
  | .newObject props => do keepTable keepAs { props := .ofList (← givenMembers props) }
  | .newArray elems => do keepTable keepAs { elems := (← givens elems).toArray, isArray := true }
  | .dump name => do return dumped (← theWorld) (← tableNamed name)
  | .element name i => do return [("text", Report.text ((← tableNamed name).elementText i))]
  | .has name key => do
    let ctx ← contextOf place
    let id ← intern ctx.host key
    return [("has", .bool (← inWorld (host.hasProperty ctx.host (← keptObject name) id)))]
  | .get name key => do
    let ctx ← contextOf place
    let id ← intern ctx.host key
    yieldsOption keepAs ctx (← inWorld (host.getProperty ctx.host (← keptObject name) id))
  | .set name key v => do
    let ctx ← contextOf place
    let id ← intern ctx.host key
    return [("ok", .bool (← inWorld (host.setProperty ctx.host (← keptObject name) id
      (← given v))))]
  | .window => do
    let ctx ← contextOf place
    yieldsObject keepAs ctx (← inWorld (windowObject ctx.host))
  | .evaluate scope text => do
    let ctx ← contextOf place
    let scope ← match scope with
      | some name => do pure (some (← keptObject name))
      | none => pure none
    yieldsOption keepAs ctx (← inWorld (host.evaluate ctx.host scope text))
  | .allocate size => do
    let done ← inWorld (memAlloc (← contextOf place).host size)
    return [("nil", .bool !done), ("len", .int (if done then size else 0))]
  | .giveBack size => do
    inWorld (memFree (← contextOf place).host size)
    return []
  | .free name => do
    inWorld (releaseVariant (← contextOf place).host ((← keptVariant? name).getD .void))
    forget name
    return [("void", .bool true)]
  | .retain name => do
    let o ← keptObject name
    inWorld (ObjectBridge.retain o)
    return [("refs", .int ((← theWorld).refs o))]
  | .release name => do
    let o ← keptObject name
    inWorld (ObjectBridge.release o)
    return [("refs", .int ((← theWorld).refs o))]
  | .ofString text => do
    let ctx ← contextOf place
    yieldsResult keepAs ctx (← inWorld (valueFromString ctx.host text))
  | .ofWide encoding units => do
    let ctx ← contextOf place
    match WideEncoding.parse? encoding with
    | none => return Report.error "error" (WideEncoding.unknownMessage encoding)
    | some enc => yieldsResult keepAs ctx (← inWorld (valueFromWide ctx.host enc units))
  | .ofNative v => do
    let ctx ← contextOf place
    let v ← v.value
    yieldsResult keepAs ctx (← inWorld (v.toVariant ctx.host))
  | .policy p profile => do
    if profile then
      let r ← inWorld (modifyGet fun w =>
        (w.recorders.size, { w with recorders := w.recorders.push {} }))
      modify fun b => { b with accessor := { policy := p, recorder := some r }, recorder := some r }
    else modify fun b => { b with accessor := { policy := p } }
    return []
  | .getNamed name property => do
    let ctx ← contextOf place
    let a ← accessorOf place
    yieldsOption keepAs ctx (← inWorld (a.getNamed host ctx.host (← keptObject name) property))
  | .getIndexed name index => do
    let ctx ← contextOf place
    let a ← accessorOf place
    yieldsOption keepAs ctx (← inWorld (a.getIndexed host ctx.host (← keptObject name) index))
  | .setNamed name property v => do
    let ctx ← contextOf place
    let a ← accessorOf place
    let v ← given v
    return [("ok", .bool (← inWorld (a.setNamed host ctx.host (← keptObject name) property v)))]
  | .setIndexed name index v => do
    let ctx ← contextOf place
    let a ← accessorOf place
    let v ← given v
    return [("ok", .bool (← inWorld (a.setIndexed host ctx.host (← keptObject name) index v)))]
  | .createArray => do
    let ctx ← contextOf place
    let a ← accessorOf place
    yieldsObject keepAs ctx (← inWorld (a.createArray host ctx.host))

end ObjectBridge.Bench

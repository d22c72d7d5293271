import ObjectBridge.Bench.Basic

/-!
# `ObjectBridge.Bench.Nodes`: steps on classes, nodes and proxies
-/

set_option autoImplicit false

namespace ObjectBridge.Bench

/-! ### Classes -/

/-- Steps on classes and exception slots. -/
inductive ClassStep
  | define (c : ClassChoice)
  | newRegistry
  | register (c : ClassChoice)
  /-- The same, but a refusal unwinds. -/
  | mustRegister (c : ClassChoice)
  | unregister (name : String)
  | lookup (name : String)
  | raise (slot : String) (message : Bytes)
  | clear (slot : String)

/-- The classes there are and how much they have. -/
def registryReport : Act Report := do
  let r ← registryInUse
  return [("list", Report.classNames r), ("stats", Report.registryStats r)]

/-- Carries out a step on classes. -/
def classStep : ClassStep → Act Report
  | .define c => do
    let c ← need (← chosenClass c)
    modify fun b => { b with classes := b.classes.insert c.name c }
    return Report.classMembers c
  | .newRegistry => do
    modify fun b =>
      { b with registry := b.world.registries.size, world := {
        b.world with registries := b.world.registries.push {} } }
    return []
  | .register c => do
    match (← registryInUse).register (← chosenClass c) with
    | .ok r =>
      setRegistry r
      return ("ok", .bool true) :: (← registryReport)
    | .error e => return Report.error "error" e.message ++ (← registryReport)
  | .mustRegister c => do
    match (← registryInUse).register (← chosenClass c) with
    | .ok r =>
      setRegistry r
      return [("list", Report.classNames r)]
    | .error e => throw (.misuse e.message)
  | .unregister name => do
    setRegistry ((← registryInUse).unregister (.ofString name))
    registryReport
  | .lookup name => do
    match (← registryInUse).find? (.ofString name) with
    | some c => return ("found", .bool true) :: Report.classFields c
    | none => return [("found", .bool false), ("methods", .null), ("properties", .null)]
  | .raise slot message => do
    let (recorded, s) := (← slotNamed (some slot)).raise (.string message)
    setSlot slot s
    return [("recorded", .bool recorded)]
  | .clear slot => do
    setSlot slot {}
    return []

/-! ### Nodes -/

/-- Steps on nodes. -/
inductive NodeStep
  | new (node : String) (c : ClassChoice)
  | setClass (node : String) (c : ClassChoice)
  | setBase (node : String) (base : Option String)
  | addChild (node : String) (name : Bytes) (child : String)
  | child (node : String) (name : Bytes)
  | lookup (node : String) (path : Bytes)
  | has (node : String) (name : Bytes)
  | names (node : String)
  | get (node : String) (name : Bytes)
  | set (node : String) (name : Bytes) (v : Given)
  | call (node : String) (name : Bytes) (args : List Given)
  | construct (node : String) (args : List Given)
  | wrap (node : String)
  | walk (node : String)
  | checkAcyclic (node : String)
  | describe (node : String)

/-- Changes the graph. -/
def modifyGraph (f : Graph StandIn → Graph StandIn) : Act Unit :=
  inWorld (modify fun w => { w with graph := f w.graph })

/-- The graph as it is now. -/
def graph : Act (Graph StandIn) := return (← theWorld).graph

/-- Says which node was found, if one was. -/
def foundNode : Option NodeId → Act Report
  | some n => return [("found", .bool true), ("node", .string (← nameOfNode n))]
  | none => return [("found", .bool false)]

/-- The nodes that were visited, with their paths. -/
def visitedReport : List (Bytes × NodeId) → Act (List Json)
  | [] => return []
  | (path, n) :: rest =>
    return .array [Report.text path, .string (← nameOfNode n)] :: (← visitedReport rest)

/-- Carries out a step on nodes. -/
def nodeStep (place : Place) (keepAs : Option String) : NodeStep → Act Report
  | .new node c => do
    let cls ← chosenClass c
    let n ← inWorld (modifyGet fun w => let (graph, n) := w.graph.addNode cls;
        (n, { w with graph }))
    nameNode node n
    return []
  | .setClass node c => do
    let n ← nodeNamed node
    let cls ← chosenClass c
    modifyGraph (·.setClass n cls)
    return [("class", (cls.map fun c => Report.text c.name).getD .null)]
  | .setBase node none => do
    let n ← nodeNamed node
    modifyGraph (·.setBase n none)
    return [("base", .null)]
  | .setBase node (some base) => do
    let n ← nodeNamed node
    let b ← nodeNamed base
    modifyGraph (·.setBase n (some b))
    return [("base", .string (← nameOfNode b))]
  | .addChild node name child => do
    let n ← nodeNamed node
    let c ← nodeNamed child
    modifyGraph (·.addChild n name c)
    return [("names", Report.texts ((← graph).childNames n))]
  | .child node name => do foundNode ((← graph).child? (← nodeNamed node) name)
  | .lookup node path => do foundNode ((← graph).lookup? (← nodeNamed node) path)
  | .has node name => do
    let n ← nodeNamed node
    let g ← graph
    return [("method", .bool (g.hasMethod n name)), ("property", .bool (g.hasProperty n name))]
  | .names node => do
    let names := (← graph).memberNames (← nodeNamed node)
    return [("names", if names.isEmpty then .null else Report.texts names)]
  | .get node name => do
    let ctx ← contextOf place
    let n ← nodeNamed node
    yieldsResult keepAs ctx (← inWorld (Node.getProperty host ctx n name))
  | .set node name v => do
    let ctx ← contextOf place
    let n ← nodeNamed node
    let v ← given v
    match ← inWorld (Node.setProperty host ctx n name v) with
    | .ok _ => return [("ok", .bool true)]
    | .error f => return Report.failure f
  | .call node name args => do
    let ctx ← contextOf place
    let n ← nodeNamed node
    let args ← givens args
    yieldsResult keepAs ctx (← inWorld (Node.call host ctx n name args))
  | .construct node args => do
    let ctx ← contextOf place
    let n ← nodeNamed node
    let args ← givens args
    yieldsResult keepAs ctx (← inWorld (Node.construct host ctx n args))
  | .wrap node => do
    let ctx ← contextOf place
    let n ← nodeNamed node
    yields keepAs ctx (.object (← inWorld (newProxy ctx n))) []
  | .walk node => do
    let visited := (← graph).walk (← nodeNamed node)
    return [("paths", .array (← visitedReport visited))]
  | .checkAcyclic node => do
    match (← graph).cyclicPath? (← nodeNamed node) with
    | none => return [("ok", .bool true)]
    | some path => return Report.error "cyclic_base" (cyclicMessage path)
  | .describe node => do
    let d ← need ((← graph).describe (← nodeNamed node))
    return [("graph", Report.description d)]

/-! ### Proxies -/

/-- What a proxy is asked. -/
inductive ProxyStep
  | hasMethod (name : Given)
  | hasProperty (name : Given)
  | get (name : Given)
  | set (name v : Given)
  | call (name : Given) (args : List Given)
  | construct (args : List Given)
  | names

/-- Reports the slot after a request, and puts a lasting one back. An
object in a slot that does not last is given back. -/
def slotReport (name : Option String) (slot : Slot) : Act Report := do
  let slot := slot.getD {}
  if let some name := name then setSlot name slot
  if !slot.isPending then return []
  let report := [("exc", Report.variant (← theWorld) slot.value),
      ("exc_message", Report.text slot.message)]
  match name, slot.value with
  | none, .object o => inWorld (ObjectBridge.release o)
  | _, _ => pure ()
  return report

/-- Asks a proxy. -/
def proxyStep (place : Place) (keepAs slotName : Option String) (name : String)
    (q : ProxyStep) : Act Report := do
  let ctx ← contextOf place
  let p ← keptProxy name
  let slot ← slotNamed slotName
  let answered (result : Variant × Slot) : Act Report := do
    let exc ← slotReport slotName result.2
    return (← yields keepAs ctx result.1 []) ++ exc
  match q with
  | .hasMethod name =>
    let name ← given name
    let (has, slot) ← inWorld (p.hasMethod name (some slot))
    return ("has", .bool has) :: (← slotReport slotName slot)
  | .hasProperty name =>
    let name ← given name
    let (has, slot) ← inWorld (p.hasProperty name (some slot))
    return ("has", .bool has) :: (← slotReport slotName slot)
  | .get name =>
    let name ← given name
    answered (← inWorld (p.getProperty host name (some slot)))
  | .set name v =>
    let name ← given name
    let v ← given v
    slotReport slotName (← inWorld (p.setProperty host name v (some slot)))
  | .call name args =>
    let name ← given name
    let args ← givens args
    answered (← inWorld (p.call host name args (some slot)))
  | .construct args =>
    let args ← givens args
    answered (← inWorld (p.construct host args (some slot)))
  | .names =>
    let (names, slot) ← inWorld (p.propertyNames (some slot))
    let w ← theWorld
    let report := [("nil", Json.bool names.isNone),
        ("names", .array ((names.getD []).map (Report.variant w)))]
    let exc ← slotReport slotName slot
    inWorld (releaseAll ctx.host (names.getD []))
    return report ++ exc

end ObjectBridge.Bench

import ObjectBridge.Bridge.Failure
import ObjectBridge.Bridge.Watch
import ObjectBridge.Graph.Assemble
import ObjectBridge.Metrics.Basic
import ObjectBridge.Profile
import ObjectBridge.Script.Realm
import ObjectBridge.Value.Variant
import ObjectBridge.Value.Identifier
import ObjectBridge.Value.RefCount

/-!
# `ObjectBridge.Bridge.World`: the state everything acts on

A `World` holds every object that hosts and native code can hold a
reference to, the graphs of native nodes, the hosts themselves, and the
books that are kept. Operations are in the monad `M`: they change the
world, and they may be unwound.

Being unwound is different from failing. A failure is an answer; an
unwinding operation gives none, and passes through whoever called it,
with only the promised clean-up done on the way (`cleanly`). The changes
made so far stay.
-/

set_option autoImplicit false

namespace ObjectBridge

/-! ### Hosts and contexts -/

/-- Which host an operation talks to. -/
inductive HostId
  | memory
  | script (runtime : Nat)
  deriving DecidableEq, Repr

/-- What native code is called with: the host, and the plugin instance it
is called for, if any. -/
structure Context where
  host : HostId
  inst : Option Nat := none
  deriving DecidableEq, Repr

instance : Inhabited Context := ⟨{ host := .memory }⟩

/-! ### Objects -/

/-- An object or array of the in-memory host. -/
structure Table where
  refs : RefCount := {}
  props : Dict Bytes Variant := {}
  elems : Array Variant := #[]
  isArray : Bool := false

instance : Inhabited Table := ⟨{}⟩

/-- The text of an element, or a note that there is none. -/
def Table.elementText (t : Table) (i : Int) : Bytes :=
  match if i < 0 then none else t.elems[i.toNat]? with
  | some v => v.text
  | none => .ofString ("<missing " ++ toString i ++ ">")

/-- A host's view of a node. Requests are answered in the context the
proxy was made for. -/
structure Proxy where
  refs : RefCount := {}
  context : Context
  node : NodeId

instance : Inhabited Proxy := ⟨{ context := default, node := 0 }⟩

/-- Native code's view of a script object. -/
structure Handle where
  refs : RefCount := {}
  /-- The runtime the object came from. -/
  runtime : Nat
  object : Script.ObjId

instance : Inhabited Handle := ⟨{ runtime := 0, object := 0 }⟩

/-! ### Hosts -/

/-- The in-memory host. -/
structure MemoryHost where
  /-- The table that is the global object. -/
  window : Nat := 0
  /-- What evaluating a text gives; a text with no result fails. -/
  scripts : Dict Bytes (Option Variant) := {}
  /-- Requests for more bytes than this fail; zero is no limit. -/
  allocLimit : Int := 0
  /-- Claims that no index exists. -/
  brokenIndexHas : Bool := false
  noWindow : Bool := false
  /-- How often each primitive was called. -/
  calls : Dict String Nat := {}
  allocated : Int := 0

instance : Inhabited MemoryHost := ⟨{}⟩

/-- How a script runtime is set up. -/
structure RuntimeConfig where
  /-- Milliseconds a script may run; without effect when not positive. -/
  timeout : Int := 5000
  console : Bool := true
  /-- Bytes that may be given out; no limit when not positive. -/
  maxAlloc : Int := 1048576
  /-- Functions that may be entered; none is the engine's own limit. -/
  callStack : Option Nat := some 1024
  deriving DecidableEq, Repr

instance : Inhabited RuntimeConfig := ⟨{}⟩

/-- A script runtime. -/
structure Runtime where
  config : RuntimeConfig := {}
  realm : Script.Realm := {}
  isOpen : Bool := true
  /-- What the last script wrote: level and message. -/
  console : List (String × Bytes) := []
  /-- References held for scripts, latest first. -/
  adopted : List ObjectRef := []
  allocated : Int := 0
  /-- Is a script running? -/
  running : Bool := false
  /-- Functions entered by the scripts that wait for native code. -/
  depth : Nat := 0
  /-- Steps the running script may still make. -/
  steps : Nat := 0
  watch : Watch := {}

instance : Inhabited Runtime := ⟨{}⟩

/-! ### Plugins -/

/-- What is tuned for every instance of a plugin. -/
structure Options where
  index : IndexPolicy := {}
  wide : WideEncoding := .platform
  profile : Bool := false
  /-- The name the root object has in scripts. -/
  global : String := "plugin"
  deriving DecidableEq, Repr

/-- A plugin: what it consists of, and where its classes are found. -/
structure Plugin where
  manifest : Manifest
  /-- The number of the registry. -/
  registry : Nat
  options : Options
  /-- Are its instances counted? -/
  metered : Bool

instance : Inhabited Plugin := ⟨{ manifest := {}, registry := 0, options := {}, metered := false }⟩

/-- One embedding of a plugin in a host. -/
structure Instance where
  plugin : Plugin
  root : NodeId
  host : HostId
  /-- The number of its recorder, when it is profiled. -/
  recorder : Option Nat := none
  /-- The proxy of the root, until the instance is destroyed. -/
  scripting : Option ObjectRef := none
  lastError : Bytes := []
  destroyed : Bool := false

instance : Inhabited Instance := ⟨{ plugin := default, root := 0, host := .memory }⟩

/-- An instance in a runtime of its own. -/
structure Session where
  plugin : Plugin
  runtime : Nat
  inst : Option Nat := none
  /-- How often it was closed. This is only noted; no operation reads it. -/
  closings : Nat := 0

instance : Inhabited Session := ⟨{ plugin := default, runtime := 0 }⟩

/-- Sessions that are kept ready, by number. -/
structure Pool where
  plugin : Plugin
  config : RuntimeConfig
  size : Nat
  /-- Those ready, the one that waits longest first. -/
  idle : List Nat := []
  closed : Bool := false
  /-- Those made for the pool. This is only noted; no operation reads it. -/
  made : List Nat := []

instance : Inhabited Pool := ⟨{ plugin := default, config := {}, size := 0 }⟩

/-! ### The world -/

/-- Everything there is. Native code is a parameter. -/
structure World (β : Type) where
  tables : Array Table := #[{}]
  proxies : Array Proxy := #[]
  handles : Array Handle := #[]
  graph : Graph β := {}
  registries : Array (Registry β) := #[]
  memory : MemoryHost := {}
  heap : Script.Heap := {}
  /-- Realms made so far. -/
  realms : Nat := 0
  runtimes : Array Runtime := #[]
  instances : Array Instance := #[]
  sessions : Array Session := #[]
  pools : Array Pool := #[]
  recorders : Array Recorder := #[]
  metrics : Metrics := {}
  /-- Storage of native code. -/
  cells : Array Variant := #[]
  /-- More such storage, by name. -/
  drawers : Dict String Variant := {}
  /-- Variants that are kept under names. -/
  kept : Dict String Variant := {}
  /-- Nodes that have been given names. -/
  nodeNames : Dict String NodeId := {}
  /-- Objects native code threw at a host that had asked for a property,
  latest first. Their references are with nobody; this is the only note of
  them, and no operation reads it. -/
  abandoned : List ObjectRef := []

instance {β : Type} : Inhabited (World β) := ⟨{}⟩

/-- Why an operation was unwound. -/
inductive Unwind
  /-- Something that must be there was not. -/
  | fault
  /-- A rule was broken that callers are bound to keep. -/
  | misuse (message : String)
  /-- A script threw a value. -/
  | thrown (v : Script.Value)
  /-- A script ran for too long. -/
  | interrupted
  /-- Scripts entered too many functions. -/
  | overflow
  deriving Repr

/-- Operations on the world. -/
abbrev M (β : Type) := ExceptT Unwind (StateM (World β))

variable {β : Type}

/-- Does `cleanUp` after `act`, whether or not `act` is unwound. -/
def cleanly {α : Type} (act : M β α) (cleanUp : M β Unit) : M β α := fun w =>
  let (result, w) := act.run w
  match cleanUp.run w with
  | (.ok _, w) => (result, w)
  | (.error u, w) => (.error u, w)

/-- Takes note when `act` is unwound. -/
def noting {α : Type} (act : M β α) (note : M β Unit) : M β α := fun w =>
  match act.run w with
  | (.ok x, w) => (.ok x, w)
  | (.error u, w) => (.error u, (note.run w).2)

/-- Gives what was unwound as a value. -/
def caught {α : Type} (act : M β α) : M β (Except Unwind α) := fun w =>
  let (result, w) := act.run w
  (.ok result, w)

namespace World

/-- The table of that number. -/
def table (w : World β) (i : Nat) : Table := w.tables.getD i {}

/-- The proxy of that number. -/
def proxy (w : World β) (i : Nat) : Proxy := w.proxies.getD i default

/-- The runtime of that number. -/
def runtime (w : World β) (i : Nat) : Runtime := w.runtimes.getD i {}

/-- Is there such an object? -/
def has (w : World β) : ObjectRef → Bool
  | .table i => i < w.tables.size
  | .proxy i => i < w.proxies.size
  | .handle i => i < w.handles.size

/-- The instance a context belongs to. -/
def instanceOf? (w : World β) (ctx : Context) : Option Instance := ctx.inst.bind (w.instances[·]?)

/-- The references to an object. -/
def refs (w : World β) : ObjectRef → Int
  | .table i => (w.table i).refs.refs
  | .proxy i => (w.proxy i).refs.refs
  | .handle i => (w.handles.getD i default).refs.refs

end World

/-- Changes a table. -/
def modifyTable (i : Nat) (f : Table → Table) : M β Unit :=
  modify fun w => { w with tables := w.tables.modify i f }

/-- Changes a runtime. -/
def modifyRuntime (i : Nat) (f : Runtime → Runtime) : M β Unit :=
  modify fun w => { w with runtimes := w.runtimes.modify i f }

/-- Changes an instance. -/
def modifyInstance (i : Nat) (f : Instance → Instance) : M β Unit :=
  modify fun w => { w with instances := w.instances.modify i f }

/-- Changes how the in-memory host is set up. -/
def modifyMemory (f : MemoryHost → MemoryHost) : M β Unit :=
  modify fun w => { w with memory := f w.memory }

/-- Enters an event in the books of the plugin a context belongs to. -/
def meter (ctx : Context) (event : Metrics → Metrics) : M β Unit :=
  modify fun w =>
    match w.instanceOf? ctx with
    | some i => if i.plugin.metered then { w with metrics := event w.metrics } else w
    | none => w

end ObjectBridge

import ObjectBridge.Bench.Nodes
import ObjectBridge.Bench.Plugins

/-!
# `ObjectBridge.Bench.Run`: carrying out lists of steps

Each step is answered by its own report, to which the bytes that the
bench's host has given out are added. A step that is unwound is answered
too, and the steps after it go on from where it stopped.
-/

set_option autoImplicit false

namespace ObjectBridge.Bench

/-- What a step does. -/
inductive Action
  | host (s : HostStep)
  | classes (s : ClassStep)
  | node (s : NodeStep)
  /-- Asks the proxy of that name; a named exception slot lasts. -/
  | proxy (name : String) (slot : Option String) (s : ProxyStep)
  | plugin (s : PluginStep)
  | script (s : ScriptStep)

/-- Something that is done somewhere. -/
structure Step where
  place : Place := .main
  /-- The name its result is kept under. -/
  keepAs : Option String := none
  action : Action

/-- Does a step, and tells what came of it. -/
def perform (s : Step) : Act Report :=
  match s.action with
  | .host h => hostStep s.place s.keepAs h
  | .classes c => classStep c
  | .node n => nodeStep s.place s.keepAs n
  | .proxy name slot q => proxyStep s.place s.keepAs slot name q
  | .plugin p => pluginStep s.keepAs p
  | .script x => scriptStep x

/-- Bytes that the bench's host has given out. -/
def allocated (b : Bench) : Int :=
  match b.main with
  | .memory => b.world.memory.allocated
  | .script i => (b.world.runtime i).allocated

/-- Carries out one step and reports. -/
def answer (b : Bench) (s : Step) : Json × Bench :=
  let (result, b) := (perform s).run.run b
  let report := match result with
    | .ok r => r
    | .error u => Report.unwound u
  (.object (("alloc", .int b.allocated) :: report), b)

/-- What steps come to, one after the other. -/
def answers (b : Bench) : List Step → List Json × Bench
  | [] => ([], b)
  | s :: rest =>
    let (r, b) := b.answer s
    let (rs, b) := b.answers rest
    (r :: rs, b)

/-- A new bench on the in-memory host, with the built-in classes. -/
def empty : Bench := { world := { registries := #[builtinRegistry .builtin] } }

/-- A new bench on a script runtime. -/
def ofRuntime (config : RuntimeConfig) : Bench :=
  let (i, world) := (Runtime.open_ config).run.run empty.world
  { world, main := .script (i.toOption.getD 0) }

/-- The counts of all objects that are kept. On the in-memory host the
global object is listed too. -/
def counts (b : Bench) : Report :=
  let kept := b.world.kept.entries.filterMap fun e =>
    e.2.object?.map fun o => (e.1, Json.int (b.world.refs o))
  if b.main = .memory then kept ++
    [("<window>", .int (b.world.refs (.table b.world.memory.window)))] else kept

/-- What is reported at the end. -/
def closing (b : Bench) : Report :=
  [("refs", .object b.counts), ("live", .object (Report.live b.world.metrics))]
    ++ (if b.main = .memory then
        [("calls", .object (b.world.memory.calls.entries.map fun e => (e.1, Json.int e.2)))]
        else [])
    ++ (match b.recorder with
      | some r => [("profile", Report.calls ((b.world.recorders[r]?.map (·.calls)).getD []))]
      | none => [])

/-- Carries out steps one after the other and reports on all of them. -/
def run (b : Bench) (steps : List Step) : Json :=
  let (reports, b) := b.answers steps
  .object (("steps", .array reports) :: b.closing)

end ObjectBridge.Bench

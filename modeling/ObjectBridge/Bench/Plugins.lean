import ObjectBridge.Bench.Basic
import ObjectBridge.Manifest.Basic

/-!
# `ObjectBridge.Bench.Plugins`: steps on plugins, instances and sessions
-/

set_option autoImplicit false

namespace ObjectBridge.Bench

/-! ### Plugins and instances -/

/-- What a plugin is made of. -/
structure PluginPlan where
  manifest : Option Manifest
  /-- The settings its options come from; without any, the options are
  the usual ones. -/
  settings : Option GlueSettings
  /-- A name for the root object other than the usual one. -/
  global : Option String
  registered : Bool
  metered : Bool

/-- Steps on plugins and their instances. -/
inductive PluginStep
  | make (name : String) (plan : PluginPlan)
  | ask (plugin : String) (question : Int)
  | info (plugin : String)
  | newInstance (plugin name : String)
  | root (name : String)
  | destroy (name : String)
  | lastError (name : String) (set : Option Bytes)
  | profile (name : String)
  | findNode (name : String) (path : Bytes) (node : String)
  | live

/-- The options of a plan. -/
def PluginPlan.options (plan : PluginPlan) : Except OptionsError Options := do
  let o ← match plan.settings with
    | some s => Options.ofSettings s
    | none => .ok {}
  return { o with global := plan.global.getD o.global }

/-- Carries out a step on plugins. -/
def pluginStep (keepAs : Option String) : PluginStep → Act Report
  | .make name plan => do
    match plan.options with
    | .error e => return Report.error "error" e.message
    | .ok options =>
      let number := (← get).registry
      let registry := if plan.registered then some number else none
      match ← inWorld (Plugin.new plan.manifest registry options plan.metered) with
      | .error e => return Report.pluginError e
      | .ok p =>
        modify fun b => { b with plugins := b.plugins.insert name p }
        return [("global", .string p.options.global)]
  | .ask plugin question => do
    let q := Plugin.Query.ofInt question
    match (← pluginNamed plugin).value q with
    | .ok text => return [("value", Report.text text), ("variable", .string q.text)]
    | .error message => return Report.error "invalid_param" message
  | .info plugin => do
    let p ← pluginNamed plugin
    let r := (← theWorld).registries.getD p.registry {}
    return [("classes", Report.classNames r), ("has_logger", .bool true),
      ("has_metrics", .bool p.metered), ("manifest", Report.manifest p.manifest),
      ("mime", Report.text p.mimeDescription), ("options", Report.options p.options)]
  | .newInstance plugin name => do
    let p ← pluginNamed plugin
    match ← inWorld (Instance.new p (← get).main) with
    | .error e => return Report.assemblyError e
    | .ok i =>
      modify fun b => { b with instances := b.instances.insert name i }
      return [("id_prefix", .string "inst_"), ("encoding", .string p.options.wide.name)]
  | .root name => do
    let (i, x) ← instanceNamed name
    match ← inWorld (Instance.scriptableObject i) with
    | some o => yields keepAs (Instance.context x.host i) (.object o) [("valid", .bool true)]
    | none => return [("valid", .bool false)]
  | .destroy name => do
    inWorld (Instance.destroy (← instanceNamed name).1)
    return [("destroyed", .bool (← instanceNamed name).2.destroyed)]
  | .lastError name message => do
    let (i, _) ← instanceNamed name
    if let some message := message then inWorld (Instance.setLastError i message)
    let (_, x) ← instanceNamed name
    return [("last_error", Report.text x.lastError), ("destroyed", .bool x.destroyed)]
  | .profile name => do
    let (_, x) ← instanceNamed name
    let calls ← callsOf x.recorder
    return [("on", .bool x.recorder.isSome), ("stats", Report.calls calls),
      ("empty", .bool calls.isEmpty)]
  | .findNode name path node => do
    match (← theWorld).graph.lookup? (← instanceNamed name).2.root path with
    | some n =>
      nameNode node n
      return [("found", .bool true)]
    | none => return [("found", .bool false)]
  | .live => return Report.live (← theWorld).metrics

/-! ### Scripts, sessions and pools -/

/-- Where a script runs. -/
inductive Stage
  | main
  | session (name : String)
  | pool (name : String)

/-- Steps on runtimes, sessions and pools. -/
inductive ScriptStep
  | execute (stage : Stage) (script : String) (cancelled : Bool)
  | bind (object : Option String) (name : String)
  | reset
  | close
  | exportObject (name : String)
  | newSession (plugin name : String) (config : RuntimeConfig)
  | sessionInfo (name : String)
  | resetSession (name : String)
  | closeSession (name : String)
  | newPool (plugin name : String) (size : Int) (config : RuntimeConfig)
  | acquire (pool name : String) (cancelled : Bool)
  /-- Gives a session back; its name may stay. -/
  | giveBack (pool session : String) (keepName : Bool)
  | poolStats (pool : String)
  | closePool (pool : String)

/-- The bench's own runtime. -/
def mainRuntime : Act Nat := do
  match (← get).main with
  | .script i => return i
  | .memory => throw .fault

/-- Takes the reference kept under a name, and the name with it. -/
def takeObject : Option String → Act (Option ObjectRef)
  | none => return none
  | some name => do
    let o ← keptObject name
    forget name
    return some o

/-- What a pool says about itself. -/
def statsOf (pool : Nat) : Act Report := do
  return [("stats", Report.poolStats (Pool.stats (← inWorld (Pool.pool pool))))]

/-- Carries out a step on runtimes, sessions and pools. -/
def scriptStep : ScriptStep → Act Report
  | .execute .main script cancelled => do
    let i ← mainRuntime
    return Report.execution (← inWorld (Runtime.execute i script cancelled))
  | .execute (.session name) script cancelled => do
    let (s, x) ← sessionNamed name
    let e ← inWorld (Session.execute s script cancelled)
    return Report.execution e ++
      [("session_alloc", .int (← inWorld (allocatedBy (.script x.runtime))))]
  | .execute (.pool name) script cancelled => do
    match ← inWorld (Pool.execute (← poolNamed name) script cancelled) with
    | .ok e => return Report.execution e
    | .error e => return Report.acquireError e
  | .bind object name => do
    let o ← takeObject object
    match ← inWorld (Runtime.bind (← mainRuntime) name o) with
    | .ok _ => return [("ok", .bool true)]
    | .error e => return Report.error "error" e.message
  | .reset => do
    inWorld (Runtime.reset (← mainRuntime))
    return [("ok", .bool true)]
  | .close => do
    inWorld (Runtime.close (← mainRuntime))
    return [("ok", .bool true)]
  | .exportObject name => do
    match ← keptObject name with
    | .handle h =>
      let x := (← theWorld).handles.getD h default
      return [("value", Report.exported
        (← inWorld (Runtime.exportResult x.runtime (.object x.object))))]
    | _ => throw .fault
  | .newSession plugin name config => do
    match ← inWorld (Session.new (← pluginNamed plugin) config) with
    | .ok s =>
      modify fun b => { b with sessions := b.sessions.insert name s }
      return []
    | .error e => return Report.sessionError e
  | .sessionInfo name => do
    let (_, x) ← sessionNamed name
    let allocated := ("alloc_js", Json.int (← inWorld (allocatedBy (.script x.runtime))))
    match x.inst.bind ((← theWorld).instances[·]?) with
    | some i =>
      return [allocated, ("instance", .bool true), ("last_error", Report.text i.lastError),
        ("stats", Report.calls (← callsOf i.recorder))]
    | none => return [allocated, ("instance", .bool false)]
  | .resetSession name => do
    let (s, x) ← sessionNamed name
    match ← inWorld (Session.reset s) with
    | .ok _ =>
      return [("ok", .bool true), ("fresh", .bool ((← sessionNamed name).2.inst != x.inst))]
    | .error e => return Report.sessionError e
  | .closeSession name => do
    inWorld (Session.close (← sessionNamed name).1)
    return [("ok", .bool true)]
  | .newPool plugin name size config => do
    match ← inWorld (Pool.new (← pluginNamed plugin) config size) with
    | .ok p =>
      modify fun b => { b with pools := b.pools.insert name p }
      statsOf p
    | .error e => return Report.sessionError e
  | .acquire pool name cancelled => do
    let p ← poolNamed pool
    match ← inWorld (Pool.acquire p cancelled) with
    | .ok s =>
      modify fun b => { b with sessions := b.sessions.insert name s }
      statsOf p
    | .error e => return Report.acquireError e ++ (← statsOf p)
  | .giveBack pool session keepName => do
    let p ← poolNamed pool
    let result ← inWorld (Pool.release p (← sessionNamed session).1)
    if !keepName then modify fun b => { b with sessions := b.sessions.erase session }
    match result with
    | .ok _ => return ("ok", .bool true) :: (← statsOf p)
    | .error e => return Report.sessionError e ++ (← statsOf p)
  | .poolStats pool => do statsOf (← poolNamed pool)
  | .closePool pool => do
    let p ← poolNamed pool
    inWorld (Pool.close p)
    return ("ok", .bool true) :: (← statsOf p)

end ObjectBridge.Bench

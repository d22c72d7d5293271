import ObjectBridge.Bridge.Ownership
import ObjectBridge.Bridge.World

/-!
# `ObjectBridge.Plugin.Instance`: plugins in hosts

Each instance has a graph of its own, assembled when the instance is
made, and holds the proxy of its root until it is destroyed. Proxies that
the host still holds stay usable after that.
-/

set_option autoImplicit false

/-!
## Plugins and their options

A plugin is made only from a manifest that can be assembled, so what goes
wrong with its instances later is not the manifest's fault unless classes
have been taken away.
-/

namespace ObjectBridge

/-- The settings options are made from. -/
structure GlueSettings where
  skipExistenceCheck : Bool := false
  missingIndex : String := "absent"
  wideEncoding : String := ""
  profile : Bool := false
  manifest : String := ""
  deriving DecidableEq, Repr

/-- A setting that means nothing. -/
inductive OptionsError
  | missingIndex (value : String)
  | wideEncoding (value : String)
  deriving DecidableEq, Repr

/-- The text of the error. -/
def OptionsError.message : OptionsError → String
  | .missingIndex s => "GLUE_MISSING_INDEX: " ++ MissingIndex.unknownMessage s
  | .wideEncoding s => "GLUE_WIDE_ENCODING: " ++ WideEncoding.unknownMessage s

/-- The options that settings stand for. -/
def Options.ofSettings (s : GlueSettings) : Except OptionsError Options :=
  match MissingIndex.parse? s.missingIndex, WideEncoding.parse? s.wideEncoding with
  | none, _ => .error (.missingIndex s.missingIndex)
  | _, none => .error (.wideEncoding s.wideEncoding)
  | some missing, some wide =>
    .ok { index := { skipExistenceCheck := s.skipExistenceCheck, missing }, wide,
          profile := s.profile }

/-- Why there is no plugin. -/
inductive PluginError
  | noManifest
  | noRegistry
  | assembly (e : AssemblyError)
  deriving DecidableEq, Repr

/-- The text of the error. -/
def PluginError.message : PluginError → String
  | .noManifest => "manifest is required"
  | .noRegistry => "class registry is required"
  | .assembly e => e.message

namespace Plugin

variable {β : Type}

/-- Makes a plugin, after trying to assemble its graph. -/
def new (manifest : Option Manifest) (registry : Option Nat) (options : Options) (metered : Bool) :
    M β (Except PluginError Plugin) := do
  match manifest, registry with
  | none, _ => return .error .noManifest
  | _, none => return .error .noRegistry
  | some m, some r =>
    let w ← get
    match Graph.assemble (w.registries.getD r {}) m ({} : Graph β) with
    | .error e => return .error (.assembly e)
    | .ok _ =>
      let options := if options.global = "" then { options with global := "plugin" } else options
      return .ok { manifest := m, registry := r, options, metered }

/-- What can be asked about a plugin. -/
inductive Query
  | name
  | description
  | other (number : Int)
  deriving DecidableEq, Repr

/-- The question with a given number. -/
def Query.ofInt : Int → Query
  | 0 => .name
  | 1 => .description
  | n => .other n

/-- The name of what is asked for. -/
def Query.text : Query → String
  | .name => "name"
  | .description => "description"
  | .other n => "variable(" ++ toString n ++ ")"

/-- Answers a question, or says what is wrong with it. -/
def value (p : Plugin) : Query → Except String Bytes
  | .name => .ok p.manifest.name
  | .description => .ok p.manifest.description
  | q => .error ("invalid parameter: " ++ q.text)

/-- The media types the plugin handles. -/
def mimeDescription (p : Plugin) : Bytes := Bytes.intercalate (.ofString ";") p.manifest.mime

end Plugin

end ObjectBridge

namespace ObjectBridge.Instance

variable {β : Type}

/-- The context native code of an instance is called with. -/
def context (host : HostId) (i : Nat) : Context := { host, inst := some i }

/-- Makes an instance of a plugin in a host. -/
def new (p : Plugin) (host : HostId) : M β (Except AssemblyError Nat) := do
  let w ← get
  match w.graph.assemble (w.registries.getD p.registry {}) p.manifest with
  | .error e => return .error e
  | .ok (graph, root) =>
    let i := w.instances.size
    let recorder := if p.options.profile then some w.recorders.size else none
    set { w with
      graph
      recorders := if p.options.profile then w.recorders.push {} else w.recorders
      instances := w.instances.push { plugin := p, root, host, recorder } }
    let proxy ← newProxy (context host i) root
    modifyInstance i fun x => { x with scripting := some proxy }
    meter (context host i) Metrics.instanceCreated
    return .ok i

/-- The proxy of the root, held once more, unless the instance is
destroyed. -/
def scriptableObject (i : Nat) : M β (Option ObjectRef) := do
  match ((← get).instances[i]?).bind (·.scripting) with
  | some o =>
    retain o
    return some o
  | none => return none

/-- Gives up the root. Only the first time has an effect. -/
def destroy (i : Nat) : M β Unit := do
  match (← get).instances[i]? with
  | none => return ()
  | some x =>
    if x.destroyed then return ()
    modifyInstance i fun x => { x with destroyed := true, scripting := none }
    match x.scripting with
    | some o => release o
    | none => pure ()
    meter (context x.host i) Metrics.instanceDestroyed

/-- Sets the last error. -/
def setLastError (i : Nat) (message : Bytes) : M β Unit := do
  match (← get).instances[i]? with
  | none => return ()
  | some x =>
    modifyInstance i fun x => { x with lastError := message }
    meter (context x.host i) fun m => m.recordException (Failure.label message)

end ObjectBridge.Instance

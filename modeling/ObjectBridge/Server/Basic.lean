import ObjectBridge.Builtin.Behaviour
import ObjectBridge.Http.RateLimit
import ObjectBridge.Manifest.Load
import ObjectBridge.Metrics.Event
import ObjectBridge.Plugin.Pool
import ObjectBridge.Settings.Basic
import ObjectBridge.Trace

/-!
# `ObjectBridge.Server.Basic`: a server and how it is set up

A server has one plugin, made from a manifest and the built-in classes,
and a pool of sessions to run the scripts of requests in. A server is
made from settings and the files that manifests are read from.

Nothing here takes time: clock readings come with the requests, and every
duration that enters the books is zero. What new identifiers look like is
up to whoever runs the server.
-/

set_option autoImplicit false

namespace ObjectBridge

/-- What an identifier is for. -/
inductive IdKind
  | request
  | inst
  | session
  deriving DecidableEq, Repr

/-- Why there is no server. -/
inductive ServerError
  | manifest (e : Manifest.LoadError)
  | options (e : OptionsError)
  | plugin (e : PluginError)
  | pool (e : SessionError)
  /-- Something was unwound. -/
  | fault

def ServerError.message : ServerError → String
  | .manifest e => "failed to load manifest: " ++ e.message
  | .options e => e.message
  | .plugin e => "failed to create plugin: " ++ e.message
  | .pool e => "failed to create session pool: " ++ e.message
  | .fault => ""

structure Server where
  world : World Behaviour
  plugin : Plugin
  pool : Nat
  runtime : RuntimeConfig
  tracer : Tracer
  limiter : Option Limiter := none
  /-- The text of a new identifier, by its number. -/
  idText : IdKind → Nat → String
  /-- Identifiers made so far. -/
  issued : Nat := 0

namespace Server

/-- What a server does. -/
abbrev Act := StateM Server

/-- Does something to the world. -/
def inWorld {α : Type} (m : M Behaviour α) : Act (Except Unwind α) := fun s =>
  let (result, world) := m.run.run s.world
  (result, { s with world })

/-- Enters something in the books. -/
def meter (event : Metrics → Metrics) : Act Unit :=
  modify fun s => { s with world := { s.world with metrics := event s.world.metrics } }

/-- A new identifier. -/
def freshId (kind : IdKind) : Act String :=
  modifyGet fun s => (s.idText kind (s.issued + 1), { s with issued := s.issued + 1 })

def registry (s : Server) : Registry Behaviour := s.world.registries.getD s.plugin.registry {}

/-- The manifest that settings name, or the built-in one. -/
def manifestOf (files : FileTree) (g : GlueSettings) : Except Manifest.LoadError Manifest :=
  if g.manifest = "" then .ok Manifest.builtin else Manifest.loadGlob files g.manifest

/-- Whole milliseconds of a duration; what is begun counts. -/
def milliseconds (nanoseconds : Int) : Int := -((-nanoseconds) / 1000000)

/-- How the runtimes of a server are set up. -/
def runtimeConfig (s : ScriptSettings) : RuntimeConfig :=
  { timeout := milliseconds s.timeout, console := s.console, maxAlloc := s.maxAlloc }

def limiterOf (s : RateSettings) : Option Limiter :=
  if s.enabled then some { limit := { rate := s.requestsPerSecond, burst := s.burst } } else none

/-- Makes a server. -/
def new (settings : Settings) (files : FileTree) (idText : IdKind → Nat → String) :
    Except ServerError Server := do
  let manifest ← (manifestOf files settings.glue).mapError .manifest
  let options ← (Options.ofSettings settings.glue).mapError .options
  let world : World Behaviour := { registries := #[builtinRegistry id] }
  let runtime := runtimeConfig settings.script
  match (Plugin.new (some manifest) (some 0) options true).run.run world with
  | (.error _, _) => .error .fault
  | (.ok (.error e), _) => .error (.plugin e)
  | (.ok (.ok plugin), world) =>
    match (Pool.new plugin runtime settings.script.poolSize).run.run world with
    | (.error _, _) => .error .fault
    | (.ok (.error e), _) => .error (.pool e)
    | (.ok (.ok pool), world) =>
      return { world, plugin, pool, runtime, idText, limiter := limiterOf settings.rate,
               tracer := { service := "scriptbridge", idText := idText .request } }

/-- Takes a server out of service: the sessions are closed, and no more
spans are logged. Requests are still answered. -/
def shutDown : Act Unit := do
  let p := (← get).pool
  let _ ← inWorld (Pool.close p)
  modify fun s => { s with tracer := s.tracer.close }

end Server

end ObjectBridge

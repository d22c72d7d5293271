import ObjectBridge.Bench.Report
import ObjectBridge.Settings.Duration
import ObjectBridge.Settings.Number

/-!
# `ObjectBridge.Settings.Basic`: settings from the environment

Every setting has a variable of its own. A variable with the name of the
setting's group in front comes before the plain one, and one that is set
to nothing is set. The first setting, in the order below, that cannot be
read is what is reported.
-/

set_option autoImplicit false

namespace ObjectBridge

structure ServerSettings where
  port : String := "8000"
  host : String := "0.0.0.0"
  deriving DecidableEq, Repr

structure ScriptSettings where
  /-- Nanoseconds a script may run. -/
  timeout : Int := 5000000000
  maxAlloc : Int := 1048576
  console : Bool := true
  poolSize : Int := 4
  deriving DecidableEq, Repr

structure LogSettings where
  level : String := "info"
  development : Bool := false
  deriving DecidableEq, Repr

structure RateSettings where
  requestsPerSecond : Int := 100
  burst : Int := 200
  enabled : Bool := true
  deriving DecidableEq, Repr

/-- Everything that can be set; without a word about it, as here. -/
structure Settings where
  server : ServerSettings := {}
  glue : GlueSettings := {}
  script : ScriptSettings := {}
  logging : LogSettings := {}
  rate : RateSettings := {}
  deriving DecidableEq, Repr

namespace Settings

/-- A setting that could not be read. -/
structure ReadError where
  /-- The variable with its group. -/
  key : String
  field : String
  value : String
  type : String
  details : String
  deriving DecidableEq, Repr

def ReadError.message (e : ReadError) : String :=
  "failed to load config: envconfig.Process: assigning " ++ e.key ++ " to " ++ e.field ++
    ": converting '" ++ e.value ++ "' to type " ++ e.type ++ ". details: " ++ e.details

abbrev Environment := List (String × String)

/-- What a variable is set to, if it is. -/
def lookup? (env : Environment) (group name : String) : Option String :=
  match env.lookup (group ++ "_" ++ name) with
  | some v => some v
  | none => env.lookup name

def text (env : Environment) (group name usual : String) : String :=
  (lookup? env group name).getD usual

/-- Reads a variable that is set; one that is not has its usual value. -/
def reading {α : Type} (env : Environment) (group name field type : String) (usual : α)
    (read : String → Except String α) : Except ReadError α :=
  match lookup? env group name with
  | none => .ok usual
  | some value =>
    match read value with
    | .ok x => .ok x
    | .error details => .error { key := group ++ "_" ++ name, field, value, type, details }

def truth (env : Environment) (group name field : String) (usual : Bool) : Except ReadError Bool :=
  reading env group name field "bool" usual fun s =>
    match readBool? s with
    | some b => .ok b
    | none => .error ("strconv.ParseBool: parsing " ++ Quoted.quote s ++ ": invalid syntax")

def number (env : Environment) (group name field : String) (usual : Int) : Except ReadError Int :=
  reading env group name field "int" usual fun s =>
    match readInt s with
    | .ok n => .ok n
    | .error e => .error ("strconv.ParseInt: parsing " ++ Quoted.quote s ++ ": " ++ e.message)

def duration (env : Environment) (group name field : String) (usual : Int) : Except ReadError Int :=
  reading env group name field "time.Duration" usual fun s =>
    match Duration.read s with
    | .ok n => .ok n
    | .error f => .error (f.message s)

/-- Reads all settings. -/
def load (env : Environment) : Except ReadError Settings := do
  let usual : Settings := {}
  let skip ← truth env "GLUE" "GLUE_HASPROPERTY_WORKAROUND" "HasPropertyWorkaround"
      usual.glue.skipExistenceCheck
  let profile ← truth env "GLUE" "GLUE_PROFILE" "Profile" usual.glue.profile
  let timeout ← duration env "SCRIPT" "SCRIPT_TIMEOUT" "Timeout" usual.script.timeout
  let maxAlloc ← number env "SCRIPT" "SCRIPT_MAX_ALLOC" "MaxAllocBytes" usual.script.maxAlloc
  let console ← truth env "SCRIPT" "SCRIPT_CONSOLE" "EnableConsole" usual.script.console
  let poolSize ← number env "SCRIPT" "POOL_SIZE" "PoolSize" usual.script.poolSize
  let development ← truth env "LOGGING" "LOG_DEV" "Development" usual.logging.development
  let rps ← number env "RATELIMIT" "RATE_LIMIT_RPS" "RequestsPerSecond" usual.rate.requestsPerSecond
  let burst ← number env "RATELIMIT" "RATE_LIMIT_BURST" "Burst" usual.rate.burst
  let enabled ← truth env "RATELIMIT" "RATE_LIMIT_ENABLED" "Enabled" usual.rate.enabled
  return {
    server :=
      { port := text env "SERVER" "PORT" usual.server.port
        host := text env "SERVER" "HOST" usual.server.host }
    glue :=
      { skipExistenceCheck := skip
        missingIndex := text env "GLUE" "GLUE_MISSING_INDEX" usual.glue.missingIndex
        wideEncoding := text env "GLUE" "GLUE_WIDE_ENCODING" usual.glue.wideEncoding
        profile
        manifest := text env "GLUE" "GLUE_MANIFEST" usual.glue.manifest }
    script := { timeout, maxAlloc, console, poolSize }
    logging := { level := text env "LOGGING" "LOG_LEVEL" usual.logging.level, development }
    rate := { requestsPerSecond := rps, burst, enabled } }

/-- The settings, or the usual ones when they cannot be read. -/
def loadOrDefault (env : Environment) : Settings := (load env).toOption.getD {}

def report (s : Settings) : Json :=
  .object
    [("server", .object [("port", .string s.server.port), ("host", .string s.server.host)]),
      ("glue", .object [("workaround", .bool s.glue.skipExistenceCheck),
        ("missing_index", .string s.glue.missingIndex), ("wide", .string s.glue.wideEncoding),
        ("profile", .bool s.glue.profile), ("manifest", .string s.glue.manifest)]),
      ("script", .object [("timeout", .string (Duration.text s.script.timeout)),
        ("timeout_ns", .int s.script.timeout), ("max_alloc", .int s.script.maxAlloc),
        ("console", .bool s.script.console), ("pool", .int s.script.poolSize)]),
      ("logging", .object [("level", .string s.logging.level),
        ("dev", .bool s.logging.development)]),
      ("rate_limit", .object [("rps", .int s.rate.requestsPerSecond), ("burst", .int s.rate.burst),
        ("enabled", .bool s.rate.enabled)])]

/-- The settings of an environment and the options they stand for. -/
def reportEnvironment (env : Environment) : Json :=
  let loaded := match load env with
    | .error e => [("load_error", Json.string e.message)]
    | .ok s =>
      let options := match Options.ofSettings s.glue with
        | .ok o => Report.options o
        | .error e => .object (Report.error "error" e.message)
      [("load", s.report), ("options", options)]
  .object (("or_default", (loadOrDefault env).report) :: loaded)

end Settings

end ObjectBridge

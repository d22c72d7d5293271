import ObjectBridge.Bridge.Host

/-!
# `ObjectBridge.Bridge.Runtime`: the life of a script runtime

A runtime is opened, runs scripts, may be reset any number of times, and
is closed. Resetting and closing give back every reference the runtime
held for scripts. A reset also opens a runtime that was closed.
-/

set_option autoImplicit false

namespace ObjectBridge.Runtime

variable {β : Type}

/-- Gives a runtime a new realm, with nothing in it and nothing owed. No
script runs in it. -/
def start (i : Nat) : M β Unit := do
  let w ← get
  let console := (w.runtime i).config.console
  let realm ← ScriptHost.withHeap fun h => let (h, r) := h.newRealm w.realms console; (r, h)
  modify fun w => { w with realms := w.realms + 1 }
  modifyRuntime i fun r =>
    { r with
      realm, isOpen := true, console := [], allocated := 0, running := false, depth := 0, steps :=
        0, watch := {} }

/-- Opens a runtime. -/
def open_ (config : RuntimeConfig) : M β Nat := do
  let i ← modifyGet fun w => (w.runtimes.size, { w with runtimes := w.runtimes.push { config } })
  start i
  return i

/-- Gives references back, in order. -/
def releaseObjects : List ObjectRef → M β Unit
  | [] => return ()
  | o :: rest => do
    release o
    releaseObjects rest

/-- Gives back every reference held for scripts, in the order they were
taken. -/
def releaseAdopted (i : Nat) : M β Unit := do
  releaseObjects ((← get).runtime i).adopted.reverse
  modifyRuntime i fun r => { r with adopted := [] }

/-- Drops everything scripts have left. -/
def reset (i : Nat) : M β Unit := do
  releaseAdopted i
  start i

/-- Closes a runtime. -/
def close (i : Nat) : M β Unit := do
  releaseAdopted i
  modifyRuntime i fun r => { r with isOpen := false, console := [] }

/-! ### Exported values -/

/-- A value as it leaves a script. -/
inductive Exported
  | null
  | bool (b : Bool)
  | number (n : Float)
  | bigint (n : Int)
  | string (text : Bytes)
  | list (items : List Exported)
  | object (fields : List (String × Exported))
  | function
  /-- A native object inside a value. -/
  | other
  /-- The value is inside itself here. -/
  | cycle

/-! ### Running scripts -/

/-- Why a script has no result. -/
inductive ScriptError
  /-- The script threw; the text of what it threw. -/
  | exception (text : Bytes)
  /-- The script threw something that throws when it is asked for its
  text. -/
  | mute
  | syntaxError
  | interrupted (cancelled : Bool)
  | stackOverflow
  | closed
  deriving DecidableEq, Repr

/-- The text of the error. -/
def ScriptError.message : ScriptError → String
  | .exception text => text.toStringLossy
  | .mute => ""
  | .syntaxError => "SyntaxError"
  | .interrupted true => "context cancelled"
  | .interrupted false => "execution timeout exceeded"
  | .stackOverflow => ""
  | .closed => "runtime is closed"

/-- How a script ended, and what it wrote to the console. -/
structure Execution where
  result : Except ScriptError Exported
  /-- Nothing was run when there is no console. -/
  console : Option (List (String × Bytes))

variable [Native β]

/-- Changes what stops the scripts of a runtime. -/
def modifyWatch (i : Nat) (f : Watch → Watch) : M β Unit :=
  modifyRuntime i fun r => { r with watch := f r.watch }

/-- Stops code of a program when the flag is raised. -/
def heedFlag (i : Nat) (code : Bool) : M β Unit := do
  if code && ((← get).runtime i).watch.flag.isSome then throw .interrupted

/-- The steps of a script that has ended take their time. -/
def passTime (i : Nat) : M β Unit :=
  modifyRuntime i fun r => { r with watch := r.watch.elapse (ScriptHost.mostSteps - r.steps) }

/-- Reads a property of a value that leaves a script. The watcher of the
script is still there. -/
def fetchWatched (i : Nat) (o : Script.ObjId) (key : Script.Key) : M β (Option Script.Value) := do
  let code := (← get).heap.readByCode o key
  heedFlag i code
  let v ← cleanly (ScriptHost.fetch host i o key) (passTime i)
  heedFlag i code
  return v

/-- How far values may be nested that leave a script. -/
def depthBound : Nat := 1000

mutual

/-- Takes a value out of a script. It is part of the objects `inside`.
Nesting is followed `fuel` deep. -/
def exportValue (i : Nat) : (fuel : Nat) → (inside : List Script.ObjId) → Script.Value →
    M β Exported
  | 0, _, _ => return .null
  | fuel + 1, inside, v => do
    match v with
    | .undefined | .null => return .null
    | .bool b => return .bool b
    | .number n => return .number n
    | .bigint n => return .bigint n
    | .string t => return .string t.toBytes
    | .symbol s => return .string s.label.toBytes
    | .object o =>
      if inside.contains o then return .cycle
      let inside := o :: inside
      let h := (← get).heap
      match (h.obj o).kind with
      | .native _ _ => return .other
      | .function _ => return .function
      | .primitive v => exportValue i fuel inside v
      | .array length _ =>
        return .list (← exportItems i fuel inside o ((List.range length).map Script.Key.ofNat))
      | _ =>
        let keys := h.ownKeys o
        return .object ((keys.map (·.shown)).zip (← exportItems i fuel inside o keys))

/-- Takes properties of an object out of a script. -/
def exportItems (i : Nat) (fuel : Nat) (inside : List Script.ObjId) (o : Script.ObjId) :
    List Script.Key → M β (List Exported)
  | [] => return []
  | key :: rest => do
    let v ← fetchWatched i o key
    let x ← exportValue i fuel inside (v.getD .undefined)
    return x :: (← exportItems i fuel inside o rest)

end

/-- The result of a script as it leaves the runtime. A native object is
shown by its kind. -/
def exportResult (i : Nat) (v : Script.Value) : M β Exported := do
  match v with
  | .object o =>
    match ← ScriptHost.unwrap? i o with
    | some ref => return .string (.ofString ref.text)
    | none => exportValue i depthBound [] v
  | v => exportValue i depthBound [] v

/-- A run that has ended, with what it wrote. The flag is lowered. -/
def finish (i : Nat) (result : Except ScriptError Exported) : M β Execution := do
  modifyWatch i Watch.lower
  return { result, console := some ((← get).runtime i).console }

/-- A run that ended because something was thrown. Asking for its text may
run the script once more; what is written then is not told. -/
def finishThrown (i : Nat) (v : Script.Value) : M β Execution := do
  let ended ← finish i (.ok .null)
  match ← caught (ScriptHost.textOf host i v) with
  | .ok text => return { ended with result := .error (.exception text.toBytes) }
  | .error (.thrown _) => return { ended with result := .error .mute }
  | .error u => throw u

/-- Takes the result of a script out of the runtime. The watcher stays
meanwhile, for as many steps as the script had left. -/
def takeOut (i : Nat) (f : Interrupt) (v : Script.Value) : M β Execution := do
  let ended ← finish i (.ok .null)
  modifyRuntime i fun r => { r with watch := r.watch.keep f r.steps }
  let x ← cleanly (exportResult i v) (modifyWatch i Watch.dismiss)
  return { ended with result := .ok x }

/-- Ends the run of a script that came to an outcome, or was unwound. -/
def conclude (i : Nat) (f : Interrupt) (ran : Except Unwind Script.Outcome) : M β Execution :=
  match ran with
  | .ok (.value v) => takeOut i f v
  | .ok .absent => finish i (.ok .null)
  | .ok .overflow | .error .overflow => finish i (.error .stackOverflow)
  | .error .interrupted => finish i (.error (.interrupted f.cancelled))
  | .ok (.thrown v) | .error (.thrown v) => finishThrown i v
  | .error u => throw u

/-- A runtime in which a run has begun. -/
def begun (r : Runtime) : Runtime := { r with console := [], watch := r.watch.start }

/-- Runs a script. It is interrupted when it runs for too long, or soon
if it was cancelled, and at once when the flag is raised. -/
def execute (i : Nat) (script : String) (cancelled : Bool) : M β Execution := do
  if !((← get).runtime i).isOpen then return { result := .error .closed, console := none }
  modifyRuntime i begun
  match Script.parse? script with
  | none => finish i (.error .syntaxError)
  | some program =>
    let r := (← get).runtime i
    match r.watch.flag with
    | some f => finish i (.error (.interrupted f.cancelled))
    | none =>
      let steps := if cancelled then ScriptHost.leastSteps else ScriptHost.stepLimit r.config
      conclude i { run := r.watch.runs, cancelled }
        (← caught (ScriptHost.runProgram host i program steps))

/-- Why an object could not be bound. -/
inductive BindError
  | noObject (name : String)
  | refused (name : String) (text : Script.Text)
  deriving DecidableEq, Repr

/-- The text of the error. -/
def BindError.message : BindError → String
  | .noObject name => "bind " ++ name ++ ": no object"
  | .refused name text => "bind " ++ name ++ ": " ++ text.toStringLossy

/-- Makes a value a global of scripts. -/
def setGlobal (i : Nat) (name : String) (v : Script.Value) : M β (Except BindError Unit) := do
  let r := (← get).runtime i
  if !r.isOpen then throw .fault
  match ← ScriptHost.assign host i r.realm.global (.ofString name) v with
  | .ok _ => return .ok ()
  | .error (.thrown e) => return .error (.refused name (← ScriptHost.textOf host i e))
  | .error u => throw u

/-- Makes an object a global of scripts. The caller's reference goes to
the runtime, also when this fails. -/
def bind (i : Nat) (name : String) (o : Option ObjectRef) : M β (Except BindError Unit) := do
  match o with
  | none => return .error (.noObject name)
  | some o =>
    let v ← ScriptHost.toValue i (.object o)
    release o
    setGlobal i name v

end ObjectBridge.Runtime

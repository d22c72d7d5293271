import ObjectBridge.Bridge.Accessor
import ObjectBridge.Text.Case

/-!
# `ObjectBridge.Builtin.Behaviour`: the native code of the built-in classes

Each member of a built-in class is a `Behaviour`. Counters are made while
the program runs: a counter is a node of its own, with a cell for its
value, and its members know the number of the cell.

The classes may be used together with other native code, so behaviours
run in any world whose native code includes them (`lift`).
-/

set_option autoImplicit false

namespace ObjectBridge

/-- What a built-in member does. -/
inductive Behaviour
  | describe
  | greet
  | echo
  | raise
  | version
  | lastError
  | upper
  | wide
  | wideUnits
  | join
  | range
  | sum
  | element
  | newCounter
  | counterValue (cell : Nat)
  | setCounter (cell : Nat)
  | increment (cell : Nat)
  deriving DecidableEq, Repr

namespace Behaviour

variable {β : Type}

/-- The version scripts are told. -/
def versionText : String := "1.0.0"

/-- The longest array that is built or read. -/
def maxArrayLength : Nat := 65536

/-! ### Arguments -/

/-- What is said about an argument of another kind. -/
def wrongArgument (method : String) (i : Nat) (kind : String) : Failure :=
  .ofText (method ++ ": argument " ++ toString i ++ " must be " ++ kind)

/-- An argument that must be a string. -/
def argString (method : String) (args : List Variant) (i : Nat) : Except Failure Bytes :=
  match args[i]? with
  | some (.string bytes) => .ok bytes
  | _ => .error (wrongArgument method i "a string")

/-- An argument that must be a number. -/
def argNumber (method : String) (args : List Variant) (i : Nat) : Except Failure Float :=
  match (args[i]?).bind (·.number?) with
  | some n => .ok n
  | none => .error (wrongArgument method i "a number")

/-- An argument that must be an object. -/
def argObject (method : String) (args : List Variant) (i : Nat) : Except Failure ObjectRef :=
  match args[i]? with
  | some (.object o) => .ok o
  | _ => .error (wrongArgument method i "an object")

/-! ### Text -/

/-- Greets somebody, or the world. -/
def runGreet (ctx : Context) (args : List Variant) : M β (Except Failure Variant) := do
  match args with
  | [] | .void :: _ => valueFromString ctx.host (.ofString "Hello World!")
  | _ =>
    match argString "greet" args 0 with
    | .error f => return .error f
    | .ok name => valueFromString ctx.host (.ofString "Hello, " ++ name ++ .ofString "!")

/-- Throws a value. A string is the message of the exception and needs no
bytes of the host. -/
def runRaise (ctx : Context) (args : List Variant) : M β (Except Failure Variant) := do
  match args with
  | [] => return .error (.ofText "raise: nothing to throw")
  | .string bytes :: _ => return .error (.thrown (.string bytes))
  | v :: _ =>
    match ← copyVariant ctx.host v with
    | .ok copy => return .error (.thrown copy)
    | .error f => return .error f

/-- The last error of the instance, null when there is none. -/
def runLastError (ctx : Context) : M β (Except Failure Variant) := do
  match (← get).instanceOf? ctx with
  | some i => if i.lastError = [] then return .ok .null else valueFromString ctx.host i.lastError
  | none => return .ok .null

/-- The wide units of a string argument. -/
def wideArgument (method : String) (ctx : Context) (args : List Variant) :
    M β (Except Failure (WideEncoding × List UInt32)) := do
  let enc ← encodingFor ctx
  match argString method args 0 with
  | .error f => return .error f
  | .ok s =>
    match Wide.ofUtf8 enc s with
    | .ok units => return .ok (enc, units)
    | .error e => return .error (.text e)

/-! ### Arrays -/

/-- Reads elements one after the other; those read before one is missing
are given back. -/
def readElements (ops : HostOps β) (ctx : Context) (acc : Accessor) (arr : ObjectRef) :
    (count next : Nat) → (done : List Variant) → M β (Except Failure (List Variant))
  | 0, _, done => return .ok done.reverse
  | count + 1, next, done => do
    match ← acc.getIndexed ops ctx.host arr (Int32.ofNat next) with
    | some v => readElements ops ctx acc arr count (next + 1) (v :: done)
    | none =>
      releaseAll ctx.host done.reverse
      return .error (.ofText ("element " ++ toString next ++ " is missing"))

/-- All elements of an array-like object, which belong to the caller. A
length that is no number passes both bounds. What whole number it is then
differs from machine to machine, and some refuse to make an array of it; here
there are no elements. -/
def readArray (ops : HostOps β) (ctx : Context)
    (arr : ObjectRef) : M β (Except Failure (List Variant)) := do
  let acc ← accessorFor ctx
  let length ← acc.getNamed ops ctx.host arr (.ofString "length")
  match length.bind (·.number?) with
  | none =>
    releaseVariant ctx.host (length.getD .void)
    return .error (.ofText "argument has no numeric length")
  | some n =>
    if n < 0 || n > Float.ofNat maxArrayLength then
      return .error (.ofText ("array length " ++ Decimal.writePlain n ++ " out of bounds"))
    readElements ops ctx acc arr ((Double.ofFloat n).truncate?.getD 0).toNat 0 []

/-- Joins the texts of the elements of an array. -/
def runJoin (ops : HostOps β) (ctx : Context) (args : List Variant) :
    M β (Except Failure Variant) := do
  match argObject "join" args 0 with
  | .error f => return .error f
  | .ok arr =>
    match if 1 < args.length then argString "join" args 1 else .ok (.ofString ",") with
    | .error f => return .error f
    | .ok sep =>
      match ← readArray ops ctx arr with
      | .error f => return .error f
      | .ok elems =>
        cleanly (valueFromString ctx.host (Bytes.intercalate sep (elems.map Variant.text)))
          (releaseAll ctx.host elems)

/-- Adds up variants, or gives the place of the first that is no number. -/
def total : (place : Nat) → (acc : Float) → List Variant → Except Nat Float
  | _, acc, [] => .ok acc
  | place, acc, v :: rest =>
    match v.number? with
    | some n => total (place + 1) (acc + n) rest
    | none => .error place

/-- Adds up the elements of an array. -/
def runSum (ops : HostOps β) (ctx : Context) (args : List Variant) :
    M β (Except Failure Variant) := do
  match argObject "sum" args 0 with
  | .error f => return .error f
  | .ok arr =>
    match ← readArray ops ctx arr with
    | .error f => return .error f
    | .ok elems =>
      cleanly (do
        match total 0 0.0 elems with
        | .ok n => return .ok (.ofNumber n)
        | .error i => return .error (.ofText ("sum: element " ++ toString i ++ " is not a number")))
        (releaseAll ctx.host elems)

/-- Stores numbers in an array, each at its own index; gives the first
index at which that is not possible. -/
def fillRange (ops : HostOps β) (ctx : Context) (acc : Accessor) (arr : ObjectRef) :
    (count next : Nat) → M β (Option Nat)
  | 0, _ => return none
  | count + 1, next => do
    let i := Int32.ofNat next
    if ← acc.setIndexed ops ctx.host arr i (.int32 i) then
      fillRange ops ctx acc arr count (next + 1)
    else return some next

/-- A new array of the numbers below a bound. -/
def runRange (ops : HostOps β) (ctx : Context) (args : List Variant) :
    M β (Except Failure Variant) := do
  match argNumber "range" args 0 with
  | .error f => return .error f
  | .ok n =>
    match (Double.ofFloat n).toInt? with
    | some length =>
      if length < 0 ∨ (maxArrayLength : Int) < length then
        return .error (.ofText ("range: length " ++ Decimal.writePlain n ++ " out of bounds"))
      let acc ← accessorFor ctx
      match ← acc.createArray ops ctx.host with
      | none => return .error (.ofText "could not create array")
      | some arr =>
        match ← fillRange ops ctx acc arr length.toNat 0 with
        | none => return .ok (.object arr)
        | some i =>
          release arr
          return .error (.ofText ("range: could not set index " ++ toString i))
    | none => return .error (.ofText ("range: length " ++ Decimal.writePlain n ++ " out of bounds"))

/-- One element of an array, as the policy for missing indexes says. -/
def runElement (ops : HostOps β) (ctx : Context) (args : List Variant) :
    M β (Except Failure Variant) := do
  match argObject "at" args 0 with
  | .error f => return .error f
  | .ok arr =>
    match argNumber "at" args 1 with
    | .error f => return .error f
    | .ok n =>
      if n < -2147483648.0 || n > 2147483647.0 then
        return .error (.ofText ("at: index " ++ Decimal.writePlain n ++ " out of range"))
      let index := Int32.ofInt ((Double.ofFloat n).truncate?.getD (-2147483648))
      match ← (← accessorFor ctx).getIndexed ops ctx.host arr index with
      | some v => return .ok v
      | none => return .error (.ofText ("at: no element " ++ toString index.toInt))

/-! ### Counters -/

/-- The number in a cell. -/
def cellNumber (cell : Nat) : M β Float := do return ((← get).cells.getD cell .void).asDouble

/-- Stores a value in a cell. -/
def setCell (cell : Nat) (v : Variant) : M β Unit :=
  modify fun w => { w with cells := w.cells.setIfInBounds cell v }

/-- The class of a counter. -/
def counterClass (lift : Behaviour → β) (cell : Nat) : Class β where
  name := .ofString "Counter"
  methods := .ofList [(.ofString "increment", some (lift (.increment cell)))]
  properties := .ofList
    [(.ofString "value", { get := some (lift (.counterValue cell)),
                           set := some (lift (.setCounter cell)) })]

/-- Makes a counter, which falls back to what the instance calls
`object`. -/
def runNewCounter (lift : Behaviour → β) (ctx : Context) (args : List Variant) :
    M β (Except Failure Variant) := do
  let start : Except Failure Float := match args with
    | [] | .void :: _ => .ok 0.0
    | _ => argNumber "counter" args 0
  match start with
  | .error f => return .error f
  | .ok start =>
    let w ← get
    let cell := w.cells.size
    let (graph, n) := w.graph.addNode (some (counterClass lift cell))
    let base := (w.instanceOf? ctx).bind fun i => w.graph.lookup? i.root (.ofString "object")
    let graph := match base with
      | some b => graph.setBase n (some b)
      | none => graph
    set { w with graph, cells := w.cells.push (.double start) }
    return .ok (.object (← newProxy ctx n))

/-- Counts up. -/
def runIncrement (cell : Nat) (args : List Variant) : M β (Except Failure Variant) := do
  let amount : Except Failure Float := if args.isEmpty then .ok 1.0
  else argNumber "increment" args 0
  match amount with
  | .error f => return .error f
  | .ok amount =>
    let n := (← cellNumber cell) + amount
    setCell cell (.double n)
    return .ok (.ofNumber n)

/-! ### All behaviours -/

/-- Runs a behaviour. -/
def run (lift : Behaviour → β) (ops : HostOps β) (ctx : Context) (b : Behaviour)
    (args : List Variant) :
    M β (Except Failure Variant) := do
  match b with
  | .describe => valueFromString ctx.host (.ofString "[object NativeObject]")
  | .greet => runGreet ctx args
  | .echo =>
    match args with
    | [] => return .ok .void
    | v :: _ => copyVariant ctx.host v
  | .raise => runRaise ctx args
  | .version => valueFromString ctx.host (.ofString versionText)
  | .lastError => runLastError ctx
  | .upper =>
    match argString "upper" args 0 with
    | .ok s => valueFromString ctx.host (Upper.ofBytes s)
    | .error f => return .error f
  | .wide =>
    match ← wideArgument "wide" ctx args with
    | .ok (enc, units) => valueFromWide ctx.host enc units
    | .error f => return .error f
  | .wideUnits =>
    match ← wideArgument "wideUnits" ctx args with
    | .ok (_, units) => return .ok (.int32 (Int32.ofNat units.length))
    | .error f => return .error f
  | .join => runJoin ops ctx args
  | .range => runRange ops ctx args
  | .sum => runSum ops ctx args
  | .element => runElement ops ctx args
  | .newCounter => runNewCounter lift ctx args
  | .counterValue cell => return .ok (.ofNumber (← cellNumber cell))
  | .setCounter cell =>
    match (args.head?).bind (·.number?) with
    | some n =>
      setCell cell (.double n)
      return .ok .void
    | none => return .error (.ofText "counter value must be a number")
  | .increment cell => runIncrement cell args

end Behaviour

instance : Native Behaviour := { call := Behaviour.run id }

/-! ### Classes -/

/-- The built-in classes. -/
def builtinClasses {β : Type} (lift : Behaviour → β) : List (Class β) :=
  let methods (l : List (String × Behaviour)) : Dict Bytes (Option β) :=
    .ofList (l.map fun (name, b) => (.ofString name, some (lift b)))
  let constants (l : List (String × Behaviour)) : Dict Bytes (Property β) :=
    .ofList (l.map fun (name, b) => (.ofString name, { get := some (lift b) }))
  [ { name := .ofString "Object", methods := methods [("toString", .describe)] },
    { name := .ofString "Plugin"
      methods := methods [("greet", .greet), ("echo", .echo), ("raise", .raise)]
      properties := constants [("version", .version), ("lastError", .lastError)] },
    { name := .ofString "Utils"
      methods := methods [("upper", .upper), ("wide", .wide), ("wideUnits", .wideUnits),
      ("join", .join)] },
    { name := .ofString "Arrays", methods := methods [("range", .range), ("sum", .sum),
      ("at", .element)] },
    { name := .ofString "CounterFactory", construct := some (lift .newCounter) } ]

/-- A registry of the built-in classes. -/
def builtinRegistry {β : Type} (lift : Behaviour → β) : Registry β := .ofList (builtinClasses lift)

end ObjectBridge

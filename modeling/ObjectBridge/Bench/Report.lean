import ObjectBridge.Builtin.StandIn
import ObjectBridge.Data.Json
import ObjectBridge.Plugin.Pool

/-!
# `ObjectBridge.Bench.Report`: what is said about an outcome

Every step on the bench is answered by a report, a list of named fields.
An error is reported by its kind and its message; where an error has more
than one cause, the kinds have an order and the first one counts.
-/

set_option autoImplicit false

namespace ObjectBridge

/-- The fields of an answer. -/
abbrev Report := List (String × Json)

namespace Report

/-- A text, or its bytes in hexadecimal when they are no text. -/
def text (bytes : Bytes) : Json :=
  match bytes.toString? with
  | some s => .string s
  | none => .object [("hex", .string (Quoted.hexBytes bytes))]

/-- A list of texts. -/
def texts (l : List Bytes) : Json := .array (l.map text)

/-- A number as it is written without an exponent. -/
def float (f : Float) : Json := .string (Decimal.writePlain f)

/-! ### Variants -/

/-- A variant that is no object. -/
def plain : Variant → Report
  | .void => [("t", .string "void")]
  | .null => [("t", .string "null")]
  | .bool b => [("t", .string "bool"), ("v", .bool b)]
  | .int32 i => [("t", .string "int32"), ("v", .int i.toInt)]
  | .double d => [("t", .string "double"), ("v", float d)]
  | .string bytes =>
    match bytes.toString? with
    | some s => [("t", .string "string"), ("v", .string s)]
    | none => [("t", .string "string"), ("v_hex", .string (Quoted.hexBytes bytes))]
  | .object _ => [("t", .string "object")]

/-- What kind of object a reference leads to. -/
def objectKind {β : Type} (w : World β) : ObjectRef → String
  | .proxy _ => "proxy"
  | .handle _ => "js"
  | .table i => if (w.table i).isArray then "array" else "object"

/-- An object with its count; also its class, and the first name it is
kept under, if it has them. -/
def object {β : Type} (w : World β) (o : ObjectRef) : Report :=
  let className : Option Bytes := match o with
    | .proxy i => (w.graph.class? (w.proxy i).node).map (·.name)
    | _ => none
  let known := w.kept.entries.find? fun e => e.2.object? == some o
  [("t", .string "object"), ("kind", .string (objectKind w o)), ("refs", .int (w.refs o))]
    ++ (className.map fun c => ("class", text c)).toList
    ++ (known.map fun e => ("is", Json.string e.1)).toList

/-- A variant, with what it refers to. -/
def variant {β : Type} (w : World β) : Variant → Json
  | .object o => .object (object w o)
  | v => .object (plain v)

/-! ### Errors -/

/-- An error of a kind. -/
def error (kind : String) (message : String) : Report :=
  [("error", .string kind), ("message", .string message)]

/-- The kind of a failure, by its cause. -/
def failureKind (f : Failure) : String :=
  match f.cause with
  | .allocation _ => "allocation"
  | .unsupportedType _ => "unsupported_type"
  | .text _ => "conversion"
  | .unknownProperty => "unknown_property"
  | .methodNotFound => "method_not_found"
  | .missingConstructor => "missing_constructor"
  | .readOnlyProperty => "read_only"
  | .thrown _ => "thrown"
  | _ => "error"

/-- A failure of native code. One in text also tells where. -/
def failure (f : Failure) : Report :=
  [("error", .string (failureKind f)), ("message", text f.describe)]
    ++ (match f.cause with
      | .text e => [("text_op", .string e.operation), ("offset", .int e.offset)]
      | _ => [])

/-- The kind of what kept a graph from being assembled. -/
def assemblyKind : AssemblyError → String
  | .invalid _ => "error"
  | .cyclic _ => "cyclic_base"
  | .faults fs =>
    if fs.any fun | .unknownClass .. => true | _ => false then "unknown_class"
    else if fs.any fun | .unknownBase .. => true | _ => false then "unknown_base"
    else "error"

/-- What kept a graph from being assembled. -/
def assemblyError (e : AssemblyError) : Report := error (assemblyKind e) e.message

/-- What kept a plugin from being made. -/
def pluginError : PluginError → Report
  | .assembly e => assemblyError e
  | e => error "error" e.message

/-- What kept a session from being made or reset. -/
def sessionError : SessionError → Report
  | .assembly e => assemblyError e
  | e => error "error" e.message

/-- Why a pool lent no session. -/
def acquireError (e : Pool.AcquireError) : Report :=
  let kind := match e with
    | .closed => "pool_closed"
    | .timeout => "timeout"
    | .cancelled => "error"
  error kind e.message

/-- An operation that was unwound. -/
def unwound : Unwind → Report
  | .misuse message => error "panic" message
  | _ => [("error", .string "panic")]

/-! ### Graphs and classes -/

mutual

/-- The description of a graph, without the fields that are empty. -/
def description : Description → Json
  | .mk path className base methods properties constructor children =>
    let named (k : String) (l : List Bytes) : Report := if l.isEmpty then [] else [(k, texts l)]
    let below := descriptions children
    .object ([("path", text path)]
      ++ (match className with
        | some c => if c.isEmpty then [] else [("class", text c)]
        | none => [])
      ++ (match base with
        | some b => if b.isEmpty then [] else [("base", text b)]
        | none => [])
      ++ named "methods" methods ++ named "properties" properties
      ++ (if constructor then [("constructor", .bool true)] else [])
      ++ (if below.isEmpty then [] else [("children", .array below)]))

/-- Descriptions, one after the other. -/
def descriptions : List Description → List Json
  | [] => []
  | d :: rest => description d :: descriptions rest

end

/-- The names a class has. -/
def classMembers {β : Type} (c : Class β) : Report :=
  [("methods", texts c.methodNames), ("properties", texts c.propertyNames)]

/-- A class with its members. -/
def classFields {β : Type} (c : Class β) : Report :=
  ("name", text c.name) :: ("constructor", .bool c.construct.isSome) :: classMembers c

/-- The names in a registry; an empty one has no list. -/
def classNames {β : Type} (r : Registry β) : Json :=
  match r.names with
  | [] => .null
  | names => texts names

/-- How much the classes of a registry have. -/
def registryStats {β : Type} (r : Registry β) : Json :=
  let s := r.stats
  .object [("total_classes", .int s.classes), ("total_methods", .int s.methods),
    ("total_properties", .int s.properties), ("constructors", .int s.constructors)]

mutual

/-- A namespace with all below it. -/
def namespaceReport : Namespace → Json
  | .mk name className base children =>
    .object [("name", text name), ("class", text className), ("base", text base),
      ("namespaces", .array (namespaceReports children))]

/-- Namespaces, one after the other. -/
def namespaceReports : List Namespace → List Json
  | [] => []
  | ns :: rest => namespaceReport ns :: namespaceReports rest

end

/-- A manifest with all its fields. -/
def manifest (m : Manifest) : Json :=
  .object [("name", text m.name), ("description", text m.description), ("mime", texts m.mime),
    ("class", text m.className), ("base", text m.base),
    ("namespaces", .array (namespaceReports m.namespaces))]

/-- How a plugin is set up. -/
def options (o : Options) : Json :=
  .object [("skip", .bool o.index.skipExistenceCheck), ("missing", .string o.index.missing.name),
    ("wide", .string o.wide.name), ("profile", .bool o.profile), ("global", .string o.global)]

/-! ### Books -/

/-- How often each operation was called. -/
def calls (stats : List (Bytes × Nat)) : Json :=
  .array (stats.map fun e => .array [text e.1, .int e.2])

/-- How many there are of what is counted. -/
def live (m : Metrics) : Report :=
  [("instances", .int m.snapshot.activeInstances), ("wrappers", .int m.snapshot.liveWrappers),
    ("exceptions", .int m.snapshot.exceptions)]

/-- What a pool says about itself. -/
def poolStats (s : Pool.Stats) : Json :=
  .object [("size", .int s.size), ("available", .int s.available), ("in_use", .int s.inUse),
    ("closed", .bool s.closed)]

/-! ### Scripts -/

/-- The largest whole number that is exact in every double below it. -/
def exactLimit : Nat := Nat.pow 2 53

/-- A number: as itself when it is whole and exact, else by its text. -/
def number (n : Float) : Json :=
  let d := Double.ofFloat n
  match d.toInt? with
  | some i =>
    if d.isNegativeZero || exactLimit < i.natAbs then .object [("float", float n)] else .int i
  | none => .object [("float", float n)]

mutual

/-- A value that has left a script. -/
def exported : Runtime.Exported → Json
  | .null => .null
  | .bool b => .bool b
  | .string bytes => text bytes
  | .number n => number n
  | .list items => .array (exportedItems items)
  | .object fields => .object [("object", .object (exportedFields fields))]
  | .function => .object [("function", .bool true)]
  | .bigint _ | .other | .cycle => .object [("other", .bool true)]

/-- Exported items, one after the other. -/
def exportedItems : List Runtime.Exported → List Json
  | [] => []
  | x :: rest => exported x :: exportedItems rest

/-- Exported fields, one after the other. -/
def exportedFields : List (String × Runtime.Exported) → List (String × Json)
  | [] => []
  | (k, x) :: rest => (k, exported x) :: exportedFields rest

end

/-- Why a script has no value. -/
def scriptError (e : Runtime.ScriptError) : Report :=
  match e with
  | .exception bytes => [("error", .string "exception"), ("message", text bytes)]
  | .mute => [("error", .string "exception"), ("message", .string "")]
  | .syntaxError => [("error", .string "syntax")]
  | .interrupted _ => error "interrupted" e.message
  | .stackOverflow => [("error", .string "stack_overflow")]
  | .closed => error "closed" e.message

/-- How a script ended. Without a run there is no console. -/
def execution (x : Runtime.Execution) : Report :=
  (match x.result with
    | .ok v => [("value", exported v)]
    | .error e => scriptError e)
  ++ (match x.console with
    | some lines => [("console", .array (lines.map fun e => .array [.string e.1, text e.2]))]
    | none => [])

end Report

end ObjectBridge

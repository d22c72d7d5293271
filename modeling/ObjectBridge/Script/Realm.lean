import ObjectBridge.Script.Property

/-!
# `ObjectBridge.Script.Realm`: what scripts start from

A realm is what one script engine starts from: its global object and the
prototypes of its objects. Several realms share a heap, so an object
outlives the realm it was made in.

The tables name the functions of a realm. Those that this library has no
use for are there by name only (`Builtin.unavailable`), so that scripts
which look for them find them.
-/

set_option autoImplicit false

namespace ObjectBridge.Script

/-- What a script engine starts from. -/
structure Realm where
  number : Nat := 0
  global : ObjId := 0
  objectProto : ObjId := 0
  functionProto : ObjId := 0
  arrayProto : ObjId := 0
  stringProto : ObjId := 0
  numberProto : ObjId := 0
  boolProto : ObjId := 0
  symbolProto : ObjId := 0
  bigintProto : ObjId := 0
  /-- The prototypes of errors by kind. -/
  errorProtos : List (String × ObjId) := []
  deriving Inhabited

/-- The prototype of the objects around a kind of primitive. -/
def Realm.protoOf (r : Realm) : PrimitiveKind → ObjId
  | .string => r.stringProto
  | .number => r.numberProto
  | .bool => r.boolProto
  | .symbol => r.symbolProto
  | .bigint => r.bigintProto

/-- A function of a realm: its name, how many parameters it is said to
have, and what it does. -/
abbrev Entry := String × Nat × Builtin

namespace Entry

def absent (arity : Nat) (name : String) : Entry := (name, arity, .unavailable)

def ofObject : List Entry :=
  [("keys", 1, .objectKeys), ("freeze", 1, .objectFreeze),
    ("defineProperty", 3, .objectDefineProperty), ("create", 2, .objectCreate),
    ("getPrototypeOf", 1, .objectGetProto), ("setPrototypeOf", 2, .objectSetProto),
    ("getOwnPropertyNames", 1, .objectNames), ("getOwnPropertyDescriptor", 2, .objectDescriptor),
    ("is", 2, .objectIs), ("hasOwn", 2, .objectHasOwn), ("seal", 1, .objectSeal),
    ("preventExtensions", 1, .objectPreventExtensions), ("isFrozen", 1, .objectIsFrozen),
    ("isSealed", 1, .objectIsSealed), ("isExtensible", 1, .objectIsExtensible)]
    ++ ["entries", "values", "fromEntries", "getOwnPropertyDescriptors",
    "getOwnPropertySymbols"].map (absent 1) ++ ["assign", "defineProperties",
    "groupBy"].map (absent 2)

def ofObjectProto : List Entry :=
  [("toString", 0, .objectToString), ("toLocaleString", 0, .objectToLocaleString),
    ("valueOf", 0, .objectValueOf), ("hasOwnProperty", 1, .objectHasOwnProperty),
    ("isPrototypeOf", 1, .objectIsPrototypeOf),
    ("propertyIsEnumerable", 1, .objectPropertyIsEnumerable)] ++
    ["__lookupGetter__", "__lookupSetter__"].map (absent 1) ++
    ["__defineGetter__", "__defineSetter__"].map (absent 2)

def ofFunctionProto : List Entry :=
  [("apply", 2, .functionApply), ("bind", 1, .functionBind), ("call", 1, .functionCall),
    ("toString", 0, .functionToString)]

def ofArray : List Entry := [("isArray", 1, .arrayIsArray), absent 1 "from", absent 0 "of"]

def ofArrayProto : List Entry :=
  [("join", 1, .arrayJoin), ("toString", 0, .arrayToString), ("push", 1, .arrayPush),
    ("pop", 0, .arrayPop), ("slice", 2, .arraySlice), ("concat", 1, .arrayConcat),
    ("indexOf", 1, .arrayIndexOf)] ++ ["entries", "keys", "reverse", "shift", "toLocaleString",
    "values", "flat", "toReversed"].map (absent 0) ++ ["at", "every", "fill", "filter", "find",
      "findIndex", "findLast", "findLastIndex", "flatMap", "forEach",
      "includes", "lastIndexOf", "map", "reduce", "reduceRight", "some", "sort", "unshift",
      "toSorted"].map (absent 1)
    ++ ["copyWithin", "splice", "toSpliced", "with"].map (absent 2)

def ofString : List Entry := ["fromCharCode", "fromCodePoint", "raw"].map (absent 1)

def ofStringProto : List Entry :=
  [("toString", 0, .primitiveToString .string), ("valueOf", 0, .primitiveValueOf .string),
    ("charAt", 1, .stringCharAt), ("charCodeAt", 1, .stringCharCodeAt),
    ("indexOf", 1, .stringIndexOf), ("slice", 2, .stringSlice)]
    ++ ["normalize", "toLocaleLowerCase", "toLocaleUpperCase", "toLowerCase", "toUpperCase",
      "trim", "trimEnd", "trimStart", "trimLeft", "trimRight", "isWellFormed", "toWellFormed",
      "big", "blink", "bold", "fixed", "italics", "small", "strike", "sub", "sup"].map (absent 0)
    ++ ["at", "codePointAt", "concat", "endsWith", "includes", "lastIndexOf", "localeCompare",
      "match", "matchAll", "padEnd", "padStart", "repeat", "search", "startsWith", "anchor",
      "fontcolor", "fontsize", "link"].map (absent 1)
    ++ ["replace", "replaceAll", "split", "substr", "substring"].map (absent 2)

def ofNumber : List Entry :=
  ["isFinite", "isInteger", "isNaN", "isSafeInteger", "parseFloat"].map (absent 1) ++
    [absent 2 "parseInt"]

def ofNumberProto : List Entry :=
  [("toString", 1, .primitiveToString .number), ("valueOf", 0, .primitiveValueOf .number)]
    ++ [absent 0 "toLocaleString"] ++ ["toExponential", "toFixed", "toPrecision"].map (absent 1)

def ofBoolProto : List Entry :=
  [("toString", 0, .primitiveToString .bool), ("valueOf", 0, .primitiveValueOf .bool)]

def ofBigint : List Entry := ["asIntN", "asUintN"].map (absent 2)

def ofBigintProto : List Entry :=
  [("toString", 0, .primitiveToString .bigint), ("valueOf", 0, .primitiveValueOf .bigint),
    absent 0 "toLocaleString"]

def ofSymbol : List Entry := ["for", "keyFor"].map (absent 1)

def ofSymbolProto : List Entry :=
  [("toString", 0, .primitiveToString .symbol), ("valueOf", 0, .primitiveValueOf .symbol)]

/-- Global functions. -/
def ofGlobal : List Entry :=
  [("isNaN", 1, .isNaN), ("isFinite", 1, .isFinite)]
    ++ ["eval", "parseFloat", "decodeURI", "decodeURIComponent", "encodeURI",
      "encodeURIComponent", "escape", "unescape"].map (absent 1)
    ++ [absent 2 "parseInt"]

/-- Global functions that make objects of kinds this library has no use
for. -/
def ofKinds : List Entry :=
  ["Map", "Set", "WeakMap", "WeakSet"].map (absent 0)
    ++ ["Promise", "ArrayBuffer", "DataView", "WeakRef"].map (absent 1)
    ++ ["Proxy", "RegExp", "AggregateError"].map (absent 2)
    ++ ["Int8Array", "Uint8Array", "Uint8ClampedArray", "Int16Array", "Uint16Array", "Int32Array",
      "Uint32Array", "Float32Array", "Float64Array", "BigInt64Array",
      "BigUint64Array"].map (absent 3)
    ++ [absent 7 "Date"]

/-- Global objects that hold functions this library has no use for. -/
def ofLibraries : List (String × List Entry) :=
  [("JSON", [absent 2 "parse", absent 3 "stringify"]),
    ("Math", ["abs", "acos", "acosh", "asin", "asinh", "atan", "atanh", "cbrt", "ceil", "clz32",
      "cos", "cosh", "exp", "expm1", "floor", "fround", "log", "log10", "log1p", "log2", "round",
      "sign", "sin", "sinh", "sqrt", "tan", "tanh", "trunc"].map (absent 1)
      ++ ["atan2", "hypot", "imul", "max", "min", "pow"].map (absent 2) ++ [absent 0 "random"]),
    ("Reflect", ["getPrototypeOf", "isExtensible", "ownKeys", "preventExtensions"].map (absent 1)
      ++ ["construct", "deleteProperty", "get", "getOwnPropertyDescriptor", "has",
      "setPrototypeOf"].map (absent 2) ++ ["apply", "defineProperty", "set"].map (absent 3))]

end Entry

/-- The kinds of error, that all others belong to first. -/
def errorKinds : List String :=
  ["Error", "TypeError", "RangeError", "ReferenceError", "SyntaxError", "EvalError", "URIError"]

namespace Heap

/-! ### Making objects -/

def newObject (h : Heap) (r : Realm) : Heap × ObjId := h.alloc { proto := some r.objectProto }

def newArray (h : Heap) (r : Realm) (items : List (Option Value)) : Heap × ObjId :=
  h.alloc
    { kind := .array items.length true
      proto := some r.arrayProto
      items := (items.map (·.map Field.plain)).toArray }

/-- A primitive as an object. -/
def newWrapper (h : Heap) (r : Realm) (kind : PrimitiveKind) (v : Value) : Heap × ObjId :=
  h.alloc { kind := .primitive v, proto := some (r.protoOf kind) }

/-- An error of a kind. Errors know where they come from, which nobody
relies on. -/
def newErrorWith (h : Heap) (r : Realm) (kind : String) (message : Option Text) : Heap × ObjId :=
  let shown := (message.map fun m => ": " ++ m.toStringLossy).getD ""
  h.alloc
    { kind := .error
      proto := some ((r.errorProtos.lookup kind).getD r.objectProto)
      fields := (message.map fun m => (Key.name "message", Field.hidden (.string m))).toArray
        |>.push (.name "stack", .hidden (.ofString (kind ++ shown ++ "\n"))) }

/-- An error of a kind with a message. -/
def newError (h : Heap) (r : Realm) (kind message : String) : Heap × ObjId :=
  h.newErrorWith r kind (some (.plain message))

/-- A native object as a realm sees it. -/
def newNative (h : Heap) (r : Realm) (o : ObjectRef) : Heap × ObjId :=
  h.alloc { kind := .native r.number o, proto := some r.objectProto }

/-- A function with a name and a number of parameters. -/
def newFunction (h : Heap) (r : Realm) (name : String) (arity : Nat) (c : Callable) :
    Heap × ObjId :=
  h.alloc
    { kind := .function c
      proto := some r.functionProto
      fields := #[(.name "length", .about (.ofNat arity)),
      (.name "name", .about (.ofString name))] }

/-- A function that calls a method of a native object. -/
def newNativeMethod (h : Heap) (r : Realm) (o : ObjectRef) (method : String) : Heap × ObjId :=
  h.newFunction r "" 0 (.native o method)

/-- A function of a program, with the prototype of what it constructs. -/
def newClosure (h : Heap) (r : Realm) (f : Function) (scope : Option ScopeId) : Heap × ObjId :=
  let (h, o) := h.newFunction r f.head.name f.head.params.length (.closure f scope)
  if f.head.constructs then
    let (h, proto) := h.alloc
      { proto := some r.objectProto, fields := #[(.name "constructor", .hidden (.object o))] }
    (h.put o (.name "prototype")
      { slot := .data (.object proto), enumerable := false, configurable := false }, o)
  else (h, o)

/-! ### Making realms -/

/-- Stores new functions in an object. -/
def putEntries (h : Heap) (r : Realm) (o : ObjId) (entries : List Entry) : Heap :=
  entries.foldl (fun h (name, arity, b) =>
    let (h, f) := h.newFunction r name arity (.builtin b)
    h.put o (.name name) (.hidden (.object f))) h

/-- A global function together with the prototype of what it makes. -/
def putConstructor (h : Heap) (r : Realm) (name : String) (arity : Nat) (b : Builtin)
    (proto : ObjId) (entries : List Entry) : Heap × ObjId :=
  let (h, f) := h.newFunction r name arity (.builtin b)
  let h := h.put f (.name "prototype") (.fixed (.object proto))
  let h := h.put proto (.name "constructor") (.hidden (.object f))
  let h := h.put r.global (.name name) (.hidden (.object f))
  (h.putEntries r f entries, f)

/-- A global object that holds functions. -/
def putLibrary (h : Heap) (r : Realm) (name : String) (entries : List Entry) : Heap :=
  let (h, o) := h.newObject r
  let h := h.putEntries r o entries
  let h := h.put o (.symbol .toStringTag) { slot := .data (.ofString name), writable := false,
                                            enumerable := false }
  h.putNamed r.global name (.hidden (.object o))

/-- A global function together with an empty prototype. -/
def putKind (h : Heap) (r : Realm) (name : String) (arity : Nat) (b : Builtin) : Heap :=
  let (h, proto) := h.newObject r
  (h.putConstructor r name arity b proto []).1

/-- What every global object starts with. -/
def putGlobals (h : Heap) (r : Realm) : Heap :=
  let h := h.putNamed r.global "globalThis" (.hidden (.object r.global))
  let h := h.putNamed r.global "undefined" (.fixed .undefined)
  let h := h.putNamed r.global "NaN" (.fixed (.number (0.0 / 0.0)))
  let h := h.putNamed r.global "Infinity" (.fixed (.number (1.0 / 0.0)))
  let h := h.putEntries r r.global Entry.ofGlobal
  let h := Entry.ofLibraries.foldl (fun h (name, entries) => h.putLibrary r name entries) h
  Entry.ofKinds.foldl (fun h (name, arity, b) => h.putKind r name arity b) h

/-- The prototype of all objects, with the accessor of prototypes. -/
def putObjectProto (h : Heap) (r : Realm) : Heap :=
  let h := h.putEntries r r.objectProto Entry.ofObjectProto
  let (h, getter) := h.newFunction r "get __proto__" 0 (.builtin .protoGet)
  let (h, setter) := h.newFunction r "set __proto__" 1 (.builtin .protoSet)
  h.putNamed r.objectProto "__proto__"
    { slot := .accessor (.object getter) (.object setter), writable := false, enumerable := false }

/-- The prototype of functions. -/
def putFunctionProto (h : Heap) (r : Realm) : Heap :=
  let h := h.putEntries r r.functionProto Entry.ofFunctionProto
  let h := h.putNamed r.functionProto "name" (.about (.ofString ""))
  let h := h.putNamed r.functionProto "length" (.about (.ofNat 0))
  let (h, hasInstance) := h.newFunction r "[Symbol.hasInstance]" 1 (.builtin .functionHasInstance)
  h.put r.functionProto (.symbol .hasInstance) (.fixed (.object hasInstance))

/-- The prototype of symbols. -/
def putSymbolProto (h : Heap) (r : Realm) : Heap :=
  let h := h.putEntries r r.symbolProto Entry.ofSymbolProto
  let (h, described) := h.newFunction r "get description" 0 (.builtin .symbolDescription)
  let h := h.putNamed r.symbolProto "description"
    { slot := .accessor (.object described) .undefined, writable := false, enumerable := false }
  h.put r.symbolProto (.symbol .toStringTag)
    { slot := .data (.ofString "Symbol"), writable := false, enumerable := false }

/-- What all prototypes have. -/
def putPrototypes (h : Heap) (r : Realm) : Heap :=
  let h := (h.putObjectProto r).putFunctionProto r
  let h := h.putEntries r r.arrayProto Entry.ofArrayProto
  let h := h.putEntries r r.stringProto Entry.ofStringProto
  let h := h.putEntries r r.numberProto Entry.ofNumberProto
  let h := h.putEntries r r.boolProto Entry.ofBoolProto
  let h := (h.putSymbolProto r).putEntries r r.bigintProto Entry.ofBigintProto
  h.put r.bigintProto (.symbol .toStringTag)
    { slot := .data (.ofString "BigInt"), writable := false, enumerable := false }

/-- Numbers of which everybody knows. -/
def knownNumbers : List (String × Float) :=
  [("NaN", 0.0 / 0.0), ("POSITIVE_INFINITY", 1.0 / 0.0), ("NEGATIVE_INFINITY", -1.0 / 0.0),
    ("MAX_VALUE", 1.7976931348623157e308), ("MIN_VALUE", 5e-324),
    ("EPSILON", 2.220446049250313e-16), ("MAX_SAFE_INTEGER", 9007199254740991.0),
    ("MIN_SAFE_INTEGER", -9007199254740991.0)]

/-- The function that makes numbers, with those everybody knows. -/
def putNumber (h : Heap) (r : Realm) : Heap :=
  let (h, number) := h.putConstructor r "Number" 1 .number r.numberProto Entry.ofNumber
  knownNumbers.foldl (fun h (name, n) => h.putNamed number name (.fixed (.number n))) h

/-- The function that makes symbols, with those the language knows. -/
def putSymbol (h : Heap) (r : Realm) : Heap :=
  let (h, symbol) := h.putConstructor r "Symbol" 0 .symbol r.symbolProto Entry.ofSymbol
  Symbol.allKnown.foldl (fun h (name, s) => h.putNamed symbol name (.fixed (.symbol s))) h

/-- The functions that make errors. -/
def putErrors (h : Heap) (r : Realm) : Heap :=
  let h := r.errorProtos.foldl (fun h (kind, p) => (h.putConstructor r kind 1 (.error kind) p []).1)
      h
  match r.errorProtos.lookup "Error" with
  | some p => h.putEntries r p [("toString", 0, .errorToString)]
  | none => h

/-- The functions that make objects, and their prototypes. -/
def putConstructors (h : Heap) (r : Realm) : Heap :=
  let h := h.putPrototypes r
  let h := (h.putConstructor r "Object" 1 .object r.objectProto Entry.ofObject).1
  let h := (h.putConstructor r "Function" 1 .function r.functionProto []).1
  let h := (h.putConstructor r "Array" 1 .array r.arrayProto Entry.ofArray).1
  let h := (h.putConstructor r "String" 1 .string r.stringProto Entry.ofString).1
  let h := h.putNumber r
  let h := (h.putConstructor r "Boolean" 1 .boolean r.boolProto []).1
  let h := (h.putConstructor r "BigInt" 1 .bigint r.bigintProto Entry.ofBigint).1
  (h.putSymbol r).putErrors r

/-- A function of the host in an object. -/
def putHostFunction (h : Heap) (r : Realm) (o : ObjId) (name : String) (b : Builtin) : Heap :=
  let (h, f) := h.newFunction r "" 0 (.builtin b)
  h.putNamed o name (.plain (.object f))

/-- The object to write to the console with. -/
def putConsole (h : Heap) (r : Realm) : Heap :=
  let (h, c) := h.newObject r
  let h := ["log", "info", "warn", "error"].foldl
      (fun h level => h.putHostFunction r c level (.log level)) h
  h.putNamed r.global "console" (.plain (.object c))

/-- What the host adds to the global object. -/
def putHostGlobals (h : Heap) (r : Realm) (console : Bool) : Heap :=
  let h := ["require", "process", "module", "exports"].foldl
    (fun h name => h.putNamed r.global name (.plain .undefined)) h
  let h := if console then h.putConsole r else h
  let h := h.putHostFunction r r.global "setTimeout" .noop
  let h := h.putHostFunction r r.global "setInterval" .noop
  h.putHostFunction r r.global "construct" .construct

/-- Adds a realm. With `console` it has an object to write to the console
with. -/
def newRealm (h : Heap) (number : Nat) (console : Bool) : Heap × Realm :=
  let (h, objectProto) := h.alloc {}
  let below (h : Heap) (kind : ObjKind) : Heap × ObjId :=
    h.alloc { kind, proto := some objectProto }
  let (h, functionProto) := below h (.function (.builtin .noop))
  let (h, arrayProto) := below h (.array 0 true)
  let (h, stringProto) := below h (.primitive (.ofString ""))
  let (h, numberProto) := below h (.primitive (.number 0.0))
  let (h, boolProto) := below h (.primitive (.bool false))
  let (h, symbolProto) := below h .plain
  let (h, bigintProto) := below h .plain
  let (h, global) := below h .plain
  let (h, errorProtos) := errorKinds.foldl (fun (h, protos) kind =>
    let above := ((protos.lookup "Error").getD objectProto : ObjId)
    let (h, p) := h.alloc
      { proto := some above
        fields := #[(.name "name", .hidden (.ofString kind)),
        (.name "message", .hidden (.ofString ""))] }
    (h, protos ++ [(kind, p)])) (h, ([] : List (String × ObjId)))
  let r : Realm :=
    { number, global, objectProto, functionProto, arrayProto, stringProto, numberProto, boolProto,
      symbolProto, bigintProto, errorProtos }
  (((h.putConstructors r).putGlobals r).putHostGlobals r console, r)

end Heap

end ObjectBridge.Script

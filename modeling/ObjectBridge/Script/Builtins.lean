import ObjectBridge.Script.Direct
import ObjectBridge.Script.Parser
import ObjectBridge.Text.Quoted

/-!
# `ObjectBridge.Script.Builtins`: the functions every realm has

Each function says what its call turns into: a value, an error, a
request, or further work for the machine.
-/

set_option autoImplicit false

namespace ObjectBridge.Script

/-- Refuses a primitive where an object is needed. -/
def refusePrimitive (r : Realm) (h : Heap) (v : Value) (k : List Frame) (d : Nat) : Result :=
  match v with
  | .symbol _ => raise r h "TypeError" "Cannot convert a Symbol value to a string" k d
  | v => raise r h "TypeError" ("Value is not an object: " ++ (v.text?.getD default).toStringLossy)
    k d

/-- Refuses `undefined` and `null` where any object would do. -/
def refuseNullish (r : Realm) (h : Heap) (k : List Frame) (d : Nat) : Result :=
  raise r h "TypeError" "Cannot convert undefined or null to object" k d

/-- The object that a value is or that stands for it; `none` for
`undefined` and `null`. -/
def toObject? (r : Realm) (h : Heap) (v : Value) : Option (Heap × ObjId) :=
  match v with
  | .object o => some (h, o)
  | v => v.primitiveKind?.map fun kind => h.newWrapper r kind v

/-- What kind of object it is, in one word. -/
def className (h : Heap) (o : ObjId) : String :=
  match (h.obj o).kind with
  | .array _ _ => "Array"
  | .function _ => "Function"
  | .error => "Error"
  | .arguments => "Arguments"
  | .primitive (.string _) => "String"
  | .primitive (.number _) => "Number"
  | .primitive (.bool _) => "Boolean"
  | _ => "Object"

/-- What a value is called. -/
def objectTag (r : Realm) (h : Heap) (v : Value) : Text :=
  let named (cls : String) (start : ObjId) : Text :=
    match h.data? start (.symbol .toStringTag) with
    | some (.string t) => .plain "[object " ++ t ++ .plain "]"
    | _ => .plain ("[object " ++ cls ++ "]")
  match v with
  | .undefined => .plain "[object Undefined]"
  | .null => .plain "[object Null]"
  | .bool _ => named "Boolean" r.boolProto
  | .number _ => named "Number" r.numberProto
  | .bigint _ => named "BigInt" r.bigintProto
  | .string _ => named "String" r.stringProto
  | .symbol _ => named "Symbol" r.symbolProto
  | .object o => named (className h o) o

/-- The items of an array, holes as nothing. -/
def arrayItems (h : Heap) (o : ObjId) : List (Option Value) :=
  match (h.obj o).kind with
  | .array length _ =>
    (List.range (min length itemBound)).map fun i =>
      match h.own? o (.index i) with
      | some { slot := .data v, .. } => some v
      | _ => none
  | _ => []

/-- The values that something like an array holds. -/
def listItems (h : Heap) (o : ObjId) : List Value :=
  match (h.obj o).kind with
  | .array _ _ => (arrayItems h o).map (·.getD .undefined)
  | _ =>
    let length := ((h.data? o (.name "length")).bind arrayLength?).getD 0
    (List.range (min length itemBound)).map fun i => (h.data? o (.index i)).getD .undefined

/-- Looks for the next method that turns an object into a primitive. -/
def nextMethod (r : Realm) (h : Heap) (o : ObjId) (methods : List String) (k : List Frame)
    (d : Nat) : Result :=
  match methods with
  | [] => raise r h "TypeError" "Cannot convert object to primitive value" k d
  | m :: rest => go h (.fetch (some o) (.name m) (.object o)) (.primitiveMethod o rest :: k) d

/-- Goes on writing values to the console. -/
def logNext (h : Heap) (level : String) (done : List Bytes) (rest : List Value) (k : List Frame)
    (d : Nat) : Result :=
  match rest with
  | [] => ask h (.log level (Bytes.intercalate (.ofString " ") done.reverse)) k d
  | .symbol s :: rest => go h (.give (.string s.label)) (.logText level done rest :: k) d
  | v :: rest => go h (.primitive v .text) (.toText :: .logText level done rest :: k) d

/-- Goes on joining the items of an array. -/
def joinNext (h : Heap) (o : ObjId) (separator : Text) (next length : Nat) (done : List Text)
    (k : List Frame) (d : Nat) : Result :=
  if length ≤ next then give h (.string (separator.intercalate done.reverse)) k d
  else go h (.fetch (some o) (.ofNat next) (.object o))
    (.joinItem o separator next length done :: k) d

/-- The error a constructor makes. -/
def makeError (r : Realm) (h : Heap) (kind : String) (message : Option Text) (k : List Frame)
    (d : Nat) : Result :=
  let (h, e) := h.newErrorWith r kind message
  give h (.object e) k d

/-! ### Definitions -/

/-- The parts of a descriptor, in the order they are read. -/
def descriptorFields : List String :=
  ["value", "writable", "enumerable", "configurable", "get", "set"]

/-- A descriptor with one more part. -/
def Descriptor.with (d : Descriptor) (field : String) (v : Value) : Descriptor :=
  match field with
  | "value" => { d with value := some v }
  | "writable" => { d with writable := some v.truthy }
  | "enumerable" => { d with enumerable := some v.truthy }
  | "configurable" => { d with configurable := some v.truthy }
  | "get" => { d with get := some v }
  | _ => { d with set := some v }

/-- Refuses something that is to be called and cannot be. -/
def refuseAccessor? (r : Realm) (h : Heap) (name : String) (v : Option Value)
    (k : List Frame) (d : Nat) :
    Option Result :=
  match v with
  | none | some .undefined => none
  | some (.object o) =>
    if (h.callable? (.object o)).isSome then none
    else some (raise r h "TypeError" (name ++ " must be a function") k d)
  | some v => some (refusePrimitive r h v k d)

/-- Goes on reading a descriptor, and then makes out the key. -/
def nextDescriptorField (r : Realm) (h : Heap) (o : ObjId) (key : Value) (desc : ObjId)
    (rest : List String) (descr : Descriptor) (k : List Frame) (d : Nat) : Result :=
  match rest with
  | field :: rest =>
    go h (.fetch (some desc) (.name field) (.object desc))
      (.descriptorField o key desc field rest descr :: k) d
  | [] =>
    match (refuseAccessor? r h "getter" descr.get k d).or
      (refuseAccessor? r h "setter" descr.set k d) with
    | some refusal => refusal
    | none =>
      if descr.mentionsAccessor && (descr.value.isSome || descr.writable.isSome) then
        raise r h "TypeError"
          ("Invalid property descriptor. Cannot both specify accessors and a value or " ++
            "writable attribute") k d
      else go h (.keyOf key (.define o descr)) k d

/-- Why a native object cannot have such a property. -/
def nativeDefineFault? (key : Key) (descr : Descriptor) : Option String :=
  let field (what : String) : String :=
    "Dynamic object field " ++ Quoted.quote key.shown ++ " cannot be made " ++ what
  if key.isSymbol then some "Dynamic objects do not support Symbol properties"
  else if descr.mentionsAccessor then some "Dynamic objects do not support accessor properties"
  else if descr.writable == some false then some (field "read-only")
  else if descr.enumerable == some false then some (field "non-enumerable")
  else if descr.configurable == some false then some (field "non-configurable")
  else none

/-- Defines a property. -/
def defineKey (r : Realm) (h : Heap) (o : ObjId) (key : Key) (descr : Descriptor)
    (k : List Frame) (d : Nat) :
    Result :=
  match (h.obj o).kind with
  | .native _ n =>
    match nativeDefineFault? key descr with
    | some message => raise r h "TypeError" message k d
    | none => ask h (.set n key.shown (descr.value.getD .undefined)) (.instead (.object o) :: k) d
  | kind =>
    match kind, key, descr.value with
    | .array _ _, .name "length", some (.object v) =>
      go h (.primitive (.object v) .number)
        (.toNumber :: .lengthDefined o descr (some (.object v)) :: k) d
    | _, _, _ =>
      match h.define o key descr with
      | .ok h => give h (.object o) k d
      | .error e => raise r h e.error.1 e.error.2 k d

/-- What a property is described as. -/
def describeField (r : Realm) (h : Heap) (f : Field) : Heap × Value :=
  let (h, o) := h.newObject r
  let flag (h : Heap) (name : String) (b : Bool) : Heap := h.put o (.name name) (.plain (.bool b))
  let h := match f.slot with
    | .data v => flag (h.put o (.name "value") (.plain v)) "writable" f.writable
    | .accessor g s => (h.put o (.name "get") (.plain g)).put o (.name "set") (.plain s)
  (flag (flag h "enumerable" f.enumerable) "configurable" f.configurable, .object o)

/-- Gives an object another prototype. -/
def setProto (r : Realm) (h : Heap) (o : ObjId) (proto : Option ObjId) (result : Value)
    (k : List Frame) (d : Nat) :
    Result :=
  let x := h.obj o
  let change (h : Heap) : Result := give (h.modifyObj o fun x => { x with proto }) result k d
  match x.kind with
  | .native _ _ => change h
  | _ =>
    if x.proto = proto then give h result k d
    else if !x.extensible then
      go h (.primitive (.object o) .text) (.toText :: .refusal "" " is not extensible" :: k) d
    else if h.inherits o (h.objects.size + 1) proto then
      raise r h "TypeError" "Cyclic __proto__ value" k d
    else change h

/-! ### Primitives -/

/-- The primitive that a value is or that an object stands for. -/
def primitiveOf? (h : Heap) (kind : PrimitiveKind) (v : Value) : Option Value :=
  match v with
  | .object o =>
    match (h.obj o).kind with
    | .primitive p => if p.primitiveKind? = some kind then some p else none
    | _ => none
  | v => if v.primitiveKind? = some kind then some v else none

/-- A number in a base. Bases above sixteen and numbers that are not whole
are written in ten. -/
def writeInBase (base : Nat) (n : Float) : String :=
  match (Double.ofFloat n).toInt? with
  | some i =>
    if base = 10 || 16 < base || base < 2 then Decimal.writeScript n
    else (if i < 0 then "-" else "") ++ String.ofList (Nat.toDigits base i.natAbs)
  | none => Decimal.writeScript n

def PrimitiveKind.title : PrimitiveKind → String
  | .string => "String"
  | .number => "Number"
  | .bool => "Boolean"
  | .symbol => "Symbol"
  | .bigint => "BigInt"

/-- What a method of texts gives. -/
def textMethod (b : Builtin) (t : Text) (args : List Value) : Value :=
  let number (i : Nat) : Float := ((args.getD i .undefined).number?).getD 0.0
  let at_ (i : Nat) : Option Nat :=
    match (Double.ofFloat (number i)).truncate? with
    | some n => if n < 0 then none else some n.toNat
    | none => if (number i).isNaN then some 0 else none
  match b with
  | .stringCharAt => .string (((at_ 0).bind t.unit?).getD default)
  | .stringCharCodeAt =>
    match (at_ 0).bind fun i => t.units[i]? with
    | some u => .ofNat u.toNat
    | none => .number (0.0 / 0.0)
  | .stringIndexOf =>
    let part := ((args.getD 0 .undefined).text?.getD default).units
    let units := t.units
    let found := (List.range (units.length + 1)).find? fun i => part.isPrefixOf (units.drop i)
    match found with
    | some i => .ofNat i
    | none => .number (-1.0)
  | .stringSlice =>
    let units := t.units
    let start := positionIn units.length (number 0)
    let stop := match args.getD 1 .undefined with
      | .undefined => units.length
      | _ => positionIn units.length (number 1)
    .string (Text.ofUnits ((units.drop start).take (stop - start)))
  | _ => .undefined

/-! ### Arrays -/

/-- Stores values one after another from an index on; what an error would
say if one cannot be stored. -/
def pushAll (o : ObjId) : (index : Nat) → List Value → Heap → Heap × Option String
  | _, [], h => (h, none)
  | i, v :: rest, h =>
    match h.store o (.ofNat i) v with
    | .put f => pushAll o (i + 1) rest (h.put o (.ofNat i) f)
    | .refused message => (h, some message)
    | _ => (h, none)

/-- A method of arrays called on an array. -/
def arrayMethod (r : Realm) (h : Heap) (b : Builtin) (o : ObjId) (length : Nat) (args : List Value)
    (k : List Frame) (d : Nat) : Result :=
  let arg (i : Nat) : Value := args.getD i .undefined
  match b with
  | .arrayPush =>
    match pushAll o length args h with
    | (h, some message) => raise r h "TypeError" message k d
    | (h, none) => give h (.ofNat (length + args.length)) k d
  | .arrayPop =>
    if length = 0 then give h .undefined k d
    else
      let v := match h.own? o (.ofNat (length - 1)) with
        | some { slot := .data v, .. } => v
        | _ => .undefined
      let (h, done) := h.setLength o (length - 1)
      if done then give h v k d
      else raise r h "TypeError" "Cannot delete property" k d
  | .arraySlice =>
    let number (v : Value) : Float := (v.number?).getD 0.0
    let start := positionIn length (number (arg 0))
    let stop := if (arg 1).isUndefined then length else positionIn length (number (arg 1))
    let (h, made) := h.newArray r (((arrayItems h o).drop start).take (stop - start))
    give h (.object made) k d
  | .arrayConcat =>
    let spread (v : Value) : List (Option Value) := match v with
      | .object p =>
        match (h.obj p).kind with
        | .array _ _ => arrayItems h p
        | _ => [some v]
      | v => [some v]
    let (h, made) := h.newArray r (arrayItems h o ++ args.flatMap spread)
    give h (.object made) k d
  | .arrayIndexOf =>
    match (arrayItems h o).findIdx? fun x => (x.map (·.strictEq (arg 0))).getD false with
    | some i => give h (.ofNat i) k d
    | none => give h (.number (-1.0)) k d
  | _ => give h .undefined k d

/-- What is said of a function that is there by name only. -/
def refuseUnavailable (r : Realm) (h : Heap) (k : List Frame) (d : Nat) : Result :=
  raise r h "TypeError" "Function is not available" k d

/-- The text of a function that no program wrote. -/
def builtinSource (h : Heap) (o : ObjId) : Text :=
  let name := match h.own? o (.name "name") with
    | some { slot := .data (.string t), .. } => t
    | _ => .plain ""
  .plain "function " ++ name ++ .plain "() \x7b [native code] \x7d"

/-- Is an object among those a function makes? -/
def ordinaryInstance (h : Heap) (f : ObjId) (v : Value) (k : List Frame) (d : Nat) : Result :=
  match v with
  | .object _ => go h (.fetch (some f) (.name "prototype") (.object f)) (.instanceProto v :: k) d
  | _ => give h (.bool false) k d

/-- Makes a function from texts: parameters and body. -/
def makeFunction (r : Realm) (h : Heap) (texts : List Text) (k : List Frame) (d : Nat) : Result :=
  let strings := texts.map (·.toStringLossy)
  let params := ",".intercalate strings.dropLast
  match parseFunction? params (strings.getLast?.getD "") with
  | some f => let (h, o) := h.newClosure r f none; give h (.object o) k d
  | none => raise r h "SyntaxError" "Unexpected token" k d

/-- Goes on with the texts that a function is made from. -/
def nextFunctionText (r : Realm) (h : Heap) (done : List Text) (rest : List Value)
    (k : List Frame) (d : Nat) :
    Result :=
  match rest with
  | [] => makeFunction r h done.reverse k d
  | v :: rest => go h (.primitive v .text) (.toText :: .functionTexts done rest :: k) d

/-- An array of the length that a single number asks for, or of the
arguments. -/
def makeArray (r : Realm) (h : Heap) (args : List Value) (k : List Frame) (d : Nat) : Result :=
  match args with
  | [.number n] =>
    match arrayLength? (.number n) with
    | some length =>
      let (h, o) := h.newArray r []
      give (h.setLength o length).1 (.object o) k d
    | none => raise r h "RangeError" "Invalid array length" k d
  | _ => let (h, o) := h.newArray r (args.map some); give h (.object o) k d

/-- Does an object have a property of its own? -/
def hasOwnKey (r : Realm) (h : Heap) (v : Value) (key : Key) (k : List Frame) (d : Nat) : Result :=
  match toObject? r h v with
  | none => refuseNullish r h k d
  | some (h, o) =>
    match (h.obj o).kind, key with
    | .native _ _, .symbol _ => give h (.bool false) k d
    | .native _ n, _ => ask h (.has n key.shown) k d
    | _, _ => give h (.bool (h.own? o key).isSome) k d

/-- Calls a function every realm has. -/
def callBuiltin (r : Realm) (h : Heap) (b : Builtin) (this : Value) (args : List Value)
    (k : List Frame) (d : Nat) : Result :=
  let arg (i : Nat) : Value := args.getD i .undefined
  let typeError (message : String) : Result := raise r h "TypeError" message k d
  -- Does something with an object, and gives anything else back.
  let onObject (f : ObjId → Result) : Result := match arg 0 with
    | .object o =>
      match (h.obj o).kind with
      | .native _ _ => typeError "Cannot make a dynamic object non-extensible"
      | _ => f o
    | v => give h v k d
  match b with
  | .object =>
    match toObject? r h (arg 0) with
    | some (h, o) => give h (.object o) k d
    | none => let (h, o) := h.newObject r; give h (.object o) k d
  | .objectKeys | .objectNames =>
    match toObject? r h (arg 0) with
    | none => refuseNullish r h k d
    | some (h, o) =>
      match (h.obj o).kind, b with
      | .native _ n, _ => ask h (.keys n) (.keysArray :: k) d
      | _, .objectKeys => go h (.names (h.ownKeys o)) (.keysArray :: k) d
      | _, _ => go h (.names (((h.ownFields o).map Prod.fst).filter (!·.isSymbol)))
        (.keysArray :: k) d
  | .objectDescriptor =>
    match toObject? r h (arg 0) with
    | none => refuseNullish r h k d
    | some (h, o) => go h (.keyOf (arg 1) (.describe o)) k d
  | .objectDefineProperty =>
    match arg 0, arg 2 with
    | .object o, .object desc => nextDescriptorField r h o (arg 1) desc descriptorFields {} k d
    | .object _, v =>
      typeError ("Property description must be an object: " ++ v.textOrLabel.toStringLossy)
    | _, _ => typeError "Object.defineProperty called on non-object"
  | .objectCreate =>
    let made (proto : Option ObjId) : Result :=
      if (arg 1).isUndefined then let (h, o) := h.alloc { proto }; give h (.object o) k d
      else refuseUnavailable r h k d
    match arg 0 with
    | .object p => made (some p)
    | .null => made none
    | v =>
      typeError ("Object prototype may only be an Object or null: " ++ v.textOrLabel.toStringLossy)
  | .objectGetProto =>
    match toObject? r h (arg 0) with
    | none => refuseNullish r h k d
    | some (h, o) =>
      match (h.obj o).proto with
      | some p => give h (.object p) k d
      | none => give h .null k d
  | .objectSetProto =>
    match arg 0, arg 1 with
    | .undefined, _ | .null, _ => typeError "Object.setPrototypeOf called on null or undefined"
    | .object o, .object p => setProto r h o (some p) (.object o) k d
    | .object o, .null => setProto r h o none (.object o) k d
    | v, .object _ | v, .null => give h v k d
    | _, v =>
      typeError ("Object prototype may only be an Object or null: " ++ v.textOrLabel.toStringLossy)
  | .objectIs => give h (.bool ((arg 0).same (arg 1))) k d
  | .objectHasOwn =>
    if (arg 0).isNullish then refuseNullish r h k d
    else go h (.keyOf (arg 1) (.ownProperty (arg 0))) k d
  | .objectFreeze => onObject fun o => give (h.freeze o true) (.object o) k d
  | .objectSeal => onObject fun o => give (h.freeze o false) (.object o) k d
  | .objectPreventExtensions =>
    onObject fun o => give (h.modifyObj o fun x => { x with extensible := false }) (.object o) k d
  | .objectIsFrozen =>
    match arg 0 with
    | .object o => give h (.bool (h.isFrozen o true)) k d
    | _ => give h (.bool true) k d
  | .objectIsSealed =>
    match arg 0 with
    | .object o => give h (.bool (h.isFrozen o false)) k d
    | _ => give h (.bool true) k d
  | .objectIsExtensible =>
    match arg 0 with
    | .object o => give h (.bool (h.obj o).extensible) k d
    | _ => give h (.bool false) k d
  | .objectToString => give h (.string (objectTag r h this)) k d
  | .objectToLocaleString =>
    match toObject? r h this with
    | none => refuseNullish r h k d
    | some (h, o) => go h (.fetch (some o) (.name "toString") this) (.joinFound o :: k) d
  | .objectValueOf =>
    match toObject? r h this with
    | some (h, o) => give h (.object o) k d
    | none => refuseNullish r h k d
  | .objectHasOwnProperty => go h (.keyOf (arg 0) (.ownProperty this)) k d
  | .objectPropertyIsEnumerable => go h (.keyOf (arg 0) (.enumerableProperty this)) k d
  | .objectIsPrototypeOf =>
    match arg 0, this with
    | .object o, .object p => give h (.bool (h.inherits p (h.objects.size + 1) (h.obj o).proto)) k d
    | .object _, .undefined | .object _, .null => refuseNullish r h k d
    | _, _ => give h (.bool false) k d
  | .protoGet =>
    match toObject? r h this with
    | none => refuseNullish r h k d
    | some (h, o) =>
      match (h.obj o).proto with
      | some p => give h (.object p) k d
      | none => give h .null k d
  | .protoSet =>
    match this, arg 0 with
    | .undefined, _ | .null, _ => refuseNullish r h k d
    | .object o, .object p => setProto r h o (some p) .undefined k d
    | .object o, .null => setProto r h o none .undefined k d
    | _, _ => give h .undefined k d
  | .function => nextFunctionText r h [] args k d
  | .functionCall => go h (.apply this (arg 0) (args.drop 1) false) k d
  | .functionApply =>
    match arg 1 with
    | .undefined | .null => go h (.apply this (arg 0) [] false) k d
    | .object o => go h (.apply this (arg 0) (listItems h o) false) k d
    | v => refusePrimitive r h v k d
  | .functionBind =>
    match this, h.callable? this with
    | .object f, some _ =>
      let name := match h.data? f (.name "name") with
        | some (.string t) => t.toStringLossy
        | _ => ""
      let arity := ((h.data? f (.name "length")).bind arrayLength?).getD 0
      let (h, o) := h.newFunction r ("bound " ++ name) (arity - (args.drop 1).length)
          (.bound f (arg 0) (args.drop 1))
      give h (.object o) k d
    | v, _ => go h (.primitive v .text) (.toText :: .refusal "Value is not callable: " "" :: k) d
  | .functionToString =>
    match this, h.callable? this with
    | _, some (.closure f _) => give h (.ofString f.head.source) k d
    | .object o, some _ => give h (.string (builtinSource h o)) k d
    | _, _ => typeError "Object is not a function"
  | .functionHasInstance =>
    match this, h.callable? this with
    | .object f, some _ => ordinaryInstance h f (arg 0) k d
    | _, _ => give h (.bool false) k d
  | .array => makeArray r h args k d
  | .arrayIsArray =>
    match arg 0 with
    | .object o =>
      match (h.obj o).kind with
      | .array _ _ => give h (.bool true) k d
      | _ => give h (.bool false) k d
    | _ => give h (.bool false) k d
  | .arrayJoin =>
    match toObject? r h this with
    | some (h, o) =>
      go h (.fetch (some o) (.name "length") (.object o)) (.joinLength o (arg 0) :: k) d
    | none => refuseNullish r h k d
  | .arrayToString =>
    match toObject? r h this with
    | some (h, o) => go h (.fetch (some o) (.name "join") (.object o)) (.joinFound o :: k) d
    | none => refuseNullish r h k d
  | .arrayPush | .arrayPop | .arraySlice | .arrayConcat | .arrayIndexOf =>
    match this with
    | .object o =>
      match (h.obj o).kind with
      | .array length _ => arrayMethod r h b o length args k d
      | _ => refuseUnavailable r h k d
    | _ => refuseUnavailable r h k d
  | .string =>
    match args with
    | [] => give h (.ofString "") k d
    | v :: _ => go h (.primitive v .text) (.toTextOrSymbol :: k) d
  | .stringCharAt | .stringCharCodeAt | .stringIndexOf | .stringSlice =>
    if this.isNullish then refuseNullish r h k d
    else go h (.primitive this .text) (.toText :: .textMethod b args :: k) d
  | .number =>
    match args with
    | [] => give h (.number 0.0) k d
    | v :: _ => go h (.primitive v .number) (.numberMade false :: k) d
  | .boolean => give h (.bool (arg 0).truthy) k d
  | .bigint => refuseUnavailable r h k d
  | .symbol =>
    match arg 0 with
    | .undefined =>
      give { h with symbols := h.symbols + 1 } (.symbol (.free h.symbols none)) k d
    | v => go h (.primitive v .text) (.toText :: .symbolText :: k) d
  | .primitiveToString kind =>
    match primitiveOf? h kind this with
    | some (.number n) =>
      match (arg 0).number? with
      | some base =>
        give h (.ofString (writeInBase (if base.isNaN then 10 else base.toUInt8.toNat) n)) k d
      | none => give h (.ofString (Decimal.writeScript n)) k d
    | some v => give h (.string v.textOrSymbol) k d
    | none => typeError (kind.title ++ ".prototype.toString is not generic")
  | .primitiveValueOf kind =>
    match primitiveOf? h kind this with
    | some v => give h v k d
    | none => typeError (kind.title ++ ".prototype.valueOf is not generic")
  | .symbolDescription =>
    match primitiveOf? h .symbol this with
    | some (.symbol s) =>
      match s.description with
      | some t => give h (.string t) k d
      | none => give h .undefined k d
    | _ => typeError "Symbol.prototype.description is not generic"
  | .isNaN => go h (.primitive (arg 0) .number) (.toNumber :: .numberTest false :: k) d
  | .isFinite => go h (.primitive (arg 0) .number) (.toNumber :: .numberTest true :: k) d
  | .error kind =>
    match arg 0 with
    | .undefined => makeError r h kind none k d
    | v => go h (.primitive v .text) (.toText :: .errorMessage kind :: k) d
  | .errorToString =>
    match this with
    | .object o => go h (.fetch (some o) (.name "name") this) (.errorName o :: k) d
    | _ => typeError "Error.prototype.toString called on non-object"
  | .log level => logNext h level [] args k d
  | .noop => give h .undefined k d
  | .construct =>
    let target : Option ObjectRef := match arg 0 with
      | .object o =>
        match (h.obj o).kind with
        | .native realm n => if realm = r.number then some n else none
        | _ => none
      | _ => none
    match target with
    | some n => ask h (.construct n (args.drop 1)) k d
    | none => typeError "construct: target is not a native object"
  | .unavailable => refuseUnavailable r h k d

end ObjectBridge.Script

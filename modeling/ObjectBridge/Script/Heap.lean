import ObjectBridge.Script.Syntax
import ObjectBridge.Value.Variant

/-!
# `ObjectBridge.Script.Heap`: values and objects of scripts

Objects and scopes live in one heap and are named by number; what is
allocated stays.

Native objects appear in the heap as objects of their own, which hold no
properties: every use of one is a request to the outside.
-/

set_option autoImplicit false

namespace ObjectBridge.Script

/-- The number of an object in the heap. -/
abbrev ObjId := Nat

/-- The number of a scope in the heap. -/
abbrev ScopeId := Nat

inductive Value
  | undefined
  | null
  | bool (b : Bool)
  | number (n : Float)
  | bigint (n : Int)
  | string (t : Text)
  | symbol (s : Symbol)
  | object (o : ObjId)
  deriving Repr

instance : Inhabited Value := ⟨.undefined⟩

namespace Value

def isUndefined : Value → Bool
  | .undefined => true
  | _ => false

def isNullish : Value → Bool
  | .undefined => true
  | .null => true
  | _ => false

/-- Is the value no object? -/
def isPrimitive : Value → Bool
  | .object _ => false
  | _ => true

def object? : Value → Option ObjId
  | .object o => some o
  | _ => none

/-- A text as a value. -/
def ofString (s : String) : Value := .string (.plain s)

/-- A whole number as a value. -/
def ofNat (n : Nat) : Value :=
  .number (if n < Nat.pow 2 32 then n.toUInt32.toFloat else Float.ofNat n)

/-- A key as a value. -/
def ofKey : Key → Value
  | .symbol s => .symbol s
  | key => .string (key.text?.getD default)

end Value

/-- The kinds of primitive that have objects around them. -/
inductive PrimitiveKind
  | string | number | bool | symbol | bigint
  deriving DecidableEq, Repr

def Value.primitiveKind? : Value → Option PrimitiveKind
  | .string _ => some .string
  | .number _ => some .number
  | .bool _ => some .bool
  | .symbol _ => some .symbol
  | .bigint _ => some .bigint
  | _ => none

/-! ### Properties -/

/-- What a property holds. -/
inductive Slot
  | data (value : Value)
  | accessor (get set : Value)
  deriving Repr

/-- A property of an object. -/
structure Field where
  slot : Slot
  writable : Bool := true
  enumerable : Bool := true
  configurable : Bool := true
  deriving Repr

namespace Field

/-- A property that may be changed in every way. -/
def plain (v : Value) : Field := { slot := .data v }

/-- A property that loops over names do not see. -/
def hidden (v : Value) : Field := { slot := .data v, enumerable := false }

/-- A property that stays as it is. -/
def fixed (v : Value) : Field :=
  { slot := .data v, writable := false, enumerable := false, configurable := false }

/-- What is said about a function: its name, or how many parameters it
has. -/
def about (v : Value) : Field := { slot := .data v, writable := false, enumerable := false }

/-- May the property be assigned to? -/
def assignable (f : Field) : Bool :=
  f.writable || (match f.slot with
    | .accessor _ set => !set.isUndefined
    | .data _ => false)

end Field

/-! ### Objects -/

/-- Functions every realm starts with. -/
inductive Builtin
  | object | objectKeys | objectNames | objectDescriptor | objectDefineProperty | objectCreate
  | objectGetProto | objectSetProto | objectIs | objectHasOwn
  /-- Makes properties constant when `deep`, and in any case allows no
  more of them. -/
  | objectFreeze | objectSeal | objectPreventExtensions
  | objectIsFrozen | objectIsSealed | objectIsExtensible
  | objectToString | objectToLocaleString | objectValueOf | objectHasOwnProperty
    | objectIsPrototypeOf
  | objectPropertyIsEnumerable | protoGet | protoSet
  | function | functionCall | functionApply | functionBind | functionToString | functionHasInstance
  | array | arrayIsArray | arrayJoin | arrayToString | arrayPush | arrayPop | arraySlice
    | arrayConcat | arrayIndexOf
  | string | stringCharAt | stringCharCodeAt | stringIndexOf | stringSlice
  | number | boolean | bigint | symbol
  | primitiveToString (kind : PrimitiveKind)
  | primitiveValueOf (kind : PrimitiveKind)
  | symbolDescription
  | isNaN | isFinite
  /-- Makes errors of one kind. -/
  | error (kind : String)
  | errorToString
  /-- Writes to the console. -/
  | log (level : String)
  | noop
  /-- Constructs a native object. -/
  | construct
  /-- A function that is there and cannot be used. -/
  | unavailable
  deriving Repr

/-- What happens when a function is called. -/
inductive Callable
  | closure (f : Function) (scope : Option ScopeId)
  | builtin (b : Builtin)
  /-- A method of a native object. -/
  | native (o : ObjectRef) (method : String)
  /-- Another function with its first arguments. -/
  | bound (f : ObjId) (this : Value) (args : List Value)

/-- The kinds of object. -/
inductive ObjKind
  | plain
  /-- Items up to a bound stand in `Obj.items`. -/
  | array (length : Nat) (resizable : Bool)
  | function (c : Callable)
  | error
  | arguments
  /-- A primitive as an object. -/
  | primitive (v : Value)
  /-- A native object as one realm sees it. -/
  | native (realm : Nat) (o : ObjectRef)

structure Obj where
  kind : ObjKind := .plain
  proto : Option ObjId := none
  /-- Properties in the order they were added. -/
  fields : Array (Key × Field) := #[]
  /-- The items of an array; a missing one is a hole. -/
  items : Array (Option Field) := #[]
  extensible : Bool := true

instance : Inhabited Obj := ⟨{}⟩

/-- Variables, and the scope around them; the global object lies around
all scopes. -/
structure Scope where
  names : List String := []
  values : Array Value := #[]
  /-- Do the variables keep their values? -/
  constant : Bool := false
  parent : Option ScopeId := none

instance : Inhabited Scope := ⟨{}⟩

structure Heap where
  objects : Array Obj := #[]
  scopes : Array Scope := #[]
  /-- Symbols that scripts made so far. -/
  symbols : Nat := 0
  /-- The value of the running program so far. -/
  result : Value := .undefined
  /-- What has been done that single steps do not show. -/
  effort : Nat := 0

instance : Inhabited Heap := ⟨{}⟩

/-- Items with larger indexes stand among the properties, unless they
follow the others at once. -/
def itemBound : Nat := Nat.pow 2 20

/-- The place of a key among the first `n` properties. Late ones are
looked at first, because they are asked for most. -/
def placeOfKey? (key : Key) (fields : Array (Key × Field)) : (n : Nat) → Option Nat
  | 0 => none
  | n + 1 =>
    if h : n < fields.size then
      if fields[n].1 = key then some n else placeOfKey? key fields n
    else placeOfKey? key fields n

/-- The property of a key. -/
def fieldOf? (key : Key) (fields : Array (Key × Field)) : Option Field :=
  match placeOfKey? key fields fields.size with
  | some i => if h : i < fields.size then some fields[i].2 else none
  | none => none

/-- Replaces the property of a key, or adds it as the latest. -/
def upsertField (key : Key) (f : Field) (fields : Array (Key × Field)) : Array (Key × Field) :=
  match placeOfKey? key fields fields.size with
  | some i => fields.set! i (key, f)
  | none => fields.push (key, f)

namespace Heap

/-! ### Reading -/

def obj (h : Heap) (o : ObjId) : Obj := h.objects.getD o {}

/-- The property of an object itself. -/
def own? (h : Heap) (o : ObjId) (key : Key) : Option Field :=
  let x := h.obj o
  match x.kind with
  | .array length resizable =>
    match key with
    | .index i =>
      match x.items.getD i none with
      | some f => some f
      | none => fieldOf? key x.fields
    | .name "length" =>
      some { slot := .data (.ofNat length), writable := resizable, enumerable := false,
             configurable := false }
    | key => fieldOf? key x.fields
  | .primitive (.string t) =>
    match key with
    | .index i =>
      match t.unit? i with
      | some u => some { slot := .data (.string u), writable := false, configurable := false }
      | none => fieldOf? key x.fields
    | .name "length" => some (.fixed (.ofNat t.length))
    | key => fieldOf? key x.fields
  | _ => fieldOf? key x.fields

/-- What a search along prototypes ends with. -/
inductive Found
  | field (f : Field)
  /-- A native object has to be asked first. -/
  | native (o : ObjId)
  | none

/-- Searches an object and its prototypes for a property. Native objects
have no symbols. -/
def findFrom (h : Heap) (key : Key) : (fuel : Nat) → Option ObjId → Found
  | 0, _ => .none
  | _, none => .none
  | fuel + 1, some o =>
    let x := h.obj o
    match x.kind, key with
    | .native _ _, .symbol _ => findFrom h key fuel x.proto
    | .native _ _, _ => .native o
    | _, _ =>
      match h.own? o key with
      | some f => .field f
      | none => findFrom h key fuel x.proto

/-- Searches an object and its prototypes for a property. -/
def find (h : Heap) (o : Option ObjId) (key : Key) : Found := h.findFrom key (h.objects.size + 1) o

/-- An object's own properties with their keys: items and indexes in
order, names and then symbols in the order they were added. -/
def ownFields (h : Heap) (o : ObjId) : List (Key × Field) :=
  let x := h.obj o
  let items := (x.items.toList.zipIdx).filterMap fun (f, i) => f.map fun f => (i, f)
  let units := match x.kind with
    | .primitive (.string t) =>
      (List.range t.length).filterMap fun i => (h.own? o (.index i)).map fun f => (Key.index i, f)
    | _ => []
  let fields := x.fields.toList
  let named := fields.filter fun (k, _) => k.toIndex?.isNone
  let numbered := fields.filterMap fun (k, f) => k.toIndex?.map fun i => (i, f)
  let numbered := (if numbered.isEmpty then items else (items ++ numbered).mergeSort fun a b =>
    a.1 ≤ b.1).map fun (i, f) => (Key.index i, f)
  let length := match h.own? o (.name "length"), x.kind with
    | some f, .array _ _ => [(Key.name "length", f)]
    | some f, .primitive _ => [(Key.name "length", f)]
    | _, _ => []
  let (symbols, names) := named.partition fun (k, _) => k.isSymbol
  units ++ numbered ++ length ++ names ++ symbols

/-- The names of an object's own properties that loops see. -/
def ownKeys (h : Heap) (o : ObjId) : List Key :=
  (h.ownFields o).filterMap fun (k, f) => if f.enumerable && !k.isSymbol then some k else none

/-- The names loops see along the prototypes, each once. -/
def keysFrom (h : Heap) : (fuel : Nat) → (seen : List Key) → Option ObjId → List Key
  | 0, _, _ => []
  | _, _, none => []
  | fuel + 1, seen, some o =>
    let fresh := (h.ownFields o).filter fun (k, _) => !k.isSymbol && k ∉ seen
    (fresh.filterMap fun (k, f) => if f.enumerable then some k else none)
      ++ keysFrom h fuel (fresh.map Prod.fst ++ seen) (h.obj o).proto

/-- Does `proto` stand among the prototypes that begin with `o`? -/
def inherits (h : Heap) (proto : ObjId) : (fuel : Nat) → Option ObjId → Bool
  | 0, _ => false
  | _, none => false
  | fuel + 1, some o => o = proto || inherits h proto fuel (h.obj o).proto

def callable? (h : Heap) (v : Value) : Option Callable :=
  match v with
  | .object o =>
    match (h.obj o).kind with
    | .function c => some c
    | _ => none
  | _ => none

/-- The value of a property that needs no call to be read. -/
def data? (h : Heap) (o : ObjId) (key : Key) : Option Value :=
  match h.find (some o) key with
  | .field { slot := .data v, .. } => some v
  | _ => none

/-- Is an object a function whose code is part of a program, or that with
its first arguments? -/
def hasCode (h : Heap) : (fuel : Nat) → ObjId → Bool
  | 0, _ => false
  | fuel + 1, o =>
    match (h.obj o).kind with
    | .function (.closure _ _) => true
    | .function (.bound f _ _) => h.hasCode fuel f
    | _ => false

/-- Is a property read by code that is part of a program? -/
def readByCode (h : Heap) (o : ObjId) (key : Key) : Bool :=
  match h.find (some o) key with
  | .field { slot := .accessor (.object get) _, .. } => h.hasCode (h.objects.size + 1) get
  | _ => false

/-! ### Changing -/

def alloc (h : Heap) (x : Obj) : Heap × ObjId :=
  let o := h.objects.size
  ({ h with objects := h.objects.push x }, o)

def modifyObj (h : Heap) (o : ObjId) (f : Obj → Obj) : Heap :=
  { h with objects := h.objects.modify o f }

/-- Puts an item into an array, with holes up to it. -/
def putItem (i : Nat) (f : Field) (items : Array (Option Field)) : Array (Option Field) :=
  if i < items.size then items.set! i (some f)
  else (items ++ Array.replicate (i - items.size) none).push (some f)

/-- Takes note of work that is not done step by step. -/
def charge (h : Heap) (work : Nat) : Heap := { h with effort := h.effort + work }

/-- Takes note of a value that is stored. Text is copied when it is, so
long text counts for more. -/
def note (h : Heap) (v : Value) : Heap :=
  match v with
  | .string t => h.charge (1 + t.size / 4096)
  | _ => h.charge 1

/-- Stores a property in an object itself, whatever was there. -/
def put (h : Heap) (o : ObjId) (key : Key) (f : Field) : Heap :=
  let h := match f.slot with
    | .data v => h.note v
    | .accessor _ _ => h
  let h := match key with
    | .index _ => h.charge 1
    | _ => h
  h.modifyObj o fun x =>
    match x.kind, key with
    | .array length resizable, .index i =>
      let x := { x with kind := .array (max length (i + 1)) resizable }
      if (i < itemBound || i ≤ x.items.size) && (fieldOf? key x.fields).isNone then
        { x with items := putItem i f x.items }
      else { x with fields := upsertField key f x.fields }
    | _, _ => { x with fields := upsertField key f x.fields }

/-- Stores a property under a name. -/
def putNamed (h : Heap) (o : ObjId) (name : String) (f : Field) : Heap := h.put o (.ofString name) f

/-- Changes the length of an array. Items that must stay keep the array
from getting shorter than they need; then the answer is `false`. -/
def setLength (h : Heap) (o : ObjId) (length : Nat) : Heap × Bool :=
  let x := h.obj o
  match x.kind with
  | .array _ resizable =>
    let kept := (h.ownFields o).filterMap fun (k, f) =>
      if f.configurable then none else k.toIndex?.bind fun i => if length ≤
        i then some (i + 1) else none
    let least := kept.foldl max length
    let h := h.modifyObj o fun x =>
      { x with
        kind := .array least resizable
        items := x.items.take least
        fields := x.fields.filter fun (k, _) =>
          (k.toIndex?.map fun i => decide (i < least)).getD true }
    (h, least = length)
  | _ => (h, true)

/-- Removes a property from an object itself. -/
def remove (h : Heap) (o : ObjId) (key : Key) : Heap :=
  h.modifyObj o fun x =>
    match x.kind, key with
    | .array _ _, .index i =>
      { x with
        items := if i < x.items.size then x.items.set! i none else x.items
        fields := x.fields.filter (·.1 ≠ key) }
    | _, _ => { x with fields := x.fields.filter (·.1 ≠ key) }

/-- Makes all properties of an object stay, constant ones if `constant`,
and allows no more of them. -/
def freeze (h : Heap) (o : ObjId) (constant : Bool) : Heap :=
  let fix (f : Field) : Field :=
    { f with
      configurable := false
      writable := match f.slot with
        | .data _ => f.writable && !constant
        | .accessor _ _ => f.writable }
  h.modifyObj o fun x =>
    { x with
      kind := match x.kind with
        | .array length resizable => .array length (resizable && !constant)
        | kind => kind
      fields := x.fields.map fun (k, f) => (k, fix f)
      items := x.items.map (·.map fix)
      extensible := false }

/-! ### Scopes -/

def newScope (h : Heap) (s : Scope) : Heap × ScopeId :=
  let n := h.scopes.size
  ({ h with scopes := h.scopes.push s }, n)

/-- The place of a name in a list of names. -/
def placeOf? (name : String) : (place : Nat) → List String → Option Nat
  | _, [] => none
  | i, n :: rest => if n = name then some i else placeOf? name (i + 1) rest

/-- The scope around `s`, itself included, that has a variable, and the
variable's place in it. -/
def scopeOf? (h : Heap) (name : String) : (fuel : Nat) → Option ScopeId → Option (ScopeId × Nat)
  | 0, _ => none
  | _, none => none
  | fuel + 1, some s =>
    let scope := h.scopes.getD s {}
    match placeOf? name 0 scope.names with
    | some i => some (s, i)
    | none => scopeOf? h name fuel scope.parent

/-- The variable of that name that is visible from a scope. -/
def findVariable (h : Heap) (s : Option ScopeId) (name : String) : Option (ScopeId × Nat) :=
  match s with
  | none => none
  | s => h.scopeOf? name (h.scopes.size + 1) s

def variableAt (h : Heap) (s : ScopeId) (place : Nat) : Value :=
  (h.scopes.getD s {}).values.getD place .undefined

def setVariable (h : Heap) (s : ScopeId) (place : Nat) (v : Value) : Heap :=
  let h := h.note v
  { h with scopes := h.scopes.modify s fun scope =>
    { scope with values := scope.values.set! place v } }

end Heap

end ObjectBridge.Script

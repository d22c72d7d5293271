import ObjectBridge.Bridge.Ownership

/-!
# `ObjectBridge.Bridge.Native`: what native code may do

Native code is called with a context and arguments it only borrows, and
answers with a variant of its own or a failure. On the way it may ask a
host to read, write and look for properties and to evaluate scripts, each
of which may call native code again. So the host's operations are a
record, `HostOps`, that is handed to native code; where the record comes
from, and how deep calls may nest, is no concern of native code.

The other primitives of a host call nobody, and stand here as functions.
-/

set_option autoImplicit false

namespace ObjectBridge

/-- The operations of hosts that may lead back to native code. -/
structure HostOps (β : Type) where
  /-- Does an object have a property? -/
  hasProperty : HostId → ObjectRef → Identifier → M β Bool
  /-- Reads a property; the variant belongs to the caller. -/
  getProperty : HostId → ObjectRef → Identifier → M β (Option Variant)
  /-- Stores a borrowed variant, and says whether that was possible. -/
  setProperty : HostId → ObjectRef → Identifier → Variant → M β Bool
  /-- Evaluates a script in the scope of an object; the result belongs to
  the caller. -/
  evaluate : HostId → Option ObjectRef → Bytes → M β (Option Variant)

/-- Native code that can be called. -/
class Native (β : Type) where
  /-- Calls native code with borrowed arguments. -/
  call : HostOps β → Context → β → List Variant → M β (Except Failure Variant)
  /-- Hands a borrowed variant to native code that sets a property. It has
  no answer but a failure; code with an answer of its own is called and
  the answer is lost. -/
  store : HostOps β → Context → β → Variant → M β (Except Failure Unit) := fun ops ctx code v => do
    match ← call ops ctx code [v] with
    | .ok _ => return .ok ()
    | .error f => return .error f

variable {β : Type}

/-- Turns a name into an identifier. -/
def stringIdentifier (host : HostId) (name : Bytes) : M β Identifier := do
  if host = .memory then countCall "StringIdentifier"
  return .name name

/-- Turns an index into an identifier. -/
def intIdentifier (host : HostId) (index : Int32) : M β Identifier := do
  if host = .memory then countCall "IntIdentifier"
  return .index index

/-- The global object of a host, held once more. -/
def windowObject (host : HostId) : M β (Option ObjectRef) := do
  match host with
  | .memory =>
    countCall "WindowObject"
    let m := (← get).memory
    if m.noWindow then return none
    retain (.table m.window)
    return some (.table m.window)
  | .script i =>
    let r := (← get).runtime i
    if r.isOpen then return some (← newHandle i r.realm.global) else return none

end ObjectBridge

/-!
## Values on the native side

Native code computes with values of its own, and only some of them have a
variant. Whole numbers have ten widths there and two here: they take the
narrow one when they fit it. Text may be a string or bytes. Objects cross
only as references that are handed over.
-/

namespace ObjectBridge

/-! ### Whole numbers -/

/-- A whole number of native code. -/
inductive NativeInt
  | int (n : Int64)
  | int8 (n : Int8)
  | int16 (n : Int16)
  | int32 (n : Int32)
  | int64 (n : Int64)
  | uint (n : UInt64)
  | uint8 (n : UInt8)
  | uint16 (n : UInt16)
  | uint32 (n : UInt32)
  | uint64 (n : UInt64)
  deriving DecidableEq, Repr

namespace NativeInt

/-- The number. -/
def toInt : NativeInt → Int
  | .int n | .int64 n => n.toInt
  | .int8 n => n.toInt
  | .int16 n => n.toInt
  | .int32 n => n.toInt
  | .uint n | .uint64 n => n.toNat
  | .uint8 n => n.toNat
  | .uint16 n => n.toNat
  | .uint32 n => n.toNat

/-- A signed number takes 32 bits when it fits. -/
def ofSigned (n : Int64) : Variant :=
  if -2147483648 ≤ n ∧ n ≤ 2147483647 then .int32 n.toInt32 else .double (Float.ofInt n.toInt)

/-- So does an unsigned one, when it fits with a sign. -/
def ofUnsigned (n : UInt64) : Variant :=
  if n ≤ 2147483647 then .int32 n.toUInt32.toInt32 else .double (Float.ofNat n.toNat)

/-- The variant of a whole number. -/
def toVariant : NativeInt → Variant
  | .int n | .int64 n => ofSigned n
  | .int8 n => .int32 n.toInt32
  | .int16 n => .int32 n.toInt32
  | .int32 n => .int32 n
  | .uint n | .uint64 n => ofUnsigned n
  | .uint8 n => .int32 n.toUInt32.toInt32
  | .uint16 n => .int32 n.toUInt32.toInt32
  | .uint32 n => ofUnsigned n.toUInt64

end NativeInt

/-! ### Values -/

/-- A value of native code. -/
inductive NativeValue
  | nothing
  | bool (b : Bool)
  | integer (n : NativeInt)
  | single (f : Float32)
  | double (d : Float)
  | text (bytes : Bytes)
  | data (bytes : Bytes)
  | variant (v : Variant)
  /-- A reference that is handed over, or none. -/
  | owned (o : Option ObjectRef)
  /-- An object that nobody handed over. -/
  | object (o : ObjectRef)
  /-- A value of some other type. -/
  | other (type : String)

namespace NativeValue

/-- The variant of a native value, owned by the caller. -/
def toVariant (host : HostId) {β : Type} : NativeValue → M β (Except Failure Variant)
  | .nothing => return .ok .null
  | .bool b => return .ok (.bool b)
  | .integer n => return .ok n.toVariant
  | .single f => return .ok (.double f.toFloat)
  | .double d => return .ok (.double d)
  | .text bytes | .data bytes => valueFromString host bytes
  | .variant v => return .ok v
  | .owned (some o) => return .ok (.object o)
  | .owned none => return .ok .null
  | .object o => return .error (.unsupportedType o.typeName)
  | .other type => return .error (.unsupportedType type)

/-- The native value of a borrowed variant. -/
def ofVariant : Variant → NativeValue
  | .void => .nothing
  | .null => .nothing
  | .bool b => .bool b
  | .int32 n => .integer (.int32 n)
  | .double d => .double d
  | .string bytes => .text bytes
  | .object o => .object o

end NativeValue

end ObjectBridge

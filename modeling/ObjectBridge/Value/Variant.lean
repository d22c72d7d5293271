import ObjectBridge.Decimal.Notation
import ObjectBridge.Text.Utf8

/-!
# `ObjectBridge.Value.Variant`: the values that cross the boundary

A `Variant` is what a script host and native code exchange: nothing,
null, a truth value, a number in one of two widths, a string, or a
reference to an object. Strings are byte strings; objects are references
into the world, one constructor per kind of object.

An object variant owns one reference to the object it names. Which
operations take that reference over and which only borrow it is said
where the operation is.
-/

set_option autoImplicit false

namespace ObjectBridge

/-- A reference to an object that a host or native code holds. -/
inductive ObjectRef
  /-- An object or array of the in-memory host. -/
  | table (index : Nat)
  /-- A wrapper around a node of a native graph. -/
  | proxy (index : Nat)
  /-- A native-side handle on an object of a script. -/
  | handle (index : Nat)
  deriving DecidableEq, Repr

namespace ObjectRef

/-- What an object of this kind is called in text. -/
def typeName : ObjectRef → String
  | .table _ => "*hosttest.Object"
  | .proxy _ => "*bridge.Proxy"
  | .handle _ => "*gojahost.Object"

/-- The text of an object. -/
def text (o : ObjectRef) : String := "[object " ++ o.typeName ++ "]"

end ObjectRef

/-- A value at the boundary. -/
inductive Variant
  | void
  | null
  | bool (b : Bool)
  | int32 (i : Int32)
  | double (d : Float)
  | string (bytes : Bytes)
  | object (o : ObjectRef)
  deriving Repr

instance : Inhabited Variant := ⟨.void⟩

/-- The kinds of variant. -/
inductive Kind
  | void | null | bool | int32 | double | string | object
  deriving DecidableEq, Repr

namespace Kind

def name : Kind → String
  | .void => "void"
  | .null => "null"
  | .bool => "bool"
  | .int32 => "int32"
  | .double => "double"
  | .string => "string"
  | .object => "object"

/-- The kind with a given tag. -/
def ofTag? (tag : Nat) : Option Kind :=
  [void, null, bool, int32, double, string, object][tag]?

/-- The name of a tag, whether or not a kind has it. -/
def tagName (tag : Nat) : String :=
  match ofTag? tag with
  | some k => k.name
  | none => "kind(" ++ toString tag ++ ")"

end Kind

namespace Variant

def kind : Variant → Kind
  | .void => .void
  | .null => .null
  | .bool _ => .bool
  | .int32 _ => .int32
  | .double _ => .double
  | .string _ => .string
  | .object _ => .object

def isVoid (v : Variant) : Bool := v.kind = .void
def isNull (v : Variant) : Bool := v.kind = .null
def isBool (v : Variant) : Bool := v.kind = .bool
def isString (v : Variant) : Bool := v.kind = .string
def isObject (v : Variant) : Bool := v.kind = .object
def isNumber (v : Variant) : Bool := v.kind = .int32 || v.kind = .double
def isNullish (v : Variant) : Bool := v.kind = .void || v.kind = .null

/-- The truth value a variant holds, `false` when it holds none. -/
def asBool : Variant → Bool
  | .bool b => b
  | _ => false

/-- The 32-bit number a variant holds, zero when it holds none. -/
def asInt32 : Variant → Int32
  | .int32 i => i
  | _ => 0

/-- The number a variant holds, zero when it holds none. -/
def asDouble : Variant → Float
  | .int32 i => Float.ofInt i.toInt
  | .double d => d
  | _ => 0.0

/-- The number a variant holds, if it holds one. -/
def number? : Variant → Option Float
  | .int32 i => some (Float.ofInt i.toInt)
  | .double d => some d
  | _ => none

/-- The bytes a variant holds, if it is a string. -/
def bytes? : Variant → Option Bytes
  | .string bytes => some bytes
  | _ => none

/-- The bytes a variant holds, none when it is not a string. -/
def asBytes (v : Variant) : Bytes := v.bytes?.getD []

/-- The object a variant holds, if it is one. -/
def object? : Variant → Option ObjectRef
  | .object o => some o
  | _ => none

/-- A string variant with the given text. -/
def ofText (s : String) : Variant := .string (.ofString s)

/-- The narrowest number variant for a double: 32 bits when it is a whole
number in range and not negative zero. -/
def ofNumber (f : Float) : Variant :=
  let d := Double.ofFloat f
  match d.toInt? with
  | some n =>
    if -2147483648 ≤ n ∧ n ≤ 2147483647 ∧ ¬ d.isNegativeZero then .int32 (Int32.ofInt n)
    else .double f
  | none => .double f

/-- A whole number as a variant: 32 bits when it fits, else the nearest
double. -/
def ofInt (n : Int) : Variant :=
  if -2147483648 ≤ n ∧ n ≤ 2147483647 then .int32 (Int32.ofInt n) else .double (Float.ofInt n)

/-- The text of a variant. -/
def text : Variant → Bytes
  | .void => .ofString "undefined"
  | .null => .ofString "null"
  | .bool b => .ofString (if b then "true" else "false")
  | .int32 i => .ofString (toString i.toInt)
  | .double d => .ofString (Decimal.writePlain d)
  | .string bytes => bytes
  | .object o => .ofString o.text

end Variant

end ObjectBridge

/-!
## The exception of a request

Every request of a host carries a slot for at most one exception. The
first exception stays until the slot is cleared; later ones are dropped,
and the one who raised is told so, because a dropped object still has to
be released.

A host may also pass no slot at all; then nothing is ever recorded.
-/

namespace ObjectBridge

/-- A slot for one exception. -/
structure ExceptionSlot where
  pending : Option Variant := none
  deriving Repr, Inhabited

namespace ExceptionSlot

def isPending (s : ExceptionSlot) : Bool := s.pending.isSome

/-- Records a value unless one is pending, and says whether it did. -/
def raise (s : ExceptionSlot) (v : Variant) : Bool × ExceptionSlot :=
  match s.pending with
  | some _ => (false, s)
  | none => (true, { pending := some v })

/-- The pending value, void when there is none. -/
def value (s : ExceptionSlot) : Variant := s.pending.getD .void

/-- The text of the pending value, empty when there is none. -/
def message (s : ExceptionSlot) : Bytes :=
  match s.pending with
  | some v => v.text
  | none => []

def clear (_ : ExceptionSlot) : ExceptionSlot := {}

/-- Raises into a slot that may be missing. -/
def raiseInto (s : Option ExceptionSlot) (v : Variant) : Bool × Option ExceptionSlot :=
  match s with
  | none => (false, none)
  | some slot =>
    let (recorded, slot') := slot.raise v
    (recorded, some slot')

end ExceptionSlot

end ObjectBridge

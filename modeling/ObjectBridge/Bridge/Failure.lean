import ObjectBridge.Value.Variant
import ObjectBridge.Text.Wide

/-!
# `ObjectBridge.Bridge.Failure`: why native code failed

A failure of native code is a value, and its message is what a script
sees as the exception. `Failure.thrown` stands for an exception that is a
value of the script's own; it may be wrapped in words and is still found.
-/

set_option autoImplicit false

namespace ObjectBridge

/-- What can go wrong in native code. -/
inductive Failure
  /-- Nothing along the chain has the property. -/
  | unknownProperty
  /-- Nothing along the chain has the method. -/
  | methodNotFound
  | missingConstructor
  | readOnlyProperty
  | methodNameNotString
  | propertyNameNotString
  /-- The host did not give out this many bytes. -/
  | allocation (size : Nat)
  /-- Values of this native type do not cross the boundary. -/
  | unsupportedType (type : String)
  | text (e : TextError)
  | message (m : Bytes)
  /-- A value of the script's own, owned by the failure. -/
  | thrown (v : Variant)
  | wrapped (context : Bytes) (inner : Failure)
  deriving Repr

namespace Failure

/-- The text of a failure. -/
def describe : Failure → Bytes
  | .unknownProperty => .ofString "unknown property"
  | .methodNotFound => .ofString "method does not exist"
  | .missingConstructor => .ofString "missing constructor"
  | .readOnlyProperty => .ofString "property is read-only"
  | .methodNameNotString => .ofString "method name is not a string"
  | .propertyNameNotString => .ofString "property name is not a string"
  | .allocation size => .ofString ("host allocation failed: " ++ toString size ++ " bytes")
  | .unsupportedType type => .ofString ("unsupported native type: " ++ type)
  | .text e => .ofString e.message
  | .message m => m
  | .thrown v => v.text
  | .wrapped context inner => context ++ .ofString ": " ++ inner.describe

/-- The failure under all words around it. -/
def cause : Failure → Failure
  | .wrapped _ inner => inner.cause
  | f => f

/-- The value thrown, if one was. -/
def thrown? (f : Failure) : Option Variant :=
  match f.cause with
  | .thrown v => some v
  | _ => none

/-- The value an exception carries for this failure. -/
def exceptionValue (f : Failure) : Variant :=
  match f.thrown? with
  | some v => v
  | none => .string f.describe

/-- A failure with a text. -/
def ofText (s : String) : Failure := .message (.ofString s)

/-- The failures that are counted under their own message. -/
def counted : List Failure :=
  [.unknownProperty, .methodNotFound, .missingConstructor, .readOnlyProperty, .methodNameNotString,
    .propertyNameNotString]

/-- The label a message is counted under. Only a few messages have their
own, so the number of labels stays bounded. -/
def label (message : Bytes) : String :=
  match counted.find? fun f => f.describe = message with
  | some f => f.describe.toStringLossy
  | none => "other"

end Failure

/-- What is handed to who asked for a variant: the variant and the failure, if
there was one. After a failure the variant is void. -/
def handed : Except Failure Variant → Variant × Option Failure
  | .ok v => (v, none)
  | .error f => (.void, some f)

end ObjectBridge

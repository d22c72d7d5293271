import ObjectBridge.Text.Quoted
import ObjectBridge.Text.Utf8

/-!
# `ObjectBridge.Value.Identifier`: names and indexes of properties
-/

set_option autoImplicit false

namespace ObjectBridge

/-- What selects a property of a host object. -/
inductive Identifier
  | name (bytes : Bytes)
  | index (i : Int32)
  deriving DecidableEq, Repr

namespace Identifier

def isName : Identifier → Bool
  | .name _ => true
  | .index _ => false

/-- The name, empty for an index. -/
def nameBytes : Identifier → Bytes
  | .name bytes => bytes
  | .index _ => []

/-- The index, zero for a name. -/
def indexValue : Identifier → Int32
  | .name _ => 0
  | .index i => i

/-- The identifier as a property name: an index by its decimal digits. -/
def text : Identifier → Bytes
  | .name bytes => bytes
  | .index i => .ofString (toString i.toInt)

end Identifier

end ObjectBridge

/-!
## Reading elements of host arrays

Some hosts answer the question whether an index exists wrongly or too
slowly. A policy may skip that question, and then says what a failed
fetch means.
-/

namespace ObjectBridge

/-- What a failed fetch of an index turns into when its existence was not
asked for. -/
inductive MissingIndex
  /-- The element is reported as absent. -/
  | absent
  /-- The element is there and void. -/
  | undefined
  /-- The element is there and null. -/
  | null
  deriving DecidableEq, Repr, Inhabited

namespace MissingIndex

def name : MissingIndex → String
  | .absent => "absent"
  | .undefined => "undefined"
  | .null => "null"

/-- Reads the name of a policy, whatever its letter case. -/
def parse? (s : String) : Option MissingIndex :=
  let word := Letter.lowerString s
  if word = "" ∨ word = "absent" ∨ word = "error" then some .absent
  else if word = "undefined" ∨ word = "void" then some .undefined
  else if word = "null" ∨ word = "default" then some .null
  else none

/-- What is said about a name that is none. -/
def unknownMessage (s : String) : String := "unknown missing-index policy " ++ Quoted.quote s

end MissingIndex

/-- How elements are read. -/
structure IndexPolicy where
  /-- Do not ask whether an index exists before fetching it. -/
  skipExistenceCheck : Bool := false
  missing : MissingIndex := .absent
  deriving DecidableEq, Repr, Inhabited

end ObjectBridge

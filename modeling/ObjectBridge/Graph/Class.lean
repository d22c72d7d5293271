import ObjectBridge.Data.Dict
import ObjectBridge.Text.Utf8

/-!
# `ObjectBridge.Graph.Class`: what a node can do itself

A class is a table of members by name. What a member does when it is used
is native code, of which nothing is said here: it is the parameter `β`.
An entry of the table may also lack its code.

A `Registry` holds classes by name.
-/

set_option autoImplicit false

namespace ObjectBridge

/-- A property of a class. Without a setter it is read-only. -/
structure Property (β : Type) where
  get : Option β := none
  set : Option β := none

/-- The members of a node. -/
structure Class (β : Type) where
  name : Bytes := []
  methods : Dict Bytes (Option β) := {}
  properties : Dict Bytes (Property β) := {}
  /-- What runs when the node is constructed. -/
  construct : Option β := none

namespace Class

variable {β : Type}

/-- The code of a method, if there is any. -/
def method? (c : Class β) (name : Bytes) : Option β := (c.methods.find? name).join

/-- The property of that name, if the class declares it. -/
def property? (c : Class β) (name : Bytes) : Option (Property β) := c.properties.find? name

/-- The names of the methods, in order, those without code included. -/
def methodNames (c : Class β) : List Bytes := c.methods.keys

/-- The names of the properties, in order. -/
def propertyNames (c : Class β) : List Bytes := c.properties.keys

end Class

/-- Classes by name. -/
structure Registry (β : Type) where
  classes : Dict Bytes (Class β) := {}

namespace Registry

variable {β : Type}

/-- Why a class was not registered. -/
inductive Refusal
  | missing
  | unnamed
  deriving DecidableEq, Repr

/-- The text of the error. -/
def Refusal.message : Refusal → String
  | .missing => "class cannot be nil"
  | .unnamed => "class name cannot be empty"

/-- Adds a class, replacing the one of the same name. -/
def register (r : Registry β) (c : Option (Class β)) : Except Refusal (Registry β) :=
  match c with
  | none => .error .missing
  | some c => if c.name = [] then .error .unnamed else .ok { classes := r.classes.insert c.name c }

/-- Adds classes in order, up to the first that is refused. -/
def registerAll (r : Registry β) (classes : List (Class β)) : Except Refusal (Registry β) :=
  classes.foldlM (fun r c => r.register (some c)) r

/-- The registry without the class of that name. -/
def unregister (r : Registry β) (name : Bytes) : Registry β := { classes := r.classes.erase name }

/-- The class of that name, if it is registered. -/
def find? (r : Registry β) (name : Bytes) : Option (Class β) := r.classes.find? name

/-- A registry of the given classes; of two with one name the later
counts. -/
def ofList (classes : List (Class β)) : Registry β :=
  { classes := .ofList (classes.map fun c => (c.name, c)) }

/-- The names of the registered classes, in order. -/
def names (r : Registry β) : List Bytes := r.classes.keys

/-- Totals over the registered classes. -/
structure Stats where
  classes : Nat
  methods : Nat
  properties : Nat
  constructors : Nat
  deriving DecidableEq, Repr

/-- How much all classes have together. -/
def stats (r : Registry β) : Stats :=
  let all := r.classes.entries.map Prod.snd
  let total (count : Class β → Nat) : Nat := all.foldl (fun n c => n + count c) 0
  { classes := all.length
    methods := total (·.methods.size)
    properties := total (·.properties.size)
    constructors := all.countP (·.construct.isSome) }

end Registry

end ObjectBridge

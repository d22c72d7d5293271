import ObjectBridge.Graph.Class
import ObjectBridge.Manifest.Path

/-!
# `ObjectBridge.Graph.Basic`: nodes, their children and their bases

A node has a class, children by name, and a base it falls back to for
what it cannot answer itself. Following bases gives the node's chain, and
every question about members is a search along that chain:

* a method is found in the first class that has code for it;
* a property is read from the first node that declares it or has a child
  of that name, the declaration coming before the child;
* a property is written through the first class that declares it.

Bases may form a cycle. The chain of a node is cut off after one node more
than there are; a chain that has not ended by then never ends.
-/

set_option autoImplicit false

namespace ObjectBridge

/-- The number of a node in its graph. -/
abbrev NodeId := Nat

/-- An object of the graph: its class, its children by their names, and the node
it takes over from. -/
structure Node (β : Type) where
  base : Option NodeId := none
  cls : Option (Class β) := none
  children : Dict Bytes NodeId := {}

instance {β : Type} : Inhabited (Node β) := ⟨{}⟩

/-- Nodes by number. -/
structure Graph (β : Type) where
  nodes : Array (Node β) := #[]

instance {β : Type} : Inhabited (Graph β) := ⟨{}⟩

namespace Graph

variable {β : Type}

/-- The node of that number, if there is one. -/
def node? (g : Graph β) (n : NodeId) : Option (Node β) := g.nodes[n]?

/-- The class of a node. -/
def class? (g : Graph β) (n : NodeId) : Option (Class β) := (g.node? n).bind (·.cls)

/-- The base of a node, if it has one. -/
def base? (g : Graph β) (n : NodeId) : Option NodeId := (g.node? n).bind (·.base)

/-! ### Building -/

/-- Adds a node without base and children. -/
def addNode (g : Graph β) (cls : Option (Class β)) : Graph β × NodeId :=
  ({ nodes := g.nodes.push { cls } }, g.nodes.size)

/-- Changes a node. -/
def modifyNode (g : Graph β) (n : NodeId) (f : Node β → Node β) : Graph β :=
  { nodes := g.nodes.modify n f }

/-- Replaces the base. Whether the chain still ends is not checked. -/
def setBase (g : Graph β) (n : NodeId) (base : Option NodeId) : Graph β :=
  g.modifyNode n fun x => { x with base }

/-- Gives a node another class, or none. -/
def setClass (g : Graph β) (n : NodeId) (cls : Option (Class β)) : Graph β :=
  g.modifyNode n fun x => { x with cls }

/-- Stores a child, replacing the one of the same name. -/
def addChild (g : Graph β) (n : NodeId) (name : Bytes) (child : NodeId) : Graph β :=
  g.modifyNode n fun x => { x with children := x.children.insert name child }

/-! ### Children -/

/-- The child of that name, if there is one. -/
def child? (g : Graph β) (n : NodeId) (name : Bytes) : Option NodeId :=
  (g.node? n).bind (·.children.find? name)

/-- The names of the children, in order. -/
def childNames (g : Graph β) (n : NodeId) : List Bytes :=
  ((g.node? n).map (·.children.keys)).getD []

/-- Follows a dotted path of children; the empty path is the node itself.
Bases are not consulted. -/
def lookup? (g : Graph β) (n : NodeId) (path : Bytes) : Option NodeId :=
  if path = [] then some n
  else (path.splitOn Path.dot).foldlM (fun cur part => g.child? cur part) n

/-! ### The chain -/

/-- The nodes on the way from `n` along the bases, at most `fuel` of
them. -/
def chainFrom (g : Graph β) : (fuel : Nat) → Option NodeId → List NodeId
  | 0, _ => []
  | _ + 1, none => []
  | fuel + 1, some n => n :: chainFrom g fuel (g.base? n)

/-- A node, its base, the base of that, and so on. -/
def chain (g : Graph β) (n : NodeId) : List NodeId := g.chainFrom (g.nodes.size + 1) (some n)

/-- Does the chain of a node end after at most `fuel` nodes? -/
def endsWithin (g : Graph β) : (fuel : Nat) → Option NodeId → Bool
  | _, none => true
  | 0, some _ => false
  | fuel + 1, some n => endsWithin g fuel (g.base? n)

/-- Does the chain of a node end? -/
def chainEnds (g : Graph β) (n : NodeId) : Bool := g.endsWithin (g.nodes.size + 1) (some n)

/-! ### Members -/

/-- The code of the first method of that name. -/
def method? (g : Graph β) (n : NodeId) (name : Bytes) : Option β :=
  (g.chain n).findSome? fun cur => (g.class? cur).bind (·.method? name)

/-- What a property name stands for. -/
inductive Found (β : Type)
  | declared (p : Property β)
  | child (n : NodeId)

/-- The child a name stands for, if it stands for one. -/
def Found.child? : Found β → Option NodeId
  | .declared _ => none
  | .child n => some n

/-- What a property name stands for at one node alone. -/
def ownProperty? (g : Graph β) (n : NodeId) (name : Bytes) : Option (Found β) :=
  match (g.class? n).bind (·.property? name) with
  | some p => some (.declared p)
  | none => (g.child? n name).map .child

/-- What a property name stands for when it is read. -/
def property? (g : Graph β) (n : NodeId) (name : Bytes) : Option (Found β) :=
  (g.chain n).findSome? fun cur => g.ownProperty? cur name

/-- The declaration a property is written through. -/
def declaration? (g : Graph β) (n : NodeId) (name : Bytes) : Option (Property β) :=
  (g.chain n).findSome? fun cur => (g.class? cur).bind (·.property? name)

/-- Does a node or one of its bases have the method? -/
def hasMethod (g : Graph β) (n : NodeId) (name : Bytes) : Bool := (g.method? n name).isSome

/-- Does a node or one of its bases have the property? -/
def hasProperty (g : Graph β) (n : NodeId) (name : Bytes) : Bool := (g.property? n name).isSome

/-- The code that constructs a node. It is not inherited. -/
def constructor? (g : Graph β) (n : NodeId) : Option β := (g.class? n).bind (·.construct)

/-- The members along the chain, each once: for every node its properties
and then its methods. Children are no members. -/
def memberNames (g : Graph β) (n : NodeId) : List Bytes :=
  let all := (g.chain n).flatMap fun cur =>
    match g.class? cur with
    | some c => c.propertyNames ++ c.methodNames
    | none => []
  all.foldl (fun seen name => if name ∈ seen then seen else seen ++ [name]) []

end Graph

end ObjectBridge

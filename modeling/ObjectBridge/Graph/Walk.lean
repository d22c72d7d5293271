import ObjectBridge.Graph.Basic

/-!
# `ObjectBridge.Graph.Walk`: visiting a graph

A walk visits a node and everything below it, children in name order and
each node once, under the first path that leads to it. A child may also be
no node at all: a number that no node has is passed over. Two things are
built on it: the check that no base chain below a node runs in a circle,
and the description of a graph.
-/

set_option autoImplicit false

namespace ObjectBridge

namespace Graph

variable {β : Type}

/-- The number of entries of all lists of children. -/
def edgeCount (g : Graph β) : Nat := g.nodes.toList.foldl (fun n x => n + x.children.size) 0

/-- The children of a node with their paths, in name order. -/
def below (g : Graph β) (path : Bytes) (n : NodeId) : List (Bytes × NodeId) :=
  match g.node? n with
  | some x => x.children.entries.map fun (name, child) => (Path.join path name, child)
  | none => []

/-- Visits what is still to be visited, nodes already seen apart, and
numbers that no node has. -/
def walkFrom (g : Graph β) :
    (fuel : Nat) → (seen : List NodeId) → (todo : List (Bytes × NodeId)) → List (Bytes × NodeId)
  | 0, _, _ => []
  | _ + 1, _, [] => []
  | fuel + 1, seen, (path, n) :: rest =>
    if n ∈ seen ∨ ¬ n < g.nodes.size then walkFrom g fuel seen rest
    else (path, n) :: walkFrom g fuel (n :: seen) (g.below path n ++ rest)

/-- Every node below `root` with its path, `root` first. -/
def walk (g : Graph β) (root : NodeId) : List (Bytes × NodeId) :=
  g.walkFrom (g.edgeCount + 2) [] [([], root)]

/-- The path of the first node below `root` whose chain does not end. -/
def cyclicPath? (g : Graph β) (root : NodeId) : Option Bytes :=
  ((g.walk root).find? fun (_, n) => !g.chainEnds n).map Prod.fst

end Graph

/-! ### Descriptions -/

/-- A node and what is below it, in words. -/
inductive Description
  | mk (path : Bytes) (className base : Option Bytes)
      (methods properties : List Bytes) (constructor : Bool) (children : List Description)

namespace Graph

variable {β : Type}

/-- The description of a node whose children are still to come, and the
numbers of those found so far. -/
structure Draft where
  path : Bytes
  className : Option Bytes
  base : Option Bytes
  methods : List Bytes
  properties : List Bytes
  constructor : Bool
  children : List Nat := []

/-- Drafts by number and the latest draft for each path. -/
structure Drafts where
  drafts : Array Draft := #[]
  byPath : Dict Bytes Nat := {}

/-- The draft of one node. A base outside the graph has no path. -/
def draft (g : Graph β) (paths : List (Bytes × NodeId)) (path : Bytes) (n : NodeId) : Draft :=
  let cls := g.class? n
  { path := Path.display path
    className := cls.map (·.name)
    base := (g.base? n).map fun b =>
      match paths.find? (·.2 = b) with
      | some (p, _) => Path.display p
      | none => .ofString "<external>"
    methods := (cls.map (·.methodNames)).getD []
    properties := (cls.map (·.propertyNames)).getD []
    constructor := (cls.bind (·.construct)).isSome }

/-- Adds the draft of a node to the one its path says it belongs to;
fails when there is none. -/
def addDraft (ds : Drafts) (path : Bytes) (d : Draft) : Option Drafts :=
  let i := ds.drafts.size
  let byPath := ds.byPath.insert path i
  if path = [] then some { drafts := ds.drafts.push d, byPath }
  else
    match byPath.find? (Path.parent path) with
    | none => none
    | some parent =>
      some
        { drafts := (ds.drafts.push d).modify parent fun p =>
          { p with children := p.children ++ [i] }
          byPath }

/-- Puts drafts together. -/
def finish (drafts : Array Draft) : (fuel : Nat) → Nat → Option Description
  | 0, _ => none
  | fuel + 1, i =>
    match drafts[i]? with
    | none => none
    | some d =>
      some (.mk d.path d.className d.base d.methods d.properties d.constructor
        (d.children.filterMap (finish drafts fuel)))

/-- Describes everything below a node. A name with a dot can make a path
whose parent does not exist; then there is no description. -/
def describe (g : Graph β) (root : NodeId) : Option Description := do
  let visited := g.walk root
  let ds ← visited.foldlM (fun ds (path, n) => addDraft ds path (g.draft visited path n))
      ({} : Drafts)
  let top ← ds.byPath.find? []
  finish ds.drafts (ds.drafts.size + 1) top

end Graph

end ObjectBridge

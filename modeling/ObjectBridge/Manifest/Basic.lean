import ObjectBridge.Manifest.Path
import ObjectBridge.Text.Quoted

/-!
# `ObjectBridge.Manifest.Basic`: what a plugin consists of

A manifest names a plugin and lays out its object graph: a tree of
namespaces, each with the class that backs it and the namespace it falls
back to. Namespaces are addressed by dotted paths from the root.

* `Manifest.walk` lists every namespace with its path, parents first.
* `Manifest.problems` says what is wrong with a manifest; a manifest
  without problems is valid.
* `Manifest.merge` lays one manifest over another.

Namespaces are values. Laying one manifest over another changes neither of
them, and children that two branches have in common part when one of the
branches is laid over. An implementation that changes lists in place has to
copy what is shared, as the aliases of a document may be, to agree.
-/

set_option autoImplicit false

namespace ObjectBridge

/-- A namespace of the object graph. -/
structure Namespace where
  name : Bytes := []
  /-- The class behind the namespace; none when empty. -/
  className : Bytes := []
  /-- The path of the namespace it falls back to; none when empty. -/
  base : Bytes := []
  children : List Namespace := []
  deriving Repr

instance : Inhabited Namespace := ⟨{}⟩

/-- A plugin and its object graph. -/
structure Manifest where
  name : Bytes := []
  description : Bytes := []
  mime : List Bytes := []
  className : Bytes := []
  base : Bytes := []
  namespaces : List Namespace := []
  deriving Repr, Inhabited

namespace Namespace

mutual

/-- Every namespace below `parent` with its path, parents first and
siblings in order. -/
def walk (parent : Bytes) : List Namespace → List (Bytes × Namespace)
  | [] => []
  | ns :: rest =>
    let path := Path.join parent ns.name
    (path, ns) :: (walkBelow path ns ++ walk parent rest)

/-- The same for what lies below the namespace at `path`. -/
def walkBelow (path : Bytes) : Namespace → List (Bytes × Namespace)
  | ⟨_, _, _, children⟩ => walk path children

end

end Namespace

namespace Manifest

/-- Every namespace with its path, parents first and siblings in order. -/
def walk (m : Manifest) : List (Bytes × Namespace) := Namespace.walk [] m.namespaces

/-! ### Validity -/

/-- What can be wrong with a manifest. -/
inductive Problem
  | nameRequired
  | emptyName (parent : Bytes)
  | dottedName (name : Bytes)
  | duplicate (name parent : Bytes)
  | unknownRootBase (base : Bytes)
  | unknownBase (base path : Bytes)
  deriving DecidableEq, Repr

/-- The text of the problem. -/
def Problem.message : Problem → String
  | .nameRequired => "manifest name is required"
  | .emptyName parent => "empty namespace name under " ++ Quoted.quoteBytes parent
  | .dottedName name => "namespace name " ++ Quoted.quoteBytes name ++ " contains a dot"
  | .duplicate name parent =>
    "duplicate namespace " ++ Quoted.quoteBytes name ++ " under " ++ Quoted.quoteBytes parent
  | .unknownRootBase base => "root base " ++ Quoted.quoteBytes base ++ " is not a namespace path"
  | .unknownBase base path =>
    "base " ++ Quoted.quoteBytes base ++ " of " ++ Quoted.quoteBytes path ++
      " is not a namespace path"

/-- The message for several problems, one to a line. -/
def Problem.messages (ps : List Problem) : String := "\n".intercalate (ps.map Problem.message)

mutual

/-- The problems with the names below `parent`, and the paths that are
properly declared there. `seen` holds the names of earlier siblings. What
lies below a badly named or repeated namespace is not looked at. -/
def checkNames (parent : Bytes) (seen : List Bytes) :
    List Namespace → List Problem × List Bytes
  | [] => ([], [])
  | ns :: rest =>
    if ns.name = [] then
      let (problems, paths) := checkNames parent seen rest
      (.emptyName parent :: problems, paths)
    else if Path.dot ∈ ns.name then
      let (problems, paths) := checkNames parent seen rest
      (.dottedName ns.name :: problems, paths)
    else if ns.name ∈ seen then
      let (problems, paths) := checkNames parent seen rest
      (.duplicate ns.name parent :: problems, paths)
    else
      let path := Path.join parent ns.name
      let (below, pathsBelow) := checkNamesBelow path ns
      let (problems, paths) := checkNames parent (ns.name :: seen) rest
      (below ++ problems, path :: (pathsBelow ++ paths))

/-- The same for what lies below the namespace at `path`. -/
def checkNamesBelow (path : Bytes) : Namespace → List Problem × List Bytes
  | ⟨_, _, _, children⟩ => checkNames path [] children

end

/-- Does a base name no declared path? An empty one names nothing. -/
def isUnknown (declared : List Bytes) (base : Bytes) : Bool :=
  !base.isEmpty && !declared.contains base

/-- The bases that name no declared path, in walk order. -/
def checkBases (m : Manifest) (declared : List Bytes) : List Problem :=
  let root := if isUnknown declared m.base then [Problem.unknownRootBase m.base] else []
  root ++ m.walk.filterMap fun (path, ns) =>
    if isUnknown declared ns.base then some (.unknownBase ns.base path) else none

/-- Everything that is wrong with a manifest. Without a name nothing else
is looked at. -/
def problems (m : Manifest) : List Problem :=
  if m.name = [] then [.nameRequired]
  else
    let (names, declared) := checkNames [] [] m.namespaces
    names ++ checkBases m declared

/-- Is nothing wrong with the manifest? -/
def isValid (m : Manifest) : Bool := m.problems.isEmpty

/-! ### Merging -/

/-- The overlay's text where it has one. -/
def overlay (under upper : Bytes) : Bytes := if upper = [] then under else upper

/-- Changes the first namespace called `name`, or appends `fresh` when
there is none. -/
def upsert (name : Bytes) (change : Namespace → Namespace) (fresh : Namespace) :
    List Namespace → List Namespace
  | [] => [fresh]
  | ns :: rest => if ns.name = name then change ns :: rest else ns :: upsert name change fresh rest

/-- Lays namespaces over namespaces: one that is already there by name
takes over the class and base given and merges its children, any other is
appended. -/
def mergeNamespaces (under : List Namespace) : List Namespace → List Namespace
  | [] => under
  | ⟨name, className, base, children⟩ :: rest =>
    let change (old : Namespace) : Namespace :=
      { old with
        className := overlay old.className className
        base := overlay old.base base
        children := mergeNamespaces old.children children }
    mergeNamespaces (upsert name change ⟨name, className, base, children⟩ under) rest

/-- The entries of `under`, then those of `upper` not there yet, each
once. -/
def mergeMime (under upper : List Bytes) : List Bytes :=
  upper.foldl (fun acc t => if acc.contains t then acc else acc ++ [t]) under

/-- Lays `upper` over `under`. -/
def merge (under upper : Manifest) : Manifest where
  name := overlay under.name upper.name
  description := overlay under.description upper.description
  mime := mergeMime under.mime upper.mime
  className := overlay under.className upper.className
  base := overlay under.base upper.base
  namespaces := mergeNamespaces under.namespaces upper.namespaces

/-- Lays manifests over each other, starting from an empty one. -/
def mergeAll (ms : List Manifest) : Manifest := ms.foldl merge {}

/-- The manifest of the plugin that comes with the program. It is used when no
other is given. -/
def builtin : Manifest where
  name := .ofString "Hello World"
  description := .ofString "Hello World Plugin"
  mime := [.ofString "application/HelloWorld::Hello World Test"]
  className := .ofString "Plugin"
  base := .ofString "object"
  namespaces :=
    [ { name := .ofString "object", className := .ofString "Object" },
      { name := .ofString "utils", className := .ofString "Utils", base := .ofString "object" },
      { name := .ofString "arrays", className := .ofString "Arrays", base := .ofString "object" },
      { name := .ofString "counter", className := .ofString "CounterFactory",
        base := .ofString "object" } ]

end Manifest

end ObjectBridge

import ObjectBridge.Graph.Walk
import ObjectBridge.Manifest.Basic

/-!
# `ObjectBridge.Graph.Assemble`: from a manifest to a graph

Namespaces become nodes first, so that a base may name any of them; then
bases are set; and last it is checked that every base chain ends. Each of
the first two steps reports everything it could not do.
-/

set_option autoImplicit false

namespace ObjectBridge

/-- What can go wrong at one namespace. -/
inductive AssemblyFault
  | unknownClass (name path : Bytes)
  | noParent (path : Bytes)
  | unknownBase (base path : Bytes)
  deriving DecidableEq, Repr

/-- The text of the fault. -/
def AssemblyFault.message : AssemblyFault → String
  | .unknownClass name path =>
    "unknown class " ++ Quoted.quoteBytes name ++ " at " ++ Quoted.quoteBytes (Path.display path)
  | .noParent path => "namespace " ++ Quoted.quoteBytes path ++ " has no parent"
  | .unknownBase base path =>
    "unknown base " ++ Quoted.quoteBytes base ++ " at " ++ Quoted.quoteBytes (Path.display path)

/-- Why no graph was built. -/
inductive AssemblyError
  | invalid (problems : List Manifest.Problem)
  | faults (faults : List AssemblyFault)
  | cyclic (path : Bytes)
  deriving DecidableEq, Repr

/-- The message about a chain of bases that does not end. -/
def cyclicMessage (path : Bytes) : String :=
  "cyclic base chain: reached from " ++ Quoted.quoteBytes (Path.display path)

/-- The text of the error. -/
def AssemblyError.message : AssemblyError → String
  | .invalid problems => "invalid manifest: " ++ Manifest.Problem.messages problems
  | .faults fs => "\n".intercalate (fs.map AssemblyFault.message)
  | .cyclic path => cyclicMessage path

namespace Graph

variable {β : Type}

/-- The class a namespace asks for; the empty name asks for none. -/
def classFor (r : Registry β) (name path : Bytes) : Except AssemblyFault (Option (Class β)) :=
  if name = [] then .ok none
  else
    match r.find? name with
    | some c => .ok (some c)
    | none => .error (.unknownClass name path)

/-- Adds the node of a namespace below its parent. -/
def addNamespace (r : Registry β) (root : NodeId) (g : Graph β) (path : Bytes) (ns : Namespace) :
    Except AssemblyFault (Graph β) :=
  match g.lookup? root (Path.parent path) with
  | none => .error (.noParent path)
  | some parent =>
    match classFor r ns.className path with
    | .error e => .error e
    | .ok cls =>
      let (g, n) := g.addNode cls
      .ok (g.addChild parent ns.name n)

/-- Adds namespaces in order, collecting what went wrong. -/
def addNamespaces (r : Registry β) (root : NodeId) (g : Graph β) :
    List (Bytes × Namespace) → Graph β × List AssemblyFault
  | [] => (g, [])
  | (path, ns) :: rest =>
    match addNamespace r root g path ns with
    | .ok g' => addNamespaces r root g' rest
    | .error e =>
      let (g', faults) := addNamespaces r root g rest
      (g', e :: faults)

/-- Sets the base of the node at a path; the empty base asks for none. -/
def setBaseAt (root : NodeId) (g : Graph β) (path base : Bytes) : Except AssemblyFault (Graph β) :=
  if base = [] then .ok g
  else
    match g.lookup? root base, g.lookup? root path with
    | some b, some n => .ok (g.setBase n (some b))
    | _, _ => .error (.unknownBase base path)

/-- Sets bases in order, collecting what went wrong. -/
def setBases (root : NodeId) (g : Graph β) : List (Bytes × Bytes) → Graph β × List AssemblyFault
  | [] => (g, [])
  | (path, base) :: rest =>
    match setBaseAt root g path base with
    | .ok g' => setBases root g' rest
    | .error e =>
      let (g', faults) := setBases root g rest
      (g', e :: faults)

/-- Adds the graph of a manifest and gives its root. -/
def assemble (r : Registry β) (m : Manifest) (g : Graph β) :
    Except AssemblyError (Graph β × NodeId) :=
  if ¬ m.isValid then .error (.invalid m.problems)
  else
    match classFor r m.className [] with
    | .error e => .error (.faults [e])
    | .ok cls =>
      let (g, root) := g.addNode cls
      let (g, faults) := addNamespaces r root g m.walk
      if faults ≠ [] then .error (.faults faults)
      else
        let (g, faults) := setBases root g (([], m.base) :: m.walk.map fun (path, ns) =>
          (path, ns.base))
        if faults ≠ [] then .error (.faults faults)
        else
          match g.cyclicPath? root with
          | some path => .error (.cyclic path)
          | none => .ok (g, root)

end Graph

end ObjectBridge

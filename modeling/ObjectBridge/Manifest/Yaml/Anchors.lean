import ObjectBridge.Manifest.Basic
import ObjectBridge.Manifest.Yaml.Node

/-!
# `ObjectBridge.Manifest.Yaml.Anchors`: what nodes stand for

An anchor names a node, and an alias stands for the node that was named
last. Within its own node an alias stands for nothing.

`value` gives the value of a node, and `keyed` the nodes of a mapping by
key. A mapping may take over the entries of another one, but must not
have any of them already.
-/

set_option autoImplicit false

namespace ObjectBridge.Manifest.Yaml

/-- What became of a node with an anchor. -/
inductive Held
  | value (v : Value)
  | texts (l : List Bytes)
  | namespace_ (ns : Namespace)
  | namespaces (l : List Namespace)
  | manifest
  deriving Inhabited

/-- The anchors known so far, latest first. -/
structure Anchors where
  /-- The nodes; a node is missing while its value is worked out. -/
  nodes : List (String × Option Node) := []
  held : List (String × Held) := []

/-- Working out values may fail. -/
abbrev Meaning := StateT Anchors Option

/-- There is no meaning. -/
def fail {α : Type} : Meaning α := fun _ => none

/-- Notes what the node of an anchor is. -/
def Anchors.setNode (name : String) (n : Option Node) (a : Anchors) : Anchors :=
  { a with nodes := (name, n) :: a.nodes }

/-- Notes what an anchor holds. -/
def Anchors.hold (name : String) (h : Held) (a : Anchors) : Anchors :=
  { a with held := (name, h) :: a.held }

/-- The node that an anchor names. -/
def Anchors.node? (a : Anchors) (name : String) : Option Node := (a.nodes.lookup name).join

/-- Does a key take over the entries of its value? -/
def Node.isMerge : Node → Bool
  | .merge => true
  | .tagged _ _ n => n.isMerge
  | .anchor _ n => n.isMerge
  | _ => false

/-- The entries of a mapping. With `several` they may be spread over a
list. -/
def entriesOf (fuel : Nat) (several : Bool) (n : Node) : Meaning (List (Node × Node)) :=
  match fuel with
  | 0 => fail
  | fuel + 1 =>
    match n with
    | .map es => return es
    | .anchor name n => do
      modify (Anchors.setNode name (some n))
      entriesOf fuel several n
    | .reference name => do
      match (← get).node? name with
      | some n => entriesOf fuel several n
      | none => fail
    | .list items =>
      if several then do return (← items.mapM (entriesOf fuel false)).flatten else fail
    | _ => fail

/-- The value of a node. `inside` holds the anchors it belongs to. -/
def value (fuel : Nat) (inside : List String) (n : Node) : Meaning Value :=
  match fuel with
  | 0 => fail
  | fuel + 1 =>
    match n with
    | .scalar v => return v
    | .merge | .directive => return .null
    | .tagged tag loose n =>
      if loose then do return (← value fuel inside n).asString
      else
        match KnownTag.ofName? tag with
        | some .timestamp => return .moment
        | some .null => return .null
        | some .integer => do return (← value fuel inside n).asInteger
        | some .float => do return (← value fuel inside n).asFloat
        | some .string => do return (← value fuel inside n).asString
        | some .boolean => do
          match (← value fuel inside n).asBool? with
          | some v => return v
          | none => fail
        | some .binary => do
          match (← value fuel inside n).asBytes? with
          | some v => return v
          | none => fail
        | _ => value fuel inside n
    | .anchor name n => do
      modify (Anchors.setNode name none)
      let v ← value fuel (name :: inside) n
      modify fun a => (a.setNode name (some n)).hold name (.value v)
      return v
    | .reference name =>
      if name ∈ inside then return .null
      else do
        match (← get).held.lookup name with
        | some (.value v) => return v
        | some _ => return .map []
        | none => fail
    | .list items => do return .list (← items.mapM (value fuel inside))
    | .map es => do
      let add (before : List (String × Value)) (e : Node × Node) :
          Meaning (List (String × Value)) := do
        if e.1.isMerge then
          match ← value fuel inside (.map (← entriesOf fuel true e.2)) with
          | .map more => return more.foldl (fun b (k, v) => Value.insert k v b) before
          | _ => fail
        else
          let text := match ← value fuel inside e.1 with
            | .null => "null"
            | v => v.display
          let v ← value fuel inside e.2
          return Value.insert text v before
      return .map (← es.foldlM add [])

/-- The nodes of a mapping by key, unless it has a key that is no text. -/
def keyed (fuel : Nat) (n : Node) : Meaning (Option (List (String × Node))) :=
  match fuel with
  | 0 => fail
  | fuel + 1 => do
    let add (before : Option (List (String × Node))) (e : Node × Node) :
        Meaning (Option (List (String × Node))) := do
      match before with
      | none => return none
      | some before =>
        let isThere (key : String) : Bool := before.any (·.1 = key)
        if e.1.isMerge then
          let more := (← keyed fuel e.2).getD []
          if more.any fun m => isThere m.1 then fail else return some (before ++ more)
        else
          match ← value fuel [] e.1 with
          | .text key => if isThere key then fail else return some (before ++ [(key, e.2)])
          | _ => return none
    (← entriesOf fuel false n).foldlM add (some [])

end ObjectBridge.Manifest.Yaml

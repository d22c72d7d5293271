import ObjectBridge.Manifest.Refusal
import ObjectBridge.Manifest.Yaml.Anchors
import ObjectBridge.Manifest.Yaml.Tokens

/-!
# `ObjectBridge.Manifest.Yaml`: manifests in YAML

A text is cut into tokens, tokens are put together to phrases, nodes are
read from phrases, and a manifest is taken from the first document that
stands for anything. All documents must stand for something sensible
before that.

Fields are filled one after the other in their own order and not in that
of the document. An alias in a field stands for what its anchor has become
when it is of the right kind, else for its node. What goes wrong with one
field does not keep the others from being filled, so that a misfit counts
wherever it is.

What an alias stands for is a value of its own. It has nothing in common with
its anchor once it is read, so a manifest may be laid over one of the two
without a change to the other.
-/

set_option autoImplicit false

namespace ObjectBridge.Manifest

namespace Yaml

/-- Filling fields fails with a misfit, or delivers nothing. -/
abbrev Filling := StateT Anchors (Except Misfit)

/-- Works out what nodes stand for, while fields are filled. -/
def meaning {α : Type} (m : Meaning α) : Filling (Option α) := fun a =>
  match m a with
  | some (x, a) => .ok (some x, a)
  | none => .ok (none, a)

/-- How far collections may be nested. -/
def depthBound : Nat := 1000

/-- The node for a field, or what it has become already if that is of the
right kind. -/
def resolve {α : Type} (fits : Held → Option α) (n : Node) : Filling (α ⊕ Node) := do
  match n with
  | .reference name =>
    let a ← get
    match (a.held.lookup name).bind fits with
    | some x => return .inl x
    | none => return .inr ((a.node? name).getD n)
  | n => return .inr n

/-- Notes what a node with an anchor becomes, unless something has become
of that anchor before. Tells whether it was noted. -/
def claim (n : Node) (h : Held) : Filling Bool := do
  match n with
  | .anchor name _ =>
    if ((← get).held.lookup name).isSome then return false
    else
      modify (Anchors.hold name h)
      return true
  | _ => return false

/-- Notes what a node has become, if it was noted before. -/
def update (claimed : Bool) (n : Node) (h : Held) : Filling Unit := do
  match n with
  | .anchor name _ => if claimed then modify (Anchors.hold name h)
  | _ => return ()

/-- Fills a text. -/
def text (n : Node) : Filling (Option Bytes) := do
  let fits : Held → Option Bytes
    | .value (.text s) => some (.ofString s)
    | _ => none
  match ← resolve fits n with
  | .inl b => return some b
  | .inr (.scalar .null) => return some []
  | .inr n =>
    let _ ← claim n (.value (.text ""))
    match (← meaning (value depthBound [] n)).bind Value.asText? with
    | some b => return some (b.getD [])
    | none => return none

/-- The items of a list with tags. Without a list there is nothing to
look at. -/
def taggedItems : Node → Except Misfit (List Node)
  | .list items => .ok items
  | .tagged _ _ n => taggedItems n
  | _ => .error .noList

/-- The items of a list. -/
def itemsOf (n : Node) : Except Misfit (Option (List Node)) :=
  match n with
  | .list items | .anchor _ (.list items) => .ok (some items)
  | .anchor _ (.scalar .null) => .ok (some [])
  | .tagged _ _ n | .anchor _ (.tagged _ _ n) => (taggedItems n).map some
  | _ => .ok none

/-- Fills items one after the other. -/
def fillAll {α : Type} (fill : Node → Filling (Option α)) : List Node → Filling (Option (List α))
  | [] => return some []
  | n :: rest => do
    let x ← fill n
    let xs ← fillAll fill rest
    return x.bind fun x => xs.map (x :: ·)

/-- Fills a list. -/
def list {α : Type} (ofHeld : Held → Option (List α)) (toHeld : List α → Held)
    (fill : Node → Filling (Option α)) (n : Node) : Filling (Option (List α)) := do
  match ← resolve ofHeld n with
  | .inl l => return some l
  | .inr (.scalar .null) => return some []
  | .inr n =>
    let claimed ← claim n (toHeld [])
    match ← itemsOf n with
    | none => return none
    | some items =>
      let l ← fillAll fill items
      update claimed n (toHeld (l.getD []))
      return l

/-- Fills texts. -/
def texts (n : Node) : Filling (Option (List Bytes)) :=
  let ofHeld : Held → Option (List Bytes)
    | .texts l => some l
    | _ => none
  list ofHeld .texts text n

/-- Fills a field, if there is a node for it. The outcome tells whether
nothing went wrong, too. -/
def field {α β : Type} (fields : List (String × Node)) (name : String)
    (fill : Node → Filling (Option α)) (set : α → β → β)
    (before : β × Bool) : Filling (β × Bool) := do
  match fields.lookup name with
  | none => return before
  | some n =>
    match ← fill n with
    | some x => return (set x before.1, before.2)
    | none => return (before.1, false)

/-- Fills a namespace. -/
def namespace_ (fuel : Nat) (n : Node) : Filling (Option Namespace) := do
  match fuel with
  | 0 => return none
  | fuel + 1 =>
    let ofHeld : Held → Option Namespace
      | .namespace_ ns => some ns
      | _ => none
    let ofHeldList : Held → Option (List Namespace)
      | .namespaces l => some l
      | _ => none
    match ← resolve ofHeld n with
    | .inl ns => return some ns
    | .inr (.scalar .null) => return some {}
    | .inr n =>
      let claimed ← claim n (.namespace_ {})
      match ← meaning (keyed depthBound n) with
      | none => return none
      | some none => return some {}
      | some (some fields) =>
        let note (x : Namespace × Bool) : Filling (Namespace × Bool) := do
          update claimed n (.namespace_ x.1)
          return x
        let x ← note (← field fields "name" text (fun t ns => { ns with name := t }) ({}, true))
        let x ← note (← field fields "class" text (fun t ns => { ns with className := t }) x)
        let x ← note (← field fields "base" text (fun t ns => { ns with base := t }) x)
        let (ns, ok) ← note (← field fields "namespaces"
          (list ofHeldList .namespaces (namespace_ fuel)) (fun l ns => { ns with children := l }) x)
        let known := fields.all fun f => f.1 ∈ ["name", "class", "base", "namespaces"]
        return if ok && known then some ns else none

/-- Fills a manifest. -/
def manifest (n : Node) : Filling (Option Manifest) := do
  let ofHeldList : Held → Option (List Namespace)
    | .namespaces l => some l
    | _ => none
  let _ ← claim n .manifest
  match ← meaning (keyed depthBound n) with
  | none => return none
  | some none => return some {}
  | some (some fields) =>
    let x ← field fields "name" text (fun t m => { m with name := t }) (({} : Manifest), true)
    let x ← field fields "description" text (fun t m => { m with description := t }) x
    let x ← field fields "mime" texts (fun l m => { m with mime := l }) x
    let x ← field fields "class" text (fun t m => { m with className := t }) x
    let x ← field fields "base" text (fun t m => { m with base := t }) x
    let (m, ok) ← field fields "namespaces" (list ofHeldList .namespaces (namespace_ depthBound))
      (fun l m => { m with namespaces := l }) x
    let known := fields.all fun f =>
      f.1 ∈ ["name", "description", "mime", "class", "base", "namespaces"]
    return if ok && known then some m else none

/-- The documents that stand for something. Null stands for itself. -/
def meaningful : List (Option Node) → Meaning (List Node)
  | [] => return []
  | none :: rest => meaningful rest
  | some n :: rest => do
    let counts := match n, ← value depthBound [] n with
      | .scalar .null, _ => true
      | _, .null => false
      | _, _ => true
    let others ← meaningful rest
    return if counts then n :: others else others

/-- The nodes of all documents of a text. -/
def read? (text : String) : Option (List (Option Node)) := do
  nodes? {} (← documents? (← tokens? text.toList))

end Yaml

/-- Reads a manifest written in YAML. -/
def ofYaml (text : String) : Except Refusal Manifest :=
  match (Yaml.read? text).bind fun ns => (Yaml.meaningful ns).run {} with
  | none => .error .malformed
  | some ([], _) => .ok {}
  | some (n :: _, anchors) =>
    match (Yaml.manifest n).run { anchors with held := [] } with
    | .error m => .error (.misfit m)
    | .ok (none, _) => .error .malformed
    | .ok (some m, _) => .ok m

end ObjectBridge.Manifest

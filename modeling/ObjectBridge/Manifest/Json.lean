import ObjectBridge.Data.Json.Document
import ObjectBridge.Manifest.Basic
import ObjectBridge.Text.Quoted

/-!
# `ObjectBridge.Manifest.Json`: manifests in JSON

A key may be repeated, also with letters of another case, and each value
is read into what the ones before it have left. A text replaces another,
and null leaves it alone. The members of a list are read into those that
stood in their places before. When a list gets shorter the others are out
of sight but not gone: they are there again when it grows. Only an empty
list, or null, starts anew.
-/

set_option autoImplicit false

namespace ObjectBridge.Manifest

open Json (Document)

/-- A list that is being read: the first `count` items count. -/
structure Shelf (α : Type) where
  items : List α := []
  count : Nat := 0

/-- A namespace that is being read. -/
structure Draft where
  name : Bytes := []
  className : Bytes := []
  base : Bytes := []
  children : List Draft := []
  /-- The number of children that count. -/
  count : Nat := 0

namespace Draft

mutual

/-- The namespace that was read. -/
def namespace_ : Draft → Namespace
  | ⟨name, className, base, children, count⟩ => ⟨name, className, base, namespaces count children⟩

/-- The first namespaces of those that were read. -/
def namespaces : (count : Nat) → List Draft → List Namespace
  | 0, _ => []
  | _, [] => []
  | n + 1, d :: rest => d.namespace_ :: namespaces n rest

end

/-- The name of the field that a key stands for. -/
def fieldName (key : Bytes) : String := Letter.lowerString key.toStringLossy

/-- Reads a text. -/
def text? (before : Bytes) : Document → Option Bytes
  | .null => some before
  | .string text => some text
  | _ => none

/-- Reads texts into those that are there. -/
def textItems? : (before : List Bytes) → List Document → Option (List Bytes)
  | before, [] => some before
  | before, d :: rest => do
    let t ← text? (before.headD []) d
    let ts ← textItems? before.tail rest
    return t :: ts

/-- Reads a list of texts. -/
def texts? (before : Shelf Bytes) : Document → Option (Shelf Bytes)
  | .null => some {}
  | .array [] => some {}
  | .array ds => (textItems? before.items ds).map fun items => { items, count := ds.length }
  | _ => none

mutual

/-- Reads a namespace. -/
def read? (before : Draft) : Document → Option Draft
  | .null => some before
  | .object members => readMembers? before members
  | _ => none

/-- Reads the members of a namespace one after the other. -/
def readMembers? (d : Draft) : List (Bytes × Document) → Option Draft
  | [] => some d
  | (key, value) :: rest => do
    let next ← match fieldName key with
      | "name" => (text? d.name value).map fun t => { d with name := t }
      | "class" => (text? d.className value).map fun t => { d with className := t }
      | "base" => (text? d.base value).map fun t => { d with base := t }
      | "namespaces" =>
        (readList? { items := d.children, count := d.count } value).map fun s =>
          { d with children := s.items, count := s.count }
      | _ => none
    readMembers? next rest

/-- Reads a list of namespaces. -/
def readList? (before : Shelf Draft) : Document → Option (Shelf Draft)
  | .null => some {}
  | .array [] => some {}
  | .array ds => (readItems? before.items ds).map fun items => { items, count := ds.length }
  | _ => none

/-- Reads namespaces into those that are there. -/
def readItems? : (before : List Draft) → List Document → Option (List Draft)
  | before, [] => some before
  | before, v :: rest => do
    let d ← read? (before.headD {}) v
    let ds ← readItems? before.tail rest
    return d :: ds

end

end Draft

/-- A manifest that is being read. -/
structure Outline where
  name : Bytes := []
  description : Bytes := []
  mime : Shelf Bytes := {}
  className : Bytes := []
  base : Bytes := []
  namespaces : Shelf Draft := {}

/-- The manifest that was read. -/
def Outline.manifest (o : Outline) : Manifest where
  name := o.name
  description := o.description
  mime := o.mime.items.take o.mime.count
  className := o.className
  base := o.base
  namespaces := Draft.namespaces o.namespaces.count o.namespaces.items

/-- Reads a member of a manifest. -/
def Outline.readMember? (o : Outline) (key : Bytes) (value : Document) : Option Outline :=
  match Draft.fieldName key with
  | "name" => (Draft.text? o.name value).map fun t => { o with name := t }
  | "description" => (Draft.text? o.description value).map fun t => { o with description := t }
  | "mime" => (Draft.texts? o.mime value).map fun s => { o with mime := s }
  | "class" => (Draft.text? o.className value).map fun t => { o with className := t }
  | "base" => (Draft.text? o.base value).map fun t => { o with base := t }
  | "namespaces" => (Draft.readList? o.namespaces value).map fun s => { o with namespaces := s }
  | _ => none

/-- Reads a manifest written in JSON. Null is the empty one. -/
def ofJson? (text : Bytes) : Option Manifest :=
  match Document.read? true text with
  | some .null => some {}
  | some (.object members) =>
    (members.foldlM (fun o (key, value) => Outline.readMember? o key value) {}).map Outline.manifest
  | _ => none

end ObjectBridge.Manifest

import ObjectBridge.Manifest.Toml.Expression

/-!
# `ObjectBridge.Manifest.Toml.Declared`: what a document has declared

Nothing may be declared twice, and what was given as a value cannot be
opened as a table. `Declared` keeps the names a document has used so far,
and its operations fail where a name must not be used again. A table that
is only passed through, on the way to another, may still be opened later,
once. A table that dotted keys have made is complete when the table it
stands in is left.

The elements of a list of tables have their names one after the other:
those of the element before are forgotten.
-/

set_option autoImplicit false

namespace ObjectBridge.Manifest.Toml

/-- What a name was used for. -/
inductive EntryKind
  | table
  | tables
  | value
  deriving DecidableEq, Repr

/-- A name that was used. -/
structure Entry where
  name : String
  kind : EntryKind
  /-- Must it not be opened again? -/
  explicit : Bool
  /-- Was it made by a key? -/
  byKey : Bool
  children : List Entry := []

/-- The names used so far, and the table that assignments belong to. -/
structure Declared where
  entries : List Entry := []
  current : Key := []

namespace Declared

/-- Changes the entry of a name, or adds one. -/
def alter (name : String) (change : Option Entry → Option Entry) : List Entry → Option (List Entry)
  | [] => (change none).map fun e => [e]
  | e :: rest =>
    if e.name = name then (change (some e)).map (· :: rest)
    else (alter name change rest).map (e :: ·)

mutual

/-- Completes the tables that keys have made. -/
def completed : Entry → Entry
  | ⟨name, kind, explicit, byKey, children⟩ =>
  ⟨name, kind, explicit || byKey, false, completedAll children⟩

/-- The entries, each of them complete. -/
def completedAll : List Entry → List Entry
  | [] => []
  | e :: rest => completed e :: completedAll rest

end

/-- Changes what stands in a table that is there. -/
def inside (change : List Entry → Option (List Entry)) : Key → List Entry → Option (List Entry)
  | [], entries => change entries
  | name :: path, entries =>
    alter name (fun
      | some e => (inside change path e.children).map fun children => { e with children }
      | none => none) entries

/-- Opens what the last part of a key names, passing through the tables
before it. -/
def opened (change : Option Entry → Option Entry) : Key → List Entry → Option (List Entry)
  | [], entries => some entries
  | [name], entries => alter name change entries
  | name :: path, entries =>
    alter name (fun
      | none =>
        (opened change path []).map fun children =>
          { name, kind := .table, explicit := false, byKey := false, children }
      | some e =>
        if e.kind = .value then none else (opened change path e.children).map fun children =>
          { e with children })
      entries

/-- Leaves the table that assignments belonged to. -/
def leave (d : Declared) : Declared :=
  { d with entries := (inside (fun l => some (completedAll l)) d.current d.entries).getD d.entries }

/-- Opens a table. -/
def table? (d : Declared) (key : Key) : Option Declared := do
  let d := d.leave
  let entries ← opened (fun
    | none =>
      some { name := key.getLast?.getD "", kind := .table, explicit := true, byKey := false }
    | some e => if e.kind ≠ .table || e.explicit then none else some { e with explicit := true })
      key d.entries
  return { entries, current := key }

/-- Is something declared under a key? -/
def has : Key → List Entry → Bool
  | [], _ => true
  | name :: path, entries =>
    match entries.find? (·.name = name) with
    | some e => has path e.children
    | none => false

/-- Opens a further element of a list of tables, and says whether it is
the first. -/
def element? (d : Declared) (key : Key) : Option (Declared × Bool) := do
  let d := d.leave
  let first := !has key d.entries
  let entries ← opened (fun
    | none =>
      some { name := key.getLast?.getD "", kind := .tables, explicit := true, byKey := false }
    | some e => if e.kind ≠ .tables then none else some { e with children := [] }) key d.entries
  return ({ entries, current := key }, first)

/-- Declares a dotted key. -/
def keyed : Key → List Entry → Option (List Entry)
  | [], entries => some entries
  | [name], entries =>
    alter name (fun
      | none => some { name, kind := .value, explicit := false, byKey := true }
      | some _ => none) entries
  | name :: path, entries =>
    alter name (fun
      | none =>
        (keyed path []).map fun children =>
          { name, kind := .table, explicit := false, byKey := true, children }
      | some e =>
        if e.kind ≠ .table || e.explicit then none
        else (keyed path e.children).map fun children => { e with children }) entries

mutual

/-- Does no table in braces use a name twice? -/
def fine : Value → Bool
  | .list items => allFine items
  | .table members => membersFine [] members
  | _ => true

/-- Is every one of the values fine? -/
def allFine : List Value → Bool
  | [] => true
  | v :: rest => fine v && allFine rest

/-- Does every member fit what is declared under its key? -/
def membersFine (entries : List Entry) : List (List String × Value) → Bool
  | [] => true
  | (key, v) :: rest =>
    match keyed key entries with
    | none => false
    | some entries => fine v && membersFine entries rest

end

/-- Declares the key of an assignment. -/
def assign? (d : Declared) (key : Key) (value : Value) : Option Declared := do
  let entries ← inside (keyed key) d.current d.entries
  if fine value then return { d with entries } else none

end Declared

end ObjectBridge.Manifest.Toml

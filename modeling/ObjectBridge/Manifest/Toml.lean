import ObjectBridge.Manifest.Basic
import ObjectBridge.Manifest.Toml.Declared
import ObjectBridge.Text.Quoted

/-!
# `ObjectBridge.Manifest.Toml`: manifests in TOML

Expressions are carried out one after the other, as soon as they are
read, so what is wrong first is what counts. A header says where the
assignments that follow it belong. One that names no field is passed over
with all that belongs to it, and the document is refused in the end.

Texts are the only scalars a manifest has a place for. A date or time has
no place anywhere, which is found out too late to be an ordinary error;
likewise a table below a text, and one below the last element of a list
without any (`Misfit`).
-/

set_option autoImplicit false

namespace ObjectBridge.Manifest

namespace Toml

/-! ### Dates and times -/

/-- The number of two or more digits. -/
def digits? (cs : List Char) : Option Nat :=
  if cs.all Char.isDigit then some (cs.foldl (fun n c => n * 10 + (c.toNat - 48)) 0) else none

/-- How many days a month has. -/
def daysIn (year month : Nat) : Nat :=
  if month = 2 then if year % 4 = 0 && (year % 100 ≠ 0 || year % 400 = 0) then 29 else 28
  else if month = 4 || month = 6 || month = 9 || month = 11 then 30
  else 31

/-- Is this a date? -/
def isDate (cs : List Char) : Bool :=
  cs.length = 10 && cs[4]? = some '-' && cs[7]? = some '-' &&
    match digits? (cs.take 4), digits? ((cs.drop 5).take 2), digits? (cs.drop 8) with
    | some year, some month, some day => 0 < month && month < 13 && 0 < day &&
      day ≤ daysIn year month
    | _, _, _ => false

/-- What follows a time, which may be in a leap second. -/
def afterTime? (cs : List Char) : Option (List Char) :=
  let part (n most : Nat) : Bool :=
    ((digits? ((cs.drop n).take 2)).map fun v => decide (v ≤ most)).getD false
  if 8 ≤ cs.length && part 0 23 && cs[2]? = some ':' && part 3 59 && cs[5]? = some ':' &&
    part 6 60 then
    match cs.drop 8 with
    | '.' :: rest =>
      let fraction := rest.takeWhile Char.isDigit
      if fraction = [] then none else some (rest.drop fraction.length)
    | rest => some rest
  else none

/-- What follows a date and a time. -/
def afterDateTime? (cs : List Char) : Option (List Char) :=
  let apart := cs[10]? = some 'T' || cs[10]? = some 't' || cs[10]? = some ' '
  if isDate (cs.take 10) && apart then afterTime? (cs.drop 11) else none

/-- Is this the distance from universal time? -/
def isZone (cs : List Char) : Bool :=
  cs = ['Z'] || cs = ['z'] ||
    (cs.length = 6 && (cs[0]? = some '+' || cs[0]? = some '-') && cs[3]? = some ':' &&
      match digits? ((cs.drop 1).take 2), digits? (cs.drop 4) with
      | some hours, some minutes => hours ≤ 23 && minutes ≤ 59
      | _, _ => false)

/-- Is this a date or time of the kind it looks like? -/
def isMoment (kind : MomentKind) (cs : List Char) : Bool :=
  match kind with
  | .date => isDate cs
  | .time => afterTime? cs = some []
  | .dateTime => afterDateTime? cs = some []
  | .instant => ((afterDateTime? cs).map isZone).getD false

/-! ### Values -/

/-- The outcome of storing something, and whether all fields were
known. -/
abbrev Stored (α : Type) := Except Refusal (α × Bool)

/-- Refuses a value that has no place where it is to be stored. -/
def refuse {α : Type} (target : Target) (v : Value) : Except Refusal α :=
  match v with
  | .moment kind cs => if isMoment kind cs then .error (.misfit (.moment kind target))
  else .error .malformed
  | _ => .error .malformed

/-- A value as a text. -/
def text (v : Value) : Except Refusal Bytes :=
  match v with
  | .text s => .ok (.ofString s)
  | v => refuse .text v

/-- A value as a list of texts. -/
def texts (v : Value) : Except Refusal (List Bytes) :=
  match v with
  | .list items => items.mapM text
  | v => refuse .texts v

/-- The name of the field that a part of a key stands for. -/
def fieldName (part : String) : String := Letter.lowerString part

mutual

/-- A value as a namespace. -/
def asNamespace : Value → Stored Namespace
  | .table members => storeMembers {} true members
  | .text s => refuse .namespace_ (.text s)
  | .number => refuse .namespace_ .number
  | .moment kind cs => refuse .namespace_ (.moment kind cs)
  | .list items => refuse .namespace_ (.list items)

/-- Stores the members of a table one after the other. -/
def storeMembers (ns : Namespace) (known : Bool) : List (List String × Value) → Stored Namespace
  | [] => .ok (ns, known)
  | (key, v) :: rest =>
    match storeField ns key v with
    | .error e => .error e
    | .ok (ns, k) => storeMembers ns (known && k) rest

/-- Stores a value in a field of a namespace. -/
def storeField (ns : Namespace) (key : List String) (v : Value) : Stored Namespace :=
  match key with
  | [] => .error .malformed
  | part :: rest =>
    let only (result : Stored Namespace) : Stored Namespace :=
      if rest = [] then result else .error .malformed
    match fieldName part with
    | "name" => only ((text v).map fun t => ({ ns with name := t }, true))
    | "class" => only ((text v).map fun t => ({ ns with className := t }, true))
    | "base" => only ((text v).map fun t => ({ ns with base := t }, true))
    | "namespaces" =>
      only ((asNamespaces v).map fun (l, known) => ({ ns with children := l }, known))
    | _ => .ok (ns, false)

/-- A value as a list of namespaces. -/
def asNamespaces : Value → Stored (List Namespace)
  | .list items => namespaceItems items
  | .text s => refuse .namespaces (.text s)
  | .number => refuse .namespaces .number
  | .moment kind cs => refuse .namespaces (.moment kind cs)
  | .table members => refuse .namespaces (.table members)

/-- Values as namespaces. -/
def namespaceItems : List Value → Stored (List Namespace)
  | [] => .ok ([], true)
  | v :: rest =>
    match asNamespace v with
    | .error e => .error e
    | .ok (ns, known) =>
      match namespaceItems rest with
      | .error e => .error e
      | .ok (others, k) => .ok (ns :: others, known && k)

end

/-- Stores a value in a field of a manifest. -/
def storeInManifest (m : Manifest) (key : Key) (v : Value) : Stored Manifest :=
  match key with
  | [] => .error .malformed
  | part :: rest =>
    let only (result : Stored Manifest) : Stored Manifest :=
      if rest = [] then result else .error .malformed
    match fieldName part with
    | "name" => only ((text v).map fun t => ({ m with name := t }, true))
    | "description" => only ((text v).map fun t => ({ m with description := t }, true))
    | "mime" => only ((texts v).map fun l => ({ m with mime := l }, true))
    | "class" => only ((text v).map fun t => ({ m with className := t }, true))
    | "base" => only ((text v).map fun t => ({ m with base := t }, true))
    | "namespaces" =>
      only ((asNamespaces v).map fun (l, known) => ({ m with namespaces := l }, known))
    | _ => .ok (m, false)

/-! ### Headers -/

/-- Where assignments belong. -/
inductive Place
  | root
  /-- A namespace, by the numbers that lead to it. -/
  | namespace_ (path : List Nat)
  /-- A text, in which nothing can be stored. -/
  | text
  /-- Something that is passed over. -/
  | nowhere
  deriving DecidableEq, Repr

/-- Changes the namespace that a number and further numbers lead to. -/
def modifyNamespace {ε : Type} (change : Namespace → Except ε Namespace) :
    (path : List Nat) → (i : Nat) → List Namespace → Except ε (List Namespace)
  | [], i, l =>
    match l[i]? with
    | none => .ok l
    | some ns => (change ns).map fun ns => l.set i ns
  | j :: rest, i, l =>
    match l[i]? with
    | none => .ok l
    | some ns =>
      (modifyNamespace change rest j ns.children).map fun children => l.set i { ns with children }

/-- The kinds of field, as far as headers care. -/
inductive FieldKind
  | text
  | texts
  | namespaces
  | unknown
  deriving DecidableEq, Repr

/-- The kind of a field; a manifest has more of them than a namespace. -/
def fieldKind (inManifest : Bool) (part : String) : FieldKind :=
  match fieldName part with
  | "name" | "class" | "base" => .text
  | "namespaces" => .namespaces
  | "description" => if inManifest then .text else .unknown
  | "mime" => if inManifest then .texts else .unknown
  | _ => .unknown

/-- Where a header below a text leads: nothing can stand there. -/
def belowText (rest : Key) : Except Refusal Place :=
  if rest = [] then .ok .text else .error (.misfit .tableInText)

/-- Where a header that opens a table leads, from a list of namespaces on.
It leads to the last one. -/
def tableIn : Key → (path : List Nat) → List Namespace → Except Refusal Place
  | [], path, _ => .ok (.namespace_ path)
  | part :: rest, path, children =>
    match fieldKind false part with
    | .text => belowText rest
    | .namespaces =>
      match children.getLast? with
      | none => .error .malformed
      | some ns => tableIn rest (path ++ [children.length - 1]) ns.children
    | _ => .ok .nowhere

/-- Where a header that opens a table leads. -/
def tableAt (m : Manifest) (key : Key) : Except Refusal Place :=
  match key with
  | [] => .error .malformed
  | part :: rest =>
    match fieldKind true part with
    | .text => belowText rest
    | .texts => if m.mime.isEmpty then .error .malformed else belowText rest
    | .namespaces => tableIn (part :: rest) [] m.namespaces
    | .unknown => .ok .nowhere

/-- Opens an element of a list of namespaces, below the one that `path`
leads to. With `first` the list starts anew. -/
def elementIn (first : Bool) :
    Key → (path : List Nat) → List Namespace → Except Refusal (Place × List Namespace)
  | [], _, _ => .error .malformed
  | part :: rest, path, list =>
    match fieldKind false part, rest with
    | .text, [] => .error .malformed
    | .text, _ :: _ => .error (.misfit .tableInText)
    | .namespaces, [] =>
      let list := if first then [] else list
      .ok (.namespace_ (path ++ [list.length]), list ++ [{}])
    | .namespaces, _ :: _ =>
      match list.getLast? with
      | none => .error (.misfit .inNone)
      | some ns =>
        match elementIn first rest (path ++ [list.length - 1]) ns.children with
        | .error e => .error e
        | .ok (place, children) => .ok (place, list.dropLast ++ [{ ns with children }])
    | _, _ => .ok (.nowhere, list)

/-- Opens an element of a list. -/
def elementAt (first : Bool) (m : Manifest) (key : Key) : Except Refusal (Place × Manifest) :=
  match key with
  | [] => .error .malformed
  | part :: rest =>
    match fieldKind true part, rest with
    | .text, [] => .error .malformed
    | .text, _ :: _ => .error (.misfit .tableInText)
    | .texts, [] => .ok (.text, { m with mime := (if first then [] else m.mime) ++ [[]] })
    | .texts, _ :: _ => .error (.misfit (if m.mime.isEmpty then .inNone else .tableInText))
    | .namespaces, rest => do
      let (place, l) ← elementIn first (part :: rest) [] m.namespaces
      return (place, { m with namespaces := l })
    | .unknown, _ => .ok (.nowhere, m)

/-! ### Documents -/

/-- A document that is being read. -/
structure State where
  manifest : Manifest := {}
  declared : Declared := {}
  place : Place := .root
  /-- Were all fields known so far? -/
  known : Bool := true

/-- Fails when something was declared twice. -/
def declare {α : Type} (d : Option α) : Except Refusal α :=
  match d with
  | some x => .ok x
  | none => .error .malformed

/-- Carries out an assignment. -/
def assign (st : State) (key : Key) (v : Value) : Except Refusal State := do
  if st.place = .nowhere then return st
  let declared ← declare (st.declared.assign? key v)
  let st := { st with declared }
  match st.place with
  | .root =>
    let (manifest, known) ← storeInManifest st.manifest key v
    return { st with manifest, known := st.known && known }
  | .namespace_ (i :: path) =>
    -- Storing does not depend on where the namespace stands.
    let known := match storeField {} key v with
      | .ok (_, known) => known
      | .error _ => true
    let namespaces ← modifyNamespace (fun ns => (storeField ns key v).map Prod.fst) path i
        st.manifest.namespaces
    return { st with manifest := { st.manifest with namespaces }, known := st.known && known }
  | _ => throw .malformed

/-- Carries out an expression. -/
def perform (st : State) : Expression → Except Refusal State
  | .assign key v => assign st key v
  | .table key => do
    let declared ← declare (st.declared.table? key)
    let place ← tableAt st.manifest key
    return { st with declared, place, known := st.known && place ≠ .nowhere }
  | .element key => do
    let (declared, first) ← declare (st.declared.element? key)
    let (place, manifest) ← elementAt first st.manifest key
    return { manifest, declared, place, known := st.known && place ≠ .nowhere }

/-- Reads expression after expression. -/
def document : (fuel : Nat) → State → List Char → Except Refusal State
  | 0, _, _ => .error .malformed
  | fuel + 1, st, cs =>
    match skipLines (cs.length + 1) cs with
    | none => .error .malformed
    | some [] => .ok st
    | some start =>
      match expression? start with
      | none => .error .malformed
      | some (e, after) =>
        match perform st e with
        | .error e => .error e
        | .ok st =>
          match after, newline? after with
          | [], _ => .ok st
          | _, some rest => document fuel st rest
          | _, none => .error .malformed

end Toml

/-- Reads a manifest written in TOML. Letter case does not matter in
keys. -/
def ofToml (text : String) : Except Refusal Manifest := do
  let cs := text.toList
  let st ← Toml.document (cs.length + 1) {} cs
  if st.known then return st.manifest else throw .malformed

end ObjectBridge.Manifest

import Mathlib
import ObjectBridge.Script.Realm

/-!
# `ObjectBridge.Proofs.Script.Relocation`: the same things elsewhere

What is allocated is named by the next number, so where an object comes to
stand depends on everything that was made before it. `Relocation` says where
the things of each kind stand instead, and `relocate` takes a thing there:
every number in it is replaced. No two things come to stand at one place, so
a property is found under the same key before and after
(`fieldOf?_relocate`), and stored where it would have been stored
(`having_relocate`).
-/

set_option autoImplicit false

namespace ObjectBridge

/-- Where the things of each kind stand instead. -/
structure Relocation where
  objects : Nat ↪ Nat
  scopes : Nat ↪ Nat
  /-- Symbols that programs made. -/
  symbols : Nat ↪ Nat
  realms : Nat ↪ Nat
  proxies : Nat ↪ Nat
  handles : Nat ↪ Nat
  nodes : Nat ↪ Nat
  /-- The storage of native code. -/
  cells : Nat ↪ Nat
  recorders : Nat ↪ Nat
  runtimes : Nat ↪ Nat
  instances : Nat ↪ Nat
  sessions : Nat ↪ Nat

/-- Things that may stand elsewhere. -/
class Relocatable (α : Type) where
  relocate : Relocation → α → α

variable (ρ : Relocation)

/-- The reference to an object that stands elsewhere. -/
def ObjectRef.relocate : ObjectRef → ObjectRef
  | .table i => .table i
  | .proxy i => .proxy (ρ.proxies i)
  | .handle i => .handle (ρ.handles i)

/-- Looking a value up before or after it is changed. -/
theorem lookup_map_snd {κ ι γ : Type} [BEq κ] (f : ι → γ) (k : κ) (xs : List (κ × ι)) :
    (xs.map fun e => (e.1, f e.2)).lookup k = (xs.lookup k).map f := by
  induction xs with
  | nil => rfl
  | cons e rest ih =>
    rw [List.map_cons, List.lookup_cons, List.lookup_cons, ih]
    split <;> rfl

namespace Script

/-! ### Relocating -/

/-- A symbol that a program made is another one; those the language knows stay. -/
def Symbol.relocate (s : Symbol) : Symbol :=
  if s.number < Symbol.firstFree then s
  else { s with number := Symbol.firstFree + ρ.symbols (s.number - Symbol.firstFree) }

/-- The key when its symbol is known elsewhere. -/
def Key.relocate : Key → Key
  | .symbol s => .symbol (s.relocate ρ)
  | key => key

/-- The value when what it refers to stands elsewhere. -/
def Value.relocate : Value → Value
  | .symbol s => .symbol (s.relocate ρ)
  | .object o => .object (ρ.objects o)
  | v => v

/-- The slot when its value or its functions stand elsewhere. -/
def Slot.relocate : Slot → Slot
  | .data v => .data (v.relocate ρ)
  | .accessor get set => .accessor (get.relocate ρ) (set.relocate ρ)

/-- The field when its slot refers elsewhere. -/
@[simps]
def Field.relocate (f : Field) : Field := { f with slot := f.slot.relocate ρ }

/-- What can be called when all that it keeps stands elsewhere. -/
def Callable.relocate : Callable → Callable
  | .closure f scope => .closure f (scope.map ρ.scopes)
  | .builtin b => .builtin b
  | .native o method => .native (o.relocate ρ) method
  | .bound f this args => .bound (ρ.objects f) (this.relocate ρ) (args.map (·.relocate ρ))

/-- The kind of an object that stands elsewhere. -/
def ObjKind.relocate : ObjKind → ObjKind
  | .function c => .function (c.relocate ρ)
  | .primitive v => .primitive (v.relocate ρ)
  | .native realm o => .native (ρ.realms realm) (o.relocate ρ)
  | kind => kind

/-- Relocates what stands under keys, and the keys. -/
def relocateFields (fields : Array (Key × Field)) : Array (Key × Field) :=
  fields.map fun e => (e.1.relocate ρ, e.2.relocate ρ)

/-- The object when all that it refers to stands elsewhere. -/
@[simps]
def Obj.relocate (x : Obj) : Obj where
  kind := x.kind.relocate ρ
  proto := x.proto.map ρ.objects
  fields := relocateFields ρ x.fields
  items := x.items.map (·.map (·.relocate ρ))
  extensible := x.extensible

/-- The scope when its values and its parent stand elsewhere. -/
@[simps]
def Scope.relocate (s : Scope) : Scope :=
  { s with values := s.values.map (·.relocate ρ), parent := s.parent.map ρ.scopes }

/-- The realm when its objects stand elsewhere. -/
@[simps]
def Realm.relocate (r : Realm) : Realm where
  number := ρ.realms r.number
  global := ρ.objects r.global
  objectProto := ρ.objects r.objectProto
  functionProto := ρ.objects r.functionProto
  arrayProto := ρ.objects r.arrayProto
  stringProto := ρ.objects r.stringProto
  numberProto := ρ.objects r.numberProto
  boolProto := ρ.objects r.boolProto
  symbolProto := ρ.objects r.symbolProto
  bigintProto := ρ.objects r.bigintProto
  errorProtos := r.errorProtos.map fun e => (e.1, ρ.objects e.2)

variable {ρ}

/-! ### Symbols and keys -/

/-- The language's own symbols stay. -/
@[simp] theorem Symbol.relocate_known {n : Nat} (hn : n < Symbol.firstFree) (name : String) :
    (Symbol.known n name).relocate ρ = .known n name := if_pos hn

/-- Only the number of a symbol is moved, not its text. -/
@[simp] theorem Symbol.relocate_free (n : Nat) (t : Option Text) :
    (Symbol.free n t).relocate ρ = .free (ρ.symbols n) t := by
  simp [relocate, free]

/-- A symbol has the same text elsewhere. -/
@[simp] theorem Symbol.description_relocate (s : Symbol) :
    (s.relocate ρ).description = s.description := by
  unfold relocate
  split <;> rfl

/-- Symbols that were told apart still are. -/
@[simp] theorem Symbol.number_relocate_inj {s t : Symbol} :
    (s.relocate ρ).number = (t.relocate ρ).number ↔ s.number = t.number := by
  unfold relocate
  split <;> split
  · rfl
  · dsimp only
    omega
  · dsimp only
    omega
  · dsimp only
    rw [Nat.add_left_cancel_iff, ρ.symbols.apply_eq_iff_eq]
    omega

/-- Different symbols stay different. -/
theorem Symbol.relocate_injective : Function.Injective (Symbol.relocate ρ) := by
  intro s t h
  have hnumber := number_relocate_inj.mp (congrArg Symbol.number h)
  have hdescription := congrArg Symbol.description h
  rw [description_relocate, description_relocate] at hdescription
  exact (Symbol.mk.injEq ..).mpr ⟨hnumber, hdescription⟩

/-- An index is the same key everywhere. -/
@[simp] theorem Key.relocate_index (i : Nat) : (Key.index i).relocate ρ = .index i := rfl

/-- A name is the same key everywhere. -/
@[simp] theorem Key.relocate_name (s : String) : (Key.name s).relocate ρ = .name s := rfl

/-- So is a name that is no text. -/
@[simp] theorem Key.relocate_halves (us : List UInt16) : (Key.halves us).relocate ρ = .halves us :=
  rfl

/-- A key that is a symbol moves with the symbol. -/
@[simp] theorem Key.relocate_symbol (s : Symbol) :
    (Key.symbol s).relocate ρ = .symbol (s.relocate ρ) := rfl

/-- Keys made of a text do not move. -/
@[simp] theorem Key.relocate_ofString (s : String) : (Key.ofString s).relocate ρ = .ofString s := by
  unfold ofString
  split <;> rfl

/-- Keys that are written in a program do not move. -/
@[simp] theorem Key.relocate_written (key : Key.Written) : key.val.relocate ρ = key.val := by
  obtain ⟨key, hkey⟩ := key
  cases key with
  | symbol s => cases hkey
  | _ => rfl

/-- Different keys stay different, so a lookup finds the same field. -/
theorem Key.relocate_injective : Function.Injective (Key.relocate ρ) := by
  intro a b h
  cases a <;> cases b <;> simp_all [Key.relocate, Symbol.relocate_injective.eq_iff]

/-- Comparing keys comes to the same elsewhere. -/
@[simp] theorem Key.relocate_inj {a b : Key} : a.relocate ρ = b.relocate ρ ↔ a = b :=
  relocate_injective.eq_iff

/-! ### Values -/

/-- Nothing stands nowhere. -/
@[simp] theorem Value.relocate_undefined : Value.undefined.relocate ρ = .undefined := rfl

/-- Neither does null. -/
@[simp] theorem Value.relocate_null : Value.null.relocate ρ = .null := rfl

/-- Truth values do not move. -/
@[simp] theorem Value.relocate_bool (b : Bool) : (Value.bool b).relocate ρ = .bool b := rfl

/-- Numbers do not move. -/
@[simp] theorem Value.relocate_number (n : Float) : (Value.number n).relocate ρ = .number n := rfl

/-- Big integers do not move. -/
@[simp] theorem Value.relocate_bigint (n : Int) : (Value.bigint n).relocate ρ = .bigint n := rfl

/-- Strings do not move. -/
@[simp] theorem Value.relocate_string (t : Text) : (Value.string t).relocate ρ = .string t := rfl

/-- A symbol is moved as one. -/
@[simp] theorem Value.relocate_symbol (s : Symbol) :
    (Value.symbol s).relocate ρ = .symbol (s.relocate ρ) := rfl

/-- An object stands under its new number. -/
@[simp] theorem Value.relocate_object (o : ObjId) :
    (Value.object o).relocate ρ = .object (ρ.objects o) := rfl

/-- A string made of a text does not move. -/
@[simp] theorem Value.relocate_ofString (s : String) : (Value.ofString s).relocate ρ =
    .ofString s := rfl

/-- A number made of a natural number does not move. -/
@[simp] theorem Value.relocate_ofNat (n : Nat) : (Value.ofNat n).relocate ρ = .ofNat n := rfl

/-- What a slot holds is moved. -/
@[simp] theorem Slot.relocate_data (v : Value) : (Slot.data v).relocate ρ = .data (v.relocate ρ) :=
  rfl

/-- The getter and the setter are moved, each by itself. -/
@[simp] theorem Slot.relocate_accessor (g s : Value) :
    (Slot.accessor g s).relocate ρ = .accessor (g.relocate ρ) (s.relocate ρ) := rfl

/-- What may be done with a field is the same elsewhere. -/
@[simp] theorem Field.relocate_mk (slot : Slot) (writable enumerable configurable : Bool) :
    (Field.mk slot writable enumerable configurable).relocate ρ =
      Field.mk (slot.relocate ρ) writable enumerable configurable := rfl

/-- A plain field of the moved value. -/
@[simp] theorem Field.relocate_plain (v : Value) : (Field.plain v).relocate ρ =
    .plain (v.relocate ρ) := rfl

/-- A hidden field of the moved value. -/
@[simp] theorem Field.relocate_hidden (v : Value) : (Field.hidden v).relocate ρ =
    .hidden (v.relocate ρ) := rfl

/-- A fixed field of the moved value. -/
@[simp] theorem Field.relocate_fixed (v : Value) : (Field.fixed v).relocate ρ =
    .fixed (v.relocate ρ) := rfl

/-- A field about a function, of the moved value. -/
@[simp] theorem Field.relocate_about (v : Value) : (Field.about v).relocate ρ =
    .about (v.relocate ρ) := rfl

/-! ### Properties -/

/-- No fields are no fields elsewhere. -/
@[simp] theorem relocateFields_empty : relocateFields ρ #[] = #[] := Array.map_empty

/-- There are as many fields. -/
@[simp] theorem size_relocateFields (fields : Array (Key × Field)) :
    (relocateFields ρ fields).size = fields.size :=
  Array.size_map

/-- The fields stay in their order. -/
@[simp] theorem getElem_relocateFields (fields : Array (Key × Field)) (i : Nat)
    (h : i < (relocateFields ρ fields).size) :
    (relocateFields ρ fields)[i] =
      have hi : i < fields.size := size_relocateFields fields ▸ h
      (fields[i].1.relocate ρ, fields[i].2.relocate ρ) :=
  Array.getElem_map ..

/-- A key is found in the same place. -/
theorem placeOfKey?_relocate (key : Key) (fields : Array (Key × Field)) (n : Nat) :
    placeOfKey? (key.relocate ρ) (relocateFields ρ fields) n = placeOfKey? key fields n := by
  induction n with
  | zero => rfl
  | succ n ih =>
    simp only [placeOfKey?, ih, size_relocateFields, getElem_relocateFields, Key.relocate_inj]

/-- The field of a key is the moved field. -/
theorem fieldOf?_relocate (key : Key) (fields : Array (Key × Field)) :
    fieldOf? (key.relocate ρ) (relocateFields ρ fields) =
      (fieldOf? key fields).map (·.relocate ρ) := by
  simp only [fieldOf?, placeOfKey?_relocate, size_relocateFields, getElem_relocateFields]
  cases placeOfKey? key fields fields.size with
  | none => rfl
  | some i => by_cases h : i < fields.size <;> simp only [h, ↓reduceDIte, Option.map_some,
    Option.map_none]

/-- Storing a field and moving it may be done in either order. -/
theorem upsertField_relocate (key : Key) (f : Field) (fields : Array (Key × Field)) :
    upsertField (key.relocate ρ) (f.relocate ρ) (relocateFields ρ fields) =
      relocateFields ρ (upsertField key f fields) := by
  simp only [upsertField, placeOfKey?_relocate, size_relocateFields]
  cases placeOfKey? key fields fields.size <;> simp [relocateFields]

namespace Heap

/-- So may storing an item. -/
theorem putItem_relocate (i : Nat) (f : Field) (items : Array (Option Field)) :
    putItem i (f.relocate ρ) (items.map (·.map (·.relocate ρ))) =
      (putItem i f items).map (·.map (·.relocate ρ)) := by
  unfold putItem
  rw [Array.size_map]
  split <;> simp

/-! ### Storing -/

/-- How much work it is to store a property. -/
def weight (key : Key) (f : Field) : Nat :=
  (match f.slot with
    | .data (.string t) => 1 + t.size / 4096
    | .data _ => 1
    | .accessor _ _ => 0) +
  (match key with
    | .index _ => 1
    | _ => 0)

/-- An object with a property that is stored in it. -/
def having (x : Obj) (key : Key) (f : Field) : Obj :=
  match x.kind, key with
  | .array length resizable, .index i =>
    let x := { x with kind := .array (max length (i + 1)) resizable }
    if (i < itemBound || i ≤ x.items.size) && (fieldOf? key x.fields).isNone then
      { x with items := putItem i f x.items }
    else { x with fields := upsertField key f x.fields }
  | _, _ => { x with fields := upsertField key f x.fields }

/-- Storing a property changes one object. -/
theorem put_eq (h : Heap) (o : ObjId) (key : Key) (f : Field) :
    h.put o key f = (h.charge (weight key f)).modifyObj o (having · key f) := by
  obtain ⟨slot, writable, enumerable, configurable⟩ := f
  cases slot with
  | accessor g s => cases key <;> rfl
  | data v => cases v <;> cases key <;> rfl

/-- A field costs the same elsewhere. -/
theorem weight_relocate (key : Key) (f : Field) :
    weight (key.relocate ρ) (f.relocate ρ) = weight key f := by
  obtain ⟨slot, writable, enumerable, configurable⟩ := f
  cases slot with
  | accessor g s => cases key <;> rfl
  | data v => cases key <;> cases v <;> rfl

/-- An object with one more field, moved as a whole or part by part. -/
theorem having_relocate (x : Obj) (key : Key) (f : Field) :
    having (x.relocate ρ) (key.relocate ρ) (f.relocate ρ) = (having x key f).relocate ρ := by
  obtain ⟨kind, proto, fields, items, extensible⟩ := x
  cases kind with
  | array length resizable =>
    cases key with
    | index i =>
      have hfield : fieldOf? (.index i) (relocateFields ρ fields) = _ :=
        fieldOf?_relocate (.index i) fields
      have hupsert : upsertField (.index i) (f.relocate ρ) (relocateFields ρ fields) = _ :=
        upsertField_relocate (.index i) f fields
      simp only [having, Obj.relocate, ObjKind.relocate, Key.relocate_index, hfield, hupsert,
        putItem_relocate, Array.size_map, Option.isNone_map]
      split <;> rfl
    | _ => simp only [having, Obj.relocate, ObjKind.relocate, ← upsertField_relocate]; rfl
  | _ => simp only [having, Obj.relocate, ObjKind.relocate, upsertField_relocate]

end Heap

end Script

end ObjectBridge

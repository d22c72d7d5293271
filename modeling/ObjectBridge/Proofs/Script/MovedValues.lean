import ObjectBridge.Proofs.Script.MachineRelocation

/-!
# `ObjectBridge.Proofs.Script.MovedValues`: computing with values elsewhere

Conversions and operators on primitives take no notice of places: symbols are
told apart, but nobody computes with their numbers. What can be done at once,
without the machine, is done in the same way elsewhere: expressions that only
read have the same value, and those that store once store the same.
-/

set_option autoImplicit false

namespace ObjectBridge.Script

variable {ρ : Relocation} {p q : Prop} {h h' : Heap}

/-! ### Conversions -/

/-- A symbol is shown in the same way. -/
@[simp] theorem Symbol.label_relocate (s : Symbol) : (s.relocate ρ).label = s.label := by
  rw [label, description_relocate, label]

/-- It has the same text as a string. -/
@[simp] theorem Symbol.text_relocate (s : Symbol) : (s.relocate ρ).text = s.text := by
  rw [text, label_relocate, text]

/-- A key has the same text, if it has one. -/
@[simp] theorem Key.text?_relocate (key : Key) : (key.relocate ρ).text? = key.text? := by
  cases key <;> rfl

/-- A key is shown in the same way. -/
@[simp] theorem Key.shown_relocate (key : Key) : (key.relocate ρ).shown = key.shown := by
  cases key <;> simp [shown, relocate, text?]

/-- Keys made of texts do not move. -/
@[simp] theorem Key.relocate_ofText (t : Text) : (Key.ofText t).relocate ρ = .ofText t :=
  relocate_written (.ofText t)

/-- Keys made of numbers do not move. -/
@[simp] theorem Key.relocate_ofNat (n : Nat) : (Key.ofNat n).relocate ρ = .ofNat n := by
  unfold ofNat
  split <;> rfl

namespace Value

/-- The value of a moved key is the moved value. -/
@[simp] theorem relocate_ofKey (key : Key) :
    (Value.ofKey key).relocate ρ = .ofKey (key.relocate ρ) := by
  cases key <;> rfl

/-- Only what is undefined is undefined elsewhere. -/
@[simp] theorem isUndefined_relocate (v : Value) : (v.relocate ρ).isUndefined = v.isUndefined := by
  cases v <;> rfl

/-- Only what has no members has none elsewhere. -/
@[simp] theorem isNullish_relocate (v : Value) : (v.relocate ρ).isNullish = v.isNullish := by
  cases v <;> rfl

/-- Objects stay objects. -/
@[simp] theorem isPrimitive_relocate (v : Value) : (v.relocate ρ).isPrimitive = v.isPrimitive := by
  cases v <;> rfl

/-- A primitive is of the same kind. -/
@[simp] theorem primitiveKind?_relocate (v : Value) :
    (v.relocate ρ).primitiveKind? = v.primitiveKind? := by
  cases v <;> rfl

/-- A test of a value comes to the same. -/
@[simp] theorem truthy_relocate (v : Value) : (v.relocate ρ).truthy = v.truthy := by
  cases v <;> rfl

/-- A primitive has the same text. -/
@[simp] theorem text?_relocate (v : Value) : (v.relocate ρ).text? = v.text? := by
  cases v <;> rfl

/-- So it has for those who do not mind symbols. -/
@[simp] theorem textOrSymbol_relocate (v : Value) :
    (v.relocate ρ).textOrSymbol = v.textOrSymbol := by
  cases v <;> simp [textOrSymbol, text?]

/-- So it has where a symbol is its description. -/
@[simp] theorem textOrLabel_relocate (v : Value) : (v.relocate ρ).textOrLabel = v.textOrLabel := by
  cases v <;> simp [textOrLabel, text?]

/-- A primitive is the same number. -/
@[simp] theorem number?_relocate (v : Value) : (v.relocate ρ).number? = v.number? := by
  cases v <;> rfl

/-- The key of a moved value is the moved key. -/
theorem key_relocate (v : Value) : (v.relocate ρ).key = v.key.relocate ρ := by
  cases v with
  | number n =>
    dsimp only [relocate_number, key]
    split
    · rfl
    · exact (Key.relocate_ofString _).symm
  | symbol s => rfl
  | _ => simp [key, text?]

/-- Equal values stay equal, and different ones different. -/
@[simp] theorem strictEq_relocate (a b : Value) :
    (a.relocate ρ).strictEq (b.relocate ρ) = a.strictEq b := by
  cases a <;> cases b <;> simp [strictEq]

/-- So they do where NaN is itself and the zeros are told apart. -/
@[simp] theorem same_relocate (a b : Value) : (a.relocate ρ).same (b.relocate ρ) = a.same b := by
  cases a <;> cases b <;> simp [same, strictEq]

/-- So they do where values are converted first. -/
@[simp] theorem looseEq_relocate (a b : Value) :
    (a.relocate ρ).looseEq (b.relocate ρ) = a.looseEq b := by
  cases a <;> cases b <;> simp [looseEq, strictEq, number?]

end Value

/-- Values are in the same order. -/
@[simp] theorem compareValues_relocate (op : BinaryOp) (a b : Value) :
    compareValues op (a.relocate ρ) (b.relocate ρ) = compareValues op a b := by
  cases a <;> cases b <;> rfl

/-- What an operator gives is neither a symbol nor an object. -/
theorem primitiveOp?_relocate (op : BinaryOp) (a b : Value) :
    primitiveOp? op (a.relocate ρ) (b.relocate ρ) = (primitiveOp? op a b).map (·.relocate ρ) := by
  have hop : primitiveOp? op (a.relocate ρ) (b.relocate ρ) = primitiveOp? op a b := by
    cases op <;> cases a <;> cases b <;> rfl
  rw [hop]
  unfold primitiveOp?
  split <;> simp [Function.comp_def]

/-- The same operands are refused. -/
@[simp] theorem operandFault_relocate (op : BinaryOp) (a b : Value) :
    operandFault op (a.relocate ρ) (b.relocate ρ) = operandFault op a b := by
  cases a <;> cases b <;> rfl

/-- The same values are lengths of arrays. -/
@[simp] theorem arrayLength?_relocate (v : Value) :
    arrayLength? (v.relocate ρ) = arrayLength? v := by
  rw [arrayLength?, Value.number?_relocate, arrayLength?]

/-- An operator comes to the moved value. -/
theorem operate?_relocate (op : BinaryOp) (a b : Value) :
    operate? op (a.relocate ρ) (b.relocate ρ) = (operate? op a b).map (·.relocate ρ) := by
  have hop := primitiveOp?_relocate (ρ := ρ) op a b
  cases op <;> simp [operate?, hop, apply_ite (Option.map _)]

/-! ### Descriptors -/

/-- A blank field does not move. -/
@[simp] theorem Field.relocate_blank : Field.blank.relocate ρ = .blank := rfl

/-- The same fault about a key elsewhere. -/
def DefineFault.relocate (ρ : Relocation) : DefineFault → DefineFault
  | .notExtensible key => .notExtensible (key.relocate ρ)
  | .redefined key => .redefined (key.relocate ρ)
  | .fixedLength => .fixedLength
  | .badLength => .badLength

/-- The same error is raised for a definition that is refused. -/
@[simp] theorem DefineFault.error_relocate (e : DefineFault) : (e.relocate ρ).error = e.error := by
  cases e <;> simp [relocate, error]

namespace Descriptor

/-- A descriptor mentions the same. -/
@[simp] theorem mentionsAccessor_relocate (d : Descriptor) :
    (d.relocate ρ).mentionsAccessor = d.mentionsAccessor := by
  simp [mentionsAccessor]

/-- It brings a function for an accessor, or none. -/
@[simp] theorem hasFunction_relocate (d : Descriptor) :
    (d.relocate ρ).hasFunction = d.hasFunction := by
  obtain ⟨value, writable, enumerable, configurable, get, set⟩ := d
  cases get <;> cases set <;> simp [hasFunction]

/-- A change of a field is permitted in both, or in neither. -/
theorem permitted_relocate (d : Descriptor) (old : Field) :
    (d.relocate ρ).permitted (old.relocate ρ) = d.permitted old := by
  obtain ⟨slot, _, _, _⟩ := old
  obtain ⟨value, _, _, _, get, set⟩ := d
  cases slot <;> cases value <;> cases get <;> cases set <;> simp [permitted, hasFunction]

/-- The field comes to the moved field. -/
theorem applied_relocate (d : Descriptor) (old : Field) :
    (d.relocate ρ).applied (old.relocate ρ) = (d.applied old).relocate ρ := by
  obtain ⟨slot, _, _, _⟩ := old
  obtain ⟨value, writable, _, _, get, set⟩ := d
  cases slot <;> cases value <;> cases get <;> cases set <;> cases writable <;> rfl

/-- A field of a descriptor is filled in. -/
theorem with_relocate (d : Descriptor) (field : String) (v : Value) :
    (d.relocate ρ).with field (v.relocate ρ) = (d.with field v).relocate ρ := by
  unfold Descriptor.with
  rw [Value.truthy_relocate]
  split <;> rfl

end Descriptor

/-- What a write comes to when it stands elsewhere. -/
def Heap.Stored.relocate (ρ : Relocation) : Heap.Stored → Heap.Stored
  | .put f => .put (f.relocate ρ)
  | .nothing => .nothing
  | .setter f => .setter (f.relocate ρ)
  | .native o => .native (ρ.objects o)
  | .refused message => .refused message

/-- The same assignments are refused with the same text. -/
theorem Heap.readOnly_relocate (key : Key) : Heap.readOnly (key.relocate ρ) = Heap.readOnly key :=
  congrArg (fun s => "Cannot assign to read only property '" ++ s ++ "'") (Key.shown_relocate key)

namespace Heap.Moved

variable (hm : h.Moved ρ p q h')

include hm

/-- A value is of the same type. -/
@[simp] theorem typeName (v : Value) : Script.typeName h' (v.relocate ρ) = Script.typeName h v := by
  cases v with
  | object o =>
    dsimp only [Value.relocate_object, Script.typeName]
    rw [hm.obj, Obj.relocate_kind]
    cases (h.obj o).kind <;> rfl
  | _ => rfl

/-! ### Defining properties -/

/-- A property is defined anew, or refused. -/
theorem redefine (o : ObjId) (key : Key) (d : Descriptor) :
    h'.redefine (ρ.objects o) (key.relocate ρ) (d.relocate ρ) =
      match h.redefine o key d with
      | .ok f => .ok (f.relocate ρ)
      | .error e => .error (e.relocate ρ) := by
  unfold Heap.redefine
  rw [hm.own?, hm.obj, Obj.relocate_extensible]
  cases h.own? o key with
  | none =>
    dsimp only [Option.map_none]
    rw [← Field.relocate_blank (ρ := ρ), Descriptor.applied_relocate]
    split <;> rfl
  | some old =>
    dsimp only [Option.map_some]
    rw [Descriptor.permitted_relocate, Descriptor.applied_relocate]
    split <;> rfl

omit hm in
/-- What a definition leads to in both heaps. -/
inductive Defined (ρ : Relocation) (p q : Prop) :
    Except DefineFault Heap → Except DefineFault Heap → Prop
  | ok {h h' : Heap} (hm : h.Moved ρ p q h') : Defined ρ p q (.ok h) (.ok h')
  | error (e : DefineFault) : Defined ρ p q (.error e) (.error (e.relocate ρ))

/-- An array is resized, or its length is refused. -/
theorem resize (o : ObjId) (length n : Nat) (resizable : Bool) (d : Descriptor) :
    Defined ρ p q (h.resize o length n resizable d)
      (h'.resize (ρ.objects o) length n resizable (d.relocate ρ)) := by
  have hset : (if n = length then (h, true) else if resizable then h.setLength o n
        else (h, false)).1.Moved ρ p q (if n = length then (h', true) else if resizable then
        h'.setLength (ρ.objects o) n else (h', false)).1 ∧
      (if n = length then (h', true) else if resizable then h'.setLength (ρ.objects o) n
        else (h', false)).2 = (if n = length then (h, true) else if resizable then h.setLength o n
        else (h, false)).2 := by
    split
    · exact ⟨hm, rfl⟩
    · split
      · exact hm.setLength o n
      · exact ⟨hm, rfl⟩
  unfold Heap.resize
  generalize (if n = length then (h, true) else if resizable then h.setLength o n else (h, false)) =
    a at hset
  generalize (if n = length then (h', true) else if resizable then h'.setLength (ρ.objects o) n
    else (h', false)) = b at hset
  obtain ⟨hm, hdone⟩ := hset
  dsimp only
  rw [hdone, Descriptor.mentionsAccessor_relocate, Descriptor.relocate_configurable,
    Descriptor.relocate_enumerable, Descriptor.relocate_writable]
  split
  · exact .error (.redefined (.name "length"))
  · split
    · exact .error (.redefined (.name "length"))
    · split
      · refine .ok (hm.modifyObj o (fun x => ?_) fun x hx => ?_)
        · obtain ⟨kind, _, _, _, _⟩ := x
          cases kind <;> rfl
        · intro realm i heq
          dsimp only at heq
          split at heq
          · cases heq
          · exact hx realm i heq
      · exact .ok hm

/-- So it is by a definition of its length. -/
theorem defineLength (o : ObjId) (length : Nat) (resizable : Bool) (d : Descriptor) :
    Defined ρ p q (h.defineLength o length resizable d)
      (h'.defineLength (ρ.objects o) length resizable (d.relocate ρ)) := by
  unfold Heap.defineLength
  rw [Descriptor.relocate_value]
  cases d.value with
  | none => exact hm.resize o length length resizable d
  | some v =>
    dsimp only [Option.map_some]
    rw [arrayLength?_relocate]
    cases arrayLength? v with
    | none => exact .error .badLength
    | some n => exact hm.resize o length n resizable d

/-- A property is defined. -/
theorem define (o : ObjId) (key : Key) (d : Descriptor) :
    Defined ρ p q (h.define o key d) (h'.define (ρ.objects o) (key.relocate ρ) (d.relocate ρ)) := by
  have hput : Defined ρ p q ((h.redefine o key d).map fun f => h.put o key f)
      ((h'.redefine (ρ.objects o) (key.relocate ρ) (d.relocate ρ)).map fun f =>
        h'.put (ρ.objects o) (key.relocate ρ) f) := by
    rw [hm.redefine]
    cases h.redefine o key d with
    | ok f => exact .ok (hm.put o key f)
    | error e => exact .error e
  have hredefine := hm.redefine o key d
  unfold Heap.define
  rw [hm.obj, Obj.relocate_kind]
  cases (h.obj o).kind with
  | array length resizable =>
    cases key with
    | name s =>
      by_cases hs : s = "length"
      · subst hs
        exact hm.defineLength o length resizable d
      · simpa [ObjKind.relocate, hs] using hput
    | index i =>
      dsimp only [ObjKind.relocate, Key.relocate_index] at hredefine ⊢
      rw [hredefine]
      cases h.redefine o (.index i) d with
      | ok f =>
        dsimp only
        split
        · exact .error .fixedLength
        · exact .ok (hm.put o (.index i) f)
      | error e => exact .error e
    | _ => exact hput
  | _ => exact hput

/-! ### Storing properties -/

/-- A field is added by an assignment, or refused. -/
theorem addField (o : ObjId) (key : Key) (v : Value) :
    h'.addField (ρ.objects o) (key.relocate ρ) (v.relocate ρ) =
      (h.addField o key v).relocate ρ := by
  unfold Heap.addField
  dsimp only
  rw [hm.obj, Obj.relocate_extensible, Key.shown_relocate, Obj.relocate_kind]
  split
  · rfl
  · cases (h.obj o).kind with
    | array length resizable =>
      cases key with
      | index i =>
        dsimp only [ObjKind.relocate, Key.relocate_index]
        split <;> rfl
      | _ => rfl
    | _ => rfl

/-- What is above an object decides how a value is stored in it. -/
theorem storeBelow (o : ObjId) (above : Option ObjId) (key : Key) (v : Value) :
    h'.storeBelow (ρ.objects o) (above.map ρ.objects) (key.relocate ρ) (v.relocate ρ) =
      (h.storeBelow o above key v).relocate ρ := by
  unfold Heap.storeBelow
  rw [hm.find, hm.addField, Heap.readOnly_relocate]
  obtain ⟨slot, writable, enumerable, configurable⟩ | o | _ := h.find above key
  · cases slot with
    | data w => cases writable <;> rfl
    | accessor g s =>
      dsimp only [Found.relocate, Field.relocate_mk, Slot.relocate_accessor]
      rw [Value.isUndefined_relocate]
      cases s.isUndefined <;> cases writable <;> rfl
  · rfl
  · rfl

/-- How a value is stored is decided in the same way. -/
theorem store (o : ObjId) (key : Key) (v : Value) :
    h'.store (ρ.objects o) (key.relocate ρ) (v.relocate ρ) = (h.store o key v).relocate ρ := by
  unfold Heap.store
  rw [hm.own?, hm.proto, hm.storeBelow, Heap.readOnly_relocate, hm.obj, Obj.relocate_kind]
  cases h.own? o key with
  | none => rfl
  | some f =>
    obtain ⟨slot, writable, enumerable, configurable⟩ := f
    cases slot with
    | data w =>
      cases writable with
      | true => rfl
      | false => cases (h.obj o).kind <;> cases key <;> rfl
    | accessor g s =>
      dsimp only [Option.map_some, Field.relocate_mk, Slot.relocate_accessor]
      rw [Value.isUndefined_relocate]
      cases s.isUndefined <;> cases writable <;> rfl

/-- An object is frozen in both, or in neither. -/
theorem isFrozen (o : ObjId) (constant : Bool) :
    h'.isFrozen (ρ.objects o) constant = h.isFrozen o constant := by
  unfold Heap.isFrozen
  rw [hm.obj, Obj.relocate_extensible, hm.ownFields, relocateEntries, List.all_map]
  congr 2
  funext e
  obtain ⟨key, slot, writable, enumerable, configurable⟩ := e
  cases slot <;> rfl

/-! ### What can be done at once -/

/-- A name leads to the same variable or global. -/
theorem resolve (env : Env) (name : String) :
    Script.resolve h' (env.relocate ρ) name = (Script.resolve h env name).relocate ρ := by
  unfold Script.resolve
  rw [Env.relocate_scope, hm.findVariable]
  cases h.findVariable env.scope name <;> rfl

/-- A search that needs no code finds the moved value. -/
theorem searchDirect? (o : ObjId) (key : Key) :
      (match h'.find (some (ρ.objects o)) (key.relocate ρ) with
        | .field { slot := .data v, .. } => some v
        | .none => some .undefined
        | _ => none) =
      (match h.find (some o) key with
        | .field { slot := .data v, .. } => some v
        | .none => some .undefined
        | _ => none).map (Value.relocate ρ) := by
  have hfind := hm.find (some o) key
  rw [Option.map_some] at hfind
  rw [hfind]
  obtain ⟨slot, _, _, _⟩ | _ | _ := h.find (some o) key
  · cases slot <;> rfl
  · rfl
  · rfl

/-- A property that needs no code is read at once, in both. -/
theorem readDirect? (r : Realm) (base : Value) (key : Key) :
    Script.readDirect? (r.relocate ρ) h' (base.relocate ρ) (key.relocate ρ) =
      (Script.readDirect? r h base key).map (·.relocate ρ) := by
  cases base with
  | object o => exact hm.searchDirect? o key
  | string t =>
    have hproto := hm.searchDirect? r.stringProto key
    cases key with
    | name s =>
      by_cases hs : s = "length"
      · subst hs
        rfl
      · simp only [Script.readDirect?, Value.relocate_string, Key.relocate_name, Key.name.injEq,
          hs, imp_self, Realm.relocate_stringProto]
        exact hproto
    | index i =>
      dsimp only [Script.readDirect?, Value.relocate_string, Key.relocate_index]
      cases t.unit? i with
      | some u => rfl
      | none => exact hproto
    | _ => exact hproto
  | number n => exact hm.searchDirect? r.numberProto key
  | bool b => exact hm.searchDirect? r.boolProto key
  | _ => rfl

/-- So is a variable. -/
theorem readVariable? (r : Realm) (env : Env) (name : String) :
    Script.readVariable? (r.relocate ρ) h' (env.relocate ρ) name =
      (Script.readVariable? r h env name).map (·.relocate ρ) := by
  have hown := hm.own? r.global (.name name)
  rw [Key.relocate_name] at hown
  unfold Script.readVariable?
  rw [Env.relocate_scope, hm.findVariable, Realm.relocate_global, hown]
  cases h.findVariable env.scope name with
  | some e =>
    dsimp only [Option.map_some]
    rw [hm.variableAt]
  | none =>
    obtain _ | ⟨slot, _, _, _⟩ := h.own? r.global (.name name)
    · rfl
    · cases slot <;> rfl

/-- An expression that only reads has the same value. -/
theorem value? (r : Realm) (env : Env) : (e : Expr) →
    Script.value? (r.relocate ρ) h' (env.relocate ρ) e =
    (Script.value? r h env e).map (·.relocate ρ)
  | .number n => rfl
  | .bigint n => rfl
  | .string t => rfl
  | .bool b => rfl
  | .null => rfl
  | .this => rfl
  | .ident name => hm.readVariable? r env name
  | .member base key => by
    rw [Script.value?, Script.value?, value? r env base]
    cases Script.value? r h env base with
    | none => rfl
    | some b =>
      have hread := hm.readDirect? r b key.val
      rwa [Key.relocate_written] at hread
  | .index base key => by
    rw [Script.value?, Script.value?, value? r env base, value? r env key]
    cases Script.value? r h env base with
    | none => rfl
    | some b =>
      cases Script.value? r h env key with
      | none => rfl
      | some k =>
        dsimp only [Option.map_some]
        rw [Value.isPrimitive_relocate, Value.key_relocate, hm.readDirect?]
        split <;> rfl
  | .unary op e => by
    rw [Script.value?, Script.value?, value? r env e]
    cases Script.value? r h env e with
    | none => rfl
    | some v =>
      have htype := hm.typeName v
      dsimp only [Option.map_some]
      cases op <;> cases v <;> simp_all [Value.truthy]
  | .binary op left right => by
    rw [Script.value?, Script.value?, value? r env left, value? r env right]
    cases Script.value? r h env left with
    | none => rfl
    | some a =>
      cases Script.value? r h env right with
      | none => rfl
      | some b => exact operate?_relocate op a b
  | .logical op left right => by
    rw [Script.value?, Script.value?, value? r env left, value? r env right]
    cases Script.value? r h env left with
    | none => rfl
    | some a =>
      dsimp only [Option.map_some]
      rw [Value.truthy_relocate, Value.isNullish_relocate]
      cases op <;> dsimp only <;> split <;> rfl
  | .conditional test yes no => by
    rw [Script.value?, Script.value?, value? r env test, value? r env yes, value? r env no]
    cases Script.value? r h env test with
    | none => rfl
    | some v =>
      dsimp only [Option.map_some]
      rw [Value.truthy_relocate]
      split <;> rfl
  | .array _ => rfl
  | .object _ => rfl
  | .function _ => rfl
  | .call _ _ => rfl
  | .new _ _ => rfl
  | .delete _ => rfl
  | .assign _ _ _ => rfl
  | .update _ _ _ => rfl
  | .sequence _ _ => rfl

end Heap.Moved

/-! ### Deeds -/

/-- The same effect elsewhere. -/
def Effect.relocate (ρ : Relocation) : Effect → Effect
  | .none => .none
  | .setVariable s place v => .setVariable (ρ.scopes s) place (v.relocate ρ)
  | .put o key f => .put (ρ.objects o) (key.relocate ρ) (f.relocate ρ)

/-- The same deed elsewhere. -/
def Deed.relocate (ρ : Relocation) (d : Deed) : Deed := (d.1.relocate ρ, d.2.map (·.relocate ρ))

/-- A deed after the value of the statement before is dropped. -/
theorem Deed.relocate_afterClear (kept : Bool) (d : Deed) :
    (Deed.afterClear kept d).relocate ρ = Deed.afterClear kept (d.relocate ρ) := by
  obtain ⟨effect, v⟩ := d
  cases v <;> cases kept <;> rfl

/-- The same for a deed that may not be there. -/
theorem relocate_afterClear? (kept : Bool) (d : Option Deed) :
    (d.map (Deed.relocate ρ)).map (Deed.afterClear kept) =
      (d.map (Deed.afterClear kept)).map (Deed.relocate ρ) := by
  cases d with
  | none => rfl
  | some d => exact congrArg some (Deed.relocate_afterClear kept d).symm

namespace Heap.Moved

variable (hm : h.Moved ρ p q h')

include hm

/-- An effect changes both heaps in the same way. -/
theorem apply (e : Effect) : (e.apply h).Moved ρ p q ((e.relocate ρ).apply h') := by
  cases e with
  | none => exact hm
  | setVariable s place v => exact hm.setVariable s place v
  | put o key f => exact hm.put o key f

/-- The value of a program is set in both. -/
theorem setResult (v : Value) : Heap.Moved ρ p q { h with result := v }
    { h' with result := v.relocate ρ } :=
  { hm with result := fun _ => rfl }

/-- It is dropped in both. -/
theorem clear (kept : Bool) : (Script.clear kept h).Moved ρ p q (Script.clear kept h') := by
  unfold Script.clear
  split
  · exact hm.setResult .undefined
  · exact hm

/-- It is kept in both. -/
theorem keep (kept : Bool) (v : Value) :
    (Script.keep kept h v).Moved ρ p q (Script.keep kept h' (v.relocate ρ)) := by
  unfold Script.keep
  split
  · exact hm.setResult v
  · exact hm

/-- A deed is done in both. -/
theorem applyDeed (d : Deed) : (d.apply h).Moved ρ p q ((d.relocate ρ).apply h') := by
  obtain ⟨effect, v⟩ := d
  cases v with
  | none => exact hm.apply effect
  | some v => exact (hm.apply effect).setResult v

/-- A variable is set at once, in both. -/
theorem assignVariable? (r : Realm) (env : Env) (name : String) (v : Value) :
    Script.assignVariable? (r.relocate ρ) h' (env.relocate ρ) name (v.relocate ρ) =
      (Script.assignVariable? r h env name v).map (·.relocate ρ) := by
  have hown := hm.own? r.global (.name name)
  rw [Key.relocate_name] at hown
  unfold Script.assignVariable?
  rw [Env.relocate_scope, hm.findVariable, Realm.relocate_global, hown]
  cases h.findVariable env.scope name with
  | some e =>
    dsimp only [Option.map_some]
    rw [hm.scope, Scope.relocate_constant]
    split <;> rfl
  | none =>
    obtain _ | ⟨slot, writable, _, _⟩ := h.own? r.global (.name name)
    · rfl
    · cases slot <;> cases writable <;> rfl

/-- A store that needs no code has the moved effect. -/
theorem storeDirect? (o : ObjId) (key : Key) (v : Value) :
    (match h'.store (ρ.objects o) (key.relocate ρ) (v.relocate ρ) with
      | .put f => some (Effect.put (ρ.objects o) (key.relocate ρ) f)
      | _ => none) =
      (match h.store o key v with
        | .put f => some (Effect.put o key f)
        | _ => none).map (Effect.relocate ρ) := by
  rw [hm.store]
  cases h.store o key v <;> rfl

/-- A property that needs no code is assigned in the same way. -/
theorem assignProperty? (base : Value) (key : Key) (v : Value) :
    Script.assignProperty? h' (base.relocate ρ) (key.relocate ρ) (v.relocate ρ) =
      (Script.assignProperty? h base key v).map (·.relocate ρ) := by
  cases base with
  | object o =>
    have hstore := hm.storeDirect? o key v
    dsimp only [Script.assignProperty?, Value.relocate_object]
    rw [hm.obj, Obj.relocate_kind]
    cases (h.obj o).kind with
    | native realm ref => rfl
    | array length resizable =>
      cases key with
      | name s =>
        by_cases hs : s = "length"
        · subst hs
          rfl
        · simp only [ObjKind.relocate, Key.relocate_name, ObjKind.array.injEq, Key.name.injEq,
            hs, imp_self, implies_true]
          exact hstore
      | _ => exact hstore
    | _ => exact hstore
  | _ => rfl

/-- An expression that stores once, at its end, stores the same and has the
same value. -/
theorem act? (r : Realm) (env : Env) (e : Expr) :
    Script.act? (r.relocate ρ) h' (env.relocate ρ) e =
      (Script.act? r h env e).map fun d => (d.1.relocate ρ, d.2.relocate ρ) := by
  have hdefault : (Script.value? (r.relocate ρ) h' (env.relocate ρ) e).map (Effect.none, ·) =
      ((Script.value? r h env e).map (Effect.none, ·)).map fun d =>
        (d.1.relocate ρ, d.2.relocate ρ) := by
    rw [hm.value?]
    cases Script.value? r h env e <;> rfl
  cases e with
  | assign target op value =>
    cases target with
    | ident name =>
      cases op with
      | none =>
        dsimp only [Script.act?]
        rw [hm.value?]
        cases Script.value? r h env value with
        | none => rfl
        | some v =>
          dsimp only [Option.map_some]
          rw [hm.assignVariable?]
          cases Script.assignVariable? r h env name v <;> rfl
      | some op =>
        dsimp only [Script.act?]
        rw [hm.readVariable?, hm.value?]
        cases Script.readVariable? r h env name with
        | none => rfl
        | some old =>
          cases Script.value? r h env value with
          | none => rfl
          | some new =>
            dsimp only [Option.map_some]
            rw [operate?_relocate]
            cases operate? op old new with
            | none => rfl
            | some v =>
              dsimp only [Option.map_some]
              rw [hm.assignVariable?]
              cases Script.assignVariable? r h env name v <;> rfl
    | member base key =>
      cases op with
      | none =>
        dsimp only [Script.act?]
        rw [hm.value?, hm.value?]
        cases Script.value? r h env base with
        | none => rfl
        | some b =>
          cases Script.value? r h env value with
          | none => rfl
          | some v =>
            have hassign := hm.assignProperty? b key.val v
            rw [Key.relocate_written] at hassign
            dsimp only [Option.map_some]
            rw [hassign]
            cases Script.assignProperty? h b key.val v <;> rfl
      | some op => exact hdefault
    | index base key =>
      cases op with
      | none =>
        dsimp only [Script.act?]
        rw [hm.value?, hm.value?, hm.value?]
        cases Script.value? r h env base with
        | none => rfl
        | some b =>
          cases Script.value? r h env key with
          | none => rfl
          | some k =>
            cases Script.value? r h env value with
            | none => rfl
            | some v =>
              dsimp only [Option.map_some]
              rw [Value.isPrimitive_relocate, Value.key_relocate, hm.assignProperty?]
              split
              · cases Script.assignProperty? h b k.key v <;> rfl
              · rfl
      | some op => exact hdefault
    | _ => cases op <;> exact hdefault
  | update before delta target =>
    cases target with
    | ident name =>
      dsimp only [Script.act?]
      rw [hm.readVariable?]
      obtain _ | v := Script.readVariable? r h env name
      · rfl
      · cases v with
        | number n =>
          have hassign := hm.assignVariable? r env name (.number (stepNumber delta n))
          dsimp only [Option.map_some, Value.relocate_number] at hassign ⊢
          rw [hassign]
          cases Script.assignVariable? r h env name (.number (stepNumber delta n)) <;> cases
            before <;> rfl
        | _ => rfl
    | _ => exact hdefault
  | _ => exact hdefault

/-- So does a statement that needs no machine. -/
theorem deed? (r : Realm) (env : Env) : (s : Stmt) →
    Script.deed? (r.relocate ρ) (env.relocate ρ) h' s = (Script.deed? r env h s).map (·.relocate ρ)
  | .empty kept => by cases kept <;> rfl
  | .expr e kept => by
    rw [Script.deed?, Script.deed?, hm.act?]
    cases Script.act? r h env e with
    | none => rfl
    | some d => cases kept <;> rfl
  | .var [] => rfl
  | .var [(_, none)] => rfl
  | .var [(name, some e)] => by
    rw [Script.deed?, Script.deed?, hm.value?]
    cases Script.value? r h env e with
    | none => rfl
    | some v =>
      dsimp only [Option.map_some]
      rw [hm.assignVariable?]
      cases Script.assignVariable? r h env name v <;> rfl
  | .var ((_, none) :: _ :: _) => rfl
  | .var ((_, some _) :: _ :: _) => rfl
  | .block [] [] => rfl
  | .block [] [s] => deed? r env s
  | .block [] (_ :: _ :: _) => rfl
  | .block (_ :: _) _ => rfl
  | .cond kept test yes none => by
    unfold Script.deed?
    rw [hm.value?, deed? r env yes]
    cases Script.value? r h env test with
    | none => rfl
    | some v =>
      dsimp only [Option.map_some]
      rw [Value.truthy_relocate]
      split
      · exact relocate_afterClear? kept _
      · exact congrArg some (Deed.relocate_afterClear (ρ := ρ) kept (.none, none)).symm
  | .cond kept test yes (some no) => by
    unfold Script.deed?
    dsimp only
    rw [hm.value?, deed? r env yes, deed? r env no]
    cases Script.value? r h env test with
    | none => rfl
    | some v =>
      dsimp only [Option.map_some]
      rw [Value.truthy_relocate]
      split
      · exact relocate_afterClear? kept _
      · exact relocate_afterClear? kept _
  | .function _ _ => rfl
  | .while _ _ _ _ => rfl
  | .doWhile _ _ _ _ => rfl
  | .for _ _ _ _ _ _ => rfl
  | .forIn _ _ _ _ _ => rfl
  | .switch _ _ _ _ => rfl
  | .labelled _ _ => rfl
  | .return _ => rfl
  | .throw _ => rfl
  | .try _ _ _ _ => rfl
  | .break _ => rfl
  | .continue _ => rfl

/-- Statements that need no machine are run at once. -/
theorem runAll (r : Realm) (env : Env) (ss : List Stmt) :
    (Script.runAll r env h ss).1.Moved ρ p q
      (Script.runAll (r.relocate ρ) (env.relocate ρ) h' ss).1 ∧
      (Script.runAll (r.relocate ρ) (env.relocate ρ) h' ss).2 = (Script.runAll r env h ss).2 := by
  induction ss generalizing h h' with
  | nil => exact ⟨hm, rfl⟩
  | cons s rest ih =>
    rw [Script.runAll, Script.runAll, hm.deed?]
    cases Script.deed? r env h s with
    | none => exact ⟨hm, rfl⟩
    | some d => exact ih (hm.applyDeed d)

end Heap.Moved

end ObjectBridge.Script

import ObjectBridge.Proofs.Script.MovedValues
import ObjectBridge.Script.Builtins

/-!
# `ObjectBridge.Proofs.Script.MovedBuiltins`: the functions of realms elsewhere

A function that every realm has reads the heap, changes it, or asks for more
work. None of this depends on where things stand, so a call leads to the same
elsewhere (`Moved.callBuiltin`): to the same value, the same request, or an
error that says the same.
-/

set_option autoImplicit false

namespace ObjectBridge.Script

variable {ρ : Relocation} {p q : Prop} {h h' : Heap}

/-! ### Lists of values -/

/-- A missing argument is undefined in both. -/
@[simp] theorem getD_map_relocate (vs : List Value) (i : Nat) :
    (vs.map (·.relocate ρ)).getD i .undefined = (vs.getD i .undefined).relocate ρ := by
  rw [List.getD_eq_getElem?_getD, List.getD_eq_getElem?_getD, List.getElem?_map]
  cases vs[i]? <;> rfl

/-- Holes of an array are undefined in both. -/
@[simp] theorem getD_map_map_relocate (vs : List (Option Value)) :
    (vs.map (·.map (·.relocate ρ))).map (·.getD .undefined) =
      (vs.map (·.getD .undefined)).map (·.relocate ρ) := by
  rw [List.map_map, List.map_map]
  refine List.map_congr_left fun v _ => ?_
  cases v <;> rfl

/-- Methods of strings come to no objects. -/
@[simp] theorem textMethod_relocate (b : Builtin) (t : Text) (args : List Value) :
    textMethod b t (args.map (·.relocate ρ)) = (textMethod b t args).relocate ρ := by
  unfold textMethod
  simp only [getD_map_relocate, Value.number?_relocate, Value.text?_relocate]
  cases b with
  | stringCharCodeAt =>
    dsimp only
    generalize (Option.bind _ _ : Option UInt16) = u
    cases u <;> rfl
  | stringIndexOf =>
    dsimp only
    generalize List.find? _ _ = i
    cases i <;> rfl
  | stringSlice =>
    dsimp only
    cases args.getD 1 .undefined <;> rfl
  | _ => rfl

namespace Heap

/-- The items that an argument adds to an array: those of an array, or itself. -/
def spread (h : Heap) (v : Value) : List (Option Value) :=
  match v with
  | .object o =>
    match (h.obj o).kind with
    | .array _ _ => arrayItems h o
    | _ => [some v]
  | v => [some v]

/-- A new object is given to the frame on top. -/
theorem Made.give {a b : Heap × ObjId} (hab : Made ρ p q a b) (k : List Frame) (d : Nat) :
    Result.Moved ρ p q (Script.give a.1 (.object a.2) k d)
      (Script.give b.1 (.object b.2) (relocateFrames ρ k) d) := by
  obtain ⟨h, o, h', rfl, rfl, hm⟩ := hab.split
  exact hm.give (.object o) k d

end Heap

namespace Heap.Moved

variable (hm : h.Moved ρ p q h') (r : Realm) (k : List Frame) (d : Nat)

include hm

/-! ### Reading -/

/-- An object is of the same class. -/
theorem className (o : ObjId) : Script.className h' (ρ.objects o) = Script.className h o := by
  unfold Script.className
  rw [hm.obj, Obj.relocate_kind]
  cases (h.obj o).kind with
  | primitive v => cases v <;> rfl
  | _ => rfl

/-- The tag that an object has of its own, or by its class, is the same. -/
theorem namedTag (cls : String) (start : ObjId) :
      (match h'.data? (ρ.objects start) (.symbol .toStringTag) with
        | some (.string t) => Text.plain "[object " ++ t ++ Text.plain "]"
        | _ => .plain ("[object " ++ cls ++ "]")) =
      (match h.data? start (.symbol .toStringTag) with
        | some (.string t) => Text.plain "[object " ++ t ++ Text.plain "]"
        | _ => .plain ("[object " ++ cls ++ "]")) := by
  have hdata := hm.data? start (.symbol .toStringTag)
  have htag : Key.relocate ρ (.symbol .toStringTag) = .symbol .toStringTag :=
    congrArg Key.symbol (Symbol.relocate_known (by decide) _)
  rw [htag] at hdata
  rw [hdata]
  rcases h.data? start (.symbol .toStringTag) with _ | (_ | _ | _ | _ | _ | _ | _ | _) <;> rfl

/-- A value has the same tag. -/
theorem objectTag (v : Value) :
    Script.objectTag (r.relocate ρ) h' (v.relocate ρ) = Script.objectTag r h v := by
  cases v with
  | object o =>
    dsimp only [Script.objectTag, Value.relocate_object]
    rw [hm.className o]
    exact hm.namedTag (Script.className h o) o
  | undefined => rfl
  | null => rfl
  | _ => exact hm.namedTag _ _

/-- An array has the moved items. -/
theorem arrayItems (o : ObjId) :
    Script.arrayItems h' (ρ.objects o) = (Script.arrayItems h o).map (·.map (·.relocate ρ)) := by
  have hitem (i : Nat) := hm.own? o (.index i)
  dsimp only [Key.relocate_index] at hitem
  unfold Script.arrayItems
  rw [hm.obj, Obj.relocate_kind]
  cases (h.obj o).kind with
  | array length resizable =>
    dsimp only [ObjKind.relocate]
    rw [List.map_map]
    refine List.map_congr_left fun i _ => ?_
    rw [hitem, Function.comp_apply]
    obtain _ | ⟨slot, _, _, _⟩ := h.own? o (.index i)
    · rfl
    · cases slot <;> rfl
  | _ => rfl

/-- What is spread into a call is the same, moved. -/
theorem spread (v : Value) :
    h'.spread (v.relocate ρ) = (h.spread v).map (·.map (·.relocate ρ)) := by
  cases v with
  | object o =>
    dsimp only [Heap.spread, Value.relocate_object]
    rw [hm.obj, Obj.relocate_kind, hm.arrayItems]
    cases (h.obj o).kind <;> rfl
  | _ => rfl

/-- The items of an object that is like an array. -/
theorem listItems (o : ObjId) :
    Script.listItems h' (ρ.objects o) = (Script.listItems h o).map (·.relocate ρ) := by
  have hlist : ((List.range (min
        (((h'.data? (ρ.objects o) (.name "length")).bind arrayLength?).getD 0)
        itemBound)).map fun i => (h'.data? (ρ.objects o) (.index i)).getD .undefined) =
      ((List.range (min (((h.data? o (.name "length")).bind arrayLength?).getD 0) itemBound)).map
        fun i => (h.data? o (.index i)).getD .undefined).map (·.relocate ρ) := by
    have hlength := hm.data? o (.name "length")
    have hitem (i : Nat) := hm.data? o (.index i)
    dsimp only [Key.relocate_name, Key.relocate_index] at hlength hitem
    simp only [hlength, hitem, List.map_map, Option.bind_map, Function.comp_def,
      arrayLength?_relocate]
    refine List.map_congr_left fun i _ => ?_
    cases h.data? o (.index i) <;> rfl
  unfold Script.listItems
  rw [hm.obj, Obj.relocate_kind, hm.arrayItems, getD_map_map_relocate]
  cases (h.obj o).kind with
  | array length resizable => rfl
  | _ => exact hlist

/-- A function shows the same source. -/
theorem builtinSource (o : ObjId) :
    Script.builtinSource h' (ρ.objects o) = Script.builtinSource h o := by
  have hown := hm.own? o (.name "name")
  rw [Key.relocate_name] at hown
  unfold Script.builtinSource
  rw [hown]
  obtain _ | ⟨slot, _, _, _⟩ := h.own? o (.name "name")
  · rfl
  · rcases slot with v | _
    · cases v <;> rfl
    · rfl

/-- A value is, or stands for, the same primitive. -/
theorem primitiveOf? (kind : PrimitiveKind) (v : Value) :
    Script.primitiveOf? h' kind (v.relocate ρ) =
      (Script.primitiveOf? h kind v).map (·.relocate ρ) := by
  have hkind (v : Value) : (if (v.relocate ρ).primitiveKind? =
      some kind then some (v.relocate ρ) else none) =
      (if v.primitiveKind? = some kind then some v else none).map (·.relocate ρ) := by
    rw [Value.primitiveKind?_relocate]
    split <;> rfl
  have hself := hkind v
  cases v with
  | object o =>
    dsimp only [Script.primitiveOf?, Value.relocate_object]
    rw [hm.obj, Obj.relocate_kind]
    cases (h.obj o).kind with
    | primitive v => exact hkind v
    | _ => rfl
  | _ => exact hself

/-! ### Refusals -/

/-- Both refuse a primitive where an object is needed. -/
theorem refusePrimitive (v : Value) :
    Result.Moved ρ p q (Script.refusePrimitive r h v k d)
      (Script.refusePrimitive (r.relocate ρ) h' (v.relocate ρ) (relocateFrames ρ k) d) := by
  cases v <;> exact hm.raise ..

/-- Both refuse `undefined` and `null`. -/
theorem refuseNullish :
    Result.Moved ρ p q (Script.refuseNullish r h k d)
      (Script.refuseNullish (r.relocate ρ) h' (relocateFrames ρ k) d) :=
  hm.raise ..

/-- Both refuse a function that is there by name only. -/
theorem refuseUnavailable :
    Result.Moved ρ p q (Script.refuseUnavailable r h k d)
      (Script.refuseUnavailable (r.relocate ρ) h' (relocateFrames ρ k) d) :=
  hm.raise ..

/-- A value is an object in both heaps, or in neither. -/
theorem toObject? (v : Value) :
    (Script.toObject? r h v = none ∧ Script.toObject? (r.relocate ρ) h' (v.relocate ρ) = none) ∨
      ∃ g o g', Script.toObject? r h v = some (g, o) ∧
        Script.toObject? (r.relocate ρ) h' (v.relocate ρ) = some (g', ρ.objects o) ∧
        g.Moved ρ p q g' := by
  have hwrapper (kind : PrimitiveKind) : ∃ g o g', some (h.newWrapper r kind v) = some (g, o) ∧
      some (h'.newWrapper (r.relocate ρ) kind (v.relocate ρ)) = some (g', ρ.objects o) ∧
      g.Moved ρ p q g' := by
    obtain ⟨g, o, g', ha, hb, hg⟩ := (hm.newWrapper r kind v).split
    exact ⟨g, o, g', congrArg some ha, congrArg some hb, hg⟩
  cases v with
  | object o => exact .inr ⟨h, o, h', rfl, rfl, hm⟩
  | undefined => exact .inl ⟨rfl, rfl⟩
  | null => exact .inl ⟨rfl, rfl⟩
  | _ => exact .inr (hwrapper _)

/-! ### Going on -/

/-- The next method is tried that may turn an object into a primitive. -/
theorem nextMethod (o : ObjId) (methods : List String) :
    Result.Moved ρ p q (Script.nextMethod r h o methods k d)
      (Script.nextMethod (r.relocate ρ) h' (ρ.objects o) methods (relocateFrames ρ k) d) := by
  cases methods with
  | nil => exact hm.raise ..
  | cons m rest =>
    exact hm.go (.fetch (some o) (.name m) (.object o)) (.primitiveMethod o rest :: k) d

/-- The next argument of a line for the console becomes a text. -/
theorem logNext (level : String) (done : List Bytes) (rest : List Value) :
    Result.Moved ρ p q (Script.logNext h level done rest k d)
      (Script.logNext h' level done (rest.map (·.relocate ρ)) (relocateFrames ρ k) d) := by
  cases rest with
  | nil => exact hm.ask (.log level _) k d
  | cons v rest =>
    cases v with
    | symbol s =>
      have hgo := hm.go (.give (.string s.label)) (.logText level done rest :: k) d
      show Result.Moved ρ p q _ (Script.go h' (.give (.string (s.relocate ρ).label)) _ d)
      rwa [Symbol.label_relocate]
    | _ => exact hm.go (.primitive _ .text) (.toText :: .logText level done rest :: k) d

/-- The next item becomes a text that is to be joined. -/
theorem joinNext (o : ObjId) (separator : Text) (next length : Nat) (done : List Text) :
    Result.Moved ρ p q (Script.joinNext h o separator next length done k d)
      (Script.joinNext h' (ρ.objects o) separator next length done (relocateFrames ρ k) d) := by
  have hgo := hm.go (.fetch (some o) (.ofNat next) (.object o))
      (.joinItem o separator next length done :: k) d
  rw [Control.relocate, Key.relocate_ofNat] at hgo
  exact .ite (fun _ => hm.give (.string _) k d) fun _ => hgo

/-- An error is made, with a message or without. -/
theorem makeError (kind : String) (message : Option Text) :
    Result.Moved ρ p q (Script.makeError r h kind message k d)
      (Script.makeError (r.relocate ρ) h' kind message (relocateFrames ρ k) d) := by
  exact (hm.newErrorWith r kind message).give k d

/-! ### Definitions -/

/-- Both are refused, or neither. -/
theorem refuseAccessor? (name : String) (v : Option Value) :
    (Script.refuseAccessor? r h name v k d = none ∧
      Script.refuseAccessor? (r.relocate ρ) h' name (v.map (·.relocate ρ)) (relocateFrames ρ k) d =
      none) ∨
    ∃ a b, Script.refuseAccessor? r h name v k d = some a ∧
      Script.refuseAccessor? (r.relocate ρ) h' name (v.map (·.relocate ρ)) (relocateFrames ρ k) d =
      some b ∧ Result.Moved ρ p q a b := by
  cases v with
  | none => exact .inl ⟨rfl, rfl⟩
  | some v =>
    cases v with
    | undefined => exact .inl ⟨rfl, rfl⟩
    | object o =>
      have hcallable := hm.callable? (.object o)
      rw [Value.relocate_object] at hcallable
      unfold Script.refuseAccessor?
      dsimp only [Option.map_some, Value.relocate_object]
      rw [hcallable, Option.isSome_map]
      split
      · exact .inl ⟨rfl, rfl⟩
      · exact .inr ⟨_, _, rfl, rfl, hm.raise ..⟩
    | _ => exact .inr ⟨_, _, rfl, rfl, hm.refusePrimitive r k d _⟩

/-- The next field of a descriptor is read. -/
theorem nextDescriptorField (o : ObjId) (key : Value) (desc : ObjId) (rest : List String)
    (descr : Descriptor) :
    Result.Moved ρ p q (Script.nextDescriptorField r h o key desc rest descr k d)
      (Script.nextDescriptorField (r.relocate ρ) h' (ρ.objects o) (key.relocate ρ)
        (ρ.objects desc) rest (descr.relocate ρ) (relocateFrames ρ k) d) := by
  cases rest with
  | cons field rest =>
    exact hm.go (.fetch (some desc) (.name field) (.object desc))
      (.descriptorField o key desc field rest descr :: k) d
  | nil =>
    unfold Script.nextDescriptorField
    dsimp only
    rw [Descriptor.relocate_get, Descriptor.relocate_set]
    obtain ⟨ha, hb⟩ | ⟨a, b, ha, hb, hab⟩ := hm.refuseAccessor? r k d "getter" descr.get
    · obtain ⟨hc, hd⟩ | ⟨a, b, hc, hd, hab⟩ := hm.refuseAccessor? r k d "setter" descr.set
      · rw [ha, hb, hc, hd, Descriptor.mentionsAccessor_relocate, Descriptor.relocate_value,
          Descriptor.relocate_writable, Option.isSome_map]
        exact .ite (fun _ => hm.raise ..) fun _ => hm.go (.keyOf key (.define o descr)) k d
      · rw [ha, hb, hc, hd]
        exact hab
    · rw [ha, hb]
      exact hab

omit hm in
/-- What a native object refuses to have defined does not depend on values. -/
@[simp] theorem nativeDefineFault?_relocate (key : Key) (descr : Descriptor) :
    nativeDefineFault? (key.relocate ρ) (descr.relocate ρ) = nativeDefineFault? key descr := by
  simp [nativeDefineFault?]

/-- What comes of a definition is told in the same way. -/
theorem defineOrRaise (o : ObjId) (key : Key) (descr : Descriptor) :
    Result.Moved ρ p q
      (match h.define o key descr with
        | .ok h => Script.give h (.object o) k d
        | .error e => Script.raise r h e.error.1 e.error.2 k d)
      (match h'.define (ρ.objects o) (key.relocate ρ) (descr.relocate ρ) with
        | .ok h => Script.give h (.object (ρ.objects o)) (relocateFrames ρ k) d
        | .error e =>
          Script.raise (r.relocate ρ) h' e.error.1 e.error.2 (relocateFrames ρ k) d) := by
  have hdefined := hm.define o key descr
  generalize h.define o key descr = a at hdefined
  generalize h'.define _ _ _ = b at hdefined
  cases hdefined with
  | ok hm => exact hm.give (.object o) k d
  | error e =>
    dsimp only
    rw [DefineFault.error_relocate]
    exact hm.raise ..

/-- A property is defined, or refused with the same error. -/
theorem defineKey (o : ObjId) (key : Key) (descr : Descriptor) :
    Result.Moved ρ p q (Script.defineKey r h o key descr k d)
      (Script.defineKey (r.relocate ρ) h' (ρ.objects o) (key.relocate ρ) (descr.relocate ρ)
        (relocateFrames ρ k) d) := by
  unfold Script.defineKey
  rw [hm.obj, Obj.relocate_kind]
  cases (h.obj o).kind with
  | native realm n =>
    dsimp only [ObjKind.relocate]
    rw [nativeDefineFault?_relocate]
    cases nativeDefineFault? key descr with
    | some message => exact hm.raise ..
    | none =>
      have hask := hm.ask (.set n key.shown (descr.value.getD .undefined))
          (.instead (.object o) :: k) d
      dsimp only
      rw [Key.shown_relocate, Descriptor.relocate_value]
      cases hvalue : descr.value <;> rw [hvalue] at hask <;> exact hask
  | array length resizable =>
    dsimp only [ObjKind.relocate]
    cases key with
    | name s =>
      by_cases hs : s = "length"
      · subst hs
        rw [Descriptor.relocate_value]
        rcases descr.value with _ | v
        · exact hm.defineOrRaise r k d o _ descr
        · cases v with
          | object v =>
            exact hm.go (.primitive (.object v) .number)
              (.toNumber :: .lengthDefined o descr (some (.object v)) :: k) d
          | _ => exact hm.defineOrRaise r k d o _ descr
      · simp only [Key.relocate_name, ObjKind.array.injEq, Key.name.injEq, hs, false_implies,
          implies_true]
        exact hm.defineOrRaise r k d o _ descr
    | _ => exact hm.defineOrRaise r k d o _ descr
  | _ => exact hm.defineOrRaise r k d o _ descr

/-- A field is described by a new object. -/
theorem describeField (f : Field) :
    (Script.describeField r h f).1.Moved ρ p q
      (Script.describeField (r.relocate ρ) h' (f.relocate ρ)).1 ∧
      (Script.describeField (r.relocate ρ) h' (f.relocate ρ)).2 =
      (Script.describeField r h f).2.relocate ρ := by
  obtain ⟨slot, writable, enumerable, configurable⟩ := f
  obtain ⟨h, o, h', ha, hb, hm⟩ := (hm.newObject r).split
  have hflag {h h' : Heap} (hm : h.Moved ρ p q h') (name : String) (b : Bool) :=
    hm.put o (.name name) (.plain (.bool b))
  unfold Script.describeField
  rw [ha, hb]
  refine ⟨?_, rfl⟩
  cases slot with
  | data v => exact hflag (hflag (hflag (hm.put o (.name "value") (.plain v)) _ _) _ _) _ _
  | accessor g s =>
    exact hflag (hflag ((hm.put o (.name "get") (.plain g)).put o (.name "set") (.plain s)) _ _) _ _

/-- The prototype of an object is changed in both. -/
theorem changeProto (o : ObjId) (proto : Option ObjId) :
    (h.modifyObj o fun x => { x with proto }).Moved ρ p q
      (h'.modifyObj (ρ.objects o) fun x => { x with proto := proto.map ρ.objects }) :=
  hm.modifyObj o (fun _ => rfl) fun _ hx => hx

/-- No more properties may be added, in both. -/
theorem preventExtensions (o : ObjId) :
    (h.modifyObj o fun x => { x with extensible := false }).Moved ρ p q
      (h'.modifyObj (ρ.objects o) fun x => { x with extensible := false }) :=
  hm.modifyObj o (fun _ => rfl) fun _ hx => hx

/-- A prototype is set, unless that makes a cycle. -/
theorem setProto (o : ObjId) (proto : Option ObjId) (result : Value) :
    Result.Moved ρ p q (Script.setProto r h o proto result k d)
      (Script.setProto (r.relocate ρ) h' (ρ.objects o) (proto.map ρ.objects) (result.relocate ρ)
        (relocateFrames ρ k) d) := by
  have hchange := (hm.changeProto o proto).give result k d
  have hother : Result.Moved ρ p q _ _ :=
    .ite (fun _ : (h.obj o).proto = proto => hm.give result k d) fun _ =>
      .ite (fun _ : !(h.obj o).extensible =>
        hm.go (.primitive (.object o) .text) (.toText :: .refusal "" " is not extensible" :: k) d)
          fun _ =>
      .ite (fun _ : h.inherits o (h.objects.size + 1) proto => hm.raise r "TypeError"
        "Cyclic __proto__ value" k d) fun _ => hchange
  have hproto : ((h.obj o).proto.map ρ.objects = proto.map ρ.objects) = ((h.obj o).proto = proto) :=
    propext (Option.map_injective ρ.objects.injective).eq_iff
  unfold Script.setProto
  dsimp only
  rw [hm.obj, Obj.relocate_kind, Obj.relocate_proto, Obj.relocate_extensible, hm.inherits]
  simp only [hproto]
  cases (h.obj o).kind with
  | native realm n => exact hchange
  | _ => exact hother

/-! ### Arrays and functions -/

/-- Items are added at the end of an array. -/
theorem pushAll (o : ObjId) (i : Nat) (vs : List Value) :
    (Script.pushAll o i vs h).1.Moved ρ p q
      (Script.pushAll (ρ.objects o) i (vs.map (·.relocate ρ)) h').1 ∧
      (Script.pushAll (ρ.objects o) i (vs.map (·.relocate ρ)) h').2 =
      (Script.pushAll o i vs h).2 := by
  induction vs generalizing i h h' with
  | nil => exact ⟨hm, rfl⟩
  | cons v rest ih =>
    have hstore := hm.store o (.ofNat i) v
    rw [Key.relocate_ofNat] at hstore
    rw [List.map_cons, Script.pushAll, Script.pushAll, hstore]
    cases h.store o (.ofNat i) v with
    | put f =>
      have hput := hm.put o (.ofNat i) f
      rw [Key.relocate_ofNat] at hput
      exact ih hput (i + 1)
    | _ => exact ⟨hm, rfl⟩

/-- An object is an instance when it inherits from the function's prototype. -/
theorem ordinaryInstance (f : ObjId) (v : Value) :
    Result.Moved ρ p q (Script.ordinaryInstance h f v k d)
      (Script.ordinaryInstance h' (ρ.objects f) (v.relocate ρ) (relocateFrames ρ k) d) := by
  cases v with
  | object o =>
    exact hm.go (.fetch (some f) (.name "prototype") (.object f)) (.instanceProto (.object o) :: k)
      d
  | _ => exact hm.give (.bool false) k d

/-- A function is made of texts. -/
theorem makeFunction (texts : List Text) :
    Result.Moved ρ p q (Script.makeFunction r h texts k d)
      (Script.makeFunction (r.relocate ρ) h' texts (relocateFrames ρ k) d) := by
  unfold Script.makeFunction
  dsimp only
  cases parseFunction? _ _ with
  | none => exact hm.raise ..
  | some f =>
    exact (hm.newClosure r f none).give k d

/-- The next of these texts is made. -/
theorem nextFunctionText (done : List Text) (rest : List Value) :
    Result.Moved ρ p q (Script.nextFunctionText r h done rest k d)
      (Script.nextFunctionText (r.relocate ρ) h' done (rest.map (·.relocate ρ))
        (relocateFrames ρ k) d) := by
  cases rest with
  | nil => exact hm.makeFunction ..
  | cons v rest => exact hm.go (.primitive v .text) (.toText :: .functionTexts done rest :: k) d

/-- An array of a length, or of items. -/
theorem makeArray (args : List Value) :
    Result.Moved ρ p q (Script.makeArray r h args k d)
      (Script.makeArray (r.relocate ρ) h' (args.map (·.relocate ρ)) (relocateFrames ρ k) d) := by
  have hitems : (args.map (·.relocate ρ)).map some =
      (args.map some).map (·.map (·.relocate ρ)) := by
    rw [List.map_map, List.map_map]
    rfl
  have hmade := (hm.newArray r (args.map some)).give k d
  rw [← hitems] at hmade
  obtain _ | ⟨v, _ | ⟨w, rest⟩⟩ := args
  · exact hmade
  · cases v with
    | number n =>
      obtain ⟨g, o, g', ha, hb, hg⟩ := (hm.newArray r []).split
      rw [List.map_nil] at hb
      simp only [Script.makeArray, List.map_cons, List.map_nil, Value.relocate_number, ha, hb]
      cases arrayLength? (.number n) with
      | some length => exact (hg.setLength o length).1.give (.object o) k d
      | none => exact hm.raise ..
    | _ => exact hmade
  · cases v <;> exact hmade

/-- Items are pushed onto an array. -/
theorem pushed (o : ObjId) (length : Nat) (args : List Value) :
    Result.Moved ρ p q (Script.arrayMethod r h .arrayPush o length args k d)
      (Script.arrayMethod (r.relocate ρ) h' .arrayPush (ρ.objects o) length
        (args.map (·.relocate ρ)) (relocateFrames ρ k) d) := by
  obtain ⟨hheap, hmessage⟩ := hm.pushAll o length args
  unfold Script.arrayMethod
  dsimp only
  generalize Script.pushAll o length args h = a at hheap hmessage
  generalize Script.pushAll (ρ.objects o) length _ h' = b at hheap hmessage
  obtain ⟨h, message⟩ := a
  obtain ⟨h', _⟩ := b
  cases hmessage
  cases message with
  | some message => exact hheap.raise ..
  | none =>
    rw [List.length_map]
    exact hheap.give (.ofNat (length + args.length)) k d

/-- The last item is taken off. -/
theorem popped (o : ObjId) (length : Nat) (args : List Value) :
    Result.Moved ρ p q (Script.arrayMethod r h .arrayPop o length args k d)
      (Script.arrayMethod (r.relocate ρ) h' .arrayPop (ρ.objects o) length (args.map (·.relocate ρ))
        (relocateFrames ρ k) d) := by
  obtain ⟨hheap, hdone⟩ := hm.setLength o (length - 1)
  have hend (v : Value) : Result.Moved ρ p q
      (if (h.setLength o (length - 1)).2 then Script.give (h.setLength o (length - 1)).1 v k d
        else Script.raise r (h.setLength o (length - 1)).1 "TypeError" "Cannot delete property" k d)
      (if (h.setLength o (length - 1)).2 then
          Script.give (h'.setLength (ρ.objects o) (length - 1)).1 (v.relocate ρ)
            (relocateFrames ρ k) d
        else Script.raise (r.relocate ρ) (h'.setLength (ρ.objects o) (length - 1)).1 "TypeError"
          "Cannot delete property" (relocateFrames ρ k) d) :=
    .ite (fun _ => hheap.give v k d) fun _ => hheap.raise ..
  have hown := hm.own? o (.ofNat (length - 1))
  rw [Key.relocate_ofNat] at hown
  unfold Script.arrayMethod
  refine .ite (fun _ => hm.give .undefined k d) fun _ => ?_
  dsimp only
  rw [hown, hdone]
  obtain _ | ⟨slot, _, _, _⟩ := h.own? o (.ofNat (length - 1))
  · exact hend .undefined
  · cases slot with
    | data v => exact hend v
    | accessor _ _ => exact hend .undefined

/-- Part of an array is copied. -/
theorem sliced (o : ObjId) (length : Nat) (args : List Value) :
    Result.Moved ρ p q (Script.arrayMethod r h .arraySlice o length args k d)
      (Script.arrayMethod (r.relocate ρ) h' .arraySlice (ρ.objects o) length
        (args.map (·.relocate ρ)) (relocateFrames ρ k) d) := by
  unfold Script.arrayMethod
  simp only [getD_map_relocate, Value.number?_relocate, Value.isUndefined_relocate, hm.arrayItems,
    ← List.map_drop, ← List.map_take]
  exact (hm.newArray ..).give k d

/-- Arrays are put one after the other. -/
theorem concatenated (o : ObjId) (length : Nat) (args : List Value) :
    Result.Moved ρ p q (Script.arrayMethod r h .arrayConcat o length args k d)
      (Script.arrayMethod (r.relocate ρ) h' .arrayConcat (ρ.objects o) length
        (args.map (·.relocate ρ)) (relocateFrames ρ k) d) := by
  have hmade := (hm.newArray r (Script.arrayItems h o ++ args.flatMap h.spread)).give k d
  have hspread : args.flatMap (fun v => (h.spread v).map (·.map (·.relocate ρ))) =
      (args.map (·.relocate ρ)).flatMap h'.spread := by
    rw [List.flatMap_map]
    exact List.flatMap_congr fun v _ => (hm.spread v).symm
  rw [List.map_append, List.map_flatMap, hspread, ← hm.arrayItems] at hmade
  exact hmade

/-- An item is looked for. -/
theorem indexFound (o : ObjId) (length : Nat) (args : List Value) :
    Result.Moved ρ p q (Script.arrayMethod r h .arrayIndexOf o length args k d)
      (Script.arrayMethod (r.relocate ρ) h' .arrayIndexOf (ρ.objects o) length
        (args.map (·.relocate ρ)) (relocateFrames ρ k) d) := by
  have hmatch (v : Option Value) (w : Value) :
      ((v.map (·.relocate ρ)).map (·.strictEq (w.relocate ρ))).getD false =
        (v.map (·.strictEq w)).getD false := by
    cases v with
    | none => rfl
    | some v => exact Value.strictEq_relocate v w
  unfold Script.arrayMethod
  simp only [getD_map_relocate, hm.arrayItems, List.findIdx?_map, Function.comp_def, hmatch]
  cases List.findIdx? _ _ with
  | some i => exact hm.give (.ofNat i) k d
  | none => exact hm.give (.number (-1.0)) k d

/-- All methods of arrays. -/
theorem arrayMethod (b : Builtin) (o : ObjId) (length : Nat) (args : List Value) :
    Result.Moved ρ p q (Script.arrayMethod r h b o length args k d)
      (Script.arrayMethod (r.relocate ρ) h' b (ρ.objects o) length (args.map (·.relocate ρ))
        (relocateFrames ρ k) d) := by
  cases b with
  | arrayPush => exact hm.pushed ..
  | arrayPop => exact hm.popped ..
  | arraySlice => exact hm.sliced ..
  | arrayConcat => exact hm.concatenated ..
  | arrayIndexOf => exact hm.indexFound ..
  | _ => exact hm.give .undefined k d

/-- An object is asked for a key of its own. -/
theorem hasOwnKey (v : Value) (key : Key) :
    Result.Moved ρ p q (Script.hasOwnKey r h v key k d)
      (Script.hasOwnKey (r.relocate ρ) h' (v.relocate ρ) (key.relocate ρ)
        (relocateFrames ρ k) d) := by
  unfold Script.hasOwnKey
  obtain ⟨ha, hb⟩ | ⟨h, o, h', ha, hb, hm⟩ := hm.toObject? r v
  · rw [ha, hb]
    exact hm.refuseNullish ..
  · have hgive := hm.give (.bool (h.own? o key).isSome) k d
    rw [ha, hb]
    dsimp only
    rw [hm.obj, Obj.relocate_kind, hm.own?, Option.isSome_map]
    cases (h.obj o).kind with
    | native realm n =>
      cases key with
      | symbol s => exact hm.give (.bool false) k d
      | _ => exact hm.ask (.has n _) k d
    | _ => cases key <;> exact hgive

/-! ### Calls -/

section

variable (this : Value) (args : List Value)

/-- Does something with the object that stands for a value. -/
theorem withObject (v : Value) {f g : Heap → ObjId → Result}
    (hf : ∀ {h h' : Heap} (_ : h.Moved ρ p q h') (o : ObjId),
      Result.Moved ρ p q (f h o) (g h' (ρ.objects o))) :
    Result.Moved ρ p q
      (match Script.toObject? r h v with
        | none => Script.refuseNullish r h k d
        | some (h, o) => f h o)
      (match Script.toObject? (r.relocate ρ) h' (v.relocate ρ) with
        | none => Script.refuseNullish (r.relocate ρ) h' (relocateFrames ρ k) d
        | some (h, o) => g h o) := by
  obtain ⟨ha, hb⟩ | ⟨g, o, g', ha, hb, hg⟩ := hm.toObject? r v
  · rw [ha, hb]
    exact hm.refuseNullish ..
  · rw [ha, hb]
    exact hf hg o

/-- Gives the prototype of an object. -/
theorem giveProto (o : ObjId) :
    Result.Moved ρ p q
      (match (h.obj o).proto with
        | some p => Script.give h (.object p) k d
        | none => Script.give h .null k d)
      (match (h'.obj (ρ.objects o)).proto with
        | some p => Script.give h' (.object p) (relocateFrames ρ k) d
        | none => Script.give h' .null (relocateFrames ρ k) d) := by
  rw [hm.proto]
  cases (h.obj o).proto with
  | some p => exact hm.give (.object p) k d
  | none => exact hm.give .null k d

/-- What cannot be made non-extensible is refused, and primitives are given
back. -/
theorem onObject (v : Value) {f f' : ObjId → Result}
    (hf : ∀ o, Result.Moved ρ p q (f o) (f' (ρ.objects o))) (message : String) :
    Result.Moved ρ p q
      (match v with
        | .object o =>
          match (h.obj o).kind with
          | .native _ _ => Script.raise r h "TypeError" message k d
          | _ => f o
        | v => Script.give h v k d)
      (match v.relocate ρ with
        | .object o =>
          match (h'.obj o).kind with
          | .native _ _ => Script.raise (r.relocate ρ) h' "TypeError" message (relocateFrames ρ k) d
          | _ => f' o
        | v => Script.give h' v (relocateFrames ρ k) d) := by
  cases v with
  | object o =>
    dsimp only [Value.relocate_object]
    rw [hm.obj, Obj.relocate_kind]
    cases (h.obj o).kind with
    | native realm n => exact hm.raise ..
    | _ => exact hf o
  | _ => exact hm.give _ k d

/-- Says whether an object is so, and gives `b` for anything else. -/
theorem giveTest (v : Value) {f f' : ObjId → Bool} (hf : ∀ o, f' (ρ.objects o) = f o) (b : Bool) :
    Result.Moved ρ p q
      (match v with
        | .object o => Script.give h (.bool (f o)) k d
        | _ => Script.give h (.bool b) k d)
      (match v.relocate ρ with
        | .object o => Script.give h' (.bool (f' o)) (relocateFrames ρ k) d
        | _ => Script.give h' (.bool b) (relocateFrames ρ k) d) := by
  cases v with
  | object o =>
    dsimp only [Value.relocate_object]
    rw [hf]
    exact hm.give (.bool (f o)) k d
  | _ => exact hm.give (.bool b) k d

omit hm in
/-- A call of a function that every realm has leads to the same elsewhere. -/
abbrev Calls (ρ : Relocation) (p q : Prop) (h h' : Heap) (r : Realm) (k : List Frame) (d : Nat)
    (b : Builtin) (this : Value) (args : List Value) : Prop :=
  Result.Moved ρ p q (Script.callBuiltin r h b this args k d)
    (Script.callBuiltin (r.relocate ρ) h' b (this.relocate ρ) (args.map (·.relocate ρ))
      (relocateFrames ρ k) d)

/-- A value is made an object. -/
theorem object : Calls ρ p q h h' r k d .object this args := by
  unfold Calls Script.callBuiltin
  simp only [getD_map_relocate]
  obtain ⟨ha, hb⟩ | ⟨g, o, g', ha, hb, hg⟩ := hm.toObject? r (args.getD 0 .undefined)
  · rw [ha, hb]
    exact (hm.newObject r).give k d
  · rw [ha, hb]
    exact hg.give (.object o) k d

/-- The keys that can be listed become an array. -/
theorem objectKeys : Calls ρ p q h h' r k d .objectKeys this args := by
  unfold Calls Script.callBuiltin
  simp only [getD_map_relocate]
  refine hm.withObject r k d _ fun {g g'} hg o => ?_
  rw [hg.obj, Obj.relocate_kind, hg.ownKeys]
  cases (g.obj o).kind with
  | native realm n => exact hg.ask (.keys n) (.keysArray :: k) d
  | _ => exact hg.go (.names (g.ownKeys o)) (.keysArray :: k) d

/-- So do all keys. -/
theorem objectNames : Calls ρ p q h h' r k d .objectNames this args := by
  unfold Calls Script.callBuiltin
  simp only [getD_map_relocate]
  refine hm.withObject r k d _ fun {g g'} hg o => ?_
  have hnames : ((g'.ownFields (ρ.objects o)).map Prod.fst).filter (!·.isSymbol) =
      (((g.ownFields o).map Prod.fst).filter (!·.isSymbol)).map (·.relocate ρ) := by
    rw [hg.ownFields, relocateEntries, List.map_map, List.filter_map, List.filter_map, List.map_map]
    simp [Function.comp_def]
  rw [hg.obj, Obj.relocate_kind, hnames]
  cases (g.obj o).kind with
  | native realm n => exact hg.ask (.keys n) (.keysArray :: k) d
  | _ => exact hg.go (.names _) (.keysArray :: k) d

/-- An error that says which value is refused. -/
theorem refuseValue (reason : String) (v : Value) :
    Result.Moved ρ p q (Script.raise r h "TypeError" (reason ++ v.textOrLabel.toStringLossy) k d)
      (Script.raise (r.relocate ρ) h' "TypeError"
        (reason ++ (v.relocate ρ).textOrLabel.toStringLossy) (relocateFrames ρ k) d) := by
  rw [Value.textOrLabel_relocate]
  exact hm.raise ..

/-- A property is defined as a descriptor says. -/
theorem objectDefineProperty : Calls ρ p q h h' r k d .objectDefineProperty this args := by
  unfold Calls Script.callBuiltin
  simp only [getD_map_relocate]
  cases args.getD 0 .undefined with
  | object o =>
    cases args.getD 2 .undefined with
    | object desc =>
      exact hm.nextDescriptorField r k d o (args.getD 1 .undefined) desc descriptorFields {}
    | _ => exact hm.refuseValue r k d "Property description must be an object: " _
  | _ => exact hm.raise ..

/-- An object is made with a prototype. -/
theorem objectCreate : Calls ρ p q h h' r k d .objectCreate this args := by
  have hmade (proto : Option ObjId) : Result.Moved ρ p q
      (if (args.getD 1 .undefined).isUndefined then
          Script.give (h.alloc { proto }).1 (.object (h.alloc { proto }).2) k d
        else Script.refuseUnavailable r h k d)
      (if (args.getD 1 .undefined).isUndefined then
          Script.give (h'.alloc { proto := proto.map ρ.objects }).1
            (.object (h'.alloc { proto := proto.map ρ.objects }).2) (relocateFrames ρ k) d
        else Script.refuseUnavailable (r.relocate ρ) h' (relocateFrames ρ k) d) := by
    have hobj : Heap.Made ρ p q (h.alloc { proto }) (h'.alloc { proto := proto.map ρ.objects }) :=
      hm.made (fun _ _ heq => by cases heq) (by simp [Obj.relocate, ObjKind.relocate])
    exact .ite (fun _ => hobj.give k d) fun _ => hm.refuseUnavailable r k d
  unfold Calls Script.callBuiltin
  simp only [getD_map_relocate, Value.isUndefined_relocate]
  cases args.getD 0 .undefined with
  | object o => exact hmade (some o)
  | null => exact hmade none
  | _ => exact hm.refuseValue r k d "Object prototype may only be an Object or null: " _

/-- The prototype of an object is set. -/
theorem objectSetProto : Calls ρ p q h h' r k d .objectSetProto this args := by
  unfold Calls Script.callBuiltin
  simp only [getD_map_relocate]
  generalize args.getD 1 .undefined = proto
  have hrefused := hm.refuseValue r k d "Object prototype may only be an Object or null: " proto
  cases args.getD 0 .undefined with
  | undefined => exact hm.raise ..
  | null => exact hm.raise ..
  | object o =>
    cases proto with
    | object p => exact hm.setProto r k d o (some p) (.object o)
    | null => exact hm.setProto r k d o none (.object o)
    | _ => exact hrefused
  | _ =>
    cases proto with
    | object p => exact hm.give _ k d
    | null => exact hm.give _ k d
    | _ => exact hrefused

/-- It is set by way of the property for it. -/
theorem protoSet : Calls ρ p q h h' r k d .protoSet this args := by
  unfold Calls Script.callBuiltin
  simp only [getD_map_relocate]
  cases this with
  | undefined => exact hm.refuseNullish ..
  | null => exact hm.refuseNullish ..
  | object o =>
    cases args.getD 0 .undefined with
    | object p => exact hm.setProto r k d o (some p) .undefined
    | null => exact hm.setProto r k d o none .undefined
    | _ => exact hm.give .undefined k d
  | _ => exact hm.give .undefined k d

/-- An object is looked for among the prototypes of another one. -/
theorem objectIsPrototypeOf : Calls ρ p q h h' r k d .objectIsPrototypeOf this args := by
  unfold Calls Script.callBuiltin
  simp only [getD_map_relocate]
  cases args.getD 0 .undefined with
  | object o =>
    cases this with
    | object p =>
      have hgive := hm.give (.bool (h.inherits p (h.objects.size + 1) (h.obj o).proto)) k d
      dsimp only [Value.relocate_object]
      rw [hm.proto, hm.inherits]
      exact hgive
    | undefined => exact hm.refuseNullish ..
    | null => exact hm.refuseNullish ..
    | _ => exact hm.give (.bool false) k d
  | _ => exact hm.give (.bool false) k d

/-- A function is applied to the items of a list. -/
theorem functionApply : Calls ρ p q h h' r k d .functionApply this args := by
  unfold Calls Script.callBuiltin
  simp only [getD_map_relocate]
  cases args.getD 1 .undefined with
  | undefined => exact hm.go (.apply this (args.getD 0 .undefined) [] false) k d
  | null => exact hm.go (.apply this (args.getD 0 .undefined) [] false) k d
  | object o =>
    have hgo := hm.go (.apply this (args.getD 0 .undefined) (Script.listItems h o) false) k d
    dsimp only [Value.relocate_object]
    rw [hm.listItems]
    exact hgo
  | _ => exact hm.refusePrimitive r k d _

/-- A function is bound to what `this` is to be and to its first arguments. -/
theorem functionBind : Calls ρ p q h h' r k d .functionBind this args := by
  have hrefused := hm.go (.primitive this .text)
      (.toText :: .refusal "Value is not callable: " "" :: k) d
  have hcallable := hm.callable? this
  unfold Calls Script.callBuiltin
  simp only [getD_map_relocate, hcallable]
  cases this with
  | object f =>
    cases h.callable? (.object f) with
    | none => exact hrefused
    | some c =>
      have hname := hm.data? f (.name "name")
      have hlength := hm.data? f (.name "length")
      rw [Key.relocate_name] at hname hlength
      have hbound (name : String) (arity : Nat) :=
        (hm.newFunction r name arity (.bound f (args.getD 0 .undefined) (args.drop 1))).give k d
      dsimp only [Value.relocate_object, Option.map_some]
      simp only [hname, hlength, Option.bind_map, Function.comp_def, arrayLength?_relocate,
        ← List.map_drop, List.length_map]
      rcases h.data? f (.name "name") with _ | v
      · exact hbound _ _
      · cases v <;> exact hbound _ _
  | _ => exact hrefused

/-- A function shows its source. -/
theorem functionToString : Calls ρ p q h h' r k d .functionToString this args := by
  have hsource (o : ObjId) :
      Result.Moved ρ p q (Script.give h (.string (Script.builtinSource h o)) k d)
      (Script.give h' (.string (Script.builtinSource h' (ρ.objects o)))
        (relocateFrames ρ k) d) := by
    rw [hm.builtinSource]
    exact hm.give (.string _) k d
  have hcallable := hm.callable? this
  unfold Calls Script.callBuiltin
  simp only [hcallable]
  rcases h.callable? this with _ | (_ | _ | _ | _)
  · cases this <;> exact hm.raise ..
  · cases this <;> exact hm.give (.ofString _) k d
  all_goals
    cases this with
    | object o => exact hsource o
    | _ => exact hm.raise ..

/-- A function is asked whether something is its instance. -/
theorem functionHasInstance : Calls ρ p q h h' r k d .functionHasInstance this args := by
  have hcallable := hm.callable? this
  unfold Calls Script.callBuiltin
  simp only [getD_map_relocate, hcallable]
  cases this with
  | object f =>
    cases h.callable? (.object f) with
    | none => exact hm.give (.bool false) k d
    | some c => exact hm.ordinaryInstance k d f (args.getD 0 .undefined)
  | _ => exact hm.give (.bool false) k d

/-- A value is asked whether it is an array. -/
theorem arrayIsArray : Calls ρ p q h h' r k d .arrayIsArray this args := by
  unfold Calls Script.callBuiltin
  simp only [getD_map_relocate]
  cases args.getD 0 .undefined with
  | object o =>
    dsimp only [Value.relocate_object]
    rw [hm.obj, Obj.relocate_kind]
    cases (h.obj o).kind <;> exact hm.give (.bool _) k d
  | _ => exact hm.give (.bool false) k d

/-- The methods of arrays want an array. -/
theorem ofArray (b : Builtin) :
    Result.Moved ρ p q
      (match this with
        | .object o =>
          match (h.obj o).kind with
          | .array length _ => Script.arrayMethod r h b o length args k d
          | _ => Script.refuseUnavailable r h k d
        | _ => Script.refuseUnavailable r h k d)
      (match this.relocate ρ with
        | .object o =>
          match (h'.obj o).kind with
          | .array length _ =>
            Script.arrayMethod (r.relocate ρ) h' b o length (args.map (·.relocate ρ))
              (relocateFrames ρ k) d
          | _ => Script.refuseUnavailable (r.relocate ρ) h' (relocateFrames ρ k) d
        | _ => Script.refuseUnavailable (r.relocate ρ) h' (relocateFrames ρ k) d) := by
  cases this with
  | object o =>
    dsimp only [Value.relocate_object]
    rw [hm.obj, Obj.relocate_kind]
    cases (h.obj o).kind with
    | array length resizable => exact hm.arrayMethod ..
    | _ => exact hm.refuseUnavailable r k d
  | _ => exact hm.refuseUnavailable r k d

/-- The methods of texts want a text. -/
theorem ofText (b : Builtin) :
    Result.Moved ρ p q
      (if this.isNullish then Script.refuseNullish r h k d
        else Script.go h (.primitive this .text) (.toText :: .textMethod b args :: k) d)
      (if (this.relocate ρ).isNullish then Script.refuseNullish (r.relocate ρ) h'
        (relocateFrames ρ k) d else Script.go h' (.primitive (this.relocate ρ) .text)
          (.toText :: .textMethod b (args.map (·.relocate ρ)) :: relocateFrames ρ k) d) := by
  rw [Value.isNullish_relocate]
  exact .ite (fun _ => hm.refuseNullish ..) fun _ =>
    hm.go (.primitive this .text) (.toText :: .textMethod b args :: k) d

/-- A new symbol. -/
theorem newSymbol (t : Option Text) :
    Result.Moved ρ p q (Script.give { h with symbols := h.symbols + 1 }
      (.symbol (.free h.symbols t)) k d) (Script.give { h' with symbols := h'.symbols + 1 }
      (.symbol (.free h'.symbols t)) (relocateFrames ρ k) d) := by
  have hsymbols : Heap.Moved ρ p q { h with symbols := h.symbols + 1 }
      { h' with symbols := h'.symbols + 1 } :=
    { hm with symbols := fun n => by simpa [Nat.add_assoc, Nat.add_comm,
      Nat.add_left_comm] using hm.symbols (n + 1) }
  have hnext : ρ.symbols h.symbols = h'.symbols := hm.symbols 0
  have hgive := hsymbols.give (.symbol (.free h.symbols t)) k d
  rwa [Value.relocate_symbol, Symbol.relocate_free, hnext] at hgive

/-- A new symbol is made in both. -/
theorem symbol : Calls ρ p q h h' r k d .symbol this args := by
  unfold Calls Script.callBuiltin
  simp only [getD_map_relocate]
  cases args.getD 0 .undefined with
  | undefined => exact hm.newSymbol k d none
  | _ => exact hm.go (.primitive _ .text) (.toText :: .symbolText :: k) d

/-- A wrapper shows its primitive. -/
theorem primitiveToString (kind : PrimitiveKind) :
    Calls ρ p q h h' r k d (.primitiveToString kind) this args := by
  have htext (v : Value) := hm.give (.string v.textOrSymbol) k d
  unfold Calls Script.callBuiltin
  simp only [getD_map_relocate, hm.primitiveOf?, Value.number?_relocate]
  cases Script.primitiveOf? h kind this with
  | none => exact hm.raise ..
  | some v =>
    cases v with
    | number n => cases (args.getD 0 .undefined).number? <;> exact hm.give (.ofString _) k d
    | symbol s =>
      dsimp only [Option.map_some, Value.relocate_symbol]
      rw [← Value.relocate_symbol, Value.textOrSymbol_relocate]
      exact htext _
    | _ => exact htext _

/-- A wrapper gives its primitive. -/
theorem primitiveValueOf (kind : PrimitiveKind) :
    Calls ρ p q h h' r k d (.primitiveValueOf kind) this args := by
  unfold Calls Script.callBuiltin
  simp only [hm.primitiveOf?]
  cases Script.primitiveOf? h kind this with
  | none => exact hm.raise ..
  | some v => exact hm.give v k d

/-- A symbol gives its text. -/
theorem symbolDescription : Calls ρ p q h h' r k d .symbolDescription this args := by
  unfold Calls Script.callBuiltin
  simp only [hm.primitiveOf?]
  rcases Script.primitiveOf? h .symbol this with _ | v
  · exact hm.raise ..
  · cases v with
    | symbol s =>
      dsimp only [Option.map_some, Value.relocate_symbol]
      rw [Symbol.description_relocate]
      cases s.description with
      | some t => exact hm.give (.string t) k d
      | none => exact hm.give .undefined k d
    | _ => exact hm.raise ..

/-- An error of each kind is made. -/
theorem error (kind : String) : Calls ρ p q h h' r k d (.error kind) this args := by
  unfold Calls Script.callBuiltin
  simp only [getD_map_relocate]
  cases args.getD 0 .undefined with
  | undefined => exact hm.makeError ..
  | _ => exact hm.go (.primitive _ .text) (.toText :: .errorMessage kind :: k) d

/-- An error shows its name and its message. -/
theorem errorToString : Calls ρ p q h h' r k d .errorToString this args := by
  cases this with
  | object o => exact hm.go (.fetch (some o) (.name "name") (.object o)) (.errorName o :: k) d
  | _ => exact hm.raise ..

/-- A constructor is called with a list of arguments. -/
theorem construct : Calls ρ p q h h' r k d .construct this args := by
  have hrefused := hm.raise r "TypeError" "construct: target is not a native object" k d
  unfold Calls Script.callBuiltin
  simp only [getD_map_relocate]
  cases args.getD 0 .undefined with
  | object o =>
    dsimp only [Value.relocate_object]
    rw [hm.obj, Obj.relocate_kind, ← List.map_drop]
    cases (h.obj o).kind with
    | native realm n =>
      dsimp only [ObjKind.relocate]
      by_cases hrealm : realm = r.number
      · rw [if_pos hrealm, Realm.relocate_number, if_pos (congrArg ρ.realms hrealm)]
        exact hm.ask (.construct n (args.drop 1)) k d
      · rw [if_neg hrealm, Realm.relocate_number, if_neg (ρ.realms.injective.ne hrealm)]
        exact hrefused
    | _ => exact hrefused
  | _ => exact hrefused

/-- Every built-in function comes to the same. -/
theorem callBuiltin (b : Builtin) : Calls ρ p q h h' r k d b this args := by
  have harg (i : Nat) := getD_map_relocate (ρ := ρ) args i
  cases b with
  | object => exact hm.object ..
  | objectKeys => exact hm.objectKeys ..
  | objectNames => exact hm.objectNames ..
  | objectDescriptor =>
    unfold Calls Script.callBuiltin
    simp only [harg]
    exact hm.withObject r k d _ fun hg o => hg.go (.keyOf _ (.describe o)) k d
  | objectDefineProperty => exact hm.objectDefineProperty ..
  | objectCreate => exact hm.objectCreate ..
  | objectGetProto =>
    unfold Calls Script.callBuiltin
    simp only [harg]
    exact hm.withObject r k d _ fun hg o => hg.giveProto k d o
  | objectSetProto => exact hm.objectSetProto ..
  | objectIs =>
    unfold Calls Script.callBuiltin
    simp only [harg, Value.same_relocate]
    exact hm.give (.bool _) k d
  | objectHasOwn =>
    unfold Calls Script.callBuiltin
    simp only [harg, Value.isNullish_relocate]
    exact .ite (fun _ => hm.refuseNullish ..) fun _ => hm.go (.keyOf _ (.ownProperty _)) k d
  | objectFreeze =>
    unfold Calls Script.callBuiltin
    simp only [harg]
    exact hm.onObject r k d _ (fun o => (hm.freeze o true).give (.object o) k d) _
  | objectSeal =>
    unfold Calls Script.callBuiltin
    simp only [harg]
    exact hm.onObject r k d _ (fun o => (hm.freeze o false).give (.object o) k d) _
  | objectPreventExtensions =>
    unfold Calls Script.callBuiltin
    simp only [harg]
    exact hm.onObject r k d _ (fun o => (hm.preventExtensions o).give (.object o) k d) _
  | objectIsFrozen =>
    unfold Calls Script.callBuiltin
    simp only [harg]
    exact hm.giveTest k d _ (fun o => hm.isFrozen o true) true
  | objectIsSealed =>
    unfold Calls Script.callBuiltin
    simp only [harg]
    exact hm.giveTest k d _ (fun o => hm.isFrozen o false) true
  | objectIsExtensible =>
    unfold Calls Script.callBuiltin
    simp only [harg]
    exact hm.giveTest k d _ (fun o => congrArg Obj.extensible (hm.obj o)) false
  | objectToString =>
    unfold Calls Script.callBuiltin
    dsimp only
    rw [hm.objectTag]
    exact hm.give (.string _) k d
  | objectToLocaleString =>
    exact hm.withObject r k d this fun hg o =>
      hg.go (.fetch (some o) (.name "toString") this) (.joinFound o :: k) d
  | objectValueOf =>
    unfold Calls Script.callBuiltin
    dsimp only
    obtain ⟨ha, hb⟩ | ⟨g, o, g', ha, hb, hg⟩ := hm.toObject? r this <;> rw [ha, hb]
    · exact hm.refuseNullish ..
    · exact hg.give (.object o) k d
  | objectHasOwnProperty =>
    unfold Calls Script.callBuiltin
    simp only [harg]
    exact hm.go (.keyOf _ (.ownProperty this)) k d
  | objectPropertyIsEnumerable =>
    unfold Calls Script.callBuiltin
    simp only [harg]
    exact hm.go (.keyOf _ (.enumerableProperty this)) k d
  | objectIsPrototypeOf => exact hm.objectIsPrototypeOf ..
  | protoGet => exact hm.withObject r k d this fun hg o => hg.giveProto k d o
  | protoSet => exact hm.protoSet ..
  | function => exact hm.nextFunctionText ..
  | functionCall =>
    unfold Calls Script.callBuiltin
    simp only [harg, ← List.map_drop]
    exact hm.go (.apply this _ (args.drop 1) false) k d
  | functionApply => exact hm.functionApply ..
  | functionBind => exact hm.functionBind ..
  | functionToString => exact hm.functionToString ..
  | functionHasInstance => exact hm.functionHasInstance ..
  | array => exact hm.makeArray ..
  | arrayIsArray => exact hm.arrayIsArray ..
  | arrayJoin =>
    unfold Calls Script.callBuiltin
    simp only [harg]
    obtain ⟨ha, hb⟩ | ⟨g, o, g', ha, hb, hg⟩ := hm.toObject? r this <;> rw [ha, hb]
    · exact hm.refuseNullish ..
    · exact hg.go (.fetch (some o) (.name "length") (.object o))
        (.joinLength o (args.getD 0 .undefined) :: k) d
  | arrayToString =>
    unfold Calls Script.callBuiltin
    dsimp only
    obtain ⟨ha, hb⟩ | ⟨g, o, g', ha, hb, hg⟩ := hm.toObject? r this <;> rw [ha, hb]
    · exact hm.refuseNullish ..
    · exact hg.go (.fetch (some o) (.name "join") (.object o)) (.joinFound o :: k) d
  | arrayPush => exact hm.ofArray ..
  | arrayPop => exact hm.ofArray ..
  | arraySlice => exact hm.ofArray ..
  | arrayConcat => exact hm.ofArray ..
  | arrayIndexOf => exact hm.ofArray ..
  | string =>
    cases args with
    | nil => exact hm.give (.ofString "") k d
    | cons v rest => exact hm.go (.primitive v .text) (.toTextOrSymbol :: k) d
  | stringCharAt => exact hm.ofText ..
  | stringCharCodeAt => exact hm.ofText ..
  | stringIndexOf => exact hm.ofText ..
  | stringSlice => exact hm.ofText ..
  | number =>
    cases args with
    | nil => exact hm.give (.number 0.0) k d
    | cons v rest => exact hm.go (.primitive v .number) (.numberMade false :: k) d
  | boolean =>
    unfold Calls Script.callBuiltin
    simp only [harg, Value.truthy_relocate]
    exact hm.give (.bool _) k d
  | bigint => exact hm.refuseUnavailable r k d
  | symbol => exact hm.symbol ..
  | primitiveToString kind => exact hm.primitiveToString ..
  | primitiveValueOf kind => exact hm.primitiveValueOf ..
  | symbolDescription => exact hm.symbolDescription ..
  | isNaN =>
    unfold Calls Script.callBuiltin
    simp only [harg]
    exact hm.go (.primitive _ .number) (.toNumber :: .numberTest false :: k) d
  | isFinite =>
    unfold Calls Script.callBuiltin
    simp only [harg]
    exact hm.go (.primitive _ .number) (.toNumber :: .numberTest true :: k) d
  | error kind => exact hm.error ..
  | errorToString => exact hm.errorToString ..
  | log level => exact hm.logNext ..
  | noop => exact hm.give .undefined k d
  | construct => exact hm.construct ..
  | unavailable => exact hm.refuseUnavailable r k d

end

end Heap.Moved

end ObjectBridge.Script

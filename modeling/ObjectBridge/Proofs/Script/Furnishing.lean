import ObjectBridge.Proofs.Script.Moved
import ObjectBridge.Script.Step

/-!
# `ObjectBridge.Proofs.Script.Furnishing`: making the same things elsewhere

What is made in two heaps that hold the same things comes to stand at places
that belong together (`Heap.Made`), and the heaps hold the same afterwards.
So it is with every kind of object, and with a whole realm
(`Moved.newRealm`): a realm is the same wherever it is made.
-/

set_option autoImplicit false

namespace ObjectBridge.Script.Heap

variable {ρ : Relocation} {p q : Prop} {h h' : Heap}

/-- The heaps hold the same, and what was made in them belongs together. -/
structure Made (ρ : Relocation) (p q : Prop) (a b : Heap × ObjId) : Prop where
  heap : a.1.Moved ρ p q b.1
  place : b.2 = ρ.objects a.2

/-- What is made, taken apart. -/
theorem Made.split {a b : Heap × ObjId} (hab : Made ρ p q a b) :
    ∃ h o h', a = (h, o) ∧ b = (h', ρ.objects o) ∧ h.Moved ρ p q h' :=
  ⟨a.1, a.2, b.1, rfl, Prod.ext rfl hab.place, hab.heap⟩

/-! ### The first objects of a realm -/

/-- The first objects of a realm that stands from `base` on: prototypes, with
the global object among them. -/
def firstObjects (base : ObjId) : List Obj :=
  let belows : List Obj :=
    [.plain, .function (.builtin .noop), .array 0 true, .primitive (.ofString ""),
      .primitive (.number 0.0), .primitive (.bool false), .plain, .plain, .plain].zipIdx.map
      fun (kind, i) =>
        { kind, proto := if i = 0 then none else some base }
  belows ++ errorKinds.zipIdx.map fun (kind, i) =>
    { proto := some (if i = 0 then base else base + 9)
      fields := #[(.name "name", .hidden (.ofString kind)),
      (.name "message", .hidden (.ofString ""))] }

/-- None of them is native. -/
theorem bare_firstObjects (base : ObjId) : ∀ x ∈ firstObjects base, x.Bare := by
  simp [firstObjects, errorKinds, Obj.Bare]

/-- The realm that stands from `base` on. -/
def realmFrom (number : Nat) (base : ObjId) : Realm where
  number := number
  objectProto := base
  functionProto := base + 1
  arrayProto := base + 2
  stringProto := base + 3
  numberProto := base + 4
  boolProto := base + 5
  symbolProto := base + 6
  bigintProto := base + 7
  global := base + 8
  errorProtos := errorKinds.zipIdx.map fun (kind, i) => (kind, base + (9 + i))

/-- A heap with the first objects of a realm. -/
def withFirst (h : Heap) : Heap :=
  { h with objects := h.objects ++ (firstObjects h.objects.size).toArray }

/-- Where a realm stands, and what its first objects are given. -/
theorem newRealm_eq (h : Heap) (number : Nat) (console : Bool) :
    h.newRealm number console =
      let r := realmFrom number h.objects.size
      (((h.withFirst.putConstructors r).putGlobals r).putHostGlobals r console, r) := by
  -- They are made one after the other.
  rw [withFirst, ← List.foldl_push_eq_append']
  simp [newRealm, alloc, errorKinds, firstObjects, realmFrom, Nat.add_assoc]

namespace Moved

variable (hm : h.Moved ρ p q h') (r : Realm)

include hm

/-! ### Objects -/

/-- An object that is no native one. -/
theorem made {x x' : Obj} (hx : x.Bare) (heq : x' = x.relocate ρ) :
    Made ρ p q (h.alloc x) (h'.alloc x') :=
  ⟨heq ▸ hm.alloc hx, hm.objects.size.symm⟩

/-- A plain object is made. -/
theorem newObject : Made ρ p q (h.newObject r) (h'.newObject (r.relocate ρ)) :=
  hm.made (fun _ _ heq => by cases heq) (by simp [Obj.relocate, ObjKind.relocate])

/-- An array is made. -/
theorem newArray (items : List (Option Value)) :
    Made ρ p q (h.newArray r items)
      (h'.newArray (r.relocate ρ) (items.map (·.map (·.relocate ρ)))) := by
  refine hm.made (fun _ _ heq => by cases heq) ?_
  simp [Obj.relocate, ObjKind.relocate, Function.comp_def]

/-- An object that stands for a primitive is made. -/
theorem newWrapper (kind : PrimitiveKind) (v : Value) :
    Made ρ p q (h.newWrapper r kind v) (h'.newWrapper (r.relocate ρ) kind (v.relocate ρ)) := by
  refine hm.made (fun _ _ heq => by cases heq) ?_
  cases kind <;> simp [Obj.relocate, ObjKind.relocate, Realm.protoOf]

/-- An error is made, with a message or without. -/
theorem newErrorWith (kind : String) (message : Option Text) :
    Made ρ p q (h.newErrorWith r kind message) (h'.newErrorWith (r.relocate ρ) kind message) := by
  refine hm.made (fun _ _ heq => by cases heq) ?_
  simp only [Realm.relocate_errorProtos, lookup_map_snd ρ.objects]
  cases r.errorProtos.lookup kind <;> cases message <;>
    simp [Obj.relocate, ObjKind.relocate, relocateFields]

/-- An error with a message is made. -/
theorem newError (kind message : String) :
    Made ρ p q (h.newError r kind message) (h'.newError (r.relocate ρ) kind message) :=
  hm.newErrorWith r kind _

/-- A native object; there are none of the in-memory host. -/
theorem newNative {o : ObjectRef} (ho : ∀ i, o ≠ .table i) :
    Made ρ p q (h.newNative r o) (h'.newNative (r.relocate ρ) (o.relocate ρ)) := by
  refine hm.made (fun _ i heq => ?_) (by simp [Obj.relocate, ObjKind.relocate])
  injection heq with _ heq
  exact ho i heq

/-- A function is made. -/
theorem newFunction (name : String) (arity : Nat) (c : Callable) :
    Made ρ p q (h.newFunction r name arity c)
      (h'.newFunction (r.relocate ρ) name arity (c.relocate ρ)) := by
  refine hm.made (fun _ _ heq => by cases heq) ?_
  simp [Obj.relocate, ObjKind.relocate, relocateFields]

/-- The function of a method is made. -/
theorem newNativeMethod (o : ObjectRef) (method : String) :
    Made ρ p q (h.newNativeMethod r o method)
      (h'.newNativeMethod (r.relocate ρ) (o.relocate ρ) method) :=
  hm.newFunction r "" 0 (.native o method)

/-- A function every realm has. -/
theorem newBuiltin (name : String) (arity : Nat) (b : Builtin) :
    Made ρ p q (h.newFunction r name arity (.builtin b))
      (h'.newFunction (r.relocate ρ) name arity (.builtin b)) :=
  hm.newFunction r name arity (.builtin b)

/-- A function of a program, with the prototype of what it constructs. -/
theorem newClosure (f : Function) (scope : Option ScopeId) :
    Made ρ p q (h.newClosure r f scope) (h'.newClosure (r.relocate ρ) f (scope.map ρ.scopes)) := by
  have hmade : Made ρ p q _ (h'.newFunction (r.relocate ρ) _ _ (.closure f (scope.map ρ.scopes))) :=
    hm.newFunction r f.head.name f.head.params.length (.closure f scope)
  unfold Heap.newClosure
  obtain ⟨h, o, h', ha, hb, hm⟩ := hmade.split
  rw [ha, hb]
  dsimp only
  split
  · have hproto : Made ρ p q
        (h.alloc { proto := some r.objectProto,
                   fields := #[(.name "constructor", .hidden (.object o))] })
        (h'.alloc
          { proto := some (r.relocate ρ).objectProto
            fields := #[(.name "constructor", .hidden (.object (ρ.objects o)))] }) :=
      hm.made (fun _ _ heq => by cases heq)
        (by simp [Obj.relocate, ObjKind.relocate, relocateFields])
    obtain ⟨h, proto, h', ha, hb, hm⟩ := hproto.split
    rw [ha, hb]
    exact ⟨hm.put o (.name "prototype")
      { slot := .data (.object proto), enumerable := false, configurable := false }, rfl⟩
  · exact ⟨hm, rfl⟩

/-! ### Realms -/

omit hm in
/-- What keeps heaps alike keeps them alike when it is done again and
again. -/
theorem foldl {ι κ : Type} (move : ι → κ) {f : Heap → ι → Heap} {g : Heap → κ → Heap}
    (hfg : ∀ (h h' : Heap) (x : ι), h.Moved ρ p q h' → (f h x).Moved ρ p q (g h' (move x)))
    (hm : h.Moved ρ p q h') (xs : List ι) :
    (xs.foldl f h).Moved ρ p q ((xs.map move).foldl g h') := by
  induction xs generalizing h h' with
  | nil => exact hm
  | cons x rest ih => exact ih (hfg h h' x hm)

/-- The same for things that are not moved. -/
theorem foldl_same {ι : Type} {f g : Heap → ι → Heap}
    (hfg : ∀ (h h' : Heap) (x : ι), h.Moved ρ p q h' → (f h x).Moved ρ p q (g h' x)) (xs : List ι) :
    (xs.foldl f h).Moved ρ p q (xs.foldl g h') := by
  have hfold := foldl id hfg hm xs
  rwa [List.map_id] at hfold

/-- The functions of a library are put into an object. -/
theorem putEntries (o : ObjId) (entries : List Entry) :
    (h.putEntries r o entries).Moved ρ p q
      (h'.putEntries (r.relocate ρ) (ρ.objects o) entries) := by
  refine hm.foldl_same (fun h h' e hm => ?_) entries
  obtain ⟨name, arity, b⟩ := e
  obtain ⟨h, f, h', ha, hb, hm⟩ := (hm.newBuiltin r name arity b).split
  dsimp only
  rw [ha, hb]
  exact hm.put o (.name name) (.hidden (.object f))

/-- A constructor is put, with its prototype. -/
theorem putConstructor (name : String) (arity : Nat) (b : Builtin) (proto : ObjId)
    (entries : List Entry) :
    Made ρ p q (h.putConstructor r name arity b proto entries)
      (h'.putConstructor (r.relocate ρ) name arity b (ρ.objects proto) entries) := by
  obtain ⟨h, f, h', ha, hb, hm⟩ := (hm.newBuiltin r name arity b).split
  unfold Heap.putConstructor
  rw [ha, hb]
  refine ⟨Moved.putEntries ?_ r f entries, rfl⟩
  exact ((hm.put f (.name "prototype") (.fixed (.object proto))).put proto (.name "constructor")
    (.hidden (.object f))).put r.global (.name name) (.hidden (.object f))

/-- An object with functions is put under a name. -/
theorem putLibrary (name : String) (entries : List Entry) :
    (h.putLibrary r name entries).Moved ρ p q (h'.putLibrary (r.relocate ρ) name entries) := by
  obtain ⟨h, o, h', ha, hb, hm⟩ := (hm.newObject r).split
  unfold Heap.putLibrary
  rw [ha, hb]
  exact ((hm.putEntries r o entries).put o (.symbol .toStringTag)
    { slot := .data (.ofString name), writable := false, enumerable := false }).putNamed
      r.global name (.hidden (.object o))

/-- The constructor of a kind of primitives is put. -/
theorem putKind (name : String) (arity : Nat) (b : Builtin) :
    (h.putKind r name arity b).Moved ρ p q (h'.putKind (r.relocate ρ) name arity b) := by
  obtain ⟨h, proto, h', ha, hb, hm⟩ := (hm.newObject r).split
  unfold Heap.putKind
  rw [ha, hb]
  exact (hm.putConstructor r name arity b proto []).heap

/-- The global functions and constants are put. -/
theorem putGlobals : (h.putGlobals r).Moved ρ p q (h'.putGlobals (r.relocate ρ)) := by
  have hfixed := (((hm.putNamed r.global "globalThis" (.hidden (.object r.global))).putNamed
    r.global "undefined" (.fixed .undefined)).putNamed r.global "NaN"
      (.fixed (.number (0.0 / 0.0)))).putNamed r.global "Infinity" (.fixed (.number (1.0 / 0.0)))
  unfold Heap.putGlobals
  exact foldl_same (foldl_same (hfixed.putEntries r r.global Entry.ofGlobal)
    (fun h h' e hm => hm.putLibrary r e.1 e.2) _) (fun h h' e hm => hm.putKind r e.1 e.2.1 e.2.2) _

/-- What all objects have is put. -/
theorem putObjectProto : (h.putObjectProto r).Moved ρ p q (h'.putObjectProto (r.relocate ρ)) := by
  have hentries := hm.putEntries r r.objectProto Entry.ofObjectProto
  unfold Heap.putObjectProto
  generalize h.putEntries r r.objectProto Entry.ofObjectProto = h at hentries
  rw [Realm.relocate_objectProto]
  generalize h'.putEntries (r.relocate ρ) (ρ.objects r.objectProto) Entry.ofObjectProto =
    h' at hentries
  dsimp only
  obtain ⟨h, getter, h', ha, hb, hm⟩ := (hentries.newBuiltin r "get __proto__" 0 .protoGet).split
  rw [ha, hb]
  obtain ⟨h, setter, h', ha, hb, hm⟩ := (hm.newBuiltin r "set __proto__" 1 .protoSet).split
  rw [ha, hb]
  exact hm.putNamed r.objectProto "__proto__"
    { slot := .accessor (.object getter) (.object setter), writable := false, enumerable := false }

/-- What all functions have is put. -/
theorem putFunctionProto :
    (h.putFunctionProto r).Moved ρ p q (h'.putFunctionProto (r.relocate ρ)) := by
  have hnamed := ((hm.putEntries r r.functionProto Entry.ofFunctionProto).putNamed
    r.functionProto "name" (.about (.ofString ""))).putNamed r.functionProto "length"
    (.about (.ofNat 0))
  simp only [Field.relocate_about, Value.relocate_ofString, Value.relocate_ofNat] at hnamed
  obtain ⟨h, f, h', ha, hb, hm⟩ :=
    (hnamed.newBuiltin r "[Symbol.hasInstance]" 1 .functionHasInstance).split
  unfold Heap.putFunctionProto
  dsimp only
  rw [ha, Realm.relocate_functionProto, hb]
  exact hm.put r.functionProto (.symbol .hasInstance) (.fixed (.object f))

/-- What all symbols have is put. -/
theorem putSymbolProto : (h.putSymbolProto r).Moved ρ p q (h'.putSymbolProto (r.relocate ρ)) := by
  have hentries := hm.putEntries r r.symbolProto Entry.ofSymbolProto
  obtain ⟨h, f, h', ha, hb, hm⟩ :=
    (hentries.newBuiltin r "get description" 0 .symbolDescription).split
  unfold Heap.putSymbolProto
  dsimp only
  rw [ha, Realm.relocate_symbolProto, hb]
  exact (hm.putNamed r.symbolProto "description"
    { slot := .accessor (.object f) .undefined, writable := false, enumerable := false }).put
      r.symbolProto (.symbol .toStringTag)
      { slot := .data (.ofString "Symbol"), writable := false, enumerable := false }

/-- All prototypes are furnished. -/
theorem putPrototypes : (h.putPrototypes r).Moved ρ p q (h'.putPrototypes (r.relocate ρ)) := by
  have htexts := ((((((hm.putObjectProto r).putFunctionProto r).putEntries r r.arrayProto
    Entry.ofArrayProto).putEntries r r.stringProto Entry.ofStringProto).putEntries r r.numberProto
      Entry.ofNumberProto).putEntries r r.boolProto Entry.ofBoolProto).putSymbolProto r
  exact (htexts.putEntries r r.bigintProto Entry.ofBigintProto).put r.bigintProto
    (.symbol .toStringTag) { slot := .data (.ofString "BigInt"), writable := false,
                             enumerable := false }

/-- What belongs to numbers is put. -/
theorem putNumber : (h.putNumber r).Moved ρ p q (h'.putNumber (r.relocate ρ)) := by
  obtain ⟨h, number, h', ha, hb, hm⟩ :=
    (hm.putConstructor r "Number" 1 .number r.numberProto Entry.ofNumber).split
  unfold Heap.putNumber
  rw [ha, Realm.relocate_numberProto, hb]
  exact hm.foldl_same (fun h h' e hm => hm.putNamed number e.1 (.fixed (.number e.2))) _

/-- What belongs to symbols is put. -/
theorem putSymbol : (h.putSymbol r).Moved ρ p q (h'.putSymbol (r.relocate ρ)) := by
  obtain ⟨h, symbol, h', ha, hb, hm⟩ :=
    (hm.putConstructor r "Symbol" 0 .symbol r.symbolProto Entry.ofSymbol).split
  unfold Heap.putSymbol
  rw [ha, Realm.relocate_symbolProto, hb]
  -- The symbols the language knows stay where they are.
  have hnumbers : ∀ e ∈ Symbol.allKnown, e.2.number < Symbol.firstFree := by decide
  have hknown : Symbol.allKnown.map (fun e => (e.1, e.2.relocate ρ)) = Symbol.allKnown.map id :=
    List.map_congr_left fun e he => Prod.ext rfl (if_pos (hnumbers e he))
  rw [List.map_id] at hknown
  have hfold := foldl (fun e : String × Symbol => (e.1, e.2.relocate ρ))
    (f := fun h e => h.putNamed symbol e.1 (.fixed (.symbol e.2)))
    (g := fun h e => h.putNamed (ρ.objects symbol) e.1 (.fixed (.symbol e.2)))
    (fun h h' e hm => hm.putNamed symbol e.1 (.fixed (.symbol e.2))) hm Symbol.allKnown
  rwa [hknown] at hfold

/-- The kinds of errors are put. -/
theorem putErrors : (h.putErrors r).Moved ρ p q (h'.putErrors (r.relocate ρ)) := by
  have hfold := foldl (fun e : String × ObjId => (e.1, ρ.objects e.2))
    (f := fun h e => (h.putConstructor r e.1 1 (.error e.1) e.2 []).1)
    (g := fun h e => (h.putConstructor (r.relocate ρ) e.1 1 (.error e.1) e.2 []).1)
    (fun h h' e hm => (hm.putConstructor r e.1 1 (.error e.1) e.2 []).heap) hm r.errorProtos
  unfold Heap.putErrors
  rw [Realm.relocate_errorProtos, lookup_map_snd ρ.objects]
  cases r.errorProtos.lookup "Error" with
  | some p => exact hfold.putEntries r p _
  | none => exact hfold

/-- All constructors are put. -/
theorem putConstructors :
    (h.putConstructors r).Moved ρ p q (h'.putConstructors (r.relocate ρ)) := by
  have hfirst := (((hm.putPrototypes r).putConstructor r "Object" 1 .object r.objectProto
    Entry.ofObject).heap.putConstructor r "Function" 1 .function r.functionProto []).heap
  have htexts := ((hfirst.putConstructor r "Array" 1 .array r.arrayProto
    Entry.ofArray).heap.putConstructor r "String" 1 .string r.stringProto
    Entry.ofString).heap.putNumber r
  have hrest := ((htexts.putConstructor r "Boolean" 1 .boolean r.boolProto []).heap.putConstructor r
    "BigInt" 1 .bigint r.bigintProto Entry.ofBigint).heap
  exact (hrest.putSymbol r).putErrors r

/-- A function of the host is put into an object. -/
theorem putHostFunction (o : ObjId) (name : String) (b : Builtin) :
    (h.putHostFunction r o name b).Moved ρ p q (h'.putHostFunction (r.relocate ρ) (ρ.objects o)
      name b) := by
  obtain ⟨h, f, h', ha, hb, hm⟩ := (hm.newBuiltin r "" 0 b).split
  unfold Heap.putHostFunction
  rw [ha, hb]
  exact hm.putNamed o name (.plain (.object f))

/-- The console is put. -/
theorem putConsole : (h.putConsole r).Moved ρ p q (h'.putConsole (r.relocate ρ)) := by
  obtain ⟨h, c, h', ha, hb, hm⟩ := (hm.newObject r).split
  unfold Heap.putConsole
  rw [ha, hb]
  have hlevels := hm.foldl_same (fun h h' level hm => hm.putHostFunction r c level (.log level))
    ["log", "info", "warn", "error"]
  exact hlevels.putNamed r.global "console" (.plain (.object c))

/-- What the host gives to scripts is put. -/
theorem putHostGlobals (console : Bool) :
    (h.putHostGlobals r console).Moved ρ p q (h'.putHostGlobals (r.relocate ρ) console) := by
  have hput (h h' : Heap) (name : String) (hm : h.Moved ρ p q h') :
      (h.putNamed r.global name (.plain .undefined)).Moved ρ p q
        (h'.putNamed (r.relocate ρ).global name (.plain .undefined)) :=
    hm.putNamed r.global name (.plain .undefined)
  have hgone := hm.foldl_same hput ["require", "process", "module", "exports"]
  have hrest {h h' : Heap} (hm : h.Moved ρ p q h') :
      (((h.putHostFunction r r.global "setTimeout" .noop).putHostFunction r r.global "setInterval"
        .noop).putHostFunction r r.global "construct" .construct).Moved ρ p q
        (((h'.putHostFunction (r.relocate ρ) (r.relocate ρ).global "setTimeout"
          .noop).putHostFunction (r.relocate ρ) (r.relocate ρ).global "setInterval"
            .noop).putHostFunction (r.relocate ρ) (r.relocate ρ).global "construct" .construct) :=
    ((hm.putHostFunction r r.global "setTimeout" .noop).putHostFunction r r.global "setInterval"
      .noop).putHostFunction r r.global "construct" .construct
  cases console with
  | false => exact hrest hgone
  | true => exact hrest (hgone.putConsole r)

/-- The first objects of a realm are made. -/
theorem withFirst : h.withFirst.Moved ρ p q h'.withFirst := by
  have hfirst : (firstObjects h.objects.size).map (·.relocate ρ) =
      firstObjects h'.objects.size := by
    have hbase := hm.objects.size
    have herror := hm.objects.next 9
    simp [firstObjects, errorKinds, Obj.relocate, ObjKind.relocate, Callable.relocate,
      relocateFields, hbase, herror]
  have happend := hm.objects.append (firstObjects h.objects.size)
  rw [hfirst] at happend
  unfold Heap.withFirst
  refine ⟨happend, hm.scopes, hm.symbols, fun x hx => ?_, hm.result, hm.effort⟩
  obtain hx | hx := Array.mem_append.mp hx
  · exact hm.bare x hx
  · exact bare_firstObjects _ x (List.mem_toArray.mp hx)

/-- The realm of these objects is the moved one. -/
theorem realmFrom_relocate (number : Nat) :
    (realmFrom number h.objects.size).relocate ρ = realmFrom (ρ.realms number) h'.objects.size := by
  have hbase := hm.objects.size
  have hnext := hm.objects.next
  simp [realmFrom, errorKinds, Realm.relocate, hbase, hnext]

/-- A realm is the same wherever it is made. -/
theorem newRealm (number : Nat) (console : Bool) :
    (h.newRealm number console).1.Moved ρ p q (h'.newRealm (ρ.realms number) console).1 ∧
      (h'.newRealm (ρ.realms number) console).2 = (h.newRealm number console).2.relocate ρ := by
  rw [newRealm_eq, newRealm_eq, ← hm.realmFrom_relocate]
  exact ⟨((hm.withFirst.putConstructors _).putGlobals _).putHostGlobals _ console, rfl⟩

end Moved

end ObjectBridge.Script.Heap

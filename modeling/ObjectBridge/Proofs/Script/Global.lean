import ObjectBridge.Proofs.Script.Furnishing

/-!
# `ObjectBridge.Proofs.Script.Global`: a global in a new realm

A realm is made of new objects and functions, and of what is stored in them
(`Furniture`): values, of which only those under the keys of `constants`
cannot be written, and two accessors. A property of heaps that all of this
keeps (`Furnished`) is kept by making a realm (`Furnished.newRealm`).

The first thing a new realm is given is a native object under a global
name. The name may be any: it may be taken, also by a constant, and one name
is answered by a setter that every object inherits. In a new realm these are
all the cases there are, because nothing native and no function of a program
stands in the way (`Pristine`, `pristine_newRealm`).

`bound?` says what becomes of the heap, and `run_bind` that a machine which
stores the object comes to the same, without a request to anybody. So the
global, too, takes no notice of what is further down (`bound?_onto`).

The constants of a realm are few. Every other name is free: what stands
under it anywhere may be written (`Writable.newRealm`), so it can be taken
(`exists_bound?`).
-/

set_option autoImplicit false

namespace ObjectBridge.Script

variable {h h' : Heap} {r : Realm} {o p : ObjId} {key : Key} {f : Field} {x : Obj}

/-! ### Objects among the others -/

/-- A new property, or one that was there before. -/
theorem mem_upsertField {fields : Array (Key × Field)} {e : Key × Field}
    (he : e ∈ upsertField key f fields) :
    e = (key, f) ∨ e ∈ fields := by
  unfold upsertField at he
  split at he
  · exact (Array.mem_or_eq_of_mem_setIfInBounds (by simpa using he)).symm
  · exact (Array.mem_push.mp he).symm

/-- The place of a key holds the key. -/
theorem key_of_placeOfKey? {fields : Array (Key × Field)} {n i : Nat}
    (hi : placeOfKey? key fields n = some i) :
    ∃ hlt : i < fields.size, fields[i].1 = key := by
  induction n with
  | zero => cases hi
  | succ n ih =>
    unfold placeOfKey? at hi
    split at hi
    · next hlt =>
      split at hi
      · next hkey =>
        cases hi
        exact ⟨hlt, hkey⟩
      · exact ih hi
    · exact ih hi

/-- The field of a key is among the fields. -/
theorem mem_of_fieldOf? {fields : Array (Key × Field)} (hf : fieldOf? key fields = some f) :
    (key, f) ∈ fields := by
  unfold fieldOf? at hf
  split at hf
  · next hi =>
    obtain ⟨hlt, rfl⟩ := key_of_placeOfKey? hi
    rw [dif_pos hlt] at hf
    cases hf
    exact Array.getElem_mem hlt
  · cases hf

/-- Only symbols that programs made stand elsewhere. -/
theorem Key.relocate_of_not_symbol {ρ : Relocation} (h : key.isSymbol = false) :
    key.relocate ρ = key := by
  cases key with
  | symbol s => cases h
  | _ => rfl

/-- The objects a realm knows. -/
def Realm.objects (r : Realm) : List ObjId :=
  [r.global, r.objectProto, r.functionProto, r.arrayProto, r.stringProto, r.numberProto,
    r.boolProto, r.symbolProto, r.bigintProto] ++ r.errorProtos.map Prod.snd

namespace Heap

/-- What stands under a number is the object of that number. -/
theorem obj_of_getElem? (hx : h.objects[o]? = some x) : h.obj o = x := by
  rw [obj, Array.getD_eq_getD_getElem?, hx, Option.getD_some]

/-- A new object changes no other. -/
theorem getElem?_alloc (hx : h.objects[o]? = some x) (y : Obj) :
    (h.alloc y).1.objects[o]? = some x := by
  obtain ⟨ho, rfl⟩ := Array.getElem?_eq_some_iff.mp hx
  exact Array.getElem?_push_lt ho

/-- Storing a field changes one object. -/
theorem getElem?_put (hx : h.objects[o]? = some x) (q : ObjId) (key : Key) (f : Field) :
    (h.put q key f).objects[o]? = some (if q = o then having x key f else x) := by
  rw [put_eq]
  show (h.objects.modify q _)[o]? = _
  rw [Array.getElem?_modify, hx]
  split <;> rfl

/-- A function stays the function it is. -/
theorem kind_having {c : Callable} (hx : x.kind = .function c) (key : Key) (f : Field) :
    (having x key f).kind = .function c := by
  unfold having
  rw [hx]

/-! ### Making realms -/

/-- The keys of constants in a new realm. -/
def constants : List Key :=
  let names : List String :=
    ["length", "name", "prototype", "__proto__", "description", "undefined", "NaN", "Infinity",
      "POSITIVE_INFINITY", "NEGATIVE_INFINITY", "MAX_VALUE", "MIN_VALUE", "EPSILON",
      "MAX_SAFE_INTEGER", "MIN_SAFE_INTEGER"]
  .symbol .hasInstance :: .symbol .toStringTag :: (names ++ Symbol.allKnown.map Prod.fst).map .name

/-- The keys of constants stay what they are. -/
theorem relocate_constant {ρ : Relocation} (hkey : key ∈ constants) : key.relocate ρ = key := by
  rcases List.mem_cons.mp hkey with rfl | hkey
  · rfl
  · rcases List.mem_cons.mp hkey with rfl | hkey
    · rfl
    · obtain ⟨name, _, rfl⟩ := List.mem_map.mp hkey
      rfl

/-- A value that leads nowhere but to an object of the heap or of the realm. -/
def Near (r : Realm) (h : Heap) : Value → Prop
  | .object o => o < h.objects.size ∨ o ∈ r.objects
  | .symbol s => s.number < Symbol.firstFree
  | _ => True

/-- What is stored while a realm is made: values, of which only those under
the keys of constants cannot be written, and two accessors. One of these is
the prototype of an object, which a setter changes, and the other one stands
with the symbols. -/
inductive Furniture (r : Realm) (h : Heap) (o : ObjId) (key : Key) (f : Field) : Prop
  | value {v : Value} (hv : f.slot = .data v) (hnear : Near r h v)
      (hfree : f.writable = true ∧ key.isSymbol = false ∨ key ∈ constants)
  | setter {g s : ObjId} {x : Obj} (ho : o = r.objectProto) (hslot : f.slot =
      .accessor (.object g) (.object s)) (hg : g < h.objects.size) (hx : h.objects[s]? = some x)
      (hkind : x.kind = .function (.builtin .protoSet)) (hconstant : key ∈ constants)
  | getter {g : ObjId} (ho : o = r.symbolProto) (hslot : f.slot = .accessor (.object g) .undefined)
      (hg : g < h.objects.size) (hconstant : key ∈ constants)

/-- A property of heaps that is kept by all that a realm is made by. The
functions that are made are those every realm has. -/
structure Furnished (r : Realm) (P : Heap → Prop) : Prop where
  object : ∀ {h : Heap}, P h → P (h.newObject r).1
  function : ∀ {h : Heap} (name : String) (arity : Nat) (b : Builtin), P h →
    P (h.newFunction r name arity (.builtin b)).1
  put : ∀ {h : Heap} {o : ObjId} {key : Key} {f : Field}, Furniture r h o key f → P h →
    P (h.put o key f)

/-- What was made last. -/
theorem near_size (r : Realm) (h : Heap) (x : Obj) :
    Near r (h.alloc x).1 (.object h.objects.size) :=
  .inl (by simp [alloc])

/-- Storing a field makes no object. -/
@[simp] theorem size_put (h : Heap) (o : ObjId) (key : Key) (f : Field) :
    (h.put o key f).objects.size = h.objects.size := by
  rw [put_eq]
  exact Array.size_modify

/-- What is near stays near when a field is stored. -/
theorem Near.put {v : Value} (hv : Near r h v) (o : ObjId) (key : Key) (f : Field) :
    Near r (h.put o key f) v := by
  cases v with
  | object p => exact hv.imp_left fun hp => size_put h o key f ▸ hp
  | _ => exact hv

/-- It stays near when an object is made. -/
theorem Near.alloc {v : Value} (hv : Near r h v) (x : Obj) : Near r (h.alloc x).1 v := by
  cases v with
  | object p => exact hv.imp_left fun hp => by simpa [Heap.alloc] using Nat.lt_succ_of_lt hp
  | _ => exact hv

namespace Furnished

variable {P : Heap → Prop} (hk : Furnished r P)

include hk

/-- A value that can be written. -/
theorem putFree (hp : P h) (o : ObjId) (name : String) {v : Value} (hv : f.slot = .data v)
    (hnear : Near r h v) (hf : f.writable = true) : P (h.put o (.name name) f) :=
  hk.put (.value hv hnear (.inl ⟨hf, rfl⟩)) hp

/-- A field under a name may be put anywhere when it can be written. -/
theorem putNamed (hp : P h) (o : ObjId) (name : String) {v : Value} (hv : f.slot = .data v)
    (hnear : Near r h v) (hf : f.writable = true) : P (h.putNamed o name f) :=
  hk.put (.value hv hnear (.inl ⟨hf, Key.isSymbol_ofString name⟩)) hp

/-- A value that need not be writable. -/
theorem putConstant (hp : P h) (o : ObjId) {key : Key} (hkey : key ∈ constants) {v : Value}
    (hv : f.slot = .data v) (hnear : Near r h v) : P (h.put o key f) :=
  hk.put (.value hv hnear (.inr hkey)) hp

/-- Under the name of a constant it need not be. -/
theorem putNamedConstant (hp : P h) (o : ObjId) {name : String}
    (hkey : Key.ofString name ∈ constants) {v : Value} (hv : f.slot = .data v)
    (hnear : Near r h v) : P (h.putNamed o name f) :=
  hk.putConstant hp o hkey hv hnear

/-- Constants may be put one after the other. -/
theorem putConstants {ι : Type} (hp : P h) (o : ObjId) (name : ι → String) (v : ι → Value)
    (xs : List ι) (hxs : ∀ x ∈ xs, Key.ofString (name x) ∈ constants)
    (hnear : ∀ x ∈ xs, ∀ h, Near r h (v x)) :
    P (xs.foldl (fun h x => h.putNamed o (name x) (.fixed (v x))) h) :=
  List.foldlRecOn xs _ hp fun h hp x hx => hk.putNamedConstant hp o (hxs x hx) rfl (hnear x hx h)

/-- The functions of a library may be put into an object. -/
theorem putEntries (hp : P h) (o : ObjId) (entries : List Entry) : P (h.putEntries r o entries) :=
  List.foldlRecOn entries _ hp fun h hp e _ =>
    hk.putFree (hk.function e.1 e.2.1 e.2.2 hp) o _ rfl (near_size r h _) rfl

/-- A constructor may be put, with its prototype. -/
theorem putConstructor {proto : ObjId} (hproto : Near r h (.object proto)) (hp : P h)
    (name : String) (arity : Nat) (b : Builtin) (entries : List Entry) :
    P (h.putConstructor r name arity b proto entries).1 := by
  have hprototype : Key.name "prototype" ∈ constants := by decide
  have hmade := hk.putConstant (hk.function name arity b hp) h.objects.size hprototype
    (f := .fixed (.object proto)) rfl (hproto.alloc _)
  exact hk.putEntries (hk.putFree (hk.putFree hmade proto _ rfl ((near_size r h _).put _ _ _) rfl)
    r.global _ rfl (((near_size r h _).put _ _ _).put _ _ _) rfl) _ entries

/-- It is kept together with the knowledge that there is an object. -/
theorem keeping (o : ObjId) : Furnished r fun h => P h ∧ o < h.objects.size where
  object hp := ⟨hk.object hp.1, by simpa [newObject, alloc] using Nat.lt_succ_of_lt hp.2⟩
  function name arity b hp :=
    ⟨hk.function name arity b hp.1, by simpa [newFunction, alloc] using Nat.lt_succ_of_lt hp.2⟩
  put hf hp := ⟨hk.put hf hp.1, by simpa using hp.2⟩

/-- So a new object may be furnished first and stored then. -/
theorem putObject (hp : P h) {g : Heap → Heap}
    (hg : ∀ {P : Heap → Prop}, Furnished r P → ∀ {h : Heap}, P h → P (g h)) (o : ObjId)
    (name : String) (hf : f.slot = .data (.object h.objects.size)) (hfree : f.writable = true) :
    P ((g (h.newObject r).1).putNamed o name f) := by
  obtain ⟨hp, hlt⟩ := hg (hk.keeping h.objects.size) (h := (h.newObject r).1)
    ⟨hk.object hp, by simp [newObject, alloc]⟩
  exact hk.putNamed hp o name hf (.inl hlt) hfree

/-- An object with functions may be put under a name. -/
theorem putLibrary (hp : P h) (name : String) (entries : List Entry) :
    P (h.putLibrary r name entries) := by
  have htag : Key.symbol .toStringTag ∈ constants := by decide
  exact hk.putObject hp (fun hk _ hp => hk.putConstant (hk.putEntries hp h.objects.size entries) _
    htag rfl (by trivial)) _ _ rfl rfl

/-- The constructor of a kind of primitives may be put. -/
theorem putKind (hp : P h) (name : String) (arity : Nat) (b : Builtin) :
    P (h.putKind r name arity b) :=
  hk.putConstructor (near_size r h _) (hk.object hp) name arity b []

/-- The global functions and constants may be put. -/
theorem putGlobals (hp : P h) : P (h.putGlobals r) := by
  have hundefined : Key.ofString "undefined" ∈ constants := by decide
  have hnan : Key.ofString "NaN" ∈ constants := by decide
  have hinfinity : Key.ofString "Infinity" ∈ constants := by decide
  have hthis : Near r h (.object r.global) := .inr (by simp [Realm.objects])
  refine List.foldlRecOn _ _ (List.foldlRecOn _ _ (hk.putEntries ?_ _ _)
    fun _ hp e _ => hk.putLibrary hp e.1 e.2) fun _ hp e _ => hk.putKind hp e.1 e.2.1 e.2.2
  refine hk.putNamedConstant
    (hk.putNamedConstant (hk.putNamedConstant ?_ _ hundefined rfl (by trivial)) _ hnan rfl
    (by trivial)) _ hinfinity rfl (by trivial)
  exact hk.putNamed hp _ _ rfl hthis rfl

/-- A function of the host may be put into an object. -/
theorem putHostFunction (hp : P h) (o : ObjId) (name : String) (b : Builtin) :
    P (h.putHostFunction r o name b) :=
  hk.putNamed (hk.function "" 0 b hp) o name rfl (near_size r h _) rfl

/-- The console may be put. -/
theorem putConsole (hp : P h) : P (h.putConsole r) :=
  hk.putObject hp (fun hk _ hp => List.foldlRecOn ["log", "info", "warn", "error"] _ hp
    fun _ hp level _ =>
    hk.putHostFunction hp h.objects.size level (.log level)) _ _ rfl rfl

/-- What the host gives to scripts may be put, with a console or without. -/
theorem putHostGlobals (hp : P h) (console : Bool) : P (h.putHostGlobals r console) := by
  have hgone : P (["require", "process", "module", "exports"].foldl
      (fun h name => h.putNamed r.global name (.plain .undefined)) h) :=
    List.foldlRecOn _ _ hp fun _ hp _ _ => hk.putNamed hp _ _ rfl (by trivial) rfl
  unfold Heap.putHostGlobals
  refine hk.putHostFunction (hk.putHostFunction (hk.putHostFunction ?_ _ _ _) _ _ _) _ _ _
  cases console with
  | false => exact hgone
  | true => exact hk.putConsole hgone

/-- What all objects have may be put. -/
theorem putObjectProto (hp : P h) : P (h.putObjectProto r) := by
  have hproto : Key.ofString "__proto__" ∈ constants := by decide
  unfold Heap.putObjectProto
  refine hk.put (.setter rfl rfl ?_ Array.getElem?_push_size rfl hproto) (hk.function _ _ _
    (hk.function _ _ _ (hk.putEntries hp _ _)))
  simp

/-- What all functions have may be put. -/
theorem putFunctionProto (hp : P h) : P (h.putFunctionProto r) := by
  have hname : Key.ofString "name" ∈ constants := by decide
  have hlength : Key.ofString "length" ∈ constants := by decide
  have hinstance : Key.symbol .hasInstance ∈ constants := by decide
  unfold Heap.putFunctionProto
  refine hk.putConstant (hk.function _ _ _ (hk.putNamedConstant (hk.putNamedConstant
    (hk.putEntries hp _ _) _ hname rfl (by trivial)) _ hlength rfl (by trivial))) _ hinstance rfl
    (near_size r _ _)

/-- What all symbols have may be put. -/
theorem putSymbolProto (hp : P h) : P (h.putSymbolProto r) := by
  have hdescription : Key.ofString "description" ∈ constants := by decide
  have htag : Key.symbol .toStringTag ∈ constants := by decide
  unfold Heap.putSymbolProto
  refine hk.putConstant (hk.put (.getter rfl rfl ?_ hdescription)
    (hk.function _ _ _ (hk.putEntries hp _ _))) _ htag rfl (by trivial)
  simp [newFunction, alloc]

/-- All prototypes may be furnished. -/
theorem putPrototypes (hp : P h) : P (h.putPrototypes r) := by
  have htag : Key.symbol .toStringTag ∈ constants := by decide
  unfold Heap.putPrototypes
  refine hk.putConstant (hk.putEntries (hk.putSymbolProto ?_) _ _) _ htag rfl (by trivial)
  exact hk.putEntries (hk.putEntries
    (hk.putEntries (hk.putEntries (hk.putFunctionProto (hk.putObjectProto hp)) _ _) _ _) _ _) _ _

/-- What belongs to numbers may be put. -/
theorem putNumber (hp : P h) : P (h.putNumber r) := by
  have hnumbers : ∀ name ∈ knownNumbers.map Prod.fst, Key.ofString name ∈ constants := by decide
  have hproto : Near r h (.object r.numberProto) := .inr (by simp [Realm.objects])
  have hmade := hk.putConstructor hproto hp "Number" 1 .number
    Entry.ofNumber
  unfold Heap.putNumber
  generalize h.putConstructor r "Number" 1 .number r.numberProto Entry.ofNumber = made at hmade ⊢
  exact hk.putConstants hmade made.2 Prod.fst (.number ·.2) knownNumbers
    (fun e he => hnumbers e.1 (List.mem_map_of_mem he)) fun _ _ _ => trivial

/-- What belongs to symbols may be put. -/
theorem putSymbol (hp : P h) : P (h.putSymbol r) := by
  have hsymbols : ∀ e ∈ Symbol.allKnown, Key.ofString e.1 ∈ constants := by decide
  have hknown : ∀ e ∈ Symbol.allKnown, e.2.number < Symbol.firstFree := by decide
  have hproto : Near r h (.object r.symbolProto) := .inr (by simp [Realm.objects])
  have hmade := hk.putConstructor hproto hp "Symbol" 0 .symbol
    Entry.ofSymbol
  unfold Heap.putSymbol
  generalize h.putConstructor r "Symbol" 0 .symbol r.symbolProto Entry.ofSymbol = made at hmade ⊢
  exact hk.putConstants hmade made.2 Prod.fst (.symbol ·.2) Symbol.allKnown hsymbols fun e he _ =>
    hknown e he

/-- The kinds of errors may be put. -/
theorem putErrors (hp : P h) : P (h.putErrors r) := by
  have hfold : P (r.errorProtos.foldl (fun h e => (h.putConstructor r e.1 1 (.error e.1) e.2 []).1)
      h) :=
    List.foldlRecOn _ _ hp fun _ hp e he =>
      hk.putConstructor (.inr (List.mem_append_right _ (List.mem_map_of_mem he))) hp _ _ _ _
  unfold Heap.putErrors
  dsimp only
  split
  · exact hk.putEntries hfold _ _
  · exact hfold

/-- All constructors may be put. -/
theorem putConstructors (hp : P h) : P (h.putConstructors r) := by
  have hobject {h : Heap} (hp : P h) (name : String) (arity : Nat) (b : Builtin) {proto : ObjId}
      (entries : List Entry) (hproto : proto ∈ r.objects) :
      P (h.putConstructor r name arity b proto entries).1 :=
    hk.putConstructor (.inr hproto) hp name arity b entries
  unfold Heap.putConstructors
  refine hk.putErrors (hk.putSymbol (hobject (hobject (hk.putNumber (hobject (hobject
    (hobject (hobject (hk.putPrototypes hp) _ _ _ _ ?_) _ _ _ _ ?_) _ _ _ _ ?_) _ _ _ _ ?_)) _ _ _ _
    ?_) _ _ _ _ ?_))
  all_goals simp [Realm.objects]

omit hk in
/-- So it is kept by making a realm on top of the first objects. -/
theorem newRealm {number : Nat} (hk : Furnished (realmFrom number h.objects.size) P)
    (hp : P h.withFirst) (console : Bool) : P (h.newRealm number console).1 := by
  rw [newRealm_eq]
  exact hk.putHostGlobals (hk.putGlobals (hk.putConstructors hp)) console

end Furnished

/-! ### Realms that nothing was done in -/

/-- A property with a value, or with the setter that changes the
prototype. -/
def Harmless (h : Heap) : Slot → Prop
  | .data _ => True
  | .accessor _ set => ∃ s x, set = .object s ∧ h.objects[s]? = some x ∧
    x.kind = .function (.builtin .protoSet)

/-- The global object of a realm and the one prototype it has are plain
objects, and have no properties that could lead elsewhere. -/
structure Pristine (h : Heap) (r : Realm) : Prop where
  global : ∃ fields, h.objects[r.global]? = some { proto := some r.objectProto, fields } ∧
    ∀ e ∈ fields, ∃ v, e.2.slot = .data v
  proto : ∃ fields, h.objects[r.objectProto]? = some { fields } ∧ ∀ e ∈ fields, h.Harmless e.2.slot

/-- A new object does no harm to a slot. -/
theorem Harmless.alloc {s : Slot} (hs : h.Harmless s) (y : Obj) : (h.alloc y).1.Harmless s := by
  cases s with
  | data v => trivial
  | accessor g set =>
    obtain ⟨s, x, hset, hx, hkind⟩ := hs
    exact ⟨s, x, hset, getElem?_alloc hx y, hkind⟩

/-- Neither does a field that is stored. -/
theorem Harmless.put {s : Slot} (hs : h.Harmless s) (o : ObjId) (key : Key) (f : Field) :
    (h.put o key f).Harmless s := by
  cases s with
  | data v => trivial
  | accessor g set =>
    obtain ⟨s, x, hset, hx, hkind⟩ := hs
    refine ⟨s, _, hset, getElem?_put hx o key f, ?_⟩
    split
    · exact kind_having hkind key f
    · exact hkind

namespace Pristine

/-- Nothing was done in a realm when another object is made. -/
theorem alloc (hp : h.Pristine r) (y : Obj) : (h.alloc y).1.Pristine r := by
  obtain ⟨⟨fields, hglobal, hdata⟩, ⟨fields', hproto, hharmless⟩⟩ := hp
  exact ⟨⟨fields, getElem?_alloc hglobal y, hdata⟩,
    ⟨fields', getElem?_alloc hproto y, fun e he => (hharmless e he).alloc y⟩⟩

/-- A field may be put where no setter and no native object comes of it. -/
theorem putWhere (hp : h.Pristine r) (o : ObjId) (key : Key)
    (hdata : o = r.global → ∃ v, f.slot = .data v)
    (hharmless : o = r.objectProto → h.Harmless f.slot) : (h.put o key f).Pristine r := by
  obtain ⟨⟨fields, hglobal, hall⟩, ⟨fields', hproto, hall'⟩⟩ := hp
  have hplain (x : Obj) (hx : x.kind = .plain) : having x key f =
      { x with fields := upsertField key f x.fields } := by
    unfold having
    rw [hx]
  -- Both objects are plain, so the field is among their fields afterwards.
  refine ⟨?_, ?_⟩
  · rw [getElem?_put hglobal o key f]
    split
    · next heq =>
      refine ⟨_, congrArg some (hplain _ rfl), fun e he => ?_⟩
      obtain rfl | he := mem_upsertField he
      · exact hdata heq
      · exact hall e he
    · exact ⟨fields, rfl, hall⟩
  · rw [getElem?_put hproto o key f]
    split
    · next heq =>
      refine ⟨_, congrArg some (hplain _ rfl), fun e he => ?_⟩
      obtain rfl | he := mem_upsertField he
      · exact (hharmless heq).put o key f
      · exact (hall' e he).put o key f
    · exact ⟨fields', rfl, fun e he => (hall' e he).put o key f⟩

/-- A value does no harm anywhere. -/
theorem put (hp : h.Pristine r) (o : ObjId) (key : Key) {v : Value} (hv : f.slot = .data v) :
    (h.put o key f).Pristine r :=
  hp.putWhere o key (fun _ => ⟨v, hv⟩) fun _ => hv ▸ trivial

end Pristine

/-- Of the two accessors one has a harmless setter, and the other one stands
elsewhere. -/
theorem furnished_pristine (hglobal : r.symbolProto ≠ r.global)
    (hproto : r.symbolProto ≠ r.objectProto) (hne : r.objectProto ≠ r.global) :
    Furnished r (·.Pristine r) where
  object hp := hp.alloc _
  function _ _ _ hp := hp.alloc _
  put hf hp := by
    cases hf with
    | value hv _ _ => exact hp.put _ _ hv
    | setter ho hslot _ hx hkind _ =>
      exact hp.putWhere _ _ (fun h => absurd (ho.symm.trans h) hne) fun _ =>
        hslot ▸ ⟨_, _, rfl, hx, hkind⟩
    | getter ho _ _ _ =>
      exact hp.putWhere _ _ (fun h => absurd (ho.symm.trans h) hglobal) fun h =>
        absurd (ho.symm.trans h) hproto

/-- Nothing was done in a new realm. -/
theorem pristine_newRealm (h : Heap) (number : Nat) (console : Bool) :
    (h.newRealm number console).1.Pristine (h.newRealm number console).2 := by
  have hrealm : (h.newRealm number console).2 = realmFrom number h.objects.size := by
    rw [newRealm_eq]
  rw [hrealm]
  refine (furnished_pristine ?_ ?_ ?_).newRealm ⟨⟨#[], ?_, by simp⟩, ⟨#[], ?_, by simp⟩⟩ console
  -- The first objects have no properties, and their places differ.
  all_goals simp [withFirst, realmFrom, firstObjects]

/-! ### Names that are no constants -/

/-- A value that may be written. -/
def IsFree (f : Field) : Prop := f.writable = true ∧ ∃ v, f.slot = .data v

/-- What stands under the key in an object, if anything, is a value that may
be written. -/
def HasWritable (key : Key) (x : Obj) : Prop := ∀ e ∈ x.fields, e.1 = key → IsFree e.2

/-- What stands under the key in any object is such a value. -/
def Writable (key : Key) (h : Heap) : Prop := ∀ x ∈ h.objects, HasWritable key x

namespace Writable

/-- Where nothing is, nothing keeps a name from being written. -/
theorem empty (key : Key) : ({} : Heap).Writable key :=
  fun x hx => absurd hx (Array.not_mem_empty x)

/-- So it is in an object of the heap, or where there is none. -/
theorem obj (hw : h.Writable key) (o : ObjId) : HasWritable key (h.obj o) := by
  unfold Heap.obj
  rw [Array.getD_eq_getD_getElem?]
  cases hx : h.objects[o]? with
  | none => exact fun e he => absurd he (Array.not_mem_empty _)
  | some x => exact hw x (Array.mem_of_getElem? hx)

/-- A new object may have the name, when it can be written there. -/
theorem alloc (hw : h.Writable key) {y : Obj} (hy : HasWritable key y) :
    (h.alloc y).1.Writable key := by
  intro x hx
  rcases Array.mem_push.mp hx with hx | rfl
  · exact hw x hx
  · exact hy

/-- A field that can be written under its own name keeps nothing from being
written. -/
theorem of_having (hx : HasWritable key x) {key' : Key} (hf : key' = key → IsFree f) :
    HasWritable key (having x key' f) := by
  have hupsert : ∀ e ∈ upsertField key' f x.fields, e.1 = key → IsFree e.2 := by
    intro e he hkey
    rcases mem_upsertField he with rfl | he
    · exact hf hkey
    · exact hx e he hkey
  unfold having
  split
  · dsimp only
    split
    · exact hx
    · exact hupsert
  · exact hupsert

/-- So it is for a field that is stored. -/
theorem put (hw : h.Writable key) (o : ObjId) {key' : Key} (hf : key' = key → IsFree f) :
    (h.put o key' f).Writable key := by
  rw [put_eq]
  intro x hx
  obtain ⟨i, hi, rfl⟩ := Array.mem_iff_getElem.mp hx
  have hi' : i < h.objects.size := by simpa [modifyObj, charge] using hi
  have hold := hw h.objects[i] (Array.getElem_mem hi')
  simp only [modifyObj, charge, Array.getElem_modify]
  split
  · exact of_having hold hf
  · exact hold

/-- A plain object has no fields. -/
theorem newObject (hw : h.Writable key) (r : Realm) : (h.newObject r).1.Writable key :=
  hw.alloc fun _ he => absurd he (Array.not_mem_empty _)

/-- A native object has none either. -/
theorem newNative (hw : h.Writable key) (r : Realm) (ref : ObjectRef) :
    (h.newNative r ref).1.Writable key :=
  hw.alloc fun _ he => absurd he (Array.not_mem_empty _)

variable (hkey : key ∉ constants)

include hkey

/-- A function has constant fields of its own, under other names. -/
theorem newFunction (hw : h.Writable key) (r : Realm) (name : String) (arity : Nat) (b : Builtin) :
    (h.newFunction r name arity (.builtin b)).1.Writable key := by
  have hlength : Key.name "length" ∈ constants := by decide
  have hname : Key.name "name" ∈ constants := by decide
  refine hw.alloc fun e he heq => ?_
  subst heq
  rcases List.mem_pair.mp (Array.mem_def.mp he) with rfl | rfl
  · exact absurd hlength hkey
  · exact absurd hname hkey

/-- A constant has another name. -/
theorem put_constant (hw : h.Writable key) (o : ObjId) {key' : Key} (hkey' : key' ∈ constants) :
    (h.put o key' f).Writable key := hw.put o fun heq => absurd (heq ▸ hkey') hkey

/-- Nothing under a free key becomes a constant while a realm is made. -/
theorem furnished (r : Realm) : Furnished r (Writable key) where
  object hw := hw.newObject r
  function name arity b hw := newFunction hkey hw r name arity b
  put hf hw := by
    -- Both accessors stand under keys of constants.
    cases hf with
    | value hv _ hfree =>
      rcases hfree with ⟨hwritable, _⟩ | hconstant
      · exact hw.put _ fun _ => ⟨hwritable, _, hv⟩
      · exact hw.put_constant hkey _ hconstant
    | setter _ _ _ _ _ hconstant => exact hw.put_constant hkey _ hconstant
    | getter _ _ _ hconstant => exact hw.put_constant hkey _ hconstant

/-- A new realm keeps only the names of constants from being written. -/
theorem newRealm (hw : h.Writable key) (number : Nat) (console : Bool) :
    (h.newRealm number console).1.Writable key := by
  refine (furnished hkey _).newRealm (fun x hx e he heq => ?_) console
  rcases Array.mem_append.mp hx with hx | hx
  · exact hw x hx e he heq
  · simp [firstObjects, errorKinds] at hx
    rcases hx with rfl | rfl | rfl | rfl | rfl | rfl | rfl | rfl | rfl | rfl | rfl | rfl | rfl | rfl
      | rfl | rfl <;> simp at he <;> rcases he with rfl | rfl <;> exact ⟨rfl, _, rfl⟩

end Writable

/-! ### Storing the global -/

/-- What becomes of the heap of a new realm when an object is stored under a
global name, and in how many steps. Nothing is stored under the name of a
constant. -/
def bound? (h : Heap) (r : Realm) (key : Key) (p : ObjId) : Option (Heap × Nat) :=
  match fieldOf? key (h.obj r.global).fields with
  | some f => if f.writable then some (h.put r.global key { f with slot := .data (.object p) }, 2)
  else none
  | none =>
    match fieldOf? key (h.obj r.objectProto).fields with
    | some { slot := .accessor _ _, .. } =>
      some (h.modifyObj r.global fun x => { x with proto := some p }, 4)
    | some { writable := false, .. } => none
    | _ => some (h.put r.global key (.plain (.object p)), 2)

/-- No object is made for that. -/
theorem size_bound? {r : Realm} {p : ObjId} {used : Nat}
    (hbound : h.bound? r key p = some (h', used)) :
    h'.objects.size = h.objects.size := by
  unfold bound? at hbound
  split at hbound
  · split at hbound <;> cases hbound
    exact size_put ..
  · split at hbound <;> cases hbound
    · exact Array.size_modify
    · exact size_put ..

/-- Under any other key the object is stored. -/
theorem exists_bound? (hw : h.Writable key) (r : Realm) (p : ObjId) :
    ∃ f, f.slot = .data (.object p) ∧ h.bound? r key p = some (h.put r.global key f, 2) := by
  unfold bound?
  cases hglobal : fieldOf? key (h.obj r.global).fields with
  | some f =>
    obtain ⟨hwritable, _⟩ := hw.obj _ _ (mem_of_fieldOf? hglobal) rfl
    exact ⟨_, rfl, if_pos hwritable⟩
  | none =>
    cases hproto : fieldOf? key (h.obj r.objectProto).fields with
    | none => exact ⟨_, rfl, rfl⟩
    | some f =>
      obtain ⟨hwritable, v, hv⟩ := hw.obj _ _ (mem_of_fieldOf? hproto) rfl
      obtain ⟨slot, writable, enumerable, configurable⟩ := f
      obtain rfl : writable = true := hwritable
      obtain rfl : slot = .data v := hv
      exact ⟨_, rfl, rfl⟩

/-- A plain object has the fields that were stored. -/
theorem own?_plain (hx : h.objects[o]? = some x) (hkind : x.kind = .plain) (key : Key) :
    h.own? o key = fieldOf? key x.fields := by
  unfold own?
  rw [obj_of_getElem? hx]
  dsimp only
  rw [hkind]

/-- How a store in a new realm is decided. -/
theorem store_pristine (hp : h.Pristine r) (key : Key) (v : Value) :
    h.store r.global key v =
      match fieldOf? key (h.obj r.global).fields with
      | some f => if f.writable then .put { f with slot := .data v } else .refused (readOnly key)
      | none =>
        match fieldOf? key (h.obj r.objectProto).fields with
        | some { slot := .accessor _ set, .. } => .setter set
        | some { writable := false, .. } => .refused (readOnly key)
        | _ => .put (.plain v) := by
  obtain ⟨⟨fields, hglobal, hdata⟩, ⟨fields', hproto, hharmless⟩⟩ := hp
  rw [obj_of_getElem? hglobal, obj_of_getElem? hproto]
  unfold store
  rw [own?_plain hglobal rfl]
  dsimp only
  -- The global object has data fields only, and one of its own settles the store.
  cases hown : fieldOf? key fields with
  | some f =>
    obtain ⟨w, hw⟩ : ∃ w, f.slot = .data w := hdata _ (mem_of_fieldOf? hown)
    simp only [hw, obj_of_getElem? hglobal]
  | none =>
    have hadd : h.addField r.global key v = .put (.plain v) := by
      unfold addField
      rw [obj_of_getElem? hglobal]
      rfl
    have hsize : h.objects.size ≠ 0 := by
      obtain ⟨hlt, _⟩ := Array.getElem?_eq_some_iff.mp hglobal
      omega
    -- The prototype of all objects inherits nothing, so the search ends there.
    have hfind : h.find (some r.objectProto) key = match fieldOf? key fields' with
        | some f => .field f
        | none => .none := by
      obtain ⟨n, hn⟩ := Nat.exists_eq_succ_of_ne_zero hsize
      unfold find
      rw [hn]
      unfold findFrom
      dsimp only
      rw [own?_plain hproto rfl, obj_of_getElem? hproto]
      cases fieldOf? key fields' <;> rfl
    unfold storeBelow
    rw [obj_of_getElem? hglobal, hfind]
    cases hinherited : fieldOf? key fields' with
    | none => exact hadd
    | some f =>
      have hharm := hharmless _ (mem_of_fieldOf? hinherited)
      obtain ⟨slot, writable, enumerable, configurable⟩ := f
      cases slot with
      | data w => cases writable <;> simp [hadd]
      | accessor g s =>
        obtain ⟨_, _, rfl, _⟩ := hharm
        rfl

/-- Under the key of no constant a value is stored. -/
theorem exists_store_put (hp : h.Pristine r) (hw : h.Writable key) (v : Value) :
    ∃ f, f.slot = .data v ∧ h.store r.global key v = .put f := by
  rw [store_pristine hp]
  cases hglobal : fieldOf? key (h.obj r.global).fields with
  | some f =>
    obtain ⟨hwritable, _⟩ := hw.obj _ _ (mem_of_fieldOf? hglobal) rfl
    exact ⟨_, rfl, if_pos hwritable⟩
  | none =>
    cases hproto : fieldOf? key (h.obj r.objectProto).fields with
    | none => exact ⟨_, rfl, rfl⟩
    | some f =>
      obtain ⟨hwritable, w, hw⟩ := hw.obj _ _ (mem_of_fieldOf? hproto) rfl
      obtain ⟨slot, writable, enumerable, configurable⟩ := f
      obtain rfl : writable = true := hwritable
      obtain rfl : slot = .data w := hw
      exact ⟨_, rfl, rfl⟩

/-- Storing a field is some work. -/
theorem effort_put (h : Heap) (o : ObjId) (key : Key) (f : Field) :
    (h.put o key f).effort = h.effort + weight key f := by
  rw [put_eq]
  rfl

/-- It is little work to store an object. -/
theorem weight_object_le (key : Key) (o : ObjId) (hf : f.slot = .data (.object o)) :
    weight key f ≤ 2 := by
  unfold weight
  rw [hf]
  cases key <;> simp

end Heap

/-! ### Running the store -/

variable {limit : Nat} {m m' : Machine}

/-- A step that is not too much work leads to the next one. -/
theorem run_next (hstep : step r limit h m = (h', .next m')) (heffort : h'.effort ≤ mostEffort)
    (fuel : Nat) :
    run r limit (fuel + 1) h m = run r limit fuel h' m' := by
  rw [run, hstep]
  exact if_neg (Nat.not_lt.mpr heffort)

/-- A step that ends ends the run. -/
theorem run_done {outcome : Outcome} (hstep : step r limit h m = (h', .done outcome)) (fuel : Nat) :
    run r limit (fuel + 1) h m = (h', fuel, .done outcome) := by
  rw [run, hstep]

open Heap

section

variable {n : Nat} {ref : ObjectRef} (hp : h.Pristine r) (heffort : h.effort = 0)

include hp

/-- The first step decides how the object is stored. -/
theorem step_store (key : Key) (p : ObjId) :
    step r limit h { control := .store r.global key (.object p) true } =
      carryOut r h (h.store r.global key (.object p)) r.global key (.object p) true [] 0 := by
  obtain ⟨⟨fields, hglobal, _⟩, _⟩ := hp
  show stepStore r h r.global key (.object p) true [] 0 = _
  unfold stepStore
  rw [obj_of_getElem? hglobal]

include heffort

/-- The object is stored in two steps. -/
theorem run_put (hstore : h.store r.global key (.object p) = .put f)
    (hf : f.slot = .data (.object p)) (fuel : Nat) :
    run r limit (fuel + 2) h { control := .store r.global key (.object p) true } =
      (h.put r.global key f, fuel, .done (.value (.object p))) := by
  have hstep : step r limit h { control := .store r.global key (.object p) true } = _ :=
    step_store hp key p
  rw [hstore] at hstep
  refine (run_next hstep ?_ (fuel + 1)).trans (run_done rfl fuel)
  have hweight := weight_object_le key p hf
  rw [effort_put, heffort]
  unfold mostEffort
  omega

/-- When it cannot be stored, an error is thrown in two steps. -/
theorem run_refused {message : String}
    (hstore : h.store r.global key (.object p) = .refused message) :
    ∃ h' e, ∀ fuel, run r limit (fuel + 2) h { control := .store r.global key (.object p) true } =
      (h', fuel, .done (.thrown e)) := by
  have hstep : step r limit h { control := .store r.global key (.object p) true } = _ :=
    step_store hp key p
  rw [hstore] at hstep
  refine ⟨_, _, fun fuel => (run_next hstep ?_ (fuel + 1)).trans (run_done rfl fuel)⟩
  show h.effort ≤ _
  rw [heffort]
  exact Nat.zero_le _

omit heffort in
/-- A native object of the realm has the global object not above it. -/
theorem inherits_native (hnative : h.objects[p]? =
    some { kind := .native n ref, proto := some r.objectProto }) :
    (h.obj r.global).proto ≠ some p ∧
      h.inherits r.global (h.objects.size + 1) (some p) = false := by
  obtain ⟨⟨fields, hglobal, _⟩, ⟨fields', hproto, _⟩⟩ := hp
  -- The three are different kinds of objects, or have different prototypes.
  have hnotProto : r.objectProto ≠ p := by
    rintro rfl
    rw [hproto] at hnative
    cases hnative
  have hnotGlobal : p ≠ r.global := by
    rintro rfl
    rw [hglobal] at hnative
    cases hnative
  have hapart : r.objectProto ≠ r.global := by
    intro heq
    rw [heq, hglobal] at hproto
    cases hproto
  refine ⟨?_, ?_⟩
  · rw [obj_of_getElem? hglobal]
    exact fun heq => hnotProto (Option.some.inj heq)
  · obtain ⟨m, hm⟩ : ∃ m, h.objects.size = m + 1 := by
      obtain ⟨hlt, _⟩ := Array.getElem?_eq_some_iff.mp hglobal
      exact Nat.exists_eq_succ_of_ne_zero (Nat.ne_of_gt (Nat.zero_lt_of_lt hlt))
    rw [hm, inherits, obj_of_getElem? hnative, inherits, obj_of_getElem? hproto]
    have hend : inherits h r.global m none = false := by
      cases m <;> rfl
    simp [hnotGlobal, hapart, hend]

/-- The setter makes the object the prototype of the global object. -/
theorem run_setter (hnative : h.objects[p]? =
    some { kind := .native n ref, proto := some r.objectProto }) {set : Value}
    {x : Obj} (hset : set = .object o) (hx : h.objects[o]? = some x) (hkind : x.kind =
    .function (.builtin .protoSet)) (hstore : h.store r.global key (.object p) = .setter set)
    (fuel : Nat) :
    run r limit (fuel + 4) h { control := .store r.global key (.object p) true } =
      (h.modifyObj r.global fun x => { x with proto := some p }, fuel,
      .done (.value (.object p))) := by
  obtain ⟨hne, hinherits⟩ := inherits_native hp hnative
  obtain ⟨⟨fields, hglobal, _⟩, _⟩ := id hp
  -- What is stored does not inherit from the global object, so the setter closes no circle.
  have hcallable : h.callable? set = some (.builtin .protoSet) := by
    rw [hset]
    unfold callable?
    dsimp only
    rw [obj_of_getElem? hx, hkind]
  have hcall : step r limit h
      { control := .apply set (.object r.global) [.object p] false,
        stack := [.instead (.object p)] } =
      give (h.modifyObj r.global fun x => { x with proto := some p }) .undefined
        [.instead (.object p)] 0 := by
    show stepApply r limit h set (.object r.global) [.object p] false [.instead (.object p)] 0 = _
    unfold stepApply
    rw [hcallable]
    show setProto r h r.global (some p) .undefined [.instead (.object p)] 0 = _
    unfold setProto
    rw [obj_of_getElem? hglobal] at hne ⊢
    dsimp only
    rw [hinherits, if_neg hne]
    rfl
  have hstep : step r limit h { control := .store r.global key (.object p) true } = _ :=
    step_store hp key p
  rw [hstore] at hstep
  have hlittle : h.effort ≤ mostEffort := heffort ▸ Nat.zero_le _
  have hback (h : Heap) : step r limit h
      { control := .give .undefined, stack := [.instead (.object p)] } =
      give h (.object p) [] 0 := rfl
  -- Four steps: the store calls the setter, which gives back, and the value of the store is given.
  refine (run_next hstep hlittle (fuel + 3)).trans ((run_next hcall hlittle (fuel + 2)).trans ?_)
  refine (run_next (hback _) ?_ (fuel + 1)).trans (run_done rfl fuel)
  exact hlittle

/-- A machine stores a global of a new realm without asking anybody. -/
theorem run_bind (hnative : h.objects[p]? =
    some { kind := .native n ref, proto := some r.objectProto }) (key : Key) :
    match h.bound? r key p with
    | some (h', used) =>
      ∀ fuel, run r limit (fuel + used) h { control := .store r.global key (.object p) true } =
        (h', fuel, .done (.value (.object p)))
    | none =>
      ∃ h' e, ∀ fuel, run r limit (fuel + 2) h { control := .store r.global key (.object p) true } =
        (h', fuel, .done (.thrown e)) := by
  have hstore := store_pristine hp key (.object p)
  obtain ⟨⟨fields, hglobal, hdata⟩, ⟨fields', hproto, hharmless⟩⟩ := id hp
  unfold bound?
  rw [obj_of_getElem? hglobal, obj_of_getElem? hproto] at hstore ⊢
  dsimp only at hstore ⊢
  -- As `store_pristine` tells the cases apart.
  cases hown : fieldOf? key fields with
  | some f =>
    rw [hown] at hstore
    obtain ⟨slot, writable, enumerable, configurable⟩ := f
    cases writable with
    | true => exact run_put hp heffort hstore rfl
    | false => exact run_refused hp heffort hstore
  | none =>
    rw [hown] at hstore
    cases hinherited : fieldOf? key fields' with
    | none =>
      rw [hinherited] at hstore
      exact run_put hp heffort hstore rfl
    | some f =>
      rw [hinherited] at hstore
      have hharm := hharmless _ (mem_of_fieldOf? hinherited)
      obtain ⟨slot, writable, enumerable, configurable⟩ := f
      cases slot with
      | accessor g s =>
        obtain ⟨o, x, hset, hx, hkind⟩ := hharm
        exact run_setter hp heffort hnative hset hx hkind hstore
      | data v =>
        cases writable with
        | true => exact run_put hp heffort hstore rfl
        | false => exact run_refused hp heffort hstore

end

/-! ### The same global elsewhere -/

/-- A global is stored in heaps that hold the same, or in none of them, and
then they hold the same again. -/
theorem Heap.Moved.bound? {ρ : Relocation} {p q : Prop} (hm : h.Moved ρ p q h') (r : Realm)
    (key : Key) (o : ObjId) :
    Option.Rel (fun a b : Heap × Nat => a.1.Moved ρ p q b.1 ∧ b.2 = a.2) (h.bound? r key o)
      (h'.bound? (r.relocate ρ) (key.relocate ρ) (ρ.objects o)) := by
  have hput (f : Field) := hm.put r.global key { f with slot := .data (.object o) }
  unfold Heap.bound?
  rw [Realm.relocate_global, Realm.relocate_objectProto, hm.obj, hm.obj, Obj.relocate_fields,
    Obj.relocate_fields, fieldOf?_relocate, fieldOf?_relocate]
  cases fieldOf? key (h.obj r.global).fields with
  | some f =>
    obtain ⟨slot, writable, enumerable, configurable⟩ := f
    cases writable with
    | true => exact .some ⟨hput _, rfl⟩
    | false => exact .none
  | none =>
    cases fieldOf? key (h.obj r.objectProto).fields with
    | none => exact .some ⟨hput (.plain (.object o)), rfl⟩
    | some f =>
      obtain ⟨slot, writable, enumerable, configurable⟩ := f
      cases slot with
      | accessor g s => exact .some ⟨hm.modifyObj r.global (fun _ => rfl) fun x hx => hx, rfl⟩
      | data v =>
        cases writable with
        | true => exact .some ⟨hput (.plain (.object o)), rfl⟩
        | false => exact .none

/-! ### Heaps that nothing leads out of -/

/-- Two relocations take the same objects to the same places, the first `m`
of them and the first `n` proxies. -/
structure Agree (m n : Nat) (ρ σ : Relocation) : Prop where
  objects : ∀ i < m, ρ.objects i = σ.objects i
  proxies : ∀ i < n, ρ.proxies i = σ.proxies i
  realms : ρ.realms = σ.realms

/-- A realm is taken where the objects are that it knows. -/
theorem Realm.relocate_congr {ρ σ : Relocation} {r : Realm}
    (hobjects : ∀ o ∈ r.objects, ρ.objects o = σ.objects o) (hrealms : ρ.realms = σ.realms) :
    r.relocate ρ = r.relocate σ := by
  have herrors : r.errorProtos.map (fun e => (e.1, ρ.objects e.2)) = r.errorProtos.map fun e =>
    (e.1, σ.objects e.2) :=
    List.map_congr_left fun e he =>
      congrArg (e.1, ·) (hobjects e.2 (List.mem_append_right _ (List.mem_map_of_mem he)))
  simp only [Realm.objects, List.mem_append, List.mem_cons, List.not_mem_nil, or_false] at hobjects
  simp only [Realm.relocate, herrors, hrealms, hobjects, true_or, or_true]

/-- Relocations that agree on more agree on less. -/
theorem Agree.of_le {m m' n : Nat} {ρ σ : Relocation} (h : Agree m n ρ σ) (hm : m' ≤ m) :
    Agree m' n ρ σ :=
  { h with objects := fun i hi => h.objects i (hi.trans_le hm) }

/-- The objects of a heap lead to each other and to the first `n` proxies
only, and no program ran that made scopes or symbols. -/
structure Heap.Closed (n : Nat) (h : Heap) : Prop where
  objects : ∀ {ρ σ : Relocation}, Agree h.objects.size n ρ σ → ∀ x ∈ h.objects,
    x.relocate ρ = x.relocate σ
  scopes : h.scopes = #[]
  symbols : h.symbols = 0

namespace Heap.Closed

variable {n : Nat} (hh : h.Closed n)

include hh

/-- A new object that leads to what is there leads nowhere else. -/
theorem alloc {x : Obj} (hx : ∀ {ρ σ : Relocation}, Agree (h.objects.size + 1) n ρ σ →
    x.relocate ρ = x.relocate σ) :
    (h.alloc x).1.Closed n :=
  { hh with
    objects := fun hagree y hy => by
      have hsize : (h.alloc x).1.objects.size = h.objects.size + 1 := Array.size_push _
      rw [hsize] at hagree
      obtain hy | rfl := Array.mem_push.mp hy
      · exact hh.objects (hagree.of_le (Nat.le_succ _)) y hy
      · exact hx hagree }

/-- One object is changed. -/
theorem modifyObj (o : ObjId) {f : Obj → Obj} (hf : ∀ {ρ σ : Relocation},
    Agree h.objects.size n ρ σ → ∀ x, x.relocate ρ = x.relocate σ →
    (f x).relocate ρ = (f x).relocate σ) : (h.modifyObj o f).Closed n :=
  { hh with
    objects := fun hagree y hy => by
      have hsize : (h.modifyObj o f).objects.size = h.objects.size := Array.size_modify
      rw [hsize] at hagree
      obtain ⟨i, hi, rfl⟩ := Array.mem_iff_getElem.mp hy
      simp only [Heap.modifyObj, Array.getElem_modify]
      split
      · exact hf hagree _ (hh.objects hagree _ (Array.getElem_mem _))
      · exact hh.objects hagree _ (Array.getElem_mem _) }

/-- Neither does a field. -/
theorem put (o : ObjId) {key : Key} (hkey : ∀ ρ : Relocation, key.relocate ρ = key)
    (hf : ∀ {ρ σ : Relocation}, Agree h.objects.size n ρ σ → f.relocate ρ = f.relocate σ) :
    (h.put o key f).Closed n := by
  rw [put_eq]
  have hcharged : (h.charge (weight key f)).Closed n := { hh with }
  refine hcharged.modifyObj o fun {ρ σ} hagree x hx => ?_
  have hρ := having_relocate (ρ := ρ) x key f
  have hσ := having_relocate (ρ := σ) x key f
  rw [← hρ, ← hσ, hx, hf hagree, hkey, hkey]

omit hh in
/-- What is near is moved to the same place by relocations that agree. -/
theorem relocate_near {r : Realm} (hr : ∀ o ∈ r.objects, o < h.objects.size) {v : Value}
    (hv : Near r h v) {ρ σ : Relocation} (hagree : Agree h.objects.size n ρ σ) :
    v.relocate ρ = v.relocate σ := by
  cases v with
  | object o => exact congrArg Value.object (hagree.objects o (hv.elim id (hr o)))
  | symbol s => exact congrArg Value.symbol ((if_pos hv).trans (if_pos hv).symm)
  | _ => rfl

omit hh in
/-- What a realm is furnished with leads nowhere else. -/
theorem furnished (r : Realm) (n : Nat) :
    Furnished r fun h => h.Closed n ∧ ∀ o ∈ r.objects, o < h.objects.size where
  object {h} hh := by
    have hproto : r.objectProto < h.objects.size := hh.2 _ (by simp [Realm.objects])
    refine ⟨hh.1.alloc fun hagree => ?_, fun o ho => ?_⟩
    · simp [Obj.relocate, ObjKind.relocate, hagree.objects _ (Nat.lt_succ_of_lt hproto)]
    · exact (hh.2 o ho).trans_le (by simp [newObject, Heap.alloc])
  function {h} name arity b hh := by
    have hproto : r.functionProto < h.objects.size := hh.2 _ (by simp [Realm.objects])
    refine ⟨hh.1.alloc fun hagree => ?_, fun o ho => ?_⟩
    · simp [Obj.relocate, ObjKind.relocate, Callable.relocate, relocateFields,
        hagree.objects _ (Nat.lt_succ_of_lt hproto)]
    · exact (hh.2 o ho).trans_le (by simp [newFunction, Heap.alloc])
  put {h o key f} hf hh := by
    refine ⟨hh.1.put o (fun ρ => ?_) fun {ρ σ} hagree => ?_, fun o ho => by simpa using hh.2 o ho⟩
    · cases hf with
      | value _ _ hfree =>
        exact hfree.elim (fun hkey => Key.relocate_of_not_symbol hkey.2) relocate_constant
      | setter _ _ _ _ _ hconstant => exact relocate_constant hconstant
      | getter _ _ _ hconstant => exact relocate_constant hconstant
    · obtain ⟨slot, writable, enumerable, configurable⟩ := f
      suffices hslot : slot.relocate ρ = slot.relocate σ by
        rw [Field.relocate_mk, hslot, Field.relocate_mk]
      cases hf with
      | value hv hnear =>
        cases hv
        exact congrArg Slot.data (relocate_near hh.2 hnear hagree)
      | setter _ hslot hg hx =>
        cases hslot
        obtain ⟨hs, _⟩ := Array.getElem?_eq_some_iff.mp hx
        simp [hagree.objects _ hg, hagree.objects _ hs]
      | getter _ hslot hg =>
        cases hslot
        simp [hagree.objects _ hg]

omit hh in
/-- A realm alone is such a heap. -/
theorem newRealm (number : Nat) (console : Bool) (n : Nat) :
    (({} : Heap).newRealm number console).1.Closed n ∧
      ∀ o ∈ (({} : Heap).newRealm number console).2.objects,
      o < (({} : Heap).newRealm number console).1.objects.size := by
  have hrealm : (({} : Heap).newRealm number console).2 =
      realmFrom number ({} : Heap).objects.size := by
    rw [newRealm_eq]
  rw [hrealm]
  refine (furnished (realmFrom number ({} : Heap).objects.size) n).newRealm
    ⟨⟨fun hagree x hx => ?_, rfl, rfl⟩, ?_⟩ console
  · have hplace {i : Nat} (hi : i < 16) := hagree.objects i hi
    have hmem : x ∈ firstObjects 0 := by simpa [withFirst] using hx
    simp [firstObjects, errorKinds] at hmem
    rcases hmem with rfl | rfl | rfl | rfl | rfl | rfl | rfl | rfl | rfl | rfl | rfl | rfl | rfl
      | rfl | rfl | rfl <;> simp [Obj.relocate, ObjKind.relocate, Callable.relocate,
        relocateFields, hplace]
  · simp [realmFrom, Realm.objects, withFirst, firstObjects, errorKinds]

/-- A native object of the realm. -/
theorem newNative (r : Realm) (hr : r.objectProto < h.objects.size) {i : Nat} (hi : i < n) :
    (h.newNative r (.proxy i)).1.Closed n :=
  hh.alloc fun hagree => by
    simp [Obj.relocate, ObjKind.relocate, ObjectRef.relocate, hagree.realms, hagree.proxies i hi,
      hagree.objects _ (Nat.lt_succ_of_lt hr)]

/-- The global that a realm is given first. -/
theorem bound? {r : Realm} {o : ObjId} (ho : o < h.objects.size) {key : Key}
    (hkey : key.isSymbol = false) {used : Nat} (h' : Heap)
    (hbound : h.bound? r key o = some (h', used)) : h'.Closed n := by
  have hput {f : Field} (hf : f.slot = .data (.object o)) : (h.put r.global key f).Closed n := by
    refine hh.put r.global (fun _ => Key.relocate_of_not_symbol hkey) fun hagree => ?_
    obtain ⟨slot, writable, enumerable, configurable⟩ := f
    cases hf
    simp [hagree.objects o ho]
  unfold Heap.bound? at hbound
  split at hbound
  · split at hbound <;> cases hbound
    exact hput rfl
  · split at hbound
    · cases hbound
      refine hh.modifyObj r.global fun hagree x hx => ?_
      simp only [Obj.relocate, Obj.mk.injEq] at hx ⊢
      exact ⟨hx.1, congrArg some (hagree.objects o ho), hx.2.2⟩
    · cases hbound
    · cases hbound
      exact hput rfl

end Heap.Closed

end ObjectBridge.Script

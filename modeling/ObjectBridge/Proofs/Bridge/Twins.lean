import ObjectBridge.Proofs.Bridge.Relocation

/-!
# `ObjectBridge.Proofs.Bridge.Twins`: the same requests elsewhere

Each operation on references, bytes, nodes and proxies has a twin in every
world that holds the same: the operation with everything relocated that it is
given. The books of the two worlds differ, and no result depends on them. What
native code does is left open here: `Native.Portable` says that native code,
too, has a twin wherever its storage stands.
-/

set_option autoImplicit false

namespace ObjectBridge.World.Moved

variable {β : Type} [Relocatable β] {ρ : Relocation} {w w' : World β} (hm : w.Moved ρ True True w')

include hm

/-! ### Books -/

/-- What is published is in the books, which are not compared. -/
theorem meter (ctx ctx' : Context) (event event' : Metrics → Metrics) :
    Twins ρ w w' (ObjectBridge.meter ctx event) (ObjectBridge.meter ctx' event') := by
  refine Twins.modify (hm.of_eq ?_ ?_) ?_
  · split
    · split <;> rfl
    · rfl
  · split
    · split <;> rfl
    · rfl
  · refine le_of_eq ?_
    split
    · split <;> rfl
    · rfl

/-- So are measurements. -/
theorem withRecorder (recorder recorder' : Option Nat) (f f' : Recorder → Recorder) :
    Twins ρ w w' (ObjectBridge.withRecorder recorder f)
      (ObjectBridge.withRecorder recorder' f') := by
  cases recorder with
  | none =>
    cases recorder' with
    | none => exact hm.pure (x := ()) trivial
    | some i => exact ⟨hm.of_eq rfl rfl, le_rfl, rfl, trivial⟩
  | some i =>
    cases recorder' with
    | none => exact ⟨hm.of_eq rfl rfl, le_rfl, rfl, trivial⟩
    | some j => exact ⟨hm.of_eq rfl rfl, le_rfl, rfl, trivial⟩

/-! ### References -/

/-- A reference is taken in both worlds. -/
theorem retain {o : ObjectRef} (ho : o.Within w.extent) :
    Twins ρ w w' (ObjectBridge.retain o) (ObjectBridge.retain (o.relocate ρ)) := by
  cases o with
  | table i => exact ho.elim
  | proxy i =>
    refine Twins.modify (hm.modifyProxy i (fun _ => rfl) fun _ => rfl) (le_of_eq ?_)
    simp [World.extent]
  | handle i =>
    refine Twins.modify (hm.modifyHandle i fun _ => rfl) (le_of_eq ?_)
    simp [World.extent]

/-- A count is dropped in both, and comes to the same. -/
theorem dropRef {o : ObjectRef} (ho : o.Within w.extent) :
    (ObjectBridge.dropRef o w).2.Moved ρ True True (ObjectBridge.dropRef (o.relocate ρ) w').2 ∧
      (ObjectBridge.dropRef o w).2.extent = w.extent ∧
      (ObjectBridge.dropRef (o.relocate ρ) w').1 = (ObjectBridge.dropRef o w).1 := by
  cases o with
  | table i => exact ho.elim
  | proxy i =>
    have hrefs : (w'.proxy (ρ.proxies i)).refs = (w.proxy i).refs := by
      rw [hm.proxy ho, Proxy.relocate_refs]
    unfold ObjectBridge.dropRef
    dsimp only [ObjectRef.relocate]
    rw [hrefs]
    exact ⟨hm.modifyProxy i (fun _ => rfl) fun _ => rfl, by simp [World.extent], rfl⟩
  | handle i =>
    have hrefs : (w'.handles.getD (ρ.handles i) default).refs =
        (w.handles.getD i default).refs := by
      rw [hm.handle ho, Handle.relocate_refs]
    unfold ObjectBridge.dropRef
    dsimp only [ObjectRef.relocate]
    rw [hrefs]
    exact ⟨hm.modifyHandle i fun _ => rfl, by simp [World.extent], rfl⟩

/-- A reference is given back in both, or neither was held. -/
theorem release {o : ObjectRef} (ho : o.Within w.extent) :
    Twins ρ w w' (ObjectBridge.release o) (ObjectBridge.release (o.relocate ρ)) := by
  obtain ⟨hmoved, hextent, hfate⟩ := hm.dropRef ho
  have hdrop : Twins ρ w w' (modifyGet (ObjectBridge.dropRef o))
      (modifyGet (ObjectBridge.dropRef (o.relocate ρ))) :=
    Twins.modifyGet hmoved hextent.ge hfate trivial
  refine hdrop.bind fun fate hm _ _ => ?_
  cases fate with
  | kept => exact hm.pure (x := ()) trivial
  | unretained => exact hm.throw _
  | freed =>
    cases o with
    | table i => exact ho.elim
    | proxy i => exact .get_bind (hm.meter _ _ _ _)
    | handle i => exact hm.pure (x := ()) trivial

/-- A new proxy for the runtime. -/
theorem newProxy {ctx : Context} (hctx : ctx.host = .script 0) (n : NodeId) :
    Twins ρ w w' (ObjectBridge.newProxy ctx n)
      (ObjectBridge.newProxy (ctx.relocate ρ) (ρ.nodes n)) := by
  obtain ⟨metrics, h⟩ := perform_newProxy ctx n w
  obtain ⟨metrics', h'⟩ := perform_newProxy (ctx.relocate ρ) (ρ.nodes n) w'
  unfold Twins
  rw [h, h', ← hm.proxies.size]
  exact ⟨(hm.pushProxy hctx).of_eq rfl rfl, extent_pushProxy w _, rfl,
    Nat.lt_of_lt_of_eq (Nat.lt_succ_self _) (Array.size_push _).symm⟩

/-- A handle on an object of a script is made. -/
theorem newHandle (o : Script.ObjId) :
    Twins ρ w w' (ObjectBridge.newHandle 0 o)
      (ObjectBridge.newHandle (ρ.runtimes 0) (ρ.objects o)) := by
  refine Twins.modifyGet (hm.pushHandle _) (extent_pushHandle w _) ?_ ?_
  · exact congrArg ObjectRef.handle hm.handles.size.symm
  · exact Nat.lt_of_lt_of_eq (Nat.lt_succ_self _) (Array.size_push _).symm

/-! ### Bytes -/

/-- Bytes are asked for; both runtimes have given out the same. -/
theorem memAlloc (size : Int) :
    Twins ρ w w' (ObjectBridge.memAlloc (.script 0) size)
      (ObjectBridge.memAlloc (.script (ρ.runtimes 0)) size) := by
  refine .get_bind ?_
  rw [hm.runtime]
  refine .ite (fun _ => hm.pure trivial) fun _ => ?_
  refine Twins.bind (Twins.modify (hm.modifyRuntime 0 fun _ => rfl) le_rfl) fun _ hm _ _ =>
    hm.pure trivial

/-- Bytes are given back. -/
theorem memFree (size : Nat) :
    Twins ρ w w' (ObjectBridge.memFree (.script 0) size)
      (ObjectBridge.memFree (.script (ρ.runtimes 0)) size) :=
  Twins.modify (hm.modifyRuntime 0 fun _ => rfl) le_rfl

/-- A variant is given back. -/
theorem releaseVariant {v : Variant} (hv : v.Within w.extent) :
    Twins ρ w w' (ObjectBridge.releaseVariant (.script 0) v)
      (ObjectBridge.releaseVariant (.script (ρ.runtimes 0)) (v.relocate ρ)) := by
  unfold ObjectBridge.releaseVariant
  cases v with
  | string bytes => exact hm.memFree _
  | object o => exact hm.release (hv o rfl)
  | _ => exact hm.pure (x := ()) trivial

/-- So are several. -/
theorem releaseAll {vs : List Variant} (hvs : Carried.Within w.extent vs) :
    Twins ρ w w' (ObjectBridge.releaseAll (.script 0) vs)
      (ObjectBridge.releaseAll (.script (ρ.runtimes 0)) (carry ρ vs)) := by
  induction vs generalizing w w' with
  | nil => exact hm.pure (x := ()) trivial
  | cons v rest ih =>
    obtain ⟨hv, hrest⟩ := List.forall_mem_cons.mp hvs
    exact (hm.releaseVariant hv).bind fun _ hm hgrows _ => ih hm (Carried.mono hgrows hrest)

/-- A string is made in the bytes of the host. -/
theorem valueFromString (bytes : Bytes) :
    Twins ρ w w' (ObjectBridge.valueFromString (.script 0) bytes)
      (ObjectBridge.valueFromString (.script (ρ.runtimes 0)) bytes) := by
  unfold ObjectBridge.valueFromString
  refine .ite (fun _ => hm.pure fun o ho => by cases ho) fun _ => ?_
  refine (hm.memAlloc _).bind fun given hm _ _ =>
    .ite (fun _ => hm.pure fun o ho => by cases ho) fun _ => ?_
  exact hm.pure fun v hv => by cases hv

/-- So is one of wide units. -/
theorem valueFromWide (enc : WideEncoding) (units : List UInt32) :
    Twins ρ w w' (ObjectBridge.valueFromWide (.script 0) enc units)
      (ObjectBridge.valueFromWide (.script (ρ.runtimes 0)) enc units) := by
  unfold ObjectBridge.valueFromWide
  cases Wide.toUtf8 enc units with
  | ok bytes => exact hm.valueFromString bytes
  | error e => exact hm.pure fun v hv => by cases hv

/-- A variant is copied, with its bytes or its reference. -/
theorem copyVariant {v : Variant} (hv : v.Within w.extent) :
    Twins ρ w w' (ObjectBridge.copyVariant (.script 0) v)
      (ObjectBridge.copyVariant (.script (ρ.runtimes 0)) (v.relocate ρ)) := by
  cases v with
  | string bytes => exact hm.valueFromString bytes
  | object o =>
    exact (hm.retain (hv o rfl)).bind fun _ hm hgrows _ => hm.pure (Carried.mono hgrows hv)
  | _ => exact hm.pure hv

/-! ### Accessors -/

/-- An identifier is made of a name. -/
theorem stringIdentifier (name : Bytes) :
    Twins ρ w w' (ObjectBridge.stringIdentifier (.script 0) name)
      (ObjectBridge.stringIdentifier (.script (ρ.runtimes 0)) name) :=
  hm.pure trivial

/-- One is made of an index. -/
theorem intIdentifier (index : Int32) :
    Twins ρ w w' (ObjectBridge.intIdentifier (.script 0) index)
      (ObjectBridge.intIdentifier (.script (ρ.runtimes 0)) index) :=
  hm.pure trivial

/-- An accessor follows the options of the instance, which are the same. -/
theorem accessorFor (ctx : Context) :
    Twins ρ w w' (ObjectBridge.accessorFor ctx) (ObjectBridge.accessorFor (ctx.relocate ρ)) := by
  refine .get_bind ?_
  rw [hm.instanceOf?]
  cases w.instanceOf? ctx with
  | none => exact hm.pure (x := ({} : Accessor)) trivial
  | some x => exact hm.pure (x := ({ policy := _, recorder := _ } : Accessor)) trivial

/-- So does the encoding of wide texts. -/
theorem encodingFor (ctx : Context) :
    Twins ρ w w' (ObjectBridge.encodingFor ctx) (ObjectBridge.encodingFor (ctx.relocate ρ)) := by
  refine .get_bind ?_
  rw [hm.instanceOf?]
  cases w.instanceOf? ctx with
  | none => exact hm.pure trivial
  | some x => exact hm.pure trivial

/-- The global object of the runtime is handed out while the runtime is open. -/
theorem windowObject :
    Twins ρ w w' (ObjectBridge.windowObject (.script 0))
      (ObjectBridge.windowObject (.script (ρ.runtimes 0))) := by
  refine .get_bind ?_
  rw [hm.runtime]
  refine .ite (fun _ => ?_) fun _ => hm.pure fun o ho => by cases ho
  exact (hm.newHandle _).bind fun o hm _ ho => hm.pure fun o' ho' => Option.some.inj ho' ▸ ho

section

variable {α : Type} [Carried α] (a : Accessor) (primitive : String) {act act' : M β α}
  (h : ∀ {u u' : World β}, u.Moved ρ True True u' → w.extent ≤ u.extent → Twins ρ u u' act act')

include h

/-- What is timed comes to what it comes to untimed. -/
theorem timed : Twins ρ w w' (a.timed primitive act) ((a.relocate ρ).timed primitive act') := by
  unfold Accessor.timed
  refine (hm.withRecorder _ _ _ _).bind fun _ hm hgrows _ => ?_
  refine ((h hm hgrows).noting fun hm _ => hm.withRecorder _ _ _ _).bind fun x hm _ hx => ?_
  exact (hm.withRecorder _ _ _ _).bind fun _ hm hgrows _ => hm.pure (Carried.mono hgrows hx)

/-- So it does when the timer is stopped in any case. -/
theorem timedCleanly :
    Twins ρ w w' (a.timedCleanly primitive act) ((a.relocate ρ).timedCleanly primitive act') := by
  unfold Accessor.timedCleanly
  refine (hm.withRecorder _ _ _ _).bind fun _ hm hgrows _ => ?_
  exact (h hm hgrows).cleanly fun hm _ => hm.withRecorder _ _ _ _

end

end ObjectBridge.World.Moved

namespace ObjectBridge

variable {β : Type} [Relocatable β] {ρ : Relocation}

/-! ### Hosts -/

/-- The operations of a host come to the same in worlds that hold the same. -/
structure HostOps.Twinned (ρ : Relocation) (ops ops' : HostOps β) : Prop where
  hasProperty : ∀ {w w' : World β} {o : ObjectRef} (id : Identifier), w.Moved ρ True True w' →
    o.Within w.extent → Twins ρ w w' (ops.hasProperty (.script 0) o id)
    (ops'.hasProperty (.script (ρ.runtimes 0)) (o.relocate ρ) id)
  getProperty : ∀ {w w' : World β} {o : ObjectRef} (id : Identifier), w.Moved ρ True True w' →
    o.Within w.extent → Twins ρ w w' (ops.getProperty (.script 0) o id)
    (ops'.getProperty (.script (ρ.runtimes 0)) (o.relocate ρ) id)
  setProperty : ∀ {w w' : World β} {o : ObjectRef} (id : Identifier) {v : Variant},
    w.Moved ρ True True w' → o.Within w.extent → v.Within w.extent →
    Twins ρ w w' (ops.setProperty (.script 0) o id v)
      (ops'.setProperty (.script (ρ.runtimes 0)) (o.relocate ρ) id (v.relocate ρ))
  evaluate : ∀ {w w' : World β} {scope : Option ObjectRef} (script : Bytes),
    w.Moved ρ True True w' → Carried.Within w.extent scope →
    Twins ρ w w' (ops.evaluate (.script 0) scope script)
      (ops'.evaluate (.script (ρ.runtimes 0)) (carry ρ scope) script)

/-- Native code comes to the same wherever its storage, its arguments and the
host's objects stand. It keeps nothing that it does not name. -/
structure Native.Portable (β : Type) [Native β] [Relocatable β] : Prop where
  call : ∀ {ρ : Relocation} {ops ops' : HostOps β} {w w' : World β} {ctx : Context} (code : β)
    {args : List Variant}, ops.Twinned ρ ops' → w.Moved ρ True True w' → ctx.host = .script 0 →
    Carried.Within w.extent args → Twins ρ w w' (Native.call ops ctx code args)
      (Native.call ops' (ctx.relocate ρ) (Relocatable.relocate ρ code) (carry ρ args))
  store : ∀ {ρ : Relocation} {ops ops' : HostOps β} {w w' : World β} {ctx : Context} (code : β)
    {v : Variant}, ops.Twinned ρ ops' → w.Moved ρ True True w' → ctx.host = .script 0 →
    v.Within w.extent → Twins ρ w w' (Native.store ops ctx code v)
      (Native.store ops' (ctx.relocate ρ) (Relocatable.relocate ρ code) (v.relocate ρ))

section

variable {ops ops' : HostOps β} (hops : ops.Twinned ρ ops') {w w' : World β}
    (hm : w.Moved ρ True True w')
  (a : Accessor) {o : ObjectRef} (ho : o.Within w.extent)

include hops hm ho

namespace HostOps.Twinned

/-- A property is read by its name. -/
theorem getNamed (name : Bytes) :
    Twins ρ w w' (a.getNamed ops (.script 0) o name)
      ((a.relocate ρ).getNamed ops' (.script (ρ.runtimes 0)) (o.relocate ρ) name) := by
  unfold Accessor.getNamed
  refine (hm.timed a "StringIdentifier" fun hm _ => hm.stringIdentifier name).bind
    fun id hm hid _ => ?_
  refine (hm.timed a "HasProperty" fun hm hgrows =>
    hops.hasProperty id hm (ho.mono (hid.trans hgrows))).bind fun has hm hhas _ => ?_
  refine .ite (fun _ => ?_) fun _ => hm.pure fun v hv => by cases hv
  exact hm.timed a "GetProperty" fun hm hgrows =>
    hops.getProperty id hm (ho.mono ((hid.trans hhas).trans hgrows))

/-- An element is read by its index, under each policy. -/
theorem getIndexed (index : Int32) :
    Twins ρ w w' (a.getIndexed ops (.script 0) o index)
      ((a.relocate ρ).getIndexed ops' (.script (ρ.runtimes 0)) (o.relocate ρ) index) := by
  unfold Accessor.getIndexed
  refine (hm.timed a "IntIdentifier" fun hm _ => hm.intIdentifier index).bind fun id hm hid _ => ?_
  rw [Accessor.relocate_policy]
  refine .ite (fun _ => ?_) fun _ => ?_
  · refine (hm.timed a "GetProperty" fun hm hgrows =>
      hops.getProperty id hm (ho.mono (hid.trans hgrows))).bind fun found hm _ hfound => ?_
    cases found with
    | some v => exact hm.pure hfound
    | none =>
      cases a.policy.missing with
      | absent => exact hm.pure hfound
      | _ => exact hm.pure (x := some _) fun v hv o ho => by cases hv; cases ho
  · refine (hm.timed a "HasProperty" fun hm hgrows =>
      hops.hasProperty id hm (ho.mono (hid.trans hgrows))).bind fun has hm hhas _ => ?_
    refine .ite (fun _ => ?_) fun _ => hm.pure fun v hv => by cases hv
    exact hm.timed a "GetProperty" fun hm hgrows =>
      hops.getProperty id hm (ho.mono ((hid.trans hhas).trans hgrows))

/-- An element is stored. -/
theorem setIndexed (index : Int32) {v : Variant} (hv : v.Within w.extent) :
    Twins ρ w w' (a.setIndexed ops (.script 0) o index v)
      ((a.relocate ρ).setIndexed ops' (.script (ρ.runtimes 0)) (o.relocate ρ) index
        (v.relocate ρ)) := by
  unfold Accessor.setIndexed
  refine (hm.timed a "IntIdentifier" fun hm _ => hm.intIdentifier index).bind fun id hm hid _ => ?_
  exact hm.timedCleanly a "SetProperty" fun hm hgrows =>
    hops.setProperty id hm (ho.mono (hid.trans hgrows)) (hv.mono (hid.trans hgrows))

/-- The empty array is evaluated in the scope of the global object. -/
theorem evaluateArray :
    Twins ρ w w' (a.evaluateArray ops (.script 0) o)
      ((a.relocate ρ).evaluateArray ops' (.script (ρ.runtimes 0)) (o.relocate ρ)) := by
  unfold Accessor.evaluateArray
  have hnone {u u' : World β} (hm : u.Moved ρ True True u') :
      Twins ρ u u' (pure none : M β (Option ObjectRef)) (pure none) :=
    hm.pure fun o ho => by cases ho
  refine (hm.timed a "Evaluate" fun hm hgrows =>
    hops.evaluate _ hm (Carried.within_some (ho.mono hgrows))).bind fun found hm _ hfound => ?_
  cases found with
  | none => exact hnone hm
  | some v =>
    have hv : v.Within _ := hfound v rfl
    cases v with
    | object o => exact hm.pure fun o' ho' => Option.some.inj ho' ▸ hv o rfl
    | _ =>
      exact (hm.timed a "ReleaseVariant" fun hm hgrows => hm.releaseVariant (hv.mono hgrows)).bind
        fun _ hm _ _ => hnone hm

end HostOps.Twinned

end

/-- The host is asked for a new empty array. -/
theorem HostOps.Twinned.createArray {ops ops' : HostOps β} (hops : ops.Twinned ρ ops')
    {w w' : World β} (hm : w.Moved ρ True True w') (a : Accessor) :
    Twins ρ w w' (a.createArray ops (.script 0))
      ((a.relocate ρ).createArray ops' (.script (ρ.runtimes 0))) := by
  unfold Accessor.createArray
  refine (hm.withRecorder _ _ _ _).bind fun _ hm _ _ => ?_
  refine Twins.cleanly ?_ fun hm _ => hm.withRecorder _ _ _ _
  refine (hm.timed a "WindowObject" fun hm _ => hm.windowObject).bind fun window hm _ hwindow => ?_
  cases window with
  | none => exact hm.pure fun o ho => by cases ho
  | some o =>
    have ho : o.Within _ := hwindow o rfl
    exact (hops.evaluateArray hm a ho).cleanly fun hm hgrows => hm.release (ho.mono hgrows)

/-! ### Failures and exceptions -/

/-- An object is shown by its kind, which stays. -/
theorem ObjectRef.text_relocate (o : ObjectRef) : (o.relocate ρ).text = o.text := by
  cases o <;> rfl

/-- A variant has the same text. -/
theorem Variant.text_relocate (v : Variant) : (v.relocate ρ).text = v.text := by
  cases v with
  | object o => exact congrArg Bytes.ofString (ObjectRef.text_relocate o)
  | _ => rfl

/-- A failure is described in the same words. -/
theorem Failure.describe_relocate (f : Failure) : (f.relocate ρ).describe = f.describe := by
  induction f with
  | thrown v => exact Variant.text_relocate v
  | wrapped context inner ih => exact congrArg (context ++ .ofString ": " ++ ·) ih
  | _ => rfl

/-- A failure that throws an object throws the moved one. -/
theorem Failure.thrown?_relocate (f : Failure) :
    (f.relocate ρ).thrown? = f.thrown?.map (·.relocate ρ) := by
  induction f with
  | wrapped context inner ih => exact ih
  | _ => rfl

/-- The exception made of a failure is the moved one. -/
theorem Failure.exceptionValue_relocate (f : Failure) :
    (f.relocate ρ).exceptionValue = f.exceptionValue.relocate ρ := by
  unfold exceptionValue
  rw [thrown?_relocate, describe_relocate]
  cases f.thrown? <;> rfl

/-- It names only what the failure names. -/
theorem Failure.within_exceptionValue {e : Extent} {f : Failure} (hf : f.Within e) :
    f.exceptionValue.Within e := by
  unfold exceptionValue
  cases h : f.thrown? with
  | none => exact fun o ho => by cases ho
  | some v => exact hf v h

/-- An exception is recorded in both slots, or in neither. -/
theorem ExceptionSlot.raiseInto_carry (slot : Slot) (v : Variant) :
    raiseInto (carry ρ slot) (v.relocate ρ) =
      ((raiseInto slot v).1, carry ρ (raiseInto slot v).2) := by
  obtain _ | ⟨_ | _⟩ := slot <;> rfl

/-- A slot names only what was raised into it. -/
theorem ExceptionSlot.within_raiseInto {e : Extent} {slot : Slot} (hslot : Carried.Within e slot)
    {v : Variant} (hv : v.Within e) : Carried.Within e (raiseInto slot v).2 := by
  obtain _ | ⟨_ | _⟩ := slot
  · exact hslot
  · intro s hs x hx
    cases hs
    cases hx
    exact hv
  · exact hslot

section

variable {w w' : World β} (hm : w.Moved ρ True True w')

include hm

namespace World.Moved

/-- What nobody holds any more is in the books only. -/
theorem abandon (slot : Slot) :
    Twins ρ w w' (ObjectBridge.abandon slot) (ObjectBridge.abandon (carry ρ slot)) := by
  obtain _ | ⟨_ | v⟩ := slot
  · exact hm.pure (x := ()) trivial
  · exact hm.pure (x := ()) trivial
  · cases v with
    | object o => exact Twins.modify (hm.of_eq rfl rfl) le_rfl
    | _ => exact hm.pure (x := ()) trivial

/-- An object that is not thrown is given back. -/
theorem dropThrown {f : Failure} (hf : f.Within w.extent) :
    Twins ρ w w' (Proxy.dropThrown f) (Proxy.dropThrown (f.relocate ρ)) := by
  unfold Proxy.dropThrown
  rw [Failure.thrown?_relocate]
  cases h : f.thrown? with
  | none => exact hm.pure (x := ()) trivial
  | some v =>
    cases v with
    | object o => exact hm.release (hf _ h o rfl)
    | _ => exact hm.pure (x := ()) trivial

/-- A failure is entered in a slot. -/
theorem raiseInto {slot : Slot} (hslot : Carried.Within w.extent slot) {f : Failure}
    (hf : f.Within w.extent) :
    Twins ρ w w' (Proxy.raiseInto slot f) (Proxy.raiseInto (carry ρ slot) (f.relocate ρ)) := by
  have hraised := ExceptionSlot.within_raiseInto hslot (Failure.within_exceptionValue hf)
  unfold Proxy.raiseInto
  rw [Failure.exceptionValue_relocate, ExceptionSlot.raiseInto_carry]
  generalize ExceptionSlot.raiseInto slot f.exceptionValue = raised at hraised
  obtain ⟨recorded, slot⟩ := raised
  cases recorded with
  | true => exact hm.pure hraised
  | false => exact (hm.dropThrown hf).bind fun _ hm hgrows _ =>
      hm.pure (Carried.mono hgrows hraised)

/-- A message becomes the last error of the instance. -/
theorem setLastError (ctx : Context) (message : Bytes) :
    Twins ρ w w' (Proxy.setLastError ctx message)
      (Proxy.setLastError (ctx.relocate ρ) message) := by
  unfold Proxy.setLastError
  rw [Context.relocate_inst]
  cases ctx.inst with
  | none => exact hm.pure (x := ()) trivial
  | some i =>
    exact Twins.bind (Twins.modify (hm.modifyInstance i fun _ => rfl) le_rfl) fun _ hm _ _ =>
      hm.meter _ _ _ _

/-- A failure is reported in both places. -/
theorem fail (x : Proxy) {slot : Slot} (hslot : Carried.Within w.extent slot) {f : Failure}
    (hf : f.Within w.extent) :
    Twins ρ w w' (x.fail slot f) ((x.relocate ρ).fail (carry ρ slot) (f.relocate ρ)) := by
  unfold Proxy.fail
  rw [Failure.describe_relocate]
  refine (hm.raiseInto hslot hf).bind fun slot hm _ hslot => ?_
  exact (hm.setLastError x.context _).bind fun _ hm hgrows _ => hm.pure (Carried.mono hgrows hslot)

/-- An answer becomes the result of a request. -/
theorem answer (x : Proxy) {slot : Slot} (hslot : Carried.Within w.extent slot)
    {r : Except Failure Variant} (hr : Carried.Within w.extent r) :
    Twins ρ w w' (x.answer slot r) ((x.relocate ρ).answer (carry ρ slot) (carry ρ r)) := by
  cases r with
  | ok v => exact hm.pure (x := (v, slot)) ⟨hr, hslot⟩
  | error f =>
    refine (hm.fail x hslot hr).bind fun slot hm _ hslot =>
      hm.pure (x := (Variant.void, slot)) ⟨?_, hslot⟩
    exact fun o ho => by cases ho

/-! ### Requests without native code -/

/-- A measurement is taken in any case. -/
theorem measured {α : Type} [Carried α] (x : Proxy) (operation : String) (name : Bytes)
    {act act' : M β α} (h : ∀ {u u' : World β}, u.Moved ρ True True u' → w.extent ≤ u.extent →
      Twins ρ u u' act act') :
    Twins ρ w w' (x.measured operation name act) ((x.relocate ρ).measured operation name act') := by
  refine .get_bind ((hm.withRecorder _ _ _ _).bind fun _ hm hgrows _ => ?_)
  exact (h hm hgrows).cleanly fun hm _ => hm.withRecorder _ _ _ _

variable (x : Proxy) {slot : Slot} (hslot : Carried.Within w.extent slot)

include hslot

/-- The request fails because of its form. -/
theorem refuse {α : Type} [Carried α] {r : α} (hr : Carried.Within w.extent r) {f : Failure}
    (hf : f.Within w.extent) :
    Twins ρ w w' (do return (r, ← x.fail slot f) : M β (α × Slot))
      (do return (carry ρ r, ← (x.relocate ρ).fail (carry ρ slot) (f.relocate ρ))) :=
  (hm.fail x hslot hf).bind fun _ hm hgrows hslot => hm.pure ⟨Carried.mono hgrows hr, hslot⟩

/-- A proxy is asked for a method. -/
theorem hasMethod (name : Variant) :
    Twins ρ w w' (x.hasMethod name slot)
      ((x.relocate ρ).hasMethod (name.relocate ρ) (carry ρ slot)) := by
  cases name with
  | string n =>
    refine hm.measured x "HasMethod" n fun {u u'} hm hgrows => .get_bind ?_
    rw [Proxy.relocate_node, hm.graph.hasMethod]
    exact hm.pure (x := (u.graph.hasMethod x.node n, slot)) ⟨trivial, Carried.mono hgrows hslot⟩
  | _ =>
    exact hm.refuse x hslot (r := false) trivial (f := .methodNameNotString) fun v hv => by cases hv

/-- A proxy is asked for a property. -/
theorem hasProperty (name : Variant) :
    Twins ρ w w' (x.hasProperty name slot) ((x.relocate ρ).hasProperty (name.relocate ρ)
      (carry ρ slot)) := by
  cases name with
  | string n =>
    refine hm.measured x "HasProperty" n fun {u u'} hm hgrows => .get_bind ?_
    rw [Proxy.relocate_node, hm.graph.hasProperty]
    exact hm.pure (x := (u.graph.hasProperty x.node n, slot)) ⟨trivial, Carried.mono hgrows hslot⟩
  | _ =>
    exact hm.refuse x hslot (r := false) trivial (f := .propertyNameNotString) fun v hv => by
      cases hv

omit hslot in
/-- Names become strings, all of them or none. -/
theorem nameVariants {done : List Variant} (hdone : Carried.Within w.extent done)
    (names : List Bytes) :
    Twins ρ w w' (Proxy.nameVariants (.script 0) done names)
      (Proxy.nameVariants (.script (ρ.runtimes 0)) (carry ρ done) names) := by
  have hreverse (vs : List Variant) : (carry ρ vs).reverse = carry ρ vs.reverse :=
    List.map_reverse.symm
  have hwithin {e : Extent} {vs : List Variant} (hvs : Carried.Within e vs) :
      Carried.Within e vs.reverse :=
    fun v hv => hvs v (List.mem_reverse.mp hv)
  induction names generalizing w w' done with
  | nil =>
    unfold Proxy.nameVariants
    rw [hreverse]
    exact hm.pure (x := (.ok done.reverse : Except Failure (List Variant))) (hwithin hdone)
  | cons name rest ih =>
    unfold Proxy.nameVariants
    refine (hm.valueFromString name).bind fun made hm hgrows hmade => ?_
    cases made with
    | ok v => exact ih hm (List.forall_mem_cons.mpr ⟨hmade, Carried.mono hgrows hdone⟩)
    | error f =>
      dsimp only
      rw [hreverse]
      exact (hm.releaseAll (Carried.mono hgrows (hwithin hdone))).bind fun _ hm hgrows _ =>
        hm.pure (x := (.error f : Except Failure (List Variant))) (Carried.mono hgrows hmade)

/-- A proxy lists the names of its members. -/
theorem propertyNames (hx : x.context.host = .script 0) :
    Twins ρ w w' (x.propertyNames slot) ((x.relocate ρ).propertyNames (carry ρ slot)) := by
  refine hm.measured x "PropertyNames" [] fun {u u'} hm hgrows => .get_bind ?_
  rw [Proxy.relocate_node, hm.graph.memberNames, Proxy.relocate_context, Context.relocate_host, hx]
  refine (hm.nameVariants Carried.within_nil _).bind fun names hm hnames hwithin => ?_
  have hslot := Carried.mono (hgrows.trans hnames) hslot
  cases names with
  | ok names =>
    exact hm.pure (x := (some names, slot)) ⟨fun vs hvs => Option.some.inj hvs ▸ hwithin, hslot⟩
  | error f => exact hm.refuse x hslot (r := none) (fun vs hvs => by cases hvs) hwithin

end World.Moved

/-! ### Requests to native code -/

namespace HostOps.Twinned

variable [Native β] (hn : Native.Portable β) {ops ops' : HostOps β} (hops : ops.Twinned ρ ops')

include hn hops

section

variable {ctx : Context} (hctx : ctx.host = .script 0) (n : NodeId)

include hctx

/-- A node answers a read: with a value, a child, or a failure. -/
theorem nodeGetProperty (name : Bytes) :
    Twins ρ w w' (Node.getProperty ops ctx n name)
      (Node.getProperty ops' (ctx.relocate ρ) (ρ.nodes n) name) := by
  have hunknown {u u' : World β} (hm : u.Moved ρ True True u') :
      Twins ρ u u' (pure (.error .unknownProperty) : M β (Except Failure Variant))
        (pure (.error .unknownProperty)) :=
    hm.pure (x := (.error .unknownProperty : Except Failure Variant)) fun v hv => by cases hv
  refine .get_bind ?_
  rw [hm.graph.property?]
  cases w.graph.property? n name with
  | none => exact hunknown hm
  | some found =>
    cases found with
    | declared p =>
      obtain ⟨_ | get, set⟩ := p
      · exact hunknown hm
      · exact hn.call get hops hm hctx fun v hv => absurd hv List.not_mem_nil
    | child c =>
      exact (hm.newProxy hctx c).bind fun o hm _ ho =>
        hm.pure (x := (.ok (.object o) : Except Failure Variant)) fun o' ho' => by
          cases ho'; exact ho

/-- It takes a value, or refuses it. -/
theorem nodeSetProperty (name : Bytes) {v : Variant} (hv : v.Within w.extent) :
    Twins ρ w w' (Node.setProperty ops ctx n name v)
      (Node.setProperty ops' (ctx.relocate ρ) (ρ.nodes n) name (v.relocate ρ)) := by
  refine .get_bind ?_
  rw [hm.graph.declaration?]
  cases w.graph.declaration? n name with
  | none =>
    exact hm.pure (x := (.error .unknownProperty : Except Failure Unit)) fun v hv => by cases hv
  | some p =>
    obtain ⟨get, _ | set⟩ := p
    · exact hm.pure (x := (.error .readOnlyProperty : Except Failure Unit)) fun v hv => by cases hv
    · exact hn.store set hops hm hctx hv

/-- It runs a method. -/
theorem nodeCall (name : Bytes) {args : List Variant} (hargs : Carried.Within w.extent args) :
    Twins ρ w w' (Node.call ops ctx n name args)
      (Node.call ops' (ctx.relocate ρ) (ρ.nodes n) name (carry ρ args)) := by
  refine .get_bind ?_
  rw [hm.graph.method?]
  cases w.graph.method? n name with
  | none =>
    exact hm.pure (x := (.error .methodNotFound : Except Failure Variant)) fun v hv => by cases hv
  | some code => exact hn.call code hops hm hctx hargs

/-- It is constructed. -/
theorem nodeConstruct {args : List Variant} (hargs : Carried.Within w.extent args) :
    Twins ρ w w' (Node.construct ops ctx n args)
      (Node.construct ops' (ctx.relocate ρ) (ρ.nodes n) (carry ρ args)) := by
  refine .get_bind ?_
  rw [hm.graph.constructor?]
  cases w.graph.constructor? n with
  | none =>
    exact hm.pure (x := (.error .missingConstructor : Except Failure Variant)) fun v hv => by
      cases hv
  | some code => exact hn.call code hops hm hctx hargs

end

variable {x : Proxy} (hx : x.context.host = .script 0) {slot : Slot}
    (hslot : Carried.Within w.extent slot)

include hx hslot

/-- A proxy reads a property. -/
theorem proxyGetProperty (name : Variant) :
    Twins ρ w w' (x.getProperty ops name slot) ((x.relocate ρ).getProperty ops' (name.relocate ρ)
      (carry ρ slot)) := by
  cases name with
  | string n =>
    refine hm.measured x "GetProperty" n fun hm hgrows => ?_
    exact (hops.nodeGetProperty hm hn hx x.node n).bind fun r hm hafter hr =>
      hm.answer x (Carried.mono (hgrows.trans hafter) hslot) hr
  | _ =>
    exact hm.refuse x hslot (r := Variant.void) (fun o ho => by cases ho)
      (f := .propertyNameNotString) fun v hv => by
      cases hv

/-- A proxy writes one. -/
theorem proxySetProperty (name : Variant) {v : Variant} (hv : v.Within w.extent) :
    Twins ρ w w' (x.setProperty ops name v slot)
      ((x.relocate ρ).setProperty ops' (name.relocate ρ) (v.relocate ρ) (carry ρ slot)) := by
  cases name with
  | string n =>
    refine hm.measured x "SetProperty" n fun hm hgrows => ?_
    refine (hops.nodeSetProperty hm hn hx x.node n (hv.mono hgrows)).bind fun r hm hafter hr => ?_
    have hslot := Carried.mono (hgrows.trans hafter) hslot
    cases r with
    | ok _ => exact hm.pure hslot
    | error f => exact hm.fail x hslot hr
  | _ => exact hm.fail x hslot (f := .propertyNameNotString) fun v hv => by cases hv

/-- A proxy constructs its node. -/
theorem proxyConstruct {args : List Variant} (hargs : Carried.Within w.extent args) :
    Twins ρ w w' (x.construct ops args slot) ((x.relocate ρ).construct ops' (carry ρ args)
      (carry ρ slot)) := by
  refine hm.measured x "Construct" [] fun hm hgrows => ?_
  exact (hops.nodeConstruct hm hn hx x.node (Carried.mono hgrows hargs)).bind fun r hm hafter hr =>
    hm.answer x (Carried.mono (hgrows.trans hafter) hslot) hr

/-- A proxy calls a method, or constructs where there is no name. -/
theorem proxyCall (method : Variant) {args : List Variant} (hargs : Carried.Within w.extent args) :
    Twins ρ w w' (x.call ops method args slot)
      ((x.relocate ρ).call ops' (method.relocate ρ) (carry ρ args) (carry ρ slot)) := by
  cases method with
  | void => exact hops.proxyConstruct hm hn hx hslot hargs
  | string n =>
    refine hm.measured x "Call" n fun hm hgrows => ?_
    exact (hops.nodeCall hm hn hx x.node n (Carried.mono hgrows hargs)).bind fun r hm hafter hr =>
      hm.answer x (Carried.mono (hgrows.trans hafter) hslot) hr
  | _ =>
    exact hm.refuse x hslot (r := Variant.void) (fun o ho => by cases ho)
      (f := .methodNameNotString) fun v hv => by
      cases hv

end HostOps.Twinned

end

end ObjectBridge

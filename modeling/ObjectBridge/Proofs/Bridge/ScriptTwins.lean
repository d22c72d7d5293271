import ObjectBridge.Bridge.Host
import ObjectBridge.Proofs.Bridge.Silent
import ObjectBridge.Proofs.Bridge.Twins

/-!
# `ObjectBridge.Proofs.Bridge.ScriptTwins`: the same scripts elsewhere

A script that runs in a world comes to the same in every world that holds the
same: it makes the same steps, asks the same of native objects, and is told the
same. So the operations of script hosts have twins, to whatever depth calls are
nested (`twinned_hostOps`).

A run that nothing waits for starts with a new value and without effort. So
what earlier runs came to, and how much effort they made, need not be the same
in the two worlds (`World.Moved.runProgram`).
-/

set_option autoImplicit false

namespace ObjectBridge

open Script (Value Heap ObjId)

variable {β α : Type} [Relocatable β] [Carried α] {ρ : Relocation} {w w' : World β}

/-- What is done to the objects of scripts first. -/
theorem Twins.onHeap {γ : Type} {f f' : Heap → γ × Heap} {x x' : γ} {g g' : Heap} {k k' : γ → M β α}
    (h : f w.heap = (x, g)) (h' : f' w'.heap = (x', g'))
    (hk : Twins ρ { w with heap := g } { w' with heap := g' } (k x) (k' x')) :
    Twins ρ w w' (ScriptHost.withHeap f >>= k) (ScriptHost.withHeap f' >>= k') := by
  refine .after (x := x) (u := { w with heap := g }) ?_ ?_ ⟨le_rfl, le_rfl⟩ hk
  · rw [ScriptHost.perform_withHeap_eq, h]
  · rw [ScriptHost.perform_withHeap_eq, h']

namespace World.Moved

section

variable (hm : w.Moved ρ True True w')

include hm

/-! ### Values -/

/-- Both heaps are changed in the same way. -/
theorem withHeap {f f' : Heap → α × Heap} (hheap : (f w.heap).2.Moved ρ True True (f' w'.heap).2)
    (hresult : (f' w'.heap).1 = carry ρ (f w.heap).1)
    (hwithin : Carried.Within w.extent (f w.heap).1) :
    Twins ρ w w' (ScriptHost.withHeap f) (ScriptHost.withHeap f') :=
  .modifyGet (hm.withObjects hheap) le_rfl hresult hwithin

/-- What is made of scripts' objects, and then used. -/
theorem made (make make' : Heap → Heap × ObjId)
    (h : Heap.Made ρ True True (make w.heap) (make' w'.heap)) {k k' : ObjId → M β α}
      (hk : ∀ {u u' : World β} (o : ObjId), u.Moved ρ True True u' → w.extent ≤ u.extent →
      Twins ρ u u' (k o) (k' (ρ.objects o))) :
    Twins ρ w w' (ScriptHost.withHeap (fun h => let (h, o) := make h; (o, h)) >>= k)
      (ScriptHost.withHeap (fun h => let (h, o) := make' h; (o, h)) >>= k') := by
  obtain ⟨g, o, g', ha, hb, hg⟩ := h.split
  have hhere : (let (h, o) := make w.heap; (o, h)) = (o, g) := by rw [ha]
  have hthere : (let (h, o) := make' w'.heap; (o, h)) = (ρ.objects o, g') := by rw [hb]
  exact .onHeap hhere hthere (hk o (hm.withObjects hg) ⟨le_rfl, le_rfl⟩)

/-- The same error is thrown, which is a new object in both. -/
theorem throwText (message : Bytes) :
    Twins ρ w w' (ScriptHost.throwText 0 message : M β α)
      (ScriptHost.throwText (ρ.runtimes 0) message) := by
  refine .get_bind ?_
  rw [hm.runtime]
  refine hm.made (·.newError _ "TypeError" _) (·.newError _ "TypeError" _) (hm.heap.newError _ _ _)
    fun o hm _ => ?_
  exact hm.throw (.thrown (.object o))

/-- An object of a script is found to be native in both, or in neither. -/
theorem unwrap? (o : ObjId) :
    Twins ρ w w' (ScriptHost.unwrap? 0 o) (ScriptHost.unwrap? (ρ.runtimes 0) (ρ.objects o)) := by
  have hnone : Twins ρ w w' (Pure.pure none : M β (Option ObjectRef)) (Pure.pure none) :=
    hm.pure Carried.within_none
  refine .get_bind ?_
  rw [hm.runtime, hm.heap.obj, Script.Obj.relocate_kind]
  have hbare := hm.heap.bare_obj o
  cases hkind : (w.heap.obj o).kind with
  | native realm ref =>
    have href : ∀ i, ref ≠ .table i := fun i heq => hbare realm i (heq ▸ hkind)
    simp only [Script.ObjKind.relocate, Runtime.relocate_realm, Script.Realm.relocate_number,
      Runtime.relocate_isOpen, ρ.realms.apply_eq_iff_eq, hm.has href]
    split
    · next hthere =>
      simp only [Bool.and_eq_true] at hthere
      exact hm.pure (Carried.within_some (within_of_has href hthere.2))
    · exact hnone
  | _ => exact hnone

/-- A text becomes a string, unless there are too few bytes. -/
theorem textVariant? (t : Script.Text) :
    Twins ρ w w' (ScriptHost.textVariant? 0 t) (ScriptHost.textVariant? (ρ.runtimes 0) t) := by
  unfold ScriptHost.textVariant?
  refine (hm.memAlloc _).bind fun given hm _ _ => .ite (fun _ => ?_) fun _ =>
    hm.pure Carried.within_none
  exact hm.pure (Carried.within_some (Variant.within_of_plain (v := .string t.toBytes) rfl))

/-- A value becomes a variant that belongs to the caller. -/
theorem toVariant (v : Value) :
    Twins ρ w w' (ScriptHost.toVariant 0 v)
      (ScriptHost.toVariant (ρ.runtimes 0) (v.relocate ρ)) := by
  have hplain (v : Variant) (hv : v.object? = none) :
      Twins ρ w w' (Pure.pure (some v) : M β (Option Variant)) (Pure.pure (some v)) := by
    have hpure := hm.pure (x := some v) (Carried.within_some (Variant.within_of_plain hv))
    rwa [show carry ρ (some v) = some v from congrArg some (Variant.relocate_of_plain hv)] at hpure
  unfold ScriptHost.toVariant
  cases v with
  | undefined => exact hplain .void rfl
  | null => exact hplain .null rfl
  | bool b => exact hplain (.bool b) rfl
  | number n => exact hplain _ (Variant.object?_ofNumber n)
  | bigint n => exact hm.pure (x := (none : Option Variant)) Carried.within_none
  | string t => exact hm.textVariant? t
  | symbol s =>
    dsimp only [Value.relocate]
    rw [Script.Symbol.label_relocate]
    exact hm.textVariant? s.label
  | object o =>
    refine (hm.unwrap? o).bind fun found hm _ hfound => ?_
    cases found with
    | some ref =>
      have href : ref.Within _ := hfound ref rfl
      exact (hm.retain href).bind fun _ hm hgrows _ =>
        hm.pure (x := some (Variant.object ref))
          (Carried.within_some (Variant.within_object (href.mono hgrows)))
    | none =>
      exact (hm.newHandle o).bind fun ref hm _ href =>
        hm.pure (x := some (Variant.object ref)) (Carried.within_some (Variant.within_object href))

/-- A proxy that there is, or not. -/
theorem exposeObject {ref : ObjectRef} (href : ref.Within w.extent) :
    Twins ρ w w' (ScriptHost.exposeObject 0 ref)
      (ScriptHost.exposeObject (ρ.runtimes 0) (ref.relocate ρ)) := by
  have htable : ∀ i, ref ≠ .table i := by
    rintro i rfl
    exact href
  refine (hm.retain href).bind fun _ hm _ _ => ?_
  refine Twins.bind (Twins.modify (hm.modifyRuntime 0 fun _ => rfl) le_rfl) fun _ hm _ _ =>
    .get_bind ?_
  rw [hm.runtime]
  refine .ite (fun _ => ?_) fun _ => hm.throw .fault
  refine hm.made (·.newNative _ ref) (·.newNative _ (ref.relocate ρ)) (hm.heap.newNative _ htable)
    fun o hm _ => ?_
  exact hm.pure (x := Value.object o) trivial

/-- A variant becomes a value. -/
theorem toValue {v : Variant} (hv : v.Within w.extent) :
    Twins ρ w w' (ScriptHost.toValue 0 v) (ScriptHost.toValue (ρ.runtimes 0) (v.relocate ρ)) := by
  cases v with
  | void => exact hm.pure (x := Value.undefined) trivial
  | null => exact hm.pure (x := Value.null) trivial
  | bool b => exact hm.pure (x := Value.bool b) trivial
  | int32 n => exact hm.pure (x := Value.number _) trivial
  | double d => exact hm.pure (x := Value.number d) trivial
  | string bytes => exact hm.pure (x := Value.string _) trivial
  | object o =>
    cases o with
    | table i => exact (hv _ rfl).elim
    | proxy i => exact hm.exposeObject (hv _ rfl)
    | handle i =>
      refine .get_bind ?_
      rw [hm.handle (hv _ rfl)]
      exact hm.pure (x := Value.object _) trivial

omit hm in
/-- The value that is pending, if there is one. -/
theorem value_slot {e : Extent} {slot : Slot} (hslot : Carried.Within e slot) :
    (slot.getD {}).value.Within e ∧ ((carry ρ slot).getD {}).value =
      (slot.getD {}).value.relocate ρ := by
  obtain _ | ⟨_ | v⟩ := slot
  · exact ⟨Variant.within_of_plain rfl, rfl⟩
  · exact ⟨Variant.within_of_plain rfl, rfl⟩
  · exact ⟨hslot _ rfl v rfl, rfl⟩

omit hm in
/-- A request has failed in both, or in neither. -/
theorem pending_carry (slot : Slot) :
    ScriptHost.pending (carry ρ slot) = ScriptHost.pending slot := by
  obtain _ | ⟨_ | v⟩ := slot <;> rfl

/-- The exception of a request is thrown into the script. -/
theorem throwPending {slot : Slot} (hslot : Carried.Within w.extent slot) :
    Twins ρ w w' (ScriptHost.throwPending 0 slot : M β α)
      (ScriptHost.throwPending (ρ.runtimes 0) (carry ρ slot)) := by
  obtain ⟨hvalue, hcarry⟩ := value_slot (ρ := ρ) hslot
  unfold ScriptHost.throwPending
  rw [hcarry]
  generalize (slot.getD {}).value = v at hvalue
  cases v with
  | string bytes => exact hm.throwText bytes
  | object o =>
    refine (hm.toValue hvalue).bind fun value hm hgrows _ => ?_
    exact (hm.release ((hvalue o rfl).mono hgrows)).bind fun _ hm _ _ => hm.throw (.thrown value)
  | _ => exact (hm.toValue hvalue).bind fun value hm _ _ => hm.throw (.thrown value)

/-- What is done when no exception is pending. -/
theorem orThrow {slot : Slot} (hslot : Carried.Within w.extent slot) {act act' : M β α}
    (h : Twins ρ w w' act act') :
    Twins ρ w w' (if ScriptHost.pending slot then ScriptHost.throwPending 0 slot else act)
      (if ScriptHost.pending (carry ρ slot) then ScriptHost.throwPending (ρ.runtimes 0)
        (carry ρ slot) else act') := by
  rw [pending_carry]
  exact .ite (fun _ => hm.throwPending hslot) fun _ => h

/-- Arguments become variants, up to the first that cannot. -/
theorem toVariants {done : List Variant} (hdone : Carried.Within w.extent done) (vs : List Value) :
    Twins ρ w w' (ScriptHost.toVariants 0 done vs)
      (ScriptHost.toVariants (ρ.runtimes 0) (carry ρ done) (vs.map (·.relocate ρ))) := by
  have hdoneWith {u u' : World β} (hm : u.Moved ρ True True u') {done : List Variant}
      (hdone : Carried.Within u.extent done) (b : Bool) :
      Twins ρ u u' (Pure.pure (done.reverse, b) : M β (List Variant × Bool))
        (Pure.pure ((carry ρ done).reverse, b)) := by
    have hpure := hm.pure (x := (done.reverse, b))
        ⟨fun v hv => hdone v (List.mem_reverse.mp hv), trivial⟩
    rwa [show carry ρ (done.reverse, b) =
      ((carry ρ done).reverse, b) from congrArg (·, b) List.map_reverse] at hpure
  induction vs generalizing w w' done with
  | nil => exact hdoneWith hm hdone true
  | cons v rest ih =>
    rw [List.map_cons]
    unfold ScriptHost.toVariants
    refine (hm.toVariant v).bind fun x hm hgrows hx => ?_
    cases x with
    | some x => exact ih hm (List.forall_mem_cons.mpr ⟨hx x rfl, Carried.mono hgrows hdone⟩)
    | none => exact hdoneWith hm (Carried.mono hgrows hdone) false

/-- An outcome has a value, or unwinds. -/
theorem outcomeValue (o : Script.Outcome) :
    Twins ρ w w' (ScriptHost.outcomeValue o) (ScriptHost.outcomeValue (o.relocate ρ)) := by
  cases o with
  | value v => exact hm.pure (x := some v) (Carried.within_some trivial)
  | absent => exact hm.pure (x := (none : Option Value)) Carried.within_none
  | thrown v => exact hm.throw (.thrown v)
  | overflow => exact hm.throw .overflow

/-! ### Requests of scripts -/

omit hm in
/-- A request begins without an exception. -/
theorem within_free {e : Extent} : Carried.Within e (some {} : Slot) :=
  Carried.within_some fun _ hv => by cases hv

/-- A script asks for a name. -/
theorem serveHas (x : Proxy) (key : Bytes) :
    Twins ρ w w' (ScriptHost.serveHas x key) (ScriptHost.serveHas (x.relocate ρ) key) := by
  refine (hm.hasMethod x within_free (.string key)).bind fun ⟨method, slot⟩ hm _ hwithin => ?_
  refine .ite (fun _ => hm.pure (x := true) trivial) fun _ => ?_
  exact (hm.hasProperty x hwithin.2 (.string key)).bind fun r hm _ _ => hm.pure (x := r.1) trivial

/-- It lists the names. -/
theorem serveKeys {x : Proxy} (hx : x.context.host = .script 0) :
    Twins ρ w w' (ScriptHost.serveKeys 0 x)
      (ScriptHost.serveKeys (ρ.runtimes 0) (x.relocate ρ)) := by
  refine (hm.propertyNames x within_free hx).bind fun ⟨names, slot⟩ hm _ hwithin =>
    hm.orThrow hwithin.2 ?_
  cases names with
  | none => exact (hm.releaseAll Carried.within_nil).bind fun _ hm _ _ =>
      hm.pure (x := ScriptHost.Reply.names []) trivial
  | some names =>
    have hkeys : ((carry ρ names).map fun n => Script.Key.ofText (.ofBytes n.asBytes)) =
        (names.map fun n => Script.Key.ofText (.ofBytes n.asBytes)).map (·.relocate ρ) := by
      show List.map _ (names.map (carry ρ)) = _
      rw [List.map_map, List.map_map]
      refine List.map_congr_left fun n _ => ?_
      rw [Function.comp_apply, Function.comp_apply, Script.Key.relocate_ofText]
      cases n <;> rfl
    refine (hm.releaseAll (hwithin.1 names rfl)).bind fun _ hm _ _ => ?_
    have hpure := hm.pure
      (x := ScriptHost.Reply.names (names.map fun n => Script.Key.ofText (.ofBytes n.asBytes)))
      trivial
    rwa [show carry ρ (ScriptHost.Reply.names _) =
      .names _ from congrArg ScriptHost.Reply.names hkeys.symm] at hpure

/-- What native code answered is handed to the script, and given back. -/
theorem answered {v : Variant} (hv : v.Within w.extent) :
    Twins ρ w w'
      (ObjectBridge.cleanly (do return ScriptHost.Reply.value (← ScriptHost.toValue 0 v))
        (ObjectBridge.releaseVariant (.script 0) v))
      (ObjectBridge.cleanly (do return ScriptHost.Reply.value (← ScriptHost.toValue (ρ.runtimes 0)
        (v.relocate ρ))) (ObjectBridge.releaseVariant (.script (ρ.runtimes 0)) (v.relocate ρ))) :=
  Twins.cleanly ((hm.toValue hv).bind fun value hm _ _ =>
    hm.pure (x := ScriptHost.Reply.value value) trivial) fun hm hgrows =>
      hm.releaseVariant (hv.mono hgrows)

/-- A request is for the moved proxy. -/
theorem requested (ref : ObjectRef) :
    Twins ρ w w' (ScriptHost.requested ref) (ScriptHost.requested (ref.relocate ρ)) := by
  cases ref with
  | proxy i =>
    refine .get_bind ?_
    rw [hm.proxy?]
    cases hx : w.proxies[i]? with
    | none => exact hm.throw .fault
    | some x => exact hm.pure (hm.host x (Array.mem_of_getElem? hx))
  | _ => exact hm.throw .fault

end

end World.Moved

namespace HostOps.Twinned

variable [Native β] (hn : Native.Portable β) {ops ops' : HostOps β} (hops : ops.Twinned ρ ops')
  (hm : w.Moved ρ True True w') {x : Proxy} (hx : x.context.host = .script 0)

include hn hops hm

section

include hx

/-- It reads a name, and gets a function or a value. -/
theorem serveGet (ref : ObjectRef) (key : String) :
    Twins ρ w w' (ScriptHost.serveGet ops 0 ref x key)
      (ScriptHost.serveGet ops' (ρ.runtimes 0) (ref.relocate ρ) (x.relocate ρ) key) := by
  refine (hm.hasMethod x World.Moved.within_free (.ofText key)).bind
    fun ⟨method, slot⟩ hm _ hwithin => ?_
  refine .ite (fun _ => .get_bind ?_) fun _ => ?_
  · rw [hm.runtime]
    refine hm.made (·.newNativeMethod _ ref key) (·.newNativeMethod _ (ref.relocate ρ) key)
      (hm.heap.newNativeMethod _ ref key) fun o hm _ => ?_
    exact hm.pure (x := ScriptHost.Reply.value (.object o)) trivial
  · refine (hm.hasProperty x hwithin.2 (.ofText key)).bind fun ⟨property, slot⟩ hm _ hwithin => ?_
    refine .ite (fun _ => ?_) fun _ => ?_
    · exact hm.orThrow hwithin.2 (hm.pure (x := ScriptHost.Reply.absent) trivial)
    · refine (hops.proxyGetProperty hm hn hx hwithin.2 (.ofText key)).bind
        fun ⟨v, slot⟩ hm _ hwithin => ?_
      exact hm.orThrow hwithin.2 (hm.answered hwithin.1)

/-- It writes a name. -/
theorem serveSet (key : String) (v : Value) :
    Twins ρ w w' (ScriptHost.serveSet ops 0 x key v)
      (ScriptHost.serveSet ops' (ρ.runtimes 0) (x.relocate ρ) key (v.relocate ρ)) := by
  refine (hm.toVariant v).bind fun found hm _ hfound => ?_
  cases found with
  | none => exact hm.throwText _
  | some y =>
    have hy : y.Within _ := hfound y rfl
    refine Twins.cleanly ?_ fun hm hgrows => hm.releaseVariant (hy.mono hgrows)
    refine (hops.proxySetProperty hm hn hx World.Moved.within_free (.ofText key) hy).bind
      fun slot hm _ hslot => ?_
    exact hm.orThrow hslot (hm.pure (x := ScriptHost.Reply.value .undefined) trivial)

/-- It calls a method, or constructs. -/
theorem serveCall {method : Variant} (hmethod : method.object? = none) (args : List Value) :
    Twins ρ w w' (ScriptHost.serveCall ops 0 x method args)
      (ScriptHost.serveCall ops' (ρ.runtimes 0) (x.relocate ρ) method
        (args.map (·.relocate ρ))) := by
  refine (hm.toVariants Carried.within_nil args).bind fun ⟨variants, complete⟩ hm _ hwithin => ?_
  refine Twins.cleanly ?_ fun hm hgrows => hm.releaseAll (Carried.mono hgrows hwithin.1)
  cases complete with
  | false => exact hm.throwText _
  | true =>
    have hcall := hops.proxyCall hm hn hx World.Moved.within_free method hwithin.1
    rw [Variant.relocate_of_plain hmethod] at hcall
    refine hcall.bind fun ⟨result, slot⟩ hm _ hwithin => ?_
    dsimp only
    rw [show (carry ρ (result, slot)).2 = carry ρ slot from rfl, World.Moved.pending_carry]
    refine .ite (fun _ => ?_) fun _ => hm.answered hwithin.1
    refine (hm.releaseVariant hwithin.1).bind fun _ hm hgrows _ => ?_
    exact hm.throwPending (Carried.mono hgrows hwithin.2)

end

/-- Whatever a script asks for, it is replied the same. -/
theorem serve (q : Script.Request) :
    Twins ρ w w' (ScriptHost.serve ops 0 q)
      (ScriptHost.serve ops' (ρ.runtimes 0) (q.relocate ρ)) := by
  cases q with
  | get ref key => exact (hm.requested ref).bind fun x hm _ hx => hops.serveGet hn hm hx ref key
  | set ref key v => exact (hm.requested ref).bind fun x hm _ hx => hops.serveSet hn hm hx key v
  | has ref key =>
    refine (hm.requested ref).bind fun x hm _ hx => (hm.serveHas x _).bind fun b hm _ _ => ?_
    exact hm.pure (x := ScriptHost.Reply.value (.bool b)) trivial
  | keys ref => exact (hm.requested ref).bind fun x hm _ hx => hm.serveKeys hx
  | call ref method args =>
    exact (hm.requested ref).bind fun x hm _ hx => hops.serveCall hn hm hx rfl args
  | construct ref args =>
    exact (hm.requested ref).bind fun x hm _ hx => hops.serveCall hn hm hx rfl args
  | log level message =>
    exact Twins.bind (Twins.modify (hm.modifyRuntime 0 fun _ => rfl) le_rfl) fun _ hm _ _ =>
      hm.pure (x := ScriptHost.Reply.value .undefined) trivial

/-! ### Running -/

omit [Native β] hn hops hm in
/-- It goes on with the moved reply. -/
theorem control_relocate (reply : ScriptHost.Reply) :
    (reply.relocate ρ).control = reply.control.relocate ρ := by
  cases reply <;> rfl

/-- The machine makes the same steps between two requests, and goes on with the
same reply. -/
theorem drive (rounds : Nat) (m : Script.Machine) :
    Twins ρ w w' (ScriptHost.drive ops 0 rounds m) (ScriptHost.drive ops' (ρ.runtimes 0) rounds
      (m.relocate ρ)) := by
  induction rounds generalizing w w' m with
  | zero => exact hm.throw .interrupted
  | succ rounds ih =>
    unfold ScriptHost.drive
    refine .get_bind ?_
    rw [hm.runtime]
    obtain ⟨hheap, hstop⟩ := hm.heap.run (w.runtime 0).realm trivial trivial
      (ScriptHost.limitOf (w.runtime 0).config) (w.runtime 0).steps m
    refine Twins.bind (hm.withHeap hheap hstop ⟨trivial, trivial⟩) fun ran hm _ _ => ?_
    obtain ⟨left, stop⟩ := ran
    refine Twins.bind (Twins.modify (hm.modifyRuntime 0 fun _ => rfl) le_rfl) fun _ hm _ _ => ?_
    cases stop with
    | spent => exact hm.throw .interrupted
    | done o => exact hm.pure (x := o) trivial
    | ask q stack depth =>
      refine Twins.bind (Twins.modify (hm.modifyRuntime 0 fun _ => rfl) le_rfl) fun _ hm _ _ => ?_
      refine (hops.serve hn hm q).caught.bind fun reply hm _ _ => ?_
      cases reply with
      | ok reply =>
        have hnext := ih hm { control := reply.control, stack, depth }
        dsimp only [Script.Machine.relocate] at hnext
        rw [← control_relocate] at hnext
        exact hnext
      | error u =>
        cases u with
        | thrown v => exact ih hm { control := .throw v, stack, depth }
        | _ => exact hm.throw _

omit hm in
/-- A machine that has the steps to itself starts without effort. -/
theorem runMachine {q : Prop} (hm : w.Moved ρ True q w') (hq : (w.runtime 0).running = true → q)
    (steps : Nat) (m : Script.Machine) :
    Twins ρ w w' (ScriptHost.runMachine ops 0 steps m)
      (ScriptHost.runMachine ops' (ρ.runtimes 0) steps (m.relocate ρ)) := by
  refine .get_bind ?_
  rw [hm.runtime]
  refine .ite (fun hrunning => ?_) fun _ => ?_
  · have hq := hq hrunning
    have hm : w.Moved ρ True True w' :=
      hm.withObjects { hm.heap with effort := fun _ => hm.heap.effort hq }
    exact (hops.drive hn hm _ m).cleanly fun hm _ =>
      .modify (hm.modifyRuntime 0 fun _ => rfl) le_rfl
  · have hbegun : ({ w with runtimes := w.runtimes.modify 0 fun x =>
      { x with running := true, steps } } : World β).Moved
        ρ True q { w' with runtimes := w'.runtimes.modify (ρ.runtimes 0) fun x =>
          { x with running := true, steps } } :=
      hm.modifyRuntime 0 fun _ => rfl
    refine .after (perform_modify _ w) (perform_modify _ w') le_rfl ?_
    refine .onHeap rfl rfl ?_
    have hheap : ({ w.heap with effort := 0 } : Heap).Moved ρ True True
        { w'.heap with effort := 0 } :=
      { hm.heap with effort := fun _ => rfl }
    exact (hops.drive hn (hbegun.withObjects hheap) _ m).cleanly fun hm _ =>
      .modify (hm.modifyRuntime 0 fun _ => rfl) le_rfl

/-- A property of an object of a script is read. -/
theorem fetch (o : ObjId) (key : Script.Key) :
    Twins ρ w w' (ScriptHost.fetch ops 0 o key)
      (ScriptHost.fetch ops' (ρ.runtimes 0) (ρ.objects o) (key.relocate ρ)) := by
  refine .get_bind ?_
  rw [hm.runtime]
  refine Twins.bind (hops.runMachine hn hm (fun _ => trivial) _
    { control := .fetch (some o) key (.object o), depth := _ }) fun o hm _ _ => ?_
  exact hm.outcomeValue o

/-- One is stored. -/
theorem assign (o : ObjId) (key : Script.Key) (v : Value) :
    Twins ρ w w' (ScriptHost.assign ops 0 o key v)
      (ScriptHost.assign ops' (ρ.runtimes 0) (ρ.objects o) (key.relocate ρ) (v.relocate ρ)) := by
  refine .get_bind ?_
  rw [hm.runtime]
  refine Twins.bind (Twins.caught (Twins.bind (hops.runMachine hn hm (fun _ => trivial) _
    { control := .store o key v true, depth := _ }) fun o hm _ _ => hm.outcomeValue o))
    fun ran hm _ _ => ?_
  cases ran with
  | ok _ => exact hm.pure (x := (.ok () : Except Unwind Unit)) trivial
  | error u =>
    cases u with
    | misuse s => exact hm.throw (.misuse s)
    | fault => exact hm.throw .fault
    | _ => exact hm.pure (x := (.error _ : Except Unwind Unit)) trivial

/-- The machine makes a value a text. -/
theorem textByMachine (v : Value) :
      Twins ρ w w'
        (do
          let o ← ScriptHost.runMachine ops 0 ScriptHost.mostSteps
            { control := .primitive v .text, stack := [.toText], depth := (w.runtime 0).depth }
          match ← ScriptHost.outcomeValue o with
          | some (.string t) => return t
          | _ => return default)
        (do
          let o ← ScriptHost.runMachine ops' (ρ.runtimes 0) ScriptHost.mostSteps
            { control := .primitive (v.relocate ρ) .text, stack := [.toText],
              depth := (w'.runtime (ρ.runtimes 0)).depth }
          match ← ScriptHost.outcomeValue o with
          | some (.string t) => return t
          | _ => return default) := by
  rw [hm.runtime]
  refine Twins.bind (hops.runMachine hn hm (fun _ => trivial) _
    { control := .primitive v .text, stack := [.toText], depth := _ }) fun o hm _ _ => ?_
  refine (hm.outcomeValue o).bind fun found hm _ _ => ?_
  obtain _ | v := found
  · exact hm.pure (x := (default : Script.Text)) trivial
  · cases v with
    | string t => exact hm.pure (x := t) trivial
    | _ => exact hm.pure (x := (default : Script.Text)) trivial

/-- A value is made a text. -/
theorem textOf (v : Value) :
    Twins ρ w w' (ScriptHost.textOf ops 0 v)
      (ScriptHost.textOf ops' (ρ.runtimes 0) (v.relocate ρ)) := by
  refine .get_bind ?_
  cases v with
  | symbol s =>
    dsimp only [Value.relocate]
    rw [Script.Symbol.label_relocate]
    exact hm.pure (x := s.label) trivial
  | _ => exact hops.textByMachine hn hm _

/-! ### The operations of script hosts -/

omit [Native β] hn hops hm in
/-- An identifier names the same property everywhere. -/
theorem keyOf_relocate (id : Identifier) : (ScriptHost.keyOf id).relocate ρ = ScriptHost.keyOf id :=
  Script.Key.relocate_ofText _

/-- A property is read through a handle. -/
theorem fetchHandle {i : Nat} (hi : i < w.handles.size) (id : Identifier) :
    Twins ρ w w' (ScriptHost.fetch ops 0 (w.handles.getD i default).object (ScriptHost.keyOf id))
      (ScriptHost.fetch ops' (ρ.runtimes 0) (w'.handles.getD (ρ.handles i) default).object
        (ScriptHost.keyOf id)) := by
  have hfetch := hops.fetch hn hm (w.handles.getD i default).object (ScriptHost.keyOf id)
  rwa [keyOf_relocate, ← Handle.relocate_object, ← hm.handle hi] at hfetch

/-- The host is asked for a property of an object. -/
theorem scriptHasProperty {o : ObjectRef} (ho : o.Within w.extent) (id : Identifier) :
    Twins ρ w w' (ScriptHost.hasProperty ops 0 o id)
      (ScriptHost.hasProperty ops' (ρ.runtimes 0) (o.relocate ρ) id) := by
  refine .get_bind ?_
  cases o with
  | handle i =>
    exact (hops.fetchHandle hn hm ho id).bind fun found hm _ _ => by
      have hpure := hm.pure (x := found.isSome) trivial
      rwa [show carry ρ found.isSome =
        (carry ρ found).isSome from (Option.isSome_map ..).symm] at hpure
  | proxy i =>
    dsimp only [ObjectRef.relocate]
    rw [hm.proxy ho]
    exact (hm.hasProperty _ World.Moved.within_free _).bind fun r hm _ _ =>
      hm.pure (x := r.1) trivial
  | table i => exact ho.elim

/-- The host reads it. -/
theorem scriptGetProperty {o : ObjectRef} (ho : o.Within w.extent) (id : Identifier) :
    Twins ρ w w' (ScriptHost.getProperty ops 0 o id)
      (ScriptHost.getProperty ops' (ρ.runtimes 0) (o.relocate ρ) id) := by
  refine .get_bind ?_
  cases o with
  | handle i =>
    refine (hops.fetchHandle hn hm ho id).bind fun found hm _ _ => ?_
    cases found with
    | some v => exact hm.toVariant v
    | none => exact hm.pure (x := (none : Option Variant)) Carried.within_none
  | proxy i =>
    dsimp only [ObjectRef.relocate]
    rw [hm.proxy ho]
    refine (hops.proxyGetProperty hm hn (hm.host_proxy ho) World.Moved.within_free _).bind
      fun ⟨v, slot⟩ hm _ hwithin => ?_
    dsimp only
    rw [show (carry ρ (v, slot)).2 = carry ρ slot from rfl, World.Moved.pending_carry]
    refine .ite (fun _ => ?_) fun _ => hm.pure (x := some v) (Carried.within_some hwithin.1)
    refine (hm.releaseVariant hwithin.1).bind fun _ hm hgrows _ => ?_
    exact (hm.abandon slot).bind fun _ hm _ _ =>
      hm.pure (x := (none : Option Variant)) Carried.within_none
  | table i => exact ho.elim

/-- The host writes it. -/
theorem scriptSetProperty {o : ObjectRef} (ho : o.Within w.extent) (id : Identifier) {v : Variant}
    (hv : v.Within w.extent) :
    Twins ρ w w' (ScriptHost.setProperty ops 0 o id v)
      (ScriptHost.setProperty ops' (ρ.runtimes 0) (o.relocate ρ) id (v.relocate ρ)) := by
  refine .get_bind ?_
  cases o with
  | handle i =>
    dsimp only [ObjectRef.relocate]
    rw [hm.handle ho, Handle.relocate_object]
    refine (hm.toValue hv).bind fun value hm _ _ => ?_
    have hassign := hops.assign hn hm (w.handles.getD i default).object (ScriptHost.keyOf id) value
    rw [keyOf_relocate] at hassign
    refine hassign.bind fun done hm _ _ => ?_
    cases done with
    | ok _ => exact hm.pure (x := true) trivial
    | error _ => exact hm.pure (x := false) trivial
  | proxy i =>
    dsimp only [ObjectRef.relocate]
    rw [hm.proxy ho]
    refine (hops.proxySetProperty hm hn (hm.host_proxy ho) World.Moved.within_free _ hv).bind
      fun slot hm _ hslot => ?_
    refine (hm.abandon slot).bind fun _ hm _ _ => ?_
    rw [World.Moved.pending_carry]
    exact hm.pure (x := !ScriptHost.pending slot) trivial
  | table i => exact ho.elim

/-! ### Programs -/

omit hm in
/-- Nothing of earlier runs is needed unless one is still going on. -/
theorem runProgram {p q : Prop} (hm : w.Moved ρ p q w') (hp : (w.runtime 0).running = true → p)
    (hq : (w.runtime 0).running = true → q) (program : Script.Program) (steps : Nat) :
    Twins ρ w w' (ScriptHost.runProgram ops 0 program steps)
      (ScriptHost.runProgram ops' (ρ.runtimes 0) program steps) := by
  refine .get_bind ?_
  rw [hm.runtime]
  simp only [Runtime.relocate_running, Runtime.relocate_config, Runtime.relocate_depth,
    Runtime.relocate_realm]
  refine .ite (fun hfull => ?_) fun _ => ?_
  · have hrunning := (Bool.and_eq_true _ _).mp hfull |>.1
    have hheap : w.heap.Moved ρ True True w'.heap :=
      { hm.heap with
        result := fun _ => hm.heap.result (hp hrunning)
        effort := fun _ => hm.heap.effort (hq hrunning) }
    exact World.Moved.throw (α := Script.Outcome) (hm.withObjects hheap) .overflow
  · generalize (if (w.runtime 0).running = true then (w.runtime 0).depth + 1 else 0) = depth
    -- What was waiting before, or nothing, is put back.
    have hrest {g g' : Heap} (hg : g.Moved ρ True q g') (m : Script.Machine) :
        Twins ρ { w with heap := g } { w' with heap := g' }
          (ObjectBridge.cleanly (ScriptHost.runMachine ops 0 steps m) (ScriptHost.withHeap fun h =>
            ((), { h with result := if (w.runtime 0).running =
              true then w.heap.result else .undefined })))
          (ObjectBridge.cleanly (ScriptHost.runMachine ops' (ρ.runtimes 0) steps (m.relocate ρ))
            (ScriptHost.withHeap fun h =>
            ((), { h with result := if (w.runtime 0).running =
              true then w'.heap.result else .undefined }))) := by
      refine Twins.cleanly (hops.runMachine hn (hm.withObjects hg) hq steps m) fun hm' _ => ?_
      refine hm'.withHeap { hm'.heap with result := fun _ => ?_ } rfl trivial
      dsimp only
      split
      · next hrunning => exact hm.heap.result (hp hrunning)
      · rfl
    have hclear : ({ w.heap with result := .undefined } : Heap).Moved ρ True q
        { w'.heap with result := .undefined } :=
      { hm.heap with result := fun _ => rfl }
    have hrefused := hclear.refusedFunction? (w.runtime 0).realm program
    cases hname : Script.refusedFunction? (w.runtime 0).realm { w.heap with result := .undefined }
      program with
    | none =>
      rw [hname] at hrefused
      refine .onHeap ?_ ?_
        (hrest (hclear.prepare (w.runtime 0).realm program)
        (.ofProgram (w.runtime 0).realm program depth))
      · dsimp only
        rw [hname]
      · dsimp only
        rw [hrefused]
        rfl
    | some name =>
      rw [hname] at hrefused
      obtain ⟨g, o, g', ha, hb, hg⟩ := (hclear.newError (w.runtime 0).realm "TypeError"
        ("Cannot redefine global function '" ++ name ++ "'")).split
      dsimp only at ha hb
      refine .onHeap ?_ ?_ (hrest hg { control := .throw (.object o), depth })
      · rw [hname]
        dsimp only
        rw [ha]
      · rw [hrefused]
        dsimp only
        rw [hb]
        rfl

/-- The host evaluates a text. -/
theorem scriptEvaluate {scope : Option ObjectRef} (script : Bytes) :
    Twins ρ w w' (ScriptHost.evaluate ops 0 scope script)
      (ScriptHost.evaluate ops' (ρ.runtimes 0) (carry ρ scope) script) := by
  have hnone {u u' : World β} (hm : u.Moved ρ True True u') :
      Twins ρ u u' (pure none : M β (Option Variant)) (pure none) :=
    hm.pure (x := (none : Option Variant)) Carried.within_none
  refine .get_bind ?_
  rw [hm.runtime, show (carry ρ scope).isNone = scope.isNone from Option.isNone_map ..]
  refine .ite (fun _ => hnone hm) fun _ => ?_
  cases script.toString?.bind Script.parse? with
  | none => exact hnone hm
  | some program =>
    refine (hops.runProgram hn hm (fun _ => trivial) (fun _ => trivial) program _).caught.bind
      fun ran hm _ _ => ?_
    cases ran with
    | ok o =>
      cases o with
      | value v => exact hm.toVariant v
      | absent =>
        exact hm.pure (x := some Variant.void) (Carried.within_some (Variant.within_of_plain rfl))
      | _ => exact hnone hm
    | error u =>
      cases u with
      | misuse s => exact hm.throw (.misuse s)
      | fault => exact hm.throw .fault
      | _ => exact hnone hm

end HostOps.Twinned

/-- Hosts do the same in worlds that hold the same, however deep calls are
nested. -/
theorem twinned_hostOps [Native β] (hn : Native.Portable β) (ρ : Relocation) (level : Nat) :
    (hostOps level : HostOps β).Twinned ρ (hostOps level) := by
  induction level with
  | zero =>
    exact {
      hasProperty := fun _ hm _ => hm.throw .overflow
      getProperty := fun _ hm _ => hm.throw .overflow
      setProperty := fun _ _ hm _ _ => hm.throw .overflow
      evaluate := fun _ hm _ => hm.throw .overflow }
  | succ level ih =>
    exact {
      hasProperty := fun id hm ho => ih.scriptHasProperty hn hm ho id
      getProperty := fun id hm ho => ih.scriptGetProperty hn hm ho id
      setProperty := fun id _ hm ho hv => ih.scriptSetProperty hn hm ho id hv
      evaluate := fun script hm _ => ih.scriptEvaluate hn hm script }

end ObjectBridge

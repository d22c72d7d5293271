import ObjectBridge.Proofs.Bridge.Twins
import ObjectBridge.Proofs.Builtin.Counter

/-!
# `ObjectBridge.Proofs.Builtin.Twins`: built-in members elsewhere

The built-in members come to the same wherever their counters, their arguments
and their instance stand (`Behaviour.portable`). Only the members of a counter
have storage, and they name its cell. No registry has such members, so the
built-in classes are the same everywhere (`Behaviour.still`).
-/

set_option autoImplicit false

namespace ObjectBridge

/-- The members of a counter stand where its cell does. -/
instance : Relocatable Behaviour where
  relocate ρ
    | .counterValue cell => .counterValue (ρ.cells cell)
    | .setCounter cell => .setCounter (ρ.cells cell)
    | .increment cell => .increment (ρ.cells cell)
    | b => b

/-- An element is replaced in both arrays, or in neither. -/
theorem Placed.setIfInBounds {ι κ : Type} {place : Nat ↪ Nat} {move : ι → κ} {xs : Array ι}
    {ys : Array κ} (h : Placed place move xs ys) (i : Nat) (x : ι) :
    Placed place move (xs.setIfInBounds i x) (ys.setIfInBounds (place i) (move x)) where
  get j := by
    simp only [Array.getElem?_setIfInBounds, place.apply_eq_iff_eq, h.lt_iff, h.get]
    split
    · split <;> rfl
    · rfl
  next k := by rw [Array.size_setIfInBounds, Array.size_setIfInBounds, h.next]

namespace Behaviour

variable {β : Type} [Relocatable β] {ρ : Relocation} {w w' : World β}

instance : Carried (List UInt32) := .still _

/-! ### Arguments -/

section

variable (method : String) (args : List Variant) (i : Nat)

/-- A text among the arguments is the same. -/
theorem argString_carry : argString method (carry ρ args) i = argString method args i := by
  unfold argString
  rw [show (carry ρ args)[i]? = args[i]?.map (·.relocate ρ) from List.getElem?_map]
  obtain _ | v := args[i]?
  · rfl
  · cases v <;> rfl

/-- A variant is the same number. -/
theorem number?_relocate (v : Variant) : (v.relocate ρ).number? = v.number? := by
  cases v <;> rfl

/-- A number among the arguments is the same. -/
theorem argNumber_carry : argNumber method (carry ρ args) i = argNumber method args i := by
  unfold argNumber
  rw [show (carry ρ args)[i]? = args[i]?.map (·.relocate ρ) from List.getElem?_map, Option.bind_map]
  simp only [Function.comp_def, number?_relocate]

/-- An object among them is the moved one. -/
theorem argObject_carry :
    argObject method (carry ρ args) i = (argObject method args i).map (·.relocate ρ) := by
  unfold argObject
  rw [show (carry ρ args)[i]? = args[i]?.map (·.relocate ρ) from List.getElem?_map]
  obtain _ | v := args[i]?
  · rfl
  · cases v <;> rfl

variable {method args i}

/-- An argument that is an object is there. -/
theorem within_argObject {e : Extent} (hargs : Carried.Within e args) {o : ObjectRef}
    (h : argObject method args i = .ok o) : o.Within e := by
  unfold argObject at h
  split at h
  · next o' hget =>
    cases h
    exact hargs _ (List.mem_of_getElem? hget) o rfl
  · cases h

end

/-! ### Members without the host -/

section

variable {inst : Option Nat} (hm : w.Moved ρ True True w')

include hm

/-- What says in words what is wrong says it everywhere. -/
theorem twins_error {α : Type} [Carried α] {f : Failure} (hf : ∃ text, f = .ofText text) :
    Twins ρ w w' (pure (.error f) : M β (Except Failure α)) (pure (.error f)) := by
  obtain ⟨text, rfl⟩ := hf
  exact hm.pure (x := (.error (.ofText text) : Except Failure α)) (Failure.within_of_own rfl)

/-- A plain result is the same everywhere. -/
theorem twins_ok {v : Variant} (hv : v.object? = none) :
    Twins ρ w w' (pure (.ok v) : M β (Except Failure Variant)) (pure (.ok v)) := by
  have hpure := hm.pure (x := (.ok v : Except Failure Variant)) (Variant.within_of_plain hv)
  rwa [show carry ρ (.ok v : Except Failure Variant) =
    .ok v from congrArg Except.ok (Variant.relocate_of_plain hv)] at hpure

variable {args : List Variant} (hargs : Carried.Within w.extent args)

/-- A greeting by name needs bytes only. -/
theorem twins_greetByName (args : List Variant) :
    Twins ρ w w'
      (match argString "greet" args 0 with
        | .error f => pure (.error f)
        | .ok name => valueFromString (.script 0) (.ofString "Hello, " ++ name ++ .ofString "!"))
      (match argString "greet" (carry ρ args) 0 with
        | .error f => pure (.error f)
        | .ok name =>
          valueFromString (.script (ρ.runtimes 0)) (.ofString "Hello, " ++ name ++
            .ofString "!")) := by
  rw [argString_carry]
  cases h : argString "greet" args 0 with
  | error f => exact twins_error hm ⟨_, eq_of_argString h⟩
  | ok name => exact hm.valueFromString _

/-- A greeting needs bytes only. -/
theorem twins_greet :
    Twins ρ w w' (runGreet ⟨.script 0, inst⟩ args)
      (runGreet ⟨.script (ρ.runtimes 0), inst.map ρ.instances⟩ (carry ρ args)) := by
  have hname := twins_greetByName hm args
  unfold runGreet
  cases args with
  | nil => exact hm.valueFromString _
  | cons v rest =>
    cases v with
    | void => exact hm.valueFromString _
    | _ => exact hname

/-- A copy of a value is raised elsewhere. -/
theorem twins_raiseCopy {v : Variant} (hv : v.Within w.extent) :
    Twins ρ w w'
      (do
        match ← copyVariant (.script 0) v with
        | .ok copy => return (.error (.thrown copy) : Except Failure Variant)
        | .error f => return .error f)
      (do
        match ← copyVariant (.script (ρ.runtimes 0)) (v.relocate ρ) with
        | .ok copy => return (.error (.thrown copy) : Except Failure Variant)
        | .error f => return .error f) := by
  refine (hm.copyVariant hv).bind fun copy hm _ hcopy => ?_
  cases copy with
  | ok copy =>
    refine hm.pure (x := (.error (.thrown copy) : Except Failure Variant)) fun v hv => ?_
    cases hv
    exact hcopy
  | error f => exact hm.pure (x := (.error f : Except Failure Variant)) hcopy

include hargs in
/-- Whatever is raised is raised elsewhere. -/
theorem twins_raise :
    Twins ρ w w' (runRaise ⟨.script 0, inst⟩ args)
      (runRaise ⟨.script (ρ.runtimes 0), inst.map ρ.instances⟩ (carry ρ args)) := by
  unfold runRaise
  cases args with
  | nil => exact twins_error hm ⟨_, rfl⟩
  | cons v rest =>
    obtain ⟨hv, _⟩ := List.forall_mem_cons.mp hargs
    cases v with
    | string bytes =>
      refine hm.pure (x := (.error (.thrown (.string bytes)) : Except Failure Variant)) fun v hv =>
        ?_
      cases hv
      exact Variant.within_of_plain rfl
    | _ => exact twins_raiseCopy hm hv

/-- The last error is that of the moved instance. -/
theorem twins_lastError :
    Twins ρ w w' (runLastError ⟨.script 0, inst⟩)
      (runLastError ⟨.script (ρ.runtimes 0), inst.map ρ.instances⟩) := by
  refine .get_bind ?_
  have hinstance := hm.instanceOf? ⟨.script 0, inst⟩
  rw [show w'.instanceOf? ⟨.script (ρ.runtimes 0), inst.map ρ.instances⟩ = _ from hinstance]
  cases w.instanceOf? ⟨.script 0, inst⟩ with
  | none => exact twins_ok hm (v := .null) rfl
  | some x => exact .ite (fun _ => twins_ok hm (v := .null) rfl) fun _ => hm.valueFromString _

/-- A text becomes wide units in the same encoding. -/
theorem twins_wideArgument (method : String) :
    Twins ρ w w' (wideArgument method ⟨.script 0, inst⟩ args)
      (wideArgument method ⟨.script (ρ.runtimes 0), inst.map ρ.instances⟩ (carry ρ args)) := by
  refine (hm.encodingFor ⟨.script 0, inst⟩).bind fun enc hm _ _ => ?_
  rw [argString_carry]
  cases h : argString method args 0 with
  | error f => exact twins_error hm ⟨_, eq_of_argString h⟩
  | ok s =>
    dsimp only
    rw [show carry ρ enc = enc from rfl]
    cases Wide.ofUtf8 enc s with
    | ok units =>
      exact hm.pure (x := (.ok (enc, units) : Except Failure (WideEncoding × List UInt32)))
        ⟨trivial, trivial⟩
    | error e =>
      exact hm.pure (x := (.error (.text e) : Except Failure (WideEncoding × List UInt32)))
        (Failure.within_of_own rfl)

end

/-! ### Arrays -/

section

variable {inst : Option Nat} {ops ops' : HostOps β} (hops : ops.Twinned ρ ops')
    (hm : w.Moved ρ True True w')

include hops hm

/-- The elements of an array are read, up to the first that is missing. -/
theorem twins_readElements (a : Accessor) {arr : ObjectRef} (harr : arr.Within w.extent)
    (count next : Nat) {done : List Variant} (hdone : Carried.Within w.extent done) :
    Twins ρ w w' (readElements ops ⟨.script 0, inst⟩ a arr count next done)
      (readElements ops' ⟨.script (ρ.runtimes 0), inst.map ρ.instances⟩ (a.relocate ρ)
        (arr.relocate ρ) count next (carry ρ done)) := by
  have hreverse (vs : List Variant) : (carry ρ vs).reverse = carry ρ vs.reverse :=
    List.map_reverse.symm
  have hwithin {e : Extent} {vs : List Variant} (hvs : Carried.Within e vs) :
      Carried.Within e vs.reverse :=
    fun v hv => hvs v (List.mem_reverse.mp hv)
  induction count generalizing w w' next done with
  | zero =>
    unfold readElements
    rw [hreverse]
    exact hm.pure (x := (.ok done.reverse : Except Failure (List Variant))) (hwithin hdone)
  | succ count ih =>
    unfold readElements
    refine (hops.getIndexed hm a harr _).bind fun found hm hgrows hfound => ?_
    cases found with
    | some v =>
      exact ih hm (harr.mono hgrows) (next + 1)
        (List.forall_mem_cons.mpr ⟨hfound v rfl, Carried.mono hgrows hdone⟩)
    | none =>
      dsimp only
      rw [hreverse]
      exact (hm.releaseAll (Carried.mono hgrows (hwithin hdone))).bind fun _ hm _ _ =>
        twins_error hm ⟨_, rfl⟩

/-- So is a whole array, by its length. -/
theorem twins_readArray {arr : ObjectRef} (harr : arr.Within w.extent) :
    Twins ρ w w' (readArray ops ⟨.script 0, inst⟩ arr)
      (readArray ops' ⟨.script (ρ.runtimes 0), inst.map ρ.instances⟩ (arr.relocate ρ)) := by
  unfold readArray
  refine (hm.accessorFor ⟨.script 0, inst⟩).bind fun a hm hacc _ => ?_
  refine (hops.getNamed hm a (harr.mono hacc) _).bind fun {u u'} length hm hgrows hlength => ?_
  rw [show (carry ρ length).bind (·.number?) = length.bind (·.number?) by
    cases length with
    | none => rfl
    | some v => exact number?_relocate v]
  cases length.bind (·.number?) with
  | none =>
    have hvalue : (length.getD .void).Within u.extent ∧ (carry ρ length).getD .void =
        (length.getD .void).relocate ρ := by
      cases length with
      | none => exact ⟨Variant.within_of_plain rfl, rfl⟩
      | some v => exact ⟨hlength v rfl, rfl⟩
    dsimp only
    rw [hvalue.2]
    exact (hm.releaseVariant hvalue.1).bind fun _ hm _ _ => twins_error hm ⟨_, rfl⟩
  | some n =>
    refine .ite (fun _ => twins_error hm ⟨_, rfl⟩) fun _ => ?_
    exact twins_readElements hops hm a (harr.mono (hacc.trans hgrows)) _ 0
      (fun v hv => absurd hv List.not_mem_nil)

variable {args : List Variant} (hargs : Carried.Within w.extent args)

include hargs

/-- Elements are joined and given back. -/
theorem twins_join :
    Twins ρ w w' (runJoin ops ⟨.script 0, inst⟩ args)
      (runJoin ops' ⟨.script (ρ.runtimes 0), inst.map ρ.instances⟩ (carry ρ args)) := by
  unfold runJoin
  rw [argObject_carry, argString_carry, show (carry ρ args).length =
    args.length from List.length_map _]
  cases harr : argObject "join" args 0 with
  | error f => exact twins_error hm ⟨_, eq_of_argObject harr⟩
  | ok arr =>
    have hsep : ∀ f, (if 1 < args.length then argString "join" args 1 else .ok (.ofString ",")) =
        .error f → ∃ text, f = .ofText text := by
      intro f hf
      split at hf
      · exact ⟨_, eq_of_argString hf⟩
      · cases hf
    dsimp only [Except.map]
    generalize (if 1 < args.length then argString "join" args 1 else .ok (.ofString ",")) =
      sep at hsep
    cases sep with
    | error f => exact twins_error hm (hsep f rfl)
    | ok sep =>
      refine (twins_readArray hops hm (within_argObject hargs harr)).bind fun elems hm _ helems =>
        ?_
      cases elems with
      | error f => exact hm.pure (x := (.error f : Except Failure Variant)) helems
      | ok elems =>
        have htexts : (carry ρ elems).map Variant.text = elems.map Variant.text := by
          show (elems.map (carry ρ)).map _ = _
          rw [List.map_map]
          exact List.map_congr_left fun v _ => Variant.text_relocate v
        show Twins ρ _ _ _ (cleanly
          (valueFromString _ (Bytes.intercalate sep ((carry ρ elems).map Variant.text)))
          (releaseAll _ (carry ρ elems)))
        rw [htexts]
        exact (hm.valueFromString _).cleanly fun hm hgrows =>
          hm.releaseAll (Carried.mono hgrows helems)

omit hops hm hargs in
/-- The elements add up to the same, or the same one is no number. -/
theorem total_carry (place : Nat) (acc : Float) (vs : List Variant) :
    total place acc (carry ρ vs) = total place acc vs := by
  induction vs generalizing place acc with
  | nil => rfl
  | cons v rest ih =>
    show total place acc (carry ρ v :: carry ρ rest) = _
    unfold total
    rw [show (carry ρ v).number? = v.number? from number?_relocate v]
    cases v.number? with
    | none => rfl
    | some n => exact ih _ _

/-- Elements are added up and given back. -/
theorem twins_sum :
    Twins ρ w w' (runSum ops ⟨.script 0, inst⟩ args)
      (runSum ops' ⟨.script (ρ.runtimes 0), inst.map ρ.instances⟩ (carry ρ args)) := by
  unfold runSum
  rw [argObject_carry]
  cases harr : argObject "sum" args 0 with
  | error f => exact twins_error hm ⟨_, eq_of_argObject harr⟩
  | ok arr =>
    refine (twins_readArray hops hm (within_argObject hargs harr)).bind fun elems hm _ helems => ?_
    cases elems with
    | error f => exact hm.pure (x := (.error f : Except Failure Variant)) helems
    | ok elems =>
      refine Twins.cleanly ?_ fun hm hgrows => hm.releaseAll (Carried.mono hgrows helems)
      rw [total_carry]
      cases total 0 0.0 elems with
      | ok n => exact twins_ok hm (Variant.object?_ofNumber n)
      | error i => exact twins_error hm ⟨_, rfl⟩

omit hargs in
/-- Numbers are stored, up to the first that cannot be. -/
theorem twins_fillRange (a : Accessor) {arr : ObjectRef} (harr : arr.Within w.extent)
    (count next : Nat) :
    Twins ρ w w' (fillRange ops ⟨.script 0, inst⟩ a arr count next)
      (fillRange ops' ⟨.script (ρ.runtimes 0), inst.map ρ.instances⟩ (a.relocate ρ) (arr.relocate ρ)
        count next) := by
  induction count generalizing w w' next with
  | zero => exact hm.pure (x := (none : Option Nat)) Carried.within_none
  | succ count ih =>
    unfold fillRange
    refine (hops.setIndexed hm a harr _ (v := .int32 _) (Variant.within_of_plain rfl)).bind
      fun set hm hgrows _ => ?_
    exact .ite (fun _ => ih hm (harr.mono hgrows) _) fun _ =>
      hm.pure (x := some next) (Carried.within_some trivial)

omit hargs in
/-- A new array of numbers is made, or given back. -/
theorem twins_range :
    Twins ρ w w' (runRange ops ⟨.script 0, inst⟩ args)
      (runRange ops' ⟨.script (ρ.runtimes 0), inst.map ρ.instances⟩ (carry ρ args)) := by
  unfold runRange
  rw [argNumber_carry]
  cases hn : argNumber "range" args 0 with
  | error f => exact twins_error hm ⟨_, eq_of_argNumber hn⟩
  | ok n =>
    dsimp only
    cases (Double.ofFloat n).toInt? with
    | none => exact twins_error hm ⟨_, rfl⟩
    | some length =>
      refine .ite (fun _ => twins_error hm ⟨_, rfl⟩) fun _ => ?_
      refine (hm.accessorFor ⟨.script 0, inst⟩).bind fun a hm _ _ => ?_
      refine (hops.createArray hm a).bind fun made hm _ hmade => ?_
      cases made with
      | none => exact twins_error hm ⟨_, rfl⟩
      | some arr =>
        have harr : arr.Within _ := hmade arr rfl
        refine (twins_fillRange hops hm a harr _ 0).bind fun failed hm hgrows _ => ?_
        cases failed with
        | none =>
          exact hm.pure (x := (.ok (.object arr) : Except Failure Variant))
            (Variant.within_object (harr.mono hgrows))
        | some i => exact (hm.release (harr.mono hgrows)).bind fun _ hm _ _ =>
          twins_error hm ⟨_, rfl⟩

/-- An element is read. -/
theorem twins_element :
    Twins ρ w w' (runElement ops ⟨.script 0, inst⟩ args)
      (runElement ops' ⟨.script (ρ.runtimes 0), inst.map ρ.instances⟩ (carry ρ args)) := by
  unfold runElement
  rw [argObject_carry, argNumber_carry]
  cases harr : argObject "at" args 0 with
  | error f => exact twins_error hm ⟨_, eq_of_argObject harr⟩
  | ok arr =>
    dsimp only [Except.map]
    cases hn : argNumber "at" args 1 with
    | error f => exact twins_error hm ⟨_, eq_of_argNumber hn⟩
    | ok n =>
      refine .ite (fun _ => twins_error hm ⟨_, rfl⟩) fun _ => ?_
      refine (hm.accessorFor ⟨.script 0, inst⟩).bind fun a hm hacc _ => ?_
      refine (hops.getIndexed hm a ((within_argObject hargs harr).mono hacc) _).bind
        fun found hm _ hfound => ?_
      cases found with
      | some v => exact hm.pure (x := (.ok v : Except Failure Variant)) (hfound v rfl)
      | none => exact twins_error hm ⟨_, rfl⟩

end

/-! ### Counters -/

section

variable {inst : Option Nat} (hm : w.Moved ρ True True w') (cell : Nat)

include hm

/-- A cell holds the same number. -/
theorem twins_cellNumber : Twins ρ w w' (cellNumber cell) (cellNumber (ρ.cells cell)) := by
  refine .get_bind ?_
  have hcell : w'.cells.getD (ρ.cells cell) .void = (w.cells.getD cell .void).relocate ρ :=
    hm.cells.getD cell .void
  have hnumber : (w'.cells.getD (ρ.cells cell) .void).asDouble =
      (w.cells.getD cell .void).asDouble := by
    rw [hcell]
    cases w.cells.getD cell .void <;> rfl
  rw [hnumber]
  exact hm.pure (x := (w.cells.getD cell .void).asDouble) trivial

/-- A number is put into a cell. -/
theorem twins_setCell (n : Float) :
    Twins ρ w w' (setCell cell (.double n)) (setCell (ρ.cells cell) (.double n)) :=
  .modify { hm with
    cells := hm.cells.setIfInBounds cell (.double n)
    stored := fun v hv => by
      obtain hv | rfl := Array.mem_or_eq_of_mem_setIfInBounds hv
      · exact hm.stored v hv
      · exact Variant.within_of_plain rfl } le_rfl

variable (args : List Variant)

/-- A counter counts up in its own cell. -/
theorem twins_increment :
    Twins ρ w w' (runIncrement cell args) (runIncrement (ρ.cells cell) (carry ρ args)) := by
  have hstep : counterStep (carry ρ args) = counterStep args := by
    unfold counterStep
    rw [argNumber_carry, show (carry ρ args).isEmpty = args.isEmpty from List.isEmpty_map]
  rw [runIncrement_eq, runIncrement_eq, hstep]
  cases h : counterStep args with
  | error f => exact twins_error hm ⟨_, eq_of_counterStep h⟩
  | ok amount =>
    refine (twins_cellNumber hm cell).bind fun n hm _ _ => ?_
    exact (twins_setCell hm cell _).bind fun _ hm _ _ => twins_ok hm (Variant.object?_ofNumber _)

/-! The members of a counter are made together with its cell. -/

variable {lift : Behaviour → β} (hlift : ∀ (ρ : Relocation) (b : Behaviour),
  Relocatable.relocate ρ (lift b) = lift (Relocatable.relocate ρ b))

include hlift

omit hm in
/-- The class of a counter moves with the cell. -/
theorem counterClass_relocate :
    (counterClass lift cell).relocate ρ = counterClass lift (ρ.cells cell) := by
  have hincrement := hlift ρ (.increment cell)
  have hget := hlift ρ (.counterValue cell)
  have hset := hlift ρ (.setCounter cell)
  unfold counterClass Class.relocate
  simp only [Dict.ofList, List.foldl_cons, List.foldl_nil, Dict.map_insert, Option.map_some,
    Property.relocate, hincrement, hget, hset]
  rfl

/-- A counter that is made has a node and a cell in both worlds. -/
theorem moved_withCounter (start : Float) :
    (withCounter lift ⟨.script 0, inst⟩ start w).Moved ρ True True
      (withCounter lift ⟨.script (ρ.runtimes 0), inst.map ρ.instances⟩ start w') := by
  have hbase : ((w'.instanceOf? ⟨.script (ρ.runtimes 0), inst.map ρ.instances⟩).bind fun i =>
        w'.graph.lookup? i.root (.ofString "object")) =
      ((w.instanceOf? ⟨.script 0, inst⟩).bind fun i => w.graph.lookup? i.root
        (.ofString "object")).map ρ.nodes := by
    have hinstance := hm.instanceOf? ⟨.script 0, inst⟩
    rw [show w'.instanceOf? ⟨.script (ρ.runtimes 0), inst.map ρ.instances⟩ = _ from hinstance]
    cases w.instanceOf? ⟨.script 0, inst⟩ with
    | none => rfl
    | some x => exact hm.graph.lookup? x.root _
  have hadded := hm.graph.addNode (some (counterClass lift w.cells.size))
  rw [Option.map_some, counterClass_relocate _ hlift, hm.cells.size] at hadded
  refine { hm with graph := ?_, cells := hm.cells.push (.double start), stored := fun v hv => ?_ }
  · unfold withCounter Graph.addBased
    dsimp only
    rw [hbase]
    cases (w.instanceOf? ⟨.script 0, inst⟩).bind fun i =>
      w.graph.lookup? i.root (.ofString "object") with
    | none => exact hadded
    | some b =>
      dsimp only [Option.map_some]
      rw [← hm.graph.size]
      exact hadded.setBase _ b
  · obtain hv | rfl := Array.mem_push.mp hv
    · exact hm.stored v hv
    · exact Variant.within_of_plain rfl

/-- It is handed out as a new proxy. -/
theorem twins_newCounter :
    Twins ρ w w' (runNewCounter lift ⟨.script 0, inst⟩ args)
      (runNewCounter lift ⟨.script (ρ.runtimes 0), inst.map ρ.instances⟩ (carry ρ args)) := by
  have hstart : counterStart (carry ρ args) = counterStart args := by
    unfold counterStart
    rw [argNumber_carry]
    obtain _ | ⟨v, rest⟩ := args
    · rfl
    · cases v <;> rfl
  rw [runNewCounter_eq, runNewCounter_eq, hstart]
  cases h : counterStart args with
  | error f => exact twins_error hm ⟨_, eq_of_counterStart h⟩
  | ok start =>
    refine .get_bind ?_
    rw [← hm.graph.size]
    refine Twins.bind (.modify (moved_withCounter hm hlift start) le_rfl) fun _ hm _ _ => ?_
    refine (hm.newProxy rfl _).bind fun o hm _ ho => ?_
    exact hm.pure (x := (.ok (.object o) : Except Failure Variant)) (Variant.within_object ho)

end

/-! ### All members -/

/-- Every built-in member comes to the same elsewhere. -/
theorem twins_run {lift : Behaviour → β} (hlift : ∀ (ρ : Relocation) (b : Behaviour),
      Relocatable.relocate ρ (lift b) = lift (Relocatable.relocate ρ b))
    {ops ops' : HostOps β} (hops : ops.Twinned ρ ops') (hm : w.Moved ρ True True w') {ctx : Context}
    (hctx : ctx.host = .script 0) (b : Behaviour) {args : List Variant}
    (hargs : Carried.Within w.extent args) :
    Twins ρ w w' (run lift ops ctx b args)
      (run lift ops' (ctx.relocate ρ) (Relocatable.relocate ρ b) (carry ρ args)) := by
  obtain ⟨_, inst⟩ := ctx
  cases hctx
  cases b with
  | describe => exact hm.valueFromString _
  | greet => exact twins_greet hm
  | echo =>
    cases args with
    | nil => exact twins_ok hm rfl
    | cons v rest => exact hm.copyVariant (List.forall_mem_cons.mp hargs).1
  | raise => exact twins_raise hm hargs
  | version => exact hm.valueFromString _
  | lastError => exact twins_lastError hm
  | upper =>
    unfold run
    rw [argString_carry]
    cases h : argString "upper" args 0 with
    | error f => exact twins_error hm ⟨_, eq_of_argString h⟩
    | ok s => exact hm.valueFromString _
  | wide =>
    refine (twins_wideArgument hm "wide").bind fun r hm _ hr => ?_
    cases r with
    | ok r => exact hm.valueFromWide r.1 r.2
    | error f => exact hm.pure (x := (.error f : Except Failure Variant)) hr
  | wideUnits =>
    refine (twins_wideArgument hm "wideUnits").bind fun r hm _ hr => ?_
    cases r with
    | ok r => exact twins_ok hm rfl
    | error f => exact hm.pure (x := (.error f : Except Failure Variant)) hr
  | join => exact twins_join hops hm hargs
  | range => exact twins_range hops hm
  | sum => exact twins_sum hops hm hargs
  | element => exact twins_element hops hm hargs
  | newCounter => exact twins_newCounter hm args hlift
  | counterValue cell =>
    exact (twins_cellNumber hm cell).bind fun n hm _ _ => twins_ok hm (Variant.object?_ofNumber n)
  | setCounter cell =>
    have hnumber : (carry ρ args).head?.bind (·.number?) = args.head?.bind (·.number?) := by
      obtain _ | ⟨v, rest⟩ := args
      · rfl
      · exact number?_relocate v
    dsimp only [Relocatable.relocate]
    unfold run
    rw [hnumber]
    cases args.head?.bind (·.number?) with
    | some n => exact (twins_setCell hm cell n).bind fun _ hm _ _ => twins_ok hm rfl
    | none => exact twins_error hm ⟨_, rfl⟩
  | increment cell => exact twins_increment hm cell args

end Behaviour

/-- So the built-in members are portable. -/
theorem Behaviour.portable : Native.Portable Behaviour where
  call code _ hops hm hctx hargs := twins_run (fun _ _ => rfl) hops hm hctx code hargs
  store code v hops hm hctx hv := by
    have hsame (ρ : Relocation) (b : Behaviour) : Relocatable.relocate ρ (id b) =
        id (Relocatable.relocate ρ b) := rfl
    have hargs : Carried.Within _ [v] := List.forall_mem_singleton.mpr hv
    have hcall := twins_run hsame hops hm hctx code hargs
    refine hcall.bind fun r hm _ hr => ?_
    cases r with
    | ok _ => exact hm.pure (x := (.ok () : Except Failure Unit)) trivial
    | error f => exact hm.pure (x := (.error f : Except Failure Unit)) hr

/-- The built-in classes have no storage of their own. -/
theorem Behaviour.still {β : Type} [Relocatable β] {lift : Behaviour → β}
    (hlift : ∀ (ρ : Relocation) (b : Behaviour), Relocatable.relocate ρ (lift b) =
      lift (Relocatable.relocate ρ b)) : (builtinRegistry lift).Still := by
  intro ρ name c hc
  obtain ⟨c, hmem, hpair⟩ := List.mem_map.mp (Dict.mem_of_find?_ofList hc)
  cases hpair
  simp only [builtinClasses, List.mem_cons, List.not_mem_nil, or_false] at hmem
  rcases hmem with rfl | rfl | rfl | rfl | rfl <;>
    simp only [Class.relocate, Dict.ofList, List.map_cons, List.map_nil, List.foldl_cons,
      List.foldl_nil, Dict.map_insert, Property.relocate, Option.map_some,
      Option.map_none, hlift] <;>
    rfl

end ObjectBridge

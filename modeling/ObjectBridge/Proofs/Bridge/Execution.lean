import ObjectBridge.Proofs.Bridge.Binding
import ObjectBridge.Proofs.Bridge.ScriptTwins

/-!
# `ObjectBridge.Proofs.Bridge.Execution`: the same execution elsewhere

A runtime tells the same of a script wherever its objects stand
(`World.Matches.execute`). What leaves a runtime names no objects, so the
execution is the very same one: the same value or error, and the same lines on
the console. Only what an execution is unwound with may be an object, and
stands elsewhere.

Between two executions nothing runs. Then the value of the last program and the
effort it took may differ (`World.Matches`), as no script gets to know them.
-/

set_option autoImplicit false

namespace ObjectBridge

open Script (Value Heap ObjId)

variable {β : Type} [Relocatable β] {ρ : Relocation} {w w' : World β}

instance : Carried Runtime.Exported := .still _
instance : Carried Runtime.Execution := .still _

namespace World.Moved

variable (hm : w.Moved ρ True True w')

include hm

/-! ### Values that leave a script -/

/-- A flag that is raised stops code in both. -/
theorem heedFlag (code : Bool) :
    Twins ρ w w' (Runtime.heedFlag 0 code) (Runtime.heedFlag (ρ.runtimes 0) code) := by
  refine .get_bind ?_
  rw [hm.runtime]
  exact .ite (fun _ => hm.throw .interrupted) fun _ => hm.pure (x := ()) trivial

/-- Time passes for the watcher. -/
theorem passTime : Twins ρ w w' (Runtime.passTime 0) (Runtime.passTime (ρ.runtimes 0)) :=
  .modify (hm.modifyRuntime 0 fun _ => rfl) le_rfl

variable [Native β] (hn : Native.Portable β)

include hn

/-- A property is read while the script is watched. -/
theorem fetchWatched (o : ObjId) (key : Script.Key) :
    Twins ρ w w' (Runtime.fetchWatched 0 o key)
      (Runtime.fetchWatched (ρ.runtimes 0) (ρ.objects o) (key.relocate ρ)) := by
  refine .get_bind ?_
  rw [hm.heap.readByCode]
  refine (hm.heedFlag _).bind fun _ hm _ _ => ?_
  refine Twins.bind (((twinned_hostOps hn ρ nesting).fetch hn hm o key).cleanly fun hm _ =>
    hm.passTime) fun v hm _ _ => ?_
  exact (hm.heedFlag _).bind fun _ hm _ _ => hm.pure (x := v) fun _ _ => trivial

/-- The items are taken out as the values are. -/
theorem exportItems {fuel : Nat}
    (hvalue : ∀ {u u' : World β}, u.Moved ρ True True u' → ∀ (inside : List ObjId) (v : Value),
      Twins ρ u u' (Runtime.exportValue 0 fuel inside v)
        (Runtime.exportValue (ρ.runtimes 0) fuel (inside.map ρ.objects) (v.relocate ρ)))
    (inside : List ObjId) (o : ObjId) (keys : List Script.Key) :
    Twins ρ w w' (Runtime.exportItems 0 fuel inside o keys)
      (Runtime.exportItems (ρ.runtimes 0) fuel (inside.map ρ.objects) (ρ.objects o)
        (keys.map (·.relocate ρ))) := by
  induction keys generalizing w w' with
  | nil =>
    rw [List.map_nil, Runtime.exportItems, Runtime.exportItems]
    exact hm.pure (x := ([] : List Runtime.Exported)) Carried.within_nil
  | cons key rest ih =>
    rw [List.map_cons, Runtime.exportItems, Runtime.exportItems]
    refine (hm.fetchWatched hn o key).bind fun v hm _ _ => ?_
    rw [show (carry ρ v).getD .undefined = (v.getD .undefined).relocate ρ by cases v <;> rfl]
    refine (hvalue hm inside (v.getD .undefined)).bind fun x hm _ _ => ?_
    exact (ih hm).bind fun xs hm _ _ => hm.pure (x := x :: xs) fun _ _ => trivial

omit hn hm [Relocatable β] [Native β] in
/-- What leaves a script stands nowhere. -/
theorem carry_exported (xs : List Runtime.Exported) : carry ρ xs = xs := List.map_id xs

omit hn [Native β] in
/-- What has left is the same. -/
theorem exported (x : Runtime.Exported) : Twins ρ w w' (Pure.pure x) (Pure.pure x) :=
  hm.pure (x := x) trivial

/-- A value is taken out, as deep as values may be nested. -/
theorem exportValue (fuel : Nat) (inside : List ObjId) (v : Value) :
    Twins ρ w w' (Runtime.exportValue 0 fuel inside v)
      (Runtime.exportValue (ρ.runtimes 0) fuel (inside.map ρ.objects) (v.relocate ρ)) := by
  induction fuel generalizing w w' inside v with
  | zero =>
    rw [Runtime.exportValue, Runtime.exportValue]
    exact hm.exported .null
  | succ fuel ih =>
    cases v with
    | symbol s =>
      simp only [Runtime.exportValue, Value.relocate, Script.Symbol.label_relocate]
      exact hm.exported (.string s.label.toBytes)
    | object o =>
      have hinside : (inside.map ρ.objects).contains (ρ.objects o) = inside.contains o := by
        rw [Bool.eq_iff_iff, List.contains_iff_mem, List.contains_iff_mem,
          List.mem_map_of_injective ρ.objects.injective]
      have hitems (hm : w.Moved ρ True True w') (keys : List Script.Key) :=
        hm.exportItems hn ih (o :: inside) o keys
      simp only [Value.relocate, Runtime.exportValue, hinside]
      refine .ite (fun _ => hm.exported .cycle) fun _ => .get_bind ?_
      rw [hm.heap.obj, hm.heap.ownKeys, Script.Obj.relocate_kind]
      cases (w.heap.obj o).kind with
      | native _ _ => exact hm.exported .other
      | function _ => exact hm.exported .function
      | primitive v => exact ih hm (o :: inside) v
      | array length _ =>
        have hkeys : ((List.range length).map Script.Key.ofNat).map (·.relocate ρ) =
            (List.range length).map Script.Key.ofNat := by
          rw [List.map_map]
          exact List.map_congr_left fun n _ => Script.Key.relocate_ofNat n
        have hitems := hitems hm ((List.range length).map Script.Key.ofNat)
        rw [hkeys] at hitems
        refine hitems.bind fun xs hm _ _ => ?_
        rw [carry_exported]
        exact hm.exported (.list xs)
      | _ =>
        refine (hitems hm (w.heap.ownKeys o)).bind fun xs hm _ _ => ?_
        rw [carry_exported, List.map_map]
        simp only [Function.comp_def, Script.Key.shown_relocate]
        exact hm.exported (.object _)
    | _ =>
      simp only [Value.relocate, Runtime.exportValue]
      exact hm.exported _

/-- So is a result, where a native object is shown by its kind. -/
theorem exportResult (v : Value) :
    Twins ρ w w' (Runtime.exportResult 0 v)
      (Runtime.exportResult (ρ.runtimes 0) (v.relocate ρ)) := by
  cases v with
  | object o =>
    refine (hm.unwrap? o).bind fun found hm _ _ => ?_
    cases found with
    | some ref =>
      dsimp only [carry, Relocatable.relocate, Option.map_some]
      rw [ObjectRef.text_relocate]
      exact hm.exported (.string (.ofString ref.text))
    | none => exact hm.exportValue hn _ [] (.object o)
  | _ => exact hm.exportValue hn _ [] _

/-! ### How a run ends -/

omit hn [Native β] in
/-- What stops scripts is changed in both. -/
theorem modifyWatch (f : Watch → Watch) :
    Twins ρ w w' (Runtime.modifyWatch 0 f) (Runtime.modifyWatch (ρ.runtimes 0) f) :=
  .modify (hm.modifyRuntime 0 fun _ => rfl) le_rfl

omit hn [Native β] in
/-- A run ends, and tells what it wrote. -/
theorem finish (result : Except Runtime.ScriptError Runtime.Exported) :
    Twins ρ w w' (Runtime.finish 0 result) (Runtime.finish (ρ.runtimes 0) result) := by
  refine (hm.modifyWatch _).bind fun _ hm _ _ => .get_bind ?_
  rw [hm.runtime]
  exact hm.pure (x := ({ result, console := _ } : Runtime.Execution)) trivial

/-- A run that threw tells the text of what it threw. -/
theorem finishThrown (v : Value) :
    Twins ρ w w' (Runtime.finishThrown 0 v)
      (Runtime.finishThrown (ρ.runtimes 0) (v.relocate ρ)) := by
  refine (hm.finish _).bind fun ended hm _ _ => ?_
  refine ((twinned_hostOps hn ρ nesting).textOf hn hm v).caught.bind fun text hm _ _ => ?_
  cases text with
  | ok text =>
    exact hm.pure (x := { ended with result := .error (.exception text.toBytes) }) trivial
  | error u =>
    cases u with
    | thrown _ => exact hm.pure (x := { ended with result := .error .mute }) trivial
    | _ => exact hm.throw _

/-- A run that has a value takes it out. -/
theorem takeOut (f : Interrupt) (v : Value) :
    Twins ρ w w' (Runtime.takeOut 0 f v) (Runtime.takeOut (ρ.runtimes 0) f (v.relocate ρ)) := by
  refine (hm.finish _).bind fun ended hm _ _ => ?_
  refine Twins.bind (Twins.modify (hm.modifyRuntime 0 fun _ => rfl) le_rfl) fun _ hm _ _ => ?_
  refine Twins.bind ((hm.exportResult hn v).cleanly fun hm _ => hm.modifyWatch _) fun x hm _ _ => ?_
  exact hm.pure (x := { ended with result := .ok x }) trivial

/-- However it ended, a run tells the same. -/
theorem conclude (f : Interrupt) (ran : Except Unwind Script.Outcome) :
    Twins ρ w w' (Runtime.conclude 0 f ran) (Runtime.conclude (ρ.runtimes 0) f (carry ρ ran)) := by
  rcases ran with (u | o)
  · cases u with
    | thrown v => exact hm.finishThrown hn v
    | overflow => exact hm.finish _
    | interrupted => exact hm.finish _
    | _ => exact hm.throw _
  · cases o with
    | value v => exact hm.takeOut hn f v
    | absent => exact hm.finish _
    | thrown v => exact hm.finishThrown hn v
    | overflow => exact hm.finish _

end World.Moved

/-! ### Between runs -/

/-- The worlds hold the same, and so do their runs. What the last run left in
one of them may be different when nothing runs. -/
def World.Matches (ρ : Relocation) (w w' : World β) : Prop :=
  w.Moved ρ ((w.runtime 0).running = true) ((w.runtime 0).running = true) w'

/-- A script comes to the same in two worlds, elsewhere, and leaves them
alike. -/
structure Likewise {α : Type} [Carried α] (ρ : Relocation) (w w' : World β)
    (act act' : M β α) : Prop where
  result : (perform act' w').1 = carry ρ (perform act w).1
  worlds : (perform act w).2.Matches ρ (perform act' w').2

namespace Likewise

variable {α γ : Type} [Carried α] {act act' no no' : M β α}

/-- After something that both get, they go on alike. -/
theorem after {first first' : M β γ} {x x' : γ} {u u' : World β} {k k' : γ → M β α}
    (h : perform first w = (.ok x, u)) (h' : perform first' w' = (.ok x', u'))
    (hk : Likewise ρ u u' (k x) (k' x')) :
    Likewise ρ w w' (first >>= k) (first' >>= k') := by
  obtain ⟨hresult, hworlds⟩ := hk
  constructor
  · rw [perform_bind_ok h, perform_bind_ok h']
    exact hresult
  · rw [perform_bind_ok h, perform_bind_ok h']
    exact hworlds

/-- Both do one thing, or both do the other. -/
theorem ite {c : Prop} [Decidable c] (hyes : c → Likewise ρ w w' act act')
    (hno : ¬c → Likewise ρ w w' no no') :
    Likewise ρ w w' (if c then act else no) (if c then act' else no') := by
  split
  · exact hyes ‹_›
  · exact hno ‹_›

end Likewise

/-- Twins come to the same between runs as well. -/
theorem Twins.likewise {α : Type} [Carried α] {act act' : M β α} (h : Twins ρ w w' act act') :
    Likewise ρ w w' act act' where
  result := h.result
  worlds := { h.worlds with
    heap := { h.worlds.heap with
      result := fun _ => h.worlds.heap.result trivial
      effort := fun _ => h.worlds.heap.effort trivial } }

namespace World.Matches

variable (h : w.Matches ρ w')

include h

/-- The runtime is changed, but not what runs in it. -/
theorem modifyRuntime {f f' : Runtime → Runtime} (hf : ∀ x, (f x).relocate ρ = f' (x.relocate ρ))
    (hrunning : ∀ x, (f x).running = x.running) :
    ({ w with runtimes := w.runtimes.modify 0 f } : World β).Matches ρ
      { w' with runtimes := w'.runtimes.modify (ρ.runtimes 0) f' } := by
  have hthere : w.runtimes[0]? = some (w.runtime 0) := by
    unfold World.runtime
    rw [Array.getD_eq_getD_getElem?, Array.getElem?_eq_getElem (World.Moved.exists_runtime h)]
    rfl
  have hmodified : ({ w with runtimes := w.runtimes.modify 0 f } : World β).runtime 0 =
      f (w.runtime 0) :=
    Runtime.runtime_of_getElem? (Runtime.getElem?_modify_self hthere f)
  unfold World.Matches
  rw [hmodified, hrunning]
  exact World.Moved.modifyRuntime h 0 hf

/-- A run that has not begun ends alike. -/
theorem finish (result : Except Runtime.ScriptError Runtime.Exported) :
    Likewise ρ w w' (Runtime.finish 0 result) (Runtime.finish (ρ.runtimes 0) result) := by
  have hlowered : ({ w with runtimes := w.runtimes.modify 0 fun y =>
    { y with watch := y.watch.lower } } : World β).Matches
      ρ { w' with runtimes := w'.runtimes.modify (ρ.runtimes 0) fun y =>
        { y with watch := y.watch.lower } } :=
    h.modifyRuntime (fun _ => rfl) fun _ => rfl
  have hconsole := congrArg Runtime.console (World.Moved.runtime hlowered)
  exact ⟨congrArg (fun lines => Except.ok ({ result, console := some lines } : Runtime.Execution))
    hconsole, hlowered⟩

variable [Native β] (hn : Native.Portable β)

include hn

/-- A script comes to the same wherever its runtime stands. -/
theorem execute (script : String) (cancelled : Bool) :
    Likewise ρ w w' (Runtime.execute 0 script cancelled)
      (Runtime.execute (ρ.runtimes 0) script cancelled) := by
  have hbegun : ({ w with runtimes := w.runtimes.modify 0 Runtime.begun } : World β).Matches ρ
      { w' with runtimes := w'.runtimes.modify (ρ.runtimes 0) Runtime.begun } :=
    h.modifyRuntime (fun _ => rfl) fun _ => rfl
  refine .after (perform_get w) (perform_get w') ?_
  rw [World.Moved.runtime h]
  refine .ite (fun _ => ⟨rfl, h⟩) fun _ => .after (perform_modify _ w) (perform_modify _ w') ?_
  cases Script.parse? script with
  | none => exact hbegun.finish _
  | some program =>
    refine .after (perform_get _) (perform_get _) ?_
    rw [World.Moved.runtime hbegun]
    simp only [Runtime.relocate_watch, Runtime.relocate_config]
    split
    · exact hbegun.finish _
    · refine Twins.likewise (Twins.bind ?_ fun ran hm _ _ => hm.conclude hn _ ran)
      exact ((twinned_hostOps hn ρ nesting).runProgram hn hbegun id id program _).caught

end World.Matches

end ObjectBridge

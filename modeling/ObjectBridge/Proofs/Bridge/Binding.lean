import ObjectBridge.Bridge.Runtime
import ObjectBridge.Proofs.Bridge.Silent
import ObjectBridge.Proofs.Script.Global

/-!
# `ObjectBridge.Proofs.Bridge.Binding`: binding an object in a new runtime

The root of an instance is bound in a runtime in which nothing was done
before. Nobody is asked then (`run_bind`), and `perform_bind_untouched` gives
the world that is left: the heap with the global in it, and the runtime with
a reference that was the caller's. It says so for every name an object can
be bound under, also for those under which it cannot.
-/

set_option autoImplicit false

namespace ObjectBridge.Runtime

open Script (Value Key Heap Realm)

variable {β : Type} {w u v : World β} {i k : Nat} {y : Runtime} {x : Proxy} {name : String}

/-- A runtime that is listed is there. -/
theorem runtime_of_getElem? (hy : w.runtimes[i]? = some y) : w.runtime i = y := by
  rw [World.runtime, Array.getD_eq_getD_getElem?, hy, Option.getD_some]

/-- A change is found where it was made. -/
theorem getElem?_modify_self {ι : Type} {xs : Array ι} {y : ι} (h : xs[i]? = some y) (f : ι → ι) :
    (xs.modify i f)[i]? = some (f y) := by
  rw [Array.getElem?_modify, if_pos rfl, h, Option.map_some]

/-- Nothing was done in the runtime so far. -/
structure Untouched (w : World β) (i : Nat) (y : Runtime) : Prop where
  there : w.runtimes[i]? = some y
  isOpen : y.isOpen = true
  idle : y.running = false
  flat : y.depth = 0
  pristine : w.heap.Pristine y.realm

/-- The heap in which a native object was made known to the scripts of a
realm, before any other work is counted. -/
def exposed (h : Heap) (r : Realm) (o : ObjectRef) : Heap :=
  { (h.newNative r o).1 with effort := 0 }

/-- What making a proxy known to scripts leaves behind, when the caller's
reference goes to the runtime. -/
def exposingLeaves (w : World β) (i k : Nat) (y : Runtime) : World β :=
  { w with
    heap := (w.heap.newNative y.realm (.proxy k)).1
    runtimes := w.runtimes.modify i fun y => { y with adopted := .proxy k :: y.adopted } }

/-- What binding a proxy leaves behind. -/
def bindingLeaves (w : World β) (i k : Nat) (h : Heap) (used : Nat) : World β :=
  { w with
    heap := h
    runtimes := w.runtimes.modify i fun y =>
      { y with
        adopted := .proxy k :: y.adopted, running := false, depth := 0, steps :=
          ScriptHost.mostSteps - used } }

/-- Giving back a reference that was taken in between. -/
theorem perform_release_retained (hx : w.proxies[k]? = some x) (hheld : 0 < x.refs.refs)
    (hu : u.proxies = w.proxies.modify k fun x => { x with refs := x.refs.retain }) :
    perform (release (.proxy k)) u = (.ok (), { u with proxies := w.proxies }) := by
  have hthere : u.proxies[k]? = some { x with refs := x.refs.retain } := by
    rw [hu, getElem?_modify_self hx]
  have hproxy : u.proxy k = { x with refs := x.refs.retain } := by
    rw [World.proxy, Array.getD_eq_getD_getElem?, hthere, Option.getD_some]
  -- The count goes up and down again without reaching zero.
  have hback : x.refs.retain.release = (x.refs, .kept) := by
    unfold RefCount.retain RefCount.release
    dsimp only
    rw [Int.add_sub_cancel, if_neg (by omega), if_neg (by omega)]
  have hdrop : dropRef (.proxy k) u = (.kept, { u with proxies := w.proxies }) := by
    unfold dropRef
    dsimp only
    rw [hproxy, hback]
    dsimp only
    congr 2
    refine Array.ext_getElem? fun j => ?_
    rw [hu, modify_modify, Array.getElem?_modify]
    split
    · next hij =>
      subst hij
      rw [hx]
      rfl
    · rfl
  unfold release
  rw [perform_bind_ok (perform_modifyGet _ u), hdrop]
  rfl

/-- A runtime that was not touched exposes a proxy by a new object. -/
theorem perform_exposeObject (hu : Untouched w i y) :
    perform (ScriptHost.exposeObject i (.proxy k)) w = (.ok (.object w.heap.objects.size),
      { exposingLeaves w i k y with proxies := w.proxies.modify k fun x =>
  { x with refs := x.refs.retain } }) := by
  unfold ScriptHost.exposeObject retain
  rw [perform_bind_ok (perform_modify _ w), modifyRuntime, perform_bind_ok (perform_modify _ _),
    perform_bind_ok (perform_get _)]
  dsimp only
  rw [runtime_of_getElem? (getElem?_modify_self hu.there _)]
  dsimp only
  rw [hu.isOpen, if_pos rfl, perform_bind_ok (ScriptHost.perform_withHeap_eq _ _)]
  rfl

variable [Native β]

/-- A machine that stops by itself, with nothing below it. -/
theorem perform_runMachine_idle {ops : HostOps β} (hy : w.runtimes[i]? = some y)
    (hidle : y.running = false) {steps : Nat} {m : Script.Machine} {h : Heap} {left : Nat}
    {outcome : Script.Outcome} (hrun : Script.run y.realm (ScriptHost.limitOf y.config) steps
      { w.heap with effort := 0 } m = (h, left, .done outcome)) :
    perform (ScriptHost.runMachine ops i steps m) w = (.ok outcome, { w with
      heap := h
      runtimes := w.runtimes.modify i fun y =>
        { y with running := false, depth := 0, steps := left } }) := by
  have hready : ({ w with
      runtimes := w.runtimes.modify i fun x => { x with running := true, steps }
      heap := { w.heap with effort := 0 } } : World β).runtime i =
        { y with running := true, steps } :=
    runtime_of_getElem? (getElem?_modify_self hy _)
  have hdrive := @ScriptHost.perform_drive_done _ { w with
    runtimes := w.runtimes.modify i fun x => { x with running := true, steps }
    heap := { w.heap with effort := 0 } } i _ ops steps m h left outcome
      (by rw [hready]; exact hrun)
  rw [ScriptHost.perform_runMachine_of_drive
    ((congrArg Runtime.running (runtime_of_getElem? hy)).trans hidle) hdrive]
  dsimp only
  rw [modify_modify, modify_modify]
  rfl

/-- A store by such a machine. -/
theorem perform_assign_idle {ops : HostOps β} (hy : w.runtimes[i]? = some y)
    (hidle : y.running = false) (hflat : y.depth = 0) {o : Nat} {key : Key} {v : Value} {h : Heap}
    {left : Nat} {outcome : Script.Outcome} (hrun : Script.run y.realm (ScriptHost.limitOf y.config)
      ScriptHost.mostSteps { w.heap with effort := 0 } { control := .store o key v true } =
      (h, left, .done outcome)) :
    perform (ScriptHost.assign ops i o key v) w = (match outcome with
      | .value _ | .absent => .ok (.ok ())
      | .thrown e => .ok (.error (.thrown e))
      | .overflow => .ok (.error .overflow), { w with
        heap := h
        runtimes := w.runtimes.modify i fun y =>
          { y with running := false, depth := 0, steps := left } }) := by
  unfold ScriptHost.assign
  rw [perform_bind_ok (perform_get w), runtime_of_getElem? hy]
  dsimp only
  rw [perform_bind_ok (perform_caught _ _), perform_bind, hflat,
    perform_runMachine_idle hy hidle hrun]
  cases outcome <;> rfl

/-- Binding takes no more steps than there may be. -/
theorem bound?_used {h h' : Heap} {r : Realm} {key : Key} {p used : Nat}
    (hbound : h.bound? r key p = some (h', used)) :
    used ≤ ScriptHost.mostSteps := by
  have hfew : used ≤ 4 := by
    unfold Heap.bound? at hbound
    split at hbound
    · split at hbound <;> cases hbound
      decide
    · split at hbound <;> cases hbound <;> decide
  exact hfew.trans (by decide)

/-- Storing an object in a runtime in which nothing was done. -/
theorem perform_setGlobal_untouched (hu : Untouched w i y) {o n : Nat} {ref : ObjectRef}
    (hnative : w.heap.objects[o]? =
      some { kind := .native n ref, proto := some y.realm.objectProto })
    {made : Option (Heap × Nat)}
    (hbound : ({ w.heap with effort := 0 } : Heap).bound? y.realm (.ofString name) o = made) :
    match made with
    | some (h, used) => perform (setGlobal i name (.object o)) w = (.ok (.ok ()), { w with
        heap := h
        runtimes := w.runtimes.modify i fun y =>
          { y with running := false, depth := 0, steps := ScriptHost.mostSteps - used } })
    | none => ∀ v, perform (setGlobal i name (.object o)) w ≠ (.ok (.ok ()), v) := by
  have hruntime := runtime_of_getElem? hu.there
  have hpristine : ({ w.heap with effort := 0 } : Heap).Pristine y.realm :=
    ⟨hu.pristine.global, hu.pristine.proto⟩
  have hstored := @Script.run_bind _ _ _ (ScriptHost.limitOf y.config) _ _ hpristine rfl hnative
      (.ofString name)
  unfold setGlobal
  rw [perform_bind_ok (perform_get w), hruntime]
  dsimp only
  rw [hu.isOpen, Bool.not_true, if_neg Bool.false_ne_true]
  cases made with
  | some made =>
    obtain ⟨h, used⟩ := made
    rw [hbound] at hstored
    have hran := hstored (ScriptHost.mostSteps - used)
    rw [Nat.sub_add_cancel (bound?_used hbound)] at hran
    exact perform_bind_ok (perform_assign_idle hu.there hu.idle hu.flat hran) _
  | none =>
    rw [hbound] at hstored
    obtain ⟨h, e, hran⟩ := hstored
    have hassign := @perform_assign_idle _ _ _ _ _ host hu.there hu.idle hu.flat _ _ _ _ _ _
      (hran (ScriptHost.mostSteps - 2))
    intro v hv
    dsimp only at hassign hv
    rw [perform_bind_ok hassign] at hv
    -- The text of what was thrown is an error, if it is a text at all.
    obtain ⟨_, _, _, hv⟩ := exists_of_perform_bind hv
    cases hv

/-- Binding a proxy in a runtime in which nothing was done. -/
theorem perform_bind_untouched (hu : Untouched w i y) (hx : w.proxies[k]? = some x)
    (hheld : 0 < x.refs.refs) (name : String) :
    match (exposed w.heap y.realm (.proxy k)).bound? y.realm (.ofString name)
      w.heap.objects.size with
    | some (h, used) => perform (bind i name (some (.proxy k))) w =
      (.ok (.ok ()), bindingLeaves w i k h used)
    | none => ∀ v, perform (bind i name (some (.proxy k))) w ≠ (.ok (.ok ()), v) := by
  have hback : perform (release (.proxy k))
      { exposingLeaves w i k y with proxies := w.proxies.modify k fun x =>
        { x with refs := x.refs.retain } } =
      (.ok (), exposingLeaves w i k y) := perform_release_retained hx hheld rfl
  -- Exposing the proxy takes a reference, and adopting it gives that one back.
  have hbind : perform (bind i name (some (.proxy k))) w =
      perform (setGlobal i name (.object w.heap.objects.size)) (exposingLeaves w i k y) := by
    unfold bind ScriptHost.toValue
    dsimp only
    rw [perform_bind_ok (perform_exposeObject hu), perform_bind_ok hback]
  have hexposed : Untouched (exposingLeaves w i k y) i { y with adopted := .proxy k ::
      y.adopted } :=
    ⟨getElem?_modify_self hu.there _, hu.isOpen, hu.idle, hu.flat, hu.pristine.alloc _⟩
  rw [hbind]
  cases hbound : (exposed w.heap y.realm (.proxy k)).bound? y.realm (.ofString name)
    w.heap.objects.size with
  | some made =>
    obtain ⟨h, used⟩ := made
    have hset := perform_setGlobal_untouched hexposed Array.getElem?_push_size hbound
    dsimp only at hset ⊢
    rw [hset]
    unfold exposingLeaves bindingLeaves
    dsimp only
    rw [modify_modify]
    rfl
  | none => exact perform_setGlobal_untouched hexposed Array.getElem?_push_size hbound

end ObjectBridge.Runtime

import ObjectBridge.Bridge.Proxy
import ObjectBridge.Proofs.Bridge.Perform

/-!
# `ObjectBridge.Proofs.Bridge.Leaves`: what an operation leaves alone

A rule for operations relates the world before an operation to the world
after it, and `Obeys rule act` says that it does, whatever becomes of the
operation. A rule that allows nothing to be done, and one thing after the
other, is obeyed by an operation when its parts obey it.

A property that speaks of a part of the world is kept by every operation
that does not touch that part. The part is given by a `view` of the world,
and `Leaves view act` is the rule that the view is the same afterwards.

Objects, storage and the counts of the in-memory host are changed all over
the bridge, and primitives are timed. A rule that allows all of this is
`Lenient`. A view that sees none of it, and nothing of what stops scripts,
is `Public`: it is determined by the `Affairs` of the plugins. The
operations that change only the rest obey every lenient rule, and it is for
these rules that the theorems are stated.
-/

set_option autoImplicit false

namespace ObjectBridge

variable {α β γ δ : Type} {R : World β → World β → Prop} {view : World β → γ} {act : M β α}

/-- The operation obeys a rule, whatever becomes of it. -/
def Obeys (R : World β → World β → Prop) (act : M β α) : Prop := ∀ w, R w (perform act w).2

namespace Obeys

/-- A run of what obeys is related. -/
theorem of_run {r : Except Unwind α} {w w' : World β} (h : Obeys R act)
    (hrun : perform act w = (r, w')) : R w w' := by
  have hobeys := h w
  rwa [hrun] at hobeys

/-- A change that is related obeys. -/
theorem modify {f : World β → World β} (h : ∀ w, R w (f w)) : Obeys R (modify f : M β PUnit) := h

/-- So it does when it comes to something. -/
theorem modifyGet {f : World β → α × World β} (h : ∀ w, R w (f w).2) :
    Obeys R (modifyGet f : M β α) := h

/-- What is caught changes the world as it would have. -/
theorem caught (h : Obeys R act) : Obeys R (caught act) := h

variable [IsPreorder (World β) R]

/-- To come to something at once changes nothing. -/
theorem pure (x : α) : Obeys R (Pure.pure x : M β α) := refl

/-- To look changes nothing. -/
theorem get : Obeys R (MonadState.get : M β (World β)) := refl

/-- To be unwound changes nothing. -/
theorem throw (u : Unwind) : Obeys R (MonadExcept.throw u : M β α) := refl

/-- One after the other obeys when both do. -/
theorem bind {f : α → M β δ} (h : Obeys R act) (hf : ∀ x, Obeys R (f x)) : Obeys R (act >>= f) := by
  intro w
  have hact := h w
  rw [perform_bind]
  cases hrun : perform act w with
  | mk r w' =>
    rw [hrun] at hact
    cases r with
    | ok x => exact IsTrans.trans _ _ _ hact (hf x w')
    | error u => exact hact

/-- So does cleaning up. -/
theorem cleanly {cleanUp : M β Unit} (h : Obeys R act) (hc : Obeys R cleanUp) :
    Obeys R (cleanly act cleanUp) := by
  intro w
  have hclean := hc (perform act w).2
  rw [perform_cleanly]
  cases hrun : perform cleanUp (perform act w).2 with
  | mk r w' =>
    rw [hrun] at hclean
    cases r <;> exact IsTrans.trans _ _ _ (h w) hclean

end Obeys

/-- A failure is reported as a rule allows that lets last errors be set and
exceptions be counted. -/
theorem obeys_setLastError [IsPreorder (World β) R]
    (hlast : ∀ (w : World β) (i : Nat) (message : Bytes),
      R w { w with instances := w.instances.modify i fun x => { x with lastError := message } })
    (hcount : ∀ (w : World β) (label : String),
      R w { w with metrics := w.metrics.recordException label })
    (ctx : Context) (message : Bytes) : Obeys R (Proxy.setLastError ctx message) := by
  unfold Proxy.setLastError
  cases ctx.inst with
  | none => exact .pure ()
  | some i =>
    refine .bind (.modify fun w => hlast w i message) fun _ => .modify fun w => ?_
    -- Only an instance that is there and is metered has its exceptions counted.
    split
    · split
      · exact hcount w _
      · exact refl w
    · exact refl w

/-! ### Views -/

/-- The view is the same. -/
abbrev Same (view : World β → γ) (w w' : World β) : Prop := view w' = view w

instance : IsPreorder (World β) (Same view) where
  refl _ := rfl
  trans _ _ _ h h' := Eq.trans h' h

/-- The view is the same after the operation, whatever becomes of it. -/
abbrev Leaves (view : World β → γ) (act : M β α) : Prop := Obeys (Same view) act

namespace Leaves

/-- What is left alone is the same after a run. -/
theorem eq {r : Except Unwind α} {w w' : World β} (h : Leaves view act)
    (hrun : perform act w = (r, w')) :
    view w' = view w :=
  h.of_run hrun

/-- A view of what a view sees is left alone, too. -/
theorem map (f : γ → δ) (h : Leaves view act) : Leaves (fun w => f (view w)) act :=
  fun w => congrArg f (h w)

end Leaves

/-! ### Lenient rules -/

/-- What plugins are concerned with: who there is, how runtimes are set up
and which are open, and what is counted, wrappers apart. -/
structure Affairs where
  instances : Array Instance
  sessions : Array Session
  pools : Array Pool
  configs : Array RuntimeConfig
  isOpen : Array Bool
  metrics : Metrics

/-- The books without the entries about wrappers. -/
def Metrics.withoutWrappers (m : Metrics) : Metrics :=
  { m with wrappersCreated := 0, wrappersLive := 0, snapshot := {
    m.snapshot with liveWrappers := 0 } }

/-- The affairs of a world. -/
def World.affairs (w : World β) : Affairs where
  instances := w.instances
  sessions := w.sessions
  pools := w.pools
  configs := w.runtimes.map Runtime.config
  isOpen := w.runtimes.map Runtime.isOpen
  metrics := w.metrics.withoutWrappers

/-- What stops the scripts of the runtimes. -/
def World.watches (w : World β) : Array Watch := w.runtimes.map Runtime.watch

/-- A rule that lets objects, storage and the counts of the in-memory host
be changed, and lets what it allows be timed: the measurement is closed, or
left open with a note that it was. -/
class Lenient (R : World β → World β → Prop) : Prop extends IsPreorder (World β) R where
  of_eq : ∀ {w w' : World β}, w'.affairs = w.affairs → w'.recorders = w.recorders →
    w'.watches = w.watches → R w w'
  stopped : ∀ {w w' : World β} (recorder : Option Nat) (key : Bytes),
    R (perform (startTimer recorder key) w).2 w' → R w (perform (stopTimer recorder key) w').2
  stranded : ∀ {w w' : World β} (recorder : Option Nat) (key : Bytes),
    R (perform (startTimer recorder key) w).2 w' → R w (perform (strandTimer recorder key) w').2

/-- A lenient rule that lets what stops scripts be changed, too. -/
class Lax (R : World β → World β → Prop) : Prop extends Lenient R where
  of_timers : ∀ {w w' : World β}, w'.affairs = w.affairs → w'.recorders = w.recorders → R w w'

/-- A view of nothing but the affairs of plugins. -/
class Public (view : World β → γ) : Prop where
  congr : ∀ {w w' : World β}, w'.affairs = w.affairs → view w' = view w

/-- Timing is no affair of plugins. -/
theorem Public.withRecorder [Public view] (recorder : Option Nat) (f : Recorder → Recorder)
    (w : World β) :
    view (perform (withRecorder recorder f) w).2 = view w :=
  Public.congr (by cases recorder <;> rfl)

instance [Public view] : Lax (Same view) where
  of_timers haffairs _ := Public.congr haffairs
  of_eq haffairs _ _ := Public.congr haffairs
  stopped recorder _ h := (Public.withRecorder recorder _ _).trans
    (Eq.trans h (Public.withRecorder recorder _ _))
  stranded recorder _ h := (Public.withRecorder recorder _ _).trans
    (Eq.trans h (Public.withRecorder recorder _ _))

section

variable [Lenient R]

/-- What changes none of the affairs obeys. -/
theorem Obeys.of_eq (h : ∀ w, (perform act w).2.affairs = w.affairs ∧ (perform act w).2.recorders =
    w.recorders ∧ (perform act w).2.watches = w.watches) : Obeys R act :=
  fun w => Lenient.of_eq (h w).1 (h w).2.1 (h w).2.2

omit [Lenient R] in
/-- A change of one element, seen through a function. -/
theorem map_modify {ι κ : Type} {f : ι → ι} {f' : κ → κ} {g : ι → κ} (h : ∀ x, g (f x) = f' (g x))
    (xs : Array ι) (i : Nat) : (xs.modify i f).map g = (xs.map g).modify i f' := by
  refine Array.ext_getElem? fun j => ?_
  simp only [Array.getElem?_map, Array.getElem?_modify]
  split
  · cases xs[j]? <;> simp [h]
  · rfl

omit [Lenient R] in
/-- A change that the function does not see. -/
theorem map_modify_of_eq {ι κ : Type} {f : ι → ι} {g : ι → κ} (h : ∀ x, g (f x) = g x)
    (xs : Array ι) (i : Nat) :
    (xs.modify i f).map g = xs.map g := by
  refine Array.ext_getElem? fun j => ?_
  rw [@map_modify _ _ f id g h, Array.getElem?_modify]
  simp

/-- Changing a runtime otherwise than by opening or closing it. -/
theorem obeys_modifyRuntime (i : Nat) {f : Runtime → Runtime}
    (hf : ∀ r, ((f r).config, (f r).isOpen, (f r).watch) = (r.config, r.isOpen, r.watch)) :
    Obeys R (modifyRuntime i f) := by
  have hconfig (r : Runtime) : (f r).config = r.config := congrArg Prod.fst (hf r)
  have hopen (r : Runtime) : (f r).isOpen = r.isOpen := congrArg (·.2.1) (hf r)
  have hwatch (r : Runtime) : (f r).watch = r.watch := congrArg (·.2.2) (hf r)
  refine .modify fun w => Lenient.of_eq ?_ rfl (map_modify_of_eq hwatch _ i)
  simp only [World.affairs, map_modify_of_eq hconfig, map_modify_of_eq hopen]

/-- The books of the in-memory host are no affairs. -/
theorem obeys_modifyMemory (f : MemoryHost → MemoryHost) : Obeys R (modifyMemory f) :=
  .of_eq fun _ => ⟨rfl, rfl, rfl⟩

/-- Neither are its tables. -/
theorem obeys_modifyTable (i : Nat) (f : Table → Table) : Obeys R (modifyTable i f) :=
  .of_eq fun _ => ⟨rfl, rfl, rfl⟩

/-! ### References -/

/-- References may be taken. -/
theorem obeys_retain (o : ObjectRef) : Obeys R (retain o) :=
  .of_eq fun w => by cases o <;> exact ⟨rfl, rfl, rfl⟩

/-- Counts may be dropped. -/
theorem obeys_dropRef (o : ObjectRef) : Obeys R (modifyGet (dropRef o) : M β RefCount.Fate) :=
  .of_eq fun w => by cases o <;> exact ⟨rfl, rfl, rfl⟩

/-- An event that concerns wrappers alone. -/
theorem obeys_meter (ctx : Context) (event : Metrics → Metrics)
    (h : ∀ m : Metrics, (event m).withoutWrappers = m.withoutWrappers) :
    Obeys R (meter ctx event) := by
  refine .of_eq fun w => ?_
  rw [meter, perform_modify]
  split
  · split
    · exact ⟨by simp only [World.affairs, h], rfl, rfl⟩
    · exact ⟨rfl, rfl, rfl⟩
  · exact ⟨rfl, rfl, rfl⟩

/-- References may be given back. -/
theorem obeys_release (o : ObjectRef) : Obeys R (release o) := by
  unfold release
  refine .bind (obeys_dropRef o) fun fate => ?_
  cases fate with
  | kept => exact .pure ()
  | unretained => exact .throw _
  | freed =>
    cases o with
    | proxy i => exact .bind .get fun w => obeys_meter _ Metrics.wrapperReleased fun _ => rfl
    | table i => exact .pure ()
    | handle i => exact .pure ()

/-- Tables may be made. -/
theorem obeys_newTable (t : Table) : Obeys R (newTable t) := .of_eq fun _ => ⟨rfl, rfl, rfl⟩

/-- Handles may be made. -/
theorem obeys_newHandle (i : Nat) (object : Script.ObjId) : Obeys R (newHandle i object) :=
  .of_eq fun _ => ⟨rfl, rfl, rfl⟩

/-- Proxies may be made. -/
theorem obeys_newProxy (ctx : Context) (n : NodeId) : Obeys R (newProxy ctx n) := by
  unfold newProxy
  exact .bind (.of_eq fun _ => ⟨rfl, rfl, rfl⟩) fun i =>
    .bind (obeys_meter ctx Metrics.wrapperCreated fun _ => rfl) fun _ => .pure _

/-! ### Bytes -/

/-- Calls may be counted. -/
theorem obeys_countCall (name : String) : Obeys R (countCall name) := obeys_modifyMemory _

/-- The in-memory host counts a call before it does anything. -/
theorem obeys_counted (host : HostId) (name : String) (h : Obeys R act) :
    Obeys R (do
      if host = .memory then countCall name
      act) := by
  by_cases hhost : host = .memory
  · rw [if_pos hhost]
    exact .bind (obeys_countCall name) fun _ => h
  · rw [if_neg hhost]
    exact h

/-- Bytes may be given out. -/
theorem obeys_memAlloc (host : HostId) (size : Int) : Obeys R (memAlloc host size) := by
  cases host with
  | memory =>
    refine .bind (obeys_countCall _) fun _ => .bind .get fun w => ?_
    dsimp only
    split
    · exact .pure _
    · exact .bind (obeys_modifyMemory _) fun _ => .pure _
  | script i =>
    refine .bind .get fun w => ?_
    dsimp only
    split
    · exact .pure _
    · exact .bind (obeys_modifyRuntime i fun _ => rfl) fun _ => .pure _

/-- Bytes may be given back. -/
theorem obeys_memFree (host : HostId) (size : Nat) : Obeys R (memFree host size) := by
  cases host with
  | memory => exact .bind (obeys_countCall _) fun _ => obeys_modifyMemory _
  | script i => exact obeys_modifyRuntime i fun _ => rfl

/-- A variant may be given back. -/
theorem obeys_releaseVariant (host : HostId) (v : Variant) : Obeys R (releaseVariant host v) := by
  refine obeys_counted host "ReleaseVariant" ?_
  cases v with
  | string bytes => exact obeys_memFree host _
  | object o => exact obeys_release o
  | _ => exact .pure ()

/-- So may several. -/
theorem obeys_releaseAll (host : HostId) (vs : List Variant) : Obeys R (releaseAll host vs) := by
  induction vs with
  | nil => exact .pure ()
  | cons v rest ih => exact .bind (obeys_releaseVariant host v) fun _ => ih

/-- A string may be made. -/
theorem obeys_valueFromString (host : HostId) (bytes : Bytes) :
    Obeys R (valueFromString host bytes) := by
  unfold valueFromString
  split
  · exact .pure _
  · refine .bind (obeys_memAlloc host _) fun given => ?_
    cases given <;> exact .pure _

/-- So may one of wide units. -/
theorem obeys_valueFromWide (host : HostId) (enc : WideEncoding) (units : List UInt32) :
    Obeys R (valueFromWide host enc units) := by
  unfold valueFromWide
  split
  · exact obeys_valueFromString host _
  · exact .pure _

/-- A variant may be copied. -/
theorem obeys_copyVariant (host : HostId) (v : Variant) : Obeys R (copyVariant host v) := by
  cases v with
  | string bytes => exact obeys_valueFromString host bytes
  | object o => exact .bind (obeys_retain o) fun _ => .pure _
  | _ => exact .pure _

/-! ### Timers -/

omit [Lenient R] in
/-- Measurements never fail. -/
theorem perform_withRecorder (recorder : Option Nat) (f : Recorder → Recorder) (w : World β) :
    perform (withRecorder recorder f) w = (.ok (), (perform (withRecorder recorder f) w).2) := by
  cases recorder <;> rfl

omit [Lenient R] in
/-- A timer can be started in any world. -/
theorem perform_startTimer (recorder : Option Nat) (key : Bytes) (w : World β) :
    perform (startTimer recorder key) w = (.ok (), (perform (startTimer recorder key) w).2) :=
  perform_withRecorder recorder _ w

omit [Lenient R] in
/-- It can be stopped in any world. -/
theorem perform_stopTimer (recorder : Option Nat) (key : Bytes) (w : World β) :
    perform (stopTimer recorder key) w = (.ok (), (perform (stopTimer recorder key) w).2) :=
  perform_withRecorder recorder _ w

/-- A measurement that is closed in any case. -/
theorem obeys_bracket (recorder : Option Nat) (key : Bytes) (h : Obeys R act) :
    Obeys R (do
      startTimer recorder key
      cleanly act (stopTimer recorder key)) := by
  intro w
  rw [perform_bind_ok (perform_startTimer recorder key w), perform_cleanly, perform_stopTimer]
  exact Lenient.stopped recorder key (h _)

/-- A measurement that is left open when what it times is unwound. -/
theorem obeys_bracketReturning (recorder : Option Nat) (key : Bytes) (h : Obeys R act) :
    Obeys R (do
      startTimer recorder key
      let x ← noting act (strandTimer recorder key)
      stopTimer recorder key
      return x) := by
  intro w
  have hact := h (perform (startTimer recorder key) w).2
  rw [perform_bind_ok (perform_startTimer recorder key w), perform_bind, perform_noting]
  cases hrun : perform act (perform (startTimer recorder key) w).2 with
  | mk r w' =>
    rw [hrun] at hact
    cases r with
    | ok x =>
      show R w (perform (do stopTimer recorder key; return x) w').2
      rw [perform_bind_ok (perform_stopTimer recorder key w')]
      exact Lenient.stopped recorder key hact
    | error u => exact Lenient.stranded recorder key hact

namespace Proxy

/-- What is measured obeys when it does unmeasured. -/
theorem obeys_measured (p : Proxy) (operation : String) (name : Bytes) (h : Obeys R act) :
    Obeys R (p.measured operation name act) :=
  .bind .get fun _ => obeys_bracket _ _ h

/-- Names may become strings. -/
theorem obeys_nameVariants (host : HostId) (done : List Variant) (names : List Bytes) :
    Obeys R (nameVariants host done names) := by
  induction names generalizing done with
  | nil => exact .pure _
  | cons name rest ih =>
    refine .bind (obeys_valueFromString host name) fun made => ?_
    cases made with
    | ok v => exact ih (v :: done)
    | error f => exact .bind (obeys_releaseAll host _) fun _ => .pure _

end Proxy

end

/-! ### Nodes -/

section

variable [Native β] {ops : HostOps β}

/-- The operations of hosts obey the rule. -/
structure HostOps.Obey (R : World β → World β → Prop) (ops : HostOps β) : Prop where
  hasProperty : ∀ host o id, Obeys R (ops.hasProperty host o id)
  getProperty : ∀ host o id, Obeys R (ops.getProperty host o id)
  setProperty : ∀ host o id v, Obeys R (ops.setProperty host o id v)
  evaluate : ∀ host scope script, Obeys R (ops.evaluate host scope script)

/-- The operations of hosts leave the view alone. -/
abbrev HostOps.Leave (view : World β → γ) (ops : HostOps β) : Prop := ops.Obey (Same view)

/-- Native code that is called with these operations of hosts obeys the
rule. -/
structure NativeObeys (R : World β → World β → Prop) (ops : HostOps β) : Prop where
  call : ∀ ctx code args, Obeys R (Native.call ops ctx code args)
  store : ∀ ctx code v, Obeys R (Native.store ops ctx code v)

/-- Native code that is called with these operations of hosts leaves the
view alone. -/
abbrev NativeLeaves (view : World β → γ) (ops : HostOps β) : Prop := NativeObeys (Same view) ops

namespace Node

variable (hn : NativeObeys R ops) (ctx : Context) (n : NodeId)

include hn

/-- A node may be read, when native code obeys. -/
theorem obeys_getProperty [Lenient R] (name : Bytes) :
    Obeys R (Node.getProperty ops ctx n name) := by
  refine .bind .get fun w => ?_
  split
  · exact hn.call ctx _ []
  · exact .pure _
  · exact .bind (obeys_newProxy ctx _) fun _ => .pure _
  · exact .pure _

/-- It may be written. -/
theorem obeys_setProperty [IsPreorder (World β) R] (name : Bytes) (v : Variant) :
    Obeys R (Node.setProperty ops ctx n name v) := by
  refine .bind .get fun w => ?_
  split
  · exact hn.store ctx _ v
  · exact .pure _
  · exact .pure _

/-- It may be called. -/
theorem obeys_call [IsPreorder (World β) R] (name : Bytes) (args : List Variant) :
    Obeys R (Node.call ops ctx n name args) := by
  refine .bind .get fun w => ?_
  split
  · exact hn.call ctx _ args
  · exact .pure _

/-- It may be constructed. -/
theorem obeys_construct [IsPreorder (World β) R] (args : List Variant) :
    Obeys R (Node.construct ops ctx n args) := by
  refine .bind .get fun w => ?_
  split
  · exact hn.call ctx _ args
  · exact .pure _

end Node

end

end ObjectBridge

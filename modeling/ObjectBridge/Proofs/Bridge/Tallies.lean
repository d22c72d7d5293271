import ObjectBridge.Bridge.MemoryHost
import ObjectBridge.Proofs.Bridge.Request
import ObjectBridge.Proofs.Graph.Nearest

/-!
# `ObjectBridge.Proofs.Bridge.Tallies`: what does not depend on the tallies

The in-memory host counts how often it is called, and recorders time what
they are told about. These tallies are written all over the bridge and read
nowhere in it. So an operation does the same in two worlds that differ in
tallies only, and the worlds it leaves differ in tallies only.

`Shadows w act act'` compares two operations that way: where `act` is run
with other tallies, it does what `act'` does in the world `w`. The rules put
it together from the parts of the operations. An operation that shadows
itself is `Heedless`. One that does nothing but keep tallies shadows
`pure`, and may be left out (`Shadows.pure_bind`, `Shadows.measured`).

Native code is a parameter. What it is handed of a host are the operations
of `HostOps`, and none of them tells how often it was called; but an instance
of `Native` may look at the whole world. So the operations that call native
code ask for a graph with `HeedlessGetters`, as every graph of stand-ins is
(`Proofs.Builtin.Getters`).
-/

set_option autoImplicit false

namespace ObjectBridge

variable {α β γ : Type} {w : World β}

/-- The same world with other tallies. -/
def World.retallied (w : World β) (calls : Dict String Nat)
    (recorders : Array Recorder) : World β :=
  { w with memory := { w.memory with calls }, recorders }

/-- With whatever tallies the world has, `act` does what `act'` does in the
world itself, tallies apart. -/
def Shadows (w : World β) (act act' : M β α) : Prop :=
  ∀ calls recorders, ∃ calls' recorders',
    perform act (w.retallied calls recorders) =
    ((perform act' w).1, (perform act' w).2.retallied calls' recorders')

/-- The operation does not depend on the tallies. -/
def Heedless (act : M β α) : Prop := ∀ w, Shadows w act act

namespace Shadows

variable {act act' : M β α} {f f' : α → M β γ}

/-- Giving back a value shadows itself. -/
theorem pure (x : α) : Shadows w (Pure.pure x) (Pure.pure x : M β α) := fun _ _ => ⟨_, _, rfl⟩

/-- So does unwinding. -/
theorem throw (u : Unwind) : Shadows w (MonadExcept.throw u) (MonadExcept.throw u : M β α) :=
  fun _ _ => ⟨_, _, rfl⟩

/-- What follows may be compared where the second operation leads. -/
theorem bind (h : Shadows w act act')
    (hf : ∀ x w', perform act' w = (.ok x, w') → Shadows w' (f x) (f' x)) :
    Shadows w (act >>= f) (act' >>= f') := by
  intro calls recorders
  obtain ⟨calls₁, recorders₁, hact⟩ := h calls recorders
  rw [perform_bind, perform_bind, hact]
  cases hact' : perform act' w with
  | mk r w' =>
    cases r with
    | ok x => exact hf x w' hact' calls₁ recorders₁
    | error u => exact ⟨calls₁, recorders₁, rfl⟩

/-- The world is looked at, but not its tallies. -/
theorem look {f : World β → M β α} (hf : ∀ calls recorders, f (w.retallied calls recorders) = f w)
    (h : Shadows w (f w) act') : Shadows w (get >>= f) act' := by
  intro calls recorders
  rw [perform_bind_ok (perform_get _), hf]
  exact h calls recorders

/-- Reading something but the tallies makes no difference. -/
theorem read {f f' : World β → M β α}
    (hf : ∀ calls recorders, f (w.retallied calls recorders) = f w)
    (h : Shadows w (f w) (f' w)) : Shadows w (get >>= f) (get >>= f') := by
  refine .look hf ?_
  intro calls recorders
  rw [perform_bind_ok (perform_get w)]
  exact h calls recorders

/-- A change shadows itself that has nothing to do with the tallies. -/
theorem modifyGet {f : World β → α × World β}
    (h : ∀ calls recorders, f (w.retallied calls recorders) =
      ((f w).1, (f w).2.retallied calls recorders)) :
    Shadows w (modifyGet f) (modifyGet f : M β α) := by
  intro calls recorders
  refine ⟨calls, recorders, ?_⟩
  rw [perform_modifyGet, perform_modifyGet, h]

/-- The same for a change that gives nothing back. -/
theorem modify {f : World β → World β}
    (h : ∀ calls recorders, f (w.retallied calls recorders) = (f w).retallied calls recorders) :
    Shadows w (modify f) (modify f : M β PUnit) := by
  intro calls recorders
  refine ⟨calls, recorders, ?_⟩
  rw [perform_modify, perform_modify, h]

/-- The world that is set is made from the one that was read. -/
theorem renewed {made : World β → World β} {f : World β → M β α}
    (hmade : ∀ calls recorders, made (w.retallied calls recorders) =
      (made w).retallied calls recorders)
    (hf : ∀ calls recorders, f (w.retallied calls recorders) = f w)
    (h : Shadows (made w) (f w) (f w)) :
    Shadows w (do let w ← get; set (made w); f w) (do let w ← get; set (made w); f w) := by
  intro calls recorders
  rw [perform_bind_ok (perform_get _), perform_bind_ok (perform_get _), hmade, hf]
  exact h calls recorders

/-- A note that only keeps tallies may be left out. -/
theorem noting {note : M β Unit} (hn : ∀ w : World β, Shadows w note (Pure.pure ()))
    (h : Shadows w act act') :
    Shadows w (noting act note) act' := by
  intro calls recorders
  obtain ⟨calls₁, recorders₁, hact⟩ := h calls recorders
  rw [perform_noting, hact]
  cases hact' : perform act' w with
  | mk r w' =>
    cases r with
    | ok x => exact ⟨calls₁, recorders₁, rfl⟩
    | error u =>
      obtain ⟨calls₂, recorders₂, hnote⟩ := hn w' calls₁ recorders₁
      exact ⟨calls₂, recorders₂, congrArg (fun answered => (Except.error u, answered.2)) hnote⟩

/-- An operation that shadows another one does not depend on the tallies
itself. -/
theorem self (h : Shadows w act act') : Shadows w act act := by
  intro calls recorders
  obtain ⟨calls₁, recorders₁, hother⟩ := h calls recorders
  obtain ⟨calls₂, recorders₂, hown⟩ := h w.memory.calls w.recorders
  refine ⟨calls₁, recorders₁, ?_⟩
  rw [hother, show perform act w = _ from hown]
  rfl

/-- What only keeps tallies may be left out before an operation. -/
theorem pure_bind {tally : M β γ} {x : γ} {f : γ → M β α} (ht : Shadows w tally (Pure.pure x))
    (h : Shadows w (f x) act') : Shadows w (tally >>= f) act' := by
  have hboth : Shadows w (tally >>= f) (Pure.pure x >>= fun _ => act') := ht.bind fun y w' hy => by
    cases hy
    exact h
  exact hboth

/-- It may be left out after the operation, too. -/
theorem bind_pure {tally : M β γ} {x : γ} (ht : ∀ w : World β, Shadows w tally (Pure.pure x))
    (h : Shadows w act act') :
    Shadows w (act >>= fun y => tally >>= fun _ => Pure.pure y) act' := by
  have hboth : Shadows w (act >>= fun y => tally >>= fun _ => Pure.pure y) (act' >>= Pure.pure) :=
    h.bind fun y w' _ => (ht w').pure_bind (.pure y)
  simpa using hboth

end Shadows

/-! ### Tallies -/

/-- Counting a call shadows doing nothing. -/
theorem shadows_countCall (name : String) (w : World β) : Shadows w (countCall name) (pure ()) :=
  fun _ _ => ⟨_, _, rfl⟩

/-- So does measuring. -/
theorem shadows_withRecorder (recorder : Option Nat) (f : Recorder → Recorder) (w : World β) :
    Shadows w (withRecorder recorder f) (pure ()) := by
  intro calls recorders
  cases recorder with
  | none => exact ⟨calls, recorders, rfl⟩
  | some i => exact ⟨_, _, rfl⟩

/-- What is timed is done as if it were not. -/
theorem Shadows.timed {act act' : M β α} (h : Shadows w act act') (a : Accessor)
    (primitive : String) :
    Shadows w (a.timed primitive act) act' :=
  .pure_bind (shadows_withRecorder _ _ w)
    (.bind_pure (shadows_withRecorder _ _) (h.noting (shadows_withRecorder _ _)))

/-- A measured operation shadows what is measured. -/
theorem Shadows.measured {act act' : M β α} (h : Shadows w act act') (p : Proxy)
    (operation : String) (name : Bytes) :
    Shadows w (p.measured operation name act) act' := by
  intro calls recorders
  obtain ⟨calls₁, recorders₁, hstart⟩ := shadows_withRecorder (p.recorder w)
    (fun r => r.start (p.timerKey w operation name) 0) w calls recorders
  have hstarted : p.started (w.retallied calls recorders) operation name =
      w.retallied calls₁ recorders₁ :=
    congrArg Prod.snd hstart
  obtain ⟨calls₂, recorders₂, hact⟩ := h calls₁ recorders₁
  obtain ⟨calls₃, recorders₃, hstop⟩ := shadows_withRecorder (p.recorder w)
    (fun r => r.stop (p.timerKey w operation name) 0) (perform act' w).2 calls₂ recorders₂
  refine ⟨calls₃, recorders₃, ?_⟩
  rw [Proxy.perform_measured_eq, hstarted, hact]
  refine Prod.ext rfl ?_
  show (perform (withRecorder (p.recorder w) fun r => r.stop (p.timerKey w operation name) 0) _).2 =
      _
  rw [hstop]
  rfl

/-! ### References and bytes -/

/-- Counting a call does not heed the tallies. -/
theorem heedless_countCall (name : String) : Heedless (countCall name : M β Unit) :=
  fun w => (shadows_countCall name w).self

/-- Nor does metering, -/
theorem heedless_meter (ctx : Context) (event : Metrics → Metrics) :
    Heedless (meter ctx event : M β Unit) := by
  refine fun w => .modify fun calls recorders => ?_
  have hinstance : (w.retallied calls recorders).instanceOf? ctx = w.instanceOf? ctx := rfl
  rw [hinstance]
  cases w.instanceOf? ctx with
  | none => rfl
  | some i =>
    dsimp only
    split <;> rfl

/-- retaining -/
theorem heedless_retain (o : ObjectRef) : Heedless (retain o : M β Unit) :=
  fun _ => .modify fun _ _ => by cases o <;> rfl

/-- or releasing an object, -/
theorem heedless_release (o : ObjectRef) : Heedless (release o : M β Unit) := by
  intro w
  refine .bind (.modifyGet fun _ _ => by cases o <;> rfl) fun fate w' _ => ?_
  cases fate with
  | kept => exact .pure ()
  | unretained => exact .throw _
  | freed =>
    cases o with
    | proxy i => exact .read (fun _ _ => rfl) (heedless_meter _ _ w')
    | table i => exact .pure ()
    | handle i => exact .pure ()

/-- making a proxy, -/
theorem heedless_newProxy (ctx : Context)
    (n : NodeId) : Heedless (newProxy ctx n : M β ObjectRef) := fun _ =>
  .bind (.modifyGet fun _ _ => rfl) fun _ w' _ => .bind (heedless_meter _ _ w') fun _ _ _ => .pure _

/-- allocating -/
theorem heedless_memAlloc (host : HostId) (size : Int) :
    Heedless (memAlloc host size : M β Bool) := by
  intro w
  cases host with
  | memory =>
    refine .bind (heedless_countCall _ w) fun _ w' _ => .read (fun _ _ => rfl) ?_
    dsimp only
    split
    · exact .pure _
    · exact .bind (.modify fun _ _ => rfl) fun _ _ _ => .pure _
  | script i =>
    refine .read (fun _ _ => rfl) ?_
    dsimp only
    split
    · exact .pure _
    · exact .bind (.modify fun _ _ => rfl) fun _ _ _ => .pure _

/-- or freeing bytes, -/
theorem heedless_memFree (host : HostId) (size : Nat) :
    Heedless (memFree host size : M β Unit) := by
  intro w
  cases host with
  | memory => exact .bind (heedless_countCall _ w) fun _ _ _ => .modify fun _ _ => rfl
  | script i => exact .modify fun _ _ => rfl

/-- The in-memory host counts a call before it does anything. -/
theorem Heedless.counted {act : M β α} (h : Heedless act) (host : HostId) (name : String) :
    Heedless (do
    if host = .memory then countCall name
    act) := by
  intro w
  by_cases hhost : host = .memory
  · simp only [if_pos hhost]
    exact .bind (heedless_countCall _ w) fun _ w' _ => h w'
  · simp only [if_neg hhost]
    exact h w

/-- releasing a value, -/
theorem heedless_releaseVariant (host : HostId) (v : Variant) :
    Heedless (releaseVariant host v : M β Unit) := by
  have hnothing : Heedless (pure () : M β Unit) := fun _ => .pure ()
  cases v with
  | string bytes => exact (heedless_memFree host bytes.length).counted host "ReleaseVariant"
  | object o => exact (heedless_release o).counted host "ReleaseVariant"
  | _ => exact hnothing.counted host "ReleaseVariant"

/-- making a string -/
theorem heedless_valueFromString (host : HostId) (bytes : Bytes) :
    Heedless (valueFromString host bytes : M β (Except Failure Variant)) := by
  intro w
  unfold valueFromString
  split
  · exact .pure _
  · refine .bind (heedless_memAlloc host _ w) fun given _ _ => ?_
    cases given <;> exact .pure _

/-- or copying one out. -/
theorem heedless_copyOut (v : Variant) : Heedless (MemoryHost.copyOut v : M β Variant) := by
  intro w
  unfold MemoryHost.copyOut
  cases v with
  | string bytes =>
    refine .bind (heedless_memAlloc .memory _ w) fun given _ _ => ?_
    cases given <;> exact .pure _
  | object o => exact .bind (heedless_retain o w) fun _ _ _ => .pure _
  | _ => exact .pure _

/-! ### Requests -/

namespace Proxy

/-- Raising an exception into a slot does not heed them either. -/
theorem heedless_raiseInto (slot : Slot) (f : Failure) :
    Heedless (raiseInto slot f : M β Slot) := by
  intro w
  have hdrop (w : World β) : Shadows w (dropThrown f) (dropThrown f) := by
    unfold dropThrown
    split
    · exact heedless_release _ w
    · exact .pure ()
  unfold raiseInto
  cases ExceptionSlot.raiseInto slot f.exceptionValue with
  | mk recorded slot' =>
    cases recorded with
    | true => exact .pure _
    | false => exact .bind (hdrop w) fun _ _ _ => .pure _

/-- Nor does noting the last error, -/
theorem heedless_setLastError (ctx : Context) (message : Bytes) :
    Heedless (setLastError ctx message : M β Unit) := by
  intro w
  unfold setLastError
  split
  · exact .bind (.modify fun _ _ => rfl) fun _ w' _ => heedless_meter _ _ w'
  · exact .pure ()

/-- failing with a message, -/
theorem heedless_fail (p : Proxy) (slot : Slot)
    (f : Failure) : Heedless (p.fail slot f : M β Slot) := fun w =>
  .bind (heedless_raiseInto slot f w) fun _ w' _ =>
    .bind (heedless_setLastError _ _ w') fun _ _ _ => .pure _

/-- answering a request -/
theorem heedless_answer (p : Proxy) (slot : Slot) (answered : Except Failure Variant) :
    Heedless (p.answer slot answered : M β (Variant × Slot)) := by
  intro w
  cases answered with
  | ok v => exact .pure _
  | error f => exact .bind (heedless_fail p slot f w) fun _ _ _ => .pure _

end Proxy

/-- or abandoning what a slot carries. -/
theorem heedless_abandon (slot : Slot) : Heedless (abandon slot : M β Unit) := by
  intro w
  unfold abandon
  split
  · exact .modify fun _ _ => rfl
  · exact .pure ()

section

variable [Native β] {ops : HostOps β}

/-- The native code that reads the properties of the graph does not look at
the tallies. -/
def Graph.HeedlessGetters (ops : HostOps β) (g : Graph β) : Prop :=
  ∀ n name property code, g.Declares name n property → property.get = some code →
    ∀ ctx, Heedless (Native.call ops ctx code [])

/-- A property is read without regard to the tallies when its getter has
none. -/
theorem Node.shadows_getProperty (h : w.graph.HeedlessGetters ops) (ctx : Context) (n : NodeId)
    (name : Bytes) :
    Shadows w (Node.getProperty ops ctx n name) (Node.getProperty ops ctx n name) := by
  refine .read (fun _ _ => rfl) ?_
  cases hfound : w.graph.property? n name with
  | none => exact .pure _
  | some found =>
    cases found with
    | child c => exact .bind (heedless_newProxy ctx c w) fun _ _ _ => .pure _
    | declared property =>
      obtain ⟨m, _, hdeclares⟩ := Graph.property?_eq_declared_iff.mp hfound
      obtain ⟨get, set⟩ := property
      cases get with
      | none => exact .pure _
      | some code => exact h m name _ code hdeclares rfl ctx w

/-- Where no getter heeds the tallies a proxy's property read does not. -/
theorem Proxy.shadows_getProperty (h : w.graph.HeedlessGetters ops) (p : Proxy) (name : Bytes)
    (slot : Slot) :
    Shadows w (p.getProperty ops (.string name) slot) (p.getProperty ops (.string name) slot) := by
  have hask : Shadows w (do p.answer slot (← Node.getProperty ops p.context p.node name))
      (do p.answer slot (← Node.getProperty ops p.context p.node name)) :=
    .bind (Node.shadows_getProperty h _ _ _) fun answered w' _ => p.heedless_answer slot answered w'
  exact (hask.measured p "GetProperty" name).self

/-- The in-memory host reads a property without regard to the tallies. -/
theorem MemoryHost.shadows_getProperty (h : w.graph.HeedlessGetters ops) (o : ObjectRef)
    (id : Identifier) :
    Shadows w (MemoryHost.getProperty ops o id) (MemoryHost.getProperty ops o id) := by
  unfold MemoryHost.getProperty
  refine .bind (heedless_countCall _ w) fun _ w' hcount => .read (fun _ _ => rfl) ?_
  -- Counting the call leaves the graph alone, and with it the getters.
  have hgetters : w'.graph.HeedlessGetters ops := by
    cases hcount
    exact h
  cases o with
  | handle i => exact .pure _
  | table i =>
    dsimp only
    split
    · exact .bind (heedless_copyOut _ _) fun _ _ _ => .pure _
    · exact .pure _
  | proxy i =>
    refine .bind (Proxy.shadows_getProperty hgetters _ _ _) fun answered w'' _ => ?_
    obtain ⟨v, slot⟩ := answered
    dsimp only
    split
    · exact .bind (heedless_releaseVariant _ v w'') fun _ w₃ _ =>
        .bind (heedless_abandon slot w₃) fun _ _ _ => .pure _
    · exact .pure _

end

end ObjectBridge

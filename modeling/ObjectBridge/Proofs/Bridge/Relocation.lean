import ObjectBridge.Bridge.ScriptHost
import ObjectBridge.Proofs.Bridge.Perform
import ObjectBridge.Proofs.Graph.Relocation
import ObjectBridge.Proofs.Script.MovedStep

/-!
# `ObjectBridge.Proofs.Bridge.Relocation`: worlds that hold the same elsewhere

`w.Moved ρ p q w'` says that everything in the world `w` stands in `w'` as
well, relocated: the objects of scripts, the nodes with their classes, proxies
and handles, runtimes and instances, and the storage of native code. There may
be much more in `w'`, and the books of the two worlds are their own. The world
`w` has one runtime that scripts run in, its first, and all its proxies are for
that runtime.

Two operations are twins (`Twins`) when they come to the same in two such
worlds, relocated, and leave two such worlds behind. What is handed on must
not name objects that there are not, because a number without an object means
something else in a world with more objects; `Carried` says this for every kind
of result, and what there is only grows (`Extent`).
-/

set_option autoImplicit false

namespace ObjectBridge

open Script (Value)

variable {β α γ : Type}

/-! ### Relocating -/

section

variable (ρ : Relocation)

/-- The host when its runtime stands elsewhere. -/
def HostId.relocate : HostId → HostId
  | .memory => .memory
  | .script i => .script (ρ.runtimes i)

/-- The context when its host and its instance stand elsewhere. -/
@[simps]
def Context.relocate (ctx : Context) : Context where
  host := ctx.host.relocate ρ
  inst := ctx.inst.map ρ.instances

/-- The value when the object it refers to stands elsewhere. -/
def Variant.relocate : Variant → Variant
  | .object o => .object (o.relocate ρ)
  | v => v

/-- The proxy of the same node elsewhere. -/
@[simps]
def Proxy.relocate (x : Proxy) : Proxy :=
  { x with context := x.context.relocate ρ, node := ρ.nodes x.node }

/-- The handle of the same object elsewhere. -/
@[simps]
def Handle.relocate (x : Handle) : Handle :=
  { x with runtime := ρ.runtimes x.runtime, object := ρ.objects x.object }

/-- The runtime when its realm and what it adopted stand elsewhere. -/
@[simps]
def Runtime.relocate (x : Runtime) : Runtime :=
  { x with realm := x.realm.relocate ρ, adopted := x.adopted.map (·.relocate ρ) }

/-- The instance when all that it refers to stands elsewhere. -/
@[simps]
def Instance.relocate (x : Instance) : Instance :=
  { x with
    root := ρ.nodes x.root
    host := x.host.relocate ρ
    recorder := x.recorder.map ρ.recorders
    scripting := x.scripting.map (·.relocate ρ) }

/-- The session when its runtime and its instance stand elsewhere. -/
@[simps]
def Session.relocate (x : Session) : Session :=
  { x with runtime := ρ.runtimes x.runtime, inst := x.inst.map ρ.instances }

/-- The failure when the object that was thrown stands elsewhere. -/
def Failure.relocate : Failure → Failure
  | .thrown v => .thrown (v.relocate ρ)
  | .wrapped context inner => .wrapped context inner.relocate
  | f => f

/-- The slot when the object that is pending in it stands elsewhere. -/
@[simps]
def ExceptionSlot.relocate (s : ExceptionSlot) : ExceptionSlot :=
  { pending := s.pending.map (·.relocate ρ) }

/-- The unwinding when the object that was thrown stands elsewhere. -/
def Unwind.relocate : Unwind → Unwind
  | .thrown v => .thrown (v.relocate ρ)
  | u => u

/-- The accessor when its recorder stands elsewhere. -/
@[simps]
def Accessor.relocate (a : Accessor) : Accessor := { a with recorder := a.recorder.map ρ.recorders }

/-- The reply when what it is about stands elsewhere. -/
def ScriptHost.Reply.relocate : ScriptHost.Reply → ScriptHost.Reply
  | .value v => .value (v.relocate ρ)
  | .absent => .absent
  | .names keys => .names (keys.map (·.relocate ρ))

end

/-! ### What is handed on -/

/-- How many proxies and handles there are. -/
abbrev Extent := Nat × Nat

/-- The objects of scripts and native code that are named are there. There are
no tables, which the in-memory host has for itself. -/
def ObjectRef.Within (e : Extent) : ObjectRef → Prop
  | .table _ => False
  | .proxy i => i < e.1
  | .handle i => i < e.2

/-- What is there stays there as more is made. -/
theorem ObjectRef.Within.mono {e e' : Extent} (he : e ≤ e') {o : ObjectRef} (h : o.Within e) :
    o.Within e' := by
  cases o with
  | table _ => exact h
  | proxy i => exact Nat.lt_of_lt_of_le h he.1
  | handle i => exact Nat.lt_of_lt_of_le h he.2

/-- The object that the value refers to, if it is one, is there. -/
def Variant.Within (e : Extent) (v : Variant) : Prop := ∀ o, v = .object o → o.Within e

/-- So does what a variant names. -/
theorem Variant.Within.mono {e e' : Extent} (he : e ≤ e') {v : Variant} (h : v.Within e) :
    v.Within e' :=
  fun o ho => (h o ho).mono he

/-- A variant names the object it is. -/
theorem Variant.within_object {e : Extent} {o : ObjectRef} (h : o.Within e) :
    (Variant.object o).Within e := by
  intro o' ho'
  cases ho'
  exact h

/-- What is no object names none, and is the same everywhere. -/
theorem Variant.within_of_plain {e : Extent} {v : Variant} (h : v.object? = none) : v.Within e := by
  rintro o rfl
  cases h

/-- What is no object does not move. -/
theorem Variant.relocate_of_plain {ρ : Relocation} {v : Variant} (h : v.object? = none) :
    v.relocate ρ = v := by
  cases v with
  | object o => cases h
  | _ => rfl

/-- A number is no object. -/
theorem Variant.object?_ofNumber (n : Float) : (Variant.ofNumber n).object? = none := by
  unfold ofNumber
  dsimp only
  split
  · split <;> rfl
  · rfl

/-- The object that was thrown, if there is one, is there. -/
def Failure.Within (e : Extent) (f : Failure) : Prop := ∀ v, f.thrown? = some v → v.Within e

/-- Results of operations: they may stand elsewhere, and they name objects
that there are. -/
class Carried (α : Type) extends Relocatable α where
  Within : Extent → α → Prop
  mono : ∀ {e e' : Extent} {x : α}, e ≤ e' → Within e x → Within e' x

/-- Where what is handed on stands instead. -/
abbrev carry [Carried α] (ρ : Relocation) (x : α) : α := Relocatable.relocate ρ x

/-- What leads nowhere. -/
@[reducible]
def Carried.still (α : Type) : Carried α where
  relocate _ x := x
  Within _ _ := True
  mono _ _ := trivial

/-- What leads to the objects of scripts only. -/
@[reducible]
def Carried.within (relocate : Relocation → α → α) : Carried α where
  relocate := relocate
  Within _ _ := True
  mono _ _ := trivial

instance : Carried PUnit := .still PUnit
instance : Carried Bool := .still Bool
instance : Carried Nat := .still Nat
instance : Carried Int := .still Int
instance : Carried Float := .still Float
instance : Carried UInt32 := .still UInt32
instance : Carried UInt8 := .still UInt8
instance : Carried Identifier := .still Identifier
instance : Carried RefCount.Fate := .still RefCount.Fate
instance : Carried Script.Text := .still Script.Text
instance : Carried WideEncoding := .still WideEncoding
instance : Carried Accessor := .within Accessor.relocate
instance : Carried Value := .within Value.relocate
instance : Carried Script.Outcome := .within Script.Outcome.relocate
instance : Carried Script.Machine := .within Script.Machine.relocate
instance : Carried Script.Stop := .within Script.Stop.relocate
instance : Carried ScriptHost.Reply := .within ScriptHost.Reply.relocate

instance : Carried ObjectRef where
  relocate := ObjectRef.relocate
  Within := ObjectRef.Within
  mono he h := h.mono he

instance : Carried Variant where
  relocate := Variant.relocate
  Within := Variant.Within
  mono he h := h.mono he

instance : Carried Failure where
  relocate := Failure.relocate
  Within := Failure.Within
  mono he h v hv := (h v hv).mono he

instance : Carried ExceptionSlot where
  relocate := ExceptionSlot.relocate
  Within e s := ∀ v, s.pending = some v → v.Within e
  mono he h v hv := (h v hv).mono he

instance : Carried Unwind := .within Unwind.relocate

instance : Carried Proxy where
  relocate := Proxy.relocate
  Within _ x := x.context.host = .script 0
  mono _ h := h

instance [Carried α] : Carried (Option α) where
  relocate ρ x := x.map (carry ρ)
  Within e x := ∀ y, x = some y → Carried.Within e y
  mono he h y hy := Carried.mono he (h y hy)

instance [Carried α] : Carried (List α) where
  relocate ρ xs := xs.map (carry ρ)
  Within e xs := ∀ x ∈ xs, Carried.Within e x
  mono he h x hx := Carried.mono he (h x hx)

instance [Carried α] [Carried γ] : Carried (α × γ) where
  relocate ρ x := (carry ρ x.1, carry ρ x.2)
  Within e x := Carried.Within e x.1 ∧ Carried.Within e x.2
  mono he h := ⟨Carried.mono he h.1, Carried.mono he h.2⟩

instance [Carried α] [Carried γ] : Carried (Except α γ) where
  relocate ρ
    | .ok x => .ok (carry ρ x)
    | .error e => .error (carry ρ e)
  Within e
    | .ok x => Carried.Within e x
    | .error f => Carried.Within e f
  mono {_ _ x} he h := by
    cases x with
    | ok x => exact Carried.mono he h
    | error f => exact Carried.mono he h

/-- Where there is nothing, nothing is named. -/
theorem Carried.within_none [Carried α] {e : Extent} : Carried.Within e (none : Option α) := by
  rintro _ ⟨⟩

/-- Something names what it names. -/
theorem Carried.within_some [Carried α] {e : Extent} {x : α} (h : Carried.Within e x) :
    Carried.Within e (some x) :=
  fun _ hy => Option.some.inj hy ▸ h

/-- An empty list names nothing. -/
theorem Carried.within_nil [Carried α] {e : Extent} : Carried.Within e ([] : List α) :=
  fun _ hx => absurd hx List.not_mem_nil

/-- A failure of native code's own names no objects. -/
theorem Failure.within_of_own {e : Extent} {f : Failure} (h : f.thrown? = none) : f.Within e := by
  intro v hv
  rw [h] at hv
  cases hv

/-! ### Worlds -/

/-- How many proxies and handles there are in a world. -/
def World.extent (w : World β) : Extent := (w.proxies.size, w.handles.size)

/-- A new proxy is one more. -/
theorem extent_pushProxy (w : World β) (x : Proxy) :
    w.extent ≤ ({ w with proxies := w.proxies.push x } : World β).extent :=
  ⟨by simp [World.extent], le_rfl⟩

/-- A new handle is one more. -/
theorem extent_pushHandle (w : World β) (x : Handle) :
    w.extent ≤ ({ w with handles := w.handles.push x } : World β).extent :=
  ⟨le_rfl, by simp [World.extent]⟩

/-- What the world has is there, apart from tables. -/
theorem within_of_has {w : World β} {o : ObjectRef} (ho : ∀ i, o ≠ .table i) (h : w.has o = true) :
    o.Within w.extent := by
  cases o with
  | table i => exact absurd rfl (ho i)
  | proxy i => exact of_decide_eq_true (p := i < w.proxies.size) h
  | handle i => exact of_decide_eq_true (p := i < w.handles.size) h

/-- Everything in `w` stands in `w'`, too, and what is made next in both
belongs together. The value of the program that runs is the same if `p`, and
the effort made so far if `q`. -/
structure World.Moved [Relocatable β] (ρ : Relocation) (p q : Prop) (w w' : World β) : Prop where
  heap : w.heap.Moved ρ p q w'.heap
  graph : w.graph.Moved ρ w'.graph
  proxies : Placed ρ.proxies (·.relocate ρ) w.proxies w'.proxies
  handles : Placed ρ.handles (·.relocate ρ) w.handles w'.handles
  cells : Placed ρ.cells (·.relocate ρ) w.cells w'.cells
  runtimes : Placed ρ.runtimes (·.relocate ρ) w.runtimes w'.runtimes
  instances : Placed ρ.instances (·.relocate ρ) w.instances w'.instances
  exists_runtime : 0 < w.runtimes.size
  host : ∀ x ∈ w.proxies, x.context.host = .script 0
  stored : ∀ v ∈ w.cells, v.Within w.extent

/-- The operation came to the same in both worlds, and left worlds that hold
the same. -/
structure Ends [Relocatable β] [Carried α] (ρ : Relocation) (w : World β)
    (a b : Except Unwind α × World β) : Prop where
  worlds : a.2.Moved ρ True True b.2
  grows : w.extent ≤ a.2.extent
  result : b.1 = carry ρ a.1
  within : Carried.Within a.2.extent a.1

/-- The operations come to the same in the two worlds. -/
def Twins [Relocatable β] [Carried α] (ρ : Relocation) (w w' : World β) (act act' : M β α) : Prop :=
  Ends ρ w (perform act w) (perform act' w')

namespace Twins

variable [Relocatable β] [Carried α] [Carried γ] {ρ : Relocation} {w w' : World β}
    {act act' : M β α}

/-! ### Putting operations together -/

/-- Twins go on as twins, with what the first ones came to. -/
theorem bind {k k' : α → M β γ} (h : Twins ρ w w' act act')
    (hk : ∀ {u u' : World β} (x : α), u.Moved ρ True True u' → w.extent ≤ u.extent →
      Carried.Within u.extent x → Twins ρ u u' (k x) (k' (carry ρ x))) : Twins ρ w w' (act >>= k)
        (act' >>= k') := by
  unfold Twins at h ⊢
  rw [perform_bind, perform_bind]
  obtain ⟨hworlds, hgrows, hresult, hwithin⟩ := h
  generalize perform act w = a at hworlds hgrows hresult hwithin
  generalize perform act' w' = b at hworlds hresult
  obtain ⟨x, u⟩ := a
  obtain ⟨_, u'⟩ := b
  cases hresult
  cases x with
  | ok x =>
    have hrest := hk x hworlds hgrows hwithin
    exact { hrest with grows := hgrows.trans hrest.grows }
  | error e => exact ⟨hworlds, hgrows, rfl, trivial⟩

/-- A change that keeps the worlds together is a twin of the other. -/
theorem modify {f f' : World β → World β} (hf : (f w).Moved ρ True True (f' w'))
    (hgrows : w.extent ≤ (f w).extent) :
    Twins ρ w w' (modifyGet fun w => (⟨⟩, f w) : M β PUnit) (modifyGet fun w => (⟨⟩, f' w)) :=
  ⟨hf, hgrows, rfl, trivial⟩

/-- So it is when it comes to something. -/
theorem modifyGet {f f' : World β → α × World β} (hf : (f w).2.Moved ρ True True (f' w').2)
    (hgrows : w.extent ≤ (f w).2.extent) (hresult : (f' w').1 = carry ρ (f w).1)
    (hwithin : Carried.Within (f w).2.extent (f w).1) :
    Twins ρ w w' (MonadState.modifyGet f : M β α) (MonadState.modifyGet f') :=
  ⟨hf, hgrows, congrArg Except.ok hresult, hwithin⟩

/-- What is known of the first steps need not be said again. -/
theorem after {α' : Type} {first first' : M β α'} {x x' : α'} {u u' : World β} {k k' : α' → M β α}
    (h : perform first w = (.ok x, u)) (h' : perform first' w' = (.ok x', u'))
    (hgrows : w.extent ≤ u.extent) (hk : Twins ρ u u' (k x) (k' x')) :
    Twins ρ w w' (first >>= k) (first' >>= k') := by
  unfold Twins at hk ⊢
  rw [perform_bind_ok h, perform_bind_ok h']
  exact { hk with grows := hgrows.trans hk.grows }

/-- What is read from a world depends on the world. -/
theorem get_bind {k k' : World β → M β α} (h : Twins ρ w w' (k w) (k' w')) :
    Twins ρ w w' (get >>= k) (get >>= k') := h

/-- Both do one thing, or both do the other. -/
theorem ite {c : Prop} [Decidable c] {yes no yes' no' : M β α} (hyes : c → Twins ρ w w' yes yes')
    (hno : ¬c → Twins ρ w w' no no') :
    Twins ρ w w' (if c then yes else no) (if c then yes' else no') := by
  split
  · exact hyes ‹_›
  · exact hno ‹_›

/-- Both are cleaned up, however they end. -/
theorem cleanly {cleanUp cleanUp' : M β Unit} (h : Twins ρ w w' act act')
    (hclean : ∀ {u u' : World β}, u.Moved ρ True True u' → w.extent ≤ u.extent →
      Twins ρ u u' cleanUp cleanUp') :
    Twins ρ w w' (ObjectBridge.cleanly act cleanUp) (ObjectBridge.cleanly act' cleanUp') := by
  unfold Twins at h ⊢
  rw [perform_cleanly, perform_cleanly]
  obtain ⟨hworlds, hgrows, hresult, hwithin⟩ := h
  have hafter := hclean hworlds hgrows
  unfold Twins at hafter
  obtain ⟨hworlds', hgrows', hresult', _⟩ := hafter
  generalize perform cleanUp _ = a at hworlds' hgrows' hresult'
  generalize perform cleanUp' _ = b at hworlds' hresult'
  obtain ⟨x, u⟩ := a
  obtain ⟨_, u'⟩ := b
  cases hresult'
  cases x with
  | ok _ => exact ⟨hworlds', hgrows.trans hgrows', hresult, Carried.mono hgrows' hwithin⟩
  | error e => exact ⟨hworlds', hgrows.trans hgrows', rfl, trivial⟩

/-- What unwinds one of them unwinds the other, elsewhere. -/
theorem caught (h : Twins ρ w w' act act') :
    Twins ρ w w' (ObjectBridge.caught act) (ObjectBridge.caught act') :=
  ⟨h.worlds, h.grows, congrArg Except.ok h.result, h.within⟩

/-- Both take note when they are unwound. -/
theorem noting {note note' : M β Unit} (h : Twins ρ w w' act act')
    (hnote : ∀ {u u' : World β}, u.Moved ρ True True u' → w.extent ≤ u.extent →
      Twins ρ u u' note note') :
    Twins ρ w w' (ObjectBridge.noting act note) (ObjectBridge.noting act' note') := by
  unfold Twins at h ⊢
  rw [perform_noting, perform_noting]
  obtain ⟨hworlds, hgrows, hresult, hwithin⟩ := h
  have hafter := hnote hworlds hgrows
  unfold Twins at hafter
  generalize perform act w = a at hworlds hgrows hresult hwithin hafter
  generalize perform act' w' = b at hworlds hresult hafter
  obtain ⟨x, u⟩ := a
  obtain ⟨_, u'⟩ := b
  cases hresult
  cases x with
  | ok x => exact ⟨hworlds, hgrows, rfl, hwithin⟩
  | error e => exact ⟨hafter.worlds, hgrows.trans hafter.grows, rfl, trivial⟩

end Twins

namespace World.Moved

variable [Relocatable β] [Carried α] {ρ : Relocation} {p q : Prop} {u u' w w' : World β}

section

variable (hm : w.Moved ρ p q w')

include hm

/-! ### Reading -/

/-- There is a proxy here when there is one there. -/
theorem proxy? (i : Nat) : w'.proxies[ρ.proxies i]? = w.proxies[i]?.map (·.relocate ρ) :=
  hm.proxies.get i

/-- A proxy there is the proxy here, moved. -/
theorem proxy {i : Nat} (hi : i < w.proxies.size) :
    w'.proxy (ρ.proxies i) = (w.proxy i).relocate ρ := by
  unfold World.proxy
  rw [Array.getD_eq_getD_getElem?, Array.getD_eq_getD_getElem?, hm.proxy?,
    Array.getElem?_eq_getElem hi]
  rfl

/-- Every proxy is for the runtime. -/
theorem host_proxy {i : Nat} (hi : i < w.proxies.size) : (w.proxy i).context.host = .script 0 := by
  unfold World.proxy
  rw [Array.getD_eq_getD_getElem?, Array.getElem?_eq_getElem hi]
  exact hm.host _ (Array.getElem_mem hi)

/-- So is a handle. -/
theorem handle {i : Nat} (hi : i < w.handles.size) :
    w'.handles.getD (ρ.handles i) default = (w.handles.getD i default).relocate ρ := by
  rw [Array.getD_eq_getD_getElem?, Array.getD_eq_getD_getElem?, hm.handles.get,
    Array.getElem?_eq_getElem hi]
  rfl

/-- The runtime that scripts run in. -/
theorem runtime : w'.runtime (ρ.runtimes 0) = (w.runtime 0).relocate ρ := by
  unfold World.runtime
  rw [Array.getD_eq_getD_getElem?, Array.getD_eq_getD_getElem?, hm.runtimes.get,
    Array.getElem?_eq_getElem hm.exists_runtime]
  rfl

/-- A context belongs to the moved instance. -/
theorem instanceOf? (ctx : Context) :
    w'.instanceOf? (ctx.relocate ρ) = (w.instanceOf? ctx).map (·.relocate ρ) := by
  unfold World.instanceOf?
  rw [Context.relocate_inst]
  cases ctx.inst with
  | none => rfl
  | some i => exact hm.instances.get i

/-- There are as many objects as belong together. -/
theorem has {o : ObjectRef} (ho : ∀ i, o ≠ .table i) : w'.has (o.relocate ρ) = w.has o := by
  cases o with
  | table i => exact absurd rfl (ho i)
  | proxy i => exact decide_eq_decide.mpr hm.proxies.lt_iff
  | handle i => exact decide_eq_decide.mpr hm.handles.lt_iff

/-! ### Changing -/

/-- Something is done to the objects of scripts. -/
theorem withObjects {p' q' : Prop} {h h' : Script.Heap} (hh : h.Moved ρ p' q' h') :
    ({ w with heap := h } : World β).Moved ρ p' q' { w' with heap := h' } :=
  { hm with heap := hh }

/-- A proxy is changed in both, and stays with its runtime. -/
theorem modifyProxy (i : Nat) {f f' : Proxy → Proxy}
    (hf : ∀ x, (f x).relocate ρ = f' (x.relocate ρ)) (hhost : ∀ x, (f x).context = x.context) :
    ({ w with proxies := w.proxies.modify i f } : World β).Moved ρ p q
      { w' with proxies := w'.proxies.modify (ρ.proxies i) f' } :=
  { hm with
    proxies := hm.proxies.modify i hf
    host := fun x hx => by
      obtain ⟨j, hj, rfl⟩ := Array.mem_iff_getElem.mp hx
      rw [Array.getElem_modify]
      have hold := hm.host _ (Array.getElem_mem (Array.size_modify ▸ hj))
      split
      · rw [hhost]
        exact hold
      · exact hold
    stored := fun v hv => by
      unfold World.extent
      rw [Array.size_modify]
      exact hm.stored v hv }

/-- A handle is changed in both. -/
theorem modifyHandle (i : Nat) {f f' : Handle → Handle}
    (hf : ∀ x, (f x).relocate ρ = f' (x.relocate ρ)) :
    ({ w with handles := w.handles.modify i f } : World β).Moved ρ p q
      { w' with handles := w'.handles.modify (ρ.handles i) f' } :=
  { hm with
    handles := hm.handles.modify i hf
    stored := fun v hv => by
      unfold World.extent
      rw [Array.size_modify]
      exact hm.stored v hv }

/-- A runtime is changed in both. -/
theorem modifyRuntime (i : Nat) {f f' : Runtime → Runtime}
    (hf : ∀ x, (f x).relocate ρ = f' (x.relocate ρ)) :
    ({ w with runtimes := w.runtimes.modify i f } : World β).Moved ρ p q
      { w' with runtimes := w'.runtimes.modify (ρ.runtimes i) f' } :=
  { hm with
    runtimes := hm.runtimes.modify i hf
    exists_runtime := by
      rw [Array.size_modify]
      exact hm.exists_runtime }

/-- An instance is changed in both. -/
theorem modifyInstance (i : Nat) {f f' : Instance → Instance}
    (hf : ∀ x, (f x).relocate ρ = f' (x.relocate ρ)) :
    ({ w with instances := w.instances.modify i f } : World β).Moved ρ p q
      { w' with instances := w'.instances.modify (ρ.instances i) f' } :=
  { hm with instances := hm.instances.modify i hf }

/-- A proxy for the runtime is made in both. -/
theorem pushProxy {x : Proxy} (hx : x.context.host = .script 0) :
    ({ w with proxies := w.proxies.push x } : World β).Moved ρ p q
      { w' with proxies := w'.proxies.push (x.relocate ρ) } :=
  { hm with
    proxies := hm.proxies.push x
    host := fun y hy => (Array.mem_push.mp hy).elim (hm.host y) fun heq => heq ▸ hx
    stored := fun v hv o ho => ((hm.stored v hv) o ho).mono (extent_pushProxy w x) }

/-- A handle is made in both. -/
theorem pushHandle (x : Handle) :
    ({ w with handles := w.handles.push x } : World β).Moved ρ p q
      { w' with handles := w'.handles.push (x.relocate ρ) } :=
  { hm with
    handles := hm.handles.push x
    stored := fun v hv o ho => ((hm.stored v hv) o ho).mono (extent_pushHandle w x) }

/-- The rest of the worlds has nothing to do with each other. -/
theorem of_eq (h : (u.heap, u.graph, u.proxies, u.handles, u.cells, u.runtimes, u.instances) =
      (w.heap, w.graph, w.proxies, w.handles, w.cells, w.runtimes, w.instances))
    (h' : (u'.heap, u'.graph, u'.proxies, u'.handles, u'.cells, u'.runtimes, u'.instances) =
      (w'.heap, w'.graph, w'.proxies, w'.handles, w'.cells, w'.runtimes, w'.instances)) : u.Moved ρ
        p q u' := by
  obtain ⟨⟩ := u
  obtain ⟨⟩ := u'
  cases h
  cases h'
  exact { hm with }

end

section

variable (hm : w.Moved ρ True True w')

include hm

/-! ### Single operations -/

/-- To come to something at once, it must name what is there. -/
theorem pure {x : α} (hx : Carried.Within w.extent x) :
    Twins ρ w w' (Pure.pure x : M β α) (Pure.pure (carry ρ x)) :=
  ⟨hm, le_rfl, rfl, hx⟩

/-- Both are unwound by the same thing. -/
theorem throw (u : Unwind) : Twins ρ w w' (throw u : M β α) (throw (u.relocate ρ)) :=
  ⟨hm, le_rfl, rfl, trivial⟩

end

end World.Moved

end ObjectBridge

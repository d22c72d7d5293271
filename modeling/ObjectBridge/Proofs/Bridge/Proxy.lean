import ObjectBridge.Proofs.Bridge.Contract

/-!
# `ObjectBridge.Proofs.Bridge.Proxy`: proxies pass the contract on

A node's members are native code that honours the contract, so reading,
writing, calling and constructing a node keep the books. A proxy adds the
exception slot. What native code throws is handed over to the slot, or
given back when the slot is full (`keeps_raiseInto`), and the request holds
either its answer or its exception.

The proxy's own answers, whether there is a member and what the members are
called, touch no references.
-/

set_option autoImplicit false

namespace ObjectBridge

variable {α β : Type} {good : Roles β} {w w' : World β} {t n : ObjectRef → Int} {ops : HostOps β}
    {ctx : Context}

/-! ### Nodes -/

section

variable [Native β]

/-- Reading a node's property keeps the books. -/
theorem keeps_nodeGetProperty (hn : Native.Honours good) (hops : ops.Honest good)
    (hs : w.Sound good) (hctx : w.Scripted ctx) (m : NodeId) (name : Bytes) :
    Keeps good (Node.getProperty ops ctx m name) 0 w := by
  unfold Node.getProperty
  refine .get_bind ?_
  split
  case h_1 code p hp => exact hn.call ops ctx code [] w hops (hs.code.getter hp rfl) hs hctx (by
    simp)
  case h_2 => exact .pure_nothing hs rfl
  case h_3 c hc =>
    obtain ⟨w', hrun, hl⟩ := perform_newProxy_leads hs hctx c
    exact .after hrun hl ((Keeps.pure hl.sound _).congr fun o => by simp)
  case h_4 => exact .pure_nothing hs rfl

/-- So does writing one, -/
theorem keeps_nodeSetProperty (hn : Native.Honours good) (hops : ops.Honest good)
    (hs : w.Sound good) (hctx : w.Scripted ctx) (m : NodeId) (name : Bytes) {v : Variant}
    (hv : w.Lends v) :
    Keeps good (Node.setProperty ops ctx m name v) 0 w := by
  unfold Node.setProperty
  refine .get_bind ?_
  split
  case h_1 g code hp => exact hn.store ops ctx code v w hops (hs.code.setter hp rfl) hs hctx hv
  case h_2 => exact .pure_nothing hs rfl
  case h_3 => exact .pure_nothing hs rfl

/-- calling a method -/
theorem keeps_nodeCall (hn : Native.Honours good) (hops : ops.Honest good) (hs : w.Sound good)
    (hctx : w.Scripted ctx) (m : NodeId) (name : Bytes) {args : List Variant}
    (hargs : ∀ v ∈ args, w.Lends v) :
    Keeps good (Node.call ops ctx m name args) 0 w := by
  unfold Node.call
  refine .get_bind ?_
  split
  case h_1 code hm => exact hn.call ops ctx code args w hops (hs.code.method hm) hs hctx hargs
  case h_2 => exact .pure_nothing hs rfl

/-- and constructing. -/
theorem keeps_nodeConstruct (hn : Native.Honours good) (hops : ops.Honest good) (hs : w.Sound good)
    (hctx : w.Scripted ctx) (m : NodeId) {args : List Variant} (hargs : ∀ v ∈ args, w.Lends v) :
    Keeps good (Node.construct ops ctx m args) 0 w := by
  unfold Node.construct
  refine .get_bind ?_
  split
  case h_1 code hm => exact hn.call ops ctx code args w hops (hs.code.constructor hm) hs hctx hargs
  case h_2 => exact .pure_nothing hs rfl

end

/-! ### Requests -/

namespace Proxy

variable {p : Proxy} {slot slot' : Slot}

/-- Timing a request changes nothing about it. -/
theorem keeps_measured [Holds α] {act : M β α} (operation : String) (name : Bytes)
    (hs : w.Sound good) (h : ∀ w', w.Alike w' → w'.Sound good → Keeps good act t w') :
    Keeps good (p.measured operation name act) t w := by
  unfold measured
  refine .get_bind ?_
  refine .quiet_bind hs (quietly_startTimer _ _) fun _ w' halike hs' => ?_
  exact (h w' halike hs').withCleanUp_quietly (quietly_stopTimer _ _)

/-- A request that is timed has the result it has untimed. -/
theorem perform_measured (p : Proxy) (operation : String) (name : Bytes) (act : M β α)
    (w : World β) :
    ∃ w₁ w₂, w.Alike w₁ ∧ (perform act w₁).2.Alike w₂ ∧
      perform (p.measured operation name act) w = ((perform act w₁).1, w₂) := by
  let recorder := (w.instanceOf? p.context).bind (·.recorder)
  let key := className w.graph p.node ++ .ofString ("::" ++ operation ++ "(") ++ name ++
      .ofString ")"
  obtain ⟨_, w₁, hstart, halike₁⟩ := quietly_startTimer recorder key w
  obtain ⟨_, w₂, hstop, halike₂⟩ := quietly_stopTimer recorder key (perform act w₁).2
  refine ⟨w₁, w₂, halike₁, halike₂, ?_⟩
  unfold measured
  rw [perform_bind_ok (perform_get w), perform_bind_ok hstart, perform_cleanly, hstop]

/-- A measured operation that returns has returned. -/
theorem exists_of_measured {act : M β α} {operation : String} {name : Bytes} {x : α}
    (h : perform (p.measured operation name act) w = (.ok x, w')) :
    ∃ w₁ w₂, perform act w₁ = (.ok x, w₂) := by
  obtain ⟨w₁, w₂, _, _, hrun⟩ := perform_measured p operation name act w
  rw [hrun] at h
  exact ⟨w₁, _, Prod.ext (Prod.mk.inj h).1 rfl⟩

/-- A slot without an exception holds nothing. -/
theorem holds_of_not_pending (h : (slot.getD {}).isPending = false) : holds slot = 0 := by
  rw [holds_slot]
  unfold ExceptionSlot.isPending at h
  unfold ExceptionSlot.value
  rw [Option.isSome_eq_false_iff, Option.isNone_iff_eq_none] at h
  rw [h]
  rfl

/-- A thrown object can be given back. -/
theorem perform_dropThrown {f : Failure} (hs : w.Sound good) (hf : ∀ o, holds f o ≤ w.outside o) :
    ∃ w', perform (dropThrown f) w = (.ok (), w') ∧ w.Leads good (-holds f) w' := by
  have hquiet (hzero : holds f = 0) : w.Leads good (-holds f) w :=
    (World.Leads.refl hs).congr fun o => by simp [hzero]
  unfold dropThrown
  split
  case h_1 o hthrown =>
    have hobject : holds f = holds (Variant.object o) := by
      rw [holds_failure, Failure.exceptionValue, hthrown]
    rw [hobject] at hf ⊢
    exact perform_release hs (World.lends_of_holds hf o rfl)
  case h_2 hthrown =>
    refine ⟨w, rfl, hquiet ?_⟩
    rw [holds_failure, Failure.exceptionValue]
    split
    case h_1 v hv =>
      cases v with
      | object o => exact absurd hv (hthrown o)
      | _ => rfl
    case h_2 => rfl

/-- A thrown object is handed over to the slot, or given back. -/
theorem keeps_raiseInto {f : Failure} (hs : w.Sound good) (hf : ∀ o, holds f o ≤ w.outside o) :
    Keeps good (raiseInto slot f) (holds slot + holds f) w := by
  -- A slot that takes nothing: what is thrown is given back.
  have hdrop (slot : Slot) : Keeps good (do
      dropThrown f
      return slot) (holds slot + holds f) w := by
    obtain ⟨w', hrun, hl⟩ := perform_dropThrown hs hf
    exact .after hrun hl ((Keeps.pure hl.sound slot).congr fun o => by simp)
  cases slot with
  | none => exact hdrop none
  | some s =>
    cases s with
    | mk pending =>
      cases pending with
      | some v => exact hdrop (some ⟨some v⟩)
      | none => exact (Keeps.pure hs _).congr fun o =>
        (Int.zero_add (holds f.exceptionValue o)).symm

/-- Reporting a failure hands what it throws over to the slot. -/
theorem keeps_fail {f : Failure} (hs : w.Sound good) (hf : ∀ o, holds f o ≤ w.outside o) :
    Keeps good (p.fail slot f) (holds slot + holds f) w := by
  unfold fail
  refine (keeps_raiseInto hs hf).bind fun slot' w' _ hl => ?_
  refine .quiet_bind hl.sound (quietly_setLastError _ _) fun _ w'' _ hs'' => ?_
  exact .pure hs'' slot'

/-- An answer holds what was answered or thrown. -/
theorem keeps_answer {r : Except Failure Variant} (hs : w.Sound good)
    (hr : ∀ o, holds r o ≤ w.outside o) :
    Keeps good (p.answer slot r) (holds slot + holds r) w := by
  cases r with
  | ok v => exact (Keeps.pure hs _).congr fun o => by simp only [holds_pair, holds_ok, Pi.add_apply,
    Int.add_comm]
  | error f =>
    refine Keeps.bind (keeps_fail hs hr) fun slot' w' _ hl => ?_
    exact (Keeps.pure hl.sound _).congr fun o => by simp

/-- A request that fails has no answer. -/
theorem void_of_answer {r : Except Failure Variant} {v : Variant}
    (h : perform (p.answer (some {}) r) w = (.ok (v, slot'), w')) (hp : (slot'.getD {}).isPending) :
    v = .void := by
  cases r with
  | ok v =>
    cases h
    cases hp
  | error f =>
    unfold answer at h
    rw [perform_bind] at h
    split at h
    · cases h
      rfl
    · cases h

/-- Whether there is a method is said without touching references. -/
theorem perform_hasMethod (p : Proxy) (name : Bytes) (slot : Slot) (w : World β) :
    ∃ b w', perform (p.hasMethod (.string name) slot) w = (.ok (b, slot), w') ∧ w.Alike w' := by
  obtain ⟨w₁, w₂, halike₁, halike₂, hrun⟩ := perform_measured p "HasMethod" name
    (do return ((← get).graph.hasMethod p.node name, slot)) w
  exact ⟨_, w₂, hrun, halike₁.trans halike₂⟩

/-- Whether there is a property is said without touching references. -/
theorem perform_hasProperty (p : Proxy) (name : Bytes) (slot : Slot) (w : World β) :
    ∃ b w', perform (p.hasProperty (.string name) slot) w = (.ok (b, slot), w') ∧ w.Alike w' := by
  obtain ⟨w₁, w₂, halike₁, halike₂, hrun⟩ := perform_measured p "HasProperty" name
    (do return ((← get).graph.hasProperty p.node name, slot)) w
  exact ⟨_, w₂, hrun, halike₁.trans halike₂⟩

/-- The names of members hold no references, and those made before bytes
run out are given back. -/
theorem perform_nameVariants (host : HostId) {done : List Variant} (names : List Bytes)
    (hs : w.Sound good) (hd : holds done = 0) :
    ∃ r w', perform (nameVariants host done names) w = (.ok r, w') ∧ w.Leads good 0 w' ∧
      holds (r : Except Failure (List Variant)) = 0 := by
  induction names generalizing done w with
  | nil => exact ⟨_, w, rfl, .refl hs, by rw [holds_ok, holds_reverse, hd]⟩
  | cons name rest ih =>
    obtain ⟨made, w₁, hrun₁, halike₁, hmade⟩ := perform_valueFromString host name w
    have hl₁ := halike₁.leads hs
    unfold nameVariants
    rw [perform_bind_ok hrun₁]
    cases made with
    | ok v =>
      have hnext : holds (v :: done) = 0 := by rw [holds_cons, hd, add_zero]; exact hmade
      obtain ⟨r, w', hrun, hl, hr⟩ := ih hl₁.sound hnext
      exact ⟨r, w', hrun, (hl₁.trans hl).congr fun o => by simp, hr⟩
    | error f =>
      have hzero : holds done.reverse = 0 := by rw [holds_reverse, hd]
      have hcovered (o : ObjectRef) : holds done.reverse o ≤ w₁.outside o :=
        hzero ▸ hl₁.sound.covered o
      obtain ⟨w', hrun, hl⟩ := perform_releaseAll host hl₁.sound hcovered
      exact ⟨_, w', (perform_bind_ok hrun _).trans rfl, (hl₁.trans hl).congr fun o => by
        simp [hzero], hmade⟩

/-- Asking for the names of the members keeps the books. -/
theorem keeps_propertyNames (p : Proxy) (hs : w.Sound good) :
    Keeps good (p.propertyNames (some {})) 0 w := by
  refine keeps_measured _ _ hs fun w₁ _ hs₁ => ?_
  refine .get_bind ?_
  have hnil : holds ([] : List Variant) = 0 := rfl
  obtain ⟨r, w₂, hrun, hl, hr⟩ :=
    perform_nameVariants p.context.host (w₁.graph.memberNames p.node) hs₁ hnil
  refine .after hrun hl ?_
  rw [add_zero]
  cases r with
  | ok names => exact .pure_nothing hl.sound ((add_zero _).trans hr)
  | error f =>
    have hf : holds f = 0 := hr
    have hfail : Keeps good (p.fail (some {}) f) 0 w₂ :=
      (keeps_fail hl.sound fun o => hf ▸ hl.sound.covered o).congr fun o => by
        rw [hf, add_zero]; rfl
    refine hfail.next hl.sound fun slot w₃ _ hl₃ _ => ?_
    exact (Keeps.pure hl₃.sound _).congr fun o => by simp

/-- A request that fails has no names. -/
theorem none_of_propertyNames {names : Option (List Variant)}
    (h : perform (p.propertyNames (some {})) w = (.ok (names, slot'), w'))
    (hp : (slot'.getD {}).isPending) :
    names = none := by
  obtain ⟨w₁, w₂, h⟩ := exists_of_measured h
  rw [perform_bind_ok (perform_get w₁), perform_bind] at h
  split at h
  case h_1 r w₃ _ =>
    cases r with
    | ok names =>
      cases h
      cases hp
    | error f =>
      rw [perform_bind] at h
      split at h
      · cases h
        rfl
      · cases h
  case h_2 => cases h

variable [Native β]

/-- Reading a property keeps the books. -/
theorem keeps_getProperty (hn : Native.Honours good) (hops : ops.Honest good) (hs : w.Sound good)
    (hctx : w.Scripted p.context) (name : Bytes) :
    Keeps good (p.getProperty ops (.string name) (some {})) 0 w := by
  refine keeps_measured _ _ hs fun w₁ halike hs₁ => ?_
  have hctx₁ := (halike.leads hs).grows.scripted hctx
  refine (keeps_nodeGetProperty hn hops hs₁ hctx₁ p.node name).next hs₁ fun r w₂ _ hl hr => ?_
  exact (keeps_answer hl.sound hr).congr fun o => Int.zero_add (holds r o)

/-- A property that could not be read has no value. -/
theorem void_of_getProperty {name : Bytes} {v : Variant}
    (h : perform (p.getProperty ops (.string name) (some {})) w = (.ok (v, slot'), w'))
    (hp : (slot'.getD {}).isPending) : v = .void := by
  obtain ⟨w₁, w₂, h⟩ := exists_of_measured h
  rw [perform_bind] at h
  split at h
  · exact void_of_answer h hp
  · cases h

/-- Writing a property keeps the books. -/
theorem keeps_setProperty (hn : Native.Honours good) (hops : ops.Honest good) (hs : w.Sound good)
    (hctx : w.Scripted p.context) (name : Bytes) {v : Variant} (hv : w.Lends v) :
    Keeps good (p.setProperty ops (.string name) v (some {})) 0 w := by
  refine keeps_measured _ _ hs fun w₁ halike hs₁ => ?_
  have hctx₁ := (halike.leads hs).grows.scripted hctx
  refine (keeps_nodeSetProperty hn hops hs₁ hctx₁ p.node name (halike.lends hv)).next hs₁
    fun r w₂ _ hl hr => ?_
  cases r with
  | ok x => exact .pure_nothing hl.sound rfl
  | error f => exact (keeps_fail hl.sound hr).congr fun o => Int.zero_add (holds f o)

/-- Constructing a node keeps the books. -/
theorem keeps_construct (hn : Native.Honours good) (hops : ops.Honest good) (hs : w.Sound good)
    (hctx : w.Scripted p.context) {args : List Variant} (hargs : ∀ v ∈ args, w.Lends v) :
    Keeps good (p.construct ops args (some {})) 0 w := by
  refine keeps_measured _ _ hs fun w₁ halike hs₁ => ?_
  have hctx₁ := (halike.leads hs).grows.scripted hctx
  have hargs₁ : ∀ v ∈ args, w₁.Lends v := fun v hv => halike.lends (hargs v hv)
  refine (keeps_nodeConstruct hn hops hs₁ hctx₁ p.node hargs₁).next hs₁ fun r w₂ _ hl hr => ?_
  exact (keeps_answer hl.sound hr).congr fun o => Int.zero_add (holds r o)

/-- Calling a method or constructing keeps the books. -/
theorem keeps_call (hn : Native.Honours good) (hops : ops.Honest good) (hs : w.Sound good)
    (hctx : w.Scripted p.context) {method : Variant}
    (hmethod : method = .void ∨ ∃ name, method = .string name) {args : List Variant}
    (hargs : ∀ v ∈ args, w.Lends v) :
    Keeps good (p.call ops method args (some {})) 0 w := by
  rcases hmethod with rfl | ⟨name, rfl⟩
  · exact keeps_construct hn hops hs hctx hargs
  · refine keeps_measured _ _ hs fun w₁ halike hs₁ => ?_
    have hctx₁ := (halike.leads hs).grows.scripted hctx
    have hargs₁ : ∀ v ∈ args, w₁.Lends v := fun v hv => halike.lends (hargs v hv)
    refine (keeps_nodeCall hn hops hs₁ hctx₁ p.node name hargs₁).next hs₁ fun r w₂ _ hl hr => ?_
    exact (keeps_answer hl.sound hr).congr fun o => Int.zero_add (holds r o)

end Proxy

end ObjectBridge

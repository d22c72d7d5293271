import ObjectBridge.Bridge.Host
import ObjectBridge.Proofs.Bridge.Proxy

/-!
# `ObjectBridge.Proofs.Bridge.ScriptHost`: what scripts ask for keeps the books

A value on its way to native code comes with a reference of its own
(`perform_toVariant`). A proxy on its way to a script is retained and taken
on by the runtime in one go, which changes nothing outside
(`perform_toValue`). An exception on its way to a script is used up
(`keeps_throwPending`). So each request of a script keeps the books,
whatever becomes of it (`keeps_serve`), and so does a whole run
(`keeps_drive`).

Hosts call native code and native code calls hosts. The operations of one
level are honest when those of the level below are, which makes hosts honest
at every level (`honest_hostOps`).
-/

set_option autoImplicit false

namespace ObjectBridge.ScriptHost

open Script (Value Machine Key)

variable {α β : Type} {good : Roles β} {w w' : World β} {t n : ObjectRef → Int}
    {ops : HostOps β} {i : Nat}

/-! ### Values -/

/-- What happens on the heap is quiet. -/
theorem quietly_withHeap (f : Script.Heap → α × Script.Heap) : Quietly (withHeap f : M β α) :=
  fun _ => ⟨_, _, rfl, ⟨rfl, rfl, rfl, rfl, rfl, rfl⟩⟩

/-- Changing a runtime outside its books is quiet. -/
theorem quietly_modifyRuntime (i : Nat) {f : Runtime → Runtime} (hf : ∀ r, (f r).books = r.books) :
    Quietly (modifyRuntime i f : M β Unit) :=
  .modify fun w => w.alike_modifyRuntime i hf

/-- An error of the host's own holds no references. -/
theorem keeps_throwText [Holds α] (hs : w.Sound good) (i : Nat) (message : Bytes) :
    Keeps good (throwText i message : M β α) 0 w := by
  unfold throwText
  refine .get_bind ?_
  exact .quiet_bind hs (quietly_withHeap _) fun _ _ _ hs' => .unwind hs' (by simp)

/-- Only objects that are there are found behind script objects. -/
theorem perform_unwrap? (i : Nat) (o : Script.ObjId) (w : World β) :
    ∃ r, perform (unwrap? i o) w = (.ok r, w) ∧ ∀ ref, r = some ref → w.has ref := by
  unfold unwrap?
  rw [perform_bind_ok (perform_get w)]
  dsimp only
  split
  · refine ⟨_, rfl, fun ref href => ?_⟩
    split at href
    case isTrue h =>
      cases href
      simp only [Bool.and_eq_true] at h
      exact h.2
    case isFalse => cases href
  · exact ⟨none, rfl, fun _ h => by cases h⟩

/-- A number holds nothing. -/
theorem holds_ofNumber (f : Float) : holds (Variant.ofNumber f) = 0 := by
  unfold Variant.ofNumber
  dsimp only
  split
  · split <;> rfl
  · rfl

/-- Giving a text out touches no reference. -/
theorem perform_textVariant? (i : Nat) (text : Script.Text) (w : World β) :
    ∃ r w', perform (textVariant? i text) w = (.ok r, w') ∧ w.Alike w' ∧ holds r = 0 := by
  obtain ⟨given, w', hrun, halike⟩ := quietly_memAlloc (.script i) text.toBytes.length w
  unfold textVariant?
  dsimp only
  rw [perform_bind_ok hrun]
  cases given with
  | true => exact ⟨_, w', rfl, halike, rfl⟩
  | false => exact ⟨_, w', rfl, halike, rfl⟩

/-- A value as a variant comes with a reference of its own. -/
theorem perform_toVariant (hs : w.Sound good) (i : Nat) (v : Value) :
    ∃ r w', perform (toVariant i v) w = (.ok r, w') ∧ w.Leads good (holds r) w' := by
  have hnothing (r : Option Variant) (hr : holds r = 0) : w.Leads good (holds r) w := hr ▸ .refl hs
  have htext (text : Script.Text) :
      ∃ r w', perform (textVariant? i text) w = (.ok r, w') ∧ w.Leads good (holds r) w' := by
    obtain ⟨r, w', hrun, halike, hr⟩ := perform_textVariant? i text w
    exact ⟨r, w', hrun, hr ▸ halike.leads hs⟩
  cases v with
  | undefined => exact ⟨_, w, rfl, hnothing _ rfl⟩
  | null => exact ⟨_, w, rfl, hnothing _ rfl⟩
  | bool b => exact ⟨_, w, rfl, hnothing _ rfl⟩
  | number f => exact ⟨_, w, rfl, hnothing _ (holds_ofNumber f)⟩
  | bigint k => exact ⟨_, w, rfl, hnothing _ rfl⟩
  | string text => exact htext text
  | symbol s => exact htext s.label
  | object o =>
    obtain ⟨r, hunwrap, hhas⟩ := perform_unwrap? i o w
    unfold toVariant
    dsimp only
    rw [perform_bind_ok hunwrap]
    -- An object of a host is retained, and any other one gets a handle of its own.
    cases r with
    | some ref =>
      obtain ⟨w', hretain, hl⟩ := perform_retain hs (hhas ref rfl)
      exact ⟨_, w', perform_bind_ok hretain _, hl⟩
    | none =>
      obtain ⟨w', hnew, hl⟩ := perform_newHandle hs i o
      exact ⟨_, w', perform_bind_ok hnew _, hl⟩

/-- A proxy on its way to a script is retained and taken on at once. A
closed runtime takes it on just as well, but has no object for it. -/
theorem perform_exposeObject {o : ObjectRef} (hs : w.Sound good) (hi : i < w.runtimes.size)
    (ho : w.has o) :
    ∃ r w', perform (exposeObject i o) w = (r, w') ∧ w.Leads good 0 w' ∧
      ((∃ v, r = .ok v) ∨ r = .error .fault ∧ (w.runtime i).isOpen = false) := by
  obtain ⟨w₁, hretain, hl₁⟩ := perform_retain hs ho
  have hheld : 1 ≤ w₁.outside o := by
    have := hs.covered o
    rw [hl₁.outside, one, if_pos rfl]
    omega
  obtain ⟨w₂, hadopt, hl₂⟩ := perform_adopt hl₁.sound (hl₁.grows.lt hi) hheld
  -- The reference that is taken is the one that is adopted.
  have hl := (hl₁.trans hl₂).congr (m := 0) fun x => by simp
  unfold exposeObject
  rw [perform_bind_ok hretain, perform_bind_ok hadopt, perform_bind_ok (perform_get _)]
  dsimp only
  split
  case isTrue =>
    obtain ⟨x, w', hheap, halike⟩ := quietly_withHeap (fun h =>
      ((h.newNative (w₂.runtime i).realm o).2, (h.newNative (w₂.runtime i).realm o).1)) w₂
    exact ⟨_, w', perform_bind_ok hheap _, (hl.trans (halike.leads hl.sound)).congr fun x => by
      simp, .inl ⟨_, rfl⟩⟩
  case isFalse hclosed =>
    refine ⟨_, w₂, rfl, hl, .inr ⟨rfl, ?_⟩⟩
    rw [← hl.grows.isOpen i]
    exact Bool.eq_false_iff.mpr hclosed

/-- What a script is handed is taken on last. -/
theorem adopted_exposeObject (hi : i < w.runtimes.size) (o : ObjectRef) :
    ((perform (exposeObject i o) w).2.runtime i).adopted = o :: (w.runtime i).adopted := by
  have hretain : perform (retain o) w = (.ok (), w.recount o 1) := by cases o <;> rfl
  have hruntimes : (w.recount o 1).runtimes = w.runtimes := by cases o <;> rfl
  have hadopted : World.runtime { w.recount o
      1 with runtimes := (w.recount o 1).runtimes.modify i fun r =>
      { r with adopted := o :: r.adopted } } i = { w.runtime i with adopted :=
        o :: (w.runtime i).adopted } := by
    rw [World.runtime_modify, if_pos ⟨rfl, hruntimes.symm ▸ hi⟩, World.runtime, hruntimes,
      World.runtime]
  unfold exposeObject
  rw [perform_bind_ok hretain, modifyRuntime, perform_bind_ok (perform_modify _ _),
    perform_bind_ok (perform_get _)]
  dsimp only
  split
  · exact congrArg Runtime.adopted hadopted
  · exact congrArg Runtime.adopted hadopted

/-- Making a value of a borrowed variant changes nothing outside. It is
unwound only when a closed runtime is handed a proxy. -/
theorem perform_toValue {v : Variant} (hs : w.Sound good) (hi : i < w.runtimes.size)
    (hv : w.Lends v) :
    ∃ r w', perform (toValue i v) w = (r, w') ∧ w.Leads good 0 w' ∧
      ((∃ x, r = .ok x) ∨ r = .error .fault ∧ (w.runtime i).isOpen = false) := by
  cases v with
  | object o =>
    cases o with
    | handle h => exact ⟨_, w, rfl, .refl hs, .inl ⟨_, rfl⟩⟩
    | proxy p => exact perform_exposeObject hs hi (World.has_of_outside (hv _ rfl))
    | table k => exact ⟨_, w, rfl, .refl hs, .inl ⟨_, rfl⟩⟩
  | _ => exact ⟨_, w, rfl, .refl hs, .inl ⟨_, rfl⟩⟩

/-- Taking a value in keeps the books. -/
theorem keeps_toValue {v : Variant} (hs : w.Sound good) (hi : i < w.runtimes.size)
    (hv : w.Lends v) :
    Keeps good (toValue i v) 0 w := by
  obtain ⟨r, w', hrun, hl, hr⟩ := perform_toValue hs hi hv
  rw [Keeps, hrun]
  have hholds : holds r = 0 := by rcases hr with ⟨x, rfl⟩ | ⟨rfl, _⟩ <;> rfl
  refine .of_leads ?_ (hl.congr fun o => by simp [hholds])
  rcases hr with ⟨x, rfl⟩ | ⟨rfl, _⟩ <;> simp

/-- An exception is used up when it is thrown into a script. -/
theorem keeps_throwPending [Holds α] {slot : Slot} (hs : w.Sound good) (hi : i < w.runtimes.size)
    (hslot : ∀ o, holds slot o ≤ w.outside o) :
    Keeps good (throwPending i slot : M β α) (holds slot) w := by
  rw [holds_slot] at hslot ⊢
  unfold throwPending
  generalize (slot.getD {}).value = v at hslot ⊢
  split
  case h_1 bytes => exact keeps_throwText hs i bytes
  case h_2 =>
    obtain ⟨r, w', hrun, hl, hr⟩ := perform_toValue hs hi (World.lends_of_holds hslot)
    rcases hr with ⟨x, rfl⟩ | ⟨rfl, hclosed⟩
    · refine .after hrun hl ?_
      rw [add_zero]
      cases v with
      | object o =>
        have hheld : 1 ≤ w'.outside o := by
          rw [hl.outside, Pi.zero_apply, Int.add_zero]
          exact World.lends_of_holds hslot o rfl
        obtain ⟨w'', hrelease, hl'⟩ := perform_release hl.sound hheld
        refine .after hrelease hl' ((Keeps.unwind hl'.sound (by simp)).congr fun o => ?_)
        simp
      | _ => exact .unwind hl.sound (by simp)
    · -- The exception is left over, and the closed runtime is the excuse.
      rw [Keeps, perform_bind, hrun]
      refine ⟨by simp, holds v, Holds.nonneg v, .inr ⟨rfl, i, hclosed⟩, hl.congr fun o => ?_⟩
      simp

/-- Arguments come with references of their own, also when one of them
cannot be passed. -/
theorem perform_toVariants (hs : w.Sound good) (i : Nat) (done : List Variant) (args : List Value) :
    ∃ vs complete w', perform (toVariants i done args) w = (.ok (vs, complete), w') ∧
      w.Leads good (holds vs - holds done) w' := by
  -- The variants made so far are part of the answer in any case.
  induction args generalizing done w with
  | nil => exact ⟨_, _, w, rfl, (World.Leads.refl hs).congr fun o => by simp⟩
  | cons v rest ih =>
    obtain ⟨r, w₁, hrun₁, hl₁⟩ := perform_toVariant hs i v
    unfold toVariants
    rw [perform_bind_ok hrun₁]
    cases r with
    | some x =>
      obtain ⟨vs, complete, w', hrun, hl⟩ := ih hl₁.sound (x :: done)
      refine ⟨vs, complete, w', hrun, (hl₁.trans hl).congr fun o => ?_⟩
      simp only [holds_some, holds_cons, Pi.add_apply, Pi.sub_apply]
      omega
    | none => exact ⟨_, _, w₁, rfl, hl₁.congr fun o => by simp⟩

/-! ### Requests of scripts -/

instance : Holds Reply := .nothing _

instance : Holds Script.Outcome := .nothing _

/-- Values of scripts hold no references, if there is one. -/
theorem holds_value? (x : Option Value) : holds x = 0 := by cases x <;> rfl

/-- A reply holds nothing. -/
@[simp] theorem holds_reply (r : Reply) : holds r = 0 := rfl
/-- Nor does the outcome of a run. -/
@[simp] theorem holds_outcome (o : Script.Outcome) : holds o = 0 := rfl

/-- A slot without an exception holds nothing. -/
theorem holds_of_not_pending {slot : Slot} (h : ¬ pending slot) : holds slot = 0 :=
  Proxy.holds_of_not_pending (Bool.eq_false_iff.mpr h)

variable {p : Proxy}

/-- The answer of native code as a value, after which the answer is given
back. -/
theorem keeps_reply {v : Variant} (hs : w.Sound good) (hi : i < w.runtimes.size)
    (hv : ∀ o, holds v o ≤ w.outside o) :
    Keeps good (cleanly (do return Reply.value (← toValue i v)) (releaseVariant (.script i) v))
      (holds v) w := by
  have hvalue : Keeps good (do return Reply.value (← toValue i v) : M β Reply) 0 w :=
    (keeps_toValue hs hi (World.lends_of_holds hv)).next hs fun x w' _ hl _ =>
      .pure_nothing hl.sound rfl
  exact hvalue.releasing _ hv

/-- Asking for the names of the members keeps the books. -/
theorem keeps_serveKeys (hs : w.Sound good) (hi : i < w.runtimes.size) :
    Keeps good (serveKeys i p) 0 w := by
  unfold serveKeys
  refine (p.keeps_propertyNames hs).next hs fun x w₁ hrun hl hx => ?_
  obtain ⟨names, slot⟩ := x
  dsimp only
  split
  case isTrue hpending =>
    have hnames := Proxy.none_of_propertyNames hrun hpending
    subst hnames
    rw [holds_pair, holds_none, zero_add] at hx ⊢
    exact keeps_throwPending hl.sound (hl.grows.lt hi) hx
  case isFalse hpending =>
    rw [holds_pair, holds_of_not_pending hpending, add_zero] at hx ⊢
    have heq : holds names = holds (names.getD []) := by cases names <;> rfl
    rw [heq] at hx ⊢
    obtain ⟨w₂, hrelease, hl₂⟩ := perform_releaseAll (.script i) hl.sound hx
    exact .after hrelease hl₂ ((Keeps.pure_nothing hl₂.sound rfl).congr fun o => by simp)

/-- Whether there is a member is said without touching references. -/
theorem quietly_serveHas (p : Proxy) (key : Bytes) : Quietly (serveHas p key : M β Bool) := by
  intro w
  obtain ⟨method, w₁, hmethod, halike₁⟩ := p.perform_hasMethod key (some {}) w
  unfold serveHas
  rw [perform_bind_ok hmethod]
  cases method with
  | true => exact ⟨true, w₁, rfl, halike₁⟩
  | false =>
    obtain ⟨property, w₂, hproperty, halike₂⟩ := p.perform_hasProperty key (some {}) w₁
    exact ⟨property, w₂, perform_bind_ok hproperty _, halike₁.trans halike₂⟩

/-- A request is for a proxy of a runtime's, or for nothing. -/
theorem keeps_requested [Holds α] {f : Proxy → M β α} (hs : w.Sound good) (ref : ObjectRef)
    (hf : ∀ p : Proxy, w.Scripted p.context → Keeps good (f p) 0 w) :
    Keeps good (requested ref >>= f) 0 w := by
  -- Only a proxy that is there is found. Anything else is a fault, which changes nothing.
  have hfault (h : perform (requested ref) w = (.error .fault, w)) :
      Keeps good (requested ref >>= f) 0 w := by
    rw [Keeps, perform_bind, h]
    exact .of_leads (by simp) (.refl hs)
  cases ref with
  | table j => exact hfault rfl
  | handle j => exact hfault rfl
  | proxy j =>
    cases hj : w.proxies[j]? with
    | some x =>
      have hfound : perform (requested (.proxy j)) w = (.ok x, w) := by
        unfold requested
        rw [perform_bind_ok (perform_get w), hj]
        rfl
      exact .after hfound (.refl hs) ((hf x (hs.contexts j x hj)).congr fun o => by simp)
    | none =>
      refine hfault ?_
      unfold requested
      rw [perform_bind_ok (perform_get w), hj]
      rfl

section

variable [Native β]

/-- Reading a name keeps the books. -/
theorem keeps_serveGet (hn : Native.Honours good) (hops : ops.Honest good) (hs : w.Sound good)
    (hi : i < w.runtimes.size) (hctx : w.Scripted p.context) (ref : ObjectRef) (key : String) :
    Keeps good (serveGet ops i ref p key) 0 w := by
  obtain ⟨method, w₁, hmethod, halike₁⟩ := p.perform_hasMethod (.ofString key) (some {}) w
  have hl₁ := halike₁.leads hs
  unfold serveGet
  refine .after hmethod hl₁ ?_
  cases method with
  | true =>
    refine .get_bind ?_
    exact .quiet_bind hl₁.sound (quietly_withHeap _) fun _ _ _ hs' => .pure_nothing hs' rfl
  | false =>
    obtain ⟨property, w₂, hproperty, halike₂⟩ := p.perform_hasProperty (.ofString key) (some {}) w₁
    have hl₂ := halike₂.leads hl₁.sound
    refine .after hproperty hl₂ ?_
    rw [add_zero, add_zero]
    cases property with
    | false => exact .pure_nothing hl₂.sound rfl
    | true =>
      have hctx₂ := hl₂.grows.scripted (hl₁.grows.scripted hctx)
      refine (Proxy.keeps_getProperty hn hops hl₂.sound hctx₂ _).next hl₂.sound
        fun x w₃ hrun hl hx => ?_
      obtain ⟨v, slot⟩ := x
      have hi₃ : i < w₃.runtimes.size := by rwa [hl.grows.size, hl₂.grows.size, hl₁.grows.size]
      dsimp only
      split
      case isTrue hpending =>
        -- There is an exception, and then there is no answer.
        have hv := Proxy.void_of_getProperty hrun hpending
        subst hv
        rw [holds_pair, holds_void, zero_add] at hx ⊢
        exact keeps_throwPending hl.sound hi₃ hx
      case isFalse hpending =>
        rw [holds_pair, holds_of_not_pending hpending, add_zero] at hx ⊢
        exact keeps_reply hl.sound hi₃ hx

/-- Writing a name keeps the books, and the value is given back. -/
theorem keeps_serveSet (hn : Native.Honours good) (hops : ops.Honest good) (hs : w.Sound good)
    (hi : i < w.runtimes.size) (hctx : w.Scripted p.context) (key : String) (v : Value) :
    Keeps good (serveSet ops i p key v) 0 w := by
  obtain ⟨r, w₁, hrun, hl⟩ := perform_toVariant hs i v
  unfold serveSet
  refine .after hrun hl ?_
  rw [zero_add]
  cases r with
  | none => exact keeps_throwText hl.sound i _
  | some x =>
    have hx (o : ObjectRef) : holds x o ≤ w₁.outside o := by
      have := hs.covered o
      rw [hl.outside, holds_some]
      omega
    have hi₁ : i < w₁.runtimes.size := hl.grows.lt hi
    -- The proxy takes what it keeps of the value, so the reference taken for the call goes back.
    have hset : Keeps good (do
        let slot ← p.setProperty ops (.ofText key) x (some {})
        if pending slot then throwPending i slot else return Reply.value .undefined) 0 w₁ := by
      refine (Proxy.keeps_setProperty hn hops hl.sound (hl.grows.scripted hctx) _
        (World.lends_of_holds hx)).next hl.sound fun slot w₂ _ hl₂ hslot => ?_
      split
      case isTrue => exact keeps_throwPending hl₂.sound (hl₂.grows.lt hi₁) hslot
      case isFalse hpending =>
        rw [holds_of_not_pending hpending]
        exact .pure_nothing hl₂.sound rfl
    exact hset.releasing _ hx

/-- Calling or constructing keeps the books. The arguments are given back
however the call ends, and also when one of them could not be passed. -/
theorem keeps_serveCall (hn : Native.Honours good) (hops : ops.Honest good) (hs : w.Sound good)
    (hi : i < w.runtimes.size) (hctx : w.Scripted p.context) {method : Variant}
    (hmethod : method = .void ∨ ∃ name, method = .string name) (args : List Value) :
    Keeps good (serveCall ops i p method args) 0 w := by
  obtain ⟨vs, complete, w₁, hrun, hl⟩ := perform_toVariants hs i [] args
  -- The arguments are on loan during the call, and so are their references.
  have hvs (o : ObjectRef) : holds vs o ≤ w₁.outside o := by
    have := hs.covered o
    rw [hl.outside, Pi.sub_apply, holds_nil, Pi.zero_apply]
    omega
  have hlends : ∀ v ∈ vs, w₁.Lends v := fun v hv => World.lends_of_holds fun o =>
    Int.le_trans (holds_le_of_mem hv o) (hvs o)
  have hi₁ : i < w₁.runtimes.size := hl.grows.lt hi
  unfold serveCall
  refine .after hrun hl (Keeps.congr (.releasingAll ?_ _ hvs) fun o => by simp)
  dsimp only
  split
  case isTrue => exact keeps_throwText hl.sound i _
  case isFalse =>
    refine (Proxy.keeps_call hn hops hl.sound (hl.grows.scripted hctx) hmethod hlends).next hl.sound
      fun x w₂ _ hl₂ hx => ?_
    obtain ⟨result, slot⟩ := x
    have hi₂ : i < w₂.runtimes.size := hl₂.grows.lt hi₁
    have hboth (o : ObjectRef) : holds result o + holds slot o ≤ w₂.outside o := hx o
    have hresult (o : ObjectRef) : holds result o ≤ w₂.outside o := by
      have := hboth o
      have := Holds.nonneg slot o
      omega
    dsimp only
    -- What was thrown takes precedence: the result goes back, and the script sees the exception.
    split
    case isTrue =>
      obtain ⟨w₃, hrelease, hl₃⟩ := perform_releaseVariant (.script i) hl₂.sound hresult
      refine .after hrelease hl₃ ?_
      have hslot (o : ObjectRef) : holds slot o ≤ w₃.outside o := by
        have := hboth o
        rw [hl₃.outside, Pi.neg_apply]
        omega
      refine (keeps_throwPending hl₃.sound (hl₃.grows.lt hi₂) hslot).congr fun o => ?_
      simp
    case isFalse hpending =>
      rw [holds_pair, holds_of_not_pending hpending, add_zero]
      exact keeps_reply hl₂.sound hi₂ hresult

/-- Whatever a script asks for, and whatever becomes of it, the books are
kept. -/
theorem keeps_serve (hn : Native.Honours good) (hops : ops.Honest good) (hs : w.Sound good)
    (hi : i < w.runtimes.size) (q : Script.Request) : Keeps good (serve ops i q) 0 w := by
  unfold serve
  cases q with
  | get ref key => exact keeps_requested hs ref fun p hctx =>
      keeps_serveGet hn hops hs hi hctx ref key
  | set ref key v =>
    exact keeps_requested hs ref fun p hctx => keeps_serveSet hn hops hs hi hctx key v
  | has ref key =>
    exact keeps_requested hs ref fun p _ => .quiet_bind hs (quietly_serveHas p _) fun _ _ _ hs' =>
      .pure_nothing hs' rfl
  | keys ref => exact keeps_requested hs ref fun p _ => keeps_serveKeys hs hi
  | call ref method args =>
    exact keeps_requested hs ref fun p hctx =>
      keeps_serveCall hn hops hs hi hctx (.inr ⟨_, rfl⟩) args
  | construct ref args =>
    exact keeps_requested hs ref fun p hctx => keeps_serveCall hn hops hs hi hctx (.inl rfl) args
  | log level message =>
    exact .quiet_bind hs (quietly_modifyRuntime i fun _ => rfl) fun _ _ _ hs' =>
      .pure_nothing hs' rfl

/-! ### Running scripts -/

/-- A run of a script keeps the books, request by request. What a request
throws goes on into the script; whatever else unwinds it ends the run. -/
theorem keeps_drive (hn : Native.Honours good) (hops : ops.Honest good) (hs : w.Sound good)
    (hi : i < w.runtimes.size) (rounds : Nat) (m : Machine) :
    Keeps good (drive ops i rounds m) 0 w := by
  -- By induction on the rounds: only requests touch the books, and there is
  -- one in each round.
  induction rounds generalizing m w with
  | zero => exact .unwind hs (by simp)
  | succ rounds ih =>
    unfold drive
    refine .get_bind ?_
    refine .quiet_bind hs (quietly_withHeap _) fun x w₁ halike₁ hs₁ => ?_
    obtain ⟨left, stop⟩ := x
    refine .quiet_bind hs₁ (quietly_modifyRuntime i fun _ => rfl) fun _ w₂ halike₂ hs₂ => ?_
    have hi₂ : i < w₂.runtimes.size := (halike₁.trans halike₂).lt hi
    cases stop with
    | spent => exact .unwind hs₂ (by simp)
    | done o => exact .pure_nothing hs₂ rfl
    | ask q stack depth =>
      refine .quiet_bind hs₂ (quietly_modifyRuntime i fun _ => rfl) fun _ w₃ halike₃ hs₃ => ?_
      have hi₃ : i < w₃.runtimes.size := halike₃.lt hi₂
      refine (keeps_serve hn hops hs₃ hi₃ q).caught_bind rfl fun r w₄ _ hr hl => ?_
      have hi₄ : i < w₄.runtimes.size := hl.grows.lt hi₃
      cases r with
      | ok reply => exact ih hl.sound hi₄ _
      | error u =>
        cases u with
        | thrown v => exact ih hl.sound hi₄ _
        | _ => exact .rethrow hl.sound hr

/-- Running the machine keeps the books. -/
theorem keeps_runMachine (hn : Native.Honours good) (hops : ops.Honest good) (hs : w.Sound good)
    (hi : i < w.runtimes.size) (steps : Nat) (m : Machine) :
    Keeps good (runMachine ops i steps m) 0 w := by
  unfold runMachine
  refine .get_bind ?_
  dsimp only
  split
  case isTrue =>
    exact (keeps_drive hn hops hs hi _ m).withCleanUp_quietly (quietly_modifyRuntime i fun _ => rfl)
  case isFalse =>
    refine .quiet_bind hs (quietly_modifyRuntime i fun _ => rfl) fun _ w₁ halike₁ hs₁ => ?_
    refine .quiet_bind hs₁ (quietly_withHeap _) fun _ w₂ halike₂ hs₂ => ?_
    have hi₂ : i < w₂.runtimes.size := (halike₁.trans halike₂).lt hi
    exact (keeps_drive hn hops hs₂ hi₂ _ m).withCleanUp_quietly
      (quietly_modifyRuntime i fun _ => rfl)

omit [Native β] in
/-- So does taking the value of its outcome. -/
theorem keeps_outcomeValue (hs : w.Sound good) (o : Script.Outcome) :
    Keeps good (outcomeValue o : M β _) 0 w := by
  cases o with
  | value v => exact .pure_nothing hs rfl
  | absent => exact .pure_nothing hs rfl
  | thrown v => exact .unwind hs (by simp)
  | overflow => exact .unwind hs (by simp)

/-- Running a machine for its value keeps the books. -/
theorem keeps_machineValue (hn : Native.Honours good) (hops : ops.Honest good) (hs : w.Sound good)
    (hi : i < w.runtimes.size) (steps : Nat) (m : Machine) :
    Keeps good (do outcomeValue (← runMachine ops i steps m)) 0 w :=
  (keeps_runMachine hn hops hs hi steps m).next hs fun o _ _ hl _ => keeps_outcomeValue hl.sound o

/-- Reading a property of a script's object keeps the books. -/
theorem keeps_fetch (hn : Native.Honours good) (hops : ops.Honest good) (hs : w.Sound good)
    (hi : i < w.runtimes.size) (o : Script.ObjId) (key : Key) :
    Keeps good (fetch ops i o key) 0 w :=
  .get_bind (keeps_machineValue hn hops hs hi _ _)

/-- So does writing one -/
theorem keeps_assign (hn : Native.Honours good) (hops : ops.Honest good) (hs : w.Sound good)
    (hi : i < w.runtimes.size) (o : Script.ObjId) (key : Key) (v : Value) :
    Keeps good (assign ops i o key v) 0 w := by
  refine .get_bind ?_
  refine (keeps_machineValue hn hops hs hi _ _).caught_bind rfl fun r w' _ hr hl => ?_
  cases r with
  | ok x =>
    rw [holds_ok, holds_value?]
    exact .pure_nothing hl.sound rfl
  | error u =>
    cases u with
    | misuse s => exact .rethrow hl.sound hr
    | fault => exact .rethrow hl.sound hr
    | _ => exact .pure_nothing hl.sound rfl

/-- Nothing that is the caller's fault is passed over by a store. -/
theorem not_misuse_of_assign {o : Script.ObjId} {key : Key} {v : Value} {u : Unwind}
    (h : perform (assign ops i o key v) w = (.ok (.error u), w')) (s : String) : u ≠ .misuse s := by
  unfold assign at h
  rw [perform_bind_ok (perform_get w), perform_bind_ok (perform_caught _ w)] at h
  split at h
  case h_1 => cases h
  case h_2 => cases h
  case h_3 => cases h
  case h_4 u' hmisuse _ _ =>
    cases h
    rintro rfl
    exact hmisuse s rfl

/-- and taking the text of a value. -/
theorem keeps_textOf (hn : Native.Honours good) (hops : ops.Honest good) (hs : w.Sound good)
    (hi : i < w.runtimes.size) (v : Value) : Keeps good (textOf ops i v) 0 w := by
  refine .get_bind ?_
  cases v with
  | symbol s => exact .pure_nothing hs rfl
  | _ =>
    refine (keeps_runMachine hn hops hs hi _ _).next hs fun o w₁ _ hl _ => ?_
    refine (keeps_outcomeValue hl.sound o).next hl.sound fun x w₂ _ hl₂ _ => ?_
    rw [holds_value?]
    split <;> exact .pure_nothing hl₂.sound rfl

/-! ### The operations of a host -/

/-- The host's check keeps the books. -/
theorem keeps_hasProperty (hn : Native.Honours good) (hops : ops.Honest good) (hs : w.Sound good)
    (hi : i < w.runtimes.size) (o : ObjectRef) (id : Identifier) :
    Keeps good (hasProperty ops i o id) 0 w := by
  refine .get_bind ?_
  cases o with
  | table j => exact .pure_nothing hs rfl
  | handle j =>
    refine (keeps_fetch hn hops hs hi _ _).next hs fun x w' _ hl _ => ?_
    rw [holds_value?]
    exact .pure_nothing hl.sound rfl
  | proxy j =>
    obtain ⟨b, w', hrun, halike⟩ := (w.proxy j).perform_hasProperty id.text (some {}) w
    have hl := halike.leads hs
    exact .after hrun hl ((Keeps.pure_nothing hl.sound rfl).congr fun o => by simp)

omit [Native β] in
/-- What a request's exception carries is abandoned, and the world takes
note of it. -/
theorem perform_abandon {slot : Slot} (hs : w.Sound good)
    (hslot : ∀ o, holds slot o ≤ w.outside o) :
    ∃ w', perform (abandon slot) w = (.ok (), w') ∧ w.Leads good (-holds slot) w' := by
  rw [holds_slot] at hslot ⊢
  unfold abandon
  generalize (slot.getD {}).value = v at hslot ⊢
  cases v with
  | object o => exact ⟨_, rfl, leads_abandon hs (World.lends_of_holds hslot o rfl)⟩
  | _ => exact ⟨w, rfl, (World.Leads.refl hs).congr fun o => by rfl⟩

/-- Reading a property for native code keeps the books, except that what
the property throws is abandoned. -/
theorem keeps_getProperty (hn : Native.Honours good) (hops : ops.Honest good) (hs : w.Sound good)
    (hi : i < w.runtimes.size) {o : ObjectRef} (ho : 1 ≤ w.outside o) (id : Identifier) :
    Keeps good (getProperty ops i o id) 0 w := by
  refine .get_bind ?_
  cases o with
  | table j => exact .pure_nothing hs rfl
  | handle j =>
    refine (keeps_fetch hn hops hs hi _ _).next hs fun x w₁ _ hl _ => ?_
    rw [holds_value?]
    cases x with
    | none => exact .pure_nothing hl.sound rfl
    | some v =>
      obtain ⟨r, w₂, hrun, hl₂⟩ := perform_toVariant hl.sound i v
      exact .of_ok hrun (hl₂.congr fun o => by simp)
  | proxy j =>
    have hctx := hs.scripted (World.has_of_outside ho)
    refine (Proxy.keeps_getProperty hn hops hs hctx _).next hs fun x w₁ _ hl hx => ?_
    obtain ⟨v, slot⟩ := x
    have hboth (o : ObjectRef) : holds v o + holds slot o ≤ w₁.outside o := hx o
    dsimp only
    split
    -- What the getter threw has no script to go to and is abandoned.
    case isTrue =>
      have hv (o : ObjectRef) : holds v o ≤ w₁.outside o := by
        have := hboth o
        have := Holds.nonneg slot o
        omega
      obtain ⟨w₂, hrelease, hl₂⟩ := perform_releaseVariant (.script i) hl.sound hv
      have hslot (o : ObjectRef) : holds slot o ≤ w₂.outside o := by
        have := hboth o
        rw [hl₂.outside, Pi.neg_apply]
        omega
      obtain ⟨w₃, habandon, hl₃⟩ := perform_abandon hl₂.sound hslot
      refine .after hrelease hl₂ (.after habandon hl₃ ?_)
      exact (Keeps.pure_nothing hl₃.sound rfl).congr fun o => by simp
    case isFalse hpending =>
      rw [holds_pair, holds_of_not_pending hpending, add_zero]
      exact .pure hl.sound (some v)

/-- So does its write. -/
theorem keeps_setProperty (hn : Native.Honours good) (hops : ops.Honest good) (hs : w.Sound good)
    (hi : i < w.runtimes.size) {o : ObjectRef} (ho : 1 ≤ w.outside o) (id : Identifier)
    {v : Variant} (hv : w.Lends v) : Keeps good (setProperty ops i o id v) 0 w := by
  refine .get_bind ?_
  cases o with
  | table j => exact .pure_nothing hs rfl
  | handle j =>
    refine (keeps_toValue hs hi hv).next hs fun x w₁ _ hl _ => ?_
    have hi₁ : i < w₁.runtimes.size := hl.grows.lt hi
    refine (keeps_assign hn hops hl.sound hi₁ _ _ x).next hl.sound fun r w₂ _ hl₂ _ => ?_
    have hr : holds r = 0 := by cases r <;> rfl
    rw [hr]
    exact .pure_nothing hl₂.sound rfl
  | proxy j =>
    have hctx := hs.scripted (World.has_of_outside ho)
    refine (Proxy.keeps_setProperty hn hops hs hctx _ hv).next hs fun slot w₁ _ hl hslot => ?_
    obtain ⟨w₂, habandon, hl₂⟩ := perform_abandon hl.sound hslot
    exact .after habandon hl₂ ((Keeps.pure_nothing hl₂.sound rfl).congr fun o => by simp)

/-- Running a program keeps the books. -/
theorem keeps_runProgram (hn : Native.Honours good) (hops : ops.Honest good) (hs : w.Sound good)
    (hi : i < w.runtimes.size) (program : Script.Program) (steps : Nat) :
    Keeps good (runProgram ops i program steps) 0 w := by
  refine .get_bind ?_
  dsimp only
  split
  case isTrue => exact .unwind hs (by simp)
  case isFalse =>
    refine .quiet_bind hs (quietly_withHeap _) fun m w₁ halike hs₁ => ?_
    have hi₁ : i < w₁.runtimes.size := halike.lt hi
    exact (keeps_runMachine hn hops hs₁ hi₁ steps m).withCleanUp_quietly (quietly_withHeap _)

/-- So does evaluating a script. -/
theorem keeps_evaluate (hn : Native.Honours good) (hops : ops.Honest good) (hs : w.Sound good)
    (hi : i < w.runtimes.size) (scope : Option ObjectRef) (script : Bytes) :
    Keeps good (evaluate ops i scope script) 0 w := by
  refine .get_bind ?_
  dsimp only
  split
  case isTrue => exact .pure_nothing hs rfl
  case isFalse =>
    split
    case h_1 => exact .pure_nothing hs rfl
    case h_2 program _ =>
      -- What the script throws is dropped here, and only faults of the host go on.
      refine (keeps_runProgram hn hops hs hi program mostSteps).caught_bind rfl fun r w₁ _ hr hl =>
        ?_
      cases r with
      | ok o =>
        cases o with
        | value v =>
          obtain ⟨x, w₂, hrun, hl₂⟩ := perform_toVariant hl.sound i v
          exact .of_ok hrun (hl₂.congr fun o => by simp)
        | absent => exact .pure_nothing hl.sound rfl
        | thrown v => exact .pure_nothing hl.sound rfl
        | overflow => exact .pure_nothing hl.sound rfl
      | error u =>
        cases u with
        | misuse s => exact .rethrow hl.sound hr
        | fault => exact .rethrow hl.sound hr
        | _ => exact .pure_nothing hl.sound rfl

end

end ObjectBridge.ScriptHost

namespace ObjectBridge

variable {β : Type} {good : Roles β} [Native β]

/-- Hosts are honest, however deep calls nest. -/
theorem honest_hostOps (hn : Native.Honours good) (level : Nat) :
    (hostOps level : HostOps β).Honest good := by
  induction level with
  | zero =>
    exact {
      hasProperty := fun _ _ _ _ hs _ _ => .unwind hs (by simp)
      getProperty := fun _ _ _ _ hs _ _ => .unwind hs (by simp)
      setProperty := fun _ _ _ _ _ hs _ _ _ => .unwind hs (by simp)
      evaluate := fun _ _ _ _ hs _ => .unwind hs (by simp) }
  | succ level ih =>
    -- Native code that is called by the host is handed the level below.
    exact {
      hasProperty := fun _ _ o id hs hi _ => ScriptHost.keeps_hasProperty hn ih hs hi o id
      getProperty := fun _ _ _ id hs hi ho => ScriptHost.keeps_getProperty hn ih hs hi ho id
      setProperty := fun _ _ _ id _ hs hi ho hv => ScriptHost.keeps_setProperty hn ih hs hi ho id hv
      evaluate := fun _ _ scope script hs hi => ScriptHost.keeps_evaluate hn ih hs hi scope script }

end ObjectBridge

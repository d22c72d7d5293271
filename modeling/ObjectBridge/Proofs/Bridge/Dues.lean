import ObjectBridge.Proofs.Bridge.Contract
import ObjectBridge.Proofs.Bridge.Custody

/-!
# `ObjectBridge.Proofs.Bridge.Dues`: what an operation brings its caller

Native code that runs on the in-memory host may hold references and bytes
while it runs. What its caller is left with shows in the dues
(`World.due`): the references to an object, apart from those the host has
lost, and the bytes given out. `w.Accrues T n w'` says that in `w'`
there is `n` more due than in `w`. It adds up along an operation, and
`Brings T act n w` says it of an operation that comes to a result.

A native object that is read answers with code of its own. `Terms` say
which getters there are and whether any of them throws objects, and
`Terms.Met` that they hand over what they answer or throw and keep nothing
else. An object that a getter throws at the in-memory host is lost: it is
counted, but no longer due.
-/

set_option autoImplicit false

namespace ObjectBridge

open World (Moves Stays)

variable {α β γ : Type} {w w₁ w' w'' : World β}

/-! ### Dues -/

/-- The terms on which native code is called: which getters there are, and
whether objects may be thrown at the host. -/
structure Terms (β : Type) where
  getters : β → Prop
  lossy : Prop

variable {T : Terms β} {n m : Account → Int}

namespace World

/-- The references to an object that the host has lost. -/
def lost (w : World β) : Account → Int
  | .refs o => w.abandoned.count o
  | .bytes => 0

/-- The references and bytes that somebody is due. -/
def due (w : World β) (a : Account) : Int := w.balance a - w.lost a

/-- What native code finds: the global object and what slots refer to is
there, nothing is registered in place of an empty array, and the getters are
those of the terms. -/
structure Orderly (T : Terms β) (w : World β) : Prop where
  window : w.has (.table w.memory.window)
  evaluates : w.memory.scripts.find? MemoryHost.emptyArray = none
  slots : ∀ i, ∀ v ∈ (w.table i).slots, w.Present v
  getters : ∀ n c name p code, w.graph.class? n = some c → c.property? name = some p →
    p.get = some code → T.getters code

/-- There is `n` more due. -/
structure Accrues (T : Terms β) (w : World β) (n : Account → Int) (w' : World β) : Prop where
  stays : w.Stays w'
  contexts : ∀ p, w.has (.proxy p) → (w'.proxy p).context = (w.proxy p).context
  orderly : w.Orderly T → w'.Orderly T
  due : ∀ a, w'.due a = w.due a + n a
  abandoned : ¬T.lossy → w'.abandoned = w.abandoned

/-- Where nothing happens nothing more is due. -/
theorem Accrues.refl (w : World β) : w.Accrues T 0 w :=
  ⟨.refl w, fun _ _ => rfl, id, fun _ => (Int.add_zero _).symm, fun _ => rfl⟩

/-- What is due after one another adds up. -/
theorem Accrues.trans (h : w.Accrues T n w') (h' : w'.Accrues T m w'') :
    w.Accrues T (n + m) w'' where
  stays := h.stays.trans h'.stays
  contexts p hp := (h'.contexts p (h.stays.has _ hp)).trans (h.contexts p hp)
  orderly := h'.orderly ∘ h.orderly
  due a := by rw [h'.due, h.due, Pi.add_apply, Int.add_assoc]
  abandoned hterms := (h'.abandoned hterms).trans (h.abandoned hterms)

/-- What has become due may be written in another way. -/
theorem Accrues.congr (h : w.Accrues T n w') (hn : ∀ a, n a = m a) : w.Accrues T m w' :=
  funext hn ▸ h

/-- Variants are held: there are as many references due as they have. -/
def Covers (w : World β) (vs : List Variant) : Prop := ∀ o, charges vs (.refs o) ≤ w.due (.refs o)

/-- Nothing is always covered. -/
theorem Covers.nil {vs : List Variant} (h : w.Covers vs) : w.Covers [] := fun o =>
  Int.le_trans (charges_nonneg vs _) (h o)

/-- Who holds something still holds it when more is due. -/
theorem Accrues.covers {vs vs' : List Variant} (ha : w.Accrues T n w') (h : w.Covers vs)
    (hn : ∀ o, charges vs' (.refs o) ≤ charges vs (.refs o) + n (.refs o)) : w'.Covers vs' := by
  intro o
  have := h o
  have := hn o
  rw [ha.due]
  omega

/-- What is due to somebody can be given back. -/
theorem Covers.refs {vs : List Variant} {o : ObjectRef} (h : w.Covers vs) (hv : .object o ∈ vs) :
    1 ≤ w.refs o := by
  have hone := Variant.charge_object_self o
  have hmem := charge_le_charges hv (.refs o)
  have hdue : w.due (.refs o) = w.refs o - w.abandoned.count o := rfl
  have := h o
  omega

/-- What is lent is due, when slots have come to refer to nothing else and
are charged with nothing more. -/
theorem Trades.accrues (h : w.Trades n w')
    (hcontexts : ∀ p, w.has (.proxy p) → (w'.proxy p).context = (w.proxy p).context)
    (hgraph : w'.graph = w.graph) (habandoned : w'.abandoned = w.abandoned)
    (hcharges : ∀ a, charges w'.slots a = charges w.slots a)
    (hslots : ∀ i, ∀ v ∈ (w'.table i).slots, v ∈ (w.table i).slots ∨ ∀ o, v ≠ .object o) :
    w.Accrues T n w' where
  stays := h.stays
  contexts := hcontexts
  orderly hw := {
    window := h.stays.window ▸ h.stays.has _ hw.window
    evaluates := h.stays.scripts ▸ hw.evaluates
    slots := fun i v hv => by
      rcases hslots i v hv with hold | hplain
      · exact (hw.slots i v hold).stays h.stays
      · exact fun o ho => absurd ho (hplain o)
    getters := hgraph ▸ hw.getters }
  due a := by
    have hlost : w'.lost a = w.lost a := by cases a <;> simp only [lost, habandoned]
    have hlent : w'.balance a - charges w'.slots a = w.balance a - charges w.slots a + n a :=
      h.lent a
    have := hcharges a
    rw [World.due, World.due, hlost]
    omega
  abandoned _ := habandoned

/-- What is moved is due. -/
theorem Moves.accrues (h : w.Moves n w') {k : ObjectRef → Int} (hr : w.Recounts k w') :
    w.Accrues T n w' := by
  refine h.trades.accrues (fun p hp => ?_) hr.graph hr.abandoned (fun a => by rw [h.slots_eq])
    fun i v hv => .inl ?_
  -- A proxy whose count moves keeps its context.
  · have hp' : p < w'.proxies.size := of_decide_eq_true (h.stays.has _ hp)
    obtain ⟨y, hy, hcontext⟩ := hr.contexts p _ (Array.getElem?_eq_getElem hp')
    rw [proxy, proxy, Array.getD_eq_getD_getElem?, Array.getD_eq_getD_getElem?,
      Array.getElem?_eq_getElem hp', hy]
    exact hcontext.symm
  · exact Table.slots_congr (h.contents_eq i) ▸ hv

/-- Between worlds with the same books nothing has become due. -/
theorem Alike.accrues (h : w.Alike w') (hmemory : w'.memory.window = w.memory.window ∧
    w'.memory.scripts = w.memory.scripts ∧ w'.memory.allocated = w.memory.allocated) :
    w.Accrues T 0 w' :=
  (Moves.of_eq h.tables h.proxies h.handles hmemory).accrues h.recounts

end World

/-! ### Operations that come to a result -/

/-- An operation comes to a result, and brings its caller what the result
is charged with. -/
def Brings (T : Terms β) (act : M β α) (n : α → Account → Int) (w : World β) : Prop :=
  ∃ x w', perform act w = (.ok x, w') ∧ w.Accrues T (n x) w'

namespace Brings

variable {act : M β α} {f : α → M β γ} {k : α → Account → Int} {l : γ → Account → Int}

/-- What an operation brings may be written in another way. -/
theorem congr {k' : α → Account → Int} (h : Brings T act k w) (hk : ∀ x a, k x a = k' x a) :
    Brings T act k' w :=
  funext (fun x => funext (hk x)) ▸ h

/-- Giving back a value brings nothing. -/
theorem pure {x : α} (hk : ∀ a, k x a = 0) : Brings T (pure x : M β α) k w :=
  ⟨x, w, rfl, (World.Accrues.refl w).congr fun a => (hk a).symm⟩

/-- What comes next brings the rest. -/
theorem bind (h : Brings T act k w) (hf : ∀ x w', perform act w = (.ok x, w') →
    w.Accrues T (k x) w' → Brings T (f x) (fun y => l y - k x) w') : Brings T (act >>= f) l w := by
  obtain ⟨x, w₁, hrun, hfirst⟩ := h
  obtain ⟨y, w', hrest, hthen⟩ := hf x w₁ hrun hfirst
  refine ⟨y, w', (perform_bind_ok hrun f).trans hrest, (hfirst.trans hthen).congr fun a => ?_⟩
  simp only [Pi.add_apply, Pi.sub_apply]
  omega

/-- An operation that brings nothing comes before another one. -/
theorem next (h : Brings T act (fun _ => 0) w)
    (hf : ∀ x w', perform act w = (.ok x, w') → w.Accrues T 0 w' → Brings T (f x) l w') :
    Brings T (act >>= f) l w :=
  h.bind fun x w' hrun ha => (hf x w' hrun ha).congr fun y a => by simp

/-- Changing what is neither counted nor code. -/
theorem modify {f : World β → World β} (hf : w.Alike (f w))
    (hmemory : (f w).memory.window = w.memory.window ∧ (f w).memory.scripts = w.memory.scripts ∧
      (f w).memory.allocated = w.memory.allocated) :
    Brings T (modify f : M β PUnit) (fun _ => 0) w :=
  ⟨⟨⟩, f w, rfl, hf.accrues hmemory⟩

/-- Reading the world brings nothing. -/
theorem read {f : World β → M β γ} (h : Brings T (f w) l w) : Brings T (get >>= f) l w := h

/-- The clean-up gives back what was put aside for it. -/
theorem cleanly {cleanUp : M β Unit} {c : Account → Int} (h : Brings T act k w)
    (hc : ∀ x w', w.Accrues T (k x) w' → Brings T cleanUp (fun _ => -c) w') :
    Brings T (cleanly act cleanUp) (fun x => k x - c) w := by
  obtain ⟨x, w₁, hrun, ha⟩ := h
  obtain ⟨_, w', hclean, hback⟩ := hc x w₁ ha
  refine ⟨x, w', ?_, (ha.trans hback).congr fun a => by simp [Int.sub_eq_add_neg]⟩
  rw [perform_cleanly, hrun, hclean]

end Brings

/-! ### Primitives -/

/-- Only strings and objects hold something. -/
theorem Variant.charge_plain {v : Variant} (hstring : ∀ bytes, v ≠ .string bytes)
    (hobject : ∀ o, v ≠ .object o) (a : Account) : v.charge a = 0 := by
  cases v with
  | string bytes => exact absurd rfl (hstring bytes)
  | object o => exact absurd rfl (hobject o)
  | _ => cases a <;> rfl

/-- Counting a call brings nothing. -/
theorem brings_countCall (name : String) : Brings T (countCall name) (fun _ => 0) w :=
  .modify ⟨rfl, rfl, rfl, rfl, rfl, rfl⟩ ⟨rfl, rfl, rfl⟩

/-- Nor do the recorders, -/
theorem brings_withRecorder (recorder : Option Nat) (f : Recorder → Recorder) :
    Brings T (withRecorder recorder f) (fun _ => 0) w := by
  cases recorder with
  | none => exact .pure fun _ => rfl
  | some i => exact .modify ⟨rfl, rfl, rfl, rfl, rfl, rfl⟩ ⟨rfl, rfl, rfl⟩

/-- metering -/
theorem brings_meter (ctx : Context) (event : Metrics → Metrics) :
    Brings T (meter ctx event) (fun _ => 0) w := by
  obtain ⟨metrics, hrun⟩ := perform_meter ctx event w
  exact ⟨(), _, hrun, (w.alike_metrics metrics).accrues ⟨rfl, rfl, rfl⟩⟩

/-- or noting the last error. -/
theorem brings_setLastError (ctx : Context) (message : Bytes) :
    Brings T (Proxy.setLastError ctx message) (fun _ => 0) w := by
  unfold Proxy.setLastError
  split
  · exact .next (.modify ⟨rfl, rfl, rfl, rfl, rfl, rfl⟩ ⟨rfl, rfl, rfl⟩) fun _ _ _ _ =>
      brings_meter ctx _
  · exact .pure fun _ => rfl

/-- Making the identifier of a name brings nothing. -/
theorem brings_stringIdentifier (name : Bytes) :
    Brings T (stringIdentifier .memory name) (fun _ => 0) w := by
  unfold stringIdentifier
  rw [if_pos rfl]
  exact (brings_countCall _).next fun _ _ _ _ => .pure fun _ => rfl

/-- Nor does making that of an index. -/
theorem brings_intIdentifier (index : Int32) :
    Brings T (intIdentifier .memory index) (fun _ => 0) w := by
  unfold intIdentifier
  rw [if_pos rfl]
  exact (brings_countCall _).next fun _ _ _ _ => .pure fun _ => rfl

/-- Retaining an object makes one more reference to it due. -/
theorem brings_retain {o : ObjectRef} (h : w.has o) :
    Brings T (retain o) (fun _ => (Variant.object o).charge) w :=
  ⟨(), _, perform_retain_eq o w,
    ((World.moves_recount h 1).accrues (World.recounts_recount h 1)).congr fun _ => Int.one_mul _⟩

/-- Releasing one that is held pays it back. -/
theorem brings_release {o : ObjectRef} (h : 1 ≤ w.refs o) :
    Brings T (release o) (fun _ => -(Variant.object o).charge) w := by
  obtain ⟨w', hrun, hmoves⟩ := perform_release_moves h
  obtain ⟨w₁, hrun₁, hcounts⟩ := perform_release_of_refs h
  -- One run, of which one lemma tells what moves, and the other one that the contexts stay.
  cases hrun.symm.trans hrun₁
  exact ⟨(), w', hrun, hmoves.accrues hcounts⟩

/-- An allocation that is granted makes its bytes due. -/
theorem brings_memAlloc (bytes : Bytes) :
    Brings T (memAlloc .memory bytes.length)
      (fun given => if given then (Variant.string bytes).charge else 0) w := by
  obtain ⟨given, w', hrun, hmoves⟩ := perform_memAlloc_memory bytes w
  obtain ⟨_, w₁, hrun₁, halike⟩ := quietly_memAlloc .memory bytes.length w
  cases hrun.symm.trans hrun₁
  exact ⟨given, w', hrun, hmoves.accrues halike.recounts⟩

/-- Freeing bytes pays them back. -/
theorem brings_memFree (bytes : Bytes) :
    Brings T (memFree .memory bytes.length) (fun _ => -(Variant.string bytes).charge) w := by
  refine (brings_countCall _).next fun _ w₁ _ _ => ?_
  have hbytes : w₁.memory.allocated - bytes.length = w₁.memory.allocated + -1 * bytes.length := by
    omega
  have hmoves := World.moves_bytes (w := w₁) bytes (d := -1) (by rw [← hbytes])
  have halike : w₁.Alike { w₁ with memory := { w₁.memory with allocated := w₁.memory.allocated -
      bytes.length } } :=
    ⟨rfl, rfl, rfl, rfl, rfl, rfl⟩
  exact ⟨(), _, rfl, (hmoves.accrues halike.recounts).congr fun a => by simp⟩

/-- What brings nothing, quietly, leaves the tables alone. -/
theorem perform_idle {act : M β α} (h : Brings T act (fun _ => 0) w) (hq : Quietly act) :
    ∃ x w', perform act w = (.ok x, w') ∧ w.Accrues T 0 w' ∧ w'.tables = w.tables := by
  obtain ⟨x, w', hrun, ha⟩ := h
  obtain ⟨_, _, hrun', halike⟩ := hq w
  cases hrun.symm.trans hrun'
  exact ⟨x, w', hrun, ha, halike.tables⟩

/-- Timing an operation brings nothing of its own. The recorder is not in
the way of what the operation says of its result and of the tables. -/
theorem perform_clocked_due (recorder : Option Nat) (key : Bytes) {act : M β α}
    {k : α → Account → Int} {P : α → World β → Prop}
    (hP : ∀ x u u', P x u → u'.tables = u.tables → P x u') (h : ∀ w₁, w.Accrues T 0 w₁ →
      w₁.tables = w.tables → ∃ x w₂, perform act w₁ = (.ok x, w₂) ∧
      w₁.Accrues T (k x) w₂ ∧ P x w₂) :
    ∃ x w', perform (do startTimer recorder key; cleanly act (stopTimer recorder key)) w =
      (.ok x, w') ∧ w.Accrues T (k x) w' ∧ P x w' := by
  -- The recorder is started and stopped around the operation, and neither brings anything.
  obtain ⟨_, w₁, hstart, ha₁, htables₁⟩ := perform_idle (T := T) (w := w)
    (brings_withRecorder recorder fun r => r.start key 0) (quietly_withRecorder _ _)
  obtain ⟨x, w₂, hrun, ha₂, hx⟩ := h w₁ ha₁ htables₁
  obtain ⟨_, w₃, hstop, ha₃, htables₃⟩ := perform_idle (T := T) (w := w₂)
    (brings_withRecorder recorder fun r => r.stop key 0) (quietly_withRecorder _ _)
  refine ⟨x, w₃, ?_, ((ha₁.trans ha₂).trans ha₃).congr fun a => by simp, hP x _ _ hx htables₃⟩
  rw [startTimer, perform_bind_ok hstart, perform_cleanly, hrun, stopTimer, hstop]

/-- Giving back what is held. -/
theorem brings_releaseVariant {v : Variant} (h : ∀ o, v = .object o → 1 ≤ w.refs o) :
    Brings T (releaseVariant .memory v) (fun _ => -v.charge) w := by
  unfold releaseVariant
  rw [if_pos rfl]
  refine (brings_countCall _).next fun _ w₁ hcount _ => ?_
  cases hcount
  cases v with
  | string bytes => exact brings_memFree bytes
  | object o => exact brings_release (h o rfl)
  | _ => exact .pure fun a => by rw [Pi.neg_apply, Variant.charge_plain (by simp) (by simp),
    Int.neg_zero]

/-- Releasing values that are covered pays all of them back. -/
theorem brings_releaseAll {vs : List Variant} (h : w.Covers vs) :
    Brings T (releaseAll .memory vs) (fun _ => -charges vs) w := by
  -- Giving back the first variant leaves enough due for the others.
  induction vs generalizing w with
  | nil => exact .pure fun _ => rfl
  | cons v rest ih =>
    have hfirst : Brings T (releaseVariant .memory v) (fun _ => -v.charge) w :=
      brings_releaseVariant fun o ho => h.refs (ho ▸ List.mem_cons_self)
    refine hfirst.bind fun _ w' _ ha => (ih (ha.covers h fun o => ?_)).congr fun _ a => ?_
    · rw [charges_cons, Pi.neg_apply]
      omega
    · simp only [Pi.neg_apply, Pi.sub_apply, charges_cons]
      omega

/-! ### Answers -/

/-- References, and no bytes. -/
def references (k : ObjectRef → Int) : Account → Int
  | .refs o => k o
  | .bytes => 0

/-- Nobody is due what nobody holds. -/
@[simp] theorem references_zero (a : Account) : references 0 a = 0 := by cases a <;> rfl

/-- What an exception carries is no string of the host's. -/
def Failure.charge (f : Failure) : Account → Int := references (holds f)

/-- A failure that holds nothing. -/
theorem Failure.charge_eq_zero {f : Failure} (h : holds f = 0) (a : Account) : f.charge a = 0 := by
  rw [charge, h, references_zero]

/-- A failure is never owed anything. -/
theorem Failure.charge_nonneg (f : Failure) (a : Account) : 0 ≤ f.charge a := by
  cases a with
  | refs o => exact Holds.nonneg f o
  | bytes => exact Int.le_refl 0

/-- A thrown object is charged as the object is. -/
theorem Failure.charge_thrown_object (o : ObjectRef) (a : Account) :
    (Failure.thrown (.object o)).charge a = (Variant.object o).charge a := by
  cases a <;> rfl

/-- What an answer hands over. -/
def handedCharge (c : α → Account → Int) : Except Failure α → Account → Int
  | .ok x => c x
  | .error f => f.charge

/-- A failure that holds nothing throws no object. -/
theorem Failure.thrown_ne_object {f : Failure} (h : holds f = 0) (o : ObjectRef) :
    f.thrown? ≠ some (.object o) := by
  intro hthrown
  rw [holds_failure, exceptionValue, hthrown] at h
  have hone := congrFun h o
  rw [holds_object, one, if_pos rfl] at hone
  exact Int.one_ne_zero hone

/-- A thrown object is given back. -/
theorem brings_dropThrown {f : Failure} (h : ∀ o, f.charge (.refs o) ≤ w.due (.refs o)) :
    Brings T (Proxy.dropThrown f) (fun _ => -f.charge) w := by
  unfold Proxy.dropThrown
  -- Only an object is given back. Of what else may be thrown, the failure holds nothing.
  cases hthrown : f.thrown? with
  | none =>
    have hnothing : holds f = 0 := by rw [holds_failure, Failure.exceptionValue, hthrown]; rfl
    exact .pure fun a => by rw [Pi.neg_apply, Failure.charge_eq_zero hnothing, Int.neg_zero]
  | some v =>
    have hvalue : holds f = holds v := by rw [holds_failure, Failure.exceptionValue, hthrown]
    cases v with
    | object o =>
      have hcharge (a : Account) : f.charge a = (Variant.object o).charge a := by
        rw [Failure.charge, hvalue]
        cases a <;> rfl
      have hheld : w.Covers [.object o] := fun x => by simpa [hcharge] using h x
      refine (brings_release (hheld.refs (List.mem_singleton_self _))).congr fun _ a => ?_
      rw [Pi.neg_apply, Pi.neg_apply, hcharge]
    | _ => exact .pure fun a => by rw [Pi.neg_apply, Failure.charge_eq_zero hvalue, Int.neg_zero]

/-- What is handed over is never owed anything. -/
theorem handedCharge_nonneg (r : Except Failure Variant) (a : Account) :
    0 ≤ handedCharge Variant.charge r a := by
  cases r with
  | ok v => exact v.charge_nonneg a
  | error f => exact f.charge_nonneg a

/-- Making a string brings the string that is handed over. -/
theorem brings_valueFromString (bytes : Bytes) :
    Brings T (valueFromString .memory bytes) (handedCharge Variant.charge) w := by
  unfold valueFromString
  split
  case isTrue hempty =>
    exact .pure fun a => by cases a <;> rfl
  case isFalse =>
    refine (brings_memAlloc bytes).bind fun given w' _ _ => ?_
    cases given with
    | true => exact .pure fun a => by simp [handedCharge]
    | false =>
      exact .pure fun a => by simp
        [handedCharge, Failure.charge_eq_zero (f := .allocation bytes.length) rfl]

/-- Making one of wide text does too. -/
theorem brings_valueFromWide (enc : WideEncoding) (units : List UInt32) :
    Brings T (valueFromWide .memory enc units) (handedCharge Variant.charge) w := by
  unfold valueFromWide
  split
  · exact brings_valueFromString _
  · exact .pure (Failure.charge_eq_zero rfl)

/-- Copying a value brings the copy that is handed over. -/
theorem brings_copyVariant {v : Variant} (hv : w.Present v) :
    Brings T (copyVariant .memory v) (handedCharge Variant.charge) w := by
  cases v with
  | string bytes => exact brings_valueFromString bytes
  | object o => exact (brings_retain (hv o rfl)).bind fun _ _ _ _ => .pure fun a => by simp
    [handedCharge]
  | _ => exact .pure fun a => Variant.charge_plain (by simp) (by simp) a

/-- So does copying one out, which never fails. -/
theorem brings_copyOut {v : Variant} (hv : w.Present v) :
    Brings T (MemoryHost.copyOut v) Variant.charge w := by
  cases v with
  | string bytes =>
    refine (brings_memAlloc bytes).bind fun given _ _ _ => ?_
    cases given <;> exact .pure fun a => by simp
  | object o => exact (brings_retain (hv o rfl)).bind fun _ _ _ _ => .pure fun a => by simp
  | _ => exact .pure fun a => Variant.charge_plain (by simp) (by simp) a

/-! ### Native objects -/

section

variable [Native β] {ops : HostOps β}

/-- The getters of the terms keep to them: they come to an answer, hand over
what they answer or throw, and leave no more behind. -/
structure Terms.Met (T : Terms β) (ops : HostOps β) : Prop where
  answers : ∀ code, T.getters code → ∀ (ctx : Context) (w : World β), ctx.host = .memory →
    w.Orderly T → w.Covers [] →
    Brings T (Native.call ops ctx code []) (handedCharge Variant.charge) w
  throws : ∀ code, T.getters code →
    ∀ (ctx : Context) (w w' : World β) (f : Failure) (o : ObjectRef),
    ctx.host = .memory → w.Orderly T → w.Covers [] →
    perform (Native.call ops ctx code []) w = (.ok (.error f), w') →
    f.thrown? = some (.object o) → T.lossy

omit [Native β] in
/-- A new proxy is due to whoever asked for it. -/
theorem brings_newProxy (ctx : Context) (node : NodeId) :
    Brings T (newProxy ctx node) (fun o => (Variant.object o).charge) w := by
  obtain ⟨metrics, hrun⟩ := perform_newProxy ctx node w
  refine ⟨_, _, hrun, ?_⟩
  -- The new proxy comes last, so whatever was there keeps its number.
  have hhas (o : ObjectRef) (ho : w.has o) : World.has
      { w with proxies := w.proxies.push { refs := { refs := 1 }, context := ctx, node }, metrics }
      o := by
    cases o with
    | proxy j =>
      exact decide_eq_true (by rw [Array.size_push]; exact Nat.lt_succ_of_lt (of_decide_eq_true ho))
    | _ => exact ho
  exact {
    stays := ⟨hhas, rfl, rfl⟩
    contexts := fun p hp => by
      have hlt : p < w.proxies.size := of_decide_eq_true hp
      simp only [World.proxy, Array.getD_eq_getD_getElem?, Array.getElem?_push_lt hlt,
        Array.getElem?_eq_getElem hlt]
    orderly := fun hw => ⟨hhas _ hw.window, hw.evaluates, fun i v hv o ho =>
      hhas o (hw.slots i v hv o ho), hw.getters⟩
    due := fun a => by
      have hbalance : World.balance
          { w with proxies := w.proxies.push { refs := { refs := 1 }, context := ctx,
                                               node }, metrics } a =
            w.balance a + (Variant.object (.proxy w.proxies.size)).charge a := by
        cases a with
        | bytes => exact (Int.add_zero _).symm
        | refs o => exact World.refs_pushProxy w _ metrics o
      show World.balance _ a - w.lost a =
          w.balance a - w.lost a + (Variant.object (.proxy w.proxies.size)).charge a
      rw [hbalance]
      omega
    abandoned := fun _ => rfl }

omit [Native β] in
/-- A getter that is found in an orderly world is one of the terms. -/
theorem World.Orderly.getter (h : w.Orderly T) {k : NodeId} {name : Bytes}
    {p : Property β} {code : β} (hp : w.graph.property? k name = some (.declared p))
    (hcode : p.get = some code) : T.getters code := by
  -- The property may be inherited: the getter belongs to the class of some node further down the
  -- chain.
  obtain ⟨k', _, hk⟩ := List.exists_of_findSome?_eq_some hp
  unfold Graph.ownProperty? at hk
  split at hk
  case h_1 q hq =>
    cases hk
    obtain ⟨c, hc, hdecl⟩ := Option.bind_eq_some_iff.mp hq
    exact h.getters k' c name p code hc hdecl hcode
  case h_2 =>
    obtain ⟨_, _, hchild⟩ := Option.map_eq_some_iff.mp hk
    cases hchild

/-- Whoever reads a property of a node is brought its value, or what the
getter throws. -/
theorem Node.perform_getProperty_due (hterms : T.Met ops) (hw : w.Orderly T) (hc : w.Covers [])
    {ctx : Context} (hctx : ctx.host = .memory) (k : NodeId) (name : Bytes) :
    ∃ r w', perform (Node.getProperty ops ctx k name) w = (.ok r, w') ∧
      w.Accrues T (handedCharge Variant.charge r) w' ∧
      ∀ f o, r = .error f → f.thrown? = some (.object o) → T.lossy := by
  unfold Node.getProperty
  rw [perform_bind_ok (perform_get w)]
  -- A property nobody has and one without a getter fail in the same way.
  have hunknown : ∃ r w',
      perform (Pure.pure (.error .unknownProperty) : M β (Except Failure Variant)) w = (.ok r, w') ∧
        w.Accrues T (handedCharge Variant.charge r) w' ∧
        ∀ f o, r = .error f → f.thrown? = some (.object o) → T.lossy := by
    have hnothing : w.Accrues T Failure.unknownProperty.charge w :=
      (World.Accrues.refl w).congr fun a => (Failure.charge_eq_zero rfl a).symm
    refine ⟨_, w, rfl, hnothing, fun f o hf hthrown => ?_⟩
    cases hf
    cases hthrown
  split
  case h_1 code set hp =>
    have hgood := hw.getter hp rfl
    obtain ⟨r, w', hrun, ha⟩ := hterms.answers code hgood ctx w hctx hw hc
    refine ⟨r, w', hrun, ha, fun f o hf hthrown => ?_⟩
    subst hf
    exact hterms.throws code hgood ctx w w' f o hctx hw hc hrun hthrown
  case h_2 => exact hunknown
  -- A child is handed over as a new proxy, and its reference goes to the caller.
  case h_3 c hp =>
    obtain ⟨o, w', hrun, ha⟩ := brings_newProxy (T := T) (w := w) ctx c
    exact ⟨.ok (.object o), w', perform_bind_ok hrun _, ha, nofun⟩
  case h_4 => exact hunknown

namespace Proxy

/-- What a request comes to that answers, or fails, with nothing pending. -/
def outcome : Except Failure Variant → Variant × Slot
  | .ok v => (v, some {})
  | .error f => (.void, some { pending := some f.exceptionValue })

/-- What the exception of a request holds. -/
def slotCharge (slot : Slot) : Account → Int := references (holds slot)

omit [Native β] in
/-- A slot is never owed anything. -/
theorem slotCharge_nonneg (slot : Slot) (a : Account) : 0 ≤ slotCharge slot a := by
  cases a with
  | refs o => exact Holds.nonneg slot o
  | bytes => exact Int.le_refl 0

omit [Native β] in
/-- A request without an exception holds nothing. -/
theorem slotCharge_of_not_pending {slot : Slot} (h : ¬(slot.getD {}).isPending = true)
    (a : Account) :
    slotCharge slot a = 0 := by
  have hnone : (slot.getD {}).pending = none := by simpa [ExceptionSlot.isPending] using h
  have hvalue : (slot.getD {}).value = .void := by rw [ExceptionSlot.value, hnone]; rfl
  rw [slotCharge, holds_slot, hvalue, holds_void, references_zero]

omit [Native β] in
/-- A thrown object goes into the slot. -/
theorem perform_answer_due (p : Proxy) (r : Except Failure Variant) (w : World β) :
    ∃ w', perform (p.answer (some {}) r) w = (.ok (outcome r), w') ∧ w.Accrues T 0 w' := by
  cases r with
  | ok v => exact ⟨w, rfl, .refl w⟩
  | error f =>
    obtain ⟨_, w', hrun, ha⟩ := brings_setLastError (T := T) (w := w) p.context f.describe
    refine ⟨w', ?_, ha⟩
    exact perform_bind_ok (perform_bind_ok hrun _) _

omit [Native β] in
/-- Measuring a request brings nothing of its own. -/
theorem perform_measured_due (p : Proxy) (operation : String) (name : Bytes) {act : M β α}
    {P : α → Prop} {k : α → Account → Int} (h : ∀ w₁, w.Accrues T 0 w₁ →
      ∃ x w', perform act w₁ = (.ok x, w') ∧ w₁.Accrues T (k x) w' ∧ P x) :
    ∃ x w', perform (p.measured operation name act) w = (.ok x, w') ∧
      w.Accrues T (k x) w' ∧ P x := by
  unfold measured
  rw [perform_bind_ok (perform_get w)]
  exact perform_clocked_due _ _ (P := fun x _ => P x) (fun _ _ _ hx _ => hx) fun w₁ ha _ => h w₁ ha

/-- A native object is asked for a property. -/
theorem perform_getProperty_due (hterms : T.Met ops) (hw : w.Orderly T)
    (hc : w.Covers []) {p : Proxy} (hp : p.context.host = .memory) (name : Bytes) :
    ∃ x w', perform (p.getProperty ops (.string name) (some {})) w = (.ok x, w') ∧
      w.Accrues T (x.1.charge + slotCharge x.2) w' ∧
      ∀ o, (x.2.getD {}).value = .object o → T.lossy := by
  refine p.perform_measured_due "GetProperty" name (k := fun x : Variant × Slot => x.1.charge +
    slotCharge x.2) fun w₁ ha₁ => ?_
  obtain ⟨r, w₂, hget, ha₂, hlossy⟩ :=
    Node.perform_getProperty_due hterms (ha₁.orderly hw) (ha₁.covers hc fun _ => by simp)
      hp p.node name
  obtain ⟨w₃, hanswer, ha₃⟩ := p.perform_answer_due (T := T) r w₂
  refine ⟨outcome r, w₃, (perform_bind_ok hget _).trans hanswer, (ha₂.trans ha₃).congr fun a => ?_,
    ?_⟩
  · have hslot (slot : ExceptionSlot) : holds (some slot) = holds slot.value := rfl
    cases r with
    | ok v => simp [outcome, handedCharge, slotCharge, hslot, ExceptionSlot.value]
    | error f =>
      simp [outcome, handedCharge, slotCharge, hslot, ExceptionSlot.value, Failure.charge,
        holds_failure]
  -- An object in the slot is one that the getter threw.
  · intro o ho
    cases r with
    | ok v => cases ho
    | error f =>
      refine hlossy f o rfl ?_
      simp only [outcome, ExceptionSlot.value, Failure.exceptionValue] at ho
      cases hthrown : f.thrown? with
      | none => simp [hthrown] at ho
      | some v => simpa [hthrown] using ho

end Proxy

end

/-- What is thrown at the host is lost: it is no longer due. -/
theorem brings_abandon {slot : Slot} (h : ∀ o, (slot.getD {}).value = .object o → T.lossy) :
    Brings T (abandon slot) (fun _ => -Proxy.slotCharge slot) w := by
  unfold abandon
  cases hvalue : (slot.getD {}).value with
  | object o =>
    have hslot : Proxy.slotCharge slot = (Variant.object o).charge := funext fun a => by
      rw [Proxy.slotCharge, holds_slot, hvalue]
      cases a <;> rfl
    rw [hslot]
    refine ⟨⟨⟩, _, rfl, ⟨⟨fun _ h => h, rfl, rfl⟩, fun _ _ => rfl,
      fun hw => ⟨hw.window, hw.evaluates, hw.slots, hw.getters⟩, fun a => ?_, fun hno =>
        absurd (h o hvalue) hno⟩⟩
    cases a with
    | bytes => exact (Int.add_zero _).symm
    | refs x =>
      -- The references to the object are as they were, but one more of them is lost.
      show w.refs x - ((o :: w.abandoned).count x : Int) = w.refs x - w.abandoned.count x + -one o x
      rw [List.count_cons, one]
      by_cases hx : x = o
      · subst hx
        simp
        omega
      · rw [if_neg hx, if_neg (by simpa using Ne.symm hx)]
        omega
  | string _ | void | null | bool _ | int32 _ | double _ =>
    refine .pure fun a => ?_
    rw [Pi.neg_apply, Proxy.slotCharge, holds_slot, hvalue]
    exact (congrArg (- ·) (references_zero a)).trans Int.neg_zero

end ObjectBridge

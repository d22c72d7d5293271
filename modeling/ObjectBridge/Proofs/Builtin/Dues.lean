import ObjectBridge.Builtin.StandIn
import ObjectBridge.Proofs.Bridge.Accessor
import ObjectBridge.Proofs.Builtin.Arrays

/-!
# `ObjectBridge.Proofs.Builtin.Dues`: built-in members leave nothing behind

A member of a built-in class borrows its arguments. On the way to its answer
it may hold strings, elements, a new array or the global object, and on every
way out, also when an argument is wrong, an element is missing or the host
has no bytes left, what it brings its caller is the answer, or the object
that is thrown (`brings_run`). Once that is given back there are as many
bytes and references as before (`settles_of_brings`).

One thing is not in its hands. An array that is read may be a native object,
and a getter may throw an object at the host. The host drops it, and nobody
gives it back (`baitWorld`). No getter of the built-in classes does so.
-/

set_option autoImplicit false

namespace ObjectBridge

open World (Accrues)

variable {α β : Type} {w w' : World β} {T : Terms β}

namespace Behaviour

variable {lift : Behaviour → β} {ctx : Context} {args : List Variant} {o : ObjectRef}

/-- An answer that is known at once and holds nothing. -/
theorem brings_failure {f : Failure} {c : α → Account → Int} (hf : holds f = 0) :
    Brings T (pure (.error f) : M β (Except Failure α)) (handedCharge c) w :=
  .pure (Failure.charge_eq_zero hf)

/-- The greeting brings what it hands over. -/
theorem brings_runGreet (hctx : ctx.host = .memory) :
    Brings T (runGreet ctx args) (handedCharge Variant.charge) w := by
  unfold runGreet
  rw [hctx]
  split
  · exact brings_valueFromString _
  · exact brings_valueFromString _
  · split
    case h_1 f hf => exact brings_failure (holds_argString hf)
    case h_2 => exact brings_valueFromString _

/-- What is thrown belongs to whoever catches it. -/
theorem brings_runRaise (hctx : ctx.host = .memory) (hargs : ∀ v ∈ args, w.Present v) :
    Brings T (runRaise ctx args) (handedCharge Variant.charge) w := by
  unfold runRaise
  rw [hctx]
  split
  · exact brings_failure rfl
  · exact brings_failure rfl
  case h_3 v rest hstring =>
    -- The first argument is copied and thrown, so the copy is what the failure holds.
    cases v with
    | string bytes => exact (hstring bytes rfl).elim
    | object o =>
      have hcopy : Brings T (copyVariant .memory (.object o)) (fun _ => (Variant.object o).charge)
          w :=
        (brings_retain (hargs _ List.mem_cons_self o rfl)).bind fun _ _ _ _ =>
          .pure fun a => by simp
      refine hcopy.bind fun r w₁ hrun _ => ?_
      cases hrun
      exact .pure fun a => by simp [handedCharge, Failure.charge_thrown_object]
    | _ => exact .pure fun a => by cases a <;> rfl

/-- So does giving the last error back. -/
theorem brings_runLastError (hctx : ctx.host = .memory) :
    Brings T (runLastError ctx) (handedCharge Variant.charge) w := by
  unfold runLastError
  rw [hctx]
  refine .read ?_
  have hnull : Brings T (pure (.ok .null) : M β (Except Failure Variant))
      (handedCharge Variant.charge) w :=
    .pure fun a => Variant.charge_plain (by simp) (by simp) a
  split
  · split
    · exact hnull
    · exact brings_valueFromString _
  · exact hnull

/-- Looking up the encoding brings nothing. -/
theorem brings_encodingFor (ctx : Context) : Brings T (encodingFor ctx) (fun _ => 0) w := by
  refine .read ?_
  split <;> exact .pure fun _ => rfl

/-- Reading a wide argument brings nothing. -/
theorem brings_wideArgument (method : String) (ctx : Context) (args : List Variant) :
    Brings T (wideArgument method ctx args) (fun r => handedCharge (fun _ => 0) r) w := by
  refine (brings_encodingFor ctx).next fun enc w₁ _ _ => ?_
  split
  case h_1 f hf => exact brings_failure (holds_argString hf)
  case h_2 =>
    split
    · exact .pure fun _ => rfl
    · exact brings_failure rfl

/-! ### Arrays -/

section

variable [Native β] {level : Nat} (hterms : T.Met (hostOps level)) (hctx : ctx.host = .memory)

include hterms hctx

/-- Elements are read into one's hands, or given back. -/
theorem brings_readElements (hw : w.Orderly T) (acc : Accessor) (ho : w.Askable o)
    (count next : Nat) {done : List Variant} (hdone : w.Covers done) :
    Brings T (readElements (hostOps (level + 1)) ctx acc o count next done)
      (fun r => handedCharge charges r - charges done) w := by
  -- What was read so far is held throughout, and given back as soon as an element is missing.
  induction count generalizing w next done with
  | zero => exact .pure fun a => by simp [handedCharge, charges_reverse]
  | succ count ih =>
    unfold readElements
    rw [hctx]
    refine (acc.brings_getIndexed hterms hw hdone.nil ho _).bind fun r w₁ _ ha => ?_
    cases r with
    | some v =>
      have hmore : w₁.Covers (v :: done) :=
        ha.covers hdone fun x => by simp [readCharges, Int.add_comm]
      refine (ih (ha.orderly hw) (ha.askable ho) (next + 1) hmore).congr fun r a => ?_
      simp [readCharges]
      omega
    | none =>
      have hheld : w₁.Covers done.reverse :=
        ha.covers hdone fun x => by simp [readCharges, charges_reverse]
      refine (brings_releaseAll hheld).bind fun _ w₂ _ _ => .pure fun a => ?_
      simp [readCharges, handedCharge, charges_reverse, Failure.charge_eq_zero (f := .ofText _) rfl]

/-- The elements of an array belong to the caller. -/
theorem brings_readArray (hw : w.Orderly T) (hc : w.Covers []) (ho : w.Askable o) :
    Brings T (readArray (hostOps (level + 1)) ctx o) (handedCharge charges) w := by
  unfold readArray
  refine Brings.next ⟨_, w, perform_accessorFor ctx w, .refl w⟩ fun acc w₁ _ ha₁ => ?_
  have hw₁ := ha₁.orderly hw
  have hc₁ : w₁.Covers [] := ha₁.covers hc fun _ => by simp
  rw [hctx]
  refine (acc.brings_getNamed hterms hw₁ hc₁ (ha₁.askable ho) _).bind fun length w₂ _ ha₂ => ?_
  have hc₂ : w₂.Covers length.toList := ha₂.covers hc₁ fun x => by simp [readCharges]
  split
  case h_1 =>
    -- What is no number is given back.
    cases length with
    | none =>
      refine (brings_releaseVariant (v := .void) (by simp)).bind fun _ w₃ _ _ => .pure fun a => ?_
      simp [readCharges, handedCharge, Failure.charge_eq_zero (f := .ofText _) rfl]
    | some v =>
      refine (brings_releaseVariant fun o ho => hc₂.refs (ho ▸ List.mem_singleton_self _)).bind
        fun _ w₃ _ _ =>
        .pure fun a => ?_
      simp [readCharges, handedCharge, Failure.charge_eq_zero (f := .ofText _) rfl]
  case h_2 n hn =>
    have hnumber (a : Account) : readCharges length a = 0 := by
      obtain ⟨v, rfl, hv⟩ := Option.bind_eq_some_iff.mp hn
      cases v with
      | int32 _ | double _ => simp [readCharges, Variant.charge_plain]
      | _ => cases hv
    split
    · exact .pure fun a => by simp [handedCharge, hnumber,
        Failure.charge_eq_zero (f := .ofText _) rfl]
    · refine (brings_readElements hterms hctx (ha₂.orderly hw₁) acc (ha₂.askable (ha₁.askable ho)) _
        0 (hc₂.nil)).congr fun r a => ?_
      simp [hnumber]

/-- What an array's elements come to is told when they have been given
back. -/
theorem brings_withElements {act : List Variant → M β (Except Failure Variant)}
    (hact : ∀ elems w₁, Brings T (act elems) (handedCharge Variant.charge) w₁)
    (hw : w.Orderly T) (hc : w.Covers []) (ho : w.Askable o) :
    Brings T (do
      match ← readArray (hostOps (level + 1)) ctx o with
      | .error f => return .error f
      | .ok elems => cleanly (act elems) (releaseAll ctx.host elems))
        (handedCharge Variant.charge) w := by
  refine (brings_readArray hterms hctx hw hc ho).bind fun r w₁ _ ha => ?_
  cases r with
  | error f => exact .pure fun a => by simp [handedCharge]
  | ok elems =>
    -- The answer is made from the elements but holds none of them, so all of them can be given
    -- back.
    refine (hact elems w₁).cleanly fun answer w₂ ha₂ => ?_
    rw [hctx]
    refine brings_releaseAll ((ha.trans ha₂).covers hc fun x => ?_)
    have := handedCharge_nonneg answer (.refs x)
    simp only [Pi.add_apply, charges_nil, handedCharge] at this ⊢
    omega

omit hterms hctx [Native β] in
/-- A native object among the arguments answers for the in-memory host. -/
theorem askable_of_argObject {method : String} {i : Nat}
    (hargs : ∀ o, .object o ∈ args → w.Askable o) (h : argObject method args i = .ok o) :
    w.Askable o := by
  unfold argObject at h
  split at h
  case h_1 o' hget =>
    cases h
    exact hargs _ (List.mem_of_getElem? hget)
  case h_2 => cases h

variable (hw : w.Orderly T) (hc : w.Covers []) (hargs : ∀ o, .object o ∈ args → w.Askable o)

include hw hc hargs

/-- Joining the elements of an array brings what is handed over. -/
theorem brings_runJoin :
    Brings T (runJoin (hostOps (level + 1)) ctx args) (handedCharge Variant.charge) w := by
  unfold runJoin
  split
  case h_1 f hf => exact brings_failure (holds_argObject hf)
  case h_2 arr harr =>
    split
    case h_1 f hf =>
      refine brings_failure ?_
      split at hf
      · exact holds_argString hf
      · cases hf
    case h_2 sep _ =>
      refine brings_withElements hterms hctx (fun elems w₁ => ?_) hw hc
        (askable_of_argObject hargs harr)
      rw [hctx]
      exact brings_valueFromString _

/-- So does adding them up, -/
theorem brings_runSum :
    Brings T (runSum (hostOps (level + 1)) ctx args) (handedCharge Variant.charge) w := by
  unfold runSum
  split
  case h_1 f hf => exact brings_failure (holds_argObject hf)
  case h_2 arr harr =>
    refine brings_withElements hterms hctx (fun elems w₁ => ?_) hw hc
      (askable_of_argObject hargs harr)
    split
    · exact .pure (charge_ofNumber _)
    · exact brings_failure rfl

/-- picking one -/
theorem brings_runElement :
    Brings T (runElement (hostOps (level + 1)) ctx args) (handedCharge Variant.charge) w := by
  unfold runElement
  split
  case h_1 f hf => exact brings_failure (holds_argObject hf)
  case h_2 arr harr =>
    split
    case h_1 f hf => exact brings_failure (holds_argNumber hf)
    case h_2 n _ =>
      split
      · exact brings_failure rfl
      · refine Brings.next ⟨_, w, perform_accessorFor ctx w, .refl w⟩ fun acc w₁ _ ha => ?_
        rw [hctx]
        refine (acc.brings_getIndexed hterms (ha.orderly hw) (ha.covers hc fun _ => by simp)
          (ha.askable (askable_of_argObject hargs harr)) _).bind fun r w₂ _ _ => ?_
        cases r with
        | some v => exact .pure fun a => by simp [handedCharge, readCharges]
        | none =>
          exact .pure fun a => by simp [handedCharge, readCharges,
            Failure.charge_eq_zero (f := .ofText _) rfl]

end

section

variable [Native β] {level : Nat} (acc : Accessor)

/-- Filling an array with numbers brings nothing, and it stays an array of
numbers. -/
theorem perform_fillRange_bare (level : Nat) {k : Nat} (hk : w.Bare k) (hctx : ctx.host = .memory)
    (count next : Nat) :
    ∃ r w', perform (fillRange (hostOps (level + 1)) ctx acc (.table k) count next) w =
      (.ok r, w') ∧ w.Accrues T 0 w' := by
  induction count generalizing w next with
  | zero => exact ⟨none, w, rfl, .refl w⟩
  | succ count ih =>
    -- What is replaced is a number as well, or nothing, so storing brings nothing.
    obtain ⟨stored, w₁, hset, ha₁, hk₁⟩ := acc.perform_setIndexed_bare (T := T) level hk
      (Int32.ofNat next) (Int32.ofNat next)
    unfold fillRange
    rw [hctx]
    dsimp only
    rw [perform_bind_ok hset]
    cases stored with
    | true =>
      obtain ⟨r, w₂, hrest, ha₂⟩ := ih hk₁ (next + 1)
      exact ⟨r, w₂, hrest, (ha₁.trans ha₂).congr fun a => by simp⟩
    | false => exact ⟨some next, w₁, rfl, ha₁⟩

/-- and making a new array of a range. -/
theorem brings_runRange (hctx : ctx.host = .memory) (hw : w.Orderly T) (hc : w.Covers []) :
    Brings T (runRange (hostOps (level + 1)) ctx args) (handedCharge Variant.charge) w := by
  unfold runRange
  split
  case h_1 f hf => exact brings_failure (holds_argNumber hf)
  case h_2 n _ =>
    split
    case h_1 length _ =>
      split
      · exact brings_failure rfl
      · refine Brings.next ⟨_, w, perform_accessorFor ctx w, .refl w⟩ fun acc w₁ _ ha₁ => ?_
        rw [hctx]
        have hc₁ : w₁.Covers [] := ha₁.covers hc fun _ => by simp
        obtain ⟨r, w₂, hcreate, ha₂, hbare⟩ :=
          acc.perform_createArray_bare level (ha₁.orderly hw) hc₁
        refine Brings.bind (k := fun r => charges (r.map .object).toList) ⟨r, w₂, hcreate, ha₂⟩
          fun r' w₂' hrun _ => ?_
        cases hcreate.symm.trans hrun
        cases r with
        | none =>
          exact .pure fun a => by simp [handedCharge, Failure.charge_eq_zero (f := .ofText _) rfl]
        | some arr =>
          obtain ⟨k, rfl, hk⟩ := hbare arr rfl
          obtain ⟨filled, w₃, hfill, ha₃⟩ :=
            perform_fillRange_bare (T := T) acc level hk hctx length.toNat 0
          refine Brings.next ⟨filled, w₃, hfill, ha₃⟩ fun filled w₃' hrun ha₃ => ?_
          cases filled with
          | none => exact .pure fun a => by simp [handedCharge]
          | some i =>
            -- An array that could not be filled is given back.
            have hheld : w₃'.Covers [.object (.table k)] :=
              (ha₂.trans ha₃).covers hc₁ fun x => by simp
            refine (brings_release (hheld.refs (List.mem_singleton_self _))).bind fun _ w₄ _ _ =>
              .pure fun a => ?_
            simp [handedCharge, Failure.charge_eq_zero (f := .ofText _) rfl]
    case h_2 => exact brings_failure rfl

end

/-! ### Counters -/

/-- The getters of the terms include that of a counter. -/
def Counted (lift : Behaviour → β) (T : Terms β) : Prop :=
  ∀ cell, T.getters (lift (.counterValue cell))

/-- A counter adds no getters but those of the terms. -/
theorem getters_addBased {g : Graph β} {cell : Nat} {base : Option NodeId} (hlift : Counted lift T)
    (hg : ∀ n c name p code, g.class? n = some c → c.property? name = some p → p.get = some code →
      T.getters code) :
    ∀ n c name p code, (g.addBased (some (counterClass lift cell)) base).class? n = some c →
      c.property? name = some p → p.get = some code → T.getters code := by
  have hclass (n : NodeId) : (g.addBased (some (counterClass lift cell)) base).class? n =
      if n = g.nodes.size then some (counterClass lift cell) else g.class? n := by
    unfold Graph.addBased
    split
    · rw [Graph.class?_setBase, Graph.class?_addNode]
    · rw [Graph.class?_addNode]
  intro n c name p code hc hp hcode
  rw [hclass] at hc
  split at hc
  · cases hc
    cases List.mem_singleton.mp (Dict.mem_of_find?_ofList hp)
    cases hcode
    exact hlift cell
  · exact hg n c name p code hc hp hcode

/-- A new counter is a proxy that belongs to the caller. -/
theorem brings_runNewCounter (hlift : Counted lift T) :
    Brings T (runNewCounter lift ctx args) (handedCharge Variant.charge) w := by
  rw [runNewCounter_eq]
  cases hstart : counterStart args with
  | error f => exact brings_failure (eq_of_counterStart hstart ▸ rfl)
  | ok start =>
    refine .read ?_
    -- The counter gets a node and a cell, which cost nothing; its proxy is what the caller is
    -- charged.
    have hgraph : w.Accrues T 0 (withCounter lift ctx start w) := {
      stays := ⟨fun _ h => h, rfl, rfl⟩
      contexts := fun _ _ => rfl
      orderly := fun hw => ⟨hw.window, hw.evaluates, hw.slots, getters_addBased hlift hw.getters⟩
      due := fun a => (Int.add_zero _).symm
      abandoned := fun _ => rfl }
    have hset : Brings T (set (withCounter lift ctx start w) : M β PUnit) (fun _ => 0) w :=
      ⟨⟨⟩, _, rfl, hgraph⟩
    refine hset.next fun _ w₂ _ _ => ?_
    exact (brings_newProxy ctx _).bind fun o w₃ _ _ => .pure fun a => by simp [handedCharge]

/-- Writing to a counter's cell brings nothing. -/
theorem brings_setCell (cell : Nat) (v : Variant) : Brings T (setCell cell v) (fun _ => 0) w :=
  .modify ⟨rfl, rfl, rfl, rfl, rfl, rfl⟩ ⟨rfl, rfl, rfl⟩

/-- Counting on brings what it hands over. -/
theorem brings_runIncrement (cell : Nat) :
    Brings T (runIncrement cell args) (handedCharge Variant.charge) w := by
  rw [runIncrement_eq]
  cases hamount : counterStep args with
  | error f => exact brings_failure (eq_of_counterStep hamount ▸ rfl)
  | ok amount =>
    refine Brings.next ⟨_, w, rfl, .refl w⟩ fun n w₁ _ _ => ?_
    exact (brings_setCell _ _).next fun _ _ _ _ => .pure (charge_ofNumber _)

/-! ### All members -/

section

variable [Native β] {level : Nat}

/-- Whatever a built-in member answers or throws, that is all it brings its
caller. -/
theorem brings_run (hlift : Counted lift T) (hterms : T.Met (hostOps level))
    (hctx : ctx.host = .memory) (hw : w.Orderly T) (hc : w.Covers [])
    (hargs : ∀ v ∈ args, w.Present v) (hask : ∀ o, .object o ∈ args → w.Askable o) (b : Behaviour) :
    Brings T (run lift (hostOps (level + 1)) ctx b args) (handedCharge Variant.charge) w := by
  have hstring (bytes : Bytes) :
      Brings T (valueFromString ctx.host bytes) (handedCharge Variant.charge) w := by
    rw [hctx]
    exact brings_valueFromString bytes
  -- One case for each member. Those that do not read arrays do not depend on the terms.
  cases b with
  | describe => exact hstring _
  | greet => exact brings_runGreet hctx
  | echo =>
    cases args with
    | nil => exact .pure fun a => Variant.charge_void a
    | cons v rest =>
      unfold run
      rw [hctx]
      exact brings_copyVariant (hargs v List.mem_cons_self)
  | raise => exact brings_runRaise hctx hargs
  | version => exact hstring _
  | lastError => exact brings_runLastError hctx
  | upper =>
    unfold run
    dsimp only
    split
    case h_1 s _ => exact hstring _
    case h_2 f hf => exact brings_failure (holds_argString hf)
  | wide =>
    refine (brings_wideArgument "wide" ctx args).bind fun r w₁ _ _ => ?_
    cases r with
    | ok x =>
      rw [hctx]
      exact (brings_valueFromWide _ _).congr fun r a => by simp [handedCharge]
    | error f => exact .pure fun a => by simp [handedCharge]
  | wideUnits =>
    refine (brings_wideArgument "wideUnits" ctx args).bind fun r w₁ _ _ => ?_
    cases r with
    | ok x => exact .pure fun a => by simp [handedCharge, Variant.charge_plain]
    | error f => exact .pure fun a => by simp [handedCharge]
  | join => exact brings_runJoin hterms hctx hw hc hask
  | range => exact brings_runRange hctx hw hc
  | sum => exact brings_runSum hterms hctx hw hc hask
  | element => exact brings_runElement hterms hctx hw hc hask
  | newCounter => exact brings_runNewCounter hlift
  | counterValue cell =>
    exact Brings.next ⟨_, w, rfl, .refl w⟩ fun _ _ _ _ => .pure (charge_ofNumber _)
  | setCounter cell =>
    unfold run
    dsimp only
    split
    case h_1 n _ => exact (brings_setCell _ _).next fun _ _ _ _ => .pure fun a =>
      Variant.charge_void a
    case h_2 => exact brings_failure rfl
  | increment cell => exact brings_runIncrement cell

end

/-- The getters of the built-in classes. None of them throws an object. -/
def ownTerms : Terms Behaviour where
  getters b := b = .version ∨ b = .lastError ∨ ∃ cell, b = .counterValue cell
  lossy := False

/-- Builtin code meets its own terms. -/
theorem met_ownTerms (ops : HostOps Behaviour) : ownTerms.Met ops where
  answers b hb ctx w hctx _ _ := by
    show Brings ownTerms (run id ops ctx b []) (handedCharge Variant.charge) w
    obtain rfl | rfl | ⟨cell, rfl⟩ := hb
    · unfold run
      rw [hctx]
      exact brings_valueFromString _
    · exact brings_runLastError hctx
    · exact Brings.next ⟨_, w, rfl, .refl w⟩ fun _ _ _ _ => .pure (charge_ofNumber _)
  throws b hb ctx w w' f o hctx _ _ hrun hthrown := by
    change perform (run id ops ctx b []) w = _ at hrun
    -- What these getters fail with is that the host has no bytes, and that throws nothing.
    refine absurd hthrown (Failure.thrown_ne_object ?_ o)
    have hstring (bytes : Bytes) (hrun : perform (valueFromString ctx.host bytes) w =
        (.ok (.error f), w')) :
        holds f = 0 := by
      obtain ⟨r, w₁, hrun', _, hr⟩ := perform_valueFromString ctx.host bytes w
      cases hrun.symm.trans hrun'
      exact hr
    obtain rfl | rfl | ⟨cell, rfl⟩ := hb
    · exact hstring _ hrun
    · unfold run runLastError at hrun
      rw [perform_bind_ok (perform_get w)] at hrun
      split at hrun
      · split at hrun
        · cases hrun
        · exact hstring _ hrun
      · cases hrun
    · cases hrun

/-! ### Giving back -/

section

variable [Native β] {level : Nat}

/-- Gives back what a call answered, or threw. -/
def settle : Except Failure Variant → M β Unit
  | .ok v => releaseVariant .memory v
  | .error f => Proxy.dropThrown f

omit [Native β] in
/-- Settling an answer pays back what was handed over. -/
theorem brings_settle {r : Except Failure Variant}
    (h : ∀ o, handedCharge Variant.charge r (.refs o) ≤ w.due (.refs o)) :
    Brings T (settle r) (fun _ => -handedCharge Variant.charge r) w := by
  cases r with
  | ok v =>
    have hheld : w.Covers [v] := fun o => by simpa [handedCharge] using h o
    exact brings_releaseVariant fun o ho => hheld.refs (ho ▸ List.mem_singleton_self _)
  | error f => exact brings_dropThrown h

omit [Native β] in
/-- What is brought can be given back, and then nothing is left but the
references to objects that the host has lost. -/
theorem settles_of_brings {act : M β (Except Failure Variant)}
    (h : Brings T act (handedCharge Variant.charge) w) (hc : w.Covers []) :
    ∃ r w₁ w', perform act w = (.ok r, w₁) ∧ perform (settle r) w₁ = (.ok (), w') ∧
      w'.memory.allocated = w.memory.allocated ∧
      (∀ o, w'.refs o - w'.abandoned.count o = w.refs o - w.abandoned.count o) ∧
      (¬T.lossy → ∀ o, w'.refs o = w.refs o) := by
  obtain ⟨r, w₁, hrun, ha₁⟩ := h
  -- Nobody is owed less than nothing, so all that was brought is due now.
  have hheld (o : ObjectRef) : handedCharge Variant.charge r (.refs o) ≤ w₁.due (.refs o) := by
    have := hc o
    rw [charges_nil] at this
    rw [ha₁.due]
    omega
  obtain ⟨_, w', hsettle, ha₂⟩ := brings_settle (T := T) hheld
  have ha : w.Accrues T 0 w' := (ha₁.trans ha₂).congr fun a => by simp
  have hdue (a : Account) : w'.due a = w.due a := (ha.due a).trans (Int.add_zero _)
  have hrefs (o : ObjectRef) : w'.refs o - w'.abandoned.count o = w.refs o - w.abandoned.count o :=
    hdue (.refs o)
  refine ⟨r, w₁, w', hrun, hsettle, ?_, hrefs, fun hterms o => ?_⟩
  · have hbytes : w'.memory.allocated - 0 = w.memory.allocated - 0 := hdue .bytes
    omega
  · -- Nothing was lost on these terms, so the counts themselves agree.
    have := hrefs o
    rw [ha.abandoned hterms] at this
    omega

/-- A call of a built-in member comes to an answer or a failure, and once that
is given back nothing is left of the call: not a byte, and of every object
as many references as before, apart from those to objects that getters have
thrown at the host. -/
theorem run_settles (hlift : Counted lift T) (hterms : T.Met (hostOps level))
    (hctx : ctx.host = .memory) (hw : w.Orderly T) (hc : w.Covers [])
    (hargs : ∀ o, .object o ∈ args → w.Askable o) (b : Behaviour) :
    ∃ r w₁ w', perform (run lift (hostOps (level + 1)) ctx b args) w = (.ok r, w₁) ∧
      perform (settle r) w₁ = (.ok (), w') ∧ w'.memory.allocated = w.memory.allocated ∧
      (∀ o, w'.refs o - w'.abandoned.count o = w.refs o - w.abandoned.count o) ∧
      (¬T.lossy → ∀ o, w'.refs o = w.refs o) := by
  have hpresent (v : Variant) (hv : v ∈ args) : w.Present v := fun o ho => (hargs o (ho ▸ hv)).1
  exact settles_of_brings (brings_run hlift hterms hctx hw hc hpresent hargs b) hc

end

/-- A host with an array of a text and of the array itself. -/
def nestedWorld : World Behaviour :=
  { tables := #[{}, { refs := { refs := 1 }, isArray := true, elems := #[.ofText "a",
    .object (.table 1)] }] }

/-- The witness is orderly. -/
theorem orderly_nestedWorld : nestedWorld.Orderly ownTerms where
  window := rfl
  evaluates := rfl
  slots i v hv := by
    match i with
    | 0 => cases hv
    | 1 =>
      have hslots : (nestedWorld.table 1).slots = [.ofText "a", .object (.table 1)] := rfl
      rw [hslots] at hv
      rcases List.mem_cons.mp hv with rfl | hv
      · exact nofun
      · cases List.mem_singleton.mp hv
        intro o ho
        cases ho
        rfl
    | _ + 2 => cases hv
  getters n c _ _ _ hc := by
    have hnone : nestedWorld.graph.class? n = none := rfl
    rw [hnone] at hc
    cases hc

/-- Its references are not overdrawn. -/
theorem covers_nestedWorld : nestedWorld.Covers [] := fun o => by
  -- Only the table that has a reference needs one.
  match o with
  | .table 0 | .table (_ + 2) | .proxy _ | .handle _ => exact Int.le_refl 0
  | .table 1 => decide

/-- Its array can be asked. -/
theorem askable_nestedWorld (o : ObjectRef) (ho : .object o ∈ [Variant.object (.table 1)]) :
    nestedWorld.Askable o := by
  cases List.mem_singleton.mp ho
  exact ⟨rfl, nofun⟩

/-- The elements are joined, and nothing is left of the call. -/
theorem run_settles_nested :
    Counted id ownTerms ∧ ownTerms.Met (hostOps 0) ∧ nestedWorld.Orderly ownTerms ∧
      nestedWorld.Covers [] ∧ (∀ o, .object o ∈ [Variant.object (.table 1)] →
        nestedWorld.Askable o) ∧
      ∃ r w₁ w', perform (run id (hostOps 1) { host := .memory } .join [.object (.table 1)])
        nestedWorld = (.ok r, w₁) ∧ perform (settle r) w₁ = (.ok (), w') ∧ w'.memory.allocated = 0 ∧
        w'.refs (.table 1) = 1 := by
  have hcounted : Counted id ownTerms := fun cell => .inr (.inr ⟨cell, rfl⟩)
  obtain ⟨r, w₁, w', hrun, hsettle, hbytes, _, hrefs⟩ :=
    run_settles hcounted (met_ownTerms (hostOps 0)) (rfl : ({ host := .memory } : Context).host =
      .memory) orderly_nestedWorld covers_nestedWorld askable_nestedWorld .join
  exact ⟨hcounted, met_ownTerms _, orderly_nestedWorld, covers_nestedWorld, askable_nestedWorld, r,
    w₁, w', hrun, hsettle, hbytes, hrefs id _⟩

/-- A host with an object that somebody holds, and a native object with an
element whose getter throws that object. -/
def baitWorld : World StandIn :=
  let bait : Class StandIn :=
    { name := .ofString "Bait"
      properties :=
        .ofList [(.ofString "0", { get := some (.raise (.value (.object (.table 1)))) })] }
  { tables := #[{}, { refs := { refs := 1 } }]
    proxies := #[{ refs := { refs := 1 }, context := { host := .memory }, node := 0 }]
    graph := { nodes := #[{ cls := some bait }] } }

/-- The native code fails, and throws nothing. -/
def failsPlainly : Except Unwind (Except Failure Variant) → Bool
  | .ok (.error f) => f.thrown?.isNone
  | _ => false

/-- What fails plainly fails without an object that was thrown. -/
theorem exists_of_failsPlainly {r : Except Unwind (Except Failure Variant)}
    (h : failsPlainly r = true) :
    ∃ f, r = .ok (.error f) ∧ f.thrown? = none := by
  unfold failsPlainly at h
  split at h
  case h_1 f => exact ⟨f, rfl, Option.isNone_iff_eq_none.mp h⟩
  case h_2 => cases h

/-- The element is asked for, and there is none. The object has a reference
more, with nobody to give it back. -/
theorem not_settles_baitWorld :
    ¬∀ r w₁ w', perform (run .builtin host { host := .memory } .element [.object (.proxy 0),
      .int32 0]) baitWorld =
        (.ok r, w₁) → perform (settle r) w₁ = (.ok (), w') → ∀ o, baitWorld.has o →
        w'.refs o = baitWorld.refs o := by
  intro h
  -- The call says that there is no element, with a text.
  have hfailed : failsPlainly (perform (run .builtin host { host := .memory } .element
      [.object (.proxy 0), .int32 0]) baitWorld).1 = true := by decide +kernel
  have hrefs : (perform (run .builtin host { host := .memory } .element
      [.object (.proxy 0), .int32 0]) baitWorld).2.refs (.table 1) = 2 := by decide +kernel
  generalize hrun : perform (run .builtin host { host := .memory } .element [.object (.proxy 0),
    .int32 0]) baitWorld = result at hfailed hrefs
  obtain ⟨r, w₁⟩ := result
  obtain ⟨f, rfl, hthrown⟩ := exists_of_failsPlainly hfailed
  have hsettle : perform (settle (.error f)) w₁ = (.ok (), w₁) := by
    show perform (Proxy.dropThrown f) w₁ = _
    unfold Proxy.dropThrown
    rw [hthrown]
    rfl
  have hsame := h (.error f) w₁ w₁ hrun hsettle (.table 1) rfl
  rw [hrefs] at hsame
  exact absurd hsame (by decide)

end Behaviour

end ObjectBridge

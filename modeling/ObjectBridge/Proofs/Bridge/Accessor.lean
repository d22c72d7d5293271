import ObjectBridge.Proofs.Bridge.Dues
import ObjectBridge.Proofs.Builtin.Contract

/-!
# `ObjectBridge.Proofs.Bridge.Accessor`: what reading and filling arrays brings

An accessor that reads an object of the in-memory host brings the native
side what was read, and nothing else (`Accessor.brings_getNamed`,
`Accessor.brings_getIndexed`). This includes objects that are native
themselves, on the `Terms` of their getters.

An array that the native side makes is a new table, and belongs to whoever
asked for it. It stores numbers only (`World.Bare`) for as long as it is
filled, so storing brings nothing: what is replaced holds nothing either.
-/

set_option autoImplicit false

namespace ObjectBridge

open World (Accrues)

variable {α β : Type} {w w' : World β} {T : Terms β} {n m : Account → Int}

/-! ### Reading -/

/-- An object that is there, and answers for the in-memory host if it is a
native one. -/
def World.Askable (w : World β) (o : ObjectRef) : Prop :=
  w.has o ∧ ∀ p, o = .proxy p → (w.proxy p).context.host = .memory

/-- Who can be asked can still be asked when more is due. -/
theorem World.Accrues.askable {o : ObjectRef} (ha : w.Accrues T n w') (h : w.Askable o) :
    w'.Askable o := by
  refine ⟨ha.stays.has o h.1, fun p hp => ?_⟩
  subst hp
  rw [ha.contexts p h.1]
  exact h.2 p rfl

/-- Reading an object brings what was read. -/
def readCharges (r : Option Variant) : Account → Int := charges r.toList

section

variable [Native β] {level : Nat} {o : ObjectRef}

namespace MemoryHost

omit [Native β] in
/-- Asking for a property brings nothing. -/
theorem brings_hasProperty (o : ObjectRef) (id : Identifier) :
    Brings T (hasProperty o id) (fun _ => 0) w := by
  refine (brings_countCall _).next fun _ w₁ _ _ => .read ?_
  cases o with
  | table i => exact .pure fun _ => rfl
  | handle i => exact .pure fun _ => rfl
  | proxy p =>
    -- A native object is asked without running code, but the request is measured.
    have hasked : Brings T ((w₁.proxy p).hasProperty (.string id.text) (some {}))
        (fun _ => 0) w₁ := by
      let ask : M β (Bool × Slot) :=
        do return ((← get).graph.hasProperty (w₁.proxy p).node id.text, some {})
      have hask (w₂ : World β) (_ : w₁.Accrues T 0 w₂) :
          ∃ x w', perform ask w₂ = (.ok x, w') ∧ w₂.Accrues T 0 w' ∧ True :=
            ⟨_, w₂, rfl, .refl w₂, trivial⟩
      obtain ⟨x, w₂, hrun, ha, _⟩ := (w₁.proxy p).perform_measured_due "HasProperty" id.text
        (P := fun _ => True) (k := fun _ => 0) hask
      exact ⟨x, w₂, hrun, ha⟩
    exact hasked.next fun _ _ _ _ => .pure fun _ => rfl

variable {ops : HostOps β}

/-- Reading one brings what was read. -/
theorem brings_getProperty (hterms : T.Met ops) (hw : w.Orderly T) (hc : w.Covers [])
    (ho : w.Askable o) (id : Identifier) : Brings T (getProperty ops o id) readCharges w := by
  refine (brings_countCall _).next fun _ w₁ _ ha₁ => .read ?_
  have hw₁ := ha₁.orderly hw
  cases o with
  | handle i => exact .pure fun _ => rfl
  | table i =>
    dsimp only
    cases hfind : tableGet (w₁.table i) id with
    | none => exact .pure fun _ => rfl
    | some v =>
      -- The copy is the caller's, so what the slot refers to has to be there. A length refers to
      -- nothing.
      have hpresent : w₁.Present v := by
        rcases tableGet_eq_some hfind with hslot | ⟨k, rfl⟩
        · exact hw₁.slots i v hslot
        · exact nofun
      exact (brings_copyOut hpresent).bind fun copy w₂ _ _ => .pure fun a => by simp [readCharges]
  | proxy p =>
    have hc₁ : w₁.Covers [] := ha₁.covers hc fun _ => by simp
    obtain ⟨⟨v, slot⟩, w₂, hask, ha₂, hlossy⟩ :=
      Proxy.perform_getProperty_due hterms hw₁ hc₁ ((ha₁.askable ho).2 p rfl) id.text
    refine Brings.bind (k := fun x => x.1.charge + Proxy.slotCharge x.2) ⟨_, w₂, hask, ha₂⟩
      fun x w₃ hrun _ => ?_
    cases hask.symm.trans hrun
    dsimp only
    split
    case isTrue =>
      -- What came with the exception is given back, and its object is lost.
      have hheld : w₂.Covers [v] := ha₂.covers hc₁ fun x => by
        have := Proxy.slotCharge_nonneg slot (.refs x)
        simp only [charges_cons, charges_nil, Pi.add_apply]
        omega
      refine (brings_releaseVariant fun o ho => hheld.refs (ho ▸ List.mem_singleton_self _)).bind
        fun _ w₃ _ _ => ?_
      refine (brings_abandon hlossy).bind fun _ w₄ _ _ => .pure fun a => ?_
      simp [readCharges]
    case isFalse hpending =>
      exact .pure fun a => by simp [readCharges, Proxy.slotCharge_of_not_pending hpending]

end MemoryHost

/-! ### Accessors -/

namespace Accessor

variable {acc : Accessor}

omit [Native β] in
/-- Timing a primitive brings nothing of its own. -/
theorem perform_timedCleanly_due (acc : Accessor) (primitive : String) {act : M β α}
    {k : α → Account → Int} {P : α → World β → Prop}
    (hP : ∀ x u u', P x u → u'.tables = u.tables → P x u') (h : ∀ w₁, w.Accrues T 0 w₁ →
      w₁.tables = w.tables → ∃ x w₂, perform act w₁ = (.ok x, w₂) ∧
      w₁.Accrues T (k x) w₂ ∧ P x w₂) :
    ∃ x w', perform (acc.timedCleanly primitive act) w = (.ok x, w') ∧
      w.Accrues T (k x) w' ∧ P x w' :=
  perform_clocked_due acc.recorder _ hP h

omit [Native β] in
/-- Measuring an operation changes nothing about what it brings, and keeps
what depends on the tables. -/
theorem perform_timed_due (acc : Accessor) (primitive : String) {act : M β α}
    {k : α → Account → Int} {P : α → World β → Prop}
    (hP : ∀ x u u', P x u → u'.tables = u.tables → P x u') (h : ∀ w₁, w.Accrues T 0 w₁ →
      w₁.tables = w.tables → ∃ x w₂, perform act w₁ = (.ok x, w₂) ∧
      w₁.Accrues T (k x) w₂ ∧ P x w₂) :
    ∃ x w', perform (acc.timed primitive act) w = (.ok x, w') ∧ w.Accrues T (k x) w' ∧ P x w' := by
  -- The primitive comes to a result, so the measurement is closed either way.
  have hclean : perform (acc.timed primitive act) w =
      perform (acc.timedCleanly primitive act) w := by
    obtain ⟨_, w₁, hstart, ha₁, htables₁⟩ := perform_idle (T := T) (w := w)
      (brings_withRecorder acc.recorder fun r => r.start (.ofString ("host." ++ primitive)) 0)
      (quietly_withRecorder _ _)
    obtain ⟨x, w₂, hrun, _⟩ := h w₁ ha₁ htables₁
    unfold timed timedCleanly
    dsimp only
    rw [startTimer, perform_bind_ok hstart, perform_bind_ok hstart, perform_cleanly_eq_bind hrun,
      perform_bind_ok (perform_noting_ok hrun _), perform_bind_ok hrun]
  rw [hclean]
  exact acc.perform_timedCleanly_due primitive hP h

omit [Native β] in
/-- A measured operation brings what it brings alone. -/
theorem brings_timed {act : M β α} {k : α → Account → Int} (acc : Accessor) (primitive : String)
    (h : ∀ w₁, w.Accrues T 0 w₁ → Brings T act k w₁) : Brings T (acc.timed primitive act) k w := by
  obtain ⟨x, w', hrun, ha, _⟩ :=
    acc.perform_timed_due primitive (P := fun _ _ => True) (fun _ _ _ _ _ => trivial)
      fun w₁ ha₁ _ =>
      have ⟨x, w₂, hrun, ha⟩ := h w₁ ha₁
      ⟨x, w₂, hrun, ha, trivial⟩
  exact ⟨x, w', hrun, ha⟩

variable (hterms : T.Met (hostOps level)) (hw : w.Orderly T) (hc : w.Covers []) (ho : w.Askable o)

include hterms hw hc ho

/-- Asking for a property and reading it, when there is one. -/
theorem brings_askedProperty (acc : Accessor) (id : Identifier) :
    Brings T (do
      if ← acc.timed "HasProperty" ((hostOps (level + 1)).hasProperty .memory o id) then
        acc.timed "GetProperty" ((hostOps (level + 1)).getProperty .memory o id)
      else return none) readCharges w := by
  -- What was true before asking is true when the property is read: asking brings nothing.
  refine (acc.brings_timed "HasProperty" fun w₁ _ => MemoryHost.brings_hasProperty o id).next
    fun there w₁ _ ha₁ => ?_
  have hc₁ : w₁.Covers [] := ha₁.covers hc fun _ => by simp
  cases there with
  | true =>
    exact acc.brings_timed "GetProperty" fun w₂ ha₂ =>
      MemoryHost.brings_getProperty hterms (ha₂.orderly (ha₁.orderly hw))
        (ha₂.covers hc₁ fun _ => by simp) (ha₂.askable (ha₁.askable ho)) id
  | false => exact .pure fun _ => rfl

/-- Reading a name brings what was read. -/
theorem brings_getNamed (acc : Accessor) (name : Bytes) :
    Brings T (acc.getNamed (hostOps (level + 1)) .memory o name) readCharges w := by
  refine (acc.brings_timed "StringIdentifier" fun w₁ _ => brings_stringIdentifier name).next
    fun id w₁ _ ha => ?_
  exact brings_askedProperty hterms (ha.orderly hw) (ha.covers hc fun _ => by simp)
    (ha.askable ho) acc id

/-- So does reading an index. -/
theorem brings_getIndexed (acc : Accessor) (index : Int32) :
    Brings T (acc.getIndexed (hostOps (level + 1)) .memory o index) readCharges w := by
  refine (acc.brings_timed "IntIdentifier" fun w₁ _ => brings_intIdentifier index).next
    fun id w₁ _ ha => ?_
  have hw₁ := ha.orderly hw
  have hc₁ : w₁.Covers [] := ha.covers hc fun _ => by simp
  have ho₁ := ha.askable ho
  split
  · have hread := acc.brings_timed (w := w₁) "GetProperty" fun w₂ ha₂ =>
      MemoryHost.brings_getProperty hterms (ha₂.orderly hw₁) (ha₂.covers hc₁ fun _ => by simp)
        (ha₂.askable ho₁) id
    refine hread.bind fun r w₂ _ _ => ?_
    -- What stands in for a missing element holds nothing.
    split
    · exact .pure fun a => by simp
    · exact .pure fun a => by simp [readCharges]
    · exact .pure fun a => by simp [readCharges, Variant.charge_plain]
    · exact .pure fun a => by simp
  · exact brings_askedProperty hterms hw₁ hc₁ ho₁ acc id

end Accessor

end

/-! ### Arrays of numbers -/

/-- A number, or nothing: what holds nothing. -/
def Variant.Bare (v : Variant) : Prop := v = .void ∨ ∃ k, v = .int32 k

/-- A bare value is charged nothing. -/
theorem Variant.Bare.charge {v : Variant} (h : v.Bare) (a : Account) : v.charge a = 0 := by
  obtain rfl | ⟨k, rfl⟩ := h <;> exact Variant.charge_plain (by simp) (by simp) a

/-- It is no object. -/
theorem Variant.Bare.ne_object {v : Variant} (h : v.Bare) (o : ObjectRef) : v ≠ .object o := by
  obtain rfl | ⟨k, rfl⟩ := h <;> simp

/-- A table that stores numbers only. -/
def World.Bare (w : World β) (k : Nat) : Prop := w.has (.table k) ∧ ∀ v ∈ (w.table k).slots, v.Bare

/-- Whether a table is bare depends on the tables alone. -/
theorem World.Bare.congr {k : Nat} (h : w.Bare k) (htables : w'.tables = w.tables) : w'.Bare k := by
  have htable : w'.table k = w.table k := by rw [World.table, World.table, htables]
  exact ⟨by simpa only [World.has, htables] using h.1, htable ▸ h.2⟩

namespace MemoryHost

/-- Bare values together are charged nothing. -/
theorem charges_bare {vs : List Variant} (h : ∀ v ∈ vs, v.Bare) (a : Account) :
    charges vs a = 0 := by
  induction vs with
  | nil => rfl
  | cons v rest ih =>
    rw [charges_cons, (h v List.mem_cons_self).charge, ih fun x hx =>
      h x (List.mem_cons_of_mem _ hx), Int.add_zero]

/-- A table of numbers stays one when it is given other numbers. -/
theorem perform_modifyTable_bare {k : Nat} (hk : w.Bare k) {f : Table → Table}
    (hrefs : ∀ t, (f t).refs = t.refs) (hslots : ∀ v ∈ (f (w.table k)).slots, v.Bare) :
    ∃ w', perform (modifyTable k f) w = (.ok (), w') ∧ w.Accrues T 0 w' ∧ w'.Bare k ∧
      w'.table k = f (w.table k) := by
  have hlt : k < w.tables.size := of_decide_eq_true hk.1
  obtain ⟨w', hrun, htrades, htable, _⟩ := perform_modifyTable hlt (n := 0) hrefs fun a => by
    rw [charges_bare hslots, charges_bare hk.2]
    rfl
  have hother (j : Nat) (hj : j ≠ k) : w'.table j = w.table j := by
    cases hrun
    rw [World.table, World.table, Array.getD_eq_getD_getElem?, Array.getD_eq_getD_getElem?,
      Array.getElem?_modify, if_neg (Ne.symm hj)]
  -- Neither the old slots nor the new ones of this table are charged with anything.
  have hcharges (a : Account) : charges w'.slots a = charges w.slots a := by
    have hall := World.charges_slots_modify hlt f a
    rw [charges_bare hslots, charges_bare hk.2] at hall
    cases hrun
    simpa using hall
  have hrest : w'.proxies = w.proxies ∧ w'.graph = w.graph ∧ w'.abandoned = w.abandoned := by
    cases hrun
    exact ⟨rfl, rfl, rfl⟩
  refine ⟨w', hrun, htrades.accrues (fun p _ => ?_) hrest.2.1 hrest.2.2 hcharges fun j v hv => ?_,
    ⟨htrades.stays.has _ hk.1, htable ▸ hslots⟩, htable⟩
  · rw [World.proxy, World.proxy, hrest.1]
  · by_cases hj : j = k
    · subst hj
      exact .inr (hslots v (htable ▸ hv)).ne_object
    · exact .inl (hother j hj ▸ hv)

/-- What a table stores once something is stored under a name. -/
theorem mem_slots_insert {t : Table} {name : Bytes} {v x : Variant}
    (hx : x ∈ Table.slots { t with props := t.props.insert name v }) : x = v ∨ x ∈ t.slots := by
  rcases List.mem_append.mp hx with hx | hx
  · obtain ⟨e, he, rfl⟩ := List.mem_map.mp hx
    rcases Dict.mem_insertSorted he with rfl | he
    · exact .inl rfl
    · exact .inr (List.mem_append_left _ (List.mem_map_of_mem he))
  · exact .inr (List.mem_append_right _ hx)

/-- Padding adds nothing but void. -/
theorem mem_slots_padTo {t : Table} {i : Nat} {x : Variant} (hx : x ∈ (padTo i t).slots) :
    x = .void ∨ x ∈ t.slots := by
  unfold padTo at hx
  split at hx
  · exact .inr hx
  · rw [Table.slots, Array.toList_append, Array.toList_replicate, ← List.append_assoc] at hx
    rcases List.mem_append.mp hx with hx | hx
    · exact .inr hx
    · exact .inl (List.eq_of_mem_replicate hx)

/-- Writing an element adds nothing but what is written. -/
theorem mem_slots_setElem {t : Table} {i : Nat} {v x : Variant}
    (hx : x ∈ Table.slots { t with elems := t.elems.setIfInBounds i v }) : x = v ∨ x ∈ t.slots := by
  rcases List.mem_append.mp hx with hx | hx
  · exact .inr (List.mem_append_left _ hx)
  · rcases Array.mem_or_eq_of_mem_setIfInBounds (Array.mem_def.mpr hx) with hx | hx
    · exact .inr (List.mem_append_right _ (Array.mem_def.mp hx))
    · exact .inl hx

/-- What is read at an index is void or in a slot. -/
theorem mem_slots_getD (t : Table) (i : Nat) :
    t.elems.getD i .void = .void ∨ t.elems.getD i .void ∈ t.slots := by
  rw [Array.getD_eq_getD_getElem?]
  cases h : t.elems[i]? with
  | none => exact .inl rfl
  | some x => exact .inr (List.mem_append_right _ (Array.mem_def.mp (Array.mem_of_getElem? h)))

/-- What is no string and no object is given back by saying so. -/
theorem perform_releaseVariant_bare {v : Variant} (h : v.Bare) (w : World β) :
    ∃ w', perform (releaseVariant .memory v) w = (.ok (), w') ∧ w.Accrues T 0 w' ∧
      w'.tables = w.tables := by
  obtain ⟨_, w', hcount, ha, htables⟩ :=
    perform_idle (T := T) (brings_countCall "ReleaseVariant") (quietly_countCall _) (w := w)
  obtain rfl | ⟨k, rfl⟩ := h <;> exact ⟨w', hcount, ha, htables⟩

/-- A number is stored in a table of numbers. -/
theorem perform_tableSet_bare {k : Nat} (hk : w.Bare k) (id : Identifier) {v : Variant}
    (hv : v.Bare) :
    ∃ w', perform (tableSet k id v) w = (.ok (), w') ∧ w.Accrues T 0 w' ∧ w'.Bare k := by
  unfold tableSet
  rw [perform_bind_ok (perform_get w)]
  cases id with
  | name name =>
    dsimp only
    have hstore {w₁ : World β} (htables : w₁.tables = w.tables) :
        ∃ w', perform (modifyTable k fun t => { t with props := t.props.insert name v }) w₁ =
          (.ok (), w') ∧ w₁.Accrues T 0 w' ∧ w'.Bare k := by
      have hk₁ := hk.congr htables
      obtain ⟨w', hrun, ha, hbare, _⟩ := perform_modifyTable_bare (T := T) hk₁
        (f := fun t => { t with props := t.props.insert name v }) (fun _ => rfl)
        fun x hx => (mem_slots_insert hx).elim (· ▸ hv) (hk₁.2 x)
      exact ⟨w', hrun, ha, hbare⟩
    cases hfind : (w.table k).props.find? name with
    | none => exact hstore rfl
    | some old =>
      have hold : old.Bare := hk.2 old (List.mem_append_left _
        (List.mem_map.mpr ⟨_, ((w.table k).props.mem_entries_iff name old).mpr hfind, rfl⟩))
      obtain ⟨w₁, hrelease, ha₁, htables⟩ := perform_releaseVariant_bare (T := T) hold w
      obtain ⟨w', hrun, ha₂, hbare⟩ := hstore htables
      exact ⟨w', (perform_bind_ok hrelease _).trans hrun, (ha₁.trans ha₂).congr fun a => by
        simp, hbare⟩
  | index i =>
    dsimp only
    generalize i.toInt.toNat = i
    -- Three steps: making room, releasing what stood there, storing. Each finds a table of numbers.
    obtain ⟨w₁, hpad, ha₁, hk₁, htable₁⟩ :=
      perform_modifyTable_bare (T := T) hk (f := padTo i) (padTo_refs i)
      fun x hx => (mem_slots_padTo hx).elim .inl (hk.2 x)
    have hold : ((w.table k).elems.getD i .void).Bare := (mem_slots_getD _ i).elim .inl (hk.2 _)
    obtain ⟨w₂, hrelease, ha₂, htables₂⟩ := perform_releaseVariant_bare (T := T) hold w₁
    obtain ⟨w₃, hset, ha₃, hk₃, _⟩ := perform_modifyTable_bare (T := T) (hk₁.congr htables₂)
      (f := fun t => { t with elems := t.elems.setIfInBounds i v }) (fun _ => rfl)
      fun x hx => (mem_slots_setElem hx).elim (· ▸ hv) ((hk₁.congr htables₂).2 x)
    refine ⟨w₃, (perform_bind_ok hpad _).trans ((perform_bind_ok hrelease _).trans hset), ?_, hk₃⟩
    exact ((ha₁.trans ha₂).trans ha₃).congr fun a => by simp

variable [Native β]

/-- A host that is asked to store a number in a table of numbers does so, or
leaves the table alone. -/
theorem perform_setProperty_bare (ops : HostOps β) {k : Nat} (hk : w.Bare k) (id : Identifier)
    (x : Int32) :
    ∃ r w', perform (setProperty ops (.table k) id (.int32 x)) w = (.ok r, w') ∧ w.Accrues T 0 w' ∧
      w'.Bare k := by
  have hx : (Variant.int32 x).Bare := .inr ⟨x, rfl⟩
  obtain ⟨_, w₁, hcount, ha₁, htables⟩ :=
    perform_idle (T := T) (brings_countCall "SetProperty") (quietly_countCall _) (w := w)
  have hk₁ := hk.congr htables
  -- The copy of a number costs nothing and cannot fail.
  have hcopy : perform (copyOut (.int32 x)) w₁ = (.ok (.int32 x), w₁) := rfl
  unfold setProperty
  rw [perform_bind_ok hcount, perform_bind_ok (perform_get w₁)]
  dsimp only
  rw [perform_bind_ok hcopy]
  split_ifs
  · obtain ⟨w₂, hset, ha₂, hk₂⟩ := perform_tableSet_bare (T := T) hk₁ id hx
    exact ⟨true, w₂, perform_bind_ok hset _, (ha₁.trans ha₂).congr fun a => by simp, hk₂⟩
  · obtain ⟨w₂, hrelease, ha₂, htables⟩ := perform_releaseVariant_bare (T := T) hx w₁
    exact ⟨false, w₂, perform_bind_ok hrelease _, (ha₁.trans ha₂).congr fun a => by simp,
      hk₁.congr htables⟩

omit [Native β] in
/-- A new table is due to whoever asked for it. -/
theorem accrues_newTable (w : World β) :
    ∃ w', perform (newTable { refs := { refs := 1 }, isArray := true }) w =
      (.ok (.table w.tables.size), w') ∧ w.Accrues T (Variant.object (.table w.tables.size)).charge
      w' ∧ w'.Bare w.tables.size := by
  obtain ⟨w', hrun, htrades⟩ := perform_newTable w
  have hsize : w'.tables.size = w.tables.size + 1 := by
    cases hrun
    exact Array.size_push ..
  have hnew : (w'.table w.tables.size).slots = [] := by
    cases hrun
    simp [World.table, Table.slots]
    rfl
  have hslots : w'.slots = w.slots := by
    cases hrun
    simp [World.slots, Table.slots]
    rfl
  -- The new table comes last and is empty, so no slot refers to anything it did not before.
  have hold (j : Nat) (hj : j ≠ w.tables.size) : w'.table j = w.table j := by
    cases hrun
    simp only [World.table, Array.getD_eq_getD_getElem?, Array.getElem?_push, if_neg hj]
  have hrest : w'.proxies = w.proxies ∧ w'.graph = w.graph ∧ w'.abandoned = w.abandoned := by
    cases hrun
    exact ⟨rfl, rfl, rfl⟩
  refine ⟨w', hrun, htrades.accrues (fun p _ => ?_) hrest.2.1 hrest.2.2 (fun a => by rw [hslots])
    fun j v hv => ?_, decide_eq_true (by omega), fun v hv => by rw [hnew] at hv; cases hv⟩
  · rw [World.proxy, World.proxy, hrest.1]
  · by_cases hj : j = w.tables.size
    · rw [hj, hnew] at hv
      cases hv
    · exact .inl (hold j hj ▸ hv)

omit [Native β] in
/-- Where nothing is registered for it, the empty array is a new table. -/
theorem perform_evaluate_bare (hw : w.Orderly T) (window : ObjectRef) :
    ∃ k w', perform (MemoryHost.evaluate (some window) emptyArray) w =
      (.ok (some (.object (.table k))), w') ∧ w.Accrues T (Variant.object (.table k)).charge w' ∧
      w'.Bare k := by
  obtain ⟨_, w₁, hcount, ha₁⟩ := brings_countCall (T := T) (w := w) "Evaluate"
  obtain ⟨w₂, hnew, ha₂, hbare⟩ := accrues_newTable (T := T) w₁
  refine ⟨_, w₂, ?_, (ha₁.trans ha₂).congr fun a => by simp, hbare⟩
  unfold MemoryHost.evaluate
  rw [perform_bind_ok hcount, Option.isNone_some, if_neg Bool.false_ne_true,
    perform_bind_ok (perform_get w₁), (ha₁.orderly hw).evaluates]
  exact perform_bind_ok hnew _

end MemoryHost

namespace Accessor

variable [Native β] (acc : Accessor)

/-- Writing an integer to a bare table leaves it bare and makes nothing due. -/
theorem perform_setIndexed_bare (level : Nat) {k : Nat} (hk : w.Bare k) (index x : Int32) :
    ∃ r w', perform (acc.setIndexed (hostOps (level + 1)) .memory (.table k) index (.int32 x)) w =
      (.ok r, w') ∧ w.Accrues T 0 w' ∧ w'.Bare k := by
  obtain ⟨id, w₁, hid, ha₁, htables₁⟩ := perform_idle (T := T) (w := w)
    (acc.brings_timed "IntIdentifier" fun w₁ _ => brings_intIdentifier index)
    (quietly_timed "IntIdentifier" (quietly_intIdentifier _ _))
  have hstore (w₂ : World β) (_ : w₁.Accrues T 0 w₂) (htables₂ : w₂.tables = w₁.tables) :
      ∃ r w₃, perform ((hostOps (level + 1)).setProperty .memory (.table k) id (.int32 x)) w₂ =
        (.ok r, w₃) ∧ w₂.Accrues T 0 w₃ ∧ w₃.Bare k :=
    MemoryHost.perform_setProperty_bare (hostOps level) ((hk.congr htables₁).congr htables₂) id x
  obtain ⟨r, w', hset, ha₂, hbare⟩ := acc.perform_timedCleanly_due "SetProperty" (k := fun _ => 0)
    (P := fun _ u => u.Bare k) (fun _ _ _ hu htables => hu.congr htables) hstore
  exact ⟨r, w', (perform_bind_ok hid _).trans hset, (ha₁.trans ha₂).congr fun a => by simp, hbare⟩

omit [Native β] in
/-- The window object is handed over with a reference. -/
theorem brings_windowObject (hw : w.Orderly T) :
    Brings T (windowObject .memory) (fun r => charges (r.map .object).toList) w := by
  refine (brings_countCall _).next fun _ w₁ _ ha => .read ?_
  dsimp only
  split
  · exact .pure fun _ => rfl
  · exact (brings_retain (ha.orderly hw).window).bind fun _ _ _ _ => .pure fun a => by simp

/-- The script of an empty array gives a new table that is bare. -/
theorem perform_evaluateArray_bare (level : Nat) (hw : w.Orderly T) (window : ObjectRef) :
    ∃ k w', perform (acc.evaluateArray (hostOps (level + 1)) .memory window) w =
      (.ok (some (.table k)), w') ∧ w.Accrues T (Variant.object (.table k)).charge w' ∧
      w'.Bare k := by
  have hask (w₁ : World β) (ha₁ : w.Accrues T 0 w₁) (_ : w₁.tables = w.tables) :
      ∃ x w₂, perform ((hostOps (level + 1)).evaluate .memory (some window) MemoryHost.emptyArray)
        w₁ = (.ok x, w₂) ∧ w₁.Accrues T (charges x.toList) w₂ ∧ ∃ k, x = some (.object (.table k)) ∧
        w₂.Bare k := by
    obtain ⟨k, w₂, hevaluate, ha₂, hbare⟩ :=
      MemoryHost.perform_evaluate_bare (ha₁.orderly hw) window
    exact ⟨_, w₂, hevaluate, ha₂.congr fun a => by simp, k, rfl, hbare⟩
  -- Closing the measurement leaves the tables alone.
  have hstays (x : Option Variant) (u u' : World β) (hu : ∃ k, x = some (.object (.table k)) ∧
      u.Bare k) (htables : u'.tables = u.tables) : ∃ k, x = some (.object (.table k)) ∧
      u'.Bare k := by
    obtain ⟨k, hx, hk⟩ := hu
    exact ⟨k, hx, hk.congr htables⟩
  obtain ⟨_, w', hrun, ha, k, rfl, hbare⟩ :=
    acc.perform_timed_due "Evaluate" (k := fun x => charges x.toList) hstays hask
  exact ⟨k, w', perform_bind_ok hrun _, ha.congr fun a => by simp, hbare⟩

omit [Native β] in
/-- Giving a reference back changes no table's contents. -/
theorem perform_release_bare {k : Nat} (hk : w.Bare k) {o : ObjectRef} (ho : 1 ≤ w.refs o) :
    ∃ w', perform (release o) w = (.ok (), w') ∧ w.Accrues T (-(Variant.object o).charge) w' ∧
      w'.Bare k := by
  obtain ⟨_, w', hrun, ha⟩ := brings_release (T := T) ho
  obtain ⟨_, hrun', hmoves⟩ := perform_release_moves ho
  cases hrun.symm.trans hrun'
  exact ⟨w', hrun, ha, hmoves.stays.has _ hk.1, fun v hv =>
    hk.2 v (Table.slots_congr (hmoves.contents_eq k) ▸ hv)⟩

/-- Making an array gives such a table, or nothing. -/
theorem perform_makeArray_bare (level : Nat) (hw : w.Orderly T) (hc : w.Covers []) :
    ∃ r w', perform (MemoryHost.makeArray acc (hostOps (level + 1))) w = (.ok r, w') ∧
      w.Accrues T (charges (r.map .object).toList) w' ∧ ∀ o, r = some o → ∃ k,
      o = .table k ∧ w'.Bare k := by
  obtain ⟨window, w₁, hwindow, ha₁⟩ :=
    acc.brings_timed "WindowObject" (w := w) fun w₁ ha =>
      brings_windowObject (T := T) (ha.orderly hw)
  unfold MemoryHost.makeArray
  rw [perform_bind_ok hwindow]
  cases window with
  | none => exact ⟨none, w₁, rfl, ha₁, nofun⟩
  | some window =>
    obtain ⟨k, w₂, hevaluate, ha₂, hbare⟩ :=
      acc.perform_evaluateArray_bare level (ha₁.orderly hw) window
    -- The global object is held all the while.
    have hheld : w₂.Covers [.object window] := (ha₁.trans ha₂).covers hc fun x => by
      have := Variant.charge_nonneg (.object (.table k)) (.refs x)
      simp only [Pi.add_apply, Option.map_some, Option.toList_some, charges_nil, charges_cons]
      omega
    obtain ⟨w₃, hrelease, ha₃, hbare₃⟩ :=
      perform_release_bare (T := T) hbare (hheld.refs (List.mem_singleton_self _))
    refine ⟨some (.table k), w₃, ?_, ((ha₁.trans ha₂).trans ha₃).congr fun a => by simp,
      fun o ho => ?_⟩
    · dsimp only
      rw [perform_cleanly, hevaluate, hrelease]
    · cases ho
      exact ⟨k, rfl, hbare₃⟩

/-- The array is a new table of numbers that belongs to whoever asked for
it. -/
theorem perform_createArray_bare (level : Nat) (hw : w.Orderly T) (hc : w.Covers []) :
    ∃ r w', perform (acc.createArray (hostOps (level + 1)) .memory) w = (.ok r, w') ∧
      w.Accrues T (charges (r.map .object).toList) w' ∧ ∀ o, r = some o → ∃ k,
      o = .table k ∧ w'.Bare k := by
  have hstays (r : Option ObjectRef) (u u' : World β) (hu : ∀ o, r = some o →
      ∃ k, o = .table k ∧ u.Bare k) (htables : u'.tables = u.tables) (o : ObjectRef) (ho :
      r = some o) : ∃ k, o = .table k ∧ u'.Bare k := by
    obtain ⟨k, hk, hbare⟩ := hu o ho
    exact ⟨k, hk, hbare.congr htables⟩
  rw [MemoryHost.createArray_eq]
  exact perform_clocked_due acc.recorder _ (k := fun r => charges (r.map .object).toList) hstays
    fun w₁ ha₁ _ =>
    acc.perform_makeArray_bare level (ha₁.orderly hw) (ha₁.covers hc fun _ => by simp)

end Accessor

end ObjectBridge

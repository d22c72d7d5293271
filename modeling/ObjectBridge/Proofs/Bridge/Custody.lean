import ObjectBridge.Bridge.Host
import ObjectBridge.Builtin.Behaviour
import ObjectBridge.Proofs.Bridge.Holdings

/-!
# `ObjectBridge.Proofs.Bridge.Custody`: the in-memory host keeps account

Whoever uses the in-memory host holds the variants it was given, and gives
each back once. In every state that can be reached that way, the references
to a table are those the user holds and those that slots hold, the bytes
given out are those of the strings the user holds and of the strings in
slots, and whatever the user does next is done without fault
(`Reaches.accounts`).

Storing is where references change hands most often: a copy is made for the
slot, what the slot held is given back, and a sparse array is padded. All
of it together lends nothing (`perform_tableSet`), also when a table is
stored in itself or when there are no bytes for the copy. The general form
of the account, with one equation for references and bytes, is
`Entrusts`; each operation has a lemma that says what it adds.
-/

set_option autoImplicit false

namespace ObjectBridge

open World (Moves Trades Stays)

variable {α β : Type} {w w' : World β}

namespace MemoryHost

/-- A copy belongs to the receiver, and refers to what is there. -/
theorem perform_copyOut {v : Variant} (hv : w.Present v) :
    ∃ copy w', perform (copyOut v) w = (.ok copy, w') ∧ w.Moves copy.charge w' ∧
      w'.Present copy := by
  have hplain (hcharge : ∀ a, v.charge a = 0) : w.Moves v.charge w := (Moves.refl w).congr fun a =>
    (hcharge a).symm
  cases v with
  | string bytes =>
    obtain ⟨given, w', hrun, hmoves⟩ := perform_memAlloc_memory bytes w
    unfold copyOut
    dsimp only
    rw [perform_bind_ok hrun]
    cases given with
    | true => exact ⟨_, w', rfl, hmoves, nofun⟩
    -- Without bytes for it the copy is nothing.
    | false => exact ⟨_, w', rfl, hmoves.congr fun a => (Variant.charge_void a).symm, nofun⟩
  | object o =>
    obtain ⟨w', hrun, hmoves⟩ := perform_retain_moves (hv o rfl)
    exact ⟨_, w', perform_bind_ok hrun _, hmoves, hv.stays hmoves.stays⟩
  | void => exact ⟨_, w, rfl, hplain fun a => by cases a <;> rfl, nofun⟩
  | null => exact ⟨_, w, rfl, hplain fun a => by cases a <;> rfl, nofun⟩
  | bool b => exact ⟨_, w, rfl, hplain fun a => by cases a <;> rfl, nofun⟩
  | int32 n => exact ⟨_, w, rfl, hplain fun a => by cases a <;> rfl, nofun⟩
  | double d => exact ⟨_, w, rfl, hplain fun a => by cases a <;> rfl, nofun⟩

/-! ### Tables -/

/-- What is read from a table is stored there, or says how long it is. -/
theorem tableGet_eq_some {t : Table} {id : Identifier} {v : Variant} (h : tableGet t id = some v) :
    v ∈ t.slots ∨ ∃ n, v = .int32 n := by
  cases id with
  | index i =>
    simp only [tableGet] at h
    split at h
    · exact .inl (List.mem_append_right _ (Array.mem_def.mp (Array.mem_of_getElem? h)))
    · cases h
  | name n =>
    simp only [tableGet] at h
    split at h
    · cases h
      exact .inr ⟨_, rfl⟩
    · have hmem := (t.props.mem_entries_iff n v).mpr h
      exact .inl (List.mem_append_left _ (List.mem_map.mpr ⟨_, hmem, rfl⟩))

/-- A table with a place `n`, and nothing in the places up to it that were
not there. -/
def padTo (n : Nat) (t : Table) : Table :=
  if n < t.elems.size then t
  else { t with elems := t.elems ++ Array.replicate (n + 1 - t.elems.size) .void }

/-- Padding a table leaves its references. -/
theorem padTo_refs (n : Nat) (t : Table) : (padTo n t).refs = t.refs := by
  unfold padTo
  split <;> rfl

/-- It makes the table as long as is needed. -/
theorem size_padTo (t : Table) (n : Nat) : (padTo n t).elems.size = max t.elems.size (n + 1) := by
  unfold padTo
  split
  · omega
  · rw [Array.size_append, Array.size_replicate]
    omega

/-- Then the index is in it. -/
theorem lt_size_padTo (t : Table) (n : Nat) : n < (padTo n t).elems.size := by
  rw [size_padTo]
  omega

/-- The new places hold nothing, as do those that are not there. -/
theorem getD_padTo (t : Table) (n j : Nat) :
    (padTo n t).elems.getD j .void = t.elems.getD j .void := by
  rw [Array.getD_eq_getD_getElem?, Array.getD_eq_getD_getElem?, padTo]
  split
  · rfl
  · rw [Array.getElem?_append]
    split
    · rfl
    · have hnone : t.elems[j]? = none := Array.getElem?_eq_none (by omega)
      rw [hnone, Array.getElem?_replicate]
      split <;> rfl

/-- Padding a table stores nothing more. -/
theorem charges_slots_padTo (t : Table) (n : Nat) (a : Account) :
    charges (padTo n t).slots a = charges t.slots a := by
  unfold padTo
  split
  · rfl
  · simp only [Table.slots, Array.toList_append, Array.toList_replicate, charges_append,
      charges_replicate_void, Int.add_zero]

/-- An element of a table takes the place of the one that was there. -/
theorem charges_slots_setElem {t : Table} {n : Nat} (h : n < t.elems.size) (v : Variant)
    (a : Account) :
    charges { t with elems := t.elems.setIfInBounds n v }.slots a +
      (t.elems.getD n .void).charge a = charges t.slots a + v.charge a := by
  have hplace : n < t.elems.toList.length := by simpa using h
  have hset := charges_set hplace v a
  have hold : t.elems.getD n .void = t.elems.toList[n] := by
    rw [Array.getD_eq_getD_getElem?, Array.getElem?_eq_getElem h, Option.getD_some,
      Array.getElem_toList]
  simp only [Table.slots, Array.toList_setIfInBounds, charges_append, hold]
  omega

/-- A property of a table takes the place of the one that was there. -/
theorem charges_slots_setProp (t : Table) (k : Bytes) (v : Variant) (a : Account) :
    charges { t with props := t.props.insert k v }.slots a + charges (t.props.find? k).toList a =
      charges t.slots a + v.charge a := by
  have hinsert := charges_insert t.props k v a
  simp only [Table.slots, charges_append]
  omega

/-- A table that is changed is the change of what it was. -/
theorem table_modify {i : Nat} (hi : i < w.tables.size) (f : Table → Table) :
    World.table { w with tables := w.tables.modify i f } i = f (w.table i) := by
  rw [World.table, World.table, Array.getD_eq_getD_getElem?, Array.getD_eq_getD_getElem?,
    Array.getElem?_modify, if_pos rfl, Array.getElem?_eq_getElem hi]
  rfl

/-- Changing what a table stores counts nothing. -/
theorem balance_modify (i : Nat) {f : Table → Table} (hrefs : ∀ t, (f t).refs = t.refs)
    (a : Account) :
    World.balance { w with tables := w.tables.modify i f } a = w.balance a := by
  cases a with
  | bytes => rfl
  | refs o =>
    cases o with
    | table j =>
      show ((w.tables.modify i f).getD j {}).refs.refs = (w.tables.getD j {}).refs.refs
      rw [Array.getD_eq_getD_getElem?, Array.getD_eq_getD_getElem?, Array.getElem?_modify]
      split
      · cases w.tables[j]? <;> simp [hrefs]
      · rfl
    | proxy j => rfl
    | handle j => rfl

/-- What a table stores more is lent no longer. -/
theorem perform_modifyTable {i : Nat} (hi : i < w.tables.size) {f : Table → Table}
    {n : Account → Int} (hrefs : ∀ t, (f t).refs = t.refs)
    (hslots : ∀ a, charges (f (w.table i)).slots a = charges (w.table i).slots a + n a) :
    ∃ w', perform (modifyTable i f) w = (.ok (), w') ∧ w.Trades (-n) w' ∧
      w'.table i = f (w.table i) ∧ w'.tables.size = w.tables.size := by
  refine ⟨{ w with tables := w.tables.modify i f }, rfl, ⟨⟨fun o ho => ?_, rfl, rfl⟩, fun a => ?_⟩,
    table_modify hi f, by simp⟩
  · cases o <;> exact decide_eq_true (by simpa [World.has] using ho)
  · have hall := World.charges_slots_modify hi f a
    have hone := hslots a
    rw [World.lent, World.lent, balance_modify i hrefs, Pi.neg_apply]
    omega

/-- A property is stored once what it replaces is given back. -/
theorem perform_storeProp {i : Nat} (hi : i < w.tables.size) (k : Bytes) (v : Variant)
    {w₁ : World β} (hmoves : w.Moves (-charges ((w.table i).props.find? k).toList) w₁) :
    ∃ w', perform (modifyTable i fun t => { t with props := t.props.insert k v }) w₁ =
      (.ok (), w') ∧ w.Trades (-v.charge) w' := by
  have hprops : (w₁.table i).props = (w.table i).props := congrArg Prod.fst (hmoves.contents_eq i)
  obtain ⟨w', hrun, htrades, _⟩ := perform_modifyTable (w := w₁) (hmoves.size ▸ hi)
    (f := fun t => { t with props := t.props.insert k v })
    (n := v.charge - charges ((w.table i).props.find? k).toList) (fun _ => rfl) fun a => by
      have := charges_slots_setProp (w₁.table i) k v a
      rw [hprops] at this
      rw [Pi.sub_apply, hprops]
      omega
  refine ⟨w', hrun, (hmoves.trades.trans htrades).congr fun a => ?_⟩
  simp only [Pi.add_apply, Pi.neg_apply, Pi.sub_apply]
  omega

/-- An element is stored in a table that is long enough, once what it replaces
is given back. -/
theorem perform_storeElem {i n : Nat} {old v : Variant} {w₁ w₂ : World β} (hi : i < w₁.tables.size)
    (hlong : n < (w₁.table i).elems.size) (hold : (w₁.table i).elems.getD n .void = old)
    (hmoves : w₁.Moves (-old.charge) w₂) :
    ∃ w', perform (modifyTable i fun t => { t with elems := t.elems.setIfInBounds n v }) w₂ =
      (.ok (), w') ∧ w₁.Trades (-v.charge) w' := by
  have helems : (w₂.table i).elems = (w₁.table i).elems := congrArg (·.2.1) (hmoves.contents_eq i)
  obtain ⟨w', hrun, htrades, _⟩ := perform_modifyTable (w := w₂) (hmoves.size ▸ hi)
    (f := fun t => { t with elems := t.elems.setIfInBounds n v }) (n := v.charge - old.charge)
    (fun _ => rfl) fun a => by
      have := charges_slots_setElem (t := w₂.table i) (helems ▸ hlong) v a
      rw [helems, hold] at this
      rw [Pi.sub_apply, helems]
      omega
  refine ⟨w', hrun, (hmoves.trades.trans htrades).congr fun a => ?_⟩
  simp only [Pi.add_apply, Pi.neg_apply, Pi.sub_apply]
  omega

/-- Storing in a table gives back what it replaces. -/
theorem perform_tableSet {i : Nat} (hi : i < w.tables.size) (hw : w.Solvent) (id : Identifier)
    (v : Variant) :
    ∃ w', perform (tableSet i id v) w = (.ok (), w') ∧ w.Trades (-v.charge) w' := by
  unfold tableSet
  rw [perform_bind_ok (perform_get w)]
  cases id with
  | name k =>
    dsimp only
    cases hfind : (w.table i).props.find? k with
    | none => exact perform_storeProp hi k v ((Moves.refl w).congr fun a => by simp [hfind])
    | some old =>
      have hslot : old ∈ w.slots := World.mem_slots (List.mem_append_left _
        (List.mem_map.mpr ⟨_, ((w.table i).props.mem_entries_iff k old).mpr hfind, rfl⟩))
      obtain ⟨w₁, hrelease, hmoves⟩ := perform_releaseVariant_memory fun o ho =>
        hw.refs_of_slot hslot ho
      obtain ⟨w', hrun, htrades⟩ := perform_storeProp hi k v (hmoves.congr fun a => by simp [hfind])
      exact ⟨w', (perform_bind_ok hrelease _).trans hrun, htrades⟩
  | index n =>
    dsimp only
    generalize n.toInt.toNat = n
    obtain ⟨w₁, hpad, htrades₁, htable₁, hsize₁⟩ :=
      perform_modifyTable hi (f := padTo n) (n := 0) (padTo_refs n)
      fun a => by rw [charges_slots_padTo, Pi.zero_apply, Int.add_zero]
    have hw₁ : w₁.Solvent := htrades₁.solvent hw fun _ => by simp
    have hlong : n < (w₁.table i).elems.size := htable₁ ▸ lt_size_padTo (w.table i) n
    have hold : (w₁.table i).elems.getD n .void = (w.table i).elems.getD n .void := by
      rw [htable₁]
      exact getD_padTo (w.table i) n n
    -- What is replaced stands in the padded table, or is nothing.
    have hslot : (w.table i).elems.getD n .void ∈ w₁.slots := by
      refine World.mem_slots (i := i) (List.mem_append_right _ ?_)
      rw [← hold, Array.getD_eq_getD_getElem?, Array.getElem?_eq_getElem hlong]
      exact Array.mem_def.mp (Array.getElem_mem hlong)
    obtain ⟨w₂, hrelease, hmoves⟩ := perform_releaseVariant_memory fun o ho =>
      hw₁.refs_of_slot hslot ho
    obtain ⟨w', hrun, htrades⟩ := perform_storeElem (v := v) (hsize₁ ▸ hi) hlong hold hmoves
    refine ⟨w', (perform_bind_ok hpad _).trans ((perform_bind_ok hrelease _).trans hrun), ?_⟩
    exact (htrades₁.trans htrades).congr fun a => by simp

/-! ### Primitives -/

/-- What the user may ask about: any object that is there, except a native
one, which answers with code of its own. -/
def Plain (w : World β) (o : ObjectRef) : Prop := w.has o ∧ ∀ p, o ≠ .proxy p

section

variable [Native β] {o : ObjectRef}

/-- What is read is a copy of a slot, lent to the reader. -/
theorem perform_getProperty (ops : HostOps β) (hw : w.Solvent) (ho : Plain w o) (id : Identifier) :
    ∃ r w', perform (MemoryHost.getProperty ops o id) w = (.ok r, w') ∧
      w.Trades (charges r.toList) w' := by
  obtain ⟨w₁, hcount, hmoves⟩ := perform_countCall "GetProperty" w
  have hw₁ : w₁.Solvent := hmoves.trades.solvent hw fun _ => by simp
  have hnone : w.Trades (charges (none : Option Variant).toList) w₁ :=
    hmoves.trades.congr fun _ => rfl
  unfold MemoryHost.getProperty
  rw [perform_bind_ok hcount, perform_bind_ok (perform_get w₁)]
  cases o with
  | proxy p => exact absurd rfl (ho.2 p)
  | handle h => exact ⟨none, w₁, rfl, hnone⟩
  | table i =>
    dsimp only
    cases hfind : tableGet (w₁.table i) id with
    | none => exact ⟨none, w₁, rfl, hnone⟩
    | some v =>
      have hpresent : w₁.Present v := by
        -- What is read is in a slot, or is the length of an array.
        rcases tableGet_eq_some hfind with hslot | ⟨n, rfl⟩
        · exact hw₁.present (World.mem_slots hslot)
        · exact nofun
      obtain ⟨copy, w₂, hcopy, hmoves₂, _⟩ := perform_copyOut hpresent
      refine ⟨some copy, w₂, perform_bind_ok hcopy _, (hmoves.trans hmoves₂).trades.congr
        fun a => ?_⟩
      simp

/-- Storing lends nothing, whether or not it is possible. -/
theorem perform_setProperty (ops : HostOps β) (hw : w.Solvent) (ho : Plain w o) (id : Identifier)
    {v : Variant} (hv : w.Present v) :
    ∃ r w', perform (MemoryHost.setProperty ops o id v) w = (.ok r, w') ∧ w.Trades 0 w' := by
  obtain ⟨w₁, hcount, hmoves⟩ := perform_countCall "SetProperty" w
  unfold MemoryHost.setProperty
  rw [perform_bind_ok hcount, perform_bind_ok (perform_get w₁)]
  cases o with
  | proxy p => exact absurd rfl (ho.2 p)
  | handle h => exact ⟨false, w₁, rfl, hmoves.trades⟩
  | table i =>
    obtain ⟨copy, w₂, hcopy, hmoves₂, _⟩ := perform_copyOut (hv.stays hmoves.stays)
    have hlent := (hmoves.trans hmoves₂).trades
    have hw₂ : w₂.Solvent := hlent.solvent hw fun o => by
      have := copy.charge_nonneg (.refs o)
      simpa using this
    dsimp only
    rw [perform_bind_ok hcopy]
    -- The copy goes into the slot, or is given back.
    split_ifs
    · have hi : i < w₂.tables.size := by
        have hsize := hmoves₂.size.trans hmoves.size
        have hhas : i < w.tables.size := of_decide_eq_true ho.1
        omega
      obtain ⟨w₃, hstore, htrades⟩ := perform_tableSet hi hw₂ id copy
      exact ⟨true, w₃, perform_bind_ok hstore _, (hlent.trans htrades).congr fun a => by simp⟩
    · have hcharge : w₂.lent = fun a => w.lent a + copy.charge a :=
        funext fun a => by rw [hlent.lent]; simp
      obtain ⟨w₃, hrelease, hmoves₃⟩ :=
        perform_releaseVariant_memory (w := w₂) (v := copy) fun o ho => by
        refine World.refs_of_lent ?_ ho
        have := hw o
        rw [hcharge]
        dsimp only
        omega
      exact ⟨false, w₃, perform_bind_ok hrelease _, (hlent.trans hmoves₃.trades).congr fun a => by
        simp⟩

end

/-- The global object is held once more. -/
theorem perform_windowObject (hwindow : w.has (.table w.memory.window)) :
    ∃ r w', perform (windowObject .memory) w = (.ok r, w') ∧
      w.Moves (charges (r.map .object).toList) w' := by
  obtain ⟨w₁, hcount, hmoves⟩ := perform_countCall "WindowObject" w
  unfold windowObject
  rw [perform_bind_ok hcount, perform_bind_ok (perform_get w₁)]
  dsimp only
  split
  · exact ⟨none, w₁, rfl, hmoves.congr fun _ => rfl⟩
  · have hthere : w₁.has (.table w₁.memory.window) :=
      hmoves.stays.window ▸ hmoves.stays.has _ hwindow
    obtain ⟨w₂, hretain, hmoves₂⟩ := perform_retain_moves hthere
    exact ⟨some _, w₂, perform_bind_ok hretain _, (hmoves.trans hmoves₂).congr fun a => by simp⟩

/-- A new table is lent to whoever asked for it. -/
theorem perform_newTable (w : World β) :
    ∃ w', perform (newTable { refs := { refs := 1 }, isArray := true }) w =
      (.ok (.table w.tables.size), w') ∧
      w.Trades (Variant.object (.table w.tables.size)).charge w' := by
  refine ⟨{ w with tables := w.tables.push { refs := { refs := 1 }, isArray := true } }, rfl,
    ⟨?_, rfl, rfl⟩, ?_⟩
  · intro o ho
    cases o with
    | table i =>
      have hi : i < w.tables.size := of_decide_eq_true ho
      exact decide_eq_true (by rw [Array.size_push]; omega)
    | proxy i => exact ho
    | handle i => exact ho
  · intro a
    have hslots : World.slots
        { w with tables := w.tables.push { refs := { refs := 1 }, isArray := true } } =
        w.slots := by
      simp [World.slots, Table.slots]
      rfl
    have hbalance : World.balance
        { w with tables := w.tables.push { refs := { refs := 1 }, isArray := true } } a =
        w.balance a + (Variant.object (.table w.tables.size)).charge a := by
      cases a with
      | bytes => exact (Int.add_zero _).symm
      | refs o => exact World.refs_pushTable w _ o
    rw [World.lent, World.lent, hslots, hbalance]
    omega

/-- A copy of a variant that is there, if there are bytes for it. -/
theorem perform_copyVariant_memory {v : Variant} (hv : w.Present v) :
    ∃ r w', perform (copyVariant .memory v) w = (.ok r, w') ∧
      w.Moves (charges r.toOption.toList) w' := by
  have hplain (hcharge : ∀ a, v.charge a = 0) : w.Moves (charges [v]) w :=
    (Moves.refl w).congr fun a => by simp [hcharge]
  cases v with
  | string bytes =>
    obtain ⟨r, w', hrun, hmoves, _⟩ := perform_valueFromString_memory bytes w
    exact ⟨r, w', hrun, hmoves⟩
  | object o =>
    obtain ⟨w', hrun, hmoves⟩ := perform_retain_moves (hv o rfl)
    exact ⟨.ok (.object o), w', perform_bind_ok hrun _, hmoves.congr fun a => (Int.add_zero _).symm⟩
  | void => exact ⟨_, w, rfl, hplain fun a => by cases a <;> rfl⟩
  | null => exact ⟨_, w, rfl, hplain fun a => by cases a <;> rfl⟩
  | bool b => exact ⟨_, w, rfl, hplain fun a => by cases a <;> rfl⟩
  | int32 n => exact ⟨_, w, rfl, hplain fun a => by cases a <;> rfl⟩
  | double d => exact ⟨_, w, rfl, hplain fun a => by cases a <;> rfl⟩

/-- What evaluates to an array. -/
def emptyArray : Bytes := .ofString "[]"

/-- When something else is registered for the empty array, it is there. -/
def Provided (w : World β) : Prop :=
  ∀ v, w.memory.scripts.find? emptyArray = some (some v) → w.Present v

/-- What is provided stays so. -/
theorem Provided.stays (h : Provided w) (hs : w.Stays w') : Provided w' :=
  fun v hv => (h v (hs.scripts ▸ hv)).stays hs

/-- A new array, or a copy of what is registered for it. -/
theorem perform_evaluate (scope : Option ObjectRef) (hprovided : Provided w) :
    ∃ r w', perform (MemoryHost.evaluate scope emptyArray) w = (.ok r, w') ∧
      w.Trades (charges r.toList) w' := by
  obtain ⟨w₁, hcount, hmoves⟩ := perform_countCall "Evaluate" w
  have hnone : w.Trades (charges (none : Option Variant).toList) w₁ :=
    hmoves.trades.congr fun _ => rfl
  unfold MemoryHost.evaluate
  rw [perform_bind_ok hcount]
  cases scope with
  | none => exact ⟨none, w₁, rfl, hnone⟩
  | some window =>
    rw [Option.isNone_some, if_neg Bool.false_ne_true, perform_bind_ok (perform_get w₁)]
    -- Without a registered answer the host makes an array, and otherwise copies what is registered.
    cases hfind : w₁.memory.scripts.find? emptyArray with
    | none =>
      obtain ⟨w₂, hnew, htrades⟩ := perform_newTable w₁
      refine ⟨some (.object (.table w₁.tables.size)), w₂, ?_, (hmoves.trades.trans htrades).congr
        fun a => by simp⟩
      exact perform_bind_ok hnew _
    | some registered =>
      cases registered with
      | none => exact ⟨none, w₁, rfl, hnone⟩
      | some v =>
        have hv : w₁.Present v := hprovided.stays hmoves.stays v hfind
        obtain ⟨r, w₂, hcopy, hmoves₂⟩ := perform_copyVariant_memory hv
        have hboth := (hmoves.trans hmoves₂).trades
        dsimp only
        rw [perform_bind_ok hcopy]
        cases r with
        | ok copy => exact ⟨some copy, w₂, rfl, hboth.congr fun a => by simp [Except.toOption]⟩
        | error f => exact ⟨none, w₂, rfl, hboth.congr fun a => by simp [Except.toOption]⟩

/-! ### Making an array -/

/-- A timer neither holds nor lends. -/
theorem perform_timer (recorder : Option Nat) (f : Recorder → Recorder) (w : World β) :
    ∃ w', perform (withRecorder recorder f) w = (.ok (), w') ∧ w.Moves 0 w' := by
  cases recorder with
  | none => exact ⟨w, rfl, .refl w⟩
  | some i => exact ⟨_, rfl, .of_eq rfl rfl rfl ⟨rfl, rfl, rfl⟩⟩

/-- Measuring an operation changes nothing about what it trades. -/
theorem perform_timed (acc : Accessor) (primitive : String) {act : M β α} {n : α → Account → Int}
    (h : ∀ w₁, w.Moves 0 w₁ → ∃ x w', perform act w₁ = (.ok x, w') ∧ w₁.Trades (n x) w') :
    ∃ x w', perform (acc.timed primitive act) w = (.ok x, w') ∧ w.Trades (n x) w' := by
  obtain ⟨w₁, hstart, hmoves₁⟩ := perform_timer acc.recorder
    (fun r => r.start (Bytes.ofString ("host." ++ primitive)) 0) w
  obtain ⟨x, w₂, hrun, htrades⟩ := h w₁ hmoves₁
  obtain ⟨w₃, hstop, hmoves₃⟩ := perform_timer acc.recorder
    (fun r => r.stop (Bytes.ofString ("host." ++ primitive)) 0) w₂
  refine ⟨x, w₃, ?_, ((hmoves₁.trades.trans htrades).trans hmoves₃.trades).congr fun a => by simp⟩
  exact (perform_bind_ok hstart _).trans ((perform_bind_ok (perform_noting_ok hrun _) _).trans
    (perform_bind_ok hstop _))

variable {ops : HostOps β}

/-- The evaluation of the empty array comes to an object, or to nothing. -/
theorem perform_evaluateArray (hops : ∀ scope script, ops.evaluate .memory scope script =
    MemoryHost.evaluate scope script) (hprovided : Provided w) (acc : Accessor) (window :
    ObjectRef) :
    ∃ r w', perform (acc.evaluateArray ops .memory window) w = (.ok r, w') ∧
      w.Trades (charges (r.map .object).toList) w' := by
  have hevaluate (w₁ : World β) (hmoves : w.Moves 0 w₁) :
      ∃ r w', perform (ops.evaluate .memory (some window) emptyArray) w₁ = (.ok r, w') ∧
        w₁.Trades (charges r.toList) w' := by
    rw [hops]
    exact perform_evaluate (some window) (hprovided.stays hmoves.stays)
  obtain ⟨r, w₁, hrun, htrades⟩ := perform_timed acc "Evaluate" hevaluate
  have hnone (hr : ∀ a, charges r.toList a = 0) :
      w.Trades (charges ((none : Option ObjectRef).map .object).toList) w₁ :=
    htrades.congr hr
  unfold Accessor.evaluateArray
  rw [← emptyArray, perform_bind_ok hrun]
  -- Anything but an object is given back.
  have hback {v : Variant} (hv : r = some v) (hno : ∀ o, v ≠ .object o) :
      ∃ w₂, perform (acc.timed "ReleaseVariant" (releaseVariant .memory v)) w₁ = (.ok (), w₂) ∧
        w.Trades (charges ((none : Option ObjectRef).map .object).toList) w₂ := by
    have hrelease (w₂ : World β) (_ : w₁.Moves 0 w₂) :
        ∃ x w', perform (releaseVariant .memory v) w₂ = (.ok x, w') ∧ w₂.Trades (-v.charge) w' := by
      obtain ⟨w', hrelease, hmoves⟩ := perform_releaseVariant_memory (w := w₂) fun o ho =>
        absurd ho (hno o)
      exact ⟨(), w', hrelease, hmoves.trades⟩
    obtain ⟨x, w₂, hrelease, htrades₂⟩ := perform_timed acc "ReleaseVariant" hrelease
    exact ⟨w₂, hrelease, (htrades.trans htrades₂).congr fun a => by simp [hv]⟩
  cases r with
  | none => exact ⟨none, w₁, rfl, hnone fun _ => rfl⟩
  | some v =>
    cases v with
    | object o => exact ⟨some o, w₁, rfl, htrades⟩
    | _ =>
      obtain ⟨w₂, hrelease, htrades₂⟩ := hback rfl nofun
      exact ⟨none, w₂, perform_bind_ok hrelease _, htrades₂⟩

/-- Makes an array while the global object is held. -/
def makeArray (acc : Accessor) (ops : HostOps β) : M β (Option ObjectRef) := do
  match ← acc.timed "WindowObject" (windowObject .memory) with
  | none => return none
  | some window => cleanly (acc.evaluateArray ops .memory window) (release window)

/-- Creating an array is making one while the timer runs. -/
theorem createArray_eq (acc : Accessor) (ops : HostOps β) :
    acc.createArray ops .memory = (do
      startTimer acc.recorder (.ofString "CreateArray")
      cleanly (makeArray acc ops) (stopTimer acc.recorder (.ofString "CreateArray"))) := rfl

/-- The array belongs to whoever asked for it, and the global object is
given back. -/
theorem perform_makeArray (hops : ∀ scope script, ops.evaluate .memory scope script =
    MemoryHost.evaluate scope script) (hw : w.Solvent) (hwindow :
    w.has (.table w.memory.window)) (hprovided : Provided w) (acc : Accessor) :
    ∃ r w', perform (makeArray acc ops) w = (.ok r, w') ∧
      w.Trades (charges (r.map .object).toList) w' := by
  have hask (w₁ : World β) (hmoves : w.Moves 0 w₁) :
      ∃ r w', perform (windowObject .memory) w₁ = (.ok r, w') ∧
        w₁.Trades (charges (r.map .object).toList) w' := by
    have hthere : w₁.has (.table w₁.memory.window) :=
      hmoves.stays.window ▸ hmoves.stays.has _ hwindow
    obtain ⟨r, w₂, hrun, hmoves₂⟩ := perform_windowObject hthere
    exact ⟨r, w₂, hrun, hmoves₂.trades⟩
  obtain ⟨window, w₁, hrun, htrades⟩ := perform_timed acc "WindowObject" hask
  unfold makeArray
  rw [perform_bind_ok hrun]
  cases window with
  | none => exact ⟨none, w₁, rfl, htrades⟩
  | some window =>
    obtain ⟨r, w₂, hevaluate, htrades₂⟩ :=
      perform_evaluateArray hops (hprovided.stays htrades.stays) acc window
    -- The global object is still held when the evaluation is done.
    have hrefs : 1 ≤ w₂.refs window := by
      refine World.refs_of_lent ?_ rfl
      have hlent := (htrades.trans htrades₂).lent (.refs window)
      have := hw window
      have := charges_nonneg (r.map .object).toList (.refs window)
      simp only [Pi.add_apply, Option.map_some, Option.toList_some, charges_cons,
        charges_nil] at hlent
      omega
    obtain ⟨w₃, hrelease, hmoves₃⟩ := perform_release_moves hrefs
    refine ⟨r, w₃, ?_, ((htrades.trans htrades₂).trans hmoves₃.trades).congr fun a => by simp⟩
    dsimp only
    rw [perform_cleanly, hevaluate, hrelease]

/-- It gives a new array with one reference, or nothing. -/
theorem perform_createArray (hops : ∀ scope script, ops.evaluate .memory scope script =
    MemoryHost.evaluate scope script) (hw : w.Solvent) (hwindow :
    w.has (.table w.memory.window)) (hprovided : Provided w) (acc : Accessor) :
    ∃ r w', perform (acc.createArray ops .memory) w = (.ok r, w') ∧
      w.Trades (charges (r.map .object).toList) w' := by
  obtain ⟨w₁, hstart, hmoves₁⟩ :=
    perform_timer acc.recorder (fun r => r.start (Bytes.ofString "CreateArray") 0) w
  have hwindow₁ : w₁.has (.table w₁.memory.window) :=
    hmoves₁.stays.window ▸ hmoves₁.stays.has _ hwindow
  obtain ⟨r, w₂, hmake, htrades⟩ :=
    perform_makeArray hops (hmoves₁.trades.solvent hw fun _ => by simp) hwindow₁
    (hprovided.stays hmoves₁.stays) acc
  obtain ⟨w₃, hstop, hmoves₃⟩ :=
    perform_timer acc.recorder (fun r => r.stop (Bytes.ofString "CreateArray") 0) w₂
  refine ⟨r, w₃, ?_, ((hmoves₁.trades.trans htrades).trans hmoves₃.trades).congr fun a => by simp⟩
  rw [createArray_eq, startTimer, perform_bind_ok hstart, perform_cleanly, hmake, stopTimer, hstop]

/-! ### Users -/

/-- What a user of the host does next. The variants the user holds are
numbered. -/
inductive Step
  | get (o : ObjectRef) (id : Identifier)
  | set (o : ObjectRef) (id : Identifier) (v : Variant)
  | window
  | evaluate (scope : Option ObjectRef)
  | createArray (acc : Accessor)
  | fromString (bytes : Bytes)
  /-- Gives a variant back to the host. -/
  | release (place : Nat)
  /-- Gives a variant back; a reference is released without asking the
  host. -/
  | drop (place : Nat)

/-- Takes a variant out of what is held, and gives it back. -/
def giveBack (held : List Variant) (place : Nat) (back : Variant → M β Unit) : M β (List Variant) :=
  match held[place]? with
  | some v => do
    back v
    return held.eraseIdx place
  | none => return held

/-- Releases a reference, and gives anything else back to the host. -/
def dropped : Variant → M β Unit
  | .object o => release o
  | v => releaseVariant .memory v

section

variable [Native β]

/-- Does a step, and says what the user holds then. -/
def Step.run (held : List Variant) : Step → M β (List Variant)
  | .get o id => return (← host.getProperty .memory o id).toList ++ held
  | .set o id v => do
    let _ ← host.setProperty .memory o id v
    return held
  | .window => return ((← windowObject .memory).map .object).toList ++ held
  | .evaluate scope => return (← host.evaluate .memory scope emptyArray).toList ++ held
  | .createArray acc => return ((← acc.createArray host .memory).map .object).toList ++ held
  | .fromString bytes => return (← valueFromString .memory bytes).toOption.toList ++ held
  | .release place => giveBack held place (releaseVariant .memory)
  | .drop place => giveBack held place dropped

/-- Steps are about objects that are there. A user of tables does not ask a
native object. -/
def Step.Fits (w : World β) : Step → Prop
  | .get o _ => Plain w o
  | .set o _ v => Plain w o ∧ w.Present v
  | _ => True

/-- The worlds a user comes to, with what the user holds there. -/
inductive Reaches (w₀ : World β) : World β → List Variant → Prop
  | start : Reaches w₀ w₀ []
  | step {w w' : World β} {held held' : List Variant} (h : Reaches w₀ w held) (s : Step)
      (hs : s.Fits w) (hrun : perform (s.run held) w = (.ok held', w')) : Reaches w₀ w' held'

/-- A host nobody has used yet: its tables are empty and nobody holds
them. -/
structure Unused (w : World β) : Prop where
  tables : ∀ t ∈ w.tables, t.refs.refs = 0 ∧ t.slots = []
  allocated : w.memory.allocated = 0
  window : w.has (.table w.memory.window)
  provided : Provided w
  covered : ∀ o, 0 ≤ w.refs o

/-- What is lent is what it was at first, and what the user holds. -/
structure Entrusts (w₀ w : World β) (held : List Variant) : Prop where
  lent : ∀ a, w.lent a = w₀.lent a + charges held a
  window : w.has (.table w.memory.window)
  provided : Provided w

variable {w₀ : World β} {held held' : List Variant}

omit [Native β] in
/-- An unused world has no slots. -/
theorem Unused.slots_eq (h : Unused w₀) : w₀.slots = [] :=
  List.flatMap_eq_nil_iff.mpr fun t ht => (h.tables t (Array.mem_def.mpr ht)).2

omit [Native β] in
/-- There everything that is due is lent. -/
theorem Unused.lent_eq (h : Unused w₀) (a : Account) : w₀.lent a = w₀.balance a := by
  rw [World.lent, h.slots_eq, charges_nil, Int.sub_zero]

omit [Native β] in
/-- Nobody holds a table of an unused host, nor one that is not there. -/
theorem Unused.refs_table (h : Unused w₀) (i : Nat) : w₀.refs (.table i) = 0 := by
  rw [World.refs, World.table, Array.getD_eq_getD_getElem?]
  cases hi : w₀.tables[i]? with
  | none => rfl
  | some t => exact (h.tables t (Array.mem_of_getElem? hi)).1

omit [Native β] in
/-- At first nobody is entrusted with anything. -/
theorem Entrusts.start (h : Unused w₀) : Entrusts w₀ w₀ [] where
  lent a := by rw [charges_nil, Int.add_zero]
  window := h.window
  provided := h.provided

omit [Native β] in
/-- Whoever is entrusted with what there is can pay. -/
theorem Entrusts.solvent (h : Entrusts w₀ w held) (h₀ : Unused w₀) : w.Solvent := by
  intro o
  have hfirst : 0 ≤ w₀.lent (.refs o) := (h₀.lent_eq (.refs o)).symm ▸ h₀.covered o
  have := charges_nonneg held (.refs o)
  rw [h.lent]
  omega

omit [Native β] in
/-- What the user holds can be given back. -/
theorem Entrusts.refs_of_held (h : Entrusts w₀ w held) (h₀ : Unused w₀) {v : Variant}
    (hv : v ∈ held) :
    ∀ o, v = .object o → 1 ≤ w.refs o := by
  intro o ho
  refine World.refs_of_lent ?_ ho
  have hfirst : 0 ≤ w₀.lent (.refs o) := (h₀.lent_eq (.refs o)).symm ▸ h₀.covered o
  have := charge_le_charges hv (.refs o)
  rw [h.lent]
  omega

omit [Native β] in
/-- What is lent more, the user holds more. -/
theorem Entrusts.trades {n : Account → Int} (h : Entrusts w₀ w held) (ht : w.Trades n w')
    (hn : ∀ a, charges held' a = charges held a + n a) : Entrusts w₀ w' held' where
  lent a := by
    rw [ht.lent, h.lent, hn]
    omega
  window := ht.stays.window ▸ ht.stays.has _ h.window
  provided := h.provided.stays ht.stays

omit [Native β] in
/-- What the user is given is held next to what was held before. -/
theorem Entrusts.receives {γ : Type} {act : M β γ} {x : γ} (h : Entrusts w₀ w held)
    (given : γ → List Variant) (hrun : perform act w = (.ok x, w'))
    (ht : w.Trades (charges (given x)) w') :
    ∃ held' w', perform (do return given (← act) ++ held) w = (.ok held', w') ∧
      Entrusts w₀ w' held' :=
  ⟨_, w', perform_bind_ok hrun _, h.trades ht fun a => by rw [charges_append]; omega⟩

omit [Native β] in
/-- What is dropped is given back. -/
theorem perform_dropped {v : Variant} (h : ∀ o, v = .object o → 1 ≤ w.refs o) :
    ∃ w', perform (dropped v) w = (.ok (), w') ∧ w.Moves (-v.charge) w' := by
  cases v with
  | object o => exact perform_release_moves (h o rfl)
  | _ => exact perform_releaseVariant_memory h

omit [Native β] in
/-- What is given back is no longer held. -/
theorem Entrusts.givesBack (h₀ : Unused w₀) (h : Entrusts w₀ w held) (place : Nat)
    {back : Variant → M β Unit}
    (hback : ∀ v, (∀ o, v = .object o → 1 ≤ w.refs o) → ∃ w', perform (back v) w = (.ok (), w') ∧
      w.Moves (-v.charge) w') :
    ∃ held' w', perform (giveBack held place back) w = (.ok held', w') ∧ Entrusts w₀ w' held' := by
  unfold giveBack
  cases hplace : held[place]? with
  | none => exact ⟨held, w, rfl, h⟩
  | some v =>
    obtain ⟨w', hrun, hmoves⟩ := hback v (h.refs_of_held h₀ (List.mem_of_getElem? hplace))
    refine ⟨held.eraseIdx place, w', perform_bind_ok hrun _, h.trades hmoves.trades fun a => ?_⟩
    have := charges_eraseIdx hplace a
    rw [Pi.neg_apply]
    omega

/-- Whatever a user does, it is done, and what is lent is what the user
holds. -/
theorem Entrusts.step (h₀ : Unused w₀) (h : Entrusts w₀ w held) {s : Step} (hs : s.Fits w) :
    ∃ held' w', perform (s.run held) w = (.ok held', w') ∧ Entrusts w₀ w' held' := by
  have hw : w.Solvent := h.solvent h₀
  -- What is answered is received by the user, and what is given back no longer held.
  cases s with
  | get o id =>
    obtain ⟨r, w', hrun, htrades⟩ := perform_getProperty (hostOps 9999) hw hs id
    exact h.receives Option.toList hrun htrades
  | set o id v =>
    obtain ⟨r, w', hrun, htrades⟩ := perform_setProperty (hostOps 9999) hw hs.1 id hs.2
    exact ⟨held, w', perform_bind_ok hrun _, h.trades htrades fun a => (Int.add_zero _).symm⟩
  | window =>
    obtain ⟨r, w', hrun, hmoves⟩ := perform_windowObject h.window
    exact h.receives (fun r => (r.map .object).toList) hrun hmoves.trades
  | evaluate scope =>
    obtain ⟨r, w', hrun, htrades⟩ := perform_evaluate scope h.provided
    exact h.receives Option.toList hrun htrades
  | createArray acc =>
    have hops (scope : Option ObjectRef) (script : Bytes) :
        (host : HostOps β).evaluate .memory scope script = MemoryHost.evaluate scope script := rfl
    obtain ⟨r, w', hrun, htrades⟩ := perform_createArray hops hw h.window h.provided acc
    exact h.receives (fun r => (r.map .object).toList) hrun htrades
  | fromString bytes =>
    obtain ⟨r, w', hrun, hmoves, _⟩ := perform_valueFromString_memory bytes w
    exact h.receives (fun r => r.toOption.toList) hrun hmoves.trades
  | release place => exact h.givesBack h₀ place fun _ => perform_releaseVariant_memory
  | drop place => exact h.givesBack h₀ place fun _ => perform_dropped

/-- What is lent is what the user holds, wherever the user comes to. -/
theorem Reaches.entrusts (h₀ : Unused w₀) (h : Reaches w₀ w held) : Entrusts w₀ w held := by
  induction h with
  | start => exact .start h₀
  | step _ s hs hrun ih =>
    obtain ⟨held', w', hstep, hentrusts⟩ := ih.step h₀ hs
    rw [hrun] at hstep
    cases hstep
    exact hentrusts

/-- The books of the host in a world where the user holds `held`. -/
structure Accounts (w : World β) (held : List Variant) : Prop where
  /-- The references to a table are those the user holds and those in
  slots. -/
  refs : ∀ i, w.refs (.table i) = refsIn held (.table i) + refsIn w.slots (.table i)
  /-- The bytes given out are those of the user's strings and of the strings
  in slots. -/
  bytes : w.memory.allocated = bytesIn held + bytesIn w.slots
  /-- Nothing the user may do next goes wrong. -/
  next : ∀ s : Step, s.Fits w → ∃ held' w', perform (s.run held) w = (.ok held', w')

/-- In every world a user comes to, the books of the host are in order. -/
theorem Reaches.accounts (h₀ : Unused w₀) (h : Reaches w₀ w held) : Accounts w held where
  refs i := by
    have hlent := (h.entrusts h₀).lent (.refs (.table i))
    have hfirst : w₀.lent (.refs (.table i)) = 0 := (h₀.lent_eq _).trans (h₀.refs_table i)
    have hbalance : w.lent (.refs (.table i)) =
        w.refs (.table i) - charges w.slots (.refs (.table i)) := rfl
    rw [charges_refs] at hlent hbalance
    omega
  bytes := by
    have hlent := (h.entrusts h₀).lent .bytes
    have hfirst : w₀.lent .bytes = 0 := (h₀.lent_eq _).trans h₀.allocated
    have hbalance : w.lent .bytes = w.memory.allocated - charges w.slots .bytes := rfl
    rw [charges_bytes] at hlent hbalance
    omega
  next s hs := by
    obtain ⟨held', w', hrun, _⟩ := (h.entrusts h₀).step h₀ hs
    exact ⟨held', w', hrun⟩

end

/-- A user makes an array, stores a text in it and then the array itself in
the place of the text. The array has two references: the user's and its
own. -/
theorem accounts_nested :
    Unused ({} : World Behaviour) ∧
      ∃ w : World Behaviour, Reaches {} w [.object (.table 1)] ∧ Accounts w [.object (.table 1)] ∧
        w.refs (.table 1) = 2 ∧ w.memory.allocated = 0 := by
  have hunused : Unused ({} : World Behaviour) := {
    tables := fun t ht => by
      cases List.mem_singleton.mp (Array.mem_def.mp ht)
      exact ⟨rfl, rfl⟩
    allocated := rfl
    window := rfl
    provided := nofun
    covered := fun o => by
      match o with
      | .table 0 | .table (_ + 1) | .proxy _ | .handle _ => exact Int.le_refl 0 }
  have hplain {w : World Behaviour} (hw : w.has (.table 1)) : Plain w (.table 1) := ⟨hw, nofun⟩
  have hstart : Reaches ({} : World Behaviour) {} [] := .start
  have hmade := hstart.step (.createArray {}) trivial rfl
  have hstored := hmade.step (.set (.table 1) (.index 0) (.ofText "text")) ⟨hplain rfl, nofun⟩ rfl
  have hnested := hstored.step (.set (.table 1) (.index 0) (.object (.table 1)))
    ⟨hplain rfl, fun o ho => by cases ho; rfl⟩ rfl
  exact ⟨hunused, _, hnested, hnested.accounts hunused, rfl, rfl⟩

end MemoryHost

end ObjectBridge

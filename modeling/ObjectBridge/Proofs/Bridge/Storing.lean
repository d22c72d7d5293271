import ObjectBridge.Builtin.Behaviour
import ObjectBridge.Proofs.Bridge.Custody

/-!
# `ObjectBridge.Proofs.Bridge.Storing`: what a table holds after a write

The in-memory host stores copies and hands out copies, and a copy of a
string needs bytes. Where there are none the copy is nothing, and neither
operation says so: the write is reported as done, the read as successful.

So a write that is reported as done has put into the slot what was to be
written if and only if the host could give out the bytes for it; otherwise
the slot holds nothing, and what it held is gone. A read gives what the
slot holds under the same condition (`tradesInCopies`). Only strings over
the limit are lost this way (`Affords`).
-/

set_option autoImplicit false

namespace ObjectBridge

variable {β : Type} {w w' : World β}

/-- A reference that is not there cannot be given back, and is counted down
all the same. -/
theorem perform_release_of_lt {o : ObjectRef} (h : w.refs o < 1) :
    perform (release o) w = (.error (.misuse RefCount.unretainedMessage), w.recount o (-1)) := by
  have hlast : w.refs o - 1 < 0 := by omega
  have hfate : (dropRef o w).1 = .unretained := by
    cases o <;> exact congrArg Prod.snd (if_pos hlast)
  have hdrop : perform (modifyGet (dropRef o) : M β RefCount.Fate) w =
      (.ok .unretained, w.recount o (-1)) := by
    rw [perform_modifyGet, hfate, dropRef_snd]
  unfold release
  exact perform_bind_ok hdrop _

/-- A reference that was given back without fault was there. -/
theorem refs_of_perform_release {o : ObjectRef} (h : perform (release o) w = (.ok (), w')) :
    1 ≤ w.refs o := by
  by_contra hrefs
  rw [perform_release_of_lt (by omega)] at h
  cases h

namespace MemoryHost

/-! ### Copies -/

/-- Does the host give out the bytes that a copy of a variant needs? -/
def Affords (m : MemoryHost) (v : Variant) : Prop :=
  ¬(0 < m.allocLimit ∧ m.allocLimit < v.asBytes.length)

instance (m : MemoryHost) (v : Variant) : Decidable (m.Affords v) :=
  inferInstanceAs (Decidable (¬(_ ∧ _)))

/-- What the host has for a copy of a variant. -/
def copied (m : MemoryHost) (v : Variant) : Variant := if m.Affords v then v else .void

/-- What has no bytes can always be copied. -/
theorem affords_of_asBytes {m : MemoryHost} {v : Variant} (h : v.asBytes = []) : m.Affords v :=
  fun ⟨hpos, hlt⟩ => by
  rw [h, List.length_nil] at hlt
  omega

/-- A copy is like the original if and only if there are bytes for it. -/
theorem copied_eq_iff (m : MemoryHost) (v : Variant) : m.copied v = v ↔ m.Affords v := by
  refine ⟨fun h => ?_, fun h => if_pos h⟩
  by_contra hnot
  rw [copied, if_neg hnot] at h
  subst h
  exact hnot (affords_of_asBytes rfl)

/-- A copy that is an object is the object that was copied. -/
theorem eq_object_of_copied {m : MemoryHost} {v : Variant} {o : ObjectRef}
    (h : m.copied v = .object o) :
    v = .object o := by
  unfold copied at h
  split at h
  · exact h
  · cases h

/-- A copy of what is there is there. -/
theorem present_copied {v : Variant} (h : w.Present v) : w.Present (w.memory.copied v) :=
  fun o ho => h o (eq_object_of_copied ho)

/-- Bytes are given exactly for what can be afforded. -/
theorem perform_memAlloc_affords (bytes : Bytes) (w : World β) :
    ∃ w', perform (memAlloc .memory bytes.length) w =
      (.ok (decide (w.memory.Affords (.string bytes))), w') := by
  have hcount : perform (countCall "MemAlloc") w = (.ok (), (perform (countCall "MemAlloc") w).2) :=
    rfl
  have hlimit : (perform (countCall "MemAlloc") w).2.memory.allocLimit = w.memory.allocLimit := rfl
  unfold memAlloc
  rw [perform_bind_ok hcount, perform_bind_ok (perform_get _)]
  have hsize : ¬((bytes.length : Int) < 0) := by omega
  dsimp only
  simp only [hlimit, hsize, decide_false, Bool.false_or, Bool.and_eq_true, decide_eq_true_eq]
  split
  case isTrue hover =>
    have hnot : ¬w.memory.Affords (.string bytes) := not_not_intro hover
    rw [decide_eq_false hnot]
    exact ⟨_, rfl⟩
  case isFalse hfits =>
    have hgiven : w.memory.Affords (.string bytes) := hfits
    rw [decide_eq_true hgiven]
    exact ⟨_, rfl⟩

/-- A copy is what can be afforded of a value. -/
theorem perform_copyOut_copied (v : Variant) (w : World β) :
    ∃ w', perform (copyOut v) w = (.ok (w.memory.copied v), w') := by
  have hplain (hv : v.asBytes = []) : w.memory.copied v = v :=
    (copied_eq_iff _ v).mpr (affords_of_asBytes hv)
  cases v with
  | string bytes =>
    obtain ⟨w', hrun⟩ := perform_memAlloc_affords bytes w
    refine ⟨w', (perform_bind_ok hrun _).trans ?_⟩
    unfold copied
    by_cases h : w.memory.Affords (.string bytes) <;> simp [h]
  | object o =>
    rw [hplain rfl]
    exact ⟨_, perform_bind_ok (perform_retain_eq o w) _⟩
  | void | null | bool _ | int32 _ | double _ =>
    rw [hplain rfl]
    exact ⟨w, rfl⟩

/-- A release that returns gives back what the value is charged. -/
theorem moves_of_perform_releaseVariant {v : Variant}
    (h : perform (releaseVariant .memory v) w = (.ok (), w')) :
    w.Moves (-v.charge) w' := by
  have hrefs (o : ObjectRef) (ho : v = .object o) : 1 ≤ w.refs o := by
    subst ho
    obtain ⟨w₁, hcount, hmoves⟩ := perform_countCall "ReleaseVariant" w
    unfold releaseVariant at h
    rw [if_pos rfl, perform_bind_ok hcount] at h
    have hbalance : w₁.refs o = w.refs o + 0 := hmoves.balance (.refs o)
    have := refs_of_perform_release h
    omega
  obtain ⟨w₁, hrun, hmoves⟩ := perform_releaseVariant_memory hrefs
  cases hrun.symm.trans h
  exact hmoves

/-! ### Writes -/

/-- Is there a place in a table for something under an identifier? -/
def HasPlace (t : Table) : Identifier → Prop
  | .index n => t.isArray ∧ 0 ≤ n.toInt
  | .name _ => True

instance (t : Table) (id : Identifier) : Decidable (HasPlace t id) :=
  match id with
  | .name _ => inferInstanceAs (Decidable True)
  | .index n => inferInstanceAs (Decidable (t.isArray = true ∧ 0 ≤ n.toInt))

/-- Does an identifier ask an array how long it is? -/
def Counts (t : Table) (id : Identifier) : Prop := t.isArray ∧ id = .name lengthName

/-- What stands in the place of an identifier, if only nothing. -/
def standing (t : Table) : Identifier → Variant
  | .index n => t.elems.getD n.toInt.toNat .void
  | .name k => (t.props.find? k).getD .void

/-- A table with a variant in the place of an identifier. -/
def put (t : Table) (v : Variant) : Identifier → Table
  | .index n => { padTo n.toInt.toNat
    t with elems := (padTo n.toInt.toNat t).elems.setIfInBounds n.toInt.toNat v }
  | .name k => { t with props := t.props.insert k v }

/-- Padding a table leaves it the kind it is, -/
theorem isArray_padTo (n : Nat) (t : Table) : (padTo n t).isArray = t.isArray := by
  unfold padTo
  split <;> rfl

/-- and leaves its named properties. -/
theorem props_padTo (n : Nat) (t : Table) : (padTo n t).props = t.props := by
  unfold padTo
  split <;> rfl

/-- What is read depends on the contents alone. -/
theorem tableGet_congr {t t' : Table} (h : t'.contents = t.contents) (id : Identifier) :
    tableGet t' id = tableGet t id := by
  obtain ⟨hprops, helems, harray⟩ : t'.props = t.props ∧ t'.elems = t.elems ∧
      t'.isArray = t.isArray := by
    simpa [Table.contents] using h
  cases id <;> simp only [tableGet, hprops, helems, harray]

/-- What is put into a place is there. -/
theorem tableGet_put {t : Table} {id : Identifier} (hplace : HasPlace t id) (hcounts : ¬Counts t id)
    (v : Variant) :
    tableGet (put t v id) id = some v := by
  cases id with
  | name k =>
    have hname : ¬(t.isArray && decide (k = lengthName)) = true := by
      intro hk
      obtain ⟨harray, hlength⟩ := (Bool.and_eq_true ..).mp hk
      exact hcounts ⟨harray, congrArg Identifier.name (of_decide_eq_true hlength)⟩
    exact (if_neg hname).trans (Dict.find?_insert_self ..)
  | index n =>
    obtain ⟨harray, hn⟩ := hplace
    have hindex : ((padTo n.toInt.toNat t).isArray && decide (0 ≤ n.toInt)) = true := by
      rw [isArray_padTo, harray, decide_eq_true hn, Bool.and_self]
    exact (if_pos hindex).trans (Array.getElem?_setIfInBounds_self_of_lt (lt_size_padTo t _))

/-- What a table stores is changed, and nothing is counted. -/
theorem changed_of_perform_modifyTable {i : Nat} (hi : i < w.tables.size) {f : Table → Table}
    (h : perform (modifyTable i f) w = (.ok (), w')) (hrefs : ∀ t, (f t).refs = t.refs) :
    w'.table i = f (w.table i) ∧ w'.tables.size = w.tables.size ∧ ∀ a,
      w'.balance a = w.balance a := by
  cases h
  exact ⟨table_modify hi f, Array.size_modify, fun a => balance_modify i hrefs a⟩

/-- Storing in a table puts the variant there, and gives back what stood in
its place. -/
theorem put_of_perform_tableSet {i : Nat} (hi : i < w.tables.size) {id : Identifier} {v : Variant}
    (h : perform (tableSet i id v) w = (.ok (), w')) :
    (w'.table i).contents = (put (w.table i) v id).contents ∧
      ∀ a, w'.balance a = w.balance a - (standing (w.table i) id).charge a := by
  unfold tableSet at h
  rw [perform_bind_ok (perform_get w)] at h
  cases id with
  | name k =>
    -- Giving back what was there leaves the table as it is.
    have hstored {w₁ : World β} (hmoves : w.Moves (-(standing (w.table i) (.name k)).charge) w₁)
        (hset : perform (modifyTable i fun t => { t with props := t.props.insert k v }) w₁ =
        (.ok (), w')) :
        (w'.table i).contents = (put (w.table i) v (.name k)).contents ∧
          ∀ a, w'.balance a = w.balance a - (standing (w.table i) (.name k)).charge a := by
      obtain ⟨htable, _, hcounts⟩ := changed_of_perform_modifyTable (hmoves.size ▸ hi) hset fun _ =>
        rfl
      constructor
      · have hkept := hmoves.contents_eq i
        simp only [Table.contents, Prod.mk.injEq] at hkept
        rw [htable]
        simp only [Table.contents, put, hkept]
      · intro a
        rw [hcounts, hmoves.balance, Pi.neg_apply]
        omega
    dsimp only at h
    cases hfind : (w.table i).props.find? k with
    | none =>
      rw [hfind] at h
      exact hstored ((World.Moves.refl w).congr fun a => by simp [standing, hfind]) h
    | some old =>
      rw [hfind] at h
      obtain ⟨_, w₁, hrelease, hset⟩ := exists_of_perform_bind h
      have hold : standing (w.table i) (.name k) = old := by rw [standing, hfind, Option.getD_some]
      exact hstored (hold ▸ moves_of_perform_releaseVariant hrelease) hset
  | index n =>
    -- What is given back may be the table itself, so its contents are followed
    -- from the padded table on, and not its count.
    dsimp only at h
    obtain ⟨_, w₁, hpad, h⟩ := exists_of_perform_bind h
    obtain ⟨_, w₂, hrelease, hset⟩ := exists_of_perform_bind h
    have hmoves := moves_of_perform_releaseVariant hrelease
    obtain ⟨htable₁, hsize₁, hcounts₁⟩ :=
      changed_of_perform_modifyTable (f := padTo n.toInt.toNat) hi hpad (padTo_refs _)
    have hi₂ : i < w₂.tables.size := by rwa [hmoves.size, hsize₁]
    obtain ⟨htable, _, hcounts⟩ := changed_of_perform_modifyTable hi₂ hset fun _ => rfl
    constructor
    · have hkept := hmoves.contents_eq i
      simp only [Table.contents, Prod.mk.injEq, htable₁] at hkept
      rw [htable]
      simp only [Table.contents, put, hkept]
    · intro a
      rw [hcounts, hmoves.balance, hcounts₁, Pi.neg_apply]
      show w.balance a + -(standing (w.table i) (.index n)).charge a = _
      omega

/-! ### What is reported and what is so -/

section

variable [Native β]

/-- How the host deals with a write to a table and with reads of it. -/
structure TradesInCopies (ops : HostOps β) (w : World β) (i : Nat) (id : Identifier)
    (v : Variant) : Prop where
  /-- A write has an answer, while what slots hold can be given back. -/
  answers : w.Solvent → ∃ done w', perform (setProperty ops (.table i) id v) w = (.ok done, w')
  /-- It is reported as done wherever there is a place for it. -/
  done_iff : ∀ done w', perform (setProperty ops (.table i) id v) w = (.ok done, w') →
    (done = true ↔ HasPlace (w.table i) id)
  /-- The slot then holds what the host has for a copy, -/
  stored : ∀ w', perform (setProperty ops (.table i) id v) w = (.ok true, w') →
    ¬Counts (w.table i) id → tableGet (w'.table i) id = some (w.memory.copied v)
  /-- which is what was written if and only if there were bytes for it. -/
  stored_iff : ∀ w', perform (setProperty ops (.table i) id v) w = (.ok true, w') →
    ¬Counts (w.table i) id → (tableGet (w'.table i) id = some v ↔ w.memory.Affords v)
  /-- Whatever happened in between, a read gives what the host then has for
  a copy of the slot, -/
  fetched : ∀ later : World β, ∃ w'', perform (getProperty ops (.table i) id) later =
    (.ok ((tableGet (later.table i) id).map later.memory.copied), w'')
  /-- which is what the slot holds if and only if there were bytes for it. -/
  fetched_iff : ∀ (later : World β) (r s : Variant) (w'' : World β),
    perform (getProperty ops (.table i) id) later = (.ok (some r), w'') →
    tableGet (later.table i) id = some s → (r = s ↔ later.memory.Affords s)

/-- A read gives a copy of what is in the table. -/
theorem perform_getProperty_table (ops : HostOps β) (i : Nat) (id : Identifier) (w : World β) :
    ∃ w', perform (getProperty ops (.table i) id) w =
      (.ok ((tableGet (w.table i) id).map w.memory.copied), w') := by
  have hcount : perform (countCall "GetProperty") w =
      (.ok (), (perform (countCall "GetProperty") w).2) := rfl
  unfold getProperty
  rw [perform_bind_ok hcount, perform_bind_ok (perform_get _)]
  have htable : (perform (countCall "GetProperty") w).2.table i = w.table i := rfl
  dsimp only
  rw [htable]
  cases tableGet (w.table i) id with
  | none => exact ⟨_, rfl⟩
  | some s =>
    obtain ⟨w', hcopy⟩ := perform_copyOut_copied s (perform (countCall "GetProperty") w).2
    exact ⟨w', perform_bind_ok hcopy _⟩

/-- The place is looked for in the table as it was before the call. -/
theorem perform_setProperty_eq (ops : HostOps β) (i : Nat) (id : Identifier) (v : Variant) :
    perform (setProperty ops (.table i) id v) w = perform (do
      countCall "SetProperty"
      let copy ← copyOut v
      if HasPlace (w.table i) id then
        tableSet i id copy
        return true
      else
        releaseVariant .memory copy
        return false) w := by
  have hcount : perform (countCall "SetProperty") w =
      (.ok (), (perform (countCall "SetProperty") w).2) := rfl
  -- Counting the call changes no table.
  have htable : (perform (countCall "SetProperty") w).2.table i = w.table i := rfl
  unfold setProperty
  rw [perform_bind_ok hcount, perform_bind_ok hcount, perform_bind_ok (perform_get _)]
  dsimp only
  rw [htable]
  cases id with
  | name k => rfl
  | index n =>
    simp only [HasPlace, Bool.and_eq_true, decide_eq_true_eq]
    rfl

/-- A write first makes the copy; it is stored where there is a place for
it, and given back where there is none. -/
theorem perform_setProperty_table (ops : HostOps β) (i : Nat) (id : Identifier) {v : Variant}
    (hv : w.Present v) :
    ∃ w₁, w.Moves (w.memory.copied v).charge w₁ ∧
      (HasPlace (w.table i) id → perform (setProperty ops (.table i) id v) w =
        perform (do tableSet i id (w.memory.copied v); return true) w₁) ∧
      (¬HasPlace (w.table i) id → perform (setProperty ops (.table i) id v) w =
        perform (do releaseVariant .memory (w.memory.copied v); return false) w₁) := by
  obtain ⟨w₁, hcount, hmoves⟩ := perform_countCall "SetProperty" w
  have hlimit : w₁.memory.copied v = w.memory.copied v := by cases hcount; rfl
  obtain ⟨copy, w₂, hcopy, hmoves₂, _⟩ := perform_copyOut (hv.stays hmoves.stays)
  obtain ⟨w₂', hcopied⟩ := perform_copyOut_copied v w₁
  cases hcopy.symm.trans hcopied
  rw [hlimit] at hcopy hmoves₂
  refine ⟨w₂, (hmoves.trans hmoves₂).congr fun a => by simp, ?_, ?_⟩
  · intro hplace
    rw [perform_setProperty_eq, perform_bind_ok hcount, perform_bind_ok hcopy, if_pos hplace]
  · intro hplace
    rw [perform_setProperty_eq, perform_bind_ok hcount, perform_bind_ok hcopy, if_neg hplace]

/-- A write that returns was done if and only if there was a place for it. -/
theorem done_iff_of_perform_setProperty (ops : HostOps β) {i : Nat} {id : Identifier} {v : Variant}
    {done : Bool} (hv : w.Present v)
    (h : perform (setProperty ops (.table i) id v) w = (.ok done, w')) :
    done = true ↔ HasPlace (w.table i) id := by
  obtain ⟨w₁, _, hstores, hreturns⟩ := perform_setProperty_table ops i id hv
  by_cases hplace : HasPlace (w.table i) id
  · rw [hstores hplace] at h
    obtain ⟨_, _, _, h⟩ := exists_of_perform_bind h
    cases h
    exact iff_of_true rfl hplace
  · rw [hreturns hplace] at h
    obtain ⟨_, _, _, h⟩ := exists_of_perform_bind h
    cases h
    exact iff_of_false Bool.false_ne_true hplace

/-- The host stores and fetches copies, or nothing where it has no bytes for
a copy, and reports either as done. -/
theorem tradesInCopies (ops : HostOps β) {i : Nat} (hi : w.has (.table i)) (id : Identifier)
    {v : Variant} (hv : w.Present v) : TradesInCopies ops w i id v := by
  obtain ⟨w₁, hmoves, hstores, hreturns⟩ := perform_setProperty_table ops i id hv
  have hsize : i < w₁.tables.size := hmoves.size ▸ of_decide_eq_true hi
  have hdone (done : Bool) (w' : World β) (h : perform (setProperty ops (.table i) id v) w =
      (.ok done, w')) :
      (done = true ↔ HasPlace (w.table i) id) := done_iff_of_perform_setProperty ops hv h
  have hstored (w' : World β) (h : perform (setProperty ops (.table i) id v) w = (.ok true, w'))
      (hcounts : ¬Counts (w.table i) id) : tableGet (w'.table i) id = some (w.memory.copied v) := by
    -- What is done had a place, so it was a store of the table.
    have hplace := (hdone true w' h).mp rfl
    rw [hstores hplace] at h
    obtain ⟨_, w₂, hset, h⟩ := exists_of_perform_bind h
    cases h
    have hsame : (w₁.table i).isArray = (w.table i).isArray :=
      congrArg (·.2.2) (hmoves.contents_eq i)
    rw [tableGet_congr (put_of_perform_tableSet hsize hset).1]
    refine tableGet_put ?_ (fun hc => hcounts ⟨hsame ▸ hc.1, hc.2⟩) _
    cases id with
    | name k => trivial
    | index n => exact ⟨hsame.trans hplace.1, hplace.2⟩
  refine ⟨fun hw => ?_, hdone, hstored, fun w' h hcounts => ?_, fun later =>
    perform_getProperty_table ops i id later, ?_⟩
  · obtain ⟨done, w', hrun, _⟩ := perform_setProperty ops hw ⟨hi, nofun⟩ id hv
    exact ⟨done, w', hrun⟩
  · rw [hstored w' h hcounts, Option.some_inj, copied_eq_iff]
  · intro later r s w'' hread hslot
    obtain ⟨w₂, hrun⟩ := perform_getProperty_table ops i id later
    rw [hslot] at hrun
    cases hrun.symm.trans hread
    exact copied_eq_iff ..

end

/-- A host that gives out two bytes at a time, and an object that somebody
holds. -/
def cramped : World Behaviour :=
  { tables := #[{}, { refs := { refs := 1 } }], memory := { allocLimit := 2 } }

/-- A text of three bytes is reported as stored where there are two bytes. -/
theorem tradesInCopies_cramped :
    cramped.has (.table 1) ∧ cramped.Present (.ofText "abc") ∧
      TradesInCopies host cramped 1 (.name (.ofString "x")) (.ofText "abc") ∧
      ∃ w', perform (setProperty host (.table 1) (.name (.ofString "x")) (.ofText "abc")) cramped =
      (.ok true, w') ∧
        tableGet (w'.table 1) (.name (.ofString "x")) = some .void := by
  have hpresent : cramped.Present (.ofText "abc") := nofun
  exact ⟨rfl, hpresent, tradesInCopies host rfl _ hpresent, _, rfl, rfl⟩

/-- It is not what the slot then holds. -/
theorem not_stored_cramped :
    ¬∀ w', perform (setProperty host (.table 1) (.name (.ofString "x")) (.ofText "abc")) cramped =
      (.ok true, w') → tableGet (w'.table 1) (.name (.ofString "x")) = some (.ofText "abc") := by
  intro h
  have hslot := h _ rfl
  cases hslot

end MemoryHost

end ObjectBridge

import ObjectBridge.Proofs.Bridge.Leaves
import ObjectBridge.Proofs.Bridge.Storing

/-!
# `ObjectBridge.Proofs.Bridge.Writing`: a write changes one slot

A write to a table of the in-memory host makes a copy of what is to be
stored, makes an array longer if it has to, and gives back what it replaces.
All of this goes through the counts of objects, and any of the objects may
be the same: an array may be stored in itself, in the place of a reference
to itself.

Still, one slot changes. `Written` says what the table is then, and
`WritesOneSlot` that nothing else is changed: the counts are off by what the
new and the old variant hold, and what is no count (`World.uncounted`) is as
it was everywhere else (`World.aside`). A write that has no place changes no
slot and no count, although it made the copy first.
-/

set_option autoImplicit false

namespace ObjectBridge

open World (Moves)

variable {β : Type} {w w' : World β} {i j : Nat}

/-! ### What is no count -/

/-- A table without its count. -/
def Table.uncounted (t : Table) : Table := { t with refs := {} }

/-- The proxy without its count. -/
def Proxy.uncounted (p : Proxy) : Proxy := { p with refs := {} }

/-- The handle without its count. -/
def Handle.uncounted (h : Handle) : Handle := { h with refs := {} }

namespace World

/-- The world without its counts: how many references and bytes there are,
how often the host was called, and what is published. -/
def uncounted (w : World β) : World β := { w with
  tables := w.tables.map Table.uncounted
  proxies := w.proxies.map Proxy.uncounted
  handles := w.handles.map Handle.uncounted
  memory := { w.memory with calls := {}, allocated := 0 }
  metrics := {} }

/-- The same without what one table stores. -/
def aside (i : Nat) (w : World β) : World β :=
  { w.uncounted with tables := w.uncounted.tables.modify i fun _ => {} }

/-- Counting changes nothing else. -/
theorem uncounted_recount (o : ObjectRef) (d : Int) (w : World β) :
    (w.recount o d).uncounted = w.uncounted := by
  cases o with
  | table i =>
    have htables := map_modify_of_eq
      (f := fun t : Table => { t with refs := { refs := t.refs.refs + d } })
      (g := Table.uncounted) (fun _ => rfl) w.tables i
    simp only [uncounted, recount, htables]
  | proxy i =>
    have hproxies := map_modify_of_eq
      (f := fun p : Proxy => { p with refs := { refs := p.refs.refs + d } })
      (g := Proxy.uncounted) (fun _ => rfl) w.proxies i
    simp only [uncounted, recount, hproxies]
  | handle i =>
    have hhandles := map_modify_of_eq
      (f := fun h : Handle => { h with refs := { refs := h.refs.refs + d } })
      (g := Handle.uncounted) (fun _ => rfl) w.handles i
    simp only [uncounted, recount, hhandles]

/-- The other tables store what they stored. -/
theorem contents_of_aside (h : w'.aside i = w.aside i) (hj : j ≠ i) :
    (w'.table j).contents = (w.table j).contents := by
  have htables : (w'.uncounted.tables.modify i fun _ => {})[j]? =
      (w.uncounted.tables.modify i fun _ => {})[j]? :=
    congrArg (fun u : World β => u.tables[j]?) h
  rw [Array.getElem?_modify, Array.getElem?_modify, if_neg hj.symm, if_neg hj.symm] at htables
  have hcontents : (w'.tables[j]?).map Table.uncounted = (w.tables[j]?).map Table.uncounted := by
    rw [← Array.getElem?_map, ← Array.getElem?_map]
    exact htables
  rw [table, table, Array.getD_eq_getD_getElem?, Array.getD_eq_getD_getElem?]
  cases hw' : w'.tables[j]? with
  | none =>
    rw [hw'] at hcontents
    rw [Option.map_eq_none_iff.mp hcontents.symm]
  | some t' =>
    rw [hw'] at hcontents
    obtain ⟨t, ht, hsame⟩ := Option.map_eq_some_iff.mp hcontents.symm
    rw [ht]
    have hstored : t'.uncounted.contents = t.uncounted.contents :=
      congrArg Table.contents hsame.symm
    exact hstored

end World

/-! ### Giving back, whatever becomes of it -/

/-- Releasing an object gives its reference back. -/
theorem moves_release {o : ObjectRef} (ho : w.has o) :
    w.Moves (-(Variant.object o).charge) (perform (release o) w).2 := by
  by_cases hrefs : 1 ≤ w.refs o
  · obtain ⟨w', hrun, hmoves⟩ := perform_release_moves hrefs
    rw [hrun]
    exact hmoves
  · rw [perform_release_of_lt (by omega)]
    exact (World.moves_recount ho (-1)).congr fun a => by simp

/-- Releasing a value gives back what it is charged. -/
theorem moves_releaseVariant {v : Variant} (hv : w.Present v) :
    w.Moves (-v.charge) (perform (releaseVariant .memory v) w).2 := by
  have hplain (hno : ∀ o, v ≠ .object o) :
      w.Moves (-v.charge) (perform (releaseVariant .memory v) w).2 := by
    obtain ⟨w', hrun, hmoves⟩ := perform_releaseVariant_memory (w := w) fun o ho =>
      absurd ho (hno o)
    rw [hrun]
    exact hmoves
  cases v with
  | object o =>
    obtain ⟨w₁, hcount, hmoves⟩ := perform_countCall "ReleaseVariant" w
    unfold releaseVariant
    rw [if_pos rfl, perform_bind_ok hcount]
    exact (hmoves.trans (moves_release (hmoves.stays.has o (hv o rfl)))).congr fun a => by simp
  | _ => exact hplain nofun

/-- A release touches counts alone. -/
theorem leaves_uncounted_release (o : ObjectRef) :
    Leaves World.uncounted (release o : M β Unit) := by
  intro w
  by_cases hrefs : 1 ≤ w.refs o
  · obtain ⟨metrics, hrun⟩ := perform_release_eq hrefs
    rw [hrun]
    exact World.uncounted_recount o (-1) w
  · rw [perform_release_of_lt (by omega)]
    exact World.uncounted_recount o (-1) w

/-- So does releasing a value -/
theorem leaves_uncounted_releaseVariant (v : Variant) :
    Leaves World.uncounted (releaseVariant .memory v : M β Unit) := by
  unfold releaseVariant
  refine .bind (fun _ => rfl) fun _ => ?_
  cases v with
  | object o => exact leaves_uncounted_release o
  | string bytes => exact .bind (fun _ => rfl) fun _ => .modify fun _ => rfl
  | void | null | bool _ | int32 _ | double _ => exact .pure ()

namespace MemoryHost

/-- and copying one out. -/
theorem leaves_uncounted_copyOut (v : Variant) :
    Leaves World.uncounted (copyOut v : M β Variant) := by
  unfold copyOut
  cases v with
  | object o =>
    refine .bind (fun w => ?_) fun _ => .pure _
    rw [perform_retain_eq]
    exact World.uncounted_recount o 1 w
  | string bytes =>
    have halloc : Leaves World.uncounted (memAlloc .memory bytes.length : M β Bool) := by
      unfold memAlloc
      refine .bind (fun _ => rfl) fun _ => .bind .get fun w => ?_
      dsimp only
      split
      · exact .pure false
      · exact .bind (.modify fun _ => rfl) fun _ => .pure true
    refine .bind halloc fun given => ?_
    cases given with
    | true => exact .pure _
    | false => exact .pure _
  | void | null | bool _ | int32 _ | double _ => exact .pure _

/-! ### What a write changes -/

/-- `t'` is `t` with a variant under an identifier, and nothing in the
places before it that were not there. -/
def Written (t : Table) (id : Identifier) (v : Variant) (t' : Table) : Prop :=
  t'.isArray = t.isArray ∧
    match id with
    | .name k => t'.elems = t.elems ∧ ∀ k', t'.props.find? k' = if k' = k then some v
    else t.props.find? k'
    | .index n => t'.props = t.props ∧ t'.elems.size = max t.elems.size (n.toInt.toNat + 1) ∧
        ∀ j < t'.elems.size, t'.elems[j]? =
        some (if j = n.toInt.toNat then v else t.elems.getD j .void)

/-- Putting a value into a table writes it there. -/
theorem written_put (t : Table) (id : Identifier) (v : Variant) : Written t id v (put t v id) := by
  cases id with
  | name k =>
    refine ⟨rfl, rfl, fun k' => ?_⟩
    show (t.props.insert k v).find? k' = _
    rw [Dict.find?_insert]
  | index n =>
    have hsize : ((padTo n.toInt.toNat t).elems.setIfInBounds n.toInt.toNat v).size =
        max t.elems.size (n.toInt.toNat + 1) := by rw [Array.size_setIfInBounds, size_padTo]
    refine ⟨isArray_padTo .., props_padTo .., hsize, ?_⟩
    intro j hj
    show ((padTo n.toInt.toNat t).elems.setIfInBounds n.toInt.toNat v)[j]? = _
    have hpadded : j < (padTo n.toInt.toNat t).elems.size := by
      rw [size_padTo, ← hsize]
      exact hj
    -- An old place has what it had, and a new one that is not written nothing.
    by_cases hplace : j = n.toInt.toNat
    · subst hplace
      rw [Array.getElem?_setIfInBounds_self_of_lt hpadded, if_pos rfl]
    · rw [Array.getElem?_setIfInBounds_ne (Ne.symm hplace), if_neg hplace,
        ← getD_padTo t n.toInt.toNat j, Array.getD_eq_getD_getElem?,
        Array.getElem?_eq_getElem hpadded, Option.getD_some]

/-- Only what a table stores matters. -/
theorem Written.congr {t t₁ t' t₂ : Table} {id : Identifier} {v : Variant} (h : Written t id v t')
    (hbefore : t₁.contents = t.contents) (hafter : t₂.contents = t'.contents) :
    Written t₁ id v t₂ := by
  simp only [Table.contents, Prod.mk.injEq] at hbefore hafter
  simp only [Written, hbefore, hafter]
  exact h

/-- A change of a table leaves everything beside it. -/
theorem leaves_aside_modifyTable (i : Nat) (f : Table → Table) :
    Leaves (World.aside i) (modifyTable i f : M β Unit) := by
  refine .modify fun w => ?_
  have htables : ((w.tables.modify i f).map Table.uncounted).modify i (fun _ => {}) =
      (w.tables.map Table.uncounted).modify i fun _ => {} := by
    refine Array.ext_getElem? fun j => ?_
    simp only [Array.getElem?_modify, Array.getElem?_map]
    split
    · cases w.tables[j]? <;> rfl
    · rfl
  simp only [Same, World.aside, World.uncounted, htables]

/-- What is no count is left alone aside from a table, if it is everywhere. -/
theorem leaves_aside {α : Type} {act : M β α} (i : Nat) (h : Leaves World.uncounted act) :
    Leaves (World.aside i) act :=
  h.map fun u : World β => { u with tables := u.tables.modify i fun _ => {} }

/-- So does writing to one, -/
theorem leaves_aside_tableSet (i : Nat) (id : Identifier) (v : Variant) :
    Leaves (World.aside i) (tableSet i id v : M β Unit) := by
  unfold tableSet
  refine .bind .get fun w => ?_
  have hback (old : Variant) : Leaves (World.aside i) (releaseVariant .memory old : M β Unit) :=
    leaves_aside i (leaves_uncounted_releaseVariant old)
  cases id with
  | index n =>
    exact .bind (leaves_aside_modifyTable i _) fun _ => .bind (hback _) fun _ =>
      leaves_aside_modifyTable i _
  | name k =>
    dsimp only
    split
    · exact .bind (hback _) fun _ => leaves_aside_modifyTable i _
    · exact leaves_aside_modifyTable i _

section

variable [Native β]

/-- A write to a table of a host that always has bytes changes one slot. -/
structure WritesOneSlot (ops : HostOps β) (w : World β) (i : Nat) (id : Identifier)
    (v : Variant) : Prop where
  /-- A write has an answer, while what slots hold can be given back. -/
  answers : w.Solvent → ∃ done w', perform (setProperty ops (.table i) id v) w = (.ok done, w')
  /-- It is done wherever there is a place for it. -/
  done_iff : ∀ done w', perform (setProperty ops (.table i) id v) w = (.ok done, w') →
    (done = true ↔ HasPlace (w.table i) id)
  /-- The slot then holds what was written, and the other slots of the table
  what they held. -/
  written : ∀ w', perform (setProperty ops (.table i) id v) w = (.ok true, w') →
    Written (w.table i) id v (w'.table i)
  /-- References and bytes are those the slot holds now, in place of those
  it held before. -/
  counts : ∀ w', perform (setProperty ops (.table i) id v) w = (.ok true, w') →
    ∀ a, w'.balance a = w.balance a + v.charge a - (standing (w.table i) id).charge a
  /-- Other tables store what they stored, whatever becomes of the write, -/
  others : ∀ r w', perform (setProperty ops (.table i) id v) w = (r, w') →
    ∀ j, j ≠ i → (w'.table j).contents = (w.table j).contents
  /-- and so it is with everything that is no count. -/
  rest : ∀ r w', perform (setProperty ops (.table i) id v) w = (r, w') → w'.aside i = w.aside i
  /-- A write that has no place changes no slot and no count. -/
  unchanged : ¬HasPlace (w.table i) id → ∀ r w',
    perform (setProperty ops (.table i) id v) w = (r, w') → w'.uncounted = w.uncounted ∧ ∀ a,
    w'.balance a = w.balance a
  /-- It says so, if what was to be written has no fewer references than
  none. -/
  refused : ¬HasPlace (w.table i) id → (∀ o, v = .object o → 0 ≤ w.refs o) →
    ∃ w', perform (setProperty ops (.table i) id v) w = (.ok false, w')

/-- A write that has a place changes no other slot. -/
theorem written_of_perform_setProperty (ops : HostOps β) {i : Nat} (hi : w.has (.table i))
    {id : Identifier} {v : Variant} (hv : w.Present v) (hlimit : w.memory.allocLimit ≤ 0)
    (hplace : HasPlace (w.table i) id)
    (h : perform (setProperty ops (.table i) id v) w = (.ok true, w')) :
    Written (w.table i) id v (w'.table i) ∧
      ∀ a, w'.balance a = w.balance a + v.charge a - (standing (w.table i) id).charge a := by
  obtain ⟨w₁, hmoves, hstores, _⟩ := perform_setProperty_table ops i id hv
  -- Without a limit the copy that is stored is the value.
  have hcopied : w.memory.copied v = v := (copied_eq_iff ..).mpr fun ⟨hpos, _⟩ => by omega
  rw [hcopied] at hmoves hstores
  rw [hstores hplace] at h
  obtain ⟨_, w₂, hset, hdone⟩ := exists_of_perform_bind h
  cases hdone
  have hsize : i < w₁.tables.size := hmoves.size ▸ of_decide_eq_true hi
  obtain ⟨hput, hcounts⟩ := put_of_perform_tableSet hsize hset
  have hkept := hmoves.contents_eq i
  -- Making the copy changes no slot, so what stood there still does.
  have hstanding : standing (w₁.table i) id = standing (w.table i) id := by
    simp only [Table.contents, Prod.mk.injEq] at hkept
    cases id <;> simp only [standing, hkept]
  constructor
  · exact (written_put (w₁.table i) id v).congr hkept.symm hput
  · intro a
    rw [hcounts, hmoves.balance, hstanding]

/-- and so does the host's write. -/
theorem leaves_aside_setProperty (ops : HostOps β) (i : Nat) (id : Identifier) (v : Variant)
    (w : World β) :
    (perform (setProperty ops (.table i) id v) w).2.aside i = w.aside i := by
  have hcopy : Leaves (World.aside i) (copyOut v : M β Variant) :=
    leaves_aside i (leaves_uncounted_copyOut v)
  rw [perform_setProperty_eq]
  refine Obeys.bind (R := Same (World.aside i)) (fun _ => rfl) (fun _ => hcopy.bind fun copy => ?_)
    w
  split
  · exact (leaves_aside_tableSet i id copy).bind fun _ => .pure _
  · exact (leaves_aside i (leaves_uncounted_releaseVariant copy)).bind fun _ => .pure _

/-- The copy is given back when there is no place for it, and then nothing
was counted. -/
theorem unchanged_of_not_hasPlace (ops : HostOps β) {i : Nat} {id : Identifier} {v : Variant}
    (hv : w.Present v) (hplace : ¬HasPlace (w.table i) id) :
    (perform (setProperty ops (.table i) id v) w).2.uncounted = w.uncounted ∧
      ∀ a, (perform (setProperty ops (.table i) id v) w).2.balance a = w.balance a := by
  constructor
  · rw [perform_setProperty_eq]
    simp only [if_neg hplace]
    exact Obeys.bind (R := Same World.uncounted) (fun _ => rfl) (fun _ =>
      (leaves_uncounted_copyOut v).bind fun _ =>
      (leaves_uncounted_releaseVariant _).bind fun _ => .pure _) w
  · intro a
    obtain ⟨w₁, hmoves, _, hreturns⟩ := perform_setProperty_table ops i id hv
    rw [hreturns hplace]
    have hback := moves_releaseVariant ((present_copied hv).stays hmoves.stays)
    -- What it answers makes no difference.
    have hworld : (perform (do releaseVariant .memory (w.memory.copied v); return false) w₁).2 =
        (perform (releaseVariant .memory (w.memory.copied v)) w₁).2 := by
      rw [perform_bind]
      cases perform (releaseVariant .memory (w.memory.copied v)) w₁ with
      | mk r w₂ => cases r <;> rfl
    rw [hworld, hback.balance, hmoves.balance, Pi.neg_apply]
    omega

/-- A write that has no place is refused, and the table stays. -/
theorem refused_of_not_hasPlace (ops : HostOps β) {i : Nat} {id : Identifier} {v : Variant}
    (hv : w.Present v) (hplace : ¬HasPlace (w.table i) id)
    (hrefs : ∀ o, v = .object o → 0 ≤ w.refs o) :
    ∃ w', perform (setProperty ops (.table i) id v) w = (.ok false, w') := by
  obtain ⟨w₁, hmoves, _, hreturns⟩ := perform_setProperty_table ops i id hv
  have hheld (o : ObjectRef) (ho : w.memory.copied v = .object o) : 1 ≤ w₁.refs o := by
    have hone : (w.memory.copied v).charge (.refs o) = 1 := ho ▸ Variant.charge_object_self o
    have hcount : w₁.refs o = w.refs o + (w.memory.copied v).charge (.refs o) :=
      hmoves.balance (.refs o)
    have := hrefs o (eq_object_of_copied ho)
    omega
  obtain ⟨w₂, hrelease, _⟩ := perform_releaseVariant_memory hheld
  rw [hreturns hplace]
  exact ⟨w₂, perform_bind_ok hrelease _⟩

/-- A write to the in-memory host changes one slot, whatever refers to
whatever. -/
theorem writesOneSlot (ops : HostOps β) {i : Nat} (hi : w.has (.table i)) (id : Identifier)
    {v : Variant} (hv : w.Present v) (hlimit : w.memory.allocLimit ≤ 0) :
    WritesOneSlot ops w i id v := by
  -- Whether it is written depends on there being a place, so the other clauses follow case by case.
  have hdone (done : Bool) (w' : World β) (h : perform (setProperty ops (.table i) id v) w =
      (.ok done, w')) :
      done = true ↔ HasPlace (w.table i) id := done_iff_of_perform_setProperty ops hv h
  have hrest (r : Except Unwind Bool) (w' : World β)
      (h : perform (setProperty ops (.table i) id v) w = (r, w')) :
      w'.aside i = w.aside i := by
    have haside := leaves_aside_setProperty ops i id v w
    rwa [h] at haside
  constructor
  case answers =>
    intro hw
    obtain ⟨done, w', hrun, _⟩ := perform_setProperty ops hw ⟨hi, nofun⟩ id hv
    exact ⟨done, w', hrun⟩
  case done_iff => exact hdone
  case written =>
    intro w' h
    exact (written_of_perform_setProperty ops hi hv hlimit ((hdone true w' h).mp rfl) h).1
  case counts =>
    intro w' h
    exact (written_of_perform_setProperty ops hi hv hlimit ((hdone true w' h).mp rfl) h).2
  case others =>
    intro r w' h j hj
    exact World.contents_of_aside (hrest r w' h) hj
  case rest => exact hrest
  case unchanged =>
    intro hplace r w' h
    have hunchanged := unchanged_of_not_hasPlace ops hv hplace
    rwa [h] at hunchanged
  case refused => exact refused_of_not_hasPlace ops hv

end

/-! ### An array in itself -/

/-- An array that somebody holds, and that is its own element. -/
def ring : World Behaviour :=
  { tables := #[{}, { refs := { refs := 2 }, isArray := true, elems := #[.object (.table 1)] }] }

/-- It is stored in itself once more, in the fourth place; then it takes its
own place; and there is no place before the first. -/
theorem writesOneSlot_ring :
    ring.has (.table 1) ∧ ring.Present (.object (.table 1)) ∧ ring.memory.allocLimit ≤ 0 ∧
      (∀ id, WritesOneSlot host ring 1 id (.object (.table 1))) ∧
      (∃ w', perform (setProperty host (.table 1) (.index 3) (.object (.table 1))) ring =
        (.ok true, w') ∧ (w'.table 1).elems = #[.object (.table 1), .void, .void,
          .object (.table 1)] ∧ w'.refs (.table 1) = 3) ∧
      (∃ w', perform (setProperty host (.table 1) (.index 0) (.object (.table 1))) ring =
        (.ok true, w') ∧ (w'.table 1).elems = #[.object (.table 1)] ∧ w'.refs (.table 1) = 2) ∧
      ∃ w', perform (setProperty host (.table 1) (.index (-1)) (.object (.table 1))) ring =
        (.ok false, w') ∧ (w'.table 1).elems = #[.object (.table 1)] ∧ w'.refs (.table 1) = 2 := by
  have hpresent : ring.Present (.object (.table 1)) := by
    intro o ho
    cases ho
    rfl
  have hlimit : ring.memory.allocLimit ≤ 0 := Int.le_refl 0
  exact ⟨rfl, hpresent, hlimit, fun id => writesOneSlot host rfl id hpresent hlimit,
    ⟨_, rfl, rfl, rfl⟩, ⟨_, rfl, rfl, rfl⟩, _, rfl, rfl, rfl⟩

end MemoryHost

end ObjectBridge

import ObjectBridge.Proofs.Bridge.Books
import ObjectBridge.Proofs.Bridge.Keeps
import ObjectBridge.Proofs.Data.Dict

/-!
# `ObjectBridge.Proofs.Bridge.Holdings`: what the slots of the in-memory host hold

A reference to an object, and a byte given out, is with somebody: with a
slot of a table (a property or an element), or with whoever uses the host.
`Account` names what is counted, `Variant.charge` says what one variant
holds, and `World.lent` is what all slots leave unexplained.

Operations of the host move what they hold around. `World.Trades w n w'`
says that `n` more is lent in `w'` than in `w`, and adds up along an
operation. `World.Moves` says the same of an operation that leaves every
slot alone: taking and giving back are such operations.
-/

set_option autoImplicit false

namespace ObjectBridge

variable {α β : Type} {w w' w'' : World β}

/-! ### What is counted -/

/-- Something that is counted: the references to one object, or the bytes
given out. -/
inductive Account
  | refs (o : ObjectRef)
  | bytes

/-- What a variant holds of it. -/
def Variant.charge (v : Variant) : Account → Int
  | .refs o => holds v o
  | .bytes => v.asBytes.length

/-- What variants hold of it together. -/
def charges (vs : List Variant) (a : Account) : Int := (vs.map (·.charge a)).sum

/-- Nothing is charged less than nothing. -/
theorem Variant.charge_nonneg (v : Variant) (a : Account) : 0 ≤ v.charge a := by
  cases a with
  | refs o => exact Holds.nonneg v o
  | bytes => exact Int.natCast_nonneg _

/-- An object is held once by who holds it. -/
theorem Variant.charge_object_self (o : ObjectRef) : (Variant.object o).charge (.refs o) = 1 :=
  if_pos rfl

/-- Void costs nothing. -/
@[simp] theorem Variant.charge_void (a : Account) : Variant.void.charge a = 0 := by cases a <;> rfl

/-- Neither do no variants. -/
@[simp] theorem charges_nil (a : Account) : charges [] a = 0 := rfl

/-- The charges of variants add up. -/
@[simp] theorem charges_cons (v : Variant) (vs : List Variant) (a : Account) :
    charges (v :: vs) a = v.charge a + charges vs a := rfl

/-- So do those of two lists. -/
@[simp] theorem charges_append (vs vs' : List Variant) (a : Account) :
    charges (vs ++ vs') a = charges vs a + charges vs' a := by
  simp only [charges, List.map_append, List.sum_append]

/-- They are not negative together. -/
theorem charges_nonneg (vs : List Variant) (a : Account) : 0 ≤ charges vs a := by
  induction vs with
  | nil => exact Int.le_refl 0
  | cons v rest ih => exact Int.add_nonneg (v.charge_nonneg a) ih

/-- Each is part of the sum. -/
theorem charge_le_charges {v : Variant} {vs : List Variant} (h : v ∈ vs) (a : Account) :
    v.charge a ≤ charges vs a := by
  obtain ⟨before, after, rfl⟩ := List.append_of_mem h
  have := charges_nonneg before a
  have := charges_nonneg after a
  rw [charges_append, charges_cons]
  omega

/-- An element taken out takes what it holds along. -/
theorem charges_eraseIdx {vs : List Variant} {place : Nat} {v : Variant} (h : vs[place]? = some v)
    (a : Account) :
    charges (vs.eraseIdx place) a + v.charge a = charges vs a := by
  induction vs generalizing place with
  | nil => cases h
  | cons x rest ih =>
    cases place with
    | zero =>
      cases h
      rw [List.eraseIdx_cons_zero, charges_cons]
      omega
    | succ place =>
      have := ih h
      rw [List.eraseIdx_cons_succ, charges_cons, charges_cons]
      omega

/-- An element that is replaced leaves its place to what replaces it. -/
theorem charges_set {vs : List Variant} {place : Nat} (h : place < vs.length) (v : Variant)
    (a : Account) :
    charges (vs.set place v) a + (vs[place]).charge a = charges vs a + v.charge a := by
  induction vs generalizing place with
  | nil => exact absurd h (Nat.not_lt_zero _)
  | cons x rest ih =>
    cases place with
    | zero =>
      rw [List.set_cons_zero, List.getElem_cons_zero, charges_cons, charges_cons]
      omega
    | succ place =>
      have := ih (Nat.lt_of_succ_lt_succ h)
      rw [List.set_cons_succ, List.getElem_cons_succ, charges_cons, charges_cons]
      omega

/-- Padding costs nothing. -/
theorem charges_replicate_void (n : Nat) (a : Account) :
    charges (List.replicate n .void) a = 0 := by
  induction n with
  | zero => rfl
  | succ n ih => rw [List.replicate_succ, charges_cons, ih, Variant.charge_void, Int.add_zero]

/-- A value stored under a key takes the place of the one that was there. -/
theorem charges_insert (d : Dict Bytes Variant) (k : Bytes) (v : Variant) (a : Account) :
    charges ((d.insert k v).entries.map Prod.snd) a + charges (d.find? k).toList a =
      charges (d.entries.map Prod.snd) a + v.charge a := by
  simpa only [charges, List.map_map, Function.comp_def] using d.sum_insert k v fun _ => (·.charge a)

/-- How many of the variants refer to an object. -/
def refsIn (vs : List Variant) (o : ObjectRef) : Nat := vs.countP fun v => v.object? = some o

/-- How many bytes the strings among the variants have. -/
def bytesIn (vs : List Variant) : Nat := (vs.map fun v => v.asBytes.length).sum

/-- Charged to an object are the references to it. -/
theorem charges_refs (vs : List Variant) (o : ObjectRef) : charges vs (.refs o) = refsIn vs o := by
  induction vs with
  | nil => rfl
  | cons v rest ih =>
    rw [charges_cons, ih, refsIn, refsIn, List.countP_cons]
    have hone : v.charge (.refs o) = if v.object? = some o then 1 else 0 := by
      cases v <;> simp [Variant.charge, Variant.object?, holds, one, eq_comm]
    rw [hone]
    split <;> simp_all
    omega

/-- Charged to the bytes are those of the strings. -/
theorem charges_bytes (vs : List Variant) : charges vs .bytes = bytesIn vs := by
  induction vs with
  | nil => rfl
  | cons v rest ih =>
    rw [charges_cons, ih, bytesIn, bytesIn, List.map_cons, List.sum_cons]
    rfl

/-! ### Slots -/

/-- What a table stores. -/
def Table.slots (t : Table) : List Variant := t.props.entries.map Prod.snd ++ t.elems.toList

/-- A table without its count. -/
def Table.contents (t : Table) : Dict Bytes Variant × Array Variant × Bool :=
  (t.props, t.elems, t.isArray)

/-- The slots of a table are in its contents. -/
theorem Table.slots_congr {t t' : Table} (h : t'.contents = t.contents) : t'.slots = t.slots := by
  obtain ⟨hprops, helems, _⟩ : t'.props = t.props ∧ t'.elems = t.elems ∧
      t'.isArray = t.isArray := by
    simpa [contents] using h
  rw [slots, slots, hprops, helems]

namespace World

/-- What all tables store. -/
def slots (w : World β) : List Variant := w.tables.toList.flatMap Table.slots

/-- How much there is of it. -/
def balance (w : World β) : Account → Int
  | .refs o => w.refs o
  | .bytes => w.memory.allocated

/-- How much of it the slots leave unexplained. -/
def lent (w : World β) (a : Account) : Int := w.balance a - charges w.slots a

/-- Nothing is lent out twice: of no object there are more references in
slots than there are. -/
def Solvent (w : World β) : Prop := ∀ o, 0 ≤ w.lent (.refs o)

/-- An object that a variant refers to is there. -/
def Present (w : World β) (v : Variant) : Prop := ∀ o, v = .object o → w.has o

/-- An object in a slot is held. -/
theorem Solvent.refs_of_slot {v : Variant} {o : ObjectRef} (h : w.Solvent) (hv : v ∈ w.slots)
    (ho : v = .object o) :
    1 ≤ w.refs o := by
  subst ho
  have hslot : (Variant.object o).charge (.refs o) ≤ charges w.slots (.refs o) :=
    charge_le_charges hv _
  have hone := Variant.charge_object_self o
  have hlent : w.lent (.refs o) = w.refs o - charges w.slots (.refs o) := rfl
  have := h o
  omega

/-- What is in a slot is there. -/
theorem Solvent.present {v : Variant} (h : w.Solvent) (hv : v ∈ w.slots) : w.Present v := by
  intro o ho
  have := h.refs_of_slot hv ho
  exact has_of_refs (by omega)

/-- Who is lent a reference can give it back. -/
theorem refs_of_lent {v : Variant} {o : ObjectRef} (h : v.charge (.refs o) ≤ w.lent (.refs o))
    (ho : v = .object o) :
    1 ≤ w.refs o := by
  subst ho
  have hone := Variant.charge_object_self o
  have hlent : w.lent (.refs o) = w.refs o - charges w.slots (.refs o) := rfl
  have := charges_nonneg w.slots (.refs o)
  omega

/-- What a table stores is stored. -/
theorem mem_slots {i : Nat} {v : Variant} (h : v ∈ (w.table i).slots) : v ∈ w.slots := by
  rw [table, Array.getD_eq_getD_getElem?] at h
  cases hi : w.tables[i]? with
  | none =>
    rw [hi] at h
    cases h
  | some t =>
    rw [hi] at h
    have ht : t ∈ w.tables.toList := Array.mem_def.mp (Array.mem_of_getElem? hi)
    exact List.mem_flatMap.mpr ⟨t, ht, h⟩

/-- Changing one table changes what all store by what it stores. -/
theorem charges_slots_modify {i : Nat} (hi : i < w.tables.size) (f : Table → Table) (a : Account) :
    charges (slots { w with tables := w.tables.modify i f }) a + charges (w.table i).slots a =
      charges w.slots a + charges (f (w.table i)).slots a := by
  -- By induction on the tables up to the one that is changed.
  have hlists (l : List Table) (i : Nat) (hi : i < l.length) :
      charges ((l.modify i f).flatMap Table.slots) a + charges l[i].slots a =
        charges (l.flatMap Table.slots) a + charges (f l[i]).slots a := by
    induction l generalizing i with
    | nil => exact absurd hi (Nat.not_lt_zero _)
    | cons t rest ih =>
      cases i with
      | zero =>
        simp only [List.modify_zero_cons, List.flatMap_cons, charges_append, List.getElem_cons_zero]
        omega
      | succ i =>
        have := ih i (Nat.lt_of_succ_lt_succ hi)
        simp only [List.modify_succ_cons, List.flatMap_cons, charges_append, List.getElem_cons_succ]
        omega
  have hlist : i < w.tables.toList.length := by simpa using hi
  have hget : w.table i = w.tables.toList[i] := by
    rw [table, Array.getD_eq_getD_getElem?, Array.getElem?_eq_getElem hi, Option.getD_some,
      Array.getElem_toList]
  rw [hget, slots, slots, Array.toList_modify]
  exact hlists _ i hlist

/-! ### Moving what is held -/

/-- Objects stay, and so does how the host is set up. -/
structure Stays (w w' : World β) : Prop where
  has : ∀ o, w.has o → w'.has o
  window : w'.memory.window = w.memory.window
  scripts : w'.memory.scripts = w.memory.scripts

/-- A world keeps what it has. -/
theorem Stays.refl (w : World β) : w.Stays w := ⟨fun _ h => h, rfl, rfl⟩

/-- It keeps it on and on. -/
theorem Stays.trans (h : w.Stays w') (h' : w'.Stays w'') : w.Stays w'' where
  has o ho := h'.has o (h.has o ho)
  window := h'.window.trans h.window
  scripts := h'.scripts.trans h.scripts

/-- `n` more is lent than before. -/
structure Trades (w : World β) (n : Account → Int) (w' : World β) : Prop where
  stays : w.Stays w'
  lent : ∀ a, w'.lent a = w.lent a + n a

/-- There is `n` more than before, and every table stores what it stored. -/
structure Moves (w : World β) (n : Account → Int) (w' : World β) : Prop where
  stays : w.Stays w'
  balance : ∀ a, w'.balance a = w.balance a + n a
  contents : w'.tables.map Table.contents = w.tables.map Table.contents

variable {n m : Account → Int}

/-- What two steps take in adds up. -/
theorem Trades.trans (h : w.Trades n w') (h' : w'.Trades m w'') : w.Trades (n + m) w'' where
  stays := h.stays.trans h'.stays
  lent a := by rw [h'.lent, h.lent, Pi.add_apply, Int.add_assoc]

/-- Only the numbers count. -/
theorem Trades.congr (h : w.Trades n w') (hn : ∀ a, n a = m a) : w.Trades m w' := funext hn ▸ h

/-- Nothing was moved. -/
theorem Moves.refl (w : World β) : w.Moves 0 w := ⟨.refl w, fun _ => (Int.add_zero _).symm, rfl⟩

/-- What two steps move adds up. -/
theorem Moves.trans (h : w.Moves n w') (h' : w'.Moves m w'') : w.Moves (n + m) w'' where
  stays := h.stays.trans h'.stays
  balance a := by rw [h'.balance, h.balance, Pi.add_apply, Int.add_assoc]
  contents := h'.contents.trans h.contents

/-- Only the numbers count. -/
theorem Moves.congr (h : w.Moves n w') (hn : ∀ a, n a = m a) : w.Moves m w' := funext hn ▸ h

/-- No table changes. -/
theorem Moves.contents_eq (h : w.Moves n w') (i : Nat) :
    (w'.table i).contents = (w.table i).contents := by
  have hi : (w'.tables.map Table.contents)[i]? = (w.tables.map Table.contents)[i]? := by
    rw [h.contents]
  rw [Array.getElem?_map, Array.getElem?_map] at hi
  rw [table, table, Array.getD_eq_getD_getElem?, Array.getD_eq_getD_getElem?]
  cases h' : w'.tables[i]? <;> cases h : w.tables[i]? <;> simp_all

/-- There are as many tables. -/
theorem Moves.size (h : w.Moves n w') : w'.tables.size = w.tables.size := by
  simpa using congrArg Array.size h.contents

/-- The slots are the same. -/
theorem Moves.slots_eq (h : w.Moves n w') : w'.slots = w.slots := by
  have hmap (u : World β) : u.slots = (u.tables.map Table.contents).toList.flatMap
      fun c => c.1.entries.map Prod.snd ++ c.2.1.toList := by
    simp only [slots, Table.contents, Array.toList_map, List.flatMap_map]
    rfl
  rw [hmap, hmap, h.contents]

/-- What is not stored is lent. -/
theorem Moves.trades (h : w.Moves n w') : w.Trades n w' where
  stays := h.stays
  lent a := by
    rw [lent, lent, h.balance, h.slots_eq]
    omega

/-- A world stays solvent that gives no reference away. -/
theorem Trades.solvent (h : w.Trades n w') (hw : w.Solvent) (hn : ∀ o, 0 ≤ n (.refs o)) :
    w'.Solvent := by
  intro o
  have := hw o
  have := hn o
  rw [h.lent]
  omega

/-- What is there stays there. -/
theorem Present.stays {v : Variant} (h : w.Present v) (hs : w.Stays w') : w'.Present v :=
  fun o ho => hs.has o (h o ho)

/-- A change that touches neither objects nor the host. -/
theorem Moves.of_eq (htables : w'.tables = w.tables) (hproxies : w'.proxies = w.proxies)
    (hhandles : w'.handles = w.handles) (hmemory : w'.memory.window = w.memory.window ∧
      w'.memory.scripts = w.memory.scripts ∧ w'.memory.allocated = w.memory.allocated) :
      w.Moves 0 w' where
  stays := {
    has := fun o ho => by cases o <;> simpa only [has, htables, hproxies, hhandles] using ho
    window := hmemory.1
    scripts := hmemory.2.1 }
  balance a := by
    rw [Pi.zero_apply, Int.add_zero]
    cases a with
    | refs o =>
      cases o <;> simp only [World.balance, refs, table, proxy, htables, hproxies, hhandles]
    | bytes => simp only [World.balance, hmemory.2.2]
  contents := by rw [htables]

/-- Counting references to an object that is there. -/
theorem moves_recount {o : ObjectRef} (h : w.has o) (d : Int) :
    w.Moves (fun a => d * (Variant.object o).charge a) (w.recount o d) where
  stays := {
    has := fun x hx => by
      cases o <;> cases x <;>
        exact decide_eq_true (by simpa [World.has, recount] using hx)
    window := by cases o <;> rfl
    scripts := by cases o <;> rfl }
  balance a := by
    cases a with
    | refs x =>
      show (w.recount o d).refs x = w.refs x + d * one o x
      rw [refs_recount h, one]
      split <;> simp
    | bytes =>
      have hbytes : (Variant.object o).charge .bytes = 0 := rfl
      rw [hbytes, Int.mul_zero, Int.add_zero]
      cases o <;> rfl
  -- A table that is counted keeps what it contains.
  contents := by
    cases o with
    | table i =>
      refine Array.ext_getElem? fun j => ?_
      rw [Array.getElem?_map, Array.getElem?_map, recount, Array.getElem?_modify]
      split
      · cases w.tables[j]? <;> rfl
      · rfl
    | proxy i => rfl
    | handle i => rfl

/-- More bytes, or fewer, are given out. -/
theorem moves_bytes (bytes : Bytes) {d : Int} {w' : World β}
    (h : w' = { w with memory := { w.memory with allocated := w.memory.allocated + d *
      bytes.length } }) :
    w.Moves (fun a => d * (Variant.string bytes).charge a) w' where
  stays := by
    subst h
    exact ⟨fun _ h => h, rfl, rfl⟩
  balance a := by
    subst h
    cases a with
    | refs o =>
      show w.refs o = w.refs o + d * 0
      omega
    | bytes => rfl
  contents := by rw [h]

end World

/-! ### Operations on what is held -/

open World (Moves Trades Stays)

/-- Counting a call moves nothing. -/
theorem perform_countCall (name : String) (w : World β) :
    ∃ w', perform (countCall name) w = (.ok (), w') ∧ w.Moves 0 w' :=
  ⟨_, rfl, .of_eq rfl rfl rfl ⟨rfl, rfl, rfl⟩⟩

/-- The host gives out the bytes of a string, or does not. -/
theorem perform_memAlloc_memory (bytes : Bytes) (w : World β) :
    ∃ given w', perform (memAlloc .memory bytes.length) w = (.ok given, w') ∧
      w.Moves (if given then (Variant.string bytes).charge else 0) w' := by
  obtain ⟨w₁, hcount, hmoves⟩ := perform_countCall "MemAlloc" w
  unfold memAlloc
  rw [perform_bind_ok hcount, perform_bind_ok (perform_get w₁)]
  dsimp only
  split
  · exact ⟨false, w₁, rfl, hmoves.congr fun _ => rfl⟩
  · refine ⟨true, _, rfl, (hmoves.trans (World.moves_bytes bytes (d := 1) ?_)).congr fun a => by
      simp⟩
    rw [Int.one_mul]

/-- Taking a reference has one result. -/
theorem perform_retain_eq (o : ObjectRef) (w : World β) :
    perform (retain o) w = (.ok (), w.recount o 1) := by
  cases o <;> rfl

/-- Whoever takes a reference has it from the host. -/
theorem perform_retain_moves {o : ObjectRef} (h : w.has o) :
    ∃ w', perform (retain o) w = (.ok (), w') ∧ w.Moves (Variant.object o).charge w' :=
  ⟨_, perform_retain_eq o w, (World.moves_recount h 1).congr fun _ => Int.one_mul _⟩

/-- What is held can be given back. -/
theorem perform_release_moves {o : ObjectRef} (h : 1 ≤ w.refs o) :
    ∃ w', perform (release o) w = (.ok (), w') ∧ w.Moves (-(Variant.object o).charge) w' := by
  obtain ⟨metrics, hrun⟩ := perform_release_eq h
  have hhas : w.has o := World.has_of_refs (by omega)
  have hdown := World.moves_recount hhas (-1)
  have hmetrics : (w.recount o (-1)).Moves 0 { w.recount o (-1) with metrics } :=
    .of_eq rfl rfl rfl ⟨rfl, rfl, rfl⟩
  exact ⟨_, hrun, (hdown.trans hmetrics).congr fun a => by simp⟩

/-- A variant is given back, when there is still a reference for it. -/
theorem perform_releaseVariant_memory {v : Variant} (h : ∀ o, v = .object o → 1 ≤ w.refs o) :
    ∃ w', perform (releaseVariant .memory v) w = (.ok (), w') ∧ w.Moves (-v.charge) w' := by
  obtain ⟨w₁, hcount, hmoves⟩ := perform_countCall "ReleaseVariant" w
  unfold releaseVariant
  rw [if_pos rfl, perform_bind_ok hcount]
  -- Only strings and objects hold something.
  have hnothing (hv : ∀ a, v.charge a = 0) : w.Moves (-v.charge) w₁ :=
    hmoves.congr fun a => by simp [hv]
  cases v with
  | string bytes =>
    obtain ⟨w₂, hfree, hmoves₂⟩ := perform_countCall "MemFree" w₁
    have hbytes : w₂.memory.allocated - bytes.length = w₂.memory.allocated + -1 * bytes.length := by
      omega
    refine ⟨_, perform_bind_ok hfree _, ?_⟩
    exact ((hmoves.trans hmoves₂).trans
      (World.moves_bytes bytes (d := -1) (by rw [← hbytes]))).congr fun a => by simp
  | object o =>
    have hrefs : 1 ≤ w₁.refs o := by
      have hbalance : w₁.refs o = w.refs o + 0 := hmoves.balance (.refs o)
      have := h o rfl
      omega
    obtain ⟨w₂, hrelease, hmoves₂⟩ := perform_release_moves hrefs
    exact ⟨w₂, hrelease, (hmoves.trans hmoves₂).congr fun a => by simp⟩
  | void => exact ⟨w₁, rfl, hnothing fun a => by cases a <;> rfl⟩
  | null => exact ⟨w₁, rfl, hnothing fun a => by cases a <;> rfl⟩
  | bool b => exact ⟨w₁, rfl, hnothing fun a => by cases a <;> rfl⟩
  | int32 n => exact ⟨w₁, rfl, hnothing fun a => by cases a <;> rfl⟩
  | double d => exact ⟨w₁, rfl, hnothing fun a => by cases a <;> rfl⟩

/-- A string in the host's bytes, or none. -/
theorem perform_valueFromString_memory (bytes : Bytes) (w : World β) :
    ∃ r w', perform (valueFromString .memory bytes) w = (.ok r, w') ∧
      w.Moves (charges r.toOption.toList) w' ∧ ∀ v, r = .ok v → v = .string bytes := by
  unfold valueFromString
  split
  case isTrue hempty =>
    subst hempty
    refine ⟨_, w, rfl, (Moves.refl w).congr fun a => ?_, fun v hv => by cases hv; rfl⟩
    cases a <;> rfl
  case isFalse =>
    obtain ⟨given, w', hrun, hmoves⟩ := perform_memAlloc_memory bytes w
    rw [perform_bind_ok hrun]
    cases given with
    | true => exact ⟨_, w', rfl, hmoves.congr fun a => (Int.add_zero _).symm, fun v hv => by
      cases hv; rfl⟩
    | false => exact ⟨_, w', rfl, hmoves.congr fun _ => rfl, fun v hv => by cases hv⟩

end ObjectBridge

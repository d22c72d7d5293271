import ObjectBridge.Proofs.Manifest.Overlay

/-!
# `ObjectBridge.Proofs.Manifest.Reordering`: siblings in another order

`Reordered l l'` says that two lists of namespaces differ only in the order
of siblings, at whatever depth. What a walk comes to is the same then, in
another order (`Reordered.lines_perm`).

`sorted` puts siblings in the order of their names. Among namespaces whose
names differ there is one such order, so that it does not matter how they
stood before (`Reordered.sorted_eq`).
-/

set_option autoImplicit false

namespace ObjectBridge

namespace Namespace

variable {p : Bytes} {l l' : List Namespace}

/-- The same namespaces with siblings in another order, here and at every
depth below. -/
inductive Reordered : List Namespace → List Namespace → Prop
  | nil : Reordered [] []
  | cons (u : Namespace) {children rest rest' : List Namespace} (hc : Reordered u.children children)
    (hr : Reordered rest rest') : Reordered (u :: rest) ({ u with children } :: rest')
  | swap (u v : Namespace) (rest : List Namespace) : Reordered (u :: v :: rest) (v :: u :: rest)
  | trans {l l' l'' : List Namespace} (h : Reordered l l') (h' : Reordered l' l'') : Reordered l l''

/-- Leaving everything in place is a reordering. -/
theorem Reordered.refl (l : List Namespace) : Reordered l l := by
  induction l using forest_induction with
  | nil => exact .nil
  | cons name className base children rest ihChildren ihRest =>
    exact .cons ⟨name, className, base, _⟩ ihChildren ihRest

/-- A reordering can be undone. -/
theorem Reordered.symm (h : Reordered l l') : Reordered l' l := by
  induction h with
  | nil => exact .nil
  | @cons u children _ _ _ _ ihChildren ihRest =>
    obtain ⟨name, className, base, _⟩ := u
    exact .cons ⟨name, className, base, children⟩ ihChildren ihRest
  | swap u v rest => exact .swap v u rest
  | trans _ _ ih ih' => exact ih'.trans ih

/-- Siblings may change places. -/
theorem Reordered.of_perm (h : l.Perm l') : Reordered l l' := by
  induction h with
  | nil => exact .nil
  | cons u _ ih =>
    obtain ⟨name, className, base, children⟩ := u
    exact .cons ⟨name, className, base, children⟩ (.refl children) ih
  | swap u v rest => exact .swap v u rest
  | trans _ _ ih ih' => exact ih.trans ih'

/-- Their names change places with them. -/
theorem Reordered.names_perm (h : Reordered l l') : (names l).Perm (names l') := by
  induction h with
  | nil => exact .nil
  | cons u _ _ _ ihRest => exact ihRest.cons u.name
  | swap u v rest => exact .swap v.name u.name (names rest)
  | trans _ _ ih ih' => exact ih.trans ih'

/-! ### What a walk comes to -/

/-- What is said of a namespace at a path, apart from its children: the
path, the class and the base. -/
def line (e : Bytes × Namespace) : Bytes × Bytes × Bytes := (e.1, e.2.className, e.2.base)

/-- Two lines are the same when path, class and base are. -/
theorem line_eq_iff {e e' : Bytes × Namespace} :
    line e = line e' ↔ e.1 = e'.1 ∧ e.2.className = e'.2.className ∧ e.2.base = e'.2.base := by
  rw [line, line, Prod.mk.injEq, Prod.mk.injEq]

/-- The lines of a walk are the same lines. -/
theorem Reordered.lines_perm (h : Reordered l l') :
    ((walk p l).map line).Perm ((walk p l').map line) := by
  induction h generalizing p with
  | nil => exact .refl _
  | cons u _ _ ihChildren ihRest =>
    obtain ⟨name, className, base, children⟩ := u
    rw [walk_cons, walk_cons, List.map_cons, List.map_cons, List.map_append, List.map_append]
    exact (ihChildren.append ihRest).cons _
  | swap u v rest =>
    rw [walk_eq_flatMap p (u :: v :: rest), walk_eq_flatMap p (v :: u :: rest)]
    exact ((List.Perm.swap v u rest).flatMap_right _).map line
  | trans _ _ ih ih' => exact ih.trans ih'

/-- Everything a walk comes to is there with the same line, and has children
of the same names. -/
theorem Reordered.exists_row (h : Reordered l l') {e : Bytes × Namespace} (he : e ∈ walk p l) :
    ∃ e' ∈ walk p l', line e' = line e ∧ (names e'.2.children).Perm (names e.2.children) := by
  induction h generalizing p e with
  | nil => simp at he
  | cons u hc _ ihChildren ihRest =>
    obtain ⟨name, className, base, children⟩ := u
    rcases mem_walk_cons.mp he with rfl | he | he
    · exact ⟨_, mem_walk_cons.mpr (.inl rfl), rfl, hc.symm.names_perm⟩
    · obtain ⟨e', he', hsame⟩ := ihChildren he
      exact ⟨e', mem_walk_cons.mpr (.inr (.inl he')), hsame⟩
    · obtain ⟨e', he', hsame⟩ := ihRest he
      exact ⟨e', mem_walk_cons.mpr (.inr (.inr he')), hsame⟩
  | swap u v rest =>
    refine ⟨e, ?_, rfl, .refl _⟩
    rw [walk_eq_flatMap] at he ⊢
    exact (List.Perm.swap v u rest).flatMap_right _ |>.mem_iff.mp he
  | trans _ _ ih ih' =>
    obtain ⟨e', he', hline, hnames⟩ := ih he
    obtain ⟨e'', he'', hline', hnames'⟩ := ih' he'
    exact ⟨e'', he'', hline'.trans hline, hnames'.trans hnames⟩

/-- Names stay well-formed and distinct. -/
theorem Reordered.wellNamed (h : Reordered l l') (hl : WellNamed l) : WellNamed l' := by
  induction h with
  | nil => exact hl
  | cons u _ hr ihChildren ihRest =>
    obtain ⟨name, className, base, children⟩ := u
    obtain ⟨hname, hfresh, hchildren, hrest⟩ := wellNamed_cons.mp hl
    refine wellNamed_cons.mpr ⟨hname, fun hmem => hfresh ?_, ihChildren hchildren, ihRest hrest⟩
    exact hr.names_perm.mem_iff.mpr hmem
  | swap u v rest =>
    obtain ⟨_, _, _, _⟩ := u
    obtain ⟨_, _, _, _⟩ := v
    obtain ⟨hu, hfreshU, hchildrenU, hl⟩ := wellNamed_cons.mp hl
    obtain ⟨hv, hfreshV, hchildrenV, hrest⟩ := wellNamed_cons.mp hl
    rw [List.map_cons, List.mem_cons, not_or] at hfreshU
    refine wellNamed_cons.mpr ⟨hv, ?_, hchildrenV,
      wellNamed_cons.mpr ⟨hu, hfreshU.2, hchildrenU, hrest⟩⟩
    rw [List.map_cons, List.mem_cons, not_or]
    exact ⟨Ne.symm hfreshU.1, hfreshV⟩
  | trans _ _ ih ih' => exact ih' (ih hl)

/-! ### The order of names -/

/-- Names ascend, here and at every depth below. -/
def Ascending : List Namespace → Prop
  | [] => True
  | ⟨name, _, _, children⟩ :: rest => (∀ n ∈ names rest, name < n) ∧ Ascending children ∧
    Ascending rest

/-- No namespaces are in ascending order. -/
theorem ascending_nil : Ascending [] := by
  rw [Ascending]
  trivial

/-- The first name is the least, and so on below and beside it. -/
theorem ascending_cons {u : Namespace} {rest : List Namespace} :
    Ascending (u :: rest) ↔ (∀ n ∈ names rest, u.name < n) ∧ Ascending u.children ∧
      Ascending rest := by
  obtain ⟨name, className, base, children⟩ := u
  rw [Ascending]

/-- Names ascend from each sibling to every later one. -/
theorem Ascending.pairwise (h : Ascending l) : l.Pairwise fun u v => u.name < v.name := by
  induction l with
  | nil => exact .nil
  | cons u rest ih =>
    obtain ⟨hfirst, _, hrest⟩ := ascending_cons.mp h
    exact List.pairwise_cons.mpr ⟨fun v hv => hfirst v.name (List.mem_map_of_mem hv), ih hrest⟩

/-- So do the names below everything that a walk comes to. -/
theorem Ascending.of_mem_walk (h : Ascending l) {e : Bytes × Namespace} (he : e ∈ walk p l) :
    Ascending e.2.children := by
  induction l using forest_induction generalizing p with
  | nil => simp at he
  | cons name className base children rest ihChildren ihRest =>
    obtain ⟨_, hchildren, hrest⟩ := ascending_cons.mp h
    rcases mem_walk_cons.mp he with rfl | he | he
    · exact hchildren
    · exact ihChildren hchildren he
    · exact ihRest hrest he

/-- Puts a namespace before the first whose name comes later. -/
def insertNamed (u : Namespace) : List Namespace → List Namespace
  | [] => [u]
  | v :: rest => if u.name < v.name then u :: v :: rest else v :: insertNamed u rest

/-- Inserting a namespace adds it and nothing else. -/
theorem insertNamed_perm (u : Namespace) (l : List Namespace) :
    (insertNamed u l).Perm (u :: l) := by
  induction l with
  | nil => exact .refl _
  | cons v rest ih =>
    rw [insertNamed]
    split
    · exact .refl _
    · exact (ih.cons v).trans (.swap u v rest)

/-- It adds its name. -/
theorem names_insertNamed_perm (u : Namespace) (l : List Namespace) :
    (names (insertNamed u l)).Perm (u.name :: names l) := (insertNamed_perm u l).map Namespace.name

/-- It keeps the order. -/
theorem ascending_insertNamed {u : Namespace} (hl : Ascending l) (hu : Ascending u.children)
    (hfresh : u.name ∉ names l) : Ascending (insertNamed u l) := by
  induction l with
  | nil => exact ascending_cons.mpr ⟨by simp, hu, ascending_nil⟩
  | cons v rest ih =>
    obtain ⟨hfirst, hchildren, hrest⟩ := ascending_cons.mp hl
    rw [names_cons, List.mem_cons, not_or] at hfresh
    rw [insertNamed]
    split
    next hlt =>
      refine ascending_cons.mpr ⟨fun n hn => ?_, hu, hl⟩
      rcases List.mem_cons.mp hn with rfl | hn
      · exact hlt
      · exact Std.lt_trans hlt (hfirst n hn)
    next hnot =>
      have hvu : v.name < u.name :=
        (Std.le_iff_lt_or_eq.mp (Std.not_lt.mp hnot)).resolve_right (Ne.symm hfresh.1)
      refine ascending_cons.mpr ⟨fun n hn => ?_, hchildren, ih hrest hfresh.2⟩
      rcases List.mem_cons.mp ((names_insertNamed_perm u rest).mem_iff.mp hn) with rfl | hn
      · exact hvu
      · exact hfirst n hn

/-- There is one order in which names ascend. -/
theorem eq_of_ascending (hl : Ascending l) (hl' : Ascending l') (h : l.Perm l') : l = l' :=
  h.eq_of_pairwise (fun _ _ _ _ hlt hgt => absurd (Std.lt_trans hlt hgt) (Std.lt_irrefl))
    hl.pairwise hl'.pairwise

/-- Siblings in the order of their names, at every depth. -/
def sorted : List Namespace → List Namespace
  | [] => []
  | ⟨name, className, base, children⟩ :: rest =>
    insertNamed ⟨name, className, base, sorted children⟩ (sorted rest)

/-- There is nothing to sort in an empty list. -/
@[simp] theorem sorted_nil : sorted [] = [] := by
  rw [sorted]

/-- A namespace is sorted, and inserted among the sorted ones. -/
theorem sorted_cons (u : Namespace) (rest : List Namespace) :
    sorted (u :: rest) = insertNamed { u with children := sorted u.children } (sorted rest) := by
  obtain ⟨name, className, base, children⟩ := u
  rw [sorted]

/-- Sorting is a reordering. -/
theorem reordered_sorted (l : List Namespace) : Reordered l (sorted l) := by
  induction l using forest_induction with
  | nil =>
    rw [sorted_nil]
    exact .nil
  | cons name className base children rest ihChildren ihRest =>
    rw [sorted_cons]
    exact (Reordered.cons ⟨name, className, base, children⟩ ihChildren ihRest).trans
      (.of_perm (insertNamed_perm _ _).symm)

/-- It leaves the names. -/
theorem mem_names_sorted {n : Bytes} : n ∈ names (sorted l) ↔ n ∈ names l :=
  (reordered_sorted l).names_perm.mem_iff.symm

/-- It puts them in ascending order. -/
theorem ascending_sorted (h : WellNamed l) : Ascending (sorted l) := by
  induction l using forest_induction with
  | nil =>
    rw [sorted_nil]
    exact ascending_nil
  | cons name className base children rest ihChildren ihRest =>
    obtain ⟨_, hfresh, hchildren, hrest⟩ := wellNamed_cons.mp h
    rw [sorted_cons]
    exact ascending_insertNamed (ihRest hrest) (ihChildren hchildren) fun hmem =>
      hfresh (mem_names_sorted.mp hmem)

/-- It does not matter in which order siblings stood. -/
theorem Reordered.sorted_eq (h : Reordered l l') (hl : WellNamed l) : sorted l = sorted l' := by
  induction h with
  | nil => rfl
  | cons u _ _ ihChildren ihRest =>
    obtain ⟨name, className, base, children⟩ := u
    obtain ⟨_, _, hchildren, hrest⟩ := wellNamed_cons.mp hl
    rw [sorted_cons, sorted_cons, ihChildren hchildren, ihRest hrest]
  | swap u v rest =>
    refine eq_of_ascending (ascending_sorted hl)
      (ascending_sorted ((Reordered.swap u v rest).wellNamed hl)) ?_
    rw [sorted_cons, sorted_cons, sorted_cons, sorted_cons]
    -- Either way it is the two namespaces and the rest.
    have hboth : ∀ a b : Namespace, ∀ l, (insertNamed a (insertNamed b l)).Perm (a :: b :: l) :=
      fun a b l =>
      (insertNamed_perm a _).trans ((insertNamed_perm b l).cons a)
    exact (hboth _ _ _).trans ((List.Perm.swap _ _ _).trans (hboth _ _ _).symm)
  | trans h _ ih ih' => rw [ih hl, ih' (h.wellNamed hl)]

end Namespace

namespace Manifest

open Namespace

variable {m m' : Manifest}

/-- The same manifest with siblings in another order. -/
def Reordered (m m' : Manifest) : Prop :=
  ∃ l, Namespace.Reordered m.namespaces l ∧ m' = { m with namespaces := l }

/-- The manifest with siblings in the order of their names. -/
def sorted (m : Manifest) : Manifest := { m with namespaces := Namespace.sorted m.namespaces }

/-- Sorting a manifest reorders it. -/
theorem reordered_sorted (m : Manifest) : m.Reordered m.sorted :=
  ⟨_, Namespace.reordered_sorted _, rfl⟩

/-- The reordering of a manifest can be undone. -/
theorem Reordered.symm (h : m.Reordered m') : m'.Reordered m := by
  obtain ⟨l, hl, rfl⟩ := h
  exact ⟨m.namespaces, hl.symm, rfl⟩

/-- The lines change places. -/
theorem Reordered.lines_perm (h : m.Reordered m') : (m.rows.map line).Perm (m'.rows.map line) := by
  obtain ⟨l, hl, rfl⟩ := h
  exact hl.lines_perm.cons _

/-- Every row is there with the same line, and has children of the same
names. -/
theorem Reordered.exists_row (h : m.Reordered m') {e : Bytes × Namespace} (he : e ∈ m.rows) :
    ∃ e' ∈ m'.rows, line e' = line e ∧ (names e'.2.children).Perm (names e.2.children) := by
  obtain ⟨l, hl, rfl⟩ := h
  rcases List.mem_cons.mp he with rfl | he
  · exact ⟨_, List.mem_cons_self, rfl, hl.symm.names_perm⟩
  · obtain ⟨e', he', hsame⟩ := hl.exists_row he
    exact ⟨e', List.mem_cons_of_mem _ he', hsame⟩

/-- No path is lost. -/
theorem Reordered.mem_paths (h : m.Reordered m') {q : Bytes} (hq : q ∈ m.walk.map Prod.fst) :
    q ∈ m'.walk.map Prod.fst := by
  obtain ⟨l, hl, rfl⟩ := h
  obtain ⟨e, he, rfl⟩ := List.mem_map.mp hq
  obtain ⟨e', he', hline, _⟩ := hl.exists_row he
  exact List.mem_map.mpr ⟨e', he', (line_eq_iff.mp hline).1⟩

/-- Names stay as they should be. -/
theorem Reordered.wellNamed (h : m.Reordered m') (hm : WellNamed m.namespaces) :
    WellNamed m'.namespaces := by
  obtain ⟨l, hl, rfl⟩ := h
  exact hl.wellNamed hm

/-- A valid manifest stays valid. -/
theorem Reordered.isValid (h : m.Reordered m') (hm : m.isValid = true) : m'.isValid = true := by
  obtain ⟨hname, hwell, hbases⟩ := (isValid_iff m).mp hm
  refine (isValid_iff m').mpr ⟨?_, h.wellNamed hwell, fun e' he' hne => ?_⟩
  · obtain ⟨l, _, rfl⟩ := h
    exact hname
  · obtain ⟨e, he, hline, _⟩ := h.symm.exists_row he'
    obtain ⟨_, _, hbase⟩ := line_eq_iff.mp hline
    rw [← hbase] at hne ⊢
    exact h.mem_paths (hbases e he hne)

/-- Sorted, a valid manifest is the same as before. -/
theorem Reordered.sorted_eq (h : m.Reordered m') (hm : m.isValid = true) :
    m.sorted = m'.sorted := by
  obtain ⟨l, hl, rfl⟩ := h
  unfold Manifest.sorted
  rw [hl.sorted_eq ((isValid_iff m).mp hm).2.1]

end Manifest

end ObjectBridge

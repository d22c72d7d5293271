import ObjectBridge.Manifest.Basic
import ObjectBridge.Proofs.Manifest.Path

/-!
# `ObjectBridge.Proofs.Manifest.Valid`: what a valid manifest declares

`Manifest.rows` lists the root and every namespace with its path, the
root first. `isValid_iff` says what the check of a manifest finds out:
names can stand between dots and differ among siblings (`WellNamed`), and
every base is the path of a namespace.

For such a manifest the rows are a tree that is written down:

* `nodup_rows`: no path occurs twice;
* `exists_parent`: above every namespace is the row it is a child of, and
  `children_mem_walk` the other way round;
* `parentsFirst_rows`: that row comes earlier.
-/

set_option autoImplicit false

namespace ObjectBridge

namespace Namespace

/-- Namespaces are lists of trees: what holds of no namespaces, and of a
namespace and its siblings once it holds of its children and of the
siblings, holds of all. -/
theorem forest_induction {P : List Namespace → Prop} (nil : P [])
    (cons : ∀ name className base children rest, P children → P rest →
      P (⟨name, className, base, children⟩ :: rest)) : ∀ l, P l
  | [] => nil
  | ⟨name, className, base, children⟩ :: rest =>
    cons name className base children rest (forest_induction nil cons children)
      (forest_induction nil cons rest)

/-- Names can stand between dots and differ among siblings, here and at
every depth below. -/
def WellNamed : List Namespace → Prop
  | [] => True
  | ⟨name, _, _, children⟩ :: rest =>
    Path.IsName name ∧ name ∉ rest.map (·.name) ∧ WellNamed children ∧ WellNamed rest

/-- No namespaces are well named. -/
theorem wellNamed_nil : WellNamed [] := by
  rw [WellNamed]
  exact trivial

/-- The first has a name of its own, and so on below and beside it. -/
theorem wellNamed_cons {name className base : Bytes} {children rest : List Namespace} :
    WellNamed (⟨name, className, base, children⟩ :: rest) ↔
      Path.IsName name ∧ name ∉ rest.map (·.name) ∧ WellNamed children ∧ WellNamed rest := by
  rw [WellNamed]

/-! ### Walks -/

variable {p : Bytes} {l : List Namespace}

/-- There is nothing to walk in an empty list. -/
@[simp] theorem walk_nil (p : Bytes) : walk p [] = [] := by
  rw [walk]

/-- A walk visits the first namespace, then its children, then the rest. -/
theorem walk_cons (p name className base : Bytes) (children rest : List Namespace) :
    walk p (⟨name, className, base, children⟩ :: rest) =
      (Path.join p name, ⟨name, className, base, children⟩) ::
      (walk (Path.join p name) children ++ walk p rest) := by
  rw [walk, walkBelow]

/-- Visited are the first, those below it and those beside it. -/
theorem mem_walk_cons {name className base : Bytes} {children rest : List Namespace}
    {e : Bytes × Namespace} :
    e ∈ walk p (⟨name, className, base, children⟩ :: rest) ↔
      e = (Path.join p name, ⟨name, className, base, children⟩) ∨
      e ∈ walk (Path.join p name) children ∨
        e ∈ walk p rest := by
  rw [walk_cons, List.mem_cons, List.mem_append]

/-- What is walked is a namespace of the list or a child of something
that is walked. -/
theorem exists_parent_of_mem_walk {e : Bytes × Namespace} (h : e ∈ walk p l) :
    (e.2 ∈ l ∧ e.1 = Path.join p e.2.name) ∨
      ∃ e' ∈ walk p l, e.2 ∈ e'.2.children ∧ e.1 = Path.join e'.1 e.2.name := by
  induction l using forest_induction generalizing p with
  | nil => simp at h
  | cons name className base children rest ihChildren ihRest =>
    rw [mem_walk_cons] at h
    rcases h with rfl | h | h
    · exact .inl ⟨List.mem_cons_self, rfl⟩
    · right
      rcases ihChildren h with ⟨hmem, hpath⟩ | ⟨e', he', hmem, hpath⟩
      · exact ⟨_, mem_walk_cons.mpr (.inl rfl), hmem, hpath⟩
      · exact ⟨e', mem_walk_cons.mpr (.inr (.inl he')), hmem, hpath⟩
    · rcases ihRest h with ⟨hmem, hpath⟩ | ⟨e', he', hmem, hpath⟩
      · exact .inl ⟨List.mem_cons_of_mem _ hmem, hpath⟩
      · exact .inr ⟨e', mem_walk_cons.mpr (.inr (.inr he')), hmem, hpath⟩

/-- The namespaces of the list are walked. -/
theorem mem_walk_of_mem {ns : Namespace} (h : ns ∈ l) : (Path.join p ns.name, ns) ∈ walk p l := by
  induction l with
  | nil => cases h
  | cons first rest ih =>
    obtain ⟨name, className, base, children⟩ := first
    rw [mem_walk_cons]
    rcases List.mem_cons.mp h with rfl | h
    · exact .inl rfl
    · exact .inr (.inr (ih h))

/-- The children of what is walked are walked. -/
theorem children_mem_walk {e : Bytes × Namespace} (h : e ∈ walk p l) {c : Namespace}
    (hc : c ∈ e.2.children) :
    (Path.join e.1 c.name, c) ∈ walk p l := by
  induction l using forest_induction generalizing p with
  | nil => simp at h
  | cons name className base children rest ihChildren ihRest =>
    rw [mem_walk_cons] at h ⊢
    rcases h with rfl | h | h
    · exact .inr (.inl (mem_walk_of_mem hc))
    · exact .inr (.inl (ihChildren h))
    · exact .inr (.inr (ihRest h))

/-- What is walked is well named, and so is what is below it. -/
theorem wellNamed_of_mem_walk (hl : WellNamed l) {e : Bytes × Namespace} (h : e ∈ walk p l) :
    Path.IsName e.2.name ∧ WellNamed e.2.children := by
  induction l using forest_induction generalizing p with
  | nil => simp at h
  | cons name className base children rest ihChildren ihRest =>
    obtain ⟨hname, _, hchildren, hrest⟩ := wellNamed_cons.mp hl
    rw [mem_walk_cons] at h
    rcases h with rfl | h | h
    · exact ⟨hname, hchildren⟩
    · exact ihChildren hchildren h
    · exact ihRest hrest h

/-- Well-named siblings have different names. -/
theorem nodup_names (hl : WellNamed l) : (l.map (·.name)).Nodup := by
  induction l with
  | nil => exact List.nodup_nil
  | cons first rest ih =>
    obtain ⟨name, className, base, children⟩ := first
    obtain ⟨_, hfresh, _, hrest⟩ := wellNamed_cons.mp hl
    exact List.nodup_cons.mpr ⟨hfresh, ih hrest⟩

/-- Every path of a walk goes through one of the namespaces walked. -/
theorem exists_names_prefix (hl : WellNamed l) {e : Bytes × Namespace} (h : e ∈ walk p l) :
    ∃ ns ∈ l, Path.names p ++ [ns.name] <+: Path.names e.1 := by
  induction l using forest_induction generalizing p with
  | nil => simp at h
  | cons name className base children rest ihChildren ihRest =>
    obtain ⟨hname, _, hchildren, hrest⟩ := wellNamed_cons.mp hl
    rw [mem_walk_cons] at h
    rcases h with rfl | h | h
    · exact ⟨_, List.mem_cons_self, [], by rw [List.append_nil, Path.names_join p hname]⟩
    · obtain ⟨ns, _, hprefix⟩ := ihChildren hchildren h
      rw [Path.names_join p hname] at hprefix
      exact ⟨_, List.mem_cons_self, (List.prefix_append _ _).trans hprefix⟩
    · obtain ⟨ns, hns, hprefix⟩ := ihRest hrest h
      exact ⟨ns, List.mem_cons_of_mem _ hns, hprefix⟩

/-- No path of a walk is the root. -/
theorem ne_nil_of_mem_walk (hl : WellNamed l) {e : Bytes × Namespace} (h : e ∈ walk p l) :
    e.1 ≠ [] := by
  obtain ⟨ns, _, hprefix⟩ := exists_names_prefix hl h
  intro hnil
  have hlength := hprefix.length_le
  rw [hnil] at hlength
  simp at hlength

/-- A walk of well-named namespaces comes to no path twice. -/
theorem nodup_walk (hl : WellNamed l) : ((walk p l).map Prod.fst).Nodup := by
  induction l using forest_induction generalizing p with
  | nil => simp
  | cons name className base children rest ihChildren ihRest =>
    obtain ⟨hname, hfresh, hchildren, hrest⟩ := wellNamed_cons.mp hl
    -- Everything below this namespace goes through its name, and its siblings' paths do not.
    have hbelow : ∀ e ∈ walk (Path.join p name) children,
        Path.names p ++ [name] <+: Path.names e.1 ∧ e.1 ≠ Path.join p name := by
      intro e he
      obtain ⟨ns, _, hprefix⟩ := exists_names_prefix hchildren he
      rw [Path.names_join p hname] at hprefix
      refine ⟨(List.prefix_append _ _).trans hprefix, fun heq => ?_⟩
      have hlength := hprefix.length_le
      rw [heq, Path.names_join p hname] at hlength
      simp at hlength
    have hbeside : ∀ e ∈ walk p rest, ¬ Path.names p ++ [name] <+: Path.names e.1 := by
      intro e he hprefix
      obtain ⟨ns, hns, hprefix'⟩ := exists_names_prefix hrest he
      exact hfresh (List.mem_map.mpr ⟨ns, hns, Path.name_eq_of_names_prefix hprefix' hprefix⟩)
    rw [walk_cons, List.map_cons, List.map_append, List.nodup_cons, List.nodup_append]
    refine ⟨fun hmem => ?_, ihChildren hchildren, ihRest hrest, fun q hq q' hq' heq => ?_⟩
    · rcases List.mem_append.mp hmem with hmem | hmem
      · obtain ⟨e, he, heq⟩ := List.mem_map.mp hmem
        exact (hbelow e he).2 heq
      · obtain ⟨e, he, heq⟩ := List.mem_map.mp hmem
        exact hbeside e he ⟨[], by rw [List.append_nil, heq, Path.names_join p hname]⟩
    · obtain ⟨e, he, rfl⟩ := List.mem_map.mp hq
      obtain ⟨e', he', rfl⟩ := List.mem_map.mp hq'
      exact hbeside e' he' (heq ▸ (hbelow e he).1)

/-- Every path of the list lies below one that is known, or that comes
earlier in the list. -/
def ParentsFirst (known : List Bytes) : List (Bytes × Namespace) → Prop
  | [] => True
  | (path, ns) :: rest => (∃ p ∈ known, path = Path.join p ns.name) ∧
    ParentsFirst (known ++ [path]) rest

/-- Parents stay first when a list is continued. -/
theorem ParentsFirst.append {known : List Bytes} {es es' : List (Bytes × Namespace)}
    (h : ParentsFirst known es) (h' : ParentsFirst (known ++ es.map Prod.fst) es') :
    ParentsFirst known (es ++ es') := by
  induction es generalizing known with
  | nil => simpa using h'
  | cons e es ih =>
    obtain ⟨hfirst, hrest⟩ := h
    exact ⟨hfirst, ih hrest (by simpa using h')⟩

/-- A walk comes to parents first. -/
theorem parentsFirst_walk {known : List Bytes} (hp : p ∈ known) :
    ParentsFirst known (walk p l) := by
  induction l using forest_induction generalizing p known with
  | nil => rw [walk]; exact trivial
  | cons name className base children rest ihChildren ihRest =>
    rw [walk_cons]
    refine ⟨⟨p, hp, rfl⟩, (ihChildren ?_).append (ihRest ?_)⟩
    · simp
    · simp [hp]

end Namespace

namespace Manifest

open Namespace

variable {m : Manifest}

/-- The root as a namespace without a name. -/
def top (m : Manifest) : Namespace :=
  { className := m.className, base := m.base, children := m.namespaces }

/-- The root and every namespace, with their paths. -/
def rows (m : Manifest) : List (Bytes × Namespace) := ([], m.top) :: m.walk

/-! ### The check -/

/-- No problem is found with names exactly when they are well named, and
none was seen before. Then every path is declared. -/
theorem checkNames_spec (p : Bytes) (seen : List Bytes) (l : List Namespace) :
    ((checkNames p seen l).1 = [] ↔ WellNamed l ∧ ∀ ns ∈ l, ns.name ∉ seen) ∧
    ((checkNames p seen l).1 = [] → (checkNames p seen l).2 =
      (Namespace.walk p l).map Prod.fst) := by
  induction l using forest_induction generalizing p seen with
  | nil => simp [checkNames, wellNamed_nil]
  | cons name className base children rest ihChildren ihRest =>
    rw [checkNames, walk_cons, wellNamed_cons, Path.isName_iff]
    -- A name that is empty, has a dot or was seen is a problem by itself.
    by_cases hnil : name = []
    · simp [hnil]
    by_cases hdot : Path.dot ∈ name
    · simp [hnil, hdot]
    by_cases hseen : name ∈ seen
    · simp [hnil, hdot, hseen]
    obtain ⟨hbelow, hpathsBelow⟩ := ihChildren (Path.join p name) []
    obtain ⟨hrest, hpaths⟩ := ihRest p (name :: seen)
    simp only [hnil, hdot, hseen, if_false, checkNamesBelow, List.append_eq_nil_iff]
    refine ⟨?_, fun hnone => ?_⟩
    · rw [hbelow, hrest]
      simp only [List.mem_cons, List.mem_map, not_or, List.not_mem_nil]
      grind
    · rw [hpathsBelow hnone.1, hpaths hnone.2, List.map_cons, List.map_append]

/-- A base is unknown that is named and not declared. -/
theorem isUnknown_iff (declared : List Bytes) (base : Bytes) :
    isUnknown declared base = true ↔ base ≠ [] ∧ base ∉ declared := by
  simp [isUnknown]

/-- No problem is found with bases exactly when all of them are
declared. -/
theorem checkBases_eq_nil_iff (m : Manifest) (declared : List Bytes) :
    m.checkBases declared = [] ↔ ∀ e ∈ m.rows, e.2.base ≠ [] → e.2.base ∈ declared := by
  have hone : ∀ base, isUnknown declared base = false ↔ (base ≠ [] → base ∈ declared) := by
    intro base
    rw [← Bool.not_eq_true, isUnknown_iff]
    simp only [not_and, Decidable.not_not]
  simp only [checkBases, rows, List.append_eq_nil_iff, List.filterMap_eq_nil_iff,
    List.forall_mem_cons]
  refine and_congr ?_ (forall_congr' fun e => imp_congr_right fun _ => ?_)
  · rw [← hone, top]
    split <;> simp_all
  · rw [← hone]
    split <;> simp_all

/-- What the check of a manifest finds out. -/
theorem isValid_iff (m : Manifest) :
    m.isValid = true ↔
      m.name ≠ [] ∧ WellNamed m.namespaces ∧ ∀ e ∈ m.rows, e.2.base ≠ [] →
      e.2.base ∈ m.walk.map Prod.fst := by
  rw [isValid, List.isEmpty_iff, problems]
  obtain ⟨hnames, hpaths⟩ := checkNames_spec [] [] m.namespaces
  by_cases hname : m.name = []
  · simp [hname]
  · rw [if_neg hname]
    simp only [List.append_eq_nil_iff]
    constructor
    · rintro ⟨h, hbases⟩
      rw [checkBases_eq_nil_iff, hpaths h] at hbases
      exact ⟨hname, (hnames.mp h).1, hbases⟩
    · rintro ⟨_, hwell, hbases⟩
      have h := hnames.mpr ⟨hwell, by simp⟩
      refine ⟨h, ?_⟩
      rw [checkBases_eq_nil_iff, hpaths h]
      exact hbases

/-! ### The rows -/

/-- Well-named namespaces have different paths. -/
theorem nodup_rows (h : WellNamed m.namespaces) : (m.rows.map Prod.fst).Nodup := by
  rw [rows, List.map_cons, List.nodup_cons]
  refine ⟨fun hmem => ?_, nodup_walk h⟩
  obtain ⟨e, he, hpath⟩ := List.mem_map.mp hmem
  exact ne_nil_of_mem_walk h he hpath

/-- Above every namespace is the row it is a child of. -/
theorem exists_parent {e : Bytes × Namespace} (h : e ∈ m.walk) :
    ∃ e' ∈ m.rows, e.2 ∈ e'.2.children ∧ e.1 = Path.join e'.1 e.2.name := by
  rcases exists_parent_of_mem_walk h with ⟨hmem, hpath⟩ | ⟨e', he', hmem, hpath⟩
  · exact ⟨_, List.mem_cons_self, hmem, hpath⟩
  · exact ⟨e', List.mem_cons_of_mem _ he', hmem, hpath⟩

/-- Below every row are its children. -/
theorem child_mem_walk {e : Bytes × Namespace} (h : e ∈ m.rows) {c : Namespace}
    (hc : c ∈ e.2.children) :
    (Path.join e.1 c.name, c) ∈ m.walk := by
  rcases List.mem_cons.mp h with rfl | h
  · exact mem_walk_of_mem hc
  · exact children_mem_walk h hc

/-- A walk lists parents first. -/
theorem parentsFirst_rows (m : Manifest) : ParentsFirst [[]] m.walk :=
  parentsFirst_walk List.mem_cons_self

/-- The children of a row are well named. -/
theorem wellNamed_children (h : WellNamed m.namespaces) {e : Bytes × Namespace} (he : e ∈ m.rows) :
    WellNamed e.2.children := by
  rcases List.mem_cons.mp he with rfl | he
  · exact h
  · exact (wellNamed_of_mem_walk h he).2

end Manifest

end ObjectBridge

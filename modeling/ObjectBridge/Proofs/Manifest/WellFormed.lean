import ObjectBridge.Proofs.Manifest.Overlay

/-!
# `ObjectBridge.Proofs.Manifest.WellFormed`: what the check of a manifest finds

`Declares l names ns` says that names lead from the namespaces `l` down to
`ns`. It is what a manifest declares, said without a walk and without the
check: a manifest is `WellFormed` when every namespace so declared has a
name that can stand between dots, no two siblings share a name, and every
base is the dotted path of something declared.

`isValid_spec` is about both traversals of the tree. The check accepts
exactly the well-formed manifests, although it does not look below a
namespace with a bad name. The walk of an accepted manifest comes to every
path once and to parents first, and the paths it comes to are those that
the check has gathered for itself, so they are the bases that may be named
(`WalksInOrder`).
-/

set_option autoImplicit false

namespace ObjectBridge

namespace Namespace

variable {p : Bytes} {l : List Namespace}

/-- The names lead from the namespaces `l` down to one that is declared
there. -/
inductive Declares : List Namespace → List Bytes → Namespace → Prop
  | here {l : List Namespace} {ns : Namespace} (h : ns ∈ l) : Declares l [ns.name] ns
  | deeper {l : List Namespace} {ns c : Namespace} {path : List Bytes} (h : ns ∈ l)
    (hc : Declares ns.children path c) : Declares l (ns.name :: path) c

/-- What is declared stays declared among more. -/
theorem Declares.cons {u ns : Namespace} {path : List Bytes} (h : Declares l path ns) :
    Declares (u :: l) path ns := by
  cases h with
  | here h => exact .here (List.mem_cons_of_mem u h)
  | deeper h hc => exact .deeper (List.mem_cons_of_mem u h) hc

/-- A walk comes to what is declared, under the dotted path along the
names. -/
theorem mem_walk_iff_declares {e : Bytes × Namespace} :
    e ∈ walk p l ↔ ∃ path, Declares l path e.2 ∧ e.1 = path.foldl Path.join p := by
  constructor
  · intro h
    induction l using forest_induction generalizing p with
    | nil => simp at h
    | cons name className base children rest ihChildren ihRest =>
      rcases mem_walk_cons.mp h with rfl | h | h
      · exact ⟨[name], .here List.mem_cons_self, rfl⟩
      · obtain ⟨path, hdeclares, hpath⟩ := ihChildren h
        exact ⟨name :: path, .deeper List.mem_cons_self hdeclares, hpath⟩
      · obtain ⟨path, hdeclares, hpath⟩ := ihRest h
        exact ⟨path, hdeclares.cons, hpath⟩
  · rintro ⟨path, hdeclares, hpath⟩
    obtain ⟨q, ns⟩ := e
    dsimp only at hdeclares hpath
    subst hpath
    -- The prefix is generalized, since below a namespace it is the path of that namespace.
    induction hdeclares generalizing p with
    | here h => exact mem_walk_of_mem h
    | @deeper l u c path h _ ih =>
      have hbelow := ih (p := Path.join p u.name)
      rw [walk_eq_flatMap, List.mem_flatMap]
      exact ⟨u, h, List.mem_cons_of_mem _ hbelow⟩

/-- Siblings differ in their names here and at every depth when the children
of everything declared do. -/
theorem distinct_iff_declares :
    Distinct l ↔ (names l).Nodup ∧ ∀ path ns, Declares l path ns → (names ns.children).Nodup := by
  constructor
  · intro h
    refine ⟨h.nodup, fun path ns hdeclares => ?_⟩
    induction hdeclares with
    | here hmem => exact (h.children hmem).nodup
    | deeper hmem _ ih => exact ih (h.children hmem)
  · rintro ⟨hnodup, hbelow⟩
    induction l using forest_induction with
    | nil => exact .intro hnodup (by simp)
    | cons name className base children rest ihChildren ihRest =>
      have hchildren : Distinct children :=
        ihChildren (hbelow _ _ (.here List.mem_cons_self)) fun path ns h =>
          hbelow _ ns (.deeper List.mem_cons_self h)
      have hrest : Distinct rest :=
        ihRest (List.nodup_cons.mp hnodup).2 fun path ns h => hbelow path ns h.cons
      exact .intro hnodup (List.forall_mem_cons.mpr ⟨hchildren, fun u hu => hrest.children hu⟩)

/-- A walk comes to the namespaces of the list themselves, and to children
of what it has come to before. -/
theorem parent_before_of_walk {before after : List (Bytes × Namespace)} {e : Bytes × Namespace}
    (h : walk p l = before ++ e :: after) :
    (e.2 ∈ l ∧ e.1 = Path.join p e.2.name) ∨
      ∃ e' ∈ before, e.2 ∈ e'.2.children ∧ e.1 = Path.join e'.1 e.2.name := by
  induction l using forest_induction generalizing p before after with
  | nil => simp at h
  | cons name className base children rest ihChildren ihRest =>
    rw [walk_cons] at h
    cases before with
    | nil =>
      obtain ⟨rfl, _⟩ := List.cons.inj h
      exact .inl ⟨List.mem_cons_self, rfl⟩
    | cons first before =>
      obtain ⟨rfl, htail⟩ := List.cons.inj h
      rcases List.append_eq_append_iff.mp htail with ⟨mid, hbefore, hrest⟩ | ⟨mid, hchildren, hmid⟩
      · -- It comes from beside the first namespace.
        rcases ihRest hrest with ⟨hmem, hpath⟩ | ⟨e', he', hmem, hpath⟩
        · exact .inl ⟨List.mem_cons_of_mem _ hmem, hpath⟩
        · have hbefore' : e' ∈ before := hbefore ▸ List.mem_append_right _ he'
          exact .inr ⟨e', List.mem_cons_of_mem _ hbefore', hmem, hpath⟩
      · cases mid with
        | nil =>
          -- It is the first to come from there.
          have hfirst : walk p rest = [] ++ e :: after := hmid.symm
          rcases ihRest hfirst with ⟨hmem, hpath⟩ | ⟨_, he', _⟩
          · exact .inl ⟨List.mem_cons_of_mem _ hmem, hpath⟩
          · cases he'
        | cons first mid =>
          obtain ⟨rfl, _⟩ := List.cons.inj hmid
          rcases ihChildren hchildren with ⟨hmem, hpath⟩ | ⟨e', he', hmem, hpath⟩
          · exact .inr ⟨_, List.mem_cons_self, hmem, hpath⟩
          · exact .inr ⟨e', List.mem_cons_of_mem _ he', hmem, hpath⟩

end Namespace

namespace Manifest

open Namespace

variable {m : Manifest}

/-- The path is the dotted path of a namespace that is declared. -/
def HasPath (m : Manifest) (p : Bytes) : Prop :=
  ∃ path ns, Declares m.namespaces path ns ∧ p = Path.dotted path

/-- A manifest has the paths that a walk lists. -/
theorem hasPath_iff {p : Bytes} : m.HasPath p ↔ p ∈ m.walk.map Prod.fst := by
  rw [List.mem_map]
  constructor
  · rintro ⟨path, ns, hdeclares, rfl⟩
    exact ⟨(_, ns), mem_walk_iff_declares.mpr ⟨path, hdeclares, rfl⟩, rfl⟩
  · rintro ⟨e, he, rfl⟩
    obtain ⟨path, hdeclares, hpath⟩ := mem_walk_iff_declares.mp he
    exact ⟨path, e.2, hdeclares, hpath⟩

/-- What is asked of a manifest. -/
structure WellFormed (m : Manifest) : Prop where
  named : m.name ≠ []
  /-- Every name can stand between dots. -/
  names : ∀ path ns, Declares m.namespaces path ns → ns.name ≠ [] ∧ Path.dot ∉ ns.name
  /-- No two siblings share a name, below the root or below a namespace. -/
  siblings : (Namespace.names m.namespaces).Nodup ∧
    ∀ path ns, Declares m.namespaces path ns → (Namespace.names ns.children).Nodup
  /-- Every base, that of the root and that of a namespace, is a path. -/
  bases : (m.base ≠ [] → m.HasPath m.base) ∧
    ∀ path ns, Declares m.namespaces path ns → ns.base ≠ [] → m.HasPath ns.base

/-- The check accepts exactly the well-formed manifests. -/
theorem isValid_iff_wellFormed (m : Manifest) : m.isValid = true ↔ m.WellFormed := by
  -- A condition on all rows of the walk is one on all that is declared.
  have hwell : WellNamed m.namespaces ↔ Distinct m.namespaces ∧
      ∀ path ns, Declares m.namespaces path ns → ns.name ≠ [] ∧ Path.dot ∉ ns.name := by
    rw [wellNamed_iff (p := [])]
    refine and_congr_right fun _ => ⟨fun h path ns hdeclares => ?_, fun h e he => ?_⟩
    · exact (Path.isName_iff _).mp (h (_, ns) (mem_walk_iff_declares.mpr ⟨path, hdeclares, rfl⟩))
    · obtain ⟨path, hdeclares, _⟩ := mem_walk_iff_declares.mp he
      exact (Path.isName_iff _).mpr (h path e.2 hdeclares)
  have hbases : (∀ e ∈ m.rows, e.2.base ≠ [] → e.2.base ∈ m.walk.map Prod.fst) ↔
      (m.base ≠ [] → m.HasPath m.base) ∧
        ∀ path ns, Declares m.namespaces path ns → ns.base ≠ [] → m.HasPath ns.base := by
    rw [rows, List.forall_mem_cons]
    simp only [← hasPath_iff]
    refine and_congr_right fun _ => ⟨fun h path ns hdeclares => ?_, fun h e he => ?_⟩
    · exact h (_, ns) (mem_walk_iff_declares.mpr ⟨path, hdeclares, rfl⟩)
    · obtain ⟨path, hdeclares, _⟩ := mem_walk_iff_declares.mp he
      exact h path e.2 hdeclares
  rw [isValid_iff, hwell, distinct_iff_declares, hbases]
  constructor
  · rintro ⟨hname, ⟨hsiblings, hnames⟩, hbases⟩
    exact ⟨hname, hnames, hsiblings, hbases⟩
  · rintro ⟨hname, hnames, hsiblings, hbases⟩
    exact ⟨hname, ⟨hsiblings, hnames⟩, hbases⟩

/-- How the walk of a manifest goes. -/
structure WalksInOrder (m : Manifest) : Prop where
  /-- It comes to everything declared, and to nothing else. -/
  visits : ∀ e, e ∈ m.walk ↔ ∃ path, Declares m.namespaces path e.2 ∧ e.1 = Path.dotted path
  /-- It comes to no path twice. -/
  nodup : (m.walk.map Prod.fst).Nodup
  /-- When it comes to a namespace it has come to the one that namespace is
  a child of, unless that is the root. -/
  parents_first : ∀ before e after, m.walk = before ++ e :: after →
    (e.2 ∈ m.namespaces ∧ e.1 = e.2.name) ∨
      ∃ e' ∈ before, e.2 ∈ e'.2.children ∧ e.1 = Path.join e'.1 e.2.name
  /-- The paths it comes to are those the check gathers. -/
  declared : (checkNames [] [] m.namespaces).2 = m.walk.map Prod.fst
  /-- They are the bases that can be named. -/
  bases : ∀ p, p ∈ m.walk.map Prod.fst ↔ p ≠ [] ∧ ({ m with base := p } : Manifest).isValid = true

/-- A path of an accepted manifest can be its base, and nothing else can
but the empty text. -/
theorem mem_paths_iff_isValid (h : m.isValid = true) {p : Bytes} :
    p ∈ m.walk.map Prod.fst ↔ p ≠ [] ∧ ({ m with base := p } : Manifest).isValid = true := by
  obtain ⟨hname, hwell, hbases⟩ := (isValid_iff m).mp h
  rw [rows, List.forall_mem_cons] at hbases
  have hvalid : ({ m with base := p } : Manifest).isValid = true ↔
      (p ≠ [] → p ∈ m.walk.map Prod.fst) := by
    rw [isValid_iff, rows, List.forall_mem_cons]
    constructor
    · rintro ⟨_, _, hbase, _⟩
      exact hbase
    · intro hbase
      exact ⟨hname, hwell, hbase, hbases.2⟩
  rw [hvalid]
  constructor
  · intro hp
    obtain ⟨e, he, rfl⟩ := List.mem_map.mp hp
    exact ⟨ne_nil_of_mem_walk hwell he, fun _ => hp⟩
  · rintro ⟨hne, hp⟩
    exact hp hne

/-- What the check finds out, and how the walk of an accepted manifest
goes. -/
theorem isValid_spec (m : Manifest) :
    (m.isValid = true ↔ m.WellFormed) ∧ (m.isValid = true → m.WalksInOrder) := by
  refine ⟨isValid_iff_wellFormed m, fun h => ?_⟩
  obtain ⟨_, hwell, _⟩ := (isValid_iff m).mp h
  obtain ⟨hnames, hpaths⟩ := checkNames_spec [] [] m.namespaces
  exact {
    visits := fun _ => mem_walk_iff_declares
    nodup := nodup_walk hwell
    parents_first := fun _ _ _ hsplit => parent_before_of_walk hsplit
    declared := hpaths (hnames.mpr ⟨hwell, by simp⟩)
    bases := fun _ => mem_paths_iff_isValid h }

/-- Two siblings, one of which falls back to the other. -/
theorem isValid_spec_plain : plain.WellFormed ∧ plain.WalksInOrder := by
  have hvalid : plain.isValid = true := by decide
  exact ⟨(isValid_spec plain).1.mp hvalid, (isValid_spec plain).2 hvalid⟩

end Manifest

end ObjectBridge

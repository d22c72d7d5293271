import ObjectBridge.Proofs.Graph.Settled
import ObjectBridge.Proofs.Manifest.Valid

/-!
# `ObjectBridge.Proofs.Graph.Assemble`: when a graph is built, and which

Assembly goes over the rows of a manifest, the root and every namespace
with its path. The node of the row at place `i` is the `i`th node after
those there were, and `Built` says what is known of the nodes of the rows
done so far: their classes, the paths they are found under, and that they
have no other children. Adding a namespace adds a row
(`Built.addNamespace`). Bases then change nothing but bases
(`Rebased.setBases`).

At the end the graph mirrors the manifest (`Mirrors`), and falling back in
the graph is falling back in the manifest, so the check for circles is a
check of the manifest (`Finished.cyclicPath?_eq_none_iff`). `Outcome` lists
what assembly may come to (`assemble_outcome`), and `assemble_spec` puts it
together.
-/

set_option autoImplicit false

namespace ObjectBridge

/-! ### Circles in a manifest -/

namespace Manifest

/-- The row at path `p` names the one at path `q` as its base. -/
def FallsBack (m : Manifest) (p q : Bytes) : Prop := q ≠ [] ∧ ∃ e ∈ m.rows, e.1 = p ∧ e.2.base = q

/-- No row falls back to itself, however many steps it takes. -/
def Acyclic (m : Manifest) : Prop := ∀ p, ¬ Relation.TransGen m.FallsBack p p

end Manifest

namespace Graph

open Manifest Namespace

variable {β : Type} {r : Registry β} {m : Manifest} {g g' : Graph β} {root : NodeId}
  {done : List (Bytes × Namespace)} {e : Bytes × Namespace}

/-! ### Classes -/

/-- Is there a class for the name? None is asked for by the empty name. -/
def Known (r : Registry β) (name : Bytes) : Prop := name ≠ [] → ∃ c, r.find? name = some c

/-- The class of that name; none for the empty name. -/
def classNamed (r : Registry β) (name : Bytes) : Option (Class β) :=
  if name = [] then none else r.find? name

/-- A class that is known is found. -/
theorem classFor_of_known {name : Bytes} (h : Known r name) (path : Bytes) :
    classFor r name path = .ok (classNamed r name) := by
  unfold classFor classNamed
  split
  · rfl
  next hname =>
    obtain ⟨c, hc⟩ := h hname
    rw [hc]

/-- One that is not is reported. -/
theorem classFor_of_not_known {name : Bytes} (h : ¬ Known r name) (path : Bytes) :
    classFor r name path = .error (.unknownClass name path) := by
  unfold Known at h
  push Not at h
  obtain ⟨hname, hnone⟩ := h
  unfold classFor
  rw [if_neg hname]
  split
  next c hc => exact absurd hc (hnone c)
  next => rfl

/-- Nothing else is. -/
theorem eq_of_classFor_error {name path : Bytes} {fault : AssemblyFault}
    (h : classFor r name path = .error fault) :
    fault = .unknownClass name path := by
  by_cases hknown : Known r name
  · rw [classFor_of_known hknown] at h
    cases h
  · rw [classFor_of_not_known hknown] at h
    exact (Except.error.inj h).symm

/-! ### Adding namespaces -/

/-- The nodes of the rows done so far. There is nothing else from `root`
on. -/
structure Built (r : Registry β) (root : NodeId) (done : List (Bytes × Namespace))
    (g : Graph β) : Prop where
  size : g.nodes.size = root + done.length
  lookup : ∀ i e, done[i]? = some e → g.lookup? root e.1 = some (root + i)
  cls : ∀ i e, done[i]? = some e → g.class? (root + i) = classNamed r e.2.className
  no_base : ∀ n, root ≤ n → g.base? n = none
  child : ∀ i e name c, done[i]? = some e → g.child? (root + i) name = some c →
    ∃ j e', c = root + j ∧ done[j]? = some e' ∧ Path.IsName name ∧ e'.1 = Path.join e.1 name ∧
    e'.2.name = name

/-- At first there is the root alone. -/
theorem built_root (g : Graph β) (top : Namespace) :
    Built r g.nodes.size [([], top)] (g.addNode (classNamed r top.className)).1 where
  size := by simp
  lookup i e h := by
    obtain ⟨rfl, rfl⟩ : i = 0 ∧ ([], top) = e := by simpa [List.getElem?_singleton] using h
    rfl
  cls i e h := by
    obtain ⟨rfl, rfl⟩ : i = 0 ∧ ([], top) = e := by simpa [List.getElem?_singleton] using h
    rw [class?_addNode, Nat.add_zero, if_pos rfl]
  no_base := (bare_addNode g _).no_base
  child i e name c h hc := by
    have hout : ¬ g.nodes.size + i < g.nodes.size := Nat.not_lt.mpr (Nat.le_add_right _ _)
    rw [child?_addNode, child?, node?_of_out hout] at hc
    cases hc

/-- What is at a place of a list with one more element. -/
private theorem getElem?_concat {α : Type} {l : List α} {x a : α} {i : Nat}
    (h : (l ++ [x])[i]? = some a) :
    l[i]? = some a ∨ (i = l.length ∧ a = x) := by
  rcases Nat.lt_trichotomy i l.length with hlt | rfl | hgt
  · exact .inl (by rwa [List.getElem?_append_left hlt] at h)
  · exact .inr ⟨rfl, by simpa using h.symm⟩
  · rw [List.getElem?_eq_none (by simp; omega)] at h
    cases h

/-- A list keeps its members when one is added. -/
private theorem getElem?_concat_left {α : Type} {l : List α} (x : α) {a : α} {i : Nat}
    (h : l[i]? = some a) :
    (l ++ [x])[i]? = some a := by
  rw [List.getElem?_append_left (List.getElem?_eq_some_iff.mp h).1, h]

/-- Adding a namespace below a row that is done adds its row. -/
theorem Built.addNamespace (h : Built r root done g) {p : Bytes} {ns : Namespace}
    (hp : p ∈ done.map Prod.fst) (hname : Path.IsName ns.name)
    (hfresh : Path.join p ns.name ∉ done.map Prod.fst) (hknown : Known r ns.className) :
    ∃ g', addNamespace r root g (Path.join p ns.name) ns = .ok g' ∧
      Built r root (done ++ [(Path.join p ns.name, ns)]) g' := by
  obtain ⟨e, he, rfl⟩ := List.mem_map.mp hp
  obtain ⟨i, hi⟩ := List.mem_iff_getElem?.mp he
  have hparent : root + i < g.nodes.size := by
    rw [h.size]
    exact Nat.add_lt_add_left (List.getElem?_eq_some_iff.mp hi).1 root
  refine ⟨(g.addNode (classNamed r ns.className)).1.addChild (root + i) ns.name g.nodes.size, ?_,
    ?_⟩
  · rw [Graph.addNamespace, Path.parent_join _ hname.no_dot, h.lookup i e hi]
    simp only [classFor_of_known hknown]
    rfl
  have hchild : ∀ k name, ((g.addNode (classNamed r ns.className)).1.addChild (root + i) ns.name
      g.nodes.size).child? k name = if k = root + i ∧
      name = ns.name then some g.nodes.size else g.child? k name := by
    intro k name
    rw [child?_addChild (by rw [size_addNode]; exact Nat.lt_succ_of_lt hparent), child?_addNode]
  -- The name is new below its parent, or its path would not be.
  have hmono : ∀ k name c, g.child? k name = some c →
      ((g.addNode (classNamed r ns.className)).1.addChild (root + i) ns.name g.nodes.size).child? k
        name = some c := by
    intro k name c hc
    rw [hchild, if_neg, hc]
    rintro ⟨rfl, rfl⟩
    obtain ⟨j, e', _, he', _, hpath, _⟩ := h.child i e _ c hi hc
    exact hfresh (List.mem_map.mpr ⟨e', List.mem_of_getElem? he', hpath⟩)
  refine ⟨?_, fun j e' he' => ?_, fun j e' he' => ?_, fun n hn => ?_, fun j e' name c he' hc => ?_⟩
  · rw [size_addChild, size_addNode, h.size]
    simp [Nat.add_assoc]
  · rcases getElem?_concat he' with he' | ⟨rfl, rfl⟩
    · exact lookup?_mono hmono (h.lookup j e' he')
    · rw [lookup?_join _ _ _ hname, lookup?_mono hmono (h.lookup i e hi), Option.bind_some, hchild,
        if_pos ⟨rfl, rfl⟩, h.size]
  · rw [class?_addChild, class?_addNode, h.size]
    rcases getElem?_concat he' with he' | ⟨rfl, rfl⟩
    · have hlt : j < done.length := (List.getElem?_eq_some_iff.mp he').1
      rw [if_neg fun heq => Nat.ne_of_lt hlt (Nat.add_left_cancel heq), h.cls j e' he']
    · rw [if_pos rfl]
  · rw [base?_addChild, base?_addNode, h.no_base n hn]
  · rw [hchild] at hc
    split at hc
    next hnew =>
      obtain ⟨hij, rfl⟩ := hnew
      obtain rfl : j = i := Nat.add_left_cancel hij
      cases hc
      rw [getElem?_concat_left _ hi] at he'
      cases he'
      exact ⟨done.length, (Path.join e.1 ns.name, ns), h.size, by simp, hname, rfl, rfl⟩
    · rcases getElem?_concat he' with he' | ⟨rfl, rfl⟩
      · obtain ⟨k, e'', hk, he'', hrow⟩ := h.child j e' name c he' hc
        exact ⟨k, e'', hk, getElem?_concat_left _ he'', hrow⟩
      · rw [child?, node?_of_out (by rw [h.size]; exact Nat.lt_irrefl _)] at hc
        cases hc

/-- Rows that can still be added: each below an earlier one, under a path
that is not taken. -/
structure Pending (done rest : List (Bytes × Namespace)) : Prop where
  parents : ParentsFirst (done.map Prod.fst) rest
  names : ∀ e ∈ rest, Path.IsName e.2.name
  nodup : ((done ++ rest).map Prod.fst).Nodup

/-- What is pending after the next entry. -/
theorem Pending.tail {rest : List (Bytes × Namespace)} (h : Pending done (e :: rest)) :
    Pending (done ++ [e]) rest where
  parents := by simpa using h.parents.2
  names e he := h.names e (List.mem_cons_of_mem _ he)
  nodup := by simpa using h.nodup

/-- The next path was not there before. -/
theorem Pending.fresh {rest : List (Bytes × Namespace)} (h : Pending done (e :: rest)) :
    e.1 ∉ done.map Prod.fst := fun hmem => by
  have hnodup := h.nodup
  rw [List.map_append, List.nodup_append] at hnodup
  exact hnodup.2.2 _ hmem _ List.mem_cons_self rfl

/-- The first row that can be added is added when its class is known, and
its class is reported when it is not. -/
theorem Built.addNamespace_of_pending (h : Built r root done g) {rest : List (Bytes × Namespace)}
    (hpending : Pending done (e :: rest)) :
    (Known r e.2.className → ∃ g', Graph.addNamespace r root g e.1 e.2 = .ok g' ∧
      Built r root (done ++ [e]) g') ∧
    (¬ Known r e.2.className →
      Graph.addNamespace r root g e.1 e.2 = .error (.unknownClass e.2.className e.1)) := by
  obtain ⟨path, ns⟩ := e
  obtain ⟨p, hp, rfl⟩ := hpending.parents.1
  have hname := hpending.names _ List.mem_cons_self
  refine ⟨h.addNamespace hp hname hpending.fresh, fun hunknown => ?_⟩
  -- The parent is there, so it is the class that is reported.
  obtain ⟨e, he, rfl⟩ := List.mem_map.mp hp
  obtain ⟨i, hi⟩ := List.mem_iff_getElem?.mp he
  rw [Graph.addNamespace, Path.parent_join _ hname.no_dot, h.lookup i e hi]
  simp only [classFor_of_not_known hunknown]

/-- When every class is known, all rows are added and nothing is
reported. -/
theorem Built.addNamespaces (h : Built r root done g) {rest : List (Bytes × Namespace)}
    (hpending : Pending done rest) (hknown : ∀ e ∈ rest, Known r e.2.className) :
    (Graph.addNamespaces r root g rest).2 = [] ∧
      Built r root (done ++ rest) (Graph.addNamespaces r root g rest).1 := by
  induction rest generalizing g done with
  | nil => simpa [Graph.addNamespaces] using h
  | cons e rest ih =>
    obtain ⟨g', hadd, hbuilt⟩ :=
      (h.addNamespace_of_pending hpending).1 (hknown e List.mem_cons_self)
    have hrest := ih hbuilt hpending.tail fun e he => hknown e (List.mem_cons_of_mem _ he)
    rw [Graph.addNamespaces, hadd]
    rwa [List.append_assoc, List.singleton_append] at hrest

/-- When a class is not known, the first thing reported is such a
class. -/
theorem Built.addNamespaces_of_not_known (h : Built r root done g) {rest : List (Bytes × Namespace)}
    (hpending : Pending done rest) (hunknown : ∃ e ∈ rest, ¬ Known r e.2.className) :
    ∃ name path faults, (Graph.addNamespaces r root g rest).2 =
      .unknownClass name path :: faults := by
  induction rest generalizing g done with
  | nil => simp at hunknown
  | cons e rest ih =>
    rw [Graph.addNamespaces]
    by_cases hknown : Known r e.2.className
    · obtain ⟨g', hadd, hbuilt⟩ := (h.addNamespace_of_pending hpending).1 hknown
      rw [hadd]
      refine ih hbuilt hpending.tail ?_
      obtain ⟨e', he', hun⟩ := hunknown
      rcases List.mem_cons.mp he' with rfl | he'
      · exact absurd hknown hun
      · exact ⟨e', he', hun⟩
    · rw [(h.addNamespace_of_pending hpending).2 hknown]
      exact ⟨_, _, _, rfl⟩

/-! ### Setting bases -/

/-- The node a base stands for. -/
def baseNamed (g : Graph β) (root : NodeId) (base : Bytes) : Option NodeId :=
  if base = [] then none else g.lookup? root base

/-- The graph as it was, with the bases of the rows done so far. -/
structure Rebased (g : Graph β) (root : NodeId) (done : List (Bytes × Namespace))
    (g' : Graph β) : Prop where
  size : g'.nodes.size = g.nodes.size
  child : ∀ n name, g'.child? n name = g.child? n name
  cls : ∀ n, g'.class? n = g.class? n
  base_done : ∀ i e, done[i]? = some e → g'.base? (root + i) = g.baseNamed root e.2.base
  base_rest : ∀ n, root + done.length ≤ n → g'.base? n = g.base? n

/-- Setting the base of the next row. -/
theorem Rebased.setBaseAt {rows rest : List (Bytes × Namespace)} (hbuilt : Built r root rows g)
    (hrows : rows = done ++ e :: rest) (hbase : e.2.base ≠ [] → e.2.base ∈ rows.map Prod.fst)
    (h : Rebased g root done g') :
    ∃ g'', Graph.setBaseAt root g' e.1 e.2.base = .ok g'' ∧ Rebased g root (done ++ [e]) g'' := by
  have hi : rows[done.length]? = some e := by simp [hrows]
  -- Setting bases moves no child, so the paths lead where they did when all was built.
  have hlookup : ∀ path, g'.lookup? root path = g.lookup? root path := lookup?_congr h.child root
  by_cases hnil : e.2.base = []
  · refine ⟨g', by rw [Graph.setBaseAt, if_pos hnil], h.size, h.child, h.cls, fun j e' he' => ?_,
      fun n hn => ?_⟩
    · rcases getElem?_concat he' with he' | ⟨rfl, rfl⟩
      · exact h.base_done j e' he'
      · rw [h.base_rest _ (Nat.le_refl _), hbuilt.no_base _ (Nat.le_add_right _ _), baseNamed,
          if_pos hnil]
    · exact h.base_rest n (Nat.le_trans (by simp) hn)
  · obtain ⟨eb, heb, hpath⟩ := List.mem_map.mp (hbase hnil)
    obtain ⟨j, hj⟩ := List.mem_iff_getElem?.mp heb
    have hb : g.lookup? root e.2.base = some (root + j) := by rw [← hpath, hbuilt.lookup j eb hj]
    have hlt : root + done.length < g'.nodes.size := by
      rw [h.size, hbuilt.size, hrows]
      simp
    refine ⟨g'.setBase (root + done.length) (some (root + j)), ?_, ?_⟩
    · rw [Graph.setBaseAt, if_neg hnil, hlookup, hlookup, hb, hbuilt.lookup _ e hi]
    refine ⟨by rw [size_setBase, h.size], fun n name => by rw [child?_setBase, h.child],
      fun n => by rw [class?_setBase, h.cls], fun k e' he' => ?_, fun n hn => ?_⟩
    · rcases getElem?_concat he' with he' | ⟨rfl, rfl⟩
      · have hk : k < done.length := (List.getElem?_eq_some_iff.mp he').1
        rw [base?_setBase_of_ne fun heq => Nat.ne_of_lt hk (Nat.add_left_cancel heq),
          h.base_done k e' he']
      · rw [base?_setBase_self hlt, baseNamed, if_neg hnil, hb]
    · rw [List.length_append, List.length_singleton] at hn
      have hne : n ≠ root + done.length := Nat.ne_of_gt hn
      rw [base?_setBase_of_ne hne, h.base_rest n (Nat.le_of_succ_le hn)]

/-- All bases are set and nothing is reported when every base is the path
of a row. -/
theorem Rebased.setBases {rows rest : List (Bytes × Namespace)} (hbuilt : Built r root rows g)
    (hrows : rows = done ++ rest)
    (hbases : ∀ e ∈ rows, e.2.base ≠ [] → e.2.base ∈ rows.map Prod.fst)
    (h : Rebased g root done g') :
    (Graph.setBases root g' (rest.map fun e => (e.1, e.2.base))).2 = [] ∧
      Rebased g root rows (Graph.setBases root g' (rest.map fun e => (e.1, e.2.base))).1 := by
  induction rest generalizing g' done with
  | nil =>
    rw [List.append_nil] at hrows
    exact ⟨rfl, hrows ▸ h⟩
  | cons e rest ih =>
    obtain ⟨g'', hset, hdone⟩ := h.setBaseAt hbuilt hrows (hbases e (by simp [hrows]))
    rw [List.map_cons, Graph.setBases, hset]
    exact ih (by simpa using hrows) hdone

/-! ### The finished graph -/

/-- The nodes of all rows, with their bases. -/
structure Finished (r : Registry β) (m : Manifest) (root : NodeId) (g : Graph β) : Prop where
  lookup : ∀ i e, m.rows[i]? = some e → g.lookup? root e.1 = some (root + i)
  cls : ∀ i e, m.rows[i]? = some e → g.class? (root + i) = classNamed r e.2.className
  base : ∀ i e, m.rows[i]? = some e → g.base? (root + i) = g.baseNamed root e.2.base
  child : ∀ i e name c, m.rows[i]? = some e → g.child? (root + i) name = some c →
    ∃ j e', c = root + j ∧ m.rows[j]? = some e' ∧ Path.IsName name ∧ e'.1 = Path.join e.1 name ∧
    e'.2.name = name

/-- A graph that is built, and whose bases are set, is finished. -/
theorem Rebased.finished (hbuilt : Built r root m.rows g) (h : Rebased g root m.rows g') :
    Finished r m root g' := by
  have hlookup : ∀ path, g'.lookup? root path = g.lookup? root path := lookup?_congr h.child root
  refine ⟨fun i e hi => ?_, fun i e hi => ?_, fun i e hi => ?_, fun i e name c hi hc => ?_⟩
  · rw [hlookup, hbuilt.lookup i e hi]
  · rw [h.cls, hbuilt.cls i e hi]
  · rw [h.base_done i e hi, baseNamed, baseNamed, hlookup]
  · rw [h.child] at hc
    exact hbuilt.child i e name c hi hc

/-- What a manifest says about one row, as the graph has it at node
`n`. -/
structure Shows (r : Registry β) (g : Graph β) (root : NodeId) (e : Bytes × Namespace)
    (n : NodeId) : Prop where
  lookup : g.lookup? root e.1 = some n
  cls : g.class? n = classNamed r e.2.className
  children : (g.childNames n).Perm (e.2.children.map (·.name))
  no_base : e.2.base = [] → g.base? n = none
  base : e.2.base ≠ [] → ∃ b, g.lookup? root e.2.base = some b ∧ g.base? n = some b

/-- The graph is the picture of a manifest: every row has its node, and
different paths have different ones. -/
structure Mirrors (r : Registry β) (m : Manifest) (g : Graph β) (root : NodeId) : Prop where
  shows : ∀ e ∈ m.rows, ∃ n, Shows r g root e n
  distinct : ∀ e ∈ m.rows, ∀ e' ∈ m.rows, g.lookup? root e.1 = g.lookup? root e'.1 → e.1 = e'.1

/-- Rows with one path are one row. -/
theorem eq_of_path_eq (hwell : WellNamed m.namespaces) {i j : Nat} {e e' : Bytes × Namespace}
    (hi : m.rows[i]? = some e) (hj : m.rows[j]? = some e') (h : e.1 = e'.1) : i = j ∧ e = e' := by
  have hpath : ∀ (k : Nat) (e : Bytes × Namespace), m.rows[k]? = some e →
      (m.rows.map Prod.fst)[k]? = some e.1 := by
    intro k e hk
    rw [List.getElem?_map, hk]
    rfl
  have hij : i = j := by
    refine (List.getElem?_inj ?_ (nodup_rows hwell)).mp (by rw [hpath i e hi, hpath j e' hj, h])
    rw [List.length_map]
    exact (List.getElem?_eq_some_iff.mp hi).1
  subst hij
  rw [hi] at hj
  exact ⟨rfl, Option.some.inj hj⟩

/-- The children of a row's node are the nodes of its children. -/
theorem Finished.exists_child_iff (h : Finished r m root g) (hwell : WellNamed m.namespaces)
    {i : Nat} (hi : m.rows[i]? = some e) (name : Bytes) :
    (∃ c, g.child? (root + i) name = some c) ↔ name ∈ e.2.children.map (·.name) := by
  constructor
  · rintro ⟨c, hc⟩
    obtain ⟨j, e', _, hj, hname, hpath, rfl⟩ := h.child i e name c hi hc
    have hwalk : e' ∈ m.walk := by
      rcases List.mem_cons.mp (List.mem_of_getElem? hj) with rfl | hmem
      · exact absurd hpath.symm (Path.join_ne_nil _ hname.ne_nil)
      · exact hmem
    -- The row above `e'` has the path of `e`, so it is `e`.
    obtain ⟨e'', he'', hmem, hpath'⟩ := exists_parent hwalk
    obtain ⟨k, hk⟩ := List.mem_iff_getElem?.mp he''
    have hsame := ((Path.join_inj hname.no_dot hname.no_dot).mp (hpath.symm.trans hpath')).1
    obtain ⟨_, rfl⟩ := eq_of_path_eq hwell hi hk hsame
    exact List.mem_map.mpr ⟨e'.2, hmem, rfl⟩
  · intro hname
    obtain ⟨ns, hns, rfl⟩ := List.mem_map.mp hname
    have he : e ∈ m.rows := List.mem_of_getElem? hi
    have hmem := child_mem_walk he hns
    obtain ⟨j, hj⟩ := List.mem_iff_getElem?.mp (List.mem_cons_of_mem ([], m.top) hmem)
    have hlookup := h.lookup j _ hj
    rw [lookup?_join _ _ _ (wellNamed_of_mem_walk hwell hmem).1, h.lookup i e hi] at hlookup
    exact ⟨_, hlookup⟩

/-- The finished graph is the picture of the manifest. -/
theorem Finished.mirrors (h : Finished r m root g) (hwell : WellNamed m.namespaces)
    (hbases : ∀ e ∈ m.rows, e.2.base ≠ [] → e.2.base ∈ m.rows.map Prod.fst) :
    Mirrors r m g root := by
  refine ⟨fun e he => ?_, fun e he e' he' hsame => ?_⟩
  · obtain ⟨i, hi⟩ := List.mem_iff_getElem?.mp he
    refine ⟨root + i, h.lookup i e hi, h.cls i e hi, ?_, fun hnil => ?_, fun hne => ?_⟩
    · refine (List.perm_ext_iff_of_nodup (nodup_childNames g _)
        (nodup_names (wellNamed_children hwell he))).mpr ?_
      intro name
      rw [mem_childNames_iff, h.exists_child_iff hwell hi]
    · rw [h.base i e hi, baseNamed, if_pos hnil]
    · obtain ⟨eb, heb, hpath⟩ := List.mem_map.mp (hbases e he hne)
      obtain ⟨j, hj⟩ := List.mem_iff_getElem?.mp heb
      refine ⟨root + j, by rw [← hpath, h.lookup j eb hj], ?_⟩
      rw [h.base i e hi, baseNamed, if_neg hne, ← hpath, h.lookup j eb hj]
  · obtain ⟨i, hi⟩ := List.mem_iff_getElem?.mp he
    obtain ⟨j, hj⟩ := List.mem_iff_getElem?.mp he'
    rw [h.lookup i e hi, h.lookup j e' hj] at hsame
    obtain rfl : i = j := Nat.add_left_cancel (Option.some.inj hsame)
    rw [hi] at hj
    cases hj
    rfl

/-! ### Circles -/

/-- What is below the root are the nodes of the rows. -/
theorem Finished.below_iff (h : Finished r m root g) {n : NodeId} :
    Below g root n ↔ ∃ i e, m.rows[i]? = some e ∧ n = root + i := by
  constructor
  · intro hn
    induction hn with
    | root => exact ⟨0, ([], m.top), rfl, rfl⟩
    | child _ hc ih =>
      obtain ⟨i, e, hi, rfl⟩ := ih
      obtain ⟨j, e', rfl, hj, _⟩ := h.child i e _ _ hi hc
      exact ⟨j, e', hj, rfl⟩
  · rintro ⟨i, e, hi, rfl⟩
    exact below_of_lookup? (h.lookup i e hi)

/-- Falling back in the manifest is falling back in the graph. -/
theorem Finished.fallsTo_of_fallsBack (h : Finished r m root g) (hwell : WellNamed m.namespaces)
    {i j : Nat} {e e' : Bytes × Namespace} (hi : m.rows[i]? = some e) (hj : m.rows[j]? = some e')
    (hfalls : m.FallsBack e.1 e'.1) : g.FallsTo (root + i) (root + j) := by
  obtain ⟨hne, e'', he'', hpath, hbase⟩ := hfalls
  obtain ⟨k, hk⟩ := List.mem_iff_getElem?.mp he''
  obtain ⟨_, rfl⟩ := eq_of_path_eq hwell hk hi hpath
  rw [FallsTo, h.base i _ hi, baseNamed, hbase, if_neg hne, h.lookup j e' hj]

/-- And the other way round. -/
theorem Finished.fallsBack_of_fallsTo (h : Finished r m root g)
    (hbases : ∀ e ∈ m.rows, e.2.base ≠ [] → e.2.base ∈ m.rows.map Prod.fst) {i : Nat} {n : NodeId}
    (hi : m.rows[i]? = some e) (hfalls : g.FallsTo (root + i) n) :
    ∃ j e', n = root + j ∧ m.rows[j]? = some e' ∧ m.FallsBack e.1 e'.1 := by
  rw [FallsTo, h.base i e hi, baseNamed] at hfalls
  split at hfalls
  · cases hfalls
  next hne =>
    have he : e ∈ m.rows := List.mem_of_getElem? hi
    obtain ⟨eb, heb, hpath⟩ := List.mem_map.mp (hbases e he hne)
    obtain ⟨j, hj⟩ := List.mem_iff_getElem?.mp heb
    rw [← hpath, h.lookup j eb hj] at hfalls
    exact ⟨j, eb, (Option.some.inj hfalls).symm, hj, by rwa [hpath], e, he, rfl, hpath.symm⟩

/-- A chain of bases in the manifest is one in the graph. -/
theorem Finished.transGen_fallsTo (h : Finished r m root g) (hwell : WellNamed m.namespaces)
    {p q : Bytes} (hfalls : Relation.TransGen m.FallsBack p q) {i j : Nat}
    {e e' : Bytes × Namespace} (hi : m.rows[i]? = some e) (hj : m.rows[j]? = some e') (hp : e.1 = p)
    (hq : e'.1 = q) :
    Relation.TransGen g.FallsTo (root + i) (root + j) := by
  induction hfalls generalizing j e' with
  | single hstep => exact .single (h.fallsTo_of_fallsBack hwell hi hj (by rwa [hp, hq]))
  | tail _ hstep ih =>
    obtain ⟨_, e'', he'', hpath, _⟩ := id hstep
    obtain ⟨k, hk⟩ := List.mem_iff_getElem?.mp he''
    exact .tail (ih hk hpath) (h.fallsTo_of_fallsBack hwell hk hj (by rwa [hpath, hq]))

/-- A chain of bases in the graph is one in the manifest. -/
theorem Finished.transGen_fallsBack (h : Finished r m root g)
    (hbases : ∀ e ∈ m.rows, e.2.base ≠ [] → e.2.base ∈ m.rows.map Prod.fst) {i : Nat} {n : NodeId}
    (hi : m.rows[i]? = some e) (hfalls : Relation.TransGen g.FallsTo (root + i) n) :
    ∃ j e', n = root + j ∧ m.rows[j]? = some e' ∧ Relation.TransGen m.FallsBack e.1 e'.1 := by
  induction hfalls with
  | single hstep =>
    obtain ⟨j, e', hn, hj, hback⟩ := h.fallsBack_of_fallsTo hbases hi hstep
    exact ⟨j, e', hn, hj, .single hback⟩
  | tail _ hstep ih =>
    obtain ⟨k, e'', rfl, hk, hback⟩ := ih
    obtain ⟨j, e', hn, hj, hback'⟩ := h.fallsBack_of_fallsTo hbases hk hstep
    exact ⟨j, e', hn, hj, hback.tail hback'⟩

/-- No circle is reported when there is none in the manifest. -/
theorem Finished.cyclicPath?_eq_none_iff (h : Finished r m root g) (hwell : WellNamed m.namespaces)
    (hbases : ∀ e ∈ m.rows, e.2.base ≠ [] → e.2.base ∈ m.rows.map Prod.fst) :
    g.cyclicPath? root = none ↔ m.Acyclic := by
  rw [Graph.cyclicPath?_eq_none_iff]
  constructor
  · intro hends p hcircle
    -- A circle starts at a row, whose node is below the root.
    obtain ⟨_, ⟨_, e, he, rfl, _⟩, _⟩ := Relation.TransGen.head'_iff.mp hcircle
    obtain ⟨i, hi⟩ := List.mem_iff_getElem?.mp he
    exact (chainEnds_iff_not_circle _).mp (hends _ (h.below_iff.mpr ⟨i, e, hi, rfl⟩)) _ .refl
      (h.transGen_fallsTo hwell hcircle hi hi rfl rfl)
  · intro hacyclic n hn
    obtain ⟨i, e, hi, rfl⟩ := h.below_iff.mp hn
    rw [chainEnds_iff_not_circle]
    intro k hk hcircle
    obtain ⟨j, e', rfl, hj⟩ : ∃ j e', k = root + j ∧ m.rows[j]? = some e' := by
      rcases Relation.reflTransGen_iff_eq_or_transGen.mp hk with rfl | hk
      · exact ⟨i, e, rfl, hi⟩
      · obtain ⟨j, e', hkj, hj, _⟩ := h.transGen_fallsBack hbases hi hk
        exact ⟨j, e', hkj, hj⟩
    obtain ⟨j', e'', hsame, hj', hback⟩ := h.transGen_fallsBack hbases hj hcircle
    obtain rfl : j = j' := Nat.add_left_cancel hsame
    rw [hj] at hj'
    cases hj'
    exact hacyclic _ hback

/-! ### Assembly -/

/-- The namespaces of a valid manifest can be added below its root. -/
theorem pending_walk (hwell : WellNamed m.namespaces) : Pending [([], m.top)] m.walk where
  parents := parentsFirst_rows m
  names _ he := (wellNamed_of_mem_walk hwell he).1
  nodup := nodup_rows hwell

/-- The bases of a valid manifest are rows. -/
theorem base_mem_rows (hvalid : m.isValid = true) :
    ∀ e ∈ m.rows, e.2.base ≠ [] → e.2.base ∈ m.rows.map Prod.fst := fun e he hne =>
  List.mem_cons_of_mem _ (((isValid_iff m).mp hvalid).2.2 e he hne)

/-- The three phases of assembly. -/
theorem assemble_eq (g : Graph β) (hvalid : m.isValid = true) (htop : Known r m.className) :
    assemble r m g =
      let added := addNamespaces r g.nodes.size (g.addNode (classNamed r m.className)).1 m.walk
      let based := setBases g.nodes.size added.1 (m.rows.map fun e => (e.1, e.2.base))
      if added.2 ≠ [] then .error (.faults added.2)
      else if based.2 ≠ [] then .error (.faults based.2)
      else match based.1.cyclicPath? g.nodes.size with
        | some path => .error (.cyclic path)
        | none => .ok (based.1, g.nodes.size) := by
  unfold assemble
  rw [if_neg (not_not_intro hvalid), classFor_of_known htop]
  rfl

/-- Adding namespaces reports no bases. -/
theorem unknownBase_not_mem_addNamespaces (g : Graph β) (es : List (Bytes × Namespace))
    (base path : Bytes) :
    .unknownBase base path ∉ (addNamespaces r root g es).2 := by
  induction es generalizing g with
  | nil => simp [addNamespaces]
  | cons e es ih =>
    obtain ⟨p, ns⟩ := e
    rw [addNamespaces]
    split
    next g' _ => exact ih g'
    next fault hfault =>
      intro hmem
      rcases List.mem_cons.mp hmem with rfl | hmem
      -- The only fault of a namespace is a class that is not known.
      · unfold addNamespace at hfault
        split at hfault
        · cases hfault
        · split at hfault
          next hcls =>
            cases hfault
            cases eq_of_classFor_error hcls
          next => cases hfault
      · exact ih g hmem

/-- A class that is not known is reported, and keeps anything from being
built. -/
theorem assemble_of_not_known (g : Graph β) (hvalid : m.isValid = true)
    (hunknown : ∃ e ∈ m.rows, ¬ Known r e.2.className) :
    ∃ faults, assemble r m g = .error (.faults faults) ∧
      (∃ name path, .unknownClass name path ∈ faults) ∧ ∀ base path,
      .unknownBase base path ∉ faults := by
  obtain ⟨_, hwell, _⟩ := (isValid_iff m).mp hvalid
  by_cases htop : Known r m.className
  · have hrest : ∃ e ∈ m.walk, ¬ Known r e.2.className := by
      obtain ⟨e, he, hun⟩ := hunknown
      rcases List.mem_cons.mp he with rfl | he
      · exact absurd htop hun
      · exact ⟨e, he, hun⟩
    obtain ⟨name, path, faults, hfaults⟩ :=
      (built_root g m.top).addNamespaces_of_not_known (r := r) (pending_walk hwell) hrest
    rw [assemble_eq g hvalid htop]
    refine ⟨_, if_pos ?_, ⟨name, path, ?_⟩, unknownBase_not_mem_addNamespaces _ _⟩
    · exact ne_of_eq_of_ne hfaults (List.cons_ne_nil _ _)
    · exact hfaults ▸ List.mem_cons_self
  · unfold assemble
    rw [if_neg (not_not_intro hvalid), classFor_of_not_known htop]
    exact ⟨_, rfl, ⟨_, _, List.mem_singleton_self _⟩, by simp⟩

/-- When every class is known the graph is finished, and only a circle is
left to report. -/
theorem assemble_of_known (g : Graph β) (hvalid : m.isValid = true)
    (hknown : ∀ e ∈ m.rows, Known r e.2.className) :
    ∃ g', Finished r m g.nodes.size g' ∧
      assemble r m g = match g'.cyclicPath? g.nodes.size with
        | some path => .error (.cyclic path)
        | none => .ok (g', g.nodes.size) := by
  obtain ⟨_, hwell, _⟩ := (isValid_iff m).mp hvalid
  obtain ⟨hadded, hbuilt⟩ := (built_root g m.top).addNamespaces (r := r) (pending_walk hwell)
    fun e he => hknown e (List.mem_cons_of_mem _ he)
  have hnone (g' : Graph β) : Rebased g' g.nodes.size [] g' :=
    ⟨rfl, fun _ _ => rfl, fun _ => rfl, fun i e hi => by simp at hi, fun _ _ => rfl⟩
  obtain ⟨hset, hrebased⟩ :=
    (hnone _).setBases hbuilt (List.nil_append _).symm (base_mem_rows hvalid)
  refine ⟨_, hrebased.finished hbuilt, ?_⟩
  rw [assemble_eq g hvalid (hknown _ List.mem_cons_self)]
  exact (if_neg (not_not_intro hadded)).trans (if_neg (not_not_intro hset))

/-- What assembling a manifest above a graph may come to. -/
inductive Outcome (r : Registry β) (m : Manifest) (g : Graph β) :
    Except AssemblyError (Graph β × NodeId) → Prop
  | invalid (hinvalid : ¬ m.isValid = true) : Outcome r m g (.error (.invalid m.problems))
  | unknown (hvalid : m.isValid = true) (hunknown : ∃ e ∈ m.rows, ¬ Known r e.2.className)
    {faults : List AssemblyFault} (hclass : ∃ name path, .unknownClass name path ∈ faults)
    (hbase : ∀ base path, .unknownBase base path ∉ faults) : Outcome r m g (.error (.faults faults))
  | cyclic (hvalid : m.isValid = true) (hknown : ∀ e ∈ m.rows, Known r e.2.className)
    (hcyclic : ¬ m.Acyclic) (path : Bytes) : Outcome r m g (.error (.cyclic path))
  | built (hvalid : m.isValid = true) (hknown : ∀ e ∈ m.rows, Known r e.2.className)
    (hacyclic : m.Acyclic) {g' : Graph β} (h : Finished r m g.nodes.size g') :
    Outcome r m g (.ok (g', g.nodes.size))

/-- Assembling has the outcome that the manifest calls for. -/
theorem assemble_outcome (r : Registry β) (m : Manifest) (g : Graph β) :
    Outcome r m g (assemble r m g) := by
  -- The checks in their order: the manifest, the classes of its namespaces, the circles of the
  -- graph.
  by_cases hvalid : m.isValid = true
  swap
  · have hinvalid : assemble r m g = .error (.invalid m.problems) := if_pos hvalid
    rw [hinvalid]
    exact .invalid hvalid
  by_cases hknown : ∀ e ∈ m.rows, Known r e.2.className
  · obtain ⟨_, hwell, _⟩ := (isValid_iff m).mp hvalid
    obtain ⟨g', hfinished, hassemble⟩ := assemble_of_known g hvalid hknown
    have hcircle := hfinished.cyclicPath?_eq_none_iff hwell (base_mem_rows hvalid)
    rw [hassemble]
    cases hpath : g'.cyclicPath? g.nodes.size with
    | some path =>
      refine .cyclic hvalid hknown (fun hacyclic => ?_) path
      rw [hcircle.mpr hacyclic] at hpath
      cases hpath
    | none => exact .built hvalid hknown (hcircle.mp hpath) hfinished
  · have hsome : ∃ e ∈ m.rows, ¬ Known r e.2.className := by simpa using hknown
    obtain ⟨faults, hassemble, hclass, hbase⟩ := assemble_of_not_known g hvalid hsome
    rw [hassemble]
    exact .unknown hvalid hsome hclass hbase

/-- A circle is reported when nothing else is wrong. -/
theorem assemble_of_not_acyclic (g : Graph β) (hvalid : m.isValid = true)
    (hknown : ∀ e ∈ m.rows, Known r e.2.className) (hcyclic : ¬ m.Acyclic) :
    ∃ path, assemble r m g = .error (.cyclic path) := by
  have houtcome := assemble_outcome r m g
  generalize assemble r m g = result at houtcome
  cases houtcome with
  | invalid hinvalid => exact absurd hvalid hinvalid
  | unknown _ hunknown =>
    obtain ⟨e, he, hun⟩ := hunknown
    exact absurd (hknown e he) hun
  | cyclic _ _ _ path => exact ⟨path, rfl⟩
  | built _ _ hacyclic => exact absurd hacyclic hcyclic

/-- When a graph is built. -/
theorem exists_assemble_iff :
    (∃ g' root, assemble r m g = .ok (g', root)) ↔
      m.isValid = true ∧ (∀ e ∈ m.rows, Known r e.2.className) ∧ m.Acyclic := by
  have houtcome := assemble_outcome r m g
  generalize assemble r m g = result at houtcome
  cases houtcome with
  | invalid hinvalid => exact iff_of_false (by simp) fun h => hinvalid h.1
  | unknown _ hunknown =>
    obtain ⟨e, he, hun⟩ := hunknown
    exact iff_of_false (by simp) fun h => hun (h.2.1 e he)
  | cyclic _ _ hcyclic => exact iff_of_false (by simp) fun h => hcyclic h.2.2
  | built hvalid hknown hacyclic => exact iff_of_true ⟨_, _, rfl⟩ ⟨hvalid, hknown, hacyclic⟩

/-- Which graph is built. -/
theorem finished_of_assemble (h : assemble r m g = .ok (g', root)) :
    m.isValid = true ∧ root = g.nodes.size ∧ Finished r m root g' := by
  have houtcome := assemble_outcome r m g
  rw [h] at houtcome
  cases houtcome with
  | built hvalid _ _ hfinished => exact ⟨hvalid, rfl, hfinished⟩

/-- When a graph is built, which, and what is reported when none is. No
base is ever reported: the check of the manifest has seen to them. -/
theorem assemble_spec (r : Registry β) (m : Manifest) (g : Graph β) :
    ((∃ g' root, assemble r m g = .ok (g', root)) ↔
      m.isValid = true ∧ (∀ e ∈ m.rows, Known r e.2.className) ∧ m.Acyclic) ∧
    (∀ g' root, assemble r m g = .ok (g', root) → Mirrors r m g' root) ∧
    (∀ faults, assemble r m g = .error (.faults faults) → ∀ base path,
      .unknownBase base path ∉ faults) ∧
    (m.isValid = true → ∀ err, assemble r m g = .error err →
      ((∃ e ∈ m.rows, ¬ Known r e.2.className) →
        ∃ faults name path, err = .faults faults ∧ .unknownClass name path ∈ faults) ∧
      ((∀ e ∈ m.rows, Known r e.2.className) → ∃ path, err = .cyclic path)) := by
  -- Each way to fail has its reason, and the checks are made in the order of the cases.
  refine ⟨exists_assemble_iff, fun g' root heq => ?_, fun faults heq => ?_,
    fun hvalid err herr => ?_⟩
  · obtain ⟨hvalid, _, hfinished⟩ := finished_of_assemble heq
    exact hfinished.mirrors ((isValid_iff m).mp hvalid).2.1 (base_mem_rows hvalid)
  · have houtcome := assemble_outcome r m g
    rw [heq] at houtcome
    cases houtcome with
    | unknown _ _ _ hbase => exact hbase
  · have houtcome := assemble_outcome r m g
    rw [herr] at houtcome
    cases houtcome with
    | invalid hinvalid => exact absurd hvalid hinvalid
    | unknown _ hunknown hclass _ =>
      obtain ⟨name, path, hmem⟩ := hclass
      obtain ⟨e, he, hun⟩ := hunknown
      exact ⟨fun _ => ⟨_, name, path, rfl, hmem⟩, fun hknown => absurd (hknown e he) hun⟩
    | cyclic _ hknown _ path =>
      exact ⟨fun ⟨e, he, hun⟩ => absurd (hknown e he) hun, fun _ => ⟨path, rfl⟩⟩

end Graph

end ObjectBridge

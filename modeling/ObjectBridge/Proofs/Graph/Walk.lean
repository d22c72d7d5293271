import ObjectBridge.Graph.Walk
import ObjectBridge.Proofs.Data.Dict
import ObjectBridge.Proofs.Graph.Chain

/-!
# `ObjectBridge.Proofs.Graph.Walk`: a walk visits what is below its root

`Below g root n` says that children lead from `root` to `n`. The walk
visits exactly those nodes (`mem_walk_iff`), whatever else the graph holds:
children may be shared and may lead back, and may be numbers that no node
has.

The walk has fuel for one step per edge and one for the root. It suffices
because every step either drops an entry of the list of things to do or
visits a new node, and then the entries added are edges of that node,
which are not counted again (`unseenEdges_visit`).

`cyclicPath?_eq_none_iff` is the check that is built on it: no circle is
reported when the chain of every node below the root ends.
-/

set_option autoImplicit false

namespace ObjectBridge.Graph

variable {β : Type} {g : Graph β}

/-- Children lead from `root` to the node. -/
inductive Below (g : Graph β) (root : NodeId) : NodeId → Prop
  | root : Below g root root
  | child {n c : NodeId} {name : Bytes} (hn : Below g root n) (hc : g.child? n name = some c) :
    Below g root c

/-! ### Edges -/

/-- The number of children of a node. -/
def childCount (g : Graph β) (n : NodeId) : Nat := ((g.node? n).map (·.children.size)).getD 0

/-- Below a node there are as many entries as it has children. -/
theorem length_below (path : Bytes) (n : NodeId) : (g.below path n).length = g.childCount n := by
  unfold below childCount
  cases g.node? n with
  | none => rfl
  | some x => simp [Dict.size]

/-- The entries below a node are its children. -/
theorem mem_below {path : Bytes} {n : NodeId} {e : Bytes × NodeId} :
    e ∈ g.below path n ↔ ∃ name, g.child? n name = some e.2 ∧ e.1 = Path.join path name := by
  obtain ⟨p, c⟩ := e
  unfold below child?
  cases g.node? n with
  | none => simp
  | some x =>
    simp only [List.mem_map, Prod.exists, Prod.mk.injEq, Dict.mem_entries_iff, Option.bind_some]
    constructor
    · rintro ⟨name, _, hfind, rfl, rfl⟩
      exact ⟨name, hfind, rfl⟩
    · rintro ⟨name, hfind, rfl⟩
      exact ⟨name, c, hfind, rfl, rfl⟩

/-- The number of children of the nodes not seen yet. -/
def unseenEdges (g : Graph β) (seen : List NodeId) : Nat :=
  ∑ n ∈ (Finset.range g.nodes.size).filter (· ∉ seen), g.childCount n

/-- Visiting a node takes its children out of the count. -/
theorem unseenEdges_visit {n : NodeId} {seen : List NodeId} (h : n ∉ seen) :
    g.unseenEdges (n :: seen) + g.childCount n = g.unseenEdges seen := by
  have herase : (Finset.range g.nodes.size).filter (· ∉ n :: seen)
      = ((Finset.range g.nodes.size).filter (· ∉ seen)).erase n := by
    ext m
    simp only [Finset.mem_filter, Finset.mem_erase, List.mem_cons, not_or]
    tauto
  unfold unseenEdges
  rw [herase]
  by_cases hn : n < g.nodes.size
  · exact Finset.sum_erase_add _ _ (by simp [hn, h])
  · have hout : g.childCount n = 0 := by
      simp [childCount, node?, Array.getElem?_eq_none (Nat.le_of_not_lt hn)]
    rw [Finset.erase_eq_of_notMem (by simp [hn]), hout, Nat.add_zero]

/-- A sum over the places of a list is a sum over its elements. -/
private theorem sum_range_getElem? {α : Type} (f : α → Nat) (l : List α) :
    ∑ i ∈ Finset.range l.length, (l[i]?.map f).getD 0 = (l.map f).sum := by
  induction l with
  | nil => rfl
  | cons x l ih =>
    rw [List.length_cons, Finset.sum_range_succ', List.map_cons, List.sum_cons, ← ih]
    simp [Nat.add_comm]

/-- Before anything is seen, every edge is still to come. -/
theorem unseenEdges_nil : g.unseenEdges [] = g.edgeCount := by
  have hsum : g.edgeCount = (g.nodes.toList.map (·.children.size)).sum := by
    unfold edgeCount
    rw [List.sum_eq_foldl, List.foldl_map]
  rw [hsum, ← sum_range_getElem?]
  simp [unseenEdges, childCount, node?]

/-! ### What a walk visits -/

/-- With fuel for what is to be done, every node to be visited is visited
or was seen before, and so are the children of everything visited. -/
theorem walkFrom_closed {fuel : Nat} {seen : List NodeId} {todo : List (Bytes × NodeId)}
    (hfuel : todo.length + g.unseenEdges seen < fuel) :
    (∀ e ∈ todo, e.2 < g.nodes.size → e.2 ∈ seen ∨ e.2 ∈ (g.walkFrom fuel seen todo).map Prod.snd) ∧
    (∀ n ∈ (g.walkFrom fuel seen todo).map Prod.snd, ∀ name c, g.child? n name = some c →
      c < g.nodes.size → c ∈ seen ∨ c ∈ (g.walkFrom fuel seen todo).map Prod.snd) := by
  induction fuel generalizing seen todo with
  | zero => omega
  | succ fuel ih =>
    cases todo with
    | nil => simp [walkFrom]
    | cons e rest =>
      obtain ⟨path, n⟩ := e
      rw [List.length_cons] at hfuel
      by_cases hpass : n ∈ seen ∨ ¬ n < g.nodes.size
      · rw [walkFrom, if_pos hpass]
        obtain ⟨htodo, hchildren⟩ := @ih seen rest (by omega)
        refine ⟨fun e he hlt => ?_, hchildren⟩
        rcases List.mem_cons.mp he with rfl | he
        · exact .inl (hpass.resolve_right (not_not_intro hlt))
        · exact htodo e he hlt
      · rw [walkFrom, if_neg hpass]
        have hedges := @unseenEdges_visit β g n seen fun hseen => hpass (.inl hseen)
        obtain ⟨htodo, hchildren⟩ := @ih (n :: seen) (g.below path n ++ rest)
          (by rw [List.length_append, length_below]; omega)
        -- What the rest of the walk leaves in `n :: seen` is `n`, visited now, or was seen before.
        have hlift : ∀ m, (m ∈ n :: seen ∨
            m ∈ (g.walkFrom fuel (n :: seen) (g.below path n ++ rest)).map Prod.snd) →
            m ∈ seen ∨ m ∈ ((path, n) :: g.walkFrom fuel (n :: seen) (g.below path n ++ rest)).map
            Prod.snd := by
          intro m hm
          simp only [List.mem_cons, List.map_cons] at hm ⊢
          tauto
        refine ⟨fun e he hlt => ?_, fun m hm name c hc hlt => ?_⟩
        · rcases List.mem_cons.mp he with rfl | he
          · exact .inr List.mem_cons_self
          · exact hlift _ (htodo e (List.mem_append_right _ he) hlt)
        · rw [List.map_cons, List.mem_cons] at hm
          rcases hm with rfl | hm
          · exact hlift _ (htodo (Path.join path name, c)
              (List.mem_append_left _ (mem_below.mpr ⟨name, hc, rfl⟩)) hlt)
          · exact hlift _ (hchildren m hm name c hc hlt)

/-- A walk from nodes below the root stays below the root. -/
theorem below_of_mem_walkFrom {root : NodeId} {fuel : Nat} {seen : List NodeId}
    {todo : List (Bytes × NodeId)} (htodo : ∀ e ∈ todo, Below g root e.2) :
    ∀ e ∈ g.walkFrom fuel seen todo, Below g root e.2 ∧ e.2 < g.nodes.size := by
  -- All that is still to be visited is below the root, and so are the children added to it.
  induction fuel generalizing seen todo with
  | zero => simp [walkFrom]
  | succ fuel ih =>
    cases todo with
    | nil => simp [walkFrom]
    | cons e rest =>
      obtain ⟨path, n⟩ := e
      have hn : Below g root n := htodo _ List.mem_cons_self
      have hrest : ∀ e ∈ rest, Below g root e.2 := fun e he => htodo e (List.mem_cons_of_mem _ he)
      rw [walkFrom]
      split
      · exact ih hrest
      next hpass =>
        intro e he
        rcases List.mem_cons.mp he with rfl | he
        · exact ⟨hn, not_not.mp fun hout => hpass (.inr hout)⟩
        · refine ih (fun e he => ?_) e he
          rcases List.mem_append.mp he with he | he
          · obtain ⟨name, hc, _⟩ := mem_below.mp he
            exact .child hn hc
          · exact hrest e he

/-- No children lead from a number that no node has. -/
theorem lt_of_child? {n c : NodeId} {name : Bytes} (h : g.child? n name = some c) :
    n < g.nodes.size := by
  by_contra hout
  rw [child?, node?, Array.getElem?_eq_none (Nat.le_of_not_lt hout)] at h
  cases h

/-- The walk visits exactly the nodes below its root. -/
theorem mem_walk_iff {root n : NodeId} :
    (∃ path, (path, n) ∈ g.walk root) ↔ Below g root n ∧ n < g.nodes.size := by
  constructor
  · rintro ⟨path, hn⟩
    exact below_of_mem_walkFrom (by simp [Below.root]) _ hn
  · rintro ⟨hn, hlt⟩
    obtain ⟨htodo, hchildren⟩ := @walkFrom_closed β g (g.edgeCount + 2) [] [([], root)]
      (by rw [unseenEdges_nil]; simp; omega)
    have key : n ∈ (g.walk root).map Prod.snd := by
      induction hn with
      | root => exact (htodo ([], root) List.mem_cons_self hlt).resolve_left (by simp)
      | @child m c name _ hc ih =>
        exact (hchildren m (ih (lt_of_child? hc)) name c hc hlt).resolve_left (by simp)
    simpa using key

/-- The chain of a number that no node has ends at once. -/
theorem chainEnds_of_out {n : NodeId} (h : ¬ n < g.nodes.size) : g.chainEnds n = true :=
  (chainEnds_iff g n).mpr ⟨[n], isChain_of_out h⟩

/-- No circle is reported when the chain of every node below the root
ends. -/
theorem cyclicPath?_eq_none_iff {root : NodeId} :
    g.cyclicPath? root = none ↔ ∀ n, Below g root n → g.chainEnds n = true := by
  unfold cyclicPath?
  rw [Option.map_eq_none_iff, List.find?_eq_none]
  constructor
  · intro h n hn
    by_cases hlt : n < g.nodes.size
    · obtain ⟨path, hmem⟩ := mem_walk_iff.mpr ⟨hn, hlt⟩
      simpa using h (path, n) hmem
    · exact chainEnds_of_out hlt
  · intro h e he
    have hends : g.chainEnds e.2 = true := h e.2 (mem_walk_iff.mp ⟨e.1, he⟩).1
    simp [hends]

end ObjectBridge.Graph

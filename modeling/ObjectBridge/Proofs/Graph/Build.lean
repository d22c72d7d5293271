import ObjectBridge.Proofs.Data.Dict
import ObjectBridge.Proofs.Graph.Walk
import ObjectBridge.Proofs.Manifest.Path

/-!
# `ObjectBridge.Proofs.Graph.Build`: what the building operations change

A graph is read through `child?`, `base?` and `class?`, and looked up
along paths. Each building operation changes one of these readings at one
node:

* a new node has a class, and neither base nor children (`addNode`);
* a base is set at one node (`setBase`);
* a child is stored under one name of one node (`addChild`).

A lookup reads children only. So it is the same in graphs with the same
children (`lookup?_congr`), and it goes on finding what it found when
children are added under new names (`lookup?_mono`).
-/

set_option autoImplicit false

namespace ObjectBridge.Graph

variable {β : Type} {g : Graph β}

/-! ### Nodes -/

/-- Beyond the end there is no node. -/
theorem node?_of_out {n : NodeId} (h : ¬ n < g.nodes.size) : g.node? n = none :=
  Array.getElem?_eq_none (Nat.le_of_not_lt h)

/-- A new node comes last, and the others stay. -/
theorem node?_addNode (g : Graph β) (cls : Option (Class β)) (n : NodeId) :
    (g.addNode cls).1.node? n = if n = g.nodes.size then some { cls } else g.node? n :=
  Array.getElem?_push

/-- A change touches one node. -/
theorem node?_modifyNode (g : Graph β) (n : NodeId) (f : Node β → Node β) (k : NodeId) :
    (g.modifyNode n f).node? k = if k = n then (g.node? k).map f else g.node? k := by
  rw [node?, modifyNode, Array.getElem?_modify]
  by_cases h : k = n
  · rw [if_pos h, if_pos h.symm, node?]
  · rw [if_neg h, if_neg (Ne.symm h), node?]

/-- A new node is one more. -/
@[simp] theorem size_addNode (g : Graph β) (cls : Option (Class β)) :
    (g.addNode cls).1.nodes.size = g.nodes.size + 1 := Array.size_push _

/-- Setting a base makes no node. -/
@[simp] theorem size_setBase (g : Graph β) (n : NodeId) (b : Option NodeId) :
    (g.setBase n b).nodes.size = g.nodes.size := Array.size_modify

/-- Nor does adding a child. -/
@[simp] theorem size_addChild (g : Graph β) (n : NodeId) (name : Bytes) (c : NodeId) :
    (g.addChild n name c).nodes.size = g.nodes.size := Array.size_modify

/-! ### A new node -/

/-- A new node has no children, and the others keep theirs. -/
@[simp] theorem child?_addNode (g : Graph β) (cls : Option (Class β)) (n : NodeId) (name : Bytes) :
    (g.addNode cls).1.child? n name = g.child? n name := by
  rw [child?, child?, node?_addNode]
  split
  next h => rw [h, node?_of_out (Nat.lt_irrefl _)]; rfl
  next => rfl

/-- It has no base either. -/
@[simp] theorem base?_addNode (g : Graph β) (cls : Option (Class β)) (n : NodeId) :
    (g.addNode cls).1.base? n = g.base? n := by
  rw [base?, base?, node?_addNode]
  split
  next h => rw [h, node?_of_out (Nat.lt_irrefl _)]; rfl
  next => rfl

/-- It has the class it was made with. -/
theorem class?_addNode (g : Graph β) (cls : Option (Class β)) (n : NodeId) :
    (g.addNode cls).1.class? n = if n = g.nodes.size then cls else g.class? n := by
  rw [class?, class?, node?_addNode]
  split <;> rfl

/-! ### A base -/

/-- Setting a base leaves the children, -/
@[simp] theorem child?_setBase (g : Graph β) (n : NodeId) (b : Option NodeId) (k : NodeId)
    (name : Bytes) :
    (g.setBase n b).child? k name = g.child? k name := by
  rw [child?, child?, setBase, node?_modifyNode]
  cases g.node? k with
  | none => simp
  | some x => split <;> rfl

/-- and the classes. -/
@[simp] theorem class?_setBase (g : Graph β) (n : NodeId) (b : Option NodeId) (k : NodeId) :
    (g.setBase n b).class? k = g.class? k := by
  rw [class?, class?, setBase, node?_modifyNode]
  cases g.node? k with
  | none => simp
  | some x => split <;> rfl

/-- The node has the base that was set. -/
theorem base?_setBase_self {n : NodeId} (h : n < g.nodes.size) (b : Option NodeId) :
    (g.setBase n b).base? n = b := by
  rw [base?, setBase, node?_modifyNode, if_pos rfl, node?, Array.getElem?_eq_getElem h]
  rfl

/-- The other nodes keep theirs. -/
theorem base?_setBase_of_ne {n k : NodeId} (h : k ≠ n) (b : Option NodeId) :
    (g.setBase n b).base? k = g.base? k := by
  rw [base?, base?, setBase, node?_modifyNode, if_neg h]

/-! ### A child -/

/-- Adding a child leaves the classes, -/
@[simp] theorem class?_addChild (g : Graph β) (n : NodeId) (name : Bytes) (c k : NodeId) :
    (g.addChild n name c).class? k = g.class? k := by
  rw [class?, class?, addChild, node?_modifyNode]
  cases g.node? k with
  | none => simp
  | some x => split <;> rfl

/-- and the bases. -/
@[simp] theorem base?_addChild (g : Graph β) (n : NodeId) (name : Bytes) (c k : NodeId) :
    (g.addChild n name c).base? k = g.base? k := by
  rw [base?, base?, addChild, node?_modifyNode]
  cases g.node? k with
  | none => simp
  | some x => split <;> rfl

/-- The child is found under its name, and the others as before. -/
theorem child?_addChild {n : NodeId} (h : n < g.nodes.size) (name : Bytes) (c k : NodeId)
    (name' : Bytes) :
    (g.addChild n name c).child? k name' = if k = n ∧ name' = name then some c
    else g.child? k name' := by
  rw [child?, child?, addChild, node?_modifyNode]
  by_cases hk : k = n
  · subst hk
    rw [if_pos rfl, node?, Array.getElem?_eq_getElem h]
    simp [Dict.find?_insert]
  · rw [if_neg hk, if_neg (fun hand => hk hand.1)]

/-- The names of children are those under which one is found. -/
theorem mem_childNames_iff (g : Graph β) (n : NodeId) (name : Bytes) :
    name ∈ g.childNames n ↔ ∃ c, g.child? n name = some c := by
  unfold childNames child?
  cases g.node? n with
  | none => simp
  | some x => exact Dict.mem_keys_iff x.children name

/-- Each is listed once. -/
theorem nodup_childNames (g : Graph β) (n : NodeId) : (g.childNames n).Nodup := by
  unfold childNames
  cases g.node? n with
  | none => exact List.nodup_nil
  | some x => exact x.children.nodup_keys

/-! ### Lookups -/

/-- A lookup follows the names of a path. -/
theorem lookup?_eq (g : Graph β) (n : NodeId) (path : Bytes) :
    g.lookup? n path = (Path.names path).foldlM (fun cur part => g.child? cur part) n := by
  unfold lookup? Path.names
  split <;> rfl

/-- The empty path leads nowhere else. -/
@[simp] theorem lookup?_nil (g : Graph β) (n : NodeId) : g.lookup? n [] = some n := rfl

/-- Looking up a path and a name is looking up the path, and then the
child. -/
theorem lookup?_join (g : Graph β) (n : NodeId) (p : Bytes) {name : Bytes} (h : Path.IsName name) :
    g.lookup? n (Path.join p name) = (g.lookup? n p).bind (g.child? · name) := by
  rw [lookup?_eq, lookup?_eq, Path.names_join p h, List.foldlM_append]
  simp

/-- Where a path leads depends on the children alone. -/
theorem lookup?_congr {g' : Graph β} (h : ∀ k name, g'.child? k name = g.child? k name) (n : NodeId)
    (path : Bytes) : g'.lookup? n path = g.lookup? n path := by
  rw [lookup?_eq, lookup?_eq]
  simp only [h]

/-- More children do not disturb a lookup. -/
theorem lookup?_mono {g' : Graph β}
    (h : ∀ k name c, g.child? k name = some c → g'.child? k name = some c)
    {n k : NodeId} {path : Bytes} (hk : g.lookup? n path = some k) :
    g'.lookup? n path = some k := by
  rw [lookup?_eq] at hk ⊢
  generalize Path.names path = parts at hk ⊢
  induction parts generalizing n with
  | nil => exact hk
  | cons part parts ih =>
    rw [List.foldlM_cons] at hk ⊢
    obtain ⟨c, hc, hk⟩ := Option.bind_eq_some_iff.mp hk
    exact Option.bind_eq_some_iff.mpr ⟨c, h n part c hc, ih hk⟩

/-- What is looked up is below. -/
theorem below_of_lookup? {root n : NodeId} {path : Bytes} (h : g.lookup? root path = some n) :
    Below g root n := by
  rw [lookup?_eq] at h
  have key : ∀ (parts : List Bytes) (cur : NodeId), Below g root cur →
      parts.foldlM (fun cur part => g.child? cur part) cur = some n → Below g root n := by
    intro parts
    induction parts with
    | nil =>
      intro cur hcur h
      cases h
      exact hcur
    | cons part parts ih =>
      intro cur hcur h
      obtain ⟨c, hc, h⟩ := Option.bind_eq_some_iff.mp h
      exact ih c (.child hcur hc) h
  exact key _ root .root h

end ObjectBridge.Graph

import ObjectBridge.Graph.Assemble
import ObjectBridge.Proofs.Graph.Build

/-!
# `ObjectBridge.Proofs.Graph.Settled`: nothing leads out of an assembled graph

`Settled g root` is what a host relies on: the nodes below the root exist,
fall back only to nodes below the root, and have chains that end. An
assembled graph is settled (`settled_of_assemble`). The three phases of
assembly each give a part of it: namespaces are added below the root,
bases are looked up from the root, and the check at the end looks at every
node below the root.

`Settled` is kept by anything that only adds nodes (`Settled.extends`),
because a settled root leads to none of them.

A host does not only follow children. Reading a property may also find a
child of a node further down the chain, and native code makes objects that
are not below the root but fall back to something that is (`Anchored`).
`Held` covers both. What is held has a chain that ends (`Held.isChain`),
and reading children leads to nothing that is not held (`Held.read`).
-/

set_option autoImplicit false

namespace ObjectBridge.Graph

variable {β : Type} {g g' : Graph β} {root : NodeId}

/-- The nodes below the root exist, fall back to nodes below the root, and
have chains that end. -/
structure Settled (g : Graph β) (root : NodeId) : Prop where
  inside : ∀ n, Below g root n → n < g.nodes.size
  base_below : ∀ n b, Below g root n → g.base? n = some b → Below g root b
  ends : ∀ n, Below g root n → g.chainEnds n = true

/-! ### Adding namespaces -/

/-- The nodes from `root` on have no bases yet, and their children are
among them. -/
structure Bare (g : Graph β) (root : NodeId) : Prop where
  root_lt : root < g.nodes.size
  child_inside : ∀ n name c, root ≤ n → g.child? n name = some c → root ≤ c ∧ c < g.nodes.size
  no_base : ∀ n, root ≤ n → g.base? n = none

/-- What is below the root is among the nodes from `root` on. -/
theorem inside_of_below (hroot : root < g.nodes.size)
    (hchild : ∀ n name c, root ≤ n → g.child? n name = some c → root ≤ c ∧ c < g.nodes.size)
    {n : NodeId} (h : Below g root n) : root ≤ n ∧ n < g.nodes.size := by
  induction h with
  | root => exact ⟨Nat.le_refl _, hroot⟩
  | child _ hc ih => exact hchild _ _ _ ih.1 hc

/-- A fresh root is bare. -/
theorem bare_addNode (g : Graph β) (cls : Option (Class β)) :
    Bare (g.addNode cls).1 g.nodes.size where
  root_lt := by simp
  child_inside n name c hn hc := by
    rw [child?_addNode, child?, node?_of_out (Nat.not_lt.mpr hn)] at hc
    cases hc
  no_base n hn := by rw [base?_addNode, base?_of_out (Nat.not_lt.mpr hn)]

/-- A namespace that is added becomes a new node, and a child of the node
at the path above. -/
theorem exists_of_addNamespace {r : Registry β} {path : Bytes} {ns : Namespace}
    (h : addNamespace r root g path ns = .ok g') :
    ∃ parent cls, g.lookup? root (Path.parent path) = some parent ∧
      classFor r ns.className path = .ok cls ∧
      g' = (g.addNode cls).1.addChild parent ns.name g.nodes.size := by
  unfold addNamespace at h
  split at h
  · cases h
  next parent hparent =>
    split at h
    · cases h
    next cls hcls => exact ⟨parent, cls, hparent, hcls, (Except.ok.inj h).symm⟩

/-- Adding a namespace keeps the nodes bare. -/
theorem Bare.addNamespace (h : Bare g root) {r : Registry β} {path : Bytes} {ns : Namespace}
    (hadd : addNamespace r root g path ns = .ok g') : Bare g' root := by
  obtain ⟨parent, cls, hparent, _, rfl⟩ := exists_of_addNamespace hadd
  obtain ⟨_, hlt⟩ := inside_of_below h.root_lt h.child_inside (below_of_lookup? hparent)
  refine ⟨?_, fun n name c hn hc => ?_, fun n hn => ?_⟩
  · rw [size_addChild, size_addNode]
    exact Nat.lt_succ_of_lt h.root_lt
  · rw [child?_addChild (by rw [size_addNode]; exact Nat.lt_succ_of_lt hlt)] at hc
    rw [size_addChild, size_addNode]
    split at hc
    · cases hc
      exact ⟨Nat.le_of_lt h.root_lt, Nat.lt_succ_self _⟩
    · rw [child?_addNode] at hc
      obtain ⟨hle, hlt⟩ := h.child_inside n name c hn hc
      exact ⟨hle, Nat.lt_succ_of_lt hlt⟩
  · rw [base?_addChild, base?_addNode]
    exact h.no_base n hn

/-- Adding namespaces sets no base. -/
theorem Bare.addNamespaces (h : Bare g root) (r : Registry β) (es : List (Bytes × Namespace)) :
    Bare (addNamespaces r root g es).1 root := by
  induction es generalizing g with
  | nil => exact h
  | cons e es ih =>
    obtain ⟨path, ns⟩ := e
    rw [Graph.addNamespaces]
    split
    next g' hadd => exact ih (h.addNamespace hadd)
    next => exact ih h

/-! ### Setting bases -/

/-- The nodes from `root` on have their children among them, and fall back
to what is below the root. -/
structure Based (g : Graph β) (root : NodeId) : Prop where
  root_lt : root < g.nodes.size
  child_inside : ∀ n name c, root ≤ n → g.child? n name = some c → root ≤ c ∧ c < g.nodes.size
  base_below : ∀ n b, root ≤ n → g.base? n = some b → Below g root b

/-- A graph without bases is based. -/
theorem Bare.based (h : Bare g root) : Based g root where
  root_lt := h.root_lt
  child_inside := h.child_inside
  base_below n b hn hb := by
    rw [h.no_base n hn] at hb
    cases hb

/-- Graphs with the same children have the same nodes below a root. -/
theorem Below.congr (hchild : ∀ n name, g'.child? n name = g.child? n name) {n : NodeId}
    (h : Below g root n) :
    Below g' root n := by
  induction h with
  | root => exact .root
  | child _ hc ih => exact .child ih (by rw [hchild]; exact hc)

/-- Setting a base leaves the graph as it is when the base is empty, and
else sets the node that is looked up as the base of the other. -/
theorem exists_of_setBaseAt {path base : Bytes} (h : setBaseAt root g path base = .ok g') :
    (base = [] ∧ g' = g) ∨
      (base ≠ [] ∧ ∃ b n, g.lookup? root base = some b ∧ g.lookup? root path = some n ∧
        g' = g.setBase n (some b)) := by
  unfold setBaseAt at h
  split at h
  next hbase => exact .inl ⟨hbase, (Except.ok.inj h).symm⟩
  next hbase =>
    split at h
    next b n hb hn => exact .inr ⟨hbase, b, n, hb, hn, (Except.ok.inj h).symm⟩
    next => cases h

/-- A base that is looked up from the root is below it. -/
theorem Based.setBaseAt (h : Based g root) {path base : Bytes}
    (hset : setBaseAt root g path base = .ok g') :
    Based g' root := by
  rcases exists_of_setBaseAt hset with ⟨_, rfl⟩ | ⟨_, b, n, hb, hn, rfl⟩
  · exact h
  · obtain ⟨_, hlt⟩ := inside_of_below h.root_lt h.child_inside (below_of_lookup? hn)
    have hbelow : ∀ k, Below g root k → Below (g.setBase n (some b)) root k := fun k =>
      Below.congr (child?_setBase g n (some b))
    refine ⟨by rw [size_setBase]; exact h.root_lt, fun k name c hk hc => ?_, fun k b' hk hb' => ?_⟩
    · rw [child?_setBase] at hc
      rw [size_setBase]
      exact h.child_inside k name c hk hc
    · by_cases hkn : k = n
      · subst hkn
        rw [base?_setBase_self hlt] at hb'
        cases hb'
        exact hbelow _ (below_of_lookup? hb)
      · rw [base?_setBase_of_ne hkn] at hb'
        exact hbelow _ (h.base_below k b' hk hb')

/-- Setting bases keeps it based. -/
theorem Based.setBases (h : Based g root) (es : List (Bytes × Bytes)) :
    Based (setBases root g es).1 root := by
  induction es generalizing g with
  | nil => exact h
  | cons e es ih =>
    obtain ⟨path, base⟩ := e
    rw [Graph.setBases]
    split
    next g' hset => exact ih (h.setBaseAt hset)
    next => exact ih h

/-! ### Assembled graphs -/

/-- Nothing leads out of an assembled graph, and every chain in it
ends. -/
theorem settled_of_assemble {r : Registry β} {m : Manifest} (h : assemble r m g = .ok (g', root)) :
    Settled g' root := by
  unfold assemble at h
  split at h
  · cases h
  · split at h
    · cases h
    next cls _ =>
      simp only at h
      split at h
      · cases h
      · split at h
        · cases h
        · split at h
          · cases h
          next hcyclic =>
            cases h
            have hbased := ((bare_addNode g cls).addNamespaces r m.walk).based.setBases
              (([], m.base) :: m.walk.map fun e => (e.1, e.2.base))
            have hinside := fun n hn =>
              inside_of_below (n := n) hbased.root_lt hbased.child_inside hn
            exact ⟨fun n hn => (hinside n hn).2, fun n b hn hb => hbased.base_below n b
              (hinside n hn).1 hb, cyclicPath?_eq_none_iff.mp hcyclic⟩

/-! ### More nodes -/

/-- Every node of `g` is as it was; there may be more. -/
def Extends (g g' : Graph β) : Prop := ∀ n, n < g.nodes.size → g'.node? n = g.node? n

/-- An extension leaves the children of what was there, -/
theorem Extends.child?_eq (h : Extends g g') {n : NodeId} (hn : n < g.nodes.size) (name : Bytes) :
    g'.child? n name = g.child? n name := by
  rw [child?, child?, h n hn]

/-- and its base. -/
theorem Extends.base?_eq (h : Extends g g') {n : NodeId} (hn : n < g.nodes.size) :
    g'.base? n = g.base? n := by
  rw [base?, base?, h n hn]

/-- What was there is still there. -/
theorem Extends.lt (h : Extends g g') {n : NodeId} (hn : n < g.nodes.size) : n < g'.nodes.size := by
  by_contra hout
  have hnone := h n hn
  rw [node?_of_out hout, node?, Array.getElem?_eq_getElem hn] at hnone
  cases hnone

/-- A settled root leads to the same nodes when there are more. -/
theorem Settled.below_iff (hs : Settled g root) (h : Extends g g') {n : NodeId} :
    Below g' root n ↔ Below g root n := by
  constructor
  · intro hn
    induction hn with
    | root => exact .root
    | @child n c name _ hc ih =>
      rw [h.child?_eq (hs.inside n ih)] at hc
      exact .child ih hc
  · intro hn
    induction hn with
    | root => exact .root
    | @child n c name hn hc ih => exact .child ih (by rw [h.child?_eq (hs.inside n hn)]; exact hc)

/-- A chain below a settled root is the same when there are more nodes. -/
theorem Settled.isChain (hs : Settled g root) (h : Extends g g') {o : Option NodeId}
    {l : List NodeId} (hl : IsChain g o l) (ho : ∀ n, o = some n → Below g root n) :
    IsChain g' o l := by
  induction hl with
  | nil => exact .nil
  | @cons n l _ ih =>
    have hn := ho n rfl
    refine .cons ?_
    rw [h.base?_eq (hs.inside n hn)]
    exact ih fun b hb => hs.base_below n b hn hb

/-- A settled graph stays settled. -/
theorem Settled.extends (hs : Settled g root) (h : Extends g g') : Settled g' root where
  inside n hn := h.lt (hs.inside n ((hs.below_iff h).mp hn))
  base_below n b hn hb := by
    rw [hs.below_iff h] at hn ⊢
    rw [h.base?_eq (hs.inside n hn)] at hb
    exact hs.base_below n b hn hb
  ends n hn := by
    rw [hs.below_iff h] at hn
    obtain ⟨l, hl⟩ := (chainEnds_iff g n).mp (hs.ends n hn)
    exact (chainEnds_iff g' n).mpr ⟨l, hs.isChain h hl fun _ heq => Option.some.inj heq ▸ hn⟩

/-! ### Nodes that are added later -/

/-- A new node leaves the others as they are. -/
theorem extends_addNode (g : Graph β) (cls : Option (Class β)) : Extends g (g.addNode cls).1 :=
  fun n hn => by
  rw [node?_addNode, if_neg (Nat.ne_of_lt hn)]

/-- So does setting the base of a node that comes after them. -/
theorem Extends.setBase {g' : Graph β} (h : Extends g g') (b : Option NodeId) :
    Extends g (g'.setBase g.nodes.size b) := fun n hn => by
  rw [Graph.setBase, node?_modifyNode, if_neg (Nat.ne_of_lt hn), h n hn]

/-- The graph with a new node, last of all. -/
def addBased (g : Graph β) (cls : Option (Class β)) (base : Option NodeId) : Graph β :=
  match base with
  | some b => (g.addNode cls).1.setBase g.nodes.size (some b)
  | none => (g.addNode cls).1

/-- A node with a base extends the graph. -/
theorem extends_addBased (g : Graph β) (cls : Option (Class β)) (base : Option NodeId) :
    Extends g (g.addBased cls base) := by
  unfold addBased
  split
  · exact (extends_addNode g cls).setBase _
  · exact extends_addNode g cls

/-- It has no children, and the others keep theirs. -/
theorem child?_addBased (cls : Option (Class β)) (base : Option NodeId) (n : NodeId)
    (name : Bytes) :
    (g.addBased cls base).child? n name = g.child? n name := by
  unfold addBased
  split
  · rw [child?_setBase, child?_addNode]
  · rw [child?_addNode]

/-- It has the base it was made with. -/
theorem base?_addBased (cls : Option (Class β)) (base : Option NodeId) :
    (g.addBased cls base).base? g.nodes.size = base := by
  unfold addBased
  split
  · rw [base?_setBase_self (by simp)]
  · rw [base?_addNode, base?_of_out (Nat.lt_irrefl _)]

/-! ### What a host holds -/

/-- A node without children that falls back to something below the root,
or to nothing. -/
structure Anchored (g : Graph β) (root n : NodeId) : Prop where
  inside : n < g.nodes.size
  no_child : ∀ name, g.child? n name = none
  base_below : ∀ b, g.base? n = some b → Below g root b

/-- What is anchored stays anchored. -/
theorem Anchored.extends (hs : Settled g root) {n : NodeId} (ha : Anchored g root n)
    (h : Extends g g') :
    Anchored g' root n where
  inside := h.lt ha.inside
  no_child name := by rw [h.child?_eq ha.inside]; exact ha.no_child name
  base_below b hb := by
    rw [h.base?_eq ha.inside] at hb
    exact (hs.below_iff h).mpr (ha.base_below b hb)

/-- A new node that falls back to something below the root is anchored. -/
theorem anchored_addBased (hs : Settled g root) (cls : Option (Class β)) {base : Option NodeId}
    (hbase : ∀ b, base = some b → Below g root b) :
    Anchored (g.addBased cls base) root g.nodes.size where
  inside := by
    unfold addBased
    split <;> simp
  no_child name := by
    rw [child?_addBased, child?, node?_of_out (Nat.lt_irrefl _)]
    rfl
  base_below b hb := by
    rw [base?_addBased] at hb
    exact (hs.below_iff (extends_addBased g cls base)).mpr (hbase b hb)

/-- The chain of a node below a settled root stays below it. -/
theorem Settled.below_of_mem_chain (hs : Settled g root) {o : Option NodeId} {l : List NodeId}
    (hl : IsChain g o l) (ho : ∀ n, o = some n → Below g root n) : ∀ k ∈ l, Below g root k := by
  induction hl with
  | nil => simp
  | @cons n l _ ih =>
    intro k hk
    rcases List.mem_cons.mp hk with rfl | hk
    · exact ho k rfl
    · exact ih (fun b hb => hs.base_below n b (ho n rfl) hb) k hk

/-- The chain of an anchored node ends, and all but its first node is
below the root. -/
theorem Anchored.exists_isChain (hs : Settled g root) {n : NodeId} (ha : Anchored g root n) :
    ∃ l, IsChain g (some n) (n :: l) ∧ ∀ k ∈ l, Below g root k := by
  cases hb : g.base? n with
  | none => exact ⟨[], .cons (by rw [hb]; exact .nil), by simp⟩
  | some b =>
    have hbelow := ha.base_below b hb
    obtain ⟨l, hl⟩ := (chainEnds_iff g b).mp (hs.ends b hbelow)
    exact ⟨l, .cons (by rw [hb]; exact hl), hs.below_of_mem_chain hl fun _ heq =>
      Option.some.inj heq ▸ hbelow⟩

/-- A node that a host may come to hold: it is below the root, or
anchored there. -/
def Held (g : Graph β) (root n : NodeId) : Prop := Below g root n ∨ Anchored g root n

/-- What is held stays held. -/
theorem Held.extends (hs : Settled g root) {n : NodeId} (hn : Held g root n) (h : Extends g g') :
    Held g' root n :=
  hn.imp (hs.below_iff h).mpr fun ha => ha.extends hs h

/-- Whatever a host holds has a chain that ends. -/
theorem Held.isChain (hs : Settled g root) {n : NodeId} (hn : Held g root n) :
    IsChain g (some n) (g.chain n) := by
  rcases hn with hn | ha
  · exact isChain_chain (hs.ends n hn)
  · obtain ⟨l, hl, _⟩ := ha.exists_isChain hs
    rw [hl.chain_eq]
    exact hl

/-- A child that is read is a child of a node on the chain. -/
theorem exists_child_of_property? {n c : NodeId} {name : Bytes}
    (h : g.property? n name = some (.child c)) :
    ∃ k ∈ g.chain n, g.child? k name = some c := by
  obtain ⟨k, hk, hown⟩ := List.exists_of_findSome?_eq_some h
  refine ⟨k, hk, ?_⟩
  unfold ownProperty? at hown
  split at hown
  · cases hown
  · obtain ⟨c', hc', heq⟩ := Option.map_eq_some_iff.mp hown
    cases heq
    exact hc'

/-- A child that is read from a node that is held is below the root, even
when a node further down the chain has it. -/
theorem Held.read (hs : Settled g root) {n c : NodeId} {name : Bytes} (hn : Held g root n)
    (hc : g.property? n name = some (.child c)) : Held g root c := by
  obtain ⟨k, hk, hchild⟩ := exists_child_of_property? hc
  left
  rcases hn with hn | ha
  · exact .child (hs.below_of_mem_chain (isChain_chain (hs.ends n hn))
      (fun _ heq => Option.some.inj heq ▸ hn) k hk) hchild
  · obtain ⟨l, hl, hbelow⟩ := ha.exists_isChain hs
    rw [hl.chain_eq] at hk
    rcases List.mem_cons.mp hk with rfl | hk
    · rw [ha.no_child name] at hchild
      cases hchild
    · exact .child (hbelow k hk) hchild

end ObjectBridge.Graph

import ObjectBridge.Builtin.Behaviour
import ObjectBridge.Proofs.Graph.Nearest
import ObjectBridge.Proofs.Graph.Settled

/-!
# `ObjectBridge.Proofs.Graph.Reach`: where reading children leads from a root

`cyclicPath?` looks at the nodes below a root and follows their bases. A
host gets further. Reading a child looks along the chain of a node, so it
also finds the children of a base, and a base need not be below the root.
`Reached g root n` says that reads of children lead from `root` to `n`.

While every child is read through a node below the root, the host stays
below the root, where the check has looked. A child of a base outside is
outside, too, and the check says nothing about its chain. So after the
check every node a host comes to has a chain that ends exactly when those
children do (`reached_answers_iff`).

`strayed` is a graph that passes the check and in which they do not: two
reads away from the root a host asks a question that is never answered
(`not_answered_of_strayed`).
-/

set_option autoImplicit false

namespace ObjectBridge.Graph

variable {β : Type} {g : Graph β} {root : NodeId}

/-- A host that holds the root comes to the node by reading children, each
read along the chain of the node before it. -/
inductive Reached (g : Graph β) (root : NodeId) : NodeId → Prop
  | root : Reached g root root
  | read {n c : NodeId} {name : Bytes} (hn : Reached g root n) (hc : g.property? n name =
    some (.child c)) :
    Reached g root c

/-- Some child that can be read through a base outside what is below the
root has a chain that does not end. -/
def Strays (g : Graph β) (root : NodeId) : Prop :=
  ∃ n name b c, Reached g root n ∧ g.ReadsThrough name n b c ∧ ¬ Below g root b ∧ ¬ ∃ l,
    IsChain g (some c) l

/-- A child read through a node below the root is below the root. -/
theorem Below.reads {name : Bytes} {n b c : NodeId} (hb : Below g root b)
    (h : g.ReadsThrough name n b c) :
    Below g root c := by
  obtain ⟨_, _, hchild⟩ := h
  exact .child hb hchild

/-- After the check, a node the host comes to has a chain that ends,
unless a child of a base outside has none. -/
theorem Reached.exists_isChain (hcheck : g.cyclicPath? root = none) (hstray : ¬ Strays g root)
    {n : NodeId} (h : Reached g root n) : ∃ l, IsChain g (some n) l := by
  have hends {m : NodeId} (hm : Below g root m) : ∃ l, IsChain g (some m) l :=
    (chainEnds_iff g m).mp (cyclicPath?_eq_none_iff.mp hcheck m hm)
  cases h with
  | root => exact hends .root
  | read hn hc =>
    obtain ⟨b, hread⟩ := property?_eq_child_iff.mp hc
    by_cases hb : Below g root b
    · exact hends (hb.reads hread)
    · by_contra hnot
      exact hstray ⟨_, _, b, _, hn, hread, hb, hnot⟩

/-- After the check, every question about every node the host comes to is
answered, exactly when every child read through a base outside has a chain
that ends. -/
theorem reached_answers_iff (hcheck : g.cyclicPath? root = none) :
    (∀ n, Reached g root n → IsChain g (some n) (g.chain n) ∧ Answers g n) ↔ ¬ Strays g root := by
  constructor
  · rintro h ⟨n, name, b, c, hn, hread, _, hnot⟩
    have hc : Reached g root c := hn.read (property?_eq_child_iff.mpr ⟨b, hread⟩)
    exact hnot ⟨_, (h c hc).1⟩
  · intro hstray n hn
    obtain ⟨l, hl⟩ := hn.exists_isChain hcheck hstray
    have hchain : IsChain g (some n) (g.chain n) := hl.chain_eq.symm ▸ hl
    exact ⟨hchain, answers_of_isChain hchain⟩

/-! ### A base outside -/

/-- A root that falls back to a node outside, which has a child `c`. -/
def external : Graph Behaviour :=
  let nodes := ((({} : Graph Behaviour).addNode none).1.addNode none).1.addNode none
  (nodes.1.setBase 0 (some 1)).addChild 1 (.ofString "c") 2

/-- The witness has one child. -/
theorem child?_external {n c : NodeId} {name : Bytes} (h : external.child? n name = some c) : c =
    2 := by
  rw [external, child?_addChild (by decide)] at h
  split at h
  · exact (Option.some.inj h).symm
  · simp only [child?_setBase, child?_addNode] at h
    cases h

/-- The child that is read through the base has a chain that ends. -/
theorem reached_answers_external :
    external.cyclicPath? 0 = none ∧ Reached external 0 2 ∧
      ∀ n, Reached external 0 n → IsChain external (some n) (external.chain n) ∧
      Answers external n := by
  have hcheck : external.cyclicPath? 0 = none := by cbv
  have hread : external.property? 0 (.ofString "c") = some (.child 2) := by cbv
  have hstray : ¬ Strays external 0 := by
    rintro ⟨n, name, b, c, _, ⟨_, _, hchild⟩, _, hnot⟩
    cases child?_external hchild
    exact hnot ⟨[2], .cons .nil⟩
  exact ⟨hcheck, .read .root hread, (reached_answers_iff hcheck).mpr hstray⟩

/-- The same graph, but the child `c` falls back to itself. -/
def strayed : Graph Behaviour := external.setBase 2 (some 2)

/-- Looking along a chain that stays where it is comes to no end, when
there is no answer. -/
theorem not_search_of_self {α : Type} {ask : NodeId → Option α} {n : NodeId}
    (hbase : g.base? n = some n) (hask : ask n = none) (r : Option α) :
    ¬ Search g ask (some n) r := by
  intro h
  generalize ho : some n = o at h
  induction h with
  | «over» => cases ho
  | found ha =>
    cases ho
    rw [hask] at ha
    cases ha
  | next _ _ ih =>
    cases ho
    exact ih hbase.symm

/-- The check passes, and yet a host that reads `c` comes to a node that
never says whether it has a method. -/
theorem not_answers_strayed :
    strayed.cyclicPath? 0 = none ∧ Reached strayed 0 2 ∧ ¬ (∃ l, IsChain strayed (some 2) l) ∧
      ∀ name r, ¬ Search strayed (fun cur => (strayed.class? cur).bind (·.method? name))
      (some 2) r := by
  have hcheck : strayed.cyclicPath? 0 = none := by cbv
  have hread : strayed.property? 0 (.ofString "c") = some (.child 2) := by cbv
  have hbase : strayed.base? 2 = some 2 := by cbv
  have hcircle : Relation.TransGen strayed.FallsTo 2 2 := .single hbase
  exact ⟨hcheck, .read .root hread, fun h => h.elim fun l hl => hl.not_circle hcircle,
    fun name r => not_search_of_self hbase (by cbv) r⟩

end ObjectBridge.Graph

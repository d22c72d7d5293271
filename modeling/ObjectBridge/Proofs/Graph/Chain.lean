import Mathlib
import ObjectBridge.Graph.Basic

/-!
# `ObjectBridge.Proofs.Graph.Chain`: chains of bases that end

The searches of `Graph.Basic` run along a chain that is cut off. This
module says what the chain is without a cut: `IsChain g o l` holds when
following bases from `o` visits exactly the nodes of `l` and then stops.
A chain that runs in a circle is related to no list.

* `IsChain.nodup`: a chain that ends visits no node twice, so it is never
  longer than the cut (`IsChain.length_le`).
* `chainEnds_iff`: the check with a bound finds exactly the chains that
  end, and `IsChain.chain_eq` says that the cut takes nothing from them.
* `answers_of_isChain`: along a chain that ends, the loops that ask one
  node after the other stop, with the answers the searches give.
-/

set_option autoImplicit false

namespace ObjectBridge.Graph

variable {β : Type} {g : Graph β}

/-- Following bases from `o` visits the nodes of the list, in order, and
stops. -/
inductive IsChain (g : Graph β) : Option NodeId → List NodeId → Prop
  | nil : IsChain g none []
  | cons {n : NodeId} {l : List NodeId} (rest : IsChain g (g.base? n) l) :
    IsChain g (some n) (n :: l)

namespace IsChain

/-- There is one chain from a node. -/
theorem unique {o : Option NodeId} {l l' : List NodeId} (h : IsChain g o l) (h' : IsChain g o l') :
    l = l' := by
  induction h generalizing l' with
  | nil => cases h'; rfl
  | cons _ ih =>
    cases h' with
    | cons rest' => rw [ih rest']

/-- What follows a node on a chain is the chain of that node. -/
theorem suffix {o : Option NodeId} {l : List NodeId} (h : IsChain g o l) {n : NodeId} (hn : n ∈ l) :
    ∃ t, IsChain g (some n) (n :: t) ∧ (n :: t) <:+ l := by
  induction h with
  | nil => cases hn
  | @cons m l rest ih =>
    rcases List.mem_cons.mp hn with rfl | hn
    · exact ⟨l, .cons rest, List.suffix_refl _⟩
    · obtain ⟨t, ht, hsuffix⟩ := ih hn
      exact ⟨t, ht, hsuffix.trans (List.suffix_cons m l)⟩

/-- A chain that ends visits no node twice: the chain from the second
visit would be as long as the one from the first. -/
theorem nodup {o : Option NodeId} {l : List NodeId} (h : IsChain g o l) : l.Nodup := by
  induction h with
  | nil => exact List.nodup_nil
  | @cons n l rest ih =>
    refine List.nodup_cons.mpr ⟨fun hn => ?_, ih⟩
    obtain ⟨t, ht, hsuffix⟩ := rest.suffix hn
    have hsame : n :: t = n :: l := ht.unique (.cons rest)
    have hlength : (n :: t).length ≤ l.length := hsuffix.length_le
    rw [hsame, List.length_cons] at hlength
    omega

end IsChain

/-- A node outside the graph has no base. -/
theorem base?_of_out {n : NodeId} (h : ¬ n < g.nodes.size) : g.base? n = none := by
  simp [base?, node?, Array.getElem?_eq_none (Nat.le_of_not_lt h)]

/-- A node that is not there is a chain of its own. -/
theorem isChain_of_out {n : NodeId} (h : ¬ n < g.nodes.size) : IsChain g (some n) [n] :=
  .cons (by rw [base?_of_out h]; exact .nil)

namespace IsChain

/-- Only the last node of a chain may lie outside the graph. -/
theorem dropLast_lt {o : Option NodeId} {l : List NodeId} (h : IsChain g o l) :
    ∀ n ∈ l.dropLast, n < g.nodes.size := by
  induction h with
  | nil => simp
  | @cons n l rest ih =>
    cases l with
    | nil => simp
    | cons m t =>
      intro k hk
      rw [List.dropLast_cons_cons, List.mem_cons] at hk
      rcases hk with rfl | hk
      · -- A node with a base is a node of the graph.
        by_contra hout
        rw [base?_of_out hout] at rest
        cases rest
      · exact ih k hk

/-- A chain that ends is not longer than the cut. -/
theorem length_le {o : Option NodeId} {l : List NodeId} (h : IsChain g o l) :
    l.length ≤ g.nodes.size + 1 := by
  have hnodup : l.dropLast.Nodup := h.nodup.sublist (List.dropLast_sublist l)
  have hsubset : l.dropLast ⊆ List.range g.nodes.size := fun n hn =>
    List.mem_range.mpr (h.dropLast_lt n hn)
  have hlength : l.dropLast.length ≤ g.nodes.size := by
    simpa using (List.subperm_of_subset hnodup hsubset).length_le
  rw [List.length_dropLast] at hlength
  omega

/-! ### The cut -/

/-- With fuel for all its nodes, the cut takes nothing from a chain. -/
theorem chainFrom_eq {o : Option NodeId} {l : List NodeId} (h : IsChain g o l) {fuel : Nat}
    (hfuel : l.length ≤ fuel) : g.chainFrom fuel o = l := by
  induction h generalizing fuel with
  | nil => cases fuel <;> rfl
  | cons rest ih =>
    cases fuel with
    | zero => simp at hfuel
    | succ fuel => rw [chainFrom, ih (by simpa using hfuel)]

/-- The chain of a node is all of it, when it ends. -/
theorem chain_eq {n : NodeId} {l : List NodeId} (h : IsChain g (some n) l) : g.chain n = l :=
  h.chainFrom_eq h.length_le

/-- With enough fuel the end of a chain is reached. -/
theorem endsWithin_eq {o : Option NodeId} {l : List NodeId} (h : IsChain g o l) {fuel : Nat}
    (hfuel : l.length ≤ fuel) : g.endsWithin fuel o = true := by
  induction h generalizing fuel with
  | nil => cases fuel <;> rfl
  | cons rest ih =>
    cases fuel with
    | zero => simp at hfuel
    | succ fuel => rw [endsWithin, ih (by simpa using hfuel)]

end IsChain

/-- A chain that ends within a bound ends. -/
theorem exists_isChain_of_endsWithin {fuel : Nat} {o : Option NodeId}
    (h : g.endsWithin fuel o = true) :
    ∃ l, IsChain g o l := by
  induction fuel generalizing o with
  | zero =>
    cases o with
    | none => exact ⟨[], .nil⟩
    | some n => cases h
  | succ fuel ih =>
    cases o with
    | none => exact ⟨[], .nil⟩
    | some n =>
      obtain ⟨l, hl⟩ := ih h
      exact ⟨n :: l, .cons hl⟩

/-- The check with a bound finds exactly the chains that end. -/
theorem chainEnds_iff (g : Graph β) (n : NodeId) :
    g.chainEnds n = true ↔ ∃ l, IsChain g (some n) l :=
  ⟨exists_isChain_of_endsWithin, fun ⟨_, hl⟩ => hl.endsWithin_eq hl.length_le⟩

/-- A chain that ends is the one the searches run along. -/
theorem isChain_chain {n : NodeId} (h : g.chainEnds n = true) : IsChain g (some n) (g.chain n) := by
  obtain ⟨l, hl⟩ := (chainEnds_iff g n).mp h
  rw [hl.chain_eq]
  exact hl

/-! ### Circles -/

/-- `n` falls back to `b`. -/
def FallsTo (g : Graph β) (n b : NodeId) : Prop := g.base? n = some b

/-- Every node further down a chain has a chain, and a shorter one. -/
theorem IsChain.of_transGen {n m : NodeId} {l : List NodeId} (h : IsChain g (some n) l)
    (hm : Relation.TransGen g.FallsTo n m) : ∃ t, IsChain g (some m) t ∧ t.length < l.length := by
  induction hm with
  | single hb =>
    cases h with
    | @cons _ t rest => exact ⟨t, by rwa [← show g.base? n = some _ from hb], by simp⟩
  | tail _ hb ih =>
    obtain ⟨t, ht, hlength⟩ := ih
    cases ht with
    | @cons _ t' rest =>
      refine ⟨t', by rwa [← show g.base? _ = some _ from hb], ?_⟩
      rw [List.length_cons] at hlength
      omega

/-- A node whose chain ends is on no circle: the chain would be shorter
than itself. -/
theorem IsChain.not_circle {n : NodeId} {l : List NodeId} (h : IsChain g (some n) l) :
    ¬ Relation.TransGen g.FallsTo n n := by
  intro hcircle
  obtain ⟨t, ht, hlength⟩ := h.of_transGen hcircle
  rw [ht.unique h] at hlength
  exact Nat.lt_irrefl _ hlength

/-- A chain ends when it comes to no circle. There are only finitely many
nodes with a base, so falling back is then well-founded. -/
theorem exists_isChain_of_not_circle {n : NodeId}
    (h : ∀ m, Relation.ReflTransGen g.FallsTo n m → ¬ Relation.TransGen g.FallsTo m m) :
    ∃ l, IsChain g (some n) l := by
  let Below := { m : NodeId // m < g.nodes.size ∧ Relation.ReflTransGen g.FallsTo n m }
  let falls : Below → Below → Prop := fun b a => Relation.TransGen g.FallsTo a.1 b.1
  have hfinite : Finite Below :=
    Set.Finite.to_subtype ((Set.finite_lt_nat g.nodes.size).subset fun _ hm => hm.1)
  have htrans : IsTrans Below falls := ⟨fun _ _ _ hab hbc => hbc.trans hab⟩
  have hirrefl : Std.Irrefl falls := ⟨fun m hm => h m.1 m.2.2 hm⟩
  have hwf : WellFounded falls := Finite.wellFounded_of_trans_of_irrefl falls
  have key : ∀ m : Below, ∃ l, IsChain g (some m.1) l := by
    intro m
    induction m using hwf.induction with
    | _ m ih =>
      cases hb : g.base? m.1 with
      | none => exact ⟨[m.1], .cons (by rw [hb]; exact .nil)⟩
      | some b =>
        have hreach : Relation.ReflTransGen g.FallsTo n b := m.2.2.tail hb
        -- A base that is no node is the last of the chain.
        by_cases hlt : b < g.nodes.size
        · obtain ⟨l, hl⟩ := ih ⟨b, hlt, hreach⟩ (.single hb)
          exact ⟨m.1 :: l, .cons (by rw [hb]; exact hl)⟩
        · exact ⟨[m.1, b], .cons (by rw [hb]; exact isChain_of_out hlt)⟩
  by_cases hlt : n < g.nodes.size
  · exact key ⟨n, hlt, .refl⟩
  · exact ⟨[n], isChain_of_out hlt⟩

/-- The check finds exactly the nodes from which no circle can be
reached. -/
theorem chainEnds_iff_not_circle (n : NodeId) :
    g.chainEnds n = true ↔
      ∀ m, Relation.ReflTransGen g.FallsTo n m → ¬ Relation.TransGen g.FallsTo m m := by
  rw [chainEnds_iff]
  constructor
  · rintro ⟨l, hl⟩ m hm
    rcases Relation.reflTransGen_iff_eq_or_transGen.mp hm with rfl | hm
    · exact hl.not_circle
    · obtain ⟨t, ht, _⟩ := hl.of_transGen hm
      exact ht.not_circle
  · exact exists_isChain_of_not_circle

/-! ### Loops along a chain -/

/-- The loop behind every question about members: ask a node, and go on
to its base when it has no answer. -/
inductive Search (g : Graph β) {α : Type} (ask : NodeId → Option α) :
    Option NodeId → Option α → Prop
  | over : Search g ask none none
  | found {n : NodeId} {a : α} (h : ask n = some a) : Search g ask (some n) (some a)
  | next {n : NodeId} {r : Option α} (h : ask n = none) (rest : Search g ask (g.base? n) r) :
    Search g ask (some n) r

/-- Along a chain that ends the loop stops, with the first answer of a
node on the chain. -/
theorem search_of_isChain {α : Type} (ask : NodeId → Option α) {o : Option NodeId} {l : List NodeId}
    (h : IsChain g o l) : Search g ask o (l.findSome? ask) := by
  induction h with
  | nil => exact .over
  | @cons n l rest ih =>
    cases hask : ask n with
    | some a =>
      rw [List.findSome?_cons, hask]
      exact .found hask
    | none =>
      rw [List.findSome?_cons, hask]
      exact .next hask ih

/-- The loop that visits the whole chain and carries along what it has
gathered. -/
inductive Sweep (g : Graph β) {α : Type} (visit : α → NodeId → α) : Option NodeId → α → α → Prop
  | over {acc : α} : Sweep g visit none acc acc
  | next {n : NodeId} {acc r : α} (rest : Sweep g visit (g.base? n) (visit acc n) r) :
    Sweep g visit (some n) acc r

/-- Along a chain that ends this loop stops, too. -/
theorem sweep_of_isChain {α : Type} (visit : α → NodeId → α) {o : Option NodeId} {l : List NodeId}
    (h : IsChain g o l) (acc : α) : Sweep g visit o acc (l.foldl visit acc) := by
  induction h generalizing acc with
  | nil => exact .over
  | @cons n l rest ih => exact .next (ih (visit acc n))

/-- The members of a node alone, added to those gathered before it. -/
def gatherMembers (g : Graph β) (gathered : List Bytes) (n : NodeId) : List Bytes :=
  let own := match g.class? n with
    | some c => c.propertyNames ++ c.methodNames
    | none => []
  own.foldl (fun seen name => if name ∈ seen then seen else seen ++ [name]) gathered

/-- Members are gathered along the chain. -/
theorem memberNames_eq (g : Graph β) (n : NodeId) :
    g.memberNames n = (g.chain n).foldl g.gatherMembers [] := by
  unfold memberNames
  rw [List.foldl_flatMap]
  rfl

/-- Every question about the members of a node is answered: its loop
stops, whatever the name, with the answer `Graph.Basic` gives. -/
structure Answers (g : Graph β) (n : NodeId) : Prop where
  method : ∀ name, Search g (fun cur => (g.class? cur).bind (·.method? name)) (some n)
    (g.method? n name)
  property : ∀ name, Search g (g.ownProperty? · name) (some n) (g.property? n name)
  declaration : ∀ name, Search g (fun cur => (g.class? cur).bind (·.property? name)) (some n)
    (g.declaration? n name)
  members : Sweep g g.gatherMembers (some n) [] (g.memberNames n)

/-- A node whose chain ends answers from the chain. -/
theorem answers_of_isChain {n : NodeId} (h : IsChain g (some n) (g.chain n)) : Answers g n where
  method _ := search_of_isChain _ h
  property _ := search_of_isChain _ h
  declaration _ := search_of_isChain _ h
  members := by
    rw [memberNames_eq]
    exact sweep_of_isChain g.gatherMembers h []

end ObjectBridge.Graph

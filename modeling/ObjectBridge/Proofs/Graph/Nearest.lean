import ObjectBridge.Proofs.Graph.Chain

/-!
# `ObjectBridge.Proofs.Graph.Nearest`: where the searches along a chain stop

Every question about members is a search along a chain, and each of them
looks at other tables: at methods, at declared properties, or at declared
properties and children. `Nearest has l m` is what they have in common:
`m` is the first node of the list that has what is looked for.

The theorems say of each search of `Graph.Basic` that it finds what the
nearest node has, and nothing when no node has it
(`method?_eq_some_iff`, `declaration?_eq_some_iff`,
`property?_eq_declared_iff`, `property?_eq_child_iff`).

Reading and writing look for a property in different tables.
`nearest_offers_iff` says when they stop at the same node: when no nearer
node has a child of that name.
-/

set_option autoImplicit false

namespace ObjectBridge.Graph

variable {β : Type} {g : Graph β} {name : Bytes} {l : List NodeId} {n m : NodeId}

/-! ### What a node has itself -/

/-- The class of the node has this code for a method of that name. -/
def HasCode (g : Graph β) (name : Bytes) (n : NodeId) (code : β) : Prop :=
  ∃ c, g.class? n = some c ∧ c.methods.find? name = some (some code)

/-- The class of the node declares a property of that name so. -/
def Declares (g : Graph β) (name : Bytes) (n : NodeId) (p : Property β) : Prop :=
  ∃ c, g.class? n = some c ∧ c.properties.find? name = some p

/-- The class of the node has code for the method. -/
def HasOwnMethod (g : Graph β) (name : Bytes) (n : NodeId) : Prop := ∃ code, g.HasCode name n code

/-- The class of the node declares the property. -/
def HasDeclared (g : Graph β) (name : Bytes) (n : NodeId) : Prop := ∃ p, g.Declares name n p

/-- The node has a child of that name. -/
def HasChild (g : Graph β) (name : Bytes) (n : NodeId) : Prop := ∃ c, g.child? n name = some c

/-- The node has something of that name that can be read. -/
def Offers (g : Graph β) (name : Bytes) (n : NodeId) : Prop :=
  g.HasDeclared name n ∨ g.HasChild name n

/-- A node has the code that its class has. -/
theorem hasCode_iff {code : β} :
    g.HasCode name n code ↔ (g.class? n).bind (·.method? name) = some code := by
  simp only [HasCode, Option.bind_eq_some_iff, Class.method?, Option.join_eq_some_iff]

/-- It declares what its class declares. -/
theorem declares_iff {p : Property β} :
    g.Declares name n p ↔ (g.class? n).bind (·.property? name) = some p := by
  simp only [Declares, Option.bind_eq_some_iff, Class.property?]

/-- Without a method in its class a node has none of its own. -/
theorem not_hasOwnMethod_iff :
    (g.class? n).bind (·.method? name) = none ↔ ¬ g.HasOwnMethod name n := by
  rw [Option.eq_none_iff_forall_ne_some, HasOwnMethod, not_exists]
  simp only [hasCode_iff, ne_eq]

/-- The same for declared properties. -/
theorem not_hasDeclared_iff :
    (g.class? n).bind (·.property? name) = none ↔ ¬ g.HasDeclared name n := by
  rw [Option.eq_none_iff_forall_ne_some, HasDeclared, not_exists]
  simp only [declares_iff, ne_eq]

/-- What is declared at a node is read there, before any child. -/
theorem ownProperty?_of_declares {p : Property β} (h : g.Declares name n p) :
    g.ownProperty? n name = some (.declared p) := by
  rw [ownProperty?, declares_iff.mp h]

/-- Without a declaration a child is read. -/
theorem ownProperty?_of_not_hasDeclared (h : ¬ g.HasDeclared name n) :
    g.ownProperty? n name = (g.child? n name).map .child := by
  rw [ownProperty?, not_hasDeclared_iff.mpr h]

/-- What is declared comes first. -/
theorem ownProperty?_eq_declared_iff {p : Property β} :
    g.ownProperty? n name = some (.declared p) ↔ g.Declares name n p := by
  refine ⟨fun h => ?_, ownProperty?_of_declares⟩
  by_cases hd : g.HasDeclared name n
  · obtain ⟨p', hp'⟩ := hd
    rw [ownProperty?_of_declares hp'] at h
    cases h
    exact hp'
  · rw [ownProperty?_of_not_hasDeclared hd] at h
    cases hc : g.child? n name <;> rw [hc] at h <;> cases h

/-- A child comes next. -/
theorem ownProperty?_eq_child_iff {c : NodeId} :
    g.ownProperty? n name = some (.child c) ↔ ¬ g.HasDeclared name n ∧ g.child? n name =
      some c := by
  by_cases hd : g.HasDeclared name n
  · obtain ⟨p, hp⟩ := hd
    rw [ownProperty?_of_declares hp]
    exact ⟨nofun, fun h => absurd ⟨p, hp⟩ h.1⟩
  · rw [ownProperty?_of_not_hasDeclared hd]
    cases g.child? n name <;> simp [hd]

/-- There is nothing where a node offers nothing. -/
theorem ownProperty?_eq_none_iff : g.ownProperty? n name = none ↔ ¬ g.Offers name n := by
  by_cases hd : g.HasDeclared name n
  · obtain ⟨p, hp⟩ := hd
    rw [ownProperty?_of_declares hp]
    exact ⟨nofun, fun h => absurd (.inl ⟨p, hp⟩) h⟩
  · rw [ownProperty?_of_not_hasDeclared hd, Offers, HasChild]
    cases g.child? n name <;> simp [hd]

/-! ### The search -/

/-- `m` is the first node of the list that has what is looked for. -/
def Nearest (has : NodeId → Prop) (l : List NodeId) (m : NodeId) : Prop :=
  ∃ nearer further, l = nearer ++ m :: further ∧ has m ∧ ∀ k ∈ nearer, ¬ has k

/-- `k` comes before `m` in the list. -/
def Nearer (l : List NodeId) (k m : NodeId) : Prop :=
  ∃ nearer further, l = nearer ++ m :: further ∧ k ∈ nearer

/-- Where no node comes twice, there is one way to split the list at `m`. -/
theorem Nearer.mem {k : NodeId} {nearer further : List NodeId}
    (h : Nearer (nearer ++ m :: further) k m) (hl : (nearer ++ m :: further).Nodup) :
    k ∈ nearer := by
  obtain ⟨before, after, hsplit, hk⟩ := h
  have hnotin : m ∉ before ++ after := (List.nodup_cons.mp (List.nodup_middle.mp (hsplit ▸ hl))).1
  rw [List.mem_append, not_or] at hnotin
  obtain ⟨heq, _⟩ := (List.append_cons_inj_of_notMem hnotin.1 hnotin.2).mp hsplit.symm
  exact heq ▸ hk

section

variable {α : Type} {ask : NodeId → Option α} {has : NodeId → Prop}
    (hask : ∀ k, ask k = none ↔ ¬ has k)

include hask

/-- Asking one node after the other gives the answer of the nearest one
that has an answer. -/
theorem findSome?_eq_some_iff_nearest {a : α} :
    l.findSome? ask = some a ↔ ∃ m, Nearest has l m ∧ ask m = some a := by
  rw [List.findSome?_eq_some_iff]
  constructor
  · rintro ⟨nearer, m, further, hsplit, ha, hskip⟩
    have hm : has m := by
      by_contra hnot
      rw [(hask m).mpr hnot] at ha
      cases ha
    exact ⟨m, ⟨nearer, further, hsplit, hm, fun k hk => (hask k).mp (hskip k hk)⟩, ha⟩
  · rintro ⟨m, ⟨nearer, further, hsplit, _, hskip⟩, ha⟩
    exact ⟨nearer, m, further, hsplit, ha, fun k hk => (hask k).mpr (hskip k hk)⟩

/-- A search along a chain fails when no node has it. -/
theorem findSome?_eq_none_iff_forall : l.findSome? ask = none ↔ ∀ m ∈ l, ¬ has m := by
  rw [List.findSome?_eq_none_iff]
  exact forall₂_congr fun m _ => hask m

end

/-! ### The searches of a node -/

/-- A method is the one of the nearest node that has one. -/
theorem method?_eq_some_iff {code : β} :
    g.method? n name = some code ↔ ∃ m, Nearest (g.HasOwnMethod name) (g.chain n) m ∧
      g.HasCode name m code := by
  rw [method?, findSome?_eq_some_iff_nearest fun _ => not_hasOwnMethod_iff]
  simp only [hasCode_iff]

/-- There is none when no node has one. -/
theorem method?_eq_none_iff : g.method? n name = none ↔ ∀ m ∈ g.chain n, ¬ g.HasOwnMethod name m :=
  findSome?_eq_none_iff_forall fun _ => not_hasOwnMethod_iff

/-- A declaration is the one of the nearest node that has one. -/
theorem declaration?_eq_some_iff {p : Property β} :
    g.declaration? n name = some p ↔ ∃ m, Nearest (g.HasDeclared name) (g.chain n) m ∧
      g.Declares name m p := by
  rw [declaration?, findSome?_eq_some_iff_nearest fun _ => not_hasDeclared_iff]
  simp only [declares_iff]

/-- There is none when no node has one. -/
theorem declaration?_eq_none_iff : g.declaration? n name = none ↔ ∀ m ∈ g.chain n,
    ¬ g.HasDeclared name m :=
  findSome?_eq_none_iff_forall fun _ => not_hasDeclared_iff

/-- A declared property is found at the nearest node that offers anything. -/
theorem property?_eq_declared_iff {p : Property β} :
    g.property? n name = some (.declared p) ↔ ∃ m, Nearest (g.Offers name) (g.chain n) m ∧
      g.Declares name m p := by
  rw [property?, findSome?_eq_some_iff_nearest fun _ => ownProperty?_eq_none_iff]
  simp only [ownProperty?_eq_declared_iff]

/-- Reading the name at `n` comes to the child `c` of the node `m` on the
chain. -/
def ReadsThrough (g : Graph β) (name : Bytes) (n m c : NodeId) : Prop :=
  Nearest (g.Offers name) (g.chain n) m ∧ ¬ g.HasDeclared name m ∧ g.child? m name = some c

/-- A child is found there too. -/
theorem property?_eq_child_iff {c : NodeId} :
    g.property? n name = some (.child c) ↔ ∃ m, g.ReadsThrough name n m c := by
  rw [property?, findSome?_eq_some_iff_nearest fun _ => ownProperty?_eq_none_iff]
  simp only [ownProperty?_eq_child_iff, ReadsThrough]

/-- Nothing is found when no node offers anything. -/
theorem property?_eq_none_iff : g.property? n name = none ↔ ∀ m ∈ g.chain n, ¬ g.Offers name m :=
  findSome?_eq_none_iff_forall fun _ => ownProperty?_eq_none_iff

/-- A node has a method when a node of its chain has one of its own. -/
theorem hasMethod_iff : g.hasMethod n name = true ↔ ∃ m ∈ g.chain n, g.HasOwnMethod name m := by
  rw [hasMethod, Option.isSome_iff_ne_none, Ne, method?_eq_none_iff]
  simp only [not_forall, not_not, exists_prop]

/-- The same for properties. -/
theorem hasProperty_iff : g.hasProperty n name = true ↔ ∃ m ∈ g.chain n, g.Offers name m := by
  rw [hasProperty, Option.isSome_iff_ne_none, Ne, property?_eq_none_iff]
  simp only [not_forall, not_not, exists_prop]

/-- Reading stops where writing does, unless a nearer node has a child of
that name. -/
theorem nearest_offers_iff (hl : l.Nodup) (h : Nearest (g.HasDeclared name) l m) :
    Nearest (g.Offers name) l m ↔ ¬ ∃ k, Nearer l k m ∧ g.HasChild name k := by
  constructor
  · rintro ⟨nearer, further, rfl, _, hskip⟩ ⟨k, hnearer, hchild⟩
    exact hskip k (hnearer.mem hl) (.inr hchild)
  · intro hnone
    obtain ⟨nearer, further, hsplit, hm, hskip⟩ := h
    refine ⟨nearer, further, hsplit, .inl hm, fun k hk hoffers => ?_⟩
    rcases hoffers with hd | hc
    · exact hskip k hk hd
    · exact hnone ⟨k, ⟨nearer, further, hsplit, hk⟩, hc⟩

end ObjectBridge.Graph

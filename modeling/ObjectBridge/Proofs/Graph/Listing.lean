import ObjectBridge.Proofs.Data.Dict
import ObjectBridge.Proofs.Graph.Nearest

/-!
# `ObjectBridge.Proofs.Graph.Listing`: which names are listed, and in what order

The names of a node's members are gathered along its chain, every name once.
A name is found along the same chain, by searches of their own. This module
compares the two.

`Gathered visited names` is the invariant of the loop: it has listed what
the nodes visited so far have entries for, in the order `ListedBefore`.
`Gathered.visit` is one step, and `listing_of_isChain` the whole loop.

The list and the searches agree but for one kind of entry. A table of
methods may hold a name without code. Such a `HasHollow` entry is listed,
and the search for a method passes over it (`Listing.agrees_iff`,
`not_agrees_hollow`).
-/

set_option autoImplicit false

namespace ObjectBridge.Graph

variable {β : Type} {g : Graph β} {name a b : Bytes} {l visited : List NodeId} {names : List Bytes}
    {n m k : NodeId}

/-! ### Entries -/

/-- The class of the node has an entry for a method of that name, with code
or without. -/
def HasEntry (g : Graph β) (name : Bytes) (n : NodeId) : Prop :=
  ∃ c code, g.class? n = some c ∧ c.methods.find? name = some code

/-- The class of the node has an entry without code. -/
def HasHollow (g : Graph β) (name : Bytes) (n : NodeId) : Prop :=
  ∃ c, g.class? n = some c ∧ c.methods.find? name = some none

/-- The class of the node has the name in one of its tables. -/
def Lists (g : Graph β) (name : Bytes) (n : NodeId) : Prop :=
  g.HasDeclared name n ∨ g.HasEntry name n

/-- An entry is a method of the node's own or a hollow one. -/
theorem hasEntry_iff : g.HasEntry name n ↔ g.HasOwnMethod name n ∨ g.HasHollow name n := by
  constructor
  · rintro ⟨c, code, hc, hfind⟩
    cases code with
    | some code => exact .inl ⟨code, c, hc, hfind⟩
    | none => exact .inr ⟨c, hc, hfind⟩
  · rintro (⟨code, c, hc, hfind⟩ | ⟨c, hc, hfind⟩)
    · exact ⟨c, some code, hc, hfind⟩
    · exact ⟨c, none, hc, hfind⟩

/-- The names of the properties a node declares, in order. -/
def declaredNames (g : Graph β) (n : NodeId) : List Bytes :=
  ((g.class? n).map Class.propertyNames).getD []

/-- The names of a node's entries for methods, in order. -/
def entryNames (g : Graph β) (n : NodeId) : List Bytes :=
  ((g.class? n).map Class.methodNames).getD []

/-- The declared names are those of properties with a declaration. -/
theorem mem_declaredNames : name ∈ g.declaredNames n ↔ g.HasDeclared name n := by
  unfold declaredNames HasDeclared Declares
  cases g.class? n <;> simp [Class.propertyNames, Dict.mem_keys_iff]

/-- The entries are those of the table. -/
theorem mem_entryNames : name ∈ g.entryNames n ↔ g.HasEntry name n := by
  unfold entryNames HasEntry
  cases g.class? n <;> simp [Class.methodNames, Dict.mem_keys_iff]

/-- Declared names are listed in ascending order. -/
theorem pairwise_declaredNames (g : Graph β) (n : NodeId) :
    (g.declaredNames n).Pairwise (· < ·) := by
  unfold declaredNames
  cases g.class? n with
  | none => exact .nil
  | some c => exact c.properties.pairwise_keys

/-- So are entries. -/
theorem pairwise_entryNames (g : Graph β) (n : NodeId) : (g.entryNames n).Pairwise (· < ·) := by
  unfold entryNames
  cases g.class? n with
  | none => exact .nil
  | some c => exact c.methods.pairwise_keys

/-- Each declared name is listed once. -/
theorem nodup_declaredNames (g : Graph β) (n : NodeId) : (g.declaredNames n).Nodup := by
  unfold declaredNames
  cases g.class? n with
  | none => exact .nil
  | some c => exact c.properties.nodup_keys

/-- So is each entry. -/
theorem nodup_entryNames (g : Graph β) (n : NodeId) : (g.entryNames n).Nodup := by
  unfold entryNames
  cases g.class? n with
  | none => exact .nil
  | some c => exact c.methods.nodup_keys

/-! ### One node -/

/-- Names that are added one by one are added but for those there. -/
theorem foldl_add (h : names.Nodup) (seen : List Bytes) :
    names.foldl (fun seen name => if name ∈ seen then seen else seen ++ [name]) seen =
      seen ++ names.filter (· ∉ seen) := by
  induction names generalizing seen with
  | nil => simp
  | cons name rest ih =>
    obtain ⟨hnew, hrest⟩ := List.nodup_cons.mp h
    rw [List.foldl_cons]
    by_cases hseen : name ∈ seen
    · rw [if_pos hseen, ih hrest]
      simp [hseen]
    · -- The name itself does not come again.
      have hsame : rest.filter (· ∉ seen ++ [name]) = rest.filter (· ∉ seen) := by
        refine List.filter_congr fun x hx => ?_
        have hne : x ≠ name := fun heq => hnew (heq ▸ hx)
        simp [hne]
      rw [if_neg hseen, ih hrest, hsame]
      simp [hseen]

/-- A node adds its properties and then its methods, those gathered before
apart. -/
theorem gatherMembers_eq (g : Graph β) (seen : List Bytes) (n : NodeId) :
    g.gatherMembers seen n = seen ++ (g.declaredNames n).filter (· ∉ seen) ++
      (g.entryNames n).filter (fun x => x ∉ seen ∧ x ∉ g.declaredNames n) := by
  have hown : g.gatherMembers seen n = (g.declaredNames n ++ g.entryNames n).foldl
      (fun seen name => if name ∈ seen then seen else seen ++ [name]) seen := by
    unfold gatherMembers declaredNames entryNames
    cases g.class? n <;> rfl
  rw [hown, List.foldl_append, foldl_add (g.nodup_declaredNames n),
    foldl_add (g.nodup_entryNames n)]
  congr 1
  refine List.filter_congr fun x _ => ?_
  by_cases hseen : x ∈ seen <;> by_cases hdeclared : x ∈
    g.declaredNames n <;> simp [hseen, hdeclared]

/-! ### The order -/

/-- Along the chain `l`, the name `a` is listed before `b`: a nearer node
lists it, or the same node does, properties first and each kind in order. -/
def ListedBefore (g : Graph β) (l : List NodeId) (a b : Bytes) : Prop :=
  ∃ m k, Nearest (g.Lists a) l m ∧ Nearest (g.Lists b) l k ∧
    (Nearer l m k ∨ m = k ∧ (g.HasDeclared a m ∧ ¬ g.HasDeclared b m ∨
      (g.HasDeclared a m ↔ g.HasDeclared b m) ∧ a < b))

section

variable {has : NodeId → Prop}

/-- What is nearest stays so when the chain is continued. -/
theorem Nearest.append (h : Nearest has l m) (n : NodeId) : Nearest has (l ++ [n]) m := by
  obtain ⟨nearer, further, rfl, hm, hskip⟩ := h
  exact ⟨nearer, further ++ [n], by simp, hm, hskip⟩

/-- The last node is nearest if none before it has it. -/
theorem Nearest.last (h : has n) (hskip : ∀ k ∈ l, ¬ has k) : Nearest has (l ++ [n]) n :=
  ⟨l, [], rfl, h, hskip⟩

/-- What is nearer stays so. -/
theorem Nearer.append (h : Nearer l m k) (n : NodeId) : Nearer (l ++ [n]) m k := by
  obtain ⟨nearer, further, rfl, hm⟩ := h
  exact ⟨nearer, further ++ [n], by simp, hm⟩

/-- The last node is farther than all before it. -/
theorem Nearer.last (h : m ∈ l) (n : NodeId) : Nearer (l ++ [n]) m n := ⟨l, [], rfl, h⟩

/-- If any node has it, one is nearest. -/
theorem exists_nearest (h : ∃ m ∈ l, has m) : ∃ m ∈ l, Nearest has l m := by
  induction l with
  | nil => simp at h
  | cons n l ih =>
    by_cases hn : has n
    · exact ⟨n, List.mem_cons_self, [], l, rfl, hn, by simp⟩
    · obtain ⟨m, hm, nearer, further, hsplit, hhas, hskip⟩ := ih (by simpa [hn] using h)
      refine ⟨m, List.mem_cons_of_mem _ hm, n :: nearer, further, by rw [hsplit]; rfl, hhas, ?_⟩
      simpa [hn] using hskip

end

/-- What is listed before something else stays so. -/
theorem ListedBefore.append (h : g.ListedBefore l a b) (n : NodeId) :
    g.ListedBefore (l ++ [n]) a b := by
  obtain ⟨m, k, ha, hb, horder⟩ := h
  exact ⟨m, k, ha.append n, hb.append n, horder.imp_left fun hnearer => hnearer.append n⟩

/-! ### The loop -/

/-- What the loop has listed when it has visited these nodes. -/
structure Gathered (g : Graph β) (visited : List NodeId) (names : List Bytes) : Prop where
  nodup : names.Nodup
  mem_iff : ∀ name, name ∈ names ↔ ∃ m ∈ visited, g.Lists name m
  ordered : names.Pairwise (g.ListedBefore visited)

/-- A name that was not gathered before is one no node before lists. -/
theorem Gathered.not_lists (h : g.Gathered visited names) (hname : name ∉ names) :
    ∀ k ∈ visited, ¬ g.Lists name k :=
  fun k hk hlists => hname ((h.mem_iff name).mpr ⟨k, hk, hlists⟩)

/-- Another visit lists nothing twice. -/
theorem Gathered.nodup_visit (h : g.Gathered visited names) (n : NodeId) :
    (g.gatherMembers names n).Nodup := by
  have hdeclared := g.nodup_declaredNames n
  have hentries := g.nodup_entryNames n
  rw [gatherMembers_eq, List.append_assoc]
  refine List.nodup_append'.mpr
    ⟨h.nodup, List.nodup_append'.mpr ⟨hdeclared.filter _, hentries.filter _, ?_⟩, ?_⟩
  · intro x hx hx'
    simp only [List.mem_filter, decide_eq_true_eq] at hx hx'
    exact hx'.2.2 hx.1
  · intro x hx hx'
    simp only [List.mem_append, List.mem_filter, decide_eq_true_eq] at hx'
    rcases hx' with hx' | hx'
    · exact hx'.2 hx
    · exact hx'.2.1 hx

/-- It adds what the visited node lists. -/
theorem Gathered.mem_visit_iff (h : g.Gathered visited names) (n : NodeId) (name : Bytes) :
    name ∈ g.gatherMembers names n ↔ ∃ m ∈ visited ++ [n], g.Lists name m := by
  simp only [gatherMembers_eq, List.mem_append, List.mem_filter, decide_eq_true_eq,
    mem_declaredNames, mem_entryNames, List.mem_singleton, or_and_right, exists_or, exists_eq_left,
    ← h.mem_iff]
  by_cases hseen : name ∈ names <;> by_cases hdeclared :
    g.HasDeclared name n <;> simp [Lists, hseen, hdeclared]

/-- It adds that at the end. -/
theorem Gathered.ordered_visit (h : g.Gathered visited names) (n : NodeId) :
    (g.gatherMembers names n).Pairwise (g.ListedBefore (visited ++ [n])) := by
  have hold {x y : Bytes} (hx : x ∈ names) (hy : y ∉ names) (hlists : g.Lists y n) :
      g.ListedBefore (visited ++ [n]) x y := by
    obtain ⟨m, hm, hnearest⟩ := exists_nearest ((h.mem_iff x).mp hx)
    exact ⟨m, n, hnearest.append n, .last hlists (h.not_lists hy), .inl (.last hm n)⟩
  have hsame {x y : Bytes} (hx : x ∉ names) (hy : y ∉ names) (hlx : g.Lists x n) (hly : g.Lists y n)
      (horder : g.HasDeclared x n ∧ ¬ g.HasDeclared y n ∨
      (g.HasDeclared x n ↔ g.HasDeclared y n) ∧ x < y) :
      g.ListedBefore (visited ++ [n]) x y :=
    ⟨n, n, .last hlx (h.not_lists hx), .last hly (h.not_lists hy), .inr ⟨rfl, horder⟩⟩
  rw [gatherMembers_eq, List.append_assoc]
  refine List.pairwise_append.mpr ⟨h.ordered.imp fun hab => hab.append n,
    List.pairwise_append.mpr ⟨?_, ?_, ?_⟩, ?_⟩
  · -- Properties among themselves.
    refine List.pairwise_filter.mpr
      ((g.pairwise_declaredNames n).imp_of_mem fun hx hy hlt hxn hyn => ?_)
    rw [mem_declaredNames] at hx hy
    exact hsame (by simpa using hxn) (by simpa using hyn) (.inl hx) (.inl hy)
      (.inr ⟨iff_of_true hx hy, hlt⟩)
  · -- Methods among themselves.
    refine List.pairwise_filter.mpr ((g.pairwise_entryNames n).imp_of_mem fun hx hy hlt hxn hyn =>
      ?_)
    simp only [decide_eq_true_eq, mem_declaredNames] at hxn hyn
    rw [mem_entryNames] at hx hy
    exact hsame hxn.1 hyn.1 (.inr hx) (.inr hy) (.inr ⟨iff_of_false hxn.2 hyn.2, hlt⟩)
  · -- A property and a method.
    intro x hx y hy
    simp only [List.mem_filter, decide_eq_true_eq, mem_declaredNames, mem_entryNames] at hx hy
    exact hsame hx.2 hy.2.1 (.inl hx.1) (.inr hy.1) (.inl ⟨hx.1, hy.2.2⟩)
  · -- A name from before and a new one.
    intro x hx y hy
    simp only [List.mem_append, List.mem_filter, decide_eq_true_eq, mem_declaredNames,
      mem_entryNames] at hy
    rcases hy with hy | hy
    · exact hold hx hy.2 (.inl hy.1)
    · exact hold hx hy.2.1 (.inr hy.1)

/-- The loop visits one more node. -/
theorem Gathered.visit (h : g.Gathered visited names) (n : NodeId) :
    g.Gathered (visited ++ [n]) (g.gatherMembers names n) where
  nodup := h.nodup_visit n
  mem_iff := h.mem_visit_iff n
  ordered := h.ordered_visit n

/-- Members are gathered over any number of visits. -/
theorem Gathered.visitAll (h : g.Gathered visited names) (l : List NodeId) :
    g.Gathered (visited ++ l) (l.foldl g.gatherMembers names) := by
  induction l generalizing visited names with
  | nil => simpa using h
  | cons n l ih =>
    have hrest := ih (h.visit n)
    rwa [List.append_assoc, List.singleton_append] at hrest

/-! ### The list -/

/-- A search along the chain finds a method of that name, or a declared
property. -/
def Resolves (g : Graph β) (name : Bytes) (n : NodeId) (l : List NodeId) : Prop :=
  g.hasMethod n name = true ∨ ∃ m ∈ l, g.HasDeclared name m

/-- The names that are listed at a node with the chain `l`. -/
structure Listing (g : Graph β) (n : NodeId) (l : List NodeId) : Prop where
  nodup : (g.memberNames n).Nodup
  /-- They are those in the tables of the classes, children apart. -/
  mem_iff : ∀ name, name ∈ g.memberNames n ↔ ∃ m ∈ l, g.Lists name m
  /-- They stand in the order of the chain, properties first. -/
  ordered : (g.memberNames n).Pairwise (g.ListedBefore l)
  /-- The list and the searches agree about a name unless it is only there
  without code. -/
  agrees_iff : ∀ name, (name ∈ g.memberNames n ↔ g.Resolves name n l) ↔
    ((∃ m ∈ l, g.HasHollow name m) → g.Resolves name n l)

/-- A node whose chain ends lists what is along the chain. -/
theorem listing_of_isChain (h : IsChain g (some n) l) : Listing g n l := by
  have hgathered : g.Gathered l (g.memberNames n) := by
    have hstart : g.Gathered [] [] := ⟨.nil, by simp, .nil⟩
    rw [memberNames_eq, h.chain_eq]
    exact hstart.visitAll l
  refine ⟨hgathered.nodup, hgathered.mem_iff, hgathered.ordered, fun name => ?_⟩
  -- What has code or is declared is listed in any case.
  have hlisted : g.Resolves name n l → name ∈ g.memberNames n := by
    rw [hgathered.mem_iff, Resolves, hasMethod_iff, h.chain_eq]
    rintro (⟨m, hm, hmethod⟩ | ⟨m, hm, hdeclared⟩)
    · exact ⟨m, hm, .inr (hasEntry_iff.mpr (.inl hmethod))⟩
    · exact ⟨m, hm, .inl hdeclared⟩
  constructor
  · rintro hiff ⟨m, hm, hhollow⟩
    exact hiff.mp ((hgathered.mem_iff name).mpr ⟨m, hm, .inr (hasEntry_iff.mpr (.inr hhollow))⟩)
  · intro hcovered
    refine ⟨fun hname => ?_, hlisted⟩
    obtain ⟨m, hm, hdeclared | hentry⟩ := (hgathered.mem_iff name).mp hname
    · exact .inr ⟨m, hm, hdeclared⟩
    · rcases hasEntry_iff.mp hentry with hmethod | hhollow
      · exact .inl (hasMethod_iff.mpr ⟨m, h.chain_eq ▸ hm, hmethod⟩)
      · exact hcovered ⟨m, hm, hhollow⟩

/-- One node, and a method without code. -/
def hollowGraph : Graph Unit :=
  { nodes := #[{ cls := some { methods := .ofList [(.ofString "x", none)] } }] }

/-- The name is listed at the node, and found by no search. -/
theorem not_agrees_hollow :
    IsChain hollowGraph (some 0) [0] ∧
      ¬ ∀ name, name ∈ hollowGraph.memberNames 0 ↔ hollowGraph.Resolves name 0 [0] := by
  refine ⟨.cons .nil, fun hagrees => ?_⟩
  have hresolves := (hagrees (.ofString "x")).mp (by decide)
  rcases hresolves with hmethod | ⟨m, hm, hdeclared⟩
  · exact absurd hmethod (by decide)
  · rw [List.mem_singleton.mp hm, ← mem_declaredNames] at hdeclared
    exact absurd hdeclared (by decide)

end ObjectBridge.Graph

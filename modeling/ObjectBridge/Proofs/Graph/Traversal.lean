import ObjectBridge.Proofs.Graph.Build

/-!
# `ObjectBridge.Proofs.Graph.Traversal`: the course of a walk

`Graph.walk` works off a list of things to do, with fuel. Told without
either, a walk is a recursion: pass over what was seen before, else visit
the node, then everything below it, then what is beside it. `Walks` is that
recursion as a relation, and what it leaves behind is a forest of
`WalkTree`s. A derivation is finite, so that one exists
(`exists_walks`) says that the recursion stops, whatever leads back in the
graph: every visit takes a node out of those not seen yet. The list of
things to do comes to the same visits in the same order
(`Walks.walk_eq`).

The check for circles follows the bases of each node that is visited and
remembers the nodes on the way. `Laps` is that loop, which stops at the end
of a chain or where the chain comes back (`laps`), and `Checks` is the whole
check.

`walk_traverses` puts together what a walk visits, and what the check that
is built on it reports.
-/

set_option autoImplicit false

namespace ObjectBridge.Graph

/-- A node that is visited, the path it is reached under, and what is
reached from it, in order. -/
inductive WalkTree
  | node (path : Bytes) (n : NodeId) (branches : List WalkTree)

namespace WalkTree

/-- What holds of no trees, and of a tree and those beside it once it holds
of its branches and of those beside it, holds of all. -/
theorem forest_induction {P : List WalkTree → Prop} (nil : P [])
    (cons : ∀ path n branches rest, P branches → P rest → P (.node path n branches :: rest)) :
    ∀ forest, P forest
  | [] => nil
  | .node path n branches :: rest =>
    cons path n branches rest (forest_induction nil cons branches) (forest_induction nil cons rest)

/-- The visits: a node first, then what is reached from it. -/
def visits : List WalkTree → List (Bytes × NodeId)
  | [] => []
  | .node path n branches :: rest => (path, n) :: (visits branches ++ visits rest)

/-- There is nothing to visit without trees. -/
@[simp] theorem visits_nil : visits [] = [] := by
  rw [visits]

/-- A tree is visited at its root, then its branches, then the rest. -/
@[simp] theorem visits_cons (path : Bytes) (n : NodeId) (branches rest : List WalkTree) :
    visits (.node path n branches :: rest) = (path, n) :: (visits branches ++ visits rest) := by
  rw [visits]

end WalkTree

open WalkTree

variable {β : Type} {g : Graph β} {root : NodeId}

/-! ### The recursion -/

/-- From the nodes seen before, visiting what is to be visited leaves a
forest, and more nodes seen. -/
inductive Walks (g : Graph β) : List NodeId → List (Bytes × NodeId) → List WalkTree →
    List NodeId → Prop
  | stop {seen : List NodeId} : Walks g seen [] [] seen
  | pass {seen seen' : List NodeId} {path : Bytes} {n : NodeId} {todo : List (Bytes × NodeId)}
    {forest : List WalkTree} (h : n ∈ seen ∨ ¬ n < g.nodes.size)
    (rest : Walks g seen todo forest seen') :
    Walks g seen ((path, n) :: todo) forest seen'
  | visit {seen seen₁ seen' : List NodeId} {path : Bytes} {n : NodeId}
    {todo : List (Bytes × NodeId)} {branches forest : List WalkTree} (h : n ∉ seen)
    (hn : n < g.nodes.size) (below : Walks g (n :: seen) (g.below path n) branches seen₁)
    (rest : Walks g seen₁ todo forest seen') :
    Walks g seen ((path, n) :: todo) (.node path n branches :: forest) seen'

variable {seen seen' : List NodeId} {todo : List (Bytes × NodeId)} {forest : List WalkTree}

/-- What is seen afterwards was seen before or is visited. -/
theorem Walks.mem_seen_iff (h : Walks g seen todo forest seen') {k : NodeId} :
    k ∈ seen' ↔ k ∈ seen ∨ k ∈ (visits forest).map Prod.snd := by
  induction h with
  | stop => simp
  | pass _ _ ih => exact ih
  | visit _ _ _ _ ihBelow ihRest =>
    rw [ihRest, ihBelow, visits_cons, List.map_cons, List.map_append, List.mem_cons, List.mem_cons,
      List.mem_append]
    simp only [or_assoc, or_left_comm]

/-- No node is visited twice, and none that was seen before. -/
theorem Walks.nodup (h : Walks g seen todo forest seen') :
    ((visits forest).map Prod.snd).Nodup ∧ ∀ k ∈ (visits forest).map Prod.snd, k ∉ seen := by
  induction h with
  | stop => simp
  | pass _ _ ih => exact ih
  | @visit seen seen₁ seen' path n todo branches forest h _ below rest ihBelow ihRest =>
    obtain ⟨hbranches, hnewBelow⟩ := ihBelow
    obtain ⟨hforest, hnewBeside⟩ := ihRest
    -- What comes later was not seen, and all that came earlier was.
    have hbeside : ∀ k ∈ (visits forest).map Prod.snd, k ∉ n :: seen ∧
        k ∉ (visits branches).map Prod.snd :=
      fun k hk => not_or.mp fun hseen => hnewBeside k hk (below.mem_seen_iff.mpr hseen)
    rw [visits_cons, List.map_cons, List.map_append, List.nodup_cons, List.nodup_append,
      List.mem_append]
    refine ⟨⟨?first, hbranches, hforest, fun k hk k' hk' heq => ?apart⟩, fun k hk => ?new⟩
    case first =>
      rintro (hn | hn)
      · exact hnewBelow n hn List.mem_cons_self
      · exact (hbeside n hn).1 List.mem_cons_self
    case apart => exact (hbeside k' hk').2 (heq ▸ hk)
    case new =>
      rcases List.mem_cons.mp hk with rfl | hk
      · exact h
      · rcases List.mem_append.mp hk with hk | hk
        · exact fun hseen => hnewBelow k hk (List.mem_cons_of_mem n hseen)
        · exact fun hseen => (hbeside k hk).1 (List.mem_cons_of_mem n hseen)

/-! ### It stops -/

/-- The number of nodes not seen yet. -/
def unseen (g : Graph β) (seen : List NodeId) : Nat :=
  ((Finset.range g.nodes.size).filter (· ∉ seen)).card

/-- A visit leaves fewer of them. -/
theorem unseen_lt {n : NodeId} (hlt : n < g.nodes.size) (hnew : n ∉ seen)
    (hseen : ∀ k ∈ n :: seen, k ∈ seen') :
    g.unseen seen' < g.unseen seen := by
  refine Finset.card_lt_card ((Finset.ssubset_iff_of_subset fun k hk => ?_).mpr ⟨n, ?_, ?_⟩)
  · rw [Finset.mem_filter] at hk ⊢
    exact ⟨hk.1, fun h => hk.2 (hseen k (List.mem_cons_of_mem n h))⟩
  · exact Finset.mem_filter.mpr ⟨Finset.mem_range.mpr hlt, hnew⟩
  · exact fun h => (Finset.mem_filter.mp h).2 (hseen n List.mem_cons_self)

/-- The recursion stops, whatever is seen and whatever is to be done. -/
theorem exists_walks (g : Graph β) (seen : List NodeId) (todo : List (Bytes × NodeId)) :
    ∃ forest seen', Walks g seen todo forest seen' := by
  -- A visit leaves fewer nodes unseen, however much it adds to what is to be
  -- done; what is passed over leaves a shorter list.
  induction hcount : g.unseen seen using Nat.strong_induction_on generalizing seen todo with
  | _ count ih =>
    induction todo with
    | nil => exact ⟨[], seen, .stop⟩
    | cons e todo ihTodo =>
      obtain ⟨path, n⟩ := e
      by_cases hpass : n ∈ seen ∨ ¬ n < g.nodes.size
      · obtain ⟨forest, seen', hrest⟩ := ihTodo
        exact ⟨forest, seen', .pass hpass hrest⟩
      · obtain ⟨hnew, hlt⟩ := not_or.mp hpass
        have hlt := not_not.mp hlt
        obtain ⟨branches, seen₁, hbelow⟩ :=
          ih _ (hcount ▸ unseen_lt hlt hnew fun _ hk => hk) (n :: seen) (g.below path n) rfl
        have hmore : ∀ k ∈ n :: seen, k ∈ seen₁ := fun k hk => hbelow.mem_seen_iff.mpr (.inl hk)
        obtain ⟨forest, seen', hrest⟩ := ih _ (hcount ▸ unseen_lt hlt hnew hmore) seen₁ todo rfl
        exact ⟨_, seen', .visit hnew hlt hbelow hrest⟩

/-- A walk begins with its root. -/
theorem exists_walks_root (hroot : root < g.nodes.size) :
    ∃ branches seen, Walks g [] [([], root)] [.node [] root branches] seen := by
  obtain ⟨branches, seen, hbelow⟩ := exists_walks g [root] (g.below [] root)
  exact ⟨branches, seen, .visit (by simp) hroot hbelow .stop⟩

/-! ### The list of things to do -/

/-- With enough fuel, what stands first on the list of things to do is
visited as in the recursion, and fuel is left for the rest. -/
theorem Walks.walkFrom_append (h : Walks g seen todo forest seen') (rest : List (Bytes × NodeId))
    {fuel : Nat} (hfuel : todo.length + rest.length + g.unseenEdges seen < fuel) :
    ∃ left, rest.length + g.unseenEdges seen' < left ∧
      g.walkFrom fuel seen (todo ++ rest) = visits forest ++ g.walkFrom left seen' rest := by
  induction h generalizing rest fuel with
  | stop => exact ⟨fuel, by simpa using hfuel, by simp⟩
  | pass h _ ih =>
    cases fuel with
    | zero => omega
    | succ fuel =>
      rw [List.length_cons] at hfuel
      rw [List.cons_append, walkFrom, if_pos h]
      exact ih rest (by omega)
  | @visit seen seen₁ seen' path n todo branches forest h hn _ _ ihBelow ihRest =>
    cases fuel with
    | zero => omega
    | succ fuel =>
      -- The fuel for what is below the node is what its own edges counted for.
      have hedges := @unseenEdges_visit β g n seen h
      rw [List.length_cons] at hfuel
      obtain ⟨left, hleft, hbelow⟩ := @ihBelow (todo ++ rest) fuel
        (by rw [length_below, List.length_append]; omega)
      rw [List.length_append] at hleft
      obtain ⟨left', hleft', hrest⟩ := ihRest rest hleft
      refine ⟨left', hleft', ?_⟩
      rw [List.cons_append, walkFrom, if_neg (not_or.mpr ⟨h, not_not_intro hn⟩), hbelow, hrest,
        visits_cons, List.cons_append, List.append_assoc]

/-- The walk visits what the recursion visits, in the same order. -/
theorem Walks.walk_eq (h : Walks g [] [([], root)] forest seen') : g.walk root = visits forest := by
  have hfuel : 1 + 0 + g.unseenEdges [] < g.edgeCount + 2 := by
    rw [unseenEdges_nil]
    omega
  obtain ⟨left, _, hwalk⟩ := h.walkFrom_append [] hfuel
  have hnone : g.walkFrom left seen' [] = [] := by
    cases left <;> rfl
  rw [hnone, List.append_nil, List.append_nil] at hwalk
  exact hwalk

/-- The walk starts with the root. -/
theorem Walks.walk_eq_cons {branches : List WalkTree}
    (h : Walks g [] [([], root)] [.node [] root branches] seen') :
    g.walk root = ([], root) :: visits branches := by
  rw [h.walk_eq, visits_cons, visits_nil, List.append_nil]

/-! ### Children in order -/

/-- The entries below a node are its children in the order of their
names. -/
theorem below_eq (g : Graph β) (path : Bytes) (n : NodeId) :
    g.below path n = (g.childNames n).filterMap fun name =>
  (g.child? n name).map (Path.join path name, ·) := by
  unfold below childNames child?
  cases g.node? n with
  | none => rfl
  | some x =>
    dsimp only [Option.map_some, Option.getD_some, Option.bind_some, Dict.keys]
    rw [List.filterMap_map, ← List.filterMap_eq_map]
    refine List.filterMap_congr fun e he => ?_
    have hfind : x.children.find? e.1 = some e.2 := (Dict.mem_entries_iff x.children e.1 e.2).mp he
    simp [hfind]

/-- Children are listed in ascending order. -/
theorem pairwise_childNames (g : Graph β) (n : NodeId) : (g.childNames n).Pairwise (· < ·) := by
  unfold childNames
  cases g.node? n with
  | none => exact .nil
  | some x => exact x.children.pairwise_keys

/-! ### Paths -/

/-- Every name of a child below the root can stand between dots. -/
def NamesBelow (g : Graph β) (root : NodeId) : Prop :=
  ∀ n, Below g root n → ∀ name ∈ g.childNames n, Path.IsName name

/-- A visit is found under its path. -/
theorem Walks.lookup?_of_mem (hnames : NamesBelow g root) (h : Walks g seen todo forest seen')
    (htodo : ∀ e ∈ todo, g.lookup? root e.1 = some e.2) :
    ∀ e ∈ visits forest, g.lookup? root e.1 = some e.2 := by
  induction h with
  | stop => simp
  | pass _ _ ih => exact ih fun e he => htodo e (List.mem_cons_of_mem _ he)
  | @visit seen seen₁ seen' path n todo branches forest _ _ _ _ ihBelow ihRest =>
    have hfirst : g.lookup? root path = some n := htodo (path, n) List.mem_cons_self
    have hbelow : ∀ e ∈ g.below path n, g.lookup? root e.1 = some e.2 := by
      intro e he
      obtain ⟨name, hchild, hpath⟩ := mem_below.mp he
      have hname := hnames n (below_of_lookup? hfirst) name
          ((mem_childNames_iff g n name).mpr ⟨_, hchild⟩)
      rw [hpath, lookup?_join g root path hname, hfirst, Option.bind_some, hchild]
    intro e he
    rw [visits_cons, List.mem_cons, List.mem_append] at he
    rcases he with rfl | he | he
    · exact hfirst
    · exact ihBelow hbelow e he
    · exact ihRest (fun e he => htodo e (List.mem_cons_of_mem _ he)) e he

/-! ### The check for circles -/

/-- Following bases with the nodes passed so far: whether the chain comes
back to one of them. -/
inductive Laps (g : Graph β) : List NodeId → Option NodeId → Bool → Prop
  | stop {passed : List NodeId} : Laps g passed none false
  | back {passed : List NodeId} {n : NodeId} (h : n ∈ passed) : Laps g passed (some n) true
  | next {passed : List NodeId} {n : NodeId} {r : Bool} (h : n ∉ passed)
    (rest : Laps g (n :: passed) (g.base? n) r) : Laps g passed (some n) r

/-- The loop stops: only nodes of the graph have a base, and it passes each
of them once. -/
theorem exists_laps (g : Graph β) (passed : List NodeId) (o : Option NodeId) :
    ∃ r, Laps g passed o r := by
  induction hcount : g.unseen passed using Nat.strong_induction_on generalizing passed o with
  | _ count ih =>
    cases o with
    | none => exact ⟨false, .stop⟩
    | some n =>
      by_cases hback : n ∈ passed
      · exact ⟨true, .back hback⟩
      · by_cases hlt : n < g.nodes.size
        · obtain ⟨r, hr⟩ := ih _ (hcount ▸ unseen_lt hlt hback fun _ hk => hk) (n :: passed)
              (g.base? n) rfl
          exact ⟨r, .next hback hr⟩
        · exact ⟨false, .next hback (by rw [base?_of_out hlt]; exact .stop)⟩

/-- Where the lap ends there is a chain. -/
theorem Laps.isChain {passed : List NodeId} {o : Option NodeId} (h : Laps g passed o false) :
    ∃ l, IsChain g o l := by
  generalize hr : false = r at h
  induction h with
  | stop => exact ⟨[], .nil⟩
  | back _ => cases hr
  | @next passed n r _ _ ih =>
    obtain ⟨l, hl⟩ := ih hr
    exact ⟨n :: l, .cons hl⟩

/-- A chain that comes back to a node it has passed has no end. -/
theorem Laps.not_isChain {passed : List NodeId} {o : Option NodeId} (h : Laps g passed o true)
    (hpassed : ∀ n, o = some n → ∀ k ∈ passed, Relation.TransGen g.FallsTo k n) :
    ¬ ∃ l, IsChain g o l := by
  generalize hr : true = r at h
  induction h with
  | stop => cases hr
  | @back passed n hback =>
    rintro ⟨l, hl⟩
    exact hl.not_circle (hpassed n rfl n hback)
  | @next passed n r _ _ ih =>
    rintro ⟨l, hl⟩
    cases hl with
    | @cons _ l hl =>
      refine ih (fun b hb k hk => ?_) hr ⟨l, hl⟩
      rcases List.mem_cons.mp hk with rfl | hk
      · exact .single hb
      · exact (hpassed n rfl k hk).tail hb

/-- The loop finds out whether the chain of a node ends. -/
theorem laps (g : Graph β) (n : NodeId) : Laps g [] (some n) (!g.chainEnds n) := by
  obtain ⟨r, hr⟩ := exists_laps g [] (some n)
  cases r with
  | false =>
    have hends : g.chainEnds n = true := (chainEnds_iff g n).mpr hr.isChain
    rw [hends]
    exact hr
  | true =>
    have hends : g.chainEnds n = false := by
      rw [← Bool.not_eq_true, chainEnds_iff]
      exact hr.not_isChain (by simp)
    rw [hends]
    exact hr

/-- The check goes over the visits and stops at the first node whose chain
comes back. -/
inductive Checks (g : Graph β) : List (Bytes × NodeId) → Option Bytes → Prop
  | stop : Checks g [] none
  | found {path : Bytes} {n : NodeId} {rest : List (Bytes × NodeId)} (h : Laps g [] (some n) true) :
    Checks g ((path, n) :: rest) (some path)
  | next {path : Bytes} {n : NodeId} {rest : List (Bytes × NodeId)} {r : Option Bytes}
    (h : Laps g [] (some n) false) (hrest : Checks g rest r) : Checks g ((path, n) :: rest) r

/-- The check names the first node on a circle. -/
theorem checks_find (g : Graph β) (visited : List (Bytes × NodeId)) :
    Checks g visited ((visited.find? fun (_, n) => !g.chainEnds n).map Prod.fst) := by
  induction visited with
  | nil => exact .stop
  | cons e rest ih =>
    obtain ⟨path, n⟩ := e
    have hlaps := laps g n
    cases hends : g.chainEnds n with
    | true =>
      rw [hends] at hlaps
      rw [List.find?_cons_of_neg (by simp [hends])]
      exact .next hlaps ih
    | false =>
      rw [hends] at hlaps
      rw [List.find?_cons_of_pos (by simp [hends])]
      exact .found hlaps

/-- The chain of a node comes to a node that it comes to again. -/
def Circles (g : Graph β) (n : NodeId) : Prop :=
  ∃ k, Relation.ReflTransGen g.FallsTo n k ∧ Relation.TransGen g.FallsTo k k

/-- A chain that does not end is one that circles. -/
theorem not_chainEnds_iff {n : NodeId} : g.chainEnds n = false ↔ Circles g n := by
  rw [← Bool.not_eq_true, chainEnds_iff_not_circle]
  unfold Circles
  push Not
  rfl

/-- A path is reported when it is that of the first visit from which a
circle is reached. -/
theorem cyclicPath?_eq_some_iff {path : Bytes} :
    g.cyclicPath? root = some path ↔
      ∃ before n after, g.walk root = before ++ (path, n) :: after ∧ Circles g n ∧
        ∀ e ∈ before, ∃ l, IsChain g (some e.2) l := by
  unfold cyclicPath?
  simp only [Option.map_eq_some_iff, List.find?_eq_some_iff_append, ← chainEnds_iff,
    ← not_chainEnds_iff]
  constructor
  · rintro ⟨⟨_, n⟩, ⟨hends, before, after, hwalk, hbefore⟩, rfl⟩
    exact ⟨before, n, after, hwalk, by simpa using hends, by simpa using hbefore⟩
  · rintro ⟨before, n, after, hwalk, hends, hbefore⟩
    exact ⟨(path, n), ⟨by simpa using hends, before, after, hwalk, by simpa using hbefore⟩, rfl⟩

/-! ### What is visited and what is reported -/

/-- The list is what a walk from the root visits. -/
structure Traverses (g : Graph β) (root : NodeId) (visited : List (Bytes × NodeId)) : Prop where
  /-- The recursion stops, and visits a node before what is below it. -/
  course : ∃ forest seen, Walks g [] [([], root)] forest seen ∧ visited = visits forest
  /-- What is below a node are its children in the order of their names. -/
  ordered : ∀ path n, (g.childNames n).Pairwise (· < ·) ∧
    g.below path n = (g.childNames n).filterMap fun name =>
      (g.child? n name).map (Path.join path name, ·)
  once : (visited.map Prod.snd).Nodup
  reached : ∀ n, n ∈ visited.map Prod.snd ↔ Below g root n ∧ n < g.nodes.size
  /-- When names can stand between dots, paths lead back to the visits. -/
  found : NamesBelow g root → ∀ e ∈ visited, g.lookup? root e.1 = some e.2

/-- The result is what the check for circles reports. -/
structure Reports (g : Graph β) (root : NodeId) (result : Option Bytes) : Prop where
  /-- The check stops. -/
  course : Checks g (g.walk root) result
  none_iff : result = none ↔ ∀ e ∈ g.walk root, ∃ l, IsChain g (some e.2) l
  some_iff : ∀ path, result = some path ↔
    ∃ before n after, g.walk root = before ++ (path, n) :: after ∧ Circles g n ∧
      ∀ e ∈ before, ∃ l, IsChain g (some e.2) l

/-- A walk stops and visits every node below its root once, and the check
for circles stops and reports the first visit from which one is reached. -/
theorem walk_traverses (g : Graph β) (root : NodeId) :
    Traverses g root (g.walk root) ∧ Reports g root (g.cyclicPath? root) := by
  obtain ⟨forest, seen, hwalks⟩ := exists_walks g [] [([], root)]
  have hvisits := hwalks.walk_eq
  constructor
  · exact {
      course := ⟨forest, seen, hwalks, hvisits⟩
      ordered := fun path n => ⟨pairwise_childNames g n, below_eq g path n⟩
      once := hvisits ▸ hwalks.nodup.1
      reached := fun n => by
        rw [← mem_walk_iff, List.mem_map, Prod.exists]
        simp
      found := fun hnames => hvisits ▸ hwalks.lookup?_of_mem hnames (by simp) }
  · exact {
      course := checks_find g (g.walk root)
      none_iff := by
        unfold cyclicPath?
        rw [Option.map_eq_none_iff, List.find?_eq_none]
        simp [chainEnds_iff]
      some_iff := fun _ => cyclicPath?_eq_some_iff }

end ObjectBridge.Graph

import ObjectBridge.Builtin.Behaviour
import ObjectBridge.Proofs.Graph.Drafts

/-!
# `ObjectBridge.Proofs.Graph.Description`: when a description shows the graph

Nodes are described below the nodes they were reached from exactly when the
walk went down by clear names (`describe_iff_legible`), so always when names
can stand between dots. By other names, drafts end up elsewhere or nowhere
(`describe_dotted`).

That no other names do rests on a count. Every draft is put below one other
at most, so the descriptions of those that are below none are as many as
there are visits (`Filed.sum_weight`). A description of the root that shows
every visit leaves nothing for another draft with an empty path
(`Filed.eq_of_weight`), and then the paths in it are cut back to each other
all the way down (`Filed.legible`).
-/

set_option autoImplicit false

namespace ObjectBridge.Graph

open WalkTree

variable {β : Type} {g : Graph β} {root : NodeId} {visited done : List (Bytes × NodeId)}
    {e : Bytes × NodeId}
  {ds ds₁ : Drafts} {p : Bytes} {i : Nat} {branches forest : List WalkTree}

/-! ### Descriptions are counted -/

/-- The number of descriptions, those of children and below them
included. -/
def total : List Description → Nat
  | [] => 0
  | .mk _ _ _ _ _ _ children :: rest => 1 + total children + total rest

/-- A description counts itself, what is below it and what is beside it. -/
theorem total_cons_complete (d : Draft) (children rest : List Description) :
    total (d.complete children :: rest) = 1 + total children + total rest := by
  rw [Draft.complete, total]

/-- There is a portrait for each visit. -/
theorem total_portraits : total (portraits g visited forest) = (visits forest).length := by
  induction forest using forest_induction with
  | nil => rw [portraits_nil, visits_nil, total, List.length_nil]
  | cons path n branches rest ihBranches ihRest =>
    rw [portraits_cons, total_cons_complete, ihBranches, ihRest, visits_cons, List.length_cons,
      List.length_append]
    omega

/-- The description of the draft at a place. -/
def finished (ds : Drafts) : Nat → Option Description := finish ds.drafts (ds.drafts.size + 1)

/-- A draft that is not there cannot be finished. -/
theorem finish_of_none {drafts : Array Draft} (h : drafts[i]? = none) (fuel : Nat) :
    finish drafts fuel i = none := by
  cases fuel with
  | zero => rfl
  | succ fuel => rw [finish, h]

/-- Children come after the draft they are put below, so more fuel than
there are drafts left makes no difference. -/
theorem Filed.finish_eq (h : Filed done ds) {fuel fuel' : Nat} (hfuel : ds.drafts.size - i ≤ fuel)
    (hfuel' : ds.drafts.size - i ≤ fuel') : finish ds.drafts fuel i = finish ds.drafts fuel' i := by
  induction fuel generalizing i fuel' with
  | zero =>
    have hnone : ds.drafts[i]? = none := Array.getElem?_eq_none (by omega)
    rw [finish_of_none hnone, finish_of_none hnone]
  | succ fuel ih =>
    cases hget : ds.drafts[i]? with
    | none => rw [finish_of_none hget, finish_of_none hget]
    | some d =>
      have hlt : i < ds.drafts.size := (Array.getElem?_eq_some_iff.mp hget).1
      obtain ⟨fuel', rfl⟩ : ∃ k, fuel' = k + 1 := ⟨fuel' - 1, by omega⟩
      rw [finish, finish, hget]
      refine congrArg (fun children => some (d.complete children))
        (List.filterMap_congr fun c hc => ?_)
      have hafter := (h.child i d c hget hc).1
      exact ih (by omega) (by omega)

/-- A draft's description has those of its children. -/
theorem Filed.finished_eq (h : Filed done ds) {d : Draft} (hget : ds.drafts[i]? = some d) :
    finished ds i = some (d.complete (d.children.filterMap (finished ds))) := by
  rw [finished, finish, hget]
  refine congrArg (fun children => some (d.complete children)) (List.filterMap_congr fun c hc => ?_)
  exact h.finish_eq (Nat.sub_le _ _) (Nat.le_succ_of_le (Nat.sub_le _ _))

/-- What the description of a draft counts for. -/
def weight (ds : Drafts) (i : Nat) : Nat := total (finished ds i).toList

/-- Finished descriptions count as their drafts weigh. -/
theorem total_filterMap (ds : Drafts) (l : List Nat) :
    total (l.filterMap (finished ds)) = (l.map (weight ds)).sum := by
  induction l with
  | nil => rw [List.filterMap_nil, total, List.map_nil, List.sum_nil]
  | cons i l ih =>
    rw [List.filterMap_cons, List.map_cons, List.sum_cons, ← ih, weight]
    cases finished ds i with
    | none => rw [Option.toList_none, total, Nat.zero_add]
    | some d =>
      obtain ⟨path, className, base, methods, properties, constructor, children⟩ := d
      rw [Option.toList_some, total, total, total, Nat.add_zero]

/-- A draft counts for one more than its children do. -/
theorem Filed.weight_eq (h : Filed done ds) {d : Draft} (hget : ds.drafts[i]? = some d) :
    weight ds i = 1 + (d.children.map (weight ds)).sum := by
  rw [weight, h.finished_eq hget, Option.toList_some, total_cons_complete, total, total_filterMap,
    Nat.add_zero]

/-- The descriptions of those that are below no other count for as many as
there are drafts. -/
theorem Filed.sum_weight (h : Filed done ds) {tops : List Nat}
    (hperm : (ds.drafts.toList.flatMap (·.children) ++ tops).Perm (List.range done.length)) :
    (tops.map (weight ds)).sum = done.length := by
  -- A draft weighs one more than its children, and every draft is a child once or on top.
  have heach : (List.range done.length).map (weight ds) =
      ds.drafts.toList.map fun d => 1 + (d.children.map (weight ds)).sum := by
    refine List.ext_getElem (by simp [h.size]) fun i _ hi => ?_
    rw [List.length_map] at hi
    have hget : ds.drafts[i]? = some ds.drafts.toList[i] := by
      rw [← Array.getElem?_toList, List.getElem?_eq_getElem hi]
    rw [List.getElem_map, List.getElem_range, h.weight_eq hget, List.getElem_map]
  have hchildren : ∀ l : List Draft, (l.map fun d => 1 + (d.children.map (weight ds)).sum).sum =
      l.length + ((l.flatMap (·.children)).map (weight ds)).sum := by
    intro l
    induction l with
    | nil => rfl
    | cons d l ih =>
      rw [List.map_cons, List.sum_cons, ih, List.length_cons, List.flatMap_cons, List.map_append,
        List.sum_append]
      omega
  have hsum := (hperm.map (weight ds)).sum_eq
  rw [heach, hchildren, List.map_append, List.sum_append, Array.length_toList, h.size] at hsum
  omega

/-- A draft with an empty path is below no other. -/
theorem Filed.mem_tops (h : Filed done ds) {tops : List Nat}
    (hperm : (ds.drafts.toList.flatMap (·.children) ++ tops).Perm (List.range done.length))
    (hi : done[i]? = some e) (hpath : e.1 = []) : i ∈ tops := by
  have hrange : i ∈ ds.drafts.toList.flatMap (·.children) ++ tops :=
    hperm.mem_iff.mpr (List.mem_range.mpr (List.getElem?_eq_some_iff.mp hi).1)
  refine (List.mem_append.mp hrange).resolve_left fun hbelow => ?_
  obtain ⟨o, ho, hio⟩ := List.mem_flatMap.mp hbelow
  obtain ⟨j, hj⟩ := List.mem_iff_getElem?.mp ho
  obtain ⟨_, _, e', _, hi', hne, _⟩ := h.child j o i (by rw [← Array.getElem?_toList, hj]) hio
  rw [hi] at hi'
  cases hi'
  exact hne hpath

/-- A draft that is filed weighs something. -/
theorem Filed.weight_pos (h : Filed done ds) (hi : done[i]? = some e) : 0 < weight ds i := by
  rw [h.weight_eq (Array.getElem?_eq_getElem (h.lt_size hi))]
  omega

/-- When the description of one draft counts them all, it is the only one
with its path empty. -/
theorem Filed.eq_of_weight (h : Filed done ds) {top : Nat} {eTop : Bytes × NodeId}
    (hget : done[top]? = some eTop) (htop : eTop.1 = []) (hweight : weight ds top = done.length)
    (hi : done[i]? = some e) (hpath : e.1 = []) :
    i = top := by
  obtain ⟨tops, hperm⟩ := h.once
  have hall := h.sum_weight hperm
  have hmem := h.mem_tops hperm hi hpath
  obtain ⟨before, after, rfl⟩ := List.append_of_mem (h.mem_tops hperm hget htop)
  rw [List.map_append, List.map_cons, List.sum_append, List.sum_cons, hweight] at hall
  rw [List.mem_append, List.mem_cons] at hmem
  -- A description counts for one at least, so nothing is left for another.
  have hpos := h.weight_pos hi
  have hnone : ∀ others : List Nat, i ∈ others → (others.map (weight ds)).sum ≠ 0 :=
    fun others hother hzero => by
    have hle := List.single_le_sum (by simp) _ (List.mem_map_of_mem (f := weight ds) hother)
    omega
  rcases hmem with hbefore | heq | hafter
  · exact absurd (by omega) (hnone before hbefore)
  · exact heq
  · exact absurd (by omega) (hnone after hafter)

/-- Drafts that are put together to the portraits of a forest are those of
a legible forest. -/
theorem Filed.legible (h : Filed done ds) (hnames : ∀ e ∈ visits forest, e.1 ≠ [])
    {children : List Nat} (hchildren : ∀ c ∈ children, ∃ e : Bytes × NodeId, done[c]? = some e ∧
      e.1 ≠ [] ∧ p = Path.parent e.1)
    (hportraits : children.filterMap (finished ds) = portraits g visited forest) :
    Legible p forest := by
  induction forest using forest_induction generalizing p children with
  | nil => exact legible_nil p
  | cons path n branches rest ihBranches ihRest =>
    have hne : path ≠ [] := hnames (path, n) (by simp)
    have hbranchNames : ∀ e ∈ visits branches, e.1 ≠ [] := fun e he => hnames e (by simp [he])
    have hrestNames : ∀ e ∈ visits rest, e.1 ≠ [] := fun e he => hnames e (by simp [he])
    rw [portraits_cons] at hportraits
    cases children with
    | nil => cases hportraits
    | cons c children =>
      obtain ⟨e, hc, hce, hcut⟩ := hchildren c List.mem_cons_self
      have hget := Array.getElem?_eq_getElem (h.lt_size hc)
      rw [List.filterMap_cons, h.finished_eq hget] at hportraits
      obtain ⟨hfirst, hbeside⟩ := List.cons.inj hportraits
      rw [Draft.complete, Draft.complete] at hfirst
      injection hfirst with hpath _ _ _ _ _ hbelow
      obtain ⟨e', hc', hshown⟩ := h.named c _ hget
      rw [hc] at hc'
      cases hc'
      -- What is shown of a draft is its path, which is that of the tree then.
      have heq : e.1 = path := by
        rw [hshown, draft, Path.display, Path.display, if_neg hce, if_neg hne] at hpath
        exact hpath
      refine legible_cons.mpr ⟨⟨hne, heq ▸ hcut.symm⟩, ?_, ?_⟩
      · refine ihBranches hbranchNames (fun c' hc' => ?_) hbelow
        obtain ⟨_, e₀, e', he₀, he', hne', hcut'⟩ := h.child c _ c' hget hc'
        rw [hc] at he₀
        cases he₀
        exact ⟨e', he', hne', heq ▸ hcut'⟩
      · exact ihRest hrestNames (fun c' hc' => hchildren c' (List.mem_cons_of_mem _ hc')) hbeside

/-- A walk that is described as it went was by clear names. -/
theorem legible_of_describe {seen : List NodeId}
    (h : Walks g [] [([], root)] [.node [] root branches] seen) (hdescribe : g.describe root =
      some ((g.draft (g.walk root) [] root).complete (portraits g (g.walk root) branches))) :
    Legible [] branches := by
  have hwalk := h.walk_eq_cons
  rw [describe_eq] at hdescribe
  obtain ⟨ds, hfold, hdescribe⟩ := Option.bind_eq_some_iff.mp hdescribe
  obtain ⟨top, hfind, hfinished⟩ := Option.bind_eq_some_iff.mp hdescribe
  have hfiled := filed_empty.run hfold
  rw [List.nil_append] at hfiled
  obtain ⟨eTop, hget, htop⟩ := hfiled.found _ _ hfind
  have hweight : weight ds top = (g.walk root).length := by
    rw [weight, finished, hfinished, Option.toList_some, total_cons_complete, total_portraits,
      total, hwalk, List.length_cons]
    omega
  -- Every visit is shown, so the root is the only one with an empty path.
  have honly : ∀ i e, (g.walk root)[i]? = some e → e.1 = [] → i = top := fun i e =>
    hfiled.eq_of_weight hget htop hweight
  have hzero : 0 = top := honly 0 ([], root) (by rw [hwalk]; rfl) rfl
  subst hzero
  have hnames : ∀ e ∈ visits branches, e.1 ≠ [] := by
    intro e he hnil
    obtain ⟨i, hi⟩ := List.mem_iff_getElem?.mp he
    have := honly (i + 1) e (by rw [hwalk, List.getElem?_cons_succ, hi]) hnil
    omega
  have hdraft := Array.getElem?_eq_getElem (hfiled.lt_size hget)
  have hcomplete := hfinished
  change finished ds 0 = _ at hcomplete
  rw [hfiled.finished_eq hdraft, Draft.complete, Draft.complete] at hcomplete
  injection hcomplete with hcomplete
  injection hcomplete with _ _ _ _ _ _ hchildren
  refine hfiled.legible hnames (fun c hc => ?_) hchildren
  obtain ⟨_, e, e', he, he', hne, hcut⟩ := hfiled.child 0 _ c hdraft hc
  rw [hwalk] at he
  cases he
  exact ⟨e', he', hne, hcut⟩

/-! ### No description -/

/-- A draft has no place when no draft has the path its own is cut back
to. -/
theorem Filed.step_eq_none_iff (h : Filed done ds) :
    place g visited ds e = none ↔ e.1 ≠ [] ∧ ∀ e' ∈ done, e'.1 ≠ Path.parent e.1 := by
  obtain ⟨path, n⟩ := e
  by_cases hne : path = []
  · subst hne
    rw [place_nil]
    simp
  · rw [place_of_ne hne, Option.map_eq_none_iff]
    constructor
    · refine fun hnone => ⟨hne, fun e' he' heq => ?_⟩
      have hplaced := h.placed e' he'
      rw [heq, hnone] at hplaced
      cases hplaced
    · rintro ⟨_, hall⟩
      rw [Option.eq_none_iff_forall_ne_some]
      intro i hi
      obtain ⟨e', he', hpath⟩ := h.found _ i hi
      exact hall e' (List.mem_of_getElem? he') hpath

/-- Filing fails exactly at the first entry whose parent is not filed. -/
theorem Filed.run_eq_none_iff {rest : List (Bytes × NodeId)} (h : Filed done ds) :
    rest.foldlM (place g visited) ds = none ↔
      ∃ before e after, rest = before ++ e :: after ∧ e.1 ≠ [] ∧ ∀ e' ∈ done ++ before,
      e'.1 ≠ Path.parent e.1 := by
  -- The first row whose parent is missing ends the run, so those before it were placed.
  induction rest generalizing done ds with
  | nil => simp
  | cons e rest ih =>
    rw [List.foldlM_cons]
    cases hplace : place g visited ds e with
    | none =>
      obtain ⟨hne, hall⟩ := h.step_eq_none_iff.mp hplace
      exact iff_of_true rfl ⟨[], e, rest, rfl, hne, by simpa using hall⟩
    | some ds₁ =>
      refine (ih (h.step hplace)).trans ⟨?_, ?_⟩
      · rintro ⟨before, e', after, rfl, hne, hall⟩
        exact ⟨e :: before, e', after, rfl, hne, by simpa using hall⟩
      · rintro ⟨before, e', after, heq, hne, hall⟩
        cases before with
        | nil =>
          obtain ⟨rfl, rfl⟩ := List.cons.inj heq
          rw [List.append_nil] at hall
          rw [h.step_eq_none_iff.mpr ⟨hne, hall⟩] at hplace
          cases hplace
        | cons e₁ before =>
          obtain ⟨rfl, rfl⟩ := List.cons.inj heq
          exact ⟨before, e', after, rfl, hne, by simpa using hall⟩

/-- There is no description when a node is visited under a path that is cut
back to one that nothing was visited under before. -/
theorem describe_eq_none_iff (hroot : root < g.nodes.size) :
    g.describe root = none ↔ ∃ before e after, g.walk root = before ++ e :: after ∧ e.1 ≠ [] ∧
      ∀ e' ∈ before, e'.1 ≠ Path.parent e.1 := by
  have hplaces := @Filed.run_eq_none_iff _ g (g.walk root) [] {} (g.walk root) filed_empty
  rw [describe_eq]
  cases hfold : (g.walk root).foldlM (place g (g.walk root)) {} with
  | none => exact iff_of_true rfl (hplaces.mp hfold)
  | some ds =>
    refine iff_of_false (fun hnone => ?_) fun hlost => ?_
    · have hfiled := filed_empty.run hfold
      obtain ⟨branches, seen, hwalks⟩ := exists_walks_root hroot
      obtain ⟨top, htop⟩ := Option.isSome_iff_exists.mp
          (hfiled.placed ([], root) (by simp [hwalks.walk_eq_cons]))
      obtain ⟨e, he, _⟩ := hfiled.found _ _ htop
      have hfinished := hfiled.finished_eq (Array.getElem?_eq_getElem (hfiled.lt_size he))
      rw [finished] at hfinished
      rw [Option.bind_some, htop, Option.bind_some, hfinished] at hnone
      cases hnone
    · rw [hplaces.mpr hlost] at hfold
      cases hfold

/-! ### When the description shows the graph -/

/-- What lies below a node is below the root, and its name is in the clear. -/
theorem clear_of_mem_below (hnames : NamesBelow g root) {path : Bytes} {n : NodeId}
    (hn : Below g root n) :
    ∀ e ∈ g.below path n, Below g root e.2 ∧ ∃ name, e.1 = Path.join path name ∧
      Path.Clear path name := by
  intro e he
  obtain ⟨name, hchild, hpath⟩ := mem_below.mp he
  have hname := hnames n hn name ((mem_childNames_iff g n name).mpr ⟨_, hchild⟩)
  exact ⟨.child hn hchild, name, hpath, Path.clear_of_isName path hname⟩

/-- Names that can stand between dots are clear wherever they are. -/
theorem Walks.legible {seen seen' : List NodeId} {todo : List (Bytes × NodeId)}
    (hnames : NamesBelow g root) (h : Walks g seen todo forest seen')
    (htodo : ∀ e ∈ todo, Below g root e.2 ∧ ∃ name, e.1 = Path.join p name ∧ Path.Clear p name) :
    Legible p forest := by
  induction h generalizing p with
  | stop => exact legible_nil p
  | pass _ _ ih => exact ih fun e he => htodo e (List.mem_cons_of_mem _ he)
  | @visit seen seen₁ seen' path n todo branches forest _ _ _ _ ihBelow ihRest =>
    obtain ⟨hn, hclear⟩ := htodo (path, n) List.mem_cons_self
    exact legible_cons.mpr ⟨Path.exists_clear_iff.mp hclear, ihBelow (clear_of_mem_below hnames hn),
      ihRest fun e he => htodo e (List.mem_cons_of_mem _ he)⟩

/-- The walk below a node goes down a tree of visits, each node below the
root once. The description shows that tree, whose top is the root, exactly
when names are clear to cut on the way, and names that can stand between
dots are. -/
theorem describe_iff_legible (g : Graph β) {root : NodeId} (hroot : root < g.nodes.size) :
    ∃ branches seen, Walks g [] [([], root)] [.node [] root branches] seen ∧
      g.walk root = visits [.node [] root branches] ∧
      ((g.walk root).map Prod.snd).Nodup ∧
      (∀ n, n ∈ (g.walk root).map Prod.snd ↔ Below g root n ∧ n < g.nodes.size) ∧
      (g.describe root = some ((g.draft (g.walk root) [] root).complete
        (portraits g (g.walk root) branches)) ↔ Legible [] branches) ∧
      (g.describe root = none ↔ ∃ before e after, g.walk root = before ++ e :: after ∧ e.1 ≠ [] ∧
        ∀ e' ∈ before, e'.1 ≠ Path.parent e.1) ∧
      (NamesBelow g root → Legible [] branches) := by
  obtain ⟨branches, seen, hwalks⟩ := exists_walks_root hroot
  have hvisits := hwalks.walk_eq
  refine ⟨branches, seen, hwalks, hvisits, hvisits ▸ hwalks.nodup.1, fun n => ?_,
    ⟨legible_of_describe hwalks, describe_of_legible hwalks⟩, describe_eq_none_iff hroot,
    fun hnames => ?_⟩
  · rw [← mem_walk_iff, List.mem_map, Prod.exists]
    simp
  · cases hwalks with
    | pass h _ => exact absurd (h.resolve_left (by simp)) (not_not_intro hroot)
    | visit _ _ hbelow _ => exact hbelow.legible hnames (clear_of_mem_below hnames .root)

/-- A root with two children. -/
def fork (a b : Bytes) : Graph Behaviour :=
  let nodes := ((({} : Graph Behaviour).addNode none).1.addNode none).1.addNode none
  (nodes.1.addChild 0 a 1).addChild 0 b 2

/-- A fork whose second child has the first for a child, too, and the
root. -/
def looped : Graph Behaviour :=
  ((fork (.ofString "a") (.ofString "b")).addChild 2 (.ofString "same") 1).addChild 2
    (.ofString "up") 0

/-- The names in the witness are in the clear. -/
theorem namesBelow_looped : NamesBelow looped 0 := by
  have hroot : looped.childNames 0 = [.ofString "a", .ofString "b"] := by cbv
  have hleaf : looped.childNames 1 = [] := by cbv
  have hfork : looped.childNames 2 = [.ofString "same", .ofString "up"] := by cbv
  have hsize : looped.nodes.size = 3 := by cbv
  intro n _ name hname
  obtain ⟨c, hc⟩ := (mem_childNames_iff looped n name).mp hname
  have hlt : n < 3 := hsize ▸ lt_of_child? hc
  clear hc c
  rw [Path.isName_iff]
  interval_cases n
  · rw [hroot] at hname
    revert name
    decide
  · rw [hleaf] at hname
    cases hname
  · rw [hfork] at hname
    revert name
    decide

/-- Shared children, and children that lead back, are no obstacle to a
description. -/
theorem describe_looped :
    0 < looped.nodes.size ∧ ∃ branches seen, Walks looped [] [([], 0)] [.node [] 0 branches] seen ∧
      looped.describe 0 =
        some ((looped.draft (looped.walk 0) [] 0).complete
          (portraits looped (looped.walk 0) branches)) := by
  have hsize : 0 < looped.nodes.size := by cbv
  obtain ⟨branches, seen, hwalks, _, _, _, hiff, _, hlegible⟩ := describe_iff_legible looped hsize
  exact ⟨hsize, branches, seen, hwalks, hiff.mpr (hlegible namesBelow_looped)⟩

/-- A child whose name has a dot is looked for below a node that is not
there; one without a name takes the place of the root; and one whose name
begins with that of another and a dot is put below the other. -/
theorem describe_fork :
    (fork (.ofString "a.b") (.ofString "c")).walk 0 =
      [([], 0), (Bytes.ofString "a.b", 1), (Bytes.ofString "c", 2)] ∧
    (fork (.ofString "a.b") (.ofString "c")).describe 0 = none ∧
    (fork [] (.ofString "c")).walk 0 = [([], 0), ([], 1), (Bytes.ofString "c", 2)] ∧
    (fork [] (.ofString "c")).describe 0 =
      some (.mk (.ofString "<root>") none none [] [] false
        [.mk (.ofString "c") none none [] [] false []]) ∧
    (fork (.ofString "a") (.ofString "a.b")).describe 0 =
      some (.mk (.ofString "<root>") none none [] [] false
        [.mk (.ofString "a") none none [] [] false
          [.mk (.ofString "a.b") none none [] [] false []]]) := by
  refine ⟨?_, ?_, ?_, ?_, ?_⟩ <;> cbv

end ObjectBridge.Graph

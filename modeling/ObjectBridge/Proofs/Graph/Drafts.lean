import ObjectBridge.Proofs.Graph.Traversal

/-!
# `ObjectBridge.Proofs.Graph.Drafts`: where drafts are put

A description is put together from drafts, one for each visit of a walk.
A draft is put below another by its path alone: it is cut back at its last
dot, and what was drafted last under the path that remains is the owner.

Two things are shown of that. By names that are clear to cut
(`Path.Clear`), a draft comes below the node it was reached from, and the
drafts make up the walk as it went, `portraits` (`exists_foldlM_place`,
`describe_of_legible`). By whatever names, drafts are put below earlier
ones, each below one at most, and by paths that are cut back to each other
(`Filed`).
-/

set_option autoImplicit false

namespace ObjectBridge

namespace Graph

open WalkTree

variable {β : Type} {g : Graph β} {root : NodeId} {visited : List (Bytes × NodeId)}

/-! ### The description of a walk -/

/-- A draft with the descriptions of its children. -/
def Draft.complete (d : Draft) (children : List Description) : Description :=
  .mk d.path d.className d.base d.methods d.properties d.constructor children

/-- One description for each tree, with those of its branches as
children. -/
def portraits (g : Graph β) (visited : List (Bytes × NodeId)) : List WalkTree → List Description
  | [] => []
  | .node path n branches :: rest =>
    (g.draft visited path n).complete (portraits g visited branches) :: portraits g visited rest

/-- No trees have no portraits. -/
@[simp] theorem portraits_nil : portraits g visited [] = [] := by
  rw [portraits]

/-- The portrait of a tree is its draft, completed with those of its branches.
-/
theorem portraits_cons (path : Bytes) (n : NodeId) (branches rest : List WalkTree) :
    portraits g visited (.node path n branches :: rest) =
      (g.draft visited path n).complete (portraits g visited branches) ::
      portraits g visited rest := by
  rw [portraits]

/-- Every branch is reached from the node at path `p` by a clear name, and
so on below. -/
def Legible (p : Bytes) : List WalkTree → Prop
  | [] => True
  | .node path _ branches :: rest => (∃ name, path = Path.join p name ∧ Path.Clear p name) ∧
      Legible path branches ∧ Legible p rest

/-- No trees are legible. -/
theorem legible_nil (p : Bytes) : Legible p [] := by
  rw [Legible]
  trivial

/-- A tree is legible when its path ends in a name, and so on below and beside
it. -/
theorem legible_cons {p path : Bytes} {n : NodeId} {branches rest : List WalkTree} :
    Legible p (.node path n branches :: rest) ↔
      (path ≠ [] ∧ Path.parent path = p) ∧ Legible path branches ∧ Legible p rest := by
  rw [Legible, Path.exists_clear_iff]

/-! ### Drafts put in their places -/

/-- The draft of one visit is added. -/
def place (g : Graph β) (visited : List (Bytes × NodeId)) (ds : Drafts) (e : Bytes × NodeId) :
    Option Drafts :=
  addDraft ds e.1 (g.draft visited e.1 e.2)

/-- The drafts with one more, which is a child of the one at place
`owner`. -/
def putBelow (drafts : Array Draft) (owner : Nat) (d : Draft) : Array Draft :=
  (drafts.push d).modify owner fun o => { o with children := o.children ++ [drafts.size] }

/-- A draft put below another one is one more. -/
@[simp] theorem size_putBelow (drafts : Array Draft) (owner : Nat) (d : Draft) :
    (putBelow drafts owner d).size = drafts.size + 1 := by
  rw [putBelow, Array.size_modify, Array.size_push]

/-- It comes last, and its owner gets it for a child. -/
theorem getElem?_putBelow {drafts : Array Draft} {owner : Nat} (howner : owner < drafts.size)
    (d : Draft) (i : Nat) :
    (putBelow drafts owner d)[i]? =
      if i = owner then drafts[i]?.map fun o => { o with children := o.children ++ [drafts.size] }
      else if i = drafts.size then some d else drafts[i]? := by
  rw [putBelow, Array.getElem?_modify, Array.getElem?_push]
  by_cases hi : i = owner
  · subst hi
    rw [if_pos rfl, if_pos rfl, if_neg (Nat.ne_of_lt howner)]
  · rw [if_neg hi, if_neg (Ne.symm hi)]

/-- The root is put below nothing. -/
theorem place_nil (ds : Drafts) (n : NodeId) :
    place g visited ds ([], n) = some
      { drafts := ds.drafts.push (g.draft visited [] n),
        byPath := ds.byPath.insert [] ds.drafts.size } := rfl

/-- Any other draft is put below the latest one at the path its own is cut
back to. -/
theorem place_of_ne {path : Bytes} (hne : path ≠ []) (ds : Drafts) (n : NodeId) :
    place g visited ds (path, n) = (ds.byPath.find? (Path.parent path)).map fun owner =>
      { drafts := putBelow ds.drafts owner (g.draft visited path n)
        byPath := ds.byPath.insert path ds.drafts.size } := by
  have hshort : Path.parent path ≠ path := fun heq => by
    have hlt := Path.parent_length_lt hne
    rw [heq] at hlt
    exact Nat.lt_irrefl _ hlt
  unfold place addDraft
  dsimp only
  rw [if_neg hne, Dict.find?_insert, if_neg hshort]
  cases ds.byPath.find? (Path.parent path) <;> rfl

/-! ### Drafts put where they belong -/

/-- After drafts were added below the one at place `owner`, whose path is
`p`, that one has the children `starts` more, those before it are as they
were, and paths not longer than `p` still lead to them. -/
structure Extended (ds ds' : Drafts) (p : Bytes) (owner : Nat) (starts : List Nat) : Prop where
  size_le : ds.drafts.size ≤ ds'.drafts.size
  owner_eq : ds'.drafts[owner]? = ds.drafts[owner]?.map fun d =>
    { d with children := d.children ++ starts }
  others : ∀ i, i < ds.drafts.size → i ≠ owner → ds'.drafts[i]? = ds.drafts[i]?
  byPath : ∀ q : Bytes, q.length ≤ p.length → ds'.byPath.find? q = ds.byPath.find? q

/-- Wherever the drafts added since are found, they are put together to
the portraits of the forest. -/
def Depicts (g : Graph β) (visited : List (Bytes × NodeId)) (ds ds' : Drafts) (starts : List Nat)
    (forest : List WalkTree) : Prop :=
  ∀ drafts : Array Draft, (∀ i, ds.drafts.size ≤ i → i < ds'.drafts.size →
    drafts[i]? = ds'.drafts[i]?) → ∀ fuel, (visits forest).length ≤ fuel →
    starts.filterMap (finish drafts fuel) = portraits g visited forest

variable {ds ds₁ ds₂ : Drafts} {p q path : Bytes} {n owner i : Nat} {starts starts₂ : List Nat}
  {branches rest forest : List WalkTree}

/-- More drafts are added below the same one. -/
theorem Extended.trans (h : Extended ds ds₁ p owner starts)
    (h₂ : Extended ds₁ ds₂ p owner starts₂) :
    Extended ds ds₂ p owner (starts ++ starts₂) where
  size_le := h.size_le.trans h₂.size_le
  owner_eq := by
    rw [h₂.owner_eq, h.owner_eq, Option.map_map]
    refine congrArg (Option.map · _) (funext fun d => ?_)
    simp
  others i hi hne := by rw [h₂.others i (Nat.lt_of_lt_of_le hi h.size_le) hne, h.others i hi hne]
  byPath q hq := by rw [h₂.byPath q hq, h.byPath q hq]

/-- More drafts are added below one that was added since. -/
theorem Extended.inside (h : Extended ds ds₁ p owner starts) (h₂ : Extended ds₁ ds₂ q i starts₂)
    (howner : owner < ds.drafts.size) (hi : ds.drafts.size ≤ i) (hpq : p.length ≤ q.length) :
    Extended ds ds₂ p owner starts where
  size_le := h.size_le.trans h₂.size_le
  owner_eq := by rw [h₂.others owner (Nat.lt_of_lt_of_le howner h.size_le) (by omega), h.owner_eq]
  others j hj hne := by rw [h₂.others j (Nat.lt_of_lt_of_le hj h.size_le) (by omega),
    h.others j hj hne]
  byPath r hr := by rw [h₂.byPath r (hr.trans hpq), h.byPath r hr]

/-- A draft whose path is cut back to that of another is put below it. -/
theorem exists_place (hne : path ≠ []) (hfind : ds.byPath.find? (Path.parent path) = some owner)
    (howner : owner < ds.drafts.size) (n : NodeId) :
    ∃ ds₁, place g visited ds (path, n) = some ds₁ ∧
      Extended ds ds₁ (Path.parent path) owner [ds.drafts.size] ∧
      ds₁.drafts.size = ds.drafts.size + 1 ∧ ds₁.drafts[ds.drafts.size]? =
      some (g.draft visited path n) ∧ ds₁.byPath.find? path = some ds.drafts.size := by
  have hget := getElem?_putBelow howner (g.draft visited path n)
  refine ⟨{ drafts := putBelow ds.drafts owner (g.draft visited path n)
            byPath := ds.byPath.insert path ds.drafts.size }, ?placed,
            ⟨?size_le, ?owner_eq, ?others, ?byPath⟩,
    size_putBelow .., ?last, Dict.find?_insert_self ..⟩
  case placed => rw [place_of_ne hne, hfind, Option.map_some]
  case size_le =>
    rw [size_putBelow]
    exact Nat.le_succ _
  case owner_eq => rw [hget, if_pos rfl]
  case others =>
    intro i hi hio
    rw [hget, if_neg hio, if_neg (Nat.ne_of_lt hi)]
  case byPath =>
    intro q hq
    -- The path of the draft is longer than that of its owner, so no shorter path is hidden.
    have hshort := Path.parent_length_lt hne
    rw [Dict.find?_insert, if_neg]
    rintro rfl
    omega
  case last => rw [hget, if_neg (Nat.ne_of_gt howner), if_pos rfl]

/-- A draft, what is put below it, and what is put beside it make up the
portraits of a tree and those beside it. -/
theorem Depicts.cons {ds₃ : Drafts} {starts₃ : List Nat} (howner : owner < ds.drafts.size)
    (hsize : ds₁.drafts.size = ds.drafts.size + 1)
    (hnew : ds₁.drafts[ds.drafts.size]? = some (g.draft visited path n))
    (hbelow : Extended ds₁ ds₂ path ds.drafts.size starts₂)
    (hbranches : Depicts g visited ds₁ ds₂ starts₂ branches)
    (hbeside : Extended ds₂ ds₃ p owner starts₃) (hrest : Depicts g visited ds₂ ds₃ starts₃ rest) :
    Depicts g visited ds ds₃ (ds.drafts.size :: starts₃) (.node path n branches :: rest) := by
  intro drafts hdrafts fuel hfuel
  rw [visits_cons, List.length_cons, List.length_append] at hfuel
  have hle₂ := hbelow.size_le
  have hle₃ := hbeside.size_le
  -- What is put beside the new draft changes no draft added so far.
  have hkept : ∀ j, ds.drafts.size ≤ j → j < ds₂.drafts.size → drafts[j]? = ds₂.drafts[j]? := by
    intro j hj hlt
    rw [hdrafts j hj (Nat.lt_of_lt_of_le hlt hle₃), hbeside.others j hlt (by omega)]
  obtain ⟨fuel, rfl⟩ : ∃ k, fuel = k + 1 := ⟨fuel - 1, by omega⟩
  have hshownBelow := hbranches drafts (fun j hj hlt => hkept j (by omega) hlt) fuel (by omega)
  have hshownBeside := hrest drafts (fun j hj hlt => hdrafts j (by omega) hlt) (fuel + 1) (by omega)
  have hnode : drafts[ds.drafts.size]? =
      some { g.draft visited path n with children := starts₂ } := by
    rw [hkept _ (Nat.le_refl _) (by omega), hbelow.owner_eq, hnew]
    rfl
  have hfirst : finish drafts (fuel + 1) ds.drafts.size =
      some ((g.draft visited path n).complete (portraits g visited branches)) := by
    rw [finish, hnode, ← hshownBelow]
    rfl
  rw [portraits_cons, List.filterMap_cons, hfirst, hshownBeside]

/-- The drafts of a legible forest are put below the draft at its path,
and there they make up its portraits. -/
theorem exists_foldlM_place (hlegible : Legible p forest) (hfind : ds.byPath.find? p = some owner)
    (howner : owner < ds.drafts.size) :
    ∃ ds' starts, (visits forest).foldlM (place g visited) ds = some ds' ∧
      Extended ds ds' p owner starts ∧ Depicts g visited ds ds' starts forest := by
  induction forest using forest_induction generalizing p ds owner with
  | nil =>
    refine ⟨ds, [], by simp, ⟨Nat.le_refl _, by simp, fun _ _ _ => rfl, fun _ _ => rfl⟩, ?_⟩
    intro drafts _ fuel _
    simp
  | cons path n branches rest ihBranches ihRest =>
    obtain ⟨⟨hne, rfl⟩, hbranches, hrest⟩ := legible_cons.mp hlegible
    have hlength := Nat.le_of_lt (Path.parent_length_lt hne)
    obtain ⟨ds₁, hplace, hext₁, hsize₁, hlast, hfind₁⟩ :=
      @exists_place _ g visited _ _ _ hne hfind howner n
    obtain ⟨ds₂, starts₂, hfold₂, hext₂, hdepicts₂⟩ := ihBranches hbranches hfind₁ (by omega)
    -- What is put below the new draft is out of the way of its siblings.
    have hinside := hext₁.inside hext₂ howner (Nat.le_refl _) hlength
    have howner₂ := Nat.lt_of_lt_of_le howner hinside.size_le
    obtain ⟨ds₃, starts₃, hfold₃, hext₃, hdepicts₃⟩ :=
      ihRest hrest (by rw [hinside.byPath _ (Nat.le_refl _), hfind]) howner₂
    refine ⟨ds₃, ds.drafts.size :: starts₃, ?_, hinside.trans hext₃,
      .cons howner hsize₁ hlast hext₂ hdepicts₂ hext₃ hdepicts₃⟩
    rw [visits_cons, List.foldlM_cons, hplace]
    show ((visits branches ++ visits rest).foldlM (place g visited) ds₁ : Option Drafts) = some ds₃
    rw [List.foldlM_append, hfold₂]
    exact hfold₃

/-- A description files the walk and finishes the draft of the root. -/
theorem describe_eq (g : Graph β) (root : NodeId) :
    g.describe root = ((g.walk root).foldlM (place g (g.walk root)) {}).bind fun ds =>
      (ds.byPath.find? []).bind (finish ds.drafts (ds.drafts.size + 1)) := rfl

/-! ### Drafts wherever they are put -/

/-- What is known of the drafts of the visits done so far, wherever they
were put. -/
structure Filed (done : List (Bytes × NodeId)) (ds : Drafts) : Prop where
  size : ds.drafts.size = done.length
  named : ∀ (i : Nat) (d : Draft), ds.drafts[i]? = some d →
    ∃ e : Bytes × NodeId, done[i]? = some e ∧ d.path = Path.display e.1
  found : ∀ (q : Bytes) (i : Nat), ds.byPath.find? q = some i → ∃ e : Bytes × NodeId,
    done[i]? = some e ∧ e.1 = q
  placed : ∀ e ∈ done, (ds.byPath.find? e.1).isSome
  /-- A draft comes after the one it is put below, whose path is the one its
  own is cut back to. -/
  child : ∀ (i : Nat) (d : Draft) (c : Nat), ds.drafts[i]? = some d → c ∈ d.children →
    i < c ∧ ∃ e e' : Bytes × NodeId, done[i]? = some e ∧ done[c]? = some e' ∧ e'.1 ≠ [] ∧
    e.1 = Path.parent e'.1
  /-- Every draft is put below at most one other, and once. -/
  once : ∃ tops : List Nat, (ds.drafts.toList.flatMap (·.children) ++ tops).Perm
    (List.range done.length)

/-- At first nothing is filed. -/
theorem filed_empty : Filed [] {} where
  size := rfl
  named i d h := by simp at h
  found q i h := by simp at h
  placed e h := by simp at h
  child i d c h := by simp at h
  once := ⟨[], by simp⟩

/-- One child more makes one more in all. -/
theorem perm_flatMap_children_modify (l : List Draft) {i : Nat} (hi : i < l.length) (c : Nat) :
    ((l.modify i fun d => { d with children := d.children ++ [c] }).flatMap (·.children)).Perm
      (l.flatMap (·.children) ++ [c]) := by
  induction l generalizing i with
  | nil => exact absurd hi (Nat.not_lt_zero _)
  | cons d rest ih =>
    cases i with
    | zero =>
      rw [List.modify_zero_cons, List.flatMap_cons, List.flatMap_cons, List.append_assoc,
        List.append_assoc]
      exact List.Perm.append_left _ List.perm_append_comm
    | succ i =>
      rw [List.modify_succ_cons, List.flatMap_cons, List.flatMap_cons, List.append_assoc]
      exact List.Perm.append_left _ (ih (Nat.lt_of_succ_lt_succ hi))

variable {done : List (Bytes × NodeId)} {e : Bytes × NodeId}

/-- A list keeps its members when it is continued. -/
private theorem getElem?_append_of_some {α : Type} {l : List α} {i : Nat} {a : α}
    (h : l[i]? = some a) (l' : List α) :
    (l ++ l')[i]? = some a := by
  rw [List.getElem?_append_left (List.getElem?_eq_some_iff.mp h).1, h]

/-- There is a draft for each visit. -/
theorem Filed.lt_size (h : Filed done ds) (hi : done[i]? = some e) : i < ds.drafts.size := by
  rw [h.size]
  exact (List.getElem?_eq_some_iff.mp hi).1

/-- What was put below a draft is still below it after one more visit. -/
theorem Filed.child_append (h : Filed done ds) (e₁ : Bytes × NodeId) {o : Draft} {c : Nat}
    (ho : ds.drafts[i]? = some o) (hc : c ∈ o.children) :
    i < c ∧ ∃ e e' :
    Bytes × NodeId, (done ++ [e₁])[i]? = some e ∧ (done ++ [e₁])[c]? = some e' ∧ e'.1 ≠ [] ∧
      e.1 = Path.parent e'.1 := by
  obtain ⟨hlt, e, e', he, he', hcut⟩ := h.child i o c ho hc
  exact ⟨hlt, e, e', getElem?_append_of_some he _, getElem?_append_of_some he' _, hcut⟩

/-- A new path leads to the new draft. -/
theorem Filed.found_insert (h : Filed done ds) (e : Bytes × NodeId) (q : Bytes) (i : Nat)
    (hi : (ds.byPath.insert e.1 ds.drafts.size).find? q = some i) :
    ∃ e', (done ++ [e])[i]? = some e' ∧ e'.1 = q := by
  rw [Dict.find?_insert] at hi
  split at hi
  next hq =>
    cases hi
    exact ⟨e, by simp [h.size], hq.symm⟩
  next =>
    obtain ⟨e', he', hpath⟩ := h.found q i hi
    exact ⟨e', getElem?_append_of_some he' _, hpath⟩

/-- What was filed stays filed, and so is the new entry. -/
theorem Filed.placed_insert (h : Filed done ds) (e : Bytes × NodeId) :
    ∀ e' ∈ done ++ [e], ((ds.byPath.insert e.1 ds.drafts.size).find? e'.1).isSome := by
  intro e' he'
  rw [Dict.find?_insert]
  split
  next => rfl
  next hne =>
    refine h.placed e' ((List.mem_append.mp he').resolve_right fun hlast => hne ?_)
    rw [List.mem_singleton.mp hlast]

/-- A draft that is put below nothing is filed. -/
theorem Filed.step_nil (h : Filed done ds) (hplace : place g visited ds ([], n) = some ds₁) :
    Filed (done ++ [([], n)]) ds₁ := by
  rw [place_nil] at hplace
  cases hplace
  obtain ⟨tops, hperm⟩ := h.once
  -- A draft is one that was there, or the new one.
  have hget : ∀ i d, (ds.drafts.push (g.draft visited [] n))[i]? = some d →
      ds.drafts[i]? = some d ∨ (i = ds.drafts.size ∧ d = g.draft visited [] n) := by
    intro i d hd
    rw [Array.getElem?_push] at hd
    split at hd
    next hi => exact .inr ⟨hi, (Option.some.inj hd).symm⟩
    next => exact .inl hd
  refine ⟨by simp [h.size], fun i d hd => ?named, h.found_insert ([], n), h.placed_insert ([], n),
    fun i d c hd hc => ?child, tops ++ [ds.drafts.size], ?once⟩
  case named =>
    rcases hget i d hd with hd | ⟨rfl, rfl⟩
    · obtain ⟨e, he, hpath⟩ := h.named i d hd
      exact ⟨e, getElem?_append_of_some he _, hpath⟩
    · exact ⟨([], n), by simp [h.size], rfl⟩
  case child =>
    rcases hget i d hd with hd | ⟨rfl, rfl⟩
    · exact h.child_append _ hd hc
    · cases hc
  case once =>
    have hnone : (g.draft visited [] n).children = [] := rfl
    rw [List.length_append, List.length_singleton, List.range_succ, ← h.size, Array.toList_push,
      List.flatMap_append, List.flatMap_singleton, hnone, List.append_nil, ← List.append_assoc]
    exact (h.size ▸ hperm).append_right _

/-- A draft that is put below another is filed. -/
theorem Filed.step_of_ne (h : Filed done ds) (hne : path ≠ [])
    (hplace : place g visited ds (path, n) = some ds₁) :
    Filed (done ++ [(path, n)]) ds₁ := by
  rw [place_of_ne hne] at hplace
  obtain ⟨owner, hfind, rfl⟩ := Option.map_eq_some_iff.mp hplace
  obtain ⟨tops, hperm⟩ := h.once
  obtain ⟨eo, heo, hcut⟩ := h.found _ _ hfind
  have howner := h.lt_size heo
  have hlast : (done ++ [(path, n)])[ds.drafts.size]? = some (path, n) := by simp [h.size]
  -- A draft is as it was, but for the owner's new child, or it is new.
  have hget : ∀ i d, (putBelow ds.drafts owner (g.draft visited path n))[i]? = some d →
      (∃ o, ds.drafts[i]? = some o ∧ d.path = o.path ∧
        (d.children = o.children ∨ i = owner ∧ d.children = o.children ++ [ds.drafts.size])) ∨
      (i = ds.drafts.size ∧ d = g.draft visited path n) := by
    intro i d hd
    rw [getElem?_putBelow howner] at hd
    split at hd
    next hi =>
      obtain ⟨o, ho, rfl⟩ := Option.map_eq_some_iff.mp hd
      exact .inl ⟨o, ho, rfl, .inr ⟨hi, rfl⟩⟩
    next =>
      split at hd
      next hi => exact .inr ⟨hi, (Option.some.inj hd).symm⟩
      next => exact .inl ⟨d, hd, rfl, .inl rfl⟩
  refine ⟨by simp [h.size], fun i d hd => ?named, h.found_insert (path, n),
    h.placed_insert (path, n), fun i d c hd hc => ?child, tops, ?once⟩
  case named =>
    rcases hget i d hd with ⟨o, ho, hdo, _⟩ | ⟨rfl, rfl⟩
    · obtain ⟨e, he, hpath⟩ := h.named i o ho
      exact ⟨e, getElem?_append_of_some he _, hdo.trans hpath⟩
    · exact ⟨_, hlast, rfl⟩
  case child =>
    rcases hget i d hd with ⟨o, ho, _, hsame | ⟨rfl, hmore⟩⟩ | ⟨rfl, rfl⟩
    · exact h.child_append _ ho (hsame ▸ hc)
    · rw [hmore, List.mem_append, List.mem_singleton] at hc
      rcases hc with hc | rfl
      · exact h.child_append _ ho hc
      · exact ⟨howner, eo, (path, n), getElem?_append_of_some heo _, hlast, hne, hcut⟩
    · cases hc
  case once =>
    have howner' : owner < (ds.drafts.push (g.draft visited path n)).toList.length := by
      rw [Array.length_toList, Array.size_push]
      exact Nat.lt_succ_of_lt howner
    have hmodify := perm_flatMap_children_modify _ howner' ds.drafts.size
    have hnone : (g.draft visited path n).children = [] := rfl
    rw [← Array.toList_modify] at hmodify
    rw [Array.toList_push, List.flatMap_append, List.flatMap_singleton, hnone,
      List.append_nil] at hmodify
    rw [List.length_append, List.length_singleton, List.range_succ, ← h.size]
    refine (hmodify.append_right tops).trans ?_
    -- The new number changes places with those that are below no draft.
    have hswap : (ds.drafts.toList.flatMap (·.children) ++ [ds.drafts.size] ++ tops).Perm
        (ds.drafts.toList.flatMap (·.children) ++ tops ++ [ds.drafts.size]) := by
      rw [List.append_assoc, List.append_assoc]
      exact List.perm_append_comm.append_left _
    exact hswap.trans ((h.size ▸ hperm).append_right _)

/-- The draft of one more visit is filed, too. -/
theorem Filed.step (h : Filed done ds) (hplace : place g visited ds e = some ds₁) :
    Filed (done ++ [e]) ds₁ := by
  obtain ⟨path, n⟩ := e
  by_cases hne : path = []
  · subst hne
    exact h.step_nil hplace
  · exact h.step_of_ne hne hplace

/-- Filing entries one after the other keeps the drafts in order. -/
theorem Filed.run {rest : List (Bytes × NodeId)} (h : Filed done ds)
    (hfold : rest.foldlM (place g visited) ds = some ds₁) : Filed (done ++ rest) ds₁ := by
  induction rest generalizing done ds with
  | nil =>
    cases hfold
    rwa [List.append_nil]
  | cons e rest ih =>
    rw [List.foldlM_cons] at hfold
    obtain ⟨ds', hplace, hrest⟩ := Option.bind_eq_some_iff.mp hfold
    rw [← List.singleton_append, ← List.append_assoc]
    exact ih (h.step hplace) hrest

/-- A walk whose names are clear is described as it went. -/
theorem describe_of_legible {seen : List NodeId}
    (h : Walks g [] [([], root)] [.node [] root branches] seen) (hlegible : Legible [] branches) :
    g.describe root = some ((g.draft (g.walk root) [] root).complete
      (portraits g (g.walk root) branches)) := by
  have hwalk := h.walk_eq_cons
  rw [describe_eq]
  generalize hvisited : g.walk root = visited
  rw [hvisited] at hwalk
  -- The root is placed first, and everything below it finds its parent there.
  obtain ⟨ds, starts, hfold, hext, hdepicts⟩ := @exists_foldlM_place _ g visited
    { drafts := #[g.draft visited [] root], byPath := ({} : Dict Bytes Nat).insert [] 0 }
    [] 0 branches hlegible (Dict.find?_insert_self ..) (Nat.zero_lt_one)
  have hall : visited.foldlM (place g visited) ({} : Drafts) = some ds := by
    calc visited.foldlM (place g visited) ({} : Drafts)
        = (([], root) :: visits branches).foldlM (place g visited) {} := by rw [← hwalk]
      _ = some ds := hfold
  have hsize : ds.drafts.size = visited.length := by
    rw [(filed_empty.run hall).size, List.nil_append]
  have htop : ds.byPath.find? [] = some 0 :=
    (hext.byPath [] (Nat.le_refl _)).trans (Dict.find?_insert_self ..)
  have hfirst : ds.drafts[0]? = some { g.draft visited [] root with children := starts } := by
    rw [hext.owner_eq]
    rfl
  -- There are as many drafts as visits, which is fuel enough to finish each one.
  have hstarts : starts.filterMap (finish ds.drafts ds.drafts.size) =
      portraits g visited branches := by
    refine hdepicts ds.drafts (fun _ _ _ => rfl) _ ?_
    rw [hsize, hwalk]
    exact Nat.le_succ _
  rw [hall, Option.bind_some, htop, Option.bind_some, finish, hfirst, ← hstarts]
  rfl

end Graph

end ObjectBridge

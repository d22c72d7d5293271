import ObjectBridge.Builtin.Behaviour
import ObjectBridge.Proofs.Graph.Assemble
import ObjectBridge.Proofs.Graph.Drafts
import ObjectBridge.Proofs.Manifest.Reordering

/-!
# `ObjectBridge.Proofs.Graph.Canonical`: describing what was assembled

The description of an assembled graph is a picture of its manifest, with
siblings in the order of their names (`describe_assemble`). So nothing in it
tells in which order siblings were declared, and neither does what is
reported when there is no graph.

A graph does not know that order either: that it mirrors a manifest
(`Mirrors`) is said row by row, so that it mirrors the sorted manifest, too
(`Mirrors.reordered`). There the walk goes over the nodes as they are
declared (`walks_treesOf`).
-/

set_option autoImplicit false

namespace ObjectBridge

namespace Graph

open Namespace (line line_eq_iff Ascending WellNamed wellNamed_cons wellNamed_of_mem_walk walk_cons
    walk_nil mem_walk_cons)
open WalkTree (visits visits_nil visits_cons)

variable {β : Type} {r : Registry β} {m m' : Manifest} {g : Graph β} {root : NodeId}
    {node : Bytes → NodeId}
  {p : Bytes} {l : List Namespace} {e : Bytes × Namespace}

/-! ### Pictures -/

/-- The description of a path, a class and a base, without children. -/
def card (r : Registry β) (line : Bytes × Bytes × Bytes) : Draft :=
  let cls := classNamed r line.2.1
  { path := Path.display line.1
    className := cls.map (·.name)
    base := if line.2.2 = [] then none else some line.2.2
    methods := (cls.map (·.methodNames)).getD []
    properties := (cls.map (·.propertyNames)).getD []
    constructor := (cls.bind (·.construct)).isSome }

/-- One description for each namespace, with those of its children. -/
def pictures (r : Registry β) (p : Bytes) : List Namespace → List Description
  | [] => []
  | ⟨name, className, base, children⟩ :: rest =>
    (card r (Path.join p name, className, base)).complete (pictures r (Path.join p name)
      children) :: pictures r p rest

/-- The description of a manifest as it is written. -/
def picture (r : Registry β) (m : Manifest) : Description :=
  (card r (line ([], m.top))).complete (pictures r [] m.namespaces)

/-- All descriptions in a list of them, each without its children. -/
def cards : List Description → List Draft
  | [] => []
  | .mk path className base methods properties constructor children :: rest =>
    { path, className, base, methods, properties, constructor } :: (cards children ++ cards rest)

/-- The cards of a picture are those of the lines of the walk. -/
theorem cards_pictures : cards (pictures r p l) = (Namespace.walk p l).map fun e =>
  card r (line e) := by
  induction l using Namespace.forest_induction generalizing p with
  | nil => rw [pictures, cards, walk_nil, List.map_nil]
  | cons name className base children rest ihChildren ihRest =>
    rw [pictures, Draft.complete, cards, ihChildren, ihRest, walk_cons, List.map_cons,
      List.map_append]
    rfl

/-- A picture has one description for each row. -/
theorem cards_picture (r : Registry β) (m : Manifest) :
    cards [picture r m] = m.rows.map fun e => card r (line e) := by
  rw [picture, Draft.complete, cards, cards, cards_pictures, List.append_nil, Manifest.rows,
    List.map_cons]
  rfl

/-! ### Walking over namespaces -/

/-- The visits of namespaces in the order they are written, when `node` tells
which node is at a path. -/
def treesOf (node : Bytes → NodeId) (p : Bytes) : List Namespace → List WalkTree
  | [] => []
  | ⟨name, _, _, children⟩ :: rest =>
    .node (Path.join p name) (node (Path.join p name)) (treesOf node (Path.join p name) children) ::
      treesOf node p rest

/-- The trees of namespaces are visited as the namespaces are walked. -/
theorem visits_treesOf : visits (treesOf node p l) = (Namespace.walk p l).map fun e =>
  (e.1, node e.1) := by
  induction l using Namespace.forest_induction generalizing p with
  | nil => rw [treesOf, visits_nil, walk_nil, List.map_nil]
  | cons name className base children rest ihChildren ihRest =>
    rw [treesOf, visits_cons, ihChildren, ihRest, walk_cons, List.map_cons, List.map_append]

/-- The trees of well-named namespaces are legible. -/
theorem legible_treesOf (hl : WellNamed l) : Legible p (treesOf node p l) := by
  induction l using Namespace.forest_induction generalizing p with
  | nil =>
    rw [treesOf]
    exact legible_nil p
  | cons name className base children rest ihChildren ihRest =>
    obtain ⟨hname, _, hchildren, hrest⟩ := wellNamed_cons.mp hl
    rw [treesOf]
    exact legible_cons.mpr ⟨Path.exists_clear_iff.mp ⟨name, rfl, Path.clear_of_isName p hname⟩,
      ihChildren hchildren, ihRest hrest⟩

/-- Where every node is drafted as its namespace is written, so is the whole
forest. -/
theorem portraits_treesOf {visited : List (Bytes × NodeId)}
    (hdraft : ∀ e ∈ Namespace.walk p l, g.draft visited e.1 (node e.1) = card r (line e)) :
    portraits g visited (treesOf node p l) = pictures r p l := by
  induction l using Namespace.forest_induction generalizing p with
  | nil => rw [treesOf, pictures, portraits_nil]
  | cons name className base children rest ihChildren ihRest =>
    have hfirst := hdraft _ (mem_walk_cons.mpr (.inl rfl))
    rw [treesOf, pictures, portraits_cons, hfirst,
      ihChildren fun e he => hdraft e (mem_walk_cons.mpr (.inr (.inl he))),
      ihRest fun e he => hdraft e (mem_walk_cons.mpr (.inr (.inr he)))]
    rfl

/-- The entries below a node at path `p` with the children `l`. -/
def entriesOf (node : Bytes → NodeId) (p : Bytes) (l : List Namespace) : List (Bytes × NodeId) :=
  l.map fun c => (Path.join p c.name, node (Path.join p c.name))

/-- Where every node has the children its namespace has, in the order they
are written, and no two namespaces share a node, that is how the walk
goes. -/
theorem exists_walks_treesOf (hbelow : ∀ e ∈ Namespace.walk p l, g.below e.1 (node e.1) =
    entriesOf node e.1 e.2.children) (hinside : ∀ e ∈ Namespace.walk p l, node e.1 < g.nodes.size)
      (hnodup : ((Namespace.walk p l).map fun e => node e.1).Nodup)
    {seen : List NodeId} (hnew : ∀ e ∈ Namespace.walk p l, node e.1 ∉ seen) :
    ∃ seen', Walks g seen (entriesOf node p l) (treesOf node p l) seen' := by
  induction l using Namespace.forest_induction generalizing p seen with
  | nil =>
    rw [treesOf]
    exact ⟨seen, .stop⟩
  | cons name className base children rest ihChildren ihRest =>
    rw [walk_cons] at hbelow hinside hnodup hnew
    rw [List.map_cons, List.map_append, List.nodup_cons, List.nodup_append, List.mem_append,
      not_or] at hnodup
    obtain ⟨⟨hfirst, hfirst'⟩, hchildren, hrest, hapart⟩ := hnodup
    simp only [List.forall_mem_cons, List.forall_mem_append] at hbelow hinside hnew
    have hnewBelow : ∀ e ∈ Namespace.walk (Path.join p name) children,
        node e.1 ∉ node (Path.join p name) :: seen := by
      intro e he hseen
      rcases List.mem_cons.mp hseen with heq | hseen
      · exact hfirst (heq ▸ List.mem_map_of_mem he)
      · exact hnew.2.1 e he hseen
    obtain ⟨seen₁, hwalkBelow⟩ := ihChildren hbelow.2.1 hinside.2.1 hchildren hnewBelow
    -- What is beside has nodes of its own, so none of them was seen below.
    have hnewBeside : ∀ e ∈ Namespace.walk p rest, node e.1 ∉ seen₁ := by
      intro e he hseen
      rw [hwalkBelow.mem_seen_iff, visits_treesOf, List.map_map] at hseen
      rcases hseen with hseen | hseen
      · rcases List.mem_cons.mp hseen with heq | hseen
        · exact hfirst' (heq ▸ List.mem_map_of_mem he)
        · exact hnew.2.2 e he hseen
      · exact hapart _ hseen _ (List.mem_map_of_mem he) rfl
    obtain ⟨seen', hwalkBeside⟩ := ihRest hbelow.2.2 hinside.2.2 hrest hnewBeside
    rw [treesOf]
    exact ⟨seen', .visit hnew.1 hinside.1 (hbelow.1 ▸ hwalkBelow) hwalkBeside⟩

/-! ### What mirrors a manifest -/

/-- The node that is found at a path. -/
def nodeAt (g : Graph β) (root : NodeId) (path : Bytes) : NodeId := (g.lookup? root path).getD 0

/-- The node at a path is where the path leads. -/
theorem nodeAt_eq {path : Bytes} {n : NodeId} (h : g.lookup? root path = some n) :
    nodeAt g root path = n := by
  rw [nodeAt, h]
  rfl

/-- A graph that mirrors a manifest mirrors it in any order. -/
theorem Mirrors.reordered (h : Mirrors r m g root) (hm : m.Reordered m') : Mirrors r m' g root where
  shows e' he' := by
    obtain ⟨e, he, hline, hnames⟩ := hm.symm.exists_row he'
    obtain ⟨n, hn⟩ := h.shows e he
    obtain ⟨hpath, hclass, hbase⟩ := line_eq_iff.mp hline
    exact ⟨n, hpath ▸ hn.lookup, hclass ▸ hn.cls, hn.children.trans hnames, hbase ▸ hn.no_base,
      hbase ▸ hn.base⟩
  distinct a ha b hb heq := by
    obtain ⟨a', ha', hlineA, _⟩ := hm.symm.exists_row ha
    obtain ⟨b', hb', hlineB, _⟩ := hm.symm.exists_row hb
    have hpathA := (line_eq_iff.mp hlineA).1
    have hpathB := (line_eq_iff.mp hlineB).1
    rw [← hpathA, ← hpathB]
    exact h.distinct a' ha' b' hb' (by rw [hpathA, hpathB, heq])

/-- Each entry of the manifest shows at the node at its path. -/
theorem Mirrors.shows_nodeAt (h : Mirrors r m g root) (he : e ∈ m.rows) :
    Shows r g root e (nodeAt g root e.1) := by
  obtain ⟨n, hn⟩ := h.shows e he
  rw [nodeAt_eq hn.lookup]
  exact hn

/-- Different entries stand at different nodes. -/
theorem Mirrors.nodup_nodeAt (h : Mirrors r m g root) (hwell : WellNamed m.namespaces) :
    (m.rows.map fun e => nodeAt g root e.1).Nodup := by
  have hpaths := Manifest.nodup_rows hwell
  have hcomp : (m.rows.map fun e => nodeAt g root e.1) =
      (m.rows.map Prod.fst).map (nodeAt g root) := by
    rw [List.map_map]
    rfl
  rw [hcomp]
  refine hpaths.map_on fun q hq q' hq' heq => ?_
  obtain ⟨e, he, rfl⟩ := List.mem_map.mp hq
  obtain ⟨e', he', rfl⟩ := List.mem_map.mp hq'
  refine h.distinct e he e' he' ?_
  rw [(h.shows_nodeAt he).lookup, (h.shows_nodeAt he').lookup, heq]

/-- What is below the node of a row are the nodes of its children, in the
order of their names. -/
theorem Mirrors.below_nodeAt (h : Mirrors r m g root) (hwell : WellNamed m.namespaces)
    (he : e ∈ m.rows) (hascending : Ascending e.2.children) :
    g.below e.1 (nodeAt g root e.1) = entriesOf (nodeAt g root) e.1 e.2.children := by
  have hnames : g.childNames (nodeAt g root e.1) = e.2.children.map (·.name) := by
    refine (h.shows_nodeAt he).children.eq_of_pairwise (fun _ _ _ _ hlt hgt => ?_)
      (pairwise_childNames g _) (List.pairwise_map.mpr hascending.pairwise)
    exact absurd (Std.lt_trans hlt hgt) Std.lt_irrefl
  rw [below_eq, hnames, List.filterMap_map, entriesOf, ← List.filterMap_eq_map]
  refine List.filterMap_congr fun c hc => ?_
  have hmem := Manifest.child_mem_walk he hc
  have hlookup := (h.shows_nodeAt (List.mem_cons_of_mem ([], m.top) hmem)).lookup
  rw [lookup?_join _ _ _ (wellNamed_of_mem_walk hwell hmem).1, (h.shows_nodeAt he).lookup,
    Option.bind_some] at hlookup
  simp [hlookup]

/-- Among visits to different nodes, each is found by its node. -/
theorem find?_snd {visited : List (Bytes × NodeId)} (hnodup : (visited.map Prod.snd).Nodup)
    {q : Bytes} {n : NodeId} (h : (q, n) ∈ visited) : visited.find? (·.2 = n) = some (q, n) := by
  cases hfind : visited.find? (·.2 = n) with
  | none =>
    have hnone := List.find?_eq_none.mp hfind (q, n) h
    simp at hnone
  | some e =>
    have hn : e.2 = n := by simpa using List.find?_some hfind
    rw [List.inj_on_of_nodup_map hnodup (List.mem_of_find?_eq_some hfind) h hn]

/-- The node of a row is drafted as the row is written. -/
theorem Mirrors.draft_nodeAt (h : Mirrors r m g root) (hwell : WellNamed m.namespaces)
    (hbases : ∀ e ∈ m.rows, e.2.base ≠ [] → e.2.base ∈ m.rows.map Prod.fst)
    {visited : List (Bytes × NodeId)}
    (hvisited : visited = m.rows.map fun e => (e.1, nodeAt g root e.1)) (he : e ∈ m.rows) :
    g.draft visited e.1 (nodeAt g root e.1) = card r (line e) := by
  have hshows := h.shows_nodeAt he
  have hnodup : (visited.map Prod.snd).Nodup := by
    rw [hvisited, List.map_map]
    exact h.nodup_nodeAt hwell
  unfold draft card
  rw [hshows.cls]
  by_cases hnil : e.2.base = []
  · rw [hshows.no_base hnil]
    simp [line, hnil]
  · -- The base is the node of a row, so it is visited under the path of that row.
    obtain ⟨b, hlookup, hb⟩ := hshows.base hnil
    obtain ⟨eb, heb, hpath⟩ := List.mem_map.mp (hbases e he hnil)
    have hmem : (e.2.base, b) ∈ visited := by
      rw [hvisited]
      exact List.mem_map.mpr ⟨eb, heb, by rw [hpath, nodeAt_eq hlookup]⟩
    have hshown : Path.display e.2.base = e.2.base := if_neg hnil
    rw [hb]
    simp [line, hnil, find?_snd hnodup hmem, hshown]

/-- A graph that mirrors a manifest with ascending names is described as the
manifest is written. -/
theorem Mirrors.describe_eq (h : Mirrors r m g root) (hwell : WellNamed m.namespaces)
    (hbases : ∀ e ∈ m.rows, e.2.base ≠ [] → e.2.base ∈ m.rows.map Prod.fst)
    (hinside : ∀ n, Below g root n → n < g.nodes.size) (hascending : Ascending m.namespaces) :
    g.walk root = (m.rows.map fun e => (e.1, nodeAt g root e.1)) ∧
      g.describe root = some (picture r m) := by
  have hroot : nodeAt g root [] = root := nodeAt_eq rfl
  have htop : ([], m.top) ∈ m.rows := List.mem_cons_self
  have hrow : ∀ e ∈ m.walk, e ∈ m.rows := fun e he => List.mem_cons_of_mem _ he
  have hsize : ∀ e ∈ m.rows, nodeAt g root e.1 < g.nodes.size := fun e he =>
    hinside _ (below_of_lookup? (h.shows_nodeAt he).lookup)
  have hnodup := h.nodup_nodeAt hwell
  rw [Manifest.rows, List.map_cons, List.nodup_cons, hroot] at hnodup
  -- The root is the first to be visited, and is no node of a row below it.
  have hnew : ∀ e ∈ m.walk, nodeAt g root e.1 ∉ [root] := by
    intro e he hmem
    rw [List.mem_singleton] at hmem
    exact hnodup.1 (List.mem_map.mpr ⟨e, he, hmem⟩)
  obtain ⟨seen, hwalkBelow⟩ := @exists_walks_treesOf β g (nodeAt g root) [] m.namespaces
    (fun e he => h.below_nodeAt hwell (hrow e he) (hascending.of_mem_walk he))
    (fun e he => hsize e (hrow e he)) hnodup.2 [root] hnew
  have hbelow := h.below_nodeAt hwell htop hascending
  rw [hroot] at hbelow
  have hwalks : Walks g [] [([], root)] [.node [] root (treesOf (nodeAt g root) [] m.namespaces)]
      seen :=
    .visit (by simp) (hroot ▸ hsize _ htop) (hbelow ▸ hwalkBelow) .stop
  have hwalk : g.walk root = m.rows.map fun e => (e.1, nodeAt g root e.1) := by
    rw [hwalks.walk_eq_cons, visits_treesOf, Manifest.rows, List.map_cons, hroot]
    rfl
  -- The walk visits the rows in their order, so the drafts are those of the rows.
  have hdraft := fun e he => h.draft_nodeAt (e := e) hwell hbases hwalk he
  have hfirst := hdraft _ htop
  rw [hroot] at hfirst
  refine ⟨hwalk, ?_⟩
  rw [describe_of_legible hwalks (legible_treesOf hwell), portraits_treesOf fun e he =>
    hdraft e (hrow e he), hfirst]
  rfl

/-! ### What is assembled -/

/-- The names of members are in order. -/
theorem pairwise_card (line : Bytes × Bytes × Bytes) :
    (card r line).methods.Pairwise (· < ·) ∧ (card r line).properties.Pairwise (· < ·) := by
  unfold card
  cases classNamed r line.2.1 with
  | none => exact ⟨.nil, .nil⟩
  | some c => exact ⟨c.methods.pairwise_keys, c.properties.pairwise_keys⟩

/-- The description shows the manifest, with siblings in the order of their
names. -/
structure Canonical (r : Registry β) (m : Manifest) (g : Graph β) (root : NodeId)
    (d : Description) : Prop where
  describes : g.describe root = some d
  shown : d = picture r m.sorted
  sorted : m.Reordered m.sorted ∧ Ascending m.sorted.namespaces
  /-- There is one description for each row, and it has the path, the class
  and the base of that row. -/
  one_each : (cards [d]).Perm (m.rows.map fun e => card r (line e))
  members : ∀ c ∈ cards [d], c.methods.Pairwise (· < ·) ∧ c.properties.Pairwise (· < ·)
  /-- Every base is visited, so that none is external. -/
  inside : ∀ n b, Below g root n → g.base? n = some b → ∃ path, (path, b) ∈ g.walk root

/-- What is assembled is described as the sorted manifest is pictured. -/
theorem canonical_of_assemble {g' : Graph β} (h : assemble r m g = .ok (g', root)) :
    Canonical r m g' root (picture r m.sorted) := by
  obtain ⟨hvalid, _, hfinished⟩ := finished_of_assemble h
  have hsettled := settled_of_assemble h
  have hsorted := m.reordered_sorted
  obtain ⟨_, hwell, _⟩ := (Manifest.isValid_iff m).mp hvalid
  have hwell' := hsorted.wellNamed hwell
  have hascending : Ascending m.sorted.namespaces := Namespace.ascending_sorted hwell
  -- The graph mirrors the manifest as it stands, and so it does with its siblings in order.
  have hmirrors := (hfinished.mirrors hwell (base_mem_rows hvalid)).reordered hsorted
  have hcards : (cards [picture r m.sorted]).Perm (m.rows.map fun e => card r (line e)) := by
    rw [cards_picture]
    have hlines := hsorted.symm.lines_perm.map (card r)
    rwa [List.map_map, List.map_map] at hlines
  exact {
    describes := (hmirrors.describe_eq hwell' (base_mem_rows (hsorted.isValid hvalid))
    hsettled.inside hascending).2
    shown := rfl
    sorted := ⟨hsorted, hascending⟩
    one_each := hcards
    members := fun c hc => by
      obtain ⟨e, _, rfl⟩ := List.mem_map.mp (hcards.mem_iff.mp hc)
      exact pairwise_card (line e)
    inside := fun n b hn hb =>
      have hbelow := hsettled.base_below n b hn hb
      mem_walk_iff.mpr ⟨hbelow, hsettled.inside b hbelow⟩ }

end Graph

/-! ### The order of siblings -/

/-- What an error can be told by. -/
inductive AssemblyError.Kind
  | unknownClass
  | unknownBase
  | cyclicBase

/-- Is the error of that kind? One about several faults is of the kinds of
all of them, and one about an invalid manifest is of none. -/
def AssemblyError.Is : AssemblyError → AssemblyError.Kind → Prop
  | .faults fs, .unknownClass => ∃ name path, .unknownClass name path ∈ fs
  | .faults fs, .unknownBase => ∃ base path, .unknownBase base path ∈ fs
  | .cyclic _, .cyclicBase => True
  | _, _ => False

/-- With a class that is unknown, and no base, the error is of that kind. -/
theorem AssemblyError.is_faults_iff {faults : List AssemblyFault}
    (hclass : ∃ name path, .unknownClass name path ∈ faults)
    (hbase : ∀ base path, .unknownBase base path ∉ faults) (kind : AssemblyError.Kind) :
    (AssemblyError.faults faults).Is kind ↔ kind = .unknownClass := by
  cases kind with
  | unknownClass => exact iff_of_true hclass rfl
  | unknownBase => exact iff_of_false (fun ⟨base, path, hmem⟩ => hbase base path hmem) nofun
  | cyclicBase => exact iff_of_false nofun nofun

namespace Manifest

variable {m m' : Manifest}

/-- Reordering leaves what a namespace falls back on. -/
theorem Reordered.fallsBack (h : m.Reordered m') {p q : Bytes} (hfalls : m.FallsBack p q) :
    m'.FallsBack p q := by
  obtain ⟨hne, e, he, hpath, hbase⟩ := hfalls
  obtain ⟨e', he', hline, _⟩ := h.exists_row he
  obtain ⟨hpath', _, hbase'⟩ := Namespace.line_eq_iff.mp hline
  exact ⟨hne, e', he', hpath'.trans hpath, hbase'.trans hbase⟩

/-- It closes no circle. -/
theorem Reordered.acyclic (h : m.Reordered m') (hm : m.Acyclic) : m'.Acyclic := by
  intro p hcircle
  have hback : ∀ p q, m'.FallsBack p q → m.FallsBack p q := fun _ _ => h.symm.fallsBack
  exact hm p (Relation.TransGen.mono hback p p hcircle)

/-- It asks for no other classes. -/
theorem Reordered.known {β : Type} {r : Registry β} (h : m.Reordered m')
    (hm : ∀ e ∈ m.rows, Graph.Known r e.2.className) :
    ∀ e ∈ m'.rows, Graph.Known r e.2.className := by
  intro e' he'
  obtain ⟨e, he, hline, _⟩ := h.symm.exists_row he'
  exact (Namespace.line_eq_iff.mp hline).2.1 ▸ hm e he

end Manifest

namespace Graph

variable {β : Type} {r : Registry β} {m m' : Manifest} {g h : Graph β}

/-- Both are built and described alike, or neither is, for a reason of the
same kind. -/
def Alike : Except AssemblyError (Graph β × NodeId) → Except AssemblyError (Graph β × NodeId) → Prop
  | .ok (g, root), .ok (g', root') => g.describe root = g'.describe root'
  | .error e, .error e' => ∀ kind, e.Is kind ↔ e'.Is kind
  | _, _ => False

/-- It makes no difference in which order siblings are declared. -/
theorem alike_assemble (hm : m.Reordered m') : Alike (assemble r m g) (assemble r m' h) := by
  have houtcome := assemble_outcome r m g
  cases hresult : assemble r m g with
  | ok built =>
    obtain ⟨g', root⟩ := built
    obtain ⟨hvalid, hknown, hacyclic⟩ := exists_assemble_iff.mp ⟨g', root, hresult⟩
    obtain ⟨h', root', hresult'⟩ :=
      (exists_assemble_iff (g := h)).mpr ⟨hm.isValid hvalid, hm.known hknown, hm.acyclic hacyclic⟩
    rw [hresult']
    show g'.describe root = h'.describe root'
    rw [(canonical_of_assemble hresult).describes, (canonical_of_assemble hresult').describes,
      hm.sorted_eq hvalid]
  | error err =>
    rw [hresult] at houtcome
    -- Reordering keeps what each refusal goes by, so the other order is refused for the same
    -- reason.
    cases houtcome with
    | invalid hinvalid =>
      have hresult' : assemble r m' h = .error (.invalid m'.problems) := if_pos fun hvalid =>
        hinvalid (hm.symm.isValid hvalid)
      rw [hresult']
      exact fun kind => Iff.rfl
    | unknown hvalid hunknown hclass hbase =>
      have hunknown' : ∃ e ∈ m'.rows, ¬ Known r e.2.className := by
        by_contra hknown
        push Not at hknown
        obtain ⟨e, he, hun⟩ := hunknown
        exact hun (hm.symm.known hknown e he)
      obtain ⟨faults', hresult', hclass', hbase'⟩ :=
        assemble_of_not_known h (hm.isValid hvalid) hunknown'
      rw [hresult']
      intro kind
      rw [AssemblyError.is_faults_iff hclass hbase, AssemblyError.is_faults_iff hclass' hbase']
    | cyclic hvalid hknown hcyclic path =>
      obtain ⟨path', hresult'⟩ := assemble_of_not_acyclic h (hm.isValid hvalid) (hm.known hknown)
          fun hacyclic =>
        hcyclic (hm.symm.acyclic hacyclic)
      rw [hresult']
      exact fun kind => by cases kind <;> exact Iff.rfl

/-- An assembled graph is described as its manifest in canonical form, with
one description for each row and none of them external. Manifests that differ
in the order of siblings come to the same description, or fail alike. -/
theorem describe_assemble (r : Registry β) (m : Manifest) (g : Graph β) :
    (∀ g' root, assemble r m g = .ok (g', root) → ∃ d, Canonical r m g' root d) ∧
    (∀ m', m.Reordered m' → ∀ h : Graph β, Alike (assemble r m g) (assemble r m' h)) :=
  ⟨fun _ _ hassemble => ⟨_, canonical_of_assemble hassemble⟩, fun _ hm _ => alike_assemble hm⟩

/-- The classes that `Manifest.plain` asks for. -/
def plainClasses : Registry Behaviour :=
  .ofList [{ name := .ofString "Plugin" }, { name := .ofString "Utils" }]

/-- `Manifest.plain` with its namespaces the other way round. -/
def turned : Manifest := { Manifest.plain with namespaces := Manifest.plain.namespaces.reverse }

/-- The witness is turned around. -/
theorem reordered_turned : Manifest.plain.Reordered turned :=
  ⟨_, .of_perm (List.reverse_perm _).symm, rfl⟩

/-- Either way the two namespaces are described in the order of their
names. -/
theorem describe_assemble_plain :
    Manifest.plain.Reordered turned ∧ ∃ g root d, assemble plainClasses Manifest.plain {} =
      .ok (g, root) ∧ Canonical plainClasses Manifest.plain g root d ∧
      Alike (.ok (g, root)) (assemble plainClasses turned {}) := by
  have hspec := describe_assemble plainClasses Manifest.plain {}
  have halike := hspec.2 turned reordered_turned {}
  have hok : (assemble plainClasses Manifest.plain {}).isOk = true := by cbv
  cases hassemble : assemble plainClasses Manifest.plain {} with
  | error err =>
    rw [hassemble] at hok
    cases hok
  | ok built =>
    obtain ⟨g, root⟩ := built
    obtain ⟨d, hd⟩ := hspec.1 g root hassemble
    rw [hassemble] at halike
    exact ⟨reordered_turned, g, root, d, rfl, hd, halike⟩

end Graph

end ObjectBridge

import ObjectBridge.Proofs.Graph.Assemble
import ObjectBridge.Proofs.Graph.Chain
import ObjectBridge.Proofs.Script.Moved

/-!
# `ObjectBridge.Proofs.Graph.Relocation`: the same nodes elsewhere

The nodes of every instance stand in one graph. `g.Moved ρ g'` says that the
nodes of the graph `g` stand in `g'` as well, relocated, and with them the
code of their classes; the other nodes of `g'` are of no concern. Every
question about members has the same answer in both. What a manifest is
assembled to is the same as well (`Moved.assemble`), provided that the code in
the registry stays what it is (`Registry.Still`).
-/

set_option autoImplicit false

namespace ObjectBridge

variable {β κ α γ : Type}

namespace Dict

variable [LT κ]

/-- What stands under a key when all values are changed. -/
theorem find?_map [DecidableEq κ] (f : α → γ) (d : Dict κ α) (k : κ) :
    (d.map f).find? k = (d.find? k).map f := lookup_map_snd f k d.entries

/-- Changing the values keeps the keys. -/
@[simp] theorem keys_map (f : α → γ) (d : Dict κ α) : (d.map f).keys = d.keys := by
  simp [keys, map, Function.comp_def]

variable [DecidableLT κ] [DecidableEq κ]

/-- A value may be changed before or after it is put in its place. -/
theorem insertSorted_map (f : α → γ) (k : κ) (v : α) (l : List (κ × α)) :
    (insertSorted k v l).map (fun e => (e.1, f e.2)) =
      insertSorted k (f v) (l.map fun e => (e.1, f e.2)) := by
  induction l with
  | nil => rfl
  | cons e rest ih =>
    simp only [insertSorted, List.map_cons]
    split
    · rfl
    · split
      · rfl
      · rw [List.map_cons, ih]

/-- A value that is inserted may be changed before or after. -/
theorem map_insert [LE κ] [Std.IsLinearOrder κ] [Std.LawfulOrderLT κ] (f : α → γ) (d : Dict κ α)
    (k : κ) (v : α) :
    (d.insert k v).map f = (d.map f).insert k (f v) := by
  unfold insert map
  simp only [insertSorted_map]

end Dict

/-! ### Chains and what is gathered along them -/

namespace Graph

/-- The chain of a node is a trail of bases. -/
theorem chain_eq_trail (g : Graph β) (n : NodeId) :
    g.chain n = trail g.base? (g.nodes.size + 1) (some n) := by
  unfold chain
  generalize g.nodes.size + 1 = fuel
  generalize some n = o
  induction fuel generalizing o with
  | zero => rfl
  | succ fuel ih =>
    cases o with
    | none => rfl
    | some n => exact congrArg (n :: ·) (ih _)

/-- What is no node has no base. -/
theorem base?_of_le (g : Graph β) (n : NodeId) (hn : g.nodes.size ≤ n) : g.base? n = none := by
  rw [base?, node?_of_out (Nat.not_lt.mpr hn)]
  rfl

/-- The names of the members a node has itself. -/
def ownNames (g : Graph β) (n : NodeId) : List Bytes :=
  match g.class? n with
  | some c => c.propertyNames ++ c.methodNames
  | none => []

/-- Gathers a name, unless it was gathered before. -/
def gather (seen : List Bytes) (name : Bytes) : List Bytes :=
  if name ∈ seen then seen else seen ++ [name]

/-- The names of members are gathered along the chain. -/
theorem memberNames_eq_gather (g : Graph β) (n : NodeId) :
    g.memberNames n = ((g.chain n).flatMap g.ownNames).foldl gather [] := rfl

/-- Names that were gathered before are not gathered again. -/
theorem foldl_gather_of_subset {names seen : List Bytes} (h : names ⊆ seen) :
    names.foldl gather seen = seen := by
  induction names with
  | nil => rfl
  | cons name rest ih =>
    obtain ⟨hname, hrest⟩ := List.cons_subset.mp h
    rw [List.foldl_cons, gather, if_pos hname, ih hrest]

/-- No name is lost. -/
theorem mem_foldl_gather {name : Bytes} {names seen : List Bytes} (h : name ∈ names ∨ name ∈ seen) :
    name ∈ names.foldl gather seen := by
  induction names generalizing seen with
  | nil => exact h.resolve_left List.not_mem_nil
  | cons name' rest ih =>
    rw [List.foldl_cons]
    refine ih ?_
    unfold gather
    rcases h with h | h
    · rcases List.mem_cons.mp h with rfl | h
      · right
        split
        · assumption
        · simp
      · exact .inl h
    · right
      split
      · exact h
      · exact List.mem_append_left _ h

/-- What the phases of assembly come to when nothing is wrong. -/
theorem eq_of_assemble {r : Registry β} {m : Manifest} {g g₁ : Graph β} {root : NodeId}
    (hvalid : m.isValid = true) (htop : Known r m.className)
    (h : Graph.assemble r m g = .ok (g₁, root)) :
    root = g.nodes.size ∧
      g₁ = (Graph.setBases root
        (Graph.addNamespaces r root (g.addNode (classNamed r m.className)).1 m.walk).1
        (m.rows.map fun e => (e.1, e.2.base))).1 := by
  rw [assemble_eq g hvalid htop] at h
  dsimp only at h
  split at h
  · cases h
  · split at h
    · cases h
    · split at h <;> cases h
      exact ⟨rfl, rfl⟩

end Graph

/-! ### Relocating -/

section

variable [Relocatable β] (ρ : Relocation)

/-- The property when what its code stores stands elsewhere. -/
def Property.relocate (x : Property β) : Property β where
  get := x.get.map (Relocatable.relocate ρ)
  set := x.set.map (Relocatable.relocate ρ)

/-- The class when what its code stores stands elsewhere. -/
def Class.relocate (c : Class β) : Class β where
  name := c.name
  methods := c.methods.map (·.map (Relocatable.relocate ρ))
  properties := c.properties.map (·.relocate ρ)
  construct := c.construct.map (Relocatable.relocate ρ)

/-- The node when its base and its children stand elsewhere. -/
def Node.relocate (x : Node β) : Node β where
  base := x.base.map ρ.nodes
  cls := x.cls.map (·.relocate ρ)
  children := x.children.map ρ.nodes

/-- What was found when it stands elsewhere. -/
def Graph.Found.relocate : Graph.Found β → Graph.Found β
  | .declared p => .declared (p.relocate ρ)
  | .child n => .child (ρ.nodes n)

/-- The nodes of one graph stand in another one, too, relocated, and the next
nodes of both belong together. -/
def Graph.Moved (g g' : Graph β) : Prop := Placed ρ.nodes (·.relocate ρ) g.nodes g'.nodes

end

/-- A phase of assembly led to graphs that belong together, or failed for the
same reason. -/
inductive Graph.Twin [Relocatable β] (ρ : Relocation) :
    Except AssemblyFault (Graph β) → Except AssemblyFault (Graph β) → Prop
  | ok {g g' : Graph β} (h : g.Moved ρ g') : Twin ρ (.ok g) (.ok g')
  | error (e : AssemblyFault) : Twin ρ (.error e) (.error e)

/-- The code of a registry is the same wherever the storage of native code
stands. -/
def Registry.Still [Relocatable β] (r : Registry β) : Prop :=
  ∀ (ρ : Relocation) (name : Bytes) (c : Class β), r.find? name = some c → c.relocate ρ = c

/-- A class that is found in the registry stays what it is. -/
theorem Registry.Still.classFor [Relocatable β] {r : Registry β} (hstill : r.Still) (ρ : Relocation)
    {name path : Bytes} {cls : Option (Class β)} (h : Graph.classFor r name path = .ok cls) :
    cls.map (·.relocate ρ) = cls := by
  unfold Graph.classFor at h
  split at h
  · cases h
    rfl
  · split at h
    · next c hc =>
      cases h
      exact congrArg some (hstill ρ _ c hc)
    · cases h

namespace Class

variable [Relocatable β] {ρ : Relocation}

/-- A class has the same methods. -/
theorem method?_relocate (c : Class β) (name : Bytes) :
    (c.relocate ρ).method? name = (c.method? name).map (Relocatable.relocate ρ) := by
  unfold method? relocate
  rw [Dict.find?_map]
  obtain _ | _ | code := c.methods.find? name <;> rfl

/-- It declares the same properties. -/
theorem property?_relocate (c : Class β) (name : Bytes) :
    (c.relocate ρ).property? name = (c.property? name).map (·.relocate ρ) :=
  Dict.find?_map _ c.properties name

end Class

namespace Graph.Moved

variable [Relocatable β] {ρ : Relocation} {g g' : Graph β} (hg : g.Moved ρ g')

include hg

/-! ### Reading -/

/-- A node there is the node here, moved. -/
theorem node? (n : NodeId) : g'.node? (ρ.nodes n) = (g.node? n).map (·.relocate ρ) := hg.get n

/-- A node has the same class. -/
theorem class? (n : NodeId) : g'.class? (ρ.nodes n) = (g.class? n).map (·.relocate ρ) := by
  unfold Graph.class?
  rw [hg.node?]
  cases g.node? n <;> rfl

/-- Its base stands where it was moved to. -/
theorem base? (n : NodeId) : g'.base? (ρ.nodes n) = (g.base? n).map ρ.nodes := by
  unfold Graph.base?
  rw [hg.node?]
  cases g.node? n <;> rfl

/-- So do its children. -/
theorem child? (n : NodeId) (name : Bytes) :
    g'.child? (ρ.nodes n) name = (g.child? n name).map ρ.nodes := by
  unfold Graph.child?
  rw [hg.node?]
  cases g.node? n with
  | none => rfl
  | some x => exact Dict.find?_map _ x.children name

/-- A path leads to the same node. -/
theorem lookup? (n : NodeId) (path : Bytes) :
    g'.lookup? (ρ.nodes n) path = (g.lookup? n path).map ρ.nodes := by
  rw [lookup?_eq, lookup?_eq]
  induction Path.names path generalizing n with
  | nil => rfl
  | cons part rest ih =>
    rw [List.foldlM_cons, List.foldlM_cons, hg.child?]
    cases g.child? n part with
    | none => rfl
    | some k => exact ih k

/-! ### Along chains -/

/-- Asking the nodes of a chain one after the other. -/
theorem findSome?_chain {f : NodeId → Option α} {f' : NodeId → Option γ} {move : α → γ}
    (hf : ∀ n, f' (ρ.nodes n) = (f n).map move) (n : NodeId) :
    (g'.chain (ρ.nodes n)).findSome? f' = ((g.chain n).findSome? f).map move := by
  rw [chain_eq_trail, chain_eq_trail]
  exact Placed.findSome?_trail hg (base?_of_le g) hg.base? hf (some n)

/-- A method is found in the same place of the chain. -/
theorem method? (n : NodeId) (name : Bytes) :
    g'.method? (ρ.nodes n) name = (g.method? n name).map (Relocatable.relocate ρ) := by
  refine hg.findSome?_chain (fun n => ?_) n
  rw [hg.class?]
  cases g.class? n with
  | none => rfl
  | some c => exact c.method?_relocate name

/-- So is the declaration of a property. -/
theorem declaration? (n : NodeId) (name : Bytes) :
    g'.declaration? (ρ.nodes n) name = (g.declaration? n name).map (·.relocate ρ) := by
  refine hg.findSome?_chain (fun n => ?_) n
  rw [hg.class?]
  cases g.class? n with
  | none => rfl
  | some c => exact c.property?_relocate name

/-- So is a property, which may be a child. -/
theorem property? (n : NodeId) (name : Bytes) :
    g'.property? (ρ.nodes n) name = (g.property? n name).map (·.relocate ρ) := by
  refine hg.findSome?_chain (fun n => ?_) n
  have hown : ((g'.class? (ρ.nodes n)).bind (·.property? name)) =
      ((g.class? n).bind (·.property? name)).map (·.relocate ρ) := by
    rw [hg.class?]
    cases g.class? n with
    | none => rfl
    | some c => exact c.property?_relocate name
  unfold Graph.ownProperty?
  rw [hown, hg.child?]
  cases (g.class? n).bind (·.property? name) with
  | some p => rfl
  | none => cases g.child? n name <;> rfl

/-- The same methods are there. -/
theorem hasMethod (n : NodeId) (name : Bytes) :
    g'.hasMethod (ρ.nodes n) name = g.hasMethod n name := by
  unfold Graph.hasMethod
  rw [hg.method?, Option.isSome_map]

/-- The same properties are there. -/
theorem hasProperty (n : NodeId) (name : Bytes) :
    g'.hasProperty (ρ.nodes n) name = g.hasProperty n name := by
  unfold Graph.hasProperty
  rw [hg.property?, Option.isSome_map]

/-- A node is constructed by the same code. -/
theorem constructor? (n : NodeId) :
    g'.constructor? (ρ.nodes n) = (g.constructor? n).map (Relocatable.relocate ρ) := by
  unfold Graph.constructor?
  rw [hg.class?]
  cases g.class? n <;> rfl

/-- A node has the same names of its own. -/
theorem ownNames (n : NodeId) : g'.ownNames (ρ.nodes n) = g.ownNames n := by
  unfold Graph.ownNames
  rw [hg.class?]
  cases g.class? n with
  | none => rfl
  | some c => simp [Class.relocate, Class.propertyNames, Class.methodNames]

/-- A chain that runs in a circle is followed further where there are more
nodes, and nothing new is met there. -/
theorem memberNames (n : NodeId) : g'.memberNames (ρ.nodes n) = g.memberNames n := by
  obtain ⟨rest, hchain, hsub⟩ := Placed.trail hg (base?_of_le g) hg.base? (some n)
  rw [memberNames_eq_gather, memberNames_eq_gather, chain_eq_trail, chain_eq_trail,
    ← Option.map_some, hchain, List.flatMap_map]
  simp only [hg.ownNames, List.flatMap_append, List.foldl_append]
  refine foldl_gather_of_subset fun name hname => mem_foldl_gather (.inl ?_)
  obtain ⟨m, hm, hname⟩ := List.mem_flatMap.mp hname
  exact List.mem_flatMap.mpr ⟨m, hsub hm, hname⟩

/-! ### Building -/

/-- The next node comes to the place of the next one. -/
theorem size : ρ.nodes g.nodes.size = g'.nodes.size := Placed.size hg

/-- A node is added to both graphs. -/
theorem addNode (cls : Option (Class β)) :
    (g.addNode cls).1.Moved ρ (g'.addNode (cls.map (·.relocate ρ))).1 :=
  Placed.push hg { cls }

/-- A node is changed in both. -/
theorem modifyNode (n : NodeId) {f f' : Node β → Node β}
    (hf : ∀ x, (f x).relocate ρ = f' (x.relocate ρ)) :
    (g.modifyNode n f).Moved ρ (g'.modifyNode (ρ.nodes n) f') :=
  Placed.modify hg n hf

/-- A node gets a base in both. -/
theorem setBase (n b : NodeId) :
    (g.setBase n (some b)).Moved ρ (g'.setBase (ρ.nodes n) (some (ρ.nodes b))) :=
  hg.modifyNode n fun _ => rfl

/-- A node gets a child in both. -/
theorem addChild (n : NodeId) (name : Bytes) (child : NodeId) :
    (g.addChild n name child).Moved ρ (g'.addChild (ρ.nodes n) name (ρ.nodes child)) :=
  hg.modifyNode n fun x => by
    simp only [Node.relocate, Dict.map_insert]

/-! ### Assembly -/

variable {r : Registry β} (hstill : r.Still) (root : NodeId)

include hstill

/-- A namespace is added to both, or fails in both. -/
theorem addNamespace (path : Bytes) (ns : Namespace) :
    Twin ρ (Graph.addNamespace r root g path ns)
      (Graph.addNamespace r (ρ.nodes root) g' path ns) := by
  unfold Graph.addNamespace
  rw [hg.lookup?]
  cases g.lookup? root (Path.parent path) with
  | none => exact .error _
  | some parent =>
    dsimp only [Option.map_some]
    cases hcls : classFor r ns.className path with
    | error e => exact .error _
    | ok cls =>
      have hadded := (hg.addNode cls).addChild parent ns.name g.nodes.size
      rw [hstill.classFor ρ hcls, hg.size] at hadded
      exact .ok hadded

/-- All namespaces are added, with the same failures. -/
theorem addNamespaces (es : List (Bytes × Namespace)) :
    (Graph.addNamespaces r root g es).1.Moved ρ (Graph.addNamespaces r (ρ.nodes root) g' es).1 ∧
      (Graph.addNamespaces r (ρ.nodes root) g' es).2 = (Graph.addNamespaces r root g es).2 := by
  induction es generalizing g g' with
  | nil => exact ⟨hg, rfl⟩
  | cons e rest ih =>
    obtain ⟨path, ns⟩ := e
    have hstep := hg.addNamespace hstill root path ns
    rw [Graph.addNamespaces, Graph.addNamespaces]
    generalize Graph.addNamespace r root g path ns = a at hstep
    generalize Graph.addNamespace r (ρ.nodes root) g' path ns = b at hstep
    cases hstep with
    | ok h => exact ih h
    | error e =>
      obtain ⟨hmoved, hfaults⟩ := ih hg
      exact ⟨hmoved, congrArg (e :: ·) hfaults⟩

omit hstill

/-- A base is set by its path in both, or fails in both. -/
theorem setBaseAt (path base : Bytes) :
    Twin ρ (Graph.setBaseAt root g path base) (Graph.setBaseAt (ρ.nodes root) g' path base) := by
  unfold Graph.setBaseAt
  split
  · exact .ok hg
  · rw [hg.lookup?, hg.lookup?]
    cases g.lookup? root base with
    | none => exact .error _
    | some b =>
      cases g.lookup? root path with
      | none => exact .error _
      | some n => exact .ok (hg.setBase n b)

/-- All bases are set, with the same failures. -/
theorem setBases (es : List (Bytes × Bytes)) :
    (Graph.setBases root g es).1.Moved ρ (Graph.setBases (ρ.nodes root) g' es).1 ∧
      (Graph.setBases (ρ.nodes root) g' es).2 = (Graph.setBases root g es).2 := by
  induction es generalizing g g' with
  | nil => exact ⟨hg, rfl⟩
  | cons e rest ih =>
    obtain ⟨path, base⟩ := e
    have hstep := hg.setBaseAt root path base
    rw [Graph.setBases, Graph.setBases]
    generalize Graph.setBaseAt root g path base = a at hstep
    generalize Graph.setBaseAt (ρ.nodes root) g' path base = b at hstep
    cases hstep with
    | ok h => exact ih h
    | error e =>
      obtain ⟨hmoved, hfaults⟩ := ih hg
      exact ⟨hmoved, congrArg (e :: ·) hfaults⟩

/-- A manifest that can be assembled in one of the graphs can be assembled in
the other one, and comes to the same. -/
theorem assemble (hstill : r.Still) {m : Manifest} {g₁ : Graph β} {root : NodeId}
    (h : Graph.assemble r m g = .ok (g₁, root)) :
    ∃ g₁', Graph.assemble r m g' = .ok (g₁', ρ.nodes root) ∧ g₁.Moved ρ g₁' := by
  -- Whether a manifest can be assembled does not depend on the other nodes.
  have hcan := exists_assemble_iff.mp ⟨g₁, root, h⟩
  obtain ⟨g₁', root', h'⟩ := (exists_assemble_iff (g := g')).mpr hcan
  obtain ⟨hvalid, hknown, _⟩ := hcan
  have htop : Known r m.className := hknown _ List.mem_cons_self
  obtain ⟨rfl, rfl⟩ := eq_of_assemble hvalid htop h
  obtain ⟨rfl, rfl⟩ := eq_of_assemble hvalid htop h'
  have hclass := hstill.classFor ρ (classFor_of_known htop [])
  have hstart := hg.addNode (classNamed r m.className)
  rw [hclass] at hstart
  have hadded := (hstart.addNamespaces hstill g.nodes.size m.walk).1
  rw [hg.size] at hadded
  have hbased := (hadded.setBases g.nodes.size (m.rows.map fun e => (e.1, e.2.base))).1
  rw [hg.size] at hbased
  exact ⟨_, hg.size ▸ h', hbased⟩

end Graph.Moved

/-! ### Graphs that nothing leads out of -/

/-- A node leads to the first `n` nodes only, and its class is the same
wherever the storage of native code stands. -/
structure Node.Within [Relocatable β] (n : Nat) (x : Node β) : Prop where
  base : ∀ b, x.base = some b → b < n
  children : ∀ e ∈ x.children.entries, e.2 < n
  cls : ∀ ρ : Relocation, x.cls.map (·.relocate ρ) = x.cls

/-- Every node leads to nodes of the graph only. -/
def Graph.Closed [Relocatable β] (g : Graph β) : Prop := ∀ x ∈ g.nodes, x.Within g.nodes.size

/-- Such a node is relocated in the same way by all relocations that agree
where it leads to. -/
theorem Node.Within.relocate_congr [Relocatable β] {ρ σ : Relocation} {n : Nat} {x : Node β}
    (hx : x.Within n) (hagree : ∀ i < n, ρ.nodes i = σ.nodes i) : x.relocate ρ = x.relocate σ := by
  obtain ⟨base, cls, children⟩ := x
  have hbase : base.map ρ.nodes = base.map σ.nodes := Option.map_congr fun b hb =>
    hagree b (hx.base b hb)
  have hchildren : children.map ρ.nodes = children.map σ.nodes := by
    unfold Dict.map
    congr 1
    exact List.map_congr_left fun e he => congrArg (e.1, ·) (hagree e.2 (hx.children e he))
  have hcls : cls.map (·.relocate ρ) = cls.map (·.relocate σ) := (hx.cls ρ).trans (hx.cls σ).symm
  simp only [Node.relocate, hbase, hcls, hchildren]

/-- What is inside stays inside as the graph grows. -/
theorem Node.Within.mono [Relocatable β] {m n : Nat} {x : Node β} (hx : x.Within m) (hmn : m ≤ n) :
    x.Within n where
  base b hb := (hx.base b hb).trans_le hmn
  children e he := (hx.children e he).trans_le hmn
  cls := hx.cls

namespace Graph.Closed

variable [Relocatable β] {r : Registry β} {g : Graph β} (hg : g.Closed)

include hg

/-- Children are nodes of the graph. -/
theorem child_lt {n c : NodeId} {name : Bytes} (hc : g.child? n name = some c) :
    c < g.nodes.size := by
  obtain ⟨x, hx, hc⟩ := Option.bind_eq_some_iff.mp hc
  exact (hg x (Array.mem_of_getElem? hx)).children _ ((Dict.mem_entries_iff _ _ _).mpr hc)

/-- A path does not lead out of the graph. -/
theorem lookup_lt {n c : NodeId} {path : Bytes} (hn : n < g.nodes.size)
    (hc : g.lookup? n path = some c) :
    c < g.nodes.size := by
  rw [lookup?_eq] at hc
  generalize Path.names path = parts at hc
  induction parts generalizing n with
  | nil =>
    cases hc
    exact hn
  | cons part rest ih =>
    obtain ⟨k, hk, hc⟩ := Option.bind_eq_some_iff.mp hc
    exact ih (hg.child_lt hk) hc

/-- A node without links does not lead out of the graph. -/
theorem addNode {cls : Option (Class β)} (hcls : ∀ ρ : Relocation, cls.map (·.relocate ρ) = cls) :
    (g.addNode cls).1.Closed := by
  intro x hx
  rw [size_addNode]
  obtain hx | hx := Array.mem_push.mp hx
  · exact (hg x hx).mono (Nat.le_succ _)
  · subst hx
    refine ⟨fun b hb => ?_, fun e he => ?_, hcls⟩
    · cases hb
    · exact absurd he List.not_mem_nil

/-- One node is changed. -/
theorem modifyNode (n : NodeId) {f : Node β → Node β}
    (hf : ∀ x, x.Within g.nodes.size → (f x).Within g.nodes.size) :
    (g.modifyNode n f).Closed := by
  intro x hx
  obtain ⟨i, hi, rfl⟩ := Array.mem_iff_getElem.mp hx
  simp only [Graph.modifyNode, Array.getElem_modify, Array.size_modify]
  split
  · exact hf _ (hg _ (Array.getElem_mem _))
  · exact hg _ (Array.getElem_mem _)

/-- Nor does a base that is in it. -/
theorem setBase (n : NodeId) {b : NodeId} (hb : b < g.nodes.size) : (g.setBase n (some b)).Closed :=
  hg.modifyNode n fun _ hx => { hx with base := fun _ heq => Option.some.inj heq ▸ hb }

/-- Nor does a child that is in it. -/
theorem addChild (n : NodeId) (name : Bytes) {child : NodeId} (hchild : child < g.nodes.size) :
    (g.addChild n name child).Closed :=
  hg.modifyNode n fun x hx =>
    { hx with
      children := fun e he => by
        rcases Dict.mem_insertSorted he with rfl | he
        · exact hchild
        · exact hx.children e he }

/-- Namespaces are linked with each other only. -/
theorem addNamespaces (hstill : r.Still) {root : NodeId} (hroot : root < g.nodes.size)
    (es : List (Bytes × Namespace)) :
    (Graph.addNamespaces r root g es).1.Closed ∧
      root < (Graph.addNamespaces r root g es).1.nodes.size := by
  induction es generalizing g with
  | nil => exact ⟨hg, hroot⟩
  | cons e rest ih =>
    obtain ⟨path, ns⟩ := e
    rw [Graph.addNamespaces]
    cases hadd : Graph.addNamespace r root g path ns with
    | error fault => exact ih hg hroot
    | ok g' =>
      unfold Graph.addNamespace at hadd
      split at hadd
      · cases hadd
      · split at hadd
        · cases hadd
        · next parent _ _ cls hcls =>
          cases hadd
          have hnode := hg.addNode fun ρ => hstill.classFor ρ hcls
          have hsize : (g.addNode cls).1.nodes.size = g.nodes.size + 1 := size_addNode g cls
          have hlast : g.nodes.size < (g.addNode cls).1.nodes.size := hsize ▸ Nat.lt_succ_self _
          have hchild := hnode.addChild parent ns.name hlast
          have hlt : root < ((g.addNode cls).1.addChild parent ns.name
              g.nodes.size).nodes.size := by
            rw [size_addChild, hsize]
            exact Nat.lt_succ_of_lt hroot
          exact ih hchild hlt

/-- Bases are looked up in the graph. -/
theorem setBases {root : NodeId} (hroot : root < g.nodes.size) (es : List (Bytes × Bytes)) :
    (Graph.setBases root g es).1.Closed ∧ root < (Graph.setBases root g es).1.nodes.size := by
  induction es generalizing g with
  | nil => exact ⟨hg, hroot⟩
  | cons e rest ih =>
    obtain ⟨path, base⟩ := e
    rw [Graph.setBases]
    cases hset : Graph.setBaseAt root g path base with
    | error fault => exact ih hg hroot
    | ok g' =>
      unfold Graph.setBaseAt at hset
      split at hset
      · cases hset
        exact ih hg hroot
      · split at hset
        · next b n hb hn =>
          cases hset
          refine ih (hg.setBase n (hg.lookup_lt hroot hb)) ?_
          rw [size_setBase]
          exact hroot
        · cases hset

omit hg in
/-- A graph that was assembled alone is closed. -/
theorem of_assemble (hstill : r.Still) {m : Manifest} {root : NodeId}
    (h : Graph.assemble r m {} = .ok (g, root)) : g.Closed ∧ root < g.nodes.size := by
  obtain ⟨hvalid, hknown, _⟩ := exists_assemble_iff.mp ⟨g, root, h⟩
  have htop : Known r m.className := hknown _ List.mem_cons_self
  obtain ⟨rfl, rfl⟩ := eq_of_assemble hvalid htop h
  have hempty : ({} : Graph β).Closed := fun x hx => absurd hx (Array.not_mem_empty x)
  have hstart := hempty.addNode fun ρ => hstill.classFor ρ (classFor_of_known htop [])
  obtain ⟨hadded, hroot⟩ := hstart.addNamespaces hstill Nat.zero_lt_one m.walk
  exact hadded.setBases hroot _

end Graph.Closed

end ObjectBridge

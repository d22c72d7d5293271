import ObjectBridge.Proofs.Bridge.Relocation
import ObjectBridge.Proofs.Plugin.Making

/-!
# `ObjectBridge.Proofs.Plugin.Copy`: sessions that are alike

Two sessions are alike when one is a copy of the other: the session itself,
its runtime, its instance and the proxies, the recorder, the nodes, and every
object of its realm, all under other numbers. A world holds a copy of another
one when everything of the other one stands in it, relocated
(`World.Copies`).

`establish_copy` says what a session is that was established, whatever the
world was before: a copy of the session that is made where nothing else is.
Nothing leads out of a world in which nothing else was made
(`World.Secluded`), so a world with a copy of it holds the same
(`World.Secluded.moved`): what is made next belongs together as well.
-/

set_option autoImplicit false

namespace ObjectBridge

open Script (Heap)

variable {β : Type} [Relocatable β] {B v w : World β} {ρ : Relocation} {s : Nat} {x : Session}
    {config : RuntimeConfig}

/-! ### Copies -/

/-- Everything in `xs` is in `ys`, moved, where it belongs. -/
def Copied {ι : Type} (place : Nat → Nat) (move : ι → ι) (xs ys : Array ι) : Prop :=
  ∀ (i : Nat) (x : ι), xs[i]? = some x → ys[place i]? = some (move x)

/-- The world `w` holds a copy of what sessions have in the world `B`. How
often a session was closed is not part of it: no operation reads that. -/
structure World.Copies (B : World β) (ρ : Relocation) (w : World β) : Prop where
  sessions : ∀ (i : Nat) (x : Session), B.sessions[i]? = some x →
    ∃ n, w.sessions[ρ.sessions i]? = some { x.relocate ρ with closings := n }
  runtimes : Copied ρ.runtimes (·.relocate ρ) B.runtimes w.runtimes
  instances : Copied ρ.instances (·.relocate ρ) B.instances w.instances
  proxies : Copied ρ.proxies (·.relocate ρ) B.proxies w.proxies
  handles : Copied ρ.handles (·.relocate ρ) B.handles w.handles
  recorders : Copied ρ.recorders id B.recorders w.recorders
  nodes : Copied ρ.nodes (·.relocate ρ) B.graph.nodes w.graph.nodes
  objects : Copied ρ.objects (·.relocate ρ) B.heap.objects w.heap.objects
  scopes : Copied ρ.scopes (·.relocate ρ) B.heap.scopes w.heap.scopes

/-- The first session of `B` is, in the world `w`, the session `s`. -/
def World.Stands (B : World β) (s : Nat) (w : World β) : Prop :=
  ∃ ρ, ρ.sessions 0 = s ∧ B.Copies ρ w

/-- What is at its places is copied. -/
theorem Placed.copied {ι : Type} {place : Nat ↪ Nat} {move : ι → ι} {xs ys : Array ι}
    (h : Placed place move xs ys) :
    Copied place move xs ys := by
  intro i x hx
  rw [h.get, hx]
  rfl

/-- One object is copied by putting its copy on top of what is there. -/
theorem copied_push {ι : Type} {move : ι → ι} {below : Array ι} {x y : ι} (hy : y = move x) :
    Copied (addLeftEmbedding below.size) move (#[].push x) (below.push y) := by
  intro i z hz
  obtain ⟨hlt, rfl⟩ := Array.getElem?_eq_some_iff.mp hz
  obtain rfl : i = 0 := Nat.lt_one_iff.mp hlt
  exact Array.getElem?_push_size.trans (congrArg some hy)

/-- It is also copied by putting it where the last one was. -/
theorem copied_putAt {ι : Type} {move : ι → ι} {below : Array ι} {n : Nat}
    (hn : n ≤ below.size) {x y : ι} (hy : y = move x) :
    Copied (addLeftEmbedding n) move (putAt #[] 0 x) (putAt below n y) := by
  intro i z hz
  have hfirst : (#[x] : Array ι)[i]? = some z := hz
  obtain ⟨hlt, rfl⟩ := Array.getElem?_eq_some_iff.mp hfirst
  obtain rfl : i = 0 := Nat.lt_one_iff.mp hlt
  exact (getElem?_putAt hn _).trans (congrArg some hy)

/-! ### Establishing -/

namespace Session

/-- Where the things of a session come to stand that is established under
the number `s`, in the runtime `r`. -/
def above (w : World β) (s r : Nat) : Relocation where
  objects := addLeftEmbedding w.heap.objects.size
  scopes := addLeftEmbedding w.heap.scopes.size
  symbols := addLeftEmbedding w.heap.symbols
  realms := addLeftEmbedding w.realms
  proxies := addLeftEmbedding w.proxies.size
  handles := addLeftEmbedding w.handles.size
  nodes := addLeftEmbedding w.graph.nodes.size
  cells := addLeftEmbedding w.cells.size
  recorders := addLeftEmbedding w.recorders.size
  runtimes := addLeftEmbedding r
  instances := addLeftEmbedding w.instances.size
  sessions := addLeftEmbedding s

omit [Relocatable β] in
/-- Nothing is placed above what there is. -/
theorem placed_above {ι κ : Type} (move : ι → κ) (ys : Array κ) :
    Placed (addLeftEmbedding ys.size) move #[] ys where
  get _ := Array.getElem?_eq_none (Nat.le_add_right _ _)
  next k := congrArg (ys.size + ·) (Nat.zero_add k)

omit [Relocatable β] in
/-- An empty heap has moved on top of any heap. -/
theorem moved_above (w : World β) (s r : Nat) :
    ({} : Heap).Moved (above w s r) False False w.heap where
  objects := placed_above _ _
  scopes := placed_above _ _
  symbols k := congrArg (w.heap.symbols + ·) (Nat.zero_add k)
  bare x hx := absurd hx (Array.not_mem_empty x)
  result := False.elim
  effort := False.elim

omit [Relocatable β] in
/-- The root is bound as it is where nothing else is. -/
theorem rootBound?_above (w : World β) (s r : Nat) (p : Plugin) (config : RuntimeConfig) :
    Option.Rel (fun a b : Heap × Nat => a.1.Moved (above w s r) False False b.1 ∧ b.2 = a.2)
      (rootBound? {} 0 p config 0) (rootBound? w.heap w.realms p config w.proxies.size) := by
  obtain ⟨hheap, hrealm⟩ := (moved_above w s r).newRealm 0 config.console
  have hwhere : w.heap.newRealm w.realms config.console =
      w.heap.newRealm ((above w s r).realms 0) config.console := rfl
  unfold rootBound?
  rw [hwhere]
  generalize ({} : Heap).newRealm 0 config.console = a at hheap hrealm
  generalize w.heap.newRealm ((above w s r).realms 0) config.console = b at hheap hrealm
  obtain ⟨h, realm⟩ := a
  obtain ⟨h', _⟩ := b
  cases hrealm
  -- What is bound is the native object of the next proxy, which is moved along with its number.
  have hproxy : ∀ i, ObjectRef.proxy 0 ≠ .table i := fun i heq => by cases heq
  obtain ⟨hnative, _⟩ := hheap.newNative realm hproxy
  have hexposed : (Runtime.exposed h realm (.proxy 0)).Moved (above w s r) False False
      (Runtime.exposed h' (realm.relocate (above w s r)) (.proxy w.proxies.size)) :=
    { hnative with
      result := False.elim
      effort := False.elim }
  have hbound := hexposed.bound? realm (.ofString p.options.global) h.objects.size
  rw [Script.Key.relocate_ofString] at hbound
  dsimp only
  rw [hheap.size]
  exact hbound

/-- What was established is a copy of what is established where nothing
else is. -/
theorem copies_established (hs : s ≤ v.sessions.size) (hr : x.runtime ≤ v.runtimes.size)
    (config : RuntimeConfig) {graph graph' : Graph β}
    (hgraph : graph.Moved (above v s x.runtime) graph') {heap heap' : Heap}
    (hheap : heap.Moved (above v s x.runtime) False False heap') (root : NodeId) (used : Nat)
    (registries : Array (Registry β)) (m m' : Metrics) :
    (established { registries } 0 { plugin := x.plugin, runtime := 0 } config graph root heap
      used m).Copies (above v s x.runtime)
      (established v s x config graph' ((above v s x.runtime).nodes root) heap' used m') := by
  -- Each table is extended by one entry, or by all that the graph and the heap have.
  constructor
  case sessions =>
    have hcopied : Copied (addLeftEmbedding s)
        (fun z : Session => { z.relocate (above v s x.runtime) with closings := x.closings })
        (putAt #[] 0 { plugin := x.plugin, runtime := 0, inst := some 0 })
        (putAt v.sessions s { x with inst := some v.instances.size }) :=
      copied_putAt hs rfl
    exact fun i z hz => ⟨_, hcopied i z hz⟩
  case runtimes =>
    refine copied_putAt hr ?_
    have hrealm := ((moved_above v s x.runtime).newRealm 0 config.console).2
    rw [show v.heap.newRealm v.realms config.console =
      v.heap.newRealm ((above v s x.runtime).realms 0) config.console from rfl, hrealm]
    rfl
  case instances =>
    refine copied_push ?_
    dsimp only
    cases x.plugin.options.profile <;> rfl
  case proxies => exact copied_push rfl
  case handles => exact (placed_above _ _).copied
  case recorders =>
    unfold established equipped
    dsimp only
    split
    · exact copied_push rfl
    · exact fun i z hz => by cases hz
  case nodes => exact Placed.copied hgraph
  case objects => exact hheap.objects.copied
  case scopes => exact hheap.scopes.copied

variable [Native β]

/-- Whoever makes a session where nothing else is makes the one that was
established. -/
theorem establish_copy (hstill : (v.registries.getD x.plugin.registry {}).Still)
    (hs : s ≤ v.sessions.size) (hr : x.runtime ≤ v.runtimes.size)
    (h : perform (establish s x config) v = (.ok (.ok ()), w)) :
    ∃ B, perform (new x.plugin config) { registries := v.registries } = (.ok (.ok 0), B) ∧
      B.Stands s w := by
  obtain ⟨graph, root, heap, used, m', hassemble, hbound, rfl⟩ := parts_of_establish hs hr h
  obtain ⟨graph₀, root₀, hassemble₀⟩ :=
    (Graph.exists_assemble_iff (g := {})).mpr
      (Graph.exists_assemble_iff.mp ⟨graph, root, hassemble⟩)
  have hempty : ({} : Graph β).Moved (above v s x.runtime) v.graph := placed_above _ _
  obtain ⟨graph', hassemble', hgraph⟩ := Graph.Moved.assemble hempty hstill hassemble₀
  rw [hassemble] at hassemble'
  cases hassemble'
  have hrel := rootBound?_above v s x.runtime x.plugin config
  rw [hbound] at hrel
  generalize hbound₀ : rootBound? {} 0 x.plugin config 0 = bound₀ at hrel
  obtain ⟨hheap, hused⟩ | _ := hrel
  dsimp only at hheap hused
  subst hused
  obtain ⟨m, halone⟩ := establish_of_parts (w := { registries := v.registries }) (s := 0)
    (x := { plugin := x.plugin, runtime := 0 }) (Nat.zero_le _) (Nat.zero_le _) hassemble₀ hbound₀
  exact ⟨_, new_iff.mpr ⟨rfl, halone⟩, _, rfl, copies_established hs hr config hgraph hheap root₀ _
    v.registries m m'⟩

/-- Whether a session can be established depends on the registries only. -/
theorem exists_establish_iff (hstill : (v.registries.getD x.plugin.registry {}).Still)
    (hs : s ≤ v.sessions.size) (hr : x.runtime ≤ v.runtimes.size) :
    (∃ w, perform (establish s x config) v = (.ok (.ok ()), w)) ↔
      ∃ B, perform (new x.plugin config) { registries := v.registries } = (.ok (.ok 0), B) := by
  constructor
  · rintro ⟨w, h⟩
    obtain ⟨B, hmade, _⟩ := establish_copy hstill hs hr h
    exact ⟨B, hmade⟩
  · rintro ⟨B, h⟩
    obtain ⟨graph₀, root₀, heap₀, used, _, hassemble₀, hbound₀, _⟩ :=
      parts_of_establish (Nat.zero_le _) (Nat.zero_le _) (new_iff.mp h).2
    obtain ⟨graph, root, hassemble⟩ :=
      (Graph.exists_assemble_iff (g := v.graph)).mpr
        (Graph.exists_assemble_iff.mp ⟨graph₀, root₀, hassemble₀⟩)
    have hrel := rootBound?_above v s x.runtime x.plugin config
    rw [show rootBound? {} 0 x.plugin config 0 = _ from hbound₀] at hrel
    generalize hbound : rootBound? v.heap v.realms x.plugin config v.proxies.size = bound at hrel
    obtain ⟨_⟩ | _ := hrel
    obtain ⟨_, hestablish⟩ := establish_of_parts hs hr hassemble hbound
    exact ⟨_, hestablish⟩

end Session

/-! ### Worlds that nothing leads out of -/

/-- A place for everything: the first `n` stand where they did, the others
from `m` on. -/
def onwards (place : Nat ↪ Nat) (n m : Nat) (h : ∀ i < n, place i < m) : Nat ↪ Nat where
  toFun i := if i < n then place i else m + (i - n)
  inj' i j hij := by
    dsimp only at hij
    split at hij <;> split at hij
    · exact place.injective hij
    · next hi _ => exact absurd (h i hi) (by omega)
    · next _ hj => exact absurd (h j hj) (by omega)
    · omega

/-- What was there keeps its place. -/
theorem onwards_of_lt {place : Nat ↪ Nat} {n m : Nat} (h : ∀ i < n, place i < m) {i : Nat}
    (hi : i < n) :
    onwards place n m h i = place i := if_pos hi

/-- What comes after is counted on from the end. -/
theorem onwards_add {place : Nat ↪ Nat} {n m : Nat} (h : ∀ i < n, place i < m) (k : Nat) :
    onwards place n m h (n + k) = m + k := by
  refine (if_neg (Nat.not_lt.mpr (Nat.le_add_right n k))).trans ?_
  rw [Nat.add_sub_cancel_left]

omit [Relocatable β] in
/-- What is copied stays inside the array. -/
theorem Copied.lt {ι : Type} {place : Nat → Nat} {move : ι → ι} {xs ys : Array ι}
    (h : Copied place move xs ys) :
    ∀ i < xs.size, place i < ys.size := fun i hi =>
  (Array.getElem?_eq_some_iff.mp (h i _ (Array.getElem?_eq_getElem hi))).1

/-- With what comes next, it is at its places. -/
theorem Copied.placed {ι : Type} {place : Nat ↪ Nat} {move move' : ι → ι} {xs ys : Array ι}
    (h : Copied place move xs ys) (hmove : ∀ x ∈ xs, move x = move' x) :
    Placed (onwards place xs.size ys.size h.lt) move' xs ys where
  get i := by
    by_cases hi : i < xs.size
    · rw [onwards_of_lt _ hi, h i _ (Array.getElem?_eq_getElem hi), Array.getElem?_eq_getElem hi,
        Option.map_some, hmove _ (Array.getElem_mem hi)]
    · have hplace : onwards place xs.size ys.size h.lt i = ys.size + (i - xs.size) := if_neg hi
      rw [Array.getElem?_eq_none (Nat.not_lt.mp hi), Option.map_none, hplace]
      exact Array.getElem?_eq_none (Nat.le_add_right _ _)
  next k := onwards_add h.lt k

/-- Two relocations take everything in a world to the same places. -/
structure World.Agree (B : World β) (ρ σ : Relocation) : Prop where
  objects : ∀ i < B.heap.objects.size, ρ.objects i = σ.objects i
  proxies : ∀ i < B.proxies.size, ρ.proxies i = σ.proxies i
  nodes : ∀ i < B.graph.nodes.size, ρ.nodes i = σ.nodes i
  runtimes : ∀ i < B.runtimes.size, ρ.runtimes i = σ.runtimes i
  instances : ∀ i < B.instances.size, ρ.instances i = σ.instances i
  realms : ρ.realms = σ.realms
  recorders : ρ.recorders = σ.recorders

/-- Everything in the world leads to what is in the world, and no program ran
that made something of its own. -/
structure World.Secluded (B : World β) : Prop where
  objects : ∀ {ρ σ : Relocation}, B.Agree ρ σ → ∀ x ∈ B.heap.objects, x.relocate ρ = x.relocate σ
  nodes : ∀ {ρ σ : Relocation}, B.Agree ρ σ → ∀ x ∈ B.graph.nodes, x.relocate ρ = x.relocate σ
  proxies : ∀ {ρ σ : Relocation}, B.Agree ρ σ → ∀ x ∈ B.proxies, x.relocate ρ = x.relocate σ
  runtimes : ∀ {ρ σ : Relocation}, B.Agree ρ σ → ∀ x ∈ B.runtimes, x.relocate ρ = x.relocate σ
  instances : ∀ {ρ σ : Relocation}, B.Agree ρ σ → ∀ x ∈ B.instances, x.relocate ρ = x.relocate σ
  scopes : B.heap.scopes = #[]
  symbols : B.heap.symbols = 0
  handles : B.handles = #[]
  cells : B.cells = #[]
  bare : ∀ x ∈ B.heap.objects, x.Bare
  host : ∀ x ∈ B.proxies, x.context.host = .script 0
  exists_runtime : 0 < B.runtimes.size

/-- Where the copy stands, and what is made in it next. -/
def World.Copies.onwards (h : B.Copies ρ w) : Relocation :=
  { ρ with
    objects := ObjectBridge.onwards ρ.objects _ _ h.objects.lt
    scopes := ObjectBridge.onwards ρ.scopes _ _ h.scopes.lt
    symbols := ObjectBridge.onwards ρ.symbols 0 w.heap.symbols (by omega)
    proxies := ObjectBridge.onwards ρ.proxies _ _ h.proxies.lt
    handles := ObjectBridge.onwards ρ.handles _ _ h.handles.lt
    nodes := ObjectBridge.onwards ρ.nodes _ _ h.nodes.lt
    cells := ObjectBridge.onwards ρ.cells 0 w.cells.size (by omega)
    runtimes := ObjectBridge.onwards ρ.runtimes _ _ h.runtimes.lt
    instances := ObjectBridge.onwards ρ.instances _ _ h.instances.lt }

/-- A copy that goes on at the end agrees with what it is a copy of. -/
theorem World.Copies.agree_onwards (h : B.Copies ρ w) : B.Agree ρ h.onwards where
  objects _ hi := (onwards_of_lt h.objects.lt hi).symm
  proxies _ hi := (onwards_of_lt h.proxies.lt hi).symm
  nodes _ hi := (onwards_of_lt h.nodes.lt hi).symm
  runtimes _ hi := (onwards_of_lt h.runtimes.lt hi).symm
  instances _ hi := (onwards_of_lt h.instances.lt hi).symm
  realms := rfl
  recorders := rfl

/-- A world with a copy of it holds the same, and goes on in the same way. -/
theorem World.Secluded.moved (hB : B.Secluded) (h : B.Copies ρ w) :
    B.Moved h.onwards False False w where
  heap :=
    { objects := h.objects.placed (hB.objects h.agree_onwards)
      scopes := h.scopes.placed fun x hx => absurd (hB.scopes ▸ hx) (Array.not_mem_empty x)
      symbols := fun k => by
        rw [hB.symbols]
        exact onwards_add (fun i hi => absurd hi (Nat.not_lt_zero i)) k
      bare := hB.bare
      result := False.elim
      effort := False.elim }
  graph := h.nodes.placed (hB.nodes h.agree_onwards)
  proxies := h.proxies.placed (hB.proxies h.agree_onwards)
  handles := h.handles.placed fun x hx => absurd (hB.handles ▸ hx) (Array.not_mem_empty x)
  cells := by
    have hnone : Copied ρ.cells (·.relocate h.onwards) #[] w.cells := fun i x hx => by cases hx
    rw [hB.cells]
    exact hnone.placed fun _ _ => rfl
  runtimes := h.runtimes.placed (hB.runtimes h.agree_onwards)
  instances := h.instances.placed (hB.instances h.agree_onwards)
  exists_runtime := hB.exists_runtime
  host := hB.host
  stored v hv := absurd (hB.cells ▸ hv) (Array.not_mem_empty v)

namespace Session

/-- What the root is bound in where nothing else is. -/
theorem closed_rootBound? {p : Plugin} {heap : Heap} {used : Nat}
    (h : rootBound? {} 0 p config 0 = some (heap, used)) :
    heap.Closed 1 ∧ (∀ x ∈ heap.objects, x.Bare) ∧
      ∀ o ∈ (({} : Heap).newRealm 0 config.console).2.objects, o < heap.objects.size := by
  have hrel := rootBound?_above ({} : World Empty) 0 0 p config
  rw [h] at hrel
  generalize rootBound? ({} : World Empty).heap _ p config _ = bound at hrel
  obtain ⟨hmoved, _⟩ | _ := hrel
  obtain ⟨hclosed, hobjects⟩ := Heap.Closed.newRealm 0 config.console 1
  unfold rootBound? at h
  generalize ({} : Heap).newRealm 0 config.console = made at h hclosed hobjects
  obtain ⟨alone, realm⟩ := made
  dsimp only at h hclosed hobjects
  have hnative := hclosed.newNative realm (hobjects _ (by simp [Script.Realm.objects]))
      Nat.zero_lt_one
  have hexposed : (Runtime.exposed alone realm (.proxy 0)).Closed 1 := { hnative with }
  have hsize : (Runtime.exposed alone realm (.proxy 0)).objects.size = alone.objects.size + 1 :=
    Array.size_push _
  refine ⟨hexposed.bound? (hsize ▸ Nat.lt_succ_self _) (Script.Key.isSymbol_ofString _) heap h,
    hmoved.bare, fun o ho => ?_⟩
  rw [Heap.size_bound? h, hsize]
  exact Nat.lt_succ_of_lt (hobjects o ho)

variable [Native β]

/-- A session alone leads to nothing else. -/
theorem secluded_new {p : Plugin} {registries : Array (Registry β)}
    (hstill : (registries.getD p.registry {}).Still)
    (h : perform (new p config) { registries } = (.ok (.ok 0), B)) : B.Secluded := by
  obtain ⟨graph, root, heap, used, m, hassemble, hbound, rfl⟩ :=
    parts_of_establish (Nat.zero_le _) (Nat.zero_le _) (new_iff.mp h).2
  obtain ⟨hgraph, hroot⟩ := Graph.Closed.of_assemble hstill hassemble
  obtain ⟨hheap, hbare, hrealm⟩ := closed_rootBound? hbound
  constructor
  case objects =>
    intro ρ σ hagree
    exact hheap.objects ⟨hagree.objects, hagree.proxies, hagree.realms⟩
  case nodes =>
    intro ρ σ hagree x hx
    exact (hgraph x hx).relocate_congr hagree.nodes
  case proxies =>
    intro ρ σ hagree x hx
    obtain rfl := List.mem_singleton.mp (Array.mem_def.mp hx)
    have hcontext := hagree.runtimes 0 Nat.zero_lt_one
    have hinst := hagree.instances 0 Nat.zero_lt_one
    have hnode := hagree.nodes root hroot
    simp only [Proxy.relocate, Context.relocate, HostId.relocate, Instance.context, Option.map_some,
      Array.size_empty, hcontext, hinst, hnode]
  case runtimes =>
    intro ρ σ hagree x hx
    obtain rfl := List.mem_singleton.mp (Array.mem_def.mp hx)
    have hrealm := Script.Realm.relocate_congr (fun o ho => hagree.objects o (hrealm o ho))
        hagree.realms
    have hproxy := hagree.proxies 0 Nat.zero_lt_one
    simp only [Runtime.relocate, hrealm, List.map_cons, List.map_nil, ObjectRef.relocate,
      Array.size_empty, hproxy]
  case instances =>
    intro ρ σ hagree x hx
    obtain rfl := List.mem_singleton.mp (Array.mem_def.mp hx)
    have hhost := hagree.runtimes 0 Nat.zero_lt_one
    have hproxy := hagree.proxies 0 Nat.zero_lt_one
    have hroot := hagree.nodes root hroot
    simp only [Instance.relocate, HostId.relocate, Option.map_some, ObjectRef.relocate,
      Array.size_empty, hhost, hproxy, hroot, hagree.recorders]
  case scopes => exact hheap.scopes
  case symbols => exact hheap.symbols
  case handles => rfl
  case cells => rfl
  case bare => exact hbare
  case host =>
    intro x hx
    obtain rfl := List.mem_singleton.mp (Array.mem_def.mp hx)
    rfl
  case exists_runtime => exact Nat.zero_lt_one

end Session

end ObjectBridge

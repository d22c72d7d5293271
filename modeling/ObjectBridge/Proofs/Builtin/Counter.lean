import ObjectBridge.Manifest.Basic
import ObjectBridge.Proofs.Bridge.Resolution
import ObjectBridge.Proofs.Graph.Settled

/-!
# `ObjectBridge.Proofs.Builtin.Counter`: a host comes to no endless chain

A host is handed the root of an assembled graph. From there it reads
children, has counters made, and meanwhile other things go on.
`HostRun` is any sequence of such steps, with the nodes the host came to.

Making a counter fails before anything is made, or adds the counter and
makes a proxy of it (`Behaviour.runNewCounter_eq`). A counter is a new node
that falls back to what the instance calls `object`
(`perform_runNewCounter`), so it is anchored below the root of the instance
(`anchored_of_newCounter`). Every step keeps the root settled and
adds only nodes that are held (`HostRun.held`). So every question about
every node the host comes to is answered (`HostRun.answers`).
-/

set_option autoImplicit false

namespace ObjectBridge

open ObjectBridge.Graph

variable {β : Type} {lift : Behaviour → β} {root : NodeId}

/-! ### Refused arguments -/

namespace Behaviour

/-- An argument is refused for one reason only: it is not of the kind it
must be. -/
theorem eq_of_argString {method : String} {args : List Variant} {i : Nat} {f : Failure}
    (h : argString method args i = .error f) : f = wrongArgument method i "a string" := by
  unfold argString at h
  split at h <;> cases h
  rfl

/-- Where a number is wanted, the message says so. -/
theorem eq_of_argNumber {method : String} {args : List Variant} {i : Nat} {f : Failure}
    (h : argNumber method args i = .error f) : f = wrongArgument method i "a number" := by
  unfold argNumber at h
  split at h <;> cases h
  rfl

/-- Where an object is wanted, it says that. -/
theorem eq_of_argObject {method : String} {args : List Variant} {i : Nat} {f : Failure}
    (h : argObject method args i = .error f) : f = wrongArgument method i "an object" := by
  unfold argObject at h
  split at h <;> cases h
  rfl

/-! ### Making and increasing counters -/

/-- What a counter starts with: the number it is given, or zero. -/
def counterStart (args : List Variant) : Except Failure Float :=
  match args with
  | [] | .void :: _ => .ok 0.0
  | _ => argNumber "counter" args 0

/-- A start is refused for one reason only. -/
theorem eq_of_counterStart {args : List Variant} {f : Failure} (h : counterStart args = .error f) :
    f = wrongArgument "counter" 0 "a number" := by
  unfold counterStart at h
  split at h
  · cases h
  · cases h
  · exact eq_of_argNumber h

/-- The world with a counter in it, of which there is no proxy yet. Its node
falls back to what the instance calls `object`. -/
def withCounter (lift : Behaviour → β) (ctx : Context) (start : Float) (w : World β) : World β :=
  { w with
    graph := w.graph.addBased (some (counterClass lift w.cells.size))
      ((w.instanceOf? ctx).bind fun i => w.graph.lookup? i.root (.ofString "object"))
    cells := w.cells.push (.double start) }

/-- Making a counter either fails before anything is made, or adds the
counter and makes a proxy of it. -/
theorem runNewCounter_eq (lift : Behaviour → β) (ctx : Context) (args : List Variant) :
    runNewCounter lift ctx args = match counterStart args with
      | .error f => return .error f
      | .ok start => do
        let w ← get
        set (withCounter lift ctx start w)
        return .ok (.object (← newProxy ctx w.graph.nodes.size)) := by
  unfold runNewCounter
  extract_lets start
  have hstart : start = counterStart args := rfl
  rewrite [hstart]
  cases counterStart args <;> rfl

/-- What a counter is increased by: the number it is given, or one. -/
def counterStep (args : List Variant) : Except Failure Float :=
  if args.isEmpty then .ok 1.0 else argNumber "increment" args 0

/-- A step is refused for one reason only. -/
theorem eq_of_counterStep {args : List Variant} {f : Failure} (h : counterStep args = .error f) :
    f = wrongArgument "increment" 0 "a number" := by
  unfold counterStep at h
  split at h
  · cases h
  · exact eq_of_argNumber h

/-- Increasing a counter either fails before anything is changed, or sets its
cell. -/
theorem runIncrement_eq (cell : Nat) (args : List Variant) :
    (runIncrement cell args : M β (Except Failure Variant)) = match counterStep args with
      | .error f => return .error f
      | .ok amount => do
        let n := (← cellNumber cell) + amount
        setCell cell (.double n)
        return .ok (.ofNumber n) := by
  unfold runIncrement
  extract_lets amount
  have hamount : amount = counterStep args := rfl
  -- Not `rw`, which may close the goal by itself before the cases are split.
  rewrite [hamount]
  cases counterStep args <;> rfl

end Behaviour

/-- What making a counter does to the graph: a node is added, which falls
back to what the instance calls `object`. The proxy is a proxy of that
node. -/
theorem perform_runNewCounter {ctx : Context} {args : List Variant} {w w' : World β} {p : Nat}
    (h : perform (Behaviour.runNewCounter lift ctx args) w = (.ok (.ok (.object (.proxy p))), w')) :
    ∃ cls, w'.graph = w.graph.addBased cls
        ((w.instanceOf? ctx).bind fun i => w.graph.lookup? i.root (.ofString "object")) ∧
      (w'.proxy p).node = w.graph.nodes.size := by
  rw [Behaviour.runNewCounter_eq] at h
  cases hstart : Behaviour.counterStart args with
  | error f =>
    rw [hstart, perform_pure] at h
    cases h
  | ok start =>
    obtain ⟨metrics, hproxy⟩ :=
      perform_newProxy ctx w.graph.nodes.size (Behaviour.withCounter lift ctx start w)
    rw [hstart] at h
    dsimp only at h
    rw [perform_bind_ok (perform_get w), perform_bind_ok (perform_set _ w), perform_bind_ok hproxy,
      perform_pure] at h
    cases h
    exact ⟨_, rfl, by simp [World.proxy, Behaviour.withCounter]⟩

/-- A counter is anchored below the root of the instance it is made
for. -/
theorem anchored_of_newCounter {ctx : Context} {args : List Variant} {w w' : World β} {p : Nat}
    {inst : Instance} (hs : Settled w.graph inst.root) (hinst : w.instanceOf? ctx = some inst)
    (h : perform (Behaviour.runNewCounter lift ctx args) w = (.ok (.ok (.object (.proxy p))), w')) :
    Extends w.graph w'.graph ∧ Anchored w'.graph inst.root (w'.proxy p).node := by
  obtain ⟨cls, hgraph, hnode⟩ := perform_runNewCounter h
  rw [hgraph, hnode, hinst]
  exact ⟨extends_addBased _ _ _, anchored_addBased hs cls fun b hb => below_of_lookup? hb⟩

/-! ### Runs -/

/-- What a host may do with a root in hand, step by step, with the nodes it
came to. The classes of the plugin and the state of the world are
arbitrary. -/
inductive HostRun [Native β] (lift : Behaviour → β) (root : NodeId) (w₀ : World β) :
    World β → List NodeId → Prop
  | start : HostRun lift root w₀ w₀ [root]
  /-- A child is read through a proxy of a node the host came to. -/
  | read {w w' : World β} {nodes : List NodeId} {n c : NodeId} {name : Bytes} {ops : HostOps β}
      {ctx : Context} {p : Nat} (run : HostRun lift root w₀ w nodes) (hn : n ∈ nodes)
      (hc : w.graph.property? n name = some (.child c))
      (h : perform (Node.getProperty ops ctx n name) w = (.ok (.ok (.object (.proxy p))), w')) :
      HostRun lift root w₀ w' ((w'.proxy p).node :: nodes)
  /-- A counter is made for an instance that has the root. -/
  | counter {w w' : World β} {nodes : List NodeId} {ctx : Context} {args : List Variant}
      {inst : Instance} {p : Nat} (run : HostRun lift root w₀ w nodes) (hinst : w.instanceOf? ctx =
      some inst) (hroot : inst.root = root) (h : perform (Behaviour.runNewCounter lift ctx args) w =
      (.ok (.ok (.object (.proxy p))), w')) :
      HostRun lift root w₀ w' ((w'.proxy p).node :: nodes)
  /-- Something else happens; the nodes there are stay as they are. -/
  | other {w w' : World β} {nodes : List NodeId} (run : HostRun lift root w₀ w nodes)
      (h : Extends w.graph w'.graph) : HostRun lift root w₀ w' nodes

/-- Every step keeps the root settled, and the nodes the host came to are
held. -/
theorem HostRun.held [Native β] {w₀ w : World β} {nodes : List NodeId}
    (run : HostRun lift root w₀ w nodes) (hs : Settled w₀.graph root) :
    Settled w.graph root ∧ ∀ n ∈ nodes, Held w.graph root n := by
  -- A graph that grows stays settled, and what is held in it stays held.
  induction run with
  | start => exact ⟨hs, fun n hn => List.mem_singleton.mp hn ▸ .inl .root⟩
  | read run hn hc h ih =>
    obtain ⟨hs, hheld⟩ := ih
    obtain ⟨metrics, hread⟩ := perform_getProperty_child _ _ hc
    rw [hread] at h
    cases h
    refine ⟨hs, fun k hk => ?_⟩
    rcases List.mem_cons.mp hk with rfl | hk
    · simpa [World.proxy] using (hheld _ hn).read hs hc
    · exact hheld k hk
  | counter run hinst hroot h ih =>
    obtain ⟨hs, hheld⟩ := ih
    subst hroot
    obtain ⟨hext, hanchored⟩ := anchored_of_newCounter hs hinst h
    refine ⟨hs.extends hext, fun k hk => ?_⟩
    rcases List.mem_cons.mp hk with rfl | hk
    · exact .inr hanchored
    · exact (hheld k hk).extends hs hext
  | other run hext ih =>
    obtain ⟨hs, hheld⟩ := ih
    exact ⟨hs.extends hext, fun k hk => (hheld k hk).extends hs hext⟩

/-- Whatever a host does with the root of an assembled graph, the chain of
every node it comes to ends, and every question about it is answered. -/
theorem HostRun.answers [Native β] {r : Registry β} {m : Manifest} {g : Graph β} {w₀ w : World β}
    {nodes : List NodeId} (hassemble : Graph.assemble r m g = .ok (w₀.graph, root))
    (run : HostRun lift root w₀ w nodes) :
    ∀ n ∈ nodes, IsChain w.graph (some n) (w.graph.chain n) ∧ Answers w.graph n := by
  obtain ⟨hs, hheld⟩ := run.held (settled_of_assemble hassemble)
  intro n hn
  have hchain := (hheld n hn).isChain hs
  exact ⟨hchain, answers_of_isChain hchain⟩

/-- A host of the plugin that comes with the program reads `utils` and has
a counter made. -/
theorem HostRun.answers_builtin :
    ∃ (w₀ w : World Behaviour) (counter utils : NodeId),
      Graph.assemble (builtinRegistry id) Manifest.builtin {} = .ok (w₀.graph, 0) ∧
      HostRun id 0 w₀ w [counter, utils, 0] ∧
      ∀ n ∈ [counter, utils, 0], IsChain w.graph (some n) (w.graph.chain n) ∧
      Answers w.graph n := by
  -- The graph itself is not looked at, only the child that is read.
  obtain ⟨g, hassemble, hread⟩ : ∃ g : Graph Behaviour,
      Graph.assemble (builtinRegistry id) Manifest.builtin {} = .ok (g, 0) ∧
        g.property? 0 (.ofString "utils") = some (.child 2) := ⟨_, rfl, rfl⟩
  let w₀ : World Behaviour :=
    { graph := g, instances := #[{ plugin := default, root := 0, host := .memory }] }
  let ops : HostOps Behaviour :=
    ⟨fun _ _ _ => pure false, fun _ _ _ => pure none, fun _ _ _ _ => pure false,
      fun _ _ _ => pure none⟩
  obtain ⟨metrics, hchild⟩ := perform_getProperty_child ops { host := .memory, inst := some 0 }
      (w := w₀) hread
  have hroot : HostRun id 0 w₀ w₀ [0] := .start
  have hutils := hroot.read List.mem_cons_self hread hchild
  have hcounter := @HostRun.counter Behaviour _ id 0 w₀ _ _ _ { host := .memory, inst := some 0 }
    [] _ _ hutils rfl rfl rfl
  exact ⟨w₀, _, _, _, hassemble, hcounter, hcounter.answers hassemble⟩

end ObjectBridge

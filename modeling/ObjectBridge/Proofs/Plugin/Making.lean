import ObjectBridge.Proofs.Bridge.Binding
import ObjectBridge.Proofs.Plugin.Renewal

/-!
# `ObjectBridge.Proofs.Plugin.Making`: what a session is made of

When nothing was done in its runtime yet, a session is attached in one way
only: a graph is assembled, an instance made, and its root bound
(`perform_attach`). So a session that is established has this and nothing
else. The world that is left is given as a whole, but for the books
(`Session.established`), so that it can be compared with others.
-/

set_option autoImplicit false

namespace ObjectBridge

open Script (Heap)

variable {β : Type} {w w' : World β} {s : Nat} {x : Session} {y : Runtime}

namespace Session

/-- The world with an instance for a session, whose root is held once more. -/
def equipped (w : World β) (x : Session) (graph : Graph β) (root : NodeId)
    (metrics : Metrics) : World β :=
  { w with
    graph
    recorders := if x.plugin.options.profile then w.recorders.push {} else w.recorders
    instances := w.instances.push
      { plugin := x.plugin, root, host := .script x.runtime,
        recorder := if x.plugin.options.profile then some w.recorders.size else none,
        scripting := some (.proxy w.proxies.size) }
    proxies := w.proxies.push
      { refs := { refs := 2 }, context := Instance.context (.script x.runtime) w.instances.size,
        node := root }
    metrics }

/-- What attaching a session leaves behind. -/
def attached (w : World β) (s : Nat) (x : Session) (graph : Graph β) (root : NodeId) (heap : Heap)
    (used : Nat) (metrics : Metrics) : World β :=
  { Runtime.bindingLeaves (equipped w x graph root metrics) x.runtime w.proxies.size heap used with
    sessions := w.sessions.modify s fun x => { x with inst := some w.instances.size } }

/-- An instance is made, and gives away its root. -/
theorem perform_equip {graph : Graph β} {root : NodeId}
    (hassemble : w.graph.assemble (w.registries.getD x.plugin.registry {}) x.plugin.manifest =
      .ok (graph, root)) :
    ∃ w₁ metrics, perform (Instance.new x.plugin (.script x.runtime)) w =
      (.ok (.ok w.instances.size), w₁) ∧ perform (Instance.scriptableObject w.instances.size) w₁ =
        (.ok (some (.proxy w.proxies.size)), equipped w x graph root metrics) := by
  refine ⟨_, (w.installed x.plugin (.script x.runtime) graph root).metrics,
    perform_instanceNew hassemble (.script x.runtime), ?_⟩
  have hthere : (w.installed x.plugin (.script x.runtime) graph root).instances[w.instances.size]? =
      some (w.newcomer x.plugin (.script x.runtime) root) := Array.getElem?_push_size
  unfold Instance.scriptableObject
  rw [perform_bind_ok (perform_get _), hthere, Option.bind_some]
  dsimp only [World.newcomer]
  rw [retain, perform_bind_ok (perform_modify _ _)]
  dsimp only [World.installed]
  rw [modify_push_size]
  rfl

variable [Native β]

/-- How a session is attached. -/
theorem perform_attach (hx : w.sessions[s]? = some x) (hu : Runtime.Untouched w x.runtime y) :
    match w.graph.assemble (w.registries.getD x.plugin.registry {}) x.plugin.manifest with
    | .error _ => ∀ v, perform (attach s) w ≠ (.ok (.ok ()), v)
    | .ok (graph, root) =>
      match (Runtime.exposed w.heap y.realm (.proxy w.proxies.size)).bound? y.realm
        (.ofString x.plugin.options.global) w.heap.objects.size with
      | some (heap, used) =>
        ∃ metrics, perform (attach s) w =
          (.ok (.ok ()), attached w s x graph root heap used metrics)
      | none => ∀ v, perform (attach s) w ≠ (.ok (.ok ()), v) := by
  unfold attach
  rw [perform_bind_ok (perform_get? s w), hx]
  dsimp only
  cases hassemble : w.graph.assemble (w.registries.getD x.plugin.registry {}) x.plugin.manifest with
  | error e =>
    intro v hv
    rw [Instance.new, bind_assoc, perform_bind_ok (perform_get w), hassemble] at hv
    cases hv
  | ok made =>
    obtain ⟨graph, root⟩ := made
    obtain ⟨w₁, metrics, hnew, hroot⟩ := perform_equip hassemble
    have huntouched : Runtime.Untouched (equipped w x graph root metrics) x.runtime y :=
      ⟨hu.there, hu.isOpen, hu.idle, hu.flat, hu.pristine⟩
    have hbind := Runtime.perform_bind_untouched huntouched (k := w.proxies.size)
      Array.getElem?_push_size two_pos x.plugin.options.global
    have hheap : (equipped w x graph root metrics).heap = w.heap := rfl
    rw [hheap] at hbind
    rw [perform_bind_ok hnew]
    dsimp only
    rw [perform_bind_ok hroot]
    cases hbound : (Runtime.exposed w.heap y.realm (.proxy w.proxies.size)).bound? y.realm
        (.ofString x.plugin.options.global) w.heap.objects.size with
    | some bound =>
      obtain ⟨heap, used⟩ := bound
      rw [hbound] at hbind
      dsimp only at hbind ⊢
      exact ⟨metrics, by rw [perform_bind_ok hbind]; rfl⟩
    | none =>
      rw [hbound] at hbind
      intro v hv
      -- A root that could not be bound makes for an error.
      obtain ⟨bound, w₂, hbound, hv⟩ := exists_of_perform_bind hv
      cases bound with
      | ok _ => exact hbind w₂ hbound
      | error e =>
        obtain ⟨_, _, _, hv⟩ := exists_of_perform_bind hv
        cases hv

omit [Native β] in
/-- A session that is to be established has its place, and its runtime was
only just started. -/
theorem vestibule_eq (hr : x.runtime ≤ w.runtimes.size) (config : RuntimeConfig) :
    vestibule s x config w = { w with
      heap := (w.heap.newRealm w.realms config.console).1
      realms := w.realms + 1
      runtimes := putAt w.runtimes x.runtime
        { config, realm := (w.heap.newRealm w.realms config.console).2 }
      sessions := putAt w.sessions s x } := by
  have hruntime : ({ w with runtimes := putAt w.runtimes x.runtime { config } } : World β).runtime
      x.runtime = { config } := Runtime.runtime_of_getElem? (getElem?_putAt hr _)
  unfold vestibule World.started World.newRealm
  rw [hruntime]
  dsimp only
  generalize w.heap.newRealm w.realms config.console = made
  rw [putAt_modify hr]
  rfl

/-- What establishing a session leaves behind. -/
def established (w : World β) (s : Nat) (x : Session) (config : RuntimeConfig) (graph : Graph β)
    (root : NodeId) (heap : Heap) (used : Nat) (metrics : Metrics) : World β :=
  { equipped w x graph root metrics with
    heap
    realms := w.realms + 1
    runtimes := putAt w.runtimes x.runtime
      { config, realm := (w.heap.newRealm w.realms config.console).2,
        adopted := [.proxy w.proxies.size]
        steps := ScriptHost.mostSteps - used }
    sessions := putAt w.sessions s { x with inst := some w.instances.size } }

/-- What is left of the heap when the root of a new instance is bound in a
realm that was made in the heap `h`, and how many steps that took. -/
def rootBound? (h : Heap) (number : Nat) (p : Plugin) (config : RuntimeConfig) (k : Nat) :
    Option (Heap × Nat) :=
  let (h, realm) := h.newRealm number config.console
  (Runtime.exposed h realm (.proxy k)).bound? realm (.ofString p.options.global) h.objects.size

/-- Under any name but those of constants the root can be bound. -/
theorem isSome_rootBound? {h : Heap} {p : Plugin}
    (hname : Script.Key.ofString p.options.global ∉ Heap.constants)
    (hw : h.Writable (.ofString p.options.global)) (number : Nat)
    (config : RuntimeConfig) (k : Nat) :
    (rootBound? h number p config k).isSome = true := by
  have hrealm := hw.newRealm hname number config.console
  unfold rootBound?
  generalize h.newRealm number config.console = made at hrealm ⊢
  obtain ⟨h, realm⟩ := made
  have hnative : (h.newNative realm (.proxy k)).1.Writable (.ofString p.options.global) :=
    hrealm.newNative realm _
  have hexposed : (Runtime.exposed h realm (.proxy k)).Writable (.ofString p.options.global) :=
    hnative
  obtain ⟨_, _, hbound⟩ := Heap.exists_bound? hexposed realm h.objects.size
  exact Option.isSome_of_eq_some hbound

/-- How a session is established. -/
theorem perform_establish_eq (hs : s ≤ w.sessions.size) (hr : x.runtime ≤ w.runtimes.size)
    (config : RuntimeConfig) :
    match w.graph.assemble (w.registries.getD x.plugin.registry {}) x.plugin.manifest with
    | .error _ => ∀ v, perform (establish s x config) w ≠ (.ok (.ok ()), v)
    | .ok (graph, root) =>
      match rootBound? w.heap w.realms x.plugin config w.proxies.size with
      | some (heap, used) => ∃ metrics,
        perform (establish s x config) w =
        (.ok (.ok ()), established w s x config graph root heap used metrics)
      | none => ∀ v, perform (establish s x config) w ≠ (.ok (.ok ()), v) := by
  have hpristine := Heap.pristine_newRealm w.heap w.realms config.console
  rw [perform_establish, vestibule_eq hr]
  unfold rootBound? established
  generalize w.heap.newRealm w.realms config.console = made at hpristine ⊢
  obtain ⟨h, realm⟩ := made
  dsimp only at hpristine ⊢
  have hruntime := getElem?_putAt hr ({ config, realm } : Runtime)
  -- The session is attached in a world in which it and its runtime are in place.
  have hattach := perform_attach (s := s) (x := x) (y := { config, realm }) (w := { w with
    heap := h
    realms := w.realms + 1
    runtimes := putAt w.runtimes x.runtime { config, realm }
    sessions := putAt w.sessions s x }) (getElem?_putAt hs x) ⟨hruntime, rfl, rfl, rfl, hpristine⟩
  dsimp only at hattach
  cases hassemble : w.graph.assemble (w.registries.getD x.plugin.registry {}) x.plugin.manifest with
  | error e =>
    rw [hassemble] at hattach
    exact hattach
  | ok made =>
    obtain ⟨graph, root⟩ := made
    rw [hassemble] at hattach
    dsimp only at hattach ⊢
    cases hbound : (Runtime.exposed h realm (.proxy w.proxies.size)).bound? realm
        (.ofString x.plugin.options.global) h.objects.size with
    | none =>
      rw [hbound] at hattach
      exact hattach
    | some bound =>
      obtain ⟨heap, used⟩ := bound
      rw [hbound] at hattach
      obtain ⟨metrics, hattach⟩ := hattach
      refine ⟨metrics, hattach.trans ?_⟩
      -- Both are written twice at the same place, and the second writing counts.
      unfold attached Runtime.bindingLeaves equipped
      dsimp only
      rw [putAt_modify hr, putAt_modify hs]

/-- A session can be established when its graph can be assembled and its
root can be bound. -/
theorem establish_of_parts (hs : s ≤ w.sessions.size) (hr : x.runtime ≤ w.runtimes.size)
    {config : RuntimeConfig} {graph : Graph β} {root : NodeId} {heap : Heap} {used : Nat}
    (hassemble : w.graph.assemble (w.registries.getD x.plugin.registry {}) x.plugin.manifest =
      .ok (graph, root))
    (hbound : rootBound? w.heap w.realms x.plugin config w.proxies.size = some (heap, used)) :
    ∃ metrics, perform (establish s x config) w =
      (.ok (.ok ()), established w s x config graph root heap used metrics) := by
  have h := perform_establish_eq hs hr config
  rw [hassemble] at h
  dsimp only at h
  rw [hbound] at h
  exact h

/-- Otherwise it cannot. -/
theorem parts_of_establish (hs : s ≤ w.sessions.size) (hr : x.runtime ≤ w.runtimes.size)
    {config : RuntimeConfig} (h : perform (establish s x config) w = (.ok (.ok ()), w')) :
    ∃ graph root heap used metrics,
      w.graph.assemble (w.registries.getD x.plugin.registry {}) x.plugin.manifest =
      .ok (graph, root) ∧
        rootBound? w.heap w.realms x.plugin config w.proxies.size = some (heap, used) ∧
        w' = established w s x config graph root heap used metrics := by
  have heq := perform_establish_eq hs hr config
  cases hassemble : w.graph.assemble (w.registries.getD x.plugin.registry {}) x.plugin.manifest with
  | error e =>
    rw [hassemble] at heq
    exact absurd h (heq w')
  | ok made =>
    obtain ⟨graph, root⟩ := made
    rw [hassemble] at heq
    dsimp only at heq
    cases hbound : rootBound? w.heap w.realms x.plugin config w.proxies.size with
    | none =>
      rw [hbound] at heq
      exact absurd h (heq w')
    | some bound =>
      obtain ⟨heap, used⟩ := bound
      rw [hbound] at heq
      obtain ⟨metrics, heq⟩ := heq
      rw [h] at heq
      cases heq
      exact ⟨graph, root, heap, used, metrics, rfl, rfl, rfl⟩

/-- There is a new session when the graph of the plugin can be assembled and
the global name is not the name of a constant. -/
theorem exists_new {p : Plugin} (config : RuntimeConfig) {graph : Graph β} {root : NodeId}
    (hassemble : w.graph.assemble (w.registries.getD p.registry {}) p.manifest = .ok (graph, root))
    (hname : Script.Key.ofString p.options.global ∉ Heap.constants)
    (hw : w.heap.Writable (.ofString p.options.global)) : ∃ heap used metrics,
    perform (new p config) w = (.ok (.ok w.sessions.size),
      established w w.sessions.size { plugin := p, runtime := w.runtimes.size } config graph root
      heap used metrics) := by
  obtain ⟨⟨heap, used⟩, hbound⟩ := Option.isSome_iff_exists.mp
    (isSome_rootBound? hname hw w.realms config w.proxies.size)
  obtain ⟨metrics, hmade⟩ := establish_of_parts (x := { plugin := p, runtime := w.runtimes.size })
    le_rfl le_rfl hassemble hbound
  exact ⟨heap, used, metrics, new_iff.mpr ⟨rfl, hmade⟩⟩

/-! ### Where nothing can be made -/

section

variable {v : World β} {p : Plugin} (config : RuntimeConfig) {e : AssemblyError}

/-- Where no graph can be assembled a session stays as it is. -/
theorem perform_attach_of_error (hx : w.sessions[s]? = some x)
    (h : w.graph.assemble (w.registries.getD x.plugin.registry {}) x.plugin.manifest = .error e) :
    perform (attach s) w = (.ok (.error (.assembly e)), w) := by
  unfold attach
  rw [perform_bind_ok (perform_get? s w), hx]
  dsimp only
  rw [perform_bind_ok (perform_instanceNew_of_error h _)]
  rfl

/-- Nothing is established there but a runtime. -/
theorem perform_establish_of_error (hs : s ≤ w.sessions.size) (hr : x.runtime ≤ w.runtimes.size)
    (h : w.graph.assemble (w.registries.getD x.plugin.registry {}) x.plugin.manifest = .error e) :
    perform (establish s x config) w = (.ok (.error (.assembly e)), vestibule s x config w) := by
  have hroom := vestibule_eq (s := s) hr config
  have hx : (vestibule s x config w).sessions[s]? = some x := by
    rw [hroom]
    exact getElem?_putAt hs x
  rw [perform_establish]
  refine perform_attach_of_error hx ?_
  rw [hroom]
  exact h

/-- A session that is reset there has lost what it had. -/
theorem perform_reset_of_error (hx : w.sessions[s]? = some x) (hy : w.runtimes[x.runtime]? = some y)
    (hvacate : perform (vacate s) w = (.ok (), v))
    (h : v.graph.assemble (v.registries.getD x.plugin.registry {}) x.plugin.manifest = .error e) :
    perform (reset s) w = (.ok (.error (.assembly e)), vestibule s { x with inst := none }
      y.config v) := by
  obtain ⟨hsession, hruntime, _⟩ := premises_vacate hx hy hvacate
  have hs : s ≤ v.sessions.size := (Array.getElem?_eq_some_iff.mp hsession).1.le
  have hr : x.runtime ≤ v.runtimes.size := (Array.getElem?_eq_some_iff.mp hruntime).1.le
  rw [perform_reset hx hy, perform_bind_ok hvacate]
  exact perform_establish_of_error y.config hs hr h

omit [Native β] in
/-- A runtime that holds nothing for scripts has nothing to give back when it
is closed. -/
theorem perform_closeRuntime_of_empty {r : Nat} (hy : w.runtimes[r]? = some y)
    (hadopted : y.adopted = []) :
    ∃ v, perform (Runtime.close r) w = (.ok (), v) ∧ v.registries = w.registries := by
  have hnothing : perform (Runtime.releaseObjects (w.runtime r).adopted.reverse) w =
      (.ok (), w) := by
    rw [Runtime.runtime_of_getElem? hy, hadopted]
    rfl
  unfold Runtime.close Runtime.releaseAdopted
  rw [bind_assoc, perform_bind_ok (perform_get w), bind_assoc, perform_bind_ok hnothing]
  exact ⟨_, rfl, rfl⟩

omit [Native β] in
/-- Neither has a session without an instance. -/
theorem perform_close_of_empty (hx : w.sessions[s]? = some x) (hinst : x.inst = none)
    (hy : w.runtimes[x.runtime]? = some y) (hadopted : y.adopted = []) :
    ∃ v, perform (close s) w = (.ok (), v) ∧ v.registries = w.registries := by
  let w₁ : World β := { w with sessions := w.sessions.modify s fun x =>
    { x with closings := x.closings + 1 } }
  have hx₁ : w₁.sessions[s]? = some { x with closings := x.closings + 1 } :=
    Runtime.getElem?_modify_self hx _
  have hdetach : perform (detach s) w₁ = (.ok (), w₁) := by
    unfold detach
    rw [perform_bind_ok (perform_get? s w₁), hx₁, Option.bind_some]
    dsimp only
    rw [hinst]
    rfl
  obtain ⟨v, hclose, hregistries⟩ := perform_closeRuntime_of_empty (w := w₁) hy hadopted
  refine ⟨v, ?_, hregistries⟩
  unfold close
  rw [perform_bind_ok (perform_get? s w), hx]
  dsimp only
  rw [modifySession, perform_bind_ok (perform_modify _ w), perform_bind_ok hdetach, hclose]

omit [Native β] in
/-- This is what becomes of a session that was established without an
instance. -/
theorem perform_close_vestibule (hs : s ≤ w.sessions.size) (hr : x.runtime ≤ w.runtimes.size)
    (hinst : x.inst = none) :
    ∃ v, perform (close s) (vestibule s x config w) = (.ok (), v) ∧
      v.registries = w.registries := by
  rw [vestibule_eq hr]
  exact perform_close_of_empty (getElem?_putAt hs x) hinst (getElem?_putAt hr _) rfl

/-- There is no new session there. -/
theorem perform_new_of_error (h : w.graph.assemble (w.registries.getD p.registry {}) p.manifest =
    .error e) :
    ∃ v, perform (new p config) w = (.ok (.error (.assembly e)), v) := by
  have hmade := perform_establish_of_error config (x := { plugin := p, runtime := w.runtimes.size })
      le_rfl le_rfl h
  have hruntime : (vestibule w.sessions.size { plugin := p, runtime := w.runtimes.size } config
      w).runtimes[w.runtimes.size]? = some { config, realm :=
        (w.heap.newRealm w.realms config.console).2 } := by
    rw [vestibule_eq le_rfl]
    exact getElem?_putAt le_rfl _
  obtain ⟨v, hclose, _⟩ := perform_closeRuntime_of_empty hruntime rfl
  refine ⟨v, ?_⟩
  rw [perform_new, perform_bind_ok hmade]
  dsimp only
  rw [perform_bind_ok hclose, perform_pure]

end

end Session

end ObjectBridge

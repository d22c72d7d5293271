import ObjectBridge.Plugin.Pool
import ObjectBridge.Proofs.Bridge.Hosts
import ObjectBridge.Proofs.Bridge.Perform

/-!
# `ObjectBridge.Proofs.Plugin.Roster`: who is on duty

The roster is the part of the world that pools and sessions are made of:
the pools, the sessions, their instances, which runtimes are open, and the
three numbers that are published about them. What an instance reports is
not in it.

Few operations change the roster. Making an instance enters it, destroying
one strikes it off, runtimes are opened and closed. Each of them has one
theorem here that says what becomes of the roster when it returns. All
other operations of an instance and all scripts leave the roster alone,
because native code does (`undisturbed_roster`).
-/

set_option autoImplicit false

namespace ObjectBridge

variable {β : Type} {w w' : World β}

/-! ### The roster -/

/-- An instance without what it reports. -/
def Instance.unreported (x : Instance) : Instance := { x with lastError := [] }

/-- An instance after it was destroyed. -/
def Instance.dismissed (x : Instance) : Instance := { x with destroyed := true, scripting := none }

/-- What there is of pools, sessions and instances. -/
structure Roster where
  pools : Array Pool
  sessions : Array Session
  instances : Array Instance
  isOpen : Array Bool
  /-- The instances that are active, as they are counted. -/
  active : Int
  /-- The same number, as it is published. -/
  published : Int
  /-- The sessions that are lent. -/
  inUse : Int

namespace Roster

/-- Counts instances of a plugin, if they are counted. -/
def count (R : Roster) (p : Plugin) (n : Int) : Roster :=
  if p.metered then { R with active := R.active + n, published := R.published + n } else R

/-- Counting nothing changes nothing. -/
theorem count_zero (R : Roster) (p : Plugin) : R.count p 0 = R := by
  unfold count
  split
  · rw [add_zero, add_zero]
  · rfl

/-- Enters an instance. -/
def engage (R : Roster) (x : Instance) : Roster :=
  count { R with instances := R.instances.push x } x.plugin 1

/-- Strikes an instance off, if that has not been done. -/
def dismiss (R : Roster) (i : Nat) : Roster :=
  match R.instances[i]? with
  | some x =>
    if x.destroyed then R
    else count { R with instances := R.instances.modify i Instance.dismissed } x.plugin (-1)
  | none => R

/-- The roster once a runtime was opened or closed. -/
def setOpen (R : Roster) (i : Nat) (isOpen : Bool) : Roster :=
  { R with isOpen := R.isOpen.modify i fun _ => isOpen }

end Roster

namespace World

/-- The roster of a world. -/
def roster (w : World β) : Roster where
  pools := w.pools
  sessions := w.sessions
  instances := w.instances.map Instance.unreported
  isOpen := w.runtimes.map Runtime.isOpen
  active := w.metrics.instancesActive
  published := w.metrics.snapshot.activeInstances
  inUse := w.metrics.poolInUse

/-- The roster has the instances as they are, but for their last errors. -/
theorem roster_getElem?_instances (w : World β) (i : Nat) :
    w.roster.instances[i]? = w.instances[i]?.map Instance.unreported := Array.getElem?_map

/-- The roster says which runtimes are open. -/
theorem roster_getElem?_isOpen (w : World β) (i : Nat) : w.roster.isOpen[i]? = w.isOpen? i :=
  Array.getElem?_map

/-- Everything but the last errors and the runtimes is in the affairs. -/
theorem roster_modifyInstance (w : World β) (i : Nat) {f g : Instance → Instance}
    (h : ∀ x, (f x).unreported = g x.unreported) :
    ({ w with instances := w.instances.modify i f } : World β).roster =
      { w.roster with instances := w.roster.instances.modify i g } := by
  simp only [roster, map_modify h]

/-- A change of a runtime is seen on the roster by whether it is open. -/
theorem roster_modifyRuntime (w : World β) (i : Nat) {f : Runtime → Runtime} {b : Bool}
    (h : ∀ r, (f r).isOpen = b) :
    ({ w with runtimes := w.runtimes.modify i f } : World β).roster = w.roster.setOpen i b := by
  simp only [roster, Roster.setOpen, @map_modify _ _ f (fun _ => b) Runtime.isOpen h]

end World

instance publicRoster : Public (World.roster (β := β)) where
  congr {w w'} h := by
    have hpools : w'.pools = w.pools := congrArg Affairs.pools h
    have hsessions : w'.sessions = w.sessions := congrArg Affairs.sessions h
    have hinst : w'.instances = w.instances := congrArg Affairs.instances h
    have hopen : w'.runtimes.map Runtime.isOpen = w.runtimes.map Runtime.isOpen :=
      congrArg Affairs.isOpen h
    have hactive : w'.metrics.instancesActive = w.metrics.instancesActive :=
      congrArg (·.metrics.instancesActive) h
    have hpublished : w'.metrics.snapshot.activeInstances = w.metrics.snapshot.activeInstances :=
      congrArg (·.metrics.snapshot.activeInstances) h
    have hinUse : w'.metrics.poolInUse = w.metrics.poolInUse := congrArg (·.metrics.poolInUse) h
    simp only [World.roster, hpools, hsessions, hinst, hopen, hactive, hpublished, hinUse]

instance publicInstances : Public (World.instances (β := β)) where
  congr h := congrArg Affairs.instances h

/-- What the books are after an event that happens to an instance of the
plugin. -/
def Plugin.noting (p : Plugin) (event : Metrics → Metrics) (m : Metrics) : Metrics :=
  if p.metered then event m else m

/-- Metering enters the event in the books of the plugin. -/
theorem perform_meter_noting {ctx : Context} {x : Instance} (hx : w.instanceOf? ctx = some x)
    (event : Metrics → Metrics) :
    perform (meter ctx event) w =
      (.ok (), { w with metrics := x.plugin.noting event w.metrics }) := by
  rw [meter, perform_modify, hx]
  unfold Plugin.noting
  dsimp only
  split <;> rfl

/-- An event that changes the number of active instances is counted. -/
theorem roster_noting (w : World β) (p : Plugin) (event : Metrics → Metrics) (n : Int)
    (hactive : ∀ m, (event m).instancesActive = m.instancesActive + n)
    (hpublished : ∀ m, (event m).snapshot.activeInstances = m.snapshot.activeInstances + n)
    (hinUse : ∀ m, (event m).poolInUse = m.poolInUse) :
    World.roster { w with metrics := p.noting event w.metrics } = w.roster.count p n := by
  cases hmetered : p.metered <;>
    simp [World.roster, Roster.count, Plugin.noting, hmetered, hactive, hpublished, hinUse]

/-- Reporting a failure is not seen. -/
theorem undisturbed_roster [Native β]
    (hn : ∀ ops : HostOps β, ops.Leave World.roster → NativeLeaves World.roster ops) :
    Undisturbed (World.roster (β := β)) where
  report := by
    refine obeys_setLastError (fun w i message => ?_) fun _ _ => rfl
    have hkept := map_modify_of_eq (f := fun x : Instance => { x with lastError := message })
      (g := Instance.unreported) (fun _ => rfl) w.instances i
    simp only [Same, World.roster, hkept]
  native := hn

/-! ### Instances -/

/-- Changing the element that was just added. -/
theorem modify_push_size {ι : Type} (xs : Array ι) (x : ι) (f : ι → ι) :
    (xs.push x).modify xs.size f = xs.push (f x) := by
  refine Array.ext_getElem? fun j => ?_
  rw [Array.getElem?_modify, Array.getElem?_push, Array.getElem?_push]
  by_cases hj : xs.size = j
  · subst hj
    simp
  · rw [if_neg hj, if_neg (Ne.symm hj), if_neg (Ne.symm hj)]

/-- A new instance, which is to have the next proxy for its root. -/
def World.newcomer (w : World β) (p : Plugin) (host : HostId) (root : NodeId) : Instance where
  plugin := p
  root := root
  host := host
  recorder := if p.options.profile then some w.recorders.size else none
  scripting := some (.proxy w.proxies.size)

/-- The world with a new instance and the proxy of its root. -/
def World.installed (w : World β) (p : Plugin) (host : HostId) (graph : Graph β)
    (root : NodeId) : World β :=
  { w with
    graph
    recorders := if p.options.profile then w.recorders.push {} else w.recorders
    instances := w.instances.push (w.newcomer p host root)
    proxies := w.proxies.push
      { refs := { refs := 1 }, context := Instance.context host w.instances.size, node := root }
    metrics := p.noting Metrics.instanceCreated (p.noting Metrics.wrapperCreated w.metrics) }

section

variable {p : Plugin}

/-- There is no instance when its graph cannot be assembled. -/
theorem perform_instanceNew_of_error {e : AssemblyError}
    (hassemble : w.graph.assemble (w.registries.getD p.registry {}) p.manifest = .error e)
    (host : HostId) :
    perform (Instance.new p host) w = (.ok (.error e), w) := by
  unfold Instance.new
  rw [perform_bind_ok (perform_get w), hassemble]
  rfl

/-- Making an instance of a plugin whose graph can be assembled. The instance
is there before it has its proxy, and is entered in the books after that. -/
theorem perform_instanceNew {graph : Graph β} {root : NodeId}
    (hassemble : w.graph.assemble (w.registries.getD p.registry {}) p.manifest = .ok (graph, root))
    (host : HostId) :
    perform (Instance.new p host) w =
      (.ok (.ok w.instances.size), w.installed p host graph root) := by
  let ctx := Instance.context host w.instances.size
  -- The worlds are named in the order in which the tables grow.
  let w₁ : World β := { w with
    graph, recorders := if p.options.profile then w.recorders.push {} else w.recorders
    instances := w.instances.push
      { plugin := p, root, host, recorder := if p.options.profile then some w.recorders.size
      else none } }
  let w₂ : World β :=
    { w₁ with proxies := w₁.proxies.push { refs := { refs := 1 }, context := ctx, node := root } }
  let w₃ : World β :=
    { w.installed p host graph root with metrics := p.noting Metrics.wrapperCreated w.metrics }
  have hthere₂ : w₂.instanceOf? ctx = _ := Array.getElem?_push_size
  have hthere₃ : w₃.instanceOf? ctx = _ := Array.getElem?_push_size
  have hproxy : perform (newProxy ctx root) w₁ =
      (.ok (.proxy w.proxies.size),
      { w₂ with metrics := p.noting Metrics.wrapperCreated w.metrics }) := by
    rw [newProxy, perform_bind_ok (perform_modifyGet _ _),
      perform_bind_ok (perform_meter_noting hthere₂ _), perform_pure]
  unfold Instance.new
  rw [perform_bind_ok (perform_get w), hassemble]
  dsimp only
  rw [perform_bind_ok (perform_set w₁ w), perform_bind_ok hproxy, modifyInstance,
    perform_bind_ok (perform_modify _ _)]
  dsimp only [w₂, w₁]
  rw [modify_push_size]
  exact (perform_bind_ok (perform_meter_noting hthere₃ _) _).trans rfl

end

/-- Making an instance enters it, if its graph can be assembled. -/
theorem roster_instanceNew {p : Plugin} {host : HostId} {r : Except AssemblyError Nat}
    (h : perform (Instance.new p host) w = (.ok r, w')) :
    (∃ e, r = .error e ∧ w'.roster = w.roster) ∨
      ∃ x : Instance, r = .ok w.roster.instances.size ∧ x.plugin = p ∧ x.host = host ∧
      x.destroyed = false ∧
        w'.roster = w.roster.engage x := by
  cases hassemble : w.graph.assemble (w.registries.getD p.registry {}) p.manifest with
  | error e =>
    cases h.symm.trans (perform_instanceNew_of_error hassemble host)
    exact .inl ⟨e, rfl, rfl⟩
  | ok made =>
    obtain ⟨graph, root⟩ := made
    cases h.symm.trans (perform_instanceNew hassemble host)
    refine .inr ⟨w.newcomer p host root, by simp [World.roster], rfl, rfl, rfl, ?_⟩
    let w₁ : World β := { w.installed p host graph root with metrics := w.metrics }
    have hinstances : w₁.roster =
        { w.roster with instances := w.roster.instances.push (w.newcomer p host root) } := by
      simp only [World.roster, World.installed, w₁, Array.map_push]
      rfl
    -- The proxy is entered in the books as well, but is no instance.
    have hproxy := roster_noting w₁ p Metrics.wrapperCreated 0 (fun _ => (add_zero _).symm)
      (fun _ => (add_zero _).symm) fun _ => rfl
    rw [Roster.count_zero, hinstances] at hproxy
    exact (roster_noting _ p Metrics.instanceCreated 1 (fun _ => rfl) (fun _ => rfl)
      fun _ => rfl).trans (congrArg (Roster.count · p 1) hproxy)

/-- Gives back the root of an instance, if it has one. -/
def Instance.releaseRoot (x : Instance) : M β Unit :=
  match x.scripting with
  | some o => release o
  | none => return ()

/-- Giving up an instance for the first time: it is marked before its root
is given back, and entered in the books after that. -/
theorem perform_destroy {i : Nat} {x : Instance} (hx : w.instances[i]? = some x)
    (hlive : x.destroyed = false) :
    perform (Instance.destroy i) w =
      perform (do x.releaseRoot; meter (Instance.context x.host i) Metrics.instanceDestroyed)
        { w with instances := w.instances.modify i Instance.dismissed } := by
  unfold Instance.destroy Instance.releaseRoot
  rw [perform_bind_ok (perform_get w), hx]
  dsimp only
  rw [hlive, if_neg Bool.false_ne_true]
  refine (perform_bind_ok (perform_modify _ w) _).trans ?_
  cases x.scripting <;> rfl

/-- Nothing is done when there is no instance to give up. -/
theorem perform_destroy_of_gone {i : Nat} (h : ∀ x, w.instances[i]? = some x → x.destroyed = true) :
    perform (Instance.destroy i) w = (.ok (), w) := by
  unfold Instance.destroy
  rw [perform_bind_ok (perform_get w)]
  cases hx : w.instances[i]? with
  | none => rfl
  | some x =>
    dsimp only
    rw [h x hx, if_pos rfl]
    rfl

/-- Giving back a root is no affair of plugins. -/
theorem kept_releaseRoot {γ : Type} (view : World β → γ) [Public view] (x : Instance) :
    Leaves view (x.releaseRoot : M β Unit) := by
  unfold Instance.releaseRoot
  cases x.scripting with
  | none => exact .pure ()
  | some o => exact obeys_release o

/-- Destroying an instance strikes it off. -/
theorem roster_destroy {i : Nat} (h : perform (Instance.destroy i) w = (.ok (), w')) :
    w'.roster = w.roster.dismiss i := by
  have hroster := w.roster_getElem?_instances i
  cases hx : w.instances[i]? with
  | none =>
    rw [perform_destroy_of_gone fun x hx' => by cases hx.symm.trans hx'] at h
    cases h
    rw [Roster.dismiss, hroster, hx]
    rfl
  | some x =>
    rw [Roster.dismiss, hroster, hx]
    dsimp only [Option.map_some]
    cases hdestroyed : x.destroyed with
    | true =>
      rw [perform_destroy_of_gone fun x' hx' => Option.some.inj (hx.symm.trans hx') ▸
        hdestroyed] at h
      cases h
      simp [Instance.unreported, hdestroyed]
    | false =>
      rw [perform_destroy hx hdestroyed] at h
      obtain ⟨_, w₂, hrelease, hmeter⟩ := exists_of_perform_bind h
      have hkept : w₂.roster = _ := (kept_releaseRoot World.roster x).eq hrelease
      have hinstances : w₂.instances = _ := (kept_releaseRoot World.instances x).eq hrelease
      have hctx : w₂.instanceOf? (Instance.context x.host i) = some x.dismissed := by
        show w₂.instances[i]? = _
        rw [hinstances, Array.getElem?_modify, if_pos rfl, hx]
        rfl
      rw [w.roster_modifyInstance i (f := Instance.dismissed) (g := Instance.dismissed) fun _ =>
        rfl] at hkept
      cases hmeter.symm.trans (perform_meter_noting hctx Metrics.instanceDestroyed)
      rw [roster_noting w₂ _ Metrics.instanceDestroyed (-1) (fun _ => rfl) (fun _ => rfl)
        (fun _ => rfl), hkept, if_neg (by simp [Instance.unreported, hdestroyed])]
      rfl

/-! ### Runtimes -/

namespace Runtime

/-- Starting a runtime opens it. -/
theorem roster_started (w : World β) (i : Nat) :
    (w.started i).roster = w.roster.setOpen i true := by
  unfold World.started
  generalize w.newRealm i = made
  exact World.roster_modifyRuntime { w with heap := made.1, realms := w.realms + 1 } i fun _ => rfl

/-- A new runtime is open. -/
theorem roster_open {config : RuntimeConfig} {i : Nat}
    (h : perform (open_ config) w = (.ok i, w')) :
    i = w.roster.isOpen.size ∧
      w'.roster = { w.roster with isOpen := w.roster.isOpen.push true } := by
  unfold open_ at h
  rw [perform_bind_ok (perform_modifyGet _ w)] at h
  rw [perform_bind_ok (perform_start_eq _ _), perform_pure] at h
  cases h
  have hsize : w.runtimes.size = (w.runtimes.map Runtime.isOpen).size := Array.size_map.symm
  refine ⟨hsize, ?_⟩
  rw [roster_started, Roster.setOpen]
  simp only [World.roster, Array.map_push]
  rw [hsize, modify_push_size]

/-- A reset opens the runtime. -/
theorem roster_reset {i : Nat} (h : perform (reset i) w = (.ok (), w')) :
    w'.roster = w.roster.setOpen i true := by
  obtain ⟨_, w₁, hrelease, hrest⟩ := exists_of_perform_bind h
  cases hrest.symm.trans (perform_start_eq i w₁)
  have hkept : w₁.roster = w.roster := Leaves.eq (obeys_releaseAdopted i) hrelease
  rw [roster_started, hkept]

/-- Closing it closes it. -/
theorem roster_close {i : Nat} (h : perform (close i) w = (.ok (), w')) :
    w'.roster = w.roster.setOpen i false := by
  obtain ⟨_, w₁, hrelease, hrest⟩ := exists_of_perform_bind h
  cases hrest
  have hkept : w₁.roster = w.roster := Leaves.eq (obeys_releaseAdopted i) hrelease
  rw [← hkept]
  exact World.roster_modifyRuntime w₁ i fun _ => rfl

end Runtime

end ObjectBridge

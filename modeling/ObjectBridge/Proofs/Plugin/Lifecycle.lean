import ObjectBridge.Proofs.Bridge.Marshalling
import ObjectBridge.Proofs.Builtin.Counter
import ObjectBridge.Proofs.Plugin.Inventory

/-!
# `ObjectBridge.Proofs.Plugin.Lifecycle`: instances and the hosts they are in

Instances of a plugin are made, hand out their roots and are destroyed. A
host that holds a root or another proxy reads children through it, has
counters made, and releases what it holds, also when the instance is
destroyed meanwhile. These are the moves. A `Lifetime` is any sequence of
them, over any number of instances in any hosts.

Every move that is allowed returns and keeps the inventory correct
(`Move.correct`). So after every lifetime of a plugin that is counted all is
accounted for (`Lifetime.accounted`): the numbers that are published, the
references to the roots and to all other proxies, and which instances still
hand out their roots.
-/

set_option autoImplicit false

namespace ObjectBridge

variable {β : Type} {w w' : World β} {p : Plugin} {held roots : List ObjectRef} {q i : Nat}

/-- The inventory has an instance as destroyed exactly when it is. -/
theorem World.isDestroyed_iff {x : Instance} (hx : w.instances[i]? = some x) :
    w.inventory.IsDestroyed i ↔ x.destroyed = true := by
  simp [Inventory.IsDestroyed, World.inventory, hx, Instance.unreported]

/-! ### References and proxies -/

/-- Events of a context are entered in the books. -/
def World.Meters (w : World β) (ctx : Context) : Prop :=
  ∃ x, w.instanceOf? ctx = some x ∧ x.plugin.metered = true

/-- Marking an instance as destroyed leaves it metered. -/
theorem World.Meters.dismissed {ctx : Context} (h : w.Meters ctx) (i : Nat) :
    World.Meters { w with instances := w.instances.modify i Instance.dismissed } ctx := by
  obtain ⟨x, hx, hmetered⟩ := h
  obtain ⟨j, hctx, hj⟩ := Option.bind_eq_some_iff.mp hx
  refine ⟨if i = j then x.dismissed else x, ?_, ?_⟩
  · simp only [World.instanceOf?, hctx, Option.bind_some, Array.getElem?_modify, hj]
    split <;> rfl
  · split <;> exact hmetered

/-- Metering enters the event in the books of the plugin. -/
theorem perform_meter_entered {ctx : Context} (h : w.Meters ctx) (event : Metrics → Metrics) :
    perform (meter ctx event) w = (.ok (), { w with metrics := event w.metrics }) := by
  obtain ⟨x, hx, hmetered⟩ := h
  rw [perform_meter_noting hx, Plugin.noting, if_pos hmetered]

/-- Contexts of proxies are contexts of instances, which are counted. -/
theorem Inventory.Correct.meters (h : w.inventory.Correct p held roots)
    (hp : p.metered = true) {x : Proxy} (hx : w.proxies[q]? = some x) :
    w.Meters x.context ∧ ∃ i < w.instances.size, x.context.inst = some i := by
  obtain ⟨i, hi, hctx⟩ := h.contexts q x hx
  have hi' : i < w.instances.size := by simpa [World.inventory] using hi
  have hy : w.inventory.instances[i]? = some w.instances[i].unreported := by
    simp [World.inventory, Array.getElem?_eq_getElem hi']
  -- Every instance is one of the plugin, destroyed or not, and the plugin is counted.
  obtain ⟨hplugin, _⟩ := h.holds i _ hy
  refine ⟨⟨w.instances[i], ?_, ?_⟩, i, hi', hctx⟩
  · rw [World.instanceOf?, hctx]
    exact Array.getElem?_eq_getElem hi'
  · exact (congrArg Plugin.metered hplugin).trans hp

/-- A new proxy is a new wrapper in the inventory. -/
theorem inventory_newProxy {ctx : Context} (h : w.Meters ctx) (node : NodeId) :
    ∃ w', perform (newProxy ctx node) w = (.ok (.proxy w.proxies.size), w') ∧
      w'.inventory = w.inventory.wrap ctx node := by
  let w₁ : World β :=
    { w with proxies := w.proxies.push { refs := { refs := 1 }, context := ctx, node } }
  have hmeter := perform_meter_entered (w := w₁) h Metrics.wrapperCreated
  refine ⟨{ w₁ with metrics := w₁.metrics.wrapperCreated }, ?_, ?_⟩
  · rw [newProxy, perform_bind_ok (perform_modifyGet _ _), perform_bind_ok hmeter, perform_pure]
  · simp [World.inventory, Inventory.wrap, w₁]

/-- A proxy that has references is there. -/
theorem World.getElem?_of_refs_pos (h : 1 ≤ w.inventory.refs q) :
    w.proxies[q]? = some (w.proxy q) := by
  obtain ⟨x, hx, _⟩ := Inventory.getElem?_of_refs (V := w.inventory) (q := q) (by omega)
  replace hx : w.proxies[q]? = some x := hx
  rw [World.proxy, Array.getD_eq_getD_getElem?, hx, Option.getD_some]

/-- Giving back the last reference frees the object. -/
theorem RefCount.release_fate {c : RefCount} (h : 1 ≤ c.refs) :
    c.release.2 = if c.refs = 1 then .freed else .kept := by
  simp only [RefCount.release]
  rw [if_neg (by omega)]
  by_cases hlast : c.refs = 1
  · rw [if_pos (by omega), if_pos hlast]
  · rw [if_neg (by omega), if_neg hlast]

/-- Releasing a proxy takes a reference from it in the inventory. -/
theorem inventory_release (hq : 1 ≤ w.refs (.proxy q)) (h : w.Meters (w.proxy q).context) :
    ∃ w', perform (release (.proxy q)) w = (.ok (), w') ∧ w'.inventory = w.inventory.release q ∧
      w'.instances = w.instances := by
  let w₁ := w.recount (.proxy q) (-1)
  have hdrop : perform (modifyGet (dropRef (.proxy q)) : M β RefCount.Fate) w =
      (.ok (if w.refs (.proxy q) = 1 then .freed else .kept), w₁) := by
    rw [perform_modifyGet, dropRef_snd]
    exact Prod.ext (congrArg Except.ok (RefCount.release_fate hq)) rfl
  unfold ObjectBridge.release
  rw [perform_bind_ok hdrop]
  -- The freed proxy is entered in the books of its context, which counting left alone.
  by_cases hlast : w.refs (.proxy q) = 1
  · have hcontext : (w₁.proxy q).context = (w.proxy q).context := by
      simp only [w₁, World.recount, World.proxy, Array.getD_eq_getD_getElem?,
        Array.getElem?_modify, if_pos]
      cases w.proxies[q]? <;> rfl
    have hmeter := perform_meter_entered (w := w₁) (hcontext.symm ▸ h) Metrics.wrapperReleased
    rw [if_pos hlast]
    refine ⟨_, (perform_bind_ok (perform_get _) _).trans hmeter, ?_, rfl⟩
    have hrefs : w.inventory.refs q = 1 := hlast
    rw [Inventory.release, if_pos hrefs]
    exact Inventory.ext rfl rfl (Metrics.gauges_wrapperReleased _)
  · have hrefs : w.inventory.refs q ≠ 1 := hlast
    rw [if_neg hlast]
    refine ⟨w₁, rfl, ?_, rfl⟩
    simp only [Inventory.release, if_neg hrefs, Gauges.add_zero]
    rfl

/-! ### Instances -/

namespace Instance

/-- Making an instance makes a proxy of its root, which it holds, if its
graph can be assembled; otherwise nothing happens. -/
theorem inventory_new (hp : p.metered = true) (host : HostId) (w : World β) :
    (∃ e, perform (Instance.new p host) w = (.ok (.error e), w)) ∨
      ∃ (x : Instance) (w' : World β), perform (Instance.new p host) w =
      (.ok (.ok w.instances.size), w') ∧
        x.plugin = p ∧ x.scripting = some (.proxy w.proxies.size) ∧ x.destroyed = false ∧
        w'.instances[w.instances.size]? = some x ∧
        w'.inventory = (w.inventory.wrap (context host w.instances.size) x.root).engage
        x.unreported := by
  cases hassemble : w.graph.assemble (w.registries.getD p.registry {}) p.manifest with
  | error e => exact .inl ⟨e, perform_instanceNew_of_error hassemble host⟩
  | ok made =>
    obtain ⟨graph, root⟩ := made
    refine .inr ⟨w.newcomer p host root, _, perform_instanceNew hassemble host, rfl, rfl, rfl,
      Array.getElem?_push_size, Inventory.ext rfl Array.map_push ?_⟩
    -- Both the instance and its proxy are entered in the books.
    show (p.noting Metrics.instanceCreated (p.noting Metrics.wrapperCreated w.metrics)).gauges = _
    rw [Plugin.noting, Plugin.noting, if_pos hp, if_pos hp, Metrics.gauges_instanceCreated,
      Metrics.gauges_wrapperCreated]
    rfl

/-- An instance that is not destroyed hands out its root. -/
theorem inventory_scriptableObject (h : w.inventory.Correct p held roots) {x : Instance}
    (hx : w.instances[i]? = some x) :
    (x.destroyed = true ∧ perform (scriptableObject i) w = (.ok none, w)) ∨
      ∃ q w', x.destroyed = false ∧ roots[i]? = some (.proxy q) ∧ 1 ≤ w.inventory.refs q ∧
        perform (scriptableObject i) w = (.ok (some (.proxy q)), w') ∧
        w'.inventory = w.inventory.recount q 1 := by
  have hx' : w.inventory.instances[i]? = some x.unreported := by simp [World.inventory, hx]
  obtain ⟨_, q, _, hroot, hscripting⟩ := h.holds i _ hx'
  replace hscripting : x.scripting = if x.destroyed then none else some (.proxy q) := hscripting
  have hrefs : w.inventory.refs q = held.count (.proxy q) + if x.destroyed then 0 else 1 :=
    h.root i x.unreported q hx' hroot
  unfold scriptableObject
  rw [perform_bind_ok (perform_get w), hx]
  cases hdestroyed : x.destroyed with
  | true =>
    rw [hdestroyed, if_pos rfl] at hscripting
    rw [Option.bind_some, hscripting]
    exact .inl ⟨rfl, rfl⟩
  | false =>
    rw [hdestroyed, if_neg Bool.false_ne_true] at hscripting hrefs
    rw [Option.bind_some, hscripting]
    exact .inr ⟨q, _, rfl, hroot, by omega, rfl, rfl⟩

/-- An instance that is destroyed gives back its root; one that was
destroyed before does nothing. -/
theorem inventory_destroy (hp : p.metered = true) (h : w.inventory.Correct p held roots)
    {x : Instance} (hx : w.instances[i]? = some x) :
    (x.destroyed = true ∧ perform (destroy i) w = (.ok (), w)) ∨
      ∃ q w', x.destroyed = false ∧ roots[i]? = some (.proxy q) ∧
      perform (destroy i) w = (.ok (), w') ∧
        w'.inventory = (w.inventory.release q).dismiss i := by
  have hx' : w.inventory.instances[i]? = some x.unreported := by simp [World.inventory, hx]
  obtain ⟨hplugin, q, hq, hroot, hscripting⟩ := h.holds i _ hx'
  replace hscripting : x.scripting = if x.destroyed then none else some (.proxy q) := hscripting
  have hrefs : w.inventory.refs q = held.count (.proxy q) + if x.destroyed then 0 else 1 :=
    h.root i x.unreported q hx' hroot
  cases hdestroyed : x.destroyed with
  | true =>
    exact .inl ⟨rfl, perform_destroy_of_gone fun x' hx' => Option.some.inj (hx.symm.trans hx') ▸
      hdestroyed⟩
  | false =>
    rw [hdestroyed, if_neg Bool.false_ne_true] at hscripting hrefs
    let w₁ : World β := { w with instances := w.instances.modify i dismissed }
    have hy : w.proxies[q]? = some (w.proxy q) := World.getElem?_of_refs_pos (by omega)
    have hmeters : w₁.Meters (w₁.proxy q).context := (h.meters hp hy).1.dismissed i
    obtain ⟨w₂, hrelease, hinventory, hinstances⟩ := inventory_release (w := w₁) (q := q) (by
      show 1 ≤ w.inventory.refs q
      omega) hmeters
    -- The instance is still there to be entered as destroyed, although it has no root any more.
    have hthere : w₂.instanceOf? (context x.host i) = some x.dismissed := by
      simp [World.instanceOf?, context, hinstances, w₁, Array.getElem?_modify, hx]
    have hmeters₂ : w₂.Meters (context x.host i) :=
      ⟨_, hthere, (congrArg Plugin.metered hplugin).trans hp⟩
    have hmeter := perform_meter_entered hmeters₂ Metrics.instanceDestroyed
    have hroot₁ : perform x.releaseRoot w₁ = (.ok (), w₂) := by
      unfold releaseRoot
      rw [hscripting]
      exact hrelease
    refine .inr ⟨q, { w₂ with metrics := w₂.metrics.instanceDestroyed }, rfl, hroot,
      (perform_destroy hx hdestroyed).trans ((perform_bind_ok hroot₁ _).trans hmeter), ?_⟩
    have hproxies := congrArg Inventory.proxies hinventory
    have hgauges := congrArg Inventory.gauges hinventory
    have hunreported (y : Instance) : y.dismissed.unreported = y.unreported.dismissed := rfl
    refine Inventory.ext hproxies ?_ ?_
    · show w₂.instances.map unreported = _
      rw [hinstances]
      exact map_modify hunreported _ _
    · refine (Metrics.gauges_instanceDestroyed _).trans ?_
      rw [show w₂.metrics.gauges = _ from hgauges]
      rfl

end Instance

/-! ### Requests -/

/-- A counter that is made is a new proxy. -/
theorem inventory_runNewCounter (lift : Behaviour → β) {ctx : Context} (h : w.Meters ctx)
    (args : List Variant) :
    (∃ f, perform (Behaviour.runNewCounter lift ctx args) w = (.ok (.error f), w) ∧
      f.object? = none) ∨ ∃ w', perform (Behaviour.runNewCounter lift ctx args) w =
        (.ok (.ok (.object (.proxy w.proxies.size))), w') ∧
        w'.inventory = w.inventory.wrap ctx w.graph.nodes.size := by
  rw [Behaviour.runNewCounter_eq]
  cases hstart : Behaviour.counterStart args with
  | error f => exact .inl ⟨f, rfl, Behaviour.eq_of_counterStart hstart ▸ rfl⟩
  | ok start =>
    obtain ⟨w', hproxy, hinventory⟩ :=
      inventory_newProxy (w := Behaviour.withCounter lift ctx start w) h w.graph.nodes.size
    refine .inr ⟨w', ?_, hinventory⟩
    dsimp only
    rw [perform_bind_ok (perform_get w), perform_bind_ok (perform_set _ w), perform_bind_ok hproxy]
    rfl

/-- The object a host gets with an answer. -/
def Proxy.Reply.object? : Proxy.Reply → Option ObjectRef
  | .value v => v.object?
  | _ => none

namespace Proxy.Request

/-- Native code that makes counters. -/
def MakesCounters [Native β] (lift : Behaviour → β) (code : β) : Prop :=
  ∀ (ops : HostOps β) (ctx : Context) (args : List Variant),
    Native.call ops ctx code args = Behaviour.runNewCounter lift ctx args

/-- The request reads what is no declared property with a getter, or
constructs a counter. It may as well fail. -/
def Plain [Native β] (lift : Behaviour → β) (g : Graph β) (n : NodeId) : Request → Prop
  | .getProperty (.string name) => ∀ declared, g.property? n name = some (.declared declared) →
    declared.get = none
  | .getProperty _ => True
  | .call .void _ | .construct _ => ∀ code, g.constructor? n = some code → MakesCounters lift code
  | _ => False

/-- Entering a request leaves the inventory, -/
theorem inventory_entered (r : Request) (x : Proxy) (w : World β) :
    (r.entered x w).inventory = w.inventory := by
  unfold entered started startTimer
  split
  · cases x.recorder w <;> rfl
  · rfl

/-- and so does leaving it. -/
theorem inventory_left (r : Request) (x : Proxy) (w answered : World β) :
    (r.left x w answered).inventory = answered.inventory := by
  unfold left stopped stopTimer
  split
  · cases x.recorder w <;> rfl
  · rfl

variable [Native β] {lift : Behaviour → β} {ops : HostOps β} {x : Proxy} {r : Request}

/-- A plain request comes to nothing, and fails, or to a new proxy. -/
theorem inventory_ask (ops : HostOps β) (hr : r.Plain lift w.graph x.node)
    (hx : w.Meters x.context) :
    (∃ f, perform (r.ask ops x) w = (.ok (.error f), w) ∧ f.object? = none) ∨
      ∃ node w', perform (r.ask ops x) w =
      (.ok (.ok (.value (.object (.proxy w.proxies.size)))), w') ∧
        w'.inventory = w.inventory.wrap x.context node := by
  -- A call without a name constructs, so both requests come to this.
  have hconstruct (args : List Variant)
      (hcode : ∀ code, w.graph.constructor? x.node = some code → MakesCounters lift code) :
      (∃ f, perform (ask ops x (.construct args)) w = (.ok (.error f), w) ∧ f.object? = none) ∨
        ∃ node w',
          perform (ask ops x (.construct args)) w =
          (.ok (.ok (.value (.object (.proxy w.proxies.size)))), w') ∧
          w'.inventory = w.inventory.wrap x.context node := by
    simp only [ask, Node.construct, bind_assoc]
    rw [perform_bind_ok (perform_get w)]
    cases hfound : w.graph.constructor? x.node with
    | none => exact .inl ⟨.missingConstructor, rfl, rfl⟩
    | some code =>
      dsimp only
      rw [hcode code hfound ops x.context args]
      obtain ⟨f, hrun, hplain⟩ | ⟨w', hrun, hinventory⟩ := inventory_runNewCounter lift hx args
      · exact .inl ⟨f, perform_bind_ok hrun _, hplain⟩
      · exact .inr ⟨_, w', perform_bind_ok hrun _, hinventory⟩
  cases r with
  | getProperty name =>
    cases name with
    | string n =>
      simp only [ask, Node.getProperty, bind_assoc]
      rw [perform_bind_ok (perform_get w)]
      cases hfound : w.graph.property? x.node n with
      | none => exact .inl ⟨.unknownProperty, rfl, rfl⟩
      | some found =>
        cases found with
        | declared declared =>
          obtain ⟨get, set⟩ := declared
          obtain rfl : get = none := hr _ hfound
          exact .inl ⟨.unknownProperty, rfl, rfl⟩
        | child c =>
          obtain ⟨w', hproxy, hinventory⟩ := inventory_newProxy hx c
          dsimp only
          rw [bind_assoc, perform_bind_ok hproxy]
          exact .inr ⟨c, w', rfl, hinventory⟩
    | _ => exact .inl ⟨.propertyNameNotString, rfl, rfl⟩
  | construct args => exact hconstruct args hr
  | call method args =>
    cases method with
    | void => exact hconstruct args hr
    | _ => exact hr.elim
  | _ => exact hr.elim

omit [Native β] in
/-- What an instance reports is not in the inventory. -/
theorem inventory_fail (x : Proxy) (slot : Slot) {f : Failure} (hplain : f.object? = none)
    (w : World β) :
    ∃ slot' w', perform (x.fail slot f) w = (.ok slot', w') ∧ w'.inventory = w.inventory := by
  have hraise : Leaves World.inventory (raiseInto slot f : M β Slot) := by
    unfold raiseInto
    rw [Slot.raiseInto_eq, dropThrown_eq, hplain]
    cases slot.isFree <;> exact fun _ => rfl
  -- The text of the failure goes to the instance, in what it reports.
  have hreport : Leaves World.inventory (setLastError x.context f.describe : M β Unit) := by
    refine obeys_setLastError (fun w i message => ?_) (fun _ _ => rfl) _ _
    have hkept := map_modify_of_eq (f := fun x : Instance => { x with lastError := message })
      (g := Instance.unreported) (fun _ => rfl) w.instances i
    simp only [Same, World.inventory, hkept]
  have hleaves : Leaves World.inventory (x.fail slot f : M β Slot) :=
    .bind hraise fun _ => .bind hreport fun _ => .pure _
  obtain ⟨w', hrun, _⟩ := x.perform_fail_plain slot hplain w
  exact ⟨_, w', hrun, hleaves.eq hrun⟩

/-- What a host gets from a plain request is nothing, or a new proxy. -/
theorem inventory_serve (ops : HostOps β) (hr : r.Plain lift w.graph x.node)
    (hx : w.Meters x.context) (slot : Slot) :
    ∃ reply slot' w', perform (r.serve ops x slot) w = (.ok (reply, slot'), w') ∧
      ((reply.object? = none ∧ w'.inventory = w.inventory) ∨
        ∃ node, reply.object? = some (.proxy w.proxies.size) ∧
        w'.inventory = w.inventory.wrap x.context node) := by
  have halike := r.alike_entered x w
  have hinstances : (r.entered x w).instances = w.instances := r.view_entered x w
  have hr' : r.Plain lift (r.entered x w).graph x.node := halike.graph.symm ▸ hr
  have hx' : (r.entered x w).Meters x.context := by
    simpa only [World.Meters, World.instanceOf?, hinstances] using hx
  rw [perform_serve, settled]
  -- Measuring a request does not show in the inventory, neither before the answer nor after it.
  obtain ⟨f, hask, hplain⟩ | ⟨node, w', hask, hinventory⟩ := inventory_ask ops hr' hx'
  · obtain ⟨slot', w', hfail, hinventory⟩ := inventory_fail x slot hplain (r.entered x w)
    have hrun : perform (r.ask ops x >>= r.settle x slot) (r.entered x w) =
        (.ok (r.blank, slot'), w') :=
      (perform_bind_ok hask _).trans (perform_bind_ok hfail _)
    rw [hrun]
    refine ⟨_, _, _, rfl, .inl ⟨?_, ?_⟩⟩
    · cases r <;> rfl
    · rw [inventory_left, hinventory, inventory_entered]
  · have hrun : perform (r.ask ops x >>= r.settle x slot) (r.entered x w) =
        (.ok (.value (.object (.proxy (r.entered x w).proxies.size)), slot), w') :=
          perform_bind_ok hask _
    rw [hrun]
    refine ⟨_, _, _, rfl, .inr ⟨node, ?_, ?_⟩⟩
    · rw [halike.proxies]
      rfl
    · rw [inventory_left, hinventory, inventory_entered]

end Proxy.Request

/-! ### Runs -/

/-- What a host does with the instances of a plugin, and whoever embeds it. -/
inductive Move (β : Type)
  | engage (host : HostId)
  | root (i : Nat)
  | ask (q : Nat) (ops : HostOps β) (slot : Slot) (r : Proxy.Request)
  | release (o : ObjectRef)
  | destroy (i : Nat)

namespace Move

variable [Native β] {lift : Behaviour → β}

/-- Makes a move. What the host is handed belongs to it. -/
def act (p : Plugin) : Move β → M β (Option ObjectRef)
  | .engage host => do
    let _ ← Instance.new p host
    return none
  | .root i => Instance.scriptableObject i
  | .ask q ops slot r => do
    let (reply, _) ← r.serve ops ((← get).proxy q) slot
    return reply.object?
  | .release o => do
    ObjectBridge.release o
    return none
  | .destroy i => do
    Instance.destroy i
    return none

/-- A host asks and releases only what it holds, and the instances are those
that were made. -/
def Allowed (lift : Behaviour → β) (w : World β) (held : List ObjectRef) : Move β → Prop
  | .engage _ => True
  | .root i | .destroy i => i < w.instances.size
  | .ask q _ _ r => .proxy q ∈ held ∧ r.Plain lift w.graph (w.proxy q).node
  | .release o => o ∈ held

/-- What a host holds after a move. -/
def after (held : List ObjectRef) (got : Option ObjectRef) : Move β → List ObjectRef
  | .release o => held.erase o
  | _ => got.toList ++ held

end Move

/-- The roots of the instances that were made since. -/
def World.rootsMade (w w' : World β) : List ObjectRef :=
  (w'.instances.toList.drop w.instances.size).filterMap (·.scripting)

/-- Where no instance is made no root is. -/
theorem World.rootsMade_of_size (h : w'.instances.size = w.instances.size) :
    w.rootsMade w' = [] := by
  rw [rootsMade, List.drop_eq_nil_of_le (by simp [h]), List.filterMap_nil]

/-- An instance that was made has its root. -/
theorem World.rootsMade_of_push {x : Instance} {o : ObjectRef}
    (hsize : w'.instances.size = w.instances.size + 1)
    (hx : w'.instances[w.instances.size]? = some x) (ho : x.scripting = some o) :
    w.rootsMade w' = [o] := by
  have hlt : w.instances.size < w'.instances.toList.length := by simp [hsize]
  have hlast : w'.instances.toList[w.instances.size] = x := by
    have := Array.getElem?_eq_some_iff.mp hx
    simpa using this.2
  have hdrop : w'.instances.toList.drop w.instances.size = [x] := by
    rw [List.drop_eq_getElem_cons hlt, hlast, List.drop_eq_nil_of_le (by simp [hsize])]
  rw [rootsMade, hdrop]
  simp [ho]

/-- What a move that is allowed comes to: it returns, what is held and
published is correct again, and it destroys what it is to destroy. -/
theorem Move.correct [Native β] {lift : Behaviour → β} (hp : p.metered = true)
    (h : w.inventory.Correct p held roots) {m : Move β} (hm : m.Allowed lift w held) :
    ∃ got w', perform (m.act p) w = (.ok got, w') ∧
      w'.inventory.Correct p (m.after held got) (roots ++ w.rootsMade w') ∧
      ∀ i, w'.inventory.IsDestroyed i ↔ w.inventory.IsDestroyed i ∨ m = .destroy i := by
  -- Most moves make no instance.
  have hroots {V : Inventory} {w' : World β} {held' : List ObjectRef} (hV : w'.inventory = V)
      (hcorrect : V.Correct p held' roots) : w'.inventory.Correct p held'
      (roots ++ w.rootsMade w') := by
    subst hV
    have hsize : w'.instances.size = w.instances.size := by
      have := hcorrect.size.symm.trans h.size
      simpa [World.inventory] using this
    rwa [World.rootsMade_of_size hsize, List.append_nil]
  cases m with
  | engage host =>
    obtain ⟨e, hrun⟩ | ⟨x, w', hrun, hplugin, hscripting, hactive, hthere, hinventory⟩ :=
      Instance.inventory_new hp host w
    · exact ⟨none, w, perform_bind_ok hrun _, hroots rfl h, fun i => by simp⟩
    -- The one instance that was made brings its root with it.
    · have hsize : w.inventory.instances.size = w.instances.size := Array.size_map
      have hsize' : w'.instances.size = w.instances.size + 1 := by
        have := congrArg (·.instances.size) hinventory
        simpa [World.inventory, Inventory.engage, Inventory.wrap] using this
      have hmade := World.rootsMade_of_push hsize' hthere hscripting
      refine ⟨none, w', perform_bind_ok hrun _, ?_, fun i => ?_⟩
      · rw [hmade, hinventory]
        exact h.engage (by rw [hsize]; rfl) x.root hplugin hscripting hactive
      · rw [hinventory, Inventory.isDestroyed_engage (by exact hactive)]
        simp [Inventory.IsDestroyed, Inventory.wrap]
  | root i =>
    have hx : w.instances[i]? = some w.instances[i] := Array.getElem?_eq_getElem hm
    obtain ⟨_, hrun⟩ | ⟨q, w', _, _, hpos, hrun, hinventory⟩ :=
      Instance.inventory_scriptableObject h hx
    · exact ⟨none, w, hrun, hroots rfl h, fun i => by simp⟩
    · refine ⟨some (.proxy q), w', hrun, hroots hinventory (h.retain hpos), fun i => ?_⟩
      rw [hinventory]
      simp [Inventory.IsDestroyed, Inventory.recount]
  | ask q ops slot r =>
    obtain ⟨hheld, hr⟩ := hm
    obtain ⟨hmeters, i, hi, hctx⟩ := h.meters hp (World.getElem?_of_refs_pos (h.refs_pos hheld))
    obtain ⟨reply, slot', w', hrun, hgot⟩ := Proxy.Request.inventory_serve ops hr hmeters slot
    refine ⟨reply.object?, w', ?_, ?_⟩
    · rw [act, perform_bind_ok (perform_get w), perform_bind_ok hrun, perform_pure]
    · obtain ⟨hnone, hinventory⟩ | ⟨node, hsome, hinventory⟩ := hgot
      · rw [hnone]
        refine ⟨hroots hinventory h, fun i => ?_⟩
        rw [hinventory]
        simp
      · rw [hsome]
        have hi' : i < w.inventory.instances.size := by simpa [World.inventory] using hi
        refine ⟨hroots hinventory (h.wrap hi' hctx node), fun i => ?_⟩
        rw [hinventory]
        simp [Inventory.IsDestroyed, Inventory.wrap]
  | release o =>
    obtain ⟨q, rfl⟩ := h.proxies o hm
    have hpos := h.refs_pos hm
    have hmeters := (h.meters hp (World.getElem?_of_refs_pos hpos)).1
    obtain ⟨w', hrun, hinventory, _⟩ := inventory_release hpos hmeters
    refine ⟨none, w', perform_bind_ok hrun _, hroots hinventory (h.release hm), fun i => ?_⟩
    rw [hinventory]
    simp [Inventory.IsDestroyed, Inventory.release, Inventory.recount]
  | destroy i =>
    have hx : w.instances[i]? = some w.instances[i] := Array.getElem?_eq_getElem hm
    obtain ⟨hdestroyed, hrun⟩ | ⟨q, w', hactive, hroot, hrun, hinventory⟩ :=
      Instance.inventory_destroy hp h hx
    · refine ⟨none, w, perform_bind_ok hrun _, hroots rfl h, fun j => ?_⟩
      have hi := (World.isDestroyed_iff hx).mpr hdestroyed
      rw [Move.destroy.injEq]
      exact ⟨.inl, fun hj => hj.elim id fun hij => hij ▸ hi⟩
    -- A first destruction; one that comes later finds the instance destroyed and changes nothing.
    · have hx' : w.inventory.instances[i]? = some w.instances[i].unreported := by
        simp [World.inventory, hx]
      refine ⟨none, w', perform_bind_ok hrun _, hroots hinventory (h.dismiss hx' hactive hroot),
        fun j => ?_⟩
      rw [hinventory, Move.destroy.injEq]
      exact Inventory.isDestroyed_dismiss hx' j

/-- What a host and whoever embeds it do with the instances of a new plugin,
move by move: the world, the moves, latest first, the references the host
holds, and the proxies of the roots, one for each instance. -/
inductive Lifetime [Native β] (lift : Behaviour → β) (p : Plugin) (w₀ : World β) :
    World β → List (Move β) → List ObjectRef → List ObjectRef → Prop
  | start : Lifetime lift p w₀ w₀ [] [] []
  | move {w w' : World β} {moves : List (Move β)} {held roots : List ObjectRef} {m : Move β}
      {got : Option ObjectRef} (run : Lifetime lift p w₀ w moves held roots)
      (hm : m.Allowed lift w held) (h : perform (m.act p) w = (.ok got, w')) :
      Lifetime lift p w₀ w' (m :: moves) (m.after held got) (roots ++ w.rootsMade w')

namespace Lifetime

variable [Native β] {lift : Behaviour → β} {w₀ : World β} {moves : List (Move β)}

/-- From nothing on, the gauges say what is there. -/
theorem correct (hp : p.metered = true)
    (hnew : w₀.inventory = { proxies := #[], instances := #[], gauges := .of 0 0 })
    (run : Lifetime lift p w₀ w moves held roots) :
    w.inventory.Correct p held roots ∧ ∀ i, w.inventory.IsDestroyed i ↔ .destroy i ∈ moves := by
  induction run with
  | start =>
    rw [hnew]
    refine ⟨⟨rfl, ?_, ?_, ?_, rfl, List.nodup_nil, ?_, ?_⟩, ?_⟩ <;> simp
      [Inventory.refs, Inventory.IsDestroyed]
    rfl
  | move run hm h ih =>
    obtain ⟨hcorrect, hdestroyed⟩ := ih
    obtain ⟨got, w', hrun, hcorrect', hdestroyed'⟩ := Move.correct hp hcorrect hm
    -- The move returned, so it came to what `Move.correct` says it comes to.
    cases h.symm.trans hrun
    refine ⟨hcorrect', fun i => ?_⟩
    rw [hdestroyed', hdestroyed, List.mem_cons, or_comm, eq_comm]

end Lifetime

/-- What is published, what is held, and what can be done next. -/
structure Accounted [Native β] (lift : Behaviour → β) (p : Plugin) (w : World β)
    (moves : List (Move β)) (held roots : List ObjectRef) : Prop where
  destroyed : ∀ (i : Nat) x, w.instances[i]? = some x → (x.destroyed = true ↔ .destroy i ∈ moves)
  active : w.metrics.instancesActive = (w.instances.countP fun x => !x.destroyed : Nat) ∧
    w.metrics.snapshot.activeInstances = (w.instances.countP fun x => !x.destroyed : Nat)
  live : w.metrics.wrappersLive = (w.proxies.countP fun x => 0 < x.refs.refs : Nat) ∧
    w.metrics.snapshot.liveWrappers = (w.proxies.countP fun x => 0 < x.refs.refs : Nat)
  /-- A root has the references the host holds, and one until its instance
  is destroyed. Until then the instance hands it out. -/
  root : ∀ (i : Nat) x, w.instances[i]? = some x → ∃ q, roots[i]? = some (.proxy q) ∧
    w.refs (.proxy q) = held.count (.proxy q) + (if x.destroyed then 0 else 1) ∧
    ∃ w', perform (Instance.scriptableObject i) w =
    (.ok (if x.destroyed then none else some (.proxy q)), w')
  other : ∀ q, .proxy q ∉ roots → w.refs (.proxy q) = held.count (.proxy q)
  /-- No move is unwound. -/
  returns : ∀ m : Move β, m.Allowed lift w held → ∃ got w', perform (m.act p) w = (.ok got, w')

/-- Whatever a host does with the instances of a plugin that is counted, and
in whatever order they are destroyed, everything is accounted for. -/
theorem Lifetime.accounted [Native β] {lift : Behaviour → β} {w₀ : World β} {moves : List (Move β)}
    (hp : p.metered = true) (hnew : w₀.inventory =
      { proxies := #[], instances := #[], gauges := .of 0 0 })
    (run : Lifetime lift p w₀ w moves held roots) : Accounted lift p w moves held roots := by
  obtain ⟨h, hdestroyed⟩ := run.correct hp hnew
  have hgauges : w.metrics.gauges = .of w.inventory.active w.inventory.live := h.gauges
  have hactive : w.inventory.active = w.instances.countP fun x => !x.destroyed := Array.countP_map
  have hthere {i : Nat} {x : Instance} (hx : w.instances[i]? = some x) :
      w.inventory.instances[i]? = some x.unreported := by simp [World.inventory, hx]
  rw [hactive] at hgauges
  refine ⟨fun i x hx => ?_, ?_, ?_, fun i x hx => ?_, h.other, fun m hm => ?_⟩
  · rw [← World.isDestroyed_iff hx, hdestroyed]
  · exact ⟨congrArg Gauges.instancesActive hgauges, congrArg Gauges.activeInstances hgauges⟩
  · exact ⟨congrArg Gauges.wrappersLive hgauges, congrArg Gauges.liveWrappers hgauges⟩
  -- An instance hands out its root until it is destroyed, and nothing after that.
  · obtain ⟨_, q, _, hroot, _⟩ := h.holds i _ (hthere hx)
    refine ⟨q, hroot, h.root i x.unreported q (hthere hx) hroot, ?_⟩
    obtain ⟨hdead, hrun⟩ | ⟨k, w', halive, hk, _, hrun, _⟩ :=
      Instance.inventory_scriptableObject h hx
    · exact ⟨w, by rw [hrun, if_pos hdead]⟩
    · cases hroot.symm.trans hk
      exact ⟨w', by rw [hrun, if_neg (by simp [halive])]⟩
  · obtain ⟨got, w', hrun, _⟩ := Move.correct hp h hm
    exact ⟨got, w', hrun⟩

namespace Lifetime

/-- The plugin that comes with the program, counted. -/
def greeter : Plugin := { manifest := .builtin, registry := 0, options := {}, metered := true }

/-- The world after moves that start before anything is made of the plugin,
the latest first. -/
def greeterWorld : List (Move Behaviour) → World Behaviour
  | [] => { registries := #[builtinRegistry id] }
  | m :: before => (perform (m.act greeter) (greeterWorld before)).2

/-- A lifetime of the greeter goes on with any move that is allowed. -/
theorem move_greeterWorld {before : List (Move Behaviour)} {held' made : List ObjectRef}
    (run : Lifetime id greeter (greeterWorld []) (greeterWorld before) before held roots)
    {m : Move Behaviour} (hm : m.Allowed id (greeterWorld before) held) (got : Option ObjectRef)
    (h : (perform (m.act greeter) (greeterWorld before)).1.toOption = some got)
    (hheld : m.after held got = held')
    (hmade : (greeterWorld before).rootsMade (greeterWorld (m :: before)) = made) :
    Lifetime id greeter (greeterWorld []) (greeterWorld (m :: before)) (m :: before) held'
      (roots ++ made) := by
  subst hheld hmade
  have hgot : (perform (m.act greeter) (greeterWorld before)).1 = .ok got := by
    cases hr : (perform (m.act greeter) (greeterWorld before)).1 with
    | ok x =>
      rw [hr] at h
      exact congrArg Except.ok (Option.some.inj h)
    | error u =>
      rw [hr] at h
      cases h
  exact run.move hm (Prod.ext hgot rfl)

/-- How many instances there are before each move, what it hands over, and
which roots it makes. -/
def greeterOutcomes :
    List (Move Behaviour) → List (Nat × Option (Option ObjectRef) × List ObjectRef)
  | [] => []
  | m :: before =>
    ((greeterWorld before).instances.size,
      (perform (m.act greeter) (greeterWorld before)).1.toOption,
      (greeterWorld before).rootsMade (greeterWorld (m :: before))) :: greeterOutcomes before

/-- A host is handed the root and reads a child, the instance is destroyed
twice, and the host gives the root back. The child is still there. -/
theorem accounted_greeter :
    greeter.metered = true ∧ (greeterWorld []).inventory =
      { proxies := #[], instances := #[], gauges := .of 0 0 } ∧ ∃ moves,
      Lifetime id greeter (greeterWorld []) (greeterWorld moves) moves [.proxy 1] [.proxy 0] ∧
        Accounted id greeter (greeterWorld moves) moves [.proxy 1] [.proxy 0] ∧
        (greeterWorld moves).metrics.instancesActive = 0 ∧
        (greeterWorld moves).metrics.wrappersLive = 1 := by
  have hnew : (greeterWorld []).inventory =
      { proxies := #[], instances := #[], gauges := .of 0 0 } :=
    Inventory.ext rfl Array.map_empty rfl
  let ops : HostOps Behaviour :=
    ⟨fun _ _ _ => pure false, fun _ _ _ => pure none, fun _ _ _ _ => pure false,
      fun _ _ _ => pure none⟩
  let read : Move Behaviour := .ask 0 ops (some {}) (.getProperty (.string (.ofString "utils")))
  have hchild : (greeterWorld [.root 0, .engage .memory]).graph.property? 0 (.ofString "utils") =
      some (.child 2) := rfl
  have hread : read.Allowed id (greeterWorld [.root 0, .engage .memory]) [.proxy 0] :=
    ⟨List.mem_singleton_self _, fun declared h => by cases hchild.symm.trans h⟩
  -- The moves are run once to see what they come to.
  have houtcomes : greeterOutcomes [.release (.proxy 0), .destroy 0, .destroy 0, read, .root 0,
      .engage .memory] = [(1, some none, []), (1, some none, []), (1, some none, []),
        (1, some (some (.proxy 1)), []), (1, some (some (.proxy 0)), []),
        (0, some none, [.proxy 0])] := by decide +kernel
  simp only [greeterOutcomes, List.cons.injEq, Prod.mk.injEq] at houtcomes
  obtain ⟨⟨_, hgot₆, hmade₆⟩, ⟨hthere₅, hgot₅, hmade₅⟩, ⟨hthere₄, hgot₄, hmade₄⟩,
    ⟨_, hgot₃, hmade₃⟩, ⟨hthere₂, hgot₂, hmade₂⟩, ⟨_, hgot₁, hmade₁⟩, _⟩ := houtcomes
  have run₁ : Lifetime id greeter (greeterWorld []) _ _ [] [.proxy 0] :=
    move_greeterWorld .start (m := .engage .memory) trivial none hgot₁ rfl hmade₁
  have run₂ : Lifetime id greeter (greeterWorld []) _ _ [.proxy 0] [.proxy 0] :=
    move_greeterWorld run₁ (m := .root 0) hthere₂.ge _ hgot₂ rfl hmade₂
  have run₃ : Lifetime id greeter (greeterWorld []) _ _ [.proxy 1, .proxy 0] [.proxy 0] :=
    move_greeterWorld run₂ hread _ hgot₃ rfl hmade₃
  have run₄ : Lifetime id greeter (greeterWorld []) _ _ [.proxy 1, .proxy 0] [.proxy 0] :=
    move_greeterWorld run₃ (m := .destroy 0) hthere₄.ge _ hgot₄ rfl hmade₄
  have run₅ : Lifetime id greeter (greeterWorld []) _ _ [.proxy 1, .proxy 0] [.proxy 0] :=
    move_greeterWorld run₄ (m := .destroy 0) hthere₅.ge _ hgot₅ rfl hmade₅
  have run₆ : Lifetime id greeter (greeterWorld []) _ _ [.proxy 1] [.proxy 0] :=
    move_greeterWorld run₅ (m := .release (.proxy 0))
      (List.mem_cons_of_mem _ (List.mem_singleton_self _)) _ hgot₆ rfl hmade₆
  exact ⟨rfl, hnew, _, run₆, run₆.accounted rfl hnew, by decide +kernel, by decide +kernel⟩

end Lifetime

end ObjectBridge

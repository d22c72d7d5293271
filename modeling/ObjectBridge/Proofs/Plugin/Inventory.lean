import ObjectBridge.Proofs.Plugin.Roster

/-!
# `ObjectBridge.Proofs.Plugin.Inventory`: instances, proxies and what is published

An inventory lists the instances of plugins and the proxies there are, and
has the numbers that are published about both. An instance holds one
reference to the proxy of its root until it is destroyed, and the host holds
the others. `Inventory.Correct` says that the counts of the proxies are the
references that are held in this way and that the numbers published are
those of the instances that are not destroyed and of the proxies that are
held.

Five things happen to an inventory: a reference is taken, one is given back,
a proxy is made, an instance is entered with a proxy of its root, and one is
struck off and gives its root back. Each of them keeps it correct.
-/

set_option autoImplicit false

namespace ObjectBridge

variable {β : Type} {p : Plugin} {held roots : List ObjectRef} {q i : Nat}

/-! ### What is published -/

/-- The numbers that are published about instances and proxies: the series
and the totals. -/
@[ext]
structure Gauges where
  instancesActive : Int
  activeInstances : Int
  wrappersLive : Int
  liveWrappers : Int

namespace Gauges

/-- Both books tell these numbers. -/
def of (instances wrappers : Int) : Gauges := ⟨instances, instances, wrappers, wrappers⟩

/-- So many instances and proxies more. -/
def add (g : Gauges) (instances wrappers : Int) : Gauges :=
  ⟨g.instancesActive + instances, g.activeInstances + instances, g.wrappersLive + wrappers,
    g.liveWrappers + wrappers⟩

/-- Gauges are moved by moving both counts. -/
@[simp] theorem of_add (a l d e : Int) : (of a l).add d e = of (a + d) (l + e) := rfl

/-- Nothing moves them by nothing. -/
@[simp] theorem add_zero (g : Gauges) : g.add 0 0 = g := by simp [add]

end Gauges

namespace Metrics

/-- The gauges of both books. -/
def gauges (m : Metrics) : Gauges where
  instancesActive := m.instancesActive
  activeInstances := m.snapshot.activeInstances
  wrappersLive := m.wrappersLive
  liveWrappers := m.snapshot.liveWrappers

/-- A new instance moves one gauge up, -/
@[simp] theorem gauges_instanceCreated (m : Metrics) :
    m.instanceCreated.gauges = m.gauges.add 1 0 := by
  simp [gauges, instanceCreated, Gauges.add]

/-- the end of one moves it down again. -/
@[simp] theorem gauges_instanceDestroyed (m : Metrics) :
    m.instanceDestroyed.gauges = m.gauges.add (-1) 0 := by
  simp [gauges, instanceDestroyed, Gauges.add, Int.sub_eq_add_neg]

/-- A new wrapper moves the other gauge up, -/
@[simp] theorem gauges_wrapperCreated (m : Metrics) :
    m.wrapperCreated.gauges = m.gauges.add 0 1 := by
  simp [gauges, wrapperCreated, Gauges.add]

/-- its release moves it down again. -/
@[simp] theorem gauges_wrapperReleased (m : Metrics) :
    m.wrapperReleased.gauges = m.gauges.add 0 (-1) := by
  simp [gauges, wrapperReleased, Gauges.add, Int.sub_eq_add_neg]

end Metrics

/-! ### The inventory -/

/-- The instances of plugins, the proxies there are, and what is published
about both. -/
@[ext]
structure Inventory where
  proxies : Array Proxy
  /-- The instances without what they report. -/
  instances : Array Instance
  gauges : Gauges

/-- The inventory of a world. -/
def World.inventory (w : World β) : Inventory where
  proxies := w.proxies
  instances := w.instances.map Instance.unreported
  gauges := w.metrics.gauges

namespace Inventory

variable {V : Inventory}

/-- The references to a proxy. -/
def refs (V : Inventory) (q : Nat) : Int := (V.proxies.getD q default).refs.refs

/-- The instances that are not destroyed. -/
def active (V : Inventory) : Nat := V.instances.countP fun x => !x.destroyed

/-- The proxies that somebody holds. -/
def live (V : Inventory) : Nat := V.proxies.countP fun x => 0 < x.refs.refs

/-- The inventory once the count of a proxy has changed. -/
def recount (V : Inventory) (q : Nat) (d : Int) : Inventory :=
  { V with proxies := V.proxies.modify q fun x => { x with refs := { refs := x.refs.refs + d } } }

/-- A proxy is made, and held once. -/
def wrap (V : Inventory) (ctx : Context) (node : NodeId) : Inventory :=
  { V with
    proxies := V.proxies.push { refs := { refs := 1 }, context := ctx, node }
    gauges := V.gauges.add 0 1 }

/-- A reference to a proxy is given back. -/
def release (V : Inventory) (q : Nat) : Inventory :=
  { V.recount q (-1) with gauges := V.gauges.add 0 (if V.refs q = 1 then -1 else 0) }

/-- An instance is entered. -/
def engage (V : Inventory) (x : Instance) : Inventory :=
  { V with instances := V.instances.push x, gauges := V.gauges.add 1 0 }

/-- An instance is struck off. -/
def dismiss (V : Inventory) (i : Nat) : Inventory :=
  { V with instances := V.instances.modify i Instance.dismissed, gauges := V.gauges.add (-1) 0 }

/-! ### Counts -/

/-- When one member changes, the count of those that pass a test changes by
that member. -/
theorem countP_modify {α : Type} {xs : Array α} {x : α} (h : xs[i]? = some x) (test : α → Bool)
    (f : α → α) :
    (xs.modify i f).countP test + (if test x then 1 else 0) = xs.countP test + if test (f x) then 1
    else 0 := by
  obtain ⟨hi, rfl⟩ := Array.getElem?_eq_some_iff.mp h
  have hset : xs.modify i f = xs.set i (f xs[i]) := by
    refine Array.ext_getElem? fun j => ?_
    rw [Array.getElem?_modify, Array.getElem?_set]
    split
    case isTrue hij =>
      subst hij
      rw [h]
      rfl
    case isFalse => rfl
  -- What the place counted for is part of the count, so it can be taken off.
  have hle : (if test xs[i] then 1 else 0) ≤ xs.countP test := by
    split
    case isTrue htest => exact Array.countP_pos_iff.mpr ⟨_, Array.getElem_mem hi, htest⟩
    case isFalse => exact Nat.zero_le _
  rw [hset, Array.countP_set]
  omega

/-- A proxy that has references is there. -/
theorem getElem?_of_refs (h : V.refs q ≠ 0) :
    ∃ x, V.proxies[q]? = some x ∧ x.refs.refs = V.refs q := by
  rw [refs, Array.getD_eq_getD_getElem?] at h ⊢
  cases hx : V.proxies[q]? with
  | some x => exact ⟨x, rfl, rfl⟩
  | none =>
    rw [hx] at h
    exact (h rfl).elim

/-- Recounting changes the references to one proxy. -/
theorem refs_recount (h : V.refs q ≠ 0) (d : Int) (k : Nat) :
    (V.recount q d).refs k = V.refs k + if k = q then d else 0 := by
  obtain ⟨x, hx, _⟩ := getElem?_of_refs h
  simp only [refs, recount, Array.getD_eq_getD_getElem?, Array.getElem?_modify]
  by_cases hk : k = q
  · subst hk
    simp [hx]
  · simp [hk, Ne.symm hk]

/-- Counting leaves proxies to the instances they were made for. -/
theorem exists_of_recount {d : Int} {k : Nat} {x : Proxy}
    (hx : (V.recount q d).proxies[k]? = some x) :
    ∃ y, V.proxies[k]? = some y ∧ y.context = x.context := by
  replace hx : (V.proxies.modify q _)[k]? = some x := hx
  rw [Array.getElem?_modify] at hx
  split at hx
  · obtain ⟨y, hy, rfl⟩ := Option.map_eq_some_iff.mp hx
    exact ⟨y, hy, rfl⟩
  · exact ⟨x, hx, rfl⟩

/-- A new proxy has one reference, and the others keep theirs. -/
theorem refs_wrap (V : Inventory) (ctx : Context) (node : NodeId) (k : Nat) :
    (V.wrap ctx node).refs k = V.refs k + if k = V.proxies.size then 1 else 0 := by
  simp only [refs, wrap, Array.getD_eq_getD_getElem?, Array.getElem?_push]
  by_cases hk : k = V.proxies.size
  · subst hk
    simp
    rfl
  · simp [hk]

/-- A proxy was there before, or it is the one that was made. -/
theorem exists_of_wrap {ctx : Context} {node : NodeId} {k : Nat} {x : Proxy}
    (hx : (V.wrap ctx node).proxies[k]? = some x) : x.context = ctx ∨ V.proxies[k]? = some x := by
  replace hx : (V.proxies.push _)[k]? = some x := hx
  rw [Array.getElem?_push] at hx
  split at hx
  · cases hx
    exact .inl rfl
  · exact .inr hx

/-- An instance was there before, or it is the one that was entered. -/
theorem getElem?_of_engage {x y : Instance} {j : Nat} (hy : (V.engage x).instances[j]? = some y) :
    (j = V.instances.size ∧ y = x) ∨ (j < V.instances.size ∧ V.instances[j]? = some y) := by
  replace hy : (V.instances.push x)[j]? = some y := hy
  rw [Array.getElem?_push] at hy
  split at hy
  case isTrue hj => exact .inl ⟨hj, (Option.some.inj hy).symm⟩
  case isFalse => exact .inr ⟨(Array.getElem?_eq_some_iff.mp hy).1, hy⟩

/-- Striking an instance off does not concern the others. -/
theorem getElem?_of_dismiss {x y : Instance} {j : Nat} (hx : V.instances[i]? = some x)
    (hy : (V.dismiss i).instances[j]? = some y) :
    (j = i ∧ y = x.dismissed) ∨ (j ≠ i ∧ V.instances[j]? = some y) := by
  replace hy : (V.instances.modify i _)[j]? = some y := hy
  rw [Array.getElem?_modify] at hy
  split at hy
  case isTrue hij =>
    subst hij
    rw [hx] at hy
    exact .inl ⟨rfl, (Option.some.inj hy).symm⟩
  case isFalse hij => exact .inr ⟨Ne.symm hij, hy⟩

/-- The last reference to a proxy makes one proxy less that is held. -/
theorem live_recount (h : 1 ≤ V.refs q) (d : Int) :
    ((V.recount q d).live : Int) = V.live + if V.refs q + d ≤ 0 then -1 else 0 := by
  obtain ⟨x, hx, hrefs⟩ := getElem?_of_refs (V := V) (q := q) (by omega)
  have hcount := countP_modify hx (fun x => 0 < x.refs.refs) fun x =>
    { x with refs := { refs := x.refs.refs + d } }
  simp only [decide_eq_true_eq, hrefs] at hcount
  simp only [live, recount]
  -- The proxy was held before, so all that matters is whether it still is.
  split at hcount <;> split at hcount <;> split <;> omega

/-- An instance that is struck off is one less. -/
theorem active_dismiss {x : Instance} (hx : V.instances[i]? = some x)
    (hactive : x.destroyed = false) :
    ((V.dismiss i).active : Int) = V.active + -1 := by
  have hcount := countP_modify hx (fun x => !x.destroyed) Instance.dismissed
  have hless : (V.dismiss i).active + 1 = V.active := by
    simpa [hactive, Instance.dismissed, active, dismiss] using hcount
  omega

/-- What is held and published is correct. The host holds the references
`held`, and `roots` are the proxies of the roots, one for each instance. -/
structure Correct (p : Plugin) (held roots : List ObjectRef) (V : Inventory) : Prop where
  gauges : V.gauges = .of V.active V.live
  /-- A root is held by the host, and by its instance until that is
  destroyed. -/
  root : ∀ (i : Nat) x q, V.instances[i]? = some x → roots[i]? = some (.proxy q) →
    V.refs q = held.count (.proxy q) + if x.destroyed then 0 else 1
  other : ∀ q, .proxy q ∉ roots → V.refs q = held.count (.proxy q)
  holds : ∀ (i : Nat) x, V.instances[i]? = some x → x.plugin = p ∧
    ∃ q < V.proxies.size, roots[i]? = some (.proxy q) ∧ x.scripting = if x.destroyed then none
    else some (.proxy q)
  size : roots.length = V.instances.size
  nodup : roots.Nodup
  proxies : ∀ o ∈ held, ∃ q, o = .proxy q
  /-- Proxies are made for instances that are there. -/
  contexts : ∀ (q : Nat) x, V.proxies[q]? = some x → ∃ i < V.instances.size, x.context.inst = some i

namespace Correct

/-- A root belongs to an instance. -/
theorem mem_roots (h : V.Correct p held roots) {o : ObjectRef} (ho : o ∈ roots) :
    ∃ (i : Nat) (x : Instance) (q : Nat), V.instances[i]? = some x ∧ roots[i]? = some o ∧
      o = .proxy q ∧ q < V.proxies.size := by
  obtain ⟨i, hi, rfl⟩ := List.getElem_of_mem ho
  have hlt : i < V.instances.size := h.size ▸ hi
  have hx : V.instances[i]? = some V.instances[i] := Array.getElem?_eq_getElem hlt
  obtain ⟨_, q, hq, hroot, _⟩ := h.holds i _ hx
  have hroot' := List.getElem?_eq_getElem hi
  exact ⟨i, _, q, hx, hroot', Option.some.inj (hroot'.symm.trans hroot), hq⟩

/-- A proxy that the host holds has references. -/
theorem refs_pos (h : V.Correct p held roots) (hq : .proxy q ∈ held) : 1 ≤ V.refs q := by
  have hcount : 1 ≤ held.count (.proxy q) := List.one_le_count_iff.mpr hq
  -- The host's references count for a root as for any other proxy.
  by_cases hroot : .proxy q ∈ roots
  · obtain ⟨i, x, _, hx, hroot, _⟩ := h.mem_roots hroot
    rw [h.root i x q hx hroot]
    split <;> omega
  · rw [h.other q hroot]
    omega

/-- A change of counts that the host sees as well. -/
theorem recount (h : V.Correct p held roots) {held' : List ObjectRef} {d : Int} (hq : 1 ≤ V.refs q)
    (hcount : ∀ o, (held'.count o : Int) = held.count o + if o = .proxy q then d else 0)
    (hproxies : ∀ o ∈ held', ∃ q, o = .proxy q) :
    ({ V.recount q d with gauges := V.gauges.add 0 (if V.refs q + d ≤ 0 then -1 else 0) } :
    Inventory).Correct
      p held' roots := by
  have hrefs (k : Nat) : (V.recount q d).refs k = V.refs k + if k = q then d else 0 :=
    refs_recount (by omega) d k
  have hcount (k : Nat) : (held'.count (.proxy k) : Int) = held.count (.proxy k) + if k = q then d
  else 0 := by
    simpa using hcount (.proxy k)
  have hsize : (V.recount q d).proxies.size = V.proxies.size := Array.size_modify
  constructor
  case gauges =>
    -- There is a proxy less when nobody holds it any more, and that is what was entered.
    show V.gauges.add 0 _ = .of V.active (V.recount q d).live
    rw [h.gauges, live_recount hq, Gauges.of_add, Int.add_zero]
  case root =>
    intro i x k hx hk
    show (V.recount q d).refs k = _
    rw [hrefs, h.root i x k hx hk, hcount]
    omega
  case other =>
    intro k hk
    show (V.recount q d).refs k = _
    rw [hrefs, h.other k hk, hcount]
  case holds => exact fun i x hx => hsize.symm ▸ h.holds i x hx
  case size => exact h.size
  case nodup => exact h.nodup
  case proxies => exact hproxies
  case contexts =>
    intro k x hx
    obtain ⟨y, hy, hctx⟩ := exists_of_recount hx
    exact hctx ▸ h.contexts k y hy

/-- The host takes another reference to a root. -/
theorem retain (h : V.Correct p held roots) (hq : 1 ≤ V.refs q) :
    (V.recount q 1).Correct p (.proxy q :: held) roots := by
  have hcount (o : ObjectRef) :
      ((ObjectRef.proxy q :: held).count o : Int) = held.count o + if o = .proxy q then 1
      else 0 := by
    rw [List.count_cons]
    by_cases ho : o = .proxy q
    · simp [ho]
    · simp [ho, Ne.symm ho]
  have hproxies : ∀ o ∈ ObjectRef.proxy q :: held, ∃ q, o = .proxy q := by
    intro o ho
    rcases List.mem_cons.mp ho with rfl | ho
    · exact ⟨q, rfl⟩
    · exact h.proxies o ho
  -- A proxy that is held already is no proxy more.
  have hmore := h.recount hq hcount hproxies
  rw [if_neg (by omega), Gauges.add_zero] at hmore
  exact hmore

/-- The host gives a reference back. -/
theorem release (h : V.Correct p held roots) (hq : .proxy q ∈ held) :
    (V.release q).Correct p (held.erase (.proxy q)) roots := by
  have hpos := h.refs_pos hq
  have hcount (o : ObjectRef) :
      ((held.erase (.proxy q)).count o : Int) = held.count o + if o = .proxy q then -1 else 0 := by
    by_cases ho : o = .proxy q
    · subst ho
      have := List.one_le_count_iff.mpr hq
      rw [List.count_erase_self, if_pos rfl]
      omega
    · rw [List.count_erase_of_ne ho, if_neg ho, Int.add_zero]
  have hless := h.recount hpos hcount fun o ho => h.proxies o (List.mem_of_mem_erase ho)
  -- Who gives back the only reference leaves nobody who holds the proxy.
  have hlast : V.refs q + -1 ≤ 0 ↔ V.refs q = 1 := by omega
  simp only [hlast] at hless
  exact hless

/-- The host is handed a new proxy. -/
theorem wrap (h : V.Correct p held roots) {ctx : Context} (hi : i < V.instances.size)
    (hctx : ctx.inst = some i) (node : NodeId) :
    (V.wrap ctx node).Correct p (.proxy V.proxies.size :: held) roots := by
  have hcount (k : Nat) : ((ObjectRef.proxy V.proxies.size :: held).count (.proxy k) : Int) =
      held.count (.proxy k) + if k = V.proxies.size then 1 else 0 := by
    rw [List.count_cons]
    by_cases hk : k = V.proxies.size
    · simp [hk]
    · simp [hk, Ne.symm hk]
  constructor
  case gauges =>
    show V.gauges.add 0 1 = .of V.active ((V.proxies.push _).countP _)
    rw [h.gauges, Array.countP_push, Gauges.of_add]
    simp [live]
  case root =>
    -- The new proxy has one reference, and the host has it.
    intro j x k hx hk
    rw [refs_wrap, h.root j x k hx hk, hcount]
    omega
  case other =>
    intro k hk
    rw [refs_wrap, h.other k hk, hcount]
  case holds =>
    intro j x hx
    obtain ⟨hplugin, q, hq, hroot, hscripting⟩ := h.holds j x hx
    exact ⟨hplugin, q, (by simpa [Inventory.wrap] using Nat.lt_succ_of_lt hq), hroot, hscripting⟩
  case size => exact h.size
  case nodup => exact h.nodup
  case proxies =>
    intro o ho
    rcases List.mem_cons.mp ho with rfl | ho
    · exact ⟨_, rfl⟩
    · exact h.proxies o ho
  case contexts =>
    intro k x hx
    obtain rfl | hx := exists_of_wrap hx
    · exact ⟨i, hi, hctx⟩
    · exact h.contexts k x hx

/-- A root is told apart from a proxy that is made later. -/
theorem fresh (h : V.Correct p held roots) : .proxy V.proxies.size ∉ roots := fun hmem => by
  obtain ⟨_, _, q, _, _, heq, hq⟩ := h.mem_roots hmem
  cases heq
  exact absurd hq (Nat.lt_irrefl _)

/-- An instance is made, with a proxy of its root. -/
theorem engage (h : V.Correct p held roots) {ctx : Context}
    (hctx : ctx.inst = some V.instances.size) (node : NodeId) {x : Instance}
    (hplugin : x.plugin = p) (hscripting : x.scripting = some (.proxy V.proxies.size))
    (hactive : x.destroyed = false) :
    ((V.wrap ctx node).engage x).Correct p held (roots ++ [.proxy V.proxies.size]) := by
  have hlast : (roots ++ [ObjectRef.proxy V.proxies.size])[V.instances.size]? =
      some (.proxy V.proxies.size) := by
    rw [← h.size]
    exact List.getElem?_concat_length
  have hother {j : Nat} (hj : j < V.instances.size) :
      (roots ++ [ObjectRef.proxy V.proxies.size])[j]? = roots[j]? :=
        List.getElem?_append_left (h.size ▸ hj)
  have hsizes : ((V.wrap ctx node).engage x).proxies.size = V.proxies.size + 1 := Array.size_push _
  constructor
  case gauges =>
    show (V.gauges.add 0 1).add 1 0 =
        .of ((V.instances.push x).countP _ : Nat) ((V.proxies.push _).countP _ : Nat)
    rw [h.gauges, Array.countP_push, Array.countP_push]
    simp [hactive, active, live]
  case root =>
    -- The new root is held by its instance only, and no older root is it.
    intro j y k hy hk
    show (V.wrap ctx node).refs k = _
    rw [refs_wrap]
    obtain ⟨rfl, rfl⟩ | ⟨hj, hy⟩ := getElem?_of_engage hy
    · cases hlast.symm.trans hk
      rw [h.other _ h.fresh, if_pos rfl, hactive]
      rfl
    · rw [hother hj] at hk
      have hne : k ≠ V.proxies.size := by
        rintro rfl
        exact h.fresh (List.mem_of_getElem? hk)
      rw [h.root j y k hy hk, if_neg hne, Int.add_zero]
  case other =>
    intro k hk
    obtain ⟨hroots, hne⟩ := not_or.mp (List.mem_append.not.mp hk)
    show (V.wrap ctx node).refs k = _
    rw [refs_wrap, h.other k hroots, if_neg fun heq => hne (by simp [heq]), Int.add_zero]
  case holds =>
    intro j y hy
    rw [hsizes]
    obtain ⟨rfl, rfl⟩ | ⟨hj, hy⟩ := getElem?_of_engage hy
    · exact ⟨hplugin, _, Nat.lt_succ_self _, hlast, by rw [hactive, hscripting]; rfl⟩
    · obtain ⟨hplugin, q, hq, hroot, hscripting⟩ := h.holds j y hy
      exact ⟨hplugin, q, Nat.lt_succ_of_lt hq, (hother hj).trans hroot, hscripting⟩
  case size =>
    rw [List.length_append, h.size]
    exact (Array.size_push _).symm
  case nodup =>
    refine h.nodup.append (List.nodup_singleton _) fun o ho hnew => h.fresh ?_
    rwa [List.mem_singleton.mp hnew] at ho
  case proxies => exact h.proxies
  case contexts =>
    intro k y hy
    have hmore : ((V.wrap ctx node).engage x).instances.size = V.instances.size + 1 :=
      Array.size_push _
    rw [hmore]
    obtain rfl | hy := exists_of_wrap hy
    · exact ⟨_, Nat.lt_succ_self _, hctx⟩
    · obtain ⟨j, hj, hinst⟩ := h.contexts k y hy
      exact ⟨j, Nat.lt_succ_of_lt hj, hinst⟩

/-- An instance is destroyed, and gives its root back. -/
theorem dismiss (h : V.Correct p held roots) {x : Instance} (hx : V.instances[i]? = some x)
    (hactive : x.destroyed = false) (hq : roots[i]? = some (.proxy q)) :
    ((V.release q).dismiss i).Correct p held roots := by
  have hroot : V.refs q = held.count (.proxy q) + 1 := by
    have := h.root i x q hx hq
    rwa [hactive, if_neg Bool.false_ne_true] at this
  have hrefs (k : Nat) : ((V.release q).dismiss i).refs k = V.refs k + if k = q then -1 else 0 :=
    refs_recount (by omega) _ k
  have hsize : ((V.release q).dismiss i).instances.size = V.instances.size := Array.size_modify
  have hproxies : ((V.release q).dismiss i).proxies.size = V.proxies.size := Array.size_modify
  constructor
  case gauges =>
    show (V.gauges.add 0 _).add (-1) 0 =
        .of ((V.dismiss i).active : Nat) ((V.recount q (-1)).live : Nat)
    have hone : V.refs q + -1 ≤ 0 ↔ V.refs q = 1 := by omega
    rw [h.gauges, active_dismiss hx hactive, live_recount (by omega), Gauges.of_add, Gauges.of_add,
      Int.add_zero, Int.add_zero]
    simp only [hone]
  case root =>
    -- The root loses the reference its instance had. Roots are told apart.
    intro j y k hy hk
    rw [hrefs]
    obtain ⟨rfl, rfl⟩ | ⟨hj, hy⟩ := getElem?_of_dismiss hx hy
    · cases hq.symm.trans hk
      rw [hroot, if_pos rfl]
      simp [Instance.dismissed]
    · have hne : k ≠ q := by
        rintro rfl
        exact hj ((List.getElem?_inj (List.getElem?_eq_some_iff.mp hk).1 h.nodup).mp
          (hk.trans hq.symm))
      rw [h.root j y k hy hk, if_neg hne, Int.add_zero]
  case other =>
    intro k hk
    have hne : k ≠ q := by
      rintro rfl
      exact hk (List.mem_of_getElem? hq)
    rw [hrefs, h.other k hk, if_neg hne, Int.add_zero]
  case holds =>
    intro j y hy
    rw [hproxies]
    obtain ⟨rfl, rfl⟩ | ⟨_, hy⟩ := getElem?_of_dismiss hx hy
    · obtain ⟨hplugin, k, hk, hroot, _⟩ := h.holds j x hx
      exact ⟨hplugin, k, hk, hroot, rfl⟩
    · exact h.holds j y hy
  case size => rw [hsize, h.size]
  case nodup => exact h.nodup
  case proxies => exact h.proxies
  case contexts =>
    intro k y hy
    rw [hsize]
    obtain ⟨z, hz, hctx⟩ := exists_of_recount hy
    exact hctx ▸ h.contexts k z hz

end Correct

/-- The instance is there, and destroyed. -/
def IsDestroyed (V : Inventory) (i : Nat) : Prop :=
  ∃ x, V.instances[i]? = some x ∧ x.destroyed = true

/-- A new instance is not destroyed. -/
theorem isDestroyed_engage {x : Instance} (hactive : x.destroyed = false) :
    (V.engage x).IsDestroyed i ↔ V.IsDestroyed i := by
  have hpush (y : Instance) : (V.instances.push x)[i]? = some y ∧ y.destroyed = true ↔
      V.instances[i]? = some y ∧ y.destroyed = true := by
    rw [Array.getElem?_push]
    split
    -- Where the new instance goes there was none, and it is not destroyed.
    case isTrue hi =>
      subst hi
      rw [Array.getElem?_eq_none (Nat.le_refl _)]
      constructor
      · rintro ⟨hy, hdestroyed⟩
        cases hy
        rw [hactive] at hdestroyed
        cases hdestroyed
      · rintro ⟨hy, _⟩
        cases hy
    case isFalse => rfl
  exact exists_congr hpush

/-- Dismissing an instance destroys it and no other. -/
theorem isDestroyed_dismiss {x : Instance} (hx : V.instances[i]? = some x) (j : Nat) :
    (V.dismiss i).IsDestroyed j ↔ V.IsDestroyed j ∨ i = j := by
  unfold IsDestroyed dismiss
  simp only [Array.getElem?_modify]
  by_cases hij : i = j
  · subst hij
    simp [hx, Instance.dismissed]
  · simp [hij]

end Inventory

end ObjectBridge

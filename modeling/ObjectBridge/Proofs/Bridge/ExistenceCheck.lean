import ObjectBridge.Bridge.Host
import ObjectBridge.Proofs.Bridge.Marshalling
import ObjectBridge.Proofs.Builtin.Getters

/-!
# `ObjectBridge.Proofs.Bridge.ExistenceCheck`: reading an index unasked

Before an accessor fetches an index it asks the host whether the index is
there, unless its policy skips the question. On an in-memory host that
answers truthfully this makes no difference but for what the policy makes of
a fetch that fails (`Accessor.getIndexed_transparent`).

There are two parts to it. Where the host says that there is something, both
paths come to the same fetch, with other tallies (`shadows_getIndexed`,
`shadows_getIndexed_unasked`). Where it says that there is nothing, the fetch
fails and leaves references and bytes as they were
(`MemoryHost.perform_getProperty_missing`).
-/

set_option autoImplicit false

namespace ObjectBridge

variable {β : Type} {w : World β}

/-- What a policy makes of the result of a fetch. -/
def MissingIndex.fill : MissingIndex → Option Variant → Option Variant
  | .absent, r => r
  | .undefined, r => some (r.getD .void)
  | .null, r => some (r.getD .null)

/-! ### The in-memory host -/

namespace MemoryHost

/-- What the in-memory host answers when it is asked for a property. -/
def shows (w : World β) (id : Identifier) : ObjectRef → Bool
  | .table i => tableHas (w.table i) w.memory.brokenIndexHas id
  | .proxy i => w.graph.hasProperty (w.proxy i).node id.text
  | .handle _ => false

/-- A proxy times the question, and answers for its node. -/
theorem shadows_asked (p : Proxy) (name : Bytes) (slot : Slot) (w : World β) :
    Shadows w (p.hasProperty (.string name) slot)
      (pure (w.graph.hasProperty p.node name, slot)) := by
  have hanswer : Shadows w (do return ((← get).graph.hasProperty p.node name, slot))
      (pure (w.graph.hasProperty p.node name, slot)) := .look (fun _ _ => rfl) (.pure _)
  exact hanswer.measured p "HasProperty" name

/-- The check shadows saying what the table shows. -/
theorem shadows_hasProperty [Native β] (w : World β) (o : ObjectRef) (id : Identifier) :
    Shadows w (hasProperty o id) (pure (shows w id o)) := by
  refine .pure_bind (shadows_countCall _ w) (.look (fun _ _ => ?_) ?_)
  · cases o <;> rfl
  cases o with
  | table i => exact .pure _
  | handle i => exact .pure _
  | proxy i => exact .pure_bind (shadows_asked (w.proxy i) id.text (some {}) w) (.pure _)

/-- A truthful host shows the indexes it has something stored at. -/
theorem tableGet_eq_none {t : Table} {index : Int32} (h : tableHas t false (.index index) = false) :
    tableGet t (.index index) = none := by
  simp only [tableHas, Bool.not_false, Bool.true_and, Bool.and_eq_false_iff,
    decide_eq_false_iff_not] at h
  simp only [tableGet, Bool.and_eq_true, decide_eq_true_eq]
  split
  next hplace => exact Array.getElem?_eq_none (by rcases h with (h | h) | h <;> simp_all)
  next => rfl

variable [Native β]

/-- A proxy whose node has nothing of that name reports so. -/
theorem perform_getProperty_unknown (ops : HostOps β) (p : Proxy) {name : Bytes}
    (h : w.graph.hasProperty p.node name = false) :
    ∃ w', perform (p.getProperty ops (.string name) (some {})) w =
        (.ok (.void, some { pending := some (Failure.exceptionValue .unknownProperty) }), w') ∧
      w'.memory.allocated = w.memory.allocated ∧ ∀ x, w'.refs x = w.refs x := by
  -- Timing the request changes neither the graph nor the books.
  have hstarted := p.alike_started w "GetProperty" name
  have hnone : (p.started w "GetProperty" name).graph.property? p.node name = none := by
    rw [hstarted.graph]
    exact Option.not_isSome_iff_eq_none.mp (Bool.not_eq_true _ ▸ h)
  obtain ⟨w₁, hfail, hfailed, hbytes⟩ :=
    p.perform_fail_plain (some {}) (f := .unknownProperty) rfl (p.started w "GetProperty" name)
  have hask : perform (do p.answer (some {}) (← Node.getProperty ops p.context p.node name))
      (p.started w "GetProperty" name) =
        (.ok (.void, some { pending := some (Failure.exceptionValue .unknownProperty) }), w₁) := by
    unfold Node.getProperty
    simp only [bind_assoc]
    rw [perform_bind_ok (perform_get _), hnone]
    exact perform_bind_ok hfail _
  refine ⟨p.stopped w "GetProperty" name w₁, ?_, ?_, fun x => ?_⟩
  · unfold Proxy.getProperty
    dsimp only
    rw [Proxy.perform_measured_eq, hask]
  · have hout := ((p.till_stopped "GetProperty" name w w₁ .memory).trans (hbytes .memory)).trans
      (p.till_started "GetProperty" name w .memory)
    exact congrArg Till.out hout
  · have hrefs :=
      ((hstarted.trans hfailed).trans (p.alike_stopped w "GetProperty" name w₁)).recounts.refs x
    rw [hrefs, Pi.zero_apply, add_zero]

/-- What a truthful host does not show cannot be fetched, and the attempt
leaves references and bytes as they were. -/
theorem perform_getProperty_missing (hbroken : w.memory.brokenIndexHas = false) (ops : HostOps β)
    {o : ObjectRef} {index : Int32} (h : shows w (.index index) o = false) :
    ∃ w', perform (getProperty ops o (.index index)) w = (.ok none, w') ∧
      w'.memory.allocated = w.memory.allocated ∧ ∀ x, w'.refs x = w.refs x := by
  obtain ⟨calls, recorders, hcount⟩ := shadows_countCall "GetProperty" w w.memory.calls w.recorders
  unfold getProperty
  rw [perform_bind_ok (show perform (countCall "GetProperty") w = _ from hcount),
    perform_bind_ok (perform_get _)]
  -- The proxy reports what it does not know in its slot, which is given back unread.
  cases o with
  | handle i => exact ⟨_, rfl, rfl, fun x => by cases x <;> rfl⟩
  | table i =>
    rw [shows, hbroken] at h
    have hnone : tableGet ((w.retallied calls recorders).table i) (.index index) = none :=
      tableGet_eq_none h
    refine ⟨w.retallied calls recorders, ?_, rfl, fun x => by cases x <;> rfl⟩
    simp only [perform_pure, hnone]
  | proxy i =>
    obtain ⟨w₁, hask, hbytes, hrefs⟩ :=
      perform_getProperty_unknown (w := w.retallied calls recorders) ops (w.proxy i) h
    refine ⟨w₁.retallied (w₁.memory.calls.alter "ReleaseVariant" fun n => n.getD 0 + 1)
      w₁.recorders, (perform_bind_ok hask _).trans rfl, hbytes, fun x => ?_⟩
    have hx : w₁.refs x = w.refs x := (hrefs x).trans (by cases x <;> rfl)
    rw [← hx]
    cases x <;> rfl

/-- A fetch that is made in any case comes to the same as one that is made
where the host shows something. -/
theorem perform_getProperty_shown (hbroken : w.memory.brokenIndexHas = false) (ops : HostOps β)
    (o : ObjectRef) (index : Int32) (fill : Option Variant → Option Variant) :
    let fetched := perform (do return fill (← getProperty ops o (.index index))) w
    let shown := perform (if shows w (.index index) o then getProperty ops o (.index index)
    else return none) w
    fetched.1 = shown.1.map fill ∧ fetched.2.memory.allocated = shown.2.memory.allocated ∧
      ∀ x, fetched.2.refs x = shown.2.refs x := by
  cases hshows : shows w (.index index) o with
  | true =>
    simp only [if_true, perform_bind]
    cases perform (getProperty ops o (.index index)) w with
    | mk r w' => cases r <;> exact ⟨rfl, rfl, fun _ => rfl⟩
  | false =>
    obtain ⟨w', hmissing, hbytes, hrefs⟩ := perform_getProperty_missing hbroken ops hshows
    rw [perform_bind_ok hmissing]
    exact ⟨rfl, hbytes, hrefs⟩

end MemoryHost

/-! ### The two paths -/

namespace Accessor

variable {a b : Accessor} {ops : HostOps β} {o : ObjectRef} {index : Int32}

/-- The question an accessor asks before it fetches. -/
def asks (a : Accessor) (ops : HostOps β) (host : HostId) (o : ObjectRef)
    (index : Int32) : M β Bool := do
  let id ← a.timed "IntIdentifier" (intIdentifier host index)
  a.timed "HasProperty" (ops.hasProperty host o id)

/-- Where the host says no, the path that asks ends. -/
theorem perform_getIndexed_of_asks (ha : a.policy.skipExistenceCheck = false) {w' : World β}
    (h : perform (a.asks ops .memory o index) w = (.ok false, w')) :
    perform (a.getIndexed ops .memory o index) w = (.ok none, w') := by
  obtain ⟨id, w₁, hid, hasks⟩ := exists_of_perform_bind h
  unfold getIndexed
  rw [perform_bind_ok hid]
  simp only [ha, Bool.false_eq_true, if_false]
  rw [perform_bind_ok hasks]
  rfl

/-- What the host would answer makes no difference to the path that does not
ask. -/
theorem getIndexed_unasked (hb : b.policy.skipExistenceCheck = true) (ops : HostOps β)
    (has : HostId → ObjectRef → Identifier → M β Bool) (o : ObjectRef) (index : Int32) :
    b.getIndexed { ops with hasProperty := has } .memory o index =
      b.getIndexed ops .memory o index := by
  simp only [getIndexed, hb, if_true]

/-- Making the identifier of an index shadows giving it. -/
theorem shadows_intIdentifier (a : Accessor) (index : Int32) (w : World β) :
    Shadows w (a.timed "IntIdentifier" (intIdentifier .memory index)) (pure (.index index)) := by
  have hcounts : Shadows w (intIdentifier .memory index) (pure (.index index)) :=
    fun _ _ => ⟨_, _, rfl⟩
  exact hcounts.timed a "IntIdentifier"

section

variable [Native β] {level : Nat}

/-- The path that asks fetches what the host shows. -/
theorem shadows_getIndexed (ha : a.policy.skipExistenceCheck = false)
    (hgetters : w.graph.HeedlessGetters (hostOps level)) (o : ObjectRef) (index : Int32) :
    Shadows w (a.getIndexed (hostOps (level + 1)) .memory o index)
      (if MemoryHost.shows w (.index index) o then MemoryHost.getProperty (hostOps level) o
        (.index index) else return none) := by
  unfold getIndexed
  refine .pure_bind (shadows_intIdentifier a index w) ?_
  simp only [ha, Bool.false_eq_true, if_false]
  refine .pure_bind ((MemoryHost.shadows_hasProperty w o (.index index)).timed a "HasProperty") ?_
  cases MemoryHost.shows w (.index index) o with
  | true => exact (MemoryHost.shadows_getProperty hgetters o (.index index)).timed a "GetProperty"
  | false => exact .pure none

/-- The path that does not ask fetches in any case, and goes by its
policy. -/
theorem shadows_getIndexed_unasked (hb : b.policy.skipExistenceCheck = true)
    (hgetters : w.graph.HeedlessGetters (hostOps level)) (o : ObjectRef) (index : Int32) :
    Shadows w (b.getIndexed (hostOps (level + 1)) .memory o index)
      (do return b.policy.missing.fill (← MemoryHost.getProperty (hostOps level) o
        (.index index))) := by
  unfold getIndexed
  refine .pure_bind (shadows_intIdentifier b index w) ?_
  simp only [hb, if_true]
  refine .bind ((MemoryHost.shadows_getProperty hgetters o (.index index)).timed b "GetProperty")
    fun r w' _ => ?_
  cases r with
  | some v => cases b.policy.missing <;> exact .pure _
  | none => cases b.policy.missing <;> exact .pure _

end

/-- Reading an index without asking comes to the same as asking first. -/
structure Transparent (ops : HostOps β) (a b : Accessor) (o : ObjectRef) (index : Int32)
    (w : World β) : Prop where
  /-- The results differ in what the policy makes of nothing. -/
  result : (perform (b.getIndexed ops .memory o index) w).1 =
    (perform (a.getIndexed ops .memory o index) w).1.map b.policy.missing.fill
  allocated : (perform (b.getIndexed ops .memory o index) w).2.memory.allocated =
    (perform (a.getIndexed ops .memory o index) w).2.memory.allocated
  refs : ∀ x, (perform (b.getIndexed ops .memory o index) w).2.refs x =
    (perform (a.getIndexed ops .memory o index) w).2.refs x
  /-- The one path asks nothing: it is the same with any other answers. -/
  unasked : ∀ has, b.getIndexed { ops with hasProperty := has } .memory o index =
    b.getIndexed ops .memory o index
  /-- The other one fetches nothing when the host has said no: it is the same
  with anything else to fetch. -/
  unfetched : ∀ w', perform (a.asks ops .memory o index) w = (.ok false, w') →
    ∀ fetch, perform (a.getIndexed { ops with getProperty := fetch } .memory o index) w =
    (.ok none, w')

variable [Native β] {level : Nat}

/-- On a truthful in-memory host the question can be skipped. -/
theorem getIndexed_transparent (hbroken : w.memory.brokenIndexHas = false)
    (hgetters : w.graph.HeedlessGetters (hostOps level)) (ha : a.policy.skipExistenceCheck = false)
    (hb : b.policy.skipExistenceCheck = true) (o : ObjectRef) (index : Int32) :
    Transparent (hostOps (level + 1)) a b o index w := by
  obtain ⟨calls, recorders, hasked⟩ :=
    shadows_getIndexed ha hgetters o index w.memory.calls w.recorders
  obtain ⟨calls', recorders', hskipped⟩ :=
    shadows_getIndexed_unasked hb hgetters o index w.memory.calls w.recorders
  change perform (a.getIndexed (hostOps (level + 1)) .memory o index) w = _ at hasked
  change perform (b.getIndexed (hostOps (level + 1)) .memory o index) w = _ at hskipped
  -- What was called and recorded differs between the two, and no count of references depends on it.
  have hrefs (v : World β) (calls : Dict String Nat) (recorders : Array Recorder) (x : ObjectRef) :
      (v.retallied calls recorders).refs x = v.refs x := by cases x <;> rfl
  obtain ⟨hresult, hbytes, hsame⟩ :=
    MemoryHost.perform_getProperty_shown hbroken (hostOps level) o index b.policy.missing.fill
  constructor
  case result =>
    rw [hasked, hskipped]
    exact hresult
  case allocated =>
    rw [hasked, hskipped]
    exact hbytes
  case refs =>
    intro x
    rw [hasked, hskipped, hrefs, hrefs]
    exact hsame x
  case unasked =>
    intro has
    exact getIndexed_unasked hb _ has o index
  case unfetched =>
    intro w' hasks fetch
    exact perform_getIndexed_of_asks ha hasks

/-- A proxy of a node with two properties, the first of which cannot be
read. -/
def sealedWorld : World StandIn :=
  let properties : List (Bytes × Property StandIn) :=
    [(.ofString "0", { set := some (.store "drawer") }),
      (.ofString "1", { get := some (.constant (.value .void)) })]
  { proxies := #[{ refs := { refs := 1 }, context := { host := .memory }, node := 0 }]
    graph := { nodes := #[{ cls := some { properties := .ofList properties } }] } }

/-- The host shows both properties. The first cannot be fetched, and the
policy makes a null of that; the second is fetched as it is. -/
theorem getIndexed_transparent_sealed :
    let asking : Accessor := {}
    let skipping : Accessor := { policy := { skipExistenceCheck := true, missing := .null } }
    sealedWorld.memory.brokenIndexHas = false ∧ sealedWorld.graph.HeedlessGetters (hostOps 0) ∧
      (∀ index ∈ [0, 1], (perform (asking.asks (hostOps 1) .memory (.proxy 0) index)
      sealedWorld).1 = .ok true) ∧
      (perform (skipping.getIndexed (hostOps 1) .memory (.proxy 0) 0) sealedWorld).1 =
      .ok (some .null) ∧ (perform (skipping.getIndexed (hostOps 1) .memory (.proxy 0) 1)
      sealedWorld).1 = .ok (some .void) := by
  intro asking skipping
  have hgetters := StandIn.heedlessGetters (hostOps 0) sealedWorld.graph
  have hresult (index : Int32) :=
    (getIndexed_transparent (w := sealedWorld) (a := asking) (b := skipping) rfl hgetters rfl rfl
      (.proxy 0) index).result
  have hfirst : (perform (asking.getIndexed (hostOps 1) .memory (.proxy 0) 0) sealedWorld).1 =
      .ok none := by rfl
  have hsecond : (perform (asking.getIndexed (hostOps 1) .memory (.proxy 0) 1) sealedWorld).1 =
      .ok (some .void) := by rfl
  refine ⟨rfl, hgetters, ?_, ?_, ?_⟩
  · simp only [List.forall_mem_cons, List.not_mem_nil, false_imp_iff, implies_true, and_true]
    exact ⟨rfl, rfl⟩
  · rw [hresult 0, hfirst]
    rfl
  · rw [hresult 1, hsecond]
    rfl

end Accessor

end ObjectBridge

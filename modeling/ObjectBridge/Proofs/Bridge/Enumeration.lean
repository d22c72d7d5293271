import ObjectBridge.Proofs.Bridge.ScriptView
import ObjectBridge.Proofs.Graph.Listing

/-!
# `ObjectBridge.Proofs.Bridge.Enumeration`: the keys of a native object

A script that goes through the keys of a native object gets the names of the
node's members (`names_of_serveKeys`), and for each key it can ask whether
the object has it. The keys come from the tables of the classes, the answer
from the searches along the chain, and `Proofs.Graph.Listing` says when the
two agree. `enumeration_of_isChain` says it of the script's view: every key
is there exactly when each method without code is hidden behind something
that can be found.
-/

set_option autoImplicit false

namespace ObjectBridge.ScriptHost

variable {β : Type} {w w' : World β} {p : Proxy} {i : Nat} {l : List NodeId}

/-- The loop over the names gives back the names. -/
theorem names_of_nameVariants {host : HostId} {done vs : List Variant} {names : List Bytes}
    (h : perform (Proxy.nameVariants host done names) w = (.ok (.ok vs), w')) :
    vs = done.reverse ++ names.map .string := by
  induction names generalizing done w with
  | nil =>
    cases h
    simp
  | cons name rest ih =>
    unfold Proxy.nameVariants at h
    obtain ⟨made, w₁, hmade, hrest⟩ := exists_of_perform_bind h
    cases made with
    | error f =>
      obtain ⟨_, _, _, hfailed⟩ := exists_of_perform_bind hrest
      cases hfailed
    | ok v =>
      rw [ih hrest, Proxy.eq_of_valueFromString hmade]
      simp

/-- A failure that is reported into an empty slot is pending. -/
theorem pending_of_fail {f : Failure} {slot : Slot}
    (h : perform (p.fail (some {}) f) w = (.ok slot, w')) :
    pending slot = true := by
  obtain ⟨slot', w₁, hraise, hrest⟩ := exists_of_perform_bind h
  obtain ⟨_, w₂, _, hreturn⟩ := exists_of_perform_bind hrest
  cases hraise
  cases hreturn
  rfl

/-- A host that gets no exception gets the names of the node. -/
theorem names_of_propertyNames {names : Option (List Variant)} {slot : Slot}
    (h : perform (p.propertyNames (some {})) w = (.ok (names, slot), w'))
    (hpending : pending slot = false) :
    names = some ((w.graph.memberNames p.node).map .string) := by
  unfold Proxy.propertyNames at h
  rw [Proxy.perform_measured_eq, perform_bind_ok (perform_get _),
    (p.alike_started w _ _).graph] at h
  obtain ⟨hanswer, _⟩ := Prod.mk.inj h
  obtain ⟨made, w₁, hmade, hrest⟩ := exists_of_perform_bind (Prod.ext hanswer rfl)
  cases made with
  | ok vs =>
    cases hrest
    simpa using names_of_nameVariants hmade
  | error f =>
    obtain ⟨_, w₂, hfail, hreturn⟩ := exists_of_perform_bind hrest
    cases hreturn
    rw [pending_of_fail hfail] at hpending
    cases hpending

/-- A script gets the names of the node as keys, if it gets any. -/
theorem names_of_serveKeys {keys : List Script.Key}
    (h : perform (serveKeys i p) w = (.ok (.names keys), w')) :
    keys = (w.graph.memberNames p.node).map fun name => .ofText (.ofBytes name) := by
  unfold serveKeys at h
  obtain ⟨⟨names, slot⟩, w₁, hnames, hrest⟩ := exists_of_perform_bind h
  dsimp only at hrest
  split at hrest
  · exact absurd hrest (throwPending_ne_ok slot w₁ w' _)
  next hpending =>
    obtain ⟨_, w₂, _, hreturn⟩ := exists_of_perform_bind hrest
    cases hreturn
    rw [names_of_propertyNames hnames (Bool.not_eq_true _ ▸ hpending)]
    simp [Variant.asBytes, Variant.bytes?]

/-- An object has what the searches find. -/
theorem perform_serveHas (p : Proxy) (name : Bytes) (w : World β) :
    ∃ w', perform (serveHas p name) w =
      (.ok (w.graph.hasMethod p.node name || w.graph.hasProperty p.node name), w') := by
  have hasks := p.perform_hasMethod_probed name (some {}) w
  have hgraph := (p.alike_probed "HasMethod" name w).graph
  unfold serveHas
  rw [perform_bind_ok hasks]
  cases w.graph.hasMethod p.node name with
  | true => exact ⟨_, rfl⟩
  | false =>
    have hlooks := p.perform_hasProperty_probed name (some {}) (p.probed "HasMethod" name w)
    rw [hgraph] at hlooks
    exact ⟨_, perform_bind_ok hlooks _⟩

/-- The keys of a native object at a node with the chain `l`. -/
structure Enumeration (i : Nat) (p : Proxy) (w : World β) (l : List NodeId) : Prop where
  /-- The names are those of the tables along the chain, each once and in
  order. -/
  listing : Graph.Listing w.graph p.node l
  /-- A script that gets keys gets these names. -/
  keys : ∀ keys w', perform (serveKeys i p) w = (.ok (.names keys), w') →
    keys = (w.graph.memberNames p.node).map fun name => .ofText (.ofBytes name)
  /-- The object says of every name whether a search finds it. -/
  has : ∀ name, ∃ found w', perform (serveHas p name) w = (.ok found, w') ∧
    (found = true ↔ w.graph.Resolves name p.node l ∨ ∃ m ∈ l, w.graph.HasChild name m)
  /-- It has all of the names when no method without code is all there is
  to a name. -/
  has_all_iff : (∀ name ∈ w.graph.memberNames p.node, (perform (serveHas p name) w).1 = .ok true) ↔
    ∀ name, (∃ m ∈ l, w.graph.HasHollow name m) →
      w.graph.Resolves name p.node l ∨ ∃ m ∈ l, w.graph.HasChild name m

/-- A proxy whose chain ends enumerates what is along the chain. -/
theorem enumeration_of_isChain (h : Graph.IsChain w.graph (some p.node) l) (i : Nat) :
    Enumeration i p w l := by
  have hlisting := Graph.listing_of_isChain h
  have hfound (name : Bytes) : (w.graph.hasMethod p.node name || w.graph.hasProperty p.node name) =
      true ↔ w.graph.Resolves name p.node l ∨ ∃ m ∈ l, w.graph.HasChild name m := by
    rw [Bool.or_eq_true, Graph.hasProperty_iff, h.chain_eq, Graph.Resolves, or_assoc, ← exists_or]
    simp only [← and_or_left, Graph.Offers]
  have hhas (name : Bytes) : (perform (serveHas p name) w).1 = .ok true ↔
      w.graph.Resolves name p.node l ∨ ∃ m ∈ l, w.graph.HasChild name m := by
    obtain ⟨w', hrun⟩ := perform_serveHas p name w
    rw [hrun, ← hfound, Except.ok.injEq]
  refine ⟨hlisting, fun _ _ => names_of_serveKeys, fun name => ?_, ?_⟩
  · obtain ⟨w', hrun⟩ := perform_serveHas p name w
    exact ⟨_, w', hrun, hfound name⟩
  simp only [hhas]
  constructor
  · rintro hall name ⟨m, hm, hhollow⟩
    exact hall name ((hlisting.mem_iff name).mpr
      ⟨m, hm, .inr (Graph.hasEntry_iff.mpr (.inr hhollow))⟩)
  · intro hcovered name hname
    by_cases hhollow : ∃ m ∈ l, w.graph.HasHollow name m
    · exact hcovered name hhollow
    · -- Without such an entry the list and the searches agree.
      exact .inl (((hlisting.agrees_iff name).mpr fun hsome => absurd hsome hhollow).mp hname)

/-- A method without code, and behind it a property of that name. -/
def coveredWorld : World Unit :=
  { proxies := #[{ refs := { refs := 1 }, context := { host := .script 0 }, node := 0 }]
    graph := { nodes := #[
      { base := some 1, cls := some { methods := .ofList [(.ofString "x", none)] } },
      { cls := some { properties := .ofList [(.ofString "x", {})] } }] }
    runtimes := #[{}] }

/-- The name is listed once, and the object has it. -/
theorem enumeration_covered :
    Graph.IsChain coveredWorld.graph (some (coveredWorld.proxy 0).node) [0, 1] ∧
      coveredWorld.graph.memberNames (coveredWorld.proxy 0).node = [.ofString "x"] ∧
      ∀ name ∈ coveredWorld.graph.memberNames (coveredWorld.proxy 0).node,
        (perform (serveHas (coveredWorld.proxy 0) name) coveredWorld).1 = .ok true := by
  have hchain : Graph.IsChain coveredWorld.graph (some (coveredWorld.proxy 0).node) [0, 1] :=
    .cons (.cons .nil)
  have hnames : coveredWorld.graph.memberNames (coveredWorld.proxy 0).node = [.ofString "x"] := by
    decide
  refine ⟨hchain, hnames, (enumeration_of_isChain hchain 0).has_all_iff.mpr ?_⟩
  rintro name ⟨m, hm, hhollow⟩
  have hlisted := ((enumeration_of_isChain hchain 0).listing.mem_iff name).mpr
    ⟨m, hm, .inr (Graph.hasEntry_iff.mpr (.inr hhollow))⟩
  rw [hnames, List.mem_singleton] at hlisted
  refine .inl (.inr ⟨1, by simp, Graph.mem_declaredNames.mp ?_⟩)
  rw [hlisted]
  decide

end ObjectBridge.ScriptHost

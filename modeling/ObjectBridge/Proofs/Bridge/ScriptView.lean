import ObjectBridge.Bridge.Host
import ObjectBridge.Builtin.Behaviour
import ObjectBridge.Proofs.Bridge.Request
import ObjectBridge.Proofs.Data.Dict
import ObjectBridge.Proofs.Graph.Nearest

/-!
# `ObjectBridge.Proofs.Bridge.ScriptView`: what a script reads at a node

A node has at most one member of a name that a script can read: its own
method, else what its class declares, else its child (`Graph.IsMember`). A
node without such a member leaves the name to its base.

A script's read puts two questions to the whole chain, one after the other:
is there a method, and is there a property. `Graph.Serves` says which node's
member is read that way, and `view_of_isChain` that every read at a node
whose chain ends is a read of that member, and finds nothing when no node
has one.

The nearest node with a member is not always the one that serves.
`serves_nearest_iff` says when it is: when it has a method itself, or when
no node behind it has one. A method of the base is read before a child of
the node (`not_nearest_overlaid`).
-/

set_option autoImplicit false

namespace ObjectBridge

variable {β : Type}

/-! ### Members of nodes -/

namespace Graph

variable {g : Graph β} {name : Bytes} {l : List NodeId} {d k : NodeId}

/-- What a script can read at one node alone. -/
inductive Member (β : Type)
  | method
  | property (found : Found β)

/-- The node has a member of that name. -/
def HasMember (g : Graph β) (name : Bytes) (n : NodeId) : Prop :=
  g.HasOwnMethod name n ∨ g.Offers name n

/-- This is the member of that name which the node has. -/
def IsMember (g : Graph β) (name : Bytes) (n : NodeId) : Member β → Prop
  | .method => g.HasOwnMethod name n
  | .property found => ¬ g.HasOwnMethod name n ∧ g.ownProperty? n name = some found

/-- Along the chain `l`, a script reads the member of `d`: of the first node
with a method, or, when no node has one, of the first with a property. -/
def Serves (g : Graph β) (name : Bytes) (l : List NodeId) (d : NodeId) : Prop :=
  Nearest (g.HasOwnMethod name) l d ∨ (∀ k ∈ l, ¬ g.HasOwnMethod name k) ∧
    Nearest (g.Offers name) l d

/-- What is nearest is in the chain. -/
theorem Nearest.mem {has : NodeId → Prop} (h : Nearest has l d) : d ∈ l := by
  obtain ⟨nearer, further, rfl, _⟩ := h
  exact List.mem_append_right _ List.mem_cons_self

/-- It has what was asked for. -/
theorem Nearest.has {has : NodeId → Prop} (h : Nearest has l d) : has d := by
  obtain ⟨_, _, _, hd, _⟩ := h
  exact hd

/-- The nearest node with a member serves exactly when it has a method, or
nobody has. -/
theorem serves_nearest_iff (hd : Nearest (g.HasMember name) l d) :
    g.Serves name l d ↔ g.HasOwnMethod name d ∨ ∀ k ∈ l, ¬ g.HasOwnMethod name k := by
  obtain ⟨nearer, further, hsplit, hmember, hskip⟩ := hd
  constructor
  · rintro (⟨_, _, _, hmethod, _⟩ | ⟨hnone, _⟩)
    · exact .inl hmethod
    · exact .inr hnone
  · rintro (hmethod | hnone)
    · exact .inl ⟨nearer, further, hsplit, hmethod, fun k hk h => hskip k hk (.inl h)⟩
    · have hin : d ∈ l := hsplit ▸ List.mem_append_right _ List.mem_cons_self
      have hoffers : g.Offers name d := hmember.resolve_left (hnone d hin)
      exact .inr ⟨hnone, nearer, further, hsplit, hoffers, fun k hk h => hskip k hk (.inr h)⟩

end Graph

/-! ### Asking whether there is a member -/

namespace Proxy

/-- The world after a question that is only timed. -/
def probed (p : Proxy) (operation : String) (name : Bytes) (w : World β) : World β :=
  p.stopped w operation name (p.started w operation name)

/-- Probing leaves the books. -/
theorem alike_probed (p : Proxy) (operation : String) (name : Bytes) (w : World β) :
    w.Alike (p.probed operation name w) :=
  (p.alike_started w operation name).trans (p.alike_stopped w operation name _)

/-- A question to the graph is answered while a timer is running. -/
theorem perform_question {α : Type} (p : Proxy) (operation : String) (name : Bytes)
    (answer : Graph β → α) (w : World β) :
    perform (p.measured operation name do return answer (← get).graph) w =
      (.ok (answer w.graph), p.probed operation name w) := by
  have hgraph := (p.alike_started w operation name).graph
  rw [perform_measured_eq, perform_bind_ok (perform_get _), perform_pure, hgraph]
  rfl

/-- A proxy says whether the node has a method. -/
theorem perform_hasMethod_probed (p : Proxy) (name : Bytes) (slot : Slot) (w : World β) :
    perform (p.hasMethod (.string name) slot) w =
      (.ok (w.graph.hasMethod p.node name, slot), p.probed "HasMethod" name w) :=
  p.perform_question "HasMethod" name (fun g => (g.hasMethod p.node name, slot)) w

/-- It says whether it has a property. -/
theorem perform_hasProperty_probed (p : Proxy) (name : Bytes) (slot : Slot) (w : World β) :
    perform (p.hasProperty (.string name) slot) w =
      (.ok (w.graph.hasProperty p.node name, slot), p.probed "HasProperty" name w) :=
  p.perform_question "HasProperty" name (fun g => (g.hasProperty p.node name, slot)) w

end Proxy

/-! ### Reading members -/

namespace ScriptHost

variable [Native β] {ops : HostOps β} {i : Nat} {ref : ObjectRef} {p : Proxy} {key : String}
    {w : World β}

/-- What native code answers when a property is read: the getter's answer,
or a new proxy of the child. -/
def source (ops : HostOps β) (ctx : Context) : Graph.Found β → M β (Except Failure Variant)
  | .declared { get := some code, .. } => Native.call ops ctx code []
  | .declared _ => return .error .unknownProperty
  | .child c => return .ok (.object (← newProxy ctx c))

/-- Hands an answer to a script: its value, or the exception it is. -/
def handOver (i : Nat) (p : Proxy) (key : String) (answer : M β (Except Failure Variant)) :
    M β Reply := do
  let (v, slot) ← p.measured "GetProperty" (.ofString key) do p.answer (some {}) (← answer)
  if pending slot then throwPending i slot
  else cleanly (return .value (← toValue i v)) (releaseVariant (.script i) v)

/-- Reads one member for a script: a method comes as a new function, a
property as what it answers. -/
def readMember (ops : HostOps β) (i : Nat) (ref : ObjectRef) (p : Proxy) (key : String) :
    Graph.Member β → M β Reply
  | .method => do
    let realm := ((← get).runtime i).realm
    let f ← withHeap fun h => let (h, f) := h.newNativeMethod realm ref key; (f, h)
    return .value (.object f)
  | .property found => handOver i p key (source ops p.context found)

/-- The world in which a member is read, after the questions that found
it. -/
def asked (p : Proxy) (name : Bytes) (w : World β) : Graph.Member β → World β
  | .method => p.probed "HasMethod" name w
  | .property _ => p.probed "HasProperty" name (p.probed "HasMethod" name w)

/-- A read at a node with the chain `l`. -/
structure View (ops : HostOps β) (i : Nat) (ref : ObjectRef) (p : Proxy) (key : String)
    (w : World β) (l : List NodeId) : Prop where
  /-- It is a read of the member that serves. -/
  read : ∀ d m, w.graph.Serves (.ofString key) l d → w.graph.IsMember (.ofString key) d m →
    perform (serveGet ops i ref p key) w =
    perform (readMember ops i ref p key m) (asked p (.ofString key) w m)
  /-- There is nothing exactly when no node has a member. -/
  absent_iff : (perform (serveGet ops i ref p key) w).1 = .ok .absent ↔
    ∀ d ∈ l, ¬ w.graph.HasMember (.ofString key) d
  /-- The nearest node with a member serves, unless only nodes behind it
  have a method. -/
  nearest_iff : ∀ d, Graph.Nearest (w.graph.HasMember (.ofString key)) l d →
    (w.graph.Serves (.ofString key) l d ↔
      w.graph.HasOwnMethod (.ofString key) d ∨ ∀ k ∈ l, ¬ w.graph.HasOwnMethod (.ofString key) k)
  /-- In that case the script gets a function, whatever the nearest node
  has. -/
  overlaid : (∃ k ∈ l, w.graph.HasOwnMethod (.ofString key) k) →
    ∃ f w', perform (serveGet ops i ref p key) w = (.ok (.value (.object f)), w') ∧
      (w'.heap.obj f).kind = .function (.native ref key) ∧ w'.proxies = w.proxies

/-- What a node answers comes from what the search found. -/
theorem perform_getProperty_eq_source {ctx : Context} {n : NodeId} {name : Bytes}
    {found : Graph.Found β} (hfound : w.graph.property? n name = some found) :
    perform (Node.getProperty ops ctx n name) w = perform (source ops ctx found) w := by
  rw [Node.getProperty, perform_bind_ok (perform_get w), hfound]
  cases found with
  | child c => rfl
  | declared property =>
    obtain ⟨get, set⟩ := property
    cases get <;> rfl

omit [Native β] in
/-- Answers that agree once the timer runs are handed over alike. -/
theorem perform_handOver_congr {answer answer' : M β (Except Failure Variant)}
    (h : perform answer (p.started w "GetProperty" (.ofString key)) =
      perform answer' (p.started w "GetProperty" (.ofString key))) :
    perform (handOver i p key answer) w = perform (handOver i p key answer') w := by
  have hanswered : perform (p.measured "GetProperty" (.ofString key)
      do p.answer (some {}) (← answer)) w =
      perform (p.measured "GetProperty" (.ofString key) do p.answer (some {}) (← answer')) w := by
    rw [Proxy.perform_measured_eq, Proxy.perform_measured_eq, perform_bind, perform_bind, h]
  rw [handOver, handOver, perform_bind, perform_bind, hanswered]

/-- Where some node has a method, a script reads a function. -/
theorem perform_serveGet_of_hasMethod (h : w.graph.hasMethod p.node (.ofString key) = true) :
    perform (serveGet ops i ref p key) w =
      perform (readMember ops i ref p key .method) (asked p (.ofString key) w .method) := by
  have hasks := p.perform_hasMethod_probed (.ofString key) (some {}) w
  rw [h] at hasks
  exact perform_bind_ok hasks _

/-- A method comes as a new function that calls it. No proxy is made. -/
theorem perform_readMember_method (ops : HostOps β) (i : Nat) (ref : ObjectRef) (p : Proxy)
    (key : String) (w : World β) :
    ∃ f w', perform (readMember ops i ref p key .method) w = (.ok (.value (.object f)), w') ∧
      (w'.heap.obj f).kind = .function (.native ref key) ∧ w'.proxies = w.proxies := by
  refine ⟨_, _, rfl, ?_, rfl⟩
  show (((w.heap.newNativeMethod (w.runtime i).realm ref key).1).obj w.heap.objects.size).kind = _
  simp [Script.Heap.newNativeMethod, Script.Heap.newFunction, Script.Heap.alloc, Script.Heap.obj]

/-- Where no node has a method, a script reads what the search for a
property finds. -/
theorem perform_serveGet_of_property? {found : Graph.Found β}
    (h : w.graph.hasMethod p.node (.ofString key) = false)
    (hfound : w.graph.property? p.node (.ofString key) = some found) :
    perform (serveGet ops i ref p key) w =
      perform (readMember ops i ref p key (.property found))
      (asked p (.ofString key) w (.property found)) := by
  have hasks := p.perform_hasMethod_probed (.ofString key) (some {}) w
  rw [h] at hasks
  have hgraph := (p.alike_probed "HasMethod" (.ofString key) w).graph
  have hlooks := p.perform_hasProperty_probed (.ofString key) (some {})
      (p.probed "HasMethod" (.ofString key) w)
  have hproperty : w.graph.hasProperty p.node (.ofString key) = true := by
    rw [Graph.hasProperty, hfound]
    rfl
  rw [hgraph, hproperty] at hlooks
  have hrest : perform (serveGet ops i ref p key) w =
      perform (handOver i p key (Node.getProperty ops p.context p.node (.ofString key)))
        (asked p (.ofString key) w (.property found)) :=
    (perform_bind_ok hasks _).trans (perform_bind_ok hlooks _)
  rw [hrest]
  -- The graph that is searched is still the one that was asked.
  refine perform_handOver_congr (perform_getProperty_eq_source ?_)
  rw [(p.alike_started _ _ _).graph, asked, (p.alike_probed _ _ _).graph, hgraph]
  exact hfound

/-- Where no node has anything, a script reads nothing. -/
theorem perform_serveGet_of_none (h : w.graph.hasMethod p.node (.ofString key) = false)
    (hnone : w.graph.property? p.node (.ofString key) = none) :
    (perform (serveGet ops i ref p key) w).1 = .ok .absent := by
  have hasks := p.perform_hasMethod_probed (.ofString key) (some {}) w
  rw [h] at hasks
  have hgraph := (p.alike_probed "HasMethod" (.ofString key) w).graph
  have hlooks := p.perform_hasProperty_probed (.ofString key) (some {})
      (p.probed "HasMethod" (.ofString key) w)
  have hproperty : w.graph.hasProperty p.node (.ofString key) = false := by
    rw [Graph.hasProperty, hnone]
    rfl
  rw [hgraph, hproperty] at hlooks
  have hrun : perform (serveGet ops i ref p key) w =
      (.ok .absent, p.probed "HasProperty" (.ofString key)
      (p.probed "HasMethod" (.ofString key) w)) :=
    (perform_bind_ok hasks _).trans (perform_bind_ok hlooks _)
  rw [hrun]

omit [Native β] in
/-- An exception is never the answer that there is nothing. -/
theorem throwPending_ne_ok {α : Type} (slot : Slot) (w w' : World β) (x : α) :
    perform (throwPending i slot : M β α) w ≠ (.ok x, w') := by
  intro h
  unfold throwPending at h
  split at h
  · -- A text is thrown as an error.
    obtain ⟨_, _, _, hrest⟩ := exists_of_perform_bind h
    obtain ⟨_, _, _, hthrow⟩ := exists_of_perform_bind hrest
    cases hthrow
  · -- Any other value is thrown itself, an object after its release.
    obtain ⟨_, _, _, hrest⟩ := exists_of_perform_bind h
    dsimp only at hrest
    split at hrest
    · obtain ⟨_, _, _, hthrow⟩ := exists_of_perform_bind hrest
      cases hthrow
    · cases hrest

/-- A member that is read is never nothing. -/
theorem readMember_ne_absent (m : Graph.Member β) (w w' : World β) :
    perform (readMember ops i ref p key m) w ≠ (.ok .absent, w') := by
  intro h
  cases m with
  | method => cases h
  | property found =>
    obtain ⟨⟨v, slot⟩, w₁, _, hrest⟩ := exists_of_perform_bind h
    dsimp only at hrest
    split at hrest
    · exact throwPending_ne_ok slot w₁ w' _ hrest
    · rw [perform_cleanly] at hrest
      split at hrest
      · -- What is given back is always a value.
        cases hvalue : perform (toValue i v) w₁ with
        | mk r w₂ =>
          rw [perform_bind, hvalue] at hrest
          cases r <;> cases hrest
      · cases hrest

/-- Every read at a node whose chain ends is a read of the member that
serves. -/
theorem view_of_isChain {l : List NodeId} (h : Graph.IsChain w.graph (some p.node) l)
    (ops : HostOps β) (i : Nat) (ref : ObjectRef) (key : String) : View ops i ref p key w l := by
  obtain rfl : w.graph.chain p.node = l := h.chain_eq
  constructor
  case read =>
    intro d m hserves hmember
    rcases hserves with hmethod | ⟨hnone, hoffers⟩
    · -- The first node with a method has no other member.
      have hfound : w.graph.hasMethod p.node (.ofString key) = true :=
        Graph.hasMethod_iff.mpr ⟨d, hmethod.mem, hmethod.has⟩
      cases m with
      | method => exact perform_serveGet_of_hasMethod hfound
      | property found => exact absurd hmethod.has hmember.1
    · have hno : w.graph.hasMethod p.node (.ofString key) = false := by
        rw [Bool.eq_false_iff, Ne, Graph.hasMethod_iff]
        rintro ⟨k, hk, hmethod⟩
        exact hnone k hk hmethod
      cases m with
      | method => exact absurd hmember (hnone d hoffers.mem)
      | property found =>
        have hfound : w.graph.property? p.node (.ofString key) = some found :=
          (Graph.findSome?_eq_some_iff_nearest fun _ => Graph.ownProperty?_eq_none_iff).mpr
            ⟨d, hoffers, hmember.2⟩
        exact perform_serveGet_of_property? hno hfound
  case absent_iff =>
    constructor
    · intro habsent d hd hmember
      have hread (m : Graph.Member β) (h : perform (serveGet ops i ref p key) w =
          perform (readMember ops i ref p key m) (asked p (.ofString key) w m)) : False :=
        readMember_ne_absent m _ _ (h.symm.trans (Prod.ext habsent rfl))
      cases hmethod : w.graph.hasMethod p.node (.ofString key) with
      | true => exact hread _ (perform_serveGet_of_hasMethod hmethod)
      | false =>
        cases hproperty : w.graph.property? p.node (.ofString key) with
        | some found => exact hread _ (perform_serveGet_of_property? hmethod hproperty)
        | none =>
          rcases hmember with howns | hoffers
          · exact Bool.eq_false_iff.mp hmethod (Graph.hasMethod_iff.mpr ⟨d, hd, howns⟩)
          · exact Graph.property?_eq_none_iff.mp hproperty d hd hoffers
    · intro hnone
      have hno : w.graph.hasMethod p.node (.ofString key) = false := by
        rw [Bool.eq_false_iff, Ne, Graph.hasMethod_iff]
        rintro ⟨k, hk, howns⟩
        exact hnone k hk (.inl howns)
      have hnothing : w.graph.property? p.node (.ofString key) = none :=
        Graph.property?_eq_none_iff.mpr fun k hk hoffers => hnone k hk (.inr hoffers)
      exact perform_serveGet_of_none hno hnothing
  case nearest_iff => exact fun d hd => Graph.serves_nearest_iff hd
  case overlaid =>
    intro hsome
    obtain ⟨f, w', hrun, hkind, hproxies⟩ := perform_readMember_method ops i ref p key
      (asked p (.ofString key) w .method)
    refine ⟨f, w', (perform_serveGet_of_hasMethod (Graph.hasMethod_iff.mpr hsome)).trans hrun,
      hkind, ?_⟩
    exact hproxies.trans (p.alike_probed "HasMethod" (.ofString key) w).proxies

/-- A node with a child `x`, whose base has a method `x`. -/
def overlaid : Graph Behaviour :=
  let x := Bytes.ofString "x"
  { nodes := #[{ base := some 1, children := .ofList [(x, 2)] },
      { cls := some { methods := .ofList [(x, some .version)] } }, {}] }

/-- In the witness the node has a child. -/
theorem child?_overlaid : overlaid.child? 0 (.ofString "x") = some 2 :=
  Dict.find?_insert_self {} (Bytes.ofString "x") 2

/-- Its base has a method of that name. -/
theorem hasOwnMethod_overlaid_base : overlaid.HasOwnMethod (.ofString "x") 1 :=
  ⟨.version, _, rfl, Dict.find?_insert_self {} _ _⟩

/-- The node itself has none. -/
theorem not_hasOwnMethod_overlaid : ¬ overlaid.HasOwnMethod (.ofString "x") 0 := by
  rintro ⟨code, c, hc, _⟩
  cases hc

/-- The node itself is the nearest that has an `x`: its child. -/
theorem nearest_overlaid : Graph.Nearest (overlaid.HasMember (.ofString "x")) [0, 1] 0 :=
  ⟨[], [1], rfl, .inr (.inr ⟨2, child?_overlaid⟩), by simp⟩

/-- A runtime with a proxy of the node. -/
def overlaidWorld : World Behaviour :=
  { proxies := #[{ refs := { refs := 1 }, context := { host := .script 0 }, node := 0 }]
    graph := overlaid
    runtimes := #[{ adopted := [.proxy 0] }] }

/-- The method of the base serves, and not the child. -/
theorem view_overlaid :
    Graph.IsChain overlaid (some 0) [0, 1] ∧
      View host 0 (.proxy 0) (overlaidWorld.proxy 0) "x" overlaidWorld [0, 1] ∧
      ¬ overlaid.Serves (.ofString "x") [0, 1] 0 ∧ overlaid.Serves (.ofString "x") [0, 1] 1 := by
  have hchain : Graph.IsChain overlaid (some 0) [0, 1] := .cons (.cons .nil)
  have hview : View host 0 (.proxy 0) (overlaidWorld.proxy 0) "x" overlaidWorld [0, 1] :=
    view_of_isChain hchain host 0 (.proxy 0) "x"
  refine ⟨hchain, hview, fun hserves => ?_, .inl ⟨[0], [], rfl, hasOwnMethod_overlaid_base, ?_⟩⟩
  · rcases (hview.nearest_iff 0 nearest_overlaid).mp hserves with hmethod | hnone
    · exact not_hasOwnMethod_overlaid hmethod
    · exact hnone 1 (by simp) hasOwnMethod_overlaid_base
  · intro k hk
    rw [List.mem_singleton.mp hk]
    exact not_hasOwnMethod_overlaid

/-- The nearest node with an `x` has a child of that name and no method. A
script that reads `x` there gets a function, and no proxy of the child is
made. -/
theorem not_nearest_overlaid :
    overlaid.chain 0 = [0, 1] ∧ Graph.Nearest (overlaid.HasMember (.ofString "x")) [0, 1] 0 ∧
      ¬ overlaid.HasOwnMethod (.ofString "x") 0 ∧ overlaid.child? 0 (.ofString "x") = some 2 ∧
      ∃ f w', perform (serve host 0 (.get (.proxy 0) "x")) overlaidWorld =
      (.ok (.value (.object f)), w') ∧
        (w'.heap.obj f).kind = .function (.native (.proxy 0) "x") ∧ ∀ x ∈ w'.proxies,
        x.node ≠ 2 := by
  have hchain : Graph.IsChain overlaid (some 0) [0, 1] := .cons (.cons .nil)
  have hmethod : overlaid.hasMethod 0 (.ofString "x") = true :=
    Graph.hasMethod_iff.mpr ⟨1, hchain.chain_eq ▸ by simp, hasOwnMethod_overlaid_base⟩
  have hserve : perform (serve host 0 (.get (.proxy 0) "x")) overlaidWorld =
      perform (serveGet host 0 (.proxy 0) (overlaidWorld.proxy 0) "x") overlaidWorld := rfl
  obtain ⟨f, w', hrun, hkind, hproxies⟩ :=
    perform_readMember_method host 0 (.proxy 0) (overlaidWorld.proxy 0) "x"
    (asked (overlaidWorld.proxy 0) (.ofString "x") overlaidWorld .method)
  refine ⟨hchain.chain_eq, nearest_overlaid, not_hasOwnMethod_overlaid, child?_overlaid, f, w',
    hserve.trans ((perform_serveGet_of_hasMethod hmethod).trans hrun), hkind, ?_⟩
  -- The only proxy there is stays the only one.
  rw [hproxies, asked, ((overlaidWorld.proxy 0).alike_probed "HasMethod" (.ofString "x")
    overlaidWorld).proxies]
  decide

end ScriptHost

end ObjectBridge

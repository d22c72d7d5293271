import ObjectBridge.Bridge.Proxy
import ObjectBridge.Builtin.Behaviour
import ObjectBridge.Proofs.Bridge.Perform
import ObjectBridge.Proofs.Data.Dict
import ObjectBridge.Proofs.Graph.Nearest

/-!
# `ObjectBridge.Proofs.Bridge.Resolution`: one search behind all requests

A node is asked in different ways: whether there is a method, to call it,
whether there is a property, to read it, to write it. Each request makes a
search of its own along the chain of the node. `Resolution` says, request
by request, what the node answers in terms of the nearest node that has
what is asked for, and `resolution_of_isChain` that every node whose chain
ends answers so, whatever the graph, the name and the native code.

So a host that asks whether there is something and then uses it, or writes
a property and then reads it, is answered by the same node. There is one
exception: a child of a nearer node is read but not written
(`Resolution.same`), and `resolution_layered` is a case of it.
-/

set_option autoImplicit false

namespace ObjectBridge

variable {β : Type}

/-- Reading a child makes a proxy of it and leaves the graph alone. -/
theorem perform_getProperty_child [Native β] (ops : HostOps β) (ctx : Context) {n c : NodeId}
    {name : Bytes} {w : World β} (hc : w.graph.property? n name = some (.child c)) :
    ∃ metrics, perform (Node.getProperty ops ctx n name) w =
      (.ok (.ok (.object (.proxy w.proxies.size))),
        { w with proxies := w.proxies.push { refs := { refs := 1 }, context := ctx,
                                             node := c }, metrics }) := by
  obtain ⟨metrics, hproxy⟩ := perform_newProxy ctx c w
  rw [Node.getProperty, perform_bind_ok (perform_get w), hc]
  exact ⟨metrics, perform_bind_ok hproxy _⟩

namespace Node

variable [Native β]

/-- What a node with the chain `l` answers to every request for a name. -/
structure Resolution (w : World β) (n : NodeId) (l : List NodeId) (name : Bytes) : Prop where
  hasMethod : w.graph.hasMethod n name = true ↔ ∃ m ∈ l, w.graph.HasOwnMethod name m
  /-- A call runs the code of the first method. -/
  call : ∀ m code, Graph.Nearest (w.graph.HasOwnMethod name) l m → w.graph.HasCode name m code →
    ∀ ops ctx args, perform (Node.call ops ctx n name args) w =
    perform (Native.call ops ctx code args) w
  call_none : (∀ m ∈ l, ¬ w.graph.HasOwnMethod name m) →
    ∀ ops ctx args, perform (Node.call ops ctx n name args) w = (.ok (.error .methodNotFound), w)
  hasProperty : w.graph.hasProperty n name = true ↔ ∃ m ∈ l, w.graph.HasDeclared name m ∨
    w.graph.HasChild name m
  /-- Where the first property is declared, its getter runs, also when
  there is a child of that name. -/
  get : ∀ m p code, Graph.Nearest (w.graph.Offers name) l m → w.graph.Declares name m p →
    p.get = some code → ∀ ops ctx, perform (Node.getProperty ops ctx n name) w =
    perform (Native.call ops ctx code []) w
  get_unreadable : ∀ m p, Graph.Nearest (w.graph.Offers name) l m → w.graph.Declares name m p →
    p.get = none → ∀ ops ctx, perform (Node.getProperty ops ctx n name) w =
    (.ok (.error .unknownProperty), w)
  /-- A child comes as a new proxy, of exactly that child. -/
  get_child : ∀ m c, Graph.Nearest (w.graph.Offers name) l m → ¬ w.graph.HasDeclared name m →
    w.graph.child? m name = some c → ∀ ops ctx, ∃ metrics,
      perform (Node.getProperty ops ctx n name) w = (.ok (.ok (.object (.proxy w.proxies.size))),
        { w with proxies := w.proxies.push { refs := { refs := 1 }, context := ctx,
                                             node := c }, metrics })
  get_none : (∀ m ∈ l, ¬ w.graph.HasDeclared name m ∧ ¬ w.graph.HasChild name m) →
    ∀ ops ctx, perform (Node.getProperty ops ctx n name) w = (.ok (.error .unknownProperty), w)
  /-- A property is written where it is first declared. -/
  set : ∀ m p code, Graph.Nearest (w.graph.HasDeclared name) l m → w.graph.Declares name m p →
    p.set = some code → ∀ ops ctx v, perform (Node.setProperty ops ctx n name v) w =
    perform (Native.store ops ctx code v) w
  set_readOnly : ∀ m p, Graph.Nearest (w.graph.HasDeclared name) l m → w.graph.Declares name m p →
    p.set = none → ∀ ops ctx v, perform (Node.setProperty ops ctx n name v) w =
    (.ok (.error .readOnlyProperty), w)
  set_none : (∀ m ∈ l, ¬ w.graph.HasDeclared name m) →
    ∀ ops ctx v, perform (Node.setProperty ops ctx n name v) w = (.ok (.error .unknownProperty), w)
  /-- The declaration that is written through is the one that is read,
  unless a nearer node has a child of that name. -/
  same : ∀ m, Graph.Nearest (w.graph.HasDeclared name) l m →
    (Graph.Nearest (w.graph.Offers name) l m ↔ ¬ ∃ k, Graph.Nearer l k m ∧ w.graph.HasChild name k)
  /-- Constructing asks the class of the node alone. -/
  construct : ∀ c code, w.graph.class? n = some c → c.construct = some code →
    ∀ ops ctx args, perform (Node.construct ops ctx n args) w =
    perform (Native.call ops ctx code args) w
  construct_none : (∀ c, w.graph.class? n = some c → c.construct = none) →
    ∀ ops ctx args, perform (Node.construct ops ctx n args) w =
    (.ok (.error .missingConstructor), w)

/-- A node whose chain ends answers every request as the search along its
chain says. -/
theorem resolution_of_isChain {w : World β} {n : NodeId} {l : List NodeId}
    (h : Graph.IsChain w.graph (some n) l) (name : Bytes) : Resolution w n l name := by
  obtain rfl : w.graph.chain n = l := h.chain_eq
  -- An operation looks the name up once and goes by what it finds, so each case hands it what the
  -- search along the chain found.
  constructor
  case hasMethod => exact Graph.hasMethod_iff
  case call =>
    intro m code hm hcode ops ctx args
    rw [Node.call, perform_bind_ok (perform_get w), Graph.method?_eq_some_iff.mpr ⟨m, hm, hcode⟩]
  case call_none =>
    intro hnone ops ctx args
    rw [Node.call, perform_bind_ok (perform_get w), Graph.method?_eq_none_iff.mpr hnone,
      perform_pure]
  case hasProperty => exact Graph.hasProperty_iff
  case get =>
    intro m p code hm hp hget ops ctx
    obtain ⟨_, set⟩ := p
    cases hget
    rw [Node.getProperty, perform_bind_ok (perform_get w), Graph.property?_eq_declared_iff.mpr
      ⟨m, hm, hp⟩]
  case get_unreadable =>
    intro m p hm hp hget ops ctx
    obtain ⟨_, set⟩ := p
    cases hget
    rw [Node.getProperty, perform_bind_ok (perform_get w), Graph.property?_eq_declared_iff.mpr
      ⟨m, hm, hp⟩, perform_pure]
  case get_child =>
    intro m c hm hd hc ops ctx
    exact perform_getProperty_child ops ctx (Graph.property?_eq_child_iff.mpr ⟨m, hm, hd, hc⟩)
  case get_none =>
    intro hnone ops ctx
    have hnone : ∀ m ∈ w.graph.chain n, ¬ w.graph.Offers name m :=
      fun m hm => not_or.mpr (hnone m hm)
    rw [Node.getProperty, perform_bind_ok (perform_get w), Graph.property?_eq_none_iff.mpr hnone,
      perform_pure]
  case set =>
    intro m p code hm hp hset ops ctx v
    obtain ⟨get, _⟩ := p
    cases hset
    rw [Node.setProperty, perform_bind_ok (perform_get w), Graph.declaration?_eq_some_iff.mpr
      ⟨m, hm, hp⟩]
  case set_readOnly =>
    intro m p hm hp hset ops ctx v
    obtain ⟨get, _⟩ := p
    cases hset
    rw [Node.setProperty, perform_bind_ok (perform_get w), Graph.declaration?_eq_some_iff.mpr
      ⟨m, hm, hp⟩, perform_pure]
  case set_none =>
    intro hnone ops ctx v
    rw [Node.setProperty, perform_bind_ok (perform_get w), Graph.declaration?_eq_none_iff.mpr hnone,
      perform_pure]
  case same => exact fun m hm => Graph.nearest_offers_iff h.nodup hm
  case construct =>
    intro c code hc hcode ops ctx args
    rw [Node.construct, perform_bind_ok (perform_get w), Graph.constructor?, hc,
      Option.bind_some, hcode]
  case construct_none =>
    intro hnone ops ctx args
    have hconstructor : w.graph.constructor? n = none := by
      rw [Graph.constructor?, Option.bind_eq_none_iff]
      exact hnone
    rw [Node.construct, perform_bind_ok (perform_get w), hconstructor, perform_pure]

/-- A node with a child `size` that falls back to a node that declares a
property `size`. -/
def layered : Graph Behaviour :=
  let size := Bytes.ofString "size"
  { nodes := #[{ base := some 1, children := .ofList [(size, 2)] },
      { cls := some { properties := .ofList [(size,
      { get := some .version, set := some (.setCounter 0) })] } }, {}] }

/-- The property `size` is written where it is declared, and read as the
child that is nearer. -/
theorem resolution_layered :
    let w : World Behaviour := { graph := layered }
    let size := Bytes.ofString "size"
    Graph.IsChain w.graph (some 0) [0, 1] ∧ Resolution w 0 [0, 1] size ∧
      (∀ ops ctx v, perform (Node.setProperty ops ctx 0 size v) w =
      perform (Native.store ops ctx (.setCounter 0) v) w) ∧ ∀ ops ctx, ∃ metrics,
        perform (Node.getProperty ops ctx 0 size) w = (.ok (.ok (.object (.proxy 0))),
        { w with proxies := #[{ refs := { refs := 1 }, context := ctx, node := 2 }], metrics
        }) := by
  intro w size
  have hchain : Graph.IsChain layered (some 0) [0, 1] := .cons (.cons .nil)
  have hresolution : Resolution w 0 [0, 1] size := resolution_of_isChain hchain size
  have hundeclared : ¬ layered.HasDeclared size 0 := by
    rintro ⟨p, c, hc, _⟩
    cases hc
  have hdeclares : layered.Declares size 1 { get := some .version, set := some (.setCounter 0) } :=
    ⟨_, rfl, Dict.find?_insert_self {} size _⟩
  have hwritten : Graph.Nearest (layered.HasDeclared size) [0, 1] 1 :=
    ⟨[0], [], rfl, ⟨_, hdeclares⟩, fun k hk => List.mem_singleton.mp hk ▸ hundeclared⟩
  have hchild : layered.child? 0 size = some 2 := Dict.find?_insert_self {} size 2
  have hread : Graph.Nearest (layered.Offers size) [0, 1] 0 :=
    ⟨[], [1], rfl, .inr ⟨2, hchild⟩, by simp⟩
  exact ⟨hchain, hresolution, hresolution.set 1 _ _ hwritten hdeclares rfl,
    hresolution.get_child 0 2 hread hundeclared hchild⟩

end Node

end ObjectBridge

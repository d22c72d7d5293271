import ObjectBridge.Bridge.Proxy
import ObjectBridge.Proofs.Bridge.Perform

/-!
# `ObjectBridge.Proofs.Bridge.Books`: who holds the references to an object

The references to an object are counted at the object. A runtime holds
those in its list `adopted`, and one reference goes with every note in
`abandoned`. The rest is `World.outside`: the references that native code,
the host's own requests and whoever embeds the host hold between them.

`Leads w n w'` says that the world `w'` comes after `w`, with `n` references
more held outside, and that runtimes only took objects on. It composes by
adding up, so an operation's effect on the books is the sum of the effects
of its parts. The theorems here give it for the parts: taking and giving
back a reference, making an object, taking one on, and everything that does
not touch references at all (`World.Alike`).
-/

set_option autoImplicit false

namespace ObjectBridge

/-- The native code there may be: code that is called for its answer, and
code that sets a property and has none. -/
structure Roles (β : Type) where
  answers : β → Prop
  stores : β → Prop

variable {β α γ : Type} {good : Roles β} {w w' w'' w₁ w₂ : World β} {o : ObjectRef}

/-! ### The books -/

/-- What a runtime contributes to the books, and whether it is open. -/
def Runtime.books (r : Runtime) : List ObjectRef × Bool := (r.adopted, r.isOpen)

namespace World

/-- The references runtimes hold for scripts. -/
def adopted (w : World β) : List ObjectRef := w.runtimes.toList.flatMap (·.adopted)

/-- The references to an object that neither a runtime holds nor a host
lost. -/
def outside (w : World β) (o : ObjectRef) : Int :=
  w.refs o - w.adopted.count o - w.abandoned.count o

/-- Does a context belong to a runtime? -/
def Scripted (w : World β) (ctx : Context) : Prop := ∃ i < w.runtimes.size, ctx.host = .script i

end World

/-- All native code of a class is of the kind there may be. -/
structure Class.AllCode (good : Roles β) (c : Class β) : Prop where
  method : ∀ name code, c.method? name = some code → good.answers code
  getter : ∀ name p code, c.property? name = some p → p.get = some code → good.answers code
  setter : ∀ name p code, c.property? name = some p → p.set = some code → good.stores code
  constructor : ∀ code, c.construct = some code → good.answers code

/-- All native code of a graph is of the kind there may be. -/
def Graph.AllCode (good : Roles β) (g : Graph β) : Prop :=
  ∀ n c, g.class? n = some c → c.AllCode good

namespace World

/-- The books are in order: proxies belong to runtimes, native code is of
the kind there may be, and no object has fewer references than are held. -/
structure Sound (good : Roles β) (w : World β) : Prop where
  contexts : ∀ (p : Nat) (x : Proxy), w.proxies[p]? = some x → w.Scripted x.context
  code : w.graph.AllCode good
  covered : ∀ o, 0 ≤ w.outside o

/-- Runtimes stay open or closed and only take objects on; what is lost
stays lost. -/
structure Grows (w w' : World β) : Prop where
  size : w'.runtimes.size = w.runtimes.size
  isOpen : ∀ i, (w'.runtime i).isOpen = (w.runtime i).isOpen
  adopted : ∀ i, (w.runtime i).adopted <:+ (w'.runtime i).adopted
  abandoned : w.abandoned <:+ w'.abandoned

/-- A world has what it has. -/
theorem Grows.refl (w : World β) : w.Grows w :=
  ⟨rfl, fun _ => rfl, fun _ => List.suffix_refl _, List.suffix_refl _⟩

/-- Growing goes on. -/
theorem Grows.trans (h : w.Grows w') (h' : w'.Grows w'') : w.Grows w'' where
  size := h'.size.trans h.size
  isOpen i := (h'.isOpen i).trans (h.isOpen i)
  adopted i := (h.adopted i).trans (h'.adopted i)
  abandoned := h.abandoned.trans h'.abandoned

/-- A runtime that is there stays there. -/
theorem Grows.lt {i : Nat} (h : w.Grows w') (hi : i < w.runtimes.size) : i < w'.runtimes.size :=
  h.size.symm ▸ hi

/-- A context for a runtime stays one. -/
theorem Grows.scripted {ctx : Context} (h : w.Grows w') (hctx : w.Scripted ctx) :
    w'.Scripted ctx := by
  obtain ⟨i, hi, heq⟩ := hctx
  exact ⟨i, h.size ▸ hi, heq⟩

/-- A world comes after another one, with `n` more references held
outside. -/
structure Leads (good : Roles β) (w : World β) (n : ObjectRef → Int) (w' : World β) : Prop where
  sound : w'.Sound good
  grows : w.Grows w'
  outside : ∀ o, w'.outside o = w.outside o + n o

/-- Nothing has happened to the books. -/
theorem Leads.refl (h : w.Sound good) : w.Leads good 0 w := ⟨h, .refl w, fun o => by simp⟩

/-- What two steps add to the books adds up. -/
theorem Leads.trans {n m : ObjectRef → Int} (h : w.Leads good n w') (h' : w'.Leads good m w'') :
    w.Leads good (n + m) w'' where
  sound := h'.sound
  grows := h.grows.trans h'.grows
  outside o := by rw [h'.outside, h.outside, Pi.add_apply, Int.add_assoc]

/-- Only the numbers count. -/
theorem Leads.congr {n m : ObjectRef → Int} (h : w.Leads good n w') (hn : ∀ o, n o = m o) :
    w.Leads good m w' :=
  funext hn ▸ h

/-! ### Objects that are there -/

/-- What is held is there. -/
theorem has_of_refs (h : w.refs o ≠ 0) : w.has o := by
  cases o <;> simp only [refs, has, table, proxy, decide_eq_true_eq] at h ⊢ <;> by_contra hlt
    <;> apply h <;> simp [Array.getD_eq_getD_getElem?,
    Array.getElem?_eq_none (Nat.le_of_not_lt hlt)] <;> rfl

/-- What somebody outside holds is held. -/
theorem refs_pos (h : 1 ≤ w.outside o) : 1 ≤ w.refs o := by
  unfold outside at h
  omega

/-- An object that somebody holds is there. -/
theorem has_of_outside (h : 1 ≤ w.outside o) : w.has o := has_of_refs (by have := refs_pos h; omega)

/-- A proxy that somebody holds belongs to a runtime. -/
theorem Sound.scripted {p : Nat} (hs : w.Sound good) (h : w.has (.proxy p)) :
    w.Scripted (w.proxy p).context := by
  have hlt : p < w.proxies.size := by simpa [has] using h
  refine hs.contexts p _ ?_
  rw [proxy, Array.getD_eq_getD_getElem?, Array.getElem?_eq_getElem hlt, Option.getD_some]

/-! ### Worlds that differ in counts -/

/-- Two worlds differ in their counts, by `n`, and not in their books and
native code. -/
structure Recounts (w : World β) (n : ObjectRef → Int) (w' : World β) : Prop where
  refs : ∀ o, w'.refs o = w.refs o + n o
  contexts : ∀ (p : Nat) (x : Proxy), w'.proxies[p]? = some x → ∃ y, w.proxies[p]? = some y ∧
    y.context = x.context
  graph : w'.graph = w.graph
  abandoned : w'.abandoned = w.abandoned
  runtimes : w'.runtimes.map Runtime.books = w.runtimes.map Runtime.books

namespace Recounts

variable {n m : ObjectRef → Int}

/-- Changes of counts add up. -/
theorem trans (h : w.Recounts n w') (h' : w'.Recounts m w'') : w.Recounts (n + m) w'' where
  refs o := by rw [h'.refs, h.refs, Pi.add_apply, Int.add_assoc]
  contexts p x hx := by
    obtain ⟨y, hy, hyx⟩ := h'.contexts p x hx
    obtain ⟨z, hz, hzy⟩ := h.contexts p y hy
    exact ⟨z, hz, hzy.trans hyx⟩
  graph := h'.graph.trans h.graph
  abandoned := h'.abandoned.trans h.abandoned
  runtimes := h'.runtimes.trans h.runtimes

/-- Only the numbers count. -/
theorem congr (h : w.Recounts n w') (hn : ∀ o, n o = m o) : w.Recounts m w' := funext hn ▸ h

/-- No runtime is made or lost. -/
theorem size (h : w.Recounts n w') : w'.runtimes.size = w.runtimes.size := by
  simpa using congrArg Array.size h.runtimes

/-- The bytes of the runtimes are left alone. -/
theorem books (h : w.Recounts n w') (i : Nat) : (w'.runtime i).books = (w.runtime i).books := by
  have hi : (w'.runtimes.map Runtime.books)[i]? = (w.runtimes.map Runtime.books)[i]? := by
    rw [h.runtimes]
  rw [Array.getElem?_map, Array.getElem?_map] at hi
  rw [runtime, runtime, Array.getD_eq_getD_getElem?, Array.getD_eq_getD_getElem?]
  cases h' : w'.runtimes[i]? <;> cases h : w.runtimes[i]? <;> simp_all

/-- So is what they hold for scripts. -/
theorem adopted (h : w.Recounts n w') (i : Nat) : (w'.runtime i).adopted = (w.runtime i).adopted :=
  congrArg Prod.fst (h.books i)

/-- All runtimes together hold the same. -/
theorem adopted_eq (h : w.Recounts n w') : w'.adopted = w.adopted := by
  have hmap (u : World β) : u.adopted = (u.runtimes.map Runtime.books).toList.flatMap (·.1) := by
    simp [World.adopted, Runtime.books, List.flatMap_map]
  rw [hmap, hmap, h.runtimes]

/-- So those outside hold as much more as there is. -/
theorem outside (h : w.Recounts n w') (o : ObjectRef) : w'.outside o = w.outside o + n o := by
  rw [World.outside, World.outside, h.refs, h.adopted_eq, h.abandoned]
  omega

/-- Counting, as far as it is covered, keeps the books in order. -/
theorem leads (h : w.Recounts n w') (hs : w.Sound good) (hn : ∀ o, 0 ≤ w.outside o + n o) :
    w.Leads good n w' where
  sound := {
    contexts := fun p x hx => by
      obtain ⟨y, hy, hctx⟩ := h.contexts p x hx
      obtain ⟨i, hi, heq⟩ := hs.contexts p y hy
      exact ⟨i, h.size.symm ▸ hi, hctx ▸ heq⟩
    code := h.graph.symm ▸ hs.code
    covered := fun o => (h.outside o).symm ▸ hn o }
  grows := {
    size := h.size
    isOpen := fun i => congrArg Prod.snd (h.books i)
    adopted := fun i => (h.adopted i).symm ▸ List.suffix_refl _
    abandoned := h.abandoned.symm ▸ List.suffix_refl _ }
  outside := h.outside

end Recounts

/-! ### What does not touch references -/

/-- Two worlds have the same objects, the same native code and the same
books. -/
structure Alike (w w' : World β) : Prop where
  tables : w'.tables = w.tables
  proxies : w'.proxies = w.proxies
  handles : w'.handles = w.handles
  graph : w'.graph = w.graph
  abandoned : w'.abandoned = w.abandoned
  runtimes : w'.runtimes.map Runtime.books = w.runtimes.map Runtime.books

namespace Alike

/-- A world is like itself. -/
theorem refl (w : World β) : w.Alike w := ⟨rfl, rfl, rfl, rfl, rfl, rfl⟩

/-- Worlds like a third one are alike. -/
theorem trans (h : w.Alike w') (h' : w'.Alike w'') : w.Alike w'' where
  tables := h'.tables.trans h.tables
  proxies := h'.proxies.trans h.proxies
  handles := h'.handles.trans h.handles
  graph := h'.graph.trans h.graph
  abandoned := h'.abandoned.trans h.abandoned
  runtimes := h'.runtimes.trans h.runtimes

/-- No count has changed in a world that is alike. -/
theorem recounts (h : w.Alike w') : w.Recounts 0 w' where
  refs o := by cases o <;> simp [refs, table, proxy, h.tables, h.proxies, h.handles]
  contexts p x hx := ⟨x, h.proxies ▸ hx, rfl⟩
  graph := h.graph
  abandoned := h.abandoned
  runtimes := h.runtimes

/-- It has as many runtimes. -/
theorem size (h : w.Alike w') : w'.runtimes.size = w.runtimes.size := h.recounts.size

/-- A runtime that is there is there in both. -/
theorem lt {i : Nat} (h : w.Alike w') (hi : i < w.runtimes.size) : i < w'.runtimes.size :=
  h.size.symm ▸ hi

/-- Those outside hold the same. -/
theorem outside (h : w.Alike w') (o : ObjectRef) : w'.outside o = w.outside o :=
  (h.recounts.outside o).trans (Int.add_zero _)

/-- Nothing has happened to its books. -/
theorem leads (h : w.Alike w') (hs : w.Sound good) : w.Leads good 0 w' :=
  h.recounts.leads hs fun o => Int.add_nonneg (hs.covered o) (Int.le_refl 0)

end Alike

/-- Changing a runtime outside its books changes no books. -/
theorem alike_modifyRuntime (w : World β) (i : Nat) {f : Runtime → Runtime}
    (hf : ∀ r, (f r).books = r.books) :
    w.Alike { w with runtimes := w.runtimes.modify i f } := by
  refine ⟨rfl, rfl, rfl, rfl, rfl, Array.ext_getElem? fun j => ?_⟩
  rw [Array.getElem?_map, Array.getElem?_map, Array.getElem?_modify]
  split
  · cases w.runtimes[j]? <;> simp [hf]
  · rfl

/-- What is published is not in the books. -/
theorem alike_metrics (w : World β) (metrics : Metrics) : w.Alike { w with metrics } :=
  ⟨rfl, rfl, rfl, rfl, rfl, rfl⟩

/-! ### Counting references -/

/-- Changes the count of an object by `d`. -/
def recount (w : World β) (o : ObjectRef) (d : Int) : World β :=
  match o with
  | .table i =>
    { w with tables := w.tables.modify i fun t => { t with refs := { refs := t.refs.refs + d } } }
  | .proxy i =>
    { w with proxies := w.proxies.modify i fun p => { p with refs := { refs := p.refs.refs + d } } }
  | .handle i =>
    { w with handles := w.handles.modify i fun h => { h with refs := { refs := h.refs.refs + d } } }

/-- The count of an object that is there changes; those of others do not. -/
theorem refs_recount (h : w.has o) (d : Int) (x : ObjectRef) :
    (w.recount o d).refs x = w.refs x + (if x = o then d else 0) := by
  cases o <;> cases x <;>
    simp only [recount, refs, table, proxy, has, decide_eq_true_eq, Array.getD_eq_getD_getElem?,
      Array.getElem?_modify, ObjectRef.table.injEq, ObjectRef.proxy.injEq, ObjectRef.handle.injEq,
      reduceCtorEq, if_false, Int.add_zero] at h ⊢
  all_goals
    rename_i i j
    by_cases hij : i = j
    · subst hij
      simp [Array.getElem?_eq_getElem h]
    · simp [hij, Ne.symm hij]

/-- A new table changes the counts of no other object. -/
theorem refs_pushTable (w : World β) (t : Table) (x : ObjectRef) :
    refs { w with tables := w.tables.push t } x =
      w.refs x + (if x = .table w.tables.size then t.refs.refs else 0) := by
  cases x with
  | proxy j => simp [refs, proxy]
  | handle j => simp [refs]
  | table j =>
    simp only [refs, table, Array.getD_eq_getD_getElem?, Array.getElem?_push, ObjectRef.table.injEq]
    split
    · subst j
      rw [Array.getElem?_eq_none (Nat.le_refl _)]
      exact (Int.zero_add _).symm
    · exact (Int.add_zero _).symm

/-- A new handle changes the counts of no other object. -/
theorem refs_pushHandle (w : World β) (h : Handle) (x : ObjectRef) :
    refs { w with handles := w.handles.push h } x =
      w.refs x + (if x = .handle w.handles.size then h.refs.refs else 0) := by
  cases x with
  | table j => simp [refs, table]
  | proxy j => simp [refs, proxy]
  | handle j =>
    simp only [refs, Array.getD_eq_getD_getElem?, Array.getElem?_push, ObjectRef.handle.injEq]
    split
    · subst j
      rw [Array.getElem?_eq_none (Nat.le_refl _)]
      exact (Int.zero_add _).symm
    · exact (Int.add_zero _).symm

/-- A new proxy changes the counts of no other object. -/
theorem refs_pushProxy (w : World β) (p : Proxy) (metrics : Metrics) (x : ObjectRef) :
    refs { w with proxies := w.proxies.push p, metrics } x =
      w.refs x + (if x = .proxy w.proxies.size then p.refs.refs else 0) := by
  cases x with
  | table j => simp [refs, table]
  | handle j => simp [refs]
  | proxy j =>
    simp only [refs, proxy, Array.getD_eq_getD_getElem?, Array.getElem?_push, ObjectRef.proxy.injEq]
    split
    · subst j
      rw [Array.getElem?_eq_none (Nat.le_refl _)]
      exact (Int.zero_add _).symm
    · exact (Int.add_zero _).symm

/-- Counting leaves everything but the count alone. -/
theorem recounts_recount (h : w.has o) (d : Int) :
    w.Recounts (fun x => if x = o then d else 0) (w.recount o d) where
  refs := refs_recount h d
  contexts p x hx := by
    cases o with
    | table i => exact ⟨x, hx, rfl⟩
    | handle i => exact ⟨x, hx, rfl⟩
    | proxy i =>
      simp only [recount, Array.getElem?_modify] at hx
      split at hx
      · obtain ⟨y, hy, rfl⟩ := Option.map_eq_some_iff.mp hx
        exact ⟨y, hy, rfl⟩
      · exact ⟨x, hx, rfl⟩
  graph := by cases o <;> rfl
  abandoned := by cases o <;> rfl
  runtimes := by cases o <;> rfl

end World

/-- One reference to an object. -/
def one (o : ObjectRef) : ObjectRef → Int := fun x => if x = o then 1 else 0

/-- One reference is not less than none. -/
theorem one_nonneg (o x : ObjectRef) : 0 ≤ one o x := by
  unfold one
  split <;> decide

/-- One reference can be taken from those that are held. -/
theorem World.Sound.covered_one (hs : w.Sound good) (h : 1 ≤ w.outside o) (x : ObjectRef) :
    0 ≤ w.outside x + (-one o) x := by
  have := hs.covered x
  simp only [one, Pi.neg_apply]
  split
  · subst x
    omega
  · omega

/-! ### Taking and giving back -/

/-- Taking a reference to an object that is there. -/
theorem perform_retain (hs : w.Sound good) (h : w.has o) :
    ∃ w', perform (retain o) w = (.ok (), w') ∧ w.Leads good (one o) w' := by
  refine ⟨w.recount o 1, by cases o <;> rfl, (World.recounts_recount h 1).leads hs fun x => ?_⟩
  exact Int.add_nonneg (hs.covered x) (one_nonneg o x)

/-- Releasing takes one off the count. -/
theorem RefCount.release_fst (c : RefCount) : c.release.1 = { refs := c.refs + -1 } := by
  simp only [RefCount.release]
  split
  · rfl
  · split <;> rfl

/-- Releasing what is held is no misuse. -/
theorem RefCount.release_snd {c : RefCount} (h : 1 ≤ c.refs) : c.release.2 ≠ .unretained := by
  simp only [RefCount.release]
  split
  · omega
  · split <;> simp

/-- A change may read the element it changes from the array. -/
theorem modify_getD {α : Type} (xs : Array α) (i : Nat) (d : α) (f : α → α → α) :
    xs.modify i (fun x => f (xs.getD i d) x) = xs.modify i fun x => f x x := by
  refine Array.ext_getElem? fun j => ?_
  rw [Array.getElem?_modify, Array.getElem?_modify]
  split
  case isTrue hij =>
    subst hij
    rw [Array.getD_eq_getD_getElem?]
    cases xs[i]? with
    | none => rfl
    | some x => rfl
  case isFalse => rfl

/-- Dropping a reference counts down by one. -/
theorem dropRef_snd (o : ObjectRef) (w : World β) : (dropRef o w).2 = w.recount o (-1) := by
  cases o <;> simp only [dropRef, World.recount, World.table, World.proxy, RefCount.release_fst]
  case table i => rw [modify_getD w.tables i {} fun s t =>
    { t with refs := { refs := s.refs.refs + -1 } }]
  case proxy i => rw [modify_getD w.proxies i default fun s p =>
    { p with refs := { refs := s.refs.refs + -1 } }]
  case handle i => rw [modify_getD w.handles i default fun s h =>
    { h with refs := { refs := s.refs.refs + -1 } }]

/-- A reference that somebody holds can be released. -/
theorem dropRef_fst (h : 1 ≤ w.refs o) : (dropRef o w).1 ≠ .unretained := by
  cases o <;> exact RefCount.release_snd h

/-- A reference to an object that has one is given back by counting down,
and the loss of a proxy is entered in the books. -/
theorem perform_release_eq (h : 1 ≤ w.refs o) :
    ∃ metrics, perform (release o) w = (.ok (), { w.recount o (-1) with metrics }) := by
  have hdrop : perform (modifyGet (dropRef o) : M β RefCount.Fate) w =
      (.ok (dropRef o w).1, w.recount o (-1)) := by
    rw [perform_modifyGet, dropRef_snd]
  unfold release
  rw [perform_bind_ok hdrop]
  have hfate := dropRef_fst h
  cases hf : (dropRef o w).1 with
  | kept => exact ⟨(w.recount o (-1)).metrics, rfl⟩
  | unretained => exact absurd hf hfate
  | freed =>
    cases o with
    | table i => exact ⟨(w.recount (.table i) (-1)).metrics, rfl⟩
    | handle i => exact ⟨(w.recount (.handle i) (-1)).metrics, rfl⟩
    | proxy i =>
      simp only
      obtain ⟨metrics, hmeter⟩ := perform_meter ((w.recount (.proxy i) (-1)).proxy i).context
        Metrics.wrapperReleased (w.recount (.proxy i) (-1))
      exact ⟨metrics, (perform_bind_ok (perform_get _) _).trans hmeter⟩

/-- What is held can be given back, and is held once less. -/
theorem perform_release_of_refs (h : 1 ≤ w.refs o) :
    ∃ w', perform (release o) w = (.ok (), w') ∧ w.Recounts (-one o) w' := by
  obtain ⟨metrics, hrun⟩ := perform_release_eq h
  have hdown : w.Recounts (-one o) (w.recount o (-1)) :=
    (World.recounts_recount (World.has_of_refs (by omega)) (-1)).congr fun x => by
      simp only [one, Pi.neg_apply]
      split <;> rfl
  exact ⟨_, hrun, (hdown.trans (World.alike_metrics _ metrics).recounts).congr fun x => by simp⟩

/-- Giving back a reference that is held. -/
theorem perform_release (hs : w.Sound good) (h : 1 ≤ w.outside o) :
    ∃ w', perform (release o) w = (.ok (), w') ∧ w.Leads good (-one o) w' := by
  obtain ⟨w', hrun, hcounts⟩ := perform_release_of_refs (World.refs_pos h)
  exact ⟨w', hrun, hcounts.leads hs (hs.covered_one h)⟩

/-! ### New objects -/

/-- A new handle is held once. -/
theorem perform_newHandle (hs : w.Sound good) (i : Nat) (object : Script.ObjId) :
    ∃ w', perform (newHandle i object) w = (.ok (.handle w.handles.size), w') ∧
      w.Leads good (one (.handle w.handles.size)) w' := by
  refine ⟨_, rfl, ?_⟩
  have hout (x : ObjectRef) : World.outside
      { w with handles := w.handles.push { refs := { refs := 1 }, runtime := i, object } } x =
        w.outside x + one (.handle w.handles.size) x := by
    show World.refs _ x - w.adopted.count x - w.abandoned.count x = w.outside x + _
    rw [World.refs_pushHandle, World.outside, one]
    dsimp only
    omega
  exact {
    sound := ⟨hs.contexts, hs.code, fun x => hout x ▸ Int.add_nonneg (hs.covered x)
    (one_nonneg _ x)⟩
    grows := ⟨rfl, fun _ => rfl, fun _ => List.suffix_refl _, List.suffix_refl _⟩
    outside := hout }

/-- A new proxy of a runtime's is held once. -/
theorem perform_newProxy_leads {ctx : Context} (hs : w.Sound good) (hctx : w.Scripted ctx)
    (n : NodeId) :
    ∃ w', perform (newProxy ctx n) w = (.ok (.proxy w.proxies.size), w') ∧
      w.Leads good (one (.proxy w.proxies.size)) w' := by
  obtain ⟨metrics, hrun⟩ := perform_newProxy ctx n w
  refine ⟨_, hrun, ?_⟩
  -- Nobody but the caller holds the new proxy yet.
  have hout (x : ObjectRef) : World.outside
      { w with proxies := w.proxies.push { refs := { refs := 1 }, context := ctx,
                                           node := n }, metrics } x =
        w.outside x + one (.proxy w.proxies.size) x := by
    show World.refs _ x - w.adopted.count x - w.abandoned.count x = w.outside x + _
    rw [World.refs_pushProxy, World.outside, one]
    dsimp only
    omega
  exact {
    sound := {
      contexts := fun p x hp => by
        rw [Array.getElem?_push] at hp
        split at hp
        · cases hp
          exact hctx
        · exact hs.contexts p x hp
      code := hs.code
      covered := fun x => hout x ▸ Int.add_nonneg (hs.covered x) (one_nonneg _ x) }
    grows := ⟨rfl, fun _ => rfl, fun _ => List.suffix_refl _, List.suffix_refl _⟩
    outside := hout }

/-! ### Handing references on -/

/-- Changing one runtime changes what all hold by what it holds. -/
theorem count_flatMap_modify (l : List Runtime) {i : Nat} (hi : i < l.length)
    (f : Runtime → Runtime) (o : ObjectRef) :
    ((l.modify i f).flatMap (·.adopted)).count o + l[i].adopted.count o =
      (l.flatMap (·.adopted)).count o + (f l[i]).adopted.count o := by
  induction l generalizing i with
  | nil => exact absurd hi (Nat.not_lt_zero _)
  | cons r rest ih =>
    cases i with
    | zero =>
      simp only [List.modify_zero_cons, List.flatMap_cons, List.count_append,
        List.getElem_cons_zero]
      omega
    | succ i =>
      simp only [List.modify_succ_cons, List.flatMap_cons, List.count_append,
        List.getElem_cons_succ]
      have := ih (Nat.lt_of_succ_lt_succ hi)
      omega

namespace World

/-- What a runtime holds for scripts is part of what all hold. -/
theorem count_adopted_modify {i : Nat} (hi : i < w.runtimes.size) (f : Runtime → Runtime)
    (o : ObjectRef) :
    (adopted { w with runtimes := w.runtimes.modify i f }).count o + (w.runtime i).adopted.count o =
      w.adopted.count o + (f (w.runtime i)).adopted.count o := by
  have hlt : i < w.runtimes.toList.length := by simpa using hi
  have hget : w.runtime i = w.runtimes.toList[i] := by
    rw [runtime, Array.getD_eq_getD_getElem?, Array.getElem?_eq_getElem hi, Option.getD_some,
      Array.getElem_toList]
  rw [hget, adopted, adopted, Array.toList_modify]
  exact count_flatMap_modify _ _ f o

/-- A runtime holds no more than all of them. -/
theorem count_adopted_le {i : Nat} (hi : i < w.runtimes.size) (o : ObjectRef) :
    (w.runtime i).adopted.count o ≤ w.adopted.count o := by
  have := count_adopted_modify hi (fun r => { r with adopted := [] }) o
  rw [List.count_nil] at this
  omega

/-- Changing a runtime is seen in that one only. -/
theorem runtime_modify (w : World β) (i j : Nat) (f : Runtime → Runtime) :
    runtime { w with runtimes := w.runtimes.modify i f } j =
      if i = j ∧ j < w.runtimes.size then f (w.runtime j) else w.runtime j := by
  rw [runtime, runtime, Array.getD_eq_getD_getElem?, Array.getD_eq_getD_getElem?,
    Array.getElem?_modify]
  by_cases hj : j < w.runtimes.size
  · rw [Array.getElem?_eq_getElem hj]
    by_cases hij : i = j <;> simp [hij, hj]
  · rw [Array.getElem?_eq_none (Nat.le_of_not_lt hj)]
    simp [hj]

/-- Counts do not depend on runtimes. -/
theorem refs_modifyRuntime (w : World β) (i : Nat) (f : Runtime → Runtime) (o : ObjectRef) :
    refs { w with runtimes := w.runtimes.modify i f } o = w.refs o := by
  cases o <;> rfl

/-- What a runtime no longer holds is held outside. -/
theorem outside_modifyRuntime {i : Nat} (hi : i < w.runtimes.size) (f : Runtime → Runtime)
    (o : ObjectRef) :
    outside { w with runtimes := w.runtimes.modify i f } o =
      w.outside o + (w.runtime i).adopted.count o - (f (w.runtime i)).adopted.count o := by
  have hcount := count_adopted_modify hi f o
  rw [outside, outside, refs_modifyRuntime]
  dsimp only
  omega

/-- A context stays one for the runtime. -/
theorem scripted_modifyRuntime {ctx : Context} (h : w.Scripted ctx) (i : Nat)
    (f : Runtime → Runtime) :
    Scripted { w with runtimes := w.runtimes.modify i f } ctx := by
  obtain ⟨j, hj, heq⟩ := h
  exact ⟨j, by simpa using hj, heq⟩

end World

/-- A runtime takes over a reference that is held. -/
theorem leads_adopt {i : Nat} (hs : w.Sound good) (hi : i < w.runtimes.size) (h : 1 ≤ w.outside o) :
    w.Leads good (-one o)
      { w with runtimes := w.runtimes.modify i fun r => { r with adopted := o :: r.adopted } } := by
  -- The runtime holds one reference to `o` more, so one fewer is outside.
  have hout (x : ObjectRef) : World.outside
      { w with runtimes := w.runtimes.modify i fun r => { r with adopted := o :: r.adopted } } x =
        w.outside x + (-one o) x := by
    rw [World.outside_modifyRuntime hi]
    dsimp only
    rw [List.count_cons, Pi.neg_apply, one]
    by_cases hx : x = o
    · subst hx
      simp only [beq_self_eq_true, if_true]
      omega
    · simp only [hx, beq_iff_eq, Ne.symm hx, if_false]
      omega
  have hruntime (j : Nat) := w.runtime_modify i j fun r => { r with adopted := o :: r.adopted }
  exact {
    sound := {
      contexts := fun p x hp => World.scripted_modifyRuntime (hs.contexts p x hp) i _
      code := hs.code
      covered := fun x => (hout x).symm ▸ hs.covered_one h x }
    grows := {
      size := by simp
      isOpen := fun j => by rw [hruntime]; split <;> rfl
      adopted := fun j => by
        rw [hruntime]
        split
        · exact List.suffix_cons _ _
        · exact List.suffix_refl _
      abandoned := List.suffix_refl _ }
    outside := hout }

/-- A runtime takes over a reference from outside. -/
theorem perform_adopt {i : Nat} (hs : w.Sound good) (hi : i < w.runtimes.size)
    (h : 1 ≤ w.outside o) :
    ∃ w', perform (modifyRuntime i fun r => { r with adopted := o :: r.adopted }) w = (.ok (), w') ∧
      w.Leads good (-one o) w' :=
  ⟨_, rfl, leads_adopt hs hi h⟩

/-- A reference that is held gets lost. -/
theorem leads_abandon (hs : w.Sound good) (h : 1 ≤ w.outside o) :
    w.Leads good (-one o) { w with abandoned := o :: w.abandoned } := by
  have hout (x : ObjectRef) : World.outside { w with abandoned := o :: w.abandoned } x =
      w.outside x + (-one o) x := by
    have hrefs : World.refs { w with abandoned := o :: w.abandoned } x = w.refs x := by
      cases x <;> rfl
    simp only [World.outside, hrefs, World.adopted, one, Pi.neg_apply, List.count_cons]
    by_cases hx : x = o
    · subst hx
      simp only [beq_self_eq_true, if_true]
      omega
    · simp only [hx, beq_iff_eq, Ne.symm hx, if_false]
      omega
  exact {
    sound := ⟨hs.contexts, hs.code, fun x => (hout x).symm ▸ hs.covered_one h x⟩
    grows := ⟨rfl, fun _ => rfl, fun _ => List.suffix_refl _, List.suffix_cons _ _⟩
    outside := hout }

end ObjectBridge

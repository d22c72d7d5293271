import ObjectBridge.Proofs.Bridge.ScriptHost
import ObjectBridge.Proofs.Builtin.Counter
import ObjectBridge.Proofs.Data.Dict
import ObjectBridge.Proofs.Graph.Settled

/-!
# `ObjectBridge.Proofs.Builtin.Contract`: built-in members honour the contract

A built-in member borrows its arguments and answers with a variant of its
own. Most members hold nothing while they wait for the host, so they keep
the books also when the host unwinds them (`Behaviour.honours`).

Three members are left out. `join` and `sum` hold the elements they read so
far, and `range` holds the array it fills. When the host unwinds them, what
they hold is not given back.
-/

set_option autoImplicit false

namespace ObjectBridge

variable {α β : Type} {good : Roles β} {w w' : World β} {o : ObjectRef} {ops : HostOps β} {i : Nat}

/-! ### Making variants -/

instance : Holds Identifier := .nothing _

/-- Making a string keeps the books. -/
theorem keeps_valueFromString (host : HostId) (bytes : Bytes) (hs : w.Sound good) :
    Keeps good (valueFromString host bytes) 0 w := by
  obtain ⟨r, w', hrun, halike, hr⟩ := perform_valueFromString host bytes w
  exact .of_ok hrun ((halike.leads hs).congr fun o => by rw [hr, sub_zero])

/-- So does making one of wide text. -/
theorem keeps_valueFromWide (host : HostId) (enc : WideEncoding) (units : List UInt32)
    (hs : w.Sound good) :
    Keeps good (valueFromWide host enc units) 0 w := by
  unfold valueFromWide
  split
  · exact keeps_valueFromString host _ hs
  · exact .pure_nothing hs rfl

/-- A copy comes with a reference of its own. -/
theorem keeps_copyVariant (host : HostId) {v : Variant} (hs : w.Sound good) (hv : w.Lends v) :
    Keeps good (copyVariant host v) 0 w := by
  cases v with
  | string bytes => exact keeps_valueFromString host bytes hs
  | object o =>
    obtain ⟨w', hrun, hl⟩ := perform_retain hs (World.has_of_outside (hv o rfl))
    exact .after hrun hl ((Keeps.pure hl.sound _).congr fun x => (Int.zero_add _).symm)
  | void => exact .pure_nothing hs rfl
  | null => exact .pure_nothing hs rfl
  | bool b => exact .pure_nothing hs rfl
  | int32 n => exact .pure_nothing hs rfl
  | double d => exact .pure_nothing hs rfl

/-! ### Accessors -/

/-- Making the identifier of an index is quiet. -/
theorem quietly_intIdentifier (host : HostId) (index : Int32) :
    Quietly (intIdentifier host index : M β Identifier) := by
  unfold intIdentifier
  split
  · exact .bind (quietly_countCall _) fun _ => .pure _
  · exact .pure _

/-- So is looking up the accessor -/
theorem quietly_accessorFor (ctx : Context) : Quietly (accessorFor ctx : M β Accessor) := by
  refine .bind .get fun w => ?_
  split <;> exact .pure _

/-- or the encoding of a context. -/
theorem quietly_encodingFor (ctx : Context) : Quietly (encodingFor ctx : M β WideEncoding) := by
  refine .bind .get fun w => ?_
  split <;> exact .pure _

namespace Accessor

variable {a : Accessor}

/-- Measuring what is quiet is quiet. -/
theorem quietly_timed {act : M β α} (primitive : String) (h : Quietly act) :
    Quietly (a.timed primitive act) :=
  .bind (quietly_startTimer _ _) fun _ => .bind (h.noting _) fun x =>
    .bind (quietly_stopTimer _ _) fun _ => .pure x

/-- Timing a primitive changes nothing about it. -/
theorem keeps_timed [Holds α] {act : M β α} (primitive : String) (hs : w.Sound good)
    (h : ∀ w', w.Alike w' → w'.Sound good → Keeps good act 0 w') :
    Keeps good (a.timed primitive act) 0 w := by
  refine .quiet_bind hs (quietly_startTimer _ _) fun _ w₁ halike hs₁ => ?_
  refine ((h w₁ halike hs₁).noting_quietly (quietly_strandTimer _ _)).next hs₁ fun x w₂ _ hl _ => ?_
  exact .quiet_bind hl.sound (quietly_stopTimer _ _) fun _ w₃ _ hs₃ => .pure hs₃ x

/-- Reading an element of a borrowed object gives a variant of one's own,
if any. -/
theorem keeps_getIndexed (hops : ops.Honest good) (hs : w.Sound good) (hi : i < w.runtimes.size)
    (ho : 1 ≤ w.outside o) (a : Accessor) (index : Int32) :
    Keeps good (a.getIndexed ops (.script i) o index) 0 w := by
  -- Both policies read in the end, in worlds in which the object is still borrowed.
  have hread {w' : World β} (id : Identifier) (hs' : w'.Sound good) (hi' : i < w'.runtimes.size)
      (ho' : 1 ≤ w'.outside o) :
      Keeps good (a.timed "GetProperty" (ops.getProperty (.script i) o id)) 0 w' :=
    keeps_timed _ hs' fun w'' halike hs'' =>
      hops.getProperty w'' i o id hs'' (halike.lt hi') (halike.outside o ▸ ho')
  unfold getIndexed
  refine .quiet_bind hs (quietly_timed _ (quietly_intIdentifier _ _)) fun id w₁ halike₁ hs₁ => ?_
  have hi₁ : i < w₁.runtimes.size := halike₁.lt hi
  have ho₁ : 1 ≤ w₁.outside o := halike₁.outside o ▸ ho
  split
  · refine (hread id hs₁ hi₁ ho₁).next hs₁ fun r w₂ _ hl _ => ?_
    cases r with
    | some v => exact .pure hl.sound (some v)
    | none => cases a.policy.missing <;> exact .pure_nothing hl.sound rfl
  · have hasked : Keeps good (a.timed "HasProperty" (ops.hasProperty (.script i) o id)) 0 w₁ :=
      keeps_timed _ hs₁ fun w' halike hs' =>
        hops.hasProperty w' i o id hs' (halike.lt hi₁) (halike.outside o ▸ ho₁)
    refine hasked.next hs₁ fun b w₂ _ hl _ => ?_
    split
    · have ho₂ : 1 ≤ w₂.outside o := by rwa [hl.outside, holds_bool, Pi.zero_apply, Int.add_zero]
      exact hread id hl.sound (hl.grows.lt hi₁) ho₂
    · exact .pure_nothing hl.sound rfl

end Accessor

/-! ### New code -/

/-- Adding nodes, and storing what is not counted, changes no books. -/
theorem World.Sound.leads_graph {g : Graph β} (hs : w.Sound good) (hg : g.AllCode good)
    (cells : Array Variant) :
    w.Leads good 0 { w with graph := g, cells := cells } where
  sound := ⟨hs.contexts, hg, hs.covered⟩
  grows := ⟨rfl, fun _ => rfl, fun _ => List.suffix_refl _, List.suffix_refl _⟩
  outside _ := (Int.add_zero _).symm

/-- A node of a class whose code is of the kind keeps all code of the kind. -/
theorem Graph.AllCode.addBased {g : Graph β} {c : Class β} (hg : g.AllCode good)
    (hc : c.AllCode good) (base : Option NodeId) : (g.addBased (some c) base).AllCode good := by
  have hclass (n : NodeId) : (g.addBased (some c) base).class? n =
      if n = g.nodes.size then some c else g.class? n := by
    unfold Graph.addBased
    split
    · rw [class?_setBase, class?_addNode]
    · rw [class?_addNode]
  intro n cls hcls
  rw [hclass] at hcls
  split at hcls
  · cases hcls
    exact hc
  · exact hg n cls hcls

/-- A class made from lists has the code that is in the lists. -/
theorem Class.allCode_ofList {name : Bytes} {methods : List (Bytes × Option β)}
    {properties : List (Bytes × Property β)} {construct : Option β}
    (hmethods : ∀ m ∈ methods, ∀ code, m.2 = some code → good.answers code)
    (hgetters : ∀ p ∈ properties, ∀ code, p.2.get = some code → good.answers code)
    (hsetters : ∀ p ∈ properties, ∀ code, p.2.set = some code → good.stores code)
    (hconstruct : ∀ code, construct = some code → good.answers code) :
    Class.AllCode good
      { name, methods := Dict.ofList methods, properties := Dict.ofList properties,
        construct } where
  method k code h := by
    have hfound := Option.join_eq_some_iff.mp h
    exact hmethods _ (Dict.mem_of_find?_ofList hfound) code rfl
  getter k p code h hcode := hgetters _ (Dict.mem_of_find?_ofList h) code hcode
  setter k p code h hcode := hsetters _ (Dict.mem_of_find?_ofList h) code hcode
  constructor := hconstruct

/-! ### Members -/

namespace Behaviour

/-- The members that hold nothing of their own while they wait for the
host. Only counters are told their value. -/
def unburdened : Roles Behaviour where
  answers b := b ≠ .join ∧ b ≠ .sum ∧ b ≠ .range
  stores b := ∃ cell, b = .setCounter cell

variable {lift : Behaviour → β} {ctx : Context} {args : List Variant}

/-- An argument that is not what it must be is refused with a text, which
holds no references. -/
theorem holds_argString {method : String} {i : Nat} {f : Failure}
    (h : argString method args i = .error f) :
    holds f = 0 := by
  obtain rfl := eq_of_argString h
  rfl

/-- What is wrong with an argument holds nothing. -/
theorem holds_argNumber {method : String} {i : Nat} {f : Failure}
    (h : argNumber method args i = .error f) :
    holds f = 0 := by
  obtain rfl := eq_of_argNumber h
  rfl

/-- The same where an object is wanted. -/
theorem holds_argObject {method : String} {i : Nat} {f : Failure}
    (h : argObject method args i = .error f) :
    holds f = 0 := by
  obtain rfl := eq_of_argObject h
  rfl

/-- An object that is an argument is borrowed. -/
theorem outside_of_argObject {method : String} {i : Nat} (hargs : ∀ v ∈ args, w.Lends v)
    (h : argObject method args i = .ok o) : 1 ≤ w.outside o := by
  unfold argObject at h
  split at h
  case h_1 o' hget =>
    cases h
    exact hargs _ (List.mem_of_getElem? hget) o rfl
  case h_2 => cases h

/-- The greeting keeps the books. -/
theorem keeps_runGreet (hs : w.Sound good) (ctx : Context) (args : List Variant) :
    Keeps good (runGreet ctx args) 0 w := by
  unfold runGreet
  split
  case h_1 => exact keeps_valueFromString _ _ hs
  case h_2 => exact keeps_valueFromString _ _ hs
  case h_3 =>
    split
    case h_1 f hf => exact .pure_nothing hs (holds_argString hf)
    case h_2 name _ => exact keeps_valueFromString _ _ hs

/-- What is thrown is a copy, or a text. -/
theorem keeps_runRaise (hs : w.Sound good) (hargs : ∀ v ∈ args, w.Lends v) :
    Keeps good (runRaise ctx args) 0 w := by
  unfold runRaise
  split
  case h_1 => exact .pure_nothing hs rfl
  case h_2 => exact .pure_nothing hs rfl
  case h_3 v _ _ =>
    refine (keeps_copyVariant ctx.host hs (hargs v List.mem_cons_self)).next hs fun r w₁ _ hl _ =>
      ?_
    cases r with
    | ok copy => exact .pure hl.sound (Except.error (Failure.thrown copy) : Except Failure Variant)
    | error f => exact .pure hl.sound _

/-- So does giving the last error back -/
theorem keeps_runLastError (hs : w.Sound good) (ctx : Context) :
    Keeps good (runLastError ctx) 0 w := by
  unfold runLastError
  refine .get_bind ?_
  split
  case h_1 inst _ =>
    split
    · exact .pure_nothing hs rfl
    · exact keeps_valueFromString _ _ hs
  case h_2 => exact .pure_nothing hs rfl

/-- Reading a wide argument touches no references. -/
theorem perform_wideArgument (method : String) (ctx : Context) (args : List Variant) (w : World β) :
    ∃ r w', perform (wideArgument method ctx args) w = (.ok r, w') ∧ w.Alike w' ∧ ∀ f,
      r = .error f → holds f = 0 := by
  obtain ⟨enc, w', hrun, halike⟩ := quietly_encodingFor ctx w
  unfold wideArgument
  rw [perform_bind_ok hrun]
  split
  case h_1 f hf => exact ⟨_, w', rfl, halike, fun _ h => by cases h; exact holds_argString hf⟩
  case h_2 s _ =>
    split
    · exact ⟨_, w', rfl, halike, fun _ h => by cases h⟩
    · exact ⟨_, w', rfl, halike, fun _ h => by cases h; rfl⟩

/-- and picking an element. -/
theorem keeps_runElement (hops : ops.Honest good) (hs : w.Sound good) (hctx : w.Scripted ctx)
    (hargs : ∀ v ∈ args, w.Lends v) : Keeps good (runElement ops ctx args) 0 w := by
  obtain ⟨i, hi, hhost⟩ := hctx
  unfold runElement
  split
  case h_1 f hf => exact .pure_nothing hs (holds_argObject hf)
  case h_2 arr harr =>
    split
    case h_1 f hf => exact .pure_nothing hs (holds_argNumber hf)
    case h_2 n _ =>
      split
      · exact .pure_nothing hs rfl
      · refine .quiet_bind hs (quietly_accessorFor ctx) fun a w₁ halike hs₁ => ?_
        have hi₁ : i < w₁.runtimes.size := halike.lt hi
        have harr₁ : 1 ≤ w₁.outside arr := halike.outside arr ▸ outside_of_argObject hargs harr
        rw [hhost]
        refine (a.keeps_getIndexed hops hs₁ hi₁ harr₁ _).next hs₁ fun r w₂ _ hl _ => ?_
        cases r with
        | some v => exact .pure hl.sound (Except.ok v : Except Failure Variant)
        | none => exact .pure_nothing hl.sound rfl

/-- The native code there may be includes the unburdened members. -/
structure Lifts (lift : Behaviour → β) (good : Roles β) : Prop where
  answers : ∀ b, unburdened.answers b → good.answers (lift b)
  stores : ∀ b, unburdened.stores b → good.stores (lift b)

/-- The code of a counter's class is of the kind. -/
theorem allCode_counterClass (hlift : Lifts lift good) (cell : Nat) :
    (counterClass lift cell).AllCode good := by
  refine Class.allCode_ofList ?_ ?_ ?_ nofun
  · intro m hm code hcode
    cases List.mem_singleton.mp hm
    cases hcode
    exact hlift.answers _ ⟨nofun, nofun, nofun⟩
  · intro p hp code hcode
    cases List.mem_singleton.mp hp
    cases hcode
    exact hlift.answers _ ⟨nofun, nofun, nofun⟩
  · intro p hp code hcode
    cases List.mem_singleton.mp hp
    cases hcode
    exact hlift.stores _ ⟨cell, rfl⟩

/-- A new counter is a proxy that belongs to the caller. -/
theorem keeps_runNewCounter (hlift : Lifts lift good) (hs : w.Sound good) (hctx : w.Scripted ctx)
    (args : List Variant) : Keeps good (runNewCounter lift ctx args) 0 w := by
  rw [runNewCounter_eq]
  cases hstart : counterStart args with
  | error f => exact .pure_nothing hs (eq_of_counterStart hstart ▸ rfl)
  | ok start =>
    refine .get_bind ?_
    have hgraph := hs.code.addBased (allCode_counterClass hlift w.cells.size)
      ((w.instanceOf? ctx).bind fun i => w.graph.lookup? i.root (.ofString "object"))
    have hl := hs.leads_graph hgraph (w.cells.push (.double start))
    refine .after (perform_set _ _) hl ?_
    obtain ⟨w', hproxy, hl'⟩ :=
      perform_newProxy_leads hl.sound (hl.grows.scripted hctx) w.graph.nodes.size
    exact .after hproxy hl' ((Keeps.pure hl'.sound _).congr fun o => by simp)

/-- Writing to a counter's cell is quiet. -/
theorem quietly_setCell (cell : Nat) (v : Variant) : Quietly (setCell cell v : M β Unit) :=
  .modify fun _ => ⟨rfl, rfl, rfl, rfl, rfl, rfl⟩

/-- Counting on keeps the books. -/
theorem keeps_runIncrement (hs : w.Sound good) (cell : Nat) (args : List Variant) :
    Keeps good (runIncrement cell args) 0 w := by
  rw [runIncrement_eq]
  cases hamount : counterStep args with
  | error f => exact .pure_nothing hs (eq_of_counterStep hamount ▸ rfl)
  | ok amount =>
    refine .get_bind ?_
    exact .quiet_bind hs (quietly_setCell _ _) fun _ _ _ hs' =>
      .pure_nothing hs' (ScriptHost.holds_ofNumber _)

/-- An unburdened member keeps the books. -/
theorem keeps_run {b : Behaviour} (hlift : Lifts lift good) (hb : unburdened.answers b)
    (hops : ops.Honest good) (hs : w.Sound good) (hctx : w.Scripted ctx)
    (hargs : ∀ v ∈ args, w.Lends v) :
    Keeps good (run lift ops ctx b args) 0 w := by
  obtain ⟨hjoin, hsum, hrange⟩ := hb
  cases b with
  | describe => exact keeps_valueFromString _ _ hs
  | greet => exact keeps_runGreet hs ctx args
  | echo =>
    cases args with
    | nil => exact .pure_nothing hs rfl
    | cons v rest => exact keeps_copyVariant _ hs (hargs v List.mem_cons_self)
  | raise => exact keeps_runRaise hs hargs
  | version => exact keeps_valueFromString _ _ hs
  | lastError => exact keeps_runLastError hs ctx
  | upper =>
    unfold run
    dsimp only
    split
    case h_1 s _ => exact keeps_valueFromString _ _ hs
    case h_2 f hf => exact .pure_nothing hs (holds_argString hf)
  | wide =>
    obtain ⟨r, w', hrun, halike, hr⟩ := perform_wideArgument "wide" ctx args w
    have hl := halike.leads hs
    refine .after hrun hl ?_
    rw [add_zero]
    -- Reading the argument leaves the books alone.
    cases r with
    | ok x => exact keeps_valueFromWide _ _ _ hl.sound
    | error f => exact .pure_nothing hl.sound (hr f rfl)
  | wideUnits =>
    obtain ⟨r, w', hrun, halike, hr⟩ := perform_wideArgument "wideUnits" ctx args w
    have hl := halike.leads hs
    refine .after hrun hl ?_
    rw [add_zero]
    cases r with
    | ok x => exact .pure_nothing hl.sound rfl
    | error f => exact .pure_nothing hl.sound (hr f rfl)
  -- The burdened members are left out.
  | join => exact absurd rfl hjoin
  | range => exact absurd rfl hrange
  | sum => exact absurd rfl hsum
  | element => exact keeps_runElement hops hs hctx hargs
  | newCounter => exact keeps_runNewCounter hlift hs hctx args
  | counterValue cell => exact .get_bind (.pure_nothing hs (ScriptHost.holds_ofNumber _))
  | setCounter cell =>
    unfold run
    dsimp only
    split
    case h_1 n _ => exact .quiet_bind hs (quietly_setCell _ _) fun _ _ _ hs' =>
        .pure_nothing hs' rfl
    case h_2 => exact .pure_nothing hs rfl
  | increment cell => exact keeps_runIncrement hs cell args

/-- The unburdened members honour the ownership contract. -/
theorem honours : Native.Honours unburdened where
  call ops ctx code args w hops hgood hs hctx hargs :=
    keeps_run ⟨fun _ h => h, fun _ h => h⟩ hgood hops hs hctx hargs
  store ops ctx code v w hops hgood hs hctx hv := by
    obtain ⟨cell, rfl⟩ := hgood
    have hanswer {r : Except Failure Variant} {w' : World Behaviour}
        (hrun : perform (run id ops ctx (.setCounter cell) [v]) w = (.ok r, w')) : holds r = 0 := by
      unfold run at hrun
      dsimp only at hrun
      split at hrun <;> cases hrun <;> rfl
    have hargs : ∀ x ∈ [v], w.Lends x := fun x hx => List.mem_singleton.mp hx ▸ hv
    have hlift : Lifts id unburdened := ⟨fun _ h => h, fun _ h => h⟩
    have hcall : Keeps unburdened (run id ops ctx (.setCounter cell) [v]) 0 w :=
      keeps_run hlift ⟨nofun, nofun, nofun⟩ hops hs hctx hargs
    refine hcall.next hs fun r w' hrun hl _ => ?_
    rw [hanswer hrun]
    cases r with
    | ok x => exact .pure_nothing hl.sound rfl
    | error f => exact .pure_nothing hl.sound (hanswer hrun)

end Behaviour

end ObjectBridge

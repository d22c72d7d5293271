import ObjectBridge.Proofs.Bridge.Runtime
import ObjectBridge.Proofs.Builtin.Contract

/-!
# `ObjectBridge.Proofs.Bridge.Conservation`: runtimes conserve references

`Dealings` is any sequence of what may happen to the runtimes of a world:
objects are bound, scripts run and ask native objects for things, runtimes
are reset and closed, and whoever embeds them goes about its own business
in between. All native code honours the ownership contract.

Whatever happened, the references to an object are those the embedder has,
those runtimes hold, and those that were lost (`Dealings.conserve`). From
there on a runtime again adds to a count exactly what it takes on and what
it loses (`World.Conserved`), and gives everything back when it is reset or
closed (`World.Freed`).

A reference is lost in one way. Native code may read or write a property of
a native object through its host, and the object may throw. Such an
exception goes no further, and nobody gives the thrown object back. So
references are conserved exactly when nothing is abandoned
(`World.Conserved.balances`), and `Snare` is native code that shows the
loss.
-/

set_option autoImplicit false

namespace ObjectBridge

variable {α β : Type} {good : Roles β} {w w' w₀ : World β} {t : ObjectRef → Int}

namespace World

/-- The counts of all objects changed by what runtimes took on, less the
references `t` that they were given for it. -/
def Balances (w : World β) (t : ObjectRef → Int) (w' : World β) : Prop :=
  ∀ o, w'.refs o - w.refs o = (w'.adopted.count o : Int) - w.adopted.count o - t o

/-- What an operation does that takes the references `t` from its caller
and answers with none. The counts are only vouched for when it is not
excused. -/
structure Conserved (w : World β) (t : ObjectRef → Int) (r : Except Unwind α)
    (w' : World β) : Prop where
  /-- No reference is released that nobody held. -/
  proper : r ≠ .error (.misuse RefCount.unretainedMessage)
  /-- Runtimes only take objects on. -/
  adopted : ∀ j, (w.runtime j).adopted <:+ (w'.runtime j).adopted
  /-- What is lost stays lost. -/
  abandoned : w.abandoned <:+ w'.abandoned
  refs : ¬ w.Excuses r → ∀ o, w'.refs o - w.refs o =
    (w'.adopted.count o - w.adopted.count o) + (w'.abandoned.count o - w.abandoned.count o) - t o
  balances : ¬ w.Excuses r → (w.Balances t w' ↔ w'.abandoned = w.abandoned)

/-- Lists that differ are told apart by counting, if one goes on from the
other. -/
theorem eq_of_suffix_of_count {l l' : List ObjectRef} (h : l <:+ l')
    (hcount : ∀ o, l'.count o = l.count o) :
    l' = l := by
  obtain ⟨added, rfl⟩ := h
  cases added with
  | nil => rfl
  | cons o rest =>
    have := hcount o
    rw [List.count_append, List.count_cons_self] at this
    omega

end World

/-- An operation that is not excused leaves nothing over. -/
theorem Keeps.leads_of_not_excused [Holds α] {act : M β α} (h : Keeps good act t w)
    (hnothing : ∀ x : α, holds x = 0) (hr : ¬ w.Excuses (perform act w).1) :
    w.Leads good (-t) (perform act w).2 := by
  have hresult : holds (perform act w).1 = 0 := by
    cases (perform act w).1 with
    | ok x => exact hnothing x
    | error u => rfl
  obtain ⟨extra, _, hextra, hl⟩ := Settles.leads h
  have hzero : extra = 0 := hextra.resolve_right hr
  rwa [hzero, hresult, add_zero, zero_sub] at hl

/-- An operation that keeps the books conserves references. -/
theorem Keeps.conserved [Holds α] {act : M β α} (h : Keeps good act t w)
    (hnothing : ∀ x : α, holds x = 0) :
    w.Conserved t (perform act w).1 (perform act w).2 := by
  obtain ⟨_, _, _, hl⟩ := Settles.leads h
  -- References are outside or they are adopted or abandoned, and only those outside are kept.
  have hrefs (hr : ¬ w.Excuses (perform act w).1) (o : ObjectRef) :
      (perform act w).2.refs o - w.refs o =
        ((perform act w).2.adopted.count o - w.adopted.count o) +
        ((perform act w).2.abandoned.count o - w.abandoned.count o) - t o := by
    have hout := (h.leads_of_not_excused hnothing hr).outside o
    rw [World.outside, World.outside, Pi.neg_apply] at hout
    omega
  exact {
    proper := Settles.proper h
    adopted := hl.grows.adopted
    abandoned := hl.grows.abandoned
    refs := hrefs
    balances := fun hr => by
      constructor
      · intro hbalances
        refine World.eq_of_suffix_of_count hl.grows.abandoned fun o => ?_
        have := hbalances o
        have := hrefs hr o
        omega
      · intro hsame o
        have := hrefs hr o
        rw [hsame] at this
        omega }

/-! ### Dealings with runtimes -/

section

variable [Native β]

/-- What happens to the runtimes of a world, in any order, with the
references that the embedder has come to have beyond those it had. -/
inductive Dealings (good : Roles β) (w₀ : World β) : (ObjectRef → Int) → World β → Prop
  | start : Dealings good w₀ 0 w₀
  /-- An object is bound: the embedder gives one of its references away. -/
  | bind {t : ObjectRef → Int} {w : World β} {i : Nat} {name : String} {o : ObjectRef}
      (run : Dealings good w₀ t w) (hi : i < w.runtimes.size) (ho : 1 ≤ w.outside o)
      (hr : ¬ w.Excuses (perform (Runtime.bind i name (some o)) w).1) :
      Dealings good w₀ (t - one o) (perform (Runtime.bind i name (some o)) w).2
  /-- A script asks something of a native object, be the script run by the
  embedder or, however deep, by native code. -/
  | callback {t : ObjectRef → Int} {w : World β} {level i : Nat} {q : Script.Request}
      (run : Dealings good w₀ t w) (hi : i < w.runtimes.size)
      (hr : ¬ w.Excuses (perform (ScriptHost.serve (hostOps level) i q) w).1) :
      Dealings good w₀ t (perform (ScriptHost.serve (hostOps level) i q) w).2
  /-- A script is executed from beginning to end. -/
  | execute {t : ObjectRef → Int} {w : World β} {i : Nat} {script : String} {cancelled : Bool}
      (run : Dealings good w₀ t w) (hi : i < w.runtimes.size)
      (hr : ¬ w.Excuses (perform (Runtime.execute i script cancelled) w).1) :
      Dealings good w₀ t (perform (Runtime.execute i script cancelled) w).2
  | reset {t : ObjectRef → Int} {w : World β} {i : Nat} (run : Dealings good w₀ t w)
    (hi : i < w.runtimes.size) :
      Dealings good w₀ t (perform (Runtime.reset i) w).2
  | close {t : ObjectRef → Int} {w : World β} {i : Nat} (run : Dealings good w₀ t w)
    (hi : i < w.runtimes.size) :
      Dealings good w₀ t (perform (Runtime.close i) w).2
  /-- The embedder makes, takes and gives back objects of its own, and opens
  runtimes. What runtimes hold is none of its business. -/
  | elsewhere {t : ObjectRef → Int} {w w' : World β} (run : Dealings good w₀ t w)
      (hs : w'.Sound good) (hadopted : ∀ j, (w'.runtime j).adopted = (w.runtime j).adopted)
      (habandoned : w'.abandoned = w.abandoned) :
      Dealings good w₀ (fun o => t o + (w'.outside o - w.outside o)) w'

/-- Whatever is done next to a runtime conserves references. -/
structure World.Conserves (w : World β) : Prop where
  bind : ∀ (i : Nat) (name : String) (o : ObjectRef), i < w.runtimes.size → 1 ≤ w.outside o →
    w.Conserved (one o) (perform (Runtime.bind i name (some o)) w).1
    (perform (Runtime.bind i name (some o)) w).2
  /-- The bound proxy is the first that an open runtime takes on. -/
  moves : ∀ (i : Nat) (name : String) (p : Nat), i < w.runtimes.size → (w.runtime i).isOpen →
    1 ≤ w.outside (.proxy p) → .proxy p :: (w.runtime i).adopted <:+
      ((perform (Runtime.bind i name (some (.proxy p))) w).2.runtime i).adopted
  callback : ∀ (level i : Nat) (q : Script.Request), i < w.runtimes.size →
    w.Conserved 0 (perform (ScriptHost.serve (hostOps level) i q) w).1
      (perform (ScriptHost.serve (hostOps level) i q) w).2
  execute : ∀ (i : Nat) (script : String) (cancelled : Bool), i < w.runtimes.size →
    w.Conserved 0 (perform (Runtime.execute i script cancelled) w).1
      (perform (Runtime.execute i script cancelled) w).2
  reset : ∀ i < w.runtimes.size, ∃ w', perform (Runtime.reset i) w = (.ok (), w') ∧ w.Freed i w'
  close : ∀ i < w.runtimes.size, ∃ w', perform (Runtime.close i) w = (.ok (), w') ∧ w.Freed i w'

/-- The result of a binding holds nothing. -/
theorem holds_bound (r : Except Runtime.BindError Unit) : holds r = 0 := by cases r <;> rfl

/-- Serving a script's request keeps the books. -/
theorem keeps_callback {i : Nat} (hn : Native.Honours good) (hs : w.Sound good) (level : Nat)
    (hi : i < w.runtimes.size) (q : Script.Request) :
    Keeps good (ScriptHost.serve (hostOps level) i q) 0 w :=
  ScriptHost.keeps_serve hn (honest_hostOps hn level) hs hi q

/-- A sound world conserves references. -/
theorem World.Sound.conserves (hs : w.Sound good) (hn : Native.Honours good) : w.Conserves where
  bind i name o hi ho := (Runtime.keeps_bind hn hs hi name ho).conserved holds_bound
  moves i name p hi hopen ho := Runtime.suffix_adopted_bind hn hs hi hopen name ho
  callback level i q hi := (keeps_callback hn hs level hi q).conserved ScriptHost.holds_reply
  execute i script cancelled hi :=
    (Runtime.keeps_execute hn hs hi script cancelled).conserved fun _ => rfl
  reset i hi := by
    obtain ⟨w', hrun, _, hfreed⟩ := Runtime.perform_reset hs hi
    exact ⟨w', hrun, hfreed⟩
  close i hi := by
    obtain ⟨w', hrun, _, hfreed⟩ := Runtime.perform_close hs hi
    exact ⟨w', hrun, hfreed⟩

/-- Dealings leave the books in order, and the embedder has what it says it
has. -/
theorem Dealings.sound (hn : Native.Honours good) (h₀ : w₀.Sound good)
    (run : Dealings good w₀ t w) :
    w.Sound good ∧ ∀ o, w.outside o = w₀.outside o + t o := by
  induction run with
  | start => exact ⟨h₀, fun o => (Int.add_zero _).symm⟩
  | bind run hi ho hr ih =>
    obtain ⟨hs, hout⟩ := ih
    have hl := (Runtime.keeps_bind hn hs hi _ ho).leads_of_not_excused holds_bound hr
    refine ⟨hl.sound, fun o => ?_⟩
    rw [hl.outside, hout, Pi.neg_apply, Pi.sub_apply]
    omega
  | callback run hi hr ih =>
    obtain ⟨hs, hout⟩ := ih
    have hl := (keeps_callback hn hs _ hi _).leads_of_not_excused ScriptHost.holds_reply hr
    refine ⟨hl.sound, fun o => ?_⟩
    rw [hl.outside, hout, Pi.neg_apply, Pi.zero_apply]
    omega
  | execute run hi hr ih =>
    obtain ⟨hs, hout⟩ := ih
    have hl := (Runtime.keeps_execute hn hs hi _ _).leads_of_not_excused (fun _ => rfl) hr
    refine ⟨hl.sound, fun o => ?_⟩
    rw [hl.outside, hout, Pi.neg_apply, Pi.zero_apply]
    omega
  | reset run hi ih =>
    -- A runtime gives back references of its own, so nobody else has fewer.
    obtain ⟨hs, hout⟩ := ih
    obtain ⟨w', hrun, hs', hfreed⟩ := Runtime.perform_reset hs hi
    rw [hrun]
    exact ⟨hs', fun o => (hfreed.outside o).trans (hout o)⟩
  | close run hi ih =>
    obtain ⟨hs, hout⟩ := ih
    obtain ⟨w', hrun, hs', hfreed⟩ := Runtime.perform_close hs hi
    rw [hrun]
    exact ⟨hs', fun o => (hfreed.outside o).trans (hout o)⟩
  | elsewhere run hs' _ _ ih =>
    obtain ⟨_, hout⟩ := ih
    refine ⟨hs', fun o => ?_⟩
    have := hout o
    dsimp only
    omega

/-- Whatever happened to the runtimes of a world, every reference to an
object is the embedder's, a runtime's, or lost; and what is done next
conserves references. -/
theorem Dealings.conserve (hn : Native.Honours good) (h₀ : w₀.Sound good)
    (run : Dealings good w₀ t w) :
    (∀ o, w.refs o = w₀.outside o + t o + w.adopted.count o + w.abandoned.count o) ∧
      w.Conserves := by
  obtain ⟨hs, hout⟩ := run.sound hn h₀
  refine ⟨fun o => ?_, hs.conserves hn⟩
  rw [← hout, World.outside]
  omega

end

/-- Nothing is excused in a world of open runtimes. -/
theorem World.not_excuses (h : ∀ i, (w.runtime i).isOpen) (r : Except Unwind α) :
    ¬ w.Excuses r := by
  rintro ⟨_, i, hclosed⟩
  rw [h i] at hclosed
  cases hclosed

/-- While all runtimes are open, an object may be bound, a script may ask
for something, and the runtime may be reset. -/
theorem Dealings.ofOpen [Native β] {i : Nat} {o : ObjectRef} (hn : Native.Honours good)
    (hs : w.Sound good) (hopen : ∀ j, (w.runtime j).isOpen) (hi : i < w.runtimes.size)
    (ho : 1 ≤ w.outside o) (name : String) (level : Nat) (q : Script.Request) :
    Dealings good w (0 - one o) (perform (do
      let _ ← caught (Runtime.bind i name (some o))
      let _ ← caught (ScriptHost.serve (hostOps level) i q)
      Runtime.reset i) w).2 := by
  have hr₁ := World.not_excuses hopen (perform (Runtime.bind i name (some o)) w).1
  have hl₁ := (Runtime.keeps_bind hn hs hi name ho).leads_of_not_excused holds_bound hr₁
  have run₁ : Dealings good w (0 - one o) _ := Dealings.start.bind hi ho hr₁
  generalize hw₁ : (perform (Runtime.bind i name (some o)) w).2 = w₁ at hl₁ run₁
  have hi₁ := hl₁.grows.lt hi
  have hopen₁ (j : Nat) : (w₁.runtime j).isOpen := (hl₁.grows.isOpen j).trans (hopen j)
  have hr₂ := World.not_excuses hopen₁ (perform (ScriptHost.serve (hostOps level) i q) w₁).1
  have hl₂ := (keeps_callback hn hl₁.sound level hi₁ q).leads_of_not_excused
      ScriptHost.holds_reply hr₂
  have run₂ := run₁.callback hi₁ hr₂
  generalize hw₂ : (perform (ScriptHost.serve (hostOps level) i q) w₁).2 = w₂ at hl₂ run₂
  have run₃ := run₂.reset (hl₂.grows.lt hi₁)
  rwa [perform_bind_ok (perform_caught _ w), hw₁, perform_bind_ok (perform_caught _ w₁), hw₂]

/-- A runtime, and a view of a node that makes counters. -/
def counterWorld : World Behaviour :=
  { proxies := #[{ refs := { refs := 1 }, context := { host := .script 0 }, node := 0 }]
    graph := { nodes := #[{ cls := some { construct := some .newCounter } }] }
    runtimes := #[{}] }

/-- In the witness every runtime is open. -/
theorem isOpen_counterWorld (i : Nat) : (counterWorld.runtime i).isOpen := by
  match i with
  | 0 => rfl
  | i + 1 => rfl

/-- Its books are sound. -/
theorem sound_counterWorld : counterWorld.Sound Behaviour.unburdened where
  contexts p x hp := by
    match p with
    | 0 =>
      cases hp
      exact ⟨0, Nat.one_pos, rfl⟩
  code := by
    have hempty : Graph.AllCode Behaviour.unburdened {} := nofun
    exact hempty.addBased (c := { construct := some .newCounter }) {
      method := fun name code h => by cases h
      getter := fun name p code h => by cases h
      setter := fun name p code h => by cases h
      constructor := fun code h => by
        cases h
        exact ⟨nofun, nofun, nofun⟩ } none
  covered o := by
    match o with
    | .table 0 | .table (_ + 1) | .proxy (_ + 1) | .handle _ => exact Int.le_refl 0
    | .proxy 0 => decide

/-- The embedder binds the view, a script has a counter made, and the
runtime is reset. -/
theorem Dealings.conserve_counter :
    let w := (perform (do
      let _ ← caught (Runtime.bind 0 "counters" (some (.proxy 0)))
      let _ ← caught (ScriptHost.serve (hostOps nesting) 0 (.construct (.proxy 0) []))
      Runtime.reset 0) counterWorld).2
    Dealings Behaviour.unburdened counterWorld (0 - one (.proxy 0)) w ∧
    (∀ o, w.refs o = counterWorld.outside o + (0 - one (.proxy 0)) o + w.adopted.count o +
      w.abandoned.count o) ∧
    w.Conserves := by
  have hi : 0 < counterWorld.runtimes.size := Nat.one_pos
  have ho : 1 ≤ counterWorld.outside (.proxy 0) := by decide
  have run := Dealings.ofOpen Behaviour.honours sound_counterWorld isOpen_counterWorld hi ho
    "counters" nesting (.construct (.proxy 0) [])
  have hconserve := run.conserve Behaviour.honours sound_counterWorld
  intro w
  exact ⟨run, hconserve⟩

/-! ### What gets lost -/

/-- Native code that throws an object of its own, and native code that
looks at what it is given. -/
inductive Snare
  | spring
  | touch

namespace Snare

/-- Reads the bait of an object, and gives back what is read. -/
def look (ops : HostOps Snare) (host : HostId)
    (o : ObjectRef) : M Snare (Except Failure Variant) := do
  let v ← ops.getProperty host o (.name (.ofString "bait"))
  releaseVariant host (v.getD .void)
  return .ok .void

instance : Native Snare where
  call ops ctx code args := do
    match code, args with
    | .spring, _ => return .error (.thrown (.object (← newProxy ctx 0)))
    | .touch, .object o :: _ => look ops ctx.host o
    | .touch, _ => return .ok .void

/-- All of it may be called, and none of it sets a property. -/
def roles : Roles Snare where
  answers _ := True
  stores _ := False

/-- The code of the snare honours its roles. -/
theorem honours : Native.Honours roles where
  call ops ctx code args w hops _ hs hctx hargs := by
    cases code with
    | spring =>
      obtain ⟨w', hrun, hl⟩ := perform_newProxy_leads hs hctx 0
      exact .after hrun hl ((Keeps.pure hl.sound _).congr fun x => (Int.zero_add _).symm)
    | touch =>
      cases args with
      | nil => exact .pure_nothing hs rfl
      | cons v rest =>
        cases v with
        | object o =>
          obtain ⟨i, hi, hhost⟩ := hctx
          have ho : 1 ≤ w.outside o := hargs _ List.mem_cons_self o rfl
          have hlook : Keeps roles (look ops (.script i) o) 0 w := by
            refine (hops.getProperty w i o _ hs hi ho).next hs fun v w₁ _ hl hv => ?_
            have hread : holds (v.getD .void) = holds v := by cases v <;> rfl
            obtain ⟨w₂, hrun, hl₂⟩ := perform_releaseVariant (.script i) hl.sound (hread.symm ▸ hv)
            exact .after hrun hl₂ ((Keeps.pure_nothing hl₂.sound rfl).congr fun x => by
              simp [hread])
          rw [← hhost] at hlook
          exact hlook
        | _ => exact .pure_nothing hs rfl
  store _ _ _ _ _ _ h := h.elim

/-- A class whose method looks at what it is given. -/
def toucher : Class Snare := { methods := .ofList [(.ofString "touch", some .touch)] }

/-- A class with a property that throws. -/
def bait : Class Snare := { properties := .ofList [(.ofString "bait", { get := some .spring })] }

/-- So does what touches the bait, -/
theorem allCode_toucher : toucher.AllCode roles where
  method _ _ _ := trivial
  getter _ _ _ _ _ := trivial
  setter name p code hp := by cases hp
  constructor _ _ := trivial

/-- and the bait. -/
theorem allCode_bait : bait.AllCode roles where
  method _ _ _ := trivial
  getter _ _ _ _ _ := trivial
  setter name p code hp hcode := by
    cases List.mem_singleton.mp (Dict.mem_of_find?_ofList hp)
    cases hcode
  constructor _ _ := trivial

end Snare

/-- A runtime that holds views of two nodes, and a script that has an
object for the second. The first node looks at what it is given, the second
has a property that throws. -/
def snareWorld : World Snare :=
  let context : Context := { host := .script 0 }
  { proxies := #[{ refs := { refs := 1 }, context, node := 0 },
    { refs := { refs := 1 }, context, node := 1 }]
    graph := { nodes := #[{ cls := some Snare.toucher }, { cls := some Snare.bait }] }
    runtimes := #[{ adopted := [.proxy 1, .proxy 0] }]
    heap := { objects := #[{ kind := .native 0 (.proxy 1) }] } }

/-- The books of their world are sound. -/
theorem sound_snareWorld : snareWorld.Sound Snare.roles where
  contexts p x hp := by
    match p with
    | 0 | 1 =>
      cases hp
      exact ⟨0, Nat.one_pos, rfl⟩
  code := by
    have hempty : Graph.AllCode Snare.roles {} := nofun
    exact (hempty.addBased Snare.allCode_toucher none).addBased Snare.allCode_bait none
  covered o := by
    match o with
    | .table 0 | .table (_ + 1) | .proxy (_ + 2) | .handle _ => exact Int.le_refl 0
    | .proxy 0 | .proxy 1 => decide

/-- The script hands the second object to the first. The proxy that is
thrown has a reference which no runtime took on. -/
theorem not_balances_snareWorld :
    Native.Honours Snare.roles ∧ snareWorld.Sound Snare.roles ∧ (snareWorld.runtime 0).isOpen ∧
      let w := (perform (ScriptHost.serve host 0 (.call (.proxy 0) "touch" [.object 0]))
        snareWorld).2
      w.refs (.proxy 2) = snareWorld.refs (.proxy 2) + 1 ∧ w.adopted = snareWorld.adopted ∧
        ¬ snareWorld.Balances 0 w := by
  have hrefs : (perform (ScriptHost.serve host 0 (.call (.proxy 0) "touch" [.object 0]))
      snareWorld).2.refs (.proxy 2) = snareWorld.refs (.proxy 2) + 1 := by decide +kernel
  have hadopted : (perform (ScriptHost.serve host 0 (.call (.proxy 0) "touch" [.object 0]))
      snareWorld).2.adopted = snareWorld.adopted := by decide +kernel
  -- A count that went up without anything taken on is not balanced.
  refine ⟨Snare.honours, sound_snareWorld, rfl, hrefs, hadopted, fun hbalances => ?_⟩
  have hthrown := hbalances (.proxy 2)
  rw [hrefs, hadopted, Pi.zero_apply] at hthrown
  omega

end ObjectBridge

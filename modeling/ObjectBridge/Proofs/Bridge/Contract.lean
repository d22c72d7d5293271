import ObjectBridge.Proofs.Bridge.Keeps

/-!
# `ObjectBridge.Proofs.Bridge.Contract`: what hosts and native code promise each other

Native code borrows its arguments, owns what a host gives it, and hands
over what it answers or throws. `Native.Honours` says this of native code
that may rely on the same of the host (`HostOps.Honest`), and a proxy that
stands between them passes it on (`keeps_getProperty` and its siblings).

The native code there may be is `good`: some of it is called for an answer,
some sets a property. The graph holds only such code, and running it adds
only more of it.
-/

set_option autoImplicit false

namespace ObjectBridge

variable {β : Type} {good : Roles β} {w w' : World β} {t n : ObjectRef → Int}

/-! ### Borrowing -/

/-- Somebody holds what a variant refers to. -/
def World.Lends (w : World β) (v : Variant) : Prop := ∀ o, v = .object o → 1 ≤ w.outside o

/-- What can be lent can be lent by the same books. -/
theorem World.Alike.lends {v : Variant} (h : w.Alike w') (hv : w.Lends v) : w'.Lends v :=
  fun o ho => h.outside o ▸ hv o ho

/-- What is held outside can be lent. -/
theorem World.lends_of_holds {v : Variant} (h : ∀ o, holds v o ≤ w.outside o) : w.Lends v := by
  rintro o rfl
  have := h o
  rwa [holds_object, one, if_pos rfl] at this

/-! ### The two sides of the contract -/

/-- A host that gives away what it answers and borrows what it is given. -/
structure HostOps.Honest (good : Roles β) (ops : HostOps β) : Prop where
  hasProperty : ∀ (w : World β) (i : Nat) (o : ObjectRef) (id : Identifier), w.Sound good →
    i < w.runtimes.size → 1 ≤ w.outside o → Keeps good (ops.hasProperty (.script i) o id) 0 w
  getProperty : ∀ (w : World β) (i : Nat) (o : ObjectRef) (id : Identifier), w.Sound good →
    i < w.runtimes.size → 1 ≤ w.outside o → Keeps good (ops.getProperty (.script i) o id) 0 w
  setProperty : ∀ (w : World β) (i : Nat) (o : ObjectRef) (id : Identifier) (v : Variant),
    w.Sound good → i < w.runtimes.size → 1 ≤ w.outside o → w.Lends v →
    Keeps good (ops.setProperty (.script i) o id v) 0 w
  evaluate : ∀ (w : World β) (i : Nat) (scope : Option ObjectRef) (script : Bytes), w.Sound good →
    i < w.runtimes.size → Keeps good (ops.evaluate (.script i) scope script) 0 w

/-- The native code there may be honours the ownership contract: it
borrows its arguments, its answer belongs to the caller, what it throws is
handed over, and it keeps no reference for itself. -/
structure Native.Honours [Native β] (good : Roles β) : Prop where
  call : ∀ (ops : HostOps β) (ctx : Context) (code : β) (args : List Variant) (w : World β),
    ops.Honest good → good.answers code → w.Sound good → w.Scripted ctx → (∀ v ∈ args, w.Lends v) →
    Keeps good (Native.call ops ctx code args) 0 w
  store : ∀ (ops : HostOps β) (ctx : Context) (code : β) (v : Variant) (w : World β),
    ops.Honest good → good.stores code → w.Sound good → w.Scripted ctx → w.Lends v →
    Keeps good (Native.store ops ctx code v) 0 w

/-! ### Timers and messages -/

/-- Measuring is quiet. -/
theorem quietly_withRecorder (recorder : Option Nat) (f : Recorder → Recorder) :
    Quietly (withRecorder recorder f : M β Unit) := by
  unfold withRecorder
  split
  · exact .modify fun _ => ⟨rfl, rfl, rfl, rfl, rfl, rfl⟩
  · exact .pure _

/-- So is starting a timer, -/
theorem quietly_startTimer (recorder : Option Nat) (key : Bytes) :
    Quietly (startTimer recorder key : M β Unit) :=
  quietly_withRecorder _ _

/-- stopping one -/
theorem quietly_stopTimer (recorder : Option Nat) (key : Bytes) :
    Quietly (stopTimer recorder key : M β Unit) :=
  quietly_withRecorder _ _

/-- or leaving it. -/
theorem quietly_strandTimer (recorder : Option Nat) (key : Bytes) :
    Quietly (strandTimer recorder key : M β Unit) :=
  quietly_withRecorder _ _

/-- Metering is quiet. -/
theorem quietly_meter (ctx : Context) (event : Metrics → Metrics) :
    Quietly (meter ctx event : M β Unit) := by
  intro w
  obtain ⟨metrics, hrun⟩ := perform_meter ctx event w
  exact ⟨_, _, hrun, w.alike_metrics metrics⟩

/-- So is noting the last error, -/
theorem quietly_setLastError (ctx : Context) (message : Bytes) :
    Quietly (Proxy.setLastError ctx message : M β Unit) := by
  unfold Proxy.setLastError
  split
  · exact .bind (.modify fun _ => ⟨rfl, rfl, rfl, rfl, rfl, rfl⟩) fun _ => quietly_meter _ _
  · exact .pure _

/-- counting a call -/
theorem quietly_countCall (name : String) : Quietly (countCall name : M β Unit) :=
  .modify fun _ => ⟨rfl, rfl, rfl, rfl, rfl, rfl⟩

/-! ### Bytes -/

/-- Bytes are given out without touching references. -/
theorem quietly_memAlloc (host : HostId) (size : Int) :
    Quietly (memAlloc host size : M β Bool) := by
  cases host with
  | memory =>
    refine .bind (quietly_countCall _) fun _ => .bind .get fun w => ?_
    dsimp only
    split
    · exact .pure _
    · exact .bind (.modify fun _ => ⟨rfl, rfl, rfl, rfl, rfl, rfl⟩) fun _ => .pure _
  | script i =>
    refine .bind .get fun w => ?_
    dsimp only
    split
    · exact .pure _
    · exact .bind (.modify fun w => w.alike_modifyRuntime i fun _ => rfl) fun _ => .pure _

/-- and freeing bytes. -/
theorem quietly_memFree (host : HostId) (size : Nat) : Quietly (memFree host size : M β Unit) := by
  cases host with
  | memory => exact .bind (quietly_countCall _) fun _ => .modify fun _ =>
    ⟨rfl, rfl, rfl, rfl, rfl, rfl⟩
  | script i => exact .modify fun w => w.alike_modifyRuntime i fun _ => rfl

/-- A string in the host's bytes holds no references, and neither does the
failure to make one. -/
theorem perform_valueFromString (host : HostId) (bytes : Bytes) (w : World β) :
    ∃ r w', perform (valueFromString host bytes) w = (.ok r, w') ∧ w.Alike w' ∧
      holds (r : Except Failure Variant) = 0 := by
  unfold valueFromString
  split
  · exact ⟨_, w, rfl, .refl w, rfl⟩
  · obtain ⟨given, w', hrun, halike⟩ := quietly_memAlloc host bytes.length w
    rw [perform_bind_ok hrun]
    cases given with
    | true => exact ⟨_, w', rfl, halike, rfl⟩
    | false => exact ⟨_, w', rfl, halike, rfl⟩

/-! ### Giving back -/

/-- The in-memory host counts a call before it does anything. -/
theorem perform_counted {α : Type} (host : HostId) (name : String) (act : M β α) (w : World β) :
    ∃ w', w.Alike w' ∧
      perform (do
        if host = .memory then countCall name
        act) w = perform act w' := by
  by_cases hhost : host = .memory
  · obtain ⟨_, w', hrun, halike⟩ := quietly_countCall name w
    refine ⟨w', halike, ?_⟩
    rw [if_pos hhost]
    exact perform_bind_ok hrun _
  · refine ⟨w, .refl w, ?_⟩
    rw [if_neg hhost]

/-- What a variant holds can be given back to any host. -/
theorem perform_releaseVariant (host : HostId) {v : Variant} (hs : w.Sound good)
    (h : ∀ o, holds v o ≤ w.outside o) :
    ∃ w', perform (releaseVariant host v) w = (.ok (), w') ∧ w.Leads good (-holds v) w' := by
  -- Giving back is all that touches references: the in-memory host counts
  -- the call first.
  have hquiet {act : M β Unit} (hq : Quietly act) (hv : holds v = 0) :
      ∃ w', perform (do
          if host = .memory then countCall "ReleaseVariant"
          act) w = (.ok (), w') ∧
        w.Leads good (-holds v) w' := by
    obtain ⟨w₁, halike₁, hrun₁⟩ := perform_counted host "ReleaseVariant" act w
    obtain ⟨_, w', hrun, halike⟩ := hq w₁
    exact ⟨w', hrun₁.trans hrun, ((halike₁.trans halike).leads hs).congr fun o => by simp [hv]⟩
  cases v with
  | object o =>
    obtain ⟨w₁, halike, hrun₁⟩ := perform_counted host "ReleaseVariant" (release o) w
    have hone : 1 ≤ w₁.outside o := halike.outside o ▸ World.lends_of_holds h o rfl
    have hl := halike.leads hs
    obtain ⟨w', hrun, hl'⟩ := perform_release hl.sound hone
    exact ⟨w', hrun₁.trans hrun, (hl.trans hl').congr fun x => by simp⟩
  | string bytes => exact hquiet (quietly_memFree host bytes.length) rfl
  | void => exact hquiet (.pure ()) rfl
  | null => exact hquiet (.pure ()) rfl
  | bool b => exact hquiet (.pure ()) rfl
  | int32 n => exact hquiet (.pure ()) rfl
  | double d => exact hquiet (.pure ()) rfl

/-- What variants hold together can be given back. -/
theorem perform_releaseAll (host : HostId) {vs : List Variant} (hs : w.Sound good)
    (h : ∀ o, holds vs o ≤ w.outside o) :
    ∃ w', perform (releaseAll host vs) w = (.ok (), w') ∧ w.Leads good (-holds vs) w' := by
  induction vs generalizing w with
  | nil => exact ⟨w, rfl, (World.Leads.refl hs).congr fun o => by simp⟩
  | cons v rest ih =>
    -- Giving the first back leaves enough for the rest, also when they are
    -- the same object.
    have hboth (o : ObjectRef) : holds v o + holds rest o ≤ w.outside o := h o
    have hfirst (o : ObjectRef) : holds v o ≤ w.outside o := by
      have := hboth o
      have := Holds.nonneg rest o
      omega
    obtain ⟨w₁, hrun₁, hl₁⟩ := perform_releaseVariant host hs hfirst
    have hrest (o : ObjectRef) : holds rest o ≤ w₁.outside o := by
      have := hboth o
      rw [hl₁.outside, Pi.neg_apply]
      omega
    obtain ⟨w', hrun, hl⟩ := ih hl₁.sound hrest
    exact ⟨w', (perform_bind_ok hrun₁ _).trans hrun, (hl₁.trans hl).congr fun o => by
      simp only [Pi.add_apply, Pi.neg_apply, holds_cons]
      omega⟩

/-- A clean-up that gives a variant back takes what the variant holds. -/
theorem Keeps.releasing {α : Type} [Holds α] {act : M β α} {v : Variant} (h : Keeps good act 0 w)
    (host : HostId) (hv : ∀ o, holds v o ≤ w.outside o) :
    Keeps good (cleanly act (releaseVariant host v)) (holds v) w := by
  have hc : ∀ w' : World β, w'.Sound good → (∀ o, w.outside o - 0 ≤ w'.outside o) →
      ∃ w'', perform (releaseVariant host v) w' = (.ok (), w'') ∧ w'.Leads good (-holds v) w'' := by
    intro w' hs' hout
    refine perform_releaseVariant host hs' fun o => ?_
    have := hv o
    have := hout o
    omega
  exact (h.withCleanUp hc).congr fun o => by simp

/-- Values that are held may be released at the end. -/
theorem Keeps.releasingAll {α : Type} [Holds α] {act : M β α} {vs : List Variant}
    (h : Keeps good act 0 w) (host : HostId) (hv : ∀ o, holds vs o ≤ w.outside o) :
    Keeps good (cleanly act (releaseAll host vs)) (holds vs) w := by
  have hc : ∀ w' : World β, w'.Sound good → (∀ o, w.outside o - 0 ≤ w'.outside o) →
      ∃ w'', perform (releaseAll host vs) w' = (.ok (), w'') ∧ w'.Leads good (-holds vs) w'' := by
    intro w' hs' hout
    refine perform_releaseAll host hs' fun o => ?_
    have := hv o
    have := hout o
    omega
  exact (h.withCleanUp hc).congr fun o => by simp

/-! ### Members of a graph -/

/-- The code of a method answers. -/
theorem Graph.AllCode.method {g : Graph β} {m : NodeId} {name : Bytes} {code : β}
    (h : g.AllCode good) (hm : g.method? m name = some code) : good.answers code := by
  obtain ⟨k, _, hk⟩ := List.exists_of_findSome?_eq_some hm
  obtain ⟨c, hc, hcode⟩ := Option.bind_eq_some_iff.mp hk
  exact (h k c hc).method name code hcode

/-- So does that of a getter. -/
theorem Graph.AllCode.getter {g : Graph β} {m : NodeId} {name : Bytes} {p : Property β} {code : β}
    (h : g.AllCode good) (hp : g.property? m name = some (.declared p))
    (hcode : p.get = some code) :
    good.answers code := by
  obtain ⟨k, _, hk⟩ := List.exists_of_findSome?_eq_some hp
  unfold ownProperty? at hk
  split at hk
  case h_1 q hq =>
    cases hk
    obtain ⟨c, hc, hdecl⟩ := Option.bind_eq_some_iff.mp hq
    exact (h k c hc).getter name p code hdecl hcode
  case h_2 =>
    obtain ⟨_, _, hchild⟩ := Option.map_eq_some_iff.mp hk
    cases hchild

/-- The code of a setter stores. -/
theorem Graph.AllCode.setter {g : Graph β} {m : NodeId} {name : Bytes} {p : Property β} {code : β}
    (h : g.AllCode good) (hp : g.declaration? m name = some p) (hcode : p.set = some code) :
    good.stores code := by
  obtain ⟨k, _, hk⟩ := List.exists_of_findSome?_eq_some hp
  obtain ⟨c, hc, hdecl⟩ := Option.bind_eq_some_iff.mp hk
  exact (h k c hc).setter name p code hdecl hcode

/-- A constructor answers. -/
theorem Graph.AllCode.constructor {g : Graph β} {m : NodeId} {code : β} (h : g.AllCode good)
    (hm : g.constructor? m = some code) : good.answers code := by
  obtain ⟨c, hc, hcode⟩ := Option.bind_eq_some_iff.mp hm
  exact (h m c hc).constructor code hcode

end ObjectBridge

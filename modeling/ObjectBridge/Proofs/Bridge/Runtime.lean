import ObjectBridge.Bridge.Runtime
import ObjectBridge.Proofs.Bridge.ScriptHost

/-!
# `ObjectBridge.Proofs.Bridge.Runtime`: a runtime gives back what it took

Binding moves the caller's reference into the runtime: it takes the
reference, and an open runtime takes the object on before anything else
(`keeps_bind`, `suffix_adopted_bind`). Executing a script keeps the books
(`keeps_execute`).

Resetting and closing always have a result. They release every reference of
the runtime once, and nothing else changes hands (`World.Freed`).
-/

set_option autoImplicit false

namespace ObjectBridge.Runtime

open Script (Value)

variable {β : Type} {good : Roles β} {w w' : World β} {i : Nat} {o : ObjectRef}

/-! ### Binding -/

instance : Holds BindError := .nothing _

section

variable [Native β]

/-- Making a value a global may run a setter of the script's. -/
theorem keeps_setGlobal (hn : Native.Honours good) (hs : w.Sound good) (hi : i < w.runtimes.size)
    (name : String) (v : Value) : Keeps good (setGlobal i name v) 0 w := by
  have hops := honest_hostOps hn nesting
  refine .get_bind ?_
  dsimp only
  split
  case isTrue => exact .unwind hs (by simp)
  case isFalse =>
    refine (ScriptHost.keeps_assign hn hops hs hi _ _ v).next hs fun r w₁ hassign hl₁ _ => ?_
    have hi₁ : i < w₁.runtimes.size := hl₁.grows.lt hi
    cases r with
    | ok _ => exact .pure_nothing hl₁.sound rfl
    | error u =>
      have hu := ScriptHost.not_misuse_of_assign hassign
      -- Assigning throws or is cut short, and never misuses the host.
      cases u with
      | thrown e =>
        exact (ScriptHost.keeps_textOf hn hops hl₁.sound hi₁ e).next hl₁.sound
          fun _ _ _ hl₂ _ => .pure_nothing hl₂.sound rfl
      | misuse s => exact absurd rfl (hu s)
      | fault => exact .unwind hl₁.sound (by simp)
      | interrupted => exact .unwind hl₁.sound (by simp)
      | overflow => exact .unwind hl₁.sound (by simp)

/-- Once there is a value for the object, the caller's reference is
released, and the runtime's is there in its place. -/
theorem keeps_release_setGlobal (hn : Native.Honours good) (hs : w.Sound good)
    (hi : i < w.runtimes.size) (name : String) (v : Value) (ho : 1 ≤ w.outside o) :
    Keeps good (do
      release o
      setGlobal i name v) (one o) w := by
  obtain ⟨w₁, hrelease, hl₁⟩ := perform_release hs ho
  have hi₁ : i < w₁.runtimes.size := hl₁.grows.lt hi
  exact .after hrelease hl₁ ((keeps_setGlobal hn hl₁.sound hi₁ name v).congr fun x => by simp)

/-- Binding takes the caller's reference, also when it fails. -/
theorem keeps_bind (hn : Native.Honours good) (hs : w.Sound good) (hi : i < w.runtimes.size)
    (name : String) (ho : 1 ≤ w.outside o) : Keeps good (bind i name (some o)) (one o) w := by
  have hlends : w.Lends (.object o) := fun x hx => by cases hx; exact ho
  obtain ⟨r, w₁, hrun, hl, hr⟩ := ScriptHost.perform_toValue hs hi hlends
  unfold bind
  dsimp only
  rcases hr with ⟨v, rfl⟩ | ⟨rfl, hclosed⟩
  · refine .after hrun hl ?_
    have hi₁ : i < w₁.runtimes.size := hl.grows.lt hi
    have ho₁ : 1 ≤ w₁.outside o := by rwa [hl.outside, Pi.zero_apply, Int.add_zero]
    exact (keeps_release_setGlobal hn hl.sound hi₁ name v ho₁).congr fun x => by simp
  · -- A closed runtime leaves the caller's reference over.
    rw [Keeps, perform_bind, hrun]
    refine ⟨by simp, one o, one_nonneg o, .inr ⟨rfl, i, hclosed⟩, hl.congr fun x => ?_⟩
    simp

/-- An open runtime takes a bound proxy on before anything else. -/
theorem suffix_adopted_bind {p : Nat} (hn : Native.Honours good) (hs : w.Sound good)
    (hi : i < w.runtimes.size) (hopen : (w.runtime i).isOpen) (name : String)
    (ho : 1 ≤ w.outside (.proxy p)) :
    .proxy p :: (w.runtime i).adopted <:+
      ((perform (bind i name (some (.proxy p))) w).2.runtime i).adopted := by
  have hlends : w.Lends (.object (.proxy p)) := fun x hx => by cases hx; exact ho
  obtain ⟨r, w₁, hrun, hl, hr⟩ := ScriptHost.perform_toValue hs hi hlends
  have hadopted : (w₁.runtime i).adopted = .proxy p :: (w.runtime i).adopted := by
    have hexpose := ScriptHost.adopted_exposeObject hi (.proxy p)
    rwa [show perform (ScriptHost.exposeObject i (.proxy p)) w = (r, w₁) from hrun] at hexpose
  rcases hr with ⟨v, rfl⟩ | ⟨rfl, hclosed⟩
  · have hi₁ : i < w₁.runtimes.size := hl.grows.lt hi
    have ho₁ : 1 ≤ w₁.outside (.proxy p) := by rwa [hl.outside, Pi.zero_apply, Int.add_zero]
    obtain ⟨_, _, _, hl'⟩ := (keeps_release_setGlobal hn hl.sound hi₁ name v ho₁).leads
    unfold bind
    dsimp only
    rw [← hadopted, perform_bind_ok hrun]
    exact hl'.grows.adopted i
  · rw [hclosed] at hopen
    cases hopen

/-! ### Executing scripts -/

instance : Holds Exported := .nothing _
instance : Holds Execution := .nothing _

/-- Exported values hold nothing. -/
theorem holds_exported (xs : List Exported) : holds xs = 0 := by
  induction xs with
  | nil => rfl
  | cons x rest ih => exact (zero_add _).trans ih

omit [Native β] in
/-- Watching is quiet. -/
theorem quietly_modifyWatch (i : Nat) (f : Watch → Watch) : Quietly (modifyWatch i f : M β Unit) :=
  ScriptHost.quietly_modifyRuntime i fun _ => rfl

omit [Native β] in
/-- So is letting time pass. -/
theorem quietly_passTime (i : Nat) : Quietly (passTime i : M β Unit) :=
  ScriptHost.quietly_modifyRuntime i fun _ => rfl

omit [Native β] in
/-- Heeding a flag keeps the books. -/
theorem keeps_heedFlag (hs : w.Sound good) (i : Nat) (code : Bool) :
    Keeps good (heedFlag i code) 0 w := by
  refine .get_bind ?_
  split
  case isTrue => exact .unwind hs (by simp)
  case isFalse => exact .pure_nothing hs rfl

/-- Reading a property of a value that leaves a script may run the script
again. -/
theorem keeps_fetchWatched (hn : Native.Honours good) (hs : w.Sound good) (hi : i < w.runtimes.size)
    (o : Script.ObjId) (key : Script.Key) : Keeps good (fetchWatched i o key) 0 w := by
  refine .get_bind ?_
  refine (keeps_heedFlag hs i _).next hs fun _ w₁ _ hl₁ _ => ?_
  have hi₁ : i < w₁.runtimes.size := hl₁.grows.lt hi
  have hfetch := ScriptHost.keeps_fetch hn (honest_hostOps hn nesting) hl₁.sound hi₁ o key
  refine (hfetch.withCleanUp_quietly (quietly_passTime i)).next hl₁.sound fun v w₂ _ hl₂ _ => ?_
  rw [ScriptHost.holds_value?]
  exact (keeps_heedFlag hl₂.sound i _).next hl₂.sound fun _ w₃ _ hl₃ _ =>
    .pure_nothing hl₃.sound (ScriptHost.holds_value? v)

/-- Taking a value out of a script keeps the books, although reading a
property may run the script again. -/
theorem keeps_exportValue (hn : Native.Honours good) (hs : w.Sound good) (hi : i < w.runtimes.size)
    (fuel : Nat) (inside : List Script.ObjId) (v : Value) :
    Keeps good (exportValue i fuel inside v) 0 w := by
  -- By induction on the nesting, and for each depth on the list of fields.
  induction fuel generalizing inside v w with
  | zero =>
    unfold exportValue
    exact .pure_nothing hs rfl
  | succ fuel ih =>
    have hitems (inside : List Script.ObjId) (o : Script.ObjId) (keys : List Script.Key)
        {w : World β} (hs : w.Sound good) (hi : i < w.runtimes.size) :
        Keeps good (exportItems i fuel inside o keys) 0 w := by
      induction keys generalizing w with
      | nil =>
        unfold exportItems
        exact .pure_nothing hs rfl
      | cons key rest ihrest =>
        unfold exportItems
        refine (keeps_fetchWatched hn hs hi o key).next hs fun x w₁ _ hl₁ _ => ?_
        rw [ScriptHost.holds_value?]
        have hi₁ : i < w₁.runtimes.size := hl₁.grows.lt hi
        refine (ih hl₁.sound hi₁ _ _).next hl₁.sound fun x w₂ _ hl₂ _ => ?_
        have hi₂ : i < w₂.runtimes.size := hl₂.grows.lt hi₁
        refine (ihrest hl₂.sound hi₂).next hl₂.sound fun xs w₃ _ hl₃ _ => ?_
        rw [holds_exported]
        exact .pure_nothing hl₃.sound (holds_exported _)
    unfold exportValue
    cases v with
    | object o =>
      dsimp only
      split
      case isTrue => exact .pure_nothing hs rfl
      case isFalse =>
        refine .get_bind ?_
        split
        case h_1 => exact .pure_nothing hs rfl
        case h_2 => exact .pure_nothing hs rfl
        case h_3 => exact ih hs hi _ _
        case h_4 =>
          refine (hitems _ o _ hs hi).next hs fun xs w₁ _ hl _ => ?_
          rw [holds_exported]
          exact .pure_nothing hl.sound rfl
        case h_5 =>
          refine (hitems _ o _ hs hi).next hs fun xs w₁ _ hl _ => ?_
          rw [holds_exported]
          exact .pure_nothing hl.sound rfl
    | _ => exact .pure_nothing hs rfl

/-- So does exporting a result, -/
theorem keeps_exportResult (hn : Native.Honours good) (hs : w.Sound good) (hi : i < w.runtimes.size)
    (v : Value) :
    Keeps good (exportResult i v) 0 w := by
  cases v with
  | object o =>
    obtain ⟨r, hunwrap, _⟩ := ScriptHost.perform_unwrap? i o w
    refine .after hunwrap (.refl hs) ?_
    cases r with
    | some ref => exact .pure_nothing hs rfl
    | none => exact keeps_exportValue hn hs hi _ _ _
  | _ => exact keeps_exportValue hn hs hi _ _ _

omit [Native β] in
/-- finishing with one, -/
theorem keeps_finish (hs : w.Sound good) (i : Nat) (result : Except ScriptError Exported) :
    Keeps good (finish i result) 0 w :=
  .quiet_bind hs (quietly_modifyWatch i _) fun _ _ _ hs₁ => .get_bind (.pure_nothing hs₁ rfl)

/-- with an exception -/
theorem keeps_finishThrown (hn : Native.Honours good) (hs : w.Sound good) (hi : i < w.runtimes.size)
    (v : Value) :
    Keeps good (finishThrown i v) 0 w := by
  refine (keeps_finish hs i _).next hs fun ended w₁ _ hl₁ _ => ?_
  have hi₁ : i < w₁.runtimes.size := hl₁.grows.lt hi
  have htext := ScriptHost.keeps_textOf hn (honest_hostOps hn nesting) hl₁.sound hi₁ v
  refine htext.caught_bind rfl fun r w₂ _ hr hl₂ => ?_
  cases r with
  | ok text => exact .pure_nothing hl₂.sound rfl
  | error u =>
    cases u with
    | thrown v => exact .pure_nothing hl₂.sound rfl
    | _ => exact .rethrow hl₂.sound hr

/-- or by being taken out. -/
theorem keeps_takeOut (hn : Native.Honours good) (hs : w.Sound good) (hi : i < w.runtimes.size)
    (f : Interrupt) (v : Value) : Keeps good (takeOut i f v) 0 w := by
  refine (keeps_finish hs i _).next hs fun ended w₁ _ hl₁ _ => ?_
  have hi₁ : i < w₁.runtimes.size := hl₁.grows.lt hi
  refine .quiet_bind hl₁.sound (ScriptHost.quietly_modifyRuntime i fun _ => rfl)
    fun _ w₂ halike₂ hs₂ => ?_
  have hexport := keeps_exportResult hn hs₂ (halike₂.lt hi₁) v
  refine (hexport.withCleanUp_quietly (quietly_modifyWatch i _)).next hs₂ fun x w₃ _ hl₃ _ => ?_
  exact .pure_nothing hl₃.sound rfl

/-- Executing a script keeps the books, whatever the script does and
however it ends. -/
theorem keeps_execute (hn : Native.Honours good) (hs : w.Sound good) (hi : i < w.runtimes.size)
    (script : String) (cancelled : Bool) : Keeps good (execute i script cancelled) 0 w := by
  unfold execute
  refine .get_bind ?_
  split
  case isTrue => exact .pure_nothing hs rfl
  case isFalse =>
    refine .quiet_bind hs (ScriptHost.quietly_modifyRuntime i fun _ => rfl) fun _ w₁ halike₁ hs₁ =>
      ?_
    have hi₁ : i < w₁.runtimes.size := halike₁.lt hi
    have hops := honest_hostOps hn nesting
    dsimp only
    split
    case h_1 => exact keeps_finish hs₁ i _
    case h_2 program _ =>
      refine .get_bind ?_
      split
      case h_1 => exact keeps_finish hs₁ i _
      case h_2 =>
        -- However the program ends, its value is exported and what it throws is made a text.
        refine (ScriptHost.keeps_runProgram hn hops hs₁ hi₁ program _).caught_bind rfl
          fun r w₂ _ hr hl₂ => ?_
        have hi₂ : i < w₂.runtimes.size := hl₂.grows.lt hi₁
        cases r with
        | ok outcome =>
          cases outcome with
          | value v => exact keeps_takeOut hn hl₂.sound hi₂ _ v
          | absent => exact keeps_finish hl₂.sound i _
          | overflow => exact keeps_finish hl₂.sound i _
          | thrown v => exact keeps_finishThrown hn hl₂.sound hi₂ v
        | error u =>
          cases u with
          | overflow => exact keeps_finish hl₂.sound i _
          | interrupted => exact keeps_finish hl₂.sound i _
          | thrown v => exact keeps_finishThrown hn hl₂.sound hi₂ v
          | misuse s => exact .rethrow hl₂.sound hr
          | fault => exact .rethrow hl₂.sound hr

end

/-! ### Giving back -/

/-- References that are there are given back, each once. -/
theorem perform_releaseObjects {l : List ObjectRef} (h : ∀ o, (l.count o : Int) ≤ w.refs o) :
    ∃ w', perform (releaseObjects l) w = (.ok (), w') ∧
      w.Recounts (fun o => -(l.count o : Int)) w' := by
  -- What is listed more than once has as many references.
  induction l generalizing w with
  | nil => exact ⟨w, rfl, (World.Alike.refl w).recounts.congr fun o => by simp⟩
  | cons o rest ih =>
    have hcount (x : ObjectRef) : ((o :: rest).count x : Int) = rest.count x + one o x := by
      rw [List.count_cons, one]
      by_cases hx : x = o
      · subst hx
        simp
      · simp [hx, Ne.symm hx]
    have ho : 1 ≤ w.refs o := by
      have := h o
      rw [hcount, one, if_pos rfl] at this
      omega
    obtain ⟨w₁, hrun₁, hcounts₁⟩ := perform_release_of_refs ho
    have hrest (x : ObjectRef) : (rest.count x : Int) ≤ w₁.refs x := by
      have := h x
      rw [hcount] at this
      rw [hcounts₁.refs, Pi.neg_apply]
      omega
    obtain ⟨w', hrun, hcounts⟩ := ih hrest
    refine ⟨w', (perform_bind_ok hrun₁ _).trans hrun, (hcounts₁.trans hcounts).congr fun x => ?_⟩
    rw [Pi.add_apply, Pi.neg_apply, hcount]
    omega

end ObjectBridge.Runtime

namespace ObjectBridge

variable {β : Type} {good : Roles β} {w w' w'' : World β} {i : Nat}

/-- A runtime gave back every reference it held, each once, and nothing
else changed hands. -/
structure World.Freed (w : World β) (i : Nat) (w' : World β) : Prop where
  refs : ∀ o, w'.refs o = w.refs o - (w.runtime i).adopted.count o
  adopted : ∀ j, (w'.runtime j).adopted = if j = i then [] else (w.runtime j).adopted
  abandoned : w'.abandoned = w.abandoned
  outside : ∀ o, w'.outside o = w.outside o

namespace World.Freed

/-- What is freed is freed by the same books. -/
theorem alike (h : w.Freed i w') (ha : w'.Alike w'') : w.Freed i w'' where
  refs o := by rw [ha.recounts.refs, h.refs, Pi.zero_apply, Int.add_zero]
  adopted j := (ha.recounts.adopted j).trans (h.adopted j)
  abandoned := ha.abandoned.trans h.abandoned
  outside o := (ha.outside o).trans (h.outside o)

/-- A runtime may change that keeps what it has adopted. -/
theorem modifyRuntime {j : Nat} (h : w.Freed i w') (hj : j < w'.runtimes.size)
    {f : Runtime → Runtime} (hf : ∀ r, (f r).adopted = r.adopted) :
    w.Freed i { w' with runtimes := w'.runtimes.modify j f } where
  refs o := (w'.refs_modifyRuntime j f o).trans (h.refs o)
  adopted k := by
    rw [runtime_modify, apply_ite Runtime.adopted, hf, ite_self]
    exact h.adopted k
  abandoned := h.abandoned
  outside o := by
    rw [World.outside_modifyRuntime hj, hf, h.outside]
    omega

end World.Freed

/-- What does not change the list of a runtime keeps the books in order. -/
theorem World.Sound.modifyRuntime (hs : w.Sound good) (hi : i < w.runtimes.size)
    {f : Runtime → Runtime} (hf : ∀ r, (f r).adopted = r.adopted) :
    World.Sound good { w with runtimes := w.runtimes.modify i f } where
  contexts p x hp := scripted_modifyRuntime (hs.contexts p x hp) i f
  code := hs.code
  covered o := by
    have := hs.covered o
    rw [outside_modifyRuntime hi, hf]
    omega

namespace Runtime

/-- Everything a runtime holds is given back. -/
theorem perform_releaseAdopted (hs : w.Sound good) (hi : i < w.runtimes.size) :
    ∃ w', perform (releaseAdopted i) w = (.ok (), w') ∧ w'.Sound good ∧
      w'.runtimes.size = w.runtimes.size ∧ w.Freed i w' := by
  -- The runtime's list is a part of what all runtimes hold, and that is
  -- covered.
  have hheld (o : ObjectRef) : ((w.runtime i).adopted.reverse.count o : Int) ≤ w.refs o := by
    have hcovered := hs.covered o
    have hle := World.count_adopted_le hi o
    rw [List.count_reverse]
    unfold World.outside at hcovered
    omega
  obtain ⟨w₁, hrun, hcounts⟩ := perform_releaseObjects hheld
  have hi₁ : i < w₁.runtimes.size := hcounts.size.symm ▸ hi
  have hout (o : ObjectRef) : World.outside
      { w₁ with runtimes := w₁.runtimes.modify i fun r => { r with adopted := [] } } o =
      w.outside o := by
    rw [World.outside_modifyRuntime hi₁, hcounts.outside, hcounts.adopted, List.count_reverse,
      List.count_nil]
    omega
  unfold releaseAdopted
  rw [perform_bind_ok (perform_get w), perform_bind_ok hrun]
  refine ⟨_, rfl, ?_, ?_, ?_⟩
  · exact {
      contexts := fun p x hp => by
        obtain ⟨y, hy, hctx⟩ := hcounts.contexts p x hp
        obtain ⟨j, hj, heq⟩ := hs.contexts p y hy
        exact World.scripted_modifyRuntime ⟨j, hcounts.size.symm ▸ hj, hctx ▸ heq⟩ i _
      code := hcounts.graph.symm ▸ hs.code
      covered := fun o => (hout o).symm ▸ hs.covered o }
  · simpa using hcounts.size
  · exact {
      refs := fun o => by
        rw [World.refs_modifyRuntime, hcounts.refs, List.count_reverse]
        omega
      adopted := fun j => by
        rw [World.runtime_modify]
        by_cases hj : j = i
        · subst hj
          rw [if_pos ⟨rfl, hi₁⟩, if_pos rfl]
        · rw [if_neg fun h => hj h.1.symm, if_neg hj, hcounts.adopted]
      abandoned := hcounts.abandoned
      outside := hout }

/-- A reset gives back what the runtime held and is always possible. -/
theorem perform_reset (hs : w.Sound good) (hi : i < w.runtimes.size) :
    ∃ w', perform (reset i) w = (.ok (), w') ∧ w'.Sound good ∧ w.Freed i w' := by
  obtain ⟨w₁, hrun, hs₁, hsize, hfreed⟩ := perform_releaseAdopted hs hi
  obtain ⟨realm, w₂, hheap, halike⟩ := ScriptHost.quietly_withHeap (fun h =>
    ((h.newRealm w₁.realms (w₁.runtime i).config.console).2,
      (h.newRealm w₁.realms (w₁.runtime i).config.console).1)) w₁
  have hl₂ := halike.leads hs₁
  have hrealms : w₂.Alike { w₂ with realms := w₂.realms + 1 } := ⟨rfl, rfl, rfl, rfl, rfl, rfl⟩
  have hi₂ : i < w₂.runtimes.size := by rwa [halike.size, hsize]
  unfold reset
  rw [perform_bind_ok hrun]
  unfold start
  rw [perform_bind_ok (perform_get w₁), perform_bind_ok hheap]
  refine ⟨_, rfl, ?_, ?_⟩
  · exact (hrealms.leads hl₂.sound).sound.modifyRuntime hi₂ fun _ => rfl
  · exact ((hfreed.alike halike).alike hrealms).modifyRuntime hi₂ fun _ => rfl

/-- So does closing. -/
theorem perform_close (hs : w.Sound good) (hi : i < w.runtimes.size) :
    ∃ w', perform (close i) w = (.ok (), w') ∧ w'.Sound good ∧ w.Freed i w' := by
  obtain ⟨w₁, hrun, hs₁, hsize, hfreed⟩ := perform_releaseAdopted hs hi
  have hi₁ : i < w₁.runtimes.size := hsize.symm ▸ hi
  unfold close
  rw [perform_bind_ok hrun]
  exact ⟨_, rfl, hs₁.modifyRuntime hi₁ fun _ => rfl, hfreed.modifyRuntime hi₁ fun _ => rfl⟩

end Runtime

end ObjectBridge

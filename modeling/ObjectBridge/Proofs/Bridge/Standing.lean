import ObjectBridge.Proofs.Bridge.Holdings
import ObjectBridge.Proofs.Bridge.Leaves
import ObjectBridge.Proofs.Bridge.Request
import ObjectBridge.Proofs.Bridge.ScriptHost

/-!
# `ObjectBridge.Proofs.Bridge.Standing`: references and bytes at a script runtime

The books of `Proofs.Bridge.Books` are about references. A runtime also
counts the bytes it has given out, and a string on the way between a script
and native code stands for as many of them as it is long.
`World.Owes good i w n w'` is `World.Leads` with the bytes of the runtime
`i` added: `n` more is owed in `w'` than in `w`, for every account.

A runtime never counts below zero, so giving bytes back is exact only
while that many are given out. That is why the lemmas about giving back
ask for `charges vs ≤ standing`.

`perform_serveCall_owes` is what the parts come to: when a script calls
native code, arguments and answer are given back whatever happens, and what
is owed more after the call is what the native code itself left behind.
-/

set_option autoImplicit false

namespace ObjectBridge

variable {α β : Type} {good : Roles β} {w w' w'' : World β} {i : Nat} {n m : Account → Int}

namespace World

/-- What is owed at a runtime: the references that no runtime holds, and
the bytes it has given out. -/
def standing (i : Nat) (w : World β) : Account → Int
  | .refs o => w.outside o
  | .bytes => (w.runtime i).allocated

/-- A world comes after another one, and `n` more is owed. -/
structure Owes (good : Roles β) (i : Nat) (w : World β) (n : Account → Int)
    (w' : World β) : Prop where
  leads : w.Leads good (fun o => n (.refs o)) w'
  bytes : (w'.runtime i).allocated = (w.runtime i).allocated + n .bytes

namespace Owes

/-- Where something is owed the books are sound. -/
theorem sound (h : w.Owes good i n w') : w'.Sound good := h.leads.sound

/-- Runtimes that were there are there. -/
theorem lt (h : w.Owes good i n w') {j : Nat} (hj : j < w.runtimes.size) : j < w'.runtimes.size :=
  h.leads.grows.lt hj

/-- What a runtime stands for changes by what is owed. -/
theorem standing (h : w.Owes good i n w') (a : Account) :
    w'.standing i a = w.standing i a + n a := by
  cases a with
  | refs o => exact h.leads.outside o
  | bytes => exact h.bytes

/-- Nothing is owed for nothing. -/
theorem refl (hs : w.Sound good) : w.Owes good i 0 w := ⟨.refl hs, (Int.add_zero _).symm⟩

/-- Debts add up. -/
theorem trans (h : w.Owes good i n w') (h' : w'.Owes good i m w'') : w.Owes good i (n + m) w'' where
  leads := (h.leads.trans h'.leads).congr fun _ => rfl
  bytes := by rw [h'.bytes, h.bytes, Pi.add_apply, Int.add_assoc]

/-- What is owed may be written in another way. -/
theorem congr (h : w.Owes good i n w') (hn : ∀ a, n a = m a) : w.Owes good i m w' := funext hn ▸ h

/-- Nothing is owed for what touches neither references nor runtimes. -/
theorem of_alike (hs : w.Sound good) (h : w.Alike w')
    (hbytes : (w'.runtime i).allocated = (w.runtime i).allocated) :
    w.Owes good i 0 w' where
  leads := (h.leads hs).congr fun _ => rfl
  bytes := by rw [hbytes, Pi.zero_apply, Int.add_zero]

/-- What touches only references owes no bytes. -/
theorem of_leads {k : ObjectRef → Int} (h : w.Leads good k w') (hn : ∀ o, n (.refs o) = k o)
    (hbytes : (w'.runtime i).allocated = (w.runtime i).allocated) (hzero : n .bytes = 0) :
    w.Owes good i n w' where
  leads := h.congr fun o => (hn o).symm
  bytes := by rw [hbytes, hzero, Int.add_zero]

end Owes

end World

/-! ### The bytes of a runtime -/

/-- An operation leaves the bytes of a runtime alone when it leaves the
runtimes alone. -/
theorem allocated_of_runtimes {act : M β α} (h : Leaves World.runtimes act) {r : Except Unwind α}
    (hrun : perform act w = (r, w')) : (w'.runtime i).allocated = (w.runtime i).allocated := by
  rw [World.runtime, World.runtime, h.eq hrun]

/-- Retaining an object leaves the runtimes. -/
theorem runtimes_retain (o : ObjectRef) : Leaves World.runtimes (retain o : M β Unit) := by
  intro w
  cases o <;> rfl

/-- So does metering, -/
theorem runtimes_meter (ctx : Context) (event : Metrics → Metrics) :
    Leaves World.runtimes (meter ctx event : M β Unit) := by
  intro w
  obtain ⟨metrics, hrun⟩ := perform_meter ctx event w
  rw [hrun]

/-- releasing an object, -/
theorem runtimes_release (o : ObjectRef) : Leaves World.runtimes (release o : M β Unit) := by
  unfold release
  refine .bind (.modifyGet fun w => by cases o <;> rfl) fun fate => ?_
  cases fate with
  | kept => exact .pure ()
  | unretained => exact .throw _
  | freed =>
    cases o with
    | proxy p => exact .bind .get fun _ => runtimes_meter _ _
    | table t => exact .pure ()
    | handle h => exact .pure ()

/-- measuring -/
theorem runtimes_withRecorder (recorder : Option Nat) (f : Recorder → Recorder) :
    Leaves World.runtimes (withRecorder recorder f : M β Unit) := by
  cases recorder with
  | none => exact .pure ()
  | some k => exact .modify fun _ => rfl

/-- and noting the last error. -/
theorem runtimes_setLastError (ctx : Context) (message : Bytes) :
    Leaves World.runtimes (Proxy.setLastError ctx message : M β Unit) :=
  obeys_setLastError (fun _ _ _ => rfl) (fun _ _ => rfl) ctx message

/-- A runtime that is changed has allocated what the change says. -/
theorem allocated_modify (hi : i < w.runtimes.size) (f : Runtime → Runtime) :
    (World.runtime { w with runtimes := w.runtimes.modify i f } i).allocated =
      (f (w.runtime i)).allocated := by
  rw [World.runtime_modify, if_pos ⟨rfl, hi⟩]

/-- A runtime gives out the bytes of a string, or does not. -/
theorem perform_memAlloc_script (hs : w.Sound good) (hi : i < w.runtimes.size) (bytes : Bytes) :
    ∃ given w', perform (memAlloc (.script i) bytes.length) w = (.ok given, w') ∧
      w.Owes good i (if given then (Variant.string bytes).charge else 0) w' := by
  unfold memAlloc
  rw [perform_bind_ok (perform_get w)]
  dsimp only
  split
  · exact ⟨false, w, rfl, (World.Owes.refl hs).congr fun _ => rfl⟩
  · have halike := w.alike_modifyRuntime i
      (f := fun r => { r with allocated := r.allocated + bytes.length }) fun _ => rfl
    refine ⟨true, _, rfl, (halike.leads hs).congr fun _ => rfl, ?_⟩
    exact allocated_modify hi _

/-- A runtime that makes a string owes what it hands over. -/
theorem perform_valueFromString_script (hs : w.Sound good) (hi : i < w.runtimes.size)
    (bytes : Bytes) :
    ∃ r w', perform (valueFromString (.script i) bytes) w = (.ok r, w') ∧
      w.Owes good i (charges r.toOption.toList) w' ∧ ∀ f, r = .error f →
      f = .allocation bytes.length := by
  unfold valueFromString
  split
  case isTrue hempty =>
    subst hempty
    refine ⟨_, w, rfl, (World.Owes.refl hs).congr fun a => ?_, nofun⟩
    cases a <;> rfl
  case isFalse =>
    obtain ⟨given, w', hrun, howes⟩ := perform_memAlloc_script hs hi bytes
    rw [perform_bind_ok hrun]
    cases given with
    | true => exact ⟨_, w', rfl, howes.congr fun a => (Int.add_zero _).symm, nofun⟩
    | false => exact ⟨_, w', rfl, howes.congr fun _ => rfl, fun f hf => by cases hf; rfl⟩

/-! ### Giving back -/

/-- What a variant holds is given back to the runtime. -/
theorem perform_releaseVariant_script {v : Variant} (hs : w.Sound good) (hi : i < w.runtimes.size)
    (hv : ∀ a, v.charge a ≤ w.standing i a) :
    ∃ w', perform (releaseVariant (.script i) v) w = (.ok (), w') ∧
      w.Owes good i (-v.charge) w' := by
  obtain ⟨w', hrun, hl⟩ := perform_releaseVariant (.script i) hs fun o => hv (.refs o)
  refine ⟨w', hrun, hl.congr fun _ => rfl, ?_⟩
  -- Only a string holds bytes.
  have hplain (hleaves : Leaves World.runtimes (releaseVariant (.script i) v : M β Unit))
      (hzero : v.charge .bytes = 0) :
      (w'.runtime i).allocated = (w.runtime i).allocated + (-v.charge) .bytes := by
    rw [allocated_of_runtimes hleaves hrun, Pi.neg_apply, hzero]
    omega
  cases v with
  | string bytes =>
    cases hrun
    have hgiven : (bytes.length : Int) ≤ (w.runtime i).allocated := hv .bytes
    rw [allocated_modify hi]
    show max 0 ((w.runtime i).allocated - bytes.length) =
        (w.runtime i).allocated + -(bytes.length : Int)
    omega
  | object o => exact hplain (runtimes_release o) rfl
  | void => exact hplain (.pure ()) rfl
  | null => exact hplain (.pure ()) rfl
  | bool b => exact hplain (.pure ()) rfl
  | int32 n => exact hplain (.pure ()) rfl
  | double d => exact hplain (.pure ()) rfl

/-- Releasing values that a runtime stands for pays them back. -/
theorem perform_releaseAll_script {vs : List Variant} (hs : w.Sound good) (hi : i < w.runtimes.size)
    (hvs : ∀ a, charges vs a ≤ w.standing i a) :
    ∃ w', perform (releaseAll (.script i) vs) w = (.ok (), w') ∧
      w.Owes good i (-charges vs) w' := by
  -- Giving back the first takes its own charge only, so the rest stays covered.
  induction vs generalizing w with
  | nil => exact ⟨w, rfl, (World.Owes.refl hs).congr fun a => by simp⟩
  | cons v rest ih =>
    have hboth (a : Account) : v.charge a + charges rest a ≤ w.standing i a := hvs a
    have hfirst (a : Account) : v.charge a ≤ w.standing i a := by
      have := hboth a
      have := charges_nonneg rest a
      omega
    obtain ⟨w₁, hrun₁, howes₁⟩ := perform_releaseVariant_script hs hi hfirst
    have hrest (a : Account) : charges rest a ≤ w₁.standing i a := by
      have := hboth a
      rw [howes₁.standing, Pi.neg_apply]
      omega
    obtain ⟨w', hrun, howes⟩ := ih howes₁.sound (howes₁.lt hi) hrest
    refine ⟨w', (perform_bind_ok hrun₁ _).trans hrun, (howes₁.trans howes).congr fun a => ?_⟩
    simp only [Pi.add_apply, Pi.neg_apply, charges_cons]
    omega

/-! ### Values -/

/-- The order of values makes no difference to their charge. -/
theorem charges_reverse (vs : List Variant) (a : Account) :
    charges vs.reverse a = charges vs a := by
  simp only [charges, List.map_reverse, List.sum_reverse]

/-- A number is charged nothing. -/
theorem charge_ofNumber (f : Float) (a : Account) : (Variant.ofNumber f).charge a = 0 := by
  unfold Variant.ofNumber
  dsimp only
  split
  · split <;> cases a <;> rfl
  · cases a <;> rfl

namespace ScriptHost

open Script (Value)

/-- A value as a variant is owed by whoever gets it. -/
theorem perform_toVariant_owes (hs : w.Sound good) (hi : i < w.runtimes.size) (v : Value) :
    ∃ r w', perform (toVariant i v) w = (.ok r, w') ∧ w.Owes good i (charges r.toList) w' := by
  -- Values that are copied whole owe nothing; texts owe their bytes.
  have hplain (x : Variant) (hx : ∀ a, x.charge a = 0) :
      w.Owes good i (charges (some x).toList) w :=
    (World.Owes.refl hs).congr fun a => by simp [hx]
  have htext (text : Script.Text) :
      ∃ r w', perform (textVariant? i text) w = (.ok r, w') ∧
        w.Owes good i (charges r.toList) w' := by
    obtain ⟨given, w', hrun, howes⟩ := perform_memAlloc_script hs hi text.toBytes
    unfold textVariant?
    dsimp only
    rw [perform_bind_ok hrun]
    cases given with
    | true => exact ⟨_, w', rfl, howes.congr fun a => by simp⟩
    | false => exact ⟨_, w', rfl, howes.congr fun _ => rfl⟩
  cases v with
  | undefined => exact ⟨_, w, rfl, hplain _ fun a => by cases a <;> rfl⟩
  | null => exact ⟨_, w, rfl, hplain _ fun a => by cases a <;> rfl⟩
  | bool b => exact ⟨_, w, rfl, hplain _ fun a => by cases a <;> rfl⟩
  | number f => exact ⟨_, w, rfl, hplain _ (charge_ofNumber f)⟩
  | bigint k => exact ⟨none, w, rfl, (World.Owes.refl hs).congr fun _ => rfl⟩
  | string text => exact htext text
  | symbol s => exact htext s.label
  | object o =>
    -- An object of a host is handed out again, and any other one behind a new handle.
    obtain ⟨r, hunwrap, hhas⟩ := perform_unwrap? i o w
    unfold toVariant
    dsimp only
    rw [perform_bind_ok hunwrap]
    cases r with
    | some ref =>
      obtain ⟨w', hretain, hl⟩ := perform_retain hs (hhas ref rfl)
      refine ⟨some (.object ref), w', perform_bind_ok hretain _, .of_leads hl (fun o => ?_)
        (allocated_of_runtimes (runtimes_retain ref) hretain) rfl⟩
      exact Int.add_zero _
    | none =>
      obtain ⟨w', hnew, hl⟩ := perform_newHandle hs i o
      have hleaves : Leaves World.runtimes (newHandle i o : M β ObjectRef) := fun _ => rfl
      refine ⟨some (.object (.handle w.handles.size)), w', perform_bind_ok hnew _,
        .of_leads hl (fun o => ?_) (allocated_of_runtimes hleaves hnew) rfl⟩
      exact Int.add_zero _

/-- Arguments are owed, also when one of them cannot be passed. -/
theorem perform_toVariants_owes (hs : w.Sound good) (hi : i < w.runtimes.size) (done : List Variant)
    (args : List Value) :
    ∃ vs complete w', perform (toVariants i done args) w = (.ok (vs, complete), w') ∧
      w.Owes good i (charges vs - charges done) w' := by
  induction args generalizing done w with
  | nil => exact ⟨_, _, w, rfl, (World.Owes.refl hs).congr fun a => by simp [charges_reverse]⟩
  | cons v rest ih =>
    obtain ⟨r, w₁, hrun₁, howes₁⟩ := perform_toVariant_owes hs hi v
    unfold toVariants
    rw [perform_bind_ok hrun₁]
    cases r with
    | some x =>
      obtain ⟨vs, complete, w', hrun, howes⟩ := ih howes₁.sound (howes₁.lt hi) (x :: done)
      refine ⟨vs, complete, w', hrun, (howes₁.trans howes).congr fun a => ?_⟩
      simp only [Option.toList_some, charges_cons, charges_nil, Pi.add_apply, Pi.sub_apply]
      omega
    | none => exact ⟨_, _, w₁, rfl, howes₁.congr fun a => by simp [charges_reverse]⟩

/-- Passing values to native code leaves the graph alone. -/
theorem graph_toVariant (i : Nat) (v : Value) :
    Leaves World.graph (toVariant i v : M β (Option Variant)) := by
  have htext (text : Script.Text) :
      Leaves World.graph (textVariant? i text : M β (Option Variant)) := by
    refine .bind (.bind .get fun w => ?_) fun given => ?_
    · dsimp only
      split
      · exact .pure false
      · exact .bind (.modify fun _ => rfl) fun _ => .pure true
    · cases given <;> exact .pure _
  unfold toVariant
  cases v with
  | string text => exact htext text
  | symbol s => exact htext s.label
  | object o =>
    refine .bind (.bind .get fun w => ?_) fun r => ?_
    · dsimp only
      split <;> exact .pure _
    · cases r with
      | some ref => exact .bind (.modify fun w => by cases ref <;> rfl) fun _ => .pure _
      | none => exact .bind (.modifyGet fun _ => rfl) fun _ => .pure _
  | _ => exact .pure _

/-- Giving values out leaves the graph. -/
theorem graph_toVariants (i : Nat) (done : List Variant) (args : List Value) :
    Leaves World.graph (toVariants i done args : M β (List Variant × Bool)) := by
  induction args generalizing done with
  | nil => exact .pure _
  | cons v rest ih =>
    refine .bind (graph_toVariant i v) fun r => ?_
    cases r with
    | some x => exact ih (x :: done)
    | none => exact .pure _

/-- An error of the host's own owes nothing. -/
theorem perform_throwText (hs : w.Sound good) (message : Bytes) :
    ∃ u w', perform (throwText i message : M β α) w = (.error u, w') ∧ w.Owes good i 0 w' := by
  unfold throwText
  rw [perform_bind_ok (perform_get w)]
  exact ⟨_, _, rfl, .of_alike hs ⟨rfl, rfl, rfl, rfl, rfl, rfl⟩ rfl⟩

/-- Making a value of a borrowed variant owes nothing. -/
theorem perform_toValue_owes {v : Variant} (hs : w.Sound good) (hi : i < w.runtimes.size)
    (hv : w.Lends v) :
    ∃ r w', perform (toValue i v) w = (r, w') ∧ w.Owes good i 0 w' := by
  obtain ⟨r, w', hrun, hl, _⟩ := perform_toValue hs hi hv
  refine ⟨r, w', hrun, hl.congr fun _ => rfl, ?_⟩
  -- A proxy is taken on by the runtime, which gives out no bytes for it.
  have hallocated (o : ObjectRef) : ((perform (exposeObject i o) w).2.runtime i).allocated =
      (w.runtime i).allocated := by
    unfold exposeObject
    rw [perform_bind_ok (perform_retain_eq o w), modifyRuntime,
      perform_bind_ok (perform_modify _ _), perform_bind_ok (perform_get _)]
    have hruntimes : (w.recount o 1).runtimes = w.runtimes := by cases o <;> rfl
    have hadopt : (World.runtime { w.recount o
        1 with runtimes := (w.recount o 1).runtimes.modify i fun r =>
        { r with adopted := o :: r.adopted } } i).allocated = (w.runtime i).allocated := by
      rw [allocated_modify (hruntimes.symm ▸ hi), World.runtime, hruntimes, World.runtime]
    dsimp only
    split
    · exact hadopt
    · exact hadopt
  rw [Pi.zero_apply, Int.add_zero]
  cases v with
  | object o =>
    cases o with
    | proxy p =>
      have := hallocated (.proxy p)
      rwa [show perform (exposeObject i (.proxy p)) w = (r, w') from hrun] at this
    | _ => cases hrun; rfl
  | _ => cases hrun; rfl

end ScriptHost

/-! ### Requests -/

/-- What the outcome of native code holds. -/
def answerCharge : Except Unwind (Except Failure Variant) → Account → Int
  | .ok (.ok v) => v.charge
  | _ => 0

/-- Native code that fails does so with a message, and throws nothing of
its own. -/
def Spoken (r : Except Unwind (Except Failure Variant)) : Prop :=
  ∀ f, r = .ok (.error f) → f.thrown? = none

/-- An answer is never owed anything. -/
theorem answerCharge_nonneg (r : Except Unwind (Except Failure Variant)) (a : Account) :
    0 ≤ answerCharge r a := by
  unfold answerCharge
  split
  · exact Variant.charge_nonneg _ a
  · exact Int.le_refl 0

namespace Proxy

variable {p : Proxy} {operation : String} {name : Bytes}

/-- Starting a measured operation owes nothing. -/
theorem owes_started (hs : w.Sound good) (p : Proxy) (operation : String) (name : Bytes) :
    w.Owes good i 0 (p.started w operation name) := by
  refine .of_alike hs (p.alike_started w operation name) ?_
  exact allocated_of_runtimes (runtimes_withRecorder _ _) (perform_withRecorder _ _ w)

/-- Nor does stopping it. -/
theorem owes_stopped (hs : w'.Sound good) (p : Proxy) (w : World β) (operation : String)
    (name : Bytes) :
    w'.Owes good i 0 (p.stopped w operation name w') := by
  refine .of_alike hs (p.alike_stopped w operation name w') ?_
  exact allocated_of_runtimes (runtimes_withRecorder _ _) (perform_withRecorder _ _ w')

/-- A failure with a message is entered as that message, and owes
nothing. -/
theorem perform_fail_owes (hs : w.Sound good) (p : Proxy) {f : Failure} (hf : f.thrown? = none) :
    ∃ w', perform (p.fail (some {}) f) w =
      (.ok (some { pending := some (.string f.describe) }), w') ∧ w.Owes good i 0 w' := by
  have hvalue : f.exceptionValue = .string f.describe := by rw [Failure.exceptionValue, hf]
  have hraise : perform (raiseInto (some {}) f) w =
      (.ok (some { pending := some (.string f.describe) }), w) := by
    rw [raiseInto, hvalue]
    rfl
  obtain ⟨_, w', hrun, halike⟩ := quietly_setLastError p.context f.describe w
  unfold fail
  rw [perform_bind_ok hraise]
  refine ⟨w', perform_bind_ok hrun _, .of_alike hs halike ?_⟩
  exact allocated_of_runtimes (runtimes_setLastError _ _) hrun

variable [Native β] {ops : HostOps β} {code : β} {vs : List Variant}
    {r : Except Unwind (Except Failure Variant)}

/-- How a call ends when native code ends with `r`: it is unwound, it has
an answer, or a message is pending. -/
inductive Ends : Except Unwind (Except Failure Variant) → Except Unwind (Variant × Slot) → Prop
  | unwound (u : Unwind) : Ends (.error u) (.error u)
  | answered (v : Variant) : Ends (.ok (.ok v)) (.ok (v, some {}))
  | failed (f : Failure) : Ends (.ok (.error f))
    (.ok (.void, some { pending := some (.string f.describe) }))

/-- A call owes what the native code owes. -/
theorem perform_call_owes (hs : w.Sound good) (hcode : w.graph.method? p.node name = some code)
    (hrun : perform (Native.call ops p.context code vs) (p.started w "Call" name) = (r, w'))
    (hspoken : Spoken r) (howes : (p.started w "Call" name).Owes good i n w') :
    ∃ q w'', perform (p.call ops (.string name) vs (some {})) w = (q, w'') ∧ Ends r q ∧
      w.Owes good i n w'' := by
  have hstarted : w.Owes good i 0 (p.started w "Call" name) := owes_started hs p "Call" name
  have hgraph : (p.started w "Call" name).graph = w.graph := (p.alike_started w "Call" name).graph
  have hnode : perform (Node.call ops p.context p.node name vs) (p.started w "Call" name) =
      (r, w') := by
    rw [Node.call, perform_bind_ok (perform_get _), hgraph, hcode]
    exact hrun
  -- Whatever the answer, the timer stops in the world it leaves.
  have hends {q : Except Unwind (Variant × Slot)} {w₁ : World β}
      (hanswer : perform (do p.answer (some {}) (← Node.call ops p.context p.node name vs))
        (p.started w "Call" name) = (q, w₁)) (howes₁ : w'.Owes good i 0 w₁) (hq : Ends r q) :
      ∃ q w'', perform (p.call ops (.string name) vs (some {})) w = (q, w'') ∧ Ends r q ∧
        w.Owes good i n w'' := by
    refine ⟨q, p.stopped w "Call" name w₁, ?_, hq, ?_⟩
    · show perform (p.measured "Call" name _) w = _
      rw [perform_measured_eq, hanswer]
    · have hstopped : w₁.Owes good i 0 (p.stopped w "Call" name w₁) :=
        owes_stopped howes₁.sound p w "Call" name
      exact (((hstarted.trans howes).trans howes₁).trans hstopped).congr fun a => by simp
  cases r with
  | error u => exact hends (by rw [perform_bind, hnode]) (.refl howes.sound) (.unwound u)
  | ok answer =>
    cases answer with
    | ok v => exact hends (perform_bind_ok hnode _) (.refl howes.sound) (.answered v)
    | error f =>
      obtain ⟨w₁, hfail, howes₁⟩ := perform_fail_owes (i := i) howes.sound p (hspoken f rfl)
      exact hends ((perform_bind_ok hnode _).trans (perform_bind_ok hfail _)) howes₁ (.failed f)

end Proxy

namespace ScriptHost

open Script (Value)

variable [Native β] {ops : HostOps β} {p : Proxy} {name : Bytes} {code : β} {args : List Value}
    {vs : List Variant}
  {r : Except Unwind (Except Failure Variant)} {w₁ w₂ : World β}

omit [Native β] in
/-- Whatever comes of the arguments, they are given back. -/
theorem perform_cleanly_releaseAll {act : M β α} {q : Except Unwind α} {k : Account → Int}
    (hi : i < w₁.runtimes.size) (hvs : ∀ a, charges vs a ≤ w₁.standing i a)
    (hact : perform act w₁ = (q, w₂)) (howes : w₁.Owes good i k w₂) (hk : ∀ a, 0 ≤ k a) :
    ∃ w', perform (cleanly act (releaseAll (.script i) vs)) w₁ = (q, w') ∧
      w₁.Owes good i (k - charges vs) w' := by
  have hleft (a : Account) : charges vs a ≤ w₂.standing i a := by
    have := hvs a
    have := hk a
    rw [howes.standing]
    omega
  obtain ⟨w', hrelease, howes'⟩ := perform_releaseAll_script howes.sound (howes.lt hi) hleft
  refine ⟨w', by rw [perform_cleanly, hact, hrelease], (howes.trans howes').congr fun a => ?_⟩
  simp only [Pi.add_apply, Pi.neg_apply, Pi.sub_apply]
  omega

omit [Native β] in
/-- An answer becomes a value, and is given back. -/
theorem perform_reply_owes {v : Variant} (hs : w.Sound good) (hi : i < w.runtimes.size)
    (hv : ∀ a, v.charge a ≤ w.standing i a) :
    ∃ q w', perform (cleanly (do return Reply.value (← toValue i v)) (releaseVariant (.script i) v))
      w = (q, w') ∧ w.Owes good i (-v.charge) w' := by
  have hlends : w.Lends v := World.lends_of_holds fun o => hv (.refs o)
  obtain ⟨x, w₁, hvalue, howes₁⟩ := perform_toValue_owes hs hi hlends
  obtain ⟨w₂, hrelease, howes₂⟩ :=
    perform_releaseVariant_script (v := v) howes₁.sound (howes₁.lt hi) fun a => by
    rw [howes₁.standing, Pi.zero_apply, Int.add_zero]
    exact hv a
  have hreply : perform (do return Reply.value (← toValue i v) : M β Reply) w =
      (x.map Reply.value, w₁) := by
    rw [perform_bind, hvalue]
    cases x <;> rfl
  exact ⟨x.map Reply.value, w₂, by rw [perform_cleanly, hreply, hrelease],
    (howes₁.trans howes₂).congr fun a => by simp⟩

omit [Native β] in
/-- The arguments of a call are owed while it lasts. -/
theorem owes_arguments {complete : Bool} (hs : w.Sound good) (hi : i < w.runtimes.size)
    (hargs : perform (toVariants i [] args) w = (.ok (vs, complete), w₁)) :
    w.Owes good i (charges vs) w₁ := by
  obtain ⟨vs', complete', w', hrun, howes⟩ := perform_toVariants_owes hs hi [] args
  rw [hargs] at hrun
  cases hrun
  exact howes.congr fun a => by simp

/-- A call that cannot be passed its arguments gives back those that were
made. -/
theorem perform_serveCall_refused (hs : w.Sound good) (hi : i < w.runtimes.size)
    (hpos : ∀ a, 0 ≤ w.standing i a) (method : Variant)
    (hargs : perform (toVariants i [] args) w = (.ok (vs, false), w₁)) :
    ∃ q w', perform (serveCall ops i p method args) w = (q, w') ∧ w.Owes good i 0 w' := by
  have howes₁ := owes_arguments hs hi hargs
  obtain ⟨u, w₂, hthrow, howes₂⟩ := perform_throwText (α := Reply) (i := i) howes₁.sound
    (.ofString "cannot pass argument to native method")
  have hvs (a : Account) : charges vs a ≤ w₁.standing i a := by
    have := hpos a
    rw [howes₁.standing]
    omega
  obtain ⟨w', hrun, howes'⟩ := perform_cleanly_releaseAll (howes₁.lt hi) hvs hthrow howes₂ fun _ =>
    Int.le_refl 0
  unfold serveCall
  exact ⟨.error u, w', (perform_bind_ok hargs _).trans hrun, (howes₁.trans howes').congr fun a => by
    simp⟩

/-- What is done with the result of a call: an exception is thrown, and
anything else is handed to the script. -/
def handResult (i : Nat) (x : Variant × Slot) : M β Reply :=
  if pending x.2 then do
    releaseVariant (.script i) x.1
    throwPending i x.2
  else cleanly (do return Reply.value (← toValue i x.1)) (releaseVariant (.script i) x.1)

/-- A call owes what the native code leaves behind beyond its answer. -/
theorem perform_serveCall_owes (hs : w.Sound good) (hi : i < w.runtimes.size)
    (hpos : ∀ a, 0 ≤ w.standing i a) (hcode : w.graph.method? p.node name = some code)
    (hargs : perform (toVariants i [] args) w = (.ok (vs, true), w₁))
    (hrun : perform (Native.call ops p.context code vs) (p.started w₁ "Call" name) = (r, w₂))
    (hspoken : Spoken r) (howes : (p.started w₁ "Call" name).Owes good i (answerCharge r + n) w₂)
    (hn : ∀ a, 0 ≤ n a) :
    ∃ q w', perform (serveCall ops i p (.string name) args) w = (q, w') ∧ w.Owes good i n w' := by
  have howes₁ := owes_arguments hs hi hargs
  have hi₁ : i < w₁.runtimes.size := howes₁.lt hi
  have hcode₁ : w₁.graph.method? p.node name = some code := by
    rw [(graph_toVariants i [] args).eq hargs]
    exact hcode
  obtain ⟨q, w₃, hcall, hends, howes₃⟩ :=
    Proxy.perform_call_owes howes₁.sound hcode₁ hrun hspoken howes
  have hstanding (a : Account) : w₃.standing i a = w.standing i a + charges vs a +
      (answerCharge r a + n a) := by
    rw [howes₃.standing, howes₁.standing]
    rfl
  -- What comes of the call is handed over, and only what was left behind
  -- stays owed.
  have hrest : ∃ reply w₄, perform (p.call ops (.string name) vs (some {}) >>= handResult i) w₁ =
      (reply, w₄) ∧ w₁.Owes good i n w₄ := by
    cases hends with
    | unwound u =>
      refine ⟨.error u, w₃, by rw [perform_bind, hcall], howes₃.congr fun a => ?_⟩
      exact Int.zero_add _
    | answered v =>
      obtain ⟨reply, w₄, hreply, howes₄⟩ :=
        perform_reply_owes (v := v) howes₃.sound (howes₃.lt hi₁) fun a => by
        have := hpos a
        have := hn a
        have := charges_nonneg vs a
        have hanswer : answerCharge (.ok (.ok v)) a = v.charge a := rfl
        rw [hstanding]
        omega
      refine ⟨reply, w₄, (perform_bind_ok hcall _).trans hreply, (howes₃.trans howes₄).congr
        fun a => ?_⟩
      have hanswer : answerCharge (.ok (.ok v)) a = v.charge a := rfl
      simp only [Pi.add_apply, Pi.neg_apply]
      omega
    | failed f =>
      obtain ⟨u, w₄, hthrow, howes₄⟩ :=
        perform_throwText (α := Reply) (i := i) howes₃.sound f.describe
      refine ⟨.error u, w₄, (perform_bind_ok hcall _).trans hthrow, (howes₃.trans howes₄).congr
        fun a => ?_⟩
      have hanswer : answerCharge (.ok (.error f)) a = 0 := rfl
      simp only [Pi.add_apply, Pi.zero_apply]
      omega
  obtain ⟨reply, w₄, hreply, howes₄⟩ := hrest
  have hvs (a : Account) : charges vs a ≤ w₁.standing i a := by
    have := hpos a
    rw [howes₁.standing]
    omega
  obtain ⟨w', hclean, howes'⟩ := perform_cleanly_releaseAll hi₁ hvs hreply howes₄ hn
  unfold serveCall
  refine ⟨reply, w', (perform_bind_ok hargs _).trans hclean, (howes₁.trans howes').congr
    fun a => ?_⟩
  simp only [Pi.add_apply, Pi.sub_apply]
  omega

end ScriptHost

end ObjectBridge

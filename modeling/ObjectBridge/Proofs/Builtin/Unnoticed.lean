import ObjectBridge.Proofs.Bridge.ExistenceCheck
import ObjectBridge.Proofs.Bridge.Leaves
import ObjectBridge.Proofs.Bridge.Silent
import ObjectBridge.Proofs.Builtin.Arrays

/-!
# `ObjectBridge.Proofs.Builtin.Unnoticed`: existence checks of script objects

To find out whether a script object has a property, the script host fetches
the property and drops the value. Nobody notices where the search ends in
something that is there without code being run: a value, a property without
a getter, or nothing (`Found.still`). Where it ends in a getter, the check
calls the getter, and a read that asks first calls it once more.

`ScriptHost.unnoticed` says so of one object: checks and reads of properties
that are still come to the same as looks into the heap, also when native code
reads a whole array; and the condition is the exact one.

Two operations are compared up to time. `World.untimed` leaves out the steps
that scripts have made and what the recorders have measured, `Timeless`
operations do not depend on either, and `Resembles` says that an operation
does what another one does, time apart.
-/

set_option autoImplicit false

namespace ObjectBridge

/-! ### Searches -/

namespace Script

namespace Heap

/-- Does a search end in something that is there without code being run? A
native object would have to be asked. -/
def Found.still : Found → Bool
  | .field { slot := .data _, .. } => true
  | .field { slot := .accessor get _, .. } => get.isUndefined
  | .native _ => false
  | .none => true

/-- What is there without code being run. -/
def Found.value? : Found → Option Value
  | .field { slot := .data v, .. } => some v
  | .field { slot := .accessor _ _, .. } => some .undefined
  | .native _ => .none
  | .none => .none

/-- How a fetch ends that runs no code. -/
def Found.outcome (found : Found) : Outcome :=
  match found.value? with
  | .some v => .value v
  | .none => .absent

/-- The effort that has been spent has no part in a search. -/
theorem findFrom_effort (h : Heap) (effort : Nat) (key : Key) (fuel : Nat) (start : Option ObjId) :
    findFrom { h with effort } key fuel start = h.findFrom key fuel start := by
  induction fuel generalizing start with
  | zero => cases start <;> rfl
  | succ fuel ih =>
    cases start with
    | none => rfl
    | some o =>
      unfold findFrom
      simp only [ih]
      rfl

/-- A search does not depend on the effort made so far. -/
theorem find_effort (h : Heap) (effort : Nat) (start : Option ObjId) (key : Key) :
    find { h with effort } start key = h.find start key :=
  h.findFrom_effort effort key _ start

/-- Only native objects have to be asked. -/
theorem kind_of_findFrom {h : Heap} {key : Key} {n : ObjId} {fuel : Nat} {start : Option ObjId}
    (hfound : h.findFrom key fuel start = .native n) :
    ∃ realm ref, (h.obj n).kind = .native realm ref := by
  induction fuel generalizing start with
  | zero => cases start <;> cases hfound
  | succ fuel ih =>
    cases start with
    | none => cases hfound
    | some o =>
      unfold findFrom at hfound
      dsimp only at hfound
      split at hfound
      next => exact ih hfound
      next hkind _ =>
        cases hfound
        exact ⟨_, _, hkind⟩
      next =>
        split at hfound
        · cases hfound
        · exact ih hfound

end Heap

/-- How many calls of certain functions a run begins. -/
def callsBegun (counts : Value → Bool) (r : Realm) (limit : Nat) :
    (fuel : Nat) → Heap → Machine → Nat
  | 0, _, _ => 0
  | fuel + 1, h, m =>
    let now := match m.control with
      | .apply f _ _ _ => if counts f then 1 else 0
      | _ => 0
    match step r limit h m with
    | (h, .next m) => if mostEffort < h.effort then now
    else now + callsBegun counts r limit fuel h m
    | _ => now

variable {r : Realm} {limit fuel d : Nat} {h : Heap} {start : Option ObjId} {key : Key}
    {receiver : Value}

/-- The machine that fetches a property. -/
def Machine.fetching (start : Option ObjId) (key : Key) (receiver : Value) (d : Nat) : Machine :=
  { control := .fetch start key receiver, depth := d }

/-- What is there is given at once. -/
theorem step_fetching_still (hstill : (h.find start key).still = true) :
    step r limit h (.fetching start key receiver d) =
      go h (match (h.find start key).value? with
        | some v => .give v
        | none => .absent) [] d := by
  show stepFetch h start key receiver [] d = _
  unfold stepFetch
  generalize h.find start key = found at hstill ⊢
  rcases found with ⟨⟨v | ⟨get, set⟩, _, _, _⟩⟩ | n | _
  · rfl
  · have hget : get.isUndefined = true := hstill
    simp only [hget, if_true]
    rfl
  · cases hstill
  · rfl

/-- A fetch that runs no code ends in two steps, and leaves the heap as it
was. -/
theorem run_fetching_still (hstill : (h.find start key).still = true)
    (heffort : h.effort ≤ mostEffort) :
    run r limit (fuel + 2) h (.fetching start key receiver d) =
      (h, fuel, .done (h.find start key).outcome) := by
  rw [run, step_fetching_still hstill]
  simp only [go, if_neg (Nat.not_lt.mpr heffort), Heap.Found.outcome]
  cases (h.find start key).value? <;> rfl

/-- It begins no call. -/
theorem callsBegun_fetching_still (counts : Value → Bool)
    (hstill : (h.find start key).still = true) :
    callsBegun counts r limit fuel h (.fetching start key receiver d) = 0 := by
  cases fuel with
  | zero => rfl
  | succ fuel =>
    rw [callsBegun, step_fetching_still hstill]
    simp only [go, Machine.fetching]
    split
    · rfl
    · cases fuel with
      | zero => rfl
      | succ fuel => cases (h.find start key).value? <;> rfl

/-- A getter is called on behalf of the object that is read. -/
theorem step_fetching_getter {f : Field} {get set : Value} (hfound : h.find start key = .field f)
    (hslot : f.slot = .accessor get set) (hget : get.isUndefined = false) :
    step r limit h (.fetching start key receiver d) = go h (.apply get receiver [] false) [] d := by
  show stepFetch h start key receiver [] d = _
  obtain ⟨slot, _, _, _⟩ := f
  dsimp only at hslot
  subst hslot
  unfold stepFetch
  simp only [hfound, hget, Bool.false_eq_true, if_false]

/-- A fetch that finds a getter goes on as a call of it. -/
theorem run_fetching_getter {f : Field} {get set : Value} (hfound : h.find start key = .field f)
    (hslot : f.slot = .accessor get set) (hget : get.isUndefined = false)
    (heffort : h.effort ≤ mostEffort) :
    run r limit (fuel + 1) h (.fetching start key receiver d) =
      run r limit fuel h { control := .apply get receiver [] false, depth := d } := by
  rw [run, step_fetching_getter hfound hslot hget]
  simp only [go, if_neg (Nat.not_lt.mpr heffort)]

/-- If calls of that getter count, such a fetch begins one. -/
theorem callsBegun_fetching_getter {counts : Value → Bool} {f : Field} {get set : Value}
    (hfound : h.find start key = .field f) (hslot : f.slot = .accessor get set)
    (hget : get.isUndefined = false) (heffort : h.effort ≤ mostEffort)
    (hcounts : counts get = true) :
    1 ≤ callsBegun counts r limit (fuel + 2) h (.fetching start key receiver d) := by
  rw [callsBegun, step_fetching_getter hfound hslot hget]
  simp only [go, if_neg (Nat.not_lt.mpr heffort), Machine.fetching, callsBegun, hcounts, if_true]
  split
  · split <;> omega
  · omega

/-- A native object is asked for its property. -/
theorem run_fetching_native (r : Realm) (limit fuel d : Nat) (receiver : Value) {n : ObjId}
    (hfound : h.find start key = .native n) :
    ∃ q stack, run r limit (fuel + 1) h (.fetching start key receiver d) =
      (h, fuel, .ask q stack d) := by
  obtain ⟨realm, ref, hkind⟩ := Heap.kind_of_findFrom hfound
  refine ⟨.get ref key.shown, [.nativeGet n key receiver], ?_⟩
  have hstep : step r limit h (.fetching start key receiver d) =
      ask h (.get ref key.shown) [.nativeGet n key receiver] d := by
    show stepFetch h start key receiver [] d = _
    unfold stepFetch
    simp only [hfound, hkind]
  rw [run, hstep]
  rfl

end Script

/-! ### Up to time -/

variable {α γ β : Type} {w w' : World β}

/-- A runtime but for the steps it has left. Nothing waits in a runtime that
is not running. -/
def Runtime.untimed (r : Runtime) : Runtime :=
  { r with steps := 0, depth := if r.running then r.depth else 0 }

/-- The world but for the time that has passed: what scripts have used of
theirs, and what the recorders have measured. -/
def World.untimed (w : World β) : World β :=
  { w with
    heap := { w.heap with effort := 0 }
    runtimes := w.runtimes.map Runtime.untimed
    recorders := #[] }

/-- A runtime of the untimed world is the untimed runtime. -/
theorem World.runtime_untimed (w : World β) (i : Nat) :
    w.untimed.runtime i = (w.runtime i).untimed := by
  show (w.runtimes.map Runtime.untimed).getD i {} = (w.runtimes.getD i {}).untimed
  rw [Array.getD_eq_getD_getElem?, Array.getD_eq_getD_getElem?, Array.getElem?_map]
  cases w.runtimes[i]? <;> rfl

/-- What changes a runtime without regard to time may be done before or after
time is left out. -/
theorem World.untimed_modify {f g : Runtime → Runtime} (h : ∀ r, (f r).untimed = g r.untimed)
    (w : World β) (i : Nat) :
    World.untimed { w with runtimes := w.runtimes.modify i f } =
      { w.untimed with runtimes := w.untimed.runtimes.modify i g } := by
  unfold World.untimed
  dsimp only
  rw [map_modify h]

/-- The operation does not depend on the time that has passed. -/
def Timeless (act : M β α) : Prop :=
  ∀ w, perform act w.untimed = ((perform act w).1, (perform act w).2.untimed)

namespace Timeless

variable {act : M β α} {f : α → M β γ}

/-- Giving back a value is timeless. -/
theorem pure (x : α) : Timeless (Pure.pure x : M β α) := fun _ => rfl

/-- So is unwinding. -/
theorem throw (u : Unwind) : Timeless (MonadExcept.throw u : M β α) := fun _ => rfl

/-- Timeless operations follow each other. -/
theorem bind (h : Timeless act) (hf : ∀ x, Timeless (f x)) : Timeless (act >>= f) := by
  intro w
  rw [perform_bind, perform_bind, h w]
  rcases perform act w with ⟨u | x, w'⟩
  · rfl
  · exact hf x w'

/-- The world is looked at, but not its time. -/
theorem look {f : World β → M β α} (hf : ∀ w, f w.untimed = f w) (h : ∀ w, Timeless (f w)) :
    Timeless (get >>= f) := by
  intro w
  rw [perform_bind_ok (perform_get _), perform_bind_ok (perform_get _), hf]
  exact h w w

/-- A change of the world is timeless that commutes with forgetting the time. -/
theorem modifyGet {f : World β → α × World β} (h : ∀ w, f w.untimed = ((f w).1, (f w).2.untimed)) :
    Timeless (modifyGet f : M β α) := by
  intro w
  rw [perform_modifyGet, perform_modifyGet, h]

/-- The same for a change that gives nothing back. -/
theorem modify {f : World β → World β} (h : ∀ w, f w.untimed = (f w).untimed) :
    Timeless (modify f : M β PUnit) := by
  intro w
  rw [perform_modify, perform_modify, h]

/-- Changing a runtime is timeless if the change is, for the runtime. -/
theorem modifyRuntime {f : Runtime → Runtime} (i : Nat) (h : ∀ r, (f r).untimed = f r.untimed) :
    Timeless (modifyRuntime i f : M β Unit) :=
  .modify fun w => (w.untimed_modify h i).symm

/-- A note that is left in any case is as timeless as the operation. -/
theorem noting {note : M β Unit} (h : Timeless act) (hn : Timeless note) :
    Timeless (noting act note) := by
  intro w
  rw [perform_noting, perform_noting, h w]
  rcases perform act w with ⟨u | x, w'⟩
  · show (_, (perform note w'.untimed).2) = _
    rw [hn w']
  · rfl

/-- Recorders belong to the time that is forgotten. -/
theorem withRecorder (recorder : Option Nat) (f : Recorder → Recorder) :
    Timeless (withRecorder recorder f : M β Unit) := by
  cases recorder with
  | none => exact .pure ()
  | some i =>
    refine .modify fun w => ?_
    have hempty : (#[] : Array Recorder).modify i f = #[] :=
      Array.eq_empty_of_size_eq_zero Array.size_modify
    unfold World.untimed
    dsimp only
    rw [hempty]

/-- Measuring an operation leaves it timeless. -/
theorem timed (h : Timeless act) (a : Accessor) (primitive : String) :
    Timeless (a.timed primitive act) :=
  .bind (.withRecorder _ _) fun _ => .bind (.noting h (.withRecorder _ _)) fun _ =>
    .bind (.withRecorder _ _) fun _ => .pure _

end Timeless

/-- Metering is timeless. -/
theorem timeless_meter (ctx : Context) (event : Metrics → Metrics) :
    Timeless (meter ctx event : M β Unit) := by
  refine .modify fun w => ?_
  have hinstance : w.untimed.instanceOf? ctx = w.instanceOf? ctx := rfl
  rw [hinstance]
  cases w.instanceOf? ctx with
  | none => rfl
  | some i =>
    dsimp only
    split <;> rfl

/-- So is retaining an object, -/
theorem timeless_retain (o : ObjectRef) : Timeless (retain o : M β Unit) :=
  .modify fun w => by cases o <;> rfl

/-- and releasing one, -/
theorem timeless_release (o : ObjectRef) : Timeless (release o : M β Unit) := by
  refine .bind (.modifyGet fun w => by cases o <;> rfl) fun fate => ?_
  cases fate with
  | kept => exact .pure ()
  | unretained => exact .throw _
  | freed =>
    cases o with
    | proxy i => exact .look (fun _ => rfl) fun _ => timeless_meter _ _
    | table i => exact .pure ()
    | handle i => exact .pure ()

/-- a value of a script's, -/
theorem timeless_releaseVariant (i : Nat) (v : Variant) :
    Timeless (releaseVariant (.script i) v : M β Unit) := by
  unfold releaseVariant
  rw [if_neg nofun]
  cases v with
  | string bytes => exact .modifyRuntime i fun r => rfl
  | object o => exact timeless_release o
  | _ => exact .pure ()

/-- or several. -/
theorem timeless_releaseAll (i : Nat) (vs : List Variant) :
    Timeless (releaseAll (.script i) vs : M β Unit) := by
  induction vs with
  | nil => exact .pure ()
  | cons v rest ih => exact .bind (timeless_releaseVariant i v) fun _ => ih

/-- A runtime's allocation depends on its budget alone. -/
theorem timeless_memAlloc (i : Nat) (size : Int) :
    Timeless (memAlloc (.script i) size : M β Bool) := by
  refine .look (fun w => ?_) fun w => ?_
  · rw [World.runtime_untimed]
    rfl
  · dsimp only
    split
    · exact .pure false
    · exact .bind (.modifyRuntime i fun r => rfl) fun _ => .pure true

namespace ScriptHost

open Script (Value Key ObjId Machine)

/-- Giving out a text is timeless. -/
theorem timeless_textVariant? (i : Nat) (t : Script.Text) :
    Timeless (textVariant? i t : M β (Option Variant)) := by
  refine .bind (timeless_memAlloc i _) fun given => ?_
  cases given <;> exact .pure _

/-- So is looking for what an object stands for, -/
theorem timeless_unwrap? (i : Nat) (o : ObjId) :
    Timeless (unwrap? i o : M β (Option ObjectRef)) := by
  refine .look (fun w => ?_) fun w => ?_
  · rw [World.runtime_untimed]
    rfl
  · dsimp only
    split <;> exact .pure _

/-- and giving a value of a script's out. -/
theorem timeless_toVariant (i : Nat) (v : Value) :
    Timeless (toVariant i v : M β (Option Variant)) := by
  cases v with
  | string t => exact timeless_textVariant? i t
  | symbol s => exact timeless_textVariant? i _
  | object o =>
    refine .bind (timeless_unwrap? i o) fun native => ?_
    cases native with
    | some ref => exact .bind (timeless_retain ref) fun _ => .pure _
    | none => exact .bind (.modifyGet fun w => rfl) fun _ => .pure _
  | _ => exact .pure _

end ScriptHost

/-- An operation does what another one does, time apart. -/
def Resembles (w : World β) (act act' : M β α) : Prop :=
  (perform act w).1 = (perform act' w).1 ∧ (perform act w).2.untimed = (perform act' w).2.untimed

namespace Resembles

variable {act act' act'' : M β α} {f f' : α → M β γ}

/-- An operation resembles itself. -/
theorem refl (act : M β α) (w : World β) : Resembles w act act := ⟨rfl, rfl⟩

/-- The resemblance goes both ways. -/
theorem symm (h : Resembles w act act') : Resembles w act' act := ⟨h.1.symm, h.2.symm⟩

/-- What resembles one of two that resemble each other resembles the other. -/
theorem trans (h : Resembles w act act') (h' : Resembles w act' act'') : Resembles w act act'' :=
  ⟨h.1.trans h'.1, h.2.trans h'.2⟩

/-- What a timeless operation does is the same in a world that differs in
time. -/
theorem of_untimed (ht : Timeless act') (hw : w'.untimed = w.untimed) (h : Resembles w' act act') :
    (perform act w').1 = (perform act' w).1 ∧ (perform act w').2.untimed =
      (perform act' w).2.untimed := by
  have hsame : perform act' w'.untimed = perform act' w.untimed := by rw [hw]
  rw [ht w', ht w] at hsame
  obtain ⟨hresult, hleft⟩ := Prod.mk.inj hsame
  exact ⟨h.1.trans hresult, h.2.trans hleft⟩

/-- It is enough that they resemble each other with other recorders. -/
theorem of_recorders {x : Array Recorder} (ht : Timeless act')
    (h : Resembles { w with recorders := x } act act') :
    (perform act { w with recorders := x }).1 = (perform act' w).1 ∧
      (perform act { w with recorders := x }).2.untimed = (perform act' w).2.untimed :=
  of_untimed ht rfl h

/-- What follows may be compared where the first operation leads. -/
theorem bind (h : Resembles w act act') (ht : ∀ x, Timeless (f' x))
    (hf : ∀ x w', perform act w = (.ok x, w') → Resembles w' (f x) (f' x)) :
    Resembles w (act >>= f) (act' >>= f') := by
  unfold Resembles at h ⊢
  rw [perform_bind, perform_bind]
  cases hact : perform act w with
  | mk r w₁ =>
    cases hact' : perform act' w with
    | mk r' w₁' =>
      rw [hact, hact'] at h
      obtain ⟨rfl, hw⟩ := h
      cases r with
      | error u => exact ⟨rfl, hw⟩
      | ok x => exact of_untimed (ht x) hw (hf x w₁ hact)

/-- Measuring the first operation makes no difference. -/
theorem timed (ht : Timeless act') (h : ∀ x, Resembles { w with recorders := x } act act')
    (a : Accessor) (primitive : String) : Resembles w (a.timed primitive act) act' := by
  obtain ⟨x, hstart⟩ := perform_clock a.recorder
      (fun r => r.start (.ofString ("host." ++ primitive)) 0) w
  obtain ⟨hr, hw⟩ := of_recorders ht (h x)
  unfold Resembles Accessor.timed
  dsimp only
  rw [startTimer, perform_bind_ok hstart, perform_bind]
  cases hrun : perform act { w with recorders := x } with
  | mk r w₁ =>
    rw [hrun] at hr hw
    -- The measurement is left open or stopped, and either is time.
    cases r with
    | error u =>
      obtain ⟨y, hstrand⟩ := perform_clock a.recorder
          (fun r => r.strand (.ofString ("host." ++ primitive))) w₁
      rw [perform_noting_error hrun, strandTimer, hstrand]
      exact ⟨hr, hw⟩
    | ok value =>
      obtain ⟨y, hstop⟩ := perform_clock a.recorder
          (fun r => r.stop (.ofString ("host." ++ primitive)) 0) w₁
      rw [perform_noting_ok hrun, stopTimer]
      dsimp only
      rw [perform_bind_ok hstop]
      exact ⟨hr, hw⟩

end Resembles

/-! ### Fetches -/

namespace ScriptHost

open Script (Value Key ObjId Machine)

variable {i h : Nat} {o : ObjId} {key : Key} {id : Identifier}

/-- Is there time for `n` steps? A script that only starts has time for
many. -/
def inTime (i n : Nat) (w : World β) : Bool :=
  !(w.runtime i).running || (n ≤ (w.runtime i).steps && w.heap.effort ≤ Script.mostEffort)

/-- Who has time for `n` steps has time for fewer. -/
theorem inTime_mono {m n : Nat} (hmn : m ≤ n) (h : inTime i n w = true) : inTime i m w = true := by
  simp only [inTime, Bool.or_eq_true, Bool.and_eq_true, decide_eq_true_eq] at h ⊢
  rcases h with hidle | ⟨hsteps, heffort⟩
  · exact .inl hidle
  · exact .inr ⟨by omega, heffort⟩

/-- What a fetch starts with: the steps it may make, and the heap. -/
def fetchStart (i : Nat) (w : World β) : Nat × Script.Heap :=
  if (w.runtime i).running then ((w.runtime i).steps, w.heap)
  else (mostSteps, { w.heap with effort := 0 })

/-- The host's fetch is a run of the machine from where a fetch starts. -/
theorem fetchRun_eq (i : Nat) (o : ObjId) (key : Key) (w : World β) :
    fetchRun i o key w =
      Script.run (w.runtime i).realm (limitOf (w.runtime i).config) (fetchStart i w).1
      (fetchStart i w).2
        (.fetching (some o) key (.object o) (w.runtime i).depth) := by
  unfold fetchRun fetchStart
  dsimp only
  split <;> rfl

/-- Starting a fetch changes no search. -/
theorem find_fetchStart (i : Nat) (w : World β) (start : Option ObjId) (key : Key) :
    (fetchStart i w).2.find start key = w.heap.find start key := by
  unfold fetchStart
  split
  · rfl
  · exact w.heap.find_effort 0 start key

/-- Who has time for two steps starts with at least two. -/
theorem fetchStart_inTime (h : inTime i 2 w = true) :
    ∃ steps, (fetchStart i w).1 = steps + 2 ∧ (fetchStart i w).2.effort ≤ Script.mostEffort := by
  unfold inTime at h
  unfold fetchStart
  cases hrunning : (w.runtime i).running with
  | false => exact ⟨mostSteps - 2, rfl, Nat.zero_le _⟩
  | true =>
    simp only [hrunning, Bool.not_true, Bool.false_or, Bool.and_eq_true, decide_eq_true_eq] at h
    exact ⟨(w.runtime i).steps - 2, by simp only [if_true]; omega, h.2⟩

/-- A fetch of what is still takes two steps and leaves the heap alone. -/
theorem fetchRun_still (htime : inTime i 2 w = true)
    (hstill : (w.heap.find (some o) key).still = true) :
    fetchRun i o key w =
      ((fetchStart i w).2, (fetchStart i w).1 - 2, .done (w.heap.find (some o) key).outcome) := by
  obtain ⟨steps, hsteps, heffort⟩ := fetchStart_inTime htime
  have hfind := find_fetchStart i w (some o) key
  rw [fetchRun_eq, hsteps, Script.run_fetching_still (hfind.symm ▸ hstill) heffort, hfind]
  rfl

/-- A fetch is silent whose search ends in something that is there without
code being run. -/
theorem silent_still (htime : inTime i 2 w = true)
    (hstill : (w.heap.find (some o) key).still = true) :
    silent i o key w = true := by
  unfold silent
  rw [fetchRun_still htime hstill]

/-- It leaves the heap it started with. -/
theorem heap_fetched_still (htime : inTime i 2 w = true)
    (hstill : (w.heap.find (some o) key).still = true) :
    (fetched i o key w).heap = (fetchStart i w).2 := by
  unfold fetched
  rw [fetchRun_still htime hstill]

/-- It leaves every search as it was. -/
theorem find_fetched_still (htime : inTime i 2 w = true)
    (hstill : (w.heap.find (some o) key).still = true) (start : Option ObjId) (key' : Key) :
    (fetched i o key w).heap.find start key' = w.heap.find start key' := by
  rw [heap_fetched_still htime hstill, find_fetchStart]

/-- Time passes, and that is all. -/
theorem untimed_fetched (htime : inTime i 2 w = true)
    (hstill : (w.heap.find (some o) key).still = true) :
    (fetched i o key w).untimed = w.untimed := by
  have hheap : { (fetchStart i w).2 with effort := 0 } = { w.heap with effort := 0 } := by
    unfold fetchStart
    split <;> rfl
  have hruntimes : (fetched i o key w).runtimes.map Runtime.untimed =
      w.runtimes.map Runtime.untimed := by
    refine Array.ext_getElem? fun j => ?_
    simp only [fetched, Array.getElem?_map, Array.getElem?_modify]
    split
    next hij =>
      subst hij
      cases hr : w.runtimes[i]? with
      | none => rfl
      | some r =>
        have hruntime : w.runtime i = r := by
          rw [World.runtime, Array.getD_eq_getD_getElem?, hr, Option.getD_some]
        simp only [Option.map_some, hruntime]
        -- A runtime that is idle has nothing waiting, whatever its depth says.
        cases hrunning : r.running <;> simp [Runtime.untimed, hrunning]
    next => rfl
  unfold World.untimed
  rw [hruntimes, heap_fetched_still htime hstill, hheap]
  rfl

/-- It takes two steps. -/
theorem inTime_fetched (hi : i < w.runtimes.size) (htime : inTime i 4 w = true)
    (hstill : (w.heap.find (some o) key).still = true) : inTime i 2 (fetched i o key w) = true := by
  have htwo : inTime i 2 w = true := inTime_mono (by decide) htime
  have hruntime := (w.runtime_modify i i fun r =>
    if (w.runtime i).running then
      { r with steps := (fetchRun i o key w).2.1, depth := (w.runtime i).depth }
    else { r with steps := (fetchRun i o key w).2.1, running := false, depth := 0 }).trans
      (if_pos ⟨rfl, hi⟩)
  change (fetched i o key w).runtime i = _ at hruntime
  unfold inTime at htime ⊢
  rw [hruntime, heap_fetched_still htwo hstill, fetchRun_still htwo hstill]
  cases hrunning : (w.runtime i).running with
  | false => simp
  | true =>
    simp only [hrunning, Bool.not_true, Bool.false_or, Bool.and_eq_true, decide_eq_true_eq] at htime
    simp only [fetchStart, hrunning, if_true, Bool.not_true, Bool.false_or, Bool.and_eq_true,
      decide_eq_true_eq]
    -- Of the four steps two are left.
    exact ⟨by omega, htime.2⟩

/-- What a search for a property of the object behind a handle ends in. -/
def sought (h : Nat) (id : Identifier) (w : World β) : Script.Heap.Found :=
  w.heap.find (some (w.handles.getD h default).object) (keyOf id)

/-- Takes what a search finds. No code is run. -/
def look (i h : Nat) (id : Identifier) : M β (Option Variant) := do
  match (sought h id (← get)).value? with
  | some v => toVariant i v
  | none => return none

/-- A search does not depend on the time. -/
theorem sought_untimed (h : Nat) (id : Identifier) (w : World β) :
    sought h id w.untimed = sought h id w :=
  w.heap.find_effort 0 _ _

/-- Nor does taking what it finds. -/
theorem timeless_look (i h : Nat) (id : Identifier) :
    Timeless (look i h id : M β (Option Variant)) := by
  refine .look (fun w => ?_) fun w => ?_
  · rw [sought_untimed]
  · split
    · exact timeless_toVariant i _
    · exact .pure none

/-- A host that looks properties of script objects up, and is otherwise the
same. -/
def looking (ops : HostOps β) : HostOps β :=
  { ops with
    hasProperty := fun host o id =>
      match host, o with
      | .script _, .handle h => do return (sought h id (← get)).value?.isSome
      | host, o => ops.hasProperty host o id
    getProperty := fun host o id =>
      match host, o with
      | .script i, .handle h => look i h id
      | host, o => ops.getProperty host o id }

/-- The search is for something that is there without code being run, and
there is time to ask for it and to read it. -/
def settled (i h : Nat) (id : Identifier) (w : World β) : Bool :=
  i < w.runtimes.size && inTime i 4 w && (sought h id w).still

/-- Asking for a property comes to the same as looking for it, and so does
reading it, asked or unasked. -/
structure LooksUp (ops : HostOps β) (i h : Nat) (id : Identifier) (w : World β) : Prop where
  asked : ∃ w₁ : World β, w₁.untimed = w.untimed ∧ ∀ x,
    perform (ops.hasProperty (.script i) (.handle h) id) { w with recorders := x } =
      (.ok (sought h id w).value?.isSome, { w₁ with recorders := x }) ∧
    Resembles { w₁ with recorders := x } (ops.getProperty (.script i) (.handle h) id) (look i h id)
  unasked : ∀ x, Resembles { w with recorders := x } (ops.getProperty (.script i) (.handle h) id)
    (look i h id)

/-- A host that looks up does. -/
theorem looksUp_looking (ops : HostOps β) (i h : Nat) (id : Identifier) (w : World β) :
    LooksUp (looking ops) i h id w where
  asked := ⟨w, rfl, fun _ => ⟨rfl, .refl _ _⟩⟩
  unasked _ := .refl _ _

section

variable {ops : HostOps β}

/-- The recorders have no part in it. -/
theorem LooksUp.recorders (hl : LooksUp ops i h id w) (x : Array Recorder) :
    LooksUp ops i h id { w with recorders := x } where
  asked := hl.asked
  unasked := hl.unasked

/-- Asking first and then reading is one look. -/
theorem LooksUp.resembles_asked (hl : LooksUp ops i h id w) (a : Accessor) :
    Resembles w (do
      if ← a.timed "HasProperty" (ops.hasProperty (.script i) (.handle h) id) then
        a.timed "GetProperty" (ops.getProperty (.script i) (.handle h) id)
      else return none) (look i h id) := by
  obtain ⟨w₁, hw₁, hasked⟩ := hl.asked
  obtain ⟨y, hrun⟩ := perform_timed_clock a "HasProperty" fun x => (hasked x).1
  have hy : World.untimed { w₁ with recorders := y } = w.untimed := hw₁
  have hread : Resembles { w₁ with recorders := y }
      (a.timed "GetProperty" (ops.getProperty (.script i) (.handle h) id)) (look i h id) :=
    .timed (w := { w₁ with recorders := y }) (timeless_look i h id) (fun x => (hasked x).2) a
      "GetProperty"
  unfold Resembles
  rw [perform_bind, hrun]
  dsimp only
  -- What is there is read, and what is not is not asked for.
  cases hfound : (sought h id w).value? with
  | some v => exact Resembles.of_untimed (timeless_look i h id) hy hread
  | none =>
    have hlook : perform (look i h id) w = (.ok none, w) := by
      unfold look
      rw [perform_bind_ok (perform_get w), hfound]
      rfl
    rw [hlook]
    exact ⟨rfl, hy⟩

/-- A read by an accessor begins with an identifier, which takes no time. -/
theorem resembles_identified {make : M β Identifier} {rest : Identifier → M β (Option Variant)}
    {act' : M β (Option Variant)} (a : Accessor) (primitive : String) (ht : Timeless act')
    (hmake : ∀ w' : World β, perform make w' = (.ok id, w'))
    (hrest : ∀ x, Resembles { w with recorders := x } (rest id) act') :
    Resembles w (a.timed primitive make >>= rest) act' := by
  obtain ⟨x, hname⟩ := perform_timed_clock a primitive fun x => hmake { w with recorders := x }
  unfold Resembles
  rw [perform_bind_ok hname]
  exact Resembles.of_recorders ht (hrest x)

/-- A look at an index, for an accessor with a policy. -/
def lookIndexed (a : Accessor) (i h : Nat) (index : Int32) : M β (Option Variant) := do
  let found ← look i h (.index index)
  return if a.policy.skipExistenceCheck then a.policy.missing.fill found else found

/-- Reading a name from a host that looks it up is taking what is found. -/
theorem LooksUp.resembles_getNamed {name : Bytes} (hl : LooksUp ops i h (.name name) w)
    (a : Accessor) :
    Resembles w (a.getNamed ops (.script i) (.handle h) name) (look i h (.name name)) := by
  refine resembles_identified a "StringIdentifier" (timeless_look i h _) (fun _ => rfl) fun x => ?_
  exact (hl.recorders x).resembles_asked a

/-- Reading an index is too, but for what the policy says of what is missing. -/
theorem LooksUp.resembles_getIndexed {index : Int32} (hl : LooksUp ops i h (.index index) w)
    (a : Accessor) :
    Resembles w (a.getIndexed ops (.script i) (.handle h) index) (lookIndexed a i h index) := by
  have hlook : Timeless (lookIndexed a i h index : M β (Option Variant)) :=
    .bind (timeless_look i h _) fun _ => .pure _
  refine resembles_identified a "IntIdentifier" hlook (fun _ => rfl) fun x => ?_
  unfold lookIndexed
  cases hskip : a.policy.skipExistenceCheck with
  | false =>
    simp only [Bool.false_eq_true, if_false, bind_pure]
    exact (hl.recorders x).resembles_asked a
  | true =>
    -- Where nothing is found, the policy makes up an answer.
    simp only [if_true]
    refine .bind (.timed (timeless_look i h _) (fun y => (hl.recorders x).unasked y) a
      "GetProperty") (fun _ => .pure _) ?_
    intro found w' _
    cases found <;> cases a.policy.missing <;> exact .refl _ _

end

variable [Native β] {ops ops' : HostOps β}

/-- It answers with what is there. -/
theorem perform_fetch_still (hi : i < w.runtimes.size) (htime : inTime i 2 w = true)
    (hstill : (w.heap.find (some o) key).still = true) :
    perform (fetch ops i o key) w = (.ok (w.heap.find (some o) key).value?, fetched i o key w) := by
  rw [perform_fetch_silent hi (silent_still htime hstill), fetchRun_still htime hstill,
    Script.Heap.Found.outcome]
  cases (w.heap.find (some o) key).value? <;> rfl

/-- The check says whether something is there, and leaves the world that the
fetch leaves. -/
theorem perform_hasProperty_still (hi : i < w.runtimes.size) (htime : inTime i 2 w = true)
    (hstill : (sought h id w).still = true) :
    perform (hasProperty ops i (.handle h) id) w =
      (.ok (sought h id w).value?.isSome, fetched i (w.handles.getD h default).object
        (keyOf id) w) := by
  unfold hasProperty
  rw [perform_bind_ok (perform_get w)]
  dsimp only
  rw [perform_bind_ok (perform_fetch_still hi htime hstill)]
  rfl

/-- A read whose search ends in a plain value takes that value. -/
theorem resembles_getProperty (hi : i < w.runtimes.size) (htime : inTime i 2 w = true)
    (hstill : (sought h id w).still = true) :
    Resembles w (getProperty ops i (.handle h) id) (look i h id) := by
  have hfetched := untimed_fetched htime hstill
  unfold Resembles getProperty look
  rw [perform_bind_ok (perform_get w), perform_bind_ok (perform_get w)]
  dsimp only
  rw [perform_bind_ok (perform_fetch_still hi htime hstill)]
  unfold sought
  cases (w.heap.find (some (w.handles.getD h default).object) (keyOf id)).value? with
  | some v => exact Resembles.of_untimed (timeless_toVariant i v) hfetched (Resembles.refl _ _)
  | none => exact ⟨rfl, hfetched⟩

/-- The script host looks up what is settled. -/
theorem looksUp_of_settled (hops : ReadsBy ops ops' i) (hs : settled i h id w = true) :
    LooksUp ops i h id w := by
  simp only [settled, Bool.and_eq_true, decide_eq_true_eq] at hs
  obtain ⟨⟨hi, htime⟩, hstill⟩ := hs
  have htwo : inTime i 2 w = true := inTime_mono (by decide) htime
  have hsize : (fetched i (w.handles.getD h default).object (keyOf id) w).runtimes.size =
      w.runtimes.size :=
    Array.size_modify
  -- Asking takes time but leaves what is sought as it was, so that it is found the second time.
  have hstill' : (sought h id (fetched i (w.handles.getD h default).object (keyOf id) w)).still =
      true := by
    unfold sought
    show Script.Heap.Found.still
      ((fetched i (w.handles.getD h default).object (keyOf id) w).heap.find
        (some (w.handles.getD h default).object) (keyOf id)) = true
    rw [find_fetched_still htwo hstill]
    exact hstill
  constructor
  case asked =>
    refine ⟨fetched i (w.handles.getD h default).object (keyOf id) w, untimed_fetched htwo hstill,
      fun x => ⟨?_, ?_⟩⟩
    · rw [hops.has]
      exact perform_hasProperty_still (w := { w with recorders := x }) hi htwo hstill
    · rw [hops.get]
      exact resembles_getProperty (hsize ▸ hi) (inTime_fetched hi htime hstill) hstill'
  case unasked =>
    intro x
    rw [hops.get]
    exact resembles_getProperty (w := { w with recorders := x }) hi htwo hstill

/-! ### Arrays -/

section

open Behaviour (EachElement EachRead readElements readArray)

variable {ops ops' : HostOps β} {ctx : Context} {count next : Nat} {done : List Variant}

omit [Native β]

/-- A host that looks up does not depend on the time. -/
theorem timeless_looking (ops : HostOps β) (i h : Nat) (id : Identifier) :
    Timeless ((looking ops).hasProperty (.script i) (.handle h) id) ∧
      Timeless ((looking ops).getProperty (.script i) (.handle h) id) := by
  refine ⟨.look (fun w => ?_) fun w => .pure _, timeless_look i h id⟩
  rw [sought_untimed]

/-- Reading an index from it does not either, -/
theorem timeless_getIndexed (a : Accessor) (ops : HostOps β) (i h : Nat) (index : Int32) :
    Timeless (a.getIndexed (looking ops) (.script i) (.handle h) index) := by
  refine .bind (.timed (fun w => rfl) a "IntIdentifier") fun id => ?_
  obtain ⟨hask, hread⟩ := timeless_looking ops i h id
  cases a.policy.skipExistenceCheck with
  | false =>
    refine .bind (.timed hask a "HasProperty") fun there => ?_
    cases there with
    | true => exact .timed hread a "GetProperty"
    | false => exact .pure none
  | true =>
    refine .bind (.timed hread a "GetProperty") fun found => ?_
    cases found <;> cases a.policy.missing <;> exact .pure _

/-- nor does reading one after the other. -/
theorem timeless_readElements (a : Accessor) (ops : HostOps β) (h : Nat)
    (hhost : ctx.host = .script i) (count next : Nat) (done : List Variant) :
    Timeless (readElements (looking ops) ctx a (.handle h) count next done) := by
  induction count generalizing next done with
  | zero => exact .pure _
  | succ count ih =>
    unfold readElements
    rw [hhost]
    refine .bind (timeless_getIndexed a ops i h _) fun found => ?_
    cases found with
    | some v => exact ih (next + 1) (v :: done)
    | none => exact .bind (timeless_releaseAll i _) fun _ => .pure _

variable [Native β]

/-- Elements that are settled whenever they are read might as well be looked
up, each once. -/
theorem resembles_readElements (a : Accessor) (hhost : ctx.host = .script i)
    (hops : ReadsBy ops ops' i)
    (hsettled : EachElement (fun id w => settled i h id w = true) ops ctx a (.handle h)
      count next w) :
    Resembles w (readElements ops ctx a (.handle h) count next done)
      (readElements (looking ops) ctx a (.handle h) count next done) := by
  -- The induction is on the elements that are left. Each of them is settled
  -- in the world that the reads before it have made.
  induction count generalizing next done w with
  | zero => exact .refl _ _
  | succ count ih =>
    obtain ⟨hfirst, hrest⟩ := hsettled
    unfold readElements
    rw [hhost] at hrest ⊢
    have hread := (looksUp_of_settled hops hfirst).resembles_getIndexed a
    have hlook := (looksUp_looking ops i h (.index (Int32.ofNat next)) w).resembles_getIndexed a
    refine .bind (hread.trans hlook.symm) (fun found => ?_) fun found w' hrun => ?_
    · cases found with
      | some v => exact timeless_readElements a ops h hhost count (next + 1) (v :: done)
      | none => exact .bind (timeless_releaseAll i _) fun _ => .pure _
    · rw [hrun] at hrest
      cases found with
      | some v => exact ih hrest
      | none => exact .refl _ _

/-- So might a whole array. -/
theorem resembles_readArray (hhost : ctx.host = .script i) (hops : ReadsBy ops ops' i)
    (hsettled : EachRead (fun id w => settled i h id w = true) ops ctx (.handle h) w) :
    Resembles w (readArray ops ctx (.handle h)) (readArray (looking ops) ctx (.handle h)) := by
  obtain ⟨hfirst, hrest⟩ := hsettled
  have hread := (looksUp_of_settled hops hfirst).resembles_getNamed (w.accessor ctx)
  have hlook := (looksUp_looking ops i h (.name (.ofString "length")) w).resembles_getNamed
      (w.accessor ctx)
  unfold Resembles readArray
  rw [perform_bind_ok (perform_accessorFor ctx w), perform_bind_ok (perform_accessorFor ctx w)]
  rw [hhost] at hrest ⊢
  -- The length is read first, and what follows depends on it.
  refine Resembles.bind (hread.trans hlook.symm) (fun length => ?_) fun length w' hrun => ?_
  · cases length.bind (·.number?) with
    | none => exact .bind (timeless_releaseVariant i _) fun _ => .pure _
    | some n =>
      dsimp only
      split
      · exact .pure _
      · exact timeless_readElements _ ops h hhost _ 0 []
  · rw [hrun] at hrest
    unfold Behaviour.elementCount? at hrest
    cases hn : length.bind (·.number?) with
    | none => exact .refl _ _
    | some n =>
      dsimp only at hrest ⊢
      rw [hn] at hrest
      dsimp only at hrest
      split
      next => exact .refl _ _
      next hbounds =>
        rw [if_neg hbounds] at hrest
        exact resembles_readElements _ hhost hops hrest

end

/-! ### Getters -/

section

omit [Native β]

/-- How many calls of certain functions a fetch begins. -/
def callsOfFetch (counts : Value → Bool) (i : Nat) (o : ObjId) (key : Key) (w : World β) : Nat :=
  Script.callsBegun counts (w.runtime i).realm (limitOf (w.runtime i).config) (fetchStart i w).1
    (fetchStart i w).2 (.fetching (some o) key (.object o) (w.runtime i).depth)

/-- How many of them a read begins that asks first. It reads when the answer
is that there is something. -/
def callsOfRead (counts : Value → Bool) (i : Nat) (o : ObjId) (key : Key) (w : World β) : Nat :=
  callsOfFetch counts i o key w +
    match (fetchRun i o key w).2.2 with
    | .done (.value _) => callsOfFetch counts i o key (fetched i o key w)
    | _ => 0

variable {counts : Value → Bool} {f : Script.Field} {get set : Value}

/-- A fetch that finds a plain value begins no call. -/
theorem callsOfFetch_still (counts : Value → Bool)
    (hstill : (w.heap.find (some o) key).still = true) :
    callsOfFetch counts i o key w = 0 :=
  Script.callsBegun_fetching_still counts ((find_fetchStart i w (some o) key).symm ▸ hstill)

/-- Nor does a read. -/
theorem callsOfRead_still (counts : Value → Bool) (htime : inTime i 2 w = true)
    (hstill : (w.heap.find (some o) key).still = true) : callsOfRead counts i o key w = 0 := by
  have hagain : ((fetched i o key w).heap.find (some o) key).still = true := by
    rw [find_fetched_still htime hstill]
    exact hstill
  unfold callsOfRead
  rw [callsOfFetch_still counts hstill, callsOfFetch_still counts hagain]
  split <;> rfl

/-- To fetch a property is to call its getter. -/
theorem fetchRun_getter (htime : inTime i 2 w = true) (hfound : w.heap.find (some o) key = .field f)
    (hslot : f.slot = .accessor get set) (hget : get.isUndefined = false) :
    fetchRun i o key w =
      Script.run (w.runtime i).realm (limitOf (w.runtime i).config) ((fetchStart i w).1 - 1)
      (fetchStart i w).2
        { control := .apply get (.object o) [] false, depth := (w.runtime i).depth } := by
  obtain ⟨steps, hsteps, heffort⟩ := fetchStart_inTime htime
  rw [fetchRun_eq, hsteps]
  exact Script.run_fetching_getter ((find_fetchStart i w (some o) key).trans hfound) hslot
    hget heffort

/-- A fetch that finds a getter whose calls count begins one. -/
theorem callsOfFetch_getter (htime : inTime i 2 w = true)
    (hfound : w.heap.find (some o) key = .field f) (hslot : f.slot = .accessor get set)
    (hget : get.isUndefined = false) (hcounts : counts get = true) :
    1 ≤ callsOfFetch counts i o key w := by
  obtain ⟨steps, hsteps, heffort⟩ := fetchStart_inTime htime
  unfold callsOfFetch
  rw [hsteps]
  exact Script.callsBegun_fetching_getter ((find_fetchStart i w (some o) key).trans hfound) hslot
    hget heffort hcounts

/-- A fetch runs no code exactly where the search ends in something that is
there without: everything else is a getter to call or a native object to
ask. -/
theorem runs_nothing_iff (htime : inTime i 2 w = true) :
    (silent i o key w = true ∧ callsOfFetch (fun _ => true) i o key w = 0) ↔
      (w.heap.find (some o) key).still = true := by
  constructor
  · rintro ⟨hsilent, hcalls⟩
    cases hfound : w.heap.find (some o) key with
    | none => rfl
    | native n =>
      -- The run stops to ask, so it is not silent.
      obtain ⟨steps, hsteps, -⟩ := fetchStart_inTime htime
      obtain ⟨q, stack, hask⟩ :=
        Script.run_fetching_native (w.runtime i).realm (limitOf (w.runtime i).config) (steps + 1)
        (w.runtime i).depth (.object o) ((find_fetchStart i w (some o) key).trans hfound)
      rw [silent, fetchRun_eq, hsteps, hask] at hsilent
      cases hsilent
    | field f =>
      cases hslot : f.slot with
      | data v =>
        obtain ⟨slot, _, _, _⟩ := f
        cases hslot
        rfl
      | accessor get set =>
        cases hget : get.isUndefined with
        | true =>
          obtain ⟨slot, _, _, _⟩ := f
          cases hslot
          exact hget
        | false =>
          -- The getter is the first function that is called.
          have hcalled : 1 ≤ callsOfFetch (fun _ => true) i o key w :=
            callsOfFetch_getter htime hfound hslot hget rfl
          omega
  · exact fun hstill => ⟨silent_still htime hstill, callsOfFetch_still _ hstill⟩

end

/-! ### Checks -/

/-- How existence checks of the object behind a handle go, and reads that
make them. -/
structure Unnoticed (level i h : Nat) (w : World β) : Prop where
  /-- A check runs no code exactly where the search ends in something that is
  there without. -/
  runs_nothing : ∀ id, inTime i 2 w = true →
    ((silent i (w.handles.getD h default).object (keyOf id) w = true ∧
        callsOfFetch (fun _ => true) i (w.handles.getD h default).object (keyOf id) w = 0) ↔
      (sought h id w).still = true)
  /-- Then it returns, and leaves everything as it was. -/
  asked : ∀ id, settled i h id w = true →
    ∃ w', perform (hasProperty (hostOps level) i (.handle h) id) w =
      (.ok (sought h id w).value?.isSome, w') ∧ w'.untimed = w.untimed
  /-- A read that asks first calls no function, and is the same as a look. -/
  uncalled : ∀ id counts, settled i h id w = true →
    callsOfRead counts i (w.handles.getD h default).object (keyOf id) w = 0
  named : ∀ (a : Accessor) (name : Bytes), settled i h (.name name) w = true →
    Resembles w (a.getNamed (hostOps (level + 1)) (.script i) (.handle h) name)
    (look i h (.name name))
  indexed : ∀ (a : Accessor) (index : Int32), settled i h (.index index) w = true →
    Resembles w (a.getIndexed (hostOps (level + 1)) (.script i) (.handle h) index)
    (lookIndexed a i h index)
  /-- To read a whole array is to look its length and its elements up, each
  of them once. -/
  array : ∀ ctx : Context, ctx.host = .script i →
    Behaviour.EachRead (fun id w => settled i h id w = true) (hostOps (level + 1)) ctx
    (.handle h) w → Resembles w (Behaviour.readArray (hostOps (level + 1)) ctx (.handle h))
      (Behaviour.readArray (looking (hostOps (level + 1))) ctx (.handle h))
  /-- Where there is a getter, a check is a call of it. -/
  called : ∀ id f get set, inTime i 2 w = true → sought h id w = .field f →
    f.slot = .accessor get set → get.isUndefined = false →
    fetchRun i (w.handles.getD h default).object (keyOf id) w =
      Script.run (w.runtime i).realm (limitOf (w.runtime i).config) ((fetchStart i w).1 - 1)
        (fetchStart i w).2 { control := .apply get (.object
        (w.handles.getD h default).object) [] false, depth := (w.runtime i).depth }
  /-- A read that asks first calls it again, if it returned and is still in
  its place. -/
  twice : ∀ id f get set counts v w', inTime i 2 w = true → sought h id w = .field f →
    f.slot = .accessor get set → get.isUndefined = false → counts get = true →
    (fetchRun i (w.handles.getD h default).object (keyOf id) w).2.2 = .done (.value v) →
    fetched i (w.handles.getD h default).object (keyOf id) w = w' → inTime i 2 w' = true →
    sought h id w' = .field f →
    2 ≤ callsOfRead counts i (w.handles.getD h default).object (keyOf id) w

/-- A check and a read go unnoticed by scripts exactly where no code is found.
-/
theorem unnoticed (level i h : Nat) (w : World β) : Unnoticed level i h w where
  runs_nothing _ htime := runs_nothing_iff htime
  asked id hs := by
    simp only [settled, Bool.and_eq_true, decide_eq_true_eq] at hs
    obtain ⟨⟨hi, htime⟩, hstill⟩ := hs
    have htwo : inTime i 2 w = true := inTime_mono (by decide) htime
    exact ⟨_, perform_hasProperty_still hi htwo hstill, untimed_fetched htwo hstill⟩
  uncalled id counts hs := by
    simp only [settled, Bool.and_eq_true, decide_eq_true_eq] at hs
    exact callsOfRead_still counts (inTime_mono (by decide) hs.1.2) hs.2
  named a name hs := (looksUp_of_settled (readsBy_hostOps level i) hs).resembles_getNamed a
  indexed a index hs := (looksUp_of_settled (readsBy_hostOps level i) hs).resembles_getIndexed a
  array ctx hhost hs := resembles_readArray hhost (readsBy_hostOps level i) hs
  called _ _ _ _ htime hfound hslot hget := fetchRun_getter htime hfound hslot hget
  twice id f get set counts v w' htime hfound hslot hget hcounts hvalue hw' htime' hfound' := by
    subst hw'
    have hfirst := callsOfFetch_getter htime hfound hslot hget hcounts
    have hsecond := callsOfFetch_getter htime' hfound' hslot hget hcounts
    unfold callsOfRead
    rw [hvalue]
    -- The check makes one call, and the read another one.
    exact Nat.add_le_add hfirst hsecond

/-! ### A getter that keeps count -/

/-- An object whose property `x` has a getter that lengthens an array. -/
def countedWorld : World Behaviour where
  handles := #[{ refs := { refs := 1 }, runtime := 0, object := 0 }]
  runtimes := #[{}]
  heap := { objects := #[
    { fields := #[(.name "x", { slot := .accessor (.object 1) .undefined }),
    (.name "y", .plain .null)] }, { kind := .function (.bound 2 (.object 3) [.null]) },
    { kind := .function (.builtin .arrayPush) },
    { kind := .array 0 true }] }

/-- Nobody notices a check of `y`. A read of `x` that asks first calls the
getter twice. -/
theorem unnoticed_countedWorld :
    (∃ w', perform (hasProperty (hostOps 0) 0 (.handle 0) (.name (.ofString "y"))) countedWorld =
        (.ok true, w') ∧ w'.untimed = countedWorld.untimed) ∧
      2 ≤ callsOfRead (fun f => f.object? = some 1) 0 0 (keyOf (.name (.ofString "x")))
        countedWorld := by
  have h := unnoticed 0 0 0 countedWorld
  refine ⟨h.asked (.name (.ofString "y")) (by decide +kernel), ?_⟩
  exact h.twice (.name (.ofString "x")) _ (.object 1) .undefined (fun f => f.object? = some 1) _ _
    (by decide +kernel) (by rfl) rfl rfl rfl (by rfl) rfl (by decide +kernel) (by rfl)

/-- A check lengthens the array. -/
theorem not_unnoticed_countedWorld :
    ¬∀ (w : World Behaviour) (i h : Nat) (id : Identifier), i < w.runtimes.size →
      ∃ b w', perform (hasProperty host i (.handle h) id) w = (.ok b, w') ∧
      w'.untimed = w.untimed := by
  intro hall
  obtain ⟨b, w', hrun, hsame⟩ := hall countedWorld 0 0 (.name (.ofString "x")) (by decide)
  have hitems := congrArg (fun w => (w.heap.obj 3).items.size) hsame
  have hlonger : ((perform (hasProperty host 0 (.handle 0) (.name (.ofString "x")))
      countedWorld).2.heap.obj 3).items.size = 1 := by
    decide +kernel
  rw [hrun] at hlonger
  exact absurd (hitems.symm.trans hlonger) (by decide)

end ScriptHost

end ObjectBridge

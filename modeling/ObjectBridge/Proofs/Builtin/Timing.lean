import ObjectBridge.Proofs.Bridge.Hosts
import ObjectBridge.Proofs.Bridge.Request
import ObjectBridge.Proofs.Builtin.Arrays
import ObjectBridge.Proofs.Profile

/-!
# `ObjectBridge.Proofs.Builtin.Timing`: measurements that are left open

An accessor starts a measurement, calls a primitive of the host, and stops
the measurement. When a write is unwound, the measurement is closed on the
way. When a read is unwound, it is not: it stays open, and the call is not
counted. The recorder notes how many measurements were left so.

`Recorder.Lane.Ran` says what becomes of one key: as many measurements more
are open as were left, and all others that were started were counted. It is
a lenient rule, so every operation obeys it, at any depth of calls between
hosts and native code (`obeys_ran`). Hence an operation is balanced, and its
calls are counted, exactly when it leaves no measurement open on its way
(`Operation.balanced_iff`).
-/

set_option autoImplicit false

namespace ObjectBridge

/-! ### One key -/

namespace Recorder.Lane

/-- The measurements that are open, latest first. -/
def pending (l : Lane) : List Int := l.opened.getD []

/-- How many operations were measured. -/
def calls (l : Lane) : Nat := (l.timing.getD {}).calls

/-- How many were begun. -/
def starts (l : Lane) : Nat := l.started.getD 0

/-- How many measurements were left open. -/
def left (l : Lane) : Nat := l.stranded.getD 0

variable {l l' l'' : Lane}

/-- Of the measurements started meanwhile some were left open, and the
others were closed and counted. The clock reads zero. -/
def Ran (l l' : Lane) : Prop :=
  ∃ n, l'.left = l.left + n ∧ l'.pending = List.replicate n 0 ++ l.pending ∧
    l.starts ≤ l'.starts ∧ l'.calls + n + l.starts = l.calls + l'.starts

namespace Ran

/-- A lane on which nothing is measured has run. -/
theorem refl (l : Lane) : l.Ran l := ⟨0, rfl, rfl, Nat.le_refl _, rfl⟩

/-- So has one that has run on. -/
theorem trans (h : l.Ran l') (h' : l'.Ran l'') : l.Ran l'' := by
  obtain ⟨n, hleft, hpending, hstarts, hcalls⟩ := h
  obtain ⟨n', hleft', hpending', hstarts', hcalls'⟩ := h'
  refine ⟨n' + n, by omega, ?_, by omega, by omega⟩
  rw [hpending', hpending, ← List.append_assoc, List.replicate_append_replicate]

/-- A start adds a measurement that is open. -/
theorem pending_start (l : Lane) : (l.start 0).pending = 0 :: l.pending := rfl

/-- It is counted. -/
theorem starts_start (l : Lane) : (l.start 0).starts = l.starts + 1 := rfl

/-- A stop closes one measurement, if any is open. -/
theorem stop_of_pending (now : Int) {began : Int} {earlier : List Int}
    (h : l.pending = began :: earlier) :
    (l.stop now).pending = earlier ∧ (l.stop now).calls = l.calls + 1 := by
  unfold pending at h
  cases hopened : l.opened with
  | none =>
    rw [hopened] at h
    cases h
  | some open' =>
    rw [hopened] at h
    cases h
    rw [stop, hopened]
    refine ⟨?_, rfl⟩
    cases earlier <;> rfl

/-- Stopping leaves no more behind, and starts nothing. -/
theorem left_stop (l : Lane) (now : Int) :
    (l.stop now).left = l.left ∧ (l.stop now).starts = l.starts := by
  unfold stop
  split <;> exact ⟨rfl, rfl⟩

/-- What was started is closed. -/
theorem stopped (h : (l.start 0).Ran l') : l.Ran (l'.stop 0) := by
  obtain ⟨n, hleft, hpending, hstarts, hcalls⟩ := h
  rw [pending_start] at hpending
  rw [starts_start] at hstarts hcalls
  -- All that is open above are readings of zero, so it does not matter which
  -- of them is closed.
  have hrotate : l'.pending = 0 :: (List.replicate n 0 ++ l.pending) := by
    rw [hpending, ← List.singleton_append, ← List.append_assoc, ← List.replicate_one,
      List.replicate_append_replicate, Nat.add_comm, ← List.replicate_append_replicate,
      List.append_assoc]
    rfl
  obtain ⟨hstopped, hcounted⟩ := stop_of_pending 0 hrotate
  obtain ⟨hleft', hstarts'⟩ := left_stop l' 0
  have hsame : (l.start 0).left = l.left ∧ (l.start 0).calls = l.calls := ⟨rfl, rfl⟩
  exact ⟨n, by omega, hstopped, by omega, by omega⟩

/-- What was started is left open, and there is a note of it. -/
theorem stranded (h : (l.start 0).Ran l') : l.Ran l'.strand := by
  obtain ⟨n, hleft, hpending, hstarts, hcalls⟩ := h
  rw [starts_start] at hstarts hcalls
  have hstrand : l'.strand.left = l'.left + 1 ∧ l'.strand.calls = l'.calls ∧
      l'.strand.starts = l'.starts :=
    ⟨rfl, rfl, rfl⟩
  have hsame : (l.start 0).left = l.left ∧ (l.start 0).calls = l.calls := ⟨rfl, rfl⟩
  refine ⟨n + 1, by omega, ?_, by omega, by omega⟩
  show l'.pending = _
  rw [hpending, pending_start, ← List.replicate_append_replicate, List.append_assoc]
  rfl

/-- Nothing new is open exactly when nothing was left so. -/
theorem pending_eq_iff (h : l.Ran l') : l'.pending = l.pending ↔ l'.left = l.left := by
  obtain ⟨n, hleft, hpending, -⟩ := h
  constructor
  · intro heq
    have hlength := congrArg List.length (hpending.symm.trans heq)
    rw [List.length_append, List.length_replicate] at hlength
    omega
  · intro heq
    have hzero : n = 0 := by omega
    rw [hpending, hzero]
    rfl

/-- All that was started was counted exactly when nothing was left open. -/
theorem calls_eq_iff (h : l.Ran l') :
    l'.calls = l.calls + (l'.starts - l.starts) ↔ l'.left = l.left := by
  obtain ⟨n, hleft, -, hstarts, hcalls⟩ := h
  omega

end Ran

end Recorder.Lane

/-! ### The rule -/

section

variable {β α : Type} {w w' : World β}

/-- What a recorder has for a key. -/
def World.lane (w : World β) (i : Nat) (key : Bytes) : Recorder.Lane :=
  (w.recorders.getD i {}).lane key

/-- Nothing happened to the recorders but measurements, and those that are
left open are noted. -/
structure World.Ran (w w' : World β) : Prop where
  size : w'.recorders.size = w.recorders.size
  lane : ∀ i key, (w.lane i key).Ran (w'.lane i key)

/-- With the same recorders nothing has run. -/
theorem World.ran_of_eq (h : w'.recorders = w.recorders) : w.Ran w' where
  size := congrArg Array.size h
  lane i key := by
    rw [World.lane, World.lane, h]
    exact .refl _

/-- A change of one recorder that only the lane of one key sees. -/
theorem lane_withRecorder {f : Recorder → Recorder} {g : Recorder.Lane → Recorder.Lane}
    {key : Bytes} (hf : ∀ r j, (f r).lane j = if j = key then g (r.lane j) else r.lane j)
    (recorder : Option Nat) (w : World β) (i : Nat) (j : Bytes) :
    (perform (withRecorder recorder f) w).2.lane i j =
      if (recorder = some i ∧ i < w.recorders.size) ∧ j = key then g (w.lane i j)
      else w.lane i j := by
  cases recorder with
  | none => simp [withRecorder]
  | some k =>
    show (((w.recorders.modify k f).getD i {}).lane j) = _
    by_cases hi : i < w.recorders.size
    · rw [World.lane, Array.getD_eq_getD_getElem?, Array.getD_eq_getD_getElem?,
        Array.getElem?_modify, Array.getElem?_eq_getElem hi]
      by_cases hk : k = i
      · simp [hk, hi, hf]
      · simp [hk]
    · rw [World.lane, Array.getD_eq_getD_getElem?, Array.getD_eq_getD_getElem?,
        Array.getElem?_modify, Array.getElem?_eq_none (Nat.le_of_not_lt hi)]
      simp [hi]

/-- Measuring makes no recorder. -/
theorem size_withRecorder (recorder : Option Nat) (f : Recorder → Recorder) (w : World β) :
    (perform (withRecorder recorder f) w).2.recorders.size = w.recorders.size := by
  cases recorder with
  | none => rfl
  | some k => exact Array.size_modify

/-- What is measured and then either closed or left open. -/
theorem World.ran_of_started {f : Recorder → Recorder} {g : Recorder.Lane → Recorder.Lane}
    {recorder : Option Nat} {key : Bytes}
    (hf : ∀ r j, (f r).lane j = if j = key then g (r.lane j) else r.lane j)
    (hg : ∀ l l' : Recorder.Lane, (l.start 0).Ran l' → l.Ran (g l'))
    (h : (perform (startTimer recorder key) w).2.Ran w') :
    w.Ran (perform (withRecorder recorder f) w').2 := by
  have hsize : w'.recorders.size = w.recorders.size := h.size.trans (size_withRecorder recorder _ w)
  refine ⟨(size_withRecorder recorder f w').trans hsize, fun i j => ?_⟩
  have hlane := h.lane i j
  rw [startTimer, lane_withRecorder (g := fun l => l.start 0) fun r j =>
    r.lane_start key 0 j] at hlane
  rw [lane_withRecorder hf, hsize]
  -- Start and end are seen by the same lane, or by none.
  by_cases hthere : (recorder = some i ∧ i < w.recorders.size) ∧ j = key
  · rw [if_pos hthere] at hlane ⊢
    exact hg _ _ hlane
  · rw [if_neg hthere] at hlane ⊢
    exact hlane

instance : Lax (World.Ran (β := β)) where
  refl _ := World.ran_of_eq rfl
  trans _ _ _ h h' := ⟨h'.size.trans h.size, fun i key => (h.lane i key).trans (h'.lane i key)⟩
  of_eq _ h _ := World.ran_of_eq h
  of_timers _ h := World.ran_of_eq h
  stopped _ key h := World.ran_of_started (fun r j => r.lane_stop key 0 j) (fun _ _ => .stopped) h
  stranded _ key h := World.ran_of_started (fun r j => r.lane_strand key j) (fun _ _ => .stranded) h

end

/-! ### Operations -/

/-- What is timed: what native code has an accessor do, what a host asks of
a proxy, and the built-in members. -/
inductive Operation
  | getNamed (a : Accessor) (host : HostId) (o : ObjectRef) (name : Bytes)
  | getIndexed (a : Accessor) (host : HostId) (o : ObjectRef) (index : Int32)
  | setNamed (a : Accessor) (host : HostId) (o : ObjectRef) (name : Bytes) (v : Variant)
  | setIndexed (a : Accessor) (host : HostId) (o : ObjectRef) (index : Int32) (v : Variant)
  | createArray (a : Accessor) (host : HostId)
  | request (p : Proxy) (slot : Slot) (r : Proxy.Request)
  | builtin (ctx : Context) (b : Behaviour) (args : List Variant)

variable {β : Type} [Native β] {R : World β → World β → Prop} {ops : HostOps β}

/-- Does the operation, and forgets what it comes to. -/
def Operation.run (lift : Behaviour → β) (ops : HostOps β) : Operation → M β Unit
  | .getNamed a host o name => discard (a.getNamed ops host o name)
  | .getIndexed a host o index => discard (a.getIndexed ops host o index)
  | .setNamed a host o name v => discard (a.setNamed ops host o name v)
  | .setIndexed a host o index v => discard (a.setIndexed ops host o index v)
  | .createArray a host => discard (a.createArray ops host)
  | .request p slot r => discard (r.serve ops p slot)
  | .builtin ctx b args => discard (b.run lift ops ctx args)

/-- A request obeys. -/
theorem Proxy.Request.obeys_serve [Lenient R] (hu : Upheld R) (hn : NativeObeys R ops) (p : Proxy)
    (slot : Slot) (r : Request) : Obeys R (r.serve ops p slot) := by
  cases r with
  | hasMethod name => exact .bind (p.obeys_hasMethod hu slot name) fun _ => .pure _
  | hasProperty name => exact .bind (p.obeys_hasProperty hu slot name) fun _ => .pure _
  | getProperty name => exact .bind (p.obeys_getProperty hu slot hn name) fun _ => .pure _
  | propertyNames => exact .bind (p.obeys_propertyNames hu slot) fun _ => .pure _
  | setProperty name v => exact .bind (p.obeys_setProperty hu slot hn name v) fun _ => .pure _
  | call method args => exact .bind (p.obeys_call hu slot hn method args) fun _ => .pure _
  | construct args => exact .bind (p.obeys_construct hu slot hn args) fun _ => .pure _

/-- An operation obeys a lenient rule if hosts and native code do. -/
theorem Operation.obeys_run [Lenient R] (hu : Upheld R) (hops : ops.Obey R) (lift : Behaviour → β)
    (op : Operation) :
    Obeys R (op.run lift ops) := by
  have hdiscard {α : Type} {act : M β α} (h : Obeys R act) : Obeys R (discard act) :=
    .bind h fun _ => .pure _
  cases op with
  | getNamed a host o name => exact hdiscard (a.obeys_getNamed hops host o name)
  | getIndexed a host o index => exact hdiscard (a.obeys_getIndexed hops host o index)
  | setNamed a host o name v => exact hdiscard (a.obeys_setNamed hops host o name v)
  | setIndexed a host o index v => exact hdiscard (a.obeys_setIndexed hops host o index v)
  | createArray a host => exact hdiscard (a.obeys_createArray hops host)
  | request p slot r => exact hdiscard (r.obeys_serve hu (hu.native ops hops) p slot)
  | builtin ctx b args => exact hdiscard (Behaviour.obeys_run hops lift ctx b args)

/-- Reporting a failure changes no recorder. -/
theorem upheld_ran (hn : ∀ ops : HostOps β, ops.Obey World.Ran → NativeObeys World.Ran ops) :
    Upheld (World.Ran (β := β)) where
  report := obeys_setLastError (fun _ _ _ => World.ran_of_eq rfl) fun _ _ => World.ran_of_eq rfl
  native := hn

/-- An operation leaves open what it found open, and counts all the
primitives it started, exactly when no measurement was left open on the way,
which happens to reads that are unwound. -/
theorem Operation.balanced_iff (hn : ∀ ops : HostOps β, ops.Obey World.Ran →
    NativeObeys World.Ran ops) (lift : Behaviour → β) (level : Nat) (op : Operation) (w :
    World β) (i : Nat) (key : Bytes) :
    let l := w.lane i key
    let l' := (perform (op.run lift (hostOps level)) w).2.lane i key
    (l'.pending = l.pending ↔ l'.left = l.left) ∧ (l'.calls = l.calls + (l'.starts - l.starts) ↔
      l'.left = l.left) := by
  have hu := upheld_ran hn
  have hran := op.obeys_run hu (obey_hostOps hu level) lift w
  exact ⟨(hran.lane i key).pending_eq_iff, (hran.lane i key).calls_eq_iff⟩

/-! ### A getter that throws -/

/-- An accessor with a recorder reads the element of `trapWorld` whose
getter throws. -/
def trappedRead : Operation := .getIndexed { recorder := some 0 } (.script 0) (.handle 0) 1

/-- The world of the trap with a handle of it and a recorder. -/
def timedTrapWorld : World Behaviour :=
  { trapWorld with handles := #[{ refs := { refs := 1 }, runtime := 0, object := 0 }], recorders :=
    #[{}] }

/-- It asks whether there is a property, and the measurement of that is
open afterwards. -/
theorem balanced_iff_trappedRead :
    let l' := (perform (trappedRead.run id host) timedTrapWorld).2.lane 0
      (.ofString "host.HasProperty")
    l'.left = 1 ∧ (l'.pending = [] ↔ l'.left = 0) ∧
      (l'.calls = 0 + (l'.starts - 0) ↔ l'.left = 0) := by
  have hbalanced := trappedRead.balanced_iff (fun _ => Behaviour.nativeObeys) id nesting
    timedTrapWorld 0 (.ofString "host.HasProperty")
  exact ⟨by decide +kernel, hbalanced⟩

/-- The read of the trap leaves a measurement open. -/
theorem not_balanced_trappedRead :
    ¬∀ (w : World Behaviour) (op : Operation) (i : Nat) (key : Bytes),
      ((perform (op.run id host) w).2.lane i key).pending = (w.lane i key).pending := by
  intro h
  have hopen := h timedTrapWorld trappedRead 0 (.ofString "host.HasProperty")
  have hleft : ((perform (trappedRead.run id host) timedTrapWorld).2.lane 0
      (.ofString "host.HasProperty")).pending ≠ [] := by
    decide +kernel
  exact hleft hopen

end ObjectBridge

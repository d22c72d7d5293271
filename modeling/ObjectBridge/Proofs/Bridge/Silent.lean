import ObjectBridge.Bridge.Host
import ObjectBridge.Proofs.Bridge.Standing

/-!
# `ObjectBridge.Proofs.Bridge.Silent`: reads that call nobody

When native code reads a property of a script object, a getter may run. The
read is `silent` when no request comes of that: nothing outside is asked.
`perform_fetch_silent` gives the answer and the world of such a read. It
leaves the books alone, whatever the getter answers, and also when it throws
or runs for too long.
-/

set_option autoImplicit false

namespace ObjectBridge

variable {α β : Type} {good : Roles β} {w w' : World β} {i : Nat}

/-- Changes of one element add up. -/
theorem modify_modify (xs : Array α) (i : Nat) (f g : α → α) :
    (xs.modify i f).modify i g = xs.modify i (g ∘ f) := by
  refine Array.ext_getElem? fun j => ?_
  simp only [Array.getElem?_modify]
  split
  · cases xs[j]? <;> rfl
  · rfl

namespace ScriptHost

open Script (Value Key ObjId Machine)

/-- The run that fetches a property. -/
def fetchRun (i : Nat) (o : ObjId) (key : Key) (w : World β) : Script.Heap × Nat × Script.Stop :=
  let r := w.runtime i
  let m : Machine := { control := .fetch (some o) key (.object o), depth := r.depth }
  if r.running then Script.run r.realm (limitOf r.config) r.steps w.heap m
  else Script.run r.realm (limitOf r.config) mostSteps { w.heap with effort := 0 } m

/-- Nobody is asked when a property is fetched. -/
def silent (i : Nat) (o : ObjId) (key : Key) (w : World β) : Bool :=
  match (fetchRun i o key w).2.2 with
  | .ask _ _ _ => false
  | _ => true

/-- The world after a run. Only a run with nothing below it ends the
script. -/
def fetched (i : Nat) (o : ObjId) (key : Key) (w : World β) : World β :=
  { w with
    heap := (fetchRun i o key w).1
    runtimes := w.runtimes.modify i fun r =>
      if (w.runtime i).running then
        { r with steps := (fetchRun i o key w).2.1, depth := (w.runtime i).depth }
      else { r with steps := (fetchRun i o key w).2.1, running := false, depth := 0 } }

/-- What a run that has stopped answers. -/
def fetchAnswer : Script.Stop → Except Unwind (Option Value)
  | .done (.value v) => .ok (some v)
  | .done .absent => .ok none
  | .done (.thrown v) => .error (.thrown v)
  | .done .overflow => .error .overflow
  | .spent => .error .interrupted
  | .ask _ _ _ => .error .fault

/-- How a machine that asks nobody runs. -/
def stopped : Script.Stop → Except Unwind Script.Outcome
  | .done o => .ok o
  | .spent => .error .interrupted
  | .ask _ _ _ => .error .fault

/-- What happens on the heap leaves the rest of the world. -/
theorem perform_withHeap_eq (f : Script.Heap → α × Script.Heap) (w : World β) :
    perform (withHeap f) w = (.ok (f w.heap).1, { w with heap := (f w.heap).2 }) := rfl

variable [Native β] {ops : HostOps β}

/-- A machine that asks nobody stops in its first round. -/
theorem perform_drive_silent (rounds : Nat) (m : Machine)
    (h : ∀ q stack depth, (Script.run (w.runtime i).realm (limitOf (w.runtime i).config)
      (w.runtime i).steps w.heap m).2.2 ≠ .ask q stack depth) :
    perform (drive ops i (rounds + 1) m) w =
      (stopped (Script.run (w.runtime i).realm (limitOf (w.runtime i).config) (w.runtime i).steps
        w.heap m).2.2, { w with
          heap := (Script.run (w.runtime i).realm (limitOf (w.runtime i).config)
            (w.runtime i).steps w.heap m).1
          runtimes := w.runtimes.modify i fun r =>
            { r with steps :=
              (Script.run (w.runtime i).realm (limitOf (w.runtime i).config) (w.runtime i).steps
                w.heap m).2.1 } }) := by
  unfold drive
  rw [perform_bind_ok (perform_get w)]
  dsimp only
  rw [withHeap, perform_bind_ok (perform_modifyGet _ _), modifyRuntime,
    perform_bind_ok (perform_modify _ _)]
  dsimp only
  generalize Script.run (w.runtime i).realm (limitOf (w.runtime i).config) (w.runtime i).steps
    w.heap m = ran at h ⊢
  obtain ⟨heap, left, stop⟩ := ran
  cases stop with
  | ask q stack depth => exact absurd rfl (h q stack depth)
  | done o => rfl
  | spent => rfl

/-- A machine that comes to an outcome in its first round. -/
theorem perform_drive_done {rounds : Nat} {m : Machine} {h : Script.Heap} {left : Nat}
    {o : Script.Outcome} (hrun : Script.run (w.runtime i).realm (limitOf (w.runtime i).config)
      (w.runtime i).steps w.heap m = (h, left, .done o)) :
    perform (drive ops i (rounds + 1) m) w =
      (.ok o, { w with heap := h, runtimes := w.runtimes.modify i fun r =>
  { r with steps := left } }) := by
  rw [perform_drive_silent _ _ (by simp [hrun]), hrun]
  rfl

/-- A machine that asks for something goes on with what it is replied. -/
theorem perform_drive_ask {rounds : Nat} {m : Machine} {h : Script.Heap} {left depth : Nat}
    {q : Script.Request} {stack : List Script.Frame} {reply : Reply}
    (hrun : Script.run (w.runtime i).realm (limitOf (w.runtime i).config)
      (w.runtime i).steps w.heap m = (h, left, .ask q stack depth))
    (hserve : perform (serve ops i q)
      { w with heap := h, runtimes := w.runtimes.modify i fun r =>
  { r with steps := left, depth } } =
        (.ok reply, w')) :
    perform (drive ops i (rounds + 1) m) w =
      perform (drive ops i rounds { control := reply.control, stack, depth }) w' := by
  rw [drive, perform_bind_ok (perform_get w)]
  dsimp only
  rw [withHeap, perform_bind_ok (perform_modifyGet _ _), modifyRuntime,
    perform_bind_ok (perform_modify _ _)]
  dsimp only
  rw [hrun]
  dsimp only
  rw [modifyRuntime, perform_bind_ok (perform_modify _ _)]
  dsimp only
  rw [modify_modify, perform_bind_ok (perform_caught _ _)]
  simp only [Function.comp_def]
  rw [hserve]

/-- A machine with nothing below it runs in a world that is made ready for
it, and the runtime is idle again when it has ended. -/
theorem perform_runMachine_of_drive {steps : Nat} {m : Machine}
    {result : Except Unwind Script.Outcome} (hidle : (w.runtime i).running = false)
    (hdrive : perform (drive ops i (steps + 1) m)
      { w with
        runtimes := w.runtimes.modify i fun x => { x with running := true, steps }
        heap := { w.heap with effort := 0 } } = (result, w')) :
    perform (runMachine ops i steps m) w =
      (result, { w' with runtimes := w'.runtimes.modify i fun x =>
        { x with running := false, depth := 0 } }) := by
  unfold runMachine
  rw [perform_bind_ok (perform_get w)]
  dsimp only
  rw [hidle, if_neg Bool.false_ne_true, modifyRuntime, perform_bind_ok (perform_modify _ _),
    perform_bind_ok (perform_withHeap_eq _ _), perform_cleanly, hdrive]
  rfl

/-- A silent read runs the getter, if there is one, and nothing else. -/
theorem perform_fetch_silent {o : ObjId} {key : Key} (hi : i < w.runtimes.size)
    (h : silent i o key w = true) :
    perform (fetch ops i o key) w = (fetchAnswer (fetchRun i o key w).2.2, fetched i o key w) := by
  have hstop (q : Script.Request) (stack : List Script.Frame) (depth : Nat) :
      (fetchRun i o key w).2.2 ≠ .ask q stack depth := by
    intro hask
    rw [silent, hask] at h
    cases h
  have hrun : perform (runMachine ops i mostSteps
      { control := .fetch (some o) key (.object o), depth := (w.runtime i).depth }) w =
      (stopped (fetchRun i o key w).2.2, fetched i o key w) := by
    unfold runMachine
    rw [perform_bind_ok (perform_get w)]
    dsimp only
    cases hrunning : (w.runtime i).running with
    | true =>
      have hfetch : fetchRun i o key w =
          Script.run (w.runtime i).realm (limitOf (w.runtime i).config)
          (w.runtime i).steps w.heap
          { control := .fetch (some o) key (.object o), depth := (w.runtime i).depth } := by
        rw [fetchRun, hrunning, if_pos rfl]
      rw [if_pos rfl, perform_cleanly, perform_drive_silent _ _ (hfetch ▸ hstop), ← hfetch]
      dsimp only
      rw [modifyRuntime, perform_modify, fetched, hrunning]
      dsimp only
      rw [modify_modify]
      rfl
    | false =>
      -- The run starts in a world that is made ready for it.
      obtain ⟨ready, hready⟩ : ∃ ready : World β, ready = { w with
        runtimes := w.runtimes.modify i fun x => { x with running := true, steps := mostSteps }
        heap := { w.heap with effort := 0 } } := ⟨_, rfl⟩
      have hruntime : ready.runtime i =
          { w.runtime i with running := true, steps := mostSteps } := by
        subst hready
        exact (w.runtime_modify i i _).trans (if_pos ⟨rfl, hi⟩)
      have hfetch : fetchRun i o key w =
          Script.run (ready.runtime i).realm (limitOf (ready.runtime i).config)
          (ready.runtime i).steps ready.heap
          { control := .fetch (some o) key (.object o), depth := (w.runtime i).depth } := by
        rw [fetchRun, hrunning, if_neg Bool.false_ne_true, hruntime, hready]
      rw [if_neg Bool.false_ne_true, modifyRuntime, perform_bind_ok (perform_modify _ _),
        perform_bind_ok (perform_withHeap_eq _ _), ← hready, perform_cleanly,
        perform_drive_silent _ _ (hfetch ▸ hstop), ← hfetch]
      dsimp only
      rw [modifyRuntime, perform_modify, fetched, hrunning, hready]
      dsimp only
      rw [modify_modify, modify_modify]
      rfl
  unfold fetch
  rw [perform_bind_ok (perform_get w)]
  dsimp only
  rw [perform_bind, hrun]
  rcases (fetchRun i o key w).2.2 with _ | (_ | _ | _ | _) | _ <;> rfl

omit [Native β] in
/-- A silent read leaves the books alone, and the bytes. -/
theorem owes_fetched (hs : w.Sound good) (hi : i < w.runtimes.size) (o : ObjId) (key : Key) :
    w.Owes good i 0 (fetched i o key w) := by
  have hbooks (r : Runtime) : Runtime.books (if (w.runtime i).running then
      { r with steps := (fetchRun i o key w).2.1, depth := (w.runtime i).depth }
      else { r with steps := (fetchRun i o key w).2.1, running := false, depth := 0 }) =
        r.books := by
    split <;> rfl
  have hruntimes := w.alike_modifyRuntime i hbooks
  have halike : w.Alike (fetched i o key w) := ⟨rfl, rfl, rfl, rfl, rfl, hruntimes.runtimes⟩
  refine .of_alike hs halike ((allocated_modify hi _).trans ?_)
  split <;> rfl

end ScriptHost

end ObjectBridge

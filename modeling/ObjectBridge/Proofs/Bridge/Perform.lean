import Mathlib
import ObjectBridge.Bridge.Ownership

/-!
# `ObjectBridge.Proofs.Bridge.Perform`: running operations

An operation on the world is a function, and `perform` runs it: the
result, or why the operation was unwound, and the world that is left.
Each theorem here runs one of the ways operations are put together. The
proofs about operations run them with these and do not look into the
monad.
-/

set_option autoImplicit false

namespace ObjectBridge

variable {β α γ : Type}

/-- Runs an operation in a world. -/
def perform (act : M β α) (w : World β) : Except Unwind α × World β := act w

/-- Giving back a value leaves the world. -/
@[simp] theorem perform_pure (x : α) (w : World β) : perform (pure x : M β α) w = (.ok x, w) := rfl

/-- Reading the world gives and leaves it. -/
@[simp] theorem perform_get (w : World β) : perform (get : M β (World β)) w = (.ok w, w) := rfl

/-- Setting the world replaces it. -/
@[simp] theorem perform_set (w' w : World β) : perform (set w' : M β PUnit) w = (.ok ⟨⟩, w') := rfl

/-- A change changes the world. -/
@[simp] theorem perform_modify (f : World β → World β) (w : World β) :
    perform (modify f : M β PUnit) w = (.ok ⟨⟩, f w) := rfl

/-- So does a change that gives something back. -/
@[simp] theorem perform_modifyGet (f : World β → α × World β) (w : World β) :
    perform (modifyGet f : M β α) w = (.ok (f w).1, (f w).2) := rfl

/-- Unwinding leaves the world. -/
@[simp] theorem perform_throw (u : Unwind) (w : World β) : perform (throw u : M β α) w =
    (.error u, w) := rfl

/-- What follows an operation runs in the world it leaves, unless it is
unwound. -/
theorem perform_bind (act : M β α) (f : α → M β γ) (w : World β) :
    perform (act >>= f) w =
      match perform act w with
      | (.ok x, w') => perform (f x) w'
      | (.error u, w') => (.error u, w') := by
  show (ExceptT.bindCont f (perform act w).1) (perform act w).2 = _
  rcases perform act w with ⟨_ | _, w'⟩ <;> rfl

/-- What follows goes on from the result. -/
theorem perform_bind_ok {act : M β α} {w w' : World β} {x : α} (h : perform act w = (.ok x, w'))
    (f : α → M β γ) :
    perform (act >>= f) w = perform (f x) w' := by
  rw [perform_bind, h]

/-- Operations one after the other return when each of them does. -/
theorem exists_of_perform_bind {act : M β α} {f : α → M β γ} {w w' : World β} {y : γ}
    (h : perform (act >>= f) w = (.ok y, w')) :
    ∃ x w₁, perform act w = (.ok x, w₁) ∧ perform (f x) w₁ = (.ok y, w') := by
  rw [perform_bind] at h
  cases hact : perform act w with
  | mk r w₁ =>
    rw [hact] at h
    cases r with
    | ok x => exact ⟨x, w₁, rfl, h⟩
    | error u => cases h

/-- What is made of a result does not change the world. -/
theorem perform_bind_pure_snd (act : M β α) (f : α → γ) (w : World β) :
    (perform (act >>= fun x => pure (f x)) w).2 = (perform act w).2 := by
  rw [perform_bind]
  rcases perform act w with ⟨_ | _, w'⟩ <;> rfl

/-- The clean-up runs in the world the operation leaves, whatever became
of the operation. -/
theorem perform_cleanly (act : M β α) (cleanUp : M β Unit) (w : World β) :
    perform (cleanly act cleanUp) w =
      match perform cleanUp (perform act w).2 with
      | (.ok _, w') => ((perform act w).1, w')
      | (.error u, w') => (.error u, w') := rfl

/-- It does not matter how an operation is cleaned up that comes to a
result. -/
theorem perform_cleanly_eq_bind {act : M β α} {w w' : World β} {x : α}
    (h : perform act w = (.ok x, w')) (cleanUp : M β Unit) :
    perform (cleanly act cleanUp) w = perform (do let x ← act; cleanUp; return x) w := by
  rw [perform_cleanly, h, perform_bind_ok h, perform_bind]
  rcases perform cleanUp w' with ⟨_ | _, _⟩ <;> rfl

/-- A note of an operation is taken in the world it leaves when it is
unwound. -/
theorem perform_noting (act : M β α) (note : M β Unit) (w : World β) :
    perform (noting act note) w =
      match perform act w with
      | (.ok x, w') => (.ok x, w')
      | (.error u, w') => (.error u, (perform note w').2) := rfl

/-- No note is taken of an operation that comes to a result. -/
theorem perform_noting_ok {act : M β α} {w w' : World β} {x : α} (h : perform act w = (.ok x, w'))
    (note : M β Unit) :
    perform (noting act note) w = (.ok x, w') := by
  rw [perform_noting, h]

/-- A note is left when the operation unwinds. -/
theorem perform_noting_error {act : M β α} {w w' : World β} {u : Unwind}
    (h : perform act w = (.error u, w')) (note : M β Unit) :
    perform (noting act note) w = (.error u, (perform note w').2) := by
  rw [perform_noting, h]

/-- What is caught is the result, also when it unwinds. -/
@[simp] theorem perform_caught (act : M β α) (w : World β) :
    perform (caught act) w = (.ok (perform act w).1, (perform act w).2) := rfl

/-! ### References -/

/-- Entering an event changes the books at most. -/
theorem perform_meter (ctx : Context) (event : Metrics → Metrics) (w : World β) :
    ∃ metrics, perform (meter ctx event) w = (.ok (), { w with metrics }) := by
  rw [meter, perform_modify]
  split
  · split
    · exact ⟨_, rfl⟩
    · exact ⟨w.metrics, rfl⟩
  · exact ⟨w.metrics, rfl⟩

/-- A new proxy is the last of them. -/
theorem perform_newProxy (ctx : Context) (n : NodeId) (w : World β) :
    ∃ metrics, perform (newProxy ctx n) w =
      (.ok (.proxy w.proxies.size),
        { w with proxies := w.proxies.push { refs := { refs := 1 }, context := ctx,
                                             node := n }, metrics }) := by
  obtain ⟨metrics, hmeter⟩ := perform_meter ctx Metrics.wrapperCreated
    { w with proxies := w.proxies.push { refs := { refs := 1 }, context := ctx, node := n } }
  refine ⟨metrics, ?_⟩
  rw [newProxy, perform_bind_ok (perform_modifyGet _ _), perform_bind_ok hmeter, perform_pure]

end ObjectBridge

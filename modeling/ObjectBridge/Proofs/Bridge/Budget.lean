import ObjectBridge.Proofs.Bridge.Hosts
import ObjectBridge.Proofs.Bridge.Marshalling

/-!
# `ObjectBridge.Proofs.Bridge.Budget`: the bytes of a runtime

A runtime knows nothing of the buffers it gave out. It has one number: the
size of a request that is granted is added, the length of what is given back
is taken off, and the number never falls below zero. If a buffer were given
back twice, or one of another runtime were, the number would be too small
from then on, and nobody would notice.

`Deals` are the histories since a runtime was opened or reset in which that
does not happen: what is given back was given out since then, and is given
back once. In every state of such a history the number is the total length of
the buffers that are out, it stays within the budget, and a request is granted
exactly when the budget allows it. What is given back never takes the number
below zero (`Deals.budgeted`).

A reset makes the number zero. The buffers that were out before it are
written off, and must not be given back after it.
-/

set_option autoImplicit false

namespace ObjectBridge

variable {β : Type} {w w' w₀ : World β} {i : Nat}

/-- Releasing an object costs a host no bytes, also when nobody holds it. -/
theorem till_release (host : HostId) (o : ObjectRef) :
    Leaves (World.till host) (release o : M β Unit) := by
  have hdrop : Leaves (World.till host) (modifyGet (dropRef o) : M β RefCount.Fate) :=
    .modifyGet fun w => by cases o <;> cases host <;> rfl
  refine .bind hdrop fun fate => ?_
  cases fate with
  | kept => exact .pure ()
  | unretained => exact .throw _
  | freed =>
    cases o with
    | proxy p =>
      refine .bind .get fun _ w => ?_
      obtain ⟨metrics, hrun⟩ := perform_meter _ Metrics.wrapperReleased w
      rw [hrun]
      cases host <;> rfl
    | table t => exact .pure ()
    | handle h => exact .pure ()

namespace Runtime

variable {n : Nat} {m size : Int} {out before after : List Nat}

/-! ### The till of a runtime -/

/-- The till of a runtime with budget `m` when buffers of these lengths are
out. -/
def tillOf (m : Int) (out : List Nat) : Till :=
  { known := true, clamps := true, perRequest := 0, budget := m, out := out.sum }

/-- There is room for a request of this size. -/
def HasRoom (m : Int) (out : List Nat) (size : Int) : Prop :=
  0 ≤ size ∧ (m ≤ 0 ∨ out.sum + size ≤ m)

instance : Decidable (HasRoom m out size) := inferInstanceAs (Decidable (_ ∧ _))

/-- Bytes taken from the till are outstanding. -/
theorem take_tillOf (m : Int) (out : List Nat) (n : Nat) :
    (tillOf m out).take n = tillOf m (n :: out) := by
  simp only [tillOf, Till.take, List.sum_cons, Nat.cast_add, Int.add_comm]

/-- A buffer that is given back is not out any more. -/
theorem take_neg_tillOf (m : Int) (before after : List Nat) (n : Nat) :
    (tillOf m (before ++ n :: after)).take (-n) = tillOf m (before ++ after) := by
  simp only [tillOf, Till.take, List.sum_append, List.sum_cons, Till.mk.injEq, true_and]
  omega

/-- It gives as long as there is room. -/
theorem gives_tillOf (m : Int) (out : List Nat) (n : Nat) :
    (tillOf m out).Gives n ↔ HasRoom m out n := by
  simp only [Till.Gives, tillOf, HasRoom]
  omega

/-- No buffer is longer than all of them. -/
theorem le_out_tillOf (m : Int) (before after : List Nat) (n : Nat) :
    n ≤ (tillOf m (before ++ n :: after)).out := by
  simp only [tillOf, List.sum_append, List.sum_cons]
  omega

/-- The count of a runtime is right: buffers of lengths `out` are out, and they
are not more than the budget. -/
structure Tracks (i : Nat) (m : Int) (w : World β) (out : List Nat) : Prop where
  till : w.till (.script i) = tillOf m out
  within : 0 < m → out.sum ≤ m

namespace Tracks

/-- The till that is tracked is there. -/
theorem known (h : Tracks i m w out) : (w.till (.script i)).known = true := by rw [h.till]; rfl

/-- It has allocated what is outstanding. -/
theorem allocated_eq (h : Tracks i m w out) : (w.runtime i).allocated = out.sum :=
  congrArg Till.out h.till

/-- Its bound is the one it is tracked with. -/
theorem maxAlloc_eq (h : Tracks i m w out) : (w.runtime i).config.maxAlloc = m :=
  congrArg Till.budget h.till

/-- What leaves the till alone changes nothing. -/
theorem leaves (h : Tracks i m w out) (hw : w'.till (.script i) = w.till (.script i)) :
    Tracks i m w' out where
  till := hw.trans h.till
  within := h.within

/-- A request is granted when there is room for it, and then one more buffer
is out. -/
theorem memAlloc (h : Tracks i m w out) (size : Int) :
    ∃ w', perform (memAlloc (.script i) size) w = (.ok (decide (HasRoom m out size)), w') ∧
      Tracks i m w' (if HasRoom m out size then size.toNat :: out else out) := by
  -- A negative size is refused by any host; for any other one the till decides.
  by_cases hneg : size < 0
  · have hroom : ¬ HasRoom m out size := fun hroom => by have := hroom.1; omega
    refine ⟨w, ?_, by rwa [if_neg hroom]⟩
    unfold ObjectBridge.memAlloc
    rw [perform_bind_ok (perform_get w), decide_eq_true hneg, decide_eq_false hroom]
    rfl
  · obtain ⟨n, rfl⟩ := Int.eq_ofNat_of_zero_le (Int.not_lt.mp hneg)
    obtain ⟨w', hrun, htill⟩ := perform_memAlloc_till h.known n
    simp only [h.till, gives_tillOf] at hrun htill
    refine ⟨w', hrun, ?_⟩
    split
    case isTrue hroom =>
      rw [if_pos hroom, take_tillOf] at htill
      refine ⟨htill, fun hm => ?_⟩
      have := hroom.2
      simp only [Int.toNat_natCast, List.sum_cons]
      omega
    case isFalse hroom =>
      rw [if_neg hroom] at htill
      exact ⟨htill, h.within⟩

/-- The till after a buffer that was out was given back. -/
theorem take_neg (h : Tracks i m w (before ++ n :: after))
    (hw : w'.till (.script i) = (w.till (.script i)).take (-n)) :
    Tracks i m w' (before ++ after) where
  till := by rw [hw, h.till, take_neg_tillOf]
  within hm := by
    have := h.within hm
    simp only [List.sum_append, List.sum_cons] at this ⊢
    omega

/-- A buffer that is out is covered by the count. -/
theorem le_out (h : Tracks i m w (before ++ n :: after)) : n ≤ (w.till (.script i)).out := by
  rw [h.till]
  exact le_out_tillOf m before after n

/-- A buffer that is out can be given back. -/
theorem memFree (h : Tracks i m w (before ++ n :: after)) :
    ∃ w', perform (memFree (.script i) n) w = (.ok (), w') ∧ Tracks i m w' (before ++ after) := by
  obtain ⟨w', hrun, htill⟩ := perform_memFree_till h.known fun _ => h.le_out
  exact ⟨w', hrun, h.take_neg htill⟩

/-- So can a string that fills it. -/
theorem releaseVariant {bytes : Bytes} (h : Tracks i m w (before ++ bytes.length :: after)) :
    ∃ w', perform (releaseVariant (.script i) (.string bytes)) w = (.ok (), w') ∧
      Tracks i m w' (before ++ after) :=
  h.memFree

/-- Releasing a variant without bytes gives nothing back. -/
theorem releaseVariant_bare (h : Tracks i m w out) {v : Variant} (hv : v.asBytes = []) :
    Tracks i m (perform (ObjectBridge.releaseVariant (.script i) v) w).2 out := by
  cases v with
  | string bytes =>
    obtain rfl : bytes = [] := hv
    -- No bytes are given back, so the count need not cover any.
    obtain ⟨w', hrun, htill⟩ := perform_releaseVariant_till [] h.known fun _ => by
      rw [h.till]
      exact Int.natCast_nonneg _
    rw [hrun]
    exact h.leaves (htill.trans (Till.take_zero _))
  | object o => exact h.leaves (till_release _ o w)
  | _ => exact h

end Tracks

/-! ### Histories -/

/-- The runtime was opened or reset a moment ago. -/
inductive Begins (i : Nat) (w₀ : World β) : Prop
  | opened {w : World β} {config : RuntimeConfig} (hrun : perform (open_ config) w = (.ok i, w₀))
  | cleared {w : World β} (hi : i < w.runtimes.size) (hrun : perform (reset i) w = (.ok (), w₀))

/-- What a runtime was asked since `w₀`, and the lengths of the buffers that are
out: a buffer is out once it was given, and is not when it was given back. What
is given back is one of those that are out. -/
inductive Deals (i : Nat) (w₀ : World β) : World β → List Nat → Prop
  | start : Deals i w₀ w₀ []
  | given {w w' : World β} {out : List Nat} {size : Int} (h : Deals i w₀ w out)
      (hrun : perform (memAlloc (.script i) size) w = (.ok true, w')) :
      Deals i w₀ w' (size.toNat :: out)
  | refused {w w' : World β} {out : List Nat} {size : Int} (h : Deals i w₀ w out)
      (hrun : perform (memAlloc (.script i) size) w = (.ok false, w')) : Deals i w₀ w' out
  | freed {w w' : World β} {before after : List Nat} {n : Nat} {r : Except Unwind Unit}
      (h : Deals i w₀ w (before ++ n :: after))
      (hrun : perform (memFree (.script i) n) w = (r, w')) :
      Deals i w₀ w' (before ++ after)
  /-- A string is released that fills a buffer. -/
  | released {w w' : World β} {before after : List Nat} {bytes : Bytes} {r : Except Unwind Unit}
      (h : Deals i w₀ w (before ++ bytes.length :: after))
      (hrun : perform (releaseVariant (.script i) (.string bytes)) w = (r, w')) :
      Deals i w₀ w' (before ++ after)
  /-- A variant is released that has no bytes. This may be misuse of the object
  in it. -/
  | dropped {w w' : World β} {out : List Nat} {v : Variant} {r : Except Unwind Unit}
      (h : Deals i w₀ w out) (hv : v.asBytes = [])
      (hrun : perform (releaseVariant (.script i) v) w = (r, w')) : Deals i w₀ w' out
  /-- Something happens that is no business of the runtime's. -/
  | elsewhere {w w' : World β} {out : List Nat} (h : Deals i w₀ w out)
      (hkept : w'.till (.script i) = w.till (.script i)) : Deals i w₀ w' out

/-- A runtime that was just started has given out nothing. -/
theorem till_started (hi : i < w.runtimes.size) :
    (w.started i).till (.script i) = tillOf ((w.started i).runtime i).config.maxAlloc [] := by
  have hsize : i < (w.started i).runtimes.size := by simpa [World.started] using hi
  have hruntime : (w.started i).runtime i = (w.runtime i).started (w.newRealm i).2 := by
    unfold World.started
    generalize w.newRealm i = made
    exact (w.runtime_modify i i _).trans (if_pos ⟨rfl, hi⟩)
  rw [World.till, hruntime, decide_eq_true hsize]
  rfl

instance : Public fun w : World β => w.runtimes.size where
  congr h := by simpa [World.affairs] using congrArg (fun a => a.configs.size) h

/-- At first nothing is outstanding. -/
theorem Begins.tracks (h : Begins i w₀) : Tracks i (w₀.runtime i).config.maxAlloc w₀ [] := by
  have htill : w₀.till (.script i) = tillOf (w₀.runtime i).config.maxAlloc [] := by
    cases h with
    | opened hrun =>
      obtain ⟨j, w₁, hpush, hrest⟩ := exists_of_perform_bind hrun
      cases hpush
      rw [perform_bind_ok (perform_start_eq _ _)] at hrest
      cases hrest
      exact till_started (by simp)
    | cleared hi hrun =>
      obtain ⟨_, w₁, hrelease, hstart⟩ := exists_of_perform_bind hrun
      have hsize : w₁.runtimes.size = _ :=
        (obeys_releaseAdopted (R := Same fun w : World β => w.runtimes.size) i).of_run hrelease
      rw [perform_start_eq] at hstart
      cases hstart
      exact till_started (hsize ▸ hi)
  exact ⟨htill, fun hm => Int.le_of_lt hm⟩

/-! ### The budget -/

/-- The count of a runtime is right all along. -/
theorem Deals.tracks (h₀ : Begins i w₀) (h : Deals i w₀ w out) :
    Tracks i (w₀.runtime i).config.maxAlloc w out := by
  -- What the host answered is what the step lemma says, as a request has one outcome.
  induction h with
  | start => exact h₀.tracks
  | @given _ _ out size _ hrun ih =>
    obtain ⟨w', halloc, htracks⟩ := ih.memAlloc size
    rw [halloc] at hrun
    obtain ⟨hanswer, rfl⟩ := Prod.mk.inj hrun
    rwa [if_pos (of_decide_eq_true (Except.ok.inj hanswer))] at htracks
  | @refused _ _ out size _ hrun ih =>
    obtain ⟨w', halloc, htracks⟩ := ih.memAlloc size
    rw [halloc] at hrun
    obtain ⟨hanswer, rfl⟩ := Prod.mk.inj hrun
    rwa [if_neg (of_decide_eq_false (Except.ok.inj hanswer))] at htracks
  | freed _ hrun ih =>
    obtain ⟨w', hfree, htracks⟩ := ih.memFree
    rw [hfree] at hrun
    cases hrun
    exact htracks
  | released _ hrun ih =>
    obtain ⟨w', hrelease, htracks⟩ := ih.releaseVariant
    rw [hrelease] at hrun
    cases hrun
    exact htracks
  | dropped _ hv hrun ih =>
    have htracks := ih.releaseVariant_bare hv
    rwa [hrun] at htracks
  | elsewhere _ hkept ih => exact ih.leaves hkept

/-- A runtime with budget `m` that gave out buffers of lengths `out` and did
not get them back. There is no budget when `m` is not positive. -/
structure Budgeted (i : Nat) (m : Int) (w : World β) (out : List Nat) : Prop where
  /-- The budget is the one of the runtime. -/
  budget : (w.runtime i).config.maxAlloc = m
  /-- The count is the total length of the buffers. -/
  count : (w.runtime i).allocated = out.sum
  /-- They are never more than the budget. -/
  within : 0 < m → out.sum ≤ m
  /-- A request is granted exactly when the budget allows it. -/
  grants : ∀ size : Int, ∃ w', perform (memAlloc (.script i) size) w =
    (.ok (decide (0 ≤ size ∧ (m ≤ 0 ∨ out.sum + size ≤ m))), w')
  /-- When one of the buffers is given back, exactly its length is taken off the
  count. -/
  frees : ∀ n ∈ out, ∃ w', perform (memFree (.script i) n) w = (.ok (), w') ∧
    (w'.runtime i).allocated = (w.runtime i).allocated - n
  /-- So it is when a string is released that fills one. -/
  releases : ∀ bytes : Bytes, bytes.length ∈ out → ∃ w',
    perform (releaseVariant (.script i) (.string bytes)) w = (.ok (), w') ∧
      (w'.runtime i).allocated = (w.runtime i).allocated - bytes.length

/-- In every state of an honest history the budget is kept, and the count needs
no correction. -/
theorem Deals.budgeted (h₀ : Begins i w₀) (h : Deals i w₀ w out) :
    Budgeted i (w₀.runtime i).config.maxAlloc w out := by
  have htracks := h.tracks h₀
  have hfrees (n : Nat) (hn : n ∈ out) : ∃ w', perform (memFree (.script i) n) w = (.ok (), w') ∧
      (w'.runtime i).allocated = (w.runtime i).allocated - n := by
    obtain ⟨before, after, rfl⟩ := List.append_of_mem hn
    obtain ⟨w', hrun, hafter⟩ := htracks.memFree
    refine ⟨w', hrun, ?_⟩
    rw [hafter.allocated_eq, htracks.allocated_eq]
    simp only [List.sum_append, List.sum_cons]
    omega
  exact {
    budget := htracks.maxAlloc_eq
    count := htracks.allocated_eq
    within := htracks.within
    grants := fun size => by
      obtain ⟨w', hrun, _⟩ := htracks.memAlloc size
      exact ⟨w', hrun⟩
    frees := hfrees
    releases := fun bytes hmem => hfrees bytes.length hmem }

/-- A runtime with a budget of five bytes gives out three, and has no room for
three more. When a string that fills the buffer was released, it gives out all
five, and not one more. -/
theorem budgeted_five : ∃ w₀ w : World Unit, Begins 0 w₀ ∧ Deals 0 w₀ w [5] ∧ Budgeted 0 5 w [5] ∧
    ∃ w', perform (memAlloc (.script 0) 1) w = (.ok false, w') := by
  obtain ⟨w₀, hbegins, hbudget⟩ : ∃ w₀ : World Unit, Begins 0 w₀ ∧
      (w₀.runtime 0).config.maxAlloc = 5 :=
    ⟨_, .cleared (w := tightWorld) (by decide)
      ((perform_bind_ok rfl _).trans (perform_start_eq 0 _)), rfl⟩
  have hstart : Tracks 0 5 w₀ [] := hbudget ▸ hbegins.tracks
  obtain ⟨w₁, hgiven, htracks₁⟩ := hstart.memAlloc 3
  obtain ⟨w₂, hrefused, htracks₂⟩ := htracks₁.memAlloc 3
  have hfilled : Tracks 0 5 w₂ ([] ++ ([97, 98, 99] : Bytes).length :: []) := htracks₂
  obtain ⟨w₃, hreleased, htracks₃⟩ := hfilled.releaseVariant
  obtain ⟨w₄, hall, -⟩ := htracks₃.memAlloc 5
  have hout : Deals 0 w₀ w₂ ([] ++ ([97, 98, 99] : Bytes).length :: []) :=
    (Deals.start.given hgiven).refused hrefused
  have hdeals : Deals 0 w₀ w₄ [5] := (hout.released hreleased).given hall
  have hbudgeted : Budgeted 0 5 w₄ [5] := hbudget ▸ hdeals.budgeted hbegins
  exact ⟨w₀, w₄, hbegins, hdeals, hbudgeted, hbudgeted.grants 1⟩

end Runtime

end ObjectBridge

import Mathlib

/-!
# `ObjectBridge.Proofs.Data.Trail`: following numbers from one to the next

Prototypes, scopes and bases are followed from one number to the next, and a
bound keeps this from running in a circle for ever. `trail` is the list of
the numbers that are visited.

When only numbers below `n` lead anywhere, `n + 1` steps show everything: all
that comes later was there before (`trail_settles`). A search along the trail
then has its answer whatever the bound is (`findSome?_of_repeats`).
-/

set_option autoImplicit false

namespace ObjectBridge

variable {α : Type} {next : Nat → Option Nat} {n : Nat}

/-- The numbers on the way from `o`, at most `fuel` of them. -/
def trail (next : Nat → Option Nat) : (fuel : Nat) → Option Nat → List Nat
  | 0, _ => []
  | _ + 1, none => []
  | fuel + 1, some o => o :: trail next fuel (next o)

/-- From nowhere the trail leads nowhere. -/
@[simp] theorem trail_none (fuel : Nat) : trail next fuel none = [] := by
  cases fuel <;> rfl

/-- A longer trail goes on where the shorter one stops. -/
theorem exists_trail_append (fuel more : Nat) (o : Option Nat) :
    ∃ rest, trail next (fuel + more) o = trail next fuel o ++ rest := by
  induction fuel generalizing o with
  | zero => exact ⟨_, rfl⟩
  | succ fuel ih =>
    cases o with
    | none => exact ⟨[], by simp⟩
    | some x =>
      obtain ⟨rest, h⟩ := ih (next x)
      refine ⟨rest, ?_⟩
      rw [Nat.add_right_comm, trail, h]
      rfl

/-- Who leads only to members of a list never leaves it. -/
theorem trail_subset_of_closed {seen : List Nat}
    (hclosed : ∀ v ∈ seen, ∀ u, next v = some u → u ∈ seen) (fuel : Nat) {x : Nat} (hx : x ∈ seen) :
    trail next fuel (some x) ⊆ seen := by
  induction fuel generalizing x with
  | zero => exact List.nil_subset _
  | succ fuel ih =>
    refine List.cons_subset.mpr ⟨hx, ?_⟩
    cases hnext : next x with
    | none => simp
    | some u => exact ih (hclosed x hx u hnext)

variable (hnext : ∀ o, n ≤ o → next o = none)

include hnext

/-- While there are numbers that were not visited yet, some may be new. The
list `seen` holds those that were, and all but the last lead to members. -/
theorem trail_subset_of_seen (fuel more : Nat) (o : Option Nat) {seen : List Nat}
    (hnodup : seen.Nodup) (hlt : ∀ v ∈ seen, v < n)
    (hclosed : ∀ v ∈ seen, ∀ u, next v = some u → u ∈ seen ∨ o = some u)
    (hfuel : n < seen.length + fuel) : trail next (fuel + more) o ⊆ seen ++ trail next fuel o := by
  induction fuel generalizing o seen with
  | zero =>
    -- There are no more than `n` numbers to be seen.
    have hsub : seen ⊆ List.range n := fun v hv => List.mem_range.mpr (hlt v hv)
    have hle := (hnodup.subperm hsub).length_le
    rw [List.length_range] at hle
    omega
  | succ fuel ih =>
    cases o with
    | none => simp
    | some x =>
      rw [Nat.add_right_comm]
      by_cases hx : x ∈ seen
      · -- The trail has come back, and runs in a circle from here on.
        refine List.Subset.trans (trail_subset_of_closed (fun v hv u hu => ?_) _ hx)
          (List.subset_append_left _ _)
        obtain hmem | hmem := hclosed v hv u hu
        · exact hmem
        · exact Option.some.inj hmem ▸ hx
      · rw [trail, trail]
        refine List.cons_subset.mpr ⟨by simp, ?_⟩
        by_cases hin : x < n
        · have hrest := ih (next x) (List.nodup_cons.mpr ⟨hx, hnodup⟩)
            (List.forall_mem_cons.mpr ⟨hin, hlt⟩) (fun v hv u hu => ?_)
            (by rw [List.length_cons]; omega)
          · refine List.Subset.trans hrest fun v hv => ?_
            simp only [List.cons_append, List.mem_cons, List.mem_append] at hv ⊢
            tauto
          · obtain rfl | hv := List.mem_cons.mp hv
            · exact .inr hu
            · obtain hmem | hmem := hclosed v hv u hu
              · exact .inl (List.mem_cons_of_mem _ hmem)
              · exact .inl (Option.some.inj hmem ▸ List.mem_cons_self)
        · rw [hnext x (Nat.not_lt.mp hin)]
          simp

/-- After `n + 1` steps nothing new is visited. -/
theorem trail_settles {fuel : Nat} (hfuel : n < fuel) (o : Option Nat) :
    ∃ rest, trail next fuel o = trail next (n + 1) o ++ rest ∧ rest ⊆ trail next (n + 1) o := by
  obtain ⟨more, rfl⟩ := Nat.exists_eq_add_of_le hfuel
  obtain ⟨rest, h⟩ : ∃ rest, trail next (n + 1 + more) o = trail next (n + 1) o ++ rest :=
    exists_trail_append _ _ _
  have hsub := trail_subset_of_seen hnext (n + 1) more o List.nodup_nil (by simp)
      (by simp) (by simp)
  rw [h] at hsub
  exact ⟨rest, h, fun v hv => hsub (List.mem_append_right _ hv)⟩

omit hnext

/-- What follows a list and repeats it has no other answers. -/
theorem findSome?_of_repeats {l rest : List Nat} (h : rest ⊆ l) (f : Nat → Option α) :
    (l ++ rest).findSome? f = l.findSome? f := by
  rw [List.findSome?_append]
  cases hl : l.findSome? f with
  | some x => rfl
  | none =>
    rw [List.findSome?_eq_none_iff] at hl
    exact List.findSome?_eq_none_iff.mpr fun x hx => hl x (h hx)

/-- A trail elsewhere, when every step is taken there, too. -/
theorem trail_map {next' : Nat → Option Nat} {place : Nat → Nat}
    (h : ∀ o, next' (place o) = (next o).map place) (fuel : Nat) (o : Option Nat) :
    trail next' fuel (o.map place) = (trail next fuel o).map place := by
  induction fuel generalizing o with
  | zero => rfl
  | succ fuel ih =>
    cases o with
    | none => rfl
    | some x =>
      rw [Option.map_some, trail, trail, h, ih]
      rfl

end ObjectBridge

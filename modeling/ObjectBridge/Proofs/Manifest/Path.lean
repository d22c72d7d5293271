import Mathlib
import ObjectBridge.Manifest.Path

/-!
# `ObjectBridge.Proofs.Manifest.Path`: paths and the names they consist of

A dotted path is a text; what it stands for is the list of names between
the dots (`names`). Names are non-empty and hold no dot (`IsName`), and
for such names the text and the list determine each other step by step:

* `names_join`: going down one level appends one name;
* `parent_join`: going up again gives back the path;
* `join_inj`: a path and a name are found in the path below.

Going up works for some other names as well, and `exists_clear_iff` says for
which.
-/

set_option autoImplicit false

namespace ObjectBridge.Path

/-- A text that can stand between dots. -/
structure IsName (name : Bytes) : Prop where
  ne_nil : name ≠ []
  no_dot : dot ∉ name

/-- A name is a text that is not empty and has no dot. -/
theorem isName_iff (name : Bytes) : IsName name ↔ name ≠ [] ∧ dot ∉ name :=
  ⟨fun h => ⟨h.ne_nil, h.no_dot⟩, fun h => ⟨h.1, h.2⟩⟩

/-- The names that lead to a path from the root. -/
def names (path : Bytes) : List Bytes := if path = [] then [] else path.splitOn dot

/-- The empty path has no names. -/
@[simp] theorem names_nil : names [] = [] := rfl

/-- At the root a name is its own path. -/
@[simp] theorem join_nil (name : Bytes) : join [] name = name := rfl

/-- A path that ends in a name is not empty. -/
theorem join_ne_nil (p : Bytes) {name : Bytes} (h : name ≠ []) : join p name ≠ [] := by
  unfold join
  split
  · exact h
  · simp

/-- Going down one level appends one name. -/
theorem names_join (p : Bytes) {name : Bytes} (h : IsName name) :
    names (join p name) = names p ++ [name] := by
  rw [names, if_neg (join_ne_nil p h.ne_nil)]
  by_cases hp : p = []
  · rw [hp, join_nil, List.splitOn_eq_singleton h.no_dot]
    rfl
  · rw [join, if_neg hp, names, if_neg hp, List.splitOn_append_cons_self,
      List.splitOn_eq_singleton h.no_dot]

/-- A text without a dot lies below the root. -/
theorem parent_of_no_dot {name : Bytes} (h : dot ∉ name) : parent name = [] := by
  have hname : ∀ b ∈ name.reverse, decide (b ≠ dot) = true := fun b hb =>
    decide_eq_true fun heq => h (heq ▸ List.mem_reverse.mp hb)
  have hall : name.reverse.dropWhile (· ≠ dot) = [] := by
    rw [← List.append_nil name.reverse, List.dropWhile_append_of_pos hname, List.dropWhile_nil]
  unfold parent
  rw [hall]
  rfl

/-- What stands before the last dot. -/
theorem parent_append_cons (p : Bytes) {name : Bytes} (h : dot ∉ name) :
    parent (p ++ dot :: name) = p := by
  -- Read backwards, the last name is all that stands before the first dot.
  have hname : ∀ b ∈ name.reverse, decide (b ≠ dot) = true := fun b hb =>
    decide_eq_true fun heq => h (heq ▸ List.mem_reverse.mp hb)
  unfold parent
  rw [List.reverse_append, List.reverse_cons, List.append_assoc, List.dropWhile_append_of_pos hname]
  simp

/-- The path above the path of a name. -/
theorem parent_join (p : Bytes) {name : Bytes} (h : dot ∉ name) : parent (join p name) = p := by
  unfold join
  split
  next hp => rw [parent_of_no_dot h, hp]
  next => exact parent_append_cons p h

/-- The parent of a path is shorter. -/
theorem parent_length_lt {p : Bytes} (h : p ≠ []) : (parent p).length < p.length := by
  unfold parent
  have hdrop := (List.dropWhile_suffix (l := p.reverse) fun b => decide (b ≠ dot)).length_le
  have hpos := List.length_pos_of_ne_nil h
  rw [List.length_reverse] at hdrop
  rw [List.length_reverse, List.length_drop]
  omega

/-- A path and a name are found in the path below. -/
theorem join_inj {p q a b : Bytes} (ha : dot ∉ a) (hb : dot ∉ b) :
    join p a = join q b ↔ p = q ∧ a = b := by
  constructor
  · intro h
    have hp : p = q := by rw [← parent_join p ha, h, parent_join q hb]
    subst hp
    refine ⟨rfl, ?_⟩
    unfold join at h
    split at h
    · exact h
    · exact (List.cons_inj_right dot).mp (List.append_cancel_left h)
  · rintro ⟨rfl, rfl⟩
    rfl

/-- Different names lead to paths of which none is above the other. -/
theorem name_eq_of_names_prefix {p a b path : Bytes} (ha : names p ++ [a] <+: names path)
    (hb : names p ++ [b] <+: names path) : a = b := by
  have h := List.IsPrefix.eq_of_length (List.prefix_of_prefix_length_le ha hb (by simp)) (by simp)
  simpa using h

/-! ### Paths that can be cut -/

/-- Below the path `p` a name leads to a path that is cut back to `p`. At
the root, whose path is empty, a name may begin with a dot, as long as that
is its only one. -/
def Clear (p name : Bytes) : Prop := if p = [] then name ≠ [] ∧ dot ∉ name.tail else dot ∉ name

/-- A name leaves the path above it in the clear. -/
theorem clear_of_isName (p : Bytes) {name : Bytes} (h : IsName name) : Clear p name := by
  unfold Clear
  split
  · exact ⟨h.ne_nil, fun hmem => h.no_dot (List.mem_of_mem_tail hmem)⟩
  · exact h.no_dot

/-- A text has no dot, or a last one. -/
theorem eq_or_exists_last (q : Bytes) : dot ∉ q ∨ ∃ p name, q = p ++ dot :: name ∧ dot ∉ name := by
  induction q with
  | nil => exact .inl (by simp)
  | cons b q ih =>
    rcases ih with hnone | ⟨p, name, rfl, hname⟩
    · by_cases hb : b = dot
      · exact .inr ⟨[], q, by rw [hb]; rfl, hnone⟩
      · refine .inl fun hmem => ?_
        rcases List.mem_cons.mp hmem with hdot | hmem
        · exact hb hdot.symm
        · exact hnone hmem
    · exact .inr ⟨b :: p, name, rfl, hname⟩

/-- The paths of clear names below `p` are those that are not empty and are
cut back to `p`. -/
theorem exists_clear_iff {p q : Bytes} :
    (∃ name, q = join p name ∧ Clear p name) ↔ q ≠ [] ∧ parent q = p := by
  constructor
  · rintro ⟨name, rfl, hclear⟩
    unfold Clear at hclear
    -- At the root the name may begin with the dot at which the path is cut.
    by_cases hp : p = []
    · subst hp
      rw [if_pos rfl] at hclear
      obtain ⟨hne, htail⟩ := hclear
      obtain ⟨b, name, rfl⟩ := List.exists_cons_of_ne_nil hne
      refine ⟨hne, ?_⟩
      by_cases hb : b = dot
      · rw [hb]
        exact parent_append_cons [] htail
      · refine parent_join [] fun hmem => ?_
        rcases List.mem_cons.mp hmem with hdot | hmem
        · exact hb hdot.symm
        · exact htail hmem
    · rw [if_neg hp] at hclear
      refine ⟨?_, parent_join p hclear⟩
      rw [join, if_neg hp]
      simp
  · rintro ⟨hne, rfl⟩
    rcases eq_or_exists_last q with hnone | ⟨p, name, rfl, hname⟩
    · rw [parent_of_no_dot hnone]
      exact ⟨q, rfl, hne, fun hmem => hnone (List.mem_of_mem_tail hmem)⟩
    · rw [parent_append_cons p hname]
      by_cases hp : p = []
      · subst hp
        exact ⟨dot :: name, rfl, hne, hname⟩
      · refine ⟨name, by rw [join, if_neg hp], ?_⟩
        rwa [Clear, if_neg hp]

end ObjectBridge.Path

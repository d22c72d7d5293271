import Mathlib
import ObjectBridge.Data.Dict

/-!
# `ObjectBridge.Proofs.Data.Dict`: dictionaries as finite maps

A dictionary is a list in its representation and a finite map in its
use. This module has the laws of the map:

* `find?_insert`: storing changes the value of one key;
* `mem_entries_iff`: the list holds exactly the pairs that are found;
* `mem_keys_iff` and `nodup_keys`: the keys are those that are found,
  each once;
* `ext_find?`: a dictionary is determined by what is found in it.

All but the first need the ascending order, which every dictionary carries.
-/

set_option autoImplicit false

namespace ObjectBridge.Dict

variable {κ α : Type} [LT κ] [DecidableLT κ] [DecidableEq κ]

omit [DecidableLT κ] in
/-- Nothing is found in an empty dictionary. -/
@[simp] theorem find?_empty (k : κ) : ({} : Dict κ α).find? k = none := rfl

/-! ### Storing -/

/-- After a pair was put in its place, its key has its value and every
other key the value it had. Holds of any list: the pair is put before the
first entry it could be hidden by. -/
theorem lookup_insertSorted (k : κ) (v : α) (j : κ) (l : List (κ × α)) :
    (insertSorted k v l).lookup j = if j = k then some v else l.lookup j := by
  induction l with
  | nil =>
    by_cases hj : j = k
    · simp [insertSorted, hj]
    · simp [insertSorted, hj, List.lookup_cons, beq_eq_false_iff_ne.mpr hj]
  | cons e rest ih =>
    obtain ⟨k', v'⟩ := e
    simp only [insertSorted]
    -- The pair replaces one of its key, stands before a greater one, or goes further down.
    by_cases hk : k = k'
    · subst hk
      by_cases hj : j = k
      · simp [hj]
      · simp [hj, List.lookup_cons, beq_eq_false_iff_ne.mpr hj]
    · rw [if_neg hk]
      by_cases hlt : k < k'
      · rw [if_pos hlt]
        by_cases hj : j = k
        · simp [hj]
        · rw [if_neg hj, List.lookup_cons, beq_eq_false_iff_ne.mpr hj]
      · rw [if_neg hlt, List.lookup_cons, List.lookup_cons, ih]
        by_cases hj : j = k
        · simp [hj, beq_eq_false_iff_ne.mpr hk]
        · simp [hj]

section

variable [LE κ] [Std.IsLinearOrder κ] [Std.LawfulOrderLT κ]

/-- Storing changes the value of one key. -/
theorem find?_insert (d : Dict κ α) (k : κ) (v : α) (j : κ) :
    (d.insert k v).find? j = if j = k then some v else d.find? j :=
  lookup_insertSorted k v j d.entries

/-- What is inserted is found. -/
@[simp] theorem find?_insert_self (d : Dict κ α) (k : κ) (v : α) :
    (d.insert k v).find? k = some v := by
  rw [find?_insert, if_pos rfl]

/-- What is found after pairs were stored is one of them, or was there
before. -/
theorem mem_or_find?_of_foldl {pairs : List (κ × α)} {d : Dict κ α} {k : κ} {v : α}
    (h : (pairs.foldl (fun d e => d.insert e.1 e.2) d).find? k = some v) :
    (k, v) ∈ pairs ∨ d.find? k = some v := by
  induction pairs generalizing d with
  | nil => exact .inr h
  | cons e rest ih =>
    rcases ih h with hrest | hinsert
    · exact .inl (List.mem_cons_of_mem e hrest)
    · rw [find?_insert] at hinsert
      split at hinsert
      · cases hinsert
        subst k
        exact .inl List.mem_cons_self
      · exact .inr hinsert

/-- What is found was among the pairs. -/
theorem mem_of_find?_ofList {pairs : List (κ × α)} {k : κ} {v : α}
    (h : (ofList pairs).find? k = some v) :
    (k, v) ∈ pairs :=
  (mem_or_find?_of_foldl h).resolve_right (by simp)

/-! ### The pairs and what is found -/

omit [DecidableLT κ] [Std.IsLinearOrder κ] in
/-- In an ascending list, the first entry with a key is the only one. -/
theorem mem_iff_lookup {l : List (κ × α)} (h : l.Pairwise (fun a b => a.1 < b.1)) (k : κ) (v : α) :
    (k, v) ∈ l ↔ l.lookup k = some v := by
  induction l with
  | nil => simp
  | cons e rest ih =>
    obtain ⟨k', v'⟩ := e
    obtain ⟨hhead, htail⟩ := List.pairwise_cons.mp h
    rw [List.mem_cons, List.lookup_cons, ih htail]
    by_cases hk : k = k'
    · subst hk
      -- A later entry with this key would have to be above itself.
      have hnone : rest.lookup k ≠ some v := fun hv =>
        absurd (hhead (k, v) ((ih htail).mpr hv)) Std.lt_irrefl
      simp [hnone, eq_comm]
    · simp [hk, beq_eq_false_iff_ne.mpr hk]

omit [DecidableLT κ] [Std.IsLinearOrder κ] in
/-- The entries are what can be found. -/
theorem mem_entries_iff (d : Dict κ α) (k : κ) (v : α) : (k, v) ∈ d.entries ↔ d.find? k = some v :=
  mem_iff_lookup d.ascending k v

omit [DecidableLT κ] [Std.IsLinearOrder κ] in
/-- The keys are those under which something is found. -/
theorem mem_keys_iff (d : Dict κ α) (k : κ) : k ∈ d.keys ↔ ∃ v, d.find? k = some v := by
  simp only [keys, List.mem_map, Prod.exists, mem_entries_iff]
  constructor
  · rintro ⟨_, v, hv, rfl⟩
    exact ⟨v, hv⟩
  · rintro ⟨v, hv⟩
    exact ⟨k, v, hv, rfl⟩

omit [DecidableLT κ] in
/-- A dictionary is determined by what is found in it. -/
theorem ext_find? {d d' : Dict κ α} (h : ∀ k, d.find? k = d'.find? k) : d = d' := by
  have : Std.Irrefl fun a b : κ × α => a.1 < b.1 := ⟨fun _ => Std.lt_irrefl⟩
  have : Std.Antisymm fun a b : κ × α => a.1 < b.1 :=
    ⟨fun _ _ hab hba => absurd (Std.lt_trans hab hba) Std.lt_irrefl⟩
  have hentries : d.entries = d'.entries := by
    refine List.Pairwise.eq_of_mem_iff d.ascending d'.ascending fun e => ?_
    obtain ⟨k, v⟩ := e
    rw [mem_entries_iff, mem_entries_iff, h]
  cases d
  cases d'
  cases hentries
  rfl

omit [DecidableLT κ] [Std.IsLinearOrder κ] in
/-- What is found and passes the test is still found. -/
theorem find?_filter (d : Dict κ α) (keep : κ × α → Bool) (k : κ) :
    (d.filter keep).find? k = (d.find? k).filter fun v => keep (k, v) := by
  refine Option.ext fun v => ?_
  rw [← mem_entries_iff, Option.filter_eq_some_iff, ← mem_entries_iff]
  exact List.mem_filter

omit [DecidableLT κ] [Std.IsLinearOrder κ] in
/-- Forgetting a key changes the value of no other one. -/
theorem find?_erase (d : Dict κ α) (k j : κ) :
    (d.erase k).find? j = if j = k then none else d.find? j := by
  rw [erase, find?_filter]
  by_cases hj : j = k <;> cases d.find? j <;> simp [hj]

/-- An alteration touches one key. -/
theorem find?_alter (d : Dict κ α) (k : κ) (f : Option α → α) (j : κ) :
    (d.alter k f).find? j = if j = k then some (f (d.find? k)) else d.find? j :=
  find?_insert d k _ j

/-- A value stored under a key takes the place of the one that was there,
in any sum over the entries. -/
theorem sum_insert (d : Dict κ α) (k : κ) (v : α) (f : κ → α → Int) :
    ((d.insert k v).entries.map fun e => f e.1 e.2).sum + ((d.find? k).toList.map (f k)).sum =
      (d.entries.map fun e => f e.1 e.2).sum + f k v := by
  obtain ⟨entries, ascending⟩ := d
  simp only [insert, find?]
  induction entries with
  | nil => simp [insertSorted]
  | cons e rest ih =>
    obtain ⟨k', v'⟩ := e
    obtain ⟨hhead, htail⟩ := List.pairwise_cons.mp ascending
    have ih := ih htail
    simp only [insertSorted, List.lookup_cons]
    by_cases hk : k = k'
    · simp only [hk, if_true, beq_self_eq_true, List.map_cons, List.sum_cons, Option.toList_some,
        List.map_nil, List.sum_nil]
      omega
    · rw [if_neg hk, beq_eq_false_iff_ne.mpr hk]
      by_cases hlt : k < k'
      · -- The keys behind it are larger still, so the key is new.
        have hnone : rest.lookup k = none := by
          cases hfind : rest.lookup k with
          | none => rfl
          | some x =>
            have hmem := (mem_iff_lookup htail k x).mpr hfind
            exact absurd (Std.lt_trans hlt (hhead (k, x) hmem)) Std.lt_irrefl
        rw [if_pos hlt, hnone]
        simp only [List.map_cons, List.sum_cons, Option.toList_none, List.map_nil, List.sum_nil]
        omega
      · rw [if_neg hlt]
        simp only [List.map_cons, List.sum_cons]
        omega

end

omit [DecidableLT κ] [DecidableEq κ] in
/-- The keys are listed in strictly ascending order. -/
theorem pairwise_keys (d : Dict κ α) : d.keys.Pairwise (· < ·) :=
  List.pairwise_map.mpr d.ascending

omit [DecidableLT κ] [DecidableEq κ] in
/-- Each key is listed once. -/
theorem nodup_keys [LE κ] [Std.LawfulOrderLT κ] (d : Dict κ α) : d.keys.Nodup := by
  refine d.pairwise_keys.imp fun {a b} hlt heq => ?_
  subst heq
  exact Std.lt_irrefl hlt

end ObjectBridge.Dict

/-!
# `ObjectBridge.Data.Dict`: dictionaries in key order

A dictionary is a list of key and value pairs in strictly ascending key
order. Whatever the program lists (members of a class, children of a
node, timings, metric labels) it lists by key, so the order is part of
the representation and not of each listing: a dictionary carries the
proof that its keys ascend, and so holds no key twice.
-/

set_option autoImplicit false

namespace ObjectBridge

/-- Key and value pairs in ascending key order. -/
structure Dict (κ : Type) (α : Type) [LT κ] where
  entries : List (κ × α)
  ascending : entries.Pairwise (fun a b => a.1 < b.1)
  deriving Repr

namespace Dict

variable {κ α β : Type} [LT κ] [DecidableLT κ] [DecidableEq κ]

omit [DecidableLT κ] [DecidableEq κ] in
/-- Nothing is stored. -/
def empty : Dict κ α := { entries := [], ascending := .nil }

instance : EmptyCollection (Dict κ α) := ⟨empty⟩

instance : Inhabited (Dict κ α) := ⟨{}⟩

/-! ### Storing -/

/-- Puts a pair in its place in an ascending list, replacing the pair
with the same key. -/
def insertSorted (k : κ) (v : α) : List (κ × α) → List (κ × α)
  | [] => [(k, v)]
  | (k', v') :: rest =>
    if k = k' then (k, v) :: rest
    else if k < k' then (k, v) :: (k', v') :: rest
    else (k', v') :: insertSorted k v rest

/-- A pair of the new list is the one put in place, or was there. -/
theorem mem_insertSorted {k : κ} {v : α} {l : List (κ × α)} {e : κ × α}
    (h : e ∈ insertSorted k v l) :
    e = (k, v) ∨ e ∈ l := by
  induction l with
  | nil => exact .inl (List.mem_singleton.mp h)
  | cons e' rest ih =>
    simp only [insertSorted] at h
    split at h
    · exact (List.mem_cons.mp h).imp_right (List.mem_cons_of_mem _)
    · split at h
      · exact List.mem_cons.mp h
      · rcases List.mem_cons.mp h with h | h
        · exact .inr (h ▸ List.mem_cons_self)
        · exact (ih h).imp_right (List.mem_cons_of_mem _)

section

variable [LE κ] [Std.IsLinearOrder κ] [Std.LawfulOrderLT κ]

/-- Putting a pair in its place keeps the keys ascending. -/
theorem ascending_insertSorted (k : κ) (v : α) {l : List (κ × α)}
    (h : l.Pairwise (fun a b => a.1 < b.1)) :
    (insertSorted k v l).Pairwise (fun a b => a.1 < b.1) := by
  induction l with
  | nil => exact List.pairwise_singleton _ _
  | cons e rest ih =>
    obtain ⟨hhead, htail⟩ := List.pairwise_cons.mp h
    simp only [insertSorted]
    split
    next heq => exact List.pairwise_cons.mpr ⟨fun b hb => heq ▸ hhead b hb, htail⟩
    next hne =>
      split
      next hlt =>
        refine List.pairwise_cons.mpr ⟨fun b hb => ?_, h⟩
        rcases List.mem_cons.mp hb with rfl | hb
        · exact hlt
        · exact Std.lt_trans hlt (hhead b hb)
      next hnlt =>
        have hlt : e.1 < k := Std.lt_of_le_of_ne (Std.not_lt.mp hnlt) (Ne.symm hne)
        refine List.pairwise_cons.mpr ⟨fun b hb => ?_, ih htail⟩
        rcases mem_insertSorted hb with rfl | hb
        · exact hlt
        · exact hhead b hb

/-- Stores a value under a key. -/
def insert (d : Dict κ α) (k : κ) (v : α) : Dict κ α :=
  { entries := insertSorted k v d.entries, ascending := ascending_insertSorted k v d.ascending }

end

/-! ### Reading -/

/-- The value stored under a key. -/
def find? (d : Dict κ α) (k : κ) : Option α := d.entries.lookup k

/-- Is anything stored under the key? -/
def contains (d : Dict κ α) (k : κ) : Bool := (d.find? k).isSome

omit [DecidableLT κ] [DecidableEq κ] in
/-- Keeps the pairs that pass a test. -/
def filter (keep : κ × α → Bool) (d : Dict κ α) : Dict κ α :=
  { entries := d.entries.filter keep, ascending := d.ascending.filter keep }

/-- Forgets a key. -/
def erase (d : Dict κ α) (k : κ) : Dict κ α := d.filter fun e => e.1 ≠ k

omit [DecidableLT κ] [DecidableEq κ] in
/-- The keys, ascending. -/
def keys (d : Dict κ α) : List κ := d.entries.map Prod.fst

omit [DecidableLT κ] [DecidableEq κ] in
/-- The number of keys. -/
def size (d : Dict κ α) : Nat := d.entries.length

section

variable [LE κ] [Std.IsLinearOrder κ] [Std.LawfulOrderLT κ]

/-- Stores a value computed from the one stored so far. -/
def alter (d : Dict κ α) (k : κ) (f : Option α → α) : Dict κ α := d.insert k (f (d.find? k))

/-- Stores all pairs of a list, later ones winning. -/
def ofList (pairs : List (κ × α)) : Dict κ α :=
  pairs.foldl (fun d e => d.insert e.1 e.2) {}

end

omit [DecidableLT κ] [DecidableEq κ] in
/-- The same keys with other values. -/
def map (f : α → β) (d : Dict κ α) : Dict κ β :=
  { entries := d.entries.map fun e => (e.1, f e.2), ascending := List.pairwise_map.mpr d.ascending }

end Dict

end ObjectBridge

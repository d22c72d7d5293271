import ObjectBridge.Proofs.Data.Trail
import ObjectBridge.Proofs.Script.Relocation

/-!
# `ObjectBridge.Proofs.Script.Moved`: heaps that hold the same elsewhere

`h.Moved ρ p q h'` says that everything in the heap `h` stands in `h'` as
well, relocated, and that what is made next in both comes to stand at places
that belong together. There may be more in `h'`. Nothing in `h` leads to it,
so whoever starts at what was relocated does not come across it.

Reading the one heap gives what reading the other one gives, relocated.
Prototypes and scopes are followed for as many steps as there are objects or
scopes, which is further in the larger heap; but no search needs more steps
than there are objects in the smaller one (`trail_settles`). Changing both
heaps in the same way keeps them alike, so a realm made in one is the realm
made in the other (`Moved.newRealm`).

The value of the program that runs and the effort made so far are compared
only when something is known of them (`p` and `q`).
-/

set_option autoImplicit false

namespace ObjectBridge

/-! ### Places -/

/-- Everything in `xs` stands in `ys`, moved, and what is added to both next
comes to stand at places that belong together. -/
structure Placed {ι κ : Type} (place : Nat ↪ Nat) (move : ι → κ) (xs : Array ι)
    (ys : Array κ) : Prop where
  get : ∀ i, ys[place i]? = xs[i]?.map move
  next : ∀ k, place (xs.size + k) = ys.size + k

namespace Placed

variable {ι κ : Type} {place : Nat ↪ Nat} {move : ι → κ} {xs : Array ι} {ys : Array κ}

/-- The next place. -/
theorem size (h : Placed place move xs ys) : place xs.size = ys.size := h.next 0

/-- Nothing beyond the end of one array is inside the other one. -/
theorem lt_iff (h : Placed place move xs ys) {i : Nat} : place i < ys.size ↔ i < xs.size := by
  rw [← not_iff_not, Nat.not_lt, Nat.not_lt, ← Array.getElem?_eq_none_iff, h.get,
    Option.map_eq_none_iff, Array.getElem?_eq_none_iff]

/-- There is at least as much room in the second array. -/
theorem size_le (h : Placed place move xs ys) : xs.size ≤ ys.size := by
  have hcard := Finset.card_le_card_of_injOn (s := Finset.range xs.size)
    (t := Finset.range ys.size) place (fun i hi => Finset.mem_coe.mpr (Finset.mem_range.mpr
      (h.lt_iff.mpr (Finset.mem_range.mp (Finset.mem_coe.mp hi))))) place.injective.injOn
  rwa [Finset.card_range, Finset.card_range] at hcard

/-- What is missing is missing in both. -/
theorem getD (h : Placed place move xs ys) (i : Nat) (x : ι) :
    ys.getD (place i) (move x) = move (xs.getD i x) := by
  rw [Array.getD_eq_getD_getElem?, Array.getD_eq_getD_getElem?, h.get]
  cases xs[i]? <;> rfl

/-- What is added next is at its place, too. -/
theorem push (h : Placed place move xs ys) (x : ι) :
    Placed place move (xs.push x) (ys.push (move x)) where
  get i := by
    simp only [Array.getElem?_push, ← h.size, place.apply_eq_iff_eq, h.get]
    split <;> rfl
  next k := by
    rw [Array.size_push, Array.size_push, Nat.add_assoc, Nat.add_assoc, h.next]

/-- So is a whole list. -/
theorem append (h : Placed place move xs ys) (l : List ι) :
    Placed place move (xs ++ l.toArray) (ys ++ (l.map move).toArray) := by
  induction l generalizing xs ys with
  | nil => simpa using h
  | cons x rest ih => simpa using ih (h.push x)

/-- An element is changed in both. -/
theorem modify (h : Placed place move xs ys) (i : Nat) {f : ι → ι} {g : κ → κ}
    (hfg : ∀ x, move (f x) = g (move x)) :
    Placed place move (xs.modify i f) (ys.modify (place i) g) where
  get j := by
    simp only [Array.getElem?_modify, place.apply_eq_iff_eq, h.get]
    split
    · cases xs[j]? <;> simp [hfg]
    · rfl
  next k := by
    rw [Array.size_modify, Array.size_modify, h.next]

/-! Trails that are followed in both for as long as there are elements. -/

section

variable {α γ : Type} {next next' : Nat → Option Nat} (h : Placed place move xs ys)
  (hnext : ∀ i, xs.size ≤ i → next i = none) (hstep : ∀ i, next' (place i) = (next i).map place)

include h hnext hstep

/-- The trail in the larger array may be longer, and repeats itself then. -/
theorem trail (o : Option Nat) : ∃ rest, ObjectBridge.trail next' (ys.size + 1) (o.map place) =
    (ObjectBridge.trail next (xs.size + 1) o ++ rest).map place ∧
      rest ⊆ ObjectBridge.trail next (xs.size + 1) o := by
  obtain ⟨rest, heq, hsub⟩ := trail_settles hnext (Nat.lt_succ_of_le h.size_le) o
  exact ⟨rest, by rw [trail_map hstep, heq], hsub⟩

/-- What is found first along a trail is the same, moved, when it is the same
at each place. -/
theorem findSome?_trail {f : Nat → Option α} {f' : Nat → Option γ} {g : α → γ}
    (hf : ∀ i, f' (place i) = (f i).map g) (o : Option Nat) :
    (ObjectBridge.trail next' (ys.size + 1) (o.map place)).findSome? f' =
      ((ObjectBridge.trail next (xs.size + 1) o).findSome? f).map g := by
  obtain ⟨rest, heq, hsub⟩ := h.trail hnext hstep o
  rw [heq, List.findSome?_map, ← findSome?_of_repeats hsub, List.map_findSome?]
  exact congrArg (List.findSome? · _) (funext hf)

end

end Placed

namespace Script

variable {ρ : Relocation} {p q : Prop} {h h' : Heap}

/-- An index is read off a key as before. -/
@[simp] theorem Key.toIndex?_relocate (key : Key) : (key.relocate ρ).toIndex? = key.toIndex? := by
  cases key <;> rfl

/-- Only symbols are symbols elsewhere. -/
@[simp] theorem Key.isSymbol_relocate (key : Key) : (key.relocate ρ).isSymbol = key.isSymbol := by
  cases key <;> rfl

/-- The object is not a table of the in-memory host in disguise. -/
def Obj.Bare (x : Obj) : Prop := ∀ realm i, x.kind ≠ .native realm (.table i)

/-- Everything in `h` stands in `h'`, too, and what is made next in both
belongs together. The values so far are the same if `p`, and the efforts if
`q`. -/
structure Heap.Moved (ρ : Relocation) (p q : Prop) (h h' : Heap) : Prop where
  objects : Placed ρ.objects (·.relocate ρ) h.objects h'.objects
  scopes : Placed ρ.scopes (·.relocate ρ) h.scopes h'.scopes
  symbols : ∀ k, ρ.symbols (h.symbols + k) = h'.symbols + k
  bare : ∀ x ∈ h.objects, x.Bare
  result : p → h'.result = h.result.relocate ρ
  effort : q → h'.effort = h.effort

namespace Heap

/-- What was found when it stands elsewhere. -/
def Found.relocate (ρ : Relocation) : Found → Found
  | .field f => .field (f.relocate ρ)
  | .native o => .native (ρ.objects o)
  | .none => .none

/-- Properties with their keys elsewhere. -/
def relocateEntries (ρ : Relocation) (es : List (Key × Field)) : List (Key × Field) :=
  es.map fun e => (e.1.relocate ρ, e.2.relocate ρ)

/-! ### Parts of objects -/

/-- The items of an array, with their indexes. -/
theorem items_relocate (items : Array (Option Field)) :
    (items.map (·.map (·.relocate ρ))).toList.zipIdx.filterMap
      (fun e => e.1.map fun f => (e.2, f)) =
      (items.toList.zipIdx.filterMap fun e => e.1.map fun f => (e.2, f)).map
        fun e => (e.1, e.2.relocate ρ) := by
  rw [Array.toList_map, List.zipIdx_map, List.filterMap_map, List.map_filterMap]
  refine List.filterMap_congr fun e _ => ?_
  obtain ⟨_ | f, i⟩ := e <;> rfl

/-- The properties that stand under indexes. -/
theorem numbered_relocate (es : List (Key × Field)) :
    (relocateEntries ρ es).filterMap (fun e => e.1.toIndex?.map fun i => (i, e.2)) =
      (es.filterMap fun e => e.1.toIndex?.map fun i => (i, e.2)).map fun e =>
  (e.1, e.2.relocate ρ) := by
  rw [relocateEntries, List.filterMap_map, List.map_filterMap]
  refine List.filterMap_congr fun e _ => ?_
  obtain ⟨key, f⟩ := e
  cases key <;> rfl

/-- The properties whose keys pass a test that takes no notice of places. -/
theorem filter_relocateEntries (test : Key → Bool)
    (htest : ∀ key : Key, test (key.relocate ρ) = test key) (es : List (Key × Field)) :
    (relocateEntries ρ es).filter (fun e => test e.1) =
      relocateEntries ρ (es.filter fun e => test e.1) := by
  rw [relocateEntries, List.filter_map]
  congr 2
  exact funext fun e => htest e.1

/-- So it is with those in an object. -/
theorem filter_relocateFields (test : Key → Bool)
    (htest : ∀ key : Key, test (key.relocate ρ) = test key) (fields : Array (Key × Field)) :
    (relocateFields ρ fields).filter (fun e => test e.1) =
      relocateFields ρ (fields.filter fun e => test e.1) := by
  rw [relocateFields, Array.filter_map]
  congr 2
  exact funext fun e => htest e.1

/-- Sorting by index. -/
theorem mergeSort_relocate (es : List (Nat × Field)) :
    (es.map fun e => (e.1, e.2.relocate ρ)).mergeSort (fun a b => a.1 ≤ b.1) =
      (es.mergeSort fun a b => a.1 ≤ b.1).map fun e => (e.1, e.2.relocate ρ) :=
  (List.map_mergeSort (r := fun a b => a.1 ≤ b.1) (s := fun a b => a.1 ≤ b.1)
    (f := fun e : Nat × Field => (e.1, e.2.relocate ρ)) fun _ _ _ _ => rfl).symm

/-! ### Searches along trails -/

/-- What a search for a property finds in one object, if it stops there. -/
def foundAt? (h : Heap) (key : Key) (o : ObjId) : Option Found :=
  match (h.obj o).kind, key with
  | .native _ _, .symbol _ => none
  | .native _ _, _ => some (.native o)
  | _, _ => (h.own? o key).map .field

/-- A search along the prototypes, by the trail of prototypes. -/
theorem findFrom_eq (h : Heap) (key : Key) (fuel : Nat) (o : Option ObjId) :
    h.findFrom key fuel o = ((trail (fun o => (h.obj o).proto) fuel o).findSome?
      (h.foundAt? key)).getD .none := by
  induction fuel generalizing o with
  | zero => rfl
  | succ fuel ih =>
    cases o with
    | none => rfl
    | some o =>
      rw [trail, List.findSome?_cons]
      unfold findFrom
      dsimp only
      rw [ih]
      generalize hlater : List.findSome? (h.foundAt? key) _ = later
      unfold foundAt?
      generalize h.own? o key = own
      cases (h.obj o).kind <;> cases key <;> cases own <;> rfl

/-- The names along a list of objects, each once. -/
def keysOver (h : Heap) : (seen : List Key) → List ObjId → List Key
  | _, [] => []
  | seen, o :: rest =>
    let fresh := (h.ownFields o).filter fun (k, _) => !k.isSymbol && k ∉ seen
    (fresh.filterMap fun (k, f) => if f.enumerable then some k else none)
      ++ keysOver h (fresh.map Prod.fst ++ seen) rest

/-- The keys of an object and its prototypes, by their trail. -/
theorem keysFrom_eq (h : Heap) (fuel : Nat) (seen : List Key) (o : Option ObjId) :
    h.keysFrom fuel seen o = h.keysOver seen (trail (fun o => (h.obj o).proto) fuel o) := by
  induction fuel generalizing seen o with
  | zero => rfl
  | succ fuel ih =>
    cases o with
    | none => rfl
    | some o => rw [keysFrom, trail, keysOver, ih]

/-- Every name of the object was seen. -/
def Seen (h : Heap) (seen : List Key) (o : ObjId) : Prop :=
  ∀ e ∈ h.ownFields o, e.1.isSymbol = false → e.1 ∈ seen

/-- Objects whose names were seen, or are going to be, add nothing. -/
theorem keysOver_append (h : Heap) {l rest : List ObjId} {seen : List Key}
    (hrest : ∀ o ∈ rest, o ∈ l ∨ h.Seen seen o) :
    h.keysOver seen (l ++ rest) = h.keysOver seen l := by
  induction l generalizing seen with
  | nil =>
    induction rest with
    | nil => rfl
    | cons o rest ih =>
      obtain hmem | hseen := hrest o List.mem_cons_self
      · cases hmem
      · have hfresh : ((h.ownFields o).filter fun (k, _) => !k.isSymbol && k ∉ seen) = [] := by
          refine List.filter_eq_nil_iff.mpr fun e he => ?_
          have hin := hseen e he
          cases hsymbol : e.1.isSymbol <;> simp_all
        rw [List.nil_append]
        unfold keysOver
        rw [hfresh]
        exact ih fun o ho => hrest o (List.mem_cons_of_mem _ ho)
  | cons x l ih =>
    rw [List.cons_append, keysOver, keysOver, ih fun o ho => ?_]
    have hstill (o : ObjId) (hseen : h.Seen seen o) (fresh : List Key) : h.Seen (fresh ++ seen) o :=
      fun e he hsymbol => List.mem_append_right _ (hseen e he hsymbol)
    obtain hmem | hseen := hrest o ho
    · obtain rfl | hmem := List.mem_cons.mp hmem
      · refine .inr fun e he hsymbol => ?_
        by_cases hin : e.1 ∈ seen
        · exact List.mem_append_right _ hin
        · refine List.mem_append_left _ (List.mem_map_of_mem (List.mem_filter.mpr ⟨he, ?_⟩))
          simp [hsymbol, hin]
      · exact .inl hmem
    · exact .inr (hstill o hseen _)

/-- Whether an object inherits from another one, by the trail. -/
theorem inherits_eq (h : Heap) (proto : ObjId) (fuel : Nat) (o : Option ObjId) :
    h.inherits proto fuel o = decide (proto ∈ trail (fun o => (h.obj o).proto) fuel o) := by
  induction fuel generalizing o with
  | zero => rfl
  | succ fuel ih =>
    cases o with
    | none => rfl
    | some o => rw [inherits, ih]; simp [trail, eq_comm]

/-- The function that an object is with its first arguments given. -/
def boundTo? (h : Heap) (o : ObjId) : Option ObjId :=
  match (h.obj o).kind with
  | .function (.bound f _ _) => some f
  | _ => none

/-- Is the object a function of a program? -/
def closure? (h : Heap) (o : ObjId) : Option Unit :=
  match (h.obj o).kind with
  | .function (.closure _ _) => some ()
  | _ => none

/-- Whether a function comes to code, by the trail of what functions are bound
to. -/
theorem hasCode_eq (h : Heap) (fuel : Nat) (o : ObjId) :
    h.hasCode fuel o = ((trail h.boundTo? fuel (some o)).findSome? h.closure?).isSome := by
  induction fuel generalizing o with
  | zero => rfl
  | succ fuel ih =>
    rw [hasCode, trail, List.findSome?_cons]
    unfold closure? boundTo?
    rcases (h.obj o).kind with _ | _ | (_ | _ | _ | _) | _ | _ | _ | _ <;> simp [ih]
    rfl

/-- The scope of a name, by the trail of scopes. -/
theorem scopeOf?_eq (h : Heap) (name : String) (fuel : Nat) (s : Option ScopeId) :
    h.scopeOf? name fuel s = (trail (fun s => (h.scopes.getD s {}).parent) fuel s).findSome?
      fun s =>
      (placeOf? name 0 (h.scopes.getD s {}).names).map (s, ·) := by
  induction fuel generalizing s with
  | zero => rfl
  | succ fuel ih =>
    cases s with
    | none => rfl
    | some s =>
      rw [scopeOf?, trail, List.findSome?_cons, ih]
      cases placeOf? name 0 (h.scopes.getD s {}).names <;> rfl

namespace Moved

/-! ### Reading -/

section

variable (hm : h.Moved ρ p q h')

include hm

/-- The next object comes to the place of the next one. -/
theorem size : h'.objects.size = ρ.objects h.objects.size := hm.objects.size.symm

/-- An object there is the object here, moved. -/
theorem obj (o : ObjId) : h'.obj (ρ.objects o) = (h.obj o).relocate ρ := by
  have hempty : ({} : Obj).relocate ρ = {} := by simp [Obj.relocate, ObjKind.relocate]
  have hget := hm.objects.getD o {}
  rwa [hempty] at hget

/-- Objects are not tables, also those that are not there. -/
theorem bare_obj (o : ObjId) : (h.obj o).Bare := by
  unfold Heap.obj
  rw [Array.getD_eq_getD_getElem?]
  cases hx : h.objects[o]? with
  | none => exact fun realm i heq => by cases heq
  | some x => exact hm.bare x (Array.mem_of_getElem? hx)

/-- An object has the same properties of its own. -/
theorem own? (o : ObjId) (key : Key) :
    h'.own? (ρ.objects o) (key.relocate ρ) = (h.own? o key).map (·.relocate ρ) := by
  have hfields := fieldOf?_relocate (ρ := ρ) key (h.obj o).fields
  unfold Heap.own?
  rw [hm.obj]
  generalize h.obj o = x at hfields
  obtain ⟨kind, proto, fields, items, extensible⟩ := x
  dsimp only [Obj.relocate] at hfields ⊢
  cases kind with
  | array length resizable =>
    cases key with
    | index i =>
      dsimp only [ObjKind.relocate, Key.relocate] at hfields ⊢
      rw [Array.getD_eq_getD_getElem?, Array.getD_eq_getD_getElem?, Array.getElem?_map]
      cases items[i]? with
      | none => exact hfields
      | some f => cases f <;> simp [hfields]
    | name s =>
      by_cases hs : s = "length"
      · subst hs
        rfl
      · simpa [ObjKind.relocate, Key.relocate, hs] using hfields
    | halves us => exact hfields
    | symbol s => exact hfields
  | primitive v =>
    cases v with
    | string t =>
      cases key with
      | index i =>
        dsimp only [ObjKind.relocate, Value.relocate, Key.relocate] at hfields ⊢
        cases t.unit? i with
        | none => exact hfields
        | some u => rfl
      | name s =>
        by_cases hs : s = "length"
        · subst hs
          rfl
        · simpa [ObjKind.relocate, Value.relocate, Key.relocate, hs] using hfields
      | halves us => exact hfields
      | symbol s => exact hfields
    | _ => exact hfields
  | _ => exact hfields

/-- The same fields, moved, in the same order. -/
theorem ownFields (o : ObjId) :
    h'.ownFields (ρ.objects o) = relocateEntries ρ (h.ownFields o) := by
  have hlength := hm.own? o (.name "length")
  have hindex (i : Nat) := hm.own? o (.index i)
  dsimp only [Key.relocate] at hlength hindex
  unfold Heap.ownFields
  simp only [hlength, hindex, hm.obj]
  generalize h.obj o = x
  obtain ⟨kind, proto, fields, items, extensible⟩ := x
  have hentries : (relocateFields ρ fields).toList = relocateEntries ρ fields.toList :=
    Array.toList_map ..
  simp only [Obj.relocate, hentries, items_relocate, numbered_relocate, List.isEmpty_map,
    List.partition_eq_filter_filter, filter_relocateEntries (·.toIndex?.isNone) (by simp),
    filter_relocateEntries (·.isSymbol) (by simp), Function.comp_def,
    filter_relocateEntries (fun key => !key.isSymbol) (by simp)]
  simp only [relocateEntries, List.map_append]
  -- Names and symbols are dealt with; units, numbers and the length are left.
  congr 3
  · congr 1
    · cases kind with
      | primitive v =>
        cases v <;> simp [ObjKind.relocate, Value.relocate, List.map_filterMap, Function.comp_def]
      | _ => rfl
    · rw [← List.map_append, mergeSort_relocate]
      split <;> simp
  · cases h.own? o (.name "length") <;> cases kind <;> rfl

/-- The same keys in the same order. -/
theorem ownKeys (o : ObjId) : h'.ownKeys (ρ.objects o) = (h.ownKeys o).map (·.relocate ρ) := by
  unfold Heap.ownKeys
  rw [hm.ownFields, relocateEntries, List.filterMap_map, List.map_filterMap]
  refine List.filterMap_congr fun e _ => ?_
  simp only [Function.comp_apply, Key.isSymbol_relocate, Field.relocate_enumerable]
  split <;> rfl

/-- What can be called can be called there. -/
theorem callable? (v : Value) :
    h'.callable? (v.relocate ρ) = (h.callable? v).map (·.relocate ρ) := by
  cases v with
  | object o =>
    unfold Heap.callable?
    dsimp only [Value.relocate]
    rw [hm.obj, Obj.relocate_kind]
    cases (h.obj o).kind <;> rfl
  | _ => rfl

/-! #### Along prototypes -/

omit hm in
/-- What is no object has no prototype. -/
theorem proto_eq_none (h : Heap) (o : ObjId) (ho : h.objects.size ≤ o) :
    (h.obj o).proto = none := by
  rw [Heap.obj, Array.getD_eq_getD_getElem?, Array.getElem?_eq_none ho]
  rfl

/-- The prototype of an object is the prototype there. -/
theorem proto (o : ObjId) : (h'.obj (ρ.objects o)).proto = (h.obj o).proto.map ρ.objects := by
  rw [hm.obj, Obj.relocate_proto]

/-- There may be more steps in a trail, when there are more objects, but none
of them leads to anything new. -/
theorem trail_proto (o : Option ObjId) : ∃ rest,
    trail (fun o => (h'.obj o).proto) (h'.objects.size + 1) (o.map ρ.objects) =
      (trail (fun o => (h.obj o).proto) (h.objects.size + 1) o ++ rest).map ρ.objects ∧
    rest ⊆ trail (fun o => (h.obj o).proto) (h.objects.size + 1) o :=
  hm.objects.trail (proto_eq_none h) hm.proto o

/-- A property is found along the prototypes in the same object. -/
theorem find (o : Option ObjId) (key : Key) :
    h'.find (o.map ρ.objects) (key.relocate ρ) = (h.find o key).relocate ρ := by
  have hfound (o : ObjId) :
      h'.foundAt? (key.relocate ρ) (ρ.objects o) = (h.foundAt? key o).map (·.relocate ρ) := by
    unfold foundAt?
    rw [hm.obj, Obj.relocate_kind, hm.own?]
    generalize h.own? o key = own
    cases (h.obj o).kind <;> cases key <;> cases own <;> rfl
  rw [Heap.find, Heap.find, findFrom_eq, findFrom_eq,
    hm.objects.findSome?_trail (proto_eq_none h) hm.proto hfound]
  cases List.findSome? (h.foundAt? key) _ <;> rfl

/-- A value that is held without code is the same. -/
theorem data? (o : ObjId) (key : Key) :
    h'.data? (ρ.objects o) (key.relocate ρ) = (h.data? o key).map (·.relocate ρ) := by
  have hfind := hm.find (some o) key
  rw [Option.map_some] at hfind
  unfold Heap.data?
  rw [hfind]
  obtain ⟨slot, _, _, _⟩ | _ | _ := h.find (some o) key
  · cases slot <;> rfl
  · rfl
  · rfl

/-- An object inherits from the same objects. -/
theorem inherits (proto : ObjId) (o : Option ObjId) :
    h'.inherits (ρ.objects proto) (h'.objects.size + 1) (o.map ρ.objects) =
      h.inherits proto (h.objects.size + 1) o := by
  obtain ⟨rest, heq, hsub⟩ := hm.trail_proto o
  rw [inherits_eq, inherits_eq, heq, decide_eq_decide,
    List.mem_map_of_injective ρ.objects.injective, List.mem_append,
    or_iff_left_of_imp (@hsub proto)]

/-- The keys along some objects, without those seen before. -/
theorem keysOver (seen : List Key) (os : List ObjId) :
    h'.keysOver (seen.map (·.relocate ρ)) (os.map ρ.objects) =
      (h.keysOver seen os).map (·.relocate ρ) := by
  induction os generalizing seen with
  | nil => rfl
  | cons o rest ih =>
    have hfresh : ((h'.ownFields (ρ.objects o)).filter
        fun e => !e.1.isSymbol && decide (e.1 ∉ seen.map (·.relocate ρ))) =
        relocateEntries ρ ((h.ownFields o).filter fun e => !e.1.isSymbol &&
        decide (e.1 ∉ seen)) := by
      rw [hm.ownFields, relocateEntries, List.filter_map]
      congr 2
      funext e
      have hmem : e.1.relocate ρ ∈ seen.map (·.relocate ρ) ↔ e.1 ∈ seen :=
        List.mem_map_of_injective Key.relocate_injective
      simp only [Function.comp_apply, Key.isSymbol_relocate, hmem]
    rw [List.map_cons, Heap.keysOver, Heap.keysOver, hfresh, List.map_append, ← ih, List.map_append]
    congr 1
    · rw [relocateEntries, List.filterMap_map, List.map_filterMap]
      refine List.filterMap_congr fun e _ => ?_
      simp only [Function.comp_apply, Field.relocate_enumerable]
      split <;> rfl
    · simp [relocateEntries, Function.comp_def]

/-- The keys that are walked through are the same. -/
theorem keysFrom (seen : List Key) (o : Option ObjId) :
    h'.keysFrom (h'.objects.size + 1) (seen.map (·.relocate ρ)) (o.map ρ.objects) =
      (h.keysFrom (h.objects.size + 1) seen o).map (·.relocate ρ) := by
  obtain ⟨rest, heq, hsub⟩ := hm.trail_proto o
  rw [keysFrom_eq, keysFrom_eq, heq, hm.keysOver, h.keysOver_append fun o ho => .inl (hsub ho)]

/-- A function that comes to code does so there. -/
theorem hasCode (o : ObjId) :
    h'.hasCode (h'.objects.size + 1) (ρ.objects o) = h.hasCode (h.objects.size + 1) o := by
  have hnone (o : ObjId) (ho : h.objects.size ≤ o) : h.boundTo? o = none := by
    rw [boundTo?, Heap.obj, Array.getD_eq_getD_getElem?, Array.getElem?_eq_none ho]
    rfl
  have hbound (o : ObjId) : h'.boundTo? (ρ.objects o) = (h.boundTo? o).map ρ.objects := by
    rw [boundTo?, boundTo?, hm.obj, Obj.relocate_kind]
    rcases (h.obj o).kind with _ | _ | (_ | _ | _ | _) | _ | _ | _ | _ <;> rfl
  have hclosure (o : ObjId) : h'.closure? (ρ.objects o) = (h.closure? o).map id := by
    rw [closure?, closure?, hm.obj, Obj.relocate_kind]
    rcases (h.obj o).kind with _ | _ | (_ | _ | _ | _) | _ | _ | _ | _ <;> rfl
  have htrail := hm.objects.findSome?_trail hnone hbound hclosure (some o)
  rw [hasCode_eq, hasCode_eq, ← Option.map_some, htrail, Option.map_id, id]

/-- A property that is read by code is read by code there. -/
theorem readByCode (o : ObjId) (key : Key) :
    h'.readByCode (ρ.objects o) (key.relocate ρ) = h.readByCode o key := by
  have hfind := hm.find (some o) key
  rw [Option.map_some] at hfind
  unfold Heap.readByCode
  rw [hfind]
  obtain ⟨slot, _, _, _⟩ | _ | _ := h.find (some o) key
  · cases slot with
    | data v => rfl
    | accessor g s => cases g <;> first | rfl | exact hm.hasCode _
  · rfl
  · rfl

/-! #### Along scopes -/

/-- A scope there is the scope here, moved. -/
theorem scope (s : ScopeId) : h'.scopes.getD (ρ.scopes s) {} = (h.scopes.getD s {}).relocate ρ := by
  have hempty : ({} : Scope).relocate ρ = {} := by simp [Scope.relocate]
  have hget := hm.scopes.getD s {}
  rwa [hempty] at hget

/-- A variable is found in the same place of the same scope. -/
theorem findVariable (s : Option ScopeId) (name : String) :
    h'.findVariable (s.map ρ.scopes) name = (h.findVariable s name).map fun e =>
  (ρ.scopes e.1, e.2) := by
  have hnone (s : ScopeId) (hs : h.scopes.size ≤ s) : (h.scopes.getD s {}).parent = none := by
    rw [Array.getD_eq_getD_getElem?, Array.getElem?_eq_none hs]
    rfl
  cases s with
  | none => rfl
  | some s =>
    show h'.scopeOf? name _ (some _) = Option.map _ (h.scopeOf? name _ (some s))
    rw [scopeOf?_eq, scopeOf?_eq]
    refine hm.scopes.findSome?_trail hnone (fun s => ?_) (fun s => ?_) (some s)
    · rw [hm.scope]
      rfl
    · rw [hm.scope, Option.map_map]
      rfl

/-- A variable has the same value. -/
theorem variableAt (s : ScopeId) (place : Nat) :
    h'.variableAt (ρ.scopes s) place = (h.variableAt s place).relocate ρ := by
  unfold Heap.variableAt
  rw [hm.scope]
  generalize h.scopes.getD s {} = scope
  rw [Scope.relocate_values, Array.getD_eq_getD_getElem?, Array.getD_eq_getD_getElem?,
    Array.getElem?_map]
  cases scope.values[place]? <;> rfl

/-! ### Changing -/

/-- Work is counted in both. -/
theorem charge (work : Nat) : (h.charge work).Moved ρ p q (h'.charge work) :=
  { hm with effort := fun hq => congrArg (· + work) (hm.effort hq) }

/-- The value of a statement is noted in both. -/
theorem note (v : Value) : (h.note v).Moved ρ p q (h'.note (v.relocate ρ)) := by
  cases v <;> exact hm.charge _

/-- A new object is new in both. -/
theorem alloc {x : Obj} (hx : x.Bare) : (h.alloc x).1.Moved ρ p q (h'.alloc (x.relocate ρ)).1 :=
  { hm with
    objects := hm.objects.push x
    bare := fun y hy => (Array.mem_push.mp hy).elim (hm.bare y) fun heq => heq ▸ hx }

/-- An object is changed in both. -/
theorem modifyObj (o : ObjId) {f g : Obj → Obj} (hfg : ∀ x, (f x).relocate ρ = g (x.relocate ρ))
    (hbare : ∀ x, x.Bare → (f x).Bare) :
    (h.modifyObj o f).Moved ρ p q (h'.modifyObj (ρ.objects o) g) :=
  { hm with
    objects := hm.objects.modify o hfg
    bare := fun y hy => by
      obtain ⟨i, hi, rfl⟩ := Array.mem_iff_getElem.mp hy
      simp only [Heap.modifyObj, Array.getElem_modify]
      split
      · exact hbare _ (hm.bare _ (Array.getElem_mem _))
      · exact hm.bare _ (Array.getElem_mem _) }

/-- A field is stored in both. -/
theorem put (o : ObjId) (key : Key) (f : Field) :
    (h.put o key f).Moved ρ p q (h'.put (ρ.objects o) (key.relocate ρ) (f.relocate ρ)) := by
  rw [put_eq, put_eq, weight_relocate]
  refine (hm.charge _).modifyObj o (fun x => (having_relocate x key f).symm) fun x hx => ?_
  unfold having
  split
  · dsimp only
    split <;> exact fun realm i heq => by cases heq
  · exact hx

/-- A field is stored under a name in both. -/
theorem putNamed (o : ObjId) (name : String) (f : Field) :
    (h.putNamed o name f).Moved ρ p q (h'.putNamed (ρ.objects o) name (f.relocate ρ)) := by
  have hput := hm.put o (.ofString name) f
  rwa [Key.relocate_ofString] at hput

/-! #### Removing and fixing -/

/-- The length of an array is set in both, or in neither. -/
theorem setLength (o : ObjId) (length : Nat) :
    (h.setLength o length).1.Moved ρ p q (h'.setLength (ρ.objects o) length).1 ∧
      (h'.setLength (ρ.objects o) length).2 = (h.setLength o length).2 := by
  have hkept : ((h'.ownFields (ρ.objects o)).filterMap fun e =>
      if e.2.configurable then none else e.1.toIndex?.bind fun i => if length ≤ i then some (i + 1)
      else none) = (h.ownFields o).filterMap fun e =>
        if e.2.configurable then none else e.1.toIndex?.bind fun i => if length ≤
          i then some (i + 1) else none := by
    rw [hm.ownFields, relocateEntries, List.filterMap_map]
    refine List.filterMap_congr fun e _ => ?_
    simp only [Function.comp_apply, Key.toIndex?_relocate, Field.relocate_configurable]
  unfold Heap.setLength
  dsimp only
  rw [hm.obj, Obj.relocate_kind]
  generalize h.ownFields o = fields at hkept
  cases (h.obj o).kind with
  | array n resizable =>
    dsimp only [ObjKind.relocate]
    rw [hkept]
    refine ⟨hm.modifyObj o (fun x => ?_) fun x _ realm i heq => ObjKind.noConfusion heq, rfl⟩
    have hfields (least : Nat) := filter_relocateFields (ρ := ρ)
      (fun key => (key.toIndex?.map fun i => decide (i < least)).getD true) (by simp) x.fields
    simp only [Obj.relocate, ObjKind.relocate, hfields, Array.take_eq_extract, Array.map_extract]
  | _ => exact ⟨hm, rfl⟩

/-- A field is removed in both. -/
theorem remove (o : ObjId) (key : Key) :
    (h.remove o key).Moved ρ p q (h'.remove (ρ.objects o) (key.relocate ρ)) := by
  refine hm.modifyObj o (fun x => ?_) fun x hx => ?_
  · have hfields : (relocateFields ρ x.fields).filter (fun e => decide (e.1 ≠ key.relocate ρ)) =
        relocateFields ρ (x.fields.filter fun e => decide (e.1 ≠ key)) := by
      rw [relocateFields, Array.filter_map]
      congr 2
      funext e
      simp only [Function.comp_apply, ne_eq, Key.relocate_inj]
    obtain ⟨kind, proto, fields, items, extensible⟩ := x
    dsimp only [Obj.relocate] at hfields ⊢
    cases kind with
    | array length resizable =>
      cases key with
      | index i =>
        dsimp only [ObjKind.relocate, Key.relocate] at hfields ⊢
        simp only [hfields, Array.size_map]
        split <;> simp
      | _ => simp only [ObjKind.relocate, hfields]; rfl
    | _ => simp only [ObjKind.relocate, hfields]
  · split
    · exact fun realm i heq => hx realm i heq
    · exact hx

omit hm in
/-- A frozen property is moved to a frozen one. -/
theorem relocate_frozen (constant : Bool) (f : Field) :
    Field.relocate ρ { f with
      configurable := false
      writable := match f.slot with
        | .data _ => f.writable && !constant
        | .accessor _ _ => f.writable } = { f.relocate ρ with
      configurable := false
      writable := match (f.relocate ρ).slot with
        | .data _ => f.writable && !constant
        | .accessor _ _ => f.writable } := by
  obtain ⟨slot, _, _, _⟩ := f
  cases slot <;> rfl

/-- An object is frozen in both. -/
theorem freeze (o : ObjId) (constant : Bool) :
    (h.freeze o constant).Moved ρ p q (h'.freeze (ρ.objects o) constant) := by
  refine hm.modifyObj o (fun x => ?_) fun x hx => ?_
  · obtain ⟨kind, proto, fields, items, extensible⟩ := x
    simp only [Obj.relocate, relocateFields, Array.map_map, Obj.mk.injEq, true_and]
    refine ⟨by cases kind <;> rfl, ?_, ?_, trivial⟩
    · exact Array.map_congr_left fun e _ => Prod.ext rfl (relocate_frozen constant e.2)
    · refine Array.map_congr_left fun f _ => ?_
      cases f with
      | none => rfl
      | some f => exact congrArg some (relocate_frozen constant f)
  · intro realm i heq
    dsimp only at heq
    split at heq
    · cases heq
    · exact hx realm i heq

/-! #### Scopes -/

/-- A new scope is new in both. -/
theorem newScope (s : Scope) :
    (h.newScope s).1.Moved ρ p q (h'.newScope (s.relocate ρ)).1 ∧
      (h'.newScope (s.relocate ρ)).2 = ρ.scopes (h.newScope s).2 :=
  ⟨{ hm with scopes := hm.scopes.push s }, hm.scopes.size.symm⟩

/-- A variable is set in both. -/
theorem setVariable (s : ScopeId) (place : Nat) (v : Value) :
    (h.setVariable s place v).Moved ρ p q (h'.setVariable (ρ.scopes s) place (v.relocate ρ)) :=
  { hm.note v with
    scopes := (hm.note v).scopes.modify s
      (f := fun scope => { scope with values := scope.values.set! place v })
      (g := fun scope => { scope with values := scope.values.set! place (v.relocate ρ) })
      fun scope => by simp [Scope.relocate] }

end

end Moved

end Heap

end Script

end ObjectBridge

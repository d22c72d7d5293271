import ObjectBridge.Proofs.Manifest.Valid

/-!
# `ObjectBridge.Proofs.Manifest.Overlay`: what merging does at each path

`Manifest.merge` works through one list of namespaces after the other.
Seen from outside, one namespace is laid over another (`Namespace.lay`),
and so are lists of them, name by name:

* `named?_mergeNamespaces`: a name leads to what it led to on either side,
  or to the one laid over the other when it leads somewhere on both;
* `names_mergeNamespaces`: the names of the list below come first, then
  those that only the list above has.

Both ask that no two siblings of the list above share a name. With that at
every depth (`Namespace.Distinct`), names followed down from the root
(`Manifest.at?`) lead to the one laid over the other as well (`at?_merge`),
and everything that `merge_overlays` says about paths is read off that one
equation.
-/

set_option autoImplicit false

namespace ObjectBridge

/-- The dotted path along names from the root. -/
def Path.dotted (names : List Bytes) : Bytes := names.foldl Path.join []

namespace Namespace

variable {x y z l : List Namespace} {n : Bytes}

/-! ### Siblings by name -/

/-- The names of siblings, in order. -/
def names (l : List Namespace) : List Bytes := l.map (·.name)

/-- The first of several siblings with a given name. -/
def named? (n : Bytes) (l : List Namespace) : Option Namespace := l.find? (·.name = n)

/-- No namespaces have no names. -/
@[simp] theorem names_nil : names [] = [] := rfl

/-- The first name is that of the first namespace. -/
@[simp] theorem names_cons (u : Namespace) (l : List Namespace) : names (u :: l) =
    u.name :: names l := rfl

/-- In an empty list nothing is found. -/
@[simp] theorem named?_nil (n : Bytes) : named? n [] = none := rfl

/-- The first namespace is found by its name. -/
theorem named?_cons_self {u : Namespace} (h : u.name = n) : named? n (u :: l) = some u :=
  List.find?_cons_of_pos (by simpa using h)

/-- Under another name the search goes on. -/
theorem named?_cons_of_ne {u : Namespace} (h : u.name ≠ n) : named? n (u :: l) = named? n l :=
  List.find?_cons_of_neg (by simpa using h)

/-- Nothing is found exactly under a name that is not there. -/
theorem named?_eq_none_iff : named? n l = none ↔ n ∉ names l := by
  simp [named?, names]

/-- What a name leads to is there, and has that name. -/
theorem mem_of_named? {u : Namespace} (h : named? n l = some u) : u ∈ l ∧ u.name = n := by
  constructor
  · exact List.mem_of_find?_eq_some h
  · simpa using List.find?_some h

/-- Siblings with different names are the same when they have the same
names in the same order, and each name leads to the same. -/
theorem eq_of_named? (hx : (names x).Nodup) (hnames : names x = names y)
    (h : ∀ n, named? n x = named? n y) :
    x = y := by
  induction x generalizing y with
  | nil => exact (List.map_eq_nil_iff.mp hnames.symm).symm
  | cons u x ih =>
    cases y with
    | nil => simp at hnames
    | cons v y =>
      rw [names_cons, names_cons, List.cons.injEq] at hnames
      rw [names_cons, List.nodup_cons] at hx
      have huv : u = v := by
        have hfirst := h u.name
        rw [named?_cons_self rfl, named?_cons_self hnames.1.symm] at hfirst
        exact Option.some.inj hfirst
      subst huv
      -- The first name leads nowhere among the others, on either side.
      have hrest : ∀ n, named? n x = named? n y := by
        intro n
        by_cases hn : u.name = n
        · rw [named?_eq_none_iff.mpr (hn ▸ hx.1), named?_eq_none_iff.mpr (hn ▸ hnames.2 ▸ hx.1)]
        · have hboth := h n
          rwa [named?_cons_of_ne hn, named?_cons_of_ne hn] at hboth
      rw [ih hx.2 hnames.2 hrest]

/-- No two siblings share a name, here and at every depth below. -/
inductive Distinct : List Namespace → Prop
  | intro {l : List Namespace} (here : (names l).Nodup) (below : ∀ u ∈ l, Distinct u.children) :
  Distinct l

/-- Distinct names are not repeated. -/
theorem Distinct.nodup (h : Distinct l) : (names l).Nodup := by
  cases h with
  | intro here _ => exact here

/-- Nor are those of children. -/
theorem Distinct.children (h : Distinct l) {u : Namespace} (hu : u ∈ l) : Distinct u.children := by
  cases h with
  | intro _ below => exact below u hu

/-- The same for the children of what is found. -/
theorem Distinct.named (h : Distinct l) {u : Namespace} (hu : named? n l = some u) :
    Distinct u.children :=
  h.children (mem_of_named? hu).1

/-! ### One namespace over another -/

/-- One namespace laid over another, whose name it keeps. -/
def lay (under upper : Namespace) : Namespace :=
  { under with
    className := Manifest.overlay under.className upper.className
    base := Manifest.overlay under.base upper.base
    children := Manifest.mergeNamespaces under.children upper.children }

/-- What is laid over keeps its name. -/
@[simp] theorem name_lay (u v : Namespace) : (lay u v).name = u.name := rfl

end Namespace

namespace Manifest

open Namespace

variable {x y z l : List Namespace} {n : Bytes}

/-! ### Namespaces over namespaces -/

/-- Merging nothing changes nothing. -/
@[simp] theorem mergeNamespaces_nil (x : List Namespace) : mergeNamespaces x [] = x := by
  rw [mergeNamespaces]

/-- Namespaces are merged in one after the other. -/
theorem mergeNamespaces_cons (x : List Namespace) (v : Namespace) (rest : List Namespace) :
    mergeNamespaces x (v :: rest) = mergeNamespaces (upsert v.name (lay · v) v x) rest := by
  cases v
  rw [mergeNamespaces]
  rfl

/-- A name that is already there stays where it is, and a new one comes
last. -/
theorem names_upsert (v : Namespace) (l : List Namespace) :
    names (upsert v.name (lay · v) v l) = if v.name ∈ names l then names l
    else names l ++ [v.name] := by
  induction l with
  | nil => rfl
  | cons u rest ih =>
    rw [upsert]
    by_cases h : u.name = v.name
    · simp [h]
    · have hne : v.name ≠ u.name := fun heq => h heq.symm
      rw [if_neg h, names_cons, ih]
      simp only [names_cons, List.mem_cons, hne, false_or]
      split <;> rfl

/-- The name itself leads to the namespace laid over what was there. -/
theorem named?_upsert_self (v : Namespace) (l : List Namespace) :
    named? v.name (upsert v.name (lay · v) v l) = (named? v.name l).merge lay (some v) := by
  induction l with
  | nil => exact named?_cons_self rfl
  | cons u rest ih =>
    rw [upsert]
    by_cases h : u.name = v.name
    · have hlay : (lay u v).name = v.name := h
      rw [if_pos h, named?_cons_self hlay, named?_cons_self h]
      rfl
    · rw [if_neg h, named?_cons_of_ne h, named?_cons_of_ne h]
      exact ih

/-- Other names lead where they did. -/
theorem named?_upsert_of_ne {v : Namespace} (hn : v.name ≠ n) (l : List Namespace) :
    named? n (upsert v.name (lay · v) v l) = named? n l := by
  induction l with
  | nil => exact named?_cons_of_ne hn
  | cons u rest ih =>
    rw [upsert]
    by_cases h : u.name = v.name
    · have hlay : (lay u v).name ≠ n := by
        rw [name_lay, h]
        exact hn
      have hu : u.name ≠ n := by rwa [h]
      rw [if_pos h, named?_cons_of_ne hlay, named?_cons_of_ne hu]
    · rw [if_neg h]
      by_cases hu : u.name = n
      · rw [named?_cons_self hu, named?_cons_self hu]
      · rw [named?_cons_of_ne hu, named?_cons_of_ne hu, ih]

/-- The names below come first, then those that only the list above
has. -/
theorem names_mergeNamespaces (x : List Namespace) (hy : (names y).Nodup) :
    names (mergeNamespaces x y) = names x ++ (names y).filter (· ∉ names x) := by
  induction y generalizing x with
  | nil => simp
  | cons v rest ih =>
    rw [names_cons, List.nodup_cons] at hy
    rw [mergeNamespaces_cons, ih _ hy.2, names_upsert, names_cons]
    by_cases h : v.name ∈ names x
    · rw [if_pos h, List.filter_cons_of_neg (by simpa using h)]
    · -- The new name is no longer new to the rest, where it does not occur.
      have hrest : (names rest).filter (· ∉ names x ++ [v.name]) =
          (names rest).filter (· ∉ names x) := by
        refine List.filter_congr fun n hn => ?_
        have hne : n ≠ v.name := fun heq => hy.1 (heq ▸ hn)
        simp [hne]
      rw [if_neg h, hrest, List.filter_cons_of_pos (by simpa using h), List.append_assoc]
      rfl

/-- A name leads to what it led to on either side, or to the one laid over
the other. -/
theorem named?_mergeNamespaces (n : Bytes) (x : List Namespace) (hy : (names y).Nodup) :
    named? n (mergeNamespaces x y) = (named? n x).merge lay (named? n y) := by
  induction y generalizing x with
  | nil => cases h : named? n x <;> simp [h]
  | cons v rest ih =>
    rw [names_cons, List.nodup_cons] at hy
    rw [mergeNamespaces_cons, ih _ hy.2]
    by_cases hn : v.name = n
    · subst hn
      rw [named?_upsert_self, named?_eq_none_iff.mpr hy.1, named?_cons_self rfl]
      cases named? v.name x <;> rfl
    · rw [named?_upsert_of_ne hn, named?_cons_of_ne hn]

end Manifest

namespace Namespace

variable {p : Bytes} {x y l : List Namespace}

/-! ### Names followed downwards -/

/-- The namespace that names lead to from a namespace. -/
def descend : Namespace → List Bytes → Option Namespace
  | u, [] => some u
  | u, n :: path => (named? n u.children).bind (descend · path)

/-- The empty path leads to the namespace itself. -/
@[simp] theorem descend_nil (u : Namespace) : u.descend [] = some u := rfl

/-- What names lead to is below the namespaces they start from. -/
theorem Distinct.descend {u u' : Namespace} (hu : Distinct u.children) {path : List Bytes}
    (h : u.descend path = some u') : Distinct u'.children := by
  induction path generalizing u with
  | nil => exact Option.some.inj h ▸ hu
  | cons n path ih =>
    obtain ⟨v, hv, hrest⟩ := Option.bind_eq_some_iff.mp h
    exact ih (hu.named hv) hrest

/-- A walk lists each namespace with its path, and then walks its children. -/
theorem walk_eq_flatMap (p : Bytes) (l : List Namespace) :
    walk p l = l.flatMap fun u =>
  (Path.join p u.name, u) :: walk (Path.join p u.name) u.children := by
  induction l with
  | nil => simp
  | cons u rest ih =>
    obtain ⟨name, className, base, children⟩ := u
    rw [walk_cons, List.flatMap_cons, ih]
    rfl

/-- Names that can stand between dots and differ among siblings. -/
theorem wellNamed_iff (l : List Namespace) :
    WellNamed l ↔ Distinct l ∧ ∀ e ∈ walk p l, Path.IsName e.2.name := by
  induction l using forest_induction generalizing p with
  | nil => simpa [wellNamed_nil] using Distinct.intro (l := []) List.nodup_nil (by simp)
  | cons name className base children rest ihChildren ihRest =>
    rw [wellNamed_cons, ihChildren (p := Path.join p name), ihRest (p := p), walk_cons]
    simp only [List.forall_mem_cons, List.forall_mem_append]
    constructor
    · rintro ⟨hname, hfresh, ⟨hchildren, hbelow⟩, hrest, hbeside⟩
      refine ⟨.intro ?_ ?_, hname, hbelow, hbeside⟩
      · exact List.nodup_cons.mpr ⟨hfresh, hrest.nodup⟩
      · exact List.forall_mem_cons.mpr ⟨hchildren, fun u hu => hrest.children hu⟩
    · rintro ⟨hall, hname, hbelow, hbeside⟩
      have hnodup := List.nodup_cons.mp hall.nodup
      refine ⟨hname, hnodup.1, ⟨hall.children List.mem_cons_self, hbelow⟩, ?_, hbeside⟩
      exact .intro hnodup.2 fun u hu => hall.children (List.mem_cons_of_mem _ hu)

end Namespace

namespace Manifest

open Namespace

variable {a b m : Manifest}

/-- The namespace that names lead to from the root; without any, the root
itself. -/
def at? (m : Manifest) (path : List Bytes) : Option Namespace := m.top.descend path

/-- What a manifest says about a path: nothing about one it does not
have. -/
def entry (m : Manifest) (path : List Bytes) : Namespace := (m.at? path).getD {}

/-- The media types below, then the first occurrences of those that only
the list above has. -/
theorem mergeMime_eq (under upper : List Bytes) :
    mergeMime under upper = under ++ (upper.filter (· ∉ under)).eraseDups := by
  unfold mergeMime
  induction upper generalizing under with
  | nil => simp
  | cons t rest ih =>
    rw [List.foldl_cons, ih]
    by_cases ht : t ∈ under
    · simp [ht]
    · -- The new type is no longer new to the rest, just as it is erased from there.
      have hrest : rest.filter (· ∉ under ++ [t]) =
          (rest.filter (· ∉ under)).filter (fun s => !s == t) := by
        rw [List.filter_filter]
        refine List.filter_congr fun s _ => ?_
        by_cases hs : s = t <;> simp [hs]
      have hnew : under.contains t = false := by simpa using ht
      rw [hnew, if_neg Bool.false_ne_true, hrest, List.filter_cons_of_pos (by simpa using ht),
        List.eraseDups_cons, List.append_assoc]
      rfl

/-- In a valid manifest names are distinct. -/
theorem distinct_of_isValid (h : m.isValid = true) : Distinct m.namespaces :=
  ((wellNamed_iff (p := []) m.namespaces).mp ((isValid_iff m).mp h).2.1).1

/-- A plugin with two namespaces. -/
def plain : Manifest :=
  { name := .ofString "plain", mime := [.ofString "text/a"], className := .ofString "Plugin",
    namespaces := [{ name := .ofString "utils", className := .ofString "Utils" },
      { name := .ofString "tables", base := .ofString "utils" }] }

/-- What can be laid over it: a namespace of its own, a base and a child
for one that is there, and a media type that is there besides one that is
repeated. -/
def extension : Manifest :=
  { name := .ofString "extended", mime := [.ofString "text/b", .ofString "text/a",
    .ofString "text/b"], namespaces := [{ name := .ofString "arrays",
                                          className := .ofString "Arrays" },
      { name := .ofString "utils", base := .ofString "arrays",
        children := [{ name := .ofString "text" }] }] }

end Manifest

end ObjectBridge

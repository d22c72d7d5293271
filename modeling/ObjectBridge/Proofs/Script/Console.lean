import ObjectBridge.Proofs.Script.Global

/-!
# `ObjectBridge.Proofs.Script.Console`: what a script finds in a realm

An object `Holds` a value under a key when it is a plain one that has it as a
property of its own. New objects leave that, and so do stores under other
keys, so what a realm is given first is still there after the rest.

A realm that is made with a console has one that can be written to
(`HasConsole.newRealm`).
-/

set_option autoImplicit false

namespace ObjectBridge.Script

variable {h : Heap} {r : Realm} {o : ObjId} {key key' : Key} {f : Field} {x : Obj}

/-! ### Fields of an object -/

/-- The keys alone decide on a place. -/
theorem placeOfKey?_congr {fields fields' : Array (Key × Field)} {n : Nat}
    (hkeys : ∀ i < n, fields'[i]?.map Prod.fst = fields[i]?.map Prod.fst) :
    placeOfKey? key fields' n = placeOfKey? key fields n := by
  induction n with
  | zero => rfl
  | succ n ih =>
    have hrest := ih fun i hi => hkeys i (Nat.lt_succ_of_lt hi)
    have hlast := hkeys n (Nat.lt_succ_self n)
    unfold placeOfKey?
    rw [hrest]
    by_cases hn : n < fields.size
    · rw [Array.getElem?_eq_getElem hn] at hlast
      obtain ⟨e, he, hkey⟩ := Option.map_eq_some_iff.mp hlast
      obtain ⟨hn', rfl⟩ := Array.getElem?_eq_some_iff.mp he
      rw [dif_pos hn, dif_pos hn', hkey]
    · rw [Array.getElem?_eq_none (Nat.le_of_not_lt hn)] at hlast
      have hn' : ¬n < fields'.size := fun hlt => by
        rw [Array.getElem?_eq_getElem hlt] at hlast
        cases hlast
      rw [dif_neg hn, dif_neg hn']

/-- Replacing a property leaves the keys. -/
theorem keys_set {fields : Array (Key × Field)} {i : Nat} (hi : i < fields.size)
    (hkey : fields[i].1 = key) (j : Nat) :
    (fields.set! i (key, f))[j]?.map Prod.fst = fields[j]?.map Prod.fst := by
  rw [Array.set!_eq_setIfInBounds, Array.getElem?_setIfInBounds]
  split
  · next hij =>
    subst hij
    rw [Array.getElem?_eq_getElem hi, Option.map_some, Option.map_some, hkey]
  · rfl

/-- What is stored under a key stands under it. -/
theorem fieldOf?_upsertField_self (key : Key) (f : Field) (fields : Array (Key × Field)) :
    fieldOf? key (upsertField key f fields) = some f := by
  unfold upsertField
  split
  · next i hi =>
    obtain ⟨hlt, hkey⟩ := key_of_placeOfKey? hi
    have hplace : placeOfKey? key (fields.set! i (key, f)) (fields.set! i (key, f)).size =
        some i := by
      rw [Array.size_set!, placeOfKey?_congr fun j _ => keys_set hlt hkey j, hi]
    unfold fieldOf?
    rw [hplace]
    simp [hlt]
  · have hplace : placeOfKey? key (fields.push (key, f)) (fields.push (key, f)).size =
        some fields.size := by
      rw [Array.size_push]
      unfold placeOfKey?
      simp
    unfold fieldOf?
    rw [hplace]
    simp

/-- What stands under another key stays. -/
theorem fieldOf?_upsertField_of_ne (hne : key' ≠ key) (fields : Array (Key × Field)) :
    fieldOf? key (upsertField key' f fields) = fieldOf? key fields := by
  unfold upsertField
  split
  · next i hi =>
    obtain ⟨hlt, hkey⟩ := key_of_placeOfKey? hi
    have hplace : placeOfKey? key (fields.set! i (key', f)) (fields.set! i (key', f)).size =
        placeOfKey? key fields fields.size := by
      rw [Array.size_set!, placeOfKey?_congr fun j _ => keys_set hlt hkey j]
    unfold fieldOf?
    rw [hplace]
    split
    · next j hj =>
      obtain ⟨hlt', hkey'⟩ := key_of_placeOfKey? hj
      have hij : i ≠ j := fun heq => by
        subst heq
        exact hne (hkey.symm.trans hkey')
      simp [hlt', hij]
    · rfl
  · have hkeys : ∀ j < fields.size, (fields.push (key', f))[j]?.map Prod.fst =
        fields[j]?.map Prod.fst := fun j hj => by
      rw [Array.getElem?_push_lt hj, Array.getElem?_eq_getElem hj]
    have hplace : placeOfKey? key (fields.push (key', f)) (fields.push (key', f)).size =
        placeOfKey? key fields fields.size := by
      rw [Array.size_push, placeOfKey?, dif_pos (by simp), Array.getElem_push_eq, if_neg hne]
      exact placeOfKey?_congr hkeys
    unfold fieldOf?
    rw [hplace]
    split
    · next j hj =>
      obtain ⟨hlt', _⟩ := key_of_placeOfKey? hj
      rw [dif_pos hlt', dif_pos (by rw [Array.size_push]; omega), Array.getElem_push_lt hlt']
    · rfl

namespace Heap

/-- There is a plain object. -/
def IsPlain (h : Heap) (o : ObjId) : Prop := ∃ x, h.objects[o]? = some x ∧ x.kind = .plain

/-- A plain object has a property of its own with a value. -/
def Holds (h : Heap) (o : ObjId) (key : Key) (v : Value) : Prop :=
  ∃ x f, h.objects[o]? = some x ∧ x.kind = .plain ∧ fieldOf? key x.fields = some f ∧
    f.slot = .data v

/-- A plain object only gets another property. -/
theorem having_plain (hkind : x.kind = .plain) (key : Key) (f : Field) :
    having x key f = { x with fields := upsertField key f x.fields } := by
  unfold having
  rw [hkind]

namespace IsPlain

/-- A new object leaves it plain. -/
theorem alloc (hx : h.IsPlain o) (y : Obj) : (h.alloc y).1.IsPlain o := by
  obtain ⟨x, hx, hkind⟩ := hx
  exact ⟨x, getElem?_alloc hx y, hkind⟩

/-- So does a store, in it or in another one. -/
theorem put (hx : h.IsPlain o) (q : ObjId) (key : Key) (f : Field) : (h.put q key f).IsPlain o := by
  obtain ⟨x, hx, hkind⟩ := hx
  refine ⟨_, getElem?_put hx q key f, ?_⟩
  rw [having_plain hkind]
  split <;> exact hkind

/-- Whatever a realm is furnished with leaves it. -/
theorem furnished (r : Realm) (o : ObjId) : Furnished r (·.IsPlain o) where
  object hx := hx.alloc _
  function _ _ _ hx := hx.alloc _
  put _ hx := hx.put _ _ _

end IsPlain

namespace Holds

variable {v : Value}

/-- It is found as one of its own. -/
theorem exists_own? (hh : h.Holds o key v) : ∃ f, h.own? o key = some f ∧ f.slot = .data v := by
  obtain ⟨x, f, hx, hkind, hf, hv⟩ := hh
  exact ⟨f, (own?_plain hx hkind key).trans hf, hv⟩

/-- A search from the object ends there. -/
theorem exists_find (hh : h.Holds o key v) :
    ∃ f, h.find (some o) key = .field f ∧ f.slot = .data v := by
  obtain ⟨f, hown, hv⟩ := hh.exists_own?
  obtain ⟨x, _, hx, hkind, _, _⟩ := hh
  refine ⟨f, ?_, hv⟩
  unfold find findFrom
  rw [obj_of_getElem? hx]
  dsimp only
  rw [hkind, hown]

/-- A new object leaves what the others hold. -/
theorem alloc (hh : h.Holds o key v) (y : Obj) : (h.alloc y).1.Holds o key v := by
  obtain ⟨x, f, hx, hrest⟩ := hh
  exact ⟨x, f, getElem?_alloc hx y, hrest⟩

/-- Storing under another key leaves it. -/
theorem put (hh : h.Holds o key v) (q : ObjId) (hne : key' ≠ key) (f' : Field) :
    (h.put q key' f').Holds o key v := by
  obtain ⟨x, f, hx, hkind, hf, hv⟩ := hh
  refine ⟨_, f, getElem?_put hx q key' f', ?_⟩
  rw [having_plain hkind]
  split
  · exact ⟨hkind, (fieldOf?_upsertField_of_ne hne _).trans hf, hv⟩
  · exact ⟨hkind, hf, hv⟩

/-- A plain object holds what is stored in it. -/
theorem of_put (hx : h.IsPlain o) (hv : f.slot = .data v) : (h.put o key f).Holds o key v := by
  obtain ⟨x, hx, hkind⟩ := hx
  refine ⟨_, f, getElem?_put hx o key f, ?_⟩
  rw [if_pos rfl, having_plain hkind]
  exact ⟨hkind, fieldOf?_upsertField_self key f _, hv⟩

end Holds

/-- An object has a function of its own that writes to the console. -/
def Logs (h : Heap) (c : ObjId) : Prop :=
  ∃ l x, h.Holds c (.name "log") (.object l) ∧ h.objects[l]? = some x ∧
    x.kind = .function (.builtin (.log "log"))

namespace Logs

variable {c : ObjId}

/-- A new object leaves the function. -/
theorem alloc (hl : h.Logs c) (y : Obj) : (h.alloc y).1.Logs c := by
  obtain ⟨l, x, hh, hx, hkind⟩ := hl
  exact ⟨l, x, hh.alloc y, getElem?_alloc hx y, hkind⟩

/-- Storing under another name leaves the function. -/
theorem put (hl : h.Logs c) (q : ObjId) (hne : key ≠ .name "log") (f : Field) :
    (h.put q key f).Logs c := by
  obtain ⟨l, x, hh, hx, hkind⟩ := hl
  refine ⟨l, _, hh.put q hne f, getElem?_put hx q key f, ?_⟩
  split
  · exact kind_having hkind key f
  · exact hkind

/-- Another function of the host leaves it. -/
theorem putHostFunction (hl : h.Logs c) (r : Realm) (o : ObjId) (name : String)
    (hne : Key.ofString name ≠ .name "log") (b : Builtin) : (h.putHostFunction r o name b).Logs c :=
  (hl.alloc _).put o hne _

/-- The function is made, and stored in a plain object. -/
theorem of_putHostFunction (hc : h.IsPlain c) (r : Realm) :
    (h.putHostFunction r c "log" (.log "log")).Logs c := by
  have hnew : (h.newFunction r "" 0 (.builtin (.log "log"))).1.objects[h.objects.size]? = some _ :=
    Array.getElem?_push_size
  refine ⟨h.objects.size, _, .of_put (hc.alloc _) rfl, getElem?_put hnew c _ _, ?_⟩
  split
  · exact kind_having rfl _ _
  · rfl

end Logs

/-- The global object has a console that can be written to. -/
def HasConsole (h : Heap) (r : Realm) : Prop :=
  ∃ c, h.Holds r.global (.name "console") (.object c) ∧ h.Logs c

namespace HasConsole

/-- A new object leaves the console. -/
theorem alloc (hc : h.HasConsole r) (y : Obj) : (h.alloc y).1.HasConsole r := by
  obtain ⟨c, hh, hl⟩ := hc
  exact ⟨c, hh.alloc y, hl.alloc y⟩

/-- Storing under other names leaves the console. -/
theorem put (hc : h.HasConsole r) (q : ObjId) (hne : key ∉ [Key.name "console", .name "log"])
    (f : Field) :
    (h.put q key f).HasConsole r := by
  obtain ⟨c, hh, hl⟩ := hc
  rw [List.mem_pair, not_or] at hne
  exact ⟨c, hh.put q hne.1 f, hl.put q hne.2 f⟩

/-- Another global function of the host leaves the console. -/
theorem putHostFunction (hc : h.HasConsole r) (name : String)
    (hne : Key.ofString name ∉ [Key.name "console", .name "log"]) (b : Builtin) :
    (h.putHostFunction r r.global name b).HasConsole r :=
  (hc.alloc _).put r.global hne _

/-- The console is made with its functions, and stored in the global object. -/
theorem of_putConsole (hg : h.IsPlain r.global) : (h.putConsole r).HasConsole r := by
  have hnew : (h.newObject r).1.IsPlain h.objects.size := ⟨_, Array.getElem?_push_size, rfl⟩
  have hlogs := (((Logs.of_putHostFunction hnew r).putHostFunction r h.objects.size
    "info" (by decide) (.log "info")).putHostFunction r h.objects.size "warn" (by decide)
    (.log "warn")).putHostFunction r h.objects.size "error" (by decide) (.log "error")
  have hk := IsPlain.furnished r r.global
  have hglobal := hk.putHostFunction (hk.putHostFunction (hk.putHostFunction (hk.putHostFunction
    (hk.object hg) h.objects.size "log" (.log "log")) h.objects.size "info" (.log "info"))
    h.objects.size "warn" (.log "warn")) h.objects.size "error" (.log "error")
  have hmade : h.putConsole r =
      (((((h.newObject r).1.putHostFunction r h.objects.size "log" (.log "log")).putHostFunction
      r h.objects.size "info" (.log "info")).putHostFunction r h.objects.size "warn"
      (.log "warn")).putHostFunction r h.objects.size "error" (.log "error")).putNamed r.global
      "console" (.plain (.object h.objects.size)) := rfl
  rw [hmade]
  exact ⟨h.objects.size, .of_put hglobal rfl, hlogs.put r.global (by decide) _⟩

/-- A realm that is made with a console has one. -/
theorem newRealm (h : Heap) (number : Nat) :
    (h.newRealm number true).1.HasConsole (h.newRealm number true).2 := by
  rw [newRealm_eq]
  dsimp only
  generalize hr : realmFrom number h.objects.size = r
  have hfirst : h.withFirst.IsPlain r.global := by
    rw [← hr]
    exact ⟨{ proto := some h.objects.size }, by simp [withFirst, realmFrom, firstObjects], rfl⟩
  have hk := IsPlain.furnished r r.global
  have hplain := hk.putGlobals (hk.putConstructors hfirst)
  unfold putHostGlobals
  dsimp only
  rw [if_pos rfl]
  have hconsole := of_putConsole (r := r) ((((hplain.put r.global (.ofString "require")
    (.plain .undefined)).put r.global (.ofString "process") (.plain .undefined)).put r.global
    (.ofString "module") (.plain .undefined)).put r.global (.ofString "exports")
    (.plain .undefined))
  exact ((hconsole.putHostFunction "setTimeout" (by decide) .noop).putHostFunction
    "setInterval" (by decide) .noop).putHostFunction "construct" (by decide) .construct

end HasConsole

end Heap
end ObjectBridge.Script

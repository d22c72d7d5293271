import ObjectBridge.Proofs.Bridge.Marshalling

/-!
# `ObjectBridge.Proofs.Bridge.NativeValue`: native values survive

A whole number has ten widths on the native side and two at the boundary.
Whatever width it had, it becomes the variant of the number it is
(`NativeInt.toVariant_eq`): 32 bits when the number fits, and a double
otherwise. No number takes 32 bits by losing some.

Everything else that has a variant keeps what it says, in both directions
(`NativeValue.intact`). Strings need bytes of the host, and a string there
are no bytes for does not cross. Only two things change: bytes come back as
text, and nothing at all comes back as null.
-/

set_option autoImplicit false

namespace ObjectBridge

variable {β : Type} {host : HostId} {w : World β}

/-! ### Whole numbers -/

/-- The number fits 32 bits, one of them for the sign. -/
def Narrow (n : Int) : Prop := -2147483648 ≤ n ∧ n ≤ 2147483647

instance (n : Int) : Decidable (Narrow n) := inferInstanceAs (Decidable (_ ∧ _))

namespace Variant

/-- An integer of 32 bits is narrow. -/
theorem narrow_toInt (k : Int32) : Narrow k.toInt :=
  ⟨k.le_toInt, Int.le_of_lt_add_one k.toInt_lt⟩

/-- A number takes 32 bits exactly when they say which number it is. -/
theorem ofInt_eq_int32_iff {n : Int} {k : Int32} : ofInt n = .int32 k ↔ k.toInt = n := by
  constructor
  · intro h
    unfold ofInt at h
    split at h
    case isTrue hn =>
      cases h
      exact Int32.toInt_ofInt_of_le hn.1 (Int.lt_add_one_of_le hn.2)
    case isFalse => cases h
  · rintro rfl
    have hk : -2147483648 ≤ k.toInt ∧ k.toInt ≤ 2147483647 := narrow_toInt k
    rw [ofInt, if_pos hk, Int32.ofInt_toInt]

/-- It is the variant of the number it is. -/
theorem int32_eq_ofInt {n : Int} {k : Int32} (h : k.toInt = n) : .int32 k = ofInt n :=
  (ofInt_eq_int32_iff.mpr h).symm

/-- 32 bits without a sign are the same number with one, if it is not too
large. -/
theorem int32_eq_ofInt_of_le {n : UInt32} {m : Nat} (hn : n.toNat = m) (hm : m ≤ 2147483647) :
    .int32 n.toInt32 = ofInt m := by
  have hlt : 2 * n.toBitVec.toNat < 2 ^ 32 := by
    rw [UInt32.toNat_toBitVec]
    omega
  refine int32_eq_ofInt ?_
  rw [← Int32.toInt_toBitVec, UInt32.toBitVec_toInt32, BitVec.toInt_eq_toNat_of_lt hlt,
    UInt32.toNat_toBitVec, hn]

/-- A number that is not narrow becomes a double. -/
theorem ofInt_of_not_narrow {n : Int} (h : ¬ Narrow n) : ofInt n = .double (Float.ofInt n) :=
  if_neg h

end Variant

namespace NativeInt

/-- A signed integer becomes the variant of the number it is. -/
theorem ofSigned_eq (n : Int64) : ofSigned n = .ofInt n.toInt := by
  unfold ofSigned
  split
  case isTrue h =>
    have hlow : -2147483648 ≤ n.toInt := Int64.le_iff_toInt_le.mp h.1
    have hhigh : n.toInt ≤ 2147483647 := Int64.le_iff_toInt_le.mp h.2
    refine Variant.int32_eq_ofInt ?_
    rw [Int64.toInt_toInt32]
    exact Int.bmod_eq_of_le (by omega) (by omega)
  case isFalse h =>
    have hwide : ¬ Narrow n.toInt := fun hn =>
      h ⟨Int64.le_iff_toInt_le.mpr hn.1, Int64.le_iff_toInt_le.mpr hn.2⟩
    exact (Variant.ofInt_of_not_narrow hwide).symm

/-- So does an unsigned one. -/
theorem ofUnsigned_eq (n : UInt64) : ofUnsigned n = .ofInt n.toNat := by
  unfold ofUnsigned
  split
  case isTrue h =>
    have hhigh : n.toNat ≤ 2147483647 := UInt64.le_iff_toNat_le.mp h
    have hkept : n.toUInt32.toNat = n.toNat := by
      rw [UInt64.toNat_toUInt32]
      omega
    exact Variant.int32_eq_ofInt_of_le hkept hhigh
  case isFalse h =>
    have hwide : ¬ Narrow n.toNat := fun hn => h (UInt64.le_iff_toNat_le.mpr (Int.ofNat_le.mp hn.2))
    exact (Variant.ofInt_of_not_narrow hwide).symm

/-- Every width becomes the variant of the number. -/
theorem toVariant_eq (n : NativeInt) : n.toVariant = .ofInt n.toInt := by
  cases n with
  | int n => exact ofSigned_eq n
  | int64 n => exact ofSigned_eq n
  | int8 n => exact Variant.int32_eq_ofInt n.toInt_toInt32
  | int16 n => exact Variant.int32_eq_ofInt n.toInt_toInt32
  | int32 n => exact Variant.int32_eq_ofInt rfl
  | uint n => exact ofUnsigned_eq n
  | uint64 n => exact ofUnsigned_eq n
  | uint8 n =>
    have := n.toNat_lt
    exact Variant.int32_eq_ofInt_of_le n.toNat_toUInt32 (by omega)
  | uint16 n =>
    have := n.toNat_lt
    exact Variant.int32_eq_ofInt_of_le n.toNat_toUInt32 (by omega)
  | uint32 n =>
    have hkept : (n.toUInt64.toNat : Int) = n.toNat := congrArg Nat.cast n.toNat_toUInt64
    exact (ofUnsigned_eq n.toUInt64).trans (congrArg Variant.ofInt hkept)

end NativeInt

/-! ### Strings -/

/-- The host has bytes for the string. An empty one needs none. -/
def Till.Serves (t : Till) (bytes : Bytes) : Prop := bytes = [] ∨ t.Gives bytes.length

instance (t : Till) (bytes : Bytes) : Decidable (t.Serves bytes) :=
  inferInstanceAs (Decidable (_ ∨ _))

/-! ### Values -/

namespace NativeValue

/-- What a native value says, whatever its type. -/
inductive Content
  | nothing
  | bool (b : Bool)
  | whole (n : Int)
  | double (d : Float)
  | data (bytes : Bytes)

/-- What a value says. Objects, and variants that pass through, say nothing of
their own. -/
def content? : NativeValue → Option Content
  | .nothing => some .nothing
  | .bool b => some (.bool b)
  | .integer n => some (.whole n.toInt)
  | .single f => some (.double f.toFloat)
  | .double d => some (.double d)
  | .text bytes | .data bytes => some (.data bytes)
  | .variant _ | .owned _ | .object _ | .other _ => none

namespace Content

/-- There is a variant that says the same. Numbers that are too wide become
doubles instead. -/
def Fits : Content → Prop
  | .whole n => Narrow n
  | _ => True

/-- The bytes a host has to give out for it. -/
def needs : Content → Bytes
  | .data bytes => bytes
  | _ => []

end Content

/-- A native value becomes a variant, without a failure, and the host gives
out `n` bytes for it. -/
def Becomes (host : HostId) (w : World β) (x : NativeValue) (v : Variant) (n : Nat) : Prop :=
  ∃ made w', perform (x.toVariant host) w = (.ok made, w') ∧ handed made = (v, none) ∧
    w'.till host = (w.till host).take n

/-- A native value does not cross. Void is handed over with the failure, and
the host gives out no bytes. -/
def Fails (host : HostId) (w : World β) (x : NativeValue) (f : Failure) : Prop :=
  ∃ made w', perform (x.toVariant host) w = (.ok made, w') ∧ handed made = (.void, some f) ∧
    w'.till host = w.till host

/-- A value that needs no bytes. -/
theorem becomes_plain {x : NativeValue} {v : Variant}
    (h : perform (x.toVariant host) w = (.ok (.ok v), w)) :
    x.Becomes host w v 0 :=
  ⟨_, w, h, rfl, (Till.take_zero _).symm⟩

/-- An integer becomes the variant of its number and nothing else. -/
theorem becomes_integer_iff {n : NativeInt} {v : Variant} :
    (integer n).Becomes host w v 0 ↔ Variant.ofInt n.toInt = v := by
  rw [← n.toVariant_eq]
  constructor
  · rintro ⟨made, w', hrun, hmade, _⟩
    cases hrun
    cases hmade
    rfl
  · rintro rfl
    exact becomes_plain rfl

section

variable {bytes : Bytes}

/-- A string crosses when there are bytes for it, and takes as many. -/
theorem becomes_text (h : (w.till host).known = true) (hserves : (w.till host).Serves bytes) :
    (text bytes).Becomes host w (.string bytes) bytes.length := by
  rcases hserves with rfl | hgives
  · exact becomes_plain rfl
  · obtain ⟨w', hrun, htill⟩ := perform_valueFromString_given h hgives
    exact ⟨_, w', hrun, rfl, htill⟩

/-- A text that the till does not serve fails for want of bytes. -/
theorem fails_text (h : (w.till host).known = true) (hrefused : ¬ (w.till host).Serves bytes) :
    (text bytes).Fails host w (.allocation bytes.length) := by
  obtain ⟨hne, hgives⟩ := not_or.mp hrefused
  obtain ⟨w', hrun, htill⟩ := perform_valueFromString_of_not_gives h hne hgives
  exact ⟨_, w', hrun, rfl, htill⟩

end

/-- What a value says is what its variant says. -/
theorem exists_becomes {x : NativeValue} {c : Content} (h : (w.till host).known = true)
    (hc : x.content? = some c) (hfits : c.Fits) (hserves : (w.till host).Serves c.needs) :
    ∃ v, x.Becomes host w v c.needs.length ∧ (ofVariant v).content? = some c := by
  -- Values without content are no case, as their content would have to be given.
  cases x with
  | nothing =>
    cases hc
    exact ⟨.null, becomes_plain rfl, rfl⟩
  | bool b =>
    cases hc
    exact ⟨.bool b, becomes_plain rfl, rfl⟩
  | integer n =>
    cases hc
    have hk : (Int32.ofInt n.toInt).toInt = n.toInt :=
      Int32.toInt_ofInt_of_le hfits.1 (Int.lt_add_one_of_le hfits.2)
    exact ⟨.int32 (Int32.ofInt n.toInt),
      becomes_integer_iff.mpr (Variant.ofInt_eq_int32_iff.mpr hk),
      congrArg (some <| Content.whole ·) hk⟩
  | single f =>
    cases hc
    exact ⟨.double f.toFloat, becomes_plain rfl, rfl⟩
  | double d =>
    cases hc
    exact ⟨.double d, becomes_plain rfl, rfl⟩
  | text bytes =>
    cases hc
    exact ⟨.string bytes, becomes_text h hserves, rfl⟩
  | data bytes =>
    cases hc
    exact ⟨.string bytes, becomes_text h hserves, rfl⟩
  | variant v => cases hc
  | owned o => cases hc
  | object o => cases hc
  | other type => cases hc

/-- A variant that passes through the native side comes back. -/
theorem becomes_ofVariant {v : Variant} (h : (w.till host).known = true) (hplain : v.object? = none)
    (hvoid : v ≠ .void) (hserves : (w.till host).Serves v.asBytes) :
    (ofVariant v).Becomes host w v v.asBytes.length := by
  cases v with
  | void => exact absurd rfl hvoid
  | null => exact becomes_plain rfl
  | bool b => exact becomes_plain rfl
  | int32 k => exact becomes_plain rfl
  | double d => exact becomes_plain rfl
  | string bytes => exact becomes_text h hserves
  | object o => cases hplain

/-- Native values and variants survive the crossing. -/
structure Intact (host : HostId) (w : World β) : Prop where
  /-- A whole number of any width takes 32 bits, and is the same number there,
  exactly when it fits them. -/
  int32_iff : ∀ n : NativeInt,
    (∃ k : Int32, (integer n).Becomes host w (.int32 k) 0 ∧ k.toInt = n.toInt) ↔ Narrow n.toInt
  /-- Otherwise it is a double. -/
  double : ∀ n : NativeInt, ¬ Narrow n.toInt →
    (integer n).Becomes host w (.double (Float.ofInt n.toInt)) 0
  /-- It never takes 32 bits as another number. -/
  unwrapped : ∀ (n : NativeInt) (k : Int32), (integer n).Becomes host w (.int32 k) 0 →
    k.toInt = n.toInt
  /-- A native value that says something says it after it went to the boundary
  and back, wide numbers apart. -/
  there : ∀ (x : NativeValue) (c : Content), x.content? = some c → c.Fits →
    (w.till host).Serves c.needs → ∃ v, x.Becomes host w v c.needs.length ∧
    (ofVariant v).content? = some c
  /-- A variant is the same after it went to the native side and back. -/
  back : ∀ v : Variant, v.object? = none → v ≠ .void → (w.till host).Serves v.asBytes →
    (ofVariant v).Becomes host w v v.asBytes.length
  /-- Void is null then. -/
  back_void : (ofVariant .void).Becomes host w .null 0
  /-- Only bytes can be missing: then a string does not cross. -/
  refused : ∀ bytes : Bytes, ¬ (w.till host).Serves bytes →
    (text bytes).Fails host w (.allocation bytes.length) ∧
    (data bytes).Fails host w (.allocation bytes.length)
  /-- Objects that nobody handed over do not cross, nor does anything of
  another type. -/
  unsupported : (∀ o : ObjectRef, (object o).Fails host w (.unsupportedType o.typeName)) ∧
    ∀ type : String, (other type).Fails host w (.unsupportedType type)

/-- What crosses to a host that is there arrives as it was, or does not cross. -/
theorem intact (h : (w.till host).known = true) : Intact host w where
  int32_iff n := by
    simp only [becomes_integer_iff, Variant.ofInt_eq_int32_iff, and_self]
    constructor
    · rintro ⟨k, hk⟩
      exact hk ▸ Variant.narrow_toInt k
    · intro hn
      exact ⟨_, Int32.toInt_ofInt_of_le hn.1 (Int.lt_add_one_of_le hn.2)⟩
  double n hn := becomes_integer_iff.mpr (Variant.ofInt_of_not_narrow hn)
  unwrapped n k hk := Variant.ofInt_eq_int32_iff.mp (becomes_integer_iff.mp hk)
  there _ _ hc hfits hserves := exists_becomes h hc hfits hserves
  back _ hplain hvoid hserves := becomes_ofVariant h hplain hvoid hserves
  back_void := becomes_plain rfl
  refused _ hrefused := ⟨fails_text h hrefused, fails_text h hrefused⟩
  unsupported := ⟨fun _ => ⟨_, w, rfl, rfl, rfl⟩, fun _ => ⟨_, w, rfl, rfl, rfl⟩⟩

/-- The largest number without a sign is a double. A runtime with three bytes
left has room for one string, and not for bytes that are longer. -/
theorem intact_tight :
    (tightWorld.till (.script 0)).known = true ∧
      (integer (.uint32 4294967295)).Becomes (.script 0) tightWorld
      (.double (Float.ofInt 4294967295)) 0 ∧
      (ofVariant (.string [97, 98, 99])).Becomes (.script 0) tightWorld (.string [97, 98, 99]) 3 ∧
      (data [97, 98, 99, 100]).Fails (.script 0) tightWorld (.allocation 4) := by
  have hknown : (tightWorld.till (.script 0)).known = true := by decide
  have hintact : Intact (.script 0) tightWorld := intact hknown
  exact ⟨hknown, hintact.double (.uint32 4294967295) (by decide),
    hintact.back (.string [97, 98, 99]) rfl nofun
    (by decide), (hintact.refused [97, 98, 99, 100] (by decide)).2⟩

end NativeValue

end ObjectBridge

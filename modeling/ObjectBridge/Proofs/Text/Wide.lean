import ObjectBridge.Proofs.Text.Utf8
import ObjectBridge.Text.Wide

/-!
# `ObjectBridge.Proofs.Text.Wide`: wide text and UTF-8 say the same

Wide text that passes the check of `Wide.firstInvalid?` is what is written
for some scalar values (`firstInvalid?_eq_none_iff`), as UTF-8 is. Packing
its units into bytes loses nothing (`unpack_pack`). Between the two stands
a transcoder, of which it is only asked that it translates what is written
for scalar values (`IsStandard`). Then the two conversions undo each other
(`conversions_inverse`).
-/

set_option autoImplicit false

namespace ObjectBridge.Wide

open Utf8 (toNat_range toNat_ofNat)

variable {enc : WideEncoding}

/-! ### Units of scalar values -/

/-- The number of units of a scalar value. -/
def unitCount : WideEncoding → Char → Nat
  | .utf32, _ => 1
  | .utf16, c => if c.toNat < 0x10000 then 1 else 2

/-- A character takes as many units as are counted. -/
theorem length_unitsOf (enc : WideEncoding) (c : Char) :
    (unitsOf enc c).length = unitCount enc c := by
  cases enc with
  | utf32 => rfl
  | utf16 =>
    unfold unitsOf unitCount
    simp only
    split <;> rfl

/-- It takes one at least. -/
theorem unitsOf_ne_nil (enc : WideEncoding) (c : Char) : unitsOf enc c ≠ [] := by
  rw [← List.length_pos_iff, length_unitsOf]
  unfold unitCount
  split
  · exact Nat.one_pos
  · split <;> omega

/-- No characters take no units. -/
@[simp] theorem encode_nil (enc : WideEncoding) : encode enc [] = [] := rfl

/-- Characters are encoded one after the other. -/
theorem encode_cons (enc : WideEncoding) (c : Char) (cs : List Char) :
    encode enc (c :: cs) = unitsOf enc c ++ encode enc cs := List.flatMap_cons

/-- So are two portions of them. -/
theorem encode_append (enc : WideEncoding) (cs cs' : List Char) :
    encode enc (cs ++ cs') = encode enc cs ++ encode enc cs' := List.flatMap_append

/-- Only no characters take no units. -/
theorem encode_eq_nil_iff {cs : List Char} : encode enc cs = [] ↔ cs = [] := by
  cases cs with
  | nil => simp
  | cons c cs => simp [encode_cons, unitsOf_ne_nil]

/-- A number below 2³² is a unit. -/
theorem toNat_toUInt32 {n : Nat} (h : n < 2 ^ 32) : n.toUInt32.toNat = n := Nat.mod_eq_of_lt h

/-- A scalar value above U+FFFF is two units, halves of a pair. -/
theorem unitsOf_pair {c : Char} (h : 0x10000 ≤ c.toNat) :
    ∃ u v, unitsOf .utf16 c = [u, v] ∧ u.toNat = 0xD800 + (c.toNat - 0x10000) / 1024 ∧
      v.toNat = 0xDC00 + (c.toNat - 0x10000) % 1024 ∧ isHigh u = true ∧ isLow v = true := by
  have hrange := toNat_range c
  have hu : (0xD800 + (c.toNat - 0x10000) / 1024).toUInt32.toNat =
      0xD800 + (c.toNat - 0x10000) / 1024 :=
    toNat_toUInt32 (by omega)
  have hv : (0xDC00 + (c.toNat - 0x10000) % 1024).toUInt32.toNat =
      0xDC00 + (c.toNat - 0x10000) % 1024 :=
    toNat_toUInt32 (by omega)
  refine ⟨_, _, if_neg (by omega), hu, hv, ?_, ?_⟩
  · simp only [isHigh, hu, Bool.and_eq_true, decide_eq_true_eq]
    omega
  · simp only [isLow, hv, Bool.and_eq_true, decide_eq_true_eq]
    omega

/-- Any other is one unit, and half of no pair. -/
theorem not_surrogate (c : Char) : isHigh c.val = false ∧ isLow c.val = false := by
  have hrange : c.val.toNat < 0xD800 ∨ (0xDFFF < c.val.toNat ∧ c.val.toNat < 0x110000) :=
    toNat_range c
  simp only [isHigh, isLow, Bool.and_eq_false_iff, decide_eq_false_iff_not]
  omega

/-! ### Packing -/

/-- The units fit the bytes they are packed into. -/
def Fits (enc : WideEncoding) (units : List UInt32) : Prop :=
  enc = .utf16 → ∀ u ∈ units, u.toNat < 0x10000

/-- A unit is the one of its number. -/
theorem toUInt32_eq {u : UInt32} {n : Nat} (h : u.toNat = n) : n.toUInt32 = u := by
  subst h
  exact UInt32.ofNat_toNat

/-- A number is cut off at a byte. -/
theorem toNat_byte (n : Nat) : n.toUInt8.toNat = n % 0x100 := rfl

/-- Packing loses nothing of units that fit. -/
theorem unpack_pack {units : List UInt32} (h : Fits enc units) :
    unpack enc (pack enc units) = units := by
  unfold pack
  cases enc with
  | utf32 =>
    show unpack32 (units.flatMap (unitBytes .utf32)) = units
    induction units with
    | nil => rfl
    | cons u units ih =>
      -- The digits of a unit to the base of 256 make it up again.
      have hu := u.toNat_lt
      rw [List.flatMap_cons, unitBytes, List.cons_append, List.cons_append, List.cons_append,
        List.singleton_append, unpack32, ih fun h => nomatch h]
      simp only [toNat_byte]
      rw [toUInt32_eq (u := u) (by omega)]
  | utf16 =>
    show unpack16 (units.flatMap (unitBytes .utf16)) = units
    induction units with
    | nil => rfl
    | cons u units ih =>
      have hu := h rfl u List.mem_cons_self
      rw [List.flatMap_cons, unitBytes, List.cons_append, List.singleton_append, unpack16,
        ih fun _ v hv => h rfl v (List.mem_cons_of_mem _ hv)]
      simp only [toNat_byte]
      rw [toUInt32_eq (u := u) (by omega)]

/-- The units of scalar values fit. -/
theorem fits_encode (enc : WideEncoding) (cs : List Char) : Fits enc (encode enc cs) := by
  rintro rfl u hu
  obtain ⟨c, _, hu⟩ := List.mem_flatMap.mp hu
  have hrange := toNat_range c
  by_cases h : c.toNat < 0x10000
  · rw [unitsOf] at hu
    simp only [if_pos h, List.mem_singleton] at hu
    exact hu ▸ h
  · obtain ⟨u', v', hunits, hu', hv', _, _⟩ := unitsOf_pair (Nat.le_of_not_lt h)
    rw [hunits] at hu
    simp only [List.mem_cons, List.not_mem_nil, or_false] at hu
    rcases hu with rfl | rfl <;> omega

/-! ### The check -/

/-- Nothing is wrong with the units of scalar values. -/
theorem firstInvalid?_encode (enc : WideEncoding) (cs : List Char) :
    firstInvalid? enc (encode enc cs) = none := by
  cases enc with
  | utf32 =>
    show firstInvalid32 0 (encode .utf32 cs) = none
    -- The induction is over any place to start at.
    generalize 0 = place
    induction cs generalizing place with
    | nil => rfl
    | cons c cs ih =>
      obtain ⟨hhigh, hlow⟩ := not_surrogate c
      have hrange : c.val.toNat < 0xD800 ∨ (0xDFFF < c.val.toNat ∧ c.val.toNat < 0x110000) :=
        toNat_range c
      have hok : ¬ (decide (0x10FFFF < c.val.toNat) || isHigh c.val || isLow c.val) = true := by
        rw [hhigh, hlow, decide_eq_false (by omega)]
        exact Bool.false_ne_true
      rw [encode_cons, unitsOf, List.singleton_append, firstInvalid32, if_neg hok, ih]
  | utf16 =>
    show firstInvalid16 0 (encode .utf16 cs) = none
    generalize 0 = place
    induction cs generalizing place with
    | nil => rfl
    | cons c cs ih =>
      by_cases h : c.toNat < 0x10000
      · obtain ⟨hhigh, hlow⟩ := not_surrogate c
        have hwide : ¬ 0xFFFF < c.val.toNat := Nat.not_lt.mpr (Nat.le_of_lt_succ h)
        rw [encode_cons, unitsOf]
        simp only [if_pos h, List.singleton_append]
        rw [firstInvalid16.eq_def]
        simp only
        rw [if_neg hwide, hhigh, hlow]
        exact ih _
      · obtain ⟨u, v, hunits, hu, hv, hhigh, hlow⟩ := unitsOf_pair (Nat.le_of_not_lt h)
        have hrange := toNat_range c
        have hwide : ¬ 0xFFFF < u.toNat := by omega
        rw [encode_cons, hunits, List.cons_append, List.singleton_append, firstInvalid16,
          if_neg hwide, if_pos hhigh]
        simp only [if_pos hlow]
        exact ih _

/-- A unit that is a scalar value is its own UTF-32 form. -/
theorem exists_val_eq {u : UInt32} (hwide : u.toNat ≤ 0x10FFFF) (hhigh : isHigh u = false)
    (hlow : isLow u = false) :
    ∃ c : Char, c.val = u := by
  simp only [isHigh, isLow, Bool.and_eq_false_iff, decide_eq_false_iff_not] at hhigh hlow
  exact ⟨⟨u, show u.toNat < 0xD800 ∨ (0xDFFF < u.toNat ∧ u.toNat < 0x110000) by omega⟩, rfl⟩

/-- A pair of halves is the UTF-16 form of a scalar value. -/
theorem exists_unitsOf_pair {u v : UInt32} (hhigh : isHigh u = true) (hlow : isLow v = true) :
    ∃ c, unitsOf .utf16 c = [u, v] := by
  simp only [isHigh, isLow, Bool.and_eq_true, decide_eq_true_eq] at hhigh hlow
  have hn : (Char.ofNat (0x10000 + (u.toNat - 0xD800) * 1024 + (v.toNat - 0xDC00))).toNat
      = 0x10000 + (u.toNat - 0xD800) * 1024 + (v.toNat - 0xDC00) := toNat_ofNat (by omega)
  refine ⟨Char.ofNat (0x10000 + (u.toNat - 0xD800) * 1024 + (v.toNat - 0xDC00)), ?_⟩
  simp only [unitsOf]
  rw [hn, if_neg (by omega), toUInt32_eq (u := u) (by omega), toUInt32_eq (u := v) (by omega)]

/-- Units with which nothing is wrong are those of scalar values. -/
theorem exists_of_firstInvalid32 {place : Nat} {units : List UInt32}
    (h : firstInvalid32 place units = none) :
    ∃ cs, units = encode .utf32 cs := by
  induction units generalizing place with
  | nil => exact ⟨[], rfl⟩
  | cons u units ih =>
    rw [firstInvalid32] at h
    split at h
    · cases h
    next hok =>
      simp only [Bool.or_eq_true, decide_eq_true_eq, not_or, Bool.not_eq_true] at hok
      obtain ⟨cs, hcs⟩ := ih h
      obtain ⟨c, hc⟩ := exists_val_eq (Nat.le_of_not_lt hok.1.1) hok.1.2 hok.2
      exact ⟨c :: cs, by rw [encode_cons, unitsOf, hc, hcs, List.singleton_append]⟩

/-- Where nothing is invalid the units encode characters. -/
theorem exists_of_firstInvalid16 {place : Nat} {units : List UInt32}
    (h : firstInvalid16 place units = none) :
    ∃ cs, units = encode .utf16 cs := by
  -- The search passes over a pair and over a unit that stands for itself, and stops at anything
  -- else.
  fun_induction firstInvalid16 place units with
  | case1 => exact ⟨[], rfl⟩
  | case2 => cases h
  | case3 place u hwide hhigh v rest hlow ih =>
    obtain ⟨cs, hcs⟩ := ih h
    obtain ⟨c, hc⟩ := exists_unitsOf_pair hhigh hlow
    exact ⟨c :: cs, by rw [encode_cons, hc, hcs]; rfl⟩
  | case4 => cases h
  | case5 => cases h
  | case6 => cases h
  | case7 place u rest hwide hhigh hlow ih =>
    obtain ⟨cs, hcs⟩ := ih h
    rw [Bool.not_eq_true] at hhigh hlow
    obtain ⟨c, hc⟩ := exists_val_eq (by omega) hhigh hlow
    have hone : c.toNat < 0x10000 := by
      have hval : c.toNat = u.toNat := congrArg UInt32.toNat hc
      omega
    refine ⟨c :: cs, ?_⟩
    rw [encode_cons, unitsOf, hcs]
    simp only [if_pos hone, hc, List.singleton_append]

/-- Nothing is wrong exactly with the units of scalar values. -/
theorem firstInvalid?_eq_none_iff {units : List UInt32} :
    firstInvalid? enc units = none ↔ ∃ cs, units = encode enc cs := by
  constructor
  · cases enc with
    | utf32 => exact exists_of_firstInvalid32
    | utf16 => exact exists_of_firstInvalid16
  · rintro ⟨cs, rfl⟩
    exact firstInvalid?_encode enc cs

/-! ### Transcoders -/

/-- A transcoder does what it is for: it translates what is written for
scalar values, U+FEFF included, in either direction. Of other input
nothing is said. -/
structure Transcoder.IsStandard (t : Transcoder) (enc : WideEncoding) : Prop where
  toWide : ∀ cs, t.toWide (Utf8.encode cs) = .ok (pack enc (encode enc cs))
  toNarrow : ∀ cs, t.toNarrow (pack enc (encode enc cs)) = .ok (Utf8.encode cs)

/-- Units of scalar values are read without replacement. -/
theorem scalars_encode (enc : WideEncoding) (cs : List Char) :
    scalars enc (encode enc cs) = cs := by
  have hvalid : ∀ c : Char, c.val.toNat.isValidChar := fun c => c.valid
  cases enc with
  | utf32 =>
    show scalars32 (encode .utf32 cs) = cs
    induction cs with
    | nil => rfl
    | cons c cs ih =>
      unfold scalars32 at ih ⊢
      rw [encode_cons, unitsOf, List.singleton_append, List.map_cons, if_pos (hvalid c), ih]
      exact congrArg (· :: cs) (Char.ofNat_toNat c)
  | utf16 =>
    show scalars16 (encode .utf16 cs) = cs
    induction cs with
    | nil => rfl
    | cons c cs ih =>
      -- A scalar value of the first plane is one unit, and any other one a pair.
      by_cases h : c.toNat < 0x10000
      · obtain ⟨hhigh, _⟩ := not_surrogate c
        have hchar : Char.ofNat c.val.toNat = c := Char.ofNat_toNat c
        rw [encode_cons, unitsOf]
        simp only [if_pos h, List.singleton_append]
        cases hrest : encode .utf16 cs with
        | nil =>
          rw [encode_eq_nil_iff] at hrest
          rw [scalars16, if_pos (hvalid c), hchar, hrest]
        | cons v rest =>
          rw [hrest] at ih
          rw [scalars16, hhigh, if_pos (hvalid c), hchar, ih]
          rfl
      · obtain ⟨u, v, hunits, hu, hv, hhigh, hlow⟩ := unitsOf_pair (Nat.le_of_not_lt h)
        have hrange := toNat_range c
        have hchar : Char.ofNat (0x10000 + (u.toNat - 0xD800) * 1024 + (v.toNat - 0xDC00)) = c := by
          rw [show 0x10000 + (u.toNat - 0xD800) * 1024 + (v.toNat - 0xDC00) = c.toNat by omega]
          exact Char.ofNat_toNat c
        rw [encode_cons, hunits, List.cons_append, List.singleton_append, scalars16, hhigh,
          hlow, hchar, ih]
        rfl

/-- The transcoder the program has is one. -/
theorem isStandard_transcoder (enc : WideEncoding) : (transcoder enc).IsStandard enc where
  toWide cs := by
    simp only [transcoder]
    rw [Utf8.decodeLossy_encode]
  toNarrow cs := by
    simp only [transcoder]
    rw [unpack_pack (fits_encode enc cs), scalars_encode]

/-! ### Conversions -/

variable {t : Transcoder}

/-- UTF-8 becomes the units of its scalar values. -/
theorem ofUtf8With_encode (ht : t.IsStandard enc) (cs : List Char) :
    ofUtf8With t enc (Utf8.encode cs) = .ok (encode enc cs) := by
  unfold ofUtf8With
  split
  next hnil => rw [Utf8.encode_eq_nil_iff.mp hnil, encode_nil]
  next =>
    rw [Utf8.isValid_iff.mpr ⟨cs, rfl⟩, ht.toWide]
    simp only [Bool.not_true, Bool.false_eq_true, if_false]
    rw [unpack_pack (fits_encode enc cs)]

/-- The units of scalar values become their UTF-8 form. -/
theorem toUtf8With_encode (ht : t.IsStandard enc) (cs : List Char) :
    toUtf8With t enc (encode enc cs) = .ok (Utf8.encode cs) := by
  unfold toUtf8With
  split
  next hnil => rw [encode_eq_nil_iff.mp hnil, Utf8.encode_nil]
  next => rw [firstInvalid?_encode, ht.toNarrow]

/-- Nothing else becomes UTF-8. -/
theorem exists_of_toUtf8With {units : List UInt32} {bs : Bytes}
    (h : toUtf8With t enc units = .ok bs) :
    ∃ cs, units = encode enc cs := by
  unfold toUtf8With at h
  split at h
  next hnil => exact ⟨[], hnil⟩
  next =>
    split at h
    · cases h
    next hok => exact firstInvalid?_eq_none_iff.mp hok

/-- The conversions undo each other, and go one scalar value at a time. -/
theorem conversions_inverse (ht : t.IsStandard enc) :
    (∀ bs, Utf8.isValid bs = true →
      ∃ units, ofUtf8With t enc bs = .ok units ∧ toUtf8With t enc units = .ok bs) ∧
    (∀ units bs, toUtf8With t enc units = .ok bs → ofUtf8With t enc bs = .ok units) ∧
    (∀ bs bs', Utf8.isValid bs = true → Utf8.isValid bs' = true →
      ∃ units units', ofUtf8With t enc bs = .ok units ∧ ofUtf8With t enc bs' = .ok units' ∧
        ofUtf8With t enc (bs ++ bs') = .ok (units ++ units')) ∧
    (∀ bs cs, Utf8.decode bs = .ok cs →
      ∃ pieces, ofUtf8With t enc bs = .ok (List.flatten pieces) ∧
        List.Forall₂ (fun c piece => ofUtf8With t enc (Utf8.encodeChar c) = .ok piece ∧
          piece.length = unitCount enc c) cs pieces) := by
  -- All of it goes by the characters that the bytes or the units encode.
  refine ⟨fun bs h => ?_, fun units bs h => ?_, fun bs bs' h h' => ?_, fun bs cs h => ?_⟩
  · obtain ⟨cs, rfl⟩ := Utf8.isValid_iff.mp h
    exact ⟨_, ofUtf8With_encode ht cs, toUtf8With_encode ht cs⟩
  · obtain ⟨cs, rfl⟩ := exists_of_toUtf8With h
    rw [toUtf8With_encode ht] at h
    cases h
    exact ofUtf8With_encode ht cs
  · obtain ⟨cs, rfl⟩ := Utf8.isValid_iff.mp h
    obtain ⟨cs', rfl⟩ := Utf8.isValid_iff.mp h'
    refine ⟨_, _, ofUtf8With_encode ht cs, ofUtf8With_encode ht cs', ?_⟩
    rw [← Utf8.encode_append, ofUtf8With_encode ht, encode_append]
  · rw [Utf8.decode_eq_ok_iff] at h
    subst h
    refine ⟨cs.map (unitsOf enc), ofUtf8With_encode ht cs, ?_⟩
    have hone : ∀ c, ofUtf8With t enc (Utf8.encodeChar c) = .ok (unitsOf enc c) := fun c => by
      have h := ofUtf8With_encode ht [c]
      rwa [Utf8.encode_cons, Utf8.encode_nil, List.append_nil, encode_cons, encode_nil,
        List.append_nil] at h
    exact List.forall₂_map_right_iff.mpr (List.forall₂_same.mpr fun c _ =>
      ⟨hone c, length_unitsOf enc c⟩)

/-- U+FEFF, a zero byte, U+FFFD and a pair, with the transcoder the
program has. -/
theorem conversions_inverse_utf16 :
    (transcoder .utf16).IsStandard .utf16 ∧
      ∃ units, ofUtf8With (transcoder .utf16) .utf16
          [0xEF, 0xBB, 0xBF, 0x00, 0xEF, 0xBF, 0xBD, 0xF0, 0x9F, 0x98, 0x80] = .ok units ∧
        toUtf8With (transcoder .utf16) .utf16 units
          = .ok [0xEF, 0xBB, 0xBF, 0x00, 0xEF, 0xBF, 0xBD, 0xF0, 0x9F, 0x98, 0x80] :=
  ⟨isStandard_transcoder .utf16, (conversions_inverse (isStandard_transcoder .utf16)).1 _
    (by decide)⟩

end ObjectBridge.Wide

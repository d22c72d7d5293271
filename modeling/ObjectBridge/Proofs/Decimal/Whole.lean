import Mathlib
import ObjectBridge.Decimal.Notation

/-!
# `ObjectBridge.Proofs.Decimal.Whole`: whole numbers as doubles

Scripts have one kind of number, the boundary has two. That a 32-bit number
survives the way through a script rests on three facts about doubles:

* a whole number below `2 ^ 53` is converted without rounding
  (`ofFloat_ofInt`), so it is read back from its double (`toInt?_ofInt`);
* its double is never negative zero (`isNegativeZero_ofInt`);
* it has no other double, negative zero apart (`eq_ofInt`).

A conversion spreads the number over all the bits of a mantissa
(`spread`), and what has a full mantissa is neither rounded
(`roundWithAccuracy_eq`) nor changed by packing (`unpack_pack`).
-/

set_option autoImplicit false

namespace ObjectBridge

open Float.Model (Format UnpackedFloat)
open Float.Model.UnpackedFloat

namespace Double

variable {s : Sign} {m n k : Nat} {e : Int}

/-- A mantissa that uses all its bits. -/
structure Full (m : Nat) : Prop where
  low : 2 ^ 52 ≤ m
  high : m < 2 ^ 53

/-- A full significand is positive. -/
theorem Full.pos (h : Full m) : 0 < m := Nat.lt_of_lt_of_le (by decide) h.low

/-- It has 53 bits. -/
theorem Full.log2 (h : Full m) : m.log2 = 52 := (Nat.log2_eq_iff h.pos.ne').mpr ⟨h.low, h.high⟩

/-! ### Rounding what is exact -/

/-- Bits that are zero are dropped without a trace. -/
theorem shiftRight_exact (m k : Nat) :
    (⟨m * 2 ^ k, false, false⟩ : ExtendedMantissa) >>> k = ⟨m, false, false⟩ := by
  show k.repeat ExtendedMantissa.shiftRightOne _ = _
  induction k generalizing m with
  | zero => simp [Nat.repeat]
  | succ k ih =>
    rw [Nat.repeat, Nat.pow_succ', ← Nat.mul_assoc, ih]
    simp [ExtendedMantissa.shiftRightOne]

/-- A shift adds to the logarithm. -/
theorem log2_mul_two_pow (hm : 0 < m) (k : Nat) : (m * 2 ^ k).log2 = m.log2 + k := by
  have hk : 0 < 2 ^ k := Nat.two_pow_pos k
  refine (Nat.log2_eq_iff (Nat.mul_pos hm hk).ne').mpr ⟨?_, ?_⟩
  · rw [Nat.pow_add]
    exact Nat.mul_le_mul_right _ (Nat.log2_self_le hm.ne')
  · rw [Nat.add_right_comm, Nat.pow_add]
    exact Nat.mul_lt_mul_of_pos_right Nat.lt_log2_self hk

/-- A full significand that was shifted keeps its exponent. -/
theorem targetExponent_eq (h : Full m) (k : Nat) (he : -1074 ≤ e) :
    Format.binary64.targetExponent (Float.Model.totalExponent (m * 2 ^ k) (e - k)) = e := by
  simp only [Format.targetExponent, Float.Model.totalExponent, log2_mul_two_pow h.pos, h.log2,
    Format.mantissaBits, Format.minExponent]
  omega

/-- A mantissa with zeros behind it loses the zeros and nothing else. -/
theorem shiftToTargetExponent_eq (h : Full m) (k : Nat) (he : -1074 ≤ e) :
    shiftToTargetExponent .binary64 (m * 2 ^ k) (e - k) .exact = (⟨m, false, false⟩, e) := by
  have hk : (e - (e - (k : Int))).toNat = k := by omega
  simp only [shiftToTargetExponent, targetExponent_eq h k he, shiftToExponent,
    ExtendedMantissa.ofMantissaAndAccuracy, hk, shiftRight_exact]
  congr 1
  omega

/-- Shifted back, it is rounded to itself. -/
theorem roundWithAccuracy_eq (h : Full m) (k : Nat) (he : -1074 ≤ e) :
    roundWithAccuracy .binary64 s (m * 2 ^ k) (e - k) .exact = .finite s m e h.pos := by
  have hfull := shiftToTargetExponent_eq h 0 he
  rw [Nat.pow_zero, Nat.mul_one, Nat.cast_zero, Int.sub_zero] at hfull
  simp only [roundWithAccuracy, shiftToTargetExponent_eq h k he, ExtendedMantissa.roundedMantissa,
    ExtendedMantissa.accuracy, Accuracy.roundToNearestEven, hfull, h.pos.ne', dite_false]

/-- A number below `2 ^ 53` in all the bits of a mantissa. -/
def spread (n : Nat) : Nat := n * 2 ^ (52 - n.log2)

/-- A number that fits is spread to a full significand. -/
theorem full_spread (hn : 0 < n) (h : n < 2 ^ 53) : Full (spread n) := by
  have hlog : n.log2 < 53 := (Nat.log2_lt hn.ne').mpr h
  have hpow : 2 ^ (52 - n.log2) * 2 ^ n.log2 = 2 ^ 52 := by
    rw [← Nat.pow_add]
    congr 1
    omega
  constructor
  · calc 2 ^ 52 = 2 ^ n.log2 * 2 ^ (52 - n.log2) := by rw [Nat.mul_comm, hpow]
      _ ≤ spread n := Nat.mul_le_mul_right _ (Nat.log2_self_le hn.ne')
  · calc spread n < 2 ^ (n.log2 + 1) * 2 ^ (52 - n.log2) :=
          Nat.mul_lt_mul_of_pos_right Nat.lt_log2_self (Nat.two_pow_pos _)
      _ = 2 * 2 ^ 52 := by rw [Nat.pow_succ', Nat.mul_assoc, Nat.mul_comm (2 ^ n.log2), hpow]
      _ = 2 ^ 53 := rfl

/-- Rounding it gives that significand. -/
theorem round_eq (hn : 0 < n) (h : n < 2 ^ 53) :
    UnpackedFloat.round .binary64 s n 0 =
      .finite s (spread n) (n.log2 - 52) (full_spread hn h).pos := by
  have hlog : n.log2 < 53 := (Nat.log2_lt hn.ne').mpr h
  have htarget : Format.binary64.targetExponent (Float.Model.totalExponent n 0) =
      (n.log2 : Int) - 52 := by
    simp only [Format.targetExponent, Float.Model.totalExponent, Format.mantissaBits,
      Format.minExponent]
    omega
  have hshift : (0 - ((n.log2 : Int) - 52)).toNat = 52 - n.log2 := by omega
  have hexponent : (0 : Int) - (52 - n.log2 : Nat) = (n.log2 : Int) - 52 := by omega
  have hfull := roundWithAccuracy_eq (s := s) (full_spread hn h) 0
      (e := (n.log2 : Int) - 52) (by omega)
  rw [Nat.pow_zero, Nat.mul_one, Nat.cast_zero, Int.sub_zero] at hfull
  simp only [UnpackedFloat.round, htarget, decreaseExponent, hshift, hexponent, Nat.shiftLeft_eq]
  exact hfull

/-! ### Packing -/

/-- Packed bits are sign, exponent and fraction in a row. -/
theorem toNat_packComponents (s : Sign) (x : BitVec 11) (y : BitVec 52) :
    (packComponents .binary64 s x y).toNat =
      s.toBitVec.toNat * 9223372036854775808 + x.toNat * 4503599627370496 + y.toNat := by
  have hx := x.isLt
  have hy := y.isLt
  show (s.toBitVec ++ x ++ y).toNat = _
  rw [BitVec.toNat_append, BitVec.toNat_append, ← Nat.shiftLeft_add_eq_or_of_lt hx,
    ← Nat.shiftLeft_add_eq_or_of_lt hy, Nat.shiftLeft_eq, Nat.shiftLeft_eq]
  ring

/-- The bits of a number with a full mantissa. -/
theorem toNat_pack (h : Full m) (he : -1074 ≤ e) (he' : e ≤ 971) :
    (pack .binary64 (.finite s m e h.pos)).toNat =
      s.toBitVec.toNat * 9223372036854775808 + (e + 1075).toNat * 4503599627370496 +
      (m - 4503599627370496) := by
  have hlow := h.low
  have hhigh := h.high
  have hfits : ¬2 ^ 11 ≤ (e + (1023 : Nat) + (52 : Nat)).toNat + 1 := by omega
  have hpack : pack .binary64 (.finite s m e h.pos) =
      packComponents .binary64 s (BitVec.ofNat 11 (e + (1023 : Nat) + (52 : Nat)).toNat)
      (BitVec.ofNat 52 m) := by
    have hbias : Format.binary64.exponentBias = 1023 := rfl
    simp only [pack, hbias]
    rw [if_neg hfits, if_pos (by rw [h.log2]; rfl)]
  rw [hpack, toNat_packComponents, BitVec.toNat_ofNat, BitVec.toNat_ofNat]
  omega

/-- The sign comes out again. -/
theorem unpackSign_packComponents (s : Sign) (x : BitVec 11) (y : BitVec 52) :
    unpackSign (packComponents .binary64 s x y) = s.toBitVec := by
  have hs := s.toBitVec.isLt
  have hx := x.isLt
  have hy := y.isLt
  refine BitVec.eq_of_toNat_eq ?_
  show (((packComponents .binary64 s x y).extractLsb 63 63).cast _).toNat = _
  rw [BitVec.toNat_cast, BitVec.extractLsb_toNat, Nat.shiftRight_eq_div_pow, toNat_packComponents]
  omega

/-- A number with a full mantissa is unpacked as it was packed. -/
theorem unpack_pack (h : Full m) (he : -1074 ≤ e) (he' : e ≤ 971) :
    (Float.Model.pack (.finite s m e h.pos)).unpack = .finite s m e h.pos := by
  have hlow := h.low
  have hhigh := h.high
  have hbias : Format.binary64.exponentBias = 1023 := rfl
  have hfits : ¬2 ^ 11 ≤ (e + (1023 : Nat) + (52 : Nat)).toNat + 1 := by omega
  -- The exponent and the mantissa fit their fields, so that they are read back as they are.
  have hexponent : (BitVec.ofNat 11 (e + (1023 : Nat) + (52 : Nat)).toNat).toNat =
      (e + 1075).toNat := by
    rw [BitVec.toNat_ofNat]
    omega
  have hmantissa : (1#1 ++ BitVec.ofNat 52 m).toNat = m := by
    rw [BitVec.toNat_append, ← Nat.shiftLeft_add_eq_or_of_lt (BitVec.isLt _), Nat.shiftLeft_eq,
      BitVec.toNat_ofNat]
    show 1 * 2 ^ 52 + m % 2 ^ 52 = m
    omega
  have hsign : Sign.ofBitVec s.toBitVec = s := by cases s <;> rfl
  -- An exponent in between stands neither for infinity nor for a subnormal number.
  have hlast : BitVec.ofNat 11 (e + (1023 : Nat) + (52 : Nat)).toNat ≠ -1#11 := fun hx => by
    rw [hx] at hexponent
    have : (2047 : Nat) = (e + 1075).toNat := hexponent
    omega
  have hfirst : BitVec.ofNat 11 (e + (1023 : Nat) + (52 : Nat)).toNat ≠ 0#11 := fun hx => by
    rw [hx] at hexponent
    have : (0 : Nat) = (e + 1075).toNat := hexponent
    omega
  show unpack .binary64 (pack .binary64 _) = _
  simp only [pack, hbias]
  rw [if_neg hfits, if_pos (by rw [h.log2]; rfl)]
  simp only [unpack, unpackExponent_packComponents, unpackMantissa_packComponents,
    unpackSign_packComponents, hbias]
  rw [if_neg hlast, if_neg hfirst]
  simp only [hexponent, hmantissa, hsign, UnpackedFloat.finite.injEq, true_and]
  omega

/-! ### Whole numbers -/

/-- The double of a whole number with a full mantissa. -/
def ofFull (s : Sign) (m : Nat) (e : Int) (h : Full m) : Float :=
  .ofModel (.pack (.finite s m e h.pos))

/-- A natural number that fits is the double of its significand. -/
theorem ofNat_eq (hn : 0 < n) (h : n < 2 ^ 53) :
    Float.ofNat n = ofFull .positive (spread n) (n.log2 - 52) (full_spread hn h) := by
  have hlog : n.log2 < 53 := (Nat.log2_lt hn.ne').mpr h
  have hfull := full_spread hn h
  -- A natural number is read as a decimal fraction: it is multiplied by a power of ten, here by
  -- one.
  have hone : Float.exactlyRepresentablePowersOfTen[0].toModel.unpack =
      .finite .positive (2 ^ 52) (-52) (by decide) := by
    rfl
  have hsize : n.toUInt64.toNat = n := UInt64.toNat_ofNat_of_lt' (by
    show n < 2 ^ 64
    omega)
  have hconverted : Float.Model.ofUInt64 n.toUInt64 =
      .pack (.finite .positive (spread n) (n.log2 - 52) hfull.pos) := by
    have hpositive : compare (n : Int) 0 = .gt := Int.compare_eq_gt.mpr (by omega)
    simp only [Float.Model.ofUInt64, ofUInt64, ofNat, ofInt, UnpackedFloat.normalize,
      hsize, hpositive, Int.toNat_natCast, round_eq hn h]
  -- Multiplying by one rounds nothing, as the mantissa has full width already.
  have hmul : mul .binary64 (.finite .positive (spread n) (n.log2 - 52) hfull.pos)
      (.finite .positive (2 ^ 52) (-52) (by decide)) =
      .finite .positive (spread n) (n.log2 - 52) hfull.pos :=
    roundWithAccuracy_eq hfull 52 (by omega)
  have hofNat : Float.ofNat n = n.toUInt64.toFloat * Float.exactlyRepresentablePowersOfTen[0] :=
    dif_pos ⟨h, by decide⟩
  rw [hofNat]
  show Float.ofModel (Float.Model.pack (mul .binary64 (Float.Model.ofUInt64 _).unpack
    Float.exactlyRepresentablePowersOfTen[0].toModel.unpack)) = _
  rw [hconverted, unpack_pack hfull (by omega) (by omega), hone, hmul]
  rfl

/-- The fields of the bits. -/
theorem ofBits_eq (bits : UInt64) :
    ofBits bits =
      if bits.toNat / 4503599627370496 % 2048 = 2047 then
        if bits.toNat % 4503599627370496 = 0 then .infinite (bits.toNat / 9223372036854775808 == 1)
        else .nan
      else if bits.toNat / 4503599627370496 % 2048 = 0 then
        .finite (bits.toNat / 9223372036854775808 == 1) (bits.toNat % 4503599627370496) (-1074)
      else .finite (bits.toNat / 9223372036854775808 == 1)
        (4503599627370496 + bits.toNat % 4503599627370496)
        (((bits.toNat / 4503599627370496 % 2048 : Nat) : Int) - 1075) := rfl

/-- The bits of a finite value: one value, one pattern of bits. -/
theorem toNat_of_ofBits {bits : UInt64} {negative : Bool} (h : ofBits bits = .finite negative m e) :
    bits.toNat = (if negative then 9223372036854775808 else 0) +
      if m < 4503599627370496 then m else (e + 1075).toNat * 4503599627370496 +
      (m - 4503599627370496) := by
  have h64 := bits.toNat_lt
  have hsign : negative = (bits.toNat / 9223372036854775808 == 1) →
      (if negative then 9223372036854775808 else 0) = bits.toNat / 9223372036854775808 *
      9223372036854775808 := by
    rintro rfl
    split
    case isTrue hs =>
      rw [beq_iff_eq] at hs
      omega
    case isFalse hs =>
      rw [beq_iff_eq] at hs
      omega
  -- The exponent field tells subnormal values from normal ones.
  rw [ofBits_eq] at h
  split at h
  case isTrue => split at h <;> cases h
  case isFalse =>
    split at h
    · simp only [finite.injEq] at h
      obtain ⟨hs, hm, -⟩ := h
      rw [hsign hs.symm, if_pos (by omega)]
      omega
    · simp only [finite.injEq] at h
      obtain ⟨hs, hm, he⟩ := h
      rw [hsign hs.symm, if_neg (by omega)]
      omega

/-- Doubles with the same finite value are the same. -/
theorem eq_of_ofFloat_eq {d d' : Float} {negative : Bool} (h : ofFloat d = .finite negative m e)
    (h' : ofFloat d' = .finite negative m e) : d = d' := by
  obtain ⟨⟨a, ha⟩⟩ := d
  obtain ⟨⟨b, hb⟩⟩ := d'
  have hbits : a = b := UInt64.toNat_inj.mp ((toNat_of_ofBits h).trans (toNat_of_ofBits h').symm)
  subst hbits
  rfl

/-- The value of a double with a full mantissa. -/
theorem ofFloat_ofFull (h : Full m) (he : -1074 ≤ e) (he' : e ≤ 971) :
    ofFloat (ofFull s m e h) = .finite (s.toBitVec.toNat == 1) m e := by
  have hlow := h.low
  have hhigh := h.high
  have hs := s.toBitVec.isLt
  have hbits : (ofFull s m e h).toBits.toNat =
      s.toBitVec.toNat * 9223372036854775808 + (e + 1075).toNat * 4503599627370496 +
      (m - 4503599627370496) :=
    toNat_pack h he he'
  have hexponent : (ofFull s m e h).toBits.toNat / 4503599627370496 % 2048 = (e + 1075).toNat := by
    omega
  have hsign : (ofFull s m e h).toBits.toNat / 9223372036854775808 = s.toBitVec.toNat := by omega
  have hfraction : (ofFull s m e h).toBits.toNat % 4503599627370496 = m - 4503599627370496 := by
    omega
  rw [ofFloat, ofBits_eq, hexponent, hsign, hfraction, if_neg (by omega), if_neg (by omega)]
  simp only [finite.injEq, true_and]
  omega

/-- The double of a whole number. -/
def ofWhole (n : Int) : Double :=
  if n = 0 then .finite false 0 (-1074) else .finite (n < 0) (spread n.natAbs) (n.natAbs.log2 - 52)

/-- An integer that fits is whole as a double. -/
theorem ofFloat_ofInt {n : Int} (h : n.natAbs < 2 ^ 53) : ofFloat (Float.ofInt n) = ofWhole n := by
  have hlog {k : Nat} (hk : 0 < k) (h : k < 2 ^ 53) : k.log2 < 53 := (Nat.log2_lt hk.ne').mpr h
  -- Both signs go by the mantissa of the absolute value, which is spread to full width.
  cases n with
  | ofNat k =>
    replace h : k < 2 ^ 53 := h
    cases k with
    | zero => rfl
    | succ k =>
      have := hlog (Nat.succ_pos k) h
      show ofFloat (Float.ofNat (k + 1)) = _
      rw [ofNat_eq (Nat.succ_pos k) h, ofFloat_ofFull _ (by omega) (by omega)]
      rfl
  | negSucc k =>
    have hk : 0 < k + 1 := Nat.succ_pos k
    replace h : k + 1 < 2 ^ 53 := h
    have := hlog hk h
    have hfull := full_spread hk h
    have hneg : Float.neg (Float.ofNat (k + 1)) =
        ofFull .negative (spread (k + 1)) ((k + 1).log2 - 52) hfull := by
      rw [ofNat_eq hk h]
      show Float.ofModel (.pack ((Float.Model.pack _).unpack.neg)) = _
      rw [unpack_pack hfull (by omega) (by omega)]
      rfl
    show ofFloat (Float.neg (Float.ofNat (k + 1))) = _
    rw [hneg, ofFloat_ofFull _ (by omega) (by omega), ofWhole, if_neg (Int.negSucc_ne_zero k),
      decide_eq_true (Int.negSucc_lt_zero k)]
    rfl

/-- The whole number that a double below `2 ^ 53` stands for. -/
theorem toInt?_finite (negative : Bool) (m k : Nat) :
    (finite negative m (-k)).toInt? =
      if m % 2 ^ k = 0 then some (if negative then -((m / 2 ^ k : Nat) : Int)
      else (m / 2 ^ k : Nat)) else none := by
  cases k with
  | zero =>
    have hq : -((0 : Nat) : Int) = Int.ofNat 0 := rfl
    rw [hq, Nat.pow_zero, Nat.mod_one, if_pos rfl, Nat.div_one]
    show some (if negative then -((m * 1 : Nat) : Int) else (m * 1 : Nat)) = _
    rw [Nat.mul_one]
  | succ k =>
    have hq : -((k + 1 : Nat) : Int) = Int.negSucc k := rfl
    by_cases hm : m % 2 ^ (k + 1) = 0
    · simp only [hq, toInt?, Nat.pow_eq, hm, if_true]
      rfl
    · simp only [hq, toInt?, Nat.pow_eq, hm, if_false]
      rfl

/-- A whole number that a double can hold is the value of its double. -/
theorem toInt?_ofWhole {n : Int} (h : n.natAbs < 2 ^ 53) : (ofWhole n).toInt? = some n := by
  unfold ofWhole
  split
  case isTrue hn =>
    subst hn
    exact (toInt?_finite false 0 1074).trans (by rw [if_pos (Nat.zero_mod _), Nat.zero_div]; rfl)
  case isFalse hn =>
    have hpos : 0 < n.natAbs := Int.natAbs_pos.mpr hn
    have hlog : n.natAbs.log2 < 53 := (Nat.log2_lt hpos.ne').mpr h
    have hexponent : (n.natAbs.log2 : Int) - 52 = -((52 - n.natAbs.log2 : Nat) : Int) := by omega
    rw [hexponent, toInt?_finite, spread, if_pos (Nat.mul_mod_left _ _),
      Nat.mul_div_cancel _ (Nat.two_pow_pos _)]
    by_cases hneg : n < 0
    · rw [decide_eq_true hneg, if_pos rfl]
      congr 1
      omega
    · rw [decide_eq_false hneg, if_neg Bool.false_ne_true]
      congr 1
      omega

/-- The forms that doubles come in: those with few bits, and those with a
full mantissa. -/
theorem ofFloat_cases (d : Float) :
    ofFloat d = .nan ∨ (∃ negative, ofFloat d = .infinite negative) ∨
      (∃ negative m, ofFloat d = .finite negative m (-1074) ∧ m < 2 ^ 52) ∨
      ∃ negative m e, ofFloat d = .finite negative m e ∧ Full m := by
  rw [ofFloat, ofBits_eq]
  split
  · split
    · exact .inr (.inl ⟨_, rfl⟩)
    · exact .inl rfl
  · split
    · exact .inr (.inr (.inl ⟨_, _, rfl, Nat.mod_lt _ (by decide)⟩))
    · exact .inr (.inr (.inr ⟨_, _, _, rfl, by omega, by omega⟩))

/-- A full mantissa that makes a number below `2 ^ 53` is that number with
zeros behind it. -/
theorem spread_of_full (h : Full m) (hn : m = n * 2 ^ k) : spread n = m ∧ n.log2 + k = 52 := by
  have hpos : 0 < n := Nat.pos_of_mul_pos_right (hn ▸ h.pos)
  have hlog : n.log2 + k = 52 := by rw [← log2_mul_two_pow hpos, ← hn, h.log2]
  refine ⟨?_, hlog⟩
  rw [spread, hn]
  congr 2
  omega

/-- A number below one is whole only if it is zero. -/
theorem eq_zero_of_toInt? {negative : Bool} {n : Int} (hm : m < 2 ^ k)
    (h : (finite negative m (-k)).toInt? = some n) :
    m = 0 ∧ n = 0 := by
  rw [toInt?_finite, Nat.mod_eq_of_lt hm] at h
  split at h
  case isTrue hzero =>
    subst hzero
    rw [Nat.zero_div] at h
    cases h
    exact ⟨rfl, by simp⟩
  case isFalse => cases h

/-- A number with a full mantissa is not zero, and below `2 ^ 53` its double
is the only one. -/
theorem finite_eq_ofWhole {negative : Bool} {n : Int} (hfull : Full m)
    (hd : (finite negative m e).toInt? = some n) (h : n.natAbs < 2 ^ 53) :
    finite negative m e = ofWhole n := by
  have hlow := hfull.low
  obtain ⟨j, rfl⟩ | ⟨k, rfl⟩ : (∃ j : Nat, e = (j + 1 : Nat)) ∨ ∃ k : Nat, e = -(k : Int) := by
    rcases Int.lt_or_le 0 e with he | he
    · exact .inl ⟨(e - 1).toNat, by omega⟩
    · exact .inr ⟨(-e).toNat, by omega⟩
  · -- Such a number is too large.
    have hn : n.natAbs = m * 2 ^ (j + 1) := by
      replace hd : some (if negative then -((m * 2 ^ (j + 1) : Nat) : Int)
      else (m * 2 ^ (j + 1) : Nat)) = some n := hd
      cases hd
      split <;> omega
    have hlarge : 2 ^ 52 * 2 ≤ m * 2 ^ (j + 1) :=
      Nat.mul_le_mul hlow (by rw [Nat.pow_succ]; exact Nat.le_mul_of_pos_left _ (Nat.two_pow_pos j))
    omega
  · rw [toInt?_finite] at hd
    split at hd
    case isFalse => cases hd
    case isTrue hmod =>
      have hm : m = m / 2 ^ k * 2 ^ k := (Nat.div_mul_cancel (Nat.dvd_of_mod_eq_zero hmod)).symm
      obtain ⟨hspread, hlog⟩ := spread_of_full hfull hm
      have hpos : 0 < m / 2 ^ k := Nat.pos_of_mul_pos_right (hm ▸ hfull.pos)
      have hn := Option.some.inj hd
      have hsize : n.natAbs = m / 2 ^ k := by
        rw [← hn]
        split <;> omega
      have hsign : decide (n < 0) = negative := by
        cases negative with
        | true => exact decide_eq_true (by rw [← hn, if_pos rfl]; omega)
        | false => exact decide_eq_false (by rw [← hn, if_neg Bool.false_ne_true]; omega)
      rw [ofWhole, if_neg (by omega), hsize, hspread, hsign]
      congr 1
      omega

/-- A double that is an integer, and not negative zero, is that whole number. -/
theorem ofFloat_eq_ofWhole {d : Float} {n : Int} (hd : (ofFloat d).toInt? = some n)
    (hzero : (ofFloat d).isNegativeZero = false) (h : n.natAbs < 2 ^ 53) :
    ofFloat d = ofWhole n := by
  obtain hnan | ⟨_, hinf⟩ | ⟨negative, m, hfinite, hm⟩ | ⟨negative, m, e, hfinite, hfull⟩ :=
    ofFloat_cases d
  · rw [hnan] at hd
    cases hd
  · rw [hinf] at hd
    cases hd
  · obtain ⟨k, hk⟩ : ∃ k : Nat, (-1074 : Int) = -(k : Int) := ⟨1074, rfl⟩
    have hsmall : m < 2 ^ k :=
      Nat.lt_of_lt_of_le hm (Nat.pow_le_pow_right (Nat.succ_pos 1) (by omega))
    rw [hfinite] at hd hzero ⊢
    obtain ⟨rfl, rfl⟩ := eq_zero_of_toInt? hsmall (hk ▸ hd)
    cases negative
    · rfl
    · cases hzero
  · rw [hfinite] at hd ⊢
    exact finite_eq_ofWhole hfull hd h

/-- The double of a whole number is the only one with its value, negative
zero apart. -/
theorem eq_ofInt {d : Float} {n : Int} (hd : (ofFloat d).toInt? = some n)
    (hzero : (ofFloat d).isNegativeZero = false) (h : n.natAbs < 2 ^ 53) : d = Float.ofInt n := by
  have hvalue := ofFloat_eq_ofWhole hd hzero h
  have hvalue' := ofFloat_ofInt h
  unfold ofWhole at hvalue hvalue'
  split at hvalue
  case isTrue hn =>
    rw [if_pos hn] at hvalue'
    exact eq_of_ofFloat_eq hvalue hvalue'
  case isFalse hn =>
    rw [if_neg hn] at hvalue'
    exact eq_of_ofFloat_eq hvalue hvalue'

/-- An integer that fits comes back from its double. -/
theorem toInt?_ofInt {n : Int} (h : n.natAbs < 2 ^ 53) :
    (ofFloat (Float.ofInt n)).toInt? = some n := by
  rw [ofFloat_ofInt h, toInt?_ofWhole h]

/-- No integer becomes negative zero. -/
theorem isNegativeZero_ofInt {n : Int} (h : n.natAbs < 2 ^ 53) :
    (ofFloat (Float.ofInt n)).isNegativeZero = false := by
  rw [ofFloat_ofInt h, ofWhole]
  split
  case isTrue => rfl
  case isFalse hn =>
    have hpos := (full_spread (Int.natAbs_pos.mpr hn) h).pos
    unfold isNegativeZero
    split
    case h_1 heq =>
      simp only [finite.injEq] at heq
      omega
    case h_2 => rfl

end Double

end ObjectBridge

import Mathlib
import ObjectBridge.Id.Ulid

/-!
# `ObjectBridge.Proofs.Id.Digits`: numbers and the digits that spell them

An identifier is a number below `2 ^ 128`. Its 16 bytes are the digits of
that number in base 256, its text has the 26 digits in base 32, and both
begin with the most significant one. `spelled` is the number that digits
spell in a base. The theorems:

* `spelled_inj` and `spelled_lt_iff`: of two lists of digits of the same
  length, the lexicographically smaller one spells the smaller number, and
  no two spell the same. Only digits below the base have this.
* `spelled_digitsOf`: `digitsOf` gives digits that spell the number.
* `spelled_ofDigits`: packing 26 digits of five bits into 16 bytes does
  not change the number. Two bits have no place, so the first digit must be
  below 8.
-/

set_option autoImplicit false

namespace ObjectBridge.Ulid

/-- The number that digits spell in a base, most significant first. -/
def spelled (base : Nat) (ds : List Nat) : Nat := ds.foldl (fun n d => n * base + d) 0

/-! ### Any base -/

/-- The same number by the digits from the other end. -/
theorem spelled_eq_ofDigits (base : Nat) (ds : List Nat) :
    spelled base ds = Nat.ofDigits base ds.reverse := by
  -- The accumulator stands for digits that come first, so last in reverse.
  have hfold : ∀ acc, ds.foldl (fun n d => n * base + d) acc =
      Nat.ofDigits base (ds.reverse ++ [acc]) := by
    induction ds with
    | nil => intro acc; simp
    | cons d ds ih =>
      intro acc
      rw [List.foldl_cons, ih, List.reverse_cons, List.append_assoc, Nat.ofDigits_append,
        Nat.ofDigits_append]
      simp [Nat.ofDigits_cons, Nat.add_comm, Nat.mul_comm]
  show ds.foldl _ 0 = _
  rw [hfold 0, Nat.ofDigits_append_zero]

/-- The number that digits spell, in two portions. -/
theorem spelled_append (base : Nat) (xs ys : List Nat) :
    spelled base (xs ++ ys) = spelled base xs * base ^ ys.length + spelled base ys := by
  simp only [spelled_eq_ofDigits, List.reverse_append, Nat.ofDigits_append, List.length_reverse]
  rw [Nat.mul_comm, Nat.add_comm]

/-- The first digit counts for most. -/
theorem spelled_cons (base d : Nat) (ds : List Nat) :
    spelled base (d :: ds) = d * base ^ ds.length + spelled base ds := by
  have h := spelled_append base [d] ds
  simpa [spelled] using h

/-- The number is small if the digits are digits of the base. -/
theorem spelled_lt {base : Nat} (hbase : 1 < base) {ds : List Nat} (h : ∀ d ∈ ds, d < base) :
    spelled base ds < base ^ ds.length := by
  rw [spelled_eq_ofDigits, ← List.length_reverse]
  exact Nat.ofDigits_lt_base_pow_length hbase fun d hd => h d (List.mem_reverse.mp hd)

/-- No two lists of digits of the same length spell the same number. -/
theorem spelled_inj {base : Nat} (hbase : 1 < base) {xs ys : List Nat}
    (hlength : xs.length = ys.length) (hxs : ∀ d ∈ xs, d < base) (hys : ∀ d ∈ ys, d < base)
    (h : spelled base xs = spelled base ys) : xs = ys := by
  rw [spelled_eq_ofDigits, spelled_eq_ofDigits] at h
  apply List.reverse_injective
  apply Nat.ofDigits_inj_of_len_eq hbase _ _ _ h
  · simpa using hlength
  · intro d hd
    exact hxs d (List.mem_reverse.mp hd)
  · intro d hd
    exact hys d (List.mem_reverse.mp hd)

/-- Digits of the same length are in the order of the numbers. -/
theorem spelled_lt_iff {base : Nat} (hbase : 1 < base) {xs ys : List Nat}
    (hlength : xs.length = ys.length) (hxs : ∀ d ∈ xs, d < base) (hys : ∀ d ∈ ys, d < base) :
    spelled base xs < spelled base ys ↔ xs < ys := by
  induction xs generalizing ys with
  | nil =>
    obtain rfl : ys = [] := List.length_eq_zero_iff.mp hlength.symm
    simp
  | cons x xs ih =>
    cases ys with
    | nil => cases hlength
    | cons y ys =>
      have hrest : xs.length = ys.length := Nat.succ.inj hlength
      have hxs' : ∀ d ∈ xs, d < base := fun d hd => hxs d (List.mem_cons_of_mem x hd)
      have hys' : ∀ d ∈ ys, d < base := fun d hd => hys d (List.mem_cons_of_mem y hd)
      have hx := spelled_lt hbase hxs'
      have hy := spelled_lt hbase hys'
      rw [spelled_cons, spelled_cons, List.cons_lt_cons_iff, ← ih hrest hxs' hys', hrest]
      rw [hrest] at hx
      -- The first digits decide, unless they are the same: the others spell
      -- less than one unit of the first place.
      rcases Nat.lt_trichotomy x y with hlt | rfl | hgt
      · have hunit : (x + 1) * base ^ ys.length ≤ y * base ^ ys.length := Nat.mul_le_mul_right _ hlt
        rw [Nat.add_mul] at hunit
        simp only [hlt, true_or, iff_true]
        omega
      · simp
      · have hunit : (y + 1) * base ^ ys.length ≤ x * base ^ ys.length := Nat.mul_le_mul_right _ hgt
        rw [Nat.add_mul] at hunit
        have hne : x ≠ y := Nat.ne_of_gt hgt
        have hnlt : ¬x < y := Nat.not_lt_of_gt hgt
        simp only [hne, hnlt, false_and, or_self, iff_false]
        omega

/-! ### Base 32 -/

/-- There are as many digits as are asked for. -/
@[simp] theorem length_digitsOf (count n : Nat) : (digitsOf count n).length = count := by
  induction count generalizing n with
  | zero => rfl
  | succ count ih => simp [digitsOf, ih]

/-- Each of them is below 32. -/
theorem lt_of_mem_digitsOf {count n d : Nat} (h : d ∈ digitsOf count n) : d < 32 := by
  induction count generalizing n with
  | zero => cases h
  | succ count ih =>
    rcases List.mem_append.mp h with hd | hd
    · exact ih hd
    · rw [List.mem_singleton.mp hd]
      exact Nat.mod_lt _ (by decide)

/-- The digits of a number spell it, if there are enough of them. -/
theorem spelled_digitsOf {count n : Nat} (h : n < 32 ^ count) :
    spelled 32 (digitsOf count n) = n := by
  induction count generalizing n with
  | zero =>
    rw [Nat.pow_zero] at h
    show 0 = n
    omega
  | succ count ih =>
    have hquot : n / 32 < 32 ^ count := by
      rw [Nat.pow_succ] at h
      exact Nat.div_lt_of_lt_mul (by omega)
    rw [digitsOf, spelled_append, ih hquot]
    show n / 32 * 32 ^ 1 + (0 * 32 + n % 32) = n
    omega

/-- Digits are those of the number they spell. -/
theorem digitsOf_spelled {ds : List Nat} (h : ∀ d ∈ ds, d < 32) :
    digitsOf ds.length (spelled 32 ds) = ds := by
  have hsmall : spelled 32 ds < 32 ^ ds.length := spelled_lt (by decide) h
  apply spelled_inj (by decide : 1 < 32) (length_digitsOf _ _) _ h (spelled_digitsOf hsmall)
  intro d hd
  exact lt_of_mem_digitsOf hd

/-! ### Packing -/

/-- Digits of a byte as numbers. -/
def numbers (ds : List UInt8) : List Nat := ds.map UInt8.toNat

/-- A byte is a digit below 256. -/
theorem lt_of_mem_numbers {bs : Bytes} {d : Nat} (h : d ∈ numbers bs) : d < 256 := by
  obtain ⟨b, _, rfl⟩ := List.mem_map.mp h
  exact b.toNat_lt

/-- Numbers below 256 are the digits of bytes. -/
theorem numbers_toUInt8 {ds : List Nat} (h : ∀ d ∈ ds, d < 256) :
    numbers (ds.map Nat.toUInt8) = ds := by
  rw [numbers, List.map_map]
  have hsame : ∀ d ∈ ds, (UInt8.toNat ∘ Nat.toUInt8) d = d := fun d hd => Nat.mod_eq_of_lt (h d hd)
  rw [List.map_congr_left hsame, List.map_id']

/-- The number of an identifier is the one its bytes spell. -/
theorem toNat_eq_spelled (u : Ulid) : u.toNat = spelled 256 (numbers u.bytes) := by
  rw [spelled, numbers, List.foldl_map]
  rfl

/-- Bits that are moved up by `k` places leave room for `k` bits. -/
theorem toNat_shiftLeft_or {x y k : UInt8} (hk : k.toNat < 8) (hy : y.toNat < 2 ^ k.toNat) :
    ((x <<< k) ||| y).toNat = x.toNat % 2 ^ (8 - k.toNat) * 2 ^ k.toNat + y.toNat := by
  have hwidth : 2 ^ 8 = 2 ^ (8 - k.toNat) * 2 ^ k.toNat := by
    rw [← Nat.pow_add]
    congr 1
    omega
  rw [UInt8.toNat_or, UInt8.toNat_shiftLeft, Nat.mod_eq_of_lt hk, Nat.shiftLeft_eq, hwidth,
    Nat.mul_mod_mul_right, ← Nat.shiftLeft_eq, ← Nat.shiftLeft_add_eq_or_of_lt hy]

/-- Five bits lie across two bytes: what is moved down makes way for what
is moved up. -/
theorem toNat_straddle {x y k l : UInt8} (hkl : k.toNat + l.toNat = 5) (hy : y.toNat < 32) :
    ((x <<< k) ||| (y >>> l)).toNat = x.toNat % 2 ^ (8 - k.toNat) * 2 ^ k.toNat +
      y.toNat / 2 ^ l.toNat := by
  have hdown : (y >>> l).toNat = y.toNat / 2 ^ l.toNat := by
    rw [UInt8.toNat_shiftRight, Nat.mod_eq_of_lt (by omega), Nat.shiftRight_eq_div_pow]
  have hroom : y.toNat / 2 ^ l.toNat < 2 ^ k.toNat := by
    apply Nat.div_lt_of_lt_mul
    rw [← Nat.pow_add, Nat.add_comm, hkl]
    exact hy
  rw [toNat_shiftLeft_or (by omega) (by rw [hdown]; exact hroom), hdown]

/-- Eight digits of five bits are five bytes. -/
theorem spelled_pack {ds : List UInt8} (hlength : ds.length = 8) (h : ∀ d ∈ ds, d.toNat < 32) :
    (pack ds).length = 5 ∧ spelled 256 (numbers (pack ds)) = spelled 32 (numbers ds) := by
  match ds, hlength with
  | [a, b, c, d, e, f, g, z], _ =>
    simp only [List.mem_cons, List.not_mem_nil, or_false, forall_eq_or_imp, forall_eq] at h
    obtain ⟨ha, hb, hc, hd, he, hf, hg, hz⟩ := h
    have h₀ : ((a <<< 3) ||| (b >>> 2)).toNat = a.toNat % 32 * 8 + b.toNat / 4 :=
      toNat_straddle rfl hb
    have h₂ : ((d <<< 4) ||| (e >>> 1)).toNat = d.toNat % 16 * 16 + e.toNat / 2 :=
      toNat_straddle rfl he
    have h₄ : ((g <<< 5) ||| z).toNat = g.toNat % 8 * 32 + z.toNat :=
      toNat_shiftLeft_or (by decide) hz
    -- The other two bytes have bits of three digits, the one between them whole.
    have hcd : ((c <<< 1) ||| (d >>> 4)).toNat = c.toNat % 128 * 2 + d.toNat / 16 :=
      toNat_straddle rfl hd
    have hfg : ((f <<< 2) ||| (g >>> 3)).toNat = f.toNat % 64 * 4 + g.toNat / 8 :=
      toNat_straddle rfl hg
    have h₁ : ((b <<< 6) ||| (c <<< 1) ||| (d >>> 4)).toNat =
        b.toNat % 4 * 64 + (c.toNat % 128 * 2 + d.toNat / 16) := by
      rw [UInt8.or_assoc, ← hcd]
      apply toNat_shiftLeft_or (by decide)
      rw [hcd]
      show _ < 64
      omega
    have h₃ : ((e <<< 7) ||| (f <<< 2) ||| (g >>> 3)).toNat =
        e.toNat % 2 * 128 + (f.toNat % 64 * 4 + g.toNat / 8) := by
      rw [UInt8.or_assoc, ← hfg]
      apply toNat_shiftLeft_or (by decide)
      rw [hfg]
      show _ < 128
      omega
    refine ⟨rfl, ?_⟩
    simp only [pack, numbers, List.map_cons, List.map_nil, spelled, List.foldl_cons, List.foldl_nil,
      h₀, h₁, h₂, h₃, h₄]
    omega

/-- The digits behind the first two are packed in groups of eight. -/
theorem ofDigits_groups (a b : UInt8) {x y z : List UInt8} (hx : x.length = 8) (hy : y.length = 8)
    (hz : z.length = 8) :
    ofDigits (a :: b :: (x ++ y ++ z)) = ((a <<< 5) ||| b) :: (pack x ++ pack y ++ pack z) := by
  have hfirst : (x ++ y ++ z).take 8 = x := by
    rw [List.append_assoc]
    exact List.take_left' hx
  have hsecond : ((x ++ y ++ z).drop 8).take 8 = y := by
    rw [List.append_assoc, List.drop_left' hx]
    exact List.take_left' hy
  have hthird : ((x ++ y ++ z).drop 16).take 8 = z := by
    rw [List.drop_left' (by simp [hx, hy])]
    exact List.take_of_length_le hz.le
  rw [ofDigits, hfirst, hsecond, hthird]

/-- Digits of five bits, the first of three, are the bytes of an
identifier. -/
theorem spelled_ofDigits {ds : List UInt8} (hlength : ds.length = 26) (h : ∀ d ∈ ds, d.toNat < 32)
    (hfirst : ∀ d ∈ ds.head?, d.toNat < 8) :
    (ofDigits ds).length = 16 ∧ spelled 256 (numbers (ofDigits ds)) = spelled 32 (numbers ds) := by
  -- Two digits are the first byte, and eight at a time are five bytes more.
  obtain ⟨a, b, x, y, z, rfl, hx, hy, hz⟩ : ∃ a b x y z, ds = a :: b :: (x ++ y ++ z) ∧
      x.length = 8 ∧ y.length = 8 ∧ z.length = 8 := by
    match ds, hlength with
    | a :: b :: rest, hlength =>
      have hrest : rest.length = 24 := by simpa using hlength
      refine ⟨a, b, rest.take 8, (rest.drop 8).take 8, (rest.drop 8).drop 8, ?_, ?_, ?_, ?_⟩
      · rw [List.append_assoc, List.take_append_drop, List.take_append_drop]
      all_goals simp [hrest]
  have hgroup (g : List UInt8) (hg : ∀ d ∈ g, d ∈ x ++ y ++ z) : ∀ d ∈ g, d.toNat < 32 := by
    intro d hd
    exact h d (List.mem_cons_of_mem a (List.mem_cons_of_mem b (hg d hd)))
  obtain ⟨hlength₁, h₁⟩ := spelled_pack hx (hgroup x (by simp +contextual))
  obtain ⟨hlength₂, h₂⟩ := spelled_pack hy (hgroup y (by simp +contextual))
  obtain ⟨hlength₃, h₃⟩ := spelled_pack hz (hgroup z (by simp +contextual))
  have ha : a.toNat < 8 := hfirst a rfl
  have hb : b.toNat < 32 := h b (by simp)
  have htop : ((a <<< 5) ||| b).toNat = a.toNat % 8 * 32 + b.toNat :=
    toNat_shiftLeft_or (by decide) hb
  rw [ofDigits_groups a b hx hy hz]
  constructor
  · simp [hlength₁, hlength₂, hlength₃]
  · simp only [numbers] at h₁ h₂ h₃ ⊢
    simp only [List.map_cons, List.map_append, spelled_cons, spelled_append, List.length_append,
      List.length_map, List.length_cons, h₁, h₂, h₃, htop, hlength₁, hlength₂, hlength₃, hx, hy, hz]
    omega

end ObjectBridge.Ulid

import Mathlib
import ObjectBridge.Text.Utf8

/-!
# `ObjectBridge.Proofs.Text.Utf8`: reading undoes writing

`Utf8.head?` and `Utf8.encodeChar` are inverse to each other: what is
written for a scalar value is read back with its width
(`head?_encodeChar`), whatever follows it, and nothing else is read
(`eq_of_head?`). So a byte string is UTF-8 exactly when it is written for
some scalar values, and these are found again (`decode_eq_ok_iff`).
-/

set_option autoImplicit false

namespace ObjectBridge.Utf8

/-! ### Scalar values -/

/-- The numbers of scalar values: no surrogates, and nothing above
U+10FFFF. -/
theorem toNat_range (c : Char) : c.toNat < 0xD800 ∨ (0xDFFF < c.toNat ∧ c.toNat < 0x110000) :=
  c.valid

/-- A scalar value is that of its character. -/
theorem toNat_ofNat {n : Nat} (h : n < 0xD800 ∨ (0xDFFF < n ∧ n < 0x110000)) :
    (Char.ofNat n).toNat = n := by
  rw [Char.ofNat, dif_pos h]
  rfl

/-! ### Bytes -/

/-- A number below 256 is a byte. -/
theorem toNat_toUInt8 {n : Nat} (h : n < 256) : n.toUInt8.toNat = n := Nat.mod_eq_of_lt h

/-- A byte is the one of its number. -/
theorem toUInt8_eq {b : UInt8} {n : Nat} (h : b.toNat = n) : n.toUInt8 = b := by
  subst h
  exact UInt8.ofNat_toNat

/-- A continuation byte gives its six bits. -/
theorem continuation?_eq_some {lo hi : Nat} {b : UInt8} {x : Nat} :
    continuation? lo hi b = some x ↔ lo ≤ b.toNat ∧ b.toNat ≤ hi ∧ x = b.toNat - 0x80 := by
  unfold continuation?
  split
  next h => simp [h, eq_comm]
  next h =>
    refine iff_of_false (by simp) fun hb => h ⟨hb.1, hb.2.1⟩

/-- Is the byte a continuation byte? -/
def IsTail (b : UInt8) : Prop := 0x80 ≤ b.toNat ∧ b.toNat ≤ 0xBF

/-- May the byte come second, after a leading byte? -/
def IsSecond (lead b : UInt8) : Prop :=
  (secondBounds lead.toNat).1 ≤ b.toNat ∧ b.toNat ≤ (secondBounds lead.toNat).2

/-- The second of three bytes keeps short values and surrogates out, which
the first two payloads tell. -/
theorem isSecond_iff_of_three {b b1 : UInt8} (h : 0xE0 ≤ b.toNat) (h' : b.toNat < 0xF0) :
    IsSecond b b1 ↔ IsTail b1 ∧ 0x20 ≤ (b.toNat - 0xE0) * 64 + (b1.toNat - 0x80) ∧
      ((b.toNat - 0xE0) * 64 + (b1.toNat - 0x80) < 0x360 ∨
        0x380 ≤ (b.toNat - 0xE0) * 64 + (b1.toNat - 0x80)) := by
  unfold IsSecond IsTail secondBounds
  split
  · omega
  split
  · omega
  rw [if_neg (by omega), if_neg (by omega)]
  omega

/-- The second of four bytes keeps short values and those above U+10FFFF
out, which the first two payloads tell. -/
theorem isSecond_iff_of_four {b b1 : UInt8} (h : 0xF0 ≤ b.toNat) (h' : b.toNat < 0xF5) :
    IsSecond b b1 ↔ IsTail b1 ∧ 0x10 ≤ (b.toNat - 0xF0) * 64 + (b1.toNat - 0x80) ∧
      (b.toNat - 0xF0) * 64 + (b1.toNat - 0x80) < 0x110 := by
  unfold IsSecond IsTail secondBounds
  rw [if_neg (by omega), if_neg (by omega)]
  split
  · omega
  split
  · omega
  omega

/-! ### Writing one scalar value -/

/-- This is the UTF-8 of the standard library. -/
theorem encodeChar_eq_utf8EncodeChar (c : Char) : encodeChar c = String.utf8EncodeChar c := by
  have hrange := toNat_range c
  have hbyte : ∀ {m n : Nat}, m = n → m.toUInt8 = UInt8.ofNat n := fun h => by rw [h]
  unfold encodeChar String.utf8EncodeChar
  rw [show c.val.toNat = c.toNat from rfl]
  generalize c.toNat = n at hrange
  simp only
  by_cases h1 : n < 0x80
  · rw [if_pos h1, if_pos (show n ≤ 0x7f by omega), hbyte rfl]
  by_cases h2 : n < 0x800
  · rw [if_neg h1, if_neg (show ¬ n ≤ 0x7f by omega), if_pos h2, if_pos (show n ≤ 0x7ff by omega),
      hbyte (show 0xC0 + n / 64 = n / 64 % 0x20 + 0xc0 by omega),
      hbyte (Nat.add_comm 0x80 (n % 64))]
  by_cases h3 : n < 0x10000
  · rw [if_neg h1, if_neg (show ¬ n ≤ 0x7f by omega), if_neg h2, if_neg (show ¬ n ≤ 0x7ff by omega),
      if_pos h3, if_pos (show n ≤ 0xffff by omega),
      hbyte (show 0xE0 + n / 4096 = n / 4096 % 0x10 + 0xe0 by omega),
      hbyte (Nat.add_comm 0x80 (n / 64 % 64)), hbyte (Nat.add_comm 0x80 (n % 64))]
  · rw [if_neg h1, if_neg (show ¬ n ≤ 0x7f by omega), if_neg h2, if_neg (show ¬ n ≤ 0x7ff by omega),
      if_neg h3, if_neg (show ¬ n ≤ 0xffff by omega),
      hbyte (show 0xF0 + n / 262144 = n / 262144 % 0x08 + 0xf0 by omega),
      hbyte (Nat.add_comm 0x80 (n / 4096 % 64)), hbyte (Nat.add_comm 0x80 (n / 64 % 64)),
      hbyte (Nat.add_comm 0x80 (n % 64))]

/-- Every character takes a byte at least. -/
theorem encodeChar_ne_nil (c : Char) : encodeChar c ≠ [] := by
  unfold encodeChar
  simp only
  split
  · exact List.cons_ne_nil _ _
  split
  · exact List.cons_ne_nil _ _
  split <;> exact List.cons_ne_nil _ _

/-! ### Reading one scalar value -/

/-- A byte below 0x80 is a character. -/
theorem head?_one {b : UInt8} (h : b.toNat < 0x80) (rest : Bytes) :
    head? (b :: rest) = some (Char.ofNat b.toNat, 1) := by
  simp only [head?]
  rw [if_pos h]

/-- What begins a character of two bytes. -/
theorem head?_two_iff {b : UInt8} (h : 0xC2 ≤ b.toNat) (h' : b.toNat < 0xE0) (bs : Bytes)
    (c : Char) (w : Nat) :
    head? (b :: bs) = some (c, w) ↔ ∃ b1 rest, bs = b1 :: rest ∧ IsTail b1 ∧
      c = Char.ofNat ((b.toNat - 0xC0) * 64 + (b1.toNat - 0x80)) ∧ w = 2 := by
  have hbounds : secondBounds b.toNat = (0x80, 0xBF) := by
    unfold secondBounds
    rw [if_neg (by omega), if_neg (by omega), if_neg (by omega), if_neg (by omega)]
  simp only [head?]
  rw [if_neg (by omega), if_neg (by omega), if_pos h', hbounds]
  cases bs with
  | nil => simp
  | cons b1 rest =>
    simp only [Option.bind_eq_bind, Option.bind_eq_some_iff, continuation?_eq_some,
      Option.pure_def, IsTail]
    constructor
    · rintro ⟨x, ⟨hlo, hhi, hx⟩, heq⟩
      cases heq
      exact ⟨b1, rest, rfl, ⟨hlo, hhi⟩, by rw [hx], rfl⟩
    · rintro ⟨_, _, heq, htail, hc, hw⟩
      cases heq
      exact ⟨b1.toNat - 0x80, ⟨htail.1, htail.2, by rfl⟩, by rw [hc, hw]⟩

/-- What begins one of three. -/
theorem head?_three_iff {b : UInt8} (h : 0xE0 ≤ b.toNat) (h' : b.toNat < 0xF0) (bs : Bytes)
    (c : Char) (w : Nat) :
    head? (b :: bs) = some (c, w) ↔ ∃ b1 b2 rest,
      bs = b1 :: b2 :: rest ∧ IsSecond b b1 ∧ IsTail b2 ∧
      c = Char.ofNat ((b.toNat - 0xE0) * 4096 + (b1.toNat - 0x80) * 64 + (b2.toNat - 0x80)) ∧
      w = 3 := by
  simp only [head?]
  rw [if_neg (by omega), if_neg (by omega), if_neg (by omega), if_pos h']
  match bs with
  | [] => simp
  | [b1] => simp
  | b1 :: b2 :: rest =>
    simp only [Option.bind_eq_bind, Option.bind_eq_some_iff, continuation?_eq_some, Option.pure_def,
      IsTail, IsSecond]
    constructor
    · rintro ⟨x, ⟨hlo, hhi, hx⟩, y, ⟨hlo', hhi', hy⟩, heq⟩
      cases heq
      exact ⟨b1, b2, rest, rfl, ⟨hlo, hhi⟩, ⟨hlo', hhi'⟩, by rw [hx, hy], rfl⟩
    · rintro ⟨_, _, _, heq, hsecond, htail, hc, hw⟩
      cases heq
      exact ⟨b1.toNat - 0x80, ⟨hsecond.1, hsecond.2, by rfl⟩, b2.toNat - 0x80,
        ⟨htail.1, htail.2, by rfl⟩, by rw [hc, hw]⟩

/-- What begins one of four. -/
theorem head?_four_iff {b : UInt8} (h : 0xF0 ≤ b.toNat) (h' : b.toNat < 0xF5) (bs : Bytes)
    (c : Char) (w : Nat) :
    head? (b :: bs) = some (c, w) ↔ ∃ b1 b2 b3 rest, bs = b1 :: b2 :: b3 :: rest ∧
      IsSecond b b1 ∧ IsTail b2 ∧ IsTail b3 ∧ c = Char.ofNat ((b.toNat - 0xF0) * 262144 +
        (b1.toNat - 0x80) * 4096 + (b2.toNat - 0x80) * 64 + (b3.toNat - 0x80)) ∧ w = 4 := by
  simp only [head?]
  rw [if_neg (by omega), if_neg (by omega), if_neg (by omega), if_neg (by omega), if_pos h']
  match bs with
  | [] => simp
  | [b1] => simp
  | [b1, b2] => simp
  | b1 :: b2 :: b3 :: rest =>
    simp only [Option.bind_eq_bind, Option.bind_eq_some_iff, continuation?_eq_some, Option.pure_def,
      IsTail, IsSecond]
    constructor
    · rintro ⟨x, ⟨hlo, hhi, hx⟩, y, ⟨hlo', hhi', hy⟩, z, ⟨hlo'', hhi'', hz⟩, heq⟩
      cases heq
      exact ⟨b1, b2, b3, rest, rfl, ⟨hlo, hhi⟩, ⟨hlo', hhi'⟩, ⟨hlo'', hhi''⟩, by
        rw [hx, hy, hz], rfl⟩
    · rintro ⟨_, _, _, _, heq, hsecond, htail, htail', hc, hw⟩
      cases heq
      exact ⟨b1.toNat - 0x80, ⟨hsecond.1, hsecond.2, by rfl⟩, b2.toNat - 0x80,
        ⟨htail.1, htail.2, by rfl⟩, b3.toNat - 0x80, ⟨htail'.1, htail'.2, by rfl⟩, by rw [hc, hw]⟩

/-- What is written for a scalar value is read back, whatever follows. -/
theorem head?_encodeChar (c : Char) (rest : Bytes) :
    head? (encodeChar c ++ rest) = some (c, (encodeChar c).length) := by
  have hrange := toNat_range c
  have hback : Char.ofNat c.toNat = c := Char.ofNat_toNat c
  unfold encodeChar
  generalize c.toNat = n at hrange hback
  subst hback
  simp only
  -- The cases are the widths of an encoding, one byte to four.
  split
  next h =>
    have hlead : n.toUInt8.toNat = n := toNat_toUInt8 (by omega)
    rw [List.singleton_append, head?_one (by omega), hlead]
    rfl
  split
  next h =>
    have hlead : (0xC0 + n / 64).toUInt8.toNat = 0xC0 + n / 64 := toNat_toUInt8 (by omega)
    have h1 : (0x80 + n % 64).toUInt8.toNat = 0x80 + n % 64 := toNat_toUInt8 (by omega)
    refine (head?_two_iff (by omega) (by omega) _ _ _).mpr
      ⟨_, rest, rfl, ⟨by omega, by omega⟩, ?_, rfl⟩
    exact congrArg Char.ofNat (by omega)
  split
  next h =>
    have hlead : (0xE0 + n / 4096).toUInt8.toNat = 0xE0 + n / 4096 := toNat_toUInt8 (by omega)
    have h1 : (0x80 + n / 64 % 64).toUInt8.toNat = 0x80 + n / 64 % 64 := toNat_toUInt8 (by omega)
    have h2 : (0x80 + n % 64).toUInt8.toNat = 0x80 + n % 64 := toNat_toUInt8 (by omega)
    refine (head?_three_iff (by omega) (by omega) _ _ _).mpr
      ⟨_, _, rest, rfl, (isSecond_iff_of_three (by omega) (by omega)).mpr ⟨⟨by omega, by omega⟩, by
        omega, by omega⟩, ⟨by omega, by omega⟩, ?_, rfl⟩
    exact congrArg Char.ofNat (by omega)
  next h =>
    have hlead : (0xF0 + n / 262144).toUInt8.toNat = 0xF0 + n / 262144 := toNat_toUInt8 (by omega)
    have h1 : (0x80 + n / 4096 % 64).toUInt8.toNat = 0x80 + n / 4096 % 64 :=
      toNat_toUInt8 (by omega)
    have h2 : (0x80 + n / 64 % 64).toUInt8.toNat = 0x80 + n / 64 % 64 := toNat_toUInt8 (by omega)
    have h3 : (0x80 + n % 64).toUInt8.toNat = 0x80 + n % 64 := toNat_toUInt8 (by omega)
    refine (head?_four_iff (by omega) (by omega) _ _ _).mpr
      ⟨_, _, _, rest, rfl, (isSecond_iff_of_four (by omega) (by omega)).mpr
        ⟨⟨by omega, by omega⟩, by omega, by omega⟩, ⟨by omega, by omega⟩,
        ⟨by omega, by omega⟩, ?_, rfl⟩
    exact congrArg Char.ofNat (by omega)

/-- Nothing else is read. -/
theorem eq_of_head? {bs : Bytes} {c : Char} {w : Nat} (h : head? bs = some (c, w)) :
    ∃ rest, bs = encodeChar c ++ rest ∧ w = (encodeChar c).length := by
  cases bs with
  | nil => cases h
  | cons b bs =>
    -- The lead byte tells how many bytes follow.
    by_cases h1 : b.toNat < 0x80
    · rw [head?_one h1] at h
      cases h
      refine ⟨bs, ?_⟩
      rw [encodeChar, toNat_ofNat (.inl (by omega)), if_pos h1, toUInt8_eq rfl]
      exact ⟨rfl, rfl⟩
    by_cases h2 : b.toNat < 0xC2
    · simp only [head?] at h
      rw [if_neg h1, if_pos h2] at h
      cases h
    by_cases h3 : b.toNat < 0xE0
    · obtain ⟨b1, rest, rfl, ht1, hc, rfl⟩ := (head?_two_iff (by omega) h3 _ _ _).mp h
      unfold IsTail at ht1
      refine ⟨rest, ?_⟩
      rw [hc, encodeChar, toNat_ofNat (.inl (by omega)), if_neg (by omega), if_pos (by omega),
        toUInt8_eq (b := b) (by omega), toUInt8_eq (b := b1) (by omega)]
      exact ⟨rfl, rfl⟩
    by_cases h4 : b.toNat < 0xF0
    · obtain ⟨b1, b2, rest, rfl, hs, ht2, hc, rfl⟩ := (head?_three_iff (by omega) h4 _ _ _).mp h
      obtain ⟨ht1, hlow, hsurrogate⟩ := (isSecond_iff_of_three (by omega) h4).mp hs
      unfold IsTail at ht1 ht2
      refine ⟨rest, ?_⟩
      rw [hc, encodeChar, toNat_ofNat (by omega), if_neg (by omega), if_neg (by omega),
        if_pos (by omega), toUInt8_eq (b := b) (by omega), toUInt8_eq (b := b1) (by omega),
        toUInt8_eq (b := b2) (by omega)]
      exact ⟨rfl, rfl⟩
    by_cases h5 : b.toNat < 0xF5
    · obtain ⟨b1, b2, b3, rest, rfl, hs, ht2, ht3, hc, rfl⟩ :=
        (head?_four_iff (by omega) h5 _ _ _).mp h
      obtain ⟨ht1, hlow, hhigh⟩ := (isSecond_iff_of_four (by omega) h5).mp hs
      unfold IsTail at ht1 ht2 ht3
      refine ⟨rest, ?_⟩
      rw [hc, encodeChar, toNat_ofNat (by omega), if_neg (by omega), if_neg (by omega),
        if_neg (by omega), toUInt8_eq (b := b) (by omega), toUInt8_eq (b := b1) (by omega),
        toUInt8_eq (b := b2) (by omega), toUInt8_eq (b := b3) (by omega)]
      exact ⟨rfl, rfl⟩
    · simp only [head?] at h
      rw [if_neg h1, if_neg h2, if_neg h3, if_neg h4, if_neg h5] at h
      cases h

/-! ### Whole strings -/

/-- No characters take no bytes. -/
@[simp] theorem encode_nil : encode [] = [] := rfl

/-- Characters are encoded one after the other. -/
theorem encode_cons (c : Char) (cs : List Char) : encode (c :: cs) = encodeChar c ++ encode cs :=
  List.flatMap_cons

/-- So are two portions of them. -/
theorem encode_append (cs cs' : List Char) : encode (cs ++ cs') = encode cs ++ encode cs' :=
  List.flatMap_append

/-- Only no characters take no bytes. -/
theorem encode_eq_nil_iff {cs : List Char} : encode cs = [] ↔ cs = [] := by
  cases cs with
  | nil => simp
  | cons c cs => simp [encode_cons, encodeChar_ne_nil]

/-- The bytes of what has been read are skipped. -/
theorem decodeFrom_skip (offset : Nat) (l rest : Bytes) :
    decodeFrom offset l.length (l ++ rest) = decodeFrom (offset + l.length) 0 rest := by
  induction l generalizing offset with
  | nil => rfl
  | cons b l ih =>
    rw [List.cons_append, List.length_cons, decodeFrom, ih, Nat.add_right_comm, Nat.add_assoc]

/-- A scalar value is read, and then the rest. -/
theorem decodeFrom_encodeChar (offset : Nat) (c : Char) (rest : Bytes) :
    decodeFrom offset 0 (encodeChar c ++ rest) =
      (decodeFrom (offset + (encodeChar c).length) 0 rest).map (c :: ·) := by
  have hhead := head?_encodeChar c rest
  obtain ⟨b, l, hl⟩ := List.exists_cons_of_ne_nil (encodeChar_ne_nil c)
  rw [hl, List.cons_append] at hhead ⊢
  rw [decodeFrom, hhead]
  simp only [List.length_cons, Nat.add_sub_cancel]
  rw [decodeFrom_skip, Nat.add_right_comm, Nat.add_assoc]

/-- What was encoded is decoded. -/
theorem decodeFrom_encode (offset : Nat) (cs : List Char) :
    decodeFrom offset 0 (encode cs) = .ok cs := by
  induction cs generalizing offset with
  | nil => rfl
  | cons c cs ih =>
    rw [encode_cons, decodeFrom_encodeChar, ih]
    rfl

/-- What was read, written again, is what was there. -/
theorem eq_encode_of_decodeFrom {offset : Nat} {bs : Bytes} {cs : List Char}
    (h : decodeFrom offset 0 bs = .ok cs) : bs = encode cs := by
  -- What is left to read is shorter, but by the width of a character and not by one byte.
  induction hlen : bs.length using Nat.strongRecOn generalizing offset bs cs with
  | ind n ih =>
    cases bs with
    | nil =>
      cases h
      rfl
    | cons b rest =>
      cases hhead : head? (b :: rest) with
      | none =>
        rw [decodeFrom, hhead] at h
        cases h
      | some e =>
        obtain ⟨c, w⟩ := e
        obtain ⟨rest', hbytes, _⟩ := eq_of_head? hhead
        rw [hbytes, decodeFrom_encodeChar] at h
        cases hrest : decodeFrom (offset + (encodeChar c).length) 0 rest' with
        | error e =>
          rw [hrest] at h
          cases h
        | ok cs' =>
          rw [hrest] at h
          cases h
          have hpos : 0 < (encodeChar c).length := List.length_pos_iff.mpr (encodeChar_ne_nil c)
          have hshorter : rest'.length < n := by
            rw [← hlen, hbytes, List.length_append]
            omega
          rw [hbytes, encode_cons, ← ih _ hshorter hrest rfl]

/-- Reading gives exactly what was written. -/
theorem decode_eq_ok_iff {bs : Bytes} {cs : List Char} : decode bs = .ok cs ↔ bs = encode cs :=
  ⟨eq_encode_of_decodeFrom, fun h => h ▸ decodeFrom_encode 0 cs⟩

/-- UTF-8 is what is written for scalar values. -/
theorem isValid_iff {bs : Bytes} : isValid bs = true ↔ ∃ cs, bs = encode cs := by
  unfold isValid
  cases h : decode bs with
  | ok cs => exact iff_of_true rfl ⟨cs, decode_eq_ok_iff.mp h⟩
  | error e =>
    refine iff_of_false (by simp [Except.isOk, Except.toBool]) ?_
    rintro ⟨cs, hcs⟩
    rw [decode_eq_ok_iff.mpr hcs] at h
    cases h

/-- The scalar values of UTF-8 are found without replacement. -/
theorem decodeLossyFrom_skip (l rest : Bytes) :
    decodeLossyFrom l.length (l ++ rest) = decodeLossyFrom 0 rest := by
  induction l with
  | nil => rfl
  | cons b l ih => rw [List.cons_append, List.length_cons, decodeLossyFrom, ih]

/-- Also by the decoder that accepts everything. -/
theorem decodeLossy_encode (cs : List Char) : decodeLossy (encode cs) = cs := by
  unfold decodeLossy
  induction cs with
  | nil => rfl
  | cons c cs ih =>
    have hhead := head?_encodeChar c (encode cs)
    obtain ⟨b, l, hl⟩ := List.exists_cons_of_ne_nil (encodeChar_ne_nil c)
    rw [encode_cons, hl, List.cons_append]
    rw [hl, List.cons_append] at hhead
    rw [decodeLossyFrom, hhead]
    simp only [List.length_cons, Nat.add_sub_cancel]
    rw [decodeLossyFrom_skip, ih]

end ObjectBridge.Utf8

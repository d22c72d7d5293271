import ObjectBridge.Bench.Report
import ObjectBridge.Proofs.Text.Wide

/-!
# `ObjectBridge.Proofs.Text.Rejection`: what the conversions refuse, and where

Both conversions look at their whole input before they convert any of it.
This module says which input they refuse and what they say about it.

* A byte string is accepted exactly when it is UTF-8 as the standard library
  has it (`Utf8.WellFormed`). Wide text is accepted exactly when every unit
  stands for itself or is half of a pair (`Wide.WellFormed`).
* The place that is reported is the length of the longest prefix that would
  have been accepted (`LongestPrefix`). No scalar value begins there, so a
  U+FFFD that was written is never what is reported.

The two directions share one argument. A text is what is written for some
scalar values, one after the other, and no scalar value's form begins
another one's (`PrefixFree`). So a reader that takes one scalar value after
the other and is stuck has read the longest prefix there is
(`longestPrefix_of_stuck`). `Utf8.exists_firstInvalid` and
`Wide.stopsAt_of_firstInvalid?` say that the two searches for the place are
such readers.
-/

set_option autoImplicit false

namespace ObjectBridge

variable {α : Type} {write : Char → List α}

/-! ### Prefixes -/

/-- The first `n` elements are the longest prefix of the list that is
good. -/
structure LongestPrefix (good : List α → Prop) (l : List α) (n : Nat) : Prop where
  take : good (l.take n)
  longest : ∀ p, p <+: l → good p → p.length ≤ n

/-- The list is written for some scalar values, one after the other. -/
def Written (write : Char → List α) (l : List α) : Prop := ∃ cs : List Char, l = cs.flatMap write

/-- What is written for a scalar value tells which one it is, whatever
follows. -/
def PrefixFree (write : Char → List α) : Prop :=
  ∀ (c d : Char) (x y : List α), write c ++ x = write d ++ y → c = d

/-- No scalar value is written at the front of the list. -/
def Stuck (write : Char → List α) (l : List α) : Prop := ∀ c, ¬ write c <+: l

/-- A reader that is stuck has read the longest prefix that is written for
scalar values. -/
theorem longestPrefix_of_stuck (hfree : PrefixFree write) (cs : List Char) {rest : List α}
    (hstuck : Stuck write rest) :
    LongestPrefix (Written write) (cs.flatMap write ++ rest) (cs.flatMap write).length where
  take := ⟨cs, List.take_left⟩
  longest := by
    rintro p ⟨t, ht⟩ ⟨ds, rfl⟩
    -- Both readings agree value by value, as long as there are values in both.
    induction cs generalizing ds with
    | nil =>
      cases ds with
      | nil => simp
      | cons d ds =>
        have hd : write d <+: rest := ⟨ds.flatMap write ++ t, by simpa using ht⟩
        exact absurd hd (hstuck d)
    | cons c cs ih =>
      cases ds with
      | nil => simp
      | cons d ds =>
        simp only [List.flatMap_cons, List.append_assoc] at ht
        obtain rfl : d = c := hfree d c _ _ ht
        have hrest := ih ds (by simpa using ht)
        simp only [List.flatMap_cons, List.length_append]
        omega

/-- A list is written for scalar values exactly when the reader gets to its
end. -/
theorem written_iff_of_stuck (hfree : PrefixFree write) (cs : List Char) {rest : List α}
    (hstuck : Stuck write rest) :
    Written write (cs.flatMap write ++ rest) ↔ rest = [] := by
  constructor
  · intro h
    have hall := (longestPrefix_of_stuck hfree cs hstuck).longest _ (List.prefix_refl _) h
    rw [List.length_append] at hall
    exact List.eq_nil_of_length_eq_zero (by omega)
  · rintro rfl
    exact ⟨cs, List.append_nil _⟩

/-- A prefix is the longest good one whatever words say what is good. -/
theorem LongestPrefix.congr {good good' : List α → Prop} (h : ∀ l, good l ↔ good' l)
    {l : List α} {n : Nat} (hl : LongestPrefix good l n) : LongestPrefix good' l n where
  take := (h _).mp hl.take
  longest p hp hgood := hl.longest p hp ((h _).mpr hgood)

/-! ### Byte strings -/

namespace Utf8

/-- The byte string is UTF-8. -/
def WellFormed (bs : Bytes) : Prop := bs.toByteArray.IsValidUTF8

/-- UTF-8 is what is written for scalar values. -/
theorem wellFormed_iff {bs : Bytes} : WellFormed bs ↔ Written encodeChar bs := by
  have hencode : encodeChar = String.utf8EncodeChar := funext encodeChar_eq_utf8EncodeChar
  unfold WellFormed Written
  rw [hencode]
  constructor
  · rintro ⟨cs, hcs⟩
    have hdata := congrArg (fun b : ByteArray => b.data.toList) hcs
    exact ⟨cs, by simpa [List.utf8Encode] using hdata⟩
  · rintro ⟨cs, rfl⟩
    exact ⟨cs, rfl⟩

/-- No character's encoding begins another one's. -/
theorem prefixFree_encodeChar : PrefixFree encodeChar := by
  intro c d x y h
  have hc := head?_encodeChar c x
  rw [h, head?_encodeChar d y] at hc
  cases hc
  rfl

/-- A reader of UTF-8 is stuck where no sequence starts. -/
theorem stuck_of_head? {bs : Bytes} (h : head? bs = none) : Stuck encodeChar bs := by
  rintro c ⟨rest, rfl⟩
  rw [head?_encodeChar] at h
  cases h

/-- The bytes of what has been read are skipped. -/
theorem firstInvalidFrom_skip (offset : Nat) (l rest : Bytes) :
    firstInvalidFrom offset l.length (l ++ rest) = firstInvalidFrom (offset + l.length) 0 rest := by
  induction l generalizing offset with
  | nil => rfl
  | cons b l ih => rw [List.cons_append, List.length_cons, firstInvalidFrom, ih, Nat.add_right_comm,
    Nat.add_assoc]

/-- A scalar value is passed over, also a U+FFFD that was written: its
width is three. -/
theorem firstInvalidFrom_encodeChar (offset : Nat) (c : Char) (rest : Bytes) :
    firstInvalidFrom offset 0 (encodeChar c ++ rest) =
      firstInvalidFrom (offset + (encodeChar c).length) 0 rest := by
  have hhead := head?_encodeChar c rest
  have hwidth : ¬ (c = '\uFFFD' ∧ (encodeChar c).length ≤ 1) := by
    rintro ⟨rfl, hshort⟩
    exact absurd hshort (by decide)
  obtain ⟨b, l, hl⟩ := List.exists_cons_of_ne_nil (encodeChar_ne_nil c)
  rw [hl, List.cons_append] at hhead ⊢
  rw [hl, List.length_cons] at hwidth
  rw [firstInvalidFrom]
  simp only [decodeRune, hhead, List.length_cons, Nat.add_sub_cancel]
  rw [if_neg hwidth, firstInvalidFrom_skip, Nat.add_right_comm, Nat.add_assoc]

/-- The search for the place reads scalar values until it is stuck. -/
theorem exists_firstInvalidFrom (offset : Nat) (bs : Bytes) :
    ∃ cs rest, bs = encode cs ++ rest ∧ Stuck encodeChar rest ∧
      firstInvalidFrom offset 0 bs = offset + (encode cs).length := by
  -- By the length of what is left, of which each step reads a whole character.
  induction hlen : bs.length using Nat.strongRecOn generalizing offset bs with
  | ind n ih =>
    cases bs with
    | nil => exact ⟨[], [], rfl, stuck_of_head? rfl, rfl⟩
    | cons b rest =>
      cases hhead : head? (b :: rest) with
      | none =>
        refine ⟨[], b :: rest, rfl, stuck_of_head? hhead, ?_⟩
        rw [firstInvalidFrom]
        simp [decodeRune, hhead]
      | some e =>
        obtain ⟨c, w⟩ := e
        obtain ⟨rest', hbytes, _⟩ := eq_of_head? hhead
        have hpos : 0 < (encodeChar c).length := List.length_pos_iff.mpr (encodeChar_ne_nil c)
        have hshorter : rest'.length < n := by
          rw [← hlen, hbytes, List.length_append]
          omega
        obtain ⟨cs, rest'', hrest, hstuck, hplace⟩ :=
          ih _ hshorter (offset + (encodeChar c).length) rest' rfl
        refine ⟨c :: cs, rest'', ?_, hstuck, ?_⟩
        · rw [hbytes, hrest, encode_cons, List.append_assoc]
        · rw [hbytes, firstInvalidFrom_encodeChar, hplace, encode_cons, List.length_append,
            Nat.add_assoc]

/-- The first invalid byte comes after the longest text, and stops every
character. -/
theorem exists_firstInvalid (bs : Bytes) :
    ∃ cs rest, bs = encode cs ++ rest ∧ Stuck encodeChar rest ∧
      firstInvalid bs = (encode cs).length := by
  obtain ⟨cs, rest, hbytes, hstuck, hplace⟩ := exists_firstInvalidFrom 0 bs
  exact ⟨cs, rest, hbytes, hstuck, hplace.trans (Nat.zero_add _)⟩

end Utf8

/-! ### Wide text -/

namespace Wide

variable {enc : WideEncoding} {w rest : List UInt32} {u : UInt32} {c : Char}

/-- The other half of the unit stands beside it, if the unit is half of a
pair. -/
def Paired (w : List UInt32) (i : Nat) (u : UInt32) : Prop :=
  (isHigh u = true → ∃ v, w[i + 1]? = some v ∧ isLow v = true) ∧
  (isLow u = true → ∃ j v, i = j + 1 ∧ w[j]? = some v ∧ isHigh v = true)

/-- Every unit stands for a scalar value, itself or with its other half. -/
def WellFormed : WideEncoding → List UInt32 → Prop
  | .utf32, w => ∀ u ∈ w, u.toNat ≤ 0x10FFFF ∧ isHigh u = false ∧ isLow u = false
  | .utf16, w => ∀ (i : Nat) (u : UInt32), w[i]? = some u → u.toNat ≤ 0xFFFF ∧ Paired w i u

/-! #### Text of UTF-16 units -/

/-- No surrogate is both high and low. -/
theorem not_isLow_of_isHigh (h : isHigh u = true) : isLow u = false := by
  simp only [isHigh, isLow, Bool.and_eq_true, decide_eq_true_eq, Bool.and_eq_false_iff,
    decide_eq_false_iff_not] at h ⊢
  omega

/-- A high surrogate fits in sixteen bits. -/
theorem toNat_le_of_isHigh (h : isHigh u = true) : u.toNat ≤ 0xFFFF := by
  simp only [isHigh, Bool.and_eq_true, decide_eq_true_eq] at h
  omega

/-- So does a low one. -/
theorem toNat_le_of_isLow (h : isLow u = true) : u.toNat ≤ 0xFFFF := by
  simp only [isLow, Bool.and_eq_true, decide_eq_true_eq] at h
  omega

/-- A unit that is half of no pair takes itself off the front. -/
theorem wellFormed_cons_iff (hhigh : isHigh u = false) (hlow : isLow u = false) :
    WellFormed .utf16 (u :: rest) ↔ u.toNat ≤ 0xFFFF ∧ WellFormed .utf16 rest := by
  constructor
  · intro h
    refine ⟨(h 0 u rfl).1, fun i v hv => ?_⟩
    obtain ⟨hwide, hafter, hbefore⟩ := h (i + 1) v (by simpa using hv)
    refine ⟨hwide, fun hv' => by simpa using hafter hv', fun hv' => ?_⟩
    obtain ⟨j, v', hj, hfound, hhigh'⟩ := hbefore hv'
    -- The half before it cannot be the unit that was taken off.
    cases j with
    | zero =>
      obtain rfl : u = v' := by simpa using hfound
      rw [hhigh] at hhigh'
      cases hhigh'
    | succ j => exact ⟨j, v', by omega, by simpa using hfound, hhigh'⟩
  · rintro ⟨hwide, h⟩ i v hv
    cases i with
    | zero =>
      obtain rfl : u = v := by simpa using hv
      refine ⟨hwide, fun h' => ?_, fun h' => ?_⟩
      · rw [hhigh] at h'
        cases h'
      · rw [hlow] at h'
        cases h'
    | succ i =>
      obtain ⟨hwide', hafter, hbefore⟩ := h i v (by simpa using hv)
      refine ⟨hwide', fun hv' => by simpa using hafter hv', fun hv' => ?_⟩
      obtain ⟨j, v', hj, hfound, hhigh'⟩ := hbefore hv'
      exact ⟨j + 1, v', by omega, by simpa using hfound, hhigh'⟩

/-- A pair takes both its halves off the front. -/
theorem wellFormed_pair_iff {v : UInt32} (hhigh : isHigh u = true) (hlow : isLow v = true) :
    WellFormed .utf16 (u :: v :: rest) ↔ WellFormed .utf16 rest := by
  constructor
  · intro h i x hx
    obtain ⟨hwide, hafter, hbefore⟩ := h (i + 2) x (by simpa using hx)
    refine ⟨hwide, fun hx' => by simpa using hafter hx', fun hx' => ?_⟩
    obtain ⟨j, x', hj, hfound, hhigh'⟩ := hbefore hx'
    obtain rfl : j = i + 1 := by omega
    -- The low half of the pair is no high half for what follows.
    cases i with
    | zero =>
      obtain rfl : v = x' := by simpa using hfound
      rw [not_isLow_of_isHigh hhigh'] at hlow
      cases hlow
    | succ i => exact ⟨i, x', rfl, by simpa using hfound, hhigh'⟩
  · intro h i x hx
    cases i with
    | zero =>
      obtain rfl : u = x := by simpa using hx
      refine ⟨toNat_le_of_isHigh hhigh, fun _ => ⟨v, rfl, hlow⟩, fun h' => ?_⟩
      rw [not_isLow_of_isHigh hhigh] at h'
      cases h'
    | succ i =>
      cases i with
      | zero =>
        obtain rfl : v = x := by simpa using hx
        refine ⟨toNat_le_of_isLow hlow, fun h' => ?_, fun _ => ⟨0, u, rfl, rfl, hhigh⟩⟩
        rw [not_isLow_of_isHigh h'] at hlow
        cases hlow
      | succ i =>
        obtain ⟨hwide, hafter, hbefore⟩ := h i x (by simpa using hx)
        refine ⟨hwide, fun hx' => by simpa using hafter hx', fun hx' => ?_⟩
        obtain ⟨j, x', hj, hfound, hhigh'⟩ := hbefore hx'
        exact ⟨j + 2, x', by omega, by simpa using hfound, hhigh'⟩

/-! #### Reading units -/

/-- A narrow unit that is half of no pair is the UTF-16 form of a scalar
value. -/
theorem exists_unitsOf_one (hwide : u.toNat ≤ 0xFFFF) (hhigh : isHigh u = false)
    (hlow : isLow u = false) :
    ∃ c, unitsOf .utf16 c = [u] := by
  obtain ⟨c, rfl⟩ := exists_val_eq (by omega) hhigh hlow
  have hone : c.toNat < 0x10000 := Nat.lt_succ_of_le hwide
  exact ⟨c, by simp [unitsOf, hone]⟩

/-- At the front of UTF-16 text a scalar value is one unit, or a pair. -/
theorem unitsOf_prefix_cases (h : unitsOf .utf16 c <+: w) :
    (∃ rest, w = c.val :: rest ∧ c.toNat < 0x10000) ∨
      ∃ u v rest, w = u :: v :: rest ∧ isHigh u = true ∧ isLow v = true ∧
        u.toNat = 0xD800 + (c.toNat - 0x10000) / 1024 ∧
        v.toNat = 0xDC00 + (c.toNat - 0x10000) % 1024 ∧ 0x10000 ≤ c.toNat := by
  obtain ⟨rest, rfl⟩ := h
  by_cases hone : c.toNat < 0x10000
  · refine .inl ⟨rest, ?_, hone⟩
    simp [unitsOf, hone]
  · obtain ⟨u, v, hunits, hu, hv, hhigh, hlow⟩ := unitsOf_pair (Nat.le_of_not_lt hone)
    exact .inr ⟨u, v, rest, by rw [hunits]; rfl, hhigh, hlow, hu, hv, by omega⟩

/-- No character's units begin another one's. -/
theorem prefixFree_unitsOf (enc : WideEncoding) : PrefixFree (unitsOf enc) := by
  intro c d x y h
  cases enc with
  | utf32 =>
    have hval : c.val = d.val := (List.cons.inj h).1
    exact Char.ext hval
  | utf16 =>
    have hc := unitsOf_prefix_cases (List.prefix_append (unitsOf .utf16 c) x)
    have hd := unitsOf_prefix_cases (h ▸ List.prefix_append (unitsOf .utf16 d) y)
    obtain ⟨hhigh, _⟩ := not_surrogate c
    obtain ⟨hhigh', _⟩ := not_surrogate d
    -- A unit that stands for itself is no high half, and two pairs agree in both halves.
    rcases hc with ⟨_, hc, _⟩ | ⟨u, v, _, hc, hu, _, hcu, hcv, _⟩ <;>
      rcases hd with ⟨_, hd, _⟩ | ⟨u', v', _, hd, hu', _, hdu, hdv, _⟩ <;> rw [hc] at hd
    · exact Char.ext (List.cons.inj hd).1
    · rw [← (List.cons.inj hd).1, hhigh] at hu'
      cases hu'
    · rw [(List.cons.inj hd).1, hhigh'] at hu
      cases hu
    · have hhalves := List.cons.inj hd
      have hhigh : u.toNat = u'.toNat := by rw [hhalves.1]
      have hlow : v.toNat = v'.toNat := by rw [(List.cons.inj hhalves.2).1]
      exact Char.toNat_inj.mp (by omega)

/-- A unit that is no scalar value stops UTF-32. -/
theorem stuck_utf32 (h : (decide (0x10FFFF < u.toNat) || isHigh u || isLow u) = true) :
    Stuck (unitsOf .utf32) (u :: rest) := by
  rintro c ⟨tail, heq⟩
  obtain rfl : c.val = u := (List.cons.inj heq).1
  obtain ⟨hhigh, hlow⟩ := not_surrogate c
  have hrange : c.val.toNat < 0xD800 ∨ (0xDFFF < c.val.toNat ∧ c.val.toNat < 0x110000) :=
    Utf8.toNat_range c
  simp only [hhigh, hlow, Bool.or_false, decide_eq_true_eq] at h
  omega

/-- A unit that is no scalar value and starts no pair stops UTF-16. -/
theorem stuck_utf16 (hone : ∀ c : Char, c.toNat < 0x10000 → c.val ≠ u)
    (hpair : isHigh u = true → ∀ v, rest.head? = some v → isLow v = false) :
    Stuck (unitsOf .utf16) (u :: rest) := by
  intro c hc
  rcases unitsOf_prefix_cases hc with ⟨_, heq, hsmall⟩ | ⟨u', v, tail, heq, hhigh, hlow, _⟩
  · exact hone c hsmall (List.cons.inj heq).1.symm
  · obtain ⟨rfl, rfl⟩ := List.cons.inj heq
    rw [hpair hhigh v rfl] at hlow
    cases hlow

/-- A half of a pair is no scalar value of its own. -/
theorem val_ne_of_half (hu : (isHigh u || isLow u) = true) (c : Char) : c.val ≠ u := by
  rintro rfl
  obtain ⟨hhigh, hlow⟩ := not_surrogate c
  rw [hhigh, hlow] at hu
  cases hu

/-- A search that started at `place` has come to `n`: what it has passed over
is written for scalar values, and there none is. -/
def StopsAt (enc : WideEncoding) (place : Nat) (w : List UInt32) (n : Nat) : Prop :=
  ∃ cs rest, w = encode enc cs ++ rest ∧ rest ≠ [] ∧ Stuck (unitsOf enc) rest ∧
    n = place + (encode enc cs).length

/-- A text stops where it is stuck. -/
theorem StopsAt.here {place : Nat} (hstuck : Stuck (unitsOf enc) (u :: rest)) :
    StopsAt enc place (u :: rest) place :=
  ⟨[], u :: rest, rfl, List.cons_ne_nil _ _, hstuck, rfl⟩

/-- What is written for one more scalar value is passed over. -/
theorem StopsAt.later {place n : Nat} {c : Char} (us : List UInt32)
    (h : StopsAt enc (place + us.length) w n) (hunits : unitsOf enc c = us) :
    StopsAt enc place (us ++ w) n := by
  obtain ⟨cs, rest, rfl, hne, hstuck, rfl⟩ := h
  refine ⟨c :: cs, rest, ?_, hne, hstuck, ?_⟩
  · rw [encode_cons, hunits, List.append_assoc]
  · rw [encode_cons, hunits, List.length_append, Nat.add_assoc]

/-- The search through 32-bit units finds where it stops. -/
theorem stopsAt_of_firstInvalid32 {place n : Nat} (h : firstInvalid32 place w = some n) :
    StopsAt .utf32 place w n := by
  induction w generalizing place with
  | nil => cases h
  | cons u w ih =>
    rw [firstInvalid32] at h
    split at h
    next hbad =>
      cases h
      exact .here (stuck_utf32 hbad)
    next hok =>
      simp only [Bool.or_eq_true, decide_eq_true_eq, not_or, Bool.not_eq_true] at hok
      obtain ⟨c, rfl⟩ := exists_val_eq (Nat.le_of_not_lt hok.1.1) hok.1.2 hok.2
      exact (ih h).later [c.val] rfl

/-- So does the search through 16-bit units. -/
theorem stopsAt_of_firstInvalid16 {place n : Nat} (h : firstInvalid16 place w = some n) :
    StopsAt .utf16 place w n := by
  -- In the order of the search: too wide, a pair, half a pair at some text, half a pair at the end,
  -- a low half alone, and a unit that stands for itself.
  fun_induction firstInvalid16 place w with
  | case1 => cases h
  | case2 place u rest hwide =>
    cases h
    refine .here (stuck_utf16 ?_ ?_)
    · rintro c hc rfl
      have hval : c.val.toNat = c.toNat := rfl
      omega
    · intro hhigh
      exact absurd (toNat_le_of_isHigh hhigh) (Nat.not_le.mpr hwide)
  | case3 place u hwide hhigh v rest hlow ih =>
    obtain ⟨c, hunits⟩ := exists_unitsOf_pair hhigh hlow
    exact (ih h).later [u, v] hunits
  | case4 place u hwide hhigh v rest hlow =>
    cases h
    refine .here (stuck_utf16 (fun c _ => val_ne_of_half (by rw [hhigh]; rfl) c) ?_)
    intro _ v' hv'
    cases hv'
    exact Bool.not_eq_true _ ▸ hlow
  | case5 place u hwide hhigh =>
    cases h
    refine .here (stuck_utf16 (fun c _ => val_ne_of_half (by rw [hhigh]; rfl) c) ?_)
    intro _ v' hv'
    cases hv'
  | case6 place u rest hwide hhigh hlow =>
    cases h
    refine .here (stuck_utf16 (fun c _ => val_ne_of_half (by rw [hlow, Bool.or_true]) c) ?_)
    intro hhigh'
    exact absurd hhigh' hhigh
  | case7 place u rest hwide hhigh hlow ih =>
    rw [Bool.not_eq_true] at hhigh hlow
    obtain ⟨c, hunits⟩ := exists_unitsOf_one (by omega) hhigh hlow
    exact (ih h).later [u] hunits

/-- So it does in either encoding. -/
theorem stopsAt_of_firstInvalid? {n : Nat} (h : firstInvalid? enc w = some n) :
    StopsAt enc 0 w n := by
  cases enc with
  | utf32 => exact stopsAt_of_firstInvalid32 h
  | utf16 => exact stopsAt_of_firstInvalid16 h

/-- What is encoded is well-formed. -/
theorem wellFormed_encode (enc : WideEncoding) (cs : List Char) :
    WellFormed enc (encode enc cs) := by
  induction cs with
  | nil => cases enc with
    | utf32 => simp [WellFormed]
    | utf16 => simp [WellFormed]
  | cons c cs ih =>
    have hrange : c.val.toNat < 0xD800 ∨ (0xDFFF < c.val.toNat ∧ c.val.toNat < 0x110000) :=
      Utf8.toNat_range c
    obtain ⟨hhigh, hlow⟩ := not_surrogate c
    rw [encode_cons]
    cases enc with
    | utf32 => exact List.forall_mem_cons.mpr ⟨⟨by omega, hhigh, hlow⟩, ih⟩
    | utf16 =>
      by_cases hone : c.toNat < 0x10000
      · have hunits : unitsOf .utf16 c = [c.val] := by simp [unitsOf, hone]
        rw [hunits]
        exact (wellFormed_cons_iff hhigh hlow).mpr ⟨Nat.le_of_lt_succ hone, ih⟩
      · obtain ⟨u, v, hunits, _, _, hhigh, hlow⟩ := unitsOf_pair (Nat.le_of_not_lt hone)
        rw [hunits]
        exact (wellFormed_pair_iff hhigh hlow).mpr ih

/-- Units in order are taken off one by one, or two by two. -/
theorem written_of_wellFormed (h : WellFormed enc w) : ∃ cs, w = encode enc cs := by
  cases enc with
  | utf32 =>
    induction w with
    | nil => exact ⟨[], rfl⟩
    | cons u w ih =>
      obtain ⟨⟨hwide, hhigh, hlow⟩, hw⟩ := List.forall_mem_cons.mp h
      obtain ⟨c, rfl⟩ := exists_val_eq hwide hhigh hlow
      obtain ⟨cs, rfl⟩ := ih hw
      exact ⟨c :: cs, rfl⟩
  | utf16 =>
    induction hlen : w.length using Nat.strongRecOn generalizing w with
    | ind n ih =>
      match w with
      | [] => exact ⟨[], rfl⟩
      | u :: w =>
        simp only [List.length_cons] at hlen
        obtain ⟨hwide, hafter, hbefore⟩ := h 0 u rfl
        by_cases hhigh : isHigh u = true
        · obtain ⟨v, hv, hlow⟩ := hafter hhigh
          cases w with
          | nil => cases hv
          | cons v' w =>
            cases hv
            simp only [List.length_cons] at hlen
            obtain ⟨c, hunits⟩ := exists_unitsOf_pair hhigh hlow
            obtain ⟨cs, rfl⟩ := ih _ (by omega) ((wellFormed_pair_iff hhigh hlow).mp h) rfl
            exact ⟨c :: cs, by rw [encode_cons, hunits]; rfl⟩
        · rw [Bool.not_eq_true] at hhigh
          -- A low half at the front would have its high half before it.
          have hlow : isLow u = false := by
            by_contra hlow
            obtain ⟨j, _, hj, _⟩ := hbefore (Bool.not_eq_false _ ▸ hlow)
            omega
          obtain ⟨c, hunits⟩ := exists_unitsOf_one hwide hhigh hlow
          obtain ⟨cs, rfl⟩ := ih _ (by omega) ((wellFormed_cons_iff hhigh hlow).mp h).2 rfl
          exact ⟨c :: cs, by rw [encode_cons, hunits]; rfl⟩

/-- Well-formed text is what is written for scalar values. -/
theorem wellFormed_iff : WellFormed enc w ↔ Written (unitsOf enc) w := by
  constructor
  · exact written_of_wellFormed
  · rintro ⟨cs, rfl⟩
    exact wellFormed_encode enc cs

end Wide

/-! ### What is refused -/

/-- The input is refused for what it is, at the end of its longest good
prefix: it goes on there, but not with what is written for a scalar value.
Native code that gets the error sees a failed conversion. -/
structure Rejected (good : List α → Prop) (write : Char → List α) (operation : String) (l : List α)
    (e : TextError) : Prop where
  operation : e.operation = operation
  cause : e.cause = none
  place : ∃ n : Nat, e.offset = n ∧ n < l.length ∧ LongestPrefix good l n ∧ Stuck write (l.drop n)
  kind : Report.failureKind (.text e) = "conversion"

/-- A reader that is stuck before the end tells what is refused. -/
theorem rejected_of_stuck {good : List α → Prop} {operation : String} {e : TextError}
    (hgood : ∀ l, Written write l ↔ good l) (hfree : PrefixFree write) (cs : List Char)
    {rest : List α} (hstuck : Stuck write rest) (hne : rest ≠ [])
    (hoperation : e.operation = operation) (hcause : e.cause = none)
    (hoffset : e.offset = (cs.flatMap write).length) :
    Rejected good write operation (cs.flatMap write ++ rest) e where
  operation := hoperation
  cause := hcause
  place := by
    have hpos := List.length_pos_iff.mpr hne
    refine ⟨(cs.flatMap write).length, hoffset, ?_,
      (longestPrefix_of_stuck hfree cs hstuck).congr hgood, ?_⟩
    · rw [List.length_append]
      omega
    · rw [List.drop_left]
      exact hstuck
  kind := rfl

namespace Wide

variable {enc : WideEncoding} {t : Transcoder}

/-- Bytes are rejected exactly when they are not well-formed. -/
theorem ofUtf8With_error_iff (ht : t.IsStandard enc) (bs : Bytes) :
    (∃ e, ofUtf8With t enc bs = .error e) ↔ ¬ Utf8.WellFormed bs := by
  rw [Utf8.wellFormed_iff]
  constructor
  · rintro ⟨e, he⟩ ⟨cs, rfl⟩
    rw [show cs.flatMap Utf8.encodeChar = Utf8.encode cs from rfl, ofUtf8With_encode ht] at he
    cases he
  · intro hbad
    have hinvalid : ¬ Utf8.isValid bs = true := fun h => hbad (Utf8.isValid_iff.mp h)
    have hne : bs ≠ [] := fun h => hbad ⟨[], h⟩
    exact ⟨_, by rw [ofUtf8With, if_neg hne, if_pos (by simpa using hinvalid)]⟩

/-- So are units. -/
theorem toUtf8With_error_iff (ht : t.IsStandard enc) (units : List UInt32) :
    (∃ e, toUtf8With t enc units = .error e) ↔ ¬ WellFormed enc units := by
  rw [wellFormed_iff]
  constructor
  · rintro ⟨e, he⟩ ⟨cs, rfl⟩
    rw [show cs.flatMap (unitsOf enc) = encode enc cs from rfl, toUtf8With_encode ht] at he
    cases he
  · intro hbad
    have hne : units ≠ [] := fun h => hbad ⟨[], h⟩
    cases hplace : firstInvalid? enc units with
    | none => exact absurd (firstInvalid?_eq_none_iff.mp hplace) hbad
    | some place => exact ⟨_, by rw [toUtf8With, if_neg hne, hplace]⟩

/-- The error for bytes says where they stop being well-formed. -/
theorem rejected_of_ofUtf8With (ht : t.IsStandard enc) {bs : Bytes} {e : TextError}
    (h : ofUtf8With t enc bs = .error e) :
    Rejected Utf8.WellFormed Utf8.encodeChar "utf8-to-wide" bs e := by
  obtain ⟨cs, rest, rfl, hstuck, hplace⟩ := Utf8.exists_firstInvalid bs
  have hne : rest ≠ [] := by
    rintro rfl
    rw [List.append_nil, ofUtf8With_encode ht] at h
    cases h
  have hinvalid : Utf8.isValid (Utf8.encode cs ++ rest) = false := by
    rw [← Bool.not_eq_true, Utf8.isValid_iff]
    exact fun hw => hne ((written_iff_of_stuck Utf8.prefixFree_encodeChar cs hstuck).mp hw)
  have hcons : Utf8.encode cs ++ rest ≠ [] := fun h => hne (List.append_eq_nil_iff.mp h).2
  rw [ofUtf8With, if_neg hcons, hinvalid, hplace] at h
  cases h
  exact rejected_of_stuck (fun _ => Utf8.wellFormed_iff.symm) Utf8.prefixFree_encodeChar cs hstuck
    hne rfl rfl rfl

/-- So does the error for units. -/
theorem rejected_of_toUtf8With (ht : t.IsStandard enc) {units : List UInt32} {e : TextError}
    (h : toUtf8With t enc units = .error e) :
    Rejected (WellFormed enc) (unitsOf enc) "wide-to-utf8" units e := by
  cases hplace : firstInvalid? enc units with
  | none =>
    obtain ⟨cs, rfl⟩ := firstInvalid?_eq_none_iff.mp hplace
    rw [toUtf8With_encode ht] at h
    cases h
  | some place =>
    have hcons : units ≠ [] := by
      rintro rfl
      cases h
    rw [toUtf8With, if_neg hcons, hplace] at h
    cases h
    obtain ⟨cs, rest, rfl, hne, hstuck, rfl⟩ := stopsAt_of_firstInvalid? hplace
    rw [Nat.zero_add]
    exact rejected_of_stuck (fun _ => wellFormed_iff.symm) (prefixFree_unitsOf enc) cs hstuck
      hne rfl rfl rfl

/-- The conversions refuse exactly what is not well formed, at the end of
its longest well-formed prefix. -/
theorem conversions_reject (ht : t.IsStandard enc) :
    (∀ bs, (∃ e, ofUtf8With t enc bs = .error e) ↔ ¬ Utf8.WellFormed bs) ∧
    (∀ units, (∃ e, toUtf8With t enc units = .error e) ↔ ¬ WellFormed enc units) ∧
    (∀ bs e, ofUtf8With t enc bs = .error e →
      Rejected Utf8.WellFormed Utf8.encodeChar "utf8-to-wide" bs e) ∧
    (∀ units e, toUtf8With t enc units = .error e →
      Rejected (WellFormed enc) (unitsOf enc) "wide-to-utf8" units e) :=
  ⟨ofUtf8With_error_iff ht, toUtf8With_error_iff ht, fun _ _ => rejected_of_ofUtf8With ht,
    fun _ _ => rejected_of_toUtf8With ht⟩

/-- A U+FFFD that was written is passed over, and half of a pair after it
is not. -/
theorem conversions_reject_utf16 :
    (transcoder .utf16).IsStandard .utf16 ∧
      (∃ e, ofUtf8With (transcoder .utf16) .utf16 [0xEF, 0xBF, 0xBD, 0xF0, 0x9F, 0x98] = .error e ∧
        e.offset = 3 ∧ Rejected Utf8.WellFormed Utf8.encodeChar "utf8-to-wide" [0xEF, 0xBF, 0xBD,
          0xF0, 0x9F, 0x98] e) ∧
      ∃ e, toUtf8With (transcoder .utf16) .utf16 [0xFFFD, 0xD83D, 0xDE00, 0xD83D, 0x41] = .error e ∧
        e.offset = 3 ∧ Rejected (WellFormed .utf16) (unitsOf .utf16) "wide-to-utf8" [0xFFFD, 0xD83D,
          0xDE00, 0xD83D, 0x41] e :=
  have ht := isStandard_transcoder .utf16
  ⟨ht, ⟨.notUtf8 3, rfl, rfl, (conversions_reject ht).2.2.1 _ _ rfl⟩,
    ⟨.notWide 3, rfl, rfl, (conversions_reject ht).2.2.2 _ _ rfl⟩⟩

end Wide

end ObjectBridge

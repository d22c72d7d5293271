import ObjectBridge.Proofs.Id.Text

/-!
# `ObjectBridge.Proofs.Id.Grammar`: which texts count as identifiers

A text of an identifier has 26 characters of the alphabet, in either letter
case, and the first is at most `7`. That is a grammar (`WellFormed`), and it
is also what reading loses nothing of: the texts of the grammar are those
that are read as an identifier with this text, letter case apart
(`wellFormed_iff_exists_text`).

`isValid` does not ask for the grammar. It looks at the length and at the
first character, and lets every other byte pass. So it agrees with the
grammar on a text exactly if there is no foreign character in a text that
it accepts (`isValid_lenient`). One that has a separator in it is even
refused when it is parsed (`not_wellFormed_of_isValid`).
-/

set_option autoImplicit false

namespace ObjectBridge.Ulid

variable {text : Bytes} {b : UInt8}

/-! ### Characters -/

/-- Digits and letters, without those that are mistaken for digits, and
without `U`. -/
def IsDigit (b : UInt8) : Prop :=
  (48 ≤ b ∧ b ≤ 57) ∨ ((65 ≤ b ∧ b ≤ 90) ∨ (97 ≤ b ∧ b ≤ 122)) ∧ b ∉ Bytes.ofString "ILOUilou"

instance : DecidablePred IsDigit := fun _ => inferInstanceAs (Decidable (_ ∨ _))

/-- A letter as a capital letter. -/
def capital (b : UInt8) : UInt8 := if 97 ≤ b ∧ b ≤ 122 then b - 32 else b

/-- What a digit stands for, gone through byte by byte. -/
theorem isDigit_value :
    ∀ b, IsDigit b → (digitValue b).toNat < 32 ∧ letter (digitValue b).toNat = capital b ∧
    (b ≤ 55 → (digitValue b).toNat < 8) := by decide +kernel

/-- The characters of the alphabet are digits, in either letter case. -/
theorem isDigit_of_mem {c : UInt8} (h : c ∈ alphabet) :
    IsDigit c ∧ (65 ≤ c → IsDigit (c + 32)) := by
  have hall : alphabet.all (fun c => IsDigit c ∧ (65 ≤ c → IsDigit (c + 32))) = true := by
    decide
  exact of_decide_eq_true (List.all_eq_true.mp hall c h)

/-- A byte is a digit when its capital is in the alphabet. -/
theorem isDigit_of_capital (h : capital b ∈ alphabet) : IsDigit b := by
  unfold capital at h
  split at h
  case isTrue hlower =>
    have hupper : 65 ≤ b - 32 := by grind
    have hback : b - 32 + 32 = b := by grind
    exact hback ▸ (isDigit_of_mem h).2 hupper
  case isFalse => exact (isDigit_of_mem h).1

/-! ### Texts -/

/-- The grammar of the text form. -/
structure WellFormed (text : Bytes) : Prop where
  length : text.length = 26
  digits : ∀ b ∈ text, IsDigit b
  /-- There is no place for more than three bits of the first digit. -/
  first : ∀ b ∈ text.head?, b ≤ 55

/-- Only the length and the first character decide what is read. -/
theorem ofText_eq_ok_iff {u : Ulid} : ofText text = .ok u ↔
    (text.length = 26 ∧ ∀ b ∈ text.head?, b ≤ 55) ∧
    u = { bytes := ofDigits (text.map digitValue) } := by
  rw [ofText]
  by_cases hlength : text.length = 26
  · rw [if_neg (not_not_intro hlength)]
    cases text with
    | nil => cases hlength
    | cons b rest =>
      by_cases hfirst : b ≤ 55
      · have hsmall : ¬(b :: rest).headD 0 > 55 := UInt8.not_lt.mpr hfirst
        rw [if_neg hsmall]
        simp [hlength, hfirst, eq_comm]
      · have hlarge : (b :: rest).headD 0 > 55 := UInt8.not_le.mp hfirst
        rw [if_pos hlarge]
        simp [hfirst]
  · rw [if_pos hlength]
    simp [hlength]

/-- A text passes the check that has 26 bytes and does not begin too high. -/
theorem isValid_iff (text : Bytes) : isValid text = true ↔ text.length = 26 ∧ ∀ b ∈ text.head?,
    b ≤ 55 := by
  constructor
  · intro h
    rw [isValid] at h
    cases hread : ofText text with
    | error e =>
      rw [hread] at h
      cases h
    | ok u => exact (ofText_eq_ok_iff.mp hread).1
  · intro h
    rw [isValid, ofText_eq_ok_iff.mpr ⟨h, rfl⟩]
    rfl

/-- It is well-formed when all its bytes are digits, too. -/
theorem wellFormed_iff (text : Bytes) : WellFormed text ↔ isValid text = true ∧ ∀ b ∈ text,
    IsDigit b := by
  rw [isValid_iff]
  constructor
  · intro h
    exact ⟨⟨h.length, h.first⟩, h.digits⟩
  · intro ⟨⟨hlength, hfirst⟩, hdigits⟩
    exact ⟨hlength, hdigits, hfirst⟩

/-- A text of the grammar is read as the identifier that has this text. -/
theorem WellFormed.exists_text (h : WellFormed text) :
    ∃ u : Ulid, u.bytes.length = 16 ∧ ofText text = .ok u ∧ u.text = text.map capital := by
  have hvalues : ∀ d ∈ text.map digitValue, d.toNat < 32 := by
    intro d hd
    obtain ⟨b, hb, rfl⟩ := List.mem_map.mp hd
    exact (isDigit_value b (h.digits b hb)).1
  have hhead : ∀ d ∈ (text.map digitValue).head?, d.toNat < 8 := by
    intro d hd
    rw [List.head?_map] at hd
    obtain ⟨b, hb, rfl⟩ := Option.mem_map.mp hd
    exact (isDigit_value b (h.digits b (List.mem_of_mem_head? hb))).2.2 (h.first b hb)
  obtain ⟨hsize, hspelled⟩ := spelled_ofDigits (by rw [List.length_map, h.length]) hvalues hhead
  let u : Ulid := { bytes := ofDigits (text.map digitValue) }
  -- The digits of the text that is written are those that were read.
  have hdigits : digitsOf 26 u.toNat = numbers (text.map digitValue) := by
    have hlength : (numbers (text.map digitValue)).length = 26 := by
      rw [numbers, List.length_map, List.length_map, h.length]
    rw [toNat_eq_spelled, hspelled, ← hlength]
    apply digitsOf_spelled
    intro d hd
    obtain ⟨v, hv, rfl⟩ := List.mem_map.mp hd
    exact hvalues v hv
  refine ⟨u, hsize, ?_, ?_⟩
  · exact ofText_eq_ok_iff.mpr ⟨⟨h.length, h.first⟩, rfl⟩
  · rw [text_eq_map, hdigits, numbers, List.map_map, List.map_map]
    exact List.map_congr_left fun b hb => (isDigit_value b (h.digits b hb)).2.1

/-- The grammar is what reading loses nothing of but letter case. -/
theorem wellFormed_iff_exists_text (text : Bytes) : WellFormed text ↔
    ∃ u : Ulid, u.bytes.length = 16 ∧ ofText text = .ok u ∧ u.text = text.map capital := by
  constructor
  · intro h
    exact h.exists_text
  · intro ⟨u, _, hread, htext⟩
    rw [wellFormed_iff]
    refine ⟨by rw [isValid, hread]; rfl, ?_⟩
    intro b hb
    have hmem : capital b ∈ u.text := htext ▸ List.mem_map_of_mem hb
    rw [text_eq_map] at hmem
    obtain ⟨d, hd, hletter⟩ := List.mem_map.mp hmem
    apply isDigit_of_capital
    rw [← hletter]
    exact letter_mem_alphabet (lt_of_mem_digitsOf hd)

/-- Which texts are accepted, and when these are the texts of the grammar. -/
theorem isValid_lenient (text : Bytes) :
    (isValid text = true ↔ text.length = 26 ∧ ∀ b ∈ text.head?, b ≤ 55) ∧
      (WellFormed text ↔ ∃ u : Ulid, u.bytes.length = 16 ∧ ofText text = .ok u ∧ u.text =
        text.map capital) ∧
      ((isValid text = true ↔ WellFormed text) ↔
        (isValid text = true → ∀ b ∈ text, IsDigit b)) := by
  refine ⟨isValid_iff text, wellFormed_iff_exists_text text, ?_⟩
  rw [wellFormed_iff]
  constructor
  · intro h hvalid
    exact (h.mp hvalid).2
  · intro h
    exact ⟨fun hvalid => ⟨hvalid, h hvalid⟩, fun hboth => hboth.1⟩

/-- A separator is no character of the alphabet. -/
theorem not_wellFormed_of_isValid : ¬∀ text, isValid text = true ↔ WellFormed text := by
  intro h
  have hvalid : isValid (.ofString "01ARZ3NDEK_SV4RRFFQ69G5FAV") = true := by decide
  have hdigit := ((h _).mp hvalid).digits separator (by decide)
  exact absurd hdigit (by decide)

end ObjectBridge.Ulid

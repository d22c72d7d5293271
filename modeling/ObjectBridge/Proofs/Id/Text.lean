import ObjectBridge.Proofs.Id.Digits

/-!
# `ObjectBridge.Proofs.Id.Text`: texts of identifiers are read back, and sort by time

The text of an identifier has one character for each digit of its number.
Reading it gives the identifier again (`ofText_text`), also behind a
prefix: no character of the text is a separator, so the last separator of
the whole is the one in front of it, whatever the prefix has
(`suffix_textWithPrefix`).

The characters are in the order of their digits and the digits in the
order of the numbers, so texts sort as the numbers do (`text_lt_text`). The
milliseconds are the first six bytes of the number, and an earlier moment
gives a smaller one whatever the entropy is (`toNat_lt_toNat`).

`generate_readable_sorted` puts this together for the identifiers that are
generated.
-/

set_option autoImplicit false

namespace ObjectBridge.Ulid

variable {u v : Ulid} {ms ms' : Nat} {entropy entropy' : Bytes}

/-! ### Characters -/

/-- The character of a digit. -/
def letter (d : Nat) : UInt8 := alphabet.getD d 0

/-- The text of an identifier is that of its digits. -/
theorem text_eq_map (u : Ulid) : u.text = (digitsOf 26 u.toNat).map letter := rfl

/-- The letter of a digit stands for it. -/
theorem digitValue_letter : ∀ d < 32, digitValue (letter d) = d.toUInt8 := by decide

/-- The alphabet is in order. -/
theorem ascending_alphabet : alphabet.Pairwise (· < ·) := by decide

/-- The letter of a digit stands at its place in the alphabet. -/
theorem letter_eq_getElem {d : Nat} (hd : d < alphabet.length) : letter d = alphabet[d] :=
  (List.getElem_eq_getD 0).symm

/-- Letters are in the alphabet. -/
theorem letter_mem_alphabet {d : Nat} (hd : d < 32) : letter d ∈ alphabet := by
  have hd : d < alphabet.length := hd
  rw [letter_eq_getElem hd]
  exact List.getElem_mem hd

/-- Letters are ordered as digits are. -/
theorem letter_lt_letter : ∀ d < 32, ∀ e < 32, d < e → letter d < letter e := by
  intro d hd e he hlt
  have hd : d < alphabet.length := hd
  have he : e < alphabet.length := he
  rw [letter_eq_getElem hd, letter_eq_getElem he]
  exact List.pairwise_iff_getElem.mp ascending_alphabet d e hd he hlt

/-- The first digits have letters up to 7. -/
theorem letter_le_seven : ∀ d < 8, letter d ≤ 55 := by decide

/-- No letter is the separator. -/
theorem letter_ne_separator : ∀ d < 32, letter d ≠ separator := by
  intro d hd heq
  have hnotin : separator ∉ alphabet := by decide
  exact hnotin (heq ▸ letter_mem_alphabet hd)

/-- Digits in order are in order as letters. -/
theorem map_letter_lt {xs ys : List Nat} (hxs : ∀ d ∈ xs, d < 32) (hys : ∀ d ∈ ys, d < 32)
    (h : xs < ys) :
    xs.map letter < ys.map letter := by
  induction xs generalizing ys with
  | nil =>
    cases ys with
    | nil => cases h
    | cons y ys => exact List.nil_lt_cons _ _
  | cons x xs ih =>
    cases ys with
    | nil => cases h
    | cons y ys =>
      rw [List.map_cons, List.map_cons, List.cons_lt_cons_iff]
      rcases List.cons_lt_cons_iff.mp h with hlt | ⟨rfl, hlt⟩
      · exact .inl (letter_lt_letter x (hxs x (by simp)) y (hys y (by simp)) hlt)
      · refine .inr ⟨rfl, ih (fun d hd => ?_) (fun d hd => ?_) hlt⟩
        · exact hxs d (List.mem_cons_of_mem _ hd)
        · exact hys d (List.mem_cons_of_mem _ hd)

/-! ### Texts -/

/-- Sixteen bytes fit in twenty-six digits. -/
theorem toNat_lt (h : u.bytes.length = 16) : u.toNat < 8 * 32 ^ 25 := by
  have hlt := spelled_lt (by decide : 1 < 256) fun d (hd : d ∈ numbers u.bytes) =>
    lt_of_mem_numbers hd
  rw [← toNat_eq_spelled, numbers, List.length_map, h] at hlt
  exact hlt

/-- The digits of the text spell the number of the identifier. -/
theorem spelled_digitsOf_toNat (h : u.bytes.length = 16) :
    spelled 32 (digitsOf 26 u.toNat) = u.toNat := by
  have hlt := toNat_lt h
  apply spelled_digitsOf
  omega

/-- The first of them is below 8, as two bits of 26 times five are too
many. -/
theorem head_digitsOf_toNat (h : u.bytes.length = 16) :
    ∀ d ∈ (digitsOf 26 u.toNat).head?, d < 8 := by
  intro d hd
  have hspelled := spelled_digitsOf_toNat h
  have hlength := length_digitsOf 26 u.toNat
  cases hdigits : digitsOf 26 u.toNat with
  | nil =>
    rw [hdigits] at hd
    cases hd
  | cons e rest =>
    rw [hdigits] at hd hspelled hlength
    obtain rfl : e = d := Option.some.inj hd
    have hrest : rest.length = 25 := Nat.succ.inj hlength
    have hlt := toNat_lt h
    rw [spelled_cons, hrest] at hspelled
    omega

/-- The text of an identifier is read as the identifier. -/
theorem ofText_text (h : u.bytes.length = 16) : ofText u.text = .ok u := by
  have hdigits : ∀ d ∈ digitsOf 26 u.toNat, d < 32 := fun d hd => lt_of_mem_digitsOf hd
  have hlength : u.text.length = 26 := by simp [text_eq_map]
  have hhead := head_digitsOf_toNat h
  have hfirst : ¬u.text.headD 0 > 55 := by
    rw [text_eq_map]
    cases hdigits : digitsOf 26 u.toNat with
    | nil => decide
    | cons d rest =>
      rw [hdigits] at hhead
      exact UInt8.not_lt.mpr (letter_le_seven d (hhead d rfl))
  -- The values of the characters are the digits, and small enough to be packed.
  have hvalues : u.text.map digitValue = (digitsOf 26 u.toNat).map Nat.toUInt8 := by
    rw [text_eq_map, List.map_map]
    exact List.map_congr_left fun d hd => digitValue_letter d (hdigits d hd)
  have hnumbers : numbers ((digitsOf 26 u.toNat).map Nat.toUInt8) = digitsOf 26 u.toNat :=
    numbers_toUInt8 fun d hd => Nat.lt_trans (hdigits d hd) (by decide)
  have hcount : ((digitsOf 26 u.toNat).map Nat.toUInt8).length = 26 := by simp
  obtain ⟨hsize, hspelled⟩ := spelled_ofDigits hcount
    (fun d hd => by
      have hmem : d.toNat ∈ numbers ((digitsOf 26 u.toNat).map Nat.toUInt8) :=
        List.mem_map_of_mem hd
      rw [hnumbers] at hmem
      exact hdigits _ hmem)
    (fun d hd => by
      rw [List.head?_map] at hd
      obtain ⟨n, hn, rfl⟩ := Option.mem_map.mp hd
      have hn := hhead n hn
      show n % 256 < 8
      omega)
  have hbytes : ofDigits (u.text.map digitValue) = u.bytes := by
    rw [hvalues]
    apply List.map_injective_iff.mpr fun _ _ => UInt8.toNat_inj.mp
    show numbers _ = numbers _
    apply spelled_inj (by decide : 1 < 256) _ (fun d hd => lt_of_mem_numbers hd)
      (fun d hd => lt_of_mem_numbers hd)
    · rw [hspelled, hnumbers, spelled_digitsOf_toNat h, toNat_eq_spelled]
    · rw [numbers, numbers, List.length_map, List.length_map, hsize, h]
  rw [ofText, if_neg (by simp [hlength]), if_neg hfirst, hbytes]

/-- Texts sort as the numbers do. -/
theorem text_lt_text (hu : u.bytes.length = 16) (hv : v.bytes.length = 16) (h : u.toNat < v.toNat) :
    u.text < v.text := by
  have hudigits : ∀ d ∈ digitsOf 26 u.toNat, d < 32 := fun d hd => lt_of_mem_digitsOf hd
  have hvdigits : ∀ d ∈ digitsOf 26 v.toNat, d < 32 := fun d hd => lt_of_mem_digitsOf hd
  apply map_letter_lt hudigits hvdigits
  rw [← spelled_lt_iff (by decide) (by simp) hudigits hvdigits, spelled_digitsOf_toNat hu,
    spelled_digitsOf_toNat hv]
  exact h

/-! ### Prefixes -/

/-- No character of the text is a separator. -/
theorem separator_notMem_text (u : Ulid) : separator ∉ u.text := by
  intro hmem
  obtain ⟨d, hd, hletter⟩ := List.mem_map.mp hmem
  exact letter_ne_separator d (lt_of_mem_digitsOf hd) hletter

/-- From its end on, a text has no separator. -/
theorem takeWhile_reverse_text (u : Ulid) (rest : Bytes) :
    (u.text.reverse ++ rest).takeWhile (· ≠ separator) =
      u.text.reverse ++ rest.takeWhile (· ≠ separator) := by
  apply List.takeWhile_append_of_pos
  intro b hb
  apply decide_eq_true
  rintro rfl
  exact separator_notMem_text u (List.mem_reverse.mp hb)

/-- What follows the last separator is the text, with any prefix in front
of it. -/
theorem suffix_textWithPrefix (pre : Bytes) (u : Ulid) :
    suffix (textWithPrefix pre u) = u.text := by
  have hreverse : (textWithPrefix pre u).reverse = u.text.reverse ++ separator :: pre.reverse := by
    simp [textWithPrefix]
  rw [suffix, hreverse, takeWhile_reverse_text, List.takeWhile_cons_of_neg (by simp),
    List.append_nil, List.reverse_reverse]

/-- Without a prefix the suffix is the whole. -/
theorem suffix_text (u : Ulid) : suffix u.text = u.text := by
  have hwhole := takeWhile_reverse_text u []
  rw [List.append_nil, List.takeWhile_nil, List.append_nil] at hwhole
  rw [suffix, hwhole, List.reverse_reverse]

/-- A text of an identifier: bare, or behind a prefix. -/
def Names (text : Bytes) (u : Ulid) : Prop := text = u.text ∨ ∃ pre, text = textWithPrefix pre u

/-- A text that names an identifier is parsed to it. -/
theorem parse_of_names {text : Bytes} (h : Names text u) (hu : u.bytes.length = 16) :
    parse text = .ok u := by
  have hsuffix : suffix text = u.text := by
    rcases h with hbare | ⟨pre, hprefixed⟩
    · rw [hbare, suffix_text]
    · rw [hprefixed, suffix_textWithPrefix]
  rw [parse, hsuffix, ofText_text hu]

/-- A prefix leaves the order. -/
theorem textWithPrefix_lt (pre : Bytes) (h : u.text < v.text) :
    textWithPrefix pre u < textWithPrefix pre v :=
  List.append_left_lt h

/-! ### Moments -/

/-- The time is written in six bytes. -/
theorem numbers_timeBytes (ms : Nat) : numbers (timeBytes ms) =
    [ms / 2 ^ 40 % 256, ms / 2 ^ 32 % 256, ms / 2 ^ 24 % 256, ms / 2 ^ 16 % 256, ms / 2 ^ 8 % 256,
      ms % 256] := by
  simp only [numbers, timeBytes, List.map_cons, List.map_nil, Nat.pow_eq, Nat.toUInt8_eq,
    UInt8.toNat_ofNat', Nat.reducePow]

/-- The first six bytes spell the milliseconds. -/
theorem spelled_timeBytes (h : ms < 2 ^ 48) : spelled 256 (numbers (timeBytes ms)) = ms := by
  rw [numbers_timeBytes]
  simp only [spelled, List.foldl_cons, List.foldl_nil]
  omega

/-- The time that went in is the one that is read. -/
theorem milliseconds_ofParts (h : ms < 2 ^ 48) (entropy : Bytes) :
    (ofParts ms entropy).milliseconds = ms := by
  have htime : (ofParts ms entropy).bytes.take 6 = timeBytes ms := List.take_left' rfl
  rw [milliseconds, htime]
  have hspelled := spelled_timeBytes h
  rw [spelled, numbers, List.foldl_map] at hspelled
  exact hspelled

/-- The number of an identifier is its time and its entropy. -/
theorem toNat_ofParts (h : ms < 2 ^ 48) (entropy : Bytes) :
    (ofParts ms entropy).toNat = ms * 256 ^ entropy.length + spelled 256 (numbers entropy) := by
  have happend : numbers (timeBytes ms ++ entropy) = numbers (timeBytes ms) ++ numbers entropy :=
    List.map_append
  rw [toNat_eq_spelled]
  show spelled 256 (numbers (timeBytes ms ++ entropy)) = _
  rw [happend, spelled_append, spelled_timeBytes h, numbers, List.length_map]

/-- An earlier moment gives a smaller number. -/
theorem toNat_lt_toNat (hms' : ms' < 2 ^ 48) (h : ms < ms')
    (hlength : entropy.length = entropy'.length) :
    (ofParts ms entropy).toNat < (ofParts ms' entropy').toNat := by
  have hentropy : spelled 256 (numbers entropy) < 256 ^ entropy.length := by
    have hlt := spelled_lt (by decide : 1 < 256) fun d (hd : d ∈ numbers entropy) =>
      lt_of_mem_numbers hd
    rwa [numbers, List.length_map] at hlt
  calc (ofParts ms entropy).toNat
      = ms * 256 ^ entropy.length + spelled 256 (numbers entropy) :=
        toNat_ofParts (by omega) entropy
    _ < (ms + 1) * 256 ^ entropy.length := by rw [Nat.add_mul]; omega
    _ ≤ ms' * 256 ^ entropy.length := Nat.mul_le_mul_right _ h
    _ ≤ ms' * 256 ^ entropy'.length + spelled 256 (numbers entropy') := by rw [hlength]; omega
    _ = (ofParts ms' entropy').toNat := (toNat_ofParts hms' entropy').symm

/-! ### Generated identifiers -/

/-- Ten bytes of entropy are enough. -/
theorem generate_eq (ms : Nat) (h : 10 ≤ entropy.length) :
    generate ms entropy = (.ok (ofParts ms (entropy.take 10)), entropy.drop 10) := by
  have hsome : ¬entropy.isEmpty = true := by
    rw [List.isEmpty_iff]
    rintro rfl
    simp at h
  rw [generate, if_neg hsome, if_neg (by omega)]

/-- An identifier was only made of ten bytes. -/
theorem eq_of_generate {rest : Bytes} (h : generate ms entropy = (.ok u, rest)) :
    10 ≤ entropy.length ∧ u = ofParts ms (entropy.take 10) := by
  by_cases hlength : 10 ≤ entropy.length
  · rw [generate_eq ms hlength] at h
    cases h
    exact ⟨hlength, rfl⟩
  · have hshort : entropy.length < 10 := Nat.lt_of_not_le hlength
    rw [generate, if_pos hshort] at h
    split at h <;> cases h

/-- It has sixteen bytes. -/
theorem length_ofParts (ms : Nat) (h : entropy.length = 10) :
    (ofParts ms entropy).bytes.length = 16 := by
  show (timeBytes ms ++ entropy).length = 16
  rw [List.length_append, h]
  rfl

/-- An identifier is generated from any moment that has a text and any ten
bytes of entropy. Each of its texts, bare or behind any prefix, is read as
these 16 bytes and tells the moment, and sorts before the texts of
identifiers of later moments with the same prefix. -/
theorem generate_readable_sorted (hms : ms < 2 ^ 48) (hentropy : 10 ≤ entropy.length) :
    ∃ u, generate ms entropy = (.ok u, entropy.drop 10) ∧ u.bytes.length = 16 ∧
      u.bytes.drop 6 = entropy.take 10 ∧
      (∀ text, Names text u → parse text = .ok u ∧ (parse text).map milliseconds = .ok ms) ∧
      ∀ ms' entropy' v rest, ms < ms' → ms' < 2 ^ 48 → generate ms' entropy' = (.ok v, rest) →
        u.text < v.text ∧ ∀ pre, textWithPrefix pre u < textWithPrefix pre v := by
  have hlength : (entropy.take 10).length = 10 := by simpa using hentropy
  have hbytes := length_ofParts ms hlength
  refine ⟨_, generate_eq ms hentropy, hbytes, ?_, ?_, ?_⟩
  · show (timeBytes ms ++ entropy.take 10).drop 6 = _
    exact List.drop_left' rfl
  · intro text htext
    rw [parse_of_names htext hbytes]
    exact ⟨rfl, congrArg Except.ok (milliseconds_ofParts hms _)⟩
  · intro ms' entropy' v rest hlt hms' hv
    obtain ⟨hentropy', rfl⟩ := eq_of_generate hv
    have hlength' : (entropy'.take 10).length = 10 := by simpa using hentropy'
    have hsorted := text_lt_text hbytes (length_ofParts ms' hlength')
      (toNat_lt_toNat hms' hlt (hlength.trans hlength'.symm))
    exact ⟨hsorted, fun pre => textWithPrefix_lt pre hsorted⟩

/-- Entropy for one identifier. -/
def someEntropy : Bytes := [0xd6, 0x76, 0x4c, 0x61, 0xef, 0xb9, 0x93, 0x02, 0xbd, 0x5b]

/-- An identifier of 30 July 2016, behind a prefix that has a separator
itself. -/
theorem generate_readable_sorted_2016 :
    1469922850259 < 2 ^ 48 ∧ 10 ≤ someEntropy.length ∧
      ∃ u, generate 1469922850259 someEntropy = (.ok u, []) ∧
        textWithPrefix (.ofString "my_inst") u = .ofString "my_inst_01ARZ3NDEKTSV4RRFFQ69G5FAV" ∧
        parse (.ofString "my_inst_01ARZ3NDEKTSV4RRFFQ69G5FAV") = .ok u ∧
        (parse (.ofString "my_inst_01ARZ3NDEKTSV4RRFFQ69G5FAV")).map milliseconds =
        .ok 1469922850259 := by
  have hms : 1469922850259 < 2 ^ 48 := by decide
  have hentropy : 10 ≤ someEntropy.length := by decide
  obtain ⟨u, hmade, _, _, hread, _⟩ := generate_readable_sorted hms hentropy
  obtain ⟨_, rfl⟩ := eq_of_generate hmade
  have htext : textWithPrefix (.ofString "my_inst") (ofParts 1469922850259 (someEntropy.take 10)) =
      .ofString "my_inst_01ARZ3NDEKTSV4RRFFQ69G5FAV" := by decide +kernel
  obtain ⟨hparse, htime⟩ := hread _ (.inr ⟨_, htext.symm⟩)
  exact ⟨hms, hentropy, _, hmade, htext, hparse, htime⟩

end ObjectBridge.Ulid

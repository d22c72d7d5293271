/-!
# `ObjectBridge.Text.Utf8`: byte strings and UTF-8

Text that crosses the host boundary is a byte string, because nothing
forces a host to hand over well-formed UTF-8. This module reads such a
string one scalar value at a time.

* `Utf8.head?` is the whole grammar: the scalar value that starts a byte
  string and the number of bytes it occupies, or nothing when no
  well-formed sequence starts there. Overlong forms, surrogates and
  values above U+10FFFF have no well-formed sequence.
* `Utf8.decode` reads a whole string and otherwise reports the offset of
  the first byte at which no sequence starts.
* `Utf8.decodeLossy` never fails: a byte that starts no sequence reads as
  U+FFFD and the next byte is tried.
* `Utf8.symbols` loses nothing: a byte that starts no sequence stays what
  it is, among characters.
* `Bytes.ofString` writes text back.
-/

set_option autoImplicit false

namespace ObjectBridge

/-- A host string: bytes that are usually, but not always, UTF-8. -/
abbrev Bytes := List UInt8

/-- Byte strings are ordered like words. -/
instance : Std.IsLinearOrder Bytes := inferInstance
instance : Std.LawfulOrderLT Bytes := inferInstance

instance : LawfulBEq Bytes := inferInstance

namespace Utf8

/-! ### Writing -/

/-- The UTF-8 form of one scalar value. -/
def encodeChar (c : Char) : Bytes :=
  let n := c.toNat
  if n < 0x80 then [n.toUInt8]
  else if n < 0x800 then [(0xC0 + n / 64).toUInt8, (0x80 + n % 64).toUInt8]
  else if n < 0x10000 then
    [(0xE0 + n / 4096).toUInt8, (0x80 + n / 64 % 64).toUInt8, (0x80 + n % 64).toUInt8]
  else
    [(0xF0 + n / 262144).toUInt8, (0x80 + n / 4096 % 64).toUInt8,
      (0x80 + n / 64 % 64).toUInt8, (0x80 + n % 64).toUInt8]

/-- The UTF-8 form of a sequence of scalar values. -/
def encode (cs : List Char) : Bytes := cs.flatMap encodeChar

/-! ### Reading -/

/-- The payload of a continuation byte that lies in `lo … hi`. The
bounds are narrower than `80 … BF` only for the second byte, where they
keep overlong forms, surrogates and values above U+10FFFF out. -/
def continuation? (lo hi : Nat) (b : UInt8) : Option Nat :=
  if lo ≤ b.toNat ∧ b.toNat ≤ hi then some (b.toNat - 0x80) else none

/-- Bounds of the second byte after the leading byte `lead`. -/
def secondBounds (lead : Nat) : Nat × Nat :=
  if lead = 0xE0 then (0xA0, 0xBF)
  else if lead = 0xED then (0x80, 0x9F)
  else if lead = 0xF0 then (0x90, 0xBF)
  else if lead = 0xF4 then (0x80, 0x8F)
  else (0x80, 0xBF)

/-- The scalar value at the front of a byte string and its width in
bytes; `none` when the front is no well-formed sequence. -/
def head? : Bytes → Option (Char × Nat)
  | [] => none
  | b0 :: rest =>
    let lead := b0.toNat
    let (lo, hi) := secondBounds lead
    if lead < 0x80 then some (Char.ofNat lead, 1)
    else if lead < 0xC2 then none
    else if lead < 0xE0 then
      match rest with
      | b1 :: _ => do
        let x ← continuation? lo hi b1
        return (Char.ofNat ((lead - 0xC0) * 64 + x), 2)
      | _ => none
    else if lead < 0xF0 then
      match rest with
      | b1 :: b2 :: _ => do
        let x ← continuation? lo hi b1
        let y ← continuation? 0x80 0xBF b2
        return (Char.ofNat ((lead - 0xE0) * 4096 + x * 64 + y), 3)
      | _ => none
    else if lead < 0xF5 then
      match rest with
      | b1 :: b2 :: b3 :: _ => do
        let x ← continuation? lo hi b1
        let y ← continuation? 0x80 0xBF b2
        let z ← continuation? 0x80 0xBF b3
        return (Char.ofNat ((lead - 0xF0) * 262144 + x * 4096 + y * 64 + z), 4)
      | _ => none
    else none

/-- Reads a string whose first `skip` bytes belong to a scalar value that
has been read already; `offset` is the position of the first byte. -/
def decodeFrom (offset : Nat) : (skip : Nat) → Bytes → Except Nat (List Char)
  | _, [] => .ok []
  | skip + 1, _ :: rest => decodeFrom (offset + 1) skip rest
  | 0, b :: rest =>
    match head? (b :: rest) with
    | none => .error offset
    | some (c, width) => (decodeFrom (offset + 1) (width - 1) rest).map (c :: ·)

/-- The scalar values of a byte string, or the offset of the first byte
at which no well-formed sequence starts. -/
def decode (bs : Bytes) : Except Nat (List Char) := decodeFrom 0 0 bs

/-- A byte string that is UTF-8 throughout. -/
def isValid (bs : Bytes) : Bool := (decode bs).isOk

/-- The scalar value at the front of a byte string and its width, U+FFFD
of width 1 standing for a byte that starts no sequence. -/
def decodeRune (bs : Bytes) : Char × Nat :=
  match head? bs with
  | some (c, width) => (c, width)
  | none => ('\uFFFD', if bs = [] then 0 else 1)

/-- As `decodeFrom`, for the position at which a byte string stops being
UTF-8. A written U+FFFD is told from a replaced byte by its width. -/
def firstInvalidFrom (offset : Nat) : (skip : Nat) → Bytes → Nat
  | _, [] => offset
  | skip + 1, _ :: rest => firstInvalidFrom (offset + 1) skip rest
  | 0, b :: rest =>
    let (c, width) := decodeRune (b :: rest)
    if c = '\uFFFD' ∧ width ≤ 1 then offset else firstInvalidFrom (offset + 1) (width - 1) rest

/-- The offset of the first byte at which no sequence starts, or the
length when there is none. -/
def firstInvalid (bs : Bytes) : Nat := firstInvalidFrom 0 0 bs

/-- As `decodeFrom`, with U+FFFD for each byte that starts no sequence. -/
def decodeLossyFrom : (skip : Nat) → Bytes → List Char
  | _, [] => []
  | skip + 1, _ :: rest => decodeLossyFrom skip rest
  | 0, b :: rest =>
    match head? (b :: rest) with
    | none => '\uFFFD' :: decodeLossyFrom 0 rest
    | some (c, width) => c :: decodeLossyFrom (width - 1) rest

/-- The scalar values of a byte string, U+FFFD standing for each byte
that starts no well-formed sequence. -/
def decodeLossy (bs : Bytes) : List Char := decodeLossyFrom 0 bs

/-- A character, or a byte that belongs to none. -/
inductive Symbol
  | char (c : Char)
  | bad (b : UInt8)
  deriving DecidableEq, Repr

/-- The bytes of a symbol. -/
def Symbol.bytes : Symbol → Bytes
  | .char c => encodeChar c
  | .bad b => [b]

/-- As `decodeFrom`, keeping each byte that starts no sequence. -/
def symbolsFrom : (skip : Nat) → Bytes → List Symbol
  | _, [] => []
  | skip + 1, _ :: rest => symbolsFrom skip rest
  | 0, b :: rest =>
    match head? (b :: rest) with
    | none => .bad b :: symbolsFrom 0 rest
    | some (c, width) => .char c :: symbolsFrom (width - 1) rest

/-- The characters of a byte string, and the bytes that belong to none. -/
def symbols (bs : Bytes) : List Symbol := symbolsFrom 0 bs

end Utf8

namespace Bytes

/-- The UTF-8 bytes of a text. -/
def ofString (s : String) : Bytes := Utf8.encode s.toList

/-- The text of a byte string, when it is one. -/
def toString? (bs : Bytes) : Option String :=
  match Utf8.decode bs with
  | .ok cs => some (String.ofList cs)
  | .error _ => none

/-- The text of a byte string, U+FFFD standing for each bad byte. -/
def toStringLossy (bs : Bytes) : String := String.ofList (Utf8.decodeLossy bs)

/-- The pieces of `parts` with `sep` between neighbours. -/
def intercalate (sep : Bytes) (parts : List Bytes) : Bytes := (parts.intersperse sep).flatten

end Bytes

end ObjectBridge

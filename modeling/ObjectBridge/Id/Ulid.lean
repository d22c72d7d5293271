import ObjectBridge.Decimal.Notation
import ObjectBridge.Text.Utf8

/-!
# `ObjectBridge.Id.Ulid`: sortable identifiers

An identifier is 16 bytes, the first six a count of milliseconds and the
other ten entropy. Its text has 26 characters of a 32-letter alphabet,
the first of which only carries three bits. A prefix and an underscore
may stand before the text.

Reading is lenient. Letter case does not matter, and a character outside
the alphabet is not refused: it counts as a value with all bits set, and
as much of it as its place has room for ends up in the bytes.

The moment that an identifier carries is shown as calendar text
(`Timestamp`): the date and the time of day in UTC.
-/

set_option autoImplicit false

namespace ObjectBridge

/-- Sixteen bytes of identifier. -/
structure Ulid where
  bytes : Bytes
  deriving DecidableEq, Repr

namespace Ulid

/-- Why a text is no identifier. -/
inductive ParseError
  | size
  | overflow
  deriving DecidableEq, Repr

/-- The text of the error. -/
def ParseError.message : ParseError → String
  | .size => "ulid: bad data size when unmarshaling"
  | .overflow => "ulid: overflow when unmarshaling"

/-- The digits of the text form. -/
def alphabet : List UInt8 := Bytes.ofString "0123456789ABCDEFGHJKMNPQRSTVWXYZ"

/-- The value of a character: its place in the alphabet in either letter
case, and 255 for any other byte. -/
def digitValue (b : UInt8) : UInt8 :=
  let upper := if 97 ≤ b ∧ b ≤ 122 then b - 32 else b
  match alphabet.idxOf? upper with
  | some i => i.toUInt8
  | none => 255

/-- Packs eight digits into five bytes, most significant first; bits that
have no room fall off. -/
def pack : List UInt8 → Bytes
  | [a, b, c, d, e, f, g, h] =>
    [(a <<< 3) ||| (b >>> 2),
     (b <<< 6) ||| (c <<< 1) ||| (d >>> 4),
     (d <<< 4) ||| (e >>> 1),
     (e <<< 7) ||| (f <<< 2) ||| (g >>> 3),
     (g <<< 5) ||| h]
  | _ => []

/-- The bytes of 26 digits: the first two make one byte, the other 24
pack in groups of eight. -/
def ofDigits : List UInt8 → Bytes
  | a :: b :: rest =>
    ((a <<< 5) ||| b) :: (pack (rest.take 8) ++ pack ((rest.drop 8).take 8) ++
      pack ((rest.drop 16).take 8))
  | _ => []

/-- Reads the 26-character form. -/
def ofText (text : Bytes) : Except ParseError Ulid :=
  if text.length ≠ 26 then .error .size
  else if text.headD 0 > 55 then .error .overflow
  else .ok { bytes := ofDigits (text.map digitValue) }

/-- The milliseconds an identifier carries. -/
def milliseconds (u : Ulid) : Nat := (u.bytes.take 6).foldl (fun n b => n * 256 + b.toNat) 0

/-- The number an identifier's bytes spell, most significant first. -/
def toNat (u : Ulid) : Nat := u.bytes.foldl (fun n b => n * 256 + b.toNat) 0

/-- The base-32 digits of a number, `count` of them, most significant
first. -/
def digitsOf : (count : Nat) → Nat → List Nat
  | 0, _ => []
  | count + 1, n => digitsOf count (n / 32) ++ [n % 32]

/-- The 26-character form. -/
def text (u : Ulid) : Bytes := (digitsOf 26 u.toNat).map fun d => alphabet.getD d 0

/-- The six bytes of a count of milliseconds. -/
def timeBytes (ms : Nat) : Bytes :=
  [ms / Nat.pow 2 40, ms / Nat.pow 2 32, ms / Nat.pow 2 24, ms / Nat.pow 2 16, ms / Nat.pow 2 8,
    ms].map Nat.toUInt8

/-- The identifier of a moment and ten bytes of entropy. -/
def ofParts (ms : Nat) (entropy : Bytes) : Ulid := { bytes := timeBytes ms ++ entropy }

/-! ### Prefixed texts -/

/-- The byte between a prefix and the identifier. -/
def separator : UInt8 := 95

/-- What follows the last separator, everything if there is none. -/
def suffix (text : Bytes) : Bytes :=
  (text.reverse.takeWhile (· ≠ separator)).reverse

/-- Reads an identifier with or without a prefix. -/
def parse (text : Bytes) : Except ParseError Ulid := ofText (suffix text)

/-- Is the whole text, prefix and all, read as an identifier? -/
def isValid (text : Bytes) : Bool := (ofText text).isOk

/-- Why no identifier was generated. -/
inductive EntropyError
  /-- There is no entropy left. -/
  | exhausted
  /-- There is some, but not enough for one identifier. -/
  | short
  deriving DecidableEq, Repr

/-- The text of the error. -/
def EntropyError.message : EntropyError → String
  | .exhausted => "EOF"
  | .short => "unexpected EOF"

/-- Takes ten bytes off a source of entropy and makes an identifier of
them; a source that is too short is used up. -/
def generate (ms : Nat) (entropy : Bytes) : Except EntropyError Ulid × Bytes :=
  if entropy.isEmpty then (.error .exhausted, [])
  else if entropy.length < 10 then (.error .short, [])
  else (.ok (ofParts ms (entropy.take 10)), entropy.drop 10)

/-- The text of an identifier behind a prefix. -/
def textWithPrefix (pre : Bytes) (u : Ulid) : Bytes := pre ++ [separator] ++ u.text

end Ulid

/-! ### Moments as calendar text -/

namespace Timestamp

/-- Year, month and day of a number of days since 1 January 1970. The
count is moved to 1 March of year 0, so that leap days end a year; 400
years have 146097 days. -/
def civil (days : Nat) : Nat × Nat × Nat :=
  let z := days + 719468
  let era := z / 146097
  let doe := z % 146097
  let yoe := (doe - doe / 1460 + doe / 36524 - doe / 146096) / 365
  let doy := doe - (365 * yoe + yoe / 4 - yoe / 100)
  let mp := (5 * doy + 2) / 153
  let day := doy - (153 * mp + 2) / 5 + 1
  let month := if mp < 10 then mp + 3 else mp - 9
  let year := yoe + era * 400 + (if month ≤ 2 then 1 else 0)
  (year, month, day)

/-- A number padded with zeros. -/
def padded (width n : Nat) : String := Decimal.padLeft width (toString n)

/-- The text `YYYY-MM-DDTHH:MM:SS.mmmZ` of a count of milliseconds. -/
def ofMilliseconds (ms : Nat) : String :=
  let (year, month, day) := civil (ms / 86400000)
  let rest := ms % 86400000
  padded 4 year ++ "-" ++ padded 2 month ++ "-" ++ padded 2 day ++ "T" ++
    padded 2 (rest / 3600000) ++ ":" ++ padded 2 (rest / 60000 % 60) ++ ":" ++
    padded 2 (rest / 1000 % 60) ++ "." ++ padded 3 (rest % 1000) ++ "Z"

end Timestamp

end ObjectBridge

import ObjectBridge.Text.Utf8
import ObjectBridge.Text.Quoted

/-!
# `ObjectBridge.Text.Wide`: UTF-8 and native wide text

Native code on some platforms keeps text as wide units: one scalar value
per unit (`utf32`) or UTF-16 code units (`utf16`). A conversion either
keeps every scalar value or fails as a whole with a `TextError` that
names the first offending byte or unit; a replacement character is never
slipped in.

A unit is 32 bits wide in both encodings, so UTF-16 text may also be
refused for a unit above `FFFF`.

The conversion itself is left to a `Transcoder`, which works on bytes in
memory and replaces what it cannot read. So input is checked before it is
handed over, and units are packed into bytes and unpacked again.

A host may also guess what bytes are that are not UTF-8, and say so in the
error (`TextError.charset`). The guess is that of a detector outside of this
library. None is made here, and nothing depends on it but the message.
-/

set_option autoImplicit false

namespace ObjectBridge

/-- The in-memory form of native wide text. -/
inductive WideEncoding
  /-- One scalar value per unit. -/
  | utf32
  /-- UTF-16 code units. -/
  | utf16
  deriving DecidableEq, Repr

namespace WideEncoding

/-- The encoding used when none is asked for. -/
def platform : WideEncoding := .utf32

def name : WideEncoding → String
  | .utf32 => "utf32"
  | .utf16 => "utf16"

/-- Reads the name of an encoding. Dashes and letter case do not count,
and the empty name is the platform's encoding. -/
def parse? (s : String) : Option WideEncoding :=
  let word := Letter.lower (s.toList.filter (· ≠ '-'))
  if word = [] then some platform
  else if word = "utf16".toList then some .utf16
  else if word = "utf32".toList then some .utf32
  else none

/-- What is said about a name that is none. -/
def unknownMessage (s : String) : String := "unknown wide encoding " ++ Quoted.quote s

end WideEncoding

/-- A failed conversion between UTF-8 and wide text. -/
structure TextError where
  /-- Which conversion failed. -/
  operation : String
  /-- Position of the first offending byte or unit. -/
  offset : Int
  /-- What the input looks like instead, when that is known. -/
  charset : String := ""
  /-- What a lower layer reported, if anything. -/
  cause : Option String := none
  deriving DecidableEq, Repr

namespace TextError

def message (e : TextError) : String :=
  let place := e.operation ++ ": invalid input at " ++ toString e.offset
  let guess := if e.charset = "" then "" else " (looks like " ++ e.charset ++ ")"
  let cause := match e.cause with
    | none => ""
    | some text => ": " ++ text
  place ++ guess ++ cause

/-- The input of `Wide.ofUtf8` is not UTF-8 at `offset`. -/
def notUtf8 (offset : Nat) : TextError :=
  { operation := "utf8-to-wide", offset := offset }

/-- The input of `Wide.toUtf8` has no UTF-8 form at `offset`. -/
def notWide (offset : Nat) : TextError :=
  { operation := "wide-to-utf8", offset := offset }

end TextError

namespace Wide

/-! ### Units -/

/-- Is the unit the first half of a surrogate pair? -/
def isHigh (u : UInt32) : Bool := 0xD800 ≤ u.toNat && u.toNat < 0xDC00

/-- Is the unit the second half of a surrogate pair? -/
def isLow (u : UInt32) : Bool := 0xDC00 ≤ u.toNat && u.toNat ≤ 0xDFFF

/-- The units of one scalar value. -/
def unitsOf : WideEncoding → Char → List UInt32
  | .utf32, c => [c.val]
  | .utf16, c =>
    let n := c.toNat
    if n < 0x10000 then [c.val]
    else [(0xD800 + (n - 0x10000) / 1024).toUInt32, (0xDC00 + (n - 0x10000) % 1024).toUInt32]

/-- The units of a sequence of scalar values. -/
def encode (enc : WideEncoding) (cs : List Char) : List UInt32 := cs.flatMap (unitsOf enc)

/-- The position of the first UTF-32 unit that is no scalar value. -/
def firstInvalid32 (place : Nat) : List UInt32 → Option Nat
  | [] => none
  | u :: rest => if 0x10FFFF < u.toNat || isHigh u || isLow u then some place
  else firstInvalid32 (place + 1) rest

/-- The position of the first UTF-16 unit that is too wide or half of no
pair. -/
def firstInvalid16 (place : Nat) : List UInt32 → Option Nat
  | [] => none
  | u :: rest =>
    if 0xFFFF < u.toNat then some place
    else if isHigh u then
      match rest with
      | v :: rest => if isLow v then firstInvalid16 (place + 2) rest else some place
      | [] => some place
    else if isLow u then some place
    else firstInvalid16 (place + 1) rest

/-- The position of the first unit that has no UTF-8 form of its own or
with its neighbour. -/
def firstInvalid? : WideEncoding → List UInt32 → Option Nat
  | .utf32 => firstInvalid32 0
  | .utf16 => firstInvalid16 0

/-! ### Units in memory -/

/-- The bytes of a unit, the low one first. UTF-16 keeps two of them. -/
def unitBytes : WideEncoding → UInt32 → Bytes
  | .utf32, u =>
    [u.toNat.toUInt8, (u.toNat / 0x100).toUInt8, (u.toNat / 0x10000).toUInt8,
      (u.toNat / 0x1000000).toUInt8]
  | .utf16, u => [u.toNat.toUInt8, (u.toNat / 0x100).toUInt8]

/-- The bytes of wide text. -/
def pack (enc : WideEncoding) (units : List UInt32) : Bytes := units.flatMap (unitBytes enc)

/-- The units of four bytes each. Bytes left over are none. -/
def unpack32 : Bytes → List UInt32
  | b0 :: b1 :: b2 :: b3 :: rest =>
    (b0.toNat + b1.toNat * 0x100 + b2.toNat * 0x10000 + b3.toNat * 0x1000000).toUInt32 ::
      unpack32 rest
  | _ => []

/-- The units of two bytes each. A byte left over is none. -/
def unpack16 : Bytes → List UInt32
  | b0 :: b1 :: rest => (b0.toNat + b1.toNat * 0x100).toUInt32 :: unpack16 rest
  | _ => []

/-- The units of wide text in memory. -/
def unpack : WideEncoding → Bytes → List UInt32
  | .utf32 => unpack32
  | .utf16 => unpack16

/-! ### Transcoding -/

/-- What converts between UTF-8 and the bytes of wide text. A transcoder
may report trouble, and need not report bad input. -/
structure Transcoder where
  toWide : Bytes → Except String Bytes
  toNarrow : Bytes → Except String Bytes

/-- The scalar values of UTF-32 units, U+FFFD standing for each unit that
is none. -/
def scalars32 (units : List UInt32) : List Char :=
  units.map fun u => if u.toNat.isValidChar then Char.ofNat u.toNat else '\uFFFD'

/-- The scalar values of UTF-16 units, U+FFFD standing for each unit that
is half of no pair. -/
def scalars16 : List UInt32 → List Char
  | [] => []
  | [u] => [if u.toNat.isValidChar then Char.ofNat u.toNat else '\uFFFD']
  | u :: v :: rest =>
    if isHigh u && isLow v then
      Char.ofNat (0x10000 + (u.toNat - 0xD800) * 1024 + (v.toNat - 0xDC00)) :: scalars16 rest
    else (if u.toNat.isValidChar then Char.ofNat u.toNat else '\uFFFD') :: scalars16 (v :: rest)

/-- The scalar values of wide text. -/
def scalars : WideEncoding → List UInt32 → List Char
  | .utf32 => scalars32
  | .utf16 => scalars16

/-- The transcoder for an encoding: bad input becomes U+FFFD, and U+FEFF
is a character like any other. -/
def transcoder (enc : WideEncoding) : Transcoder where
  toWide bs := .ok (pack enc (encode enc (Utf8.decodeLossy bs)))
  toNarrow bs := .ok (Utf8.encode (scalars enc (unpack enc bs)))

/-! ### Conversion -/

/-- Converts UTF-8 to wide text. -/
def ofUtf8With (t : Transcoder) (enc : WideEncoding) (bs : Bytes) :
    Except TextError (List UInt32) :=
  if bs = [] then .ok []
  else if !Utf8.isValid bs then .error (.notUtf8 (Utf8.firstInvalid bs))
  else
    match t.toWide bs with
    | .ok raw => .ok (unpack enc raw)
    | .error cause => .error { TextError.notUtf8 0 with cause := some cause }

/-- Converts wide text to UTF-8. -/
def toUtf8With (t : Transcoder) (enc : WideEncoding) (units : List UInt32) :
    Except TextError Bytes :=
  if units = [] then .ok []
  else
    match firstInvalid? enc units with
    | some place => .error (.notWide place)
    | none =>
      match t.toNarrow (pack enc units) with
      | .ok bs => .ok bs
      | .error cause => .error { TextError.notWide 0 with cause := some cause }

def ofUtf8 (enc : WideEncoding) : Bytes → Except TextError (List UInt32) :=
  ofUtf8With (transcoder enc) enc

def toUtf8 (enc : WideEncoding) : List UInt32 → Except TextError Bytes :=
  toUtf8With (transcoder enc) enc

end Wide

end ObjectBridge

import ObjectBridge.Text.Utf8

/-!
# `ObjectBridge.Script.Text`: the text of scripts

A script sees text as a sequence of 16-bit units, in which a character
beyond U+FFFF is a pair of halves. Scripts may take pairs apart, so text
need not consist of characters. `Text.plain` is the usual case, text that
does; `Text.halves` is text in which some half stands alone.

Text that comes from native code and is not UTF-8 is handed back as it
came, as long as a script only passes it around. That is `Text.bytes`.
Looked at, it reads with U+FFFD for each bad byte (`Text.settled`).
-/

set_option autoImplicit false

namespace ObjectBridge.Script

inductive Text
  /-- Text that consists of characters. -/
  | plain (s : String)
  /-- Units among which some half stands alone. -/
  | halves (units : List UInt16)
  /-- Native text that is not UTF-8. -/
  | bytes (bs : Bytes)
  deriving DecidableEq, Repr

namespace Text

instance : Inhabited Text := ⟨.plain ""⟩

instance : Coe String Text := ⟨.plain⟩

/-! ### Units -/

/-- The units of a character. -/
def charUnits (c : Char) : List UInt16 :=
  let n := c.toNat
  if n < 0x10000 then [n.toUInt16]
  else [(0xD800 + (n - 0x10000) / 0x400).toUInt16, (0xDC00 + (n - 0x10000) % 0x400).toUInt16]

/-- Is the unit the first half of a pair? -/
def isHigh (u : UInt16) : Bool := 0xD800 ≤ u.toNat && u.toNat < 0xDC00

/-- Is the unit the second half of a pair? -/
def isLow (u : UInt16) : Bool := 0xDC00 ≤ u.toNat && u.toNat < 0xE000

/-- The character of a pair. -/
def pairChar (high low : UInt16) : Char :=
  Char.ofNat (0x10000 + (high.toNat - 0xD800) * 0x400 + (low.toNat - 0xDC00))

/-- The characters of units, `none` when some half stands alone. -/
def chars? : List UInt16 → Option (List Char)
  | [] => some []
  | [u] => if isHigh u || isLow u then none else some [Char.ofNat u.toNat]
  | u :: v :: rest =>
    if isHigh u then
      if isLow v then (chars? rest).map (pairChar u v :: ·) else none
    else if isLow u then none
    else (chars? (v :: rest)).map (Char.ofNat u.toNat :: ·)

/-- The characters of units, U+FFFD standing for each half that stands
alone. -/
def charsLossy : List UInt16 → List Char
  | [] => []
  | [u] => if isHigh u || isLow u then ['\uFFFD'] else [Char.ofNat u.toNat]
  | u :: v :: rest =>
    if isHigh u && isLow v then pairChar u v :: charsLossy rest
    else (if isHigh u || isLow u then '\uFFFD' else Char.ofNat u.toNat) :: charsLossy (v :: rest)

/-- The text of units. -/
def ofUnits (us : List UInt16) : Text :=
  match chars? us with
  | some cs => .plain (String.ofList cs)
  | none => .halves us

/-- The units of a text. -/
def units : Text → List UInt16
  | .plain s => s.toList.flatMap charUnits
  | .halves us => us
  | .bytes bs => (Utf8.decodeLossy bs).flatMap charUnits

/-! ### Bytes -/

/-- Text from native code. -/
def ofBytes (bs : Bytes) : Text :=
  match bs.toString? with
  | some s => .plain s
  | none => .bytes bs

/-- The text as native code gets it. -/
def toBytes : Text → Bytes
  | .plain s => .ofString s
  | .halves us => Utf8.encode (charsLossy us)
  | .bytes bs => bs

/-- The text as characters, U+FFFD standing for what is none. -/
def toStringLossy : Text → String
  | .plain s => s
  | .halves us => String.ofList (charsLossy us)
  | .bytes bs => bs.toStringLossy

/-- The text as a script that looks at it sees it. -/
def settled : Text → Text
  | .bytes bs => .plain bs.toStringLossy
  | t => t

/-! ### Operations -/

/-- Is every character of the text one byte long? -/
def isAscii (s : String) : Bool := s.utf8ByteSize = s.length

/-- The number of units. -/
def length (t : Text) : Nat :=
  match t with
  | .plain s => if isAscii s then s.length else t.units.length
  | _ => t.units.length

/-- The text of one unit. -/
def unit? (t : Text) (i : Nat) : Option Text :=
  match t with
  | .plain s =>
    if isAscii s then
      if i < s.length then some (.plain (String.singleton (String.Pos.Raw.get s ⟨i⟩))) else none
    else t.units[i]?.map fun u => ofUnits [u]
  | _ => t.units[i]?.map fun u => ofUnits [u]

/-- Roughly how much room the text takes up. -/
def size : Text → Nat
  | .plain s => s.utf8ByteSize
  | .halves us => us.length
  | .bytes bs => bs.length

def isEmpty : Text → Bool
  | .plain s => s.isEmpty
  | .halves us => us.isEmpty
  | .bytes bs => bs.isEmpty

/-- Native text longer than this stays as it came also when it is joined
with more of its kind. -/
def shortBytes : Nat := 16

/-- One text after another. -/
def append (a b : Text) : Text :=
  match a, b with
  | .plain s, .plain t => .plain (s ++ t)
  | .bytes x, .bytes y =>
    if shortBytes < x.length && shortBytes < y.length then .bytes (x ++ y)
    else .plain (a.toStringLossy ++ b.toStringLossy)
  | _, _ =>
    match a.settled, b.settled with
    | .plain s, .plain t => .plain (s ++ t)
    | a, b => ofUnits (a.units ++ b.units)

instance : Append Text := ⟨append⟩

/-- Do scripts see the same text? -/
def same (a b : Text) : Bool :=
  match a, b with
  | .plain s, .plain t => s == t
  | _, _ => a.settled = b.settled

/-- Do texts stand in this order, as native code would see them? -/
def less (a b : Text) : Bool :=
  match a, b with
  | .plain s, .plain t => decide (s < t)
  | _, _ => decide (a.toBytes < b.toBytes)

/-- Texts with another between neighbours. -/
def intercalate (separator : Text) : List Text → Text
  | [] => .plain ""
  | [t] => t.settled
  | t :: rest => rest.foldl (fun joined u => joined ++ separator.settled ++ u.settled) t.settled

end Text

end ObjectBridge.Script

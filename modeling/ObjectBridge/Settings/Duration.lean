import ObjectBridge.Decimal.Notation
import ObjectBridge.Text.Quoted

/-!
# `ObjectBridge.Settings.Duration`: spans of time in settings

A duration is a number of nanoseconds in 64 bits. It is written as a sum
of decimals with units, such as `1h2m3.5s`, and read in the same form,
with any units in any order.
-/

set_option autoImplicit false

namespace ObjectBridge.Duration

/-! ### Writing -/

/-- The digits of a fraction `n / 10 ^ places`, without zeros at the end;
nothing at all when it is zero. -/
def fractionText (n places : Nat) : String :=
  let digits := (toString n).toList
  let padded := List.replicate (places - digits.length) '0' ++ digits
  let kept := (padded.reverse.dropWhile (· = '0')).reverse
  if kept = [] then "" else "." ++ String.ofList kept

/-- A number of units with the fraction of one. -/
def scaledText (n places : Nat) : String :=
  toString (n / Nat.pow 10 places) ++ fractionText (n % Nat.pow 10 places) places

/-- A duration of less than a second is written in the largest unit that
makes it at least one. -/
def shortText (n : Nat) : String :=
  if n = 0 then "0s"
  else if n < 1000 then toString n ++ "ns"
  else if n < 1000000 then scaledText n 3 ++ "µs"
  else scaledText n 6 ++ "ms"

/-- A longer one is written in hours, minutes and seconds. -/
def longText (n : Nat) : String :=
  let seconds := n / 1000000000
  let minutes := seconds / 60
  let hours := minutes / 60
  (if hours = 0 then "" else toString hours ++ "h")
    ++ (if minutes = 0 then "" else toString (minutes % 60) ++ "m")
    ++ toString (seconds % 60) ++ fractionText (n % 1000000000) 9 ++ "s"

/-- The text of a duration. -/
def text (nanoseconds : Int) : String :=
  let n := nanoseconds.natAbs
  (if nanoseconds < 0 then "-" else "") ++ (if n < 1000000000 then shortText n else longText n)

/-! ### Reading -/

/-- What is wrong with a duration. -/
inductive Fault
  | malformed
  | missingUnit
  | unknownUnit (unit : String)
  deriving DecidableEq, Repr

/-- A text in a message: what is not plain is written byte by byte. -/
def quote (s : String) : String :=
  let escape (c : Char) : String :=
    if c.toNat < 0x20 ∨ 0x80 ≤ c.toNat then
      String.join ((Utf8.encodeChar c).map fun b => "\\x" ++ Quoted.hex 2 b.toNat)
    else if c = '"' ∨ c = '\\' then "\\" ++ c.toString
    else c.toString
  "\"" ++ String.join (s.toList.map escape) ++ "\""

def Fault.message (whole : String) : Fault → String
  | .malformed => "time: invalid duration " ++ quote whole
  | .missingUnit => "time: missing unit in duration " ++ quote whole
  | .unknownUnit unit => "time: unknown unit " ++ quote unit ++ " in duration " ++ quote whole

/-- The nanoseconds of a unit. -/
def unit? (s : String) : Option Nat :=
  match s with
  | "ns" => some 1
  | "us" | "µs" | "μs" => some 1000
  | "ms" => some 1000000
  | "s" => some 1000000000
  | "m" => some 60000000000
  | "h" => some 3600000000000
  | _ => none

/-- The largest sum while a duration is read. -/
def limit : Nat := Nat.pow 2 63

/-- Reads the digits before the point, up to `limit`. -/
def whole? (digits : List Char) : Option Nat :=
  digits.foldlM (fun n c =>
    let next := n * 10 + (c.toNat - '0'.toNat)
    if limit / 10 < n ∨ limit < next then none else some next) 0

/-- Reads the digits after the point: their number and the scale. Digits
that no longer fit are passed over. -/
def fraction (digits : List Char) : Nat × Float :=
  let (n, scale, _) := digits.foldl (fun (n, scale, full) c =>
    let next := n * 10 + (c.toNat - '0'.toNat)
    if full || (limit - 1) / 10 < n || limit < next then (n, scale, true)
    else (next, scale * 10, false)) ((0 : Nat), (1.0 : Float), false)
  (n, scale)

/-- The nanoseconds of `f / scale` units. -/
def fractionOf (f : Nat) (scale : Float) (unit : Nat) : Nat :=
  ((Double.ofFloat (Float.ofNat f * (Float.ofNat unit / scale))).truncate?.getD 0).toNat

def isUnitChar (c : Char) : Bool := !(c = '.' || c.isDigit)

/-- The nanoseconds of one decimal with its unit. -/
def term? (whole part : List Char) (unit : Nat) : Option Nat := do
  let v ← whole? whole
  if limit / unit < v then none
  else
    let (f, scale) := fraction part
    let v := v * unit + (if f = 0 then 0 else fractionOf f scale unit)
    if limit < v then none else some v

/-- Adds up terms; `fuel` bounds their number. The sum is kept in 64
bits. -/
def terms : (fuel : Nat) → (sum : Nat) → List Char → Except Fault Nat
  | 0, sum, _ => .ok sum
  | _ + 1, sum, [] => .ok sum
  | fuel + 1, sum, c :: cs =>
    if isUnitChar c then .error .malformed
    else
      let whole := (c :: cs).takeWhile Char.isDigit
      let rest := (c :: cs).dropWhile Char.isDigit
      let (part, rest) := match rest with
        | '.' :: more => (more.takeWhile Char.isDigit, more.dropWhile Char.isDigit)
        | _ => ([], rest)
      if (whole? whole).isNone ∨ (whole = [] ∧ part = []) then .error .malformed
      else
        let unitText := String.ofList (rest.takeWhile isUnitChar)
        let rest := rest.dropWhile isUnitChar
        if unitText = "" then .error .missingUnit
        else
          match unit? unitText with
          | none => .error (.unknownUnit unitText)
          | some unit =>
            match term? whole part unit with
            | none => .error .malformed
            | some v =>
              let sum := (sum + v) % Nat.pow 2 64
              if limit < sum then .error .malformed else terms fuel sum rest

/-- Reads a duration in nanoseconds. -/
def read (s : String) : Except Fault Int :=
  let (negative, cs) := match s.toList with
    | '-' :: cs => (true, cs)
    | '+' :: cs => (false, cs)
    | cs => (false, cs)
  if cs = ['0'] then .ok 0
  else if cs = [] then .error .malformed
  else
    match terms cs.length 0 cs with
    | .error f => .error f
    | .ok n =>
      if negative then .ok (-(n : Int))
      else if limit ≤ n then .error .malformed
      else .ok n

end ObjectBridge.Duration

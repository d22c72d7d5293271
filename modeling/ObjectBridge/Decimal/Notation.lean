/-!
# `ObjectBridge.Decimal.Notation`: doubles and how they are written

What a double stands for, the shortest decimal that reads back as it, and how
that decimal is written.
-/

set_option autoImplicit false

/-!
## What a double stands for

A finite double is `± m · 2 ^ q` with natural `m`. `Double.ofFloat` reads
that form off the bits, so that everything said about a double's value
(is it a whole number, does it fit 32 bits, which decimals round to it)
is arithmetic on `m` and `q` and never a floating-point computation.
-/

namespace ObjectBridge

/-- The value of a double, read off its bits. -/
inductive Double
  | nan
  | infinite (negative : Bool)
  /-- The value `mantissa · 2 ^ exponent`, negated when `negative`. -/
  | finite (negative : Bool) (mantissa : Nat) (exponent : Int)
  deriving DecidableEq, Repr

namespace Double

/-- Splits 64 bits into sign, exponent field and fraction field. -/
def ofBits (bits : UInt64) : Double :=
  let n := bits.toNat
  let negative := n / Nat.pow 2 63 == 1
  let exponentField : Nat := n / Nat.pow 2 52 % Nat.pow 2 11
  let fraction : Nat := n % Nat.pow 2 52
  if exponentField = 2047 then
    if fraction = 0 then .infinite negative else .nan
  else if exponentField = 0 then .finite negative fraction (-1074)
  else .finite negative (Nat.pow 2 52 + fraction) ((exponentField : Int) - 1075)

/-- The number a float stands for. -/
def ofFloat (f : Float) : Double := ofBits f.toBits

/-- The whole number a double stands for, if it stands for one. Negative
zero stands for zero here. -/
def toInt? : Double → Option Int
  | .nan => none
  | .infinite _ => none
  | .finite negative m q =>
    let magnitude : Option Nat :=
      match q with
      | .ofNat e => some (m * Nat.pow 2 e)
      | .negSucc e => if m % Nat.pow 2 (e + 1) = 0 then some (m / Nat.pow 2 (e + 1)) else none
    magnitude.map fun n => if negative then -(n : Int) else (n : Int)

/-- Is it zero with a minus sign? -/
def isNegativeZero : Double → Bool
  | .finite true 0 _ => true
  | _ => false

/-- Rounds toward zero; `none` for NaN and the infinities. -/
def truncate? : Double → Option Int
  | .nan => none
  | .infinite _ => none
  | .finite negative m q =>
    let magnitude : Nat :=
      match q with
      | .ofNat e => m * Nat.pow 2 e
      | .negSucc e => m / Nat.pow 2 (e + 1)
    some (if negative then -(magnitude : Int) else (magnitude : Int))

end Double

end ObjectBridge

/-!
## The fewest digits that read back

The reals that round to a double `m · 2 ^ q` form an interval around it:
half a unit in the last place on each side, a quarter below when `m` is
the smallest normal mantissa, ends included exactly when `m` is even. Of
all decimals in that interval `shortest` picks one with the fewest
digits, and of those the nearest to the double.

Everything is exact: an interval is kept as multiples of `2 ^ (q - 2)`,
a decimal as a multiple of a power of ten, and the two are compared by
cross-multiplication in the natural numbers.
-/

namespace ObjectBridge.Decimal

/-- A positive decimal in scientific form:
`d₁.d₂d₃… · 10 ^ exponent`. -/
structure Digits where
  /-- The significant digits as one number, without trailing zeros. -/
  significand : Nat
  /-- The power of ten of the first digit. -/
  exponent : Int
  deriving DecidableEq, Repr

/-- Compares `d · 10 ^ k` with `x · 2 ^ p`: both sides are brought to
natural numbers by moving negative powers across. -/
def scaled (k p : Int) (d x : Nat) : Nat × Nat :=
  (d * Nat.pow 10 k.toNat * Nat.pow 2 (-p).toNat, x * Nat.pow 2 p.toNat * Nat.pow 10 (-k).toNat)

/-- Is `10 ^ e` at most `x · 2 ^ p`? -/
def powerLe (e p : Int) (x : Nat) : Bool :=
  let (a, b) := scaled e p 1 x
  a ≤ b

/-- The power of ten of the first digit of `x · 2 ^ p`, for `x > 0`: the
estimate from the binary length is off by at most one. -/
def leadingPower (x : Nat) (p : Int) : Int :=
  let estimate : Int := Int.fdiv (((x.log2 : Int) + p) * 30103) 100000
  if powerLe (estimate + 1) p x then estimate + 1
  else if powerLe estimate p x then estimate
  else estimate - 1

/-- The interval of reals that round to `m · 2 ^ q`, in units of
`2 ^ (q - 2)`, and whether its ends belong to it. -/
structure Interval where
  low : Nat
  value : Nat
  high : Nat
  closed : Bool

/-- The interval around a positive double. -/
def Interval.around (m : Nat) (q : Int) : Interval where
  low := if m = Nat.pow 2 52 ∧ q ≠ -1074 then 4 * m - 1 else 4 * m - 2
  value := 4 * m
  high := 4 * m + 2
  closed := m % 2 = 0

/-- Does `d · 10 ^ k` lie in the interval, measured in units `2 ^ p`? -/
def Interval.holds (i : Interval) (p k : Int) (d : Nat) : Bool :=
  let (a, low) := scaled k p d i.low
  let (b, high) := scaled k p d i.high
  if i.closed then low ≤ a && b ≤ high else low < a && b < high

/-- The neighbour of the interval's value on the grid of multiples of
`10 ^ k` that lies in the interval, the nearer one when both do. -/
def Interval.onGrid? (i : Interval) (p k : Int) : Option Nat :=
  let (unit, value) := scaled k p 1 i.value
  let below := value / unit
  let above := below + 1
  match i.holds p k below, i.holds p k above with
  | true, true =>
    let down := value - below * unit
    let up := above * unit - value
    if down < up || (down = up && below % 2 = 0) then some below else some above
  | true, false => some below
  | false, true => some above
  | false, false => none

/-- Drops trailing zeros, at most `fuel` of them. -/
def stripZeros : (fuel : Nat) → Nat → Nat
  | 0, n => n
  | fuel + 1, n => if n % 10 = 0 ∧ n ≠ 0 then stripZeros fuel (n / 10) else n

/-- Tries grids from coarse to fine: with `tried` digits first, then one
digit more, `fuel` times. Seventeen digits always suffice. -/
def refine (i : Interval) (p lead : Int) : (fuel : Nat) → (tried : Nat) → Digits
  | 0, _ => { significand := 0, exponent := 0 }
  | fuel + 1, tried =>
    let k := lead - tried + 1
    match i.onGrid? p k with
    | some d =>
      let carried := if d = Nat.pow 10 tried then lead + 1 else lead
      { significand := stripZeros 20 d, exponent := carried }
    | none => refine i p lead fuel (tried + 1)

/-- The fewest digits that read back as `m · 2 ^ q`, for `m > 0`. -/
def shortest (m : Nat) (q : Int) : Digits :=
  let p := q - 2
  let i := Interval.around m q
  refine i p (leadingPower i.value p) 18 1

end ObjectBridge.Decimal

/-!
## How a double is written

The digits of a double are those of `Decimal.shortest`; a `Notation`
decides everything else: which powers of ten are written out, how the
exponent looks, and what zero, the infinities and NaN are called. The
program writes doubles in two notations, `plain` for its own messages and
`script` for what scripts see.
-/

namespace ObjectBridge.Decimal

/-- The decisions a written double leaves open. -/
structure Notation where
  /-- Powers of ten below this one get an exponent. -/
  least : Int
  /-- Powers of ten from this one on get an exponent. -/
  bound : Int
  /-- An exponent has at least this many digits. -/
  exponentWidth : Nat
  negativeZero : String
  infinite : String
  negativeInfinite : String
  deriving Repr

/-- The program's own notation: `0.0001` and `999999` are written out,
`1e-05` and `1e+06` are not. -/
def plain : Notation where
  least := -4
  bound := 6
  exponentWidth := 2
  negativeZero := "-0"
  infinite := "+Inf"
  negativeInfinite := "-Inf"

/-- The notation of scripts: `0.000001` and `100000000000000000000` are
written out, `1e-7` and `1e+21` are not, and zero has no sign. -/
def script : Notation where
  least := -6
  bound := 21
  exponentWidth := 1
  negativeZero := "0"
  infinite := "Infinity"
  negativeInfinite := "-Infinity"

/-- Pads digits with zeros on the left. -/
def padLeft (width : Nat) (s : String) : String :=
  String.ofList (List.replicate (width - s.length) '0') ++ s

/-- Digits with a point after the first `k`, or none when that is all of
them. -/
def pointAfter (k : Nat) (digits : List Char) : String :=
  if digits.length ≤ k then String.ofList (digits ++ List.replicate (k - digits.length) '0')
  else String.ofList (digits.take k) ++ "." ++ String.ofList (digits.drop k)

/-- Writes a positive decimal. -/
def Digits.write (style : Notation) (d : Digits) : String :=
  let digits := (toString d.significand).toList
  if d.exponent < style.least ∨ style.bound ≤ d.exponent then
    let sign := if d.exponent < 0 then "-" else "+"
    pointAfter 1 digits ++ "e" ++ sign ++ padLeft style.exponentWidth (toString d.exponent.natAbs)
  else
    match d.exponent with
    | .ofNat e => pointAfter (e + 1) digits
    | .negSucc e => "0." ++ String.ofList (List.replicate e '0' ++ digits)

/-- Writes a double. -/
def Notation.write (style : Notation) : Double → String
  | .nan => "NaN"
  | .infinite false => style.infinite
  | .infinite true => style.negativeInfinite
  | .finite negative m q =>
    if m = 0 then if negative then style.negativeZero else "0"
    else (if negative then "-" else "") ++ (shortest m q).write style

/-- Writes a double in the program's own notation. -/
def writePlain (f : Float) : String := plain.write (.ofFloat f)

/-- Writes a double the way scripts see it. -/
def writeScript (f : Float) : String := script.write (.ofFloat f)

end ObjectBridge.Decimal

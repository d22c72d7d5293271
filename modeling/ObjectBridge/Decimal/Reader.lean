/-!
# `ObjectBridge.Decimal.Reader`: reading decimals

`Decimal.split?` recognises `digits [. digits] [e [sign] digits]` with at
least one digit before the exponent; the value is then the significand
times a power of ten, rounded once.
-/

set_option autoImplicit false

namespace ObjectBridge.Decimal

/-- An unsigned decimal as written: `significand · 10 ^ power`. -/
structure Literal where
  significand : Nat
  power : Int
  deriving DecidableEq, Repr

/-- Reads ASCII digits as a number. -/
def ofDigits (ds : List Char) : Nat :=
  ds.foldl (fun n c => n * 10 + (c.toNat - '0'.toNat)) 0

/-- Splits a list of characters after its leading digits. -/
def spanDigits (cs : List Char) : List Char × List Char :=
  (cs.takeWhile Char.isDigit, cs.dropWhile Char.isDigit)

/-- Reads an exponent part; the empty list is the exponent zero. -/
def exponent? (cs : List Char) : Option Int :=
  match cs with
  | [] => some 0
  | mark :: rest =>
    if mark ≠ 'e' ∧ mark ≠ 'E' then none
    else
      let (negative, digits) := match rest with
        | '+' :: ds => (false, ds)
        | '-' :: ds => (true, ds)
        | ds => (false, ds)
      if digits = [] ∨ ¬ digits.all Char.isDigit then none
      else if negative then some (-(ofDigits digits : Int)) else some (ofDigits digits : Int)

/-- Reads an unsigned decimal that takes up all the characters. -/
def split? (cs : List Char) : Option Literal :=
  let (whole, rest) := spanDigits cs
  let (part, rest) := match rest with
    | '.' :: more => spanDigits more
    | _ => ([], rest)
  if whole = [] ∧ part = [] then none
  else (exponent? rest).map fun e =>
    { significand := ofDigits (whole ++ part), power := e - part.length }

/-- The double nearest to a decimal. Powers far outside the range of
doubles are cut off first: with fewer than `limit` digits they are zero
or infinite anyway. -/
def Literal.toFloat (d : Literal) : Float :=
  let limit : Int := 1100 + (toString d.significand).length
  if d.significand = 0 then 0.0
  else if limit < d.power then 1.0 / 0.0
  else if d.power < -limit then 0.0
  else match d.power with
    | .ofNat e => Float.ofScientific d.significand false e
    | .negSucc e => Float.ofScientific d.significand true (e + 1)

/-- The single-precision number nearest to a decimal, as a double. -/
def Literal.toSingle (d : Literal) : Float :=
  let limit : Int := 1100 + (toString d.significand).length
  if d.significand = 0 then 0.0
  else if limit < d.power then 1.0 / 0.0
  else if d.power < -limit then 0.0
  else match d.power with
    | .ofNat e => (Float32.ofScientific d.significand false e).toFloat
    | .negSucc e => (Float32.ofScientific d.significand true (e + 1)).toFloat

/-- Reads a signed decimal, an infinity (`Inf` with or without a sign) or
`NaN`, rounding a decimal with `round`. -/
def readWith (round : Literal → Float) (s : String) : Option Float :=
  let signed (negative : Bool) (cs : List Char) : Option Float :=
    let magnitude := if cs = "Inf".toList then some (1.0 / 0.0) else (split? cs).map round
    magnitude.map fun f => if negative then -f else f
  match s.toList with
  | '+' :: cs => signed false cs
  | '-' :: cs => signed true cs
  | cs => if cs = "NaN".toList then some (0.0 / 0.0) else signed false cs

/-- Reads a double. -/
def read? (s : String) : Option Float := readWith Literal.toFloat s

/-- Reads a single-precision number. -/
def readSingle? (s : String) : Option Float := readWith Literal.toSingle s

end ObjectBridge.Decimal

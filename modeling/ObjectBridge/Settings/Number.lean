import ObjectBridge.Text.Quoted

/-!
# `ObjectBridge.Settings.Number`: truth values and whole numbers in settings

A whole number may have a sign and a base: `0b`, `0o` and `0x` say which,
and a zero in front of other digits means base eight. Underscores may
stand between digits and after the base.

Digits are read from the left, and the first thing that is wrong is what
is reported: a digit that is none, or a number that has become too large.
-/

set_option autoImplicit false

namespace ObjectBridge.Settings

/-- Reads a truth value. -/
def readBool? (s : String) : Option Bool :=
  if s ∈ ["1", "t", "T", "true", "TRUE", "True"] then some true
  else if s ∈ ["0", "f", "F", "false", "FALSE", "False"] then some false
  else none

/-- What is wrong with a number. -/
inductive NumberError
  | malformed
  | outOfRange
  deriving DecidableEq, Repr

def NumberError.message : NumberError → String
  | .malformed => "invalid syntax"
  | .outOfRange => "value out of range"

/-- The value of a digit, in the largest base there is. -/
def digit? (c : Char) : Option Nat :=
  if c.isDigit then some (c.toNat - '0'.toNat)
  else if c.isAlpha then some (c.toLower.toNat - 'a'.toNat + 10)
  else none

/-- Splits the base off the front of a number. -/
def splitBase : List Char → Nat × List Char
  | '0' :: mark :: d :: rest =>
    match mark.toLower with
    | 'b' => (2, d :: rest)
    | 'o' => (8, d :: rest)
    | 'x' => (16, d :: rest)
    | _ => (8, mark :: d :: rest)
  | '0' :: rest => (8, rest)
  | cs => (10, cs)

/-- Reads digits up to 64 bits; underscores are passed over. -/
def readDigits (base : Nat) : (acc : Nat) → List Char → Except NumberError Nat
  | acc, [] => .ok acc
  | acc, c :: rest =>
    if c = '_' then readDigits base acc rest
    else
      match digit? c with
      | none => .error .malformed
      | some d =>
        if base ≤ d then .error .malformed
        else if Nat.pow 2 64 ≤ acc * base + d then .error .outOfRange
        else readDigits base (acc * base + d) rest

/-- What stands before a place in a number. -/
inductive Before
  | start
  | digit
  | underscore
  | other
  deriving DecidableEq

/-- Does every underscore stand between digits? -/
def underscoresFit (hex : Bool) : Before → List Char → Bool
  | before, [] => before != .underscore
  | before, c :: rest =>
    if c.isDigit || (hex && (digit? c).any (· < 16)) then underscoresFit hex .digit rest
    else if c = '_' then before == .digit && underscoresFit hex .underscore rest
    else before != .underscore && underscoresFit hex .other rest

/-- The same for a number with its base; the base counts as a digit. -/
def underscoresOk : List Char → Bool
  | '0' :: mark :: rest =>
    match mark.toLower with
    | 'b' | 'o' => underscoresFit false .digit rest
    | 'x' => underscoresFit true .digit rest
    | _ => underscoresFit false .start ('0' :: mark :: rest)
  | cs => underscoresFit false .start cs

/-- Reads a number without sign. -/
def readNat (cs : List Char) : Except NumberError Nat :=
  if cs = [] then .error .malformed
  else
    let (base, digits) := splitBase cs
    match readDigits base 0 digits with
    | .error e => .error e
    | .ok n => if '_' ∈ cs ∧ ¬ underscoresOk cs then .error .malformed else .ok n

/-- Reads a whole number of 64 bits. -/
def readInt (s : String) : Except NumberError Int :=
  let (negative, digits) := match s.toList with
    | '+' :: cs => (false, cs)
    | '-' :: cs => (true, cs)
    | cs => (false, cs)
  match readNat digits with
  | .error e => .error e
  | .ok n =>
    if negative then if Nat.pow 2 63 < n then .error .outOfRange else .ok (-(n : Int))
    else if Nat.pow 2 63 ≤ n then .error .outOfRange
    else .ok n

end ObjectBridge.Settings

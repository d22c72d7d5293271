import ObjectBridge.Decimal.Reader
import ObjectBridge.Script.Text
import ObjectBridge.Text.Quoted
import ObjectBridge.Text.NameChar

/-!
# `ObjectBridge.Script.Token`: the words of a program

`tokenize?` cuts a text into words, dropping blanks and comments. A word
remembers where it stands, because a function remembers its own text, and
whether a line break precedes it, because a line break may end a
statement.
-/

set_option autoImplicit false

namespace ObjectBridge.Script

inductive Token
  /-- A name or a keyword; one written with escapes is no keyword. -/
  | word (s : String) (escaped : Bool)
  /-- Digits that begin with a zero are octal. -/
  | number (n : Float) (octal : Bool)
  | bigint (n : Int)
  /-- A text is bare when it is written without escapes. -/
  | string (t : Text) (bare : Bool)
  | mark (s : String)
  deriving Repr

/-- A token in its place. -/
structure Lexeme where
  token : Token
  /-- The text from the token on. -/
  here : List Char
  /-- The text after the token. -/
  after : List Char
  /-- Does a line break stand before it? -/
  newLine : Bool
  deriving Repr

namespace Lexer

def isBreak (c : Char) : Bool :=
  c = '\n' || c = '\r' || c.toNat = 0x2028 || c.toNat = 0x2029

/-- Blanks between words. -/
def isBlank (c : Char) : Bool := Blank.isBlank c || c.toNat = 0xFEFF

/-- What stands between two words. -/
inductive Gap
  | blank
  /-- A comment that ends with its line. -/
  | line
  /-- A comment that ends with its closing mark. -/
  | comment

/-- Skips blanks, line breaks and comments, and says whether a line ended;
`none` when a comment is not closed. -/
def skip : Gap → (sawBreak : Bool) → List Char → Option (Bool × List Char)
  | .comment, _, [] => none
  | _, sawBreak, [] => some (sawBreak, [])
  | .line, sawBreak, c :: rest =>
    if isBreak c then skip .blank true rest else skip .line sawBreak rest
  | .comment, sawBreak, '*' :: '/' :: rest => skip .blank sawBreak rest
  | .comment, sawBreak, c :: rest => skip .comment (sawBreak || isBreak c) rest
  | .blank, sawBreak, '/' :: '/' :: rest => skip .line sawBreak rest
  | .blank, sawBreak, '/' :: '*' :: rest => skip .comment sawBreak rest
  | .blank, sawBreak, c :: rest =>
    if isBreak c then skip .blank true rest
    else if isBlank c then skip .blank sawBreak rest
    else some (sawBreak, c :: rest)

/-! ### Digits -/

/-- The value of a digit, in bases up to sixteen. -/
def digitValue? (c : Char) : Option Nat :=
  if c.isDigit then some (c.toNat - '0'.toNat)
  else if 'a' ≤ c ∧ c ≤ 'f' then some (c.toNat - 'a'.toNat + 10)
  else if 'A' ≤ c ∧ c ≤ 'F' then some (c.toNat - 'A'.toNat + 10)
  else none

def isDigitOf (base : Nat) (c : Char) : Bool :=
  match digitValue? c with
  | some d => d < base
  | none => false

/-- The number that digits spell. -/
def ofDigits (base : Nat) (ds : List Char) : Nat :=
  ds.foldl (fun n c => n * base + (digitValue? c).getD 0) 0

/-- The number of hexadecimal digits; `none` when there are none or
something else stands among them. -/
def hexNumber? (cs : List Char) : Option Nat :=
  if cs ≠ [] ∧ cs.all (isDigitOf 16) then some (ofDigits 16 cs) else none

/-! ### Names and texts -/

/-- The number written as `uXXXX` or in braces, after the backslash. -/
def unicodeEscape? : List Char → Option (Nat × List Char)
  | 'u' :: '\x7b' :: more => do
    let n ← hexNumber? (more.takeWhile (· ≠ '\x7d'))
    match more.dropWhile (· ≠ '\x7d') with
    | _ :: rest => if n ≤ 0x10FFFF then return (n, rest) else none
    | [] => none
  | 'u' :: a :: b :: c :: d :: rest => do return (← hexNumber? [a, b, c, d], rest)
  | _ => none

/-- A name at the front: its characters, whether one is escaped, and the
rest. -/
def name? : (fuel : Nat) → (acc : List Char) → (escaped : Bool) → List Char →
    Option (String × Bool × List Char)
  | 0, _, _, _ => none
  | _, acc, escaped, [] => some (String.ofList acc.reverse, escaped, [])
  | fuel + 1, acc, _, '\\' :: more => do
    let (n, rest) ← unicodeEscape? more
    let c := Char.ofNat n
    if (if acc.isEmpty then NameChar.isStart c else NameChar.isPart c) then
      name? fuel (c :: acc) true rest else none
  | fuel + 1, acc, escaped, c :: rest =>
    if NameChar.isPart c then name? fuel (c :: acc) escaped rest
    else some (String.ofList acc.reverse, escaped, c :: rest)

/-- The units of a code point. -/
def pointUnits (n : Nat) : List UInt16 :=
  if n < 0x10000 then [n.toUInt16] else Text.charUnits (Char.ofNat n)

/-- A text after its opening quote, with the units read so far in reverse:
the units, whether it is bare, and the rest. -/
def string? (quote : Char) : (fuel : Nat) → (acc : List UInt16) → (bare : Bool) → List Char →
    Option (Text × Bool × List Char)
  | 0, _, _, _ => none
  | _, _, _, [] => none
  | fuel + 1, acc, bare, c :: rest =>
    if c = quote then some (Text.ofUnits acc.reverse, bare, rest)
    else if c = '\n' || c = '\r' then none
    else if c ≠ '\\' then string? quote fuel ((Text.charUnits c).reverse ++ acc) bare rest
    else
      match rest with
      | [] => none
      | '\r' :: '\n' :: more => string? quote fuel acc false more
      | 'u' :: _ =>
        match unicodeEscape? rest with
        | none => none
        | some (n, after) => string? quote fuel ((pointUnits n).reverse ++ acc) false after
      | 'x' :: a :: b :: more =>
        match hexNumber? [a, b] with
        | none => none
        | some n => string? quote fuel (n.toUInt16 :: acc) false more
      | 'x' :: _ => none
      | e :: more =>
        if isBreak e then string? quote fuel acc false more
        else if isDigitOf 8 e then
          let digits := (rest.take 3).takeWhile (isDigitOf 8)
          string? quote fuel ((ofDigits 8 digits).toUInt16 :: acc) false (rest.drop digits.length)
        else
          let units := match e with
            | 'n' => [10]
            | 't' => [9]
            | 'r' => [13]
            | 'b' => [8]
            | 'f' => [12]
            | 'v' => [11]
            | other => Text.charUnits other
          string? quote fuel (units.reverse ++ acc) false more

/-! ### Numbers -/

/-- Digits of a base at the front, between which single underscores may
stand: the digits and the rest. `none` when an underscore is misplaced. -/
def mantissa? (base : Nat) : (acc : List Char) → List Char → Option (List Char × List Char)
  | acc, '_' :: c :: rest => if isDigitOf base c then mantissa? base (c :: acc) rest else none
  | _, ['_'] => none
  | acc, c :: rest => if isDigitOf base c then mantissa? base (c :: acc) rest
  else some (acc.reverse, c :: rest)
  | acc, [] => some (acc.reverse, [])

/-- Whole numbers below this bound are read exactly and then rounded. -/
def exactBound : Nat := Nat.pow 2 63

/-- A number in a base other than ten. Larger ones than `exactBound` can
only be written with sixteen digits, and are rounded digit by digit. -/
def basedNumber? (base : Nat) (digits : List Char) : Option Float :=
  let n := ofDigits base digits
  if n < exactBound then some (Float.ofNat n)
  else if base = 16 then
    some (digits.foldl (fun f c => f * 16.0 + Float.ofNat ((digitValue? c).getD 0)) 0.0)
  else none

/-- No name and no digit may follow a number directly. -/
def ended (t : Token) (rest : List Char) : Option (Token × List Char) :=
  match rest with
  | c :: _ => if NameChar.isStart c || c.isDigit || c = '\\' then none else some (t, rest)
  | [] => some (t, rest)

/-- The digits after a mark for the base. -/
def based? (base : Nat) (cs : List Char) : Option (Token × List Char) := do
  match cs with
  | c :: _ => if !isDigitOf base c then none
  | [] => none
  let (digits, rest) ← mantissa? base [] cs
  match rest with
  | 'n' :: rest => ended (.bigint (ofDigits base digits)) rest
  | rest => ended (.number (← basedNumber? base digits) false) rest

/-- Digits that begin with a zero are octal. -/
def octal? (cs : List Char) : Option (Token × List Char) :=
  let digits := cs.takeWhile (isDigitOf 8)
  let rest := cs.drop digits.length
  let n := ofDigits 8 digits
  match rest with
  | 'n' :: rest => ended (.bigint n) rest
  | rest =>
    let value := if n < exactBound then Float.ofNat n else Float.ofNat (Decimal.ofDigits digits)
    ended (.number value (1 < digits.length)) rest

/-- The exponent at the front, with its mark; `none` when it has no
digits. -/
def exponentPart? (cs : List Char) : Option (List Char × List Char) :=
  match cs with
  | e :: more =>
    if e = 'e' || e = 'E' then
      let (sign, ds) := match more with
        | '+' :: ds => (['+'], ds)
        | '-' :: ds => (['-'], ds)
        | ds => ([], ds)
      match ds with
      | c :: _ =>
        if c.isDigit then (mantissa? 10 [] ds).map fun (digits, rest) =>
          (e :: (sign ++ digits), rest) else none
      | [] => none
    else some ([], cs)
  | [] => some ([], [])

/-- A number at the front. -/
def number? (cs : List Char) : Option (Token × List Char) := do
  match cs with
  | '0' :: 'x' :: rest | '0' :: 'X' :: rest => based? 16 rest
  | '0' :: 'o' :: rest | '0' :: 'O' :: rest => based? 8 rest
  | '0' :: 'b' :: rest | '0' :: 'B' :: rest => based? 2 rest
  | _ =>
    let zero := match cs with
      | '0' :: '.' :: _ | '0' :: 'e' :: _ | '0' :: 'E' :: _ => false
      | '0' :: _ => true
      | _ => false
    if zero then octal? cs
    else
      let (whole, rest) ← match cs with
        | '.' :: _ => some ([], cs)
        | _ => mantissa? 10 [] cs
      match rest with
      | 'n' :: rest => ended (.bigint (Decimal.ofDigits whole)) rest
      | _ =>
        let (part, rest) ← match rest with
          | '.' :: '_' :: _ => none
          | '.' :: more => (mantissa? 10 [] more).map fun (ds, rest) => ('.' :: ds, rest)
          | more => some ([], more)
        let (exponent, rest) ← exponentPart? rest
        let d ← Decimal.split? (whole ++ part ++ exponent)
        ended (.number d.toFloat false) rest

/-- Marks, longer ones before their beginnings. -/
def marks : List String :=
  [">>>=", "===", "!==", "**=", "<<=", ">>=", ">>>", "&&=", "||=", "??=", "==", "!=", "<=", ">=",
    "&&", "||", "??", "++", "--", "+=", "-=", "*=", "/=", "%=", "&=", "|=", "^=", "<<", ">>", "**",
    "=>", "\x7b", "\x7d", "(", ")", "[", "]", ";", ",", "<", ">", "+", "-", "*", "/", "%", "&", "|",
    "^", "!", "~", "?", ":", "=", "."]

/-- The token at the front of a text that starts with one and has fewer
than `bound` characters. -/
def token? (bound : Nat) (cs : List Char) : Option (Token × List Char) :=
  match cs with
  | [] => none
  | c :: rest =>
    if NameChar.isStart c || c = '\\' then
      (name? bound [] false cs).map fun (s, escaped, rest) => (.word s escaped, rest)
    else if c.isDigit || (c = '.' && (rest.head?.map Char.isDigit).getD false) then number? cs
    else if c = '"' || c = '\'' then
      (string? c bound [] true rest).map fun (t, bare, after) => (.string t bare, after)
    else
      match marks.find? fun m => m.toList.isPrefixOf cs with
      | some m => some (.mark m, cs.drop m.length)
      | none => none

/-- All tokens of a text of fewer than `fuel` characters. -/
def tokens? : (fuel : Nat) → (acc : List Lexeme) → List Char → Option (List Lexeme)
  | 0, _, _ => none
  | fuel + 1, acc, cs =>
    match skip .blank false cs with
    | none => none
    | some (_, []) => some acc.reverse
    | some (newLine, start) =>
      match token? (fuel + 1) start with
      | none => none
      | some (token, rest) =>
        tokens? fuel ({ token, here := start, after := rest, newLine } :: acc) rest

end Lexer

/-- Cuts a text into tokens. A first line that starts with `#!` does not
count. -/
def tokenize? (cs : List Char) : Option (List Lexeme) :=
  let cs := match cs with
    | '#' :: '!' :: rest => rest.dropWhile (!Lexer.isBreak ·)
    | cs => cs
  Lexer.tokens? (cs.length + 1) [] cs

end ObjectBridge.Script

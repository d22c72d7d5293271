import ObjectBridge.Text.Case

/-!
# `ObjectBridge.Text.Regex`: regular expressions

An expression matches a text when it matches any part of it
(`Regex.matches_`). Parts are not remembered, so it does not matter which
of several ways to match is tried first.

Matching works on marks, one for every gap between two characters and for
both ends of a text: `Regex.reach` takes the marks where a match may start
to those where it may end.
-/

set_option autoImplicit false

/-!
## Classes of characters

A class lists characters, ranges of them and groups with a name. It may
stand for all characters that are not listed, and letter case may be left
out of account: then a class has a letter in it as soon as it has one that
differs from it only in case.
-/

namespace ObjectBridge

namespace Fold

/-- Letters that agree with two others up to case, and are neither the
small nor the capital one. -/
def extras : List Nat :=
  [0xB5, 0x17F, 0x1C5, 0x1C8, 0x1CB, 0x1F2, 0x345, 0x3C2, 0x3D0, 0x3D1, 0x3D5, 0x3D6, 0x3F0, 0x3F1,
    0x3F4, 0x3F5, 0x1C80, 0x1C81, 0x1C82, 0x1C83, 0x1C84, 0x1C85, 0x1C86, 0x1C87, 0x1C88, 0x1E9B,
    0x1E9E, 0x1FBE, 0x2126, 0x212A, 0x212B]

/-- The representative of the letters that differ only in case. The dotted
capital and the dotless small i stand for themselves. -/
def key (c : Char) : Char :=
  if c.toNat = 0x130 || c.toNat = 0x131 then c
  else Lower.counterpart Lower.shifts (Lower.counterpart (Lower.raised ++ Upper.shifts) c)

/-- The characters that differ from a character only in case, itself
included. -/
def orbit (c : Char) : List Char :=
  let k := key c
  let others := [Lower.counterpart (Lower.raised ++ Upper.shifts) k] ++ extras.map Char.ofNat
  c :: k :: others.filter fun d => key d = k

end Fold

namespace Regex

/-- A part of a class. -/
inductive ClassPart
  /-- The characters between two, both included. -/
  | range (low high : Nat)
  /-- Several ranges, or all but these. -/
  | group (negated : Bool) (ranges : List (Nat × Nat))
  deriving DecidableEq, Repr

/-- A class of characters. -/
structure CharClass where
  parts : List ClassPart
  negated : Bool := false
  /-- Is letter case left out of account? -/
  folds : Bool := false
  deriving DecidableEq, Repr

def ClassPart.holds (cs : List Char) : ClassPart → Bool
  | .range low high => cs.any fun c => low ≤ c.toNat && c.toNat ≤ high
  | .group negated ranges =>
    (cs.any fun c => ranges.any fun (low, high) => low ≤ c.toNat && c.toNat ≤ high) != negated

namespace CharClass

/-- Is a character in a class? -/
def holds (s : CharClass) (c : Char) : Bool :=
  let cs := if s.folds then Fold.orbit c else [c]
  (s.parts.any fun p => p.holds cs) != s.negated

/-- One character. -/
def single (folds : Bool) (c : Nat) : CharClass := { parts := [.range c c], folds }

/-- Every character. -/
def any : CharClass := { parts := [], negated := true }

/-- Every character except the end of a line. -/
def anyButBreak : CharClass := { parts := [.range 10 10], negated := true }

/-- Digits. -/
def digits : List (Nat × Nat) := [(0x30, 0x39)]

/-- Letters, digits and the underscore. -/
def wordChars : List (Nat × Nat) := [(0x30, 0x39), (0x41, 0x5A), (0x5F, 0x5F), (0x61, 0x7A)]

/-- Blanks and ends of lines. -/
def spaces : List (Nat × Nat) := [(0x09, 0x0A), (0x0C, 0x0D), (0x20, 0x20)]

/-- The group that a letter after a backslash stands for. -/
def ofLetter? : Char → Option ClassPart
  | 'd' => some (.group false digits)
  | 'D' => some (.group true digits)
  | 's' => some (.group false spaces)
  | 'S' => some (.group true spaces)
  | 'w' => some (.group false wordChars)
  | 'W' => some (.group true wordChars)
  | _ => none

/-- The group with a name. -/
def named? : String → Option (List (Nat × Nat))
  | "alnum" => some [(0x30, 0x39), (0x41, 0x5A), (0x61, 0x7A)]
  | "alpha" => some [(0x41, 0x5A), (0x61, 0x7A)]
  | "ascii" => some [(0x00, 0x7F)]
  | "blank" => some [(0x09, 0x09), (0x20, 0x20)]
  | "cntrl" => some [(0x00, 0x1F), (0x7F, 0x7F)]
  | "digit" => some digits
  | "graph" => some [(0x21, 0x7E)]
  | "lower" => some [(0x61, 0x7A)]
  | "print" => some [(0x20, 0x7E)]
  | "punct" => some [(0x21, 0x2F), (0x3A, 0x40), (0x5B, 0x60), (0x7B, 0x7E)]
  | "space" => some [(0x09, 0x0D), (0x20, 0x20)]
  | "upper" => some [(0x41, 0x5A)]
  | "word" => some wordChars
  | "xdigit" => some [(0x30, 0x39), (0x41, 0x46), (0x61, 0x66)]
  | _ => none

end CharClass

end Regex

end ObjectBridge

namespace ObjectBridge

/-- What a gap between characters may be asked for. -/
inductive Anchor
  | textStart
  | textEnd
  | lineStart
  | lineEnd
  | wordEdge
  | noWordEdge
  deriving DecidableEq, Repr

/-- A regular expression. -/
inductive Regex
  | empty
  | char (s : Regex.CharClass)
  | anchor (a : Anchor)
  | seq (first second : Regex)
  | either (first second : Regex)
  | star (r : Regex)
  | plus (r : Regex)
  | optional (r : Regex)
  /-- At least `least` times, and at most `most` times if that is said. -/
  | count (least : Nat) (most : Option Nat) (r : Regex)
  deriving Repr

/-- Does a gap have what is asked for, given the characters on both
sides? -/
def Anchor.holds (a : Anchor) (before after : Option Char) : Bool :=
  let isWord (c : Option Char) : Bool :=
    (c.map fun c => c.isAlphanum || c = '_').getD false
  match a with
  | .textStart => before.isNone
  | .textEnd => after.isNone
  | .lineStart => before.isNone || before = some '\n'
  | .lineEnd => after.isNone || after = some '\n'
  | .wordEdge => isWord before != isWord after
  | .noWordEdge => isWord before == isWord after

namespace Regex

/-- Marks in a text, one more than it has characters. -/
abbrev Marks := List Bool

/-- The marks of both. -/
def Marks.union (a b : Marks) : Marks := List.zipWith (· || ·) a b

/-- The marks that repeated steps lead to, the first ones included. -/
def Marks.closure (step : Marks → Marks) : (fuel : Nat) → Marks → Marks
  | 0, marks => marks
  | fuel + 1, marks =>
    let more := marks.union (step marks)
    if more == marks then marks else closure step fuel more

/-- Where matches end that start at marks. -/
def reach (text : List Char) : Regex → Marks → Marks
  | .empty, marks => marks
  | .char s, marks => false :: List.zipWith (fun m c => m && s.holds c) marks text
  | .anchor a, marks =>
    let before := none :: text.map some
    let after := text.map some ++ [none]
    List.zipWith (fun m (b, c) => m && a.holds b c) marks (before.zip after)
  | .seq a b, marks => b.reach text (a.reach text marks)
  | .either a b, marks => Marks.union (a.reach text marks) (b.reach text marks)
  | .star r, marks => Marks.closure (r.reach text) (text.length + 1) marks
  | .plus r, marks => Marks.closure (r.reach text) (text.length + 1) (r.reach text marks)
  | .optional r, marks => Marks.union marks (r.reach text marks)
  | .count least most r, marks =>
    let marks := Nat.repeat (r.reach text) least marks
    match most with
    | none => Marks.closure (r.reach text) (text.length + 1) marks
    | some most => Marks.closure (r.reach text) (most - least) marks

/-- Does an expression match any part of a text? -/
def matches_ (r : Regex) (text : String) : Bool :=
  (r.reach text.toList (List.replicate (text.length + 1) true)).any id

end Regex

end ObjectBridge

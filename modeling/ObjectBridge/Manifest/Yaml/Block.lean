/-!
# `ObjectBridge.Manifest.Yaml.Block`: scalars that run over lines

A scalar after `|` keeps its lines; after `>` lines that are equally far
indented are joined. A plain scalar with a dash at the beginning of a
further line is joined in the same way.

The first line with contents says how far all of them are indented,
unless a number after the mark does. What becomes of the breaks at the
end is up to a sign after the mark (`Block.chomp`).
-/

set_option autoImplicit false

namespace ObjectBridge.Manifest.Yaml

/-- How lines are put together. -/
inductive BlockStyle
  /-- Breaks stay. -/
  | literal
  /-- Single breaks become spaces. -/
  | folded
  /-- The same, in a plain scalar. -/
  | dashed
  deriving DecidableEq, Repr

/-- A scalar over several lines that is being read. Columns are zero until
they are known. -/
structure Block where
  style : BlockStyle
  /-- What follows the mark. -/
  option : String := ""
  /-- The column of the contents. -/
  first : Int := 0
  /-- The column where the line before starts, zero when it is blank. -/
  previous : Int := 0
  /-- The column where this line starts. -/
  current : Int := 0
  /-- The column where the last line that is not blank starts. -/
  lastFull : Int := 0
  /-- The end of a line of spaces before the contents. -/
  spaces : Int := 0
  /-- Has nothing of this line been read yet? -/
  fresh : Bool := false
  deriving Repr

namespace Block

/-- Takes off a sign at the front and one at the back, of each kind. -/
def trimSigns (option : List Char) : List Char :=
  let dropFront (c : Char) (cs : List Char) : List Char := if cs.head? = some c then cs.tail else cs
  let dropBack (c : Char) (cs : List Char) : List Char :=
    if cs.getLast? = some c then cs.dropLast else cs
  dropBack '+' (dropBack '-' (dropFront '+' (dropFront '-' option)))

/-- The number among the options. -/
def number? (cs : List Char) : Option Int :=
  let (negative, digits) := match cs with
    | '-' :: ds => (true, ds)
    | '+' :: ds => (false, ds)
    | ds => (false, ds)
  if digits = [] || !digits.all Char.isDigit || 18 < digits.length then none
  else
    let n : Int := (digits.foldl (fun n c => n * 10 + (c.toNat - '0'.toNat)) 0 : Nat)
    some (if negative then -n else n)

/-- May this follow the mark? -/
def isOption (option : List Char) : Bool :=
  let cs := trimSigns option
  cs = [] || (cs ≠ ['0'] && ((number? cs).map fun n => decide (n ≤ 9)).getD false)

/-- How far the contents are indented by order of the mark; zero when it
does not say. -/
def order (option : String) : Int := (number? (trimSigns option.toList)).getD 0

/-- The scalar that a mark announces. -/
def ofMark (style : BlockStyle) (parent : Int) (option : String) : Block :=
  let n := order option
  { style, option, first := if 0 < n then parent + n else 0 }

/-- Do all breaks at the end go? -/
def strips (b : Block) : Bool :=
  b.option.startsWith "-" || b.option.endsWith "-" || b.style = .dashed

/-- Do all breaks at the end stay? -/
def keeps (b : Block) : Bool := b.option.startsWith "+" || b.option.endsWith "+"

/-- Notes that contents start at a column. -/
def startAt (b : Block) (column : Int) : Block :=
  { b with
    first := if b.first = 0 then column else b.first
    current := if b.current = 0 then column else b.current }

/-- Do contents at this column come before the end of a line of spaces? -/
def isEarly (b : Block) (column : Int) : Bool := b.first = 0 && column < b.spaces

/-- Notes that contents start at a column, which must not lie before the
one that was ordered. -/
def startAt? (b : Block) (column : Int) : Option Block :=
  let b := b.startAt column
  if order b.option ≠ 0 && b.current < b.first then none else some b

/-- Notes the end of a line at a column. -/
def endLine (b : Block) (column : Int) : Block :=
  { b with
    spaces := if b.first = 0 then column - 1 else b.spaces
    previous := b.current
    lastFull := if b.current = 0 then b.lastFull else b.current
    fresh := true
    current := 0 }

/-- Does the column lie in the indentation? -/
def inIndent (b : Block) (column : Int) : Bool :=
  if b.first = 0 then column = 1 else column < b.first

/-- What is left of a scalar at its end. A single break is nothing, unless
breaks are to stay: then nothing becomes a break. -/
def chomp (b : Block) (cs : List Char) : List Char :=
  let body := (cs.reverse.dropWhile (· = '\n')).reverse
  let cs :=
    if b.strips then (body.reverse.dropWhile (· = ' ')).reverse
    else if b.keeps then cs
    else if body.length < cs.length then body ++ ['\n'] else body
  let cs := if cs = ['\n'] then [] else cs
  if b.keeps && cs.isEmpty then ['\n'] else cs

end Block

end ObjectBridge.Manifest.Yaml

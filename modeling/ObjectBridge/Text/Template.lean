import ObjectBridge.Text.Utf8

/-!
# `ObjectBridge.Text.Template`: messages that are read as templates

A message that native code raises is read as a template before a script
sees it, and there is nothing to fill it with. Text without a percent
sign stays as it is, and two percent signs in a row become one. Any other
directive is replaced by a note about what it lacks.

A directive consists of a percent sign, flags, an index in brackets, a
width, a precision after a point, another index, and a verb. Each part
but the verb may be missing.
-/

set_option autoImplicit false

namespace ObjectBridge.Template

/-- A character as a byte. -/
def byte (c : Char) : UInt8 := c.toNat.toUInt8

def isFlag (b : UInt8) : Bool := "#0+- ".toList.any (byte · = b)

def isDigit (b : UInt8) : Bool := 48 ≤ b.toNat && b.toNat ≤ 57

/-- Numbers that have grown beyond this are not read on. -/
def largest : Nat := 1000000

/-- A number at the front. One that is too large takes everything with
it. -/
def number : (found : Option Nat) → Bytes → Option Nat × Bytes
  | found, [] => (found, [])
  | found, b :: rest =>
    if !isDigit b then (found, b :: rest)
    else if largest < found.getD 0 then (none, [])
    else number (some (found.getD 0 * 10 + (b.toNat - 48))) rest

/-- Drops the index at the front. The answer says whether one was there,
whether it is well formed, and what follows. -/
def dropIndex (bs : Bytes) : Bool × Bool × Bytes :=
  match bs with
  | 91 :: inner =>
    -- A bracket that is never closed is dropped alone.
    if inner.length < 2 || !inner.contains 93 then (true, false, inner)
    else
      let digits := inner.takeWhile (· ≠ 93)
      let rest := (inner.dropWhile (· ≠ 93)).drop 1
      match number none digits with
      | (some _, []) => (true, true, rest)
      | _ => (true, false, rest)
  | _ => (false, false, bs)

/-- The state of reading a directive. -/
structure Directive where
  /-- Notes about parts that were to come from operands. -/
  notes : Bytes := []
  /-- Is every index one that could be meant? -/
  indexed : Bool := true
  /-- Was the last thing read an index? -/
  afterIndex : Bool := false
  rest : Bytes

/-- Reads an index. No operand has one, so the directive is spoilt. -/
def Directive.index (d : Directive) : Directive :=
  match dropIndex d.rest with
  | (true, wellFormed, rest) => { d with indexed := false, afterIndex := wellFormed, rest }
  | (false, _, _) => { d with afterIndex := false }

/-- Reads a width. -/
def Directive.width (d : Directive) : Directive :=
  match d.rest with
  | 42 :: rest => { d with notes := d.notes ++ .ofString "%!(BADWIDTH)", afterIndex := false, rest }
  | bs =>
    let (n, rest) := number none bs
    { d with indexed := d.indexed && !(d.afterIndex && n.isSome), rest }

/-- Reads a precision. -/
def Directive.precision (d : Directive) : Directive :=
  match d.rest with
  | 46 :: rest =>
    let d := ({ d with indexed := d.indexed && !d.afterIndex, rest } : Directive).index
    match d.rest with
    | 42 :: rest =>
      { d with notes := d.notes ++ .ofString "%!(BADPREC)", afterIndex := false, rest }
    | bs => { d with rest := (number none bs).2 }
  | _ => d

/-- What becomes of a directive, after its percent sign, and what follows
it. -/
def directive (bs : Bytes) : Bytes × Bytes :=
  let d := ({ rest := bs.dropWhile isFlag } : Directive).index.width.precision
  let d := if d.afterIndex then d else d.index
  match d.rest with
  | [] => (d.notes ++ .ofString "%!(NOVERB)", [])
  | 37 :: rest => (d.notes ++ [37], rest)
  | bs =>
    let (verb, width) := (Utf8.head? bs).getD ('\uFFFD', 1)
    let note := if d.indexed then "(MISSING)" else "(BADINDEX)"
    (d.notes ++ .ofString "%!" ++ Utf8.encodeChar verb ++ .ofString note, bs.drop width)

/-- As `fill`, for a template with at most `fuel` directives. -/
def fillFrom : (fuel : Nat) → Bytes → Bytes
  | 0, bs => bs
  | fuel + 1, bs =>
    let text := bs.takeWhile (· ≠ 37)
    match bs.dropWhile (· ≠ 37) with
    | [] => text
    | _ :: more =>
      let (shown, rest) := directive more
      text ++ shown ++ fillFrom fuel rest

/-- What a template says when there is nothing to fill it with. -/
def fill (bs : Bytes) : Bytes := fillFrom (bs.length + 1) bs

end ObjectBridge.Template

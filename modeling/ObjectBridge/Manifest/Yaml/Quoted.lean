import ObjectBridge.Manifest.Yaml.Lexer

/-!
# `ObjectBridge.Manifest.Yaml.Quoted`: scalars in quotes

A break inside quotes counts as a space, further breaks count as they
are; blanks around breaks do not count. No line may look like a mark
between documents. Between single quotes a quote is written twice;
between double quotes there are escapes.
-/

set_option autoImplicit false

namespace ObjectBridge.Manifest.Yaml

/-- A scalar in quotes that is being read. -/
structure Quotation where
  lexer : Lexer
  /-- What was read, latest first. -/
  value : List Char := []
  /-- Were there only blanks on this line, a further one? -/
  atStart : Bool := false

namespace Quotation

/-- Reads the character here as it stands. -/
def noted (q : Quotation) : Lexer := (q.lexer.note q.lexer.here).forward 1

/-- Takes a character into the value. -/
def add (q : Quotation) (c : Char) : Quotation := { lexer := q.noted, value := c :: q.value }

/-- Reads a break. -/
def break? (q : Quotation) : Option Quotation :=
  let lexer := (q.lexer.note q.lexer.here).newLine
  let value := q.value.dropWhile (· = ' ')
  if lexer.offset < lexer.source.size && lexer.beforeMark then none
  else some { lexer, value := (if q.atStart then '\n' else ' ') :: value, atStart := true }

/-- Reads a blank at the beginning of a line. A tab must not stand where
the line is indented. -/
def blank? (q : Quotation) : Option Quotation :=
  if q.lexer.here = '\t' && q.lexer.column ≤ q.lexer.owner then none
  else some { q with lexer := q.noted }

/-- Ends the scalar at its last quote. -/
def close (q : Quotation) (opening : Lexer) : Lexer :=
  let lexer := q.noted
  let t : Token :=
    { kind := .quoted, value := String.ofList q.value.reverse, origin := lexer.raw.toList
      line := opening.line, column := opening.column }
  (lexer.push t).clear

/-- A scalar after its opening single quote. -/
def single (opening : Lexer) : (fuel : Nat) → Quotation → Option Lexer
  | 0, _ => none
  | fuel + 1, q =>
    let c := q.lexer.here
    if q.lexer.source.size ≤ q.lexer.offset then none
    else if isBreak c then q.break?.bind (single opening fuel)
    else if q.atStart && isBlank c then q.blank?.bind (single opening fuel)
    else if c ≠ '\'' then single opening fuel (q.add c)
    else if q.lexer.next = '\'' && q.lexer.offset + 1 < q.lexer.source.size then
      single opening fuel { q.add
        c with lexer := ({ q with lexer := q.noted }).noted, atStart := q.atStart }
    else some (q.close opening)

/-! ### Escapes -/

/-- What a character adds to a number in base sixteen, whatever it is. -/
def hexValue (c : Char) : Int :=
  if 'A' ≤ c ∧ c ≤ 'F' then c.toNat - 'A'.toNat + 10
  else if 'a' ≤ c ∧ c ≤ 'f' then c.toNat - 'a'.toNat + 10
  else (c.toNat : Int) - '0'.toNat

/-- The number that characters stand for in base sixteen. -/
def hexNumber (cs : List Char) : Int := cs.foldl (fun n c => n * 16 + hexValue c) 0

/-- A number of 32 bits as a character, U+FFFD when it is none. -/
def charOf (n : Int) : Char :=
  let n := n % 4294967296
  if 0 ≤ n && (n < 0xD800 || (0xDFFF < n && n ≤ 0x10FFFF)) then Char.ofNat n.toNat
  else Char.ofNat 0xFFFD

/-- The characters of an escape of one letter. -/
def letterEscape? (c : Char) : Option Char :=
  match c with
  | '0' => some (Char.ofNat 0)
  | 'a' => some (Char.ofNat 7)
  | 'b' => some (Char.ofNat 8)
  | 't' => some '\t'
  | 'n' => some '\n'
  | 'v' => some (Char.ofNat 11)
  | 'f' => some (Char.ofNat 12)
  | 'r' => some '\r'
  | 'e' => some (Char.ofNat 27)
  | 'N' => some (Char.ofNat 0x85)
  | '_' => some (Char.ofNat 0xA0)
  | 'L' => some (Char.ofNat 0x2028)
  | 'P' => some (Char.ofNat 0x2029)
  | ' ' | '\t' | '"' | '/' | '\\' => some c
  | _ => none

/-- The character of an escape and the number of characters it takes up
after the backslash, given what follows that. The halves of a pair stand
together. An `x` with too little after it stands for itself. -/
def escape? (cs : List Char) : Option (Char × Nat) :=
  match cs with
  | 'x' :: rest => if rest.length < 2 then some ('x', 1)
  else some (charOf (hexNumber (rest.take 2)), 3)
  | 'u' :: rest =>
    let n := hexNumber (rest.take 4)
    if rest.length < 4 then none
    else if 0xD800 ≤ n && n < 0xDC00 then
      match rest.drop 4 with
      | '\\' :: 'u' :: more =>
        let m := hexNumber (more.take 4)
        if more.length < 4 || m < 0xDC00 || 0xDFFF < m then none
        else some (charOf (0x10000 + (n - 0xD800) * 0x400 + (m - 0xDC00)), 11)
      | _ => none
    else some (charOf n, 5)
  | 'U' :: rest => if rest.length < 8 then none else some (charOf (hexNumber (rest.take 8)), 9)
  | c :: _ => (letterEscape? c).map fun d => (d, 1)
  | [] => none

/-- A scalar after its opening double quote. -/
def double (opening : Lexer) : (fuel : Nat) → Quotation → Option Lexer
  | 0, _ => none
  | fuel + 1, q =>
    let c := q.lexer.here
    if q.lexer.source.size ≤ q.lexer.offset then none
    else if isBreak c then q.break?.bind (double opening fuel)
    else if q.atStart && isBlank c then q.blank?.bind (double opening fuel)
    else if c = '\\' then
      let lexer := q.noted
      if isBreak lexer.here && lexer.offset < lexer.source.size then
        -- A carriage return and the line feed after it are one break, and count as columns.
        let size := if lexer.here = '\n' then 0 else if lexer.next = '\n' then 2 else 1
        let lexer := (lexer.note lexer.here).newLine
        double opening fuel { q with lexer := { lexer with offset := lexer.offset +
                                                (size - 1), column := 1 + size }
                                     atStart := true }
      else
        match escape? ((lexer.source.extract lexer.offset (lexer.offset + 12)).toList) with
        | none => none
        | some (d, n) => double opening fuel { lexer := lexer.forward n, value := d :: q.value }
    else if c = '\t' then
      -- Blanks at the end of a line are passed over.
      let ahead := q.lexer.upTo isBreak (q.lexer.offset + 1)
      if ahead.all isBlank then double opening fuel { q with lexer := q.noted.forward ahead.length }
      else double opening fuel { q.add c with atStart := q.atStart }
    else if c ≠ '"' then double opening fuel (q.add c)
    else some (q.close opening)

end Quotation

/-- Reads a scalar in quotes. -/
def Lexer.quoted? (st : Lexer) : Option Lexer :=
  let q : Quotation := { lexer := (st.note st.here).forward 1 }
  let fuel := st.source.size + 1
  if st.here = '\'' then Quotation.single st fuel q else Quotation.double st fuel q

end ObjectBridge.Manifest.Yaml

import ObjectBridge.Data.Json
import ObjectBridge.Text.Quoted
import ObjectBridge.Text.Regex

/-!
# `ObjectBridge.Text.Regex.Parser`: reading regular expressions

An expression is read from left to right (`Regex.parse`). What was read so
far of each group that is open is kept on a stack, so that an operator for
repetition finds what it belongs to. A `Regex.Flaw` is reported together
with the characters that show it.

There are no classes by Unicode property: a name of one is never known.
-/

set_option autoImplicit false

namespace ObjectBridge.Regex

/-- What can be wrong with an expression. -/
inductive Flaw
  | charRange
  | escape
  | namedCapture
  | perlOp
  | repeatOp
  | repeatSize
  | missingBracket
  | missingParen
  | missingArgument
  | trailingBackslash
  | unexpectedParen
  deriving DecidableEq, Repr

def Flaw.message : Flaw → String
  | .charRange => "invalid character class range"
  | .escape => "invalid escape sequence"
  | .namedCapture => "invalid named capture"
  | .perlOp => "invalid or unsupported Perl syntax"
  | .repeatOp => "invalid nested repetition operator"
  | .repeatSize => "invalid repeat count"
  | .missingBracket => "missing closing ]"
  | .missingParen => "missing closing )"
  | .missingArgument => "missing argument to repetition operator"
  | .trailingBackslash => "trailing backslash at end of expression"
  | .unexpectedParen => "unexpected )"

/-- Something wrong with an expression. -/
structure ParseError where
  expression : String
  flaw : Flaw
  /-- The characters that show it. -/
  excerpt : String
  deriving DecidableEq, Repr

/-- Can a text be written between backquotes? -/
def isPlain (s : String) : Bool :=
  s.toList.all fun c => c.toNat ≠ 0x60 && c.toNat ≠ 0x7F && c.toNat ≠ 0xFEFF &&
    (0x20 ≤ c.toNat || c = '\t')

def ParseError.message (e : ParseError) : String :=
  let quoted := if isPlain e.expression then "`" ++ e.expression ++ "`"
  else Quoted.quote e.expression
  "regexp: Compile(" ++ quoted ++ "): error parsing regexp: " ++ e.flaw.message ++ ": `" ++
    e.excerpt ++ "`"

/-! ### Reading -/

/-- Reading fails with a flaw and the characters that show it. -/
abbrev Reading := Except (Flaw × List Char)

/-- The characters before the rest. -/
def upTo (cs rest : List Char) : List Char := cs.take (cs.length - rest.length)

/-- Settings that an expression may change. -/
structure Flags where
  folds : Bool := false
  /-- Do `^` and `$` stand for the ends of lines? -/
  lines : Bool := false
  /-- Does a dot stand for the end of a line, too? -/
  all : Bool := false
  deriving DecidableEq, Repr

/-! ### Escapes -/

def isOctal (c : Char) : Bool := '0' ≤ c && c ≤ '7'

/-- The number of up to three octal digits. -/
def octal (cs : List Char) : Nat × List Char :=
  let digits := (cs.take 3).takeWhile isOctal
  (digits.foldl (fun n c => n * 8 + (c.toNat - '0'.toNat)) 0, cs.drop digits.length)

/-- A number in base sixteen up to a closing brace; with the rest where
reading stopped when there is none. -/
def hexInBraces : (n digits : Nat) → List Char → Option Nat × List Char
  | _, _, [] => (none, [])
  | n, digits, c :: rest =>
    if c = '\x7d' then (if digits = 0 then none else some n, rest)
    else
      match Json.hexDigit? c with
      | none => (none, rest)
      | some d => if 0x10FFFF < n * 16 + d then (none, rest)
      else hexInBraces (n * 16 + d) (digits + 1) rest

/-- The character that an escape stands for, from its backslash on. -/
def escape (cs : List Char) : Reading (Nat × List Char) :=
  let wrong {α : Type} (rest : List Char) : Reading α := .error (.escape, upTo cs rest)
  match cs.tail with
  | [] => .error (.trailingBackslash, [])
  | c :: rest =>
    match c with
    | 'a' => .ok (7, rest)
    | 'f' => .ok (12, rest)
    | 'n' => .ok (10, rest)
    | 'r' => .ok (13, rest)
    | 't' => .ok (9, rest)
    | 'v' => .ok (11, rest)
    | 'x' =>
      match rest with
      | [] => wrong []
      | '\x7b' :: more =>
        match hexInBraces 0 0 more with
        | (some n, rest) => .ok (n, rest)
        | (none, rest) => wrong rest
      | a :: more =>
        match Json.hexDigit? a, more.head?.bind Json.hexDigit? with
        | some x, some y => .ok (x * 16 + y, more.tail)
        | _, _ => wrong more.tail
    | c =>
      if c = '0' || (isOctal c && (rest.head?.map isOctal).getD false) then .ok (octal (c :: rest))
      else if c.toNat < 0x80 && !c.isAlphanum then .ok (c.toNat, rest)
      else wrong rest

/-- The name of a property after a backslash and `p`. None is known. -/
def property {α : Type} (cs : List Char) : Reading α :=
  match cs.drop 2 with
  | '\x7b' :: rest =>
    let name := rest.takeWhile (· ≠ '\x7d')
    .error (.charRange, cs.take (name.length + 4))
  | _ => .error (.charRange, cs.take 3)

/-! ### Classes -/

/-- A character of a class that began with `whole`. -/
def classChar (whole cs : List Char) : Reading (Nat × List Char) :=
  match cs with
  | [] => .error (.missingBracket, whole)
  | '\\' :: _ => escape cs
  | c :: rest => .ok (c.toNat, rest)

/-- The characters of a group by name, from its brackets on. Nothing is
when it has no end. -/
def namedGroup? (cs : List Char) : Option (Reading (ClassPart × List Char)) :=
  let rec ending : List Char → Option (List Char)
    | ':' :: ']' :: rest => some rest
    | _ :: rest => ending rest
    | [] => none
  match cs with
  | '[' :: ':' :: body =>
    (ending body).map fun rest =>
      let name := (upTo cs rest).drop 2 |>.dropLast |>.dropLast
      let (negated, name) := match name with
        | '^' :: name => (true, name)
        | name => (false, name)
      match CharClass.named? (String.ofList name) with
      | some ranges => .ok (.group negated ranges, rest)
      | none => .error (.charRange, upTo cs rest)
  | _ => none

/-- A character of a class or a range. -/
def classRange (whole cs : List Char) : Reading (ClassPart × List Char) := do
  let (low, rest) ← classChar whole cs
  match rest with
  | '-' :: c :: more =>
    if c = ']' then return (.range low low, rest)
    else
      let (high, after) ← classChar whole (c :: more)
      if high < low then throw (.charRange, upTo cs after)
      return (.range low high, after)
  | _ => return (.range low low, rest)

/-- One part of a class. -/
def classPart (whole cs : List Char) : Reading (ClassPart × List Char) :=
  match if 2 < cs.length then namedGroup? cs else none with
  | some result => result
  | none =>
    match cs with
    | '\\' :: 'p' :: _ | '\\' :: 'P' :: _ => property cs
    | '\\' :: c :: rest =>
      match CharClass.ofLetter? c with
      | some part => .ok (part, rest)
      | none => classRange whole cs
    | cs => classRange whole cs

/-- The parts of a class up to its end. A bracket that stands first does
not end it. -/
def classParts (whole : List Char) :
    (fuel : Nat) → (parts : List ClassPart) → (isFirst : Bool) → List Char →
    Reading (List ClassPart × List Char)
  | 0, _, _, _ => .error (.missingBracket, whole)
  | fuel + 1, parts, isFirst, cs =>
    match cs, isFirst with
    | ']' :: rest, false => .ok (parts, rest)
    | cs, _ =>
      match classPart whole cs with
      | .error e => .error e
      | .ok (part, rest) => classParts whole fuel (parts ++ [part]) false rest

/-- A class, from its bracket on. -/
def charClass (folds : Bool) (cs : List Char) : Reading (CharClass × List Char) := do
  let (negated, body) := match cs.tail with
    | '^' :: rest => (true, rest)
    | rest => (false, rest)
  let (parts, rest) ← classParts cs (cs.length + 1) [] true body
  return ({ parts, negated, folds }, rest)

/-! ### Repetition -/

/-- A number without zeros in front of it. Too large a number is
nothing. -/
def number? (cs : List Char) : Option (Option Nat × List Char) :=
  let digits := cs.takeWhile Char.isDigit
  if digits = [] || (digits.head? = some '0' && 1 < digits.length) then none
  else
    let n := if 8 < digits.length then none
    else some (digits.foldl (fun n c => n * 10 + (c.toNat - '0'.toNat)) 0)
    some (n, cs.drop digits.length)

/-- How often something may be repeated. -/
structure Bounds where
  least : Nat
  most : Option Nat
  deriving DecidableEq, Repr

/-- The largest number of repetitions. -/
def maxRepeat : Nat := 1000

/-- Bounds in braces, from the opening one on: nothing when these are no
bounds, and nothing inside when they are too large or the wrong way
around. -/
def bounds? (cs : List Char) : Option (Option Bounds × List Char) :=
  let close (least most : Option Nat) (open_ : Bool) (rest : List Char) :
      Option (Option Bounds × List Char) :=
    match rest with
    | '\x7d' :: rest =>
      let b := match least, most with
        | some a, some b => if a ≤ b && b ≤ maxRepeat then some ⟨a, some b⟩ else none
        | some a, none => if open_ && a ≤ maxRepeat then some ⟨a, none⟩ else none
        | none, _ => none
      some (b, rest)
    | _ => none
  match number? cs.tail with
  | none => none
  | some (least, ',' :: '\x7d' :: rest) => close least none true ('\x7d' :: rest)
  | some (least, ',' :: rest) =>
    match number? rest with
    | none => none
    | some (most, rest) => close least most false rest
  | some (least, rest) => close least least false rest

/-- Does an expression repeat nothing more than `n` times, repetitions
inside each other counting together? -/
def repeatsAtMost (n : Nat) : Regex → Bool
  | .seq a b | .either a b => a.repeatsAtMost n && b.repeatsAtMost n
  | .star r | .plus r | .optional r => r.repeatsAtMost n
  | .count least most r =>
    let m := most.getD least
    if most = some 0 then true
    else if n < m then false
    else r.repeatsAtMost (if 0 < m then n / m else n)
  | _ => true

/-! ### Expressions -/

/-- What was read of an open group: alternatives that are complete, and
the parts of the last one, latest first. -/
structure Group where
  done : Option Regex := none
  parts : List Regex := []
  /-- The settings to go back to. -/
  flags : Flags := {}

namespace Group

/-- The parts in a row. -/
def sequence (g : Group) : Regex :=
  match g.parts with
  | [] => .empty
  | last :: before => before.foldl (fun r p => .seq p r) last

/-- All of it. -/
def whole (g : Group) : Regex :=
  match g.done with
  | none => g.sequence
  | some r => .either r g.sequence

/-- Adds a part. -/
def push (g : Group) (r : Regex) : Group := { g with parts := r :: g.parts }

/-- Begins another alternative. -/
def next (g : Group) : Group := { g with done := some g.whole, parts := [] }

end Group

/-- An expression that is being read. -/
structure State where
  flags : Flags := {}
  /-- The innermost group that is open. -/
  top : Group := {}
  /-- The groups around it, from the inside out. -/
  outer : List Group := []
  /-- The place of the repetition that was read right before. -/
  lastRepeat : Option (List Char) := none

namespace State

/-- Adds a part. -/
def push (st : State) (r : Regex) : State := { st with top := st.top.push r, lastRepeat := none }

/-- Opens a group. -/
def enter (st : State) : State :=
  { st with top := { flags := st.flags }, outer := st.top :: st.outer, lastRepeat := none }

/-- Closes a group. -/
def leave? (st : State) : Option State :=
  match st.outer with
  | [] => none
  | g :: outer =>
    some { flags := st.top.flags, top := g.push st.top.whole, outer, lastRepeat := none }

/-- Repeats the part before. `before` is the place of the operator, and
`after` what follows it. -/
def repeat_ (st : State) (make : Regex → Regex) (counts : Bool) (before after : List Char) :
    Reading (State × List Char) :=
  let after := match after with
    | '?' :: rest => rest
    | rest => rest
  match st.lastRepeat with
  | some earlier => .error (.repeatOp, upTo earlier after)
  | none =>
    match st.top.parts with
    | [] => .error (.missingArgument, upTo before after)
    | r :: parts =>
      let r := make r
      if counts && !r.repeatsAtMost maxRepeat then .error (.repeatSize, upTo before after)
      else .ok ({ st with top := { st.top with parts := r :: parts }, lastRepeat := some before },
        after)

end State

/-- Changes settings and opens a group, or does only the one. `cs` begins
with the parenthesis, and `rest` is what is left of it. -/
def settings (st : State) (cs : List Char) : (flags : Flags) → (on sawFlag : Bool) → List Char →
    Reading (State × List Char)
  | _, _, _, [] => .error (.perlOp, cs)
  | flags, on, sawFlag, c :: rest =>
    let wrong : Reading (State × List Char) := .error (.perlOp, upTo cs rest)
    match c with
    | 'i' => settings st cs { flags with folds := on } on true rest
    | 'm' => settings st cs { flags with lines := on } on true rest
    | 's' => settings st cs { flags with all := on } on true rest
    | 'U' => settings st cs flags on true rest
    | '-' => if on then settings st cs flags false false rest else wrong
    | ':' => if on || sawFlag then .ok ({ st.enter with flags }, rest) else wrong
    | ')' => if on || sawFlag then .ok ({ st with flags, lastRepeat := none }, rest) else wrong
    | _ => wrong

/-- Can this be the name of a group? -/
def isName (cs : List Char) : Bool := cs ≠ [] && cs.all fun c => c.isAlphanum || c = '_'

/-- What begins with a parenthesis and a question mark. -/
def special (st : State) (cs : List Char) : Reading (State × List Char) :=
  let named (start : Nat) : Reading (State × List Char) :=
    let name := (cs.drop start).takeWhile (· ≠ '>')
    match cs.drop (start + name.length) with
    | [] => .error (.namedCapture, cs)
    | _ :: rest =>
      if isName name then .ok (st.enter, rest) else .error (.namedCapture, upTo cs rest)
  match cs with
  | '(' :: '?' :: 'P' :: '<' :: _ :: _ => named 4
  | '(' :: '?' :: '<' :: _ :: _ => named 3
  | cs => settings st cs st.flags true false (cs.drop 2)

/-- Reads the next part of an expression, which begins with a backslash. -/
def backslash (st : State) (cs : List Char) : Reading (State × List Char) :=
  match cs with
  | '\\' :: 'A' :: rest => .ok (st.push (.anchor .textStart), rest)
  | '\\' :: 'b' :: rest => .ok (st.push (.anchor .wordEdge), rest)
  | '\\' :: 'B' :: rest => .ok (st.push (.anchor .noWordEdge), rest)
  | '\\' :: 'C' :: _ => .error (.escape, cs.take 2)
  | '\\' :: 'Q' :: rest =>
    let rec literal (st : State) : List Char → State × List Char
      | '\\' :: 'E' :: rest => (st, rest)
      | c :: rest => literal (st.push (.char (.single st.flags.folds c.toNat))) rest
      | [] => (st, [])
    .ok (literal { st with lastRepeat := none } rest)
  | '\\' :: 'z' :: rest => .ok (st.push (.anchor .textEnd), rest)
  | '\\' :: 'p' :: _ | '\\' :: 'P' :: _ => property cs
  | cs =>
    match (cs[1]?).bind CharClass.ofLetter? with
    | some part => .ok (st.push (.char { parts := [part], folds := st.flags.folds }), cs.drop 2)
    | none => do
      let (c, rest) ← escape cs
      return (st.push (.char (.single st.flags.folds c)), rest)

/-- Reads the next part of an expression. -/
def step (whole : List Char) (st : State) (c : Char) (rest : List Char) :
    Reading (State × List Char) :=
  let cs := c :: rest
  let literal : Reading (State × List Char) :=
    .ok (st.push (.char (.single st.flags.folds c.toNat)), rest)
  match c with
  | '(' => if rest.head? = some '?' then special st cs else .ok (st.enter, rest)
  | '|' => .ok ({ st with top := st.top.next, lastRepeat := none }, rest)
  | ')' =>
    match st.leave? with
    | some st => .ok (st, rest)
    | none => .error (.unexpectedParen, whole)
  | '^' => .ok (st.push (.anchor (if st.flags.lines then .lineStart else .textStart)), rest)
  | '$' => .ok (st.push (.anchor (if st.flags.lines then .lineEnd else .textEnd)), rest)
  | '.' => .ok (st.push (.char (if st.flags.all then .any else .anyButBreak)), rest)
  | '[' => do
    let (s, rest) ← charClass st.flags.folds cs
    return (st.push (.char s), rest)
  | '*' => st.repeat_ .star false cs rest
  | '+' => st.repeat_ .plus false cs rest
  | '?' => st.repeat_ .optional false cs rest
  | '\x7b' =>
    match bounds? cs with
    | none => literal
    | some (none, rest) => .error (.repeatSize, upTo cs rest)
    | some (some b, rest) =>
      st.repeat_ (.count b.least b.most) (2 ≤ b.least || 2 ≤ b.most.getD 0) cs rest
  | '\\' => backslash st cs
  | _ => literal

/-- Reads the rest of an expression. -/
def finish (whole : List Char) : (fuel : Nat) → State → List Char → Reading Regex
  | 0, _, _ => .error (.missingParen, whole)
  | _ + 1, st, [] => if st.outer.isEmpty then .ok st.top.whole else .error (.missingParen, whole)
  | fuel + 1, st, c :: rest =>
    match step whole st c rest with
    | .error e => .error e
    | .ok (st, rest) => finish whole fuel st rest

/-- Reads an expression. -/
def parse (text : String) : Except ParseError Regex :=
  let cs := text.toList
  (finish cs (cs.length + 1) {} cs).mapError fun (flaw, excerpt) =>
    { expression := text, flaw, excerpt := String.ofList excerpt }

end ObjectBridge.Regex

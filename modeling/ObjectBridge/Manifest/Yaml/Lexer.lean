import ObjectBridge.Manifest.Yaml.Block
import ObjectBridge.Manifest.Yaml.Token

/-!
# `ObjectBridge.Manifest.Yaml.Lexer`: where the reading of tokens stands

Characters are collected until something shows that a token is complete:
a mark, or a line that is indented no further than what the characters
belong to. Collected are both the text that the characters stand for and
the characters themselves.

A tab in a plain scalar is passed over, and takes up no column.
-/

set_option autoImplicit false

namespace ObjectBridge.Manifest.Yaml

/-- How a line is indented, compared with what it could belong to. -/
inductive Tilt
  | steady
  | deeper
  | shallower
  deriving DecidableEq, Repr

/-- The state of reading. -/
structure Lexer where
  source : Array Char
  /-- The number of characters read. -/
  offset : Nat := 0
  line : Nat := 1
  column : Int := 1
  /-- The column of the last key or dash, zero when there is none. -/
  owner : Int := 0
  /-- The number of spaces at the beginning of the line. -/
  indent : Nat := 0
  /-- Were there only blanks on this line? -/
  atStart : Bool := true
  tilt : Tilt := .steady
  /-- Is the name of an anchor being read? -/
  inAnchor : Bool := false
  /-- Is the name of an alias being read? -/
  inReference : Bool := false
  inDirective : Bool := false
  /-- The number of lists in brackets that are open. -/
  lists : Int := 0
  /-- The number of mappings in braces that are open. -/
  maps : Int := 0
  /-- Where the collected text starts, once it runs over lines. -/
  start : Option (Nat × Int) := none
  /-- The collected text. -/
  text : Array Char := #[]
  /-- Its length without blanks at the end. -/
  full : Nat := 0
  /-- The collected characters. -/
  raw : Array Char := #[]
  /-- Their number without blanks at the end. -/
  rawFull : Nat := 0
  /-- Is the collected text over, being that of a scalar over several lines
  without contents? It stays until a character is collected. -/
  spent : Bool := false
  block : Option Block := none
  tokens : Array Token := #[]

namespace Lexer

/-! ### Looking around -/

/-- A character of the source; NUL past its end. -/
def charAt (st : Lexer) (i : Nat) : Char := st.source.getD i (Char.ofNat 0)

/-- The character to be read. -/
def here (st : Lexer) : Char := st.charAt st.offset

/-- The one after it. -/
def next (st : Lexer) : Char := st.charAt (st.offset + 1)

/-- The one before it. -/
def previous (st : Lexer) : Char :=
  match st.offset with
  | 0 => Char.ofNat 0
  | n + 1 => st.charAt n

/-- The place of the next character that ends something, from a place on;
the end of the source ends everything. -/
def reach (st : Lexer) (ends : Char → Bool) : (fuel : Nat) → (i : Nat) → Nat
  | 0, i => i
  | fuel + 1, i => if i < st.source.size && !ends (st.charAt i) then st.reach ends fuel (i + 1)
  else i

/-- The characters from a place up to the next one that ends something. -/
def upTo (st : Lexer) (ends : Char → Bool) (i : Nat) : List Char :=
  (st.source.extract i (st.reach ends st.source.size i)).toList

/-- Is this the last character, or none? -/
def isLast (st : Lexer) : Bool := st.source.size ≤ st.offset + 1

/-- Is a bracket open? -/
def inBrackets (st : Lexer) : Bool := 0 < st.lists || 0 < st.maps

/-- Do exactly three such characters stand here, at the beginning of a
line? -/
def isTriple (st : Lexer) (c : Char) : Bool :=
  st.indent = 0 && st.column = 1 && st.charAt (st.offset + 1) = c &&
    st.charAt (st.offset + 2) = c && st.charAt (st.offset + 3) ≠ c

/-- Does a mark between documents follow, before a blank, a break or the
end? -/
def beforeMark (st : Lexer) : Bool :=
  let cs := (st.source.extract st.offset (st.offset + 4)).toList
  let mark := if cs.length < 4 then cs else (cs.reverse.dropWhile fun c => isBlank c ||
      isBreak c).reverse
  mark = ['-', '-', '-'] || mark = ['.', '.', '.']

/-! ### Moving on -/

/-- Reads characters without counting columns. -/
def skip (st : Lexer) (n : Nat) : Lexer := { st with offset := st.offset + n }

/-- Reads characters of a line. -/
def forward (st : Lexer) (n : Nat) : Lexer :=
  { st with offset := st.offset + n, column := st.column + n }

/-- Reads the end of a line. -/
def newLine (st : Lexer) : Lexer :=
  { st with
    offset := st.offset + 1
    column := 1
    line := st.line + 1
    indent := 0
    atStart := true
    inAnchor := false
    inReference := false
    inDirective := false }

/-! ### Collecting -/

/-- Collects a character of the text. Blanks at the front are not
collected. -/
def collect (st : Lexer) (c : Char) : Lexer :=
  if (st.text.isEmpty || st.spent) && isBlank c then st
  else
    let text := if st.spent then #[c] else st.text.push c
    { st with text, full := if isBlank c then st.full else text.size, spent := false }

/-- The same, a tab counting as contents. -/
def collectTab (st : Lexer) (c : Char) : Lexer :=
  if st.text.isEmpty && c = ' ' then st
  else
    let size := st.text.size + 1
    { st with text := st.text.push c, full := if c = ' ' then st.full else size }

/-- Collects a character as it stands. -/
def note (st : Lexer) (c : Char) : Lexer :=
  let size := st.raw.size + 1
  { st with raw := st.raw.push c, rawFull := if isBlank c then st.rawFull else size }

/-- Collects characters as they stand. -/
def noteAll (st : Lexer) (cs : List Char) : Lexer := cs.foldl note st

/-- Forgets what is collected. -/
def reset (st : Lexer) : Lexer :=
  { st with text := #[], full := 0, raw := #[], rawFull := 0, spent := false }

/-- The same at the end of a scalar. -/
def clear (st : Lexer) : Lexer := { st.reset with block := none }

/-- The collected text without its end. -/
def collected (st : Lexer) : List Char :=
  let cs := (st.text.extract 0 st.full).toList
  match st.block with
  | none => cs
  | some b => b.chomp cs

/-- Is anything collected? -/
def holds (st : Lexer) : Bool := !st.collected.isEmpty

/-- Takes blanks at the end of a line out of what is collected. -/
def trim (st : Lexer) : Lexer :=
  if st.rawFull < st.raw.size then
    { st with raw := st.raw.extract 0 st.rawFull, text := st.collected.toArray }
  else st

/-! ### Tokens -/

/-- Adds a token. -/
def push (st : Lexer) (t : Token) : Lexer := { st with tokens := st.tokens.push t }

/-- A token that starts here. -/
def token (st : Lexer) (kind : TokenKind) (value : String) : Token :=
  { kind, value, origin := st.raw.toList, line := st.line, column := st.column }

/-- Adds a mark of one character and reads it. -/
def mark (st : Lexer) (kind : TokenKind) : Lexer :=
  ((st.push (st.token kind "")).forward 1).clear

/-- Was the last token a tag without a meaning of its own? -/
def afterForeignTag (st : Lexer) : Bool :=
  match st.tokens.back? with
  | some t => t.kind = .tag && (KnownTag.ofName? t.value).isNone
  | none => false

/-- Where the collected text starts. In a block the column only tells
whether it starts with the line. -/
def startOfText (st : Lexer) : Nat × Int :=
  match st.start with
  | some p => p
  | none =>
    if st.block.isSome then (st.line, if st.text.toList.isPrefixOf st.raw.toList then 1 else 0)
    else (st.line, if st.spent then st.column else st.column - st.text.size)

/-- Makes a token of what is collected. -/
def take (st : Lexer) : Option Token × Lexer :=
  let (line, column) := st.startOfText
  let cs := st.collected
  if cs.isEmpty then (none, { st with start := none, spent := !st.text.isEmpty })
  else
    let kind := if st.block.isSome || st.afterForeignTag then .text else .plain
    (some { kind, value := String.ofList cs, origin := st.raw.toList, line, column },
      { st.reset with start := none })

/-- Adds what is collected to the tokens. -/
def flush (st : Lexer) : Lexer :=
  match st.take with
  | (none, st) => st
  | (some t, st) => st.push t

/-- Notes how a line is indented when its first character is seen. -/
def observe (st : Lexer) (c : Char) : Lexer :=
  if !st.atStart then { st with tilt := .steady }
  else if isBreak c || c = '\t' then st
  else if c = ' ' then { st with indent := st.indent + 1 }
  else
    let tilt := if st.owner = 0 then st.tilt else if st.owner < st.column then .deeper
    else .shallower
    { st with tilt, atStart := false }

end Lexer

/-- The outcome of looking for a token. -/
inductive Attempt
  /-- Something was read. -/
  | done (st : Lexer)
  /-- The character is one of a plain scalar. -/
  | pass
  /-- No document has this here. -/
  | invalid

end ObjectBridge.Manifest.Yaml

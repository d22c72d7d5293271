import ObjectBridge.Manifest.Yaml.Quoted

/-!
# `ObjectBridge.Manifest.Yaml.Tokens`: cutting a document into tokens

`tokens?` reads a document character by character. Each character is
looked at as part of a scalar over several lines when there is one, else
as the beginning of a token, and else it belongs to a plain scalar.
-/

set_option autoImplicit false

namespace ObjectBridge.Manifest.Yaml

namespace Lexer

/-! ### Scalars over several lines -/

/-- Reads a space that indents a line. What goes beyond the common
indentation belongs to the text. -/
def blockIndent (st : Lexer) (b : Block) : Lexer :=
  if b.first = 0 || st.column < b.first then st
  else
    let text := st.text.push ' '
    { st with
      text, full := text.size
      block := some { b with fresh := if b.style = .literal then b.fresh else false } }

/-- Joins a line with the one before it, where lines are joined: a single
break between equally indented lines is a space, and of several breaks
one goes. -/
def blockJoin (st : Lexer) (b : Block) : Lexer :=
  if b.style = .literal || !b.fresh then { st with block := some b }
  else
    let size := st.text.size
    let last := st.text.back? = some '\n'
    let text :=
      if b.current = b.previous then if last then st.text.pop.push ' ' else st.text
      else if b.previous = 0 && b.lastFull = st.column && last && 2 ≤ size &&
        st.text[size - 2]? = some '\n' then
        st.text.pop
      else st.text
    { st with
      text, full := if text.size < size then text.size else st.full
      block := some { b with fresh := false } }

/-- Ends a scalar over several lines. -/
def blockEnd (st : Lexer) : Lexer := (st.push (st.token .text (String.ofList st.collected))).clear

/-- Reads a character of a scalar over several lines. -/
def blockChar? (st : Lexer) (b : Block) (c : Char) : Option Lexer :=
  let st := st.note c
  if st.isLast then do
    let st := if st.atStart && c = ' ' then st.blockIndent b else st.collect c
    let b ← (st.block.getD b).startAt? st.column
    return ({ st with block := some b }.blockEnd).forward 1
  else if isBreak c then
    let st := { st.collect c with block := some (b.endLine st.column) }.newLine
    some (if st.beforeMark then st.blockEnd else st)
  else if st.atStart && c = ' ' then some ((st.blockIndent b).forward 1)
  else if c = '\t' && st.atStart && b.inIndent st.column then none
  else if c = '\t' && !b.inIndent st.column then some ((st.collectTab c).forward 1)
  else if b.isEarly st.column then none
  else do
    let b ← b.startAt? st.column
    let st := if 1 < b.first then { st with owner := b.first - 1 } else st
    return ((st.blockJoin b).collectTab c).forward 1

/-- Reads the line with the mark of a scalar over several lines. -/
def blockMark? (st : Lexer) : Option Lexer :=
  let style := if st.here = '|' then BlockStyle.literal else .folded
  let line := st.upTo isBreak (st.offset + 1)
  -- Without a break the last character does not count.
  let size := if st.offset + 1 + line.length < st.source.size then line.length else line.length - 1
  let value := ((line.take size).reverse.dropWhile (· = ' ')).reverse
  let marks := if value.head? = some '#' then value else value.takeWhile (· ≠ '#')
  let option := (marks.reverse.dropWhile isBlank).reverse
  if !Block.isOption option then none
  else
    let st := if st.column = 1 then { st with owner := 1 } else st
    let st := st.push (st.token .block "")
    let st := if '#' ∈ line then st.push (st.token .comment "") else st
    let block := Block.ofMark style st.owner (String.ofList option)
    some { (st.reset.forward (size + 1)).newLine with block := some block, tilt := .steady }

/-! ### Ends of lines and blanks -/

/-- Reads the end of a line. -/
def endLine (st : Lexer) : Lexer :=
  let c := st.here
  let size := st.collected.length
  let st := if st.text.isEmpty || st.start.isSome then st
  else { st with start := some (st.line, st.column - size) }
  let st := st.trim
  let (st, c) := if c = '\r' && st.next = '\n' then ((st.note '\r').skip 1, '\n') else (st, c)
  let st := if st.isLast || st.inAnchor then st.flush else st
  let st :=
    if st.atStart && st.holds then
      { st with text := (if st.text.back? = some ' ' then st.text.pop else st.text).push '\n' }
    else st.collect ' '
  (st.note c).newLine

/-- Reads a space, when it indents a line or ends a name. -/
def space (st : Lexer) : Attempt :=
  if st.atStart then .done ((st.forward 1).note ' ')
  else if st.inDirective then .done ((st.flush.forward 1).note ' ')
  else if st.inAnchor || st.inReference then
    .done { st.flush with inAnchor := false, inReference := false }
  else .pass

/-- Reads a tab. -/
def tab (st : Lexer) : Attempt :=
  if st.owner < st.column then .done ({ st with indent := st.indent + 1 }.note '\t' |>.skip 1)
  else if st.inBrackets || !st.atStart then .pass
  else .invalid

/-- Reads a comment, with the end of its line. -/
def comment (st : Lexer) : Attempt :=
  if st.holds && !(isBlank st.previous || isBreak st.previous) then .pass
  else
    let st := st.flush
    let size := (st.upTo isBreak (st.offset + 1)).length
    .done (((st.push (st.token .comment "")).skip 1).forward size).newLine.clear

/-! ### Marks -/

/-- Reads the mark between documents. -/
def documentStart (st : Lexer) : Attempt :=
  if st.isTriple '-' && st.beforeMark then
    let st := st.flush
    .done { ((st.push (st.token .documentStart "")).forward 3).clear with owner := 0, indent := 0 }
  else .pass

/-- Reads the mark after a document. -/
def documentEnd (st : Lexer) : Attempt :=
  if st.isTriple '.' then
    let st := st.flush
    .done ((st.push (st.token .documentEnd "")).forward 3).clear
  else .pass

/-- Reads a dash at the beginning of a further line of a plain scalar. -/
def foldedDash (st : Lexer) : Attempt :=
  if st.holds && st.tilt = .deeper then
    let block := ({ style := .dashed } : Block).startAt st.column
    .done ((({ st with block := some block }.collect '-').note '-').forward 1)
  else .pass

/-- Reads the dash of a list entry. -/
def entry (st : Lexer) : Attempt :=
  let after := st.next
  if st.holds || !(after = Char.ofNat 0 || isBlank after || isBreak after) then .pass
  else .done ({ st with owner := st.column }.mark .entry)

/-- Reads a dash. -/
def dash (st : Lexer) : Attempt :=
  match st.documentStart with
  | .pass =>
    match st.foldedDash with
    | .pass => st.entry
    | result => result
  | result => result

/-- Reads the question mark before a key. -/
def question (st : Lexer) : Attempt :=
  if st.holds || !isBlank st.next then .pass
  else .done ({ st with owner := st.column }.mark .question)

/-- Does a colon here end a key? In braces nearly every one does. -/
def endsKey (st : Lexer) : Bool :=
  let afterColon := (st.tokens.back?.map fun t => decide (t.kind = .colon)).getD false
  if st.inDirective || st.inAnchor || st.inReference then false
  else if 0 < st.maps then st.next ≠ '/' && !afterColon
  else isBlank st.next || isBreak st.next || st.isLast

/-- Reads the colon after a key. The key must not be indented by a tab. -/
def colon (st : Lexer) : Attempt :=
  let raw := st.raw.toList
  let front := if raw.head? = some ' ' then raw.tail else raw
  if !st.endsKey then .pass
  else if front.head? = some '\t' && st.text[0]? ≠ some '\t' then .invalid
  else
    let st := match st.take with
      | (some t, st) => { st with owner := t.column }.push t
      | (none, st) =>
        match st.tokens.back? with
        | some t => if t.kind = TokenKind.quoted then { st with owner := t.column } else st
        | none => st
    .done (st.mark .colon)

/-- Do only blanks and colons follow, up to a colon before a space or a
break? -/
def endsMerge : List Char → Bool
  | ':' :: c :: rest => c = ' ' || isBreak c || endsMerge (c :: rest)
  | ' ' :: rest => endsMerge rest
  | _ => false

/-- Does the key that takes over other entries stand here? -/
def isMerge (st : Lexer) : Bool :=
  match (st.source.extract st.offset (st.reach isBreak st.source.size st.offset + 1)).toList with
  | '<' :: '<' :: rest => endsMerge rest
  | _ => false

/-- Reads the key that takes over other entries. What stands right before
it is lost. -/
def mergeKey (st : Lexer) : Attempt :=
  if st.isMerge then .done (({ st with owner := st.column }.push (st.token .merge "<<")).forward
    2).clear else .pass

/-- Opens a list or mapping in brackets. Outside brackets the bracket may
belong to a plain scalar. -/
def opening (st : Lexer) (kind : TokenKind) (lists maps : Int) : Attempt :=
  if st.holds && !st.inBrackets then .pass
  else
    let st := st.flush
    .done ({ st with lists := st.lists + lists, maps := st.maps + maps }.mark kind)

/-- Closes a list in brackets. Where none is open the bracket may belong
to a plain scalar. -/
def closeList (st : Lexer) : Attempt :=
  if st.holds && st.lists ≤ 0 then .pass
  else .done ({ st.flush with lists := st.lists - 1 }.mark .listEnd)

/-- Closes a mapping in braces. Where none is open the brace belongs to a
plain scalar. -/
def closeMap (st : Lexer) : Attempt :=
  if st.maps ≤ 0 then .pass else .done ({ st.flush with maps := st.maps - 1 }.mark .mapEnd)

/-- Reads the comma between the parts of a collection in brackets. -/
def comma (st : Lexer) : Attempt :=
  if st.inBrackets then .done (st.flush.mark .comma) else .pass

/-- Reads the mark before the name of an anchor. -/
def anchor (st : Lexer) : Attempt :=
  if st.holds then .pass else .done { st.flush.mark .anchor with inAnchor := true }

/-- Reads the mark before the name of an alias. -/
def reference (st : Lexer) : Attempt :=
  if st.holds then .pass else .done { st.flush.mark .reference with inReference := true }

/-- Reads the mark before a directive. -/
def directive (st : Lexer) : Attempt :=
  if st.holds || st.indent ≠ 0 then .pass
  else .done { st.flush.mark .directive with inDirective := true }

/-- Reads a tag. One that nothing follows does not count. -/
def tag (st : Lexer) : Attempt :=
  if st.holds || st.inDirective then .pass
  else
    let ends (c : Char) : Bool :=
      c = ' ' || isBreak c || c = '\x7b' || c = '\x7d' || (c = ',' && st.inBrackets)
    let name := st.upTo ends (st.offset + 1)
    let size := name.length
    let stop := st.charAt (st.offset + 1 + size)
    if st.source.size ≤ st.offset + 1 + size then .done ((st.skip 1).forward size).clear
    else if stop = '\x7b' || stop = '\x7d' then .invalid
    else
      let st := (st.push (st.token .tag (String.ofList ('!' :: name)))).skip 1
      .done (st.forward (if stop = ' ' then size + 1 else size)).clear

/-- Reads a scalar in quotes. -/
def quoted (st : Lexer) : Attempt :=
  if st.holds then .pass
  else
    match st.quoted? with
    | some st => .done st
    | none => .invalid

/-- Reads the mark of a scalar over several lines. -/
def blockMark (st : Lexer) : Attempt :=
  if st.holds then .pass
  else
    match st.blockMark? with
    | some st => .done st
    | none => .invalid

/-! ### Documents -/

/-- Looks for a token that starts with this character. -/
def attempt (st : Lexer) (c : Char) : Attempt :=
  if isBreak c then .done st.endLine
  else if c = '@' || c.toNat = 0x60 then if st.holds then .pass else .invalid
  else
    match c with
    | ' ' => st.space
    | '\t' => st.tab
    | '\x7b' => st.opening .mapStart 0 1
    | '\x7d' => st.closeMap
    | '[' => st.opening .listStart 1 0
    | ']' => st.closeList
    | ',' => st.comma
    | '.' => st.documentEnd
    | '<' => st.mergeKey
    | '-' => st.dash
    | ':' => st.colon
    | '?' => st.question
    | '|' | '>' => st.blockMark
    | '!' => st.tag
    | '%' => st.directive
    | '&' => st.anchor
    | '*' => st.reference
    | '#' => st.comment
    | '\'' | '"' => st.quoted
    | _ => .pass

/-- Reads a character outside scalars over several lines. -/
def char? (st : Lexer) (c : Char) : Option Lexer :=
  match st.attempt c with
  | .done st => some st
  | .pass => some (((st.collect c).note c).forward 1)
  | .invalid => none

/-- Ends a scalar over several lines at a line that does not belong to it.
One without contents is an empty text. -/
def leaveBlock? (st : Lexer) : Option Lexer :=
  match st.tokens.back? with
  | none => some { st with block := none }
  | some t =>
    if t.column = 1 then none
    else
      let st := if t.kind = .text then st else st.push { st.token .text "" with origin := [] }
      some { st with block := none }

/-- Reads a character. -/
def step? (st : Lexer) : Option Lexer :=
  let c := st.here
  let st := st.observe c
  if st.tilt = .shallower then
    let st := st.flush
    if st.block.isSome then st.leaveBlock?.bind (·.char? c) else st.char? c
  else
    match st.block with
    | some b => st.blockChar? b c
    | none => st.char? c

/-- Reads characters to the end. -/
def finish? : (fuel : Nat) → Lexer → Option Lexer
  | 0, _ => none
  | fuel + 1, st => if st.source.size ≤ st.offset then some st.flush
  else st.step?.bind (finish? fuel)

end Lexer

/-- The tokens of a document, without its comments. -/
def tokens? (cs : List Char) : Option (List Token) :=
  let source := cs.toArray
  ((Lexer.finish? (2 * source.size + 2) { source }).map fun st =>
    st.tokens.toList.filter fun t => t.kind ≠ .comment)

end ObjectBridge.Manifest.Yaml

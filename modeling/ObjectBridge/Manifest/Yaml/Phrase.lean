import ObjectBridge.Manifest.Yaml.Token

/-!
# `ObjectBridge.Manifest.Yaml.Phrase`: tokens that belong together

Before nodes are read, tokens are put together that stand side by side: a
mark and the text after it, an anchor and its name, a tag and its scalar,
a key and its colon, a key and its scalar. Many of them only belong
together on one line.

`documents?` does all of this and says which phrases make up which
document.
-/

set_option autoImplicit false

namespace ObjectBridge.Manifest.Yaml

/-- Tokens that belong together. -/
inductive Phrase
  | word (t : Token)
  /-- A scalar over several lines. -/
  | block (mark : Token) (content : String)
  /-- An anchor whose node follows. -/
  | anchorName (mark : Token) (name : String)
  /-- An anchor and its scalar. -/
  | anchor (mark : Token) (name : String) (value : Phrase)
  | reference (mark : Token) (name : String)
  /-- A tag and its scalar. -/
  | tagged (tag : Token) (value : Phrase)
  /-- A key after a question mark. -/
  | question (mark : Token) (key : Phrase)
  /-- A key before a colon. -/
  | key (key : Phrase) (colon : Token)
  /-- A key and its scalar. -/
  | pair (key : Phrase) (value : Phrase)
  | directive (mark : Token) (name : Token) (values : List Token)
  deriving Repr

namespace Phrase

/-- The first token. -/
def first : Phrase → Token
  | .word t => t
  | .block mark _ => mark
  | .anchorName mark _ => mark
  | .anchor mark _ _ => mark
  | .reference mark _ => mark
  | .tagged tag _ => tag
  | .question mark _ => mark
  | .key k _ => k.first
  | .pair k _ => k.first
  | .directive mark _ _ => mark

/-- The kind of its first token. -/
def kind (p : Phrase) : TokenKind := p.first.kind

/-- The line it begins in. -/
def line (p : Phrase) : Nat := p.first.line

/-- The column it begins at. -/
def column (p : Phrase) : Int := p.first.column

/-- Is this a key, with or without its value? -/
def isKey : Phrase → Bool
  | .question .. | .key .. | .pair .. => true
  | _ => false

/-- Is it the name of an anchor? -/
def isAnchorName : Phrase → Bool
  | .anchorName .. => true
  | _ => false

/-- Is this a mark of a certain kind? -/
def isMark (kind : TokenKind) : Phrase → Bool
  | .word t => t.kind = kind
  | _ => false

/-- May this begin or end a mapping? -/
def isMapping : Phrase → Bool
  | .word t => t.kind = .mapStart || t.kind = .mapEnd
  | p => p.isKey

/-- Does a scalar start here? -/
def isScalar (p : Phrase) : Bool :=
  !p.isKey &&
    match p.kind with
    | .anchor | .reference | .block | .plain | .text | .quoted => true
    | _ => false

/-- The name of an anchor or alias that a word stands for. Even tags may
be names. -/
def name? : Phrase → Option String
  | .word t =>
    match t.kind with
    | .plain | .text | .quoted | .merge | .tag => some t.value
    | _ => none
  | _ => none

end Phrase

/-! ### Putting phrases together -/

/-- Marks of scalars over several lines, with their text. -/
def joinBlocks? : List Token → Option (List Phrase)
  | [] => some []
  | t :: rest =>
    if t.kind = .block then
      match rest with
      | [] => some [.block t ""]
      | content :: more => do
        if content.kind ≠ .text then none
        return .block t content.value :: (← joinBlocks? more)
    else do return .word t :: (← joinBlocks? rest)

/-- Anchors and aliases, with their names and their scalars on the same
line. -/
def joinAnchors? : List Phrase → Option (List Phrase)
  | [] => some []
  | p :: rest =>
    if p.isMark .anchor then
      match rest with
      | name :: value :: more => do
        let name ← name.name?
        let sameLine := p.line = value.line
        if sameLine && value.kind = .entry then none
        if sameLine && value.isScalar then
          if value.kind = .anchor || value.kind = .reference then none
          return .anchor p.first name value :: (← joinAnchors? more)
        return .anchorName p.first name :: (← joinAnchors? (value :: more))
      | _ => none
    else if p.isMark .reference then
      match rest with
      | name :: more => do return .reference p.first (← name.name?) :: (← joinAnchors? more)
      | [] => none
    else do return p :: (← joinAnchors? rest)

/-- Does a tag take the phrase after it as its scalar? A tag without a
meaning of its own takes almost everything. -/
def takesScalar? (tag : Token) (value : Phrase) : Option Bool :=
  if tag.line ≠ value.line || value.isAnchorName then some false
  else if tag.value.startsWith "!!" then
    match KnownTag.ofName? tag.value with
    | some .merge => if value.kind = .merge then some true else none
    | some known => some (known.isScalar && value.isScalar)
    | none => some false
  else
    match value.kind with
    | .mapStart | .mapEnd | .listStart | .entry => some false
    | _ => some true

/-- Tags, with their scalars on the same line. -/
def joinTags? : List Phrase → Option (List Phrase)
  | [] => some []
  | [p] => some [p]
  | p :: value :: rest =>
    if p.isMark .tag then do
      if ← takesScalar? p.first value then
        return .tagged p.first value :: (← joinTags? rest)
      return p :: (← joinTags? (value :: rest))
    else do return p :: (← joinTags? (value :: rest))

/-- Anchors, with scalars that have a tag on the same line. -/
def joinAnchoredTags? : List Phrase → Option (List Phrase)
  | [] => some []
  | [p] => if p.isAnchorName then none else some [p]
  | p :: value :: rest =>
    match p, value with
    | .anchorName mark name, .tagged tag _ =>
      if mark.line = tag.line then do
        return .anchor mark name value :: (← joinAnchoredTags? rest)
      else do return p :: (← joinAnchoredTags? (value :: rest))
    | _, _ => do return p :: (← joinAnchoredTags? (value :: rest))

/-- Question marks, with what follows them. -/
def joinQuestions? : List Phrase → Option (List Phrase)
  | [] => some []
  | [p] => if p.isMark .question then none else some [p]
  | p :: key :: rest =>
    if p.isMark .question then do return .question p.first key :: (← joinQuestions? rest)
    else do return p :: (← joinQuestions? (key :: rest))

/-- Can this not be a key? -/
def isNoKey (kind : TokenKind) : Bool :=
  match kind with
  | .directive | .documentStart | .documentEnd | .comma | .mapStart | .colon | .mapEnd
    | .listStart | .entry
  | .listEnd => true
  | _ => false

/-- Colons, with the phrases before them. -/
def joinColons? : (before : List Phrase) → (afterColon : Bool) → List Phrase → Option (List Phrase)
  | before, _, [] => some before.reverse
  | before, afterColon, p :: rest =>
    if p.isMark .colon then
      match before with
      | [] => none
      | key :: before =>
        if afterColon || isNoKey key.kind then none
        else joinColons? (.key key p.first :: before) true rest
    else joinColons? (p :: before) false rest

/-- Keys, with their scalars on the same line. -/
def joinPairs : List Phrase → List Phrase
  | [] => []
  | [p] => [p]
  | p :: value :: rest =>
    let isTagged := match value with
      | .tagged .. => true
      | _ => false
    if p.isKey && p.line = value.line && !value.isAnchorName && (value.isScalar || isTagged) then
      .pair p value :: joinPairs rest
    else p :: joinPairs (value :: rest)

/-- Directives, with the rest of their lines. A document must follow. -/
def joinDirectives? : (fuel : Nat) → List Phrase → Option (List Phrase)
  | 0, _ => none
  | _, [] => some []
  | fuel + 1, p :: rest =>
    if p.isMark .directive then
      match rest with
      | [] => none
      | name :: rest =>
        let values := rest.takeWhile fun q => q.line = p.line
        let after := rest.dropWhile fun q => q.line = p.line
        match after with
        | q :: _ =>
          if q.kind = .documentStart then do
            return .directive p.first name.first (values.map Phrase.first) ::
              (← joinDirectives? fuel after)
          else none
        | [] => none
    else do return p :: (← joinDirectives? fuel rest)

/-- Splits phrases into documents, each with the marks around it. After
two marks in a row nothing counts. -/
def split? : (fuel : Nat) → List Phrase → Option (List (List Phrase))
  | 0, _ => none
  | fuel + 1, ps =>
    let isEnd (p : Phrase) : Bool := p.kind = .documentStart || p.kind = .documentEnd
    let front := ps.takeWhile (!isEnd ·)
    match ps.dropWhile (!isEnd ·) with
    | [] => some [ps]
    | mark :: rest =>
      if mark.kind = .documentStart then
        let before := if front.isEmpty then [] else [front]
        match rest with
        | [] => some (before ++ [[mark]])
        | p :: _ =>
          if p.kind = .documentStart then some (before ++ [[mark]])
          else if mark.line = p.line && (p.isKey || p.kind = .entry) then none
          else
            match split? fuel rest with
            | none => none
            | some [] => some (before ++ [[mark]])
            | some (d :: ds) => some (before ++ (mark :: d) :: ds)
      else
        let before := if front.isEmpty then [] else [front ++ [mark]]
        match rest with
        | [] => some before
        | p :: _ => if p.isScalar then none else (split? fuel rest).map (before ++ ·)

/-- What a document is made of. -/
structure Outline where
  /-- The phrases between its marks. -/
  contents : List Phrase
  /-- Does a mark tell where it ends? -/
  isClosed : Bool

/-- Takes off the marks around a document. -/
def Outline.ofPhrases (ps : List Phrase) : Outline :=
  let ps := if ps.head?.any fun p => p.kind = .documentStart then ps.tail else ps
  if ps.getLast?.any fun p => p.kind = .documentEnd then ⟨ps.dropLast, true⟩ else ⟨ps, false⟩

/-- The documents that tokens make up. -/
def documents? (ts : List Token) : Option (List Outline) := do
  let ps ← joinBlocks? ts
  let ps ← joinAnchors? ps
  let ps ← joinTags? ps
  let ps ← joinAnchoredTags? ps
  let ps ← joinQuestions? ps
  let ps ← joinColons? [] false ps
  let ps ← joinDirectives? (ps.length + 1) (joinPairs ps)
  let ds ← split? (ps.length + 1) ps
  return ds.map Outline.ofPhrases

end ObjectBridge.Manifest.Yaml

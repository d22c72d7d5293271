/-!
# `ObjectBridge.Manifest.Yaml.Token`: the words of a YAML document

A document is cut into tokens: marks such as `-` and `:`, and scalars.
Each token knows where it starts, because lines and columns decide later
on which tokens belong together.
-/

set_option autoImplicit false

namespace ObjectBridge.Manifest.Yaml

/-- What a token is. -/
inductive TokenKind
  /-- `&` -/
  | anchor
  /-- `*` -/
  | reference
  | tag
  | comment
  /-- `%` -/
  | directive
  /-- `---` -/
  | documentStart
  /-- `...` -/
  | documentEnd
  /-- `-` -/
  | entry
  /-- `?` -/
  | question
  /-- `:` -/
  | colon
  | comma
  | listStart
  | listEnd
  | mapStart
  | mapEnd
  /-- `<<` -/
  | merge
  /-- `|` or `>` -/
  | block
  /-- A scalar whose text says whether it is a number and the like. -/
  | plain
  /-- A scalar that is a text whatever it looks like. -/
  | text
  | quoted
  deriving DecidableEq, Repr

/-- A token. -/
structure Token where
  kind : TokenKind
  value : String := ""
  /-- The characters it was read from, with the blanks before it. -/
  origin : List Char := []
  line : Nat
  column : Int
  deriving Repr

/-- The tags with a meaning of their own. -/
inductive KnownTag
  | integer
  | float
  | null
  | sequence
  | mapping
  | string
  | binary
  | orderedMap
  | set
  | timestamp
  | boolean
  | merge
  deriving DecidableEq, Repr

/-- The tag of that name, if it is known. -/
def KnownTag.ofName? (name : String) : Option KnownTag :=
  match name with
  | "!!int" => some .integer
  | "!!float" => some .float
  | "!!null" => some .null
  | "!!seq" => some .sequence
  | "!!map" => some .mapping
  | "!!str" => some .string
  | "!!binary" => some .binary
  | "!!omap" => some .orderedMap
  | "!!set" => some .set
  | "!!timestamp" => some .timestamp
  | "!!bool" => some .boolean
  | "!!merge" => some .merge
  | _ => none

/-- Is this the tag of a scalar? -/
def KnownTag.isScalar : KnownTag → Bool
  | .integer | .float | .null | .string | .binary | .timestamp | .boolean => true
  | _ => false

/-- Is it a space or a tab? -/
def isBlank (c : Char) : Bool := c = ' ' || c = '\t'

/-- Does it end a line? -/
def isBreak (c : Char) : Bool := c = '\n' || c = '\r'

end ObjectBridge.Manifest.Yaml

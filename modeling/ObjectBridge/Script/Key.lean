import ObjectBridge.Script.Text

/-!
# `ObjectBridge.Script.Key`: names of properties

A property is named by an index, by a text, or by a symbol. Texts that
spell an index are indexes: `Key.ofText` is how a text names a property,
and it never gives a `Key.name` or `Key.halves` that spells one.
-/

set_option autoImplicit false

namespace ObjectBridge.Script

/-- Symbols are told apart by number. -/
structure Symbol where
  number : Nat
  description : Option Text
  deriving DecidableEq, Repr

namespace Symbol

/-- What a symbol is said to be. -/
def label (s : Symbol) : Text := s.description.getD (.plain "")

/-- How a symbol is written. -/
def text (s : Symbol) : Text := .plain "Symbol(" ++ s.label ++ .plain ")"

/-! Symbols that the language itself knows. -/

def known (number : Nat) (name : String) : Symbol :=
  { number, description := some (.plain ("Symbol." ++ name)) }

def hasInstance : Symbol := known 0 "hasInstance"
def toPrimitive : Symbol := known 1 "toPrimitive"
def toStringTag : Symbol := known 2 "toStringTag"
def iterator : Symbol := known 3 "iterator"

/-- Symbols the language knows, by name. -/
def allKnown : List (String × Symbol) :=
  [("hasInstance", hasInstance), ("toPrimitive", toPrimitive), ("toStringTag", toStringTag),
    ("iterator", iterator)] ++ ["asyncIterator", "isConcatSpreadable", "match", "matchAll",
      "replace", "search", "species", "split", "unscopables"].zipIdx.map fun (name, i) =>
        (name, known (4 + i) name)

/-- The first number that is left for scripts. -/
def firstFree : Nat := allKnown.length

/-- A symbol that a script makes, after `n` others. -/
def free (n : Nat) (description : Option Text) : Symbol := { number := firstFree + n, description }

end Symbol

inductive Key
  /-- An index of an array, below `2 ^ 32 - 1`. -/
  | index (n : Nat)
  | name (s : String)
  /-- A name in which half a pair stands alone. -/
  | halves (units : List UInt16)
  | symbol (s : Symbol)
  deriving DecidableEq, Repr

namespace Key

instance : Inhabited Key := ⟨.name ""⟩

/-- Indexes lie below this bound. -/
def indexBound : Nat := Nat.pow 2 32 - 1

/-- The name as an index of an array: digits without leading zeros. -/
def index? (name : String) : Option Nat :=
  if 10 < name.utf8ByteSize then none
  else
    let cs := name.toList
    match cs with
    | [] => none
    | c :: rest =>
      if !c.isDigit || !rest.all Char.isDigit || (c = '0' && rest ≠ []) then none
      else
        let n := cs.foldl (fun n c => n * 10 + (c.toNat - '0'.toNat)) 0
        if n < indexBound then some n else none

def ofString (s : String) : Key :=
  match index? s with
  | some n => .index n
  | none => .name s

/-- The key a text names. -/
def ofText (t : Text) : Key :=
  match t.settled with
  | .halves us => .halves us
  | t => .ofString t.toStringLossy

def ofNat (n : Nat) : Key := if n < indexBound then .index n else .name (toString n)

/-- The text of a key, unless it is a symbol. -/
def text? : Key → Option Text
  | .index n => some (.plain (toString n))
  | .name s => some (.plain s)
  | .halves us => some (.halves us)
  | .symbol _ => none

/-- The key as messages show it. -/
def shown : Key → String
  | .symbol s => s.label.toStringLossy
  | key => (key.text?.getD (.plain "")).toStringLossy

def isSymbol : Key → Bool
  | .symbol _ => true
  | _ => false

def toIndex? : Key → Option Nat
  | .index n => some n
  | _ => none

/-! ### Keys in programs -/

/-- The key of a string is no symbol. -/
theorem isSymbol_ofString (s : String) : (ofString s).isSymbol = false := by
  unfold ofString
  split <;> rfl

/-- Nor is that of a text. -/
theorem isSymbol_ofText (t : Text) : (ofText t).isSymbol = false := by
  unfold ofText
  split
  · rfl
  · exact isSymbol_ofString _

/-- A key that can be written in a program: no symbol. -/
abbrev Written := { key : Key // key.isSymbol = false }

namespace Written

def ofName (s : String) : Written := ⟨.name s, rfl⟩

def ofString (s : String) : Written := ⟨.ofString s, isSymbol_ofString s⟩

def ofText (t : Text) : Written := ⟨.ofText t, isSymbol_ofText t⟩

end Written

end Key

end ObjectBridge.Script

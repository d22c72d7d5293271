import ObjectBridge.Data.Json
import ObjectBridge.Decimal.Notation
import ObjectBridge.Decimal.Reader
import ObjectBridge.Text.Base64

/-!
# `ObjectBridge.Manifest.Yaml.Value`: what YAML documents stand for

A plain scalar is null, a truth value or a number when it looks like one.
Every scalar of a manifest ends up as a text; so numbers and truth values
are read first and written back in their usual form: `0x10` is the text
`16` and `True` the text `true`.
-/

set_option autoImplicit false

namespace ObjectBridge.Manifest.Yaml

/-- The value of a node. -/
inductive Value
  | null
  | bool (b : Bool)
  | integer (n : Int)
  | float (f : Float)
  | text (s : String)
  | bytes (b : Bytes)
  /-- A point in time, of which nothing is known. -/
  | moment
  | list (items : List Value)
  | map (entries : List (String × Value))
  deriving Inhabited

namespace Value

/-! ### Plain scalars -/

/-- Reads digits of a base, at least one. -/
def natOfDigits? (base : Nat) (cs : List Char) : Option Nat :=
  if cs = [] then none
  else cs.foldlM (fun n c => (Json.hexDigit? c).bind fun d => if d <
    base then some (n * base + d) else none) 0

/-- The base a number is written in, and its digits. -/
def splitBase : List Char → Nat × List Char
  | '0' :: 'x' :: ds => (16, ds)
  | '0' :: 'o' :: ds => (8, ds)
  | '0' :: 'b' :: ds => (2, ds)
  | '0' :: d :: ds => (8, d :: ds)
  | ds => (10, ds)

/-- Reads a number. One with a point is a double, any other is a whole
number of 64 bits. Underscores do not count, except at the front. -/
def number? (cs : List Char) : Option Value :=
  if cs = [] ∨ cs.head? = some '_' then none
  else
    let negative := cs.head? = some '-'
    let unsigned := match cs with
      | '+' :: '-' :: rest => rest
      | '+' :: rest => rest
      | '-' :: rest => rest
      | rest => rest
    let body := unsigned.filter (· ≠ '_')
    match cs.count '.' with
    | 0 =>
      let (base, digits) := splitBase body
      match natOfDigits? base digits with
      | none => none
      | some n =>
        if n < (if negative then Nat.pow 2 63 + 1 else Nat.pow 2 64) then
          some (.integer (if negative then -(n : Int) else n))
        else none
    | 1 =>
      if (splitBase body).1 ≠ 10 ∧ ¬ (body.getD 1 '.' = '.' ∨ (body.getD 1 '.').isDigit) then none
      else (Decimal.split? body).bind fun d =>
        let f := d.toFloat
        if f.isInf then none else some (.float (if negative then -f else f))
    | _ => none

/-- The value of a plain scalar. -/
def ofPlain (s : String) : Value :=
  match s with
  | "~" | "null" | "Null" | "NULL" => .null
  | "true" | "True" | "TRUE" => .bool true
  | "false" | "False" | "FALSE" => .bool false
  | ".inf" | ".Inf" | ".INF" => .float (1.0 / 0.0)
  | "-.inf" | "-.Inf" | "-.INF" => .float (-1.0 / 0.0)
  | ".nan" | ".NaN" | ".NAN" => .float (0.0 / 0.0)
  | s => (number? s.toList).getD (.text s)

/-! ### Writing -/

mutual

/-- A value as it is written for people. -/
def display : Value → String
  | .null => "<nil>"
  | .bool b => if b then "true" else "false"
  | .integer n => toString n
  | .float f => Decimal.writePlain f
  | .text s => s
  | .bytes b => "[" ++ " ".intercalate (b.map fun x => toString x.toNat) ++ "]"
  | .moment => ""
  | .list items => "[" ++ " ".intercalate (displayItems items) ++ "]"
  | .map entries => "map[" ++ " ".intercalate (displayEntries entries) ++ "]"

/-- Items as they are shown. -/
def displayItems : List Value → List String
  | [] => []
  | v :: rest => v.display :: displayItems rest

/-- Entries as they are shown. -/
def displayEntries : List (String × Value) → List String
  | [] => []
  | (key, v) :: rest => (key ++ ":" ++ v.display) :: displayEntries rest

end

/-- A value as the text of a manifest. Null leaves the text alone. -/
def asText? : Value → Option (Option Bytes)
  | .null => some none
  | .bytes b => some (some b)
  | .moment | .list _ | .map _ => none
  | v => some (some (.ofString v.display))

/-! ### Tags -/

/-- A value as a whole number; zero when it is none. -/
def asInteger (v : Value) : Value :=
  let (negative, digits) := match v.display.toList with
    | '+' :: cs => (false, cs)
    | '-' :: cs => (true, cs)
    | cs => (false, cs)
  if digits.all Char.isDigit then
    match natOfDigits? 10 digits with
    | none => .integer 0
    | some n =>
      let most := Nat.pow 2 63
      .integer (if negative then -(min n most : Nat) else (min n (most - 1) : Nat))
  else .integer 0

/-- Reads a double the way numbers are usually written; zero when it is
none. -/
def floatOfText (s : String) : Float :=
  let (negative, cs) := match s.toList with
    | '+' :: cs => (false, cs)
    | '-' :: cs => (true, cs)
    | cs => (false, cs)
  let magnitude? := match String.ofList (cs.map Char.toLower) with
    | "inf" | "infinity" => some (1.0 / 0.0)
    | _ => (Decimal.split? cs).map Decimal.Literal.toFloat
  if s.toList.map Char.toLower = "nan".toList then 0.0 / 0.0
  else (magnitude?.map fun f => if negative then -f else f).getD 0.0

/-- A value as a double; zero when it is none. -/
def asFloat : Value → Value
  | .integer n => .float (if n < 0 then -(Float.ofNat n.natAbs) else Float.ofNat n.natAbs)
  | .float f => .float f
  | .text s => .float (floatOfText s)
  | _ => .integer 0

/-- A value as a truth value. -/
def asBool? (v : Value) : Option Value :=
  match String.ofList (v.display.toList.map Char.toLower) with
  | "1" | "t" | "true" | "yes" => some (.bool true)
  | "0" | "f" | "false" | "no" => some (.bool false)
  | _ => none

/-- A text as the bytes it stands for. -/
def asBytes? : Value → Option Value
  | .text s => some (.bytes (Base64.decode s.toList))
  | _ => none

/-- A value as a text; null is the empty one. -/
def asString : Value → Value
  | .null => .text ""
  | v => .text v.display

/-- Sets an entry of a mapping, which stays in order. -/
def insert (key : String) (v : Value) : List (String × Value) → List (String × Value)
  | [] => [(key, v)]
  | (k, w) :: rest =>
    if key = k then (key, v) :: rest
    else if key < k then (key, v) :: (k, w) :: rest
    else (k, w) :: insert key v rest

end Value

end ObjectBridge.Manifest.Yaml

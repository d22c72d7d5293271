/-!
# `ObjectBridge.Http.Address`: network addresses

An endpoint is written as a host, a colon and a port; a host that has
colons itself stands in brackets. A host may be an address: four numbers
with points between them, or eight groups of hexadecimal digits with
colons between them, where one run of zeros may be left out. Both kinds
are kept as eight groups, and the four numbers take the place of the last
two after a fixed beginning.
-/

set_option autoImplicit false

namespace ObjectBridge

/-! ### Hosts and ports -/

/-- What is wrong with the text of an endpoint. -/
inductive EndpointFault
  | missingPort
  | tooManyColons
  | unclosedBracket
  | strayOpen
  | strayClose
  deriving DecidableEq, Repr

/-- The text of the fault. -/
def EndpointFault.message : EndpointFault → String
  | .missingPort => "missing port in address"
  | .tooManyColons => "too many colons in address"
  | .unclosedBracket => "missing ']' in address"
  | .strayOpen => "unexpected '[' in address"
  | .strayClose => "unexpected ']' in address"

/-- A host and a port. -/
structure Endpoint where
  host : List Char
  port : List Char
  deriving DecidableEq, Repr

namespace Endpoint

/-- Puts the parts together, unless there are brackets in them. -/
def ofParts (host port : List Char) (inBrackets : Bool) : Except EndpointFault Endpoint :=
  let strayHost (c : Char) : Bool := host.contains c
  if strayHost '[' || port.contains '[' then .error .strayOpen
  else if (!inBrackets && strayHost ']') || port.contains ']' then .error .strayClose
  else .ok { host, port }

/-- Reads an endpoint. -/
def parse (text : List Char) : Except EndpointFault Endpoint :=
  match text with
  | [] => .error .missingPort
  | '[' :: inner =>
    if !text.contains ':' then .error .missingPort
    else if !inner.contains ']' then .error .unclosedBracket
    else
      let host := inner.takeWhile (· ≠ ']')
      match (inner.dropWhile (· ≠ ']')).drop 1 with
      | ':' :: port => if port.contains ':' then .error .tooManyColons else ofParts host port true
      | _ => .error .missingPort
  | _ =>
    let host := text.takeWhile (· ≠ ':')
    match text.dropWhile (· ≠ ':') with
    | _ :: port => if port.contains ':' then .error .tooManyColons else ofParts host port false
    | [] => .error .missingPort

end Endpoint

/-! ### Addresses -/

/-- An address as eight groups of sixteen bits. -/
structure IpAddress where
  groups : List Nat
  deriving DecidableEq, Repr

namespace IpAddress

/-- A number below 256 in decimal, without leading zeros. -/
def byte? (cs : List Char) : Option Nat :=
  let n := cs.foldl (fun n c => n * 10 + (c.toNat - '0'.toNat)) 0
  if cs.isEmpty || 3 < cs.length || !cs.all Char.isDigit || 255 < n then none
  else if 1 < cs.length && cs.head? = some '0' then none
  else some n

/-- Four numbers as two groups. -/
def dotted? (cs : List Char) : Option (List Nat) :=
  match (cs.splitOn '.').mapM byte? with
  | some [a, b, c, d] => some [a * 256 + b, c * 256 + d]
  | _ => none

/-- The value of a hexadecimal digit. -/
def hexValue? (c : Char) : Option Nat :=
  if c.isDigit then some (c.toNat - '0'.toNat)
  else if 'a' ≤ c ∧ c ≤ 'f' then some (c.toNat - 'a'.toNat + 10)
  else if 'A' ≤ c ∧ c ≤ 'F' then some (c.toNat - 'A'.toNat + 10)
  else none

/-- One to four hexadecimal digits. -/
def group? (cs : List Char) : Option Nat :=
  if cs.isEmpty || 4 < cs.length then none
  else (cs.mapM hexValue?).map fun ds => ds.foldl (fun n d => n * 16 + d) 0

/-- Groups; the last may be four numbers if that is the end of the
address. -/
def groupsOf? (atEnd : Bool) : List (List Char) → Option (List Nat)
  | [] => some []
  | [last] =>
    match group? last with
    | some g => some [g]
    | none => if atEnd then dotted? last else none
  | g :: rest => do return (← group? g) :: (← groupsOf? atEnd rest)

/-- Nothing is no groups at all. -/
def groups? (atEnd : Bool) (cs : List Char) : Option (List Nat) :=
  if cs.isEmpty then some [] else groupsOf? atEnd (cs.splitOn ':')

/-- Splits where a run of zeros was left out, the first time. -/
def splitGap : List Char → Option (List Char × List Char)
  | [] => none
  | ':' :: ':' :: rest => some ([], rest)
  | c :: rest => (splitGap rest).map fun p => (c :: p.1, p.2)

/-- The first groups of an address that is written as four numbers. -/
def dottedStart : List Nat := [0, 0, 0, 0, 0, 0xffff]

/-- Reads an address. -/
def parse? (cs : List Char) : Option IpAddress :=
  if cs.contains ':' then
    match splitGap cs with
    | some (front, back) => do
      let front ← groups? false front
      let back ← groups? true back
      if front.length + back.length < 8 then
        return ⟨front ++ List.replicate (8 - front.length - back.length) 0 ++ back⟩
      else none
    | none => do
      let all ← groups? true cs
      if all.length = 8 then return ⟨all⟩ else none
  else (dotted? cs).map fun last => ⟨dottedStart ++ last⟩

/-- Zeros from a place on. -/
def zerosFrom (groups : List Nat) (i : Nat) : Nat := ((groups.drop i).takeWhile (· = 0)).length

/-- The first of the longest runs of zeros: where it begins and its
length. -/
def longestZeros (groups : List Nat) : Nat × Nat :=
  (List.range groups.length).foldl
    (fun best i => if best.2 < zerosFrom groups i then (i, zerosFrom groups i) else best) (0, 0)

/-- A group as it is written. -/
def groupText (g : Nat) : String := String.ofList (Nat.toDigits 16 g)

/-- Groups as they are written, with colons between them. -/
def joined (groups : List Nat) : String := ":".intercalate (groups.map groupText)

/-- The text of an address. The longest run of zeros is left out when it
has more than one. -/
def text (a : IpAddress) : String :=
  match a.groups with
  | [0, 0, 0, 0, 0, 0xffff, x, y] =>
    ".".intercalate ([x / 256, x % 256, y / 256, y % 256].map toString)
  | groups =>
    let (start, length) := longestZeros groups
    if length < 2 then joined groups
    else joined (groups.take start) ++ "::" ++ joined (groups.drop (start + length))

end IpAddress

end ObjectBridge

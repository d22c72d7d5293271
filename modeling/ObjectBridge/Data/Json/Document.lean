import ObjectBridge.Data.Json
import ObjectBridge.Text.Utf8

/-!
# `ObjectBridge.Data.Json.Document`: reading JSON

`Document.value?` reads one JSON value off the front of a text and returns
what follows it. An object keeps its members in order, repeated keys
included: what those mean is up to the reader of the document. Bytes that
are no text may stand in strings and are kept.

Whether raw control characters may stand in strings is a parameter, as
readers differ on it.
-/

set_option autoImplicit false

namespace ObjectBridge.Json

open Utf8 (Symbol)

/-- A JSON value that was read. -/
inductive Document
  | null
  | bool (b : Bool)
  | number
  | string (text : Bytes)
  | array (items : List Document)
  | object (members : List (Bytes × Document))
  deriving Repr

namespace Document

/-- Blanks between tokens. -/
def isBlank : Symbol → Bool
  | .char c => c = ' ' || c = '\t' || c = '\n' || c = '\r'
  | .bad _ => false

/-- What follows the blanks. -/
def skipBlanks (cs : List Symbol) : List Symbol := cs.dropWhile isBlank

/-- The value of four hexadecimal digits at the front. -/
def hex4? : List Symbol → Option (Nat × List Symbol)
  | .char a :: .char b :: .char c :: .char d :: rest => do
    let a ← hexDigit? a
    let b ← hexDigit? b
    let c ← hexDigit? c
    let d ← hexDigit? d
    return (a * 4096 + b * 256 + c * 16 + d, rest)
  | _ => none

/-- The character of an escape `\u…`, given the first unit and what
follows it. Two escapes that make a surrogate pair are one character; a
unit that is half of no pair is U+FFFD. -/
def joinUnits (unit : Nat) (rest : List Symbol) : Char × List Symbol :=
  if 0xD800 ≤ unit ∧ unit < 0xDC00 then
    match rest with
    | .char '\\' :: .char 'u' :: more =>
      match hex4? more with
      | some (low, after) =>
        if 0xDC00 ≤ low ∧ low < 0xE000 then
          (Char.ofNat (0x10000 + (unit - 0xD800) * 1024 + (low - 0xDC00)), after)
        else ('\uFFFD', rest)
      | none => ('\uFFFD', rest)
    | _ => ('\uFFFD', rest)
  else if 0xDC00 ≤ unit ∧ unit < 0xE000 then ('\uFFFD', rest)
  else (Char.ofNat unit, rest)

/-- What a character after a backslash stands for. -/
def escaped? : Char → Option Char
  | '"' => some '"'
  | '\\' => some '\\'
  | '/' => some '/'
  | 'b' => some (Char.ofNat 8)
  | 'f' => some (Char.ofNat 12)
  | 'n' => some '\n'
  | 'r' => some '\r'
  | 't' => some '\t'
  | _ => none

/-- Reads a string after its opening quote, with `acc` read so far in
reverse. -/
def string? (raw : Bool) : (fuel : Nat) → (acc : List Symbol) → List Symbol →
    Option (Bytes × List Symbol)
  | 0, _, _ => none
  | fuel + 1, acc, cs =>
    match cs with
    | [] => none
    | .char '"' :: rest => some (acc.reverse.flatMap Symbol.bytes, rest)
    | .char '\\' :: .char 'u' :: rest =>
      match hex4? rest with
      | none => none
      | some (unit, after) =>
        let (c, after) := joinUnits unit after
        string? raw fuel (.char c :: acc) after
    | .char '\\' :: .char c :: rest =>
      match escaped? c with
      | none => none
      | some c => string? raw fuel (.char c :: acc) rest
    | .char '\\' :: _ => none
    | .char c :: rest => if c.toNat < 0x20 ∧ ¬ raw then none
    else string? raw fuel (.char c :: acc) rest
    | .bad b :: rest => string? raw fuel (.bad b :: acc) rest

/-- Is it a digit? -/
def isDigit : Symbol → Bool
  | .char c => c.isDigit
  | .bad _ => false

/-- What follows one digit or more. -/
def digits? (cs : List Symbol) : Option (List Symbol) :=
  match cs with
  | c :: rest => if isDigit c then some (rest.dropWhile isDigit) else none
  | [] => none

/-- What follows a number: sign, whole part without leading zeros,
fraction, exponent. -/
def number? (cs : List Symbol) : Option (List Symbol) := do
  let cs := match cs with
    | .char '-' :: rest => rest
    | _ => cs
  let rest ← match cs with
    | .char '0' :: rest => if (rest.head?.map isDigit).getD false then none else some rest
    | _ => digits? cs
  let rest ← match rest with
    | .char '.' :: more => digits? more
    | _ => some rest
  match rest with
  | .char e :: more =>
    if e = 'e' ∨ e = 'E' then
      match more with
      | .char '+' :: more => digits? more
      | .char '-' :: more => digits? more
      | _ => digits? more
    else some rest
  | _ => some rest

/-- Removes a word from the front. -/
def word? (word : String) (cs : List Symbol) : Option (List Symbol) :=
  let w := word.toList.map Symbol.char
  if w.isPrefixOf cs then some (cs.drop w.length) else none

mutual

/-- Reads a value at the front of a text; nesting and length are bounded
by the fuel. -/
def valueWith? (raw : Bool) : (fuel : Nat) → List Symbol → Option (Document × List Symbol)
  | 0, _ => none
  | fuel + 1, cs =>
    match skipBlanks cs with
    | .char '"' :: rest => (string? raw (rest.length + 1) [] rest).map fun (s, after) =>
      (.string s, after)
    | .char '[' :: rest =>
      match skipBlanks rest with
      | .char ']' :: after => some (.array [], after)
      | _ => (itemsWith? raw fuel [] rest).map fun (items, after) => (.array items, after)
    | .char '\x7b' :: rest =>
      match skipBlanks rest with
      | .char '\x7d' :: after => some (.object [], after)
      | _ => (membersWith? raw fuel [] rest).map fun (ms, after) => (.object ms, after)
    | .char 't' :: rest => (word? "rue" rest).map fun after => (.bool true, after)
    | .char 'f' :: rest => (word? "alse" rest).map fun after => (.bool false, after)
    | .char 'n' :: rest => (word? "ull" rest).map fun after => (.null, after)
    | other => (number? other).map fun after => (.number, after)

/-- Reads the items of an array up to its end; `acc` holds those read so
far in reverse. -/
def itemsWith? (raw : Bool) :
    (fuel : Nat) → (acc : List Document) → List Symbol → Option (List Document × List Symbol)
  | 0, _, _ => none
  | fuel + 1, acc, cs =>
    match valueWith? raw fuel cs with
    | none => none
    | some (v, after) =>
      match skipBlanks after with
      | .char ',' :: rest => itemsWith? raw fuel (v :: acc) rest
      | .char ']' :: rest => some ((v :: acc).reverse, rest)
      | _ => none

/-- Reads the members of an object up to its end; `acc` holds those read
so far in reverse. -/
def membersWith? (raw : Bool) :
    (fuel : Nat) → (acc : List (Bytes × Document)) → List Symbol →
      Option (List (Bytes × Document) × List Symbol)
  | 0, _, _ => none
  | fuel + 1, acc, cs =>
    match skipBlanks cs with
    | .char '"' :: rest =>
      match string? raw (rest.length + 1) [] rest with
      | none => none
      | some (key, after) =>
        match skipBlanks after with
        | .char ':' :: more =>
          match valueWith? raw fuel more with
          | none => none
          | some (v, after) =>
            match skipBlanks after with
            | .char ',' :: rest => membersWith? raw fuel ((key, v) :: acc) rest
            | .char '\x7d' :: rest => some (((key, v) :: acc).reverse, rest)
            | _ => none
        | _ => none
    | _ => none

end

/-- Reads a value at the front of a text and returns what follows it.
With `raw`, strings may hold control characters. -/
def value? (raw : Bool) (cs : List Symbol) : Option (Document × List Symbol) :=
  valueWith? raw (cs.length + 1) cs

/-- Reads a text that is one value. -/
def read? (raw : Bool) (text : Bytes) : Option Document :=
  match value? raw (Utf8.symbols text) with
  | some (v, rest) => if (skipBlanks rest).isEmpty then some v else none
  | none => none

end Document

end ObjectBridge.Json

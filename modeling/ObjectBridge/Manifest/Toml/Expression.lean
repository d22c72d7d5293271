import ObjectBridge.Data.Json
import ObjectBridge.Manifest.Refusal

/-!
# `ObjectBridge.Manifest.Toml.Expression`: the lines of a TOML document

A document is a sequence of expressions, each on a line of its own:
assignments, and headers that open a table or a further element of a list
of tables. `Toml.expression?` reads the first one and gives what follows
it; the end of its line is for the next one to find.
-/

set_option autoImplicit false

namespace ObjectBridge.Manifest.Toml

/-- A value. Numbers and truth values are told apart from the others, but
not from each other. -/
inductive Value
  | text (s : String)
  | number
  | moment (kind : MomentKind) (text : List Char)
  | list (items : List Value)
  /-- Assignments in braces. -/
  | table (members : List (List String × Value))

/-- A dotted key has at least one part. -/
abbrev Key := List String

/-- What a line says. -/
inductive Expression
  | assign (key : Key) (value : Value)
  | table (key : Key)
  | element (key : Key)

/-! ### Tokens -/

/-- Blanks within a line. -/
def skipBlanks (cs : List Char) : List Char := cs.dropWhile fun c => c = ' ' || c = '\t'

/-- A line end at the front. -/
def newline? : List Char → Option (List Char)
  | '\n' :: rest => some rest
  | '\r' :: '\n' :: rest => some rest
  | _ => none

/-- Characters that may not stand in comments and texts. -/
def isControl (c : Char) : Bool := (c.toNat < 0x20 && c ≠ '\t') || c.toNat = 0x7F

/-- What follows a comment, if one starts here. -/
def comment? : List Char → Option (List Char)
  | '#' :: rest =>
    let body := rest.takeWhile fun c => c ≠ '\n'
    let body := if body.getLast? = some '\r' then body.dropLast else body
    if body.any isControl then none else some (rest.drop body.length)
  | cs => some cs

/-- Blanks, comments and line ends. -/
def skipLines : (fuel : Nat) → List Char → Option (List Char)
  | 0, _ => none
  | fuel + 1, cs =>
    match comment? (skipBlanks cs) with
    | none => none
    | some after =>
      match newline? after with
      | some rest => skipLines fuel rest
      | none => some after

/-- The scalar value of hexadecimal digits. -/
def codePoint? (digits : List Char) : Option Char := do
  let values ← digits.mapM Json.hexDigit?
  let n := values.foldl (fun n d => n * 16 + d) 0
  if n < 0xD800 ∨ (0xDFFF < n ∧ n ≤ 0x10FFFF) then some (Char.ofNat n) else none

/-- The character of an escape, given what follows the backslash. -/
def escape? : List Char → Option (Char × List Char)
  | 'u' :: rest => if rest.length < 4 then none else (codePoint? (rest.take 4)).map fun c =>
  (c, rest.drop 4)
  | 'U' :: rest => if rest.length < 8 then none else (codePoint? (rest.take 8)).map fun c =>
    (c, rest.drop 8)
  | 'b' :: rest => some (Char.ofNat 8, rest)
  | 't' :: rest => some ('\t', rest)
  | 'n' :: rest => some ('\n', rest)
  | 'f' :: rest => some (Char.ofNat 12, rest)
  | 'r' :: rest => some ('\r', rest)
  | 'e' :: rest => some (Char.ofNat 27, rest)
  | '"' :: rest => some ('"', rest)
  | '\\' :: rest => some ('\\', rest)
  | _ => none

/-- A one-line text after its opening double quote. -/
def basic? : (fuel : Nat) → (acc : List Char) → List Char → Option (String × List Char)
  | 0, _, _ => none
  | fuel + 1, acc, cs =>
    match cs with
    | [] => none
    | '"' :: rest => some (String.ofList acc.reverse, rest)
    | '\\' :: rest =>
      match escape? rest with
      | none => none
      | some (c, after) => basic? fuel (c :: acc) after
    | c :: rest => if isControl c then none else basic? fuel (c :: acc) rest

/-- A one-line text after its opening single quote. -/
def literal? (cs : List Char) : Option (String × List Char) :=
  let body := cs.takeWhile (· ≠ '\'')
  match cs.drop body.length with
  | _ :: rest => if body.any isControl then none else some (String.ofList body, rest)
  | [] => none

/-- Blanks and line ends, as a backslash at a line's end skips them. -/
def skipAllBlanks (cs : List Char) : List Char :=
  cs.dropWhile fun c => c = ' ' || c = '\t' || c = '\n' || c = '\r'

/-- A text of several lines after its three opening quotes. Up to two
quotes may stand right before the closing three. -/
def long? (quote : Char) (escapes : Bool) :
    (fuel : Nat) → (acc : List Char) → List Char → Option (String × List Char)
  | 0, _, _ => none
  | fuel + 1, acc, cs =>
    match cs with
    | [] => none
    | c :: rest =>
      if c = quote then
        let run := (cs.takeWhile (· = quote)).length
        if run < 3 then long? quote escapes fuel (List.replicate run quote ++ acc) (cs.drop run)
        else if 5 < run then none
        else some (String.ofList (acc.reverse ++ List.replicate (run - 3) quote), cs.drop run)
      else if c = '\\' ∧ escapes then
        if (newline? (skipBlanks rest)).isSome then
          long? quote escapes fuel acc (skipAllBlanks rest)
        else
          match escape? rest with
          | none => none
          | some (c, after) => long? quote escapes fuel (c :: acc) after
      else
        match newline? cs with
        | some after =>
          long? quote escapes fuel ((if c = '\r' then ['\n', '\r'] else ['\n']) ++ acc) after
        | none => if isControl c then none else long? quote escapes fuel (c :: acc) rest

/-- A text of any of the four kinds at the front. -/
def text? (cs : List Char) : Option (String × List Char) :=
  let start (after : List Char) := (newline? after).getD after
  match cs with
  | '"' :: '"' :: '"' :: rest => long? '"' true (rest.length + 1) [] (start rest)
  | '\'' :: '\'' :: '\'' :: rest => long? '\'' false (rest.length + 1) [] (start rest)
  | '"' :: rest => basic? (rest.length + 1) [] rest
  | '\'' :: rest => literal? rest
  | _ => none

/-- Characters of keys without quotes. -/
def isBare (c : Char) : Bool := c.isAlphanum || c = '_' || c = '-'

/-- One part of a key. -/
def keyPart? (cs : List Char) : Option (String × List Char) :=
  match cs with
  | '"' :: rest => basic? (rest.length + 1) [] rest
  | '\'' :: rest => literal? rest
  | _ =>
    let part := cs.takeWhile isBare
    if part = [] then none else some (String.ofList part, cs.drop part.length)

/-- A dotted key. -/
def key? : (fuel : Nat) → (acc : List String) → List Char → Option (Key × List Char)
  | 0, _, _ => none
  | fuel + 1, acc, cs =>
    match keyPart? (skipBlanks cs) with
    | none => none
    | some (part, after) =>
      match skipBlanks after with
      | '.' :: rest => key? fuel (part :: acc) rest
      | rest => some ((part :: acc).reverse, rest)

/-! ### Dates, times and numbers -/

/-- What the characters of a date or time say about it. -/
structure Signs where
  date : Bool := false
  time : Bool := false
  zone : Bool := false
  /-- Has a blank been read? -/
  blank : Bool := false

/-- The kind of moment that has these signs. -/
def Signs.kind (s : Signs) : MomentKind :=
  if !s.time then .date else if !s.date then .time else if s.zone then .instant else .dateTime

/-- Reads a date or time, of which `done` is read already, in reverse. One
blank may stand in it if a digit follows. -/
def moment : (fuel : Nat) → Signs → (done : List Char) → List Char → Value × List Char
  | 0, signs, done, cs => (.moment signs.kind done.reverse, cs)
  | fuel + 1, signs, done, cs =>
    let stop := (Value.moment signs.kind done.reverse, cs)
    match cs with
    | [] => stop
    | c :: rest =>
      if c.isDigit then moment fuel signs (c :: done) rest
      else if c = '-' then
        -- Behind the date it belongs to the zone.
        moment fuel { signs with date := true, zone := signs.zone || 8 ≤ done.length }
          (c :: done) rest
      else if c = 'T' || c = 't' || c = ':' || c = '.' then
        moment fuel { signs with time := true } (c :: done) rest
      else if c = '+' || c = 'Z' || c = 'z' then
        moment fuel { signs with zone := true } (c :: done) rest
      else if c = ' ' && !signs.blank then
        match rest with
        | d :: e :: more =>
          -- The character after the digit is not looked at.
          if d.isDigit then moment fuel { signs with blank := true, time := true }
            (e :: d :: c :: done) more else stop
        | [d] => if d.isDigit then (.moment { signs with time := true }.kind (c :: done).reverse,
          [d]) else stop
        | [] => stop
      else stop

/-- What follows a number that is not written in decimals, or begins with
a zero. -/
def afterZero (cs : List Char) : List Char :=
  let digits (valid : Char → Bool) : List Char := (cs.drop 2).dropWhile fun c => valid c || c = '_'
  match cs[1]? with
  | some 'x' => digits fun c => (Json.hexDigit? c).isSome
  | some 'o' => digits fun c => '0' ≤ c && c ≤ '7'
  | some 'b' => digits fun c => c = '0' || c = '1'
  | _ => cs.drop 1

/-- What follows a number. -/
def afterNumber? : (started : Bool) → List Char → Option (List Char)
  | started, [] => if started then some [] else none
  | started, c :: rest =>
    if c.isDigit || c = '+' || c = '-' || c = '_' || c = '.' || c = 'e' ||
      c = 'E' then afterNumber? true rest
    else if c = 'i' then if "nf".toList.isPrefixOf rest then some (rest.drop 2) else none
    else if c = 'n' then if "an".toList.isPrefixOf rest then some (rest.drop 2) else none
    else if started then some (c :: rest)
    else none

/-- Do the first characters belong to a date or time? -/
def beginsMoment (cs : List Char) : Bool :=
  let front := cs.take 5
  let digits := (front.takeWhile Char.isDigit).length
  3 ≤ cs.length
    && ((digits = 2 && front[2]? = some ':') || (digits = 4 && front[4]? = some '-'))

/-- A number, date or time at the front. -/
def scalar? (cs : List Char) : Option (Value × List Char) :=
  if beginsMoment cs then some (moment (cs.length + 1) {} [] cs)
  else
    match cs with
    | '0' :: c :: _ :: _ =>
      if c ≠ '.' && c ≠ 'e' && c ≠ 'E' then some (.number, afterZero cs)
      else (afterNumber? false cs).map (.number, ·)
    | cs => (afterNumber? false cs).map (.number, ·)

/-! ### Values and expressions -/

/-- Removes a word from the front. -/
def word? (word : String) (cs : List Char) : Option (List Char) :=
  if word.toList.isPrefixOf cs then some (cs.drop word.length) else none

mutual

/-- A value at the front. -/
def value? : (fuel : Nat) → List Char → Option (Value × List Char)
  | 0, _ => none
  | fuel + 1, cs =>
    match cs with
    | '[' :: rest => (items? fuel [] rest).map fun (items, after) => (.list items, after)
    | '\x7b' :: rest =>
      match skipBlanks rest with
      | '\x7d' :: after => some (.table [], after)
      | inner => (members? fuel [] inner).map fun (members, after) => (.table members, after)
    | '"' :: _ | '\'' :: _ => (text? cs).map fun (s, after) => (.text s, after)
    | 't' :: _ => (word? "true" cs).map (.number, ·)
    | 'f' :: _ => (word? "false" cs).map (.number, ·)
    | _ => scalar? cs

/-- The items of a list up to its end; a comma may follow the last. -/
def items? : (fuel : Nat) → (acc : List Value) → List Char → Option (List Value × List Char)
  | 0, _, _ => none
  | fuel + 1, acc, cs =>
    match skipLines (cs.length + 1) cs with
    | none => none
    | some (']' :: rest) => some (acc.reverse, rest)
    | some start =>
      match value? fuel start with
      | none => none
      | some (item, after) =>
        match skipLines (after.length + 1) after with
        | some (',' :: rest) => items? fuel (item :: acc) rest
        | some (']' :: rest) => some ((item :: acc).reverse, rest)
        | _ => none

/-- The assignments of a table in braces up to its end. -/
def members? : (fuel : Nat) → (acc : List (Key × Value)) → List Char →
  Option (List (Key × Value) × List Char)
  | 0, _, _ => none
  | fuel + 1, acc, cs =>
    match key? (cs.length + 1) [] cs with
    | some (key, '=' :: rest) =>
      match value? fuel (skipBlanks rest) with
      | none => none
      | some (value, after) =>
        match skipBlanks after with
        | ',' :: rest => members? fuel ((key, value) :: acc) rest
        | '\x7d' :: rest => some (((key, value) :: acc).reverse, rest)
        | _ => none
    | _ => none

end

/-- The first expression, without blanks before it, and what follows it
on its line, comments apart. -/
def expression? (cs : List Char) : Option (Expression × List Char) := do
  let (e, after) ← match cs with
    | '[' :: '[' :: rest =>
      match key? (rest.length + 1) [] rest with
      | some (key, ']' :: ']' :: after) => some (Expression.element key, after)
      | _ => none
    | '[' :: rest =>
      match key? (rest.length + 1) [] rest with
      | some (key, ']' :: after) => some (.table key, after)
      | _ => none
    | cs =>
      match key? (cs.length + 1) [] cs with
      | some (key, '=' :: rest) =>
        (value? (rest.length + 1) (skipBlanks rest)).map fun (v, after) => (.assign key v, after)
      | _ => none
  return (e, ← comment? (skipBlanks after))

end ObjectBridge.Manifest.Toml

/-!
# `ObjectBridge.Files.Glob.Pattern`: patterns and the names that match them

`*` and `?` stay within a name, `[…]` is one character of a class, and a
part `**` stands for a directory and everything below it. Braces list
alternatives. A backslash takes away the meaning of the character after
it.
-/

set_option autoImplicit false

namespace ObjectBridge.Glob

/-! ### Well-formed patterns -/

/-- What follows the closing bracket of a class; `none` when there is
none. -/
def afterClass? : List Char → Option (List Char)
  | [] => none
  | ']' :: rest => some rest
  | '\\' :: _ :: rest => afterClass? rest
  | _ :: rest => afterClass? rest

/-- Is the class that begins with this empty, or at its end? -/
def isEmptyClass : List Char → Bool
  | [] => true
  | ']' :: _ => true
  | _ => false

/-- The characters of a class after its mark of negation, and whether it
has one. -/
def classBody : List Char → Bool × List Char
  | '^' :: rest => (true, rest)
  | '!' :: rest => (true, rest)
  | rest => (false, rest)

/-- Are brackets and braces closed, and does no backslash stand last?
`depth` braces are open. -/
def wellFormed : (fuel : Nat) → (depth : Nat) → List Char → Bool
  | 0, _, _ => false
  | _ + 1, depth, [] => depth = 0
  | fuel + 1, depth, c :: rest =>
    if c = '\\' then
      match rest with
      | [] => false
      | _ :: after => wellFormed fuel depth after
    else if c = '[' then
      let body := (classBody rest).2
      match if isEmptyClass body then none else afterClass? body with
      | none => false
      | some after => wellFormed fuel depth after
    else if c = '\x7b' then wellFormed fuel (depth + 1) rest
    else if c = '\x7d' then depth ≠ 0 && wellFormed fuel (depth - 1) rest
    else wellFormed fuel depth rest

/-- Is this a pattern? -/
def isPattern (cs : List Char) : Bool := wellFormed (cs.length + 1) 0 cs

/-! ### Places in a pattern -/

/-- Does a character have a meaning of its own? -/
def isMeta (c : Char) : Bool := c = '*' || c = '?' || c = '[' || c = '\x7b'

/-- The place of the first character with a meaning. -/
def firstMeta? : (place : Nat) → List Char → Option Nat
  | _, [] => none
  | place, '\\' :: _ :: rest => firstMeta? (place + 2) rest
  | place, c :: rest => if isMeta c then some place else firstMeta? (place + 1) rest

/-- The place of the last of some characters that does not follow a
backslash. -/
def lastOf? (wanted : Char → Bool) (cs : List Char) : Option Nat :=
  let free (i : Nat) : Bool := i = 0 || cs[i - 1]? ≠ some '\\'
  (List.range cs.length).reverse.find? fun i => (cs[i]?.map wanted).getD false && free i

/-- The place of the brace that a closing brace after the text belongs
to, given the text from its end. -/
def openingFrom? : (depth : Nat) → List Char → Option Nat
  | _, [] => none
  | depth, c :: rest =>
    let free := rest.head? ≠ some '\\'
    if c = '\x7d' && free then openingFrom? (depth + 1) rest
    else if c = '\x7b' && free then
      match depth with
      | 0 => some rest.length
      | d + 1 => openingFrom? d rest
    else openingFrom? depth rest

/-- The place of the brace that a closing brace after the text belongs
to. -/
def opening? (cs : List Char) : Option Nat := openingFrom? 0 cs.reverse

/-- The place of the closing brace that belongs to an opening one before
the text. -/
def closing? : (depth place : Nat) → List Char → Option Nat
  | _, _, [] => none
  | depth, place, '\\' :: _ :: rest => closing? depth (place + 2) rest
  | depth, place, '\x7b' :: rest => closing? (depth + 1) (place + 1) rest
  | depth, place, '\x7d' :: rest =>
    match depth with
    | 0 => some place
    | d + 1 => closing? d (place + 1) rest
  | depth, place, _ :: rest => closing? depth (place + 1) rest

/-- The first alternative, and the others if a comma follows. Commas in
braces of their own do not count. -/
def cutAlternative : (depth : Int) → (front : List Char) → List Char →
    List Char × Option (List Char)
  | _, front, [] => (front.reverse, none)
  | depth, front, '\\' :: c :: rest => cutAlternative depth (c :: '\\' :: front) rest
  | depth, front, c :: rest =>
    if c = ',' && depth = 0 then (front.reverse, some rest)
    else
      let depth := if c = '\x7b' then depth + 1 else if c = '\x7d' then depth - 1 else depth
      cutAlternative depth (c :: front) rest

/-- All alternatives. -/
def alternatives : (fuel : Nat) → List Char → List (List Char)
  | 0, _ => []
  | fuel + 1, cs =>
    match cutAlternative 0 [] cs with
    | (alternative, none) => [alternative]
    | (alternative, some rest) => alternative :: alternatives fuel rest

/-- The path that a pattern without meaning stands for. -/
def unescape : List Char → List Char
  | [] => []
  | '\\' :: c :: rest =>
    if isMeta c || c = ']' || c = '\x7d' then c :: unescape rest else '\\' :: unescape (c :: rest)
  | c :: rest => c :: unescape rest
termination_by cs => cs.length

/-- Do two stars stand in a pattern with more than one byte after them? -/
def spans : List Char → Bool
  | [] => false
  | '\\' :: _ :: rest => spans rest
  | c :: rest =>
    (c = '*' && rest.head? = some '*' && 2 ≤ (String.ofList rest.tail).utf8ByteSize) || spans rest

/-! ### Names that match a pattern

Where the answer is `none`, what was compared is no pattern. That is only
found out when a name gets as far as the place where the pattern is
broken: a pattern that a name does not match is not looked at any further.
-/

/-- The character that follows a backslash. -/
def escaped : List Char → Char × List Char
  | [] => ('\uFFFD', [])
  | c :: rest => (c, rest)

/-- Looks for a character in a class, up to its end, and gives the rest of
the class. `last` is the character before, if a range may begin with
it. -/
def scanClass (n : Char) : (fuel : Nat) → (last : Option Char) → List Char → Bool × List Char
  | 0, _, cs => (false, cs)
  | _ + 1, _, [] => (false, [])
  | fuel + 1, last, c :: rest =>
    if c = ']' then (false, c :: rest)
    else
      match last, isEmptyClass rest with
      | some low, false =>
        if c = '-' then
          let (high, rest) := match rest with
            | '\\' :: more => escaped more
            | rest => escaped rest
          if low ≤ n && n ≤ high then (true, rest) else scanClass n fuel none rest
        else
          let (c, rest) := if c = '\\' then escaped rest else (c, rest)
          if c = n then (true, rest) else scanClass n fuel (some c) rest
      | _, _ =>
        let (c, rest) := if c = '\\' then escaped rest else (c, rest)
        if c = n then (true, rest) else scanClass n fuel (some c) rest

/-- What follows a class that has a character in it, or nothing when it
has not. -/
def matchClass (cs : List Char) (n : Char) : Option (Option (List Char)) :=
  let (negated, body) := classBody cs
  if isEmptyClass body then none
  else
    let (found, rest) := scanClass n (body.length + 1) none body
    if found = negated then
      if rest = [] then none else some none
    else (afterClass? rest).map some

/-- Does a pattern match no characters at all? -/
def matchesNothing : (fuel : Nat) → List Char → Option Bool
  | 0, _ => some false
  | fuel + 1, pat =>
    if pat = [] || pat = "*".toList || pat = "**".toList || pat = "/**".toList || pat = "**/".toList
      || pat = "/**/".toList then some true
    else
      match pat with
      | '\x7b' :: rest =>
        match closing? 0 0 rest with
        | none => none
        | some place =>
          let after := rest.drop (place + 1)
          (alternatives (rest.length + 1) (rest.take place)).foldl (fun found alternative =>
            match found with
            | some false => matchesNothing fuel (alternative ++ after)
            | found => found) (some false)
      | _ => some false

/-- Does a name match a pattern? `star` is the pattern after the last star
and the name from there on: when nothing else helps, the star takes one
more character. -/
def matchName : (fuel : Nat) → (star : Option (List Char × List Char)) →
    (pat name : List Char) → Option Bool
  | 0, _, _, _ => some false
  | fuel + 1, _, pat, [] => matchesNothing fuel pat
  | fuel + 1, star, pat, n :: ns =>
    let retry : Option Bool := match star with
      | some (p, _ :: rest) => matchName fuel (some (p, rest)) p rest
      | _ => some false
    match pat with
    | [] => retry
    | '*' :: '*' :: p => matchName fuel (some (p, n :: ns)) p (n :: ns)
    | '*' :: p => matchName fuel (some (p, n :: ns)) p (n :: ns)
    | '?' :: p => matchName fuel star p ns
    | '[' :: p =>
      match matchClass p n with
      | none => none
      | some none => retry
      | some (some after) => matchName fuel star after ns
    | '\x7b' :: p =>
      match closing? 0 0 p with
      | none => none
      | some place =>
        let after := p.drop (place + 1)
        (alternatives (p.length + 1) (p.take place)).foldl (fun found alternative =>
          match found with
          | some false =>
            let inner := alternative ++ after
            let star := star.map fun (q, name) => (q.take (q.length - pat.length) ++ inner, name)
            matchName fuel star inner (n :: ns)
          | found => found) (some false)
    | '\\' :: p =>
      match p with
      | [] => none
      | c :: p => if c = n then matchName fuel star p ns else retry
    | c :: p => if c = n then matchName fuel star p ns else retry

/-- Does a name match a pattern? -/
def matches_ (pat : List Char) (name : String) : Option Bool :=
  let cs := name.toList
  matchName ((pat.length + 2) * (cs.length + 2) + pat.length) none pat cs

end ObjectBridge.Glob

import ObjectBridge.Script.Completion
import ObjectBridge.Script.Token
import ObjectBridge.Decimal.Notation

/-!
# `ObjectBridge.Script.Parser`: from words to programs

A parser reads from the front of the remaining words. Every parser takes
a bound on its nesting, which the number of words determines, so all of
them end.

A statement ends at a semicolon, before a closing brace, at the end of
the text, or at a line break.
-/

set_option autoImplicit false

namespace ObjectBridge.Script

/-- What a parser sees: the remaining words, and what surrounds them. -/
structure ParserState where
  rest : List Lexeme
  /-- The text after the last word read. -/
  after : List Char := []
  /-- Is a function body being read? -/
  inFunction : Bool := false
  /-- Is a loop body being read? -/
  inLoop : Bool := false
  /-- Are the cases of a `switch` being read? -/
  inSwitch : Bool := false
  /-- The labels around, and whether they are labels of loops. -/
  labels : List (String × Bool) := []
  /-- Does the word `in` end an expression? -/
  noIn : Bool := false
  strict : Bool := false
  /-- Did the function being read mention its arguments as a whole? -/
  sawArguments : Bool := false

/-- A parser may fail. -/
abbrev Parser := StateT ParserState Option

namespace Parser

def fail {α : Type} : Parser α := fun _ => none

/-- Fails unless something holds. -/
def need (b : Bool) : Parser Unit := if b then return () else fail

/-- The next word, left in place. -/
def peek : Parser (Option Token) := do return (← get).rest.head?.map (·.token)

/-- The word after the next one. -/
def peekSecond : Parser (Option Token) := do return ((← get).rest.drop 1).head?.map (·.token)

/-- The text from the next word on. -/
def place : Parser (List Char) := do return ((← get).rest.head?.map (·.here)).getD []

/-- Takes the next word. -/
def next : Parser Token := do
  let s ← get
  match s.rest with
  | [] => fail
  | l :: rest =>
    set { s with rest, after := l.after }
    return l.token

def isMark (t : Option Token) (m : String) : Bool :=
  match t with
  | some (.mark s) => s = m
  | _ => false

def isWord (t : Option Token) (w : String) : Bool :=
  match t with
  | some (.word s false) => s = w
  | _ => false

/-- Takes the next word if it is the given mark. -/
def accept (m : String) : Parser Bool := do
  if isMark (← peek) m then
    let _ ← next
    return true
  else return false

/-- Takes the next word if it is the given one. -/
def acceptWord (w : String) : Parser Bool := do
  if isWord (← peek) w then
    let _ ← next
    return true
  else return false

def expect (m : String) : Parser Unit := do need (← accept m)

/-- Does a line break or the end of the text come next? -/
def atBreak : Parser Bool := do
  match (← get).rest with
  | [] => return true
  | l :: _ => return l.newLine

/-- Words that are no names. -/
def reserved : List String :=
  ["break", "case", "catch", "class", "const", "continue", "debugger", "default", "delete", "do",
    "else", "enum", "export", "extends", "false", "finally", "for", "function", "if", "import",
    "in", "instanceof", "new", "null", "return", "super", "switch", "this", "throw", "true", "try",
    "typeof", "var", "void", "while", "with"]

/-- Further words that are no names in strict code. -/
def strictReserved : List String :=
  ["implements", "interface", "let", "package", "private", "protected", "public", "static", "yield"]

/-- Names that strict code may not bind. -/
def strictUnbound : List String := ["eval", "arguments"]

/-- May a word be used as a name? -/
def isName (strict : Bool) (w : String) : Bool :=
  w ∉ reserved && !(strict && w ∈ strictReserved)

/-- A name that is used. -/
def usedName (w : String) : Parser String := do
  need (isName (← get).strict w)
  if w = "arguments" then modify fun s => { s with sawArguments := true }
  return w

/-- A name that is bound. -/
def name : Parser String := do
  match ← next with
  | .word w _ =>
    let strict := (← get).strict
    need (isName strict w && !(strict && w ∈ strictUnbound))
    return w
  | _ => fail

/-- The end of a statement. -/
def semicolon : Parser Unit := do
  if ← accept ";" then return ()
  match (← get).rest with
  | [] => return ()
  | l :: _ => need (l.newLine || isMark (some l.token) "\x7d")

/-- Reads with another meaning of `in`. -/
def withIn {α : Type} (noIn : Bool) (p : Parser α) : Parser α := do
  let outer := (← get).noIn
  modify fun s => { s with noIn }
  let x ← p
  modify fun s => { s with noIn := outer }
  return x

/-- Operators between two operands and how tightly they bind. -/
def binaryOp? (noIn : Bool) (t : Option Token) : Option (Nat × (BinaryOp ⊕ LogicalOp)) :=
  match t with
  | some (.mark "??") => some (1, .inr .coalesce)
  | some (.mark "||") => some (2, .inr .or)
  | some (.mark "&&") => some (3, .inr .and)
  | some (.mark "|") => some (4, .inl .bitOr)
  | some (.mark "^") => some (5, .inl .bitXor)
  | some (.mark "&") => some (6, .inl .bitAnd)
  | some (.mark "===") => some (7, .inl .strictEq)
  | some (.mark "!==") => some (7, .inl .strictNe)
  | some (.mark "==") => some (7, .inl .looseEq)
  | some (.mark "!=") => some (7, .inl .looseNe)
  | some (.mark "<") => some (8, .inl .less)
  | some (.mark ">") => some (8, .inl .greater)
  | some (.mark "<=") => some (8, .inl .lessEq)
  | some (.mark ">=") => some (8, .inl .greaterEq)
  | some (.word "in" false) => if noIn then none else some (8, .inl .isIn)
  | some (.word "instanceof" false) => some (8, .inl .instanceOf)
  | some (.mark "<<") => some (9, .inl .shiftLeft)
  | some (.mark ">>") => some (9, .inl .shiftRight)
  | some (.mark ">>>") => some (9, .inl .shiftRightZero)
  | some (.mark "+") => some (10, .inl .add)
  | some (.mark "-") => some (10, .inl .sub)
  | some (.mark "*") => some (11, .inl .mul)
  | some (.mark "/") => some (11, .inl .div)
  | some (.mark "%") => some (11, .inl .rem)
  | _ => none

/-- Operators that assign. -/
def assignOp? (t : Option Token) : Option (Option BinaryOp) :=
  match t with
  | some (.mark "=") => some none
  | some (.mark "+=") => some (some .add)
  | some (.mark "-=") => some (some .sub)
  | some (.mark "*=") => some (some .mul)
  | some (.mark "/=") => some (some .div)
  | some (.mark "%=") => some (some .rem)
  | some (.mark "**=") => some (some .pow)
  | some (.mark "&=") => some (some .bitAnd)
  | some (.mark "|=") => some (some .bitOr)
  | some (.mark "^=") => some (some .bitXor)
  | some (.mark "<<=") => some (some .shiftLeft)
  | some (.mark ">>=") => some (some .shiftRight)
  | some (.mark ">>>=") => some (some .shiftRightZero)
  | _ => none

/-- Operators in front of an operand. -/
def unaryOp? (t : Option Token) : Option UnaryOp :=
  match t with
  | some (.mark "-") => some .minus
  | some (.mark "+") => some .plus
  | some (.mark "!") => some .not
  | some (.mark "~") => some .bitNot
  | some (.word "typeof" false) => some .typeOf
  | some (.word "void" false) => some .void
  | _ => none

/-- Operators that count a target up or down. -/
def countOp? (t : Option Token) : Option Int :=
  match t with
  | some (.mark "++") => some 1
  | some (.mark "--") => some (-1)
  | _ => none

/-- Fails unless an expression may be assigned to. -/
def target (e : Expr) : Parser Unit := do
  match e with
  | .ident n => need !((← get).strict && n ∈ strictUnbound)
  | .member _ _ => return ()
  | .index _ _ => return ()
  | _ => fail

/-- Gives a function without a name the name of what it is stored in. -/
def named (name : String) : Expr → Expr
  | .function (.mk head functions body) =>
    .function (.mk (if head.name = "" then { head with name } else head) functions body)
  | e => e

/-- The variables of a call: parameters, of which the last of one name
counts, declared variables and functions, and the arguments as a whole if
they are used. -/
def localsOf (params : List String) (functions : List (String × Function)) (body : List Stmt)
    (usesArguments : Bool) :
    List (String × Option Nat) :=
  let others := variablesOf body ++ functions.map Prod.fst ++
      (if usesArguments then ["arguments"] else [])
  let names := (params ++ others).eraseDups
  names.map fun n => (n, (params.zipIdx.filter (·.1 = n)).getLast?.map (·.2))

/-- May the parameters have these names in strict code? -/
def strictParams (params : List String) : Bool :=
  params.eraseDups.length = params.length && params.all fun p => p ∉ strictUnbound &&
    p ∉ strictReserved

/-- Is the statement, whose first word is given, a note that asks for
strict code? -/
def asksStrict (first : Option Token) (s : Stmt) : Bool :=
  match first, s with
  | some (.string (.plain t) true), .expr (.string _) _ => t = "use strict"
  | _, _ => false

/-- Is the statement a text that stands alone? -/
def isNote : Stmt → Bool
  | .expr (.string _) _ => true
  | _ => false

/-- The key of a member. -/
def wordKey? : Token → Option Key.Written
  | .word w _ => some (.ofName w)
  | .string t _ => some (.ofText t)
  | .number n _ => some (.ofString (Decimal.writeScript n))
  | .bigint n => some (.ofString (toString n))
  | .mark _ => none

mutual

/-- An expression with commas. -/
def expr (fuel : Nat) : Parser Expr :=
  match fuel with
  | 0 => fail
  | fuel + 1 => do
    let first ← assignment fuel
    exprRest fuel first

/-- The further parts of an expression with commas. -/
def exprRest (fuel : Nat) (first : Expr) : Parser Expr :=
  match fuel with
  | 0 => fail
  | fuel + 1 => do
    if ← accept "," then
      let second ← assignment fuel
      exprRest fuel (.sequence first second)
    else return first

/-- An expression without commas. -/
def assignment (fuel : Nat) : Parser Expr :=
  match fuel with
  | 0 => fail
  | fuel + 1 => do
    let left ← conditional fuel
    match assignOp? (← peek) with
    | none => return left
    | some op =>
      target left
      let _ ← next
      let value ← assignment fuel
      match left, op with
      | .ident n, none => return .assign left op (named n value)
      | _, _ => return .assign left op value

/-- An expression with a test, or below. -/
def conditional (fuel : Nat) : Parser Expr :=
  match fuel with
  | 0 => fail
  | fuel + 1 => do
    let test ← binary fuel 1
    if ← accept "?" then
      let yes ← withIn false (assignment fuel)
      expect ":"
      let no ← assignment fuel
      return .conditional test yes no
    else return test

/-- Operands joined by operators that bind at least as tightly as
`level`. -/
def binary (fuel : Nat) (level : Nat) : Parser Expr :=
  match fuel with
  | 0 => fail
  | fuel + 1 => do
    let left ← unary fuel
    binaryRest fuel level left

/-- The further operands. -/
def binaryRest (fuel : Nat) (level : Nat) (left : Expr) : Parser Expr :=
  match fuel with
  | 0 => fail
  | fuel + 1 => do
    match binaryOp? (← get).noIn (← peek) with
    | none => return left
    | some (tightness, op) =>
      if tightness < level then return left
      else
        let _ ← next
        let right ← binary fuel (tightness + 1)
        let joined := match op with
          | .inl op => Expr.binary op left right
          | .inr op => Expr.logical op left right
        binaryRest fuel level joined

/-- An operand with the operators in front of it. -/
def unary (fuel : Nat) : Parser Expr :=
  match fuel with
  | 0 => fail
  | fuel + 1 => do
    match unaryOp? (← peek), countOp? (← peek), isWord (← peek) "delete" with
    | some op, _, _ =>
      let _ ← next
      let e ← unary fuel
      need !isMark (← peek) "**"
      return .unary op e
    | _, some delta, _ =>
      let _ ← next
      let e ← unary fuel
      target e
      return .update true delta e
    | _, _, true =>
      let _ ← next
      let e ← unary fuel
      match e with
      | .ident _ => need !(← get).strict
      | _ => pure ()
      need !isMark (← peek) "**"
      return .delete e
    | _, _, _ =>
      let e ← postfixed fuel
      if ← accept "**" then return .binary .pow e (← unary fuel)
      else return e

/-- An operand with what stands behind it. -/
def postfixed (fuel : Nat) : Parser Expr :=
  match fuel with
  | 0 => fail
  | fuel + 1 => do
    let e ← if isWord (← peek) "new" then newExpr fuel else primary fuel
    let e ← suffixes fuel true e
    match countOp? (← peek) with
    | some delta =>
      if ← atBreak then return e
      let _ ← next
      target e
      return .update false delta e
    | none => return e

/-- An expression that starts with `new`. -/
def newExpr (fuel : Nat) : Parser Expr :=
  match fuel with
  | 0 => fail
  | fuel + 1 => do
    let _ ← next
    let callee ← if isWord (← peek) "new" then newExpr fuel else primary fuel
    let callee ← suffixes fuel false callee
    if ← accept "(" then
      let args ← withIn false (arguments fuel [])
      return .new callee args
    else return .new callee []

/-- Members, indexes and, when allowed, calls behind an operand. -/
def suffixes (fuel : Nat) (calls : Bool) (e : Expr) : Parser Expr :=
  match fuel with
  | 0 => fail
  | fuel + 1 => do
    match ← peek with
    | some (.mark ".") => do
      let _ ← next
      match ← next with
      | .word key _ => suffixes fuel calls (.member e (.ofName key))
      | _ => fail
    | some (.mark "[") => do
      let _ ← next
      let key ← withIn false (expr fuel)
      expect "]"
      suffixes fuel calls (.index e key)
    | some (.mark "(") =>
      if calls then do
        let _ ← next
        let args ← withIn false (arguments fuel [])
        suffixes fuel calls (.call e args)
      else return e
    | _ => return e

/-- Arguments up to the closing bracket. -/
def arguments (fuel : Nat) (acc : List Expr) : Parser (List Expr) :=
  match fuel with
  | 0 => fail
  | fuel + 1 => do
    if ← accept ")" then return acc.reverse
    let arg ← assignment fuel
    if ← accept "," then arguments fuel (arg :: acc)
    else
      expect ")"
      return (arg :: acc).reverse

/-- The smallest expressions. -/
def primary (fuel : Nat) : Parser Expr :=
  match fuel with
  | 0 => fail
  | fuel + 1 => do
    let start ← place
    match ← next with
    | .number n octal =>
      need !(octal && (← get).strict)
      return .number n
    | .bigint n => return .bigint n
    | .string t _ => return .string t
    | .word "true" false => return .bool true
    | .word "false" false => return .bool false
    | .word "null" false => return .null
    | .word "this" false => return .this
    | .word "function" false => do
      match ← peek with
      | some (.word _ _) =>
        let fname ← name
        return .function (← functionRest fuel { name := fname, seesItself := true } start)
      | _ => return .function (← functionRest fuel {} start)
    | .word w _ => return .ident (← usedName w)
    | .mark "(" => do
      let e ← withIn false (expr fuel)
      expect ")"
      return e
    | .mark "[" => return .array (← withIn false (items fuel []))
    | .mark "\x7b" => do
      let ms ← withIn false (members fuel [])
      let protos := ms.filter fun
        | .named _ .proto _ => true
        | _ => false
      need (protos.length ≤ 1)
      return .object ms
    | _ => fail

/-- The items of an array literal. -/
def items (fuel : Nat) (acc : List (Option Expr)) : Parser (List (Option Expr)) :=
  match fuel with
  | 0 => fail
  | fuel + 1 => do
    if ← accept "]" then return acc.reverse
    if ← accept "," then items fuel (none :: acc)
    else
      let item ← assignment fuel
      if ← accept "," then items fuel (some item :: acc)
      else
        expect "]"
        return (some item :: acc).reverse

/-- The members of an object literal. -/
def members (fuel : Nat) (acc : List Member) : Parser (List Member) :=
  match fuel with
  | 0 => fail
  | fuel + 1 => do
    if ← accept "\x7d" then return acc.reverse
    let m ← member fuel
    if ← accept "," then members fuel (m :: acc)
    else
      expect "\x7d"
      return (m :: acc).reverse

/-- A member of an object literal. -/
def member (fuel : Nat) : Parser Member :=
  match fuel with
  | 0 => fail
  | fuel + 1 => do
    let start ← place
    let first ← next
    let following ← peek
    let ends := isMark following ":" || isMark following "," || isMark following "\x7d" ||
        isMark following "("
    match first with
    | .word w false =>
      if (w = "get" || w = "set") && !ends then
        let kind := if w = "get" then MemberKind.getter else MemberKind.setter
        if ← accept "[" then
          let key ← assignment fuel
          expect "]"
          let f ← functionRest fuel { name := w ++ " ", constructs := false } start
          need (f.head.params.length = if w = "get" then 0 else 1)
          return .computed key kind (.function f)
        else
          match wordKey? (← next) with
          | none => fail
          | some key =>
            let f ← functionRest fuel { name := w ++ " " ++ key.val.shown, constructs := false }
                start
            need (f.head.params.length = if w = "get" then 0 else 1)
            return .named key kind (.function f)
      else memberValue fuel first (.ofName w) start
    | .mark "[" =>
      let key ← assignment fuel
      expect "]"
      if ← accept ":" then return .computed key .value (← assignment fuel)
      else return .computed key .value (.function
        (← functionRest fuel { constructs := false } start))
    | first =>
      match wordKey? first with
      | some key => memberValue fuel first key start
      | none => fail

/-- What follows the key of a member: a value, a function body, or
nothing when the key names a variable. -/
def memberValue (fuel : Nat) (first : Token) (key : Key.Written) (start : List Char) :
    Parser Member :=
  match fuel with
  | 0 => fail
  | fuel + 1 => do
    if ← accept ":" then
      let value ← assignment fuel
      if key.val = .name "__proto__" then return .named key .proto value
      else return .named key .value (named key.val.shown value)
    else if isMark (← peek) "(" then
      let f ← functionRest fuel { name := key.val.shown, constructs := false } start
      return .named key .value (.function f)
    else
      match first with
      | .word w _ => return .named key .value (.ident (← usedName w))
      | _ => fail

/-- Parameters and body of a function whose text begins at `start`. -/
def functionRest (fuel : Nat) (head : FunctionHead) (start : List Char) : Parser Function :=
  match fuel with
  | 0 => fail
  | fuel + 1 => do
    let outer ← get
    expect "("
    let params ← parameters fuel []
    expect "\x7b"
    modify fun s =>
      { s with
        inFunction := true, inLoop := false, inSwitch := false, labels := [], noIn :=
          false, sawArguments := false }
    let (functions, body) ← statements fuel true true [] []
    let s ← get
    set { outer with rest := s.rest, after := s.after }
    let strict := s.strict
    need (!strict || (strictParams params && head.name ∉ strictUnbound))
    need !clashesIn [] body
    let usesArguments := s.sawArguments && "arguments" ∉ params
    let source := String.ofList (start.take (start.length - s.after.length))
    return .mk
      { head with params, locals :=
          localsOf params functions body usesArguments, usesArguments, strict, source }
      functions body

/-- Parameters up to the closing bracket. -/
def parameters (fuel : Nat) (acc : List String) : Parser (List String) :=
  match fuel with
  | 0 => fail
  | fuel + 1 => do
    if ← accept ")" then return acc.reverse
    let p ← name
    if ← accept "," then parameters fuel (p :: acc)
    else
      expect ")"
      return (p :: acc).reverse

/-- The functions and statements up to the closing brace, or up to the end
of the text when there is none. At the beginning of a body, notes may ask
for strict code. -/
def statements (fuel : Nat) (closed notes : Bool) (functions : List (String × Function))
    (acc : List Stmt) :
    Parser (List (String × Function) × List Stmt) :=
  match fuel with
  | 0 => fail
  | fuel + 1 => do
    if closed then
      if ← accept "\x7d" then return (functions.reverse, acc.reverse)
    else
      if (← get).rest.isEmpty then return (functions.reverse, acc.reverse)
    let first ← peek
    if isWord first "function" then
      let (n, f) ← declaration fuel
      statements fuel closed false ((n, f) :: functions) acc
    else
      let s ← statement fuel
      if notes && asksStrict first s then modify fun s => { s with strict := true }
      statements fuel closed (notes && isNote s) functions (s :: acc)

/-- A function declaration. -/
def declaration (fuel : Nat) : Parser (String × Function) :=
  match fuel with
  | 0 => fail
  | fuel + 1 => do
    let start ← place
    let _ ← next
    let fname ← name
    return (fname, ← functionRest fuel { name := fname } start)

/-- A block after its opening brace. -/
def block (fuel : Nat) : Parser Stmt :=
  match fuel with
  | 0 => fail
  | fuel + 1 => do
    let (functions, body) ← statements fuel true false [] []
    return .block functions body

/-- What depends on a test. In code that is not strict it may be a
function. -/
def branch (fuel : Nat) : Parser Stmt :=
  match fuel with
  | 0 => fail
  | fuel + 1 => do
    if isWord (← peek) "function" && !(← get).strict then
      let (n, f) ← declaration fuel
      return .function n f
    else statement fuel

/-- The body of a loop. -/
def loopBody (fuel : Nat) : Parser Stmt :=
  match fuel with
  | 0 => fail
  | fuel + 1 => do
    let outer := (← get).inLoop
    modify fun s => { s with inLoop := true }
    let body ← statement fuel
    modify fun s => { s with inLoop := outer }
    return body

/-- Declarations of variables. -/
def declarations (fuel : Nat) (acc : List (String × Option Expr)) :
    Parser (List (String × Option Expr)) :=
  match fuel with
  | 0 => fail
  | fuel + 1 => do
    let n ← name
    let value ← if ← accept "=" then (fun e => some (named n e)) <$> assignment fuel else pure none
    if ← accept "," then declarations fuel ((n, value) :: acc)
    else return ((n, value) :: acc).reverse

/-- A loop that counts, after what it starts with. -/
def countingLoop (fuel : Nat) (label : Option String) (init : Option Stmt) : Parser Stmt :=
  match fuel with
  | 0 => fail
  | fuel + 1 => do
    expect ";"
    let test ← if isMark (← peek) ";" then pure none else some <$> expr fuel
    expect ";"
    let update ← if isMark (← peek) ")" then pure none else some <$> expr fuel
    expect ")"
    let body ← loopBody fuel
    return .for false label init test update body

/-- A loop over names, after the word `in`. -/
def namesLoop (fuel : Nat) (label : Option String) (into : Expr) : Parser Stmt :=
  match fuel with
  | 0 => fail
  | fuel + 1 => do
    let object ← expr fuel
    expect ")"
    let body ← loopBody fuel
    return .forIn false label into object body

/-- A loop after the word `for` and the opening bracket. -/
def forRest (fuel : Nat) (label : Option String) : Parser Stmt :=
  match fuel with
  | 0 => fail
  | fuel + 1 => do
    if isMark (← peek) ";" then countingLoop fuel label none
    else if ← acceptWord "var" then
      let decls ← withIn true (declarations fuel [])
      match decls with
      | [(n, none)] =>
        if ← acceptWord "in" then
          let loop ← namesLoop fuel label (.ident n)
          return .block [] [.var [(n, none)], loop]
        else countingLoop fuel label (some (.var decls))
      | _ => countingLoop fuel label (some (.var decls))
    else
      let init ← withIn true (expr fuel)
      if ← acceptWord "in" then
        target init
        namesLoop fuel label init
      else countingLoop fuel label (some (.expr init false))

/-- The cases of a `switch` up to the closing brace. -/
def cases (fuel : Nat) (functions : List (String × Function)) (acc : List SwitchCase) :
    Parser (List (String × Function) × List SwitchCase) :=
  match fuel with
  | 0 => fail
  | fuel + 1 => do
    if ← accept "\x7d" then return (functions, acc.reverse)
    let test ← if ← acceptWord "default" then pure none
      else
        need (← acceptWord "case")
        some <$> expr fuel
    expect ":"
    let (fs, body) ← caseBody fuel [] []
    cases fuel (functions ++ fs) (.mk test body :: acc)

/-- The statements of a case. -/
def caseBody (fuel : Nat) (functions : List (String × Function)) (acc : List Stmt) :
    Parser (List (String × Function) × List Stmt) :=
  match fuel with
  | 0 => fail
  | fuel + 1 => do
    let first ← peek
    if isWord first "case" || isWord first "default" || isMark first "\x7d" then
      return (functions.reverse, acc.reverse)
    else if isWord first "function" then
      let (n, f) ← declaration fuel
      caseBody fuel ((n, f) :: functions) acc
    else
      let s ← statement fuel
      caseBody fuel functions (s :: acc)

/-- A handler after the word `catch`. -/
def handler (fuel : Nat) : Parser Handler :=
  match fuel with
  | 0 => fail
  | fuel + 1 => do
    let param ← if ← accept "(" then
        let n ← name
        expect ")"
        pure (some n)
      else pure none
    expect "\x7b"
    let (functions, body) ← statements fuel true false [] []
    return .mk param functions body

/-- The label of a jump, if it stands on the same line. -/
def jumpLabel (fuel : Nat) : Parser (Option String) :=
  match fuel with
  | 0 => fail
  | _ + 1 => do
    if ← atBreak then return none
    match ← peek with
    | some (.word _ _) => some <$> name
    | _ => return none

/-- A statement, with the label that stands before it. -/
def labelledStatement (fuel : Nat) (label : String) : Parser Stmt :=
  match fuel with
  | 0 => fail
  | fuel + 1 => do
    let outer := (← get).labels
    need (outer.all (·.1 ≠ label))
    let first ← peek
    let isLoop := isWord first "for" || isWord first "while" || isWord first "do"
    modify fun s => { s with labels := (label, isLoop) :: outer }
    let s ← if isLoop then loop fuel (some label)
      else
        let s ← statement fuel
        pure (.labelled label s)
    modify fun s => { s with labels := outer }
    return s

/-- A loop. -/
def loop (fuel : Nat) (label : Option String) : Parser Stmt :=
  match fuel with
  | 0 => fail
  | fuel + 1 => do
    match ← next with
    | .word "while" _ => do
      expect "("
      let test ← expr fuel
      expect ")"
      return .while false label test (← loopBody fuel)
    | .word "do" _ => do
      let body ← loopBody fuel
      need (← acceptWord "while")
      expect "("
      let test ← expr fuel
      expect ")"
      let _ ← accept ";"
      return .doWhile false label body test
    | _ => do
      expect "("
      forRest fuel label

/-- A statement. -/
def statement (fuel : Nat) : Parser Stmt :=
  match fuel with
  | 0 => fail
  | fuel + 1 => do
    match ← peek with
    | some (.mark ";") => let _ ← next; return .empty false
    | some (.mark "\x7b") => let _ ← next; block fuel
    | some (.word "var" false) => do
      let _ ← next
      let decls ← declarations fuel []
      semicolon
      return .var decls
    | some (.word "if" false) => do
      let _ ← next
      expect "("
      let test ← expr fuel
      expect ")"
      let yes ← branch fuel
      if ← acceptWord "else" then return .cond false test yes (some (← branch fuel))
      else return .cond false test yes none
    | some (.word "while" false) | some (.word "do" false) | some (.word "for" false) =>
      loop fuel none
    | some (.word "switch" false) => do
      let _ ← next
      expect "("
      let subject ← expr fuel
      expect ")"
      expect "\x7b"
      let outer := (← get).inSwitch
      modify fun s => { s with inSwitch := true }
      let (functions, cs) ← cases fuel [] []
      modify fun s => { s with inSwitch := outer }
      let defaults := cs.filter fun
        | .mk none _ => true
        | _ => false
      need (defaults.length ≤ 1)
      return .switch false subject functions cs
    | some (.word "return" false) => do
      let _ ← next
      need (← get).inFunction
      let ends ← peek
      if (← atBreak) || isMark ends ";" || isMark ends "\x7d" then
        semicolon
        return .return none
      else
        let e ← expr fuel
        semicolon
        return .return (some e)
    | some (.word "throw" false) => do
      let _ ← next
      need !(← atBreak)
      let e ← expr fuel
      semicolon
      return .throw e
    | some (.word "try" false) => do
      let _ ← next
      expect "\x7b"
      let body ← block fuel
      let caught ← if ← acceptWord "catch" then some <$> handler fuel else pure none
      let finalizer ← if ← acceptWord "finally" then
          expect "\x7b"
          some <$> block fuel
        else pure none
      need (caught.isSome || finalizer.isSome)
      return .try false body caught finalizer
    | some (.word "break" false) => do
      let _ ← next
      let label ← jumpLabel fuel
      semicolon
      let s ← get
      match label with
      | some l => need (s.labels.any (·.1 = l))
      | none => need (s.inLoop || s.inSwitch)
      return .break label
    | some (.word "continue" false) => do
      let _ ← next
      let label ← jumpLabel fuel
      semicolon
      let s ← get
      match label with
      | some l => need (s.labels.any fun (m, isLoop) => m = l && isLoop)
      | none => need s.inLoop
      return .continue label
    | some (.word "debugger" false) => do
      let _ ← next
      semicolon
      return .var []
    | some (.word "function" false) => fail
    | first => do
      match first, ← peekSecond with
      | some (.word _ _), some (.mark ":") =>
        let label ← name
        let _ ← next
        labelledStatement fuel label
      | _, _ =>
        let e ← expr fuel
        semicolon
        return .expr e false

end

end Parser

/-- Reads a program. -/
def parse? (text : String) : Option Program := do
  let words ← tokenize? text.toList
  let fuel := 24 * (words.length + 2)
  let ((functions, body), s) ← (Parser.statements fuel false true [] []).run { rest := words }
  if clashesIn [] body then none
  return { strict := s.strict, locals := (variablesOf body).eraseDups, functions,
           body := keepProgram body }

/-- Reads the parameters and the body of a function that scripts make from
texts. -/
def parseFunction? (params body : String) : Option Function := do
  let source := "function anonymous(" ++ params ++ "\n) \x7b\n" ++ body ++ "\n\x7d"
  let words ← tokenize? source.toList
  let fuel := 24 * (words.length + 2)
  let ((_, f), s) ← (Parser.declaration fuel).run { rest := words }
  if s.rest.isEmpty then return f else none

end ObjectBridge.Script

import ObjectBridge.Script.Key

/-!
# `ObjectBridge.Script.Syntax`: programs

The part of the script language that the program runs: expressions,
statements and functions with function scope.

Functions declared in a block are there before the block runs, so a block
lists them apart from its statements.

The value of a program is the value of one of its expression statements.
Which ones count is decided before the program runs
(`ObjectBridge.Script.Completion`); the flags named `kept` say so. A
statement other than an expression that is kept starts by dropping the
value there is so far.
-/

set_option autoImplicit false

namespace ObjectBridge.Script

inductive UnaryOp
  | minus | plus | not | bitNot | typeOf | void
  deriving DecidableEq, Repr

inductive BinaryOp
  | add | sub | mul | div | rem | pow
  | bitAnd | bitOr | bitXor | shiftLeft | shiftRight | shiftRightZero
  | strictEq | strictNe | looseEq | looseNe
  | less | greater | lessEq | greaterEq
  | isIn | instanceOf
  deriving DecidableEq, Repr

inductive LogicalOp
  | and | or | coalesce
  deriving DecidableEq, Repr

/-- What a member of an object literal is. -/
inductive MemberKind
  | value | getter | setter
  /-- The prototype of the object. -/
  | proto
  deriving DecidableEq, Repr

/-- What is known of a function besides its body. -/
structure FunctionHead where
  name : String := ""
  /-- Does the function see itself under its name? -/
  seesItself : Bool := false
  params : List String := []
  /-- The variables of a call, each once, and the argument a variable
  starts with. -/
  locals : List (String × Option Nat) := []
  /-- Does the body look at its arguments as a whole? -/
  usesArguments : Bool := false
  strict : Bool := false
  /-- May the function make objects? -/
  constructs : Bool := true
  /-- The text the function was written as. -/
  source : String := ""
  deriving Repr

instance : Inhabited FunctionHead := ⟨{}⟩

mutual

inductive Expr
  | number (n : Float)
  | bigint (n : Int)
  | string (t : Text)
  | bool (b : Bool)
  | null
  | this
  | ident (name : String)
  /-- A missing item is a hole. -/
  | array (items : List (Option Expr))
  | object (members : List Member)
  | function (f : Function)
  | member (base : Expr) (key : Key.Written)
  | index (base key : Expr)
  | call (callee : Expr) (args : List Expr)
  | new (callee : Expr) (args : List Expr)
  | unary (op : UnaryOp) (e : Expr)
  | delete (e : Expr)
  | binary (op : BinaryOp) (left right : Expr)
  | logical (op : LogicalOp) (left right : Expr)
  | conditional (test yes no : Expr)
  /-- With an operator, the old value takes part. -/
  | assign (target : Expr) (op : Option BinaryOp) (value : Expr)
  /-- Counts a target up or down; the result is the new value when the
  operator stands before the target. -/
  | update (before : Bool) (delta : Int) (target : Expr)
  | sequence (first second : Expr)

/-- A member of an object literal; its key is known or has to be found. -/
inductive Member
  | named (key : Key.Written) (kind : MemberKind) (value : Expr)
  | computed (key : Expr) (kind : MemberKind) (value : Expr)

inductive Stmt
  | empty (kept : Bool)
  | expr (e : Expr) (kept : Bool)
  | var (decls : List (String × Option Expr))
  | block (functions : List (String × Function)) (body : List Stmt)
  /-- A function that is bound only when the statement is reached. -/
  | function (name : String) (f : Function)
  | cond (kept : Bool) (test : Expr) (yes : Stmt) (no : Option Stmt)
  | while (kept : Bool) (label : Option String) (test : Expr) (body : Stmt)
  | doWhile (kept : Bool) (label : Option String) (body : Stmt) (test : Expr)
  | for (kept : Bool) (label : Option String) (init : Option Stmt) (test update : Option Expr)
    (body : Stmt)
  | forIn (kept : Bool) (label : Option String) (target : Expr) (object : Expr) (body : Stmt)
  | switch (kept : Bool) (subject : Expr) (functions : List (String × Function))
    (cases : List SwitchCase)
  | labelled (label : String) (s : Stmt)
  | return (e : Option Expr)
  | throw (e : Expr)
  /-- At least one of handler and finalizer is there. -/
  | try (kept : Bool) (body : Stmt) (handler : Option Handler) (finalizer : Option Stmt)
  | break (label : Option String)
  | continue (label : Option String)

/-- A case of a `switch`; the default has no test. -/
inductive SwitchCase
  | mk (test : Option Expr) (body : List Stmt)

/-- What is done with something thrown. -/
inductive Handler
  | mk (param : Option String) (functions : List (String × Function)) (body : List Stmt)

inductive Function
  | mk (head : FunctionHead) (functions : List (String × Function)) (body : List Stmt)

end

instance : Inhabited Expr := ⟨.null⟩
instance : Inhabited Stmt := ⟨.empty false⟩
instance : Inhabited Function := ⟨.mk {} [] []⟩

namespace Function

def head : Function → FunctionHead
  | mk head _ _ => head

def functions : Function → List (String × Function)
  | mk _ functions _ => functions

def body : Function → List Stmt
  | mk _ _ body => body

end Function

/-- A whole program. -/
structure Program where
  strict : Bool := false
  /-- The variables it declares. -/
  locals : List String := []
  functions : List (String × Function) := []
  body : List Stmt := []

instance : Inhabited Program := ⟨{}⟩

/-! ### Declarations

A variable belongs to the whole function it is declared in, wherever the
declaration stands. -/

mutual

/-- The variables a statement declares. -/
def Stmt.variables : Stmt → List String
  | .var decls => decls.map Prod.fst
  | .block _ body => variablesOf body
  | .cond _ _ yes no => yes.variables ++ (match no with
    | some s => s.variables
    | none => [])
  | .while _ _ _ body => body.variables
  | .doWhile _ _ body _ => body.variables
  | .for _ _ init _ _ body => (match init with
    | some s => s.variables
    | none => []) ++ body.variables
  | .forIn _ _ _ _ body => body.variables
  | .switch _ _ _ cases => caseVariables cases
  | .labelled _ s => s.variables
  | .try _ body handler finalizer => body.variables ++ (match handler with
    | some (.mk _ _ ss) => variablesOf ss
    | none => []) ++ (match finalizer with
    | some s => s.variables
    | none => [])
  | _ => []

/-- The variables that statements declare. -/
def variablesOf : List Stmt → List String
  | [] => []
  | s :: rest => s.variables ++ variablesOf rest

/-- The variables that the cases of a `switch` declare. -/
def caseVariables : List SwitchCase → List String
  | [] => []
  | .mk _ body :: rest => variablesOf body ++ caseVariables rest

end

/-! ### Names bound twice

A block may bind a name of its own: the functions declared in it, and
what a handler calls the thing thrown. A variable declared inside such a
block must not have that name, because it would not be the same
variable. -/

mutual

/-- Does the statement declare a variable that a block around it binds? -/
def Stmt.clashes (bound : List String) : Stmt → Bool
  | .var decls => decls.any fun (name, _) => name ∈ bound
  | .block functions body => clashesIn (functions.map Prod.fst ++ bound) body
  | .cond _ _ yes no => yes.clashes bound || (match no with
    | some s => s.clashes bound
    | none => false)
  | .while _ _ _ body => body.clashes bound
  | .doWhile _ _ body _ => body.clashes bound
  | .for _ _ init _ _ body => (match init with
    | some s => s.clashes bound
    | none => false) || body.clashes bound
  | .forIn _ _ _ _ body => body.clashes bound
  | .switch _ _ functions cases => casesClash (functions.map Prod.fst ++ bound) cases
  | .labelled _ s => s.clashes bound
  | .try _ body handler finalizer => body.clashes bound || (match handler with
    | some (.mk param functions ss) =>
      (match param with
        | some name => functions.any fun (f, _) => f = name
        | none => false)
      || clashesIn (param.toList ++ functions.map Prod.fst ++ bound) ss
    | none => false) || (match finalizer with
    | some s => s.clashes bound
    | none => false)
  | _ => false

/-- Do statements declare a variable that a block around them binds? -/
def clashesIn (bound : List String) : List Stmt → Bool
  | [] => false
  | s :: rest => s.clashes bound || clashesIn bound rest

/-- Do the cases of a `switch` declare such a variable? -/
def casesClash (bound : List String) : List SwitchCase → Bool
  | [] => false
  | .mk _ body :: rest => clashesIn bound body || casesClash bound rest

end

end ObjectBridge.Script

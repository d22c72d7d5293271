import ObjectBridge.Script.Realm

/-!
# `ObjectBridge.Script.Machine`: the state of a running script

A running script is a control, which says what happens next, and a stack
of frames, each waiting for the result of what is above it. Native
objects are not part of the machine: when a script uses one, the machine
stops with a request, and goes on once it has the reply.
-/

set_option autoImplicit false

namespace ObjectBridge.Script

/-- Where code runs: its innermost scope, what `this` is, and whether the
code is strict. -/
structure Env where
  scope : Option ScopeId
  this : Value
  strict : Bool

/-- How a statement ended. -/
inductive Completion
  | normal
  | break (label : Option String)
  | continue (label : Option String)
  | return (v : Value)

/-- Something that can be read and assigned to. -/
inductive Reference
  | variable (scope : ScopeId) (place : Nat)
  | global (name : String)
  | member (base : Value) (key : Key)
  /-- A property whose key has not been made out yet. -/
  | element (base key : Value)

/-- What a script wants from outside. -/
inductive Request
  | get (o : ObjectRef) (key : String)
  | set (o : ObjectRef) (key : String) (v : Value)
  | has (o : ObjectRef) (key : String)
  | keys (o : ObjectRef)
  | call (o : ObjectRef) (method : String) (args : List Value)
  | construct (o : ObjectRef) (args : List Value)
  | log (level : String) (message : Bytes)

/-- What a frame hands on when it is left by a throw or a completion that
a finalizer interrupts. -/
inductive Pending
  | completion (c : Completion)
  | throw (v : Value)

/-- A call whose arguments are not there yet. A function that was not
found is noticed only afterwards. -/
inductive PendingCall
  | call (f this : Value)
  | new (f : Value)
  | missing (key : Key)
  | unknown (name : String)

/-- What is to be done with a key once it is made out. -/
inductive KeyUse
  | read (base : Value)
  | call (base : Value) (args : List Expr) (env : Env)
  | write (base v : Value) (strict : Bool)
  | delete (base : Value) (strict : Bool)
  /-- Is there such a property? -/
  | find (o : ObjId)
  | define (o : ObjId) (d : Descriptor)
  | describe (o : ObjId)
  | ownProperty (v : Value)
  | enumerableProperty (v : Value)
  | member (o : ObjId) (kind : MemberKind) (value : Expr) (rest : List Member) (env : Env)

inductive Frame
  -- References
  | refMember (key : Key)
  | refIndex (key : Expr) (env : Env)
  | refKey (base : Value)
  /-- The reference is to be read. -/
  | read
  /-- A global variable was looked for; `typeof` does not mind when there
  is none. -/
  | readGlobal (name : String) (quiet : Bool)
  | typeOfRef
  | deleteRef (strict : Bool)
  /-- The key is a primitive now. -/
  | keyed (use : KeyUse)
  -- Calls
  | callRef (args : List Expr) (env : Env)
  | callMember (this : Value) (key : Key) (args : List Expr) (env : Env)
  | callGlobal (name : String) (args : List Expr) (env : Env)
  | callValue (args : List Expr) (env : Env)
  | newCallee (args : List Expr) (env : Env)
  /-- Arguments are being evaluated. -/
  | argument (call : PendingCall) (done : List Value) (rest : List Expr) (env : Env)
  /-- The text of something that is refused, with what is said around
  it. -/
  | refusal (before after : String)
  /-- A function is running; the depth to go back to. -/
  | call (depth : Nat)
  /-- A constructor is running. -/
  | constructing (o : ObjId)
  -- Operators
  | binaryRight (op : BinaryOp) (right : Expr) (env : Env)
  | binaryApply (op : BinaryOp) (left : Value)
  | primitiveLeft (op : BinaryOp) (right : Value)
  | primitiveRight (op : BinaryOp) (left : Value)
  | instance_ (left right : Value)
  | instanceProto (left : Value)
  | truth
  | unary (op : UnaryOp)
  | numeric (op : UnaryOp)
  | logical (op : LogicalOp) (right : Expr) (env : Env)
  | conditional (yes no : Expr) (env : Env)
  | second (e : Expr) (env : Env)
  -- Assignments
  | assignRef (op : Option BinaryOp) (value : Expr) (env : Env)
  | assignOld (ref : Reference) (op : BinaryOp) (value : Expr) (env : Env)
  | assignValue (ref : Reference) (strict : Bool)
  | updateRef (before : Bool) (delta : Int) (strict : Bool)
  | updateOld (ref : Reference) (before : Bool) (delta : Int) (strict : Bool)
  | updateNumber (ref : Reference) (before : Bool) (delta : Int) (strict : Bool)
  /-- The result above is dropped for this one. -/
  | instead (v : Value)
  /-- The new length of an array is asked for twice. -/
  | lengthFirst (o : ObjId) (v : Value) (strict : Bool)
  | lengthSecond (o : ObjId) (strict : Bool)
  | lengthDefined (o : ObjId) (d : Descriptor) (again : Option Value)
  -- Literals
  | item (done : List (Option Value)) (rest : List (Option Expr)) (env : Env)
  | member (o : ObjId) (key : Key) (kind : MemberKind) (rest : List Member) (env : Env)
  -- Native objects
  | nativeGet (o : ObjId) (key : Key) (receiver : Value)
  | nativeHas (o : ObjId) (key : Key)
  /-- A native object is to get a property. -/
  | nativeSet (o : ObjId) (key : Key) (v : Value) (strict : Bool)
  /-- A native object stands among the prototypes of one that is to get a
  property. -/
  | nativeAbove (native o : ObjId) (key : Key) (v : Value) (strict : Bool)
  -- Conversions
  | toText
  | toTextOrSymbol
  | toNumber
  | primitiveExotic (o : ObjId) (hint : String) (methods : List String)
  | primitiveChecked
  | primitiveMethod (o : ObjId) (rest : List String)
  | primitiveResult (o : ObjId) (rest : List String)
  -- Functions every realm has
  | descriptorField (o : ObjId) (key : Value) (desc : ObjId) (field : String) (rest : List String)
    (d : Descriptor)
  | joinLength (o : ObjId) (separator : Value)
  | joinSeparator (o : ObjId) (length : Nat)
  | joinItem (o : ObjId) (separator : Text) (next length : Nat) (done : List Text)
  | joinText (o : ObjId) (separator : Text) (next length : Nat) (done : List Text)
  | joinFound (o : ObjId)
  | logText (level : String) (done : List Bytes) (rest : List Value)
  | errorMessage (kind : String)
  | errorName (o : ObjId)
  | errorNameText (o : ObjId)
  | errorDetail (name : Text)
  | errorDetailText (name : Text)
  | symbolText
  | wrapText
  | numberMade (wrapped : Bool)
  | numberTest (finite : Bool)
  | functionTexts (done : List Text) (rest : List Value)
  | textMethod (b : Builtin) (args : List Value)
  | described
  | keysArray
  -- Statements
  | exprDone (kept : Bool)
  | varInit (name : String) (rest : List (String × Option Expr)) (env : Env)
  | varRest (rest : List (String × Option Expr)) (env : Env)
  | ifTest (yes : Stmt) (no : Option Stmt) (env : Env)
  /-- The test of a loop is there. -/
  | loopTest (loop : Stmt) (env : Env)
  | loopBody (loop : Stmt) (env : Env)
  | forInit (loop : Stmt) (env : Env)
  | forUpdate (loop : Stmt) (env : Env)
  | forInObject (loop : Stmt) (env : Env)
  | forInKeys (loop : Stmt) (env : Env) (o : ObjId)
  | forInHas (loop : Stmt) (env : Env) (o : ObjId) (key : Key) (rest : List Key)
  | forInRef (loop : Stmt) (env : Env) (o : ObjId) (key : Key) (rest : List Key)
  | forInStored (loop : Stmt) (env : Env) (o : ObjId) (rest : List Key)
  | forInBody (loop : Stmt) (env : Env) (o : ObjId) (rest : List Key)
  | switchSubject (cases : List SwitchCase) (env : Env)
  /-- The test of the first of the remaining cases is there. -/
  | switchTest (subject : Value) (rest cases : List SwitchCase) (env : Env)
  | switchBody
  | label (label : String)
  | statements (rest : List Stmt) (env : Env)
  | returnValue
  | throwValue
  | tryBody (handler : Option Handler) (finalizer : Option Stmt) (env : Env)
  | handlerBody (finalizer : Option Stmt) (env : Env)
  | finalizerBody (pending : Pending)

/-- Which conversion an object is asked for. -/
inductive Hint
  | default
  | number
  | text
  deriving DecidableEq

/-- What happens next. -/
inductive Control
  | eval (e : Expr) (env : Env)
  | refer (e : Expr) (env : Env)
  | exec (s : Stmt) (env : Env)
  | execAll (ss : List Stmt) (env : Env)
  /-- A value is there for the frame on top. -/
  | give (v : Value)
  /-- There is no such property. -/
  | absent
  | refers (ref : Reference)
  | names (keys : List Key)
  | complete (c : Completion)
  | throw (v : Value)
  | readRef (ref : Reference)
  | writeRef (ref : Reference) (v : Value) (strict : Bool)
  /-- Makes out the key that a value names. -/
  | keyOf (v : Value) (use : KeyUse)
  /-- Reads a property on behalf of a receiver, searching from an object. -/
  | fetch (start : Option ObjId) (key : Key) (receiver : Value)
  /-- Stores a property; when `strict`, a refusal is an error. -/
  | store (o : ObjId) (key : Key) (v : Value) (strict : Bool)
  /-- Calls a function. A `direct` call stands in a script; the others
  are made on behalf of a script. -/
  | apply (f this : Value) (args : List Value) (direct : Bool)
  | instantiate (f : Value) (args : List Value)
  | primitive (v : Value) (hint : Hint)
  | operate (op : BinaryOp) (left right : Value)
  /-- The next round of a loop. -/
  | iterate (loop : Stmt) (env : Env)
  /-- The next key of a loop over names. -/
  | forInNext (loop : Stmt) (env : Env) (o : ObjId) (keys : List Key)

/-- A running script. -/
structure Machine where
  control : Control
  stack : List Frame := []
  /-- Functions entered and not left. -/
  depth : Nat := 0

/-- How a run ended. -/
inductive Outcome
  | value (v : Value)
  /-- There was no such property. -/
  | absent
  | thrown (v : Value)
  /-- Too many functions were entered. -/
  | overflow

/-- What a step leads to. -/
inductive Turn
  | next (m : Machine)
  | ask (q : Request) (stack : List Frame) (depth : Nat)
  | done (o : Outcome)

/-- The heap after a step, and what the step led to. -/
abbrev Result := Heap × Turn

/-- Goes on with a control. -/
def go (h : Heap) (c : Control) (k : List Frame) (d : Nat) : Result :=
  (h, .next { control := c, stack := k, depth := d })

/-- Hands a value to the frame on top. -/
def give (h : Heap) (v : Value) (k : List Frame) (d : Nat) : Result := go h (.give v) k d

/-- Throws a new error. -/
def raise (r : Realm) (h : Heap) (kind message : String) (k : List Frame) (d : Nat) : Result :=
  let (h, e) := h.newError r kind message
  go h (.throw (.object e)) k d

/-- Makes a request. -/
def ask (h : Heap) (q : Request) (k : List Frame) (d : Nat) : Result := (h, .ask q k d)

end ObjectBridge.Script

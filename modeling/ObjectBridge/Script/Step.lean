import ObjectBridge.Script.Builtins

/-!
# `ObjectBridge.Script.Step`: running scripts

`step` makes one step of a machine. The control alone decides what
happens, except for the controls that carry a result, which go to the
frame on top.

No more than `limit` functions may have been entered and not left. A run
that breaks this rule ends at once: handlers in the script do not see it.
A function that is called on behalf of a script, such as a getter, takes
up the room of two.
-/

set_option autoImplicit false

namespace ObjectBridge.Script

/-! ### Expressions -/

/-- Goes on evaluating arguments, or calls. -/
def nextArgument (r : Realm) (h : Heap) (call : PendingCall) (done : List Value)
    (rest : List Expr) (env : Env) (k : List Frame) (d : Nat) : Result :=
  match rest with
  | e :: rest =>
    match value? r h env e with
    | some v => nextArgument r h call (v :: done) rest env k d
    | none => go h (.eval e env) (.argument call done rest env :: k) d
  | [] =>
    match call with
    | .call f this => go h (.apply f this done.reverse true) k d
    | .new f => go h (.instantiate f done.reverse) k d
    | .missing key => raise r h "TypeError" ("Object has no member '" ++ key.shown ++ "'") k d
    | .unknown name => raise r h "ReferenceError" (name ++ " is not defined") k d

/-- Goes on with the items of an array literal. -/
def nextItem (r : Realm) (h : Heap) (done : List (Option Value))
    (rest : List (Option Expr)) (env : Env) (k : List Frame) (d : Nat) : Result :=
  match rest with
  | [] => let (h, o) := h.newArray r done.reverse; give h (.object o) k d
  | none :: rest => nextItem r h (none :: done) rest env k d
  | some e :: rest =>
    match value? r h env e with
    | some v => nextItem r h (some v :: done) rest env k d
    | none => go h (.eval e env) (.item done rest env :: k) d

/-- Goes on with the members of an object literal. -/
def nextMember (h : Heap) (o : ObjId) (rest : List Member) (env : Env) (k : List Frame)
    (d : Nat) : Result :=
  match rest with
  | [] => give h (.object o) k d
  | .named key kind e :: rest => go h (.eval e env) (.member o key.val kind rest env :: k) d
  | .computed key kind e :: rest =>
    go h (.eval key env) (.keyed (.member o kind e rest env) :: k) d

/-- Stores a member of an object literal. -/
def putMember (h : Heap) (o : ObjId) (key : Key) (kind : MemberKind) (v : Value) : Heap :=
  let (g, s) := match (h.own? o key).map (·.slot) with
    | some (.accessor g s) => (g, s)
    | _ => (.undefined, .undefined)
  match kind, v with
  | .value, v => h.put o key (.plain v)
  | .getter, v => h.put o key { slot := .accessor v s, writable := false }
  | .setter, v => h.put o key { slot := .accessor g v, writable := false }
  | .proto, .object p => h.modifyObj o fun x => { x with proto := some p }
  | .proto, .null => h.modifyObj o fun x => { x with proto := none }
  | .proto, _ => h

/-- Makes a function of a program. One with a name of its own sees itself
under that name. -/
def makeClosure (r : Realm) (h : Heap) (f : Function) (env : Env) : Heap × ObjId :=
  if f.head.seesItself then
    let (h, s) := h.newScope { names := [f.head.name], values := #[.undefined], constant := true,
                               parent := env.scope }
    let (h, o) := h.newClosure r f (some s)
    (h.setVariable s 0 (.object o), o)
  else h.newClosure r f env.scope

/-- Starts the evaluation of an expression that needs the machine. -/
def stepEval (r : Realm) (h : Heap) (e : Expr) (env : Env) (k : List Frame) (d : Nat) : Result :=
  match e with
  | .number n => give h (.number n) k d
  | .bigint n => give h (.bigint n) k d
  | .string t => give h (.string t) k d
  | .bool b => give h (.bool b) k d
  | .null => give h .null k d
  | .this => give h env.this k d
  | .ident _ | .member _ _ | .index _ _ => go h (.refer e env) (.read :: k) d
  | .array items => nextItem r h [] items env k d
  | .object members => let (h, o) := h.newObject r; nextMember h o members env k d
  | .function f => let (h, o) := makeClosure r h f env; give h (.object o) k d
  | .call callee args =>
    match callee with
    | .ident _ | .member _ _ | .index _ _ => go h (.refer callee env) (.callRef args env :: k) d
    | _ => go h (.eval callee env) (.callValue args env :: k) d
  | .new callee args => go h (.eval callee env) (.newCallee args env :: k) d
  | .unary op e =>
    match op, e with
    | .typeOf, .ident _ => go h (.refer e env) (.typeOfRef :: k) d
    | _, _ => go h (.eval e env) (.unary op :: k) d
  | .delete e =>
    match e with
    | .ident _ | .member _ _ | .index _ _ => go h (.refer e env) (.deleteRef env.strict :: k) d
    | _ => go h (.eval e env) (.instead (.bool true) :: k) d
  | .binary op left right => go h (.eval left env) (.binaryRight op right env :: k) d
  | .logical op left right => go h (.eval left env) (.logical op right env :: k) d
  | .conditional test yes no => go h (.eval test env) (.conditional yes no env :: k) d
  | .assign target op value => go h (.refer target env) (.assignRef op value env :: k) d
  | .update before delta target =>
    go h (.refer target env) (.updateRef before delta env.strict :: k) d
  | .sequence first second => go h (.eval first env) (.second second env :: k) d

/-- Starts finding out what an expression refers to. -/
def stepRefer (r : Realm) (h : Heap) (e : Expr) (env : Env) (k : List Frame) (d : Nat) : Result :=
  match e with
  | .ident name => go h (.refers (resolve h env name)) k d
  | .member base key =>
    match value? r h env base with
    | some b => go h (.refers (.member b key.val)) k d
    | none => go h (.eval base env) (.refMember key.val :: k) d
  | .index base key => go h (.eval base env) (.refIndex key env :: k) d
  | e => go h (.eval e env) k d

/-! ### Statements -/

/-- Goes on with declarations. -/
def nextVariable (r : Realm) (h : Heap) (rest : List (String × Option Expr)) (env : Env)
    (k : List Frame) (d : Nat) :
    Result :=
  match rest with
  | [] => go h (.complete .normal) k d
  | (_, none) :: rest => nextVariable r h rest env k d
  | (name, some e) :: rest => go h (.eval e env) (.varInit name rest env :: k) d

/-- Gives a variable of a scope its value, if there is such a variable. -/
def setNamed (h : Heap) (names : List String) (s : ScopeId) (name : String) (v : Value) : Heap :=
  match Heap.placeOf? name 0 names with
  | some i => h.setVariable s i v
  | none => h

/-- Makes the functions of a scope and stores them in it. -/
def storeFunctions (r : Realm) (h : Heap) (names : List String) (s : ScopeId)
    (functions : List (String × Function)) : Heap :=
  functions.foldl (fun h (name, f) =>
    let (h, o) := h.newClosure r f (some s)
    setNamed h names s name (.object o)) h

/-- A scope with functions in it. -/
def bindFunctions (r : Realm) (h : Heap) (functions : List (String × Function)) (env : Env) :
    Heap × Env :=
  match functions with
  | [] => (h, env)
  | functions =>
    let names := (functions.map Prod.fst).eraseDups
    let (h, s) := h.newScope
      { names, values := Array.replicate names.length .undefined, parent := env.scope }
    (storeFunctions r h names s functions, { env with scope := some s })

/-- Starts a statement that needs the machine. -/
def stepExec (r : Realm) (h : Heap) (s : Stmt) (env : Env) (k : List Frame) (d : Nat) : Result :=
  match s with
  | .empty kept => go (clear kept h) (.complete .normal) k d
  | .expr e kept => go h (.eval e env) (.exprDone kept :: k) d
  | .var decls => nextVariable r h decls env k d
  | .function name f =>
    let (h, o) := h.newClosure r f env.scope
    go h (.writeRef (resolve h env name) (.object o) false) (.varRest [] env :: k) d
  | .block functions body =>
    let (h, env) := bindFunctions r h functions env
    go h (.execAll body env) k d
  | .cond kept test yes no => go (clear kept h) (.eval test env) (.ifTest yes no env :: k) d
  | .while kept _ _ _ => go (clear kept h) (.iterate s env) k d
  | .doWhile _ _ body _ => go h (.exec body env) (.loopBody s env :: k) d
  | .for kept _ init _ _ _ =>
    match init with
    | some i => go h (.exec i env) (.forInit s env :: k) d
    | none => go (clear kept h) (.iterate s env) k d
  | .forIn _ _ _ object _ => go h (.eval object env) (.forInObject s env :: k) d
  | .switch kept subject functions cases =>
    let (h, inner) := bindFunctions r h functions env
    go (clear kept h) (.eval subject env) (.switchSubject cases inner :: k) d
  | .labelled l s => go h (.exec s env) (.label l :: k) d
  | .return e =>
    match e with
    | some e => go h (.eval e env) (.returnValue :: k) d
    | none => go h (.complete (.return .undefined)) k d
  | .throw e => go h (.eval e env) (.throwValue :: k) d
  | .try kept body handler finalizer =>
    go (clear kept h) (.exec body env) (.tryBody handler finalizer env :: k) d
  | .break l => go h (.complete (.break l)) k d
  | .continue l => go h (.complete (.continue l)) k d

/-- The label of a loop. -/
def Stmt.loopLabel : Stmt → Option String
  | .while _ label _ _ => label
  | .doWhile _ label _ _ => label
  | .for _ label _ _ _ _ => label
  | .forIn _ label _ _ _ => label
  | _ => none

/-- Does the loop go on after its body ended so? -/
def Completion.repeats (label : Option String) : Completion → Bool
  | .normal => true
  | .continue none => true
  | .continue l => l = label
  | _ => false

/-- Does the loop end after its body ended so? -/
def Completion.ends (label : Option String) : Completion → Bool
  | .break none => true
  | .break l => l = label
  | _ => false

/-- What follows the body of a loop. -/
def afterBody (r : Realm) (h : Heap) (loop : Stmt) (env : Env) (k : List Frame)
    (d : Nat) : Result :=
  match loop with
  | .for _ _ _ _ (some update) _ =>
    match act? r h env update with
    | some (effect, _) => go (effect.apply h) (.iterate loop env) k d
    | none => go h (.eval update env) (.forUpdate loop env :: k) d
  | .doWhile _ _ _ test => go h (.eval test env) (.loopTest loop env :: k) d
  | _ => go h (.iterate loop env) k d

/-- Starts the body of a loop. -/
def enterBody (r : Realm) (h : Heap) (loop body : Stmt) (env : Env) (k : List Frame)
    (d : Nat) : Result :=
  match body with
  | .block [] ss =>
    match runAll r env h ss with
    | (h, []) => afterBody r h loop env k d
    | (h, rest) => go h (.execAll rest env) (.loopBody loop env :: k) d
  | body => go h (.exec body env) (.loopBody loop env :: k) d

/-- Goes on with a loop whose test is there. -/
def afterTest (r : Realm) (h : Heap) (v : Value) (loop : Stmt) (env : Env) (k : List Frame)
    (d : Nat) : Result :=
  if !v.truthy then go h (.complete .normal) k d
  else
    match loop with
    | .while kept _ _ body => enterBody r (clear kept h) loop body env k d
    | .for kept _ _ _ _ body => enterBody r (clear kept h) loop body env k d
    | .doWhile _ _ body _ => enterBody r h loop body env k d
    | _ => go h (.complete .normal) k d

/-- Starts a round of a loop. -/
def stepIterate (r : Realm) (h : Heap) (loop : Stmt) (env : Env) (k : List Frame)
    (d : Nat) : Result :=
  let test := match loop with
    | .while _ _ test _ => some test
    | .for _ _ _ test _ _ => test
    | _ => none
  match test with
  | none => afterTest r h (.bool true) loop env k d
  | some e =>
    match value? r h env e with
    | some v => afterTest r h v loop env k d
    | none => go h (.eval e env) (.loopTest loop env :: k) d

/-- The next key of a loop over names. Keys that are gone are left out. -/
def stepForIn (h : Heap) (loop : Stmt) (env : Env) (o : ObjId) (keys : List Key) (k : List Frame)
    (d : Nat) : Result :=
  match keys, loop with
  | key :: rest, .forIn _ _ target _ _ =>
    match h.find (some o) key with
    | .native n =>
      match (h.obj n).kind with
      | .native _ ref => ask h (.has ref key.shown) (.forInHas loop env o key rest :: k) d
      | _ => go h (.forInNext loop env o rest) k d
    | .field _ => go h (.refer target env) (.forInRef loop env o key rest :: k) d
    | .none => go h (.forInNext loop env o rest) k d
  | _, _ => go h (.complete .normal) k d

/-- Starts a loop over the names of a value. -/
def startForIn (r : Realm) (h : Heap) (v : Value) (loop : Stmt) (env : Env) (k : List Frame)
    (d : Nat) : Result :=
  let kept := match loop with
    | .forIn kept _ _ _ _ => kept
    | _ => false
  match toObject? r h v with
  | none => go (clear kept h) (.complete .normal) k d
  | some (h, o) =>
    let h := clear kept h
    match (h.obj o).kind with
    | .native _ n => ask h (.keys n) (.forInKeys loop env o :: k) d
    | _ =>
      let keys := h.keysFrom (h.objects.size + 1) [] (some o)
      go (h.charge (30 + 2 * keys.length)) (.forInNext loop env o keys) k d

/-- Runs the cases of a `switch` from one on. -/
def runCases (h : Heap) (cases : List SwitchCase) (env : Env) (k : List Frame) (d : Nat) : Result :=
  let statements := cases.flatMap fun
    | .mk _ body => body
  go h (.execAll statements env) (.switchBody :: k) d

/-- Looks for the case of a `switch` that the subject calls for. -/
def nextCase (h : Heap) (subject : Value) (rest cases : List SwitchCase) (env : Env)
    (k : List Frame) (d : Nat) :
    Result :=
  match rest with
  | .mk (some test) _ :: _ => go h (.eval test env) (.switchTest subject rest cases env :: k) d
  | .mk none _ :: rest => nextCase h subject rest cases env k d
  | [] =>
    -- Without a case that fits, the default is taken.
    runCases h (cases.dropWhile fun
      | .mk test _ => test.isSome) env k d

/-! ### Properties -/

/-- Reads a property along the prototypes. -/
def stepFetch (h : Heap) (start : Option ObjId) (key : Key) (receiver : Value) (k : List Frame)
    (d : Nat) : Result :=
  match h.find start key with
  | .field { slot := .data v, .. } => give h v k d
  | .field { slot := .accessor g _, .. } =>
    if g.isUndefined then give h .undefined k d else go h (.apply g receiver [] false) k d
  | .native o =>
    match (h.obj o).kind with
    | .native _ n => ask h (.get n key.shown) (.nativeGet o key receiver :: k) d
    | _ => go h .absent k d
  | .none => go h .absent k d

/-- Reads a property of a value. A missing object is told apart from a
missing method when the property is to be called. -/
def readMember (r : Realm) (h : Heap) (base : Value) (key : Key) (called : Bool) (k : List Frame)
    (d : Nat) : Result :=
  match base with
  | .undefined | .null =>
    let what := if called then "undefined or null" else "undefined"
    raise r h "TypeError" ("Cannot read property '" ++ key.shown ++ "' of " ++ what) k d
  | .object o => go h (.fetch (some o) key base) k d
  | .string t =>
    match key with
    | .name "length" => give h (.ofNat t.length) k d
    | .index i =>
      match t.unit? i with
      | some u => give h (.string u) k d
      | none => go h (.fetch (some r.stringProto) key base) k d
    | key => go h (.fetch (some r.stringProto) key base) k d
  | .number _ => go h (.fetch (some r.numberProto) key base) k d
  | .bool _ => go h (.fetch (some r.boolProto) key base) k d
  | .symbol _ => go h (.fetch (some r.symbolProto) key base) k d
  | .bigint _ => go h (.fetch (some r.bigintProto) key base) k d

/-- Reads what a reference stands for. -/
def stepRead (r : Realm) (h : Heap) (ref : Reference) (k : List Frame) (d : Nat) : Result :=
  match ref with
  | .variable s i => give h (h.variableAt s i) k d
  | .global name => go h (.fetch (some r.global) (.name name) (.object r.global))
    (.readGlobal name false :: k) d
  | .member base key => readMember r h base key false k d
  | .element base key => go h (.keyOf key (.read base)) k d

/-- Does what a decision about a store asks for. -/
def carryOut (r : Realm) (h : Heap) (s : Heap.Stored) (o : ObjId) (key : Key) (v : Value)
    (strict : Bool) (k : List Frame) (d : Nat) : Result :=
  match s with
  | .put f => give (h.put o key f) v k d
  | .nothing => give h v k d
  | .setter f => go h (.apply f (.object o) [v] false) (.instead v :: k) d
  | .native n =>
    match (h.obj n).kind with
    | .native _ ref => ask h (.has ref key.shown) (.nativeAbove n o key v strict :: k) d
    | _ => give h v k d
  | .refused message => if strict then raise r h "TypeError" message k d else give h v k d

/-- Gives an array another length. -/
def storeLength (r : Realm) (h : Heap) (o : ObjId) (v : Value) (strict : Bool) (k : List Frame)
    (d : Nat) : Result :=
  let refuse (h : Heap) (message : String) : Result :=
    if strict then raise r h "TypeError" message k d else give h v k d
  match arrayLength? v, (h.obj o).kind with
  | some n, .array _ resizable =>
    if !resizable then refuse h "length is not writable"
    else
      match h.setLength o n with
      | (h, true) => give h v k d
      | (h, false) => refuse h "Cannot redefine property: length"
  | _, _ => raise r h "RangeError" "Invalid array length" k d

/-- Stores a property. -/
def stepStore (r : Realm) (h : Heap) (o : ObjId) (key : Key) (v : Value) (strict : Bool)
    (k : List Frame) (d : Nat) : Result :=
  match (h.obj o).kind, key with
  | .native _ _, .symbol _ =>
    if strict then raise r h "TypeError" "Dynamic objects do not support Symbol properties" k d
    else give h v k d
  | .native _ n, _ => ask h (.has n key.shown) (.nativeSet o key v strict :: k) d
  | .array _ _, .name "length" =>
    match v with
    | .object _ => go h (.primitive v .number) (.toNumber :: .lengthFirst o v strict :: k) d
    | .symbol _ | .bigint _ => go h (.give v) (.toNumber :: k) d
    | v => storeLength r h o v strict k d
  | _, _ => carryOut r h (h.store o key v) o key v strict k d

/-- Stores a property of a value. What is stored in a primitive is lost. -/
def writeMember (r : Realm) (h : Heap) (base : Value) (key : Key) (v : Value) (strict : Bool)
    (k : List Frame) (d : Nat) : Result :=
  match base with
  | .object o => go h (.store o key v strict) k d
  | base =>
    match toObject? r h base with
    | none => refuseNullish r h k d
    | some (h, o) => go h (.store o key v strict) (.instead v :: k) d

/-- Assigns to a reference. -/
def stepWrite (r : Realm) (h : Heap) (ref : Reference) (v : Value) (strict : Bool)
    (k : List Frame) (d : Nat) :
    Result :=
  match ref with
  | .variable s i =>
    if (h.scopes.getD s {}).constant then
      if strict then raise r h "TypeError" "Assignment to constant variable." k d else give h v k d
    else give (h.setVariable s i v) v k d
  | .global name =>
    match strict, h.find (some r.global) (.name name) with
    | true, .none => raise r h "ReferenceError" (name ++ " is not defined") k d
    | _, _ => go h (.store r.global (.name name) v strict) k d
  | .member base key => writeMember r h base key v strict k d
  | .element base key => go h (.keyOf key (.write base v strict)) k d

/-- Removes a property. -/
def deleteMember (r : Realm) (h : Heap) (base : Value) (key : Key) (strict : Bool)
    (k : List Frame) (d : Nat) :
    Result :=
  match toObject? r h base with
  | none => refuseNullish r h k d
  | some (h, o) =>
    match (h.obj o).kind, h.own? o key with
    | .native _ _, _ =>
      if key.isSymbol then give h (.bool true) k d
      else if strict then
        raise r h "TypeError" ("Could not delete property " ++ Quoted.quote key.shown ++
          " of a dynamic object") k d
      else give h (.bool false) k d
    | _, some { configurable := false, .. } =>
      if strict then
        raise r h "TypeError"
          ("Cannot delete property '" ++ key.shown ++ "' of " ++
          (objectTag r h (.object o)).toStringLossy) k d
      else give h (.bool false) k d
    | _, _ => give (h.remove o key) (.bool true) k d

/-- Looks for a property along the prototypes. -/
def hasMember (h : Heap) (o : ObjId) (key : Key) (k : List Frame) (d : Nat) : Result :=
  match h.find (some o) key with
  | .field _ => give h (.bool true) k d
  | .native n =>
    match (h.obj n).kind with
    | .native _ ref => ask h (.has ref key.shown) (.nativeHas n key :: k) d
    | _ => give h (.bool false) k d
  | .none => give h (.bool false) k d

/-- Does what a key was made out for. -/
def useKey (r : Realm) (h : Heap) (key : Key) (use : KeyUse) (k : List Frame) (d : Nat) : Result :=
  match use with
  | .read base => readMember r h base key false k d
  | .call base args env => readMember r h base key false (.callMember base key args env :: k) d
  | .write base v strict => writeMember r h base key v strict k d
  | .delete base strict => deleteMember r h base key strict k d
  | .find o => hasMember h o key k d
  | .define o descr => defineKey r h o key descr k d
  | .describe o =>
    match (h.obj o).kind, key with
    | .native _ _, .symbol _ => give h .undefined k d
    | .native _ n, _ => ask h (.get n key.shown) (.described :: k) d
    | _, _ =>
      match h.own? o key with
      | some f => let (h, v) := describeField r h f; give h v k d
      | none => give h .undefined k d
  | .ownProperty v => hasOwnKey r h v key k d
  | .enumerableProperty v =>
    match toObject? r h v with
    | none => refuseNullish r h k d
    | some (h, o) =>
      match (h.obj o).kind with
      | .native _ _ => hasOwnKey r h v key k d
      | _ => give h (.bool (((h.own? o key).map (·.enumerable)).getD false)) k d
  | .member o kind e rest env => go h (.eval e env) (.member o key kind rest env :: k) d

/-- Makes out the key that a value names. -/
def stepKeyOf (r : Realm) (h : Heap) (v : Value) (use : KeyUse) (k : List Frame)
    (d : Nat) : Result :=
  if v.isPrimitive then useKey r h v.key use k d else go h (.primitive v .text) (.keyed use :: k) d

/-! ### Calls -/

/-- What `this` is in a function: strict code gets it as it is, other code
gets an object. -/
def thisFor (r : Realm) (h : Heap) (strict : Bool) (this : Value) : Heap × Value :=
  if strict then (h, this)
  else
    match toObject? r h this with
    | some (h, o) => (h, .object o)
    | none => (h, .object r.global)

/-- The scope of a call, with what the parameters are given. -/
def callScope (f : Function) (scope : Option ScopeId) (args : List Value) : Scope where
  names := f.head.locals.map Prod.fst
  values := (f.head.locals.map fun (_, source) =>
    match source with
    | some i => args.getD i .undefined
    | none => .undefined).toArray
  parent := scope

/-- The object that holds the arguments of a call. -/
def newArguments (r : Realm) (h : Heap) (args : List Value) : Heap × ObjId :=
  h.alloc
    { kind := .arguments
      proto := some r.objectProto
      fields := ((args.zipIdx.map fun (v, i) => (Key.index i, Field.plain v)).toArray).push
        (.name "length", .hidden (.ofNat args.length)) }

/-- The scope of a call: parameters, variables and functions. -/
def enter (r : Realm) (h : Heap) (f : Function) (scope : Option ScopeId) (args : List Value) :
    Heap × ScopeId :=
  let names := f.head.locals.map Prod.fst
  let (h, s) := h.newScope (callScope f scope args)
  let h := if f.head.usesArguments then
      let (h, o) := newArguments r h args
      setNamed h names s "arguments" (.object o)
    else h
  (storeFunctions r h names s f.functions, s)

/-- Calls a value. -/
def stepApply (r : Realm) (limit : Nat) (h : Heap) (f this : Value) (args : List Value)
    (direct : Bool) (k : List Frame) (d : Nat) : Result :=
  match h.callable? f with
  | none =>
    match f with
    | .object _ => go h (.primitive f .text) (.toText :: .refusal "Not a function: " "" :: k) d
    | _ => refusePrimitive r h f k d
  | some (.bound g this bound) => go h (.apply (.object g) this (bound ++ args) false) k d
  | some (.closure g scope) =>
    if limit ≤ d then (h, .done .overflow)
    else
      let (h, s) := enter r h g scope args
      let (h, this) := thisFor r h g.head.strict this
      go h (.execAll g.body { scope := some s, this, strict := g.head.strict }) (.call d :: k)
        (if direct then d + 1 else d + 2)
  | some (.builtin b) =>
    if !direct then callBuiltin r h b this args k d
    else if limit ≤ d then (h, .done .overflow)
    else callBuiltin r h b this args (.call d :: k) (d + 1)
  | some (.native o method) =>
    if !direct then ask h (.call o method args) k d
    else if limit ≤ d then (h, .done .overflow)
    else ask h (.call o method args) (.call d :: k) (d + 1)

/-- The prototype of what a function of a program makes. -/
def instanceProto (r : Realm) (h : Heap) (o : ObjId) : ObjId :=
  match h.data? o (.name "prototype") with
  | some (.object p) => p
  | _ => r.objectProto

/-- Makes a new object with a function every realm has. -/
def constructBuiltin (r : Realm) (h : Heap) (b : Builtin) (args : List Value)
    (k : List Frame) (d : Nat) :
    Result :=
  let refuse (message : String) : Result := raise r h "TypeError" message k d
  match b with
  | .error _ | .object | .array | .function => callBuiltin r h b .undefined args k d
  | .string =>
    match args with
    | [] => let (h, o) := h.newWrapper r .string (.ofString ""); give h (.object o) k d
    | v :: _ => go h (.primitive v .text) (.toText :: .wrapText :: k) d
  | .number =>
    match args with
    | [] => let (h, o) := h.newWrapper r .number (.number 0.0); give h (.object o) k d
    | v :: _ => go h (.primitive v .number) (.numberMade true :: k) d
  | .boolean =>
    let (h, o) := h.newWrapper r .bool (.bool (args.getD 0 .undefined).truthy)
    give h (.object o) k d
  | .symbol => refuse "Symbol is not a constructor"
  | .bigint => refuse "BigInt is not a constructor"
  | _ => refuse "Value is not a constructor"

/-- Makes a new object with a function. -/
def stepInstantiate (r : Realm) (h : Heap) (f : Value) (args : List Value) (k : List Frame)
    (d : Nat) : Result :=
  match f, h.callable? f with
  | .object o, some (.closure g _) =>
    if !g.head.constructs then raise r h "TypeError" "Value is not a constructor" k d
    else
      let (h, made) := h.alloc { proto := some (instanceProto r h o) }
      go h (.apply f (.object made) args false) (.constructing made :: k) d
  | _, some (.bound g _ bound) => go h (.instantiate (.object g) (bound ++ args)) k d
  | _, some (.builtin b) => constructBuiltin r h b args k d
  | .object _, _ => raise r h "TypeError" "Value is not a constructor" k d
  | v, _ => refusePrimitive r h v k d

/-! ### Operators -/

/-- Applies an operator to two values. -/
def stepOperate (r : Realm) (h : Heap) (op : BinaryOp) (left right : Value) (k : List Frame)
    (d : Nat) : Result :=
  match operate? op left right with
  | some v => give h v k d
  | none =>
    match op with
    | .looseEq | .looseNe =>
      if left.isPrimitive then go h (.primitive right .default) (.primitiveRight op left :: k) d
      else go h (.primitive left .default) (.primitiveLeft op right :: k) d
    | .isIn =>
      match right with
      | .object o => go h (.keyOf left (.find o)) k d
      | _ => refusePrimitive r h right k d
    | .instanceOf =>
      match right with
      | .object f =>
        go h (.fetch (some f) (.symbol .hasInstance) right) (.instance_ left right :: k) d
      | _ => refusePrimitive r h right k d
    | .add => go h (.primitive left .default) (.primitiveLeft op right :: k) d
    | _ => go h (.primitive left .number) (.primitiveLeft op right :: k) d

/-- Applies an operator to two primitives. -/
def finishOperate (r : Realm) (h : Heap) (op : BinaryOp) (left right : Value) (k : List Frame)
    (d : Nat) : Result :=
  match op with
  | .looseEq => give h (.bool (left.looseEq right)) k d
  | .looseNe => give h (.bool (!left.looseEq right)) k d
  | _ =>
    match primitiveOp? op left right with
    | some v => give h v k d
    | none =>
      let (kind, message) := operandFault op left right
      raise r h kind message k d

/-- Applies an operator to one primitive. -/
def finishUnary (r : Realm) (h : Heap) (op : UnaryOp) (v : Value) (k : List Frame)
    (d : Nat) : Result :=
  match v, v.number?, op with
  | .bigint n, _, .minus => give h (.bigint (-n)) k d
  | .bigint n, _, .bitNot => give h (.bigint (-n - 1)) k d
  | .bigint _, _, _ => raise r h "TypeError" "Cannot convert a BigInt value to a number" k d
  | _, some n, .minus => give h (.number (-n)) k d
  | _, some n, .bitNot => give h (.number (ofWord (~~~(toWord n)))) k d
  | _, some n, _ => give h (.number n) k d
  | _, none, _ => raise r h "TypeError" "Cannot convert a Symbol value to a number" k d

/-- Is a value among those that another, whose own test is not there,
makes? -/
def plainInstance (h : Heap) (left right : Value) (k : List Frame) (d : Nat) : Result :=
  match right, h.callable? right with
  | .object f, some _ => ordinaryInstance h f left k d
  | right, _ =>
    go h (.primitive right .text)
      (.toText :: .refusal "Expecting a function in instanceof check, but got " "" :: k) d

/-! ### Results -/

/-- Hands a value to the frame on top. -/
def stepGive (r : Realm) (h : Heap) (v : Value) (frame : Frame) (k : List Frame)
    (d : Nat) : Result :=
  match frame with
  | .refMember key => go h (.refers (.member v key)) k d
  | .refIndex key env =>
    match value? r h env key with
    | some i => go h (.refers (.element v i)) k d
    | none => go h (.eval key env) (.refKey v :: k) d
  | .refKey base => go h (.refers (.element base v)) k d
  | .readGlobal _ _ => give h v k d
  | .keyed use => stepKeyOf r h v use k d
  | .callMember this _ args env => nextArgument r h (.call v this) [] args env k d
  | .callGlobal _ args env => nextArgument r h (.call v .undefined) [] args env k d
  | .callValue args env => nextArgument r h (.call v .undefined) [] args env k d
  | .newCallee args env => nextArgument r h (.new v) [] args env k d
  | .argument call done rest env => nextArgument r h call (v :: done) rest env k d
  | .refusal before after =>
    raise r h "TypeError" (before ++ (v.text?.getD default).toStringLossy ++ after) k d
  | .call depth => give h v k depth
  | .constructing o => give h (if v.isPrimitive then .object o else v) k d
  | .binaryRight op right env =>
    match value? r h env right with
    | some w => go h (.operate op v w) k d
    | none => go h (.eval right env) (.binaryApply op v :: k) d
  | .binaryApply op left => go h (.operate op left v) k d
  | .primitiveLeft op right =>
    match op with
    | .looseEq | .looseNe => finishOperate r h op v right k d
    | _ => go h (.primitive right (if op = .add then .default else .number))
      (.primitiveRight op v :: k) d
  | .primitiveRight op left => finishOperate r h op left v k d
  | .instance_ left right =>
    if v.isNullish then plainInstance h left right k d
    else go h (.apply v right [left] false) (.truth :: k) d
  | .instanceProto left =>
    match left, v with
    | .object o, .object p => give h (.bool (h.inherits p (h.objects.size + 1) (h.obj o).proto)) k d
    | _, _ => raise r h "TypeError" "prototype is not an object" k d
  | .truth => give h (.bool v.truthy) k d
  | .unary op =>
    match op with
    | .not => give h (.bool (!v.truthy)) k d
    | .typeOf => give h (.ofString (typeName h v)) k d
    | .void => give h .undefined k d
    | op => go h (.primitive v .number) (.numeric op :: k) d
  | .numeric op => finishUnary r h op v k d
  | .logical op right env =>
    let settled := match op with
      | .and => !v.truthy
      | .or => v.truthy
      | .coalesce => !v.isNullish
    if settled then give h v k d else go h (.eval right env) k d
  | .conditional yes no env => go h (.eval (if v.truthy then yes else no) env) k d
  | .second e env => go h (.eval e env) k d
  | .assignOld ref op value env =>
    go h (.eval value env) (.binaryApply op v :: .assignValue ref env.strict :: k) d
  | .assignValue ref strict => go h (.writeRef ref v strict) (.instead v :: k) d
  | .updateOld ref before delta strict =>
    go h (.primitive v .number) (.updateNumber ref before delta strict :: k) d
  | .updateNumber ref before delta strict =>
    let store (old new : Value) : Result :=
      go h (.writeRef ref new strict) (.instead (if before then new else old) :: k) d
    match v, v.number? with
    | .bigint n, _ => store (.bigint n) (.bigint (n + delta))
    | _, some n => store (.number n) (.number (stepNumber delta n))
    | _, none => raise r h "TypeError" "Cannot convert a Symbol value to a number" k d
  | .instead w => give h w k d
  | .lengthFirst o w strict =>
    go h (.primitive w .number) (.toNumber :: .lengthSecond o strict :: k) d
  | .lengthSecond o strict => storeLength r h o v strict k d
  | .lengthDefined o descr again =>
    match again with
    | some w => go h (.primitive w .number) (.toNumber :: .lengthDefined o descr none :: k) d
    | none => defineKey r h o (.name "length") { descr with value := some v } k d
  | .item done rest env => nextItem r h (some v :: done) rest env k d
  | .member o key kind rest env => nextMember (putMember h o key kind v) o rest env k d
  | .nativeGet _ _ _ => give h v k d
  | .nativeHas n key =>
    if v.truthy then give h (.bool true) k d
    else
      match (h.obj n).proto with
      | some p => hasMember h p key k d
      | none => give h (.bool false) k d
  | .nativeSet o key w strict =>
    let set : Result := match (h.obj o).kind with
      | .native _ n => ask h (.set n key.shown w) (.instead w :: k) d
      | _ => give h w k d
    if v.truthy then set
    else
      match h.storeBelow o (h.obj o).proto key w with
      | .put _ => set
      | s => carryOut r h s o key w strict k d
  | .nativeAbove n o key w strict =>
    if v.truthy then
      match (h.obj n).kind with
      | .native _ ref => ask h (.set ref key.shown w) (.instead w :: k) d
      | _ => give h w k d
    else carryOut r h (h.storeBelow o (h.obj n).proto key w) o key w strict k d
  | .toText =>
    match v.text? with
    | some t => give h (.string t) k d
    | none => raise r h "TypeError" "Cannot convert a Symbol value to a string" k d
  | .toTextOrSymbol => give h (.string v.textOrSymbol) k d
  | .toNumber => finishUnary r h .plus v k d
  | .primitiveExotic o hint methods =>
    if v.isNullish then nextMethod r h o methods k d
    else go h (.apply v (.object o) [.ofString hint] false) (.primitiveChecked :: k) d
  | .primitiveChecked =>
    if v.isPrimitive then give h v k d
    else raise r h "TypeError" "Cannot convert object to primitive value" k d
  | .primitiveMethod o rest =>
    if (h.callable? v).isSome then go h (.apply v (.object o) [] false)
      (.primitiveResult o rest :: k) d
    else nextMethod r h o rest k d
  | .primitiveResult o rest => if v.isPrimitive then give h v k d else nextMethod r h o rest k d
  | .descriptorField o key desc field rest descr =>
    nextDescriptorField r h o key desc rest (descr.with field v) k d
  | .joinLength o separator =>
    let length := match v.number? with
      | some n => if n.isNaN || n < 0.0 then 0 else n.toUInt64.toNat
      | none => 0
    if separator.isUndefined then joinNext h o (.plain ",") 0 length [] k d
    else go h (.primitive separator .text) (.toText :: .joinSeparator o length :: k) d
  | .joinSeparator o length => joinNext h o (v.text?.getD default) 0 length [] k d
  | .joinItem o separator next length done =>
    if v.isNullish then joinNext h o separator (next + 1) length (.plain "" :: done) k d
    else go h (.primitive v .text) (.toText :: .joinText o separator next length done :: k) d
  | .joinText o separator next length done =>
    joinNext h o separator (next + 1) length (v.text?.getD default :: done) k d
  | .joinFound o =>
    if (h.callable? v).isSome then go h (.apply v (.object o) [] false) k d
    else give h (.string (objectTag r h (.object o))) k d
  | .logText level done rest => logNext h level ((v.text?.getD default).toBytes :: done) rest k d
  | .errorMessage kind => makeError r h kind v.text? k d
  | .errorName o =>
    let v := if v.isUndefined then .ofString "Error" else v
    go h (.primitive v .text) (.toText :: .errorNameText o :: k) d
  | .errorNameText o =>
    go h (.fetch (some o) (.name "message") (.object o)) (.errorDetail (v.text?.getD default) :: k)
      d
  | .errorDetail name =>
    let v := if v.isUndefined then .ofString "" else v
    go h (.primitive v .text) (.toText :: .errorDetailText name :: k) d
  | .errorDetailText name =>
    let detail := v.text?.getD default
    give h (.string (if name.isEmpty then detail else if detail.isEmpty then name
      else name ++ .plain ": " ++ detail)) k d
  | .symbolText =>
    give { h with symbols := h.symbols + 1 } (.symbol (.free h.symbols v.text?)) k d
  | .wrapText => let (h, o) := h.newWrapper r .string v; give h (.object o) k d
  | .numberMade wrapped =>
    let made (n : Float) : Result :=
      if wrapped then let (h, o) := h.newWrapper r .number (.number n); give h (.object o) k d
      else give h (.number n) k d
    match v, v.number? with
    | .bigint n, _ => made (Float.ofInt n)
    | _, some n => made n
    | _, none => raise r h "TypeError" "Cannot convert a Symbol value to a number" k d
  | .numberTest finite =>
    match v with
    | .number n => give h (.bool (if finite then n.isFinite else n.isNaN)) k d
    | _ => give h (.bool false) k d
  | .functionTexts done rest => nextFunctionText r h (v.text?.getD default :: done) rest k d
  | .textMethod b args => give h (textMethod b (v.text?.getD default) args) k d
  | .described => let (h, w) := describeField r h (.plain v); give h w k d
  | .exprDone kept => go (keep kept h v) (.complete .normal) k d
  | .varInit name rest env =>
    go h (.writeRef (resolve h env name) v env.strict) (.varRest rest env :: k) d
  | .varRest rest env => nextVariable r h rest env k d
  | .ifTest yes no env =>
    if v.truthy then go h (.exec yes env) k d
    else
      match no with
      | some s => go h (.exec s env) k d
      | none => go h (.complete .normal) k d
  | .loopTest loop env => afterTest r h v loop env k d
  | .forUpdate loop env => go h (.iterate loop env) k d
  | .forInObject loop env => startForIn r h v loop env k d
  | .forInHas loop env o key rest =>
    match v.truthy, loop with
    | true, .forIn _ _ target _ _ => go h (.refer target env) (.forInRef loop env o key rest :: k) d
    | _, _ => go h (.forInNext loop env o rest) k d
  | .forInStored loop env o rest =>
    match loop with
    | .forIn kept _ _ _ body =>
      go (clear kept h) (.exec body env) (.forInBody loop env o rest :: k) d
    | _ => go h (.complete .normal) k d
  | .switchSubject cases env => nextCase h v cases cases env k d
  | .switchTest subject rest cases env =>
    if subject.strictEq v then runCases h rest env k d
    else nextCase h subject (rest.drop 1) cases env k d
  | .returnValue => go h (.complete (.return v)) k d
  | .throwValue => go h (.throw v) k d
  | _ => give h v k d

/-- Tells the frame on top that there is no such property. -/
def stepAbsent (r : Realm) (h : Heap) (frame : Frame) (k : List Frame) (d : Nat) : Result :=
  match frame with
  | .readGlobal name quiet =>
    if quiet then give h .undefined k d
    else raise r h "ReferenceError" (name ++ " is not defined") k d
  | .callMember _ key args env => nextArgument r h (.missing key) [] args env k d
  | .callGlobal name args env => nextArgument r h (.unknown name) [] args env k d
  | .nativeGet o key receiver => go h (.fetch (h.obj o).proto key receiver) k d
  | .descriptorField o key desc _ rest descr => nextDescriptorField r h o key desc rest descr k d
  | .described => give h .undefined k d
  | frame => stepGive r h .undefined frame k d

/-- Hands a reference to the frame on top. -/
def stepRefers (r : Realm) (h : Heap) (ref : Reference) (frame : Frame) (k : List Frame)
    (d : Nat) : Result :=
  match frame with
  | .read => go h (.readRef ref) k d
  | .typeOfRef =>
    match ref with
    | .global name =>
      go h (.fetch (some r.global) (.name name) (.object r.global)) (.readGlobal name true ::
        .unary .typeOf :: k) d
    | ref => go h (.readRef ref) (.unary .typeOf :: k) d
  | .deleteRef strict =>
    match ref with
    | .variable _ _ => give h (.bool false) k d
    | .global name => deleteMember r h (.object r.global) (.name name) strict k d
    | .member base key => deleteMember r h base key strict k d
    | .element base key => go h (.keyOf key (.delete base strict)) k d
  | .callRef args env =>
    match ref with
    | .member base key => readMember r h base key true (.callMember base key args env :: k) d
    | .element base key => go h (.keyOf key (.call base args env)) k d
    | .global name =>
      go h (.fetch (some r.global) (.name name) (.object r.global)) (.callGlobal name args env :: k)
        d
    | ref => go h (.readRef ref) (.callValue args env :: k) d
  | .assignRef op value env =>
    match op with
    | none =>
      match value? r h env value with
      | some v => go h (.writeRef ref v env.strict) (.instead v :: k) d
      | none => go h (.eval value env) (.assignValue ref env.strict :: k) d
    | some op => go h (.readRef ref) (.assignOld ref op value env :: k) d
  | .updateRef before delta strict =>
    go h (.readRef ref) (.updateOld ref before delta strict :: k) d
  | .forInRef loop env o key rest =>
    go h (.writeRef ref (.ofKey key) env.strict) (.forInStored loop env o rest :: k) d
  | _ => go h (.readRef ref) (frame :: k) d

/-- Hands names to the frame on top. -/
def stepNames (r : Realm) (h : Heap) (keys : List Key) (frame : Frame) (k : List Frame)
    (d : Nat) : Result :=
  match frame with
  | .keysArray =>
    let (h, o) := h.newArray r (keys.map fun key => some (.ofKey key))
    give h (.object o) k d
  | .forInKeys loop env o =>
    let inherited := h.keysFrom (h.objects.size + 1) keys (h.obj o).proto
    go h (.forInNext loop env o (keys ++ inherited)) k d
  | _ => give h .undefined k d

/-- Tells the frame on top that a statement has ended. -/
def stepComplete (r : Realm) (h : Heap) (c : Completion) (frame : Frame) (k : List Frame)
    (d : Nat) : Result :=
  match frame with
  | .statements rest env =>
    match c with
    | .normal => go h (.execAll rest env) k d
    | c => go h (.complete c) k d
  | .loopBody loop env =>
    if c.repeats loop.loopLabel then afterBody r h loop env k d
    else if c.ends loop.loopLabel then go h (.complete .normal) k d
    else go h (.complete c) k d
  | .forInit loop env =>
    match loop with
    | .for kept _ _ _ _ _ => go (clear kept h) (.iterate loop env) k d
    | _ => go h (.complete c) k d
  | .forInBody loop env o rest =>
    if c.repeats loop.loopLabel then go h (.forInNext loop env o rest) k d
    else if c.ends loop.loopLabel then go h (.complete .normal) k d
    else go h (.complete c) k d
  | .switchBody => if c.ends none then go h (.complete .normal) k d else go h (.complete c) k d
  | .label l =>
    match c with
    | .break (some m) => go h (.complete (if m = l then .normal else c)) k d
    | c => go h (.complete c) k d
  | .call depth =>
    match c with
    | .return v => give h v k depth
    | _ => give h .undefined k depth
  | .tryBody _ finalizer env | .handlerBody finalizer env =>
    match finalizer with
    | some s => go h (.exec s env) (.finalizerBody (.completion c) :: k) d
    | none => go h (.complete c) k d
  | .finalizerBody pending =>
    match c, pending with
    | .normal, .completion c => go h (.complete c) k d
    | .normal, .throw v => go h (.throw v) k d
    | c, _ => go h (.complete c) k d
  | _ => go h (.complete c) k d

/-- Unwinds one frame. -/
def stepThrow (r : Realm) (h : Heap) (v : Value) (frame : Frame) (k : List Frame)
    (d : Nat) : Result :=
  let finally_ (finalizer : Option Stmt) (env : Env) : Result :=
    match finalizer with
    | some s => go h (.exec s env) (.finalizerBody (.throw v) :: k) d
    | none => go h (.throw v) k d
  match frame with
  | .tryBody (some (.mk param functions body)) finalizer env =>
    let (h, inner) := match param with
      | some name =>
        let (h, s) := h.newScope { names := [name], values := #[v], parent := env.scope }
        (h, { env with scope := some s })
      | none => (h, env)
    let (h, inner) := bindFunctions r h functions inner
    go h (.execAll body inner) (.handlerBody finalizer env :: k) d
  | .tryBody none finalizer env => finally_ finalizer env
  | .handlerBody finalizer env => finally_ finalizer env
  | .call depth => go h (.throw v) k depth
  | _ => go h (.throw v) k d

/-- Asks an object for a primitive: first a method of the object's own
choice, then the usual two. -/
def stepPrimitive (r : Realm) (h : Heap) (v : Value) (hint : Hint) (k : List Frame)
    (d : Nat) : Result :=
  match v with
  | .object o =>
    let methods := if hint = .text then ["toString", "valueOf"] else ["valueOf", "toString"]
    match h.find (some o) (.symbol .toPrimitive) with
    | .none => nextMethod r h o methods k d
    | _ =>
      let word := match hint with
        | .default => "default"
        | .number => "number"
        | .text => "string"
      go h (.fetch (some o) (.symbol .toPrimitive) v) (.primitiveExotic o word methods :: k) d
  | v => give h v k d

/-! ### Steps -/

/-- Makes one step. -/
def step (r : Realm) (limit : Nat) (h : Heap) (m : Machine) : Result :=
  let k := m.stack
  let d := m.depth
  match m.control with
  | .eval e env =>
    match act? r h env e with
    | some (effect, v) => give (effect.apply h) v k d
    | none => stepEval r h e env k d
  | .refer e env => stepRefer r h e env k d
  | .exec s env =>
    match deed? r env h s with
    | some deed => go (deed.apply h) (.complete .normal) k d
    | none => stepExec r h s env k d
  | .execAll ss env =>
    match runAll r env h ss with
    | (h, []) => go h (.complete .normal) k d
    | (h, [s]) => stepExec r h s env k d
    | (h, s :: rest) => stepExec r h s env (.statements rest env :: k) d
  | .give v =>
    match k with
    | [] => (h, .done (.value v))
    | frame :: k => stepGive r h v frame k d
  | .absent =>
    match k with
    | [] => (h, .done .absent)
    | frame :: k => stepAbsent r h frame k d
  | .refers ref =>
    match k with
    | [] => go h (.readRef ref) [] d
    | frame :: k => stepRefers r h ref frame k d
  | .names keys =>
    match k with
    | [] => (h, .done (.value .undefined))
    | frame :: k => stepNames r h keys frame k d
  | .complete c =>
    match k with
    | [] => let v := h.result; (h, .done (.value v))
    | frame :: k => stepComplete r h c frame k d
  | .throw v =>
    match k with
    | [] => (h, .done (.thrown v))
    | frame :: k => stepThrow r h v frame k d
  | .readRef ref => stepRead r h ref k d
  | .writeRef ref v strict => stepWrite r h ref v strict k d
  | .keyOf v use => stepKeyOf r h v use k d
  | .fetch start key receiver => stepFetch h start key receiver k d
  | .store o key v strict => stepStore r h o key v strict k d
  | .apply f this args direct => stepApply r limit h f this args direct k d
  | .instantiate f args => stepInstantiate r h f args k d
  | .primitive v hint => stepPrimitive r h v hint k d
  | .operate op left right => stepOperate r h op left right k d
  | .iterate loop env => stepIterate r h loop env k d
  | .forInNext loop env o keys => stepForIn h loop env o keys k d

/-- Why a run stopped. -/
inductive Stop
  | ask (q : Request) (stack : List Frame) (depth : Nat)
  | done (o : Outcome)
  /-- The steps allowed are used up. -/
  | spent

/-- The effort a run may make. One that makes more has run for too
long. -/
def mostEffort : Nat := 6000000

/-- Makes at most `fuel` steps, and gives the number of steps left. -/
def run (r : Realm) (limit : Nat) : (fuel : Nat) → Heap → Machine → Heap × Nat × Stop
  | 0, h, _ => (h, 0, .spent)
  | fuel + 1, h, m =>
    match step r limit h m with
    | (h, .next m) => if mostEffort < h.effort then (h, 0, .spent) else run r limit fuel h m
    | (h, .ask q stack depth) => (h, fuel, .ask q stack depth)
    | (h, .done o) => (h, fuel, .done o)

/-! ### Programs -/

/-- Binds a function of a program to a global name. What is there already
and must stay keeps everything but its value. -/
def declareFunction (r : Realm) (h : Heap) (name : String) (f : Function) : Heap :=
  let (h, o) := h.newClosure r f none
  match h.own? r.global (.name name) with
  | some old =>
    if old.configurable then h.put r.global (.name name)
      { slot := .data (.object o), configurable := false }
    else h.put r.global (.name name) { old with slot := .data (.object o) }
  | none => h.put r.global (.name name) { slot := .data (.object o), configurable := false }

/-- A function of a program whose name is taken by something that must
stay. -/
def refusedFunction? (r : Realm) (h : Heap) (p : Program) : Option String :=
  (p.functions.find? fun (name, _) =>
    match h.own? r.global (.name name) with
    | some { slot := .data _, writable := true, enumerable := true, .. } => false
    | some old => !old.configurable
    | none => false).map Prod.fst

/-- Prepares a program: its variables exist before it runs, as properties
of the global object, and its functions are in place. -/
def prepare (r : Realm) (h : Heap) (p : Program) : Heap :=
  let h := p.locals.foldl (fun h name =>
    if (h.own? r.global (.name name)).isSome then h
    else h.put r.global (.name name) { slot := .data .undefined, configurable := false }) h
  let h := p.functions.foldl (fun h (name, f) => declareFunction r h name f) h
  { h with result := .undefined }

/-- The machine that runs a program. -/
def Machine.ofProgram (r : Realm) (p : Program) (depth : Nat) : Machine where
  control := .execAll p.body { scope := none, this := .object r.global, strict := p.strict }
  depth := depth

end ObjectBridge.Script

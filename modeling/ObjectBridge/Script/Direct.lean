import ObjectBridge.Script.Machine

/-!
# `ObjectBridge.Script.Direct`: what can be done at once

Most expressions of a program need no machine: they read variables and
properties, compute with primitives, and store what comes of it. `value?`
evaluates an expression that does no more than read, `act?` one that
stores once, at its end, and `deed?` says what a statement made of such
expressions does. All of them decline whenever a function would have to
be called, an object made, or an error thrown; the machine then starts
from the beginning, which does no harm, since nothing has happened yet.
-/

set_option autoImplicit false

namespace ObjectBridge.Script

/-- What a name refers to. -/
def resolve (h : Heap) (env : Env) (name : String) : Reference :=
  match h.findVariable env.scope name with
  | some (s, i) => .variable s i
  | none => .global name

/-- A property of a value that can be read without a call. A property
that is not there reads as `undefined`. -/
def readDirect? (r : Realm) (h : Heap) (base : Value) (key : Key) : Option Value :=
  let search (o : ObjId) : Option Value :=
    match h.find (some o) key with
    | .field { slot := .data v, .. } => some v
    | .none => some .undefined
    | _ => none
  match base with
  | .object o => search o
  | .string t =>
    match key with
    | .name "length" => some (.ofNat t.length)
    | .index i =>
      match t.unit? i with
      | some u => some (.string u)
      | none => search r.stringProto
    | _ => search r.stringProto
  | .number _ => search r.numberProto
  | .bool _ => search r.boolProto
  | _ => none

/-- The value of a variable that is there. -/
def readVariable? (r : Realm) (h : Heap) (env : Env) (name : String) : Option Value :=
  match h.findVariable env.scope name with
  | some (s, i) => some (h.variableAt s i)
  | none =>
    match h.own? r.global (.name name) with
    | some { slot := .data v, .. } => some v
    | _ => none

/-- Applies an operator that needs no object's help. -/
def operate? (op : BinaryOp) (a b : Value) : Option Value :=
  match op with
  | .strictEq => some (.bool (a.strictEq b))
  | .strictNe => some (.bool !(a.strictEq b))
  | .looseEq | .looseNe =>
    if a.isPrimitive = b.isPrimitive ∨ a.isNullish ∨ b.isNullish then
      some (.bool (a.looseEq b != (op = .looseNe)))
    else none
  | .isIn | .instanceOf => none
  | _ => if a.isPrimitive && b.isPrimitive then primitiveOp? op a b else none

/-- The value of an expression that only reads. -/
def value? (r : Realm) (h : Heap) (env : Env) : Expr → Option Value
  | .number n => some (.number n)
  | .bigint n => some (.bigint n)
  | .string t => some (.string t)
  | .bool b => some (.bool b)
  | .null => some .null
  | .this => some env.this
  | .ident name => readVariable? r h env name
  | .member base key =>
    match value? r h env base with
    | some b => readDirect? r h b key.val
    | none => none
  | .index base key =>
    match value? r h env base, value? r h env key with
    | some b, some k => if k.isPrimitive then readDirect? r h b k.key else none
    | _, _ => none
  | .unary op e =>
    match value? r h env e with
    | some v =>
      match op, v with
      | .not, v => some (.bool !v.truthy)
      | .typeOf, v => some (.ofString (typeName h v))
      | .void, _ => some .undefined
      | .minus, .number n => some (.number (-n))
      | .plus, .number n => some (.number n)
      | _, _ => none
    | none => none
  | .binary op left right =>
    match value? r h env left with
    | some a =>
      match value? r h env right with
      | some b => operate? op a b
      | none => none
    | none => none
  | .logical op left right =>
    match value? r h env left with
    | some a =>
      let settled := match op with
        | .and => !a.truthy
        | .or => a.truthy
        | .coalesce => !a.isNullish
      if settled then some a else value? r h env right
    | none => none
  | .conditional test yes no =>
    match value? r h env test with
    | some v => if v.truthy then value? r h env yes else value? r h env no
    | none => none
  | _ => none

/-- What an expression or a statement changes. -/
inductive Effect
  | none
  | setVariable (s : ScopeId) (place : Nat) (v : Value)
  | put (o : ObjId) (key : Key) (f : Field)

def Effect.apply (h : Heap) : Effect → Heap
  | .none => h
  | .setVariable s place v => h.setVariable s place v
  | .put o key f => h.put o key f

/-- Assigns to a variable that is there. -/
def assignVariable? (r : Realm) (h : Heap) (env : Env) (name : String) (v : Value) :
    Option Effect :=
  match h.findVariable env.scope name with
  | some (s, i) => if (h.scopes.getD s {}).constant then none else some (.setVariable s i v)
  | none =>
    match h.own? r.global (.name name) with
    | some { slot := .data _, writable := true, enumerable, configurable } =>
      some (.put r.global (.name name)
        { slot := .data v, writable := true, enumerable, configurable })
    | _ => none

/-- Stores a property of an object, when nothing has to be asked or
refused. -/
def assignProperty? (h : Heap) (base : Value) (key : Key) (v : Value) : Option Effect :=
  match base with
  | .object o =>
    match (h.obj o).kind, key with
    | .native _ _, _ => none
    | .array _ _, .name "length" => none
    | _, _ =>
      match h.store o key v with
      | .put f => some (.put o key f)
      | _ => none
  | _ => none

/-- What an expression that may store at its end changes, and its
value. -/
def act? (r : Realm) (h : Heap) (env : Env) (e : Expr) : Option (Effect × Value) :=
  match e with
  | .assign (.ident name) none value =>
    match value? r h env value with
    | some v => (assignVariable? r h env name v).map (·, v)
    | none => none
  | .assign (.ident name) (some op) value =>
    match readVariable? r h env name, value? r h env value with
    | some old, some new =>
      match operate? op old new with
      | some v => (assignVariable? r h env name v).map (·, v)
      | none => none
    | _, _ => none
  | .assign (.member base key) none value =>
    match value? r h env base, value? r h env value with
    | some b, some v => (assignProperty? h b key.val v).map (·, v)
    | _, _ => none
  | .assign (.index base key) none value =>
    match value? r h env base, value? r h env key, value? r h env value with
    | some b, some k, some v => if k.isPrimitive then (assignProperty? h b k.key v).map (·, v)
    else none
    | _, _, _ => none
  | .update before delta (.ident name) =>
    match readVariable? r h env name with
    | some (.number n) =>
      let new := Value.number (stepNumber delta n)
      (assignVariable? r h env name new).map (·, if before then new else .number n)
    | _ => none
  | e => (value? r h env e).map (.none, ·)

/-- Drops the value of the program so far, where a statement counts. -/
def clear (kept : Bool) (h : Heap) : Heap := if kept then { h with result := .undefined } else h

/-- Keeps the value of an expression statement that counts. -/
def keep (kept : Bool) (h : Heap) (v : Value) : Heap := if kept then { h with result := v } else h

/-- What a statement does: its effect, and the value of the program if it
sets that. -/
abbrev Deed := Effect × Option Value

def Deed.apply (h : Heap) (d : Deed) : Heap :=
  match d.2 with
  | some v => { d.1.apply h with result := v }
  | none => d.1.apply h

/-- Does a deed after the value of the program was dropped. -/
def Deed.afterClear (kept : Bool) (d : Deed) : Deed :=
  (d.1, d.2.or (if kept then some .undefined else none))

/-- What a statement that needs no machine does. -/
def deed? (r : Realm) (env : Env) (h : Heap) : Stmt → Option Deed
  | .empty kept => some (.none, if kept then some .undefined else none)
  | .expr e kept => (act? r h env e).map fun (effect, v) => (effect, if kept then some v else none)
  | .var [] => some (.none, none)
  | .var [(_, none)] => some (.none, none)
  | .var [(name, some e)] =>
    match value? r h env e with
    | some v => (assignVariable? r h env name v).map (·, none)
    | none => none
  | .block [] [] => some (.none, none)
  | .block [] [s] => deed? r env h s
  | .cond kept test yes no =>
    match value? r h env test with
    | some v =>
      if v.truthy then (deed? r env h yes).map (Deed.afterClear kept)
      else
        match no with
        | some s => (deed? r env h s).map (Deed.afterClear kept)
        | none => some (Deed.afterClear kept (.none, none))
    | none => none
  | _ => none

/-- Does statements from the front as long as they need no machine, and
gives the others. -/
def runAll (r : Realm) (env : Env) : Heap → List Stmt → Heap × List Stmt
  | h, [] => (h, [])
  | h, s :: rest =>
    match deed? r env h s with
    | some d => runAll r env (d.apply h) rest
    | none => (h, s :: rest)

end ObjectBridge.Script

import ObjectBridge.Bridge.Native
import ObjectBridge.Builtin.Behaviour

/-!
# `ObjectBridge.Builtin.StandIn`: native code made to order

A stand-in is native code that does one simple thing: it answers with a
fixed variant, repeats an argument, fails, throws, keeps a variant in a
drawer, or tells what it was called with. Graphs of stand-ins, alone or
together with the built-in classes, show what the bridge does with native
code of every kind.
-/

set_option autoImplicit false

namespace ObjectBridge

/-- A variant that a stand-in was given, or is to look up under its name
when it runs. -/
inductive Given
  | value (v : Variant)
  | kept (name : String)

/-- Code that stands in for native code. -/
inductive StandIn
  | builtin (b : Behaviour)
  /-- Answers with a copy of a variant. -/
  | constant (g : Given)
  /-- Answers with a copy of an argument, or with nothing. -/
  | echo (i : Nat)
  /-- Answers with the number of arguments and their texts. -/
  | listArguments
  | fail (message : Bytes)
  /-- Throws a variant, of whose object it takes a reference. -/
  | raise (g : Given)
  /-- Throws a variant with words around it. -/
  | raiseWith (context : Bytes) (g : Given)
  /-- Answers with a copy of what a drawer holds. -/
  | load (drawer : String)
  /-- Puts an argument in a drawer, without taking a reference. -/
  | store (drawer : String)
  /-- Answers with a new proxy of the node of that name. -/
  | wrap (node : String)
  /-- Passes an argument through the native side. -/
  | native
  /-- Tells which services it was called with. -/
  | services

/-- The variant itself. A name under which nothing is kept stands for
null. -/
def Given.variant (g : Given) : M StandIn Variant := do
  match g with
  | .value v => return v
  | .kept name => return ((← get).kept.find? name).getD .null

namespace StandIn

/-- The failure of throwing a variant. -/
def thrown (g : Given) : M StandIn Failure := do
  match ← g.variant with
  | .object o =>
    retain o
    return .thrown (.object o)
  | v => return .thrown v

/-- A truth value in words. -/
def truth (b : Bool) : String := if b then "true" else "false"

/-- What a context offers, in words. -/
def servicesText (ctx : Context) : M StandIn String := do
  let present := ((← get).instanceOf? ctx).isSome
  let policy := (← accessorFor ctx).policy
  let enc ← encodingFor ctx
  return "instance=" ++ truth present ++ " skip=" ++ truth policy.skipExistenceCheck ++ " missing="
    ++ policy.missing.name ++ " wide=" ++ enc.name

/-- Runs a stand-in. -/
def run (ops : HostOps StandIn) (ctx : Context) (s : StandIn) (args : List Variant) :
    M StandIn (Except Failure Variant) := do
  match s with
  | .builtin b => Behaviour.run .builtin ops ctx b args
  | .constant g => copyVariant ctx.host (← g.variant)
  | .echo i => copyVariant ctx.host (args.getD i .void)
  | .listArguments =>
    valueFromString ctx.host (.ofString (toString args.length ++ ":")
      ++ Bytes.intercalate (.ofString ",") (args.map Variant.text))
  | .fail message => return .error (.message message)
  | .raise g => return .error (← thrown g)
  | .raiseWith context g => return .error (.wrapped context (← thrown g))
  | .load drawer => copyVariant ctx.host (((← get).drawers.find? drawer).getD .void)
  | .store drawer =>
    modify fun w => { w with drawers := w.drawers.insert drawer (args.headD .void) }
    return .ok .void
  | .wrap name =>
    match (← get).nodeNames.find? name with
    | some n => return .ok (.object (← newProxy ctx n))
    | none => throw .fault
  | .native => (NativeValue.ofVariant (args.headD .void)).toVariant ctx.host
  | .services => valueFromString ctx.host (.ofString (← servicesText ctx))

end StandIn

instance : Native StandIn := { call := StandIn.run }

end ObjectBridge

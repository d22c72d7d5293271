import ObjectBridge.Builtin.StandIn
import ObjectBridge.Proofs.Bridge.Tallies
import ObjectBridge.Proofs.Builtin.Counter

/-!
# `ObjectBridge.Proofs.Builtin.Getters`: built-in code that reads a property

A getter is native code that is called without arguments. No built-in
member and no stand-in looks at the tallies then, so that a graph of them
is read the same whatever has been counted (`StandIn.heedlessGetters`).
-/

set_option autoImplicit false

namespace ObjectBridge

variable {β : Type}

/-- Making a string of wide text does not heed the tallies. -/
theorem heedless_valueFromWide (host : HostId) (enc : WideEncoding) (units : List UInt32) :
    Heedless (valueFromWide host enc units : M β (Except Failure Variant)) := by
  intro w
  unfold valueFromWide
  split
  · exact heedless_valueFromString host _ w
  · exact .pure _

/-- Nor does copying a value. -/
theorem heedless_copyVariant (host : HostId) (v : Variant) :
    Heedless (copyVariant host v : M β (Except Failure Variant)) := by
  intro w
  cases v with
  | string bytes => exact heedless_valueFromString host bytes w
  | object o => exact .bind (heedless_retain o w) fun _ _ _ => .pure _
  | _ => exact .pure _

/-- Looking up the accessor does not heed them either, -/
theorem heedless_accessorFor (ctx : Context) : Heedless (accessorFor ctx : M β Accessor) := by
  refine fun w => .read (fun _ _ => rfl) ?_
  split <;> exact .pure _

/-- nor does looking up the encoding. -/
theorem heedless_encodingFor (ctx : Context) : Heedless (encodingFor ctx : M β WideEncoding) := by
  refine fun w => .read (fun _ _ => rfl) ?_
  split <;> exact .pure _

namespace Behaviour

/-- Giving the last error back does not heed the tallies. -/
theorem heedless_runLastError (ctx : Context) :
    Heedless (runLastError ctx : M β (Except Failure Variant)) := by
  refine fun w => .read (fun _ _ => rfl) ?_
  split
  next i _ =>
    split
    · exact .pure _
    · exact heedless_valueFromString _ _ w
  next => exact .pure _

/-- Nor does constructing a counter -/
theorem heedless_runNewCounter (lift : Behaviour → β) (ctx : Context) :
    Heedless (runNewCounter lift ctx []) := by
  intro w
  rw [runNewCounter_eq]
  exact .renewed (fun _ _ => rfl) (fun _ _ => rfl)
    (.bind (heedless_newProxy ctx _ _) fun _ _ _ => .pure _)

/-- or reading its cell. -/
theorem heedless_cellNumber (cell : Nat) : Heedless (cellNumber cell : M β Float) :=
  fun _ => .read (fun _ _ => rfl) (.pure _)

/-- Taking an argument as wide text does not heed them either. -/
theorem heedless_wideArgument (method : String) (ctx : Context) (args : List Variant) :
    Heedless (wideArgument method ctx args : M β
      (Except Failure (WideEncoding × List UInt32))) := by
  refine fun w => .bind (heedless_encodingFor ctx w) fun enc w' _ => ?_
  split
  · exact .pure _
  · split <;> exact .pure _

/-- Without arguments, the members that want one fail at once. -/
theorem heedless_run_nil (lift : Behaviour → β) (ops : HostOps β) (ctx : Context) (b : Behaviour) :
    Heedless (run lift ops ctx b []) := by
  intro w
  cases b with
  | describe => exact heedless_valueFromString ctx.host (.ofString "[object NativeObject]") w
  | greet => exact heedless_valueFromString ctx.host (.ofString "Hello World!") w
  | version => exact heedless_valueFromString ctx.host (.ofString versionText) w
  | lastError => exact heedless_runLastError ctx w
  | echo | raise | upper | join | range | sum | element | setCounter cell => exact .pure _
  | wide =>
    refine .bind (heedless_wideArgument "wide" ctx [] w) fun units w' _ => ?_
    split
    · exact heedless_valueFromWide _ _ _ w'
    · exact .pure _
  | wideUnits =>
    refine .bind (heedless_wideArgument "wideUnits" ctx [] w) fun units w' _ => ?_
    split <;> exact .pure _
  | newCounter => exact heedless_runNewCounter lift ctx w
  | counterValue cell => exact .bind (heedless_cellNumber cell w) fun _ _ _ => .pure _
  | increment cell =>
    exact .bind (heedless_cellNumber cell w) fun _ _ _ =>
      .bind (.modify fun _ _ => rfl) fun _ _ _ => .pure _

end Behaviour

namespace StandIn

/-- What stands in for other code does not heed them when it answers, -/
theorem heedless_variant (g : Given) : Heedless g.variant := by
  intro w
  cases g with
  | value v => exact .pure _
  | kept name => exact .read (fun _ _ => rfl) (.pure _)

/-- when it throws -/
theorem heedless_thrown (g : Given) : Heedless (thrown g) := by
  intro w
  refine .bind (heedless_variant g w) fun v w' _ => ?_
  cases v with
  | object o => exact .bind (heedless_retain o w') fun _ _ _ => .pure _
  | _ => exact .pure _

/-- or when it lists its services. -/
theorem heedless_servicesText (ctx : Context) : Heedless (servicesText ctx) := by
  intro w
  refine .read (fun _ _ => rfl) (.bind (heedless_accessorFor ctx w) fun _ w' _ => ?_)
  exact .bind (heedless_encodingFor ctx w') fun _ _ _ => .pure _

/-- It does not heed them at all. -/
theorem heedless_run_nil (ops : HostOps StandIn) (ctx : Context) (s : StandIn) :
    Heedless (run ops ctx s []) := by
  intro w
  unfold run
  cases s with
  | builtin b => exact Behaviour.heedless_run_nil StandIn.builtin ops ctx b w
  | constant g => exact .bind (heedless_variant g w) fun v w' _ => heedless_copyVariant _ v w'
  | echo i => exact heedless_copyVariant _ _ w
  | listArguments => exact heedless_valueFromString _ _ w
  | fail message => exact .pure _
  | raise g => exact .bind (heedless_thrown g w) fun _ _ _ => .pure _
  | raiseWith context g => exact .bind (heedless_thrown g w) fun _ _ _ => .pure _
  | load drawer => exact .read (fun _ _ => rfl) (heedless_copyVariant _ _ w)
  | store drawer => exact .bind (.modify fun _ _ => rfl) fun _ _ _ => .pure _
  | wrap name =>
    refine .read (fun _ _ => rfl) ?_
    split
    · exact .bind (heedless_newProxy ctx _ w) fun _ _ _ => .pure _
    · exact .throw _
  | native => exact .pure _
  | services => exact .bind (heedless_servicesText ctx w) fun _ w' _ =>
    heedless_valueFromString _ _ w'

/-- Any graph of stand-ins can be read without regard to the tallies. -/
theorem heedlessGetters (ops : HostOps StandIn) (g : Graph StandIn) : g.HeedlessGetters ops :=
  fun _ _ _ code _ _ ctx => heedless_run_nil ops ctx code

end StandIn

end ObjectBridge

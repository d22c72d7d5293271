import ObjectBridge.Proofs.Bridge.Leaves
import ObjectBridge.Proofs.Builtin.Counter

/-!
# `ObjectBridge.Proofs.Builtin.Leaves`: built-in members mind their own business

Built-in members make strings, objects and counters, and ask the host they
are called in. None of that is an affair of plugins, so the members change
no public view unless the host they ask does (`Behaviour.nativeObeys`).
-/

set_option autoImplicit false

namespace ObjectBridge

variable {β α : Type} {R : World β → World β → Prop} [Lenient R] {ops : HostOps β}

/-! ### Accessors -/

/-- Making the identifier of a name obeys. -/
theorem obeys_stringIdentifier (host : HostId) (name : Bytes) :
    Obeys R (stringIdentifier host name) :=
  obeys_counted host _ (.pure _)

/-- So does making that of an index, -/
theorem obeys_intIdentifier (host : HostId) (index : Int32) : Obeys R (intIdentifier host index) :=
  obeys_counted host _ (.pure _)

/-- asking for the window object, -/
theorem obeys_windowObject (host : HostId) : Obeys R (windowObject host) := by
  cases host with
  | memory =>
    refine .bind (obeys_countCall _) fun _ => .bind .get fun w => ?_
    dsimp only
    split
    · exact .pure _
    · exact .bind (obeys_retain _) fun _ => .pure _
  | script i =>
    refine .bind .get fun w => ?_
    dsimp only
    split
    · exact .bind (obeys_newHandle i _) fun _ => .pure _
    · exact .pure _

/-- and looking up the accessor -/
theorem obeys_accessorFor (ctx : Context) : Obeys R (accessorFor ctx) := by
  refine .bind .get fun w => ?_
  split <;> exact .pure _

/-- or the encoding of a context. -/
theorem obeys_encodingFor (ctx : Context) : Obeys R (encodingFor ctx) := by
  refine .bind .get fun w => ?_
  split <;> exact .pure _

namespace Accessor

variable (a : Accessor)

/-- Measuring an operation that obeys does. -/
theorem obeys_timed {act : M β α} (primitive : String) (h : Obeys R act) :
    Obeys R (a.timed primitive act) :=
  obeys_bracketReturning _ _ h

/-- The same for a measurement that is closed in any case. -/
theorem obeys_timedCleanly {act : M β α} (primitive : String) (h : Obeys R act) :
    Obeys R (a.timedCleanly primitive act) :=
  obeys_bracket _ _ h

variable (hops : ops.Obey R) (host : HostId) (o : ObjectRef)

include hops

/-- A property is read after the host said that it is there. -/
theorem obeys_read (id : Identifier) :
    Obeys R (do
      if ← a.timed "HasProperty" (ops.hasProperty host o id) then
      a.timed "GetProperty" (ops.getProperty host o id) else return none) := by
  refine .bind (a.obeys_timed _ (hops.hasProperty host o id)) fun found => ?_
  cases found with
  | true => exact a.obeys_timed _ (hops.getProperty host o id)
  | false => exact .pure _

/-- Reading a name obeys if the host does. -/
theorem obeys_getNamed (name : Bytes) : Obeys R (a.getNamed ops host o name) :=
  .bind (a.obeys_timed _ (obeys_stringIdentifier host name)) fun id => a.obeys_read hops host o id

/-- So does reading an index, -/
theorem obeys_getIndexed (index : Int32) : Obeys R (a.getIndexed ops host o index) := by
  refine .bind (a.obeys_timed _ (obeys_intIdentifier host index)) fun id => ?_
  split
  · refine .bind (a.obeys_timed _ (hops.getProperty host o id)) fun got => ?_
    split <;> exact .pure _
  · exact a.obeys_read hops host o id

/-- writing a name -/
theorem obeys_setNamed (name : Bytes) (v : Variant) : Obeys R (a.setNamed ops host o name v) :=
  .bind (a.obeys_timed _ (obeys_stringIdentifier host name)) fun id =>
    a.obeys_timedCleanly _ (hops.setProperty host o id v)

/-- or an index, -/
theorem obeys_setIndexed (index : Int32) (v : Variant) :
    Obeys R (a.setIndexed ops host o index v) :=
  .bind (a.obeys_timed _ (obeys_intIdentifier host index)) fun id =>
    a.obeys_timedCleanly _ (hops.setProperty host o id v)

/-- evaluating the script of an empty array -/
theorem obeys_evaluateArray (window : ObjectRef) : Obeys R (a.evaluateArray ops host window) := by
  refine .bind (a.obeys_timed _ (hops.evaluate host _ _)) fun made => ?_
  split
  · exact .pure _
  · exact .pure _
  · exact .bind (a.obeys_timed _ (obeys_releaseVariant host _)) fun _ => .pure _

/-- and creating an array. -/
theorem obeys_createArray : Obeys R (a.createArray ops host) := by
  refine obeys_bracket _ _ ?_
  refine .bind (a.obeys_timed _ (obeys_windowObject host)) fun window => ?_
  cases window with
  | none => exact .pure _
  | some window => exact .cleanly (a.obeys_evaluateArray hops host window) (obeys_release window)

end Accessor

namespace Behaviour

/-! ### Text -/

/-- The greeting obeys. -/
theorem obeys_runGreet (ctx : Context) (args : List Variant) : Obeys R (runGreet ctx args) := by
  unfold runGreet
  split
  · exact obeys_valueFromString _ _
  · exact obeys_valueFromString _ _
  · split
    · exact .pure _
    · exact obeys_valueFromString _ _

/-- So does what raises an exception, -/
theorem obeys_runRaise (ctx : Context) (args : List Variant) : Obeys R (runRaise ctx args) := by
  unfold runRaise
  split
  · exact .pure _
  · exact .pure _
  · refine .bind (obeys_copyVariant _ _) fun copied => ?_
    cases copied <;> exact .pure _

/-- what gives the last error back -/
theorem obeys_runLastError (ctx : Context) : Obeys R (runLastError ctx) := by
  refine .bind .get fun w => ?_
  split
  · split
    · exact .pure _
    · exact obeys_valueFromString _ _
  · exact .pure _

/-- and what takes an argument as wide text. -/
theorem obeys_wideArgument (method : String) (ctx : Context) (args : List Variant) :
    Obeys R (wideArgument method ctx args) := by
  refine .bind (obeys_encodingFor ctx) fun enc => ?_
  split
  · exact .pure _
  · split <;> exact .pure _

/-! ### Arrays -/

section

variable (hops : ops.Obey R) (ctx : Context)

include hops

/-- Reading the elements of an array one after the other obeys. -/
theorem obeys_readElements (acc : Accessor) (arr : ObjectRef) (count next : Nat)
    (done : List Variant) :
    Obeys R (readElements ops ctx acc arr count next done) := by
  induction count generalizing next done with
  | zero => exact .pure _
  | succ count ih =>
    refine .bind (acc.obeys_getIndexed hops ctx.host arr _) fun got => ?_
    cases got with
    | some v => exact ih (next + 1) (v :: done)
    | none => exact .bind (obeys_releaseAll ctx.host _) fun _ => .pure _

/-- So does reading an array. -/
theorem obeys_readArray (arr : ObjectRef) : Obeys R (readArray ops ctx arr) := by
  refine .bind (obeys_accessorFor ctx) fun acc => ?_
  refine .bind (acc.obeys_getNamed hops ctx.host arr _) fun length => ?_
  split
  · exact .bind (obeys_releaseVariant ctx.host _) fun _ => .pure _
  · split
    · exact .pure _
    · exact obeys_readElements hops ctx acc arr _ _ _

/-- Joining the elements of an array obeys. -/
theorem obeys_runJoin (args : List Variant) : Obeys R (runJoin ops ctx args) := by
  unfold runJoin
  split
  · exact .pure _
  · split
    · exact .pure _
    · refine .bind (obeys_readArray hops ctx _) fun read => ?_
      cases read with
      | error f => exact .pure _
      | ok elems => exact .cleanly (obeys_valueFromString _ _) (obeys_releaseAll _ _)

/-- So does adding them up. -/
theorem obeys_runSum (args : List Variant) : Obeys R (runSum ops ctx args) := by
  unfold runSum
  split
  · exact .pure _
  · refine .bind (obeys_readArray hops ctx _) fun read => ?_
    cases read with
    | error f => exact .pure _
    | ok elems =>
      refine .cleanly ?_ (obeys_releaseAll _ _)
      split <;> exact .pure _

/-- Filling an array with a range obeys. -/
theorem obeys_fillRange (acc : Accessor) (arr : ObjectRef) (count next : Nat) :
    Obeys R (fillRange ops ctx acc arr count next) := by
  induction count generalizing next with
  | zero => exact .pure _
  | succ count ih =>
    refine .bind (acc.obeys_setIndexed hops ctx.host arr _ _) fun stored => ?_
    cases stored with
    | true => exact ih (next + 1)
    | false => exact .pure _

/-- So does making a new array of one. -/
theorem obeys_runRange (args : List Variant) : Obeys R (runRange ops ctx args) := by
  unfold runRange
  split
  · exact .pure _
  · split
    · split
      · exact .pure _
      · refine .bind (obeys_accessorFor ctx) fun acc => .bind (acc.obeys_createArray hops ctx.host)
          fun made => ?_
        cases made with
        | none => exact .pure _
        | some arr =>
          refine .bind (obeys_fillRange hops ctx acc arr _ _) fun filled => ?_
          cases filled with
          | none => exact .pure _
          | some i => exact .bind (obeys_release arr) fun _ => .pure _
    · exact .pure _

/-- Picking an element obeys. -/
theorem obeys_runElement (args : List Variant) : Obeys R (runElement ops ctx args) := by
  unfold runElement
  split
  · exact .pure _
  · split
    · exact .pure _
    · split
      · exact .pure _
      · refine .bind (obeys_accessorFor ctx) fun acc =>
          .bind (acc.obeys_getIndexed hops ctx.host _ _) fun got => ?_
        cases got <;> exact .pure _

end

/-! ### Counters -/

/-- Writing to a counter's cell obeys. -/
theorem obeys_setCell (cell : Nat) (v : Variant) : Obeys R (setCell cell v) :=
  .of_eq fun _ => ⟨rfl, rfl, rfl⟩

/-- Constructing a counter obeys. -/
theorem obeys_runNewCounter (lift : Behaviour → β) (ctx : Context) (args : List Variant) :
    Obeys R (runNewCounter lift ctx args) := by
  rw [runNewCounter_eq]
  cases counterStart args with
  | error f => exact .pure _
  | ok start =>
    -- The world that is set is made from the one that was read, so the rule
    -- for operations one after the other does not apply.
    intro w
    rw [perform_bind_ok (perform_get w)]
    have hmade : Obeys R (do return .ok (.object (← newProxy ctx w.graph.nodes.size)) :
        M β (Except Failure Variant)) := .bind (obeys_newProxy ctx _) fun _ => .pure _
    have hset {w' : World β} (h : R w w') :
        R w (perform (do set w'; return .ok (.object (← newProxy ctx w.graph.nodes.size)) :
          M β (Except Failure Variant)) w).2 := IsTrans.trans _ _ _ h (hmade w')
    exact hset (Lenient.of_eq rfl rfl rfl)

/-- So does counting on. -/
theorem obeys_runIncrement (cell : Nat) (args : List Variant) :
    Obeys R (runIncrement cell args) := by
  rw [runIncrement_eq]
  cases counterStep args with
  | error f => exact .pure _
  | ok amount =>
    exact .bind (.bind .get fun _ => .pure _) fun _ => .bind (obeys_setCell cell _) fun _ => .pure _

/-! ### All behaviours -/

/-- A member that is called leaves alone what the host leaves alone. -/
theorem obeys_run (hops : ops.Obey R) (lift : Behaviour → β) (ctx : Context) (b : Behaviour)
    (args : List Variant) : Obeys R (run lift ops ctx b args) := by
  -- Four members read arrays through the host; the others make what they answer with by themselves.
  cases b with
  | describe => exact obeys_valueFromString _ _
  | greet => exact obeys_runGreet ctx args
  | echo =>
    cases args with
    | nil => exact .pure _
    | cons v rest => exact obeys_copyVariant _ v
  | raise => exact obeys_runRaise ctx args
  | version => exact obeys_valueFromString _ _
  | lastError => exact obeys_runLastError ctx
  | upper =>
    unfold run
    dsimp only
    split
    · exact obeys_valueFromString _ _
    · exact .pure _
  | wide =>
    refine .bind (obeys_wideArgument "wide" ctx args) fun given => ?_
    split
    · exact obeys_valueFromWide _ _ _
    · exact .pure _
  | wideUnits =>
    refine .bind (obeys_wideArgument "wideUnits" ctx args) fun given => ?_
    split <;> exact .pure _
  | join => exact obeys_runJoin hops ctx args
  | range => exact obeys_runRange hops ctx args
  | sum => exact obeys_runSum hops ctx args
  | element => exact obeys_runElement hops ctx args
  | newCounter => exact obeys_runNewCounter lift ctx args
  | counterValue cell => exact .bind (.bind .get fun _ => .pure _) fun _ => .pure _
  | setCounter cell =>
    unfold run
    dsimp only
    split
    · exact .bind (obeys_setCell cell _) fun _ => .pure _
    · exact .pure _
  | increment cell => exact obeys_runIncrement cell args

end Behaviour

/-- The built-in members, called or set, leave alone what the host leaves
alone. -/
theorem Behaviour.nativeObeys {R : World Behaviour → World Behaviour → Prop} [Lenient R]
    {ops : HostOps Behaviour} (hops : ops.Obey R) : NativeObeys R ops where
  call ctx code args := obeys_run hops id ctx code args
  store ctx code v := by
    refine .bind (obeys_run hops id ctx code [v]) fun answered => ?_
    cases answered <;> exact .pure _

end ObjectBridge

import ObjectBridge.Proofs.Script.Furnishing

/-!
# `ObjectBridge.Proofs.Script.MachineRelocation`: the same machine elsewhere

A machine refers to objects and scopes everywhere: in its control, in its
frames, and in what it asks for. `relocate` takes all of it to where the
things stand instead. Expressions and statements refer to nothing by number,
so they stay.

`Result.Moved` says that one step led to the same, elsewhere. It holds of
every way in which a step can end (`Moved.go`, `Moved.raise`, `Moved.ask`),
so that for a function of the machine it is enough to tell its cases apart.
-/

set_option autoImplicit false

namespace ObjectBridge.Script

section

variable (ρ : Relocation)

/-- The environment when its scope stands elsewhere. -/
@[simps]
def Env.relocate (env : Env) : Env :=
  { env with scope := env.scope.map ρ.scopes, this := env.this.relocate ρ }

/-- The completion when the value returned stands elsewhere. -/
def Completion.relocate : Completion → Completion
  | .return v => .return (v.relocate ρ)
  | c => c

/-- The reference when what it refers to stands elsewhere. -/
def Reference.relocate : Reference → Reference
  | .variable s place => .variable (ρ.scopes s) place
  | .global name => .global name
  | .member base key => .member (base.relocate ρ) (key.relocate ρ)
  | .element base key => .element (base.relocate ρ) (key.relocate ρ)

/-- The same request about an object elsewhere. -/
def Request.relocate : Request → Request
  | .get o key => .get (o.relocate ρ) key
  | .set o key v => .set (o.relocate ρ) key (v.relocate ρ)
  | .has o key => .has (o.relocate ρ) key
  | .keys o => .keys (o.relocate ρ)
  | .call o method args => .call (o.relocate ρ) method (args.map (·.relocate ρ))
  | .construct o args => .construct (o.relocate ρ) (args.map (·.relocate ρ))
  | .log level message => .log level message

/-- What is pending when it stands elsewhere. -/
def Pending.relocate : Pending → Pending
  | .completion c => .completion (c.relocate ρ)
  | .throw v => .throw (v.relocate ρ)

/-- The same call of a function elsewhere. -/
def PendingCall.relocate : PendingCall → PendingCall
  | .call f this => .call (f.relocate ρ) (this.relocate ρ)
  | .new f => .new (f.relocate ρ)
  | .missing key => .missing (key.relocate ρ)
  | .unknown name => .unknown name

/-- The descriptor when its values stand elsewhere. -/
@[simps]
def Descriptor.relocate (d : Descriptor) : Descriptor :=
  { d with value := d.value.map (·.relocate ρ), get := d.get.map (·.relocate ρ), set :=
    d.set.map (·.relocate ρ) }

/-- The same use of a key on an object elsewhere. -/
def KeyUse.relocate : KeyUse → KeyUse
  | .read base => .read (base.relocate ρ)
  | .call base args env => .call (base.relocate ρ) args (env.relocate ρ)
  | .write base v strict => .write (base.relocate ρ) (v.relocate ρ) strict
  | .delete base strict => .delete (base.relocate ρ) strict
  | .find o => .find (ρ.objects o)
  | .define o d => .define (ρ.objects o) (d.relocate ρ)
  | .describe o => .describe (ρ.objects o)
  | .ownProperty v => .ownProperty (v.relocate ρ)
  | .enumerableProperty v => .enumerableProperty (v.relocate ρ)
  | .member o kind value rest env => .member (ρ.objects o) kind value rest (env.relocate ρ)

/-- The frame when all that it keeps stands elsewhere. -/
def Frame.relocate : Frame → Frame
  | .refMember key => .refMember (key.relocate ρ)
  | .refIndex key env => .refIndex key (env.relocate ρ)
  | .refKey base => .refKey (base.relocate ρ)
  | .read => .read
  | .readGlobal name quiet => .readGlobal name quiet
  | .typeOfRef => .typeOfRef
  | .deleteRef strict => .deleteRef strict
  | .keyed use => .keyed (use.relocate ρ)
  | .callRef args env => .callRef args (env.relocate ρ)
  | .callMember this key args env =>
    .callMember (this.relocate ρ) (key.relocate ρ) args (env.relocate ρ)
  | .callGlobal name args env => .callGlobal name args (env.relocate ρ)
  | .callValue args env => .callValue args (env.relocate ρ)
  | .newCallee args env => .newCallee args (env.relocate ρ)
  | .argument use done rest env =>
    .argument (use.relocate ρ) (done.map (·.relocate ρ)) rest (env.relocate ρ)
  | .refusal before after => .refusal before after
  | .call depth => .call depth
  | .constructing o => .constructing (ρ.objects o)
  | .binaryRight op right env => .binaryRight op right (env.relocate ρ)
  | .binaryApply op left => .binaryApply op (left.relocate ρ)
  | .primitiveLeft op right => .primitiveLeft op (right.relocate ρ)
  | .primitiveRight op left => .primitiveRight op (left.relocate ρ)
  | .instance_ left right => .instance_ (left.relocate ρ) (right.relocate ρ)
  | .instanceProto left => .instanceProto (left.relocate ρ)
  | .truth => .truth
  | .unary op => .unary op
  | .numeric op => .numeric op
  | .logical op right env => .logical op right (env.relocate ρ)
  | .conditional yes no env => .conditional yes no (env.relocate ρ)
  | .second e env => .second e (env.relocate ρ)
  | .assignRef op value env => .assignRef op value (env.relocate ρ)
  | .assignOld ref op value env => .assignOld (ref.relocate ρ) op value (env.relocate ρ)
  | .assignValue ref strict => .assignValue (ref.relocate ρ) strict
  | .updateRef before delta strict => .updateRef before delta strict
  | .updateOld ref before delta strict => .updateOld (ref.relocate ρ) before delta strict
  | .updateNumber ref before delta strict => .updateNumber (ref.relocate ρ) before delta strict
  | .instead v => .instead (v.relocate ρ)
  | .lengthFirst o v strict => .lengthFirst (ρ.objects o) (v.relocate ρ) strict
  | .lengthSecond o strict => .lengthSecond (ρ.objects o) strict
  | .lengthDefined o d again =>
    .lengthDefined (ρ.objects o) (d.relocate ρ) (again.map (·.relocate ρ))
  | .item done rest env => .item (done.map (·.map (·.relocate ρ))) rest (env.relocate ρ)
  | .member o key kind rest env => .member (ρ.objects o) (key.relocate ρ) kind rest (env.relocate ρ)
  | .nativeGet o key receiver => .nativeGet (ρ.objects o) (key.relocate ρ) (receiver.relocate ρ)
  | .nativeHas o key => .nativeHas (ρ.objects o) (key.relocate ρ)
  | .nativeSet o key v strict => .nativeSet (ρ.objects o) (key.relocate ρ) (v.relocate ρ) strict
  | .nativeAbove n o key v strict =>
    .nativeAbove (ρ.objects n) (ρ.objects o) (key.relocate ρ) (v.relocate ρ) strict
  | .toText => .toText
  | .toTextOrSymbol => .toTextOrSymbol
  | .toNumber => .toNumber
  | .primitiveExotic o hint methods => .primitiveExotic (ρ.objects o) hint methods
  | .primitiveChecked => .primitiveChecked
  | .primitiveMethod o rest => .primitiveMethod (ρ.objects o) rest
  | .primitiveResult o rest => .primitiveResult (ρ.objects o) rest
  | .descriptorField o key desc field rest d =>
    .descriptorField (ρ.objects o) (key.relocate ρ) (ρ.objects desc) field rest (d.relocate ρ)
  | .joinLength o separator => .joinLength (ρ.objects o) (separator.relocate ρ)
  | .joinSeparator o length => .joinSeparator (ρ.objects o) length
  | .joinItem o separator next length done => .joinItem (ρ.objects o) separator next length done
  | .joinText o separator next length done => .joinText (ρ.objects o) separator next length done
  | .joinFound o => .joinFound (ρ.objects o)
  | .logText level done rest => .logText level done (rest.map (·.relocate ρ))
  | .errorMessage kind => .errorMessage kind
  | .errorName o => .errorName (ρ.objects o)
  | .errorNameText o => .errorNameText (ρ.objects o)
  | .errorDetail name => .errorDetail name
  | .errorDetailText name => .errorDetailText name
  | .symbolText => .symbolText
  | .wrapText => .wrapText
  | .numberMade wrapped => .numberMade wrapped
  | .numberTest finite => .numberTest finite
  | .functionTexts done rest => .functionTexts done (rest.map (·.relocate ρ))
  | .textMethod b args => .textMethod b (args.map (·.relocate ρ))
  | .described => .described
  | .keysArray => .keysArray
  | .exprDone kept => .exprDone kept
  | .varInit name rest env => .varInit name rest (env.relocate ρ)
  | .varRest rest env => .varRest rest (env.relocate ρ)
  | .ifTest yes no env => .ifTest yes no (env.relocate ρ)
  | .loopTest loop env => .loopTest loop (env.relocate ρ)
  | .loopBody loop env => .loopBody loop (env.relocate ρ)
  | .forInit loop env => .forInit loop (env.relocate ρ)
  | .forUpdate loop env => .forUpdate loop (env.relocate ρ)
  | .forInObject loop env => .forInObject loop (env.relocate ρ)
  | .forInKeys loop env o => .forInKeys loop (env.relocate ρ) (ρ.objects o)
  | .forInHas loop env o key rest =>
    .forInHas loop (env.relocate ρ) (ρ.objects o) (key.relocate ρ) (rest.map (·.relocate ρ))
  | .forInRef loop env o key rest =>
    .forInRef loop (env.relocate ρ) (ρ.objects o) (key.relocate ρ) (rest.map (·.relocate ρ))
  | .forInStored loop env o rest =>
    .forInStored loop (env.relocate ρ) (ρ.objects o) (rest.map (·.relocate ρ))
  | .forInBody loop env o rest =>
    .forInBody loop (env.relocate ρ) (ρ.objects o) (rest.map (·.relocate ρ))
  | .switchSubject cases env => .switchSubject cases (env.relocate ρ)
  | .switchTest subject rest cases env =>
    .switchTest (subject.relocate ρ) rest cases (env.relocate ρ)
  | .switchBody => .switchBody
  | .label l => .label l
  | .statements rest env => .statements rest (env.relocate ρ)
  | .returnValue => .returnValue
  | .throwValue => .throwValue
  | .tryBody handler finalizer env => .tryBody handler finalizer (env.relocate ρ)
  | .handlerBody finalizer env => .handlerBody finalizer (env.relocate ρ)
  | .finalizerBody pending => .finalizerBody (pending.relocate ρ)

/-- Relocates a stack of frames. -/
abbrev relocateFrames (k : List Frame) : List Frame := k.map (·.relocate ρ)

/-- What is done next when all that it is about stands elsewhere. -/
def Control.relocate : Control → Control
  | .eval e env => .eval e (env.relocate ρ)
  | .refer e env => .refer e (env.relocate ρ)
  | .exec s env => .exec s (env.relocate ρ)
  | .execAll ss env => .execAll ss (env.relocate ρ)
  | .give v => .give (v.relocate ρ)
  | .absent => .absent
  | .refers ref => .refers (ref.relocate ρ)
  | .names keys => .names (keys.map (·.relocate ρ))
  | .complete c => .complete (c.relocate ρ)
  | .throw v => .throw (v.relocate ρ)
  | .readRef ref => .readRef (ref.relocate ρ)
  | .writeRef ref v strict => .writeRef (ref.relocate ρ) (v.relocate ρ) strict
  | .keyOf v use => .keyOf (v.relocate ρ) (use.relocate ρ)
  | .fetch start key receiver => .fetch (start.map ρ.objects) (key.relocate ρ) (receiver.relocate ρ)
  | .store o key v strict => .store (ρ.objects o) (key.relocate ρ) (v.relocate ρ) strict
  | .apply f this args direct =>
    .apply (f.relocate ρ) (this.relocate ρ) (args.map (·.relocate ρ)) direct
  | .instantiate f args => .instantiate (f.relocate ρ) (args.map (·.relocate ρ))
  | .primitive v hint => .primitive (v.relocate ρ) hint
  | .operate op left right => .operate op (left.relocate ρ) (right.relocate ρ)
  | .iterate loop env => .iterate loop (env.relocate ρ)
  | .forInNext loop env o keys =>
    .forInNext loop (env.relocate ρ) (ρ.objects o) (keys.map (·.relocate ρ))

/-- The machine that does the same elsewhere. -/
@[simps]
def Machine.relocate (m : Machine) : Machine :=
  { m with control := m.control.relocate ρ, stack := relocateFrames ρ m.stack }

/-- The same outcome elsewhere. -/
def Outcome.relocate : Outcome → Outcome
  | .value v => .value (v.relocate ρ)
  | .absent => .absent
  | .thrown v => .thrown (v.relocate ρ)
  | .overflow => .overflow

/-- The same turn elsewhere. -/
def Turn.relocate : Turn → Turn
  | .next m => .next (m.relocate ρ)
  | .ask q stack depth => .ask (q.relocate ρ) (relocateFrames ρ stack) depth
  | .done o => .done (o.relocate ρ)

/-- The same stop elsewhere. -/
def Stop.relocate : Stop → Stop
  | .ask q stack depth => .ask (q.relocate ρ) (relocateFrames ρ stack) depth
  | .done o => .done (o.relocate ρ)
  | .spent => .spent

end

variable {ρ : Relocation} {p q : Prop} {h h' : Heap}

/-- The heaps hold the same afterwards, and the step led to the same,
elsewhere. -/
structure Result.Moved (ρ : Relocation) (p q : Prop) (a b : Result) : Prop where
  heap : a.1.Moved ρ p q b.1
  turn : b.2 = a.2.relocate ρ

/-- Both ways a test can end. -/
theorem Result.Moved.ite {c : Prop} [Decidable c] {a a' b b' : Result}
    (hyes : c → Result.Moved ρ p q a b) (hno : ¬c → Result.Moved ρ p q a' b') :
    Result.Moved ρ p q (if c then a else a') (if c then b else b') := by
  split
  · exact hyes ‹_›
  · exact hno ‹_›

namespace Heap.Moved

variable (hm : h.Moved ρ p q h')

include hm

/-- A machine goes on with the same control, moved. -/
theorem go (c : Control) (k : List Frame) (d : Nat) :
    Result.Moved ρ p q (Script.go h c k d) (Script.go h' (c.relocate ρ) (relocateFrames ρ k) d) :=
  ⟨hm, rfl⟩

/-- It is given the moved value. -/
theorem give (v : Value) (k : List Frame) (d : Nat) :
    Result.Moved ρ p q (Script.give h v k d)
      (Script.give h' (v.relocate ρ) (relocateFrames ρ k) d) :=
  ⟨hm, rfl⟩

/-- It asks for the same, moved. -/
theorem ask (q' : Request) (k : List Frame) (d : Nat) :
    Result.Moved ρ p q (Script.ask h q' k d)
      (Script.ask h' (q'.relocate ρ) (relocateFrames ρ k) d) :=
  ⟨hm, rfl⟩

/-- It ends with the moved outcome. -/
theorem done (o : Outcome) : Result.Moved ρ p q (h, .done o) (h', .done (o.relocate ρ)) := ⟨hm, rfl⟩

/-- It raises the same error, which is a new object in both heaps. -/
theorem raise (r : Realm) (kind message : String) (k : List Frame) (d : Nat) :
    Result.Moved ρ p q (Script.raise r h kind message k d)
      (Script.raise (r.relocate ρ) h' kind message (relocateFrames ρ k) d) := by
  obtain ⟨h, e, h', ha, hb, hm⟩ := (hm.newError r kind message).split
  unfold Script.raise
  rw [ha, hb]
  exact hm.go (.throw (.object e)) k d

end Heap.Moved

end ObjectBridge.Script

import ObjectBridge.Bridge.Runtime
import ObjectBridge.Proofs.Builtin.Leaves

/-!
# `ObjectBridge.Proofs.Bridge.Hosts`: what hosts and scripts leave alone

A script makes requests of native objects, native code asks its host, and
the host may run scripts again. On the way objects, storage, timers and the
heap change, and failures are reported. None of that is an affair of
plugins. So a public view that does not see what is reported either, and
that native code leaves alone whenever its host does (`Undisturbed`), is
left alone by hosts at every level (`obey_hostOps`), and so by running a
script (`Runtime.obeys_execute`) and by binding an object
(`Runtime.obeys_bind`).

The induction is on the level: the operations of one level hand native code
those of the level below.
-/

set_option autoImplicit false

namespace ObjectBridge

open Script (Value Machine Key)

variable {α β γ : Type} [Native β] {R : World β → World β → Prop}

/-- Failures are reported as the rule allows, and native code obeys it as
long as the host does that native code asks. -/
structure Upheld (R : World β → World β → Prop) : Prop where
  report : ∀ ctx message, Obeys R (Proxy.setLastError ctx message)
  native : ∀ ops : HostOps β, ops.Obey R → NativeObeys R ops

/-- Neither reporting a failure nor native code changes the view, as long
as the host that native code asks leaves it alone. -/
abbrev Undisturbed (view : World β → γ) : Prop := Upheld (Same view)

section

variable [Lenient R] (hu : Upheld R)

omit [Native β] in
/-- An exception may be left alone. -/
theorem obeys_abandon (slot : Slot) : Obeys R (abandon slot) := by
  unfold abandon
  split
  · exact .of_eq fun _ => ⟨rfl, rfl, rfl⟩
  · exact .pure ()

/-! ### Requests -/

namespace Proxy

omit [Native β] in
/-- A failure may be entered in a slot. -/
theorem obeys_raiseInto (slot : Slot) (f : Failure) : Obeys R (raiseInto slot f) := by
  have hdrop : Obeys R (dropThrown f) := by
    unfold dropThrown
    split
    · exact obeys_release _
    · exact .pure ()
  unfold raiseInto
  dsimp only
  split
  · exact .bind hdrop fun _ => .pure _
  · exact .pure _

include hu

variable (p : Proxy) (slot : Slot)

/-- It may be reported. -/
theorem obeys_fail (f : Failure) : Obeys R (p.fail slot f) :=
  .bind (obeys_raiseInto slot f) fun _ => .bind (hu.report _ _) fun _ => .pure _

/-- An answer may become a result. -/
theorem obeys_answer (answered : Except Failure Variant) : Obeys R (p.answer slot answered) := by
  cases answered with
  | ok v => exact .pure _
  | error f => exact .bind (p.obeys_fail hu slot f) fun _ => .pure _

/-- A proxy may be asked for a method. -/
theorem obeys_hasMethod (name : Variant) : Obeys R (p.hasMethod name slot) := by
  cases name with
  | string n => exact p.obeys_measured _ n (.bind .get fun _ => .pure _)
  | _ => exact .bind (p.obeys_fail hu slot _) fun _ => .pure _

/-- It may be asked for a property. -/
theorem obeys_hasProperty (name : Variant) : Obeys R (p.hasProperty name slot) := by
  cases name with
  | string n => exact p.obeys_measured _ n (.bind .get fun _ => .pure _)
  | _ => exact .bind (p.obeys_fail hu slot _) fun _ => .pure _

/-- It may list its names. -/
theorem obeys_propertyNames : Obeys R (p.propertyNames slot) := by
  refine p.obeys_measured _ _ (.bind .get fun w => .bind (obeys_nameVariants _ _ _) fun named => ?_)
  cases named with
  | ok names => exact .pure _
  | error f => exact .bind (p.obeys_fail hu slot f) fun _ => .pure _

variable {ops : HostOps β} (hn : NativeObeys R ops)

include hn

/-- It may read a property, when native code obeys. -/
theorem obeys_getProperty (name : Variant) : Obeys R (p.getProperty ops name slot) := by
  cases name with
  | string n =>
    exact p.obeys_measured _ n (.bind (Node.obeys_getProperty hn _ _ n) fun _ =>
      p.obeys_answer hu slot _)
  | _ => exact .bind (p.obeys_fail hu slot _) fun _ => .pure _

/-- It may write one. -/
theorem obeys_setProperty (name v : Variant) : Obeys R (p.setProperty ops name v slot) := by
  cases name with
  | string n =>
    refine p.obeys_measured _ n (.bind (Node.obeys_setProperty hn _ _ n v) fun stored => ?_)
    cases stored with
    | ok _ => exact .pure _
    | error f => exact p.obeys_fail hu slot f
  | _ => exact p.obeys_fail hu slot _

/-- It may construct its node. -/
theorem obeys_construct (args : List Variant) : Obeys R (p.construct ops args slot) :=
  p.obeys_measured _ _ (.bind (Node.obeys_construct hn _ _ args) fun _ => p.obeys_answer hu slot _)

/-- It may call a method. -/
theorem obeys_call (method : Variant) (args : List Variant) :
    Obeys R (p.call ops method args slot) := by
  cases method with
  | void => exact p.obeys_construct hu slot hn args
  | string n =>
    exact p.obeys_measured _ n (.bind (Node.obeys_call hn _ _ n args) fun _ =>
      p.obeys_answer hu slot _)
  | _ => exact .bind (p.obeys_fail hu slot _) fun _ => .pure _

end Proxy

/-! ### The in-memory host -/

namespace MemoryHost

omit [Native β] in
/-- The in-memory host may copy a value out. -/
theorem obeys_copyOut (v : Variant) : Obeys R (copyOut v) := by
  cases v with
  | string bytes =>
    refine .bind (obeys_memAlloc _ _) fun given => ?_
    cases given <;> exact .pure _
  | object o => exact .bind (obeys_retain o) fun _ => .pure _
  | _ => exact .pure _

omit [Native β] in
/-- It may write a slot. -/
theorem obeys_tableSet (i : Nat) (id : Identifier) (v : Variant) : Obeys R (tableSet i id v) := by
  refine .bind .get fun w => ?_
  cases id with
  | index n =>
    exact .bind (obeys_modifyTable i _) fun _ => .bind (obeys_releaseVariant _ _) fun _ =>
      obeys_modifyTable i _
  | name n =>
    dsimp only
    cases (w.table i).props.find? n with
    | some old => exact .bind (obeys_releaseVariant _ _) fun _ => obeys_modifyTable i _
    | none => exact obeys_modifyTable i _

omit [Native β] in
/-- It may evaluate a text. -/
theorem obeys_evaluate (scope : Option ObjectRef) (script : Bytes) :
    Obeys R (evaluate scope script) := by
  refine .bind (obeys_countCall _) fun _ => ?_
  split
  · exact .pure _
  · refine .bind .get fun w => ?_
    split
    · refine .bind (obeys_copyVariant _ _) fun copied => ?_
      cases copied <;> exact .pure _
    · exact .pure _
    · split
      · exact .bind (obeys_newTable _) fun _ => .pure _
      · exact .pure _

include hu

/-- It may be asked for a property. -/
theorem obeys_hasProperty (o : ObjectRef) (id : Identifier) : Obeys R (hasProperty o id) := by
  refine .bind (obeys_countCall _) fun _ => .bind .get fun w => ?_
  cases o with
  | table i => exact .pure _
  | proxy i => exact .bind (Proxy.obeys_hasProperty hu _ _ _) fun _ => .pure _
  | handle i => exact .pure _

variable {ops : HostOps β} (hn : NativeObeys R ops)

include hn

/-- It may read one, which may ask a proxy. -/
theorem obeys_getProperty (o : ObjectRef) (id : Identifier) : Obeys R (getProperty ops o id) := by
  refine .bind (obeys_countCall _) fun _ => .bind .get fun w => ?_
  cases o with
  | table i =>
    dsimp only
    split
    · exact .bind (obeys_copyOut _) fun _ => .pure _
    · exact .pure _
  | proxy i =>
    refine .bind (Proxy.obeys_getProperty hu (w.proxy i) (some {}) hn (.string id.text)) fun got =>
      ?_
    dsimp only
    split
    · exact .bind (obeys_releaseVariant _ _) fun _ => .bind (obeys_abandon _) fun _ => .pure _
    · exact .pure _
  | handle i => exact .pure _

/-- It may write one. -/
theorem obeys_setProperty (o : ObjectRef) (id : Identifier) (v : Variant) :
    Obeys R (setProperty ops o id v) := by
  refine .bind (obeys_countCall _) fun _ => .bind .get fun w => ?_
  cases o with
  | table i =>
    refine .bind (obeys_copyOut v) fun copy => ?_
    extract_lets possible
    cases possible with
    | true => exact .bind (obeys_tableSet i id copy) fun _ => .pure _
    | false => exact .bind (obeys_releaseVariant _ _) fun _ => .pure _
  | proxy i =>
    exact .bind (Proxy.obeys_setProperty hu _ _ hn _ _) fun _ => .bind (obeys_abandon _) fun _ =>
      .pure _
  | handle i => exact .pure _

end MemoryHost

/-! ### Scripts -/

namespace ScriptHost

section

omit [Native β]

/-- The heap of scripts may change. -/
theorem obeys_withHeap (f : Script.Heap → α × Script.Heap) : Obeys R (withHeap f) :=
  .of_eq fun _ => ⟨rfl, rfl, rfl⟩

/-- An error may be thrown into a script. -/
theorem obeys_throwText (i : Nat) (message : Bytes) : Obeys R (throwText i message : M β α) :=
  .bind .get fun _ => .bind (obeys_withHeap _) fun _ => .throw _

/-- An object may be looked at. -/
theorem obeys_unwrap? (i : Nat) (o : Script.ObjId) : Obeys R (unwrap? i o) := by
  refine .bind .get fun w => ?_
  dsimp only
  split <;> exact .pure _

/-- A text may become a string. -/
theorem obeys_textVariant? (i : Nat) (t : Script.Text) : Obeys R (textVariant? i t) := by
  refine .bind (obeys_memAlloc _ _) fun given => ?_
  cases given <;> exact .pure _

/-- A value may become a variant. -/
theorem obeys_toVariant (i : Nat) (v : Value) : Obeys R (toVariant i v) := by
  cases v with
  | string t => exact obeys_textVariant? i t
  | symbol s => exact obeys_textVariant? i s.label
  | object o =>
    refine .bind (obeys_unwrap? i o) fun ref => ?_
    cases ref with
    | some ref => exact .bind (obeys_retain ref) fun _ => .pure _
    | none => exact .bind (obeys_newHandle i o) fun _ => .pure _
  | _ => exact .pure _

/-- An object may be made known to scripts. -/
theorem obeys_exposeObject (i : Nat) (ref : ObjectRef) : Obeys R (exposeObject i ref) := by
  refine .bind (obeys_retain ref) fun _ => .bind (obeys_modifyRuntime i fun _ => rfl) fun _ =>
    .bind .get fun w => ?_
  dsimp only
  split
  · exact .bind (obeys_withHeap _) fun _ => .pure _
  · exact .throw _

/-- A variant may become a value. -/
theorem obeys_toValue (i : Nat) (v : Variant) : Obeys R (toValue i v) := by
  cases v with
  | object o =>
    cases o with
    | handle h => exact .bind .get fun _ => .pure _
    | proxy p => exact obeys_exposeObject i _
    | table t => exact .pure _
  | _ => exact .pure _

/-- The exception of a request may be thrown. -/
theorem obeys_throwPending (i : Nat) (slot : Slot) : Obeys R (throwPending i slot : M β α) := by
  unfold throwPending
  split
  · exact obeys_throwText i _
  · refine .bind (obeys_toValue i _) fun value => ?_
    split
    · exact .bind (obeys_release _) fun _ => .throw _
    · exact .throw _

/-- Arguments may become variants. -/
theorem obeys_toVariants (i : Nat) (done : List Variant) (vs : List Value) :
    Obeys R (toVariants i done vs) := by
  induction vs generalizing done with
  | nil => exact .pure _
  | cons v rest ih =>
    refine .bind (obeys_toVariant i v) fun made => ?_
    cases made with
    | some x => exact ih (x :: done)
    | none => exact .pure _

/-- A proxy may be looked up. -/
theorem obeys_requested (ref : ObjectRef) : Obeys R (requested ref) := by
  cases ref with
  | proxy p =>
    refine .bind .get fun w => ?_
    split
    · exact .pure _
    · exact .throw _
  | _ => exact .throw _

/-- An outcome changes nothing. -/
theorem obeys_outcomeValue (o : Script.Outcome) : Obeys R (outcomeValue o) := by
  cases o with
  | value v => exact .pure _
  | absent => exact .pure _
  | thrown v => exact .throw _
  | overflow => exact .throw _

end

/-! ### Requests of scripts -/

include hu

/-- A script may ask for a name. -/
theorem obeys_serveHas (p : Proxy) (key : Bytes) : Obeys R (serveHas p key) := by
  refine .bind (p.obeys_hasMethod hu _ _) fun answered => ?_
  obtain ⟨method, slot⟩ := answered
  cases method with
  | true => exact .pure _
  | false => exact .bind (p.obeys_hasProperty hu _ _) fun _ => .pure _

variable {ops : HostOps β} (hn : NativeObeys R ops) (i : Nat)

include hn

/-- It may read one. -/
theorem obeys_serveGet (ref : ObjectRef) (p : Proxy) (key : String) :
    Obeys R (serveGet ops i ref p key) := by
  refine .bind (p.obeys_hasMethod hu _ _) fun answered => ?_
  obtain ⟨method, slot⟩ := answered
  cases method with
  | true => exact .bind .get fun _ => .bind (obeys_withHeap _) fun _ => .pure _
  | false =>
    refine .bind (p.obeys_hasProperty hu _ _) fun answered => ?_
    obtain ⟨property, slot⟩ := answered
    cases property with
    | false =>
      dsimp only
      split
      · split
        · exact obeys_throwPending i _
        · exact .pure _
      · contradiction
    | true =>
      refine .bind (p.obeys_getProperty hu _ hn _) fun got => ?_
      dsimp only
      split
      · exact obeys_throwPending i _
      · exact .cleanly (.bind (obeys_toValue i _) fun _ => .pure _) (obeys_releaseVariant _ _)

/-- It may write one. -/
theorem obeys_serveSet (p : Proxy) (key : String) (v : Value) :
    Obeys R (serveSet ops i p key v) := by
  refine .bind (obeys_toVariant i v) fun made => ?_
  cases made with
  | none => exact obeys_throwText i _
  | some x =>
    refine .cleanly (.bind (p.obeys_setProperty hu _ hn _ _) fun slot => ?_)
      (obeys_releaseVariant _ _)
    split
    · exact obeys_throwPending i _
    · exact .pure _

omit hn in
/-- It may list the names. -/
theorem obeys_serveKeys (p : Proxy) : Obeys R (serveKeys i p) := by
  refine .bind (p.obeys_propertyNames hu _) fun answered => ?_
  dsimp only
  split
  · exact obeys_throwPending i _
  · exact .bind (obeys_releaseAll _ _) fun _ => .pure _

/-- It may call native code. -/
theorem obeys_serveCall (p : Proxy) (method : Variant) (args : List Value) :
    Obeys R (serveCall ops i p method args) := by
  refine .bind (obeys_toVariants i [] args) fun made => .cleanly ?_ (obeys_releaseAll _ _)
  split
  · exact obeys_throwText i _
  · refine .bind (p.obeys_call hu _ hn _ _) fun answered => ?_
    dsimp only
    split
    · exact .bind (obeys_releaseVariant _ _) fun _ => obeys_throwPending i _
    · exact .cleanly (.bind (obeys_toValue i _) fun _ => .pure _) (obeys_releaseVariant _ _)

/-- Every request of a script. -/
theorem obeys_serve (q : Script.Request) : Obeys R (serve ops i q) := by
  cases q with
  | get ref key => exact .bind (obeys_requested ref) fun p => obeys_serveGet hu hn i ref p key
  | set ref key v => exact .bind (obeys_requested ref) fun p => obeys_serveSet hu hn i p key v
  | has ref key =>
    exact .bind (obeys_requested ref) fun p => .bind (obeys_serveHas hu p _) fun _ => .pure _
  | keys ref => exact .bind (obeys_requested ref) fun p => obeys_serveKeys hu i p
  | call ref method args =>
    exact .bind (obeys_requested ref) fun p => obeys_serveCall hu hn i p _ args
  | construct ref args =>
    exact .bind (obeys_requested ref) fun p => obeys_serveCall hu hn i p _ args
  | log level message => exact .bind (obeys_modifyRuntime i fun _ => rfl) fun _ => .pure _

/-! ### Running scripts -/

/-- A run of a script is a run of its requests. -/
theorem obeys_drive (rounds : Nat) (m : Machine) : Obeys R (drive ops i rounds m) := by
  induction rounds generalizing m with
  | zero => exact .throw _
  | succ rounds ih =>
    refine .bind .get fun w => .bind (obeys_withHeap _) fun ran => ?_
    obtain ⟨left, stop⟩ := ran
    refine .bind (obeys_modifyRuntime i fun _ => rfl) fun _ => ?_
    cases stop with
    | spent => exact .throw _
    | done o => exact .pure _
    | ask q stack depth =>
      refine .bind (obeys_modifyRuntime i fun _ => rfl) fun _ =>
        .bind (.caught (obeys_serve hu hn i q)) fun reply => ?_
      split
      · exact ih _
      · exact ih _
      · exact .throw _

/-- A machine may run, with all it asks for. -/
theorem obeys_runMachine (steps : Nat) (m : Machine) : Obeys R (runMachine ops i steps m) := by
  refine .bind .get fun w => ?_
  dsimp only
  split
  · exact .cleanly (obeys_drive hu hn i _ m) (obeys_modifyRuntime i fun _ => rfl)
  · exact .bind (obeys_modifyRuntime i fun _ => rfl) fun _ => .bind (obeys_withHeap _) fun _ =>
      .cleanly (obeys_drive hu hn i _ m) (obeys_modifyRuntime i fun _ => rfl)

/-- A property of an object of a script may be read. -/
theorem obeys_fetch (o : Script.ObjId) (key : Key) : Obeys R (fetch ops i o key) :=
  .bind .get fun _ => .bind (obeys_runMachine hu hn i _ _) fun _ => obeys_outcomeValue _

/-- One may be stored. -/
theorem obeys_assign (o : Script.ObjId) (key : Key) (v : Value) :
    Obeys R (assign ops i o key v) := by
  refine .bind .get fun w => ?_
  refine .bind (.caught (.bind (obeys_runMachine hu hn i _ _) fun o => obeys_outcomeValue o))
    fun stored => ?_
  split
  · exact .pure _
  · exact .throw _
  · exact .throw _
  · exact .pure _

/-- A value may be made a text. -/
theorem obeys_textOf (v : Value) : Obeys R (textOf ops i v) := by
  refine .bind .get fun w => ?_
  dsimp only
  split
  · exact .pure _
  · refine .bind (obeys_runMachine hu hn i _ _) fun o => .bind (obeys_outcomeValue o) fun text => ?_
    split <;> exact .pure _

/-- A program may run. -/
theorem obeys_runProgram (program : Script.Program) (steps : Nat) :
    Obeys R (runProgram ops i program steps) := by
  refine .bind .get fun w => ?_
  dsimp only
  split
  · exact .throw _
  · exact .bind (obeys_withHeap _) fun m => .cleanly (obeys_runMachine hu hn i steps m)
      (obeys_withHeap _)

/-! ### Script runtimes as hosts -/

/-- The script host may be asked for a property. -/
theorem obeys_hasProperty (o : ObjectRef) (id : Identifier) : Obeys R (hasProperty ops i o id) := by
  refine .bind .get fun w => ?_
  cases o with
  | handle h => exact .bind (obeys_fetch hu hn i _ _) fun _ => .pure _
  | proxy p => exact .bind (Proxy.obeys_hasProperty hu _ _ _) fun _ => .pure _
  | table t => exact .pure _

/-- It may read one. -/
theorem obeys_getProperty (o : ObjectRef) (id : Identifier) : Obeys R (getProperty ops i o id) := by
  refine .bind .get fun w => ?_
  cases o with
  | handle h =>
    refine .bind (obeys_fetch hu hn i _ _) fun got => ?_
    cases got with
    | some v => exact obeys_toVariant i v
    | none => exact .pure _
  | proxy p =>
    refine .bind (Proxy.obeys_getProperty hu (w.proxy p) (some {}) hn (.string id.text)) fun got =>
      ?_
    dsimp only
    split
    · exact .bind (obeys_releaseVariant _ _) fun _ => .bind (obeys_abandon _) fun _ => .pure _
    · exact .pure _
  | table t => exact .pure _

/-- It may write one. -/
theorem obeys_setProperty (o : ObjectRef) (id : Identifier) (v : Variant) :
    Obeys R (setProperty ops i o id v) := by
  refine .bind .get fun w => ?_
  cases o with
  | handle h =>
    exact .bind (obeys_toValue i v) fun _ => .bind (obeys_assign hu hn i _ _ _) fun _ => .pure _
  | proxy p =>
    exact .bind (Proxy.obeys_setProperty hu _ _ hn _ _) fun _ => .bind (obeys_abandon _) fun _ =>
      .pure _
  | table t => exact .pure _

/-- It may evaluate a text. -/
theorem obeys_evaluate (scope : Option ObjectRef) (script : Bytes) :
    Obeys R (evaluate ops i scope script) := by
  refine .bind .get fun w => ?_
  dsimp only
  split
  · exact .pure _
  · split
    · exact .pure _
    · refine .bind (.caught (obeys_runProgram hu hn i _ _)) fun ran => ?_
      split
      · exact obeys_toVariant i _
      · exact .pure _
      · exact .pure _
      · exact .throw _
      · exact .throw _
      · exact .pure _

end ScriptHost

/-! ### All levels -/

include hu

/-- Hosts leave the view alone, however deep calls are nested. -/
theorem obey_hostOps (level : Nat) : (hostOps level : HostOps β).Obey R := by
  induction level with
  | zero => exact ⟨fun _ _ _ => .throw _, fun _ _ _ => .throw _, fun _ _ _ _ => .throw _,
    fun _ _ _ => .throw _⟩
  | succ level ih =>
    have hn : NativeObeys R (hostOps level : HostOps β) := hu.native _ ih
    refine ⟨fun host o id => ?_, fun host o id => ?_, fun host o id v => ?_,
      fun host scope script => ?_⟩
    · cases host with
      | memory => exact MemoryHost.obeys_hasProperty hu o id
      | script i => exact ScriptHost.obeys_hasProperty hu hn i o id
    · cases host with
      | memory => exact MemoryHost.obeys_getProperty hu hn o id
      | script i => exact ScriptHost.obeys_getProperty hu hn i o id
    · cases host with
      | memory => exact MemoryHost.obeys_setProperty hu hn o id v
      | script i => exact ScriptHost.obeys_setProperty hu hn i o id v
    · cases host with
      | memory => exact MemoryHost.obeys_evaluate scope script
      | script i => exact ScriptHost.obeys_evaluate hu hn i scope script

/-- So native code obeys that is given the operations of the hosts. -/
theorem nativeObeys_host : NativeObeys R (host : HostOps β) := hu.native _ (obey_hostOps hu nesting)

/-! ### Runtimes -/

namespace Runtime

/-- A global may be set. -/
theorem obeys_setGlobal (i : Nat) (name : String) (v : Value) :
    Obeys R (setGlobal i name v : M β (Except BindError Unit)) := by
  refine .bind .get fun w => ?_
  dsimp only
  split
  · exact .throw _
  · refine .bind (ScriptHost.obeys_assign hu (nativeObeys_host hu) i _ _ _) fun stored => ?_
    split
    · exact .pure _
    · exact .bind (ScriptHost.obeys_textOf hu (nativeObeys_host hu) i _) fun _ => .pure _
    · exact .throw _

/-- Binding an object. -/
theorem obeys_bind (i : Nat) (name : String) (o : Option ObjectRef) :
    Obeys R (bind i name o : M β (Except BindError Unit)) := by
  cases o with
  | none => exact .pure _
  | some o =>
    exact .bind (ScriptHost.obeys_toValue i _) fun _ => .bind (obeys_release o) fun _ =>
      obeys_setGlobal hu i name _

end Runtime

end

/-! ### Starting a runtime -/

namespace World

/-- Is a runtime open, if it is there? -/
def isOpen? (i : Nat) (w : World β) : Option Bool := w.runtimes[i]?.map Runtime.isOpen

omit [Native β] in
/-- A runtime that is known to be open or closed is. -/
theorem isOpen_runtime {w : World β} {i : Nat} {b : Bool} (h : w.isOpen? i = some b) :
    (w.runtime i).isOpen = b := by
  obtain ⟨r, hr, hb⟩ := Option.map_eq_some_iff.mp h
  rw [runtime, Array.getD_eq_getD_getElem?, hr]
  exact hb

end World

/-- A runtime after it was started: it has its configuration, what it held
for scripts, and a realm. -/
def Runtime.started (y : Runtime) (realm : Script.Realm) : Runtime :=
  { config := y.config, realm, adopted := y.adopted }

/-- The heap with the realm that a runtime is given, and the realm. -/
def World.newRealm (w : World β) (i : Nat) : Script.Heap × Script.Realm :=
  w.heap.newRealm w.realms (w.runtime i).config.console

/-- The world after a runtime was started. -/
def World.started (w : World β) (i : Nat) : World β :=
  { w with
    heap := (w.newRealm i).1
    realms := w.realms + 1
    runtimes := w.runtimes.modify i (·.started (w.newRealm i).2) }

omit [Native β] in
/-- Starting a runtime has one result. -/
theorem Runtime.perform_start_eq (i : Nat) (w : World β) :
    perform (start i) w = (.ok (), w.started i) := by
  unfold start World.started World.newRealm
  rw [perform_bind_ok (perform_get w)]
  unfold ScriptHost.withHeap
  dsimp only
  rw [perform_bind_ok (perform_modifyGet _ w)]
  -- What a realm is made of does not matter here.
  generalize w.heap.newRealm w.realms (w.runtime i).config.console = made
  rfl

/-! ### Giving references back -/

namespace Runtime

omit [Native β] in
/-- References may be given back, when each of them may. -/
theorem obeys_releaseObjects [IsPreorder (World β) R] (h : ∀ o, Obeys R (release o))
    (l : List ObjectRef) :
    Obeys R (releaseObjects l) := by
  induction l with
  | nil => exact .pure ()
  | cons o rest ih => exact .bind (h o) fun _ => ih

omit [Native β] in
/-- A runtime may give back all it holds for scripts. -/
theorem obeys_releaseAdopted [Lenient R] (i : Nat) : Obeys R (releaseAdopted i) :=
  .bind .get fun _ => .bind (obeys_releaseObjects obeys_release _) fun _ =>
    obeys_modifyRuntime i fun _ => rfl

end Runtime

/-! ### Running and stopping scripts -/

namespace Runtime

variable [Lax R]

omit [Native β] in
/-- Changing a runtime otherwise than by opening or closing it. What stops
its scripts may change. -/
theorem obeys_rewatch (i : Nat) {f : Runtime → Runtime}
    (hf : ∀ r, ((f r).config, (f r).isOpen) = (r.config, r.isOpen)) :
    Obeys R (modifyRuntime i f) := by
  have hconfig (r : Runtime) : (f r).config = r.config := congrArg Prod.fst (hf r)
  have hopen (r : Runtime) : (f r).isOpen = r.isOpen := congrArg Prod.snd (hf r)
  refine .modify fun w => Lax.of_timers ?_ rfl
  simp only [World.affairs, map_modify_of_eq hconfig, map_modify_of_eq hopen]

omit [Native β] in
/-- What stops scripts may change, as far as the relation leaves that out. -/
theorem obeys_modifyWatch (i : Nat) (f : Watch → Watch) : Obeys R (modifyWatch i f) :=
  obeys_rewatch i fun _ => rfl

omit [Native β] in
/-- A run may end. -/
theorem obeys_finish (i : Nat) (result : Except ScriptError Exported) : Obeys R (finish i result) :=
  .bind (obeys_modifyWatch i _) fun _ => .bind .get fun _ => .pure _

omit [Native β] in
/-- Code may be stopped. -/
theorem obeys_heedFlag (i : Nat) (code : Bool) : Obeys R (heedFlag i code) := by
  refine .bind .get fun w => ?_
  split
  · exact .throw _
  · exact .pure _

variable (hu : Upheld R)

include hu

/-- A property may be read of a value that leaves a script. -/
theorem obeys_fetchWatched (i : Nat) (o : Script.ObjId) (key : Key) :
    Obeys R (fetchWatched i o key : M β (Option Value)) := by
  refine .bind .get fun w => .bind (obeys_heedFlag i _) fun _ => ?_
  refine .bind (.cleanly (ScriptHost.obeys_fetch hu (nativeObeys_host hu) i o key)
    (obeys_rewatch i fun _ => rfl)) fun v => ?_
  exact .bind (obeys_heedFlag i _) fun _ => .pure _

omit hu [Lax R] in
/-- The properties of an object are taken out like their values. -/
theorem obeys_exportItems [Lenient R] {i fuel : Nat} {inside : List Script.ObjId}
    (hfetch : ∀ o key, Obeys R (fetchWatched i o key : M β (Option Value)))
    (hvalue : ∀ v, Obeys R (exportValue i fuel inside v : M β Exported)) (o : Script.ObjId)
    (keys : List Key) :
    Obeys R (exportItems i fuel inside o keys : M β (List Exported)) := by
  induction keys with
  | nil =>
    unfold exportItems
    exact .pure _
  | cons key rest ih =>
    unfold exportItems
    exact .bind (hfetch o key) fun _ => .bind (hvalue _) fun _ => .bind ih fun _ => .pure _

omit hu [Lax R] in
/-- Taking a value out of a script may run the script once more. -/
theorem obeys_exportValue [Lenient R] {i : Nat}
    (hfetch : ∀ o key, Obeys R (fetchWatched i o key : M β (Option Value)))
    (fuel : Nat) (inside : List Script.ObjId) (v : Value) :
    Obeys R (exportValue i fuel inside v : M β Exported) := by
  induction fuel generalizing inside v with
  | zero =>
    unfold exportValue
    exact .pure _
  | succ fuel ih =>
    unfold exportValue
    cases v with
    | object o =>
      dsimp only
      split
      · exact .pure _
      · refine .bind .get fun w => ?_
        split
        · exact .pure _
        · exact .pure _
        · exact ih _ _
        · exact .bind (obeys_exportItems hfetch (ih _) o _) fun _ => .pure _
        · exact .bind (obeys_exportItems hfetch (ih _) o _) fun _ => .pure _
    | _ => exact .pure _

omit hu [Lax R] in
/-- A result may be taken out, when properties may be read. -/
theorem obeys_exportResult [Lenient R] {i : Nat}
    (hfetch : ∀ o key, Obeys R (fetchWatched i o key : M β (Option Value)))
    (v : Value) : Obeys R (exportResult i v : M β Exported) := by
  unfold exportResult
  split
  · refine .bind (ScriptHost.obeys_unwrap? i _) fun ref => ?_
    cases ref with
    | some ref => exact .pure _
    | none => exact obeys_exportValue hfetch _ _ _
  · exact obeys_exportValue hfetch _ _ _

/-- The text of what was thrown may be asked for. -/
theorem obeys_finishThrown (i : Nat) (v : Value) : Obeys R (finishThrown i v : M β Execution) := by
  refine .bind (obeys_finish i _) fun ended => ?_
  refine .bind (.caught (ScriptHost.obeys_textOf hu (nativeObeys_host hu) i v)) fun text => ?_
  split
  · exact .pure _
  · exact .pure _
  · exact .throw _

/-- A run that has a value may end. -/
theorem obeys_takeOut (i : Nat) (f : Interrupt) (v : Value) :
    Obeys R (takeOut i f v : M β Execution) := by
  refine .bind (obeys_finish i _) fun ended => .bind (obeys_rewatch i fun _ => rfl) fun _ => ?_
  exact .bind (.cleanly (obeys_exportResult (obeys_fetchWatched hu i) v) (obeys_modifyWatch i _))
    fun _ => .pure _

/-- A run may end in any way. -/
theorem obeys_conclude (i : Nat) (f : Interrupt) (ran : Except Unwind Script.Outcome) :
    Obeys R (conclude i f ran : M β Execution) := by
  unfold conclude
  split
  · exact obeys_takeOut hu i _ _
  · exact obeys_finish i _
  · exact obeys_finish i _
  · exact obeys_finish i _
  · exact obeys_finish i _
  · exact obeys_finishThrown hu i _
  · exact obeys_finishThrown hu i _
  · exact .throw _

/-- Running a script. -/
theorem obeys_execute (i : Nat) (script : String) (cancelled : Bool) :
    Obeys R (execute i script cancelled : M β Execution) := by
  refine .bind .get fun w => ?_
  split
  · exact .pure _
  · refine .bind (obeys_rewatch i fun _ => rfl) fun _ => ?_
    split
    · exact obeys_finish i _
    · refine .bind .get fun w' => ?_
      dsimp only
      split
      · exact obeys_finish i _
      · exact .bind (.caught (ScriptHost.obeys_runProgram hu (nativeObeys_host hu) i _ _))
          fun ran =>
          obeys_conclude hu i _ ran

end Runtime

end ObjectBridge

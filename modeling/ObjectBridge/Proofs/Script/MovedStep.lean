import ObjectBridge.Proofs.Script.MovedBuiltins
import ObjectBridge.Script.Step

/-!
# `ObjectBridge.Proofs.Script.MovedStep`: running scripts elsewhere

A step of the machine leads to the same elsewhere (`Moved.step`), and so does
a run of any length (`Moved.run`). There is one lemma for each function of the
machine, which tells its cases apart; in each case the step ends in one of the
ways of which `Result.Moved` is known.
-/

set_option autoImplicit false

namespace ObjectBridge.Script

variable {ρ : Relocation} {p q : Prop} {h h' : Heap}

namespace Heap.Moved

variable (hm : h.Moved ρ p q h') (r : Realm) (k : List Frame) (d : Nat)

include hm

/-! ### Expressions -/

/-- The next argument of a call is evaluated. -/
theorem nextArgument (call : PendingCall) (done : List Value) (rest : List Expr) (env : Env) :
    Result.Moved ρ p q (Script.nextArgument r h call done rest env k d)
      (Script.nextArgument (r.relocate ρ) h' (call.relocate ρ) (done.map (·.relocate ρ)) rest
        (env.relocate ρ) (relocateFrames ρ k) d) := by
  induction rest generalizing done with
  | nil =>
    unfold Script.nextArgument
    rw [← List.map_reverse]
    cases call with
    | call f this => exact hm.go (.apply f this done.reverse true) k d
    | new f => exact hm.go (.instantiate f done.reverse) k d
    | missing key =>
      dsimp only [PendingCall.relocate]
      rw [Key.shown_relocate]
      exact hm.raise ..
    | unknown name => exact hm.raise ..
  | cons e rest ih =>
    unfold Script.nextArgument
    rw [hm.value?]
    cases Script.value? r h env e with
    | some v => exact ih (v :: done)
    | none => exact hm.go (.eval e env) (.argument call done rest env :: k) d

/-- The next item of an array is. -/
theorem nextItem (done : List (Option Value)) (rest : List (Option Expr)) (env : Env) :
    Result.Moved ρ p q (Script.nextItem r h done rest env k d)
      (Script.nextItem (r.relocate ρ) h' (done.map (·.map (·.relocate ρ))) rest (env.relocate ρ)
        (relocateFrames ρ k) d) := by
  induction rest generalizing done with
  | nil =>
    unfold Script.nextItem
    dsimp only
    rw [← List.map_reverse]
    exact (hm.newArray r done.reverse).give k d
  | cons e rest ih =>
    cases e with
    | none =>
      unfold Script.nextItem
      exact ih (none :: done)
    | some e =>
      unfold Script.nextItem
      rw [hm.value?]
      cases Script.value? r h env e with
      | some v => exact ih (some v :: done)
      | none => exact hm.go (.eval e env) (.item done rest env :: k) d

/-- The next member of an object is. -/
theorem nextMember (o : ObjId) (rest : List Member) (env : Env) :
    Result.Moved ρ p q (Script.nextMember h o rest env k d)
      (Script.nextMember h' (ρ.objects o) rest (env.relocate ρ) (relocateFrames ρ k) d) := by
  obtain _ | ⟨⟨key, kind, e⟩ | ⟨key, kind, e⟩, rest⟩ := rest
  · exact hm.give (.object o) k d
  · have hgo := hm.go (.eval e env) (.member o key.val kind rest env :: k) d
    dsimp only [relocateFrames] at hgo
    rw [List.map_cons, Frame.relocate, Key.relocate_written] at hgo
    exact hgo
  · exact hm.go (.eval key env) (.keyed (.member o kind e rest env) :: k) d

/-- A member is stored beside the getter or the setter that is there. -/
theorem putMemberWith (o : ObjId) (key : Key) (kind : MemberKind) (v g s : Value) :
      (match kind, v with
        | .value, v => h.put o key (.plain v)
        | .getter, v => h.put o key { slot := .accessor v s, writable := false }
        | .setter, v => h.put o key { slot := .accessor g v, writable := false }
        | .proto, .object p => h.modifyObj o fun x => { x with proto := some p }
        | .proto, .null => h.modifyObj o fun x => { x with proto := none }
        | .proto, _ => h).Moved ρ p q
      (match kind, v.relocate ρ with
        | .value, v => h'.put (ρ.objects o) (key.relocate ρ) (.plain v)
        | .getter, v =>
          h'.put (ρ.objects o) (key.relocate ρ)
            { slot := .accessor v (s.relocate ρ), writable := false }
        | .setter, v =>
          h'.put (ρ.objects o) (key.relocate ρ)
            { slot := .accessor (g.relocate ρ) v, writable := false }
        | .proto, .object p => h'.modifyObj (ρ.objects o) fun x => { x with proto := some p }
        | .proto, .null => h'.modifyObj (ρ.objects o) fun x => { x with proto := none }
        | .proto, _ => h') := by
  cases kind with
  | value => exact hm.put o key (.plain v)
  | getter => exact hm.put o key { slot := .accessor v s, writable := false }
  | setter => exact hm.put o key { slot := .accessor g v, writable := false }
  | proto =>
    cases v with
    | object p => exact hm.changeProto o (some p)
    | null => exact hm.changeProto o none
    | _ => exact hm

/-- A member is stored: a value, a getter or a setter. -/
theorem putMember (o : ObjId) (key : Key) (kind : MemberKind) (v : Value) :
    (Script.putMember h o key kind v).Moved ρ p q
      (Script.putMember h' (ρ.objects o) (key.relocate ρ) kind (v.relocate ρ)) := by
  unfold Script.putMember
  rw [hm.own?]
  obtain _ | ⟨slot, _, _, _⟩ := h.own? o key
  · exact hm.putMemberWith o key kind v .undefined .undefined
  · cases slot with
    | data w => exact hm.putMemberWith o key kind v .undefined .undefined
    | accessor g s => exact hm.putMemberWith o key kind v g s

/-- New scopes stand at places that belong together. -/
theorem newScope_split (s : Scope) : ∃ g i g', h.newScope s = (g, i) ∧
    h'.newScope (s.relocate ρ) = (g', ρ.scopes i) ∧ g.Moved ρ p q g' := by
  obtain ⟨hscope, hplace⟩ := hm.newScope s
  exact ⟨_, _, _, rfl, Prod.ext rfl hplace, hscope⟩

/-- A function of a program becomes an object. -/
theorem makeClosure (f : Function) (env : Env) :
    Heap.Made ρ p q (Script.makeClosure r h f env)
      (Script.makeClosure (r.relocate ρ) h' f (env.relocate ρ)) := by
  unfold Script.makeClosure
  rw [Env.relocate_scope]
  split
  · obtain ⟨h, s, h', ha, hb, hm⟩ := hm.newScope_split
      { names := [f.head.name], values := #[.undefined], constant := true, parent := env.scope }
    simp only [Scope.relocate, List.map_toArray, List.map_cons, List.map_nil,
      Value.relocate_undefined] at hb
    rw [ha, hb]
    obtain ⟨h, o, h', ha, hb, hm⟩ := (hm.newClosure r f (some s)).split
    rw [Option.map_some] at hb
    dsimp only
    rw [ha, hb]
    exact ⟨hm.setVariable s 0 (.object o), rfl⟩
  · exact hm.newClosure r f env.scope

/-- An expression stands for something that can be assigned to. -/
theorem stepEval (e : Expr) (env : Env) :
    Result.Moved ρ p q (Script.stepEval r h e env k d)
      (Script.stepEval (r.relocate ρ) h' e (env.relocate ρ) (relocateFrames ρ k) d) := by
  cases e with
  | number n => exact hm.give (.number n) k d
  | bigint n => exact hm.give (.bigint n) k d
  | string t => exact hm.give (.string t) k d
  | bool b => exact hm.give (.bool b) k d
  | null => exact hm.give .null k d
  | this => exact hm.give env.this k d
  | ident name => exact hm.go (.refer _ env) (.read :: k) d
  | member base key => exact hm.go (.refer _ env) (.read :: k) d
  | index base key => exact hm.go (.refer _ env) (.read :: k) d
  | array items => exact hm.nextItem r k d [] items env
  | object members =>
    obtain ⟨h, o, h', ha, hb, hm⟩ := (hm.newObject r).split
    dsimp only [Script.stepEval]
    rw [ha, hb]
    exact hm.nextMember k d o members env
  | function f => exact (hm.makeClosure r f env).give k d
  | call callee args =>
    cases callee with
    | ident name => exact hm.go (.refer _ env) (.callRef args env :: k) d
    | member base key => exact hm.go (.refer _ env) (.callRef args env :: k) d
    | index base key => exact hm.go (.refer _ env) (.callRef args env :: k) d
    | _ => exact hm.go (.eval _ env) (.callValue args env :: k) d
  | new callee args => exact hm.go (.eval callee env) (.newCallee args env :: k) d
  | unary op e =>
    cases op with
    | typeOf =>
      cases e with
      | ident name => exact hm.go (.refer _ env) (.typeOfRef :: k) d
      | _ => exact hm.go (.eval _ env) (.unary .typeOf :: k) d
    | _ => exact hm.go (.eval e env) (.unary _ :: k) d
  | delete e =>
    cases e with
    | ident name => exact hm.go (.refer _ env) (.deleteRef env.strict :: k) d
    | member base key => exact hm.go (.refer _ env) (.deleteRef env.strict :: k) d
    | index base key => exact hm.go (.refer _ env) (.deleteRef env.strict :: k) d
    | _ => exact hm.go (.eval _ env) (.instead (.bool true) :: k) d
  | binary op left right => exact hm.go (.eval left env) (.binaryRight op right env :: k) d
  | logical op left right => exact hm.go (.eval left env) (.logical op right env :: k) d
  | conditional test yes no => exact hm.go (.eval test env) (.conditional yes no env :: k) d
  | assign target op value => exact hm.go (.refer target env) (.assignRef op value env :: k) d
  | update before delta target =>
    exact hm.go (.refer target env) (.updateRef before delta env.strict :: k) d
  | sequence first second => exact hm.go (.eval first env) (.second second env :: k) d

/-- An expression is taken as a place that can be written. -/
theorem stepRefer (e : Expr) (env : Env) :
    Result.Moved ρ p q (Script.stepRefer r h e env k d)
      (Script.stepRefer (r.relocate ρ) h' e (env.relocate ρ) (relocateFrames ρ k) d) := by
  cases e with
  | ident name =>
    have hgo := hm.go (.refers (Script.resolve h env name)) k d
    dsimp only [Script.stepRefer]
    rw [hm.resolve]
    exact hgo
  | member base key =>
    have hrefers (b : Value) := hm.go (.refers (.member b key.val)) k d
    have heval := hm.go (.eval base env) (.refMember key.val :: k) d
    dsimp only [Control.relocate, Reference.relocate, relocateFrames] at hrefers heval
    simp only [List.map_cons, Frame.relocate, Key.relocate_written] at hrefers heval
    dsimp only [Script.stepRefer]
    rw [hm.value?]
    cases Script.value? r h env base with
    | some b => exact hrefers b
    | none => exact heval
  | index base key => exact hm.go (.eval base env) (.refIndex key env :: k) d
  | _ => exact hm.go (.eval _ env) k d

/-! ### Statements -/

/-- The next variable of a declaration is set. -/
theorem nextVariable (rest : List (String × Option Expr)) (env : Env) :
    Result.Moved ρ p q (Script.nextVariable r h rest env k d)
      (Script.nextVariable (r.relocate ρ) h' rest (env.relocate ρ) (relocateFrames ρ k) d) := by
  induction rest with
  | nil => exact hm.go (.complete .normal) k d
  | cons decl rest ih =>
    obtain ⟨name, _ | e⟩ := decl
    · exact ih
    · exact hm.go (.eval e env) (.varInit name rest env :: k) d

/-- A variable is set by its name. -/
theorem setNamed (names : List String) (s : ScopeId) (name : String) (v : Value) :
    (Script.setNamed h names s name v).Moved ρ p q
      (Script.setNamed h' names (ρ.scopes s) name (v.relocate ρ)) := by
  unfold Script.setNamed
  cases placeOf? name 0 names with
  | some i => exact hm.setVariable s i v
  | none => exact hm

/-- The functions of a block are stored in its scope. -/
theorem storeFunctions (names : List String) (s : ScopeId) (functions : List (String × Function)) :
    (Script.storeFunctions r h names s functions).Moved ρ p q
      (Script.storeFunctions (r.relocate ρ) h' names (ρ.scopes s) functions) := by
  refine hm.foldl_same (fun h h' e hm => ?_) functions
  obtain ⟨name, f⟩ := e
  obtain ⟨h, o, h', ha, hb, hm⟩ := (hm.newClosure r f (some s)).split
  rw [Option.map_some] at hb
  dsimp only
  rw [ha, hb]
  exact hm.setNamed names s name (.object o)

/-- A block is entered with its functions. -/
theorem bindFunctions (functions : List (String × Function)) (env : Env) :
    ∃ g e g', Script.bindFunctions r h functions env = (g, e) ∧
      Script.bindFunctions (r.relocate ρ) h' functions (env.relocate ρ) = (g', e.relocate ρ) ∧
        g.Moved ρ p q g' := by
  cases functions with
  | nil => exact ⟨h, env, h', rfl, rfl, hm⟩
  | cons f rest =>
    obtain ⟨g, s, g', ha, hb, hg⟩ := hm.newScope_split
      { names := ((f :: rest).map Prod.fst).eraseDups
        values := Array.replicate ((f :: rest).map Prod.fst).eraseDups.length .undefined
        parent := env.scope }
    simp only [Scope.relocate, Array.map_replicate, Value.relocate_undefined] at hb
    have hstored := hg.storeFunctions r ((f :: rest).map Prod.fst).eraseDups s (f :: rest)
    refine ⟨_, { env with scope := some s }, _, ?_, ?_, hstored⟩
    · unfold Script.bindFunctions
      dsimp only
      rw [ha]
    · unfold Script.bindFunctions
      dsimp only
      rw [Env.relocate_scope, hb]
      rfl

/-- A statement starts to be run. -/
theorem stepExec (s : Stmt) (env : Env) :
    Result.Moved ρ p q (Script.stepExec r h s env k d)
      (Script.stepExec (r.relocate ρ) h' s (env.relocate ρ) (relocateFrames ρ k) d) := by
  cases s with
  | empty kept => exact (hm.clear kept).go (.complete .normal) k d
  | expr e kept => exact hm.go (.eval e env) (.exprDone kept :: k) d
  | var decls => exact hm.nextVariable r k d decls env
  | function name f =>
    obtain ⟨h, o, h', ha, hb, hm⟩ := (hm.newClosure r f env.scope).split
    have hgo := hm.go (.writeRef (Script.resolve h env name) (.object o) false)
        (.varRest [] env :: k) d
    dsimp only [Script.stepExec]
    rw [ha, Env.relocate_scope, hb, hm.resolve]
    exact hgo
  | block functions body =>
    obtain ⟨h, env, h', ha, hb, hm⟩ := hm.bindFunctions r functions env
    dsimp only [Script.stepExec]
    rw [ha, hb]
    exact hm.go (.execAll body env) k d
  | cond kept test yes no => exact (hm.clear kept).go (.eval test env) (.ifTest yes no env :: k) d
  | «while» kept label test body => exact (hm.clear kept).go (.iterate _ env) k d
  | doWhile kept label body test => exact hm.go (.exec body env) (.loopBody _ env :: k) d
  | «for» kept label init test update body =>
    cases init with
    | some i => exact hm.go (.exec i env) (.forInit _ env :: k) d
    | none => exact (hm.clear kept).go (.iterate _ env) k d
  | forIn kept label target object body =>
    exact hm.go (.eval object env) (.forInObject _ env :: k) d
  | switch kept subject functions cases =>
    obtain ⟨h, inner, h', ha, hb, hm⟩ := hm.bindFunctions r functions env
    dsimp only [Script.stepExec]
    rw [ha, hb]
    exact (hm.clear kept).go (.eval subject env) (.switchSubject cases inner :: k) d
  | labelled l s => exact hm.go (.exec s env) (.label l :: k) d
  | «return» e =>
    cases e with
    | some e => exact hm.go (.eval e env) (.returnValue :: k) d
    | none => exact hm.go (.complete (.return .undefined)) k d
  | throw e => exact hm.go (.eval e env) (.throwValue :: k) d
  | «try» kept body handler finalizer =>
    exact (hm.clear kept).go (.exec body env) (.tryBody handler finalizer env :: k) d
  | «break» l => exact hm.go (.complete (.break l)) k d
  | «continue» l => exact hm.go (.complete (.continue l)) k d

/-! #### Loops -/

omit hm in
/-- Whether a loop goes on does not depend on values. -/
@[simp] theorem repeats_relocate (c : Completion) (label : Option String) :
    (c.relocate ρ).repeats label = c.repeats label := by
  cases c <;> rfl

omit hm in
/-- Neither does whether it ends. -/
@[simp] theorem ends_relocate (c : Completion) (label : Option String) :
    (c.relocate ρ).ends label = c.ends label := by
  cases c <;> rfl

/-- A loop goes on after its body. -/
theorem afterBody (loop : Stmt) (env : Env) :
    Result.Moved ρ p q (Script.afterBody r h loop env k d)
      (Script.afterBody (r.relocate ρ) h' loop (env.relocate ρ) (relocateFrames ρ k) d) := by
  have hiterate := hm.go (.iterate loop env) k d
  cases loop with
  | «for» kept label init test update body =>
    cases update with
    | none => exact hiterate
    | some update =>
      dsimp only [Script.afterBody]
      rw [hm.act?]
      cases Script.act? r h env update with
      | some deed => exact (hm.apply deed.1).go (.iterate _ env) k d
      | none => exact hm.go (.eval update env) (.forUpdate _ env :: k) d
  | doWhile kept label body test => exact hm.go (.eval test env) (.loopTest _ env :: k) d
  | _ => exact hiterate

/-- The body of a loop is entered. -/
theorem enterBody (loop body : Stmt) (env : Env) :
    Result.Moved ρ p q (Script.enterBody r h loop body env k d)
      (Script.enterBody (r.relocate ρ) h' loop body (env.relocate ρ) (relocateFrames ρ k) d) := by
  have hexec := hm.go (.exec body env) (.loopBody loop env :: k) d
  cases body with
  | block functions ss =>
    cases functions with
    | nil =>
      obtain ⟨hheap, hrest⟩ := hm.runAll r env ss
      dsimp only [Script.enterBody]
      generalize Script.runAll r env h ss = a at hheap hrest
      generalize Script.runAll (r.relocate ρ) (env.relocate ρ) h' ss = b at hheap hrest
      obtain ⟨h, rest⟩ := a
      obtain ⟨h', _⟩ := b
      cases hrest
      cases rest with
      | nil => exact hheap.afterBody r k d loop env
      | cons s rest => exact hheap.go (.execAll (s :: rest) env) (.loopBody loop env :: k) d
    | cons f functions => exact hexec
  | _ => exact hexec

/-- A loop goes on as its test says. -/
theorem afterTest (v : Value) (loop : Stmt) (env : Env) :
    Result.Moved ρ p q (Script.afterTest r h v loop env k d)
      (Script.afterTest (r.relocate ρ) h' (v.relocate ρ) loop (env.relocate ρ)
        (relocateFrames ρ k) d) := by
  unfold Script.afterTest
  rw [Value.truthy_relocate]
  refine .ite (fun _ => hm.go (.complete .normal) k d) fun _ => ?_
  cases loop with
  | «while» kept label test body => exact (hm.clear kept).enterBody r k d _ body env
  | «for» kept label init test update body => exact (hm.clear kept).enterBody r k d _ body env
  | doWhile kept label body test => exact hm.enterBody r k d _ body env
  | _ => exact hm.go (.complete .normal) k d

/-- A loop goes on after its test. -/
theorem testLoop (test : Option Expr) (loop : Stmt) (env : Env) :
    Result.Moved ρ p q
      (match test with
        | none => Script.afterTest r h (.bool true) loop env k d
        | some e =>
          match Script.value? r h env e with
          | some v => Script.afterTest r h v loop env k d
          | none => Script.go h (.eval e env) (.loopTest loop env :: k) d)
      (match test with
        | none => Script.afterTest (r.relocate ρ) h' (.bool true) loop (env.relocate ρ)
          (relocateFrames ρ k) d
        | some e =>
          match Script.value? (r.relocate ρ) h' (env.relocate ρ) e with
          | some v => Script.afterTest (r.relocate ρ) h' v loop (env.relocate ρ)
            (relocateFrames ρ k) d
          | none =>
            Script.go h' (.eval e (env.relocate ρ)) (.loopTest loop (env.relocate ρ) ::
              relocateFrames ρ k) d) := by
  cases test with
  | none => exact hm.afterTest r k d (.bool true) loop env
  | some e =>
    dsimp only
    rw [hm.value?]
    cases Script.value? r h env e with
    | some v => exact hm.afterTest r k d v loop env
    | none => exact hm.go (.eval e env) (.loopTest loop env :: k) d

/-- A loop starts its next turn. -/
theorem stepIterate (loop : Stmt) (env : Env) :
    Result.Moved ρ p q (Script.stepIterate r h loop env k d)
      (Script.stepIterate (r.relocate ρ) h' loop (env.relocate ρ) (relocateFrames ρ k) d) := by
  have htested (test : Option Expr) := hm.testLoop r k d test loop env
  cases loop with
  | «while» kept label test body => exact htested (some test)
  | «for» kept label init test update body => exact htested test
  | _ => exact htested none

/-- The next key of a loop over keys is taken. -/
theorem stepForIn (loop : Stmt) (env : Env) (o : ObjId) (keys : List Key) :
    Result.Moved ρ p q (Script.stepForIn h loop env o keys k d)
      (Script.stepForIn h' loop (env.relocate ρ) (ρ.objects o) (keys.map (·.relocate ρ))
        (relocateFrames ρ k) d) := by
  cases keys with
  | nil => exact hm.go (.complete .normal) k d
  | cons key rest =>
    cases loop with
    | forIn kept label target object body =>
      have hfind := hm.find (some o) key
      rw [Option.map_some] at hfind
      unfold Script.stepForIn
      simp only [List.map_cons, hfind]
      cases h.find (some o) key with
      | native n =>
        dsimp only [Found.relocate]
        rw [hm.obj, Obj.relocate_kind, Key.shown_relocate]
        cases (h.obj n).kind with
        | native realm ref => exact hm.ask (.has ref key.shown) (.forInHas _ env o key rest :: k) d
        | _ => exact hm.go (.forInNext _ env o rest) k d
      | field f => exact hm.go (.refer target env) (.forInRef _ env o key rest :: k) d
      | none => exact hm.go (.forInNext _ env o rest) k d
    | _ => exact hm.go (.complete .normal) k d

/-- The keys of an object are collected for a loop. -/
theorem startKeys (v : Value) (loop : Stmt) (env : Env) (kept : Bool) :
    Result.Moved ρ p q
      (match Script.toObject? r h v with
        | none => Script.go (Script.clear kept h) (.complete .normal) k d
        | some (h, o) =>
          let h := Script.clear kept h
          match (h.obj o).kind with
          | .native _ n => Script.ask h (.keys n) (.forInKeys loop env o :: k) d
          | _ =>
            let keys := h.keysFrom (h.objects.size + 1) [] (some o)
            Script.go (h.charge (30 + 2 * keys.length)) (.forInNext loop env o keys) k d)
      (match Script.toObject? (r.relocate ρ) h' (v.relocate ρ) with
        | none => Script.go (Script.clear kept h') (.complete .normal) (relocateFrames ρ k) d
        | some (h, o) =>
          let h := Script.clear kept h
          match (h.obj o).kind with
          | .native _ n =>
            Script.ask h (.keys n) (.forInKeys loop (env.relocate ρ) o :: relocateFrames ρ k) d
          | _ =>
            let keys := h.keysFrom (h.objects.size + 1) [] (some o)
            Script.go (h.charge (30 + 2 * keys.length)) (.forInNext loop (env.relocate ρ) o keys)
              (relocateFrames ρ k) d) := by
  obtain ⟨ha, hb⟩ | ⟨g, o, g', ha, hb, hg⟩ := hm.toObject? r v
  · rw [ha, hb]
    exact (hm.clear kept).go (.complete .normal) k d
  · rw [ha, hb]
    replace hg := hg.clear kept
    have hkeys : (Script.clear kept g').keysFrom ((Script.clear kept g').objects.size + 1) []
        (some (ρ.objects o)) = _ := hg.keysFrom [] (some o)
    dsimp only
    rw [hg.obj, Obj.relocate_kind, hkeys, List.length_map]
    cases ((Script.clear kept g).obj o).kind with
    | native realm n => exact hg.ask (.keys n) (.forInKeys loop env o :: k) d
    | _ => exact (hg.charge _).go (.forInNext loop env o _) k d

/-- A loop over keys collects them. -/
theorem startForIn (v : Value) (loop : Stmt) (env : Env) :
    Result.Moved ρ p q (Script.startForIn r h v loop env k d)
      (Script.startForIn (r.relocate ρ) h' (v.relocate ρ) loop (env.relocate ρ)
        (relocateFrames ρ k) d) := by
  have hstart (kept : Bool) := hm.startKeys r k d v loop env kept
  cases loop with
  | forIn kept label target object body => exact hstart kept
  | _ => exact hstart false

/-- The statements of the cases of a switch are run. -/
theorem runCases (cases : List SwitchCase) (env : Env) :
    Result.Moved ρ p q (Script.runCases h cases env k d)
      (Script.runCases h' cases (env.relocate ρ) (relocateFrames ρ k) d) :=
  hm.go (.execAll _ env) (.switchBody :: k) d

/-- The next case of a switch is compared. -/
theorem nextCase (subject : Value) (rest cases : List SwitchCase) (env : Env) :
    Result.Moved ρ p q (Script.nextCase h subject rest cases env k d)
      (Script.nextCase h' (subject.relocate ρ) rest cases (env.relocate ρ)
        (relocateFrames ρ k) d) := by
  induction rest with
  | nil => exact hm.runCases ..
  | cons c rest ih =>
    obtain ⟨_ | test, body⟩ := c
    · exact ih
    · exact hm.go (.eval test env) (.switchTest subject (.mk (some test) body :: rest) cases env ::
        k) d

/-! ### Properties -/

/-- A property is fetched, from wherever along the prototypes. -/
theorem stepFetch (start : Option ObjId) (key : Key) (receiver : Value) :
    Result.Moved ρ p q (Script.stepFetch h start key receiver k d)
      (Script.stepFetch h' (start.map ρ.objects) (key.relocate ρ) (receiver.relocate ρ)
        (relocateFrames ρ k) d) := by
  unfold Script.stepFetch
  rw [hm.find]
  obtain ⟨slot, _, _, _⟩ | o | _ := h.find start key
  · cases slot with
    | data v => exact hm.give v k d
    | accessor g s =>
      dsimp only [Found.relocate, Field.relocate_mk, Slot.relocate_accessor]
      rw [Value.isUndefined_relocate]
      exact .ite (fun _ => hm.give .undefined k d) fun _ => hm.go (.apply g receiver [] false) k d
  · dsimp only [Found.relocate]
    rw [hm.obj, Obj.relocate_kind, Key.shown_relocate]
    cases (h.obj o).kind with
    | native realm n => exact hm.ask (.get n key.shown) (.nativeGet o key receiver :: k) d
    | _ => exact hm.go .absent k d
  · exact hm.go .absent k d

/-- A member of a value is read. -/
theorem readMember (base : Value) (key : Key) (called : Bool) :
    Result.Moved ρ p q (Script.readMember r h base key called k d)
      (Script.readMember (r.relocate ρ) h' (base.relocate ρ) (key.relocate ρ) called
        (relocateFrames ρ k) d) := by
  have hrefused : Result.Moved ρ p q (Script.readMember r h .undefined key called k d)
      (Script.readMember (r.relocate ρ) h' .undefined (key.relocate ρ) called
      (relocateFrames ρ k) d) := by
    dsimp only [Script.readMember]
    rw [Key.shown_relocate]
    exact hm.raise ..
  cases base with
  | undefined => exact hrefused
  | null => exact hrefused
  | object o => exact hm.go (.fetch (some o) key (.object o)) k d
  | string t =>
    have hproto := hm.go (.fetch (some r.stringProto) key (.string t)) k d
    cases key with
    | name s =>
      by_cases hs : s = "length"
      · subst hs
        exact hm.give (.ofNat t.length) k d
      · simp only [Script.readMember, Value.relocate_string, Key.relocate_name, Key.name.injEq,
          hs, imp_self]
        exact hproto
    | index i =>
      dsimp only [Script.readMember, Value.relocate_string, Key.relocate_index]
      cases t.unit? i with
      | some u => exact hm.give (.string u) k d
      | none => exact hproto
    | _ => exact hproto
  | number n => exact hm.go (.fetch (some r.numberProto) key (.number n)) k d
  | bool b => exact hm.go (.fetch (some r.boolProto) key (.bool b)) k d
  | symbol s => exact hm.go (.fetch (some r.symbolProto) key (.symbol s)) k d
  | bigint n => exact hm.go (.fetch (some r.bigintProto) key (.bigint n)) k d

/-- A place is read. -/
theorem stepRead (ref : Reference) :
    Result.Moved ρ p q (Script.stepRead r h ref k d)
      (Script.stepRead (r.relocate ρ) h' (ref.relocate ρ) (relocateFrames ρ k) d) := by
  cases ref with
  | «variable» s i =>
    have hgive := hm.give (h.variableAt s i) k d
    rw [← hm.variableAt] at hgive
    exact hgive
  | global name =>
    exact hm.go (.fetch (some r.global) (.name name) (.object r.global))
      (.readGlobal name false :: k) d
  | member base key => exact hm.readMember r k d base key false
  | element base key => exact hm.go (.keyOf key (.read base)) k d

/-- Refuses quietly or not. -/
theorem refuseUnless (strict : Bool) (kind message : String) (v : Value) :
    Result.Moved ρ p q (if strict then Script.raise r h kind message k d else Script.give h v k d)
      (if strict then Script.raise (r.relocate ρ) h' kind message (relocateFrames ρ k) d
        else Script.give h' (v.relocate ρ) (relocateFrames ρ k) d) :=
  .ite (fun _ => hm.raise ..) fun _ => hm.give v k d

/-- A store is carried out, or refused. -/
theorem carryOut (s : Heap.Stored) (o : ObjId) (key : Key) (v : Value) (strict : Bool) :
    Result.Moved ρ p q (Script.carryOut r h s o key v strict k d)
      (Script.carryOut (r.relocate ρ) h' (s.relocate ρ) (ρ.objects o) (key.relocate ρ)
        (v.relocate ρ) strict (relocateFrames ρ k) d) := by
  cases s with
  | put f => exact (hm.put o key f).give v k d
  | nothing => exact hm.give v k d
  | setter f => exact hm.go (.apply f (.object o) [v] false) (.instead v :: k) d
  | native n =>
    dsimp only [Script.carryOut, Stored.relocate]
    rw [hm.obj, Obj.relocate_kind, Key.shown_relocate]
    cases (h.obj n).kind with
    | native realm ref => exact hm.ask (.has ref key.shown) (.nativeAbove n o key v strict :: k) d
    | _ => exact hm.give v k d
  | refused message => exact hm.refuseUnless ..

/-- The length of an array is stored. -/
theorem storeLength (o : ObjId) (v : Value) (strict : Bool) :
    Result.Moved ρ p q (Script.storeLength r h o v strict k d)
      (Script.storeLength (r.relocate ρ) h' (ρ.objects o) (v.relocate ρ) strict
        (relocateFrames ρ k) d) := by
  unfold Script.storeLength
  dsimp only
  rw [arrayLength?_relocate, hm.obj, Obj.relocate_kind]
  cases arrayLength? v with
  | none => exact hm.raise ..
  | some n =>
    cases (h.obj o).kind with
    | array length resizable =>
      obtain ⟨hheap, hdone⟩ := hm.setLength o n
      dsimp only [ObjKind.relocate]
      generalize h.setLength o n = a at hheap hdone
      generalize h'.setLength (ρ.objects o) n = b at hheap hdone
      obtain ⟨g, done⟩ := a
      obtain ⟨g', _⟩ := b
      cases hdone
      refine .ite (fun _ => hm.refuseUnless ..) fun _ => ?_
      cases done with
      | true => exact hheap.give v k d
      | false => exact hheap.refuseUnless ..
    | _ => exact hm.raise ..

/-- A property is stored. -/
theorem stepStore (o : ObjId) (key : Key) (v : Value) (strict : Bool) :
    Result.Moved ρ p q (Script.stepStore r h o key v strict k d)
      (Script.stepStore (r.relocate ρ) h' (ρ.objects o) (key.relocate ρ) (v.relocate ρ) strict
        (relocateFrames ρ k) d) := by
  have hstore := hm.carryOut r k d (h.store o key v) o key v strict
  rw [← hm.store] at hstore
  unfold Script.stepStore
  rw [hm.obj, Obj.relocate_kind, Key.shown_relocate]
  cases (h.obj o).kind with
  | native realm n =>
    cases key with
    | symbol s => exact hm.refuseUnless ..
    | _ => exact hm.ask (.has n _) (.nativeSet o _ v strict :: k) d
  | array length resizable =>
    cases key with
    | name s =>
      by_cases hs : s = "length"
      · subst hs
        cases v with
        | object w =>
          exact hm.go (.primitive (.object w) .number)
            (.toNumber :: .lengthFirst o (.object w) strict :: k) d
        | symbol s => exact hm.go (.give (.symbol s)) (.toNumber :: k) d
        | bigint n => exact hm.go (.give (.bigint n)) (.toNumber :: k) d
        | _ => exact hm.storeLength r k d o _ strict
      · simp only [ObjKind.relocate, Key.relocate_name, Key.name.injEq, hs, ObjKind.array.injEq,
          false_implies, implies_true]
        exact hstore
    | _ => exact hstore
  | _ => cases key <;> exact hstore

/-- A member of a value is written. -/
theorem writeMember (base : Value) (key : Key) (v : Value) (strict : Bool) :
    Result.Moved ρ p q (Script.writeMember r h base key v strict k d)
      (Script.writeMember (r.relocate ρ) h' (base.relocate ρ) (key.relocate ρ) (v.relocate ρ) strict
        (relocateFrames ρ k) d) := by
  have hwrapped := hm.withObject r k d base
    (f := fun h o => Script.go h (.store o key v strict) (.instead v :: k) d)
    (g := fun h o => Script.go h (.store o (key.relocate ρ) (v.relocate ρ) strict)
      (.instead (v.relocate ρ) :: relocateFrames ρ k) d)
    fun hg o => hg.go (.store o key v strict) (.instead v :: k) d
  cases base with
  | object o => exact hm.go (.store o key v strict) k d
  | _ => exact hwrapped

/-- A place is written. -/
theorem stepWrite (ref : Reference) (v : Value) (strict : Bool) :
    Result.Moved ρ p q (Script.stepWrite r h ref v strict k d)
      (Script.stepWrite (r.relocate ρ) h' (ref.relocate ρ) (v.relocate ρ) strict
        (relocateFrames ρ k) d) := by
  cases ref with
  | «variable» s i =>
    dsimp only [Script.stepWrite, Reference.relocate]
    rw [hm.scope, Scope.relocate_constant]
    exact .ite (fun _ => hm.refuseUnless ..) fun _ => (hm.setVariable s i v).give v k d
  | global name =>
    have hstore := hm.go (.store r.global (.name name) v strict) k d
    have hfind := hm.find (some r.global) (.name name)
    rw [Option.map_some, Key.relocate_name] at hfind
    dsimp only [Script.stepWrite, Reference.relocate]
    rw [Realm.relocate_global, hfind]
    cases strict with
    | false => exact hstore
    | true =>
      cases h.find (some r.global) (.name name) with
      | none => exact hm.raise ..
      | _ => exact hstore
  | member base key => exact hm.writeMember r k d base key v strict
  | element base key => exact hm.go (.keyOf key (.write base v strict)) k d

/-- A member is deleted. -/
theorem deleteMember (base : Value) (key : Key) (strict : Bool) :
    Result.Moved ρ p q (Script.deleteMember r h base key strict k d)
      (Script.deleteMember (r.relocate ρ) h' (base.relocate ρ) (key.relocate ρ) strict
        (relocateFrames ρ k) d) := by
  unfold Script.deleteMember
  obtain ⟨ha, hb⟩ | ⟨h, o, h', ha, hb, hm⟩ := hm.toObject? r base
  · rw [ha, hb]
    exact hm.refuseNullish ..
  · have htag : Script.objectTag (r.relocate ρ) h' (.object (ρ.objects o)) = _ :=
      hm.objectTag r (.object o)
    have hrefused (message : String) :=
      hm.refuseUnless r k d strict "TypeError" message (.bool false)
    rw [ha, hb]
    dsimp only
    rw [hm.obj, Obj.relocate_kind, hm.own?, Key.isSymbol_relocate, Key.shown_relocate, htag]
    cases (h.obj o).kind with
    | native realm n => exact .ite (fun _ => hm.give (.bool true) k d) fun _ => hrefused _
    | _ =>
      obtain _ | ⟨_, _, _, _ | _⟩ := h.own? o key
      · exact (hm.remove o key).give (.bool true) k d
      · exact hrefused _
      · exact (hm.remove o key).give (.bool true) k d

/-- An object is asked for a member. -/
theorem hasMember (o : ObjId) (key : Key) :
    Result.Moved ρ p q (Script.hasMember h o key k d)
      (Script.hasMember h' (ρ.objects o) (key.relocate ρ) (relocateFrames ρ k) d) := by
  have hfind := hm.find (some o) key
  rw [Option.map_some] at hfind
  unfold Script.hasMember
  rw [hfind]
  cases h.find (some o) key with
  | field f => exact hm.give (.bool true) k d
  | native n =>
    dsimp only [Found.relocate]
    rw [hm.obj, Obj.relocate_kind, Key.shown_relocate]
    cases (h.obj n).kind with
    | native realm ref => exact hm.ask (.has ref key.shown) (.nativeHas n key :: k) d
    | _ => exact hm.give (.bool false) k d
  | none => exact hm.give (.bool false) k d

/-- A property of an object is described. -/
theorem describeOwn (o : ObjId) (key : Key) :
    Result.Moved ρ p q
      (match h.own? o key with
        | some f => Script.give (Script.describeField r h f).1 (Script.describeField r h f).2 k d
        | none => Script.give h .undefined k d)
      (match (h.own? o key).map (Field.relocate ρ) with
        | some f =>
          Script.give (Script.describeField (r.relocate ρ) h' f).1
            (Script.describeField (r.relocate ρ) h' f).2 (relocateFrames ρ k) d
        | none => Script.give h' .undefined (relocateFrames ρ k) d) := by
  cases h.own? o key with
  | none => exact hm.give .undefined k d
  | some f =>
    obtain ⟨hheap, hvalue⟩ := hm.describeField r f
    dsimp only [Option.map_some]
    rw [hvalue]
    exact hheap.give _ k d

/-- Describes a property that an object has or has not. -/
theorem describe (o : ObjId) (key : Key) :
    Result.Moved ρ p q (Script.useKey r h key (.describe o) k d)
      (Script.useKey (r.relocate ρ) h' (key.relocate ρ) (.describe (ρ.objects o))
        (relocateFrames ρ k) d) := by
  dsimp only [Script.useKey]
  rw [hm.obj, Obj.relocate_kind, hm.own?, Key.shown_relocate]
  cases (h.obj o).kind with
  | native realm n =>
    cases key with
    | symbol s => exact hm.give .undefined k d
    | _ => exact hm.ask (.get n _) (.described :: k) d
  | _ => cases key <;> exact hm.describeOwn r k d o _

/-- A key is used for what it was wanted for. -/
theorem useKey (key : Key) (use : KeyUse) :
    Result.Moved ρ p q (Script.useKey r h key use k d)
      (Script.useKey (r.relocate ρ) h' (key.relocate ρ) (use.relocate ρ)
        (relocateFrames ρ k) d) := by
  cases use with
  | read base => exact hm.readMember r k d base key false
  | call base args env =>
    exact hm.readMember r (.callMember base key args env :: k) d base key false
  | write base v strict => exact hm.writeMember r k d base key v strict
  | delete base strict => exact hm.deleteMember r k d base key strict
  | find o => exact hm.hasMember k d o key
  | define o descr => exact hm.defineKey r k d o key descr
  | describe o => exact hm.describe r k d o key
  | ownProperty v => exact hm.hasOwnKey r k d v key
  | enumerableProperty v =>
    dsimp only [Script.useKey, KeyUse.relocate]
    refine hm.withObject r k d v fun {g g'} hg o => ?_
    rw [hg.obj, Obj.relocate_kind, hg.own?]
    cases (g.obj o).kind with
    | native realm n => exact hg.hasOwnKey r k d v key
    | _ => cases g.own? o key <;> exact hg.give (.bool _) k d
  | member o kind e rest env => exact hm.go (.eval e env) (.member o key kind rest env :: k) d

/-- A value becomes a key. -/
theorem stepKeyOf (v : Value) (use : KeyUse) :
    Result.Moved ρ p q (Script.stepKeyOf r h v use k d)
      (Script.stepKeyOf (r.relocate ρ) h' (v.relocate ρ) (use.relocate ρ)
        (relocateFrames ρ k) d) := by
  unfold Script.stepKeyOf
  rw [Value.isPrimitive_relocate, Value.key_relocate]
  exact .ite (fun _ => hm.useKey ..) fun _ => hm.go (.primitive v .text) (.keyed use :: k) d

/-! ### Calls -/

/-- What `this` is in a function. -/
theorem thisFor (strict : Bool) (this : Value) :
    (Script.thisFor r h strict this).1.Moved ρ p q
        (Script.thisFor (r.relocate ρ) h' strict (this.relocate ρ)).1 ∧
      (Script.thisFor (r.relocate ρ) h' strict (this.relocate ρ)).2 =
        (Script.thisFor r h strict this).2.relocate ρ := by
  unfold Script.thisFor
  split
  · exact ⟨hm, rfl⟩
  · obtain ⟨ha, hb⟩ | ⟨g, o, g', ha, hb, hg⟩ := hm.toObject? r this
    · rw [ha, hb]
      exact ⟨hm, rfl⟩
    · rw [ha, hb]
      exact ⟨hg, rfl⟩

/-- The object of the arguments of a call. -/
theorem newArguments (args : List Value) :
    Heap.Made ρ p q (Script.newArguments r h args)
      (Script.newArguments (r.relocate ρ) h' (args.map (·.relocate ρ))) := by
  refine hm.made (fun _ _ heq => by cases heq) ?_
  simp [Obj.relocate, ObjKind.relocate, relocateFields, List.zipIdx_map, Function.comp_def]

omit hm in
/-- The scope of a call, before it is made. -/
theorem callScope_relocate (f : Function) (scope : Option ScopeId) (args : List Value) :
    Script.callScope f (scope.map ρ.scopes) (args.map (·.relocate ρ)) =
      (Script.callScope f scope args).relocate ρ := by
  simp only [Script.callScope, Scope.relocate, List.map_toArray, List.map_map,
    Scope.mk.injEq, true_and]
  refine ⟨congrArg List.toArray (List.map_congr_left fun e _ => ?_), trivial⟩
  obtain ⟨_, _ | i⟩ := e
  · rfl
  · exact getD_map_relocate args i

/-- A function is entered. -/
theorem enter (f : Function) (scope : Option ScopeId) (args : List Value) :
    ∃ g s g', Script.enter r h f scope args = (g, s) ∧
      Script.enter (r.relocate ρ) h' f (scope.map ρ.scopes) (args.map (·.relocate ρ)) =
      (g', ρ.scopes s) ∧
        g.Moved ρ p q g' := by
  obtain ⟨g, s, g', ha, hb, hg⟩ := hm.newScope_split (Script.callScope f scope args)
  unfold Script.enter
  rw [callScope_relocate, ha, hb]
  refine ⟨_, s, _, rfl, rfl, Moved.storeFunctions ?_ r _ s f.functions⟩
  dsimp only
  split
  · obtain ⟨e, o, e', hc, hd, he⟩ := (hg.newArguments r args).split
    rw [hc, hd]
    exact he.setNamed _ s "arguments" (.object o)
  · exact hg

/-- A call of a closure. -/
theorem applyClosure (limit : Nat) (g : Function) (scope : Option ScopeId) (this : Value)
    (args : List Value) (direct : Bool) :
    Result.Moved ρ p q
      (if limit ≤ d then (h, .done .overflow)
      else
        let (h, s) := Script.enter r h g scope args
        let (h, this) := Script.thisFor r h g.head.strict this
        Script.go h (.execAll g.body { scope := some s, this, strict := g.head.strict })
          (.call d :: k) (if direct then d + 1 else d + 2))
      (if limit ≤ d then (h', .done .overflow)
      else
        let (h, s) := Script.enter (r.relocate ρ) h' g (scope.map ρ.scopes)
            (args.map (·.relocate ρ))
        let (h, this) := Script.thisFor (r.relocate ρ) h g.head.strict (this.relocate ρ)
        Script.go h (.execAll g.body { scope := some s, this, strict := g.head.strict })
          (.call d :: relocateFrames ρ k) (if direct then d + 1 else d + 2)) := by
  refine .ite (fun _ => hm.done .overflow) fun _ => ?_
  obtain ⟨h, s, h', ha, hb, hm⟩ := hm.enter r g scope args
  rw [ha, hb]
  dsimp only
  obtain ⟨hheap, hthis⟩ := hm.thisFor r g.head.strict this
  rw [hthis]
  exact hheap.go (.execAll g.body { scope := some s, this := _, strict := g.head.strict })
    (.call d :: k) _

/-- A call that needs no machine, or the room of one. -/
theorem applyDirect (limit : Nat) (direct : Bool) {f g : List Frame → Nat → Result}
    (hf : ∀ (k : List Frame) (d : Nat), Result.Moved ρ p q (f k d) (g (relocateFrames ρ k) d)) :
    Result.Moved ρ p q
      (if !direct then f k d else if limit ≤
        d then (h, .done .overflow) else f (.call d :: k) (d + 1))
      (if !direct then g (relocateFrames ρ k) d else if limit ≤ d then (h', .done .overflow)
        else g (.call d :: relocateFrames ρ k) (d + 1)) :=
  .ite (fun _ => hf k d) fun _ => .ite (fun _ => hm.done .overflow) fun _ =>
    hf (.call d :: k) (d + 1)

/-- A function is called, with as many functions entered as may be. -/
theorem stepApply (limit : Nat) (f this : Value) (args : List Value) (direct : Bool) :
    Result.Moved ρ p q (Script.stepApply r limit h f this args direct k d)
      (Script.stepApply (r.relocate ρ) limit h' (f.relocate ρ) (this.relocate ρ)
        (args.map (·.relocate ρ)) direct (relocateFrames ρ k) d) := by
  have hcallable := hm.callable? f
  unfold Script.stepApply
  rw [hcallable]
  rcases h.callable? f with _ | (_ | _ | _ | _)
  · cases f with
    | object o =>
      exact hm.go (.primitive (.object o) .text) (.toText :: .refusal "Not a function: " "" :: k) d
    | _ => exact hm.refusePrimitive r k d _
  · exact hm.applyClosure ..
  · exact hm.applyDirect k d limit direct fun k d => hm.callBuiltin ..
  · exact hm.applyDirect k d limit direct fun k d => hm.ask (.call _ _ args) k d
  · rename_i g this bound
    have hgo := hm.go (.apply (.object g) this (bound ++ args) false) k d
    rw [Control.relocate, List.map_append] at hgo
    exact hgo

/-- The prototype of what a function constructs. -/
theorem instanceProto (o : ObjId) :
    Script.instanceProto (r.relocate ρ) h' (ρ.objects o) =
      ρ.objects (Script.instanceProto r h o) := by
  have hdata := hm.data? o (.name "prototype")
  rw [Key.relocate_name] at hdata
  unfold Script.instanceProto
  rw [hdata]
  rcases h.data? o (.name "prototype") with _ | v
  · rfl
  · cases v <;> rfl

/-- A built-in constructor makes its object. -/
theorem constructBuiltin (b : Builtin) (args : List Value) :
    Result.Moved ρ p q (Script.constructBuiltin r h b args k d)
      (Script.constructBuiltin (r.relocate ρ) h' b (args.map (·.relocate ρ))
        (relocateFrames ρ k) d) := by
  cases b with
  | error kind => exact hm.callBuiltin r k d .undefined args (.error kind)
  | object => exact hm.callBuiltin r k d .undefined args .object
  | array => exact hm.callBuiltin r k d .undefined args .array
  | function => exact hm.callBuiltin r k d .undefined args .function
  | string =>
    cases args with
    | nil => exact (hm.newWrapper r .string (.ofString "")).give k d
    | cons v rest => exact hm.go (.primitive v .text) (.toText :: .wrapText :: k) d
  | number =>
    cases args with
    | nil => exact (hm.newWrapper r .number (.number 0.0)).give k d
    | cons v rest => exact hm.go (.primitive v .number) (.numberMade true :: k) d
  | boolean =>
    dsimp only [Script.constructBuiltin]
    rw [getD_map_relocate, Value.truthy_relocate]
    exact (hm.newWrapper r .bool (.bool _)).give k d
  | _ => exact hm.raise ..

/-- An object is constructed. -/
theorem stepInstantiate (f : Value) (args : List Value) :
    Result.Moved ρ p q (Script.stepInstantiate r h f args k d)
      (Script.stepInstantiate (r.relocate ρ) h' (f.relocate ρ) (args.map (·.relocate ρ))
        (relocateFrames ρ k) d) := by
  have hcallable := hm.callable? f
  unfold Script.stepInstantiate
  rw [hcallable]
  rcases h.callable? f with _ | (_ | _ | _ | _)
  · cases f with
    | object o => exact hm.raise ..
    | _ => exact hm.refusePrimitive r k d _
  · cases f with
    | object o =>
      have hmade : Heap.Made ρ p q (h.alloc { proto := some (Script.instanceProto r h o) })
          (h'.alloc { proto := some (ρ.objects (Script.instanceProto r h o)) }) :=
        hm.made (fun _ _ heq => by cases heq) (by simp [Obj.relocate, ObjKind.relocate])
      refine .ite (fun _ => hm.raise ..) fun _ => ?_
      obtain ⟨g, made, g', ha, hb, hg⟩ := hmade.split
      rw [hm.instanceProto, ha, hb]
      exact hg.go (.apply (.object o) (.object made) args false) (.constructing made :: k) d
    | _ => exact hm.refusePrimitive r k d _
  · cases f <;> exact hm.constructBuiltin ..
  · cases f with
    | object o => exact hm.raise ..
    | _ => exact hm.refusePrimitive r k d _
  · rename_i g this bound
    have hgo := hm.go (.instantiate (.object g) (bound ++ args)) k d
    rw [Control.relocate, List.map_append] at hgo
    cases f <;> exact hgo

/-! ### Operators -/

/-- An operator is applied, its operands being made primitive first. -/
theorem stepOperate (op : BinaryOp) (left right : Value) :
    Result.Moved ρ p q (Script.stepOperate r h op left right k d)
      (Script.stepOperate (r.relocate ρ) h' op (left.relocate ρ) (right.relocate ρ)
        (relocateFrames ρ k) d) := by
  have hloose : Result.Moved ρ p q
      (if left.isPrimitive then Script.go h (.primitive right .default)
        (.primitiveRight op left :: k) d
        else Script.go h (.primitive left .default) (.primitiveLeft op right :: k) d)
      (if (left.relocate ρ).isPrimitive then
          Script.go h' (.primitive (right.relocate ρ) .default)
            (.primitiveRight op (left.relocate ρ) :: relocateFrames ρ k) d
        else Script.go h' (.primitive (left.relocate ρ) .default)
          (.primitiveLeft op (right.relocate ρ) :: relocateFrames ρ k) d) := by
    rw [Value.isPrimitive_relocate]
    exact .ite (fun _ => hm.go (.primitive right .default) (.primitiveRight op left :: k) d)
      fun _ =>
      hm.go (.primitive left .default) (.primitiveLeft op right :: k) d
  unfold Script.stepOperate
  rw [operate?_relocate]
  cases operate? op left right with
  | some v => exact hm.give v k d
  | none =>
    cases op with
    | looseEq => exact hloose
    | looseNe => exact hloose
    | isIn =>
      cases right with
      | object o => exact hm.go (.keyOf left (.find o)) k d
      | _ => exact hm.refusePrimitive r k d _
    | instanceOf =>
      cases right with
      | object f =>
        have htest : Key.relocate ρ (.symbol .hasInstance) = .symbol .hasInstance :=
          congrArg Key.symbol (Symbol.relocate_known (by decide) _)
        have hgo := hm.go (.fetch (some f) (.symbol .hasInstance) (.object f))
            (.instance_ left (.object f) :: k) d
        rw [Control.relocate, htest] at hgo
        exact hgo
      | _ => exact hm.refusePrimitive r k d _
    | add => exact hm.go (.primitive left .default) (.primitiveLeft .add right :: k) d
    | _ => exact hm.go (.primitive left .number) (.primitiveLeft _ right :: k) d

/-- An operator that has no value on its operands is told so. -/
theorem operatePrimitive (op : BinaryOp) (left right : Value) :
    Result.Moved ρ p q
      (match primitiveOp? op left right with
        | some v => Script.give h v k d
        | none =>
          Script.raise r h (operandFault op left right).1 (operandFault op left right).2 k d)
      (match primitiveOp? op (left.relocate ρ) (right.relocate ρ) with
        | some v => Script.give h' v (relocateFrames ρ k) d
        | none =>
          Script.raise (r.relocate ρ) h' (operandFault op (left.relocate ρ) (right.relocate ρ)).1
          (operandFault op (left.relocate ρ) (right.relocate ρ)).2 (relocateFrames ρ k) d) := by
  rw [primitiveOp?_relocate, operandFault_relocate]
  cases primitiveOp? op left right with
  | some v => exact hm.give v k d
  | none => exact hm.raise ..

/-- An operator is applied to primitive operands. -/
theorem finishOperate (op : BinaryOp) (left right : Value) :
    Result.Moved ρ p q (Script.finishOperate r h op left right k d)
      (Script.finishOperate (r.relocate ρ) h' op (left.relocate ρ) (right.relocate ρ)
        (relocateFrames ρ k) d) := by
  cases op with
  | looseEq =>
    dsimp only [Script.finishOperate]
    rw [Value.looseEq_relocate]
    exact hm.give (.bool _) k d
  | looseNe =>
    dsimp only [Script.finishOperate]
    rw [Value.looseEq_relocate]
    exact hm.give (.bool _) k d
  | _ => exact hm.operatePrimitive r k d _ left right

/-- So is an operator of one operand. -/
theorem finishUnary (op : UnaryOp) (v : Value) :
    Result.Moved ρ p q (Script.finishUnary r h op v k d)
      (Script.finishUnary (r.relocate ρ) h' op (v.relocate ρ) (relocateFrames ρ k) d) := by
  unfold Script.finishUnary
  rw [Value.number?_relocate]
  cases v with
  | bigint n => cases op <;> first | exact hm.give (.bigint _) k d | exact hm.raise ..
  | _ =>
    cases Value.number? _ <;> cases op <;> first | exact hm.give (.number _) k d | exact hm.raise ..

/-- An object is compared with the prototype of a function. -/
theorem plainInstance (left right : Value) :
    Result.Moved ρ p q (Script.plainInstance h left right k d)
      (Script.plainInstance h' (left.relocate ρ) (right.relocate ρ) (relocateFrames ρ k) d) := by
  have hrefused := hm.go (.primitive right .text)
    (.toText :: .refusal "Expecting a function in instanceof check, but got " "" :: k) d
  have hcallable := hm.callable? right
  unfold Script.plainInstance
  rw [hcallable]
  cases right with
  | object f =>
    cases h.callable? (.object f) with
    | some c => exact hm.ordinaryInstance k d f left
    | none => exact hrefused
  | _ => exact hrefused

/-! ### Results -/

/-- The length that a value stands for when items are joined. -/
theorem joinFrom (o : ObjId) (separator v : Value) :
    Result.Moved ρ p q (Script.stepGive r h v (.joinLength o separator) k d)
      (Script.stepGive (r.relocate ρ) h' (v.relocate ρ)
        (.joinLength (ρ.objects o) (separator.relocate ρ)) (relocateFrames ρ k) d) := by
  dsimp only [Script.stepGive]
  rw [Value.number?_relocate, Value.isUndefined_relocate]
  exact .ite (fun _ => hm.joinNext ..) fun _ =>
    hm.go (.primitive separator .text) (.toText :: .joinSeparator o _ :: k) d

/-- Asks a native object to store a property. -/
theorem setNative (o : ObjId) (key : Key) (v : Value) :
    Result.Moved ρ p q
      (match (h.obj o).kind with
        | .native _ n => Script.ask h (.set n key.shown v) (.instead v :: k) d
        | _ => Script.give h v k d)
      (match (h'.obj (ρ.objects o)).kind with
        | .native _ n =>
          Script.ask h' (.set n (key.relocate ρ).shown (v.relocate ρ)) (.instead (v.relocate ρ) ::
            relocateFrames ρ k) d
        | _ => Script.give h' (v.relocate ρ) (relocateFrames ρ k) d) := by
  rw [hm.obj, Obj.relocate_kind, Key.shown_relocate]
  cases (h.obj o).kind with
  | native realm n => exact hm.ask (.set n key.shown v) (.instead v :: k) d
  | _ => exact hm.give v k d

/-- A native object has answered whether it has the name that is to be stored.
-/
theorem givenNativeSet (o : ObjId) (key : Key) (w : Value) (strict : Bool) (v : Value) :
    Result.Moved ρ p q (Script.stepGive r h v (.nativeSet o key w strict) k d)
      (Script.stepGive (r.relocate ρ) h' (v.relocate ρ)
        (Frame.relocate ρ (.nativeSet o key w strict)) (relocateFrames ρ k) d) := by
  have hset := hm.setNative k d o key w
  have hstore : h'.storeBelow (ρ.objects o) (h'.obj (ρ.objects o)).proto (key.relocate ρ)
      (w.relocate ρ) = (h.storeBelow o (h.obj o).proto key w).relocate ρ := by
    rw [hm.proto, hm.storeBelow]
  have hcarry (s : Heap.Stored) := hm.carryOut r k d s o key w strict
  dsimp only [Script.stepGive, Frame.relocate]
  rw [Value.truthy_relocate, hstore]
  refine .ite (fun _ => hset) fun _ => ?_
  cases h.storeBelow o (h.obj o).proto key w with
  | put f => exact hset
  | _ => exact hcarry _

/-- So has a native object among the prototypes. -/
theorem givenNativeAbove (n o : ObjId) (key : Key) (w : Value) (strict : Bool) (v : Value) :
    Result.Moved ρ p q (Script.stepGive r h v (.nativeAbove n o key w strict) k d)
      (Script.stepGive (r.relocate ρ) h' (v.relocate ρ)
        (Frame.relocate ρ (.nativeAbove n o key w strict)) (relocateFrames ρ k) d) := by
  have hset := hm.setNative k d n key w
  have hcarry := hm.carryOut r k d (h.storeBelow o (h.obj n).proto key w) o key w strict
  rw [← hm.storeBelow, ← hm.proto] at hcarry
  dsimp only [Script.stepGive, Frame.relocate]
  rw [Value.truthy_relocate]
  exact .ite (fun _ => hset) fun _ => hcarry

/-- Hands on what a value is as a number. -/
theorem ofNumber (v : Value) {onBigint : Int → Result} {onNumber : Float → Result}
    {onBigint' : Int → Result} {onNumber' : Float → Result}
    (hbigint : ∀ n, Result.Moved ρ p q (onBigint n) (onBigint' n))
    (hnumber : ∀ n, Result.Moved ρ p q (onNumber n) (onNumber' n)) (kind message : String) :
    Result.Moved ρ p q
      (match v, v.number? with
        | .bigint n, _ => onBigint n
        | _, some n => onNumber n
        | _, none => Script.raise r h kind message k d)
      (match v.relocate ρ, (v.relocate ρ).number? with
        | .bigint n, _ => onBigint' n
        | _, some n => onNumber' n
        | _, none => Script.raise (r.relocate ρ) h' kind message (relocateFrames ρ k) d) := by
  rw [Value.number?_relocate]
  cases v with
  | bigint n => exact hbigint n
  | _ =>
    cases Value.number? _ with
    | some n => exact hnumber n
    | none => exact hm.raise ..

/-- Hands a value to the frame on top. -/
theorem stepGive (v : Value) (frame : Frame) :
    Result.Moved ρ p q (Script.stepGive r h v frame k d)
      (Script.stepGive (r.relocate ρ) h' (v.relocate ρ) (frame.relocate ρ)
        (relocateFrames ρ k) d) := by
  have htext : ((v.relocate ρ).text?.getD default) = v.text?.getD default := by
    rw [Value.text?_relocate]
  cases frame with
  | refMember key => exact hm.go (.refers (.member v key)) k d
  | refIndex key env =>
    dsimp only [Script.stepGive, Frame.relocate]
    rw [hm.value?]
    cases Script.value? r h env key with
    | some i => exact hm.go (.refers (.element v i)) k d
    | none => exact hm.go (.eval key env) (.refKey v :: k) d
  | refKey base => exact hm.go (.refers (.element base v)) k d
  | keyed use => exact hm.stepKeyOf ..
  | callMember this key args env => exact hm.nextArgument r k d (.call v this) [] args env
  | callGlobal name args env => exact hm.nextArgument r k d (.call v .undefined) [] args env
  | callValue args env => exact hm.nextArgument r k d (.call v .undefined) [] args env
  | newCallee args env => exact hm.nextArgument r k d (.new v) [] args env
  | argument call done rest env => exact hm.nextArgument r k d call (v :: done) rest env
  | refusal before after =>
    dsimp only [Script.stepGive, Frame.relocate]
    rw [htext]
    exact hm.raise ..
  | call depth => exact hm.give v k depth
  | constructing o =>
    dsimp only [Script.stepGive, Frame.relocate]
    rw [Value.isPrimitive_relocate]
    cases v.isPrimitive with
    | true => exact hm.give (.object o) k d
    | false => exact hm.give v k d
  | binaryRight op right env =>
    dsimp only [Script.stepGive, Frame.relocate]
    rw [hm.value?]
    cases Script.value? r h env right with
    | some w => exact hm.go (.operate op v w) k d
    | none => exact hm.go (.eval right env) (.binaryApply op v :: k) d
  | binaryApply op left => exact hm.go (.operate op left v) k d
  | primitiveLeft op right =>
    cases op with
    | looseEq => exact hm.finishOperate r k d .looseEq v right
    | looseNe => exact hm.finishOperate r k d .looseNe v right
    | _ => exact hm.go (.primitive right _) (.primitiveRight _ v :: k) d
  | primitiveRight op left => exact hm.finishOperate ..
  | instance_ left right =>
    dsimp only [Script.stepGive, Frame.relocate]
    rw [Value.isNullish_relocate]
    exact .ite (fun _ => hm.plainInstance ..) fun _ =>
      hm.go (.apply v right [left] false) (.truth :: k) d
  | instanceProto left =>
    cases left with
    | object o =>
      cases v with
      | object proto =>
        dsimp only [Script.stepGive, Frame.relocate, Value.relocate_object]
        rw [hm.proto, hm.inherits]
        exact hm.give (.bool _) k d
      | _ => exact hm.raise ..
    | _ => cases v <;> exact hm.raise ..
  | truth =>
    dsimp only [Script.stepGive, Frame.relocate]
    rw [Value.truthy_relocate]
    exact hm.give (.bool _) k d
  | unary op =>
    cases op with
    | not =>
      dsimp only [Script.stepGive, Frame.relocate]
      rw [Value.truthy_relocate]
      exact hm.give (.bool _) k d
    | typeOf =>
      dsimp only [Script.stepGive, Frame.relocate]
      rw [hm.typeName]
      exact hm.give (.ofString _) k d
    | void => exact hm.give .undefined k d
    | _ => exact hm.go (.primitive v .number) (.numeric _ :: k) d
  | numeric op => exact hm.finishUnary ..
  | logical op right env =>
    dsimp only [Script.stepGive, Frame.relocate]
    rw [Value.truthy_relocate, Value.isNullish_relocate]
    exact .ite (fun _ => hm.give v k d) fun _ => hm.go (.eval right env) k d
  | conditional yes no env =>
    dsimp only [Script.stepGive, Frame.relocate]
    rw [Value.truthy_relocate]
    exact hm.go (.eval _ env) k d
  | second e env => exact hm.go (.eval e env) k d
  | assignOld ref op value env =>
    exact hm.go (.eval value env) (.binaryApply op v :: .assignValue ref env.strict :: k) d
  | assignValue ref strict => exact hm.go (.writeRef ref v strict) (.instead v :: k) d
  | updateOld ref before delta strict =>
    exact hm.go (.primitive v .number) (.updateNumber ref before delta strict :: k) d
  | updateNumber ref before delta strict =>
    have hstore (old new : Value) : Result.Moved ρ p q
        (Script.go h (.writeRef ref new strict) (.instead (if before then new else old) :: k) d)
        (Script.go h' (.writeRef (ref.relocate ρ) (new.relocate ρ) strict)
          (.instead (if before then new.relocate ρ else old.relocate ρ) :: relocateFrames ρ k)
          d) := by
      cases before with
      | true => exact hm.go (.writeRef ref new strict) (.instead new :: k) d
      | false => exact hm.go (.writeRef ref new strict) (.instead old :: k) d
    exact hm.ofNumber r k d v (fun n => hstore (.bigint n) (.bigint (n + delta)))
      (fun n => hstore (.number n) (.number (stepNumber delta n))) _ _
  | instead w => exact hm.give w k d
  | lengthFirst o w strict =>
    exact hm.go (.primitive w .number) (.toNumber :: .lengthSecond o strict :: k) d
  | lengthSecond o strict => exact hm.storeLength ..
  | lengthDefined o descr again =>
    cases again with
    | some w => exact hm.go (.primitive w .number) (.toNumber :: .lengthDefined o descr none :: k) d
    | none => exact hm.defineKey r k d o (.name "length") { descr with value := some v }
  | item done rest env => exact hm.nextItem r k d (some v :: done) rest env
  | member o key kind rest env => exact (hm.putMember o key kind v).nextMember k d o rest env
  | nativeHas n key =>
    dsimp only [Script.stepGive, Frame.relocate]
    rw [Value.truthy_relocate, hm.proto]
    refine .ite (fun _ => hm.give (.bool true) k d) fun _ => ?_
    cases (h.obj n).proto with
    | some p => exact hm.hasMember ..
    | none => exact hm.give (.bool false) k d
  | nativeSet o key w strict => exact hm.givenNativeSet ..
  | nativeAbove n o key w strict => exact hm.givenNativeAbove ..
  | toText =>
    dsimp only [Script.stepGive, Frame.relocate]
    rw [Value.text?_relocate]
    cases v.text? with
    | some t => exact hm.give (.string t) k d
    | none => exact hm.raise ..
  | toTextOrSymbol =>
    dsimp only [Script.stepGive, Frame.relocate]
    rw [Value.textOrSymbol_relocate]
    exact hm.give (.string _) k d
  | toNumber => exact hm.finishUnary ..
  | primitiveExotic o hint methods =>
    dsimp only [Script.stepGive, Frame.relocate]
    rw [Value.isNullish_relocate]
    exact .ite (fun _ => hm.nextMethod ..) fun _ =>
      hm.go (.apply v (.object o) [.ofString hint] false) (.primitiveChecked :: k) d
  | primitiveChecked =>
    dsimp only [Script.stepGive, Frame.relocate]
    rw [Value.isPrimitive_relocate]
    exact .ite (fun _ => hm.give v k d) fun _ => hm.raise ..
  | primitiveMethod o rest =>
    dsimp only [Script.stepGive, Frame.relocate]
    rw [hm.callable?, Option.isSome_map]
    exact .ite (fun _ => hm.go (.apply v (.object o) [] false) (.primitiveResult o rest :: k) d)
      fun _ =>
      hm.nextMethod ..
  | primitiveResult o rest =>
    dsimp only [Script.stepGive, Frame.relocate]
    rw [Value.isPrimitive_relocate]
    exact .ite (fun _ => hm.give v k d) fun _ => hm.nextMethod ..
  | descriptorField o key desc field rest descr =>
    dsimp only [Script.stepGive, Frame.relocate]
    rw [Descriptor.with_relocate]
    exact hm.nextDescriptorField ..
  | joinLength o separator => exact hm.joinFrom ..
  | joinSeparator o length =>
    dsimp only [Script.stepGive, Frame.relocate]
    rw [htext]
    exact hm.joinNext ..
  | joinItem o separator next length done =>
    dsimp only [Script.stepGive, Frame.relocate]
    rw [Value.isNullish_relocate]
    exact .ite (fun _ => hm.joinNext ..) fun _ =>
      hm.go (.primitive v .text) (.toText :: .joinText o separator next length done :: k) d
  | joinText o separator next length done =>
    dsimp only [Script.stepGive, Frame.relocate]
    rw [htext]
    exact hm.joinNext ..
  | joinFound o =>
    have htag : Script.objectTag (r.relocate ρ) h' (.object (ρ.objects o)) = _ :=
      hm.objectTag r (.object o)
    dsimp only [Script.stepGive, Frame.relocate]
    rw [hm.callable?, Option.isSome_map, htag]
    exact .ite (fun _ => hm.go (.apply v (.object o) [] false) k d) fun _ => hm.give (.string _) k d
  | logText level done rest =>
    dsimp only [Script.stepGive, Frame.relocate]
    rw [htext]
    exact hm.logNext ..
  | errorMessage kind =>
    dsimp only [Script.stepGive, Frame.relocate]
    rw [Value.text?_relocate]
    exact hm.makeError ..
  | errorName o =>
    dsimp only [Script.stepGive, Frame.relocate]
    rw [Value.isUndefined_relocate]
    cases v.isUndefined with
    | true =>
      exact hm.go (.primitive (.ofString "Error") .text) (.toText :: .errorNameText o :: k) d
    | false => exact hm.go (.primitive v .text) (.toText :: .errorNameText o :: k) d
  | errorNameText o =>
    dsimp only [Script.stepGive, Frame.relocate]
    rw [htext]
    exact hm.go (.fetch (some o) (.name "message") (.object o)) (.errorDetail _ :: k) d
  | errorDetail name =>
    dsimp only [Script.stepGive, Frame.relocate]
    rw [Value.isUndefined_relocate]
    cases v.isUndefined with
    | true =>
      exact hm.go (.primitive (.ofString "") .text) (.toText :: .errorDetailText name :: k) d
    | false => exact hm.go (.primitive v .text) (.toText :: .errorDetailText name :: k) d
  | errorDetailText name =>
    dsimp only [Script.stepGive, Frame.relocate]
    rw [htext]
    exact hm.give (.string _) k d
  | symbolText =>
    dsimp only [Script.stepGive, Frame.relocate]
    rw [Value.text?_relocate]
    exact hm.newSymbol ..
  | wrapText => exact (hm.newWrapper r .string v).give k d
  | numberMade wrapped =>
    have hmade (n : Float) : Result.Moved ρ p q
        (if wrapped then
            Script.give (h.newWrapper r .number (.number n)).1
              (.object (h.newWrapper r .number (.number n)).2) k d
          else Script.give h (.number n) k d)
        (if wrapped then
            Script.give (h'.newWrapper (r.relocate ρ) .number (.number n)).1
              (.object (h'.newWrapper (r.relocate ρ) .number (.number n)).2) (relocateFrames ρ k) d
          else Script.give h' (.number n) (relocateFrames ρ k) d) :=
      .ite (fun _ => (hm.newWrapper r .number (.number n)).give k d) fun _ =>
        hm.give (.number n) k d
    exact hm.ofNumber r k d v (fun n => hmade (Float.ofInt n)) hmade _ _
  | numberTest finite => cases v <;> exact hm.give (.bool _) k d
  | functionTexts done rest =>
    dsimp only [Script.stepGive, Frame.relocate]
    rw [htext]
    exact hm.nextFunctionText ..
  | textMethod b args =>
    dsimp only [Script.stepGive, Frame.relocate]
    rw [htext, textMethod_relocate]
    exact hm.give _ k d
  | described =>
    obtain ⟨hheap, hvalue⟩ := hm.describeField r (.plain v)
    rw [Field.relocate_plain] at hvalue
    dsimp only [Script.stepGive, Frame.relocate]
    rw [hvalue]
    exact hheap.give _ k d
  | exprDone kept => exact (hm.keep kept v).go (.complete .normal) k d
  | varInit name rest env =>
    dsimp only [Script.stepGive, Frame.relocate]
    rw [hm.resolve]
    exact hm.go (.writeRef _ v env.strict) (.varRest rest env :: k) d
  | varRest rest env => exact hm.nextVariable ..
  | ifTest yes no env =>
    dsimp only [Script.stepGive, Frame.relocate]
    rw [Value.truthy_relocate]
    refine .ite (fun _ => hm.go (.exec yes env) k d) fun _ => ?_
    cases no with
    | some s => exact hm.go (.exec s env) k d
    | none => exact hm.go (.complete .normal) k d
  | loopTest loop env => exact hm.afterTest ..
  | forUpdate loop env => exact hm.go (.iterate loop env) k d
  | forInObject loop env => exact hm.startForIn ..
  | forInHas loop env o key rest =>
    have hnext := hm.go (.forInNext loop env o rest) k d
    dsimp only [Script.stepGive, Frame.relocate]
    rw [Value.truthy_relocate]
    cases v.truthy with
    | false => exact hnext
    | true =>
      cases loop with
      | forIn kept label target object body =>
        exact hm.go (.refer target env) (.forInRef _ env o key rest :: k) d
      | _ => exact hnext
  | forInStored loop env o rest =>
    cases loop with
    | forIn kept label target object body =>
      exact (hm.clear kept).go (.exec body env) (.forInBody _ env o rest :: k) d
    | _ => exact hm.go (.complete .normal) k d
  | switchSubject cases env => exact hm.nextCase ..
  | switchTest subject rest cases env =>
    dsimp only [Script.stepGive, Frame.relocate]
    rw [Value.strictEq_relocate]
    exact .ite (fun _ => hm.runCases ..) fun _ => hm.nextCase ..
  | returnValue => exact hm.go (.complete (.return v)) k d
  | throwValue => exact hm.go (.throw v) k d
  | _ => exact hm.give v k d

/-- Tells the frame on top that there is no such property. -/
theorem stepAbsent (frame : Frame) :
    Result.Moved ρ p q (Script.stepAbsent r h frame k d)
      (Script.stepAbsent (r.relocate ρ) h' (frame.relocate ρ) (relocateFrames ρ k) d) := by
  have hgiven := hm.stepGive r k d .undefined frame
  cases frame with
  | readGlobal name quiet => exact .ite (fun _ => hm.give .undefined k d) fun _ => hm.raise ..
  | callMember this key args env => exact hm.nextArgument r k d (.missing key) [] args env
  | callGlobal name args env => exact hm.nextArgument r k d (.unknown name) [] args env
  | nativeGet o key receiver =>
    dsimp only [Script.stepAbsent, Frame.relocate]
    rw [hm.proto]
    exact hm.go (.fetch (h.obj o).proto key receiver) k d
  | descriptorField o key desc field rest descr => exact hm.nextDescriptorField ..
  | described => exact hm.give .undefined k d
  | _ => exact hgiven

/-- Hands a reference to the frame on top. -/
theorem stepRefers (ref : Reference) (frame : Frame) :
    Result.Moved ρ p q (Script.stepRefers r h ref frame k d)
      (Script.stepRefers (r.relocate ρ) h' (ref.relocate ρ) (frame.relocate ρ)
        (relocateFrames ρ k) d) := by
  have hread := hm.go (.readRef ref) (frame :: k) d
  cases frame with
  | read => exact hm.go (.readRef ref) k d
  | typeOfRef =>
    cases ref with
    | global name =>
      exact hm.go (.fetch (some r.global) (.name name) (.object r.global))
        (.readGlobal name true :: .unary .typeOf :: k) d
    | _ => exact hm.go (.readRef _) (.unary .typeOf :: k) d
  | deleteRef strict =>
    cases ref with
    | «variable» s i => exact hm.give (.bool false) k d
    | global name => exact hm.deleteMember r k d (.object r.global) (.name name) strict
    | member base key => exact hm.deleteMember ..
    | element base key => exact hm.go (.keyOf key (.delete base strict)) k d
  | callRef args env =>
    cases ref with
    | member base key => exact hm.readMember r (.callMember base key args env :: k) d base key true
    | element base key => exact hm.go (.keyOf key (.call base args env)) k d
    | global name =>
      exact hm.go (.fetch (some r.global) (.name name) (.object r.global))
        (.callGlobal name args env :: k) d
    | «variable» s i => exact hm.go (.readRef (.variable s i)) (.callValue args env :: k) d
  | assignRef op value env =>
    cases op with
    | none =>
      dsimp only [Script.stepRefers, Frame.relocate]
      rw [hm.value?]
      cases Script.value? r h env value with
      | some v => exact hm.go (.writeRef ref v env.strict) (.instead v :: k) d
      | none => exact hm.go (.eval value env) (.assignValue ref env.strict :: k) d
    | some op => exact hm.go (.readRef ref) (.assignOld ref op value env :: k) d
  | updateRef before delta strict =>
    exact hm.go (.readRef ref) (.updateOld ref before delta strict :: k) d
  | forInRef loop env o key rest =>
    have hgo := hm.go (.writeRef ref (.ofKey key) env.strict) (.forInStored loop env o rest :: k) d
    rw [Control.relocate, Value.relocate_ofKey] at hgo
    exact hgo
  | _ => exact hread

/-- Hands names to the frame on top. -/
theorem stepNames (keys : List Key) (frame : Frame) :
    Result.Moved ρ p q (Script.stepNames r h keys frame k d)
      (Script.stepNames (r.relocate ρ) h' (keys.map (·.relocate ρ)) (frame.relocate ρ)
        (relocateFrames ρ k) d) := by
  cases frame with
  | keysArray =>
    have hmade := (hm.newArray r (keys.map fun key => some (.ofKey key))).give k d
    have hkeys : (keys.map (·.relocate ρ)).map (fun key => some (Value.ofKey key)) =
        (keys.map fun key => some (Value.ofKey key)).map (·.map (·.relocate ρ)) := by
      rw [List.map_map, List.map_map]
      exact List.map_congr_left fun key _ => congrArg some (Value.relocate_ofKey key).symm
    rw [← hkeys] at hmade
    exact hmade
  | forInKeys loop env o =>
    have hgo := hm.go (.forInNext loop env o
      (keys ++ h.keysFrom (h.objects.size + 1) keys (h.obj o).proto)) k d
    rw [Control.relocate, List.map_append, ← hm.keysFrom, ← hm.proto] at hgo
    exact hgo
  | _ => exact hm.give .undefined k d

/-- Does what is to be done at the end, or goes on. -/
theorem finally_ (c : Control) (pending : Pending) (finalizer : Option Stmt) (env : Env) :
    Result.Moved ρ p q
      (match finalizer with
        | some s => Script.go h (.exec s env) (.finalizerBody pending :: k) d
        | none => Script.go h c k d)
      (match finalizer with
        | some s =>
          Script.go h' (.exec s (env.relocate ρ)) (.finalizerBody (pending.relocate ρ) ::
            relocateFrames ρ k) d
        | none => Script.go h' (c.relocate ρ) (relocateFrames ρ k) d) := by
  cases finalizer with
  | some s => exact hm.go (.exec s env) (.finalizerBody pending :: k) d
  | none => exact hm.go c k d

/-- Tells the frame on top that a statement has ended. -/
theorem stepComplete (c : Completion) (frame : Frame) :
    Result.Moved ρ p q (Script.stepComplete r h c frame k d)
      (Script.stepComplete (r.relocate ρ) h' (c.relocate ρ) (frame.relocate ρ)
        (relocateFrames ρ k) d) := by
  have hcomplete := hm.go (.complete c) k d
  have hnormal := hm.go (.complete .normal) k d
  cases frame with
  | statements rest env =>
    cases c with
    | normal => exact hm.go (.execAll rest env) k d
    | _ => exact hcomplete
  | loopBody loop env =>
    dsimp only [Script.stepComplete, Frame.relocate]
    rw [repeats_relocate, ends_relocate]
    exact .ite (fun _ => hm.afterBody ..) fun _ => .ite (fun _ => hnormal) fun _ => hcomplete
  | forInit loop env =>
    cases loop with
    | «for» kept label init test update body => exact (hm.clear kept).go (.iterate _ env) k d
    | _ => exact hcomplete
  | forInBody loop env o rest =>
    dsimp only [Script.stepComplete, Frame.relocate]
    rw [repeats_relocate, ends_relocate]
    exact .ite (fun _ => hm.go (.forInNext loop env o rest) k d) fun _ =>
      .ite (fun _ => hnormal) fun _ => hcomplete
  | switchBody =>
    dsimp only [Script.stepComplete, Frame.relocate]
    rw [ends_relocate]
    exact .ite (fun _ => hnormal) fun _ => hcomplete
  | label l =>
    cases c with
    | «break» m =>
      cases m with
      | none => exact hcomplete
      | some m =>
        by_cases hlabel : m = l
        · dsimp only [Script.stepComplete, Frame.relocate, Completion.relocate]
          rw [if_pos hlabel]
          exact hnormal
        · dsimp only [Script.stepComplete, Frame.relocate, Completion.relocate]
          rw [if_neg hlabel]
          exact hcomplete
    | _ => exact hcomplete
  | call depth =>
    cases c with
    | «return» v => exact hm.give v k depth
    | _ => exact hm.give .undefined k depth
  | tryBody handler finalizer env =>
    exact hm.finally_ k d (.complete c) (.completion c) finalizer env
  | handlerBody finalizer env => exact hm.finally_ k d (.complete c) (.completion c) finalizer env
  | finalizerBody pending =>
    cases c with
    | normal =>
      cases pending with
      | completion c => exact hm.go (.complete c) k d
      | throw v => exact hm.go (.throw v) k d
    | _ => cases pending <;> exact hcomplete
  | _ => exact hcomplete

/-- The scope of a handler, with what was thrown in it. -/
theorem handle (v : Value) (param : Option String) (functions : List (String × Function))
    (body : List Stmt) (finalizer : Option Stmt) (env : Env) :
    Result.Moved ρ p q (Script.stepThrow r h v
      (.tryBody (some (.mk param functions body)) finalizer env) k d)
      (Script.stepThrow (r.relocate ρ) h' (v.relocate ρ)
        (.tryBody (some (.mk param functions body)) finalizer (env.relocate ρ))
        (relocateFrames ρ k) d) := by
  have hbound {g g' : Heap} (hg : g.Moved ρ p q g') (inner : Env) : Result.Moved ρ p q
      (Script.go (Script.bindFunctions r g functions inner).1
        (.execAll body (Script.bindFunctions r g functions inner).2)
        (.handlerBody finalizer env :: k) d)
      (Script.go (Script.bindFunctions (r.relocate ρ) g' functions (inner.relocate ρ)).1
        (.execAll body (Script.bindFunctions (r.relocate ρ) g' functions (inner.relocate ρ)).2)
        (.handlerBody finalizer (env.relocate ρ) :: relocateFrames ρ k) d) := by
    obtain ⟨e, inner, e', ha, hb, he⟩ := hg.bindFunctions r functions inner
    rw [ha, hb]
    exact he.go (.execAll body inner) (.handlerBody finalizer env :: k) d
  cases param with
  | none => exact hbound hm env
  | some name =>
    obtain ⟨g, s, g', ha, hb, hg⟩ :=
      hm.newScope_split { names := [name], values := #[v], parent := env.scope }
    simp only [Scope.relocate, List.map_toArray, List.map_cons, List.map_nil] at hb
    dsimp only [Script.stepThrow]
    rw [ha, Env.relocate_scope, hb]
    exact hbound hg { env with scope := some s }

/-- Unwinds one frame. -/
theorem stepThrow (v : Value) (frame : Frame) :
    Result.Moved ρ p q (Script.stepThrow r h v frame k d)
      (Script.stepThrow (r.relocate ρ) h' (v.relocate ρ) (frame.relocate ρ)
        (relocateFrames ρ k) d) := by
  cases frame with
  | tryBody handler finalizer env =>
    obtain _ | ⟨param, functions, body⟩ := handler
    · exact hm.finally_ k d (.throw v) (.throw v) finalizer env
    · exact hm.handle ..
  | handlerBody finalizer env => exact hm.finally_ k d (.throw v) (.throw v) finalizer env
  | call depth => exact hm.go (.throw v) k depth
  | _ => exact hm.go (.throw v) k d

/-- A value is made primitive. -/
theorem stepPrimitive (v : Value) (hint : Hint) :
    Result.Moved ρ p q (Script.stepPrimitive r h v hint k d)
      (Script.stepPrimitive (r.relocate ρ) h' (v.relocate ρ) hint (relocateFrames ρ k) d) := by
  cases v with
  | object o =>
    have hkey : Key.relocate ρ (.symbol .toPrimitive) = .symbol .toPrimitive :=
      congrArg Key.symbol (Symbol.relocate_known (by decide) _)
    have hfind := hm.find (some o) (.symbol .toPrimitive)
    rw [Option.map_some, hkey] at hfind
    have hown (word : String) (methods : List String) :=
      hm.go (.fetch (some o) (.symbol .toPrimitive) (.object o))
        (.primitiveExotic o word methods :: k) d
    rw [Control.relocate, hkey] at hown
    dsimp only [Script.stepPrimitive, Value.relocate_object]
    rw [hfind]
    cases h.find (some o) (.symbol .toPrimitive) with
    | none => exact hm.nextMethod ..
    | _ => exact hown _ _
  | _ => exact hm.give _ k d

/-! ### Steps -/

/-- What is left of statements after those that need no machine. -/
theorem stepExecAll (ss : List Stmt) (env : Env) :
    Result.Moved ρ p q
      (match Script.runAll r env h ss with
        | (h, []) => Script.go h (.complete .normal) k d
        | (h, [s]) => Script.stepExec r h s env k d
        | (h, s :: rest) => Script.stepExec r h s env (.statements rest env :: k) d)
      (match Script.runAll (r.relocate ρ) (env.relocate ρ) h' ss with
        | (h, []) => Script.go h (.complete .normal) (relocateFrames ρ k) d
        | (h, [s]) => Script.stepExec (r.relocate ρ) h s (env.relocate ρ) (relocateFrames ρ k) d
        | (h, s :: rest) => Script.stepExec (r.relocate ρ) h s (env.relocate ρ)
          (.statements rest (env.relocate ρ) :: relocateFrames ρ k) d) := by
  obtain ⟨hheap, hrest⟩ := hm.runAll r env ss
  generalize Script.runAll r env h ss = a at hheap hrest
  generalize Script.runAll (r.relocate ρ) (env.relocate ρ) h' ss = b at hheap hrest
  obtain ⟨h, rest⟩ := a
  obtain ⟨h', _⟩ := b
  cases hrest
  obtain _ | ⟨s, _ | ⟨s', rest⟩⟩ := rest
  · exact hheap.go (.complete .normal) k d
  · exact hheap.stepExec r k d s env
  · exact hheap.stepExec r (.statements (s' :: rest) env :: k) d s env

/-- One step leads to the same elsewhere. The value so far is read when a
program has ended, so it has to be the same. -/
theorem step (hp : p) (limit : Nat) (m : Machine) :
    Result.Moved ρ p q (Script.step r limit h m)
      (Script.step (r.relocate ρ) limit h' (m.relocate ρ)) := by
  obtain ⟨control, k, d⟩ := m
  cases control with
  | eval e env =>
    dsimp only [Script.step, Machine.relocate, Control.relocate]
    rw [hm.act?]
    cases Script.act? r h env e with
    | some deed => exact (hm.apply deed.1).give deed.2 k d
    | none => exact hm.stepEval ..
  | refer e env => exact hm.stepRefer ..
  | exec s env =>
    dsimp only [Script.step, Machine.relocate, Control.relocate]
    rw [hm.deed?]
    cases Script.deed? r env h s with
    | some deed => exact (hm.applyDeed deed).go (.complete .normal) k d
    | none => exact hm.stepExec ..
  | execAll ss env => exact hm.stepExecAll ..
  | give v =>
    cases k with
    | nil => exact hm.done (.value v)
    | cons frame k => exact hm.stepGive r k d v frame
  | absent =>
    cases k with
    | nil => exact hm.done .absent
    | cons frame k => exact hm.stepAbsent r k d frame
  | refers ref =>
    cases k with
    | nil => exact hm.go (.readRef ref) [] d
    | cons frame k => exact hm.stepRefers r k d ref frame
  | names keys =>
    cases k with
    | nil => exact hm.done (.value .undefined)
    | cons frame k => exact hm.stepNames r k d keys frame
  | complete c =>
    cases k with
    | nil => exact ⟨hm, congrArg (fun v => Turn.done (.value v)) (hm.result hp)⟩
    | cons frame k => exact hm.stepComplete r k d c frame
  | throw v =>
    cases k with
    | nil => exact hm.done (.thrown v)
    | cons frame k => exact hm.stepThrow r k d v frame
  | readRef ref => exact hm.stepRead ..
  | writeRef ref v strict => exact hm.stepWrite ..
  | keyOf v use => exact hm.stepKeyOf ..
  | fetch start key receiver => exact hm.stepFetch ..
  | store o key v strict => exact hm.stepStore ..
  | apply f this args direct => exact hm.stepApply ..
  | instantiate f args => exact hm.stepInstantiate ..
  | primitive v hint => exact hm.stepPrimitive ..
  | operate op left right => exact hm.stepOperate ..
  | iterate loop env => exact hm.stepIterate ..
  | forInNext loop env o keys => exact hm.stepForIn ..

/-- A run stops for the same reason elsewhere, after as many steps. -/
theorem run (hp : p) (hq : q) (limit fuel : Nat) (m : Machine) :
    (Script.run r limit fuel h m).1.Moved ρ p q
      (Script.run (r.relocate ρ) limit fuel h' (m.relocate ρ)).1 ∧
      (Script.run (r.relocate ρ) limit fuel h' (m.relocate ρ)).2 =
        ((Script.run r limit fuel h m).2.1, (Script.run r limit fuel h m).2.2.relocate ρ) := by
  induction fuel generalizing h h' m with
  | zero => exact ⟨hm, rfl⟩
  | succ fuel ih =>
    have hstep := hm.step r hp limit m
    unfold Script.run
    generalize Script.step r limit h m = a at hstep
    generalize Script.step (r.relocate ρ) limit h' (m.relocate ρ) = b at hstep
    obtain ⟨g, turn⟩ := a
    obtain ⟨g', _⟩ := b
    obtain ⟨hg, hturn⟩ := hstep
    cases hturn
    cases turn with
    | next m =>
      dsimp only [Turn.relocate]
      rw [hg.effort hq]
      split
      · exact ⟨hg, rfl⟩
      · exact ih hg m
    | ask request stack depth => exact ⟨hg, rfl⟩
    | done o => exact ⟨hg, rfl⟩

/-! ### Programs -/

/-- A function becomes a global. -/
theorem declareFunction (name : String) (f : Function) :
    (Script.declareFunction r h name f).Moved ρ p q
      (Script.declareFunction (r.relocate ρ) h' name f) := by
  obtain ⟨h, o, h', ha, hb, hm⟩ := (hm.newClosure r f none).split
  have hown := hm.own? r.global (.name name)
  rw [Key.relocate_name] at hown
  rw [Option.map_none] at hb
  unfold Script.declareFunction
  rw [ha, hb]
  dsimp only
  rw [Realm.relocate_global, hown]
  have hnew := hm.put r.global (.name name) { slot := .data (.object o), configurable := false }
  cases h.own? r.global (.name name) with
  | none => exact hnew
  | some old =>
    dsimp only [Option.map_some]
    rw [Field.relocate_configurable]
    split
    · exact hnew
    · exact hm.put r.global (.name name) { old with slot := .data (.object o) }

/-- The same function of a program is refused, if any is. -/
theorem refusedFunction? (program : Program) :
    Script.refusedFunction? (r.relocate ρ) h' program = Script.refusedFunction? r h program := by
  unfold Script.refusedFunction?
  congr 2
  funext e
  have hown := hm.own? r.global (.name e.1)
  rw [Key.relocate_name] at hown
  dsimp only
  rw [Realm.relocate_global, hown]
  obtain _ | ⟨slot, writable, enumerable, configurable⟩ := h.own? r.global (.name e.1)
  · rfl
  · cases slot <;> cases writable <;> cases enumerable <;> rfl

/-- After a program is prepared, its value so far is the same. -/
theorem prepare (program : Program) :
    (Script.prepare r h program).Moved ρ True q (Script.prepare (r.relocate ρ) h' program) := by
  unfold Script.prepare
  have hlocals : (program.locals.foldl (fun h name =>
        if (h.own? r.global (.name name)).isSome then h
        else h.put r.global (.name name) { slot := .data .undefined, configurable := false })
          h).Moved ρ p q
      (program.locals.foldl (fun h name =>
        if (h.own? (r.relocate ρ).global (.name name)).isSome then h
        else h.put (r.relocate ρ).global (.name name)
          { slot := .data .undefined, configurable := false }) h') := by
    refine hm.foldl_same (fun h h' name hm => ?_) program.locals
    have hown := hm.own? r.global (.name name)
    rw [Key.relocate_name] at hown
    rw [Realm.relocate_global, hown, Option.isSome_map]
    split
    · exact hm
    · exact hm.put r.global (.name name) { slot := .data .undefined, configurable := false }
  exact { hlocals.foldl_same (fun h h' e hm => hm.declareFunction r e.1 e.2) program.functions with
    result := fun _ => rfl }

end Heap.Moved

end ObjectBridge.Script

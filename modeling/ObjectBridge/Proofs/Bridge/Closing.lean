import ObjectBridge.Proofs.Bridge.Hosts
import ObjectBridge.Proofs.Builtin.Leaves

/-!
# `ObjectBridge.Proofs.Bridge.Closing`: which runtimes refuse scripts

A closed runtime refuses every script: it answers that it is closed, and
nothing is run. An open runtime never answers so.

Closing a runtime and resetting it are its *turns*. Nothing else that a client
does with a runtime opens or closes it, so the last turn decides which of the
two it is (`Runtime.isOpen?_course`). A runtime that was closed refuses scripts
until it is reset, and not any longer (`Runtime.refuses_iff`).
-/

set_option autoImplicit false

namespace ObjectBridge

variable {α β : Type} {w w' : World β} {i : Nat} {b : Bool}

instance : Public (World.isOpen? (β := β) i) where
  congr {w w'} h := by
    have hopen : w'.runtimes.map Runtime.isOpen = w.runtimes.map Runtime.isOpen :=
      congrArg Affairs.isOpen h
    show w'.runtimes[i]?.map _ = w.runtimes[i]?.map _
    rw [← Array.getElem?_map, ← Array.getElem?_map, hopen]

/-- A change of a runtime opens or closes it as it says. -/
theorem World.isOpen?_modify (h : w.isOpen? i = some b) {f : Runtime → Runtime} {c : Bool}
    (hf : ∀ r, (f r).isOpen = c) : World.isOpen? i { w with runtimes := w.runtimes.modify i f } =
    some c := by
  obtain ⟨r, hr, -⟩ := Option.map_eq_some_iff.mp h
  show (w.runtimes.modify i f)[i]?.map _ = _
  rw [Array.getElem?_modify, if_pos rfl, hr]
  exact congrArg some (hf r)

namespace Runtime

/-! ### Refused scripts -/

/-- The answer that a runtime is closed. -/
def refusal : Execution := { result := .error .closed, console := none }

/-- The script was run, or read at least. -/
def Execution.Ran (x : Execution) : Prop := x.result ≠ .error .closed ∧ x.console ≠ none

/-- An execution that is finished has run, unless it was refused. -/
theorem finish_ran {result : Except ScriptError Exported} {x : Execution}
    (h : perform (finish i result) w = (.ok x, w'))
    (hresult : result ≠ .error .closed) : x.Ran := by
  obtain ⟨_, w₁, -, hrest⟩ := exists_of_perform_bind h
  cases hrest
  exact ⟨hresult, nofun⟩

variable [Native β]

/-- So has one that ends in an exception, -/
theorem finishThrown_ran {v : Script.Value} {x : Execution}
    (h : perform (finishThrown i v) w = (.ok x, w')) :
    x.Ran := by
  obtain ⟨ended, w₁, hfinish, hrest⟩ := exists_of_perform_bind h
  have hconsole : ended.console ≠ none := (finish_ran hfinish nofun).2
  obtain ⟨text, w₂, -, hlast⟩ := exists_of_perform_bind hrest
  split at hlast
  · cases hlast
    exact ⟨nofun, hconsole⟩
  · cases hlast
    exact ⟨nofun, hconsole⟩
  · cases hlast

/-- one that is taken out -/
theorem takeOut_ran {f : Interrupt} {v : Script.Value} {x : Execution}
    (h : perform (takeOut i f v) w = (.ok x, w')) : x.Ran := by
  obtain ⟨ended, w₁, hfinish, hrest⟩ := exists_of_perform_bind h
  have hconsole : ended.console ≠ none := (finish_ran hfinish nofun).2
  obtain ⟨_, w₂, -, hrest⟩ := exists_of_perform_bind hrest
  obtain ⟨out, w₃, -, hlast⟩ := exists_of_perform_bind hrest
  cases hlast
  exact ⟨nofun, hconsole⟩

/-- and every one that is concluded. -/
theorem conclude_ran {f : Interrupt} {ran : Except Unwind Script.Outcome} {x : Execution}
    (h : perform (conclude i f ran) w = (.ok x, w')) : x.Ran := by
  unfold conclude at h
  split at h
  · exact takeOut_ran h
  · exact finish_ran h nofun
  · exact finish_ran h nofun
  · exact finish_ran h nofun
  · exact finish_ran h nofun
  · exact finishThrown_ran h
  · exact finishThrown_ran h
  · cases h

/-- A closed runtime refuses, and nothing happens. -/
theorem execute_of_closed (h : w.isOpen? i = some false) (script : String) (cancelled : Bool) :
    perform (execute i script cancelled) w = (.ok refusal, w) := by
  unfold execute
  rw [perform_bind_ok (perform_get w), World.isOpen_runtime h]
  rfl

/-- An open one runs the script. -/
theorem execute_of_open (h : w.isOpen? i = some true) {script : String} {cancelled : Bool}
    {x : Execution} (hrun : perform (execute i script cancelled) w = (.ok x, w')) : x.Ran := by
  unfold execute at hrun
  rw [perform_bind_ok (perform_get w), World.isOpen_runtime h, Bool.not_true,
    if_neg Bool.false_ne_true] at hrun
  obtain ⟨_, w₁, -, hrest⟩ := exists_of_perform_bind hrun
  split at hrest
  · exact finish_ran hrest nofun
  · rw [perform_bind_ok (perform_get w₁)] at hrest
    dsimp only at hrest
    split at hrest
    · exact finish_ran hrest nofun
    · obtain ⟨ran, w₂, -, hlast⟩ := exists_of_perform_bind hrest
      exact conclude_ran hlast

/-! ### Actions -/

/-- What a client does with a runtime. -/
inductive Action
  | execute (script : String) (cancelled : Bool)
  | bind (name : String) (o : Option ObjectRef)
  | evaluate (scope : Option ObjectRef) (script : Bytes)
  | windowObject
  | reset
  | close

/-- Does an action. What it answers is left aside. -/
def Action.run (i : Nat) : Action → M β Unit
  | .execute script cancelled => do let _ ← Runtime.execute i script cancelled
  | .bind name o => do let _ ← Runtime.bind i name o
  | .evaluate scope script => do let _ ← ScriptHost.evaluate host i scope script
  | .windowObject => do let _ ← ObjectBridge.windowObject (.script i)
  | .reset => Runtime.reset i
  | .close => Runtime.close i

/-- What a turn makes of the runtime: is it open then? -/
def Action.turn? : Action → Option Bool
  | .reset => some true
  | .close => some false
  | _ => none

/-- The turn that an action is. One that is unwound is none. -/
def turn (i : Nat) (w : World β) (a : Action) : Option Bool :=
  if (perform (a.run i) w).1.isOk then a.turn? else none

/-- The world after actions one after the other. What an action has done that
is unwound stays done. -/
def course (i : Nat) (w : World β) (actions : List Action) : World β :=
  actions.foldl (fun w a => (perform (a.run i) w).2) w

/-- The last turn among actions one after the other. -/
def lastTurn (i : Nat) (w : World β) : List Action → Option Bool
  | [] => none
  | a :: rest => (lastTurn i (perform (a.run i) w).2 rest).or (turn i w a)

omit [Native β] in
/-- After the references have been given back, a turn cannot fail. -/
theorem isOpen?_turn (h : w.isOpen? i = some b) {act : M β Unit} {c : Bool}
    (hact : ∀ w₁ : World β, w₁.isOpen? i = some b → ∃ w', perform act w₁ = (.ok (), w') ∧
      w'.isOpen? i = some c) :
    (perform (do releaseAdopted i; act) w).2.isOpen? i =
      some (if (perform (do releaseAdopted i; act) w).1.isOk then c else b) := by
  have hkept : (perform (releaseAdopted i) w).2.isOpen? i = some b :=
    (obeys_releaseAdopted (R := Same (World.isOpen? i)) i w).trans h
  rw [perform_bind]
  cases hrun : perform (releaseAdopted i) w with
  | mk r w₁ =>
    rw [hrun] at hkept
    cases r with
    | error u => exact hkept
    | ok _ =>
      obtain ⟨w', hlast, hopen⟩ := hact w₁ hkept
      show (perform act w₁).2.isOpen? i = some (if (perform act w₁).1.isOk then c else b)
      rw [hlast]
      exact hopen

omit [Native β] in
/-- A runtime that is started is open. -/
theorem isOpen?_started (h : w.isOpen? i = some b) : (w.started i).isOpen? i = some true := by
  unfold World.started
  generalize w.newRealm i = made
  exact World.isOpen?_modify
    (show World.isOpen? i { w with heap := made.1, realms := w.realms + 1 } = some b from h)
    fun _ => rfl

/-- Other actions do not turn it. -/
theorem turn_of_not_turn {a : Action} (h : a.turn? = none) (w : World β) : turn i w a = none := by
  unfold turn
  rw [h, ite_self]

/-- A turn opens or closes the runtime. An action that is none is to leave it
as it was. -/
theorem isOpen?_action (h : w.isOpen? i = some b) (a : Action)
    (hrest : a.turn? = none → (perform (a.run i) w).2.isOpen? i = some b) :
    (perform (a.run i) w).2.isOpen? i = some ((turn i w a).getD b) := by
  cases a with
  | reset =>
    unfold turn
    rw [apply_ite (Option.getD · b)]
    exact isOpen?_turn h fun w₁ h₁ => ⟨_, perform_start_eq i w₁, isOpen?_started h₁⟩
  | close =>
    unfold turn
    rw [apply_ite (Option.getD · b)]
    exact isOpen?_turn h fun w₁ h₁ => ⟨_, perform_modify _ w₁, World.isOpen?_modify h₁ fun _ => rfl⟩
  | _ =>
    rw [turn_of_not_turn rfl]
    exact hrest rfl

section

variable (hu : Undisturbed (World.isOpen? (β := β) i))

include hu

/-- Any runtime is left open or closed by what is no turn, when native code
leaves it so. -/
theorem leaves_isOpen?_action {a : Action} (ha : a.turn? = none) :
    Leaves (World.isOpen? i) (a.run i : M β Unit) := by
  cases a with
  | execute script cancelled => exact .bind (obeys_execute hu i script cancelled) fun _ => .pure _
  | bind name o => exact .bind (obeys_bind hu i name o) fun _ => .pure _
  | evaluate scope script =>
    exact .bind (ScriptHost.obeys_evaluate hu (nativeObeys_host hu) i scope script) fun _ => .pure _
  | windowObject => exact .bind (obeys_windowObject _) fun _ => .pure _
  | reset => cases ha
  | close => cases ha

end

/-! ### Courses of actions -/

/-- A runtime is as its last turn left it. -/
theorem isOpen?_course (hu : Undisturbed (World.isOpen? (β := β) i)) (h : w.isOpen? i = some b)
    (actions : List Action) : (course i w actions).isOpen? i =
    some ((lastTurn i w actions).getD b) := by
  induction actions generalizing w b with
  | nil => exact h
  | cons a rest ih =>
    have hnext := isOpen?_action h a fun ha => (leaves_isOpen?_action hu ha w).trans h
    show (course i (perform (a.run i) w).2 rest).isOpen? i =
        some (((lastTurn i _ rest).or (turn i w a)).getD b)
    rw [ih hnext, Option.getD_or]

/-- Neither hosts nor scripts open or close a runtime, provided that native
code does not. -/
theorem undisturbed_isOpen? (hn : ∀ ops : HostOps β, ops.Obey (Same (World.isOpen? i)) →
    NativeObeys (Same (World.isOpen? i)) ops) : Undisturbed (World.isOpen? (β := β) i) where
  report := obeys_setLastError (fun _ _ _ => rfl) fun _ _ => rfl
  native := hn

/-- A script is refused exactly when the last turn of the runtime was that it
was closed. One that is refused changes nothing, and one that is not is run,
or read at least. -/
theorem refuses_iff (hn : ∀ ops : HostOps β, ops.Obey (Same (World.isOpen? i)) →
    NativeObeys (Same (World.isOpen? i)) ops) (h : w.isOpen? i = some b) (actions :
    List Action) (script : String) (cancelled : Bool) :
    (perform (execute i script cancelled) (course i w actions) = (.ok refusal, course i w actions) ↔
      (lastTurn i w actions).getD b = false) ∧
    ∀ x w', perform (execute i script cancelled) (course i w actions) = (.ok x, w') →
      (x.Ran ↔ (lastTurn i w actions).getD b = true) := by
  have hopen := isOpen?_course (undisturbed_isOpen? hn) h actions
  cases hlast : (lastTurn i w actions).getD b with
  | false =>
    rw [hlast] at hopen
    have hrefused := execute_of_closed hopen script cancelled
    refine ⟨⟨fun _ => rfl, fun _ => hrefused⟩, fun x w' hrun => ?_⟩
    rw [hrefused] at hrun
    cases hrun
    exact ⟨fun hran => absurd rfl hran.1, nofun⟩
  | true =>
    rw [hlast] at hopen
    refine ⟨⟨fun hrefused => ?_, nofun⟩, fun x w' hrun =>
      ⟨fun _ => rfl, fun _ => execute_of_open hopen hrun⟩⟩
    exact absurd rfl (execute_of_open hopen hrefused).1

/-! ### A runtime that is closed twice -/

/-- A runtime that no script has used. -/
def freshWorld : World Behaviour := { runtimes := #[{}] }

/-- A reset after the end is the last turn of that course. -/
theorem lastTurn_freshWorld : lastTurn 0 freshWorld [.close, .reset] = some true := rfl

/-- A course that ends closed, on the fresh world. -/
theorem refuses_iff_freshWorld :
    freshWorld.isOpen? 0 = some true ∧
    lastTurn 0 freshWorld [.close, .reset, .windowObject, .close] = some false ∧
    perform (execute 0 "1" false) (course 0 freshWorld [.close, .reset, .windowObject, .close]) =
      (.ok refusal, course 0 freshWorld [.close, .reset, .windowObject, .close]) :=
  have hlast : lastTurn 0 freshWorld [.close, .reset, .windowObject, .close] = some false := rfl
  ⟨rfl, hlast, ((refuses_iff (fun _ => Behaviour.nativeObeys) rfl _ "1" false).1).mpr
    (congrArg (·.getD true) hlast)⟩

/-- Closing is not final. -/
theorem not_final_freshWorld :
    ¬ ∀ (w : World Behaviour) (before after : List Action) (script : String) (cancelled : Bool),
      w.isOpen? 0 = some true → turn 0 (course 0 w before) .close = some false →
      perform (execute 0 script cancelled) (course 0 w (before ++ .close :: after)) =
        (.ok refusal, course 0 w (before ++ .close :: after)) := by
  intro hfinal
  have hrefused := hfinal freshWorld [] [.reset] "1" false rfl rfl
  have hopen := isOpen?_course (undisturbed_isOpen? fun _ => Behaviour.nativeObeys)
    (show freshWorld.isOpen? 0 = some true from rfl) [.close, .reset]
  rw [lastTurn_freshWorld] at hopen
  exact absurd rfl (execute_of_open hopen hrefused).1

end Runtime

end ObjectBridge

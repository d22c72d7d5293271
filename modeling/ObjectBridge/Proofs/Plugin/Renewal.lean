import ObjectBridge.Proofs.Bridge.Silent
import ObjectBridge.Proofs.Plugin.Session

/-!
# `ObjectBridge.Proofs.Plugin.Renewal`: starting over and starting new

Making a session and resetting one come to the same: a runtime that has
been given nothing but its configuration is put under some number, and the
session is established in it. `Session.establish` does this under numbers
that are given to it. A new session takes the next numbers
(`perform_new`). A session that is reset keeps its own: first it gives up
what it has (`Session.vacate`), and then it is established as if nothing
had been under its numbers (`perform_reset`). So every field that
a runtime or a session has is either settled again or as it was given at
the start.
-/

set_option autoImplicit false

namespace ObjectBridge

variable {β : Type} {w v u w' : World β} {p : Plugin} {config : RuntimeConfig} {s r : Nat}

/-! ### Putting things under numbers -/

/-- Puts an item under a number, in the place of what is there, or as the
latest. -/
def putAt {ι : Type} (xs : Array ι) (i : Nat) (x : ι) : Array ι :=
  if i < xs.size then xs.modify i fun _ => x else xs.push x

/-- Putting something at the end adds it. -/
theorem putAt_size {ι : Type} (xs : Array ι) (x : ι) : putAt xs xs.size x = xs.push x := by
  unfold putAt
  rw [if_neg (Nat.lt_irrefl _)]

/-- Putting it elsewhere replaces what is there. -/
theorem putAt_of_getElem? {ι : Type} {xs : Array ι} {i : Nat} {y : ι}
    (h : xs[i]? = some y) (x : ι) :
    putAt xs i x = xs.modify i fun _ => x := by
  unfold putAt
  rw [if_pos (Array.getElem?_eq_some_iff.mp h).1]

/-- What is under a number may be put there again. -/
theorem putAt_self {ι : Type} {xs : Array ι} {i : Nat} {x : ι} (h : xs[i]? = some x) :
    putAt xs i x = xs := by
  rw [putAt_of_getElem? h]
  refine Array.ext_getElem? fun j => ?_
  rw [Array.getElem?_modify]
  split
  · next hij =>
    subst hij
    rw [h]
    rfl
  · rfl

/-- A change that does not depend on what was there. -/
theorem modify_putAt {ι : Type} {xs : Array ι} {i : Nat} {x y : ι} {f : ι → ι} (h : xs[i]? = some y)
    (hf : f x = f y) : (putAt xs i x).modify i f = xs.modify i f := by
  rw [putAt_of_getElem? h]
  refine Array.ext_getElem? fun j => ?_
  rw [Array.getElem?_modify, Array.getElem?_modify, Array.getElem?_modify]
  split
  · next hij =>
    subst hij
    rw [h]
    exact congrArg some hf
  · rfl

/-- It is there afterwards. -/
theorem getElem?_putAt {ι : Type} {xs : Array ι} {i : Nat} (h : i ≤ xs.size) (x : ι) :
    (putAt xs i x)[i]? = some x := by
  unfold putAt
  split
  · next hlt => rw [Array.getElem?_modify, if_pos rfl, Array.getElem?_eq_getElem hlt,
      Option.map_some]
  · next hlt => rw [Nat.le_antisymm h (Nat.le_of_not_lt hlt), Array.getElem?_push_size]

/-- Changing what was just put there. -/
theorem putAt_modify {ι : Type} {xs : Array ι} {i : Nat} (h : i ≤ xs.size) (x : ι) (f : ι → ι) :
    (putAt xs i x).modify i f = putAt xs i (f x) := by
  unfold putAt
  split
  · exact modify_modify xs i (fun _ => x) f
  · next hlt => rw [Nat.le_antisymm h (Nat.le_of_not_lt hlt), modify_push_size]

/-! ### Starting a runtime -/

/-- Starting a runtime leaves the sessions. -/
theorem World.sessions_started (w : World β) (i : Nat) : (w.started i).sessions = w.sessions := by
  dsimp only [World.started]

/-- Starting a runtime that holds nothing for scripts is starting a new
one. -/
theorem World.started_putAt {y : Runtime} (hy : w.runtimes[r]? = some y)
    (hadopted : y.adopted = []) :
    ({ w with runtimes := putAt w.runtimes r { config := y.config } } : World β).started r =
      w.started r := by
  -- Starting looks at the configuration and at what is adopted, and the rest is replaced.
  have hnew : ({ w with runtimes := putAt w.runtimes r { config := y.config } } : World β).runtime
      r = { config := y.config } := by
    unfold World.runtime
    rw [putAt_of_getElem? hy, Array.getD_eq_getD_getElem?, Array.getElem?_modify, if_pos rfl, hy]
    rfl
  have hold : w.runtime r = y := by
    unfold World.runtime
    rw [Array.getD_eq_getD_getElem?, hy]
    rfl
  have hrealm : ({ w with runtimes := putAt w.runtimes r { config := y.config } } : World
      β).newRealm r = w.newRealm r := by
    unfold World.newRealm
    rw [hnew, hold]
  unfold World.started
  rw [hrealm]
  dsimp only
  rw [modify_putAt hy]
  unfold Runtime.started
  rw [hadopted]

/-! ### Giving references back -/

/-- The sessions, their runtimes and the registries. -/
def World.premises (w : World β) : Array Session × Array Runtime × Array (Registry β) :=
  (w.sessions, w.runtimes, w.registries)

/-- Metering leaves the premises. -/
theorem premises_meter (ctx : Context) (event : Metrics → Metrics) :
    Leaves (World.premises (β := β)) (meter ctx event) := by
  refine .modify fun w => ?_
  split
  · split <;> rfl
  · rfl

/-- So does releasing an object, -/
theorem premises_release (o : ObjectRef) : Leaves (World.premises (β := β)) (release o) := by
  refine .bind (.modifyGet fun w => by cases o <;> rfl) fun fate => ?_
  cases fate with
  | kept => exact .pure ()
  | unretained => exact .throw _
  | freed =>
    cases o with
    | proxy i => exact .bind .get fun w => premises_meter _ _
    | table i => exact .pure ()
    | handle i => exact .pure ()

/-- releasing several -/
theorem premises_releaseObjects (l : List ObjectRef) :
    Leaves (World.premises (β := β)) (Runtime.releaseObjects l) :=
  Runtime.obeys_releaseObjects premises_release l

/-- and destroying an instance. -/
theorem premises_destroy (i : Nat) : Leaves (World.premises (β := β)) (Instance.destroy i) := by
  refine .bind .get fun w => ?_
  split
  · exact .pure ()
  · next x _ =>
    split
    · exact .pure ()
    · refine .bind (.modify fun _ => rfl) fun _ => ?_
      cases x.scripting with
      | none => exact premises_meter _ _
      | some o => exact .bind (premises_release o) fun _ => premises_meter _ _

/-! ### What is done -/

namespace Session

/-- Gives up what a session has: its instance, and the references its
runtime holds for scripts. -/
def vacate (s : Nat) : M β Unit := do
  match ← get? s with
  | none => return ()
  | some x =>
    detach s
    Runtime.releaseAdopted x.runtime

variable [Native β]

/-- Establishes a session under the number `s`, in a runtime that knows its
configuration and nothing else. -/
def establish (s : Nat) (x : Session) (config : RuntimeConfig) :
    M β (Except SessionError Unit) := do
  modify fun w => { w with runtimes := putAt w.runtimes x.runtime { config } }
  Runtime.start x.runtime
  modify fun w => { w with sessions := putAt w.sessions s x }
  attach s

/-- The world in which an instance is attached to the session that is
established. -/
def vestibule (s : Nat) (x : Session) (config : RuntimeConfig) (w : World β) : World β :=
  let w₁ := ({ w with runtimes := putAt w.runtimes x.runtime { config } } : World β).started
      x.runtime
  { w₁ with sessions := putAt w₁.sessions s x }

/-- A session is established by attaching an instance in the vestibule. -/
theorem perform_establish (s : Nat) (x : Session) (config : RuntimeConfig) (w : World β) :
    perform (establish s x config) w = perform (attach s) (vestibule s x config w) := rfl

/-- A new session is established under the next numbers. -/
theorem perform_new (p : Plugin) (config : RuntimeConfig) (w : World β) :
    perform (new p config) w = perform (do
      match ← establish w.sessions.size { plugin := p, runtime := w.runtimes.size } config with
      | .ok _ => return .ok w.sessions.size
      | .error e =>
        Runtime.close w.runtimes.size
        return .error e) w := by
  let w₁ : World β := { w with runtimes := w.runtimes.push { config } }
  have hopened : perform (Runtime.open_ config) w =
      (.ok w.runtimes.size, w₁.started w.runtimes.size) := rfl
  -- To write a session under the next number is to add one.
  have hroom : vestibule w.sessions.size { plugin := p, runtime := w.runtimes.size } config w =
      { w₁.started w.runtimes.size with
        sessions := w.sessions.push { plugin := p, runtime := w.runtimes.size } } := by
    unfold vestibule
    simp only [putAt_size, World.sessions_started]
    rfl
  have hestablish : perform
      (establish w.sessions.size { plugin := p, runtime := w.runtimes.size } config) w =
      perform (attach w.sessions.size) { w₁.started w.runtimes.size with
        sessions := w.sessions.push { plugin := p, runtime := w.runtimes.size } } := by
    rw [perform_establish, hroom]
  unfold new
  rw [perform_bind_ok hopened, perform_bind_ok (perform_modifyGet _ _), World.sessions_started,
    perform_bind, perform_bind]
  exact hestablish ▸ rfl

/-- Whether there is a new session is a matter of establishing it. -/
theorem new_iff : perform (new p config) w = (.ok (.ok s), v) ↔ s = w.sessions.size ∧
    perform (establish w.sessions.size { plugin := p, runtime := w.runtimes.size } config) w =
    (.ok (.ok ()), v) := by
  rw [perform_new]
  refine ⟨fun h => ?_, fun ⟨hs, h⟩ => ?_⟩
  · obtain ⟨made, u, hestablish, h⟩ := exists_of_perform_bind h
    cases made with
    | ok _ =>
      cases h
      exact ⟨rfl, hestablish⟩
    | error e =>
      obtain ⟨_, _, _, h⟩ := exists_of_perform_bind h
      cases h
  · rw [hs, perform_bind_ok h]
    rfl

omit [Native β] in
/-- A session that is detached has no instance, and nothing else has
changed. -/
theorem premises_detach {x : Session} (hx : w.sessions[s]? = some x)
    (h : perform (detach s) w = (.ok (), v)) :
    v.sessions[s]? = some { x with inst := none } ∧ v.runtimes = w.runtimes ∧
      v.registries = w.registries := by
  unfold detach at h
  rw [perform_bind_ok (perform_get? s w), hx, Option.bind_some] at h
  cases hinst : x.inst with
  | none =>
    rw [hinst] at h
    cases h
    rw [hx, ← hinst]
    exact ⟨rfl, rfl, rfl⟩
  | some i =>
    rw [hinst] at h
    obtain ⟨_, w₁, hdestroy, h⟩ := exists_of_perform_bind h
    cases h
    have hkept := (premises_destroy i).eq hdestroy
    have hsessions : w₁.sessions = w.sessions := congrArg Prod.fst hkept
    refine ⟨?_, congrArg (·.2.1) hkept, congrArg (·.2.2) hkept⟩
    show (w₁.sessions.modify s _)[s]? = _
    rw [Array.getElem?_modify, if_pos rfl, hsessions, hx]
    rfl

omit [Native β] in
/-- A runtime that gives back what it holds for scripts keeps everything
else. -/
theorem premises_releaseAdopted {y : Runtime} (hy : w.runtimes[r]? = some y)
    (h : perform (Runtime.releaseAdopted r) w = (.ok (), v)) :
    v.sessions = w.sessions ∧ v.runtimes[r]? = some { y with adopted := [] } ∧
      v.registries = w.registries := by
  unfold Runtime.releaseAdopted at h
  rw [perform_bind_ok (perform_get w)] at h
  obtain ⟨_, w₁, hrelease, h⟩ := exists_of_perform_bind h
  cases h
  have hkept := (premises_releaseObjects _).eq hrelease
  have hruntimes : w₁.runtimes = w.runtimes := congrArg (·.2.1) hkept
  refine ⟨congrArg Prod.fst hkept, ?_, congrArg (·.2.2) hkept⟩
  show (w₁.runtimes.modify r _)[r]? = _
  rw [Array.getElem?_modify, if_pos rfl, hruntimes, hy]
  rfl

omit [Native β] in
/-- What is left of a session that has given up what it had. -/
theorem premises_vacate {x : Session} {y : Runtime} (hx : w.sessions[s]? = some x)
    (hy : w.runtimes[x.runtime]? = some y) (h : perform (vacate s) w = (.ok (), v)) :
    v.sessions[s]? = some { x with inst := none } ∧ v.runtimes[x.runtime]? =
      some { y with adopted := [] } ∧ v.registries = w.registries := by
  unfold vacate at h
  rw [perform_bind_ok (perform_get? s w), hx] at h
  obtain ⟨_, u, hdetach, hrelease⟩ := exists_of_perform_bind h
  obtain ⟨hsession, hruntimes, hregistries⟩ := premises_detach hx hdetach
  obtain ⟨hsessions, hruntime, hregistries'⟩ := premises_releaseAdopted (hruntimes ▸ hy) hrelease
  exact ⟨hsessions ▸ hsession, hruntime, hregistries'.trans hregistries⟩

/-- A session that is reset is established anew, once it has given up what
it had. -/
theorem perform_reset {x : Session} {y : Runtime} (hx : w.sessions[s]? = some x)
    (hy : w.runtimes[x.runtime]? = some y) :
    perform (reset s) w = perform (do
      vacate s
      establish s { x with inst := none } y.config) w := by
  unfold reset vacate
  rw [perform_bind_ok (perform_get? s w), bind_assoc, perform_bind_ok (perform_get? s w), hx]
  dsimp only
  rw [bind_assoc, perform_bind, perform_bind]
  cases hdetach : perform (detach s) w with
  | mk res w₁ =>
    cases res with
    | error e => rfl
    | ok _ =>
      obtain ⟨hsession, hruntimes, _⟩ := premises_detach hx hdetach
      dsimp only
      rw [Runtime.reset, bind_assoc, perform_bind, perform_bind]
      cases hrelease : perform (Runtime.releaseAdopted x.runtime) w₁ with
      | mk res w₂ =>
        cases res with
        | error e => rfl
        | ok _ =>
          obtain ⟨hsessions, hruntime, _⟩ := premises_releaseAdopted (hruntimes ▸ hy) hrelease
          dsimp only
          rw [perform_bind_ok (Runtime.perform_start_eq _ _), perform_establish]
          -- Nothing is changed by what is put in place first.
          have hroom : vestibule s { x with inst := none } y.config w₂ = w₂.started x.runtime := by
            unfold vestibule
            dsimp only
            rw [World.started_putAt hruntime rfl, putAt_self]
            rw [World.sessions_started, hsessions]
            exact hsession
          rw [hroom]

end Session

end ObjectBridge

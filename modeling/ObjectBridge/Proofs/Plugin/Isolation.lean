import ObjectBridge.Proofs.Bridge.Execution
import ObjectBridge.Proofs.Builtin.Twins
import ObjectBridge.Proofs.Plugin.Clients
import ObjectBridge.Proofs.Plugin.Copy
import ObjectBridge.Proofs.Script.Console

/-!
# `ObjectBridge.Proofs.Plugin.Isolation`: nothing is left behind in a session

A session may be used in any way: scripts run on it, native code calls back
into its runtime, it is reset, and other things happen elsewhere (`Step`).
None of that changes its `terms`: the plugin it is for, its runtime, and how
the runtime is set up. A reset establishes the session again on these terms
and on nothing else. So what a session is after it was reset does not depend
on its history. It is what a new session is: a copy of the session that is
made where nothing ever happened.

Scripts come to the same in a copy, one after the other, because nothing that
a run does depends on where its objects stand (`results_of_stands`). So whoever
has the session next gets the values, the errors and the console lines of a
new one (`reset_as_new`).
-/

set_option autoImplicit false

namespace ObjectBridge

open Script (Heap Realm)

variable {β : Type} {B v w w' w₀ w₁ : World β} {p : Plugin} {s t r : Nat} {x : Session}
    {y : Runtime}
  {config : RuntimeConfig}

/-! ### Terms -/

/-- What a session is for and where, and how a runtime is set up. -/
def World.terms (s r : Nat) (w : World β) : Option (Plugin × Nat) × Option RuntimeConfig :=
  ((w.sessions.map fun x => (x.plugin, x.runtime))[s]?, (w.runtimes.map Runtime.config)[r]?)

instance publicTerms (s r : Nat) : Public (World.terms (β := β) s r) where
  congr {w w'} h := by
    have hsessions : w'.sessions = w.sessions := congrArg Affairs.sessions h
    have hconfigs : w'.runtimes.map Runtime.config = w.runtimes.map Runtime.config :=
      congrArg Affairs.configs h
    unfold World.terms
    rw [hsessions, hconfigs]

/-- The terms are with the sessions and the runtimes. -/
theorem terms_of_premises {α : Type} {act : M β α} (h : Leaves World.premises act) :
    Leaves (World.terms s r) act :=
  h.map fun e => ((e.1.map fun x => (x.plugin, x.runtime))[s]?, (e.2.1.map Runtime.config)[r]?)

/-- What happens to a runtime leaves the terms if its configuration stays. -/
theorem terms_modifyRuntime (i : Nat) {f : Runtime → Runtime} (hf : ∀ y, (f y).config = y.config) :
    Leaves (World.terms (β := β) s r) (modifyRuntime i f) := by
  refine .modify fun w => ?_
  show World.terms s r _ = World.terms s r w
  unfold World.terms
  dsimp only
  rw [map_modify_of_eq hf]

/-- Nothing that scripts do disturbs the terms if native code leaves them. -/
theorem undisturbed_terms [Native β]
    (hn : ∀ ops : HostOps β, ops.Leave (World.terms s r) → NativeLeaves (World.terms s r) ops) :
    Undisturbed (World.terms (β := β) s r) where
  report := obeys_setLastError (fun _ _ _ => rfl) fun _ _ => rfl
  native := hn

/-- A new instance leaves the terms. -/
theorem terms_instanceNew (p : Plugin) (host : HostId) :
    Leaves (World.terms (β := β) s r) (Instance.new p host) := by
  intro w
  unfold Instance.new
  rw [perform_bind_ok (perform_get w)]
  cases w.graph.assemble (w.registries.getD p.registry {}) p.manifest with
  | error e => rfl
  | ok made =>
    dsimp only
    rw [perform_bind_ok (perform_set _ w)]
    refine Eq.trans ((Obeys.bind (R := Same (World.terms s r)) (obeys_newProxy _ _) fun proxy => ?_)
      _) rfl
    exact .bind (.modify fun _ => rfl) fun _ => .bind (terms_of_premises (premises_meter _ _))
      fun _ => .pure _

namespace Session

/-- So does a session that keeps its plugin and its runtime. -/
theorem terms_modifySession (t : Nat) {f : Session → Session}
    (hf : ∀ x, ((f x).plugin, (f x).runtime) = (x.plugin, x.runtime)) :
    Leaves (World.terms (β := β) s r) (modifySession t f) := by
  refine .modify fun w => ?_
  show World.terms s r _ = World.terms s r w
  unfold World.terms
  dsimp only
  rw [map_modify_of_eq hf]

/-- Detaching the instance leaves the terms, -/
theorem terms_detach (t : Nat) : Leaves (World.terms (β := β) s r) (detach t) := by
  refine .bind (.bind .get fun _ => .pure _) fun found => ?_
  split
  · exact .bind (terms_of_premises (premises_destroy _)) fun _ => terms_modifySession t fun _ => rfl
  · exact .pure ()

/-- so does resetting the runtime -/
theorem terms_resetRuntime (i : Nat) : Leaves (World.terms (β := β) s r) (Runtime.reset i) := by
  have hrelease : Leaves (World.terms (β := β) s r) (Runtime.releaseAdopted i) :=
    .bind .get fun _ => .bind (terms_of_premises (premises_releaseObjects _)) fun _ =>
      terms_modifyRuntime i fun _ => rfl
  have hstart : Leaves (World.terms (β := β) s r) (Runtime.start i) :=
    .bind .get fun _ => .bind (ScriptHost.obeys_withHeap _) fun _ =>
      .bind (.modify fun _ => rfl) fun _ =>
      terms_modifyRuntime i fun _ => rfl
  exact .bind hrelease fun _ => hstart

variable [Native β] (hu : Undisturbed (World.terms (β := β) s r))

include hu

/-- and attaching a new instance, -/
theorem terms_attach (t : Nat) :
    Leaves (World.terms s r) (attach t : M β (Except SessionError Unit)) := by
  refine .bind (.bind .get fun _ => .pure _) fun found => ?_
  split
  · exact .pure _
  · refine .bind (terms_instanceNew _ _) fun made => ?_
    split
    · exact .pure _
    · refine .bind (leaves_scriptableObject _) fun root =>
        .bind (Runtime.obeys_bind hu _ _ root) fun bound => ?_
      split
      · exact .bind (terms_of_premises (premises_destroy _)) fun _ => .pure _
      · exact .bind (terms_modifySession t fun _ => rfl) fun _ => .pure _

/-- and therefore the whole reset. -/
theorem terms_reset (t : Nat) :
    Leaves (World.terms s r) (reset t : M β (Except SessionError Unit)) := by
  refine .bind (.bind .get fun _ => .pure _) fun found => ?_
  split
  · exact .pure _
  · exact .bind (terms_detach t) fun _ => .bind (terms_resetRuntime _) fun _ => terms_attach hu t

/-! ### Use -/

omit hu in
/-- What may happen to the session `s` in the runtime `r`. Each of these may
also fail, or be unwound. -/
inductive Step (s r : Nat) : World β → World β → Prop
  /-- A script runs. -/
  | script (w : World β) (text : String) (cancelled : Bool) :
  Step s r w (perform (execute s text cancelled) w).2
  /-- Native code asks the runtime whether an object has a property. -/
  | hasProperty (w : World β) (o : ObjectRef) (id : Identifier) :
      Step s r w (perform (host.hasProperty (.script r) o id) w).2
  /-- Native code reads a property of an object of the runtime. -/
  | getProperty (w : World β) (o : ObjectRef) (id : Identifier) :
      Step s r w (perform (host.getProperty (.script r) o id) w).2
  /-- Native code writes one. -/
  | setProperty (w : World β) (o : ObjectRef) (id : Identifier) (value : Variant) :
      Step s r w (perform (host.setProperty (.script r) o id value) w).2
  /-- Native code has the runtime evaluate a text. -/
  | evaluate (w : World β) (scope : Option ObjectRef) (script : Bytes) :
      Step s r w (perform (host.evaluate (.script r) scope script) w).2
  /-- The session is reset. -/
  | reset (w : World β) : Step s r w (perform (reset s) w).2
  /-- Something happens that does not change the terms. -/
  | elsewhere {w w' : World β} (h : w'.terms s r = w.terms s r) : Step s r w w'

/-- No step changes the terms. -/
theorem terms_step (h : Step s r w w') : w'.terms s r = w.terms s r := by
  have hhost := obey_hostOps hu nesting
  cases h with
  | script text cancelled => exact leaves_execute hu s text cancelled w
  | hasProperty o id => exact hhost.hasProperty _ o id w
  | getProperty o id => exact hhost.getProperty _ o id w
  | setProperty o id value => exact hhost.setProperty _ o id value w
  | evaluate scope script => exact hhost.evaluate _ scope script w
  | reset => exact terms_reset hu s w
  | elsewhere h => exact h

/-- However a session is used, it keeps its terms. -/
theorem terms_history (h : Relation.ReflTransGen (Step s r) w w') : w'.terms s r = w.terms s r := by
  induction h with
  | refl => rfl
  | tail _ step ih => exact (terms_step hu step).trans ih

/-- The terms of a new session. -/
theorem terms_new (h : perform (new p config) w = (.ok (.ok t), w')) (hs : s = w.sessions.size)
    (hr : r = w.runtimes.size) :
    t = s ∧ w'.terms s r = (some (p, r), some config) := by
  obtain ⟨ht, hestablish⟩ := new_iff.mp h
  subst hs hr
  rw [perform_establish, vestibule_eq le_rfl] at hestablish
  refine ⟨ht, ((terms_attach hu _).eq hestablish).trans ?_⟩
  unfold World.terms
  dsimp only
  rw [Array.getElem?_map, Array.getElem?_map, getElem?_putAt le_rfl, getElem?_putAt le_rfl]
  rfl

end Session

/-! ### New again -/

namespace Session

variable [Native β]

/-- A new session is a copy of the one that is made where nothing else is. -/
theorem new_copy [Relocatable β] (hstill : (w.registries.getD p.registry {}).Still)
    (h : perform (new p config) w = (.ok (.ok s), w')) :
    ∃ B, perform (new p config) { registries := w.registries } = (.ok (.ok 0), B) ∧
      B.Stands s w' := by
  obtain ⟨rfl, hestablish⟩ := new_iff.mp h
  exact establish_copy (x := { plugin := p, runtime := w.runtimes.size }) hstill le_rfl
    le_rfl hestablish

/-- A session that was reset is such a copy, too. -/
theorem reset_copy [Relocatable β] (hstill : (w.registries.getD x.plugin.registry {}).Still)
    (hx : w.sessions[s]? = some x) (hy : w.runtimes[x.runtime]? = some y)
    (h : perform (reset s) w = (.ok (.ok ()), w')) :
    ∃ B, perform (new x.plugin y.config) { registries := w.registries } = (.ok (.ok 0), B) ∧
      B.Stands s w' := by
  rw [perform_reset hx hy] at h
  obtain ⟨_, v, hvacate, hestablish⟩ := exists_of_perform_bind h
  obtain ⟨hsession, hruntime, hregistries⟩ := premises_vacate hx hy hvacate
  obtain ⟨hs, _⟩ := Array.getElem?_eq_some_iff.mp hsession
  obtain ⟨hr, _⟩ := Array.getElem?_eq_some_iff.mp hruntime
  rw [← hregistries] at hstill ⊢
  exact establish_copy (x := { x with inst := none }) hstill hs.le hr.le hestablish

/-- A session can be reset when it can give up what it has and a new one
could be made. -/
theorem exists_reset_iff [Relocatable β] (hstill : (w.registries.getD x.plugin.registry {}).Still)
    (hx : w.sessions[s]? = some x) (hy : w.runtimes[x.runtime]? = some y) :
    (∃ w', perform (reset s) w = (.ok (.ok ()), w')) ↔ (∃ v, perform (vacate s) w = (.ok (), v)) ∧
      ∃ B, perform (new x.plugin y.config) { registries := w.registries } = (.ok (.ok 0), B) := by
  rw [perform_reset hx hy]
  constructor
  · rintro ⟨w', h⟩
    obtain ⟨_, v, hvacate, _⟩ := exists_of_perform_bind h
    obtain ⟨B, hmade, _⟩ := reset_copy hstill hx hy ((perform_reset hx hy).trans h)
    exact ⟨⟨v, hvacate⟩, B, hmade⟩
  · rintro ⟨⟨v, hvacate⟩, hmade⟩
    obtain ⟨hsession, hruntime, hregistries⟩ := premises_vacate hx hy hvacate
    obtain ⟨hs, _⟩ := Array.getElem?_eq_some_iff.mp hsession
    obtain ⟨hr, _⟩ := Array.getElem?_eq_some_iff.mp hruntime
    rw [← hregistries] at hmade hstill
    obtain ⟨w', h⟩ := (exists_establish_iff (x := { x with inst := none }) hstill hs.le hr.le).mpr
        hmade
    exact ⟨w', (perform_bind_ok hvacate _).trans h⟩

end Session

/-! ### Lending -/

/-- What sessions have. -/
def World.assets (w : World β) :=
  (w.sessions, w.runtimes, w.instances, w.proxies, w.handles, w.recorders, w.graph, w.heap)

/-- A session stands as long as its assets are the same. -/
theorem World.Stands.of_assets [Relocatable β] (h : B.Stands s w) (hassets : w'.assets = w.assets) :
    B.Stands s w' := by
  obtain ⟨ρ, hs, hcopies⟩ := h
  unfold World.assets at hassets
  injection hassets with hsessions hassets
  injection hassets with hruntimes hassets
  injection hassets with hinstances hassets
  injection hassets with hproxies hassets
  injection hassets with hhandles hassets
  injection hassets with hrecorders hassets
  injection hassets with hgraph hheap
  refine ⟨ρ, hs, ?_⟩
  constructor
  · exact hsessions ▸ hcopies.sessions
  · exact hruntimes ▸ hcopies.runtimes
  · exact hinstances ▸ hcopies.instances
  · exact hproxies ▸ hcopies.proxies
  · exact hhandles ▸ hcopies.handles
  · exact hrecorders ▸ hcopies.recorders
  · exact hgraph ▸ hcopies.nodes
  · exact hheap ▸ hcopies.objects
  · exact hheap ▸ hcopies.scopes

namespace Pool

/-- Counting how many are in use leaves the assets. -/
theorem assets_countUse (x : Pool) (n : Int) : Leaves (World.assets (β := β)) (countUse x n) := by
  refine .modify fun w => ?_
  split <;> rfl

/-- So does whatever happens to a pool. -/
theorem assets_modifyPool (q : Nat) (f : Pool → Pool) : Leaves (World.assets (β := β))
    (modifyPool q f) :=
  .modify fun _ => rfl

/-- Lending a session does not touch any. -/
theorem assets_acquire (q : Nat) (cancelled : Bool) :
    Leaves (World.assets (β := β)) (acquire q cancelled) := by
  refine .bind (.bind .get fun _ => .pure _) fun x => ?_
  split
  · exact .pure _
  · split
    · exact .bind (assets_modifyPool q _) fun _ => .bind (assets_countUse x 1) fun _ => .pure _
    · exact .pure _

variable [Native β]

/-- An open pool with room for it takes a session back by resetting it. -/
theorem reset_of_release {q : Nat} (hopen : (w.pools.getD q default).closed = false)
    (hroom : (w.pools.getD q default).idle.length < (w.pools.getD q default).size)
    (h : perform (release q s) w = (.ok (.ok ()), w')) :
    ∃ v u, v.premises = w.premises ∧ perform (Session.reset s) v = (.ok (.ok ()), u) ∧
      w'.assets = u.assets := by
  have hpool : perform (pool q) w = (.ok (w.pools.getD q default), w) := rfl
  generalize w.pools.getD q default = x at hopen hroom hpool
  unfold release at h
  rw [perform_bind_ok hpool] at h
  obtain ⟨_, v, hcount, h⟩ := exists_of_perform_bind h
  have hkept : Leaves World.premises (countUse x (-1) : M β Unit) :=
    .modify fun w => by split <;> rfl
  rw [hopen, if_neg Bool.false_ne_true] at h
  obtain ⟨res, u, hreset, h⟩ := exists_of_perform_bind h
  cases res with
  | ok _ =>
    dsimp only at h
    rw [if_pos hroom] at h
    obtain ⟨_, u', hmodify, h⟩ := exists_of_perform_bind h
    cases h
    exact ⟨v, u, hkept.eq hcount, hreset, (assets_modifyPool q _).eq hmodify⟩
  -- A session that could not be reset is replaced, and the release fails in either way.
  | error e =>
    obtain ⟨_, _, _, h⟩ := exists_of_perform_bind h
    obtain ⟨made, _, _, h⟩ := exists_of_perform_bind h
    cases made with
    | ok fresh =>
      obtain ⟨_, _, _, h⟩ := exists_of_perform_bind h
      cases h
    | error e => cases h

/-- What a pool tells of a script is what the script came to on the session
that was lent for it. -/
theorem result_of_execute {q : Nat} {script : String} {cancelled : Bool} {e : Runtime.Execution}
    (hlent : perform (acquire q cancelled) w = (.ok (.ok s), v))
    (h : perform (execute q script cancelled) w = (.ok (.ok e), w')) :
    (perform (Session.execute s script cancelled) v).1 = .ok e := by
  unfold execute at h
  rw [perform_bind_ok hlent] at h
  dsimp only at h
  rw [perform_cleanly] at h
  split at h
  · have hresult := congrArg Prod.fst h
    rw [perform_bind] at hresult
    generalize perform (Session.execute s script cancelled) v = ran at hresult ⊢
    obtain ⟨_ | _, _⟩ := ran
    · cases hresult
    · cases hresult
      rfl
  · cases h

end Pool

/-! ### Later scripts -/

/-- Where a session stands, its copy is for the same plugin and is set up in
the same way. -/
theorem World.Copies.terms [Relocatable β] {ρ : Relocation} (h : B.Copies ρ w)
    (hB : B.terms 0 0 = (some (p, 0), some config)) :
    w.terms (ρ.sessions 0) (ρ.runtimes 0) = (some (p, ρ.runtimes 0), some config) := by
  unfold World.terms at hB ⊢
  injection hB with hsession hruntime
  rw [Array.getElem?_map] at hsession hruntime
  obtain ⟨x, hx, hterm⟩ := Option.map_eq_some_iff.mp hsession
  obtain ⟨y, hy, rfl⟩ := Option.map_eq_some_iff.mp hruntime
  obtain ⟨plugin, runtime, inst, closings⟩ := x
  cases hterm
  obtain ⟨n, hcopied⟩ := h.sessions 0 _ hx
  rw [Array.getElem?_map, Array.getElem?_map, hcopied, h.runtimes 0 y hy]
  rfl

namespace Session

/-- The same execution, with the same value or error and the same console, or
unwound by the same thing elsewhere. -/
inductive Retold : Except Unwind Runtime.Execution → Except Unwind Runtime.Execution → Prop
  | ended (e : Runtime.Execution) : Retold (.ok e) (.ok e)
  | unwound (u : Unwind) (ρ σ : Relocation) : Retold (.error (u.relocate ρ)) (.error (u.relocate σ))

/-- Two copies of the same result retell each other. -/
theorem retold_carry (ρ σ : Relocation) (result : Except Unwind Runtime.Execution) :
    Retold (carry ρ result) (carry σ result) := by
  cases result with
  | ok e => exact .ended e
  | error u => exact .unwound u ρ σ

variable [Native β]

/-- What scripts come to that run on a session one after the other. Each of
them may be cancelled before it starts. -/
def results (s : Nat) : List (String × Bool) → World β → List (Except Unwind Runtime.Execution)
  | [], _ => []
  | (script, cancelled) :: rest, w =>
    (perform (execute s script cancelled) w).1 ::
      results s rest (perform (execute s script cancelled) w).2

/-- A session runs scripts in its runtime. -/
theorem perform_execute (hterms : w.terms s r = (some (p, r), some config)) (script : String)
    (cancelled : Bool) :
    perform (execute s script cancelled) w = perform (Runtime.execute r script cancelled) w := by
  obtain ⟨x, hx, hterm⟩ := Option.map_eq_some_iff.mp
      (Array.getElem?_map.symm.trans (congrArg Prod.fst hterms))
  obtain ⟨plugin, runtime, inst, closings⟩ := x
  cases hterm
  unfold execute
  rw [perform_bind_ok (perform_get? s w), hx]

section

variable [Relocatable β] {ρ : Relocation}
  (hn : ∀ (s r : Nat) (ops : HostOps β), ops.Leave (World.terms s r) →
    NativeLeaves (World.terms s r) ops)
  (hportable : Native.Portable β)

include hn hportable

/-- Scripts come to the same in the copy of a session, one after the other. -/
theorem results_of_matches (scripts : List (String × Bool)) (hm : B.Matches ρ w)
    (hB : B.terms 0 0 = (some (p, 0), some config))
    (hw : w.terms s (ρ.runtimes 0) = (some (p, ρ.runtimes 0), some config)) :
    results s scripts w = (results 0 scripts B).map (carry ρ) := by
  induction scripts generalizing B w with
  | nil => rfl
  | cons e rest ih =>
    obtain ⟨script, cancelled⟩ := e
    have hrun := hm.execute hportable script cancelled
    have hB' := leaves_execute (undisturbed_terms (hn 0 0)) 0 script cancelled B
    have hw' := leaves_execute (undisturbed_terms (hn s (ρ.runtimes 0))) s script cancelled w
    rw [perform_execute hB] at hB'
    rw [perform_execute hw] at hw'
    unfold results
    rw [perform_execute hB, perform_execute hw, List.map_cons, hrun.result,
      ih hrun.worlds (hB'.trans hB) (hw'.trans hw)]

/-- Wherever the session stands that was made alone, scripts come to what they
come to there. -/
theorem results_of_stands {registries : Array (Registry β)}
    (hstill : (registries.getD p.registry {}).Still)
    (hmade : perform (new p config) { registries } = (.ok (.ok 0), B)) (h : B.Stands s w)
    (scripts : List (String × Bool)) :
    ∃ ρ, results s scripts w = (results 0 scripts B).map (carry ρ) := by
  obtain ⟨ρ, rfl, hcopies⟩ := h
  have hB := (terms_new (undisturbed_terms (hn 0 0)) hmade rfl rfl).2
  have hidle : (B.runtime 0).running = false := by
    obtain ⟨graph, root, heap, used, m, _, _, rfl⟩ :=
      parts_of_establish (Nat.zero_le _) (Nat.zero_le _) (new_iff.mp hmade).2
    rfl
  have hmoved := (secluded_new hstill hmade).moved hcopies
  have hmatches : B.Matches hcopies.onwards w :=
    { hmoved with
      heap :=
        { hmoved.heap with
          result := fun hrunning => absurd hrunning (hidle ▸ Bool.false_ne_true)
          effort := fun hrunning => absurd hrunning (hidle ▸ Bool.false_ne_true) } }
  have hruntime : hcopies.onwards.runtimes 0 = ρ.runtimes 0 :=
    (hcopies.agree_onwards.runtimes 0 (secluded_new hstill hmade).exists_runtime).symm
  refine ⟨_, results_of_matches hn hportable scripts hmatches hB ?_⟩
  rw [hruntime]
  exact hcopies.terms hB

/-- So they come to the same wherever it stands. -/
theorem retold_of_stands {registries : Array (Registry β)}
    (hstill : (registries.getD p.registry {}).Still)
    (hmade : perform (new p config) { registries } = (.ok (.ok 0), B)) (h : B.Stands s w)
    (h' : B.Stands t w') (scripts : List (String × Bool)) :
    List.Forall₂ Retold (results s scripts w) (results t scripts w') := by
  obtain ⟨ρ, hresults⟩ := results_of_stands hn hportable hstill hmade h scripts
  obtain ⟨σ, hresults'⟩ := results_of_stands hn hportable hstill hmade h' scripts
  rw [hresults, hresults', List.forall₂_map_left_iff, List.forall₂_map_right_iff, List.forall₂_same]
  exact fun result _ => retold_carry ρ σ result

end

/-! ### Isolation -/

/-- The session `s` is as the one was that was made in `B`, where nothing else
is. -/
structure LikeNew [Relocatable β] (B : World β) (s : Nat) (w : World β) : Prop where
  /-- It is a copy of that session. -/
  stands : B.Stands s w
  /-- Scripts come to what they come to there. -/
  answers : ∀ scripts, List.Forall₂ Retold (results 0 scripts B) (results s scripts w)
  /-- So they do for whoever the session is lent to next, when it was left
  alone until then. -/
  lent : ∀ {q : Nat} {c : Bool} {u u' : World β}, (B.Stands s w → B.Stands s u) →
    perform (Pool.acquire q c) u = (.ok (.ok s), u') →
      ∀ scripts, List.Forall₂ Retold (results 0 scripts B) (results s scripts u')
  /-- What a pool tells of a script that it runs on the session is what the
  script comes to there. -/
  run : ∀ {q : Nat} {script : String} {cancelled : Bool} {u u' u'' : World β}
    {e : Runtime.Execution}, (B.Stands s w → B.Stands s u) → perform (Pool.acquire q cancelled) u =
      (.ok (.ok s), u') → perform (Pool.execute q script cancelled) u = (.ok (.ok e), u'') →
        (perform (execute 0 script cancelled) B).1 = .ok e

variable [Relocatable β]
  (hn : ∀ (s r : Nat) (ops : HostOps β), ops.Leave (World.terms s r) →
    NativeLeaves (World.terms s r) ops)
  (hportable : Native.Portable β)

include hn hportable

/-- A session that stands is like new: what its scripts come to follows. -/
theorem LikeNew.of_stands {registries : Array (Registry β)}
    (hstill : (registries.getD p.registry {}).Still)
    (hmade : perform (new p config) { registries } = (.ok (.ok 0), B)) (h : B.Stands s w) :
    LikeNew B s w := by
  -- The session that is made where nothing else is is a copy of itself.
  have hself : B.Stands 0 B := by
    obtain ⟨B', hmade', hself⟩ := new_copy hstill hmade
    rw [hmade] at hmade'
    cases hmade'
    exact hself
  have hretold {u : World β} (hu : B.Stands s u) (scripts : List (String × Bool)) :
      List.Forall₂ Retold (results 0 scripts B) (results s scripts u) :=
    retold_of_stands hn hportable hstill hmade hself hu scripts
  refine ⟨h, hretold h, fun {q c u u'} hrest hlent => ?_,
    fun {q script cancelled u u' u'' e} hrest hlent hrun => ?_⟩
  · exact hretold ((hrest h).of_assets ((Pool.assets_acquire q c).eq hlent))
  · have hretold := hretold ((hrest h).of_assets ((Pool.assets_acquire q cancelled).eq hlent))
        [(script, cancelled)]
    obtain _ | ⟨hsame, _⟩ := hretold
    rw [Pool.result_of_execute hlent hrun] at hsame
    generalize (perform (execute 0 script cancelled) B).1 = result at hsame
    cases hsame
    rfl

/-- Whatever was done with a session, once it was reset it is as new: the
session that is made where nothing else is, under other numbers. So it is
when a pool takes it back. What scripts come to on it then, their values or
errors and what they write, is what they come to on that session, so it does
not depend on who had it before.

Native code must not change the terms of sessions, and come to the same
wherever its storage stands; the registries must be as they were. -/
theorem reset_as_new (hstill : (w₀.registries.getD p.registry {}).Still)
    (hnew : perform (new p config) w₀ = (.ok (.ok s), w₁)) :
    ∃ B, perform (new p config) { registries := w₀.registries } = (.ok (.ok 0), B) ∧
      LikeNew B s w₁ ∧ ∀ w, Relation.ReflTransGen (Step s w₀.runtimes.size) w₁ w →
        w.registries = w₀.registries → (∀ w', perform (reset s) w = (.ok (.ok ()), w') →
        LikeNew B s w') ∧ ∀ q w', (w.pools.getD q default).closed = false →
          (w.pools.getD q default).idle.length < (w.pools.getD q default).size →
          perform (Pool.release q s) w = (.ok (.ok ()), w') → LikeNew B s w' := by
  have hu := undisturbed_terms (hn w₀.sessions.size w₀.runtimes.size)
  obtain ⟨rfl, hterms₁⟩ := terms_new hu hnew rfl rfl
  obtain ⟨B, hmade, hstands⟩ := new_copy hstill hnew
  have hlike {u : World β} (h : B.Stands w₀.sessions.size u) : LikeNew B w₀.sessions.size u :=
    .of_stands hn hportable hstill hmade h
  refine ⟨B, hmade, hlike hstands, fun w hhistory hregistries => ?_⟩
  have hterms := (terms_history hu hhistory).trans hterms₁
  -- Whatever world it is reset in, it is the same session that is made.
  have hcopy (v u : World β) (hpremises : v.premises = w.premises)
      (hreset : perform (reset w₀.sessions.size) v = (.ok (.ok ()), u)) :
      B.Stands w₀.sessions.size u := by
    obtain ⟨hsessions, hruntimes, hregistries'⟩ : v.sessions = w.sessions ∧
        v.runtimes = w.runtimes ∧ v.registries = w.registries := by
      unfold World.premises at hpremises
      injection hpremises with hsessions hpremises
      injection hpremises with hruntimes hregistries'
      exact ⟨hsessions, hruntimes, hregistries'⟩
    unfold World.terms at hterms
    injection hterms with hsession hruntime
    rw [Array.getElem?_map] at hsession hruntime
    obtain ⟨x, hx, hterm⟩ := Option.map_eq_some_iff.mp hsession
    obtain ⟨y, hy, rfl⟩ := Option.map_eq_some_iff.mp hruntime
    obtain ⟨plugin, runtime, inst, closings⟩ := x
    cases hterm
    rw [← hregistries, ← hregistries'] at hstill
    obtain ⟨B', hmade', hstands'⟩ := reset_copy hstill (hsessions ▸ hx) (hruntimes ▸ hy) hreset
    rw [hregistries'.trans hregistries, hmade] at hmade'
    cases hmade'
    exact hstands'
  refine ⟨fun w' hreset => hlike (hcopy w w' rfl hreset), fun q w' hopen hroom hrelease => ?_⟩
  obtain ⟨v, u, hpremises, hreset, hassets⟩ := Pool.reset_of_release hopen hroom hrelease
  exact hlike ((hcopy v u hpremises hreset).of_assets hassets)

end Session

namespace Session

/-! ### A session that is used twice -/

/-- Every script has some steps, however short its time is. -/
theorem leastSteps_le_stepLimit (config : RuntimeConfig) :
    ScriptHost.leastSteps ≤ ScriptHost.stepLimit config := by
  unfold ScriptHost.stepLimit
  split
  · decide
  · exact le_min (by decide) (le_max_left _ _)

/-- The plugin that comes with the program. -/
def furnished : Plugin :=
  { manifest := Manifest.builtin, registry := 0, options := {}, metered := false }

/-- A world with a pool that has no session yet. -/
def lounge : World Behaviour :=
  { registries := #[builtinRegistry id],
    pools := #[{ plugin := furnished, config := {}, size := 1 }] }

/-- What is used of the nodes of that plugin. -/
structure Furnished (g : Graph Behaviour) : Prop where
  method : g.hasMethod 0 (.ofString "utils") = false
  property : g.hasProperty 0 (.ofString "utils") = true
  child : g.property? 0 (.ofString "utils") = some (.child 2)
  unknown : g.property? 0 (.ofString "nothing") = none

/-- The plugin that comes with the program can be assembled. -/
theorem exists_assemble_furnished : ∃ g, Graph.assemble (builtinRegistry id) Manifest.builtin {} =
    .ok (g, 0) ∧ Furnished g := by
  refine ⟨_, rfl, ?_⟩
  constructor <;> rfl

/-- The world with a session in it. -/
def hosting (g : Graph Behaviour) (h : Heap) (y : Runtime) (held : Array Proxy) (e : Bytes)
    (m : Metrics) :
    World Behaviour :=
  { lounge with
    sessions := #[{ plugin := furnished, runtime := 0, inst := some 0 }]
    runtimes := #[y]
    instances :=
      #[{ plugin := furnished, root := 0, host := .script 0, scripting := some (.proxy 0),
          lastError := e }]
    proxies := held
    graph := g
    heap := h
    metrics := m
    realms := 1 }

/-- The root as the scripts of the session know it. -/
def rootProxy :
    Proxy := { refs := { refs := 2 }, context := { host := .script 0, inst := some 0 }, node := 0 }

/-- The child of the root that was read. -/
def utilsProxy : Proxy :=
  { refs := { refs := 1 }, context := { host := .script 0, inst := some 0 }, node := 2 }

/-- A session for that plugin is established like this. -/
theorem established_furnished (g : Graph Behaviour) (h : Heap) (used : Nat) (m : Metrics) :
    established lounge 0 { plugin := furnished, runtime := 0 } {} g 0 h used m =
      hosting g h { realm := (({} : Heap).newRealm 0 true).2, adopted := [.proxy 0],
                    steps := ScriptHost.mostSteps - used }
        #[rootProxy] [] m := rfl

section

variable {g : Graph Behaviour} {h : Heap} {y : Runtime} {q : Array Proxy} {e : Bytes} {m : Metrics}

/-- The session's nodes are the graph's. -/
theorem hosting_graph : (hosting g h y q e m).graph = g := rfl

/-- Its objects are on the heap. -/
theorem hosting_heap : (hosting g h y q e m).heap = h := rfl

/-- Its runtime is the only one. -/
theorem hosting_runtime : (hosting g h y q e m).runtime 0 = y := rfl

/-- Another heap takes the place of the first. -/
theorem hosting_withHeap (h' : Heap) : { hosting g h y q e m with heap := h' } =
    hosting g h' y q e m := rfl

/-- A change of its runtime is a change of the only one. -/
theorem hosting_modify (f : Runtime → Runtime) :
    { hosting g h y q e m with runtimes := (hosting g h y q e m).runtimes.modify 0 f } =
      hosting g h (f y) q e m := rfl

/-- The terms of that session. -/
theorem terms_hosting : (hosting g h y q e m).terms 0 0 = (some (furnished, 0), some y.config) := by
  unfold World.terms
  rw [Array.getElem?_map, Array.getElem?_map]
  rfl

/-! What a script asks for is served, and it goes on. -/

variable {ops : HostOps Behaviour} {machine : Script.Machine} {h' : Heap}

/-- The driver runs the machine to a request, serves it in the world of the
session and goes on with the reply. -/
theorem perform_drive_hosting {rounds left depth : Nat} {request : Script.Request}
    {stack : List Script.Frame} {reply : ScriptHost.Reply} {w' : World Behaviour}
    (hrun : Script.run y.realm (ScriptHost.limitOf y.config) y.steps h machine =
      (h', left, .ask request stack depth))
    (hserve : perform (ScriptHost.serve ops 0 request)
      (hosting g h' { y with steps := left, depth } q e m) = (.ok reply, w')) :
    perform (ScriptHost.drive ops 0 (rounds + 1) machine) (hosting g h y q e m) =
      perform (ScriptHost.drive ops 0 rounds { control := reply.control, stack, depth }) w' :=
  ScriptHost.perform_drive_ask (i := 0) (w := hosting g h y q e m) hrun hserve

/-- A program ends for the session as the driver ends. -/
theorem perform_runProgram_hosting {steps : Nat} {program : Script.Program} {o : Script.Outcome}
    {z : Runtime} {q' : Array Proxy} (hidle : y.running = false)
    (hrefused : Script.refusedFunction? y.realm { h with result := .undefined } program = none)
    (hdrive : perform (ScriptHost.drive ops 0 (steps + 1) (.ofProgram y.realm program 0))
      (hosting g { Script.prepare y.realm { h with result := .undefined } program with effort := 0 }
        { y with running := true, steps } q e m) = (.ok o, hosting g h' z q' e m)) :
    perform (ScriptHost.runProgram ops 0 program steps) (hosting g h y q e m) =
      (.ok o, hosting g { h' with result := .undefined } { z with running := false, depth := 0 }
      q' e m) := by
  generalize hprepare : Script.prepare y.realm { h with result := .undefined } program =
    ready at hdrive
  generalize hmachine : Script.Machine.ofProgram y.realm program 0 = machine at hdrive
  have hran := ScriptHost.perform_runMachine_of_drive (i := 0) (w := hosting g ready y q e m)
      hidle hdrive
  unfold ScriptHost.runProgram
  rw [perform_bind_ok (perform_get _), hosting_runtime]
  dsimp only
  rw [hidle, Bool.false_and, if_neg Bool.false_ne_true, if_neg Bool.false_ne_true,
    if_neg Bool.false_ne_true]
  rw [perform_bind_ok (ScriptHost.perform_withHeap_eq _ _), hosting_heap, hrefused]
  dsimp only
  rw [hprepare, hmachine, hosting_withHeap, perform_cleanly, hran]
  rfl

/-! The first borrower runs a script that leaves a global and a line on the console. -/

/-- It reads a child of the plugin, keeps it, and writes to the console. -/
def errand : String := "secret = plugin.utils; console.log('hi')"

/-- The program it is. -/
def errandProgram : Script.Program where
  body :=
    [.expr (.assign (.ident "secret") none (.member (.ident "plugin") (.ofName "utils"))) false,
      .expr (.call (.member (.ident "console") (.ofName "log")) [.string "hi"]) true]

/-- Is a program the errand? -/
def isErrand : Script.Program → Bool
  | { strict := false, locals := [], functions := []
      body := [.expr (.assign (.ident kept) none (.member (.ident root) child)) false,
        .expr (.call (.member (.ident console) level) [.string (.plain line)]) true] } =>
    kept = "secret" && root = "plugin" && child = .ofName "utils" && console = "console" &&
      level = .ofName "log" && line = "hi"
  | _ => false

/-- One that is asked and says so is. -/
theorem eq_of_isErrand {program : Script.Program} (h : isErrand program = true) :
    program = errandProgram := by
  unfold isErrand at h
  split at h
  · simp only [Bool.and_eq_true, decide_eq_true_eq] at h
    obtain ⟨⟨⟨⟨⟨rfl, rfl⟩, rfl⟩, rfl⟩, rfl⟩, rfl⟩ := h
    rfl
  · cases h

/-- The errand is a script that can be parsed. -/
theorem parse_errand : Script.parse? errand = some errandProgram := by
  have hread : (Script.parse? errand).any isErrand = true := by decide +kernel
  obtain ⟨program, hparse, herrand⟩ := (Option.any_eq_true _ _).mp hread
  rw [hparse, eq_of_isErrand herrand]

section

open Script Script.Heap

variable {realm : Realm} {p : Script.ObjId} {h : Heap}

/-- What the errand needs: the root under its name, the console, and a name
that is free. -/
structure Equipped (r : Realm) (p : Script.ObjId) (h : Heap) : Prop where
  pristine : h.Pristine r
  free : h.Writable (.name "secret")
  root : h.Holds r.global (.name "plugin") (.object p)
  native : ∃ n x, h.objects[p]? = some x ∧ x.kind = .native n (.proxy 0)
  console : h.HasConsole r

namespace Equipped

/-- Another native object leaves it. -/
theorem newNative (he : Equipped realm p h) (ref : ObjectRef) :
    Equipped realm p (h.newNative realm ref).1 := by
  obtain ⟨n, x, hx, hkind⟩ := he.native
  exact ⟨he.pristine.alloc _, he.free.newNative realm ref, he.root.alloc _,
    ⟨n, x, getElem?_alloc hx _, hkind⟩, he.console.alloc _⟩

/-- It depends on the objects alone. -/
theorem of_objects (he : Equipped realm p h) (value : Script.Value) (effort : Nat) :
    Equipped realm p { h with result := value, effort } :=
  ⟨⟨he.pristine.global, he.pristine.proto⟩, he.free, he.root, he.native, he.console⟩

end Equipped

/-- The root is bound in a new realm, which has all the rest. -/
theorem exists_equipped : ∃ heap spent, rootBound? {} 0 furnished {} 0 = some (heap, spent) ∧
    ∃ p, Equipped (({} : Heap).newRealm 0 true).2 p heap := by
  have hp := pristine_newRealm {} 0 true
  have hc := HasConsole.newRealm {} 0
  have hroot : (({} : Heap).newRealm 0 true).1.Writable (.name "plugin") :=
    .newRealm (by decide) (.empty _) 0 true
  have hfree : (({} : Heap).newRealm 0 true).1.Writable (.name "secret") :=
    .newRealm (by decide) (.empty _) 0 true
  have hbound : rootBound? {} 0 furnished {} 0 =
      (Runtime.exposed (({} : Heap).newRealm 0 true).1 (({} : Heap).newRealm 0 true).2
        (.proxy 0)).bound? (({} : Heap).newRealm 0 true).2 (.name "plugin")
        (({} : Heap).newRealm 0 true).1.objects.size := rfl
  rw [hbound]
  generalize (({} : Heap).newRealm 0 true).1 = h at hp hc hroot hfree ⊢
  generalize (({} : Heap).newRealm 0 true).2 = r at hp hc ⊢
  have hexposed : (Runtime.exposed h r (.proxy 0)).Pristine r :=
    ⟨(hp.alloc _).global, (hp.alloc _).proto⟩
  have hconsole : (Runtime.exposed h r (.proxy 0)).HasConsole r := hc.alloc _
  have hnative : (Runtime.exposed h r (.proxy 0)).objects[h.objects.size]? = some _ :=
    Array.getElem?_push_size
  obtain ⟨f, hf, hstored⟩ :=
    exists_bound? (h := Runtime.exposed h r (.proxy 0)) (hroot.newNative r (.proxy 0)) r
    h.objects.size
  have hfree' : (Runtime.exposed h r (.proxy 0)).Writable (.name "secret") :=
    hfree.newNative r (.proxy 0)
  obtain ⟨fields, hglobal, _⟩ := hexposed.global
  have hother : Key.name "plugin" ≠ .name "secret" := by decide
  refine ⟨_, _, hstored, h.objects.size, hexposed.put _ _ hf, hfree'.put _ fun heq =>
    absurd heq hother, .of_put ⟨_, hglobal, rfl⟩ hf, ⟨r.number, _, getElem?_put hnative _ _ _, ?_⟩,
      hconsole.put _ (by decide) f⟩
  split <;> rfl

/-! A value is handed to the frames the errand waits in. -/

section

variable (v w : Value) (k : List Frame) (d : Nat)

/-- The child was read. -/
theorem stepGive_nativeGet (o : ObjId) (key : Key) :
    stepGive realm h v (.nativeGet o key w) k d = give h v k d := rfl

/-- The value to keep is there. -/
theorem stepGive_assignValue (ref : Reference) (strict : Bool) :
    stepGive realm h v (.assignValue ref strict) k d =
      go h (.writeRef ref v strict) (.instead v :: k) d := rfl

/-- The value was kept. -/
theorem stepGive_instead : stepGive realm h v (.instead w) k d = give h w k d := rfl

/-- A statement came to an end. -/
theorem stepGive_exprDone (kept : Bool) :
    stepGive realm h v (.exprDone kept) k d = go (keep kept h v) (.complete .normal) k d := rfl

/-- The function was read. -/
theorem stepGive_callMember (key : Key) (args : List Expr) (env : Env) :
    stepGive realm h v (.callMember w key args env) k d =
      nextArgument realm h (.call v w) [] args env k d := rfl

/-- The line is a text, -/
theorem stepGive_toText (t : Text) : stepGive realm h (.string t) .toText k d =
    give h (.string t) k d := rfl

/-- and the only one of the line. -/
theorem stepGive_logText (level : String) (rest : List Value) :
    stepGive realm h v (.logText level [] rest) k d =
      logNext h level [(v.text?.getD default).toBytes] rest k d := rfl

/-- The function came to an end. -/
theorem stepGive_call (depth : Nat) : stepGive realm h v (.call depth) k d = give h v k depth := rfl

end

/-- The call of the console. -/
def errandRest (r : Realm) : Frame :=
  .statements [.expr (.call (.member (.ident "console") (.ofName "log")) [.string "hi"]) true]
    { scope := none, this := .object r.global, strict := false }

/-- It asks for the child. -/
theorem run_errand_get (he : Equipped realm p h) (heffort : h.effort = 0) (limit fuel : Nat) :
    Script.run realm limit (fuel + 9) h (.ofProgram realm errandProgram 0) =
      (h, fuel, .ask (.get (.proxy 0) "utils")
        [.nativeGet p (.name "utils") (.object p), .assignValue (.global "secret") false,
          .exprDone false, errandRest realm] 0) := by
  obtain ⟨⟨slot, _, _, _⟩, hown, hslot⟩ := he.root.exists_own?
  obtain rfl : slot = _ := hslot
  obtain ⟨n, x, hx, hkind⟩ := he.native
  have hobj : h.obj p = x := obj_of_getElem? hx
  have hshown : (Key.name "utils").shown = "utils" := by decide +kernel
  have hmost : ¬mostEffort < h.effort := by
    rw [heffort]
    decide
  simp [Script.run, step, Machine.ofProgram, errandProgram, errandRest, runAll, deed?, act?, value?,
    readVariable?, findVariable, hown, readDirect?, find, findFrom, hobj, hkind, stepExec, stepEval,
    stepRefer, resolve, stepRefers, stepRead, readMember, stepFetch, go, ask, hmost, hshown,
    Key.Written.ofName]

/-- It keeps what it is given, -/
theorem run_errand_keep (he : Equipped realm p h) (heffort : h.effort = 0) (o : ObjId)
    (limit fuel : Nat) :
    ∃ f, f.slot = .data (.object o) ∧
      Script.run realm limit (fuel + 7) h
        { control := .give (.object o)
          stack := [.nativeGet p (.name "utils") (.object p), .assignValue (.global "secret") false,
            .exprDone false, errandRest realm] } =
        Script.run realm limit fuel (h.put realm.global (.name "secret") f)
          { control := .execAll [.expr (.call (.member (.ident "console") (.ofName "log"))
              [.string "hi"]) true] { scope := none, this := .object realm.global,
                                      strict := false } } := by
  obtain ⟨f, hf, hstore⟩ := exists_store_put he.pristine he.free (.object o)
  refine ⟨f, hf, ?_⟩
  have hweight := weight_object_le (.name "secret") o hf
  obtain ⟨⟨fields, hfields, _⟩, _⟩ := he.pristine
  have hobj : h.obj realm.global = _ := obj_of_getElem? hfields
  have hput := effort_put h realm.global (.name "secret") f
  have hmost : ¬mostEffort < h.effort := by
    rw [heffort]
    decide
  have hmost' : ¬mostEffort < (h.put realm.global (.name "secret") f).effort := by
    have : 2 ≤ mostEffort := by decide
    omega
  simp [Script.run, step, stepGive_nativeGet, stepGive_assignValue, stepGive_instead,
    stepGive_exprDone, stepWrite, stepStore, carryOut, hobj, hstore, keep, stepComplete,
    errandRest, go, give, hmost, hmost']

/-- and calls the console, -/
theorem run_errand_call (hconsole : h.HasConsole realm) (hmost : h.effort ≤ mostEffort)
    (limit fuel : Nat) :
    ∃ c l x, h.objects[l]? = some x ∧ x.kind = .function (.builtin (.log "log")) ∧
      Script.run realm limit (fuel + 6) h
        { control := .execAll [.expr (.call (.member (.ident "console") (.ofName "log"))
            [.string "hi"]) true] { scope := none, this := .object realm.global,
                                    strict := false } } =
        Script.run realm limit fuel h
          { control := .apply (.object l) (.object c) [.string "hi"] true,
            stack := [.exprDone true] } := by
  obtain ⟨c, hc, l, x, hl, hx, hkind⟩ := hconsole
  refine ⟨c, l, x, hx, hkind, ?_⟩
  obtain ⟨⟨slot, _, _, _⟩, hown, hslot⟩ := hc.exists_own?
  obtain rfl : slot = _ := hslot
  obtain ⟨⟨slot', _, _, _⟩, hfind, hslot'⟩ := hl.exists_find
  obtain rfl : slot' = _ := hslot'
  have hmost : ¬mostEffort < h.effort := Nat.not_lt.mpr hmost
  simp [Script.run, step, stepGive_callMember, runAll, deed?, act?, value?, readVariable?,
    findVariable, hown, hfind, stepExec, stepEval, stepRefer, stepRefers, readMember, stepFetch, go,
    give, hmost, Key.Written.ofName, nextArgument]

/-- which asks for a line to be written. -/
theorem run_errand_log (realm : Realm) {l : ObjId} {x : Obj} (hx : h.objects[l]? = some x)
    (hkind : x.kind = .function (.builtin (.log "log"))) (hmost : h.effort ≤ mostEffort)
    (this : Value) {limit : Nat} (hlimit : 0 < limit) (fuel : Nat) :
    Script.run realm limit (fuel + 4) h
      { control := .apply (.object l) this [.string "hi"] true, stack := [.exprDone true] } =
      (h, fuel, .ask (.log "log" (.ofString "hi")) [.call 0, .exprDone true] 1) := by
  have hcallable : h.callable? (.object l) = some (.builtin (.log "log")) := by
    unfold callable?
    dsimp only
    rw [obj_of_getElem? hx, hkind]
  have happly : stepApply realm limit h (.object l) this [.string "hi"] true [.exprDone true] 0 =
      go h (.primitive (.string "hi") .text) [.toText, .logText "log" [] [], .call 0,
      .exprDone true] 1 := by
    unfold stepApply
    rw [hcallable]
    dsimp only
    rw [Bool.not_true, if_neg Bool.false_ne_true, if_neg (Nat.not_le.mpr hlimit)]
    rfl
  have hmost : ¬mostEffort < h.effort := Nat.not_lt.mpr hmost
  have htext : (Value.string "hi").text? = some "hi" := rfl
  have hline : Bytes.intercalate (.ofString " ") [Text.toBytes "hi"] = .ofString "hi" := by
    decide +kernel
  simp [Script.run, step, happly, stepPrimitive, stepGive_toText, stepGive_logText, logNext, go,
    give, ask, hmost, htext, hline]

/-- Nothing comes of that. -/
theorem run_errand_done (realm : Realm) (heffort : h.effort ≤ mostEffort) (limit fuel : Nat) :
    Script.run realm limit (fuel + 3) h
      { control := .give .undefined, stack := [.call 0, .exprDone true], depth := 1 } =
      ({ h with result := .undefined }, fuel, .done (.value .undefined)) := by
  have hmost : ¬mostEffort < h.effort := Nat.not_lt.mpr heffort
  simp [Script.run, step, stepGive_call, stepGive_exprDone, give, go, keep, hmost]

end

/-- The child it asks for is handed out as a new proxy. -/
theorem perform_serve_utils (hg : Furnished g) (hopen : y.isOpen = true) :
    perform (ScriptHost.serve ops 0 (.get (.proxy 0) "utils")) (hosting g h y #[rootProxy] e m) =
      (.ok (.value (.object h.objects.size)),
        hosting g (h.newNative y.realm (.proxy 1)).1 { y with adopted := .proxy 1 :: y.adopted }
          #[rootProxy, utilsProxy] e m) := by
  have hasked : perform (ScriptHost.requested (.proxy 0)) (hosting g h y #[rootProxy] e m) =
      (.ok rootProxy, hosting g h y #[rootProxy] e m) := rfl
  have hmethod : perform (rootProxy.hasMethod (.ofText "utils") (some {}))
      (hosting g h y #[rootProxy] e m) =
      (.ok (false, some {}), hosting g h y #[rootProxy] e m) := by
    rw [← hg.method]
    rfl
  have hproperty : perform (rootProxy.hasProperty (.ofText "utils") (some {}))
      (hosting g h y #[rootProxy] e m) = (.ok (true, some {}), hosting g h y #[rootProxy] e m) := by
    rw [← hg.property]
    rfl
  have hnode : perform (Node.getProperty ops rootProxy.context 0 (.ofString "utils"))
      (hosting g h y #[rootProxy] e m) =
      (.ok (.ok (.object (.proxy 1))), hosting g h y #[rootProxy, utilsProxy] e m) := by
    rw [Node.getProperty, perform_bind_ok (perform_get _), hosting_graph, hg.child]
    rfl
  have hget : perform (rootProxy.getProperty ops (.ofText "utils") (some {}))
      (hosting g h y #[rootProxy] e m) =
      (.ok (.object (.proxy 1), some {}), hosting g h y #[rootProxy, utilsProxy] e m) :=
    (Proxy.perform_measured_unprofiled rfl).trans (perform_bind_ok hnode _)
  unfold ScriptHost.serve
  dsimp only
  rw [perform_bind_ok hasked]
  unfold ScriptHost.serveGet
  rw [perform_bind_ok hmethod]
  dsimp only
  rw [if_neg Bool.false_ne_true, perform_bind_ok hproperty]
  dsimp only
  rw [Bool.not_true, if_neg Bool.false_ne_true, perform_bind_ok hget]
  dsimp only
  rw [if_neg (by decide)]
  obtain ⟨config, realm, isOpen⟩ := y
  cases hopen
  rfl

/-- A line that is logged is written to the console. -/
theorem perform_serve_log (level : String) (message : Bytes) :
    perform (ScriptHost.serve ops 0 (.log level message)) (hosting g h y q e m) =
      (.ok (.value .undefined), hosting g h { y with console := y.console ++ [(level, message)] }
        q e m) := rfl

/-- The world after the errand. -/
def visited (g : Graph Behaviour) (realm : Realm) (h : Heap) (steps : Nat) (watch : Watch)
    (m : Metrics) :
    World Behaviour :=
  hosting g h
    { realm, adopted := [.proxy 1, .proxy 0], console := [("log", .ofString "hi")], steps, watch }
    #[rootProxy, utilsProxy] [] m

variable (ops) in
/-- The errand leaves a global, one more proxy and a line on the console. -/
theorem perform_runProgram_errand {realm : Realm} {p : Script.ObjId} {steps : Nat}
    (hg : Furnished g) (he : Equipped realm p h) (hsteps : 29 ≤ steps) (used : Nat)
    (watch : Watch) :
    ∃ h' left, h'.Holds realm.global (.name "secret") (.object h.objects.size) ∧
      perform (ScriptHost.runProgram ops 0 errandProgram steps)
        (hosting g h { realm, adopted := [.proxy 0], steps := used, watch } #[rootProxy] [] m) =
          (.ok (.value .undefined), visited g realm h' left watch m) := by
  obtain ⟨n, rfl⟩ := Nat.exists_eq_add_of_le' hsteps
  have hlimit : 0 < ScriptHost.limitOf {} := by decide
  -- Between its requests the errand runs by itself.
  have he₀ := he.of_objects .undefined 0
  have hfirst := run_errand_get he₀ rfl (ScriptHost.limitOf {}) (n + 20)
  have he₁ := he₀.newNative (.proxy 1)
  obtain ⟨f, hf, hkeep⟩ := run_errand_keep he₁ rfl h.objects.size (ScriptHost.limitOf {}) (n + 13)
  generalize hh₁ : (({ h with result := .undefined, effort := 0 } : Heap).newNative realm
    (.proxy 1)).1 = h₁ at he₁ hkeep
  have heffort : (h₁.put realm.global (.name "secret") f).effort ≤ Script.mostEffort := by
    have hweight := Script.Heap.weight_object_le (.name "secret") h.objects.size hf
    have hzero : h₁.effort = 0 := hh₁ ▸ rfl
    have hmost : 2 ≤ Script.mostEffort := by decide
    rw [Script.Heap.effort_put]
    omega
  obtain ⟨fields, hglobal, _⟩ := he₁.pristine.global
  have hholds : (h₁.put realm.global (.name "secret") f).Holds realm.global (.name "secret")
      (.object h.objects.size) :=
    .of_put ⟨_, hglobal, rfl⟩ hf
  have hconsole : (h₁.put realm.global (.name "secret") f).HasConsole realm :=
    he₁.console.put _ (by decide) f
  generalize h₁.put realm.global (.name "secret") f = h₂ at hkeep heffort hholds hconsole
  obtain ⟨c, l, x, hx, hkind, hcall⟩ :=
    run_errand_call hconsole heffort (ScriptHost.limitOf {}) (n + 7)
  have hlog := run_errand_log realm hx hkind heffort (.object c) hlimit (n + 3)
  have hthird := run_errand_done realm heffort (ScriptHost.limitOf {}) n
  have hdrive : perform (ScriptHost.drive ops 0 (n + 29 + 1) (.ofProgram realm errandProgram 0))
      (hosting g { h with result := .undefined, effort := 0 }
        { realm, adopted := [.proxy 0], steps := n + 29, watch, running := true }
        #[rootProxy] [] m) =
      (.ok (.value .undefined), hosting g { h₂ with result := .undefined }
        { realm, adopted := [.proxy 1, .proxy 0], console := [("log", .ofString "hi")],
          steps := n, watch
          running := true, depth := 1 }
        #[rootProxy, utilsProxy] [] m) := by
    refine (perform_drive_hosting hfirst (perform_serve_utils hg rfl)).trans ?_
    rw [hh₁]
    refine (perform_drive_hosting (hkeep.trans (hcall.trans hlog)) (perform_serve_log _ _)).trans ?_
    exact ScriptHost.perform_drive_done hthird
  obtain ⟨x, f', hx', hrest⟩ := hholds
  exact ⟨{ h₂ with result := .undefined }, n, ⟨x, f', hx', hrest⟩,
    perform_runProgram_hosting (y := { realm, adopted := [.proxy 0], steps := used, watch })
    rfl rfl hdrive⟩

/-- A script without a value ends. -/
theorem perform_conclude_undefined (f : Interrupt) : ∃ watch, watch.flag = none ∧
    perform (Runtime.conclude 0 f (.ok (.value .undefined))) (hosting g h y q e m) =
      (.ok { result := .ok .null, console := some y.console }, hosting g h { y with watch }
        q e m) := by
  refine ⟨{ y.watch with flag := none, watcher := none }, rfl, ?_⟩
  have hfinish : perform (Runtime.finish 0 (.ok .null) : M Behaviour Runtime.Execution)
      (hosting g h y q e m) = (.ok { result := .ok .null, console := some y.console },
        hosting g h { y with watch := y.watch.lower } q e m) := rfl
  have hexport (w : World Behaviour) :
      perform (Runtime.exportResult 0 .undefined : M Behaviour Runtime.Exported) w =
        (.ok .null, w) := by
    unfold Runtime.exportResult Runtime.depthBound
    dsimp only
    rw [Runtime.exportValue]
    rfl
  dsimp only [Runtime.conclude, Runtime.takeOut]
  rw [perform_bind_ok hfinish, modifyRuntime, perform_bind_ok (perform_modify _ _), perform_bind,
    perform_cleanly, hexport]
  rfl

/-- So it does as a script of the session's. -/
theorem perform_execute_errand {realm : Realm} {p : Script.ObjId} (hg : Furnished g)
    (he : Equipped realm p h) (used : Nat) :
    ∃ h' left watch, watch.flag = none ∧
      h'.Holds realm.global (.name "secret") (.object h.objects.size) ∧
      perform (execute 0 errand false)
        (hosting g h { realm, adopted := [.proxy 0], steps := used } #[rootProxy] [] m) =
          (.ok { result := .ok .null, console := some [("log", .ofString "hi")] },
            visited g realm h' left watch m) := by
  have hleast : 29 ≤ ScriptHost.leastSteps := by decide
  obtain ⟨h', left, hholds, hran⟩ := perform_runProgram_errand (m := m) host hg he
    (hleast.trans (leastSteps_le_stepLimit {})) used ({} : Watch).start
  obtain ⟨watch, hlowered, hconclude⟩ := perform_conclude_undefined (g := g) (h := h')
    (y := { realm, adopted := [.proxy 1, .proxy 0], console := [("log", .ofString "hi")],
            steps := left
            watch := ({} : Watch).start })
    (q := #[rootProxy, utilsProxy]) (e := []) (m := m) { run := _, cancelled := false }
  refine ⟨h', left, watch, hlowered, hholds, ?_⟩
  have hcaught := perform_caught
    (ScriptHost.runProgram host 0 errandProgram (ScriptHost.stepLimit {}))
    (hosting g h { realm, adopted := [.proxy 0], steps := used, watch := ({} : Watch).start }
    #[rootProxy] [] m)
  rw [hran] at hcaught
  have hflag : (Runtime.begun { realm, adopted := [.proxy 0], steps := used }).watch.flag = none :=
    rfl
  rw [perform_execute terms_hosting]
  unfold Runtime.execute
  rw [perform_bind_ok (perform_get _), hosting_runtime, Bool.not_true, if_neg Bool.false_ne_true,
    modifyRuntime, perform_bind_ok (perform_modify _ _), parse_errand]
  dsimp only
  rw [hosting_modify, perform_bind_ok (perform_get _), hosting_runtime, hflag]
  dsimp only
  rw [if_neg Bool.false_ne_true]
  exact (perform_bind_ok hcaught _).trans hconclude

/-! Native code has a text evaluated, which takes a byte, and asks for a name that is unknown. -/

/-- The program of a quoted text. -/
def quoted : Script.Program := { body := [.expr (.string "x") true] }

/-- The quoted text is a script that can be parsed. -/
theorem parse_quoted : (Bytes.ofString "'x'").toString?.bind Script.parse? = some quoted := by
  have htext : (Bytes.ofString "'x'").toString? = some "'x'" := by decide +kernel
  rw [htext]
  rfl

/-- It has its value in a few steps and leaves the objects alone. -/
theorem run_quoted (realm : Realm) (limit steps : Nat) (h : Heap) (hsteps : 10 ≤ steps) :
    ∃ h' left, h'.objects = h.objects ∧
      Script.run realm limit steps { Script.prepare realm { h with result := .undefined }
        quoted with effort := 0 } (.ofProgram realm quoted 0) =
        (h', left, .done (.value (.string "x"))) := by
  obtain ⟨n, rfl⟩ := Nat.exists_eq_add_of_le' hsteps
  refine ⟨_, _, ?_, rfl⟩
  rfl

/-- At every level a runtime evaluates in the same way. -/
theorem evaluate_script (level : Nat) (scope : Option ObjectRef) (script : Bytes) :
    (hostOps (level + 1) : HostOps Behaviour).evaluate (.script 0) scope script =
      ScriptHost.evaluate (hostOps level) 0 scope script := rfl

/-- At every level a runtime reads properties in the same way. -/
theorem getProperty_script (level : Nat) (o : ObjectRef) (id : Identifier) :
    (hostOps (level + 1) : HostOps Behaviour).getProperty (.script 0) o id =
      ScriptHost.getProperty (hostOps level) 0 o id := rfl

/-- The world after everything the first borrower did. -/
def used (g : Graph Behaviour) (realm : Realm) (h : Heap) (steps : Nat) (watch : Watch) (e : Bytes)
    (m : Metrics) :
    World Behaviour :=
  hosting g h
    { realm, adopted := [.proxy 1, .proxy 0], console := [("log", .ofString "hi")], steps, watch,
      allocated := 1 }
    #[rootProxy, utilsProxy] e m

/-- The quoted text is evaluated to itself, and the string is charged to the
runtime. -/
theorem perform_evaluate_quoted (level : Nat) (realm : Realm) (steps : Nat) {watch : Watch}
    (hflag : watch.flag = none) :
    ∃ h' left, h'.objects = h.objects ∧
      perform ((hostOps (level + 1)).evaluate (.script 0) (some (.proxy 0)) (.ofString "'x'"))
        (visited g realm h steps watch m) =
          (.ok (some (.string (.ofString "x"))), used g realm h' left watch [] m) := by
  have hsteps : 10 ≤ ScriptHost.mostSteps := by decide
  obtain ⟨h', left, hobjects, hrun⟩ :=
    run_quoted realm (ScriptHost.limitOf {}) ScriptHost.mostSteps h hsteps
  refine ⟨{ h' with result := .undefined }, left, hobjects, ?_⟩
  have hran : perform (ScriptHost.runProgram (hostOps level) 0 quoted ScriptHost.mostSteps)
      (visited g realm h steps watch m) =
      (.ok (.value (.string "x")), visited g realm { h' with result := .undefined } left watch m) :=
    perform_runProgram_hosting
      (y := { realm, adopted := [.proxy 1, .proxy 0], console := [("log", .ofString "hi")],
              steps, watch })
      rfl rfl (ScriptHost.perform_drive_done hrun)
  have hcaught := perform_caught (ScriptHost.runProgram (hostOps level) 0 quoted
    ScriptHost.mostSteps) (visited g realm h steps watch m)
  rw [hran] at hcaught
  rw [evaluate_script]
  unfold ScriptHost.evaluate
  rw [perform_bind_ok (perform_get _), visited, hosting_runtime]
  dsimp only
  rw [hflag, parse_quoted]
  dsimp only
  rw [if_neg (by simp)]
  exact (perform_bind_ok hcaught _).trans rfl

/-- The root has no such property, and says so. -/
theorem perform_getProperty_unknown (level : Nat) (hg : Furnished g) (realm : Realm) (steps : Nat)
    (watch : Watch) :
    perform ((hostOps (level + 1)).getProperty (.script 0) (.proxy 0) (.name (.ofString "nothing")))
      (used g realm h steps watch e m) =
        (.ok none, used g realm h steps watch Failure.unknownProperty.describe m) := by
  have hnode : perform (Node.getProperty (hostOps level) rootProxy.context 0 (.ofString "nothing"))
      (used g realm h steps watch e m) =
      (.ok (.error .unknownProperty), used g realm h steps watch e m) := by
    rw [Node.getProperty, perform_bind_ok (perform_get _), used, hosting_graph, hg.unknown]
    rfl
  have hget : perform (rootProxy.getProperty (hostOps level) (.string (.ofString "nothing"))
      (some {})) (used g realm h steps watch e m) =
      (.ok (.void, some { pending := some Failure.unknownProperty.exceptionValue }),
        used g realm h steps watch Failure.unknownProperty.describe m) :=
    (Proxy.perform_measured_unprofiled rfl).trans (perform_bind_ok hnode _)
  rw [getProperty_script]
  unfold ScriptHost.getProperty
  rw [perform_bind_ok (perform_get _)]
  exact (perform_bind_ok hget _).trans rfl

end

/-! The session is given back after all this, and lent again. -/

/-- The builtin registry is still. -/
theorem still_lounge : (lounge.registries.getD furnished.registry {}).Still :=
  Behaviour.still fun _ _ => rfl

/-- The session can be left after it was used so, and the pools stay. -/
theorem exists_vacate_used (g : Graph Behaviour) (realm : Realm) (h : Heap) (steps : Nat)
    (watch : Watch) (e : Bytes) (m : Metrics) :
    ∃ v, perform (vacate 0) (used g realm h steps watch e m) = (.ok (), v) ∧
      v.pools = lounge.pools := by
  obtain ⟨w, hw⟩ : ∃ w : World Behaviour, w = { used g realm h steps watch e m with
    sessions := #[{ plugin := furnished, runtime := 0 }]
    instances :=
      #[{ plugin := furnished, root := 0, host := .script 0, destroyed := true, lastError := e }]
    proxies := #[{ rootProxy with refs := { refs := 1 } }, utilsProxy] } := ⟨_, rfl⟩
  have hdetach : perform (detach 0) (used g realm h steps watch e m) = (.ok (), w) := hw ▸ rfl
  -- The runtime holds the root and the child, each of them once.
  have hadopted : (w.runtime 0).adopted.reverse = [.proxy 0, .proxy 1] := hw ▸ rfl
  have hroot : 1 ≤ w.refs (.proxy 0) := hw ▸ le_rfl
  obtain ⟨m₁, hfirst⟩ := perform_release_eq hroot
  obtain ⟨w₁, hw₁⟩ : ∃ w₁, w₁ = { w.recount (.proxy 0) (-1) with metrics := m₁ } := ⟨_, rfl⟩
  have hchild : 1 ≤ w₁.refs (.proxy 1) := by
    rw [hw₁, hw]
    exact le_rfl
  obtain ⟨m₂, hsecond⟩ := perform_release_eq hchild
  obtain ⟨w₂, hw₂⟩ : ∃ w₂, w₂ = { w₁.recount (.proxy 1) (-1) with metrics := m₂ } := ⟨_, rfl⟩
  rw [← hw₁] at hfirst
  rw [← hw₂] at hsecond
  have hrelease : perform (Runtime.releaseAdopted 0) w =
      (.ok (), { w₂ with runtimes := w₂.runtimes.modify 0 fun y => { y with adopted := [] } }) := by
    unfold Runtime.releaseAdopted
    rw [perform_bind_ok (perform_get _), hadopted]
    unfold Runtime.releaseObjects Runtime.releaseObjects Runtime.releaseObjects
    rw [bind_assoc, perform_bind_ok hfirst, bind_assoc, perform_bind_ok hsecond, pure_bind]
    exact perform_modify _ _
  refine ⟨_, (perform_bind_ok (perform_get? 0 _) _).trans
    ((perform_bind_ok hdetach _).trans hrelease), ?_⟩
  rw [hw₂, hw₁, hw]
  rfl

/-- The session can be reset after it was used so, and the pools stay. -/
theorem exists_reset_used (g : Graph Behaviour) (realm : Realm) (h : Heap) (steps : Nat)
    (watch : Watch) (e : Bytes) (m : Metrics) {B : World Behaviour}
    (hmade : perform (new furnished {}) { registries := lounge.registries } = (.ok (.ok 0), B)) :
    ∃ u, perform (reset 0) (used g realm h steps watch e m) = (.ok (.ok ()), u) ∧
      u.pools = lounge.pools := by
  have hx : (used g realm h steps watch e m).sessions[0]? =
      some { plugin := furnished, runtime := 0, inst := some 0 } := rfl
  obtain ⟨y, hy, hconfig⟩ : ∃ y : Runtime, (used g realm h steps watch e m).runtimes[0]? = some y ∧
      y.config = {} :=
    ⟨_, rfl, rfl⟩
  obtain ⟨v, hvacate, hpools⟩ := exists_vacate_used g realm h steps watch e m
  obtain ⟨u, hreset⟩ := (exists_reset_iff (w := used g realm h steps watch e m)
    still_lounge hx hy).mpr ⟨⟨v, hvacate⟩, B, hconfig ▸ hmade⟩
  refine ⟨u, hreset, ?_⟩
  rw [perform_reset hx hy, perform_bind_ok hvacate] at hreset
  obtain ⟨hsession, hruntime, _⟩ := premises_vacate hx hy hvacate
  obtain ⟨hs, _⟩ := Array.getElem?_eq_some_iff.mp hsession
  obtain ⟨hr, _⟩ := Array.getElem?_eq_some_iff.mp hruntime
  obtain ⟨_, _, _, _, _, _, _, rfl⟩ :=
    parts_of_establish (x := { plugin := furnished, runtime := 0 }) hs.le hr.le hreset
  exact hpools

/-- So the pool takes it back, and lends it again. -/
theorem exists_lent_used (g : Graph Behaviour) (realm : Realm) (h : Heap) (steps : Nat)
    (watch : Watch) (e : Bytes) (m : Metrics) {B : World Behaviour}
    (hmade : perform (new furnished {}) { registries := lounge.registries } = (.ok (.ok 0), B)) :
    ∃ w' u, perform (Pool.release 0 0) (used g realm h steps watch e m) = (.ok (.ok ()), w') ∧
      perform (Pool.acquire 0 false) w' = (.ok (.ok 0), u) := by
  obtain ⟨v, hreset, hpools⟩ := exists_reset_used g realm h steps watch e m hmade
  obtain ⟨w', hw'⟩ : ∃ w' : World Behaviour, w' = { v with
    pools := v.pools.modify 0 fun x => { x with idle := x.idle ++ [0] } } := ⟨_, rfl⟩
  have hcount : perform (Pool.countUse (lounge.pools.getD 0 default) (-1))
      (used g realm h steps watch e m) = (.ok (), used g realm h steps watch e m) := rfl
  have hrelease : perform (Pool.release 0 0) (used g realm h steps watch e m) =
      (.ok (.ok ()), w') := by
    unfold Pool.release
    rw [Pool.pool, bind_assoc, perform_bind_ok (perform_get _), pure_bind]
    refine (perform_bind_ok hcount _).trans ((perform_bind_ok hreset _).trans ?_)
    rw [hw']
    rfl
  have hidle : w'.pools = #[{ plugin := furnished, config := {}, size := 1, idle := [0] }] := by
    rw [hw', hpools]
    rfl
  have hlent : ∃ u, perform (Pool.acquire 0 false) w' = (.ok (.ok 0), u) := by
    unfold Pool.acquire
    rw [Pool.pool, bind_assoc, perform_bind_ok (perform_get w'), pure_bind, hidle]
    exact ⟨_, rfl⟩
  obtain ⟨u, hlent⟩ := hlent
  exact ⟨w', u, hrelease, hlent⟩

/-- Somebody leaves a global, a line on the console, a reference, a byte and a
last error, and gives the session back. The next one, to whom the pool lends
it, would read the global and the last error, and has the session as new. -/
theorem furnished_as_new : ∃ (B w₁ w₂ w₃ w₄ w' u : World Behaviour) (y : Runtime),
    perform (new furnished {}) { registries := lounge.registries } = (.ok (.ok 0), B) ∧
      perform (new furnished {}) lounge = (.ok (.ok 0), w₁) ∧
      w₂ = (perform (execute 0 errand false) w₁).2 ∧
      w₃ = (perform (host.evaluate (.script 0) (some (.proxy 0)) (.ofString "'x'")) w₂).2 ∧
      w₄ = (perform (host.getProperty (.script 0) (.proxy 0) (.name (.ofString "nothing"))) w₃).2 ∧
      w₄.runtimes[0]? = some y ∧ (w₄.heap.own? y.realm.global (.name "secret")).isSome = true ∧
      y.console = [("log", .ofString "hi")] ∧ y.adopted = [.proxy 1, .proxy 0] ∧ y.allocated = 1 ∧
      w₄.instances.toList.map Instance.lastError = [Failure.unknownProperty.describe] ∧
      perform (Pool.release 0 0) w₄ = (.ok (.ok ()), w') ∧ LikeNew B 0 w' ∧
      perform (Pool.acquire 0 false) w' = (.ok (.ok 0), u) ∧
      List.Forall₂ Retold (results 0 [("typeof secret", false), ("plugin.lastError", false)] B)
        (results 0 [("typeof secret", false), ("plugin.lastError", false)] u) := by
  obtain ⟨g, hassemble, hg⟩ := exists_assemble_furnished
  obtain ⟨heap, spent, hbound, o, hequipped⟩ := exists_equipped
  obtain ⟨metrics, hestablish⟩ :=
    establish_of_parts (w := lounge) (s := 0) (x := { plugin := furnished, runtime := 0 })
    le_rfl le_rfl hassemble hbound
  rw [established_furnished] at hestablish
  generalize (({} : Heap).newRealm 0 true).2 = realm at hequipped hestablish
  obtain ⟨w₁, hw₁⟩ : ∃ w₁, w₁ =
      hosting g heap { realm, adopted := [.proxy 0], steps := ScriptHost.mostSteps - spent }
      #[rootProxy] [] metrics := ⟨_, rfl⟩
  rw [← hw₁] at hestablish
  have hnew : perform (new furnished {}) lounge = (.ok (.ok 0), w₁) := new_iff.mpr ⟨rfl, hestablish⟩
  obtain ⟨B, hmade, _, hlike⟩ :=
    reset_as_new (fun _ _ _ => Behaviour.nativeObeys) Behaviour.portable still_lounge hnew
  -- The three things the first borrower does.
  obtain ⟨heap', left, watch, hflag, hsecret, hscript⟩ :=
    perform_execute_errand (m := metrics) hg hequipped (ScriptHost.mostSteps - spent)
  rw [← hw₁] at hscript
  obtain ⟨h, steps, hobjects, hevaluate⟩ :=
    perform_evaluate_quoted (g := g) (m := metrics) (nesting - 1) realm left hflag (h := heap')
  have hproperty := perform_getProperty_unknown (e := []) (m := metrics) (h := h) (nesting - 1) hg
      realm steps watch
  have hhost : (host : HostOps Behaviour) = hostOps (nesting - 1 + 1) := rfl
  rw [← hhost] at hevaluate hproperty
  obtain ⟨w₂, hw₂⟩ : ∃ w₂, w₂ = visited g realm heap' left watch metrics := ⟨_, rfl⟩
  obtain ⟨w₃, hw₃⟩ : ∃ w₃, w₃ = used g realm h steps watch [] metrics := ⟨_, rfl⟩
  obtain ⟨w₄, hw₄⟩ : ∃ w₄, w₄ = used g realm h steps watch Failure.unknownProperty.describe
      metrics := ⟨_, rfl⟩
  rw [← hw₂] at hscript hevaluate
  rw [← hw₃] at hevaluate hproperty
  rw [← hw₄] at hproperty
  have hafter₂ : w₂ = (perform (execute 0 errand false) w₁).2 := (congrArg Prod.snd hscript).symm
  have hafter₃ : w₃ = (perform (host.evaluate (.script 0) (some (.proxy 0)) (.ofString "'x'"))
      w₂).2 :=
    (congrArg Prod.snd hevaluate).symm
  have hafter₄ : w₄ = (perform
      (host.getProperty (.script 0) (.proxy 0) (.name (.ofString "nothing"))) w₃).2 :=
    (congrArg Prod.snd hproperty).symm
  have hhistory : Relation.ReflTransGen (Step 0 0) w₁ w₄ := by
    have hfirst : Step 0 0 w₁ w₂ := hafter₂ ▸ .script w₁ errand false
    have hsecond : Step 0 0 w₂ w₃ := hafter₃ ▸ .evaluate w₂ (some (.proxy 0)) (.ofString "'x'")
    have hthird : Step 0 0 w₃ w₄ :=
      hafter₄ ▸ .getProperty w₃ (.proxy 0) (.name (.ofString "nothing"))
    exact .tail (.tail (.single hfirst) hsecond) hthird
  have hruntime : w₄.runtimes[0]? = some
      { realm, adopted := [.proxy 1, .proxy 0], console := [("log", .ofString "hi")], steps, watch,
        allocated := 1 } :=
    congrArg (·.runtimes[0]?) hw₄
  have hown : (w₄.heap.own? realm.global (.name "secret")).isSome = true := by
    obtain ⟨f, hfound, _⟩ := hsecret.exists_own?
    unfold Heap.own? Heap.obj at hfound ⊢
    rw [hw₄, used, hosting_heap, hobjects, hfound]
    rfl
  have hpool : w₄.pools = lounge.pools := hw₄ ▸ rfl
  obtain ⟨w', u, hrelease, hlent⟩ :=
    exists_lent_used g realm h steps watch Failure.unknownProperty.describe metrics hmade
  rw [← hw₄] at hrelease
  have hnewAgain := (hlike w₄ hhistory (hw₄ ▸ rfl)).2 0 w' (by rw [hpool]; rfl)
    (by rw [hpool]; exact Nat.one_pos) hrelease
  exact ⟨B, w₁, w₂, w₃, w₄, w', u, _, hmade, hnew, hafter₂, hafter₃, hafter₄, hruntime, hown,
    rfl, rfl, rfl, hw₄ ▸ rfl, hrelease, hnewAgain, hlent, hnewAgain.lent id hlent _⟩

end Session

end ObjectBridge

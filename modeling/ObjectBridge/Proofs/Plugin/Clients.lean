import ObjectBridge.Builtin.Behaviour
import ObjectBridge.Proofs.Plugin.Making
import ObjectBridge.Proofs.Plugin.Pool

/-!
# `ObjectBridge.Proofs.Plugin.Clients`: no session is lost

Clients borrow the sessions of a pool, run scripts on them and give them
back, and somebody may close the pool at any time. A `Run` is any sequence
of such steps by any number of clients. Operations on the pool return; a
script may end in any way. A client gives back what it has, and what it has
given back it no longer has: the `Log` says who has what.

Each step keeps the pool in order (`Kept.step`), so a run does (`Kept.run`).
`Run.safe` says what that means to those who use the pool: nobody shares a
session, whoever asks gets an answer, there is always room for a session
that comes back, and once the pool was closed and everything was given back
every session was closed, once, and nothing of the pool is published any
more. It is said of every pool that was asked for, also of one that could
not be made: that one was closed before anybody could use it.
-/

set_option autoImplicit false

namespace ObjectBridge

variable {β : Type} {w w' w₀ : World β} {base : Roster} {p r s n client : Nat} {x : Pool}

namespace World

/-- The session has an instance in an open runtime, and was never closed. -/
def Works (w : World β) (s : Nat) : Prop :=
  ∃ x i y, w.sessions[s]? = some x ∧ x.closings = 0 ∧ x.inst = some i ∧ w.instances[i]? = some y ∧
    y.destroyed = false ∧ (w.runtime x.runtime).isOpen = true

/-- The session was closed `n` times. It has no instance, and its runtime is
closed. -/
def Closed (w : World β) (s n : Nat) : Prop :=
  ∃ x, w.sessions[s]? = some x ∧ x.closings = n ∧ x.inst = none ∧
    (w.runtime x.runtime).isOpen = false

/-- A session on duty works. -/
theorem works_of_onDuty {plugin : Plugin} (h : w.roster.OnDuty plugin s r 0) : w.Works s := by
  obtain ⟨i, y, hsession, hinst, _, _, hactive, hopen⟩ := h
  rw [roster_getElem?_instances] at hinst
  rw [roster_getElem?_isOpen] at hopen
  obtain ⟨z, hz, rfl⟩ := Option.map_eq_some_iff.mp hinst
  exact ⟨_, i, z, hsession, rfl, rfl, hz, hactive, isOpen_runtime hopen⟩

/-- A vacant session whose runtime is closed is closed. -/
theorem closed_of_vacant {plugin : Plugin} (h : w.roster.Vacant plugin s r n false) :
    w.Closed s n :=
  ⟨_, h.1, rfl, rfl, isOpen_runtime (w.roster_getElem?_isOpen r ▸ h.2)⟩

end World

namespace Pool

/-! ### Steps -/

/-- What is known of the clients of a pool. -/
structure Log where
  /-- The sessions that are lent, each with the client that has it. -/
  held : List (Nat × Nat) := []
  /-- Was the pool closed? -/
  closed : Bool
  /-- Was every session that came back to the open pool reset, or else
  replaced? -/
  mended : Prop := True

variable {log log' log₀ : Log}

/-- The sessions that are lent. -/
def Log.sessions (log : Log) : List Nat := log.held.map Prod.snd

/-- A session that somebody holds is among those that are held. -/
theorem Log.mem_sessions (h : (client, s) ∈ log.held) : s ∈ log.sessions :=
  List.mem_map.mpr ⟨_, h, rfl⟩

/-- Without what one client has given back, the other sessions are left. -/
theorem Log.perm_erase (h : (client, s) ∈ log.held) :
    (log.sessions.erase s).Perm ((log.held.erase (client, s)).map Prod.snd) := by
  have hheld : log.sessions.Perm (s :: (log.held.erase (client, s)).map Prod.snd) :=
    (List.perm_cons_erase h).map Prod.snd
  have hsession := List.perm_cons_erase (Log.mem_sessions h)
  exact (hsession.symm.trans hheld).cons_inv

section

variable [Native β]

/-- One step of the clients of a pool. -/
inductive Step (p : Nat) : World β → Log → World β → Log → Prop
  /-- A client is given a session. -/
  | lend {w w' : World β} {log : Log} {s : Nat} (client : Nat) (cancelled : Bool)
      (h : perform (acquire p cancelled) w = (.ok (.ok s), w')) :
      Step p w log w' { log with held := (client, s) :: log.held }
  /-- A client is given none. -/
  | refuse {w w' : World β} {log : Log} {e : AcquireError} (cancelled : Bool)
      (h : perform (acquire p cancelled) w = (.ok (.error e), w')) : Step p w log w' log
  /-- A client runs a script on its session, and it ends in any way. -/
  | script {w : World β} {log : Log} {client s : Nat} (text : String) (cancelled : Bool)
      (hheld : (client, s) ∈ log.held) :
      Step p w log (perform (Session.execute s text cancelled) w).2 log
  /-- A client gives its session back. -/
  | giveBack {w w' : World β} {log : Log} {client s : Nat} {r : Except SessionError Unit}
      (hheld : (client, s) ∈ log.held) (h : perform (release p s) w = (.ok r, w')) :
      Step p w log w' { log with
        held := log.held.erase (client, s), mended :=
          log.mended ∧ (log.closed = false → Mends p s w) }
  /-- A script is run on a session that is lent for this purpose only. -/
  | execute {w : World β} {log : Log} {text : String} {cancelled : Bool}
    (h : GivesBack p text cancelled w) :
      Step p w log (perform (Pool.execute p text cancelled) w).2 { log with
        mended := log.mended ∧ (log.closed = false → MendsAfter p text cancelled w) }
  /-- The pool is closed. -/
  | shut {w w' : World β} {log : Log} (h : perform (close p) w = (.ok (), w')) :
      Step p w log w' { log with closed := true }
  /-- Something happens that is no affair of pools. Also, a client gives up
  although a session is ready. -/
  | elsewhere {w w' : World β} {log : Log} (h : w'.roster = w.roster) : Step p w log w' log

/-- Steps one after the other. -/
inductive Run (p : Nat) (w₀ : World β) (log₀ : Log) : World β → Log → Prop
  | start : Run p w₀ log₀ w₀ log₀
  | next {w w' : World β} {log log' : Log} (run : Run p w₀ log₀ w log)
    (step : Step p w log w' log') :
      Run p w₀ log₀ w' log'

end

/-- The pool and the log agree. -/
structure Kept (base : Roster) (p n : Nat) (log : Log) (x : Pool) (R : Roster) : Prop
    extends InOrder base p log.sessions x R where
  size_eq : x.size = n
  closed_eq : x.closed = log.closed
  full : log.mended → x.closed = false → x.idle.length + log.sessions.length = x.size

variable [Native β] (hu : Undisturbed (World.roster (β := β)))

include hu

/-- A step keeps the pool in order. -/
theorem Kept.step (h : Kept base p n log x w.roster) (step : Step p w log w' log') :
    ∃ x', Kept base p n log' x' w'.roster := by
  cases step with
  | lend client cancelled hrun =>
    obtain ⟨rest, hidle, horder⟩ := h.toInOrder.lent hrun
    refine ⟨{ x with idle := rest }, horder, h.size_eq, h.closed_eq, fun hmended hopen => ?_⟩
    have hfull := h.full hmended hopen
    rw [hidle, List.length_cons] at hfull
    show rest.length + (log.sessions.length + 1) = x.size
    omega
  | refuse cancelled hrun =>
    obtain rfl := h.toInOrder.refused hrun
    exact ⟨x, h⟩
  | script text cancelled hheld =>
    rw [Session.leaves_execute hu _ text cancelled w]
    exact ⟨x, h⟩
  | @giveBack _ _ client s r hheld hrun =>
    have hmem := Log.mem_sessions hheld
    have hperm := Log.perm_erase hheld
    obtain ⟨x', h', hclosed, hsize, _, hmends, _⟩ := release_spec hu h.toInOrder hmem hrun
    refine ⟨x', h'.perm hperm, hsize.trans h.size_eq, hclosed.trans h.closed_eq, ?_⟩
    rintro ⟨hmended, hready⟩ hopen
    rw [hclosed] at hopen
    -- One session less is lent, one more is ready.
    have hfull := h.full hmended hopen
    obtain ⟨hidle, _⟩ | ⟨_, hlost⟩ := hmends hopen
    case inr => exact absurd (hready (h.closed_eq.symm.trans hopen)) hlost
    have hheld' : (log.held.erase (client, s)).length + 1 = log.sessions.length := by
      rw [← hperm.length_eq.trans (List.length_map _), List.length_erase_of_mem hmem]
      have := List.length_pos_of_mem hmem
      omega
    show x'.idle.length + ((log.held.erase (client, s)).map Prod.snd).length = x'.size
    rw [List.length_map]
    omega
  | execute hback =>
    obtain ⟨x', h', hclosed, hsize, _, hmends⟩ := execute_spec hu h.toInOrder hback rfl
    refine ⟨x', h', hsize.trans h.size_eq, hclosed.trans h.closed_eq, ?_⟩
    rintro ⟨hmended, hready⟩ hopen
    rw [hclosed] at hopen
    obtain ⟨hidle, _⟩ | ⟨_, hlost⟩ := hmends hopen
    case inr => exact absurd (hready (h.closed_eq.symm.trans hopen)) hlost
    rw [hidle, hsize]
    exact h.full hmended hopen
  | shut hrun =>
    obtain ⟨x', h', hclosed, _, hsize⟩ := close_spec h.toInOrder hrun
    refine ⟨x', h', hsize.trans h.size_eq, hclosed, fun _ hopen => ?_⟩
    rw [hclosed] at hopen
    cases hopen
  | elsewhere hroster =>
    rw [hroster]
    exact ⟨x, h⟩

/-- A run keeps the pool in order. -/
theorem Kept.run (h : Kept base p n log₀ x w₀.roster) (run : Run p w₀ log₀ w log) :
    ∃ x', Kept base p n log x' w.roster := by
  induction run with
  | start => exact ⟨x, h⟩
  | next _ step ih =>
    obtain ⟨x', h'⟩ := ih
    exact h'.step hu step

/-! ### Safety -/

omit hu in
/-- What those who use a pool can rely on. The pool was made in the world
`w`, is `x` now, and the world is `w'`. -/
structure Safe (w : World β) (p : Nat) (x : Pool) (log : Log) (w' : World β) : Prop where
  /-- No session is with two clients, or with a client and ready. -/
  once : (x.idle ++ log.sessions).Nodup
  /-- These are the sessions that work. -/
  works : ∀ s ∈ x.idle ++ log.sessions, s ∈ x.made ∧ w'.Works s
  /-- No other session there has been since works: it was closed if it was
  made for the pool, and otherwise it could not be made. -/
  retired : ∀ s, w.sessions.size ≤ s → s < w'.sessions.size → s ∉ x.idle ++ log.sessions →
    w'.Closed s (if s ∈ x.made then 1 else 0)
  /-- Whoever asks gets a session that was ready, or an error, which after
  the pool was closed is always the same. -/
  answers : ∀ cancelled, ∃ res w'', perform (acquire p cancelled) w' = (.ok res, w'') ∧
    (res = .error .closed ↔ log.closed = true) ∧ ∀ s, res = .ok s → s ∈ x.idle
  /-- While the pool is open, whoever asks and does not give up gets the
  session that has been ready for longest, if one is ready. -/
  lends : log.closed = false → ∀ s rest, x.idle = s :: rest →
    ∃ w'', perform (acquire p false) w' = (.ok (.ok s), w'')
  /-- There is room for all sessions that are lent. -/
  room : x.idle.length + log.sessions.length ≤ x.size
  /-- There is no room for more, unless a session was lost that could not be
  replaced. -/
  full : log.mended → log.closed = false → x.idle.length + log.sessions.length = x.size
  /-- A session that was reset is ready again, and not closed for want of
  room. -/
  ready : ∀ s ∈ log.sessions, log.closed = false → ∀ w'',
    perform (release p s) w' = (.ok (.ok ()), w'') → (w''.pools.getD p default).idle = x.idle ++ [s]
  /-- Nothing is left of a pool that was closed when everything has been
  given back. -/
  settled : log.closed = true → log.held = [] → (∀ s ∈ x.made, w'.Closed s 1) ∧
    (∀ s, w.sessions.size ≤ s → s < w'.sessions.size → s ∉ x.made → w'.Closed s 0) ∧
    w'.metrics.instancesActive = w.metrics.instancesActive ∧
    w'.metrics.snapshot.activeInstances = w.metrics.snapshot.activeInstances ∧
    w'.metrics.poolInUse = w.metrics.poolInUse

/-- The pool is safe as long as its roster is kept. -/
theorem Safe.of_kept (h : Kept w.roster p n log x w'.roster) : Safe w p x log w' := by
  have hretired : ∀ s, w.sessions.size ≤ s → s < w'.sessions.size → s ∉ x.idle ++ log.sessions →
      w'.Closed s (if s ∈ x.made then 1 else 0) :=
    fun s hfirst hlt hoff => World.closed_of_vacant (h.crew.retired s ⟨hfirst, hlt⟩ hoff)
  refine ⟨h.crew.nodup, fun s hs =>
    ⟨h.crew.owned s hs, World.works_of_onDuty (h.crew.working s hs)⟩, hretired,
    fun cancelled => ?_, fun hopen s rest hidle => ?_, h.fits,
    fun hmended hopen => h.full hmended (h.closed_eq.trans hopen),
    fun s hs hopen w'' hrun => ?_, fun hclosed hheld => ?_⟩
  · obtain ⟨res, w'', hacquire, hres⟩ := acquire_spec h.toInOrder cancelled
    refine ⟨res, w'', hacquire, ?_⟩
    rw [← h.closed_eq]
    obtain ⟨hclosed, rfl, _⟩ | ⟨hopen, _, rfl, _⟩ | ⟨hopen, s, rest, hidle, rfl, _⟩ := hres
    · simp [hclosed]
    · cases cancelled <;> simp [hopen]
    · simp [hopen, hidle]
  · obtain ⟨res, w'', hacquire, hres⟩ := acquire_spec h.toInOrder false
    obtain ⟨hclosed, _⟩ | ⟨_, hnone, _⟩ | ⟨_, s', rest', hidle', rfl, _⟩ := hres
    · cases hclosed.symm.trans (h.closed_eq.trans hopen)
    · cases hnone.symm.trans hidle
    · cases hidle.symm.trans hidle'
      exact ⟨w'', hacquire⟩
  · obtain ⟨x', h', _, _, _, _, hready⟩ := release_spec hu h.toInOrder hs hrun
    rw [getD_of_there h'.there]
    exact hready (h.closed_eq.trans hopen) rfl
  -- Nothing is idle in a closed pool and nothing is lent, so everybody is off duty.
  · have hidle : x.idle = [] := h.emptied (h.closed_eq.trans hclosed)
    have hsessions : log.sessions = [] := by rw [Log.sessions, hheld, List.map_nil]
    have hactive : w'.roster.active = w.roster.active := by simpa [hidle, hsessions] using h.active
    have hpublished : w'.roster.published = w.roster.published := by
      simpa [hidle, hsessions] using h.published
    have hinUse : w'.roster.inUse = w.roster.inUse := by simpa [hsessions] using h.inUse
    have hoff (s : Nat) : s ∉ x.idle ++ log.sessions := by
      rw [hidle, hsessions]
      exact List.not_mem_nil
    refine ⟨fun s hs => ?_, fun s hfirst hlt hs => ?_, hactive, hpublished, hinUse⟩
    · obtain ⟨hfirst, hlt⟩ := h.crew.since s hs
      have hclosed := hretired s hfirst hlt (hoff s)
      rwa [if_pos hs] at hclosed
    · have hclosed := hretired s hfirst hlt (hoff s)
      rwa [if_neg hs] at hclosed

omit hu

/-- Whatever clients do with a pool, it is safe, as long as native code
leaves instances and sessions alone when the host it asks does. -/
theorem Run.safe (hn : ∀ ops : HostOps β, ops.Leave World.roster → NativeLeaves World.roster ops)
    {plugin : Plugin} {config : RuntimeConfig} {size : Int} {made : Except SessionError Nat}
    (hnew : perform (new plugin config size) w = (.ok made, w₀))
    (run : Run w.pools.size w₀ { closed := !made.isOk } w' log) :
    (∀ q, made = .ok q → q = w.pools.size) ∧
      ∃ x, w'.pools[w.pools.size]? = some x ∧ x.size = sizeOf size ∧
      Safe w w.pools.size x log w' := by
  have hu : Undisturbed (World.roster (β := β)) := undisturbed_roster hn
  obtain ⟨x₀, h₀, hsize, _, hmade, hfailed⟩ := new_spec hu hnew
  have hstart : Kept w.roster w.pools.size (sizeOf size) { closed := !made.isOk } x₀ w₀.roster := by
    cases made with
    | ok q =>
      obtain ⟨_, hopen, hfull⟩ := hmade q rfl
      exact ⟨h₀, hsize, hopen, fun _ _ => hfull⟩
    | error e =>
      have hclosed : x₀.closed = true := hfailed e rfl
      refine ⟨h₀, hsize, hclosed, fun _ hopen => ?_⟩
      rw [hclosed] at hopen
      cases hopen
  obtain ⟨x, hkept⟩ := hstart.run hu run
  exact ⟨fun q hq => (hmade q hq).1, x, hkept.there, hkept.size_eq, Safe.of_kept hu hkept⟩

/-! ### A pool with one session -/

/-- A world with a plugin registry in which nothing is registered. -/
def lobby : World Behaviour := { registries := #[{}] }

/-- A plugin without properties, whose instances are counted. -/
def loner :
    Plugin := { manifest := { name := .ofString "loner" }, registry := 0, options := {},
                metered := true }

/-- One client borrows the session, another one gets none, and the pool is
closed before the session comes back. -/
def visit : M Behaviour (Nat × AcquireError) := do
  match ← new loner { console := false } 1 with
  | .error _ => throw .fault
  | .ok p =>
    match ← acquire p false with
    | .error _ => throw .fault
    | .ok s =>
      match ← acquire p false with
      | .ok _ => throw .fault
      | .error e =>
        close p
        let _ ← release p s
        return (s, e)

/-- The world with registries and a pool of one session, which is ready. -/
def readied (registries : Array (Registry Behaviour)) (plugin : Plugin) (graph : Graph Behaviour)
    (root : NodeId) (heap : Script.Heap) (used : Nat) (metrics : Metrics) : World Behaviour :=
  { Session.established { registries } 0 { plugin, runtime := 0 } { console := false } graph root
    heap used metrics with
    pools := #[{ plugin, config := { console := false }, size := 1, idle := [0], made := [0] }] }

/-- A pool of one session is made when the session can be. What is in the
heap then does not matter to the pool, so it is not worked out. -/
theorem exists_readied (registries : Array (Registry Behaviour)) {plugin : Plugin}
    {graph : Graph Behaviour} {root : NodeId}
    (hassemble : Graph.assemble (registries.getD plugin.registry {}) plugin.manifest {} =
      .ok (graph, root))
    (hname : Script.Key.ofString plugin.options.global ∉ Script.Heap.constants) :
    ∃ heap used metrics, perform (new plugin { console := false } 1) { registries } =
      (.ok (.ok 0), readied registries plugin graph root heap used metrics) := by
  let x : Pool := { plugin, config := { console := false }, size := 1 }
  obtain ⟨heap, used, metrics, hnew⟩ := Session.exists_new (w := { registries, pools := #[x] })
    { console := false } hassemble hname (.empty _)
  have hfill : perform (fill 0 1) { registries, pools := #[x] } =
      (.ok (.ok ()), readied registries plugin graph root heap used metrics) := by
    unfold fill
    rw [perform_bind_ok (perform_pool (x := x) rfl), perform_bind_ok hnew]
    rfl
  refine ⟨heap, used, metrics, ?_⟩
  unfold new
  rw [perform_bind_ok (perform_modifyGet _ _)]
  exact (perform_bind_ok hfill _).trans rfl

/-- The visit goes as it should. -/
theorem perform_visit : ∃ w', perform visit lobby = (.ok (0, .timeout), w') := by
  obtain ⟨graph, root, hassemble⟩ : ∃ graph root,
      Graph.assemble {} loner.manifest ({} : Graph Behaviour) = .ok (graph, root) := ⟨_, _, rfl⟩
  obtain ⟨heap, used, metrics, hnew⟩ := exists_readied #[{}] hassemble (by decide)
  let w₀ := readied #[{}] loner graph root heap used metrics
  let x : Pool := { plugin := loner, config := { console := false }, size := 1, made := [0] }
  let lent : World Behaviour := { w₀ with pools := #[x], metrics := metrics.poolUsed 1 }
  let shut : World Behaviour := { lent with pools := #[{ x with closed := true }] }
  have hlend : perform (acquire 0 false) w₀ = (.ok (.ok 0), lent) := rfl
  have hrefuse : perform (acquire 0 false) lent = (.ok (.error .timeout), lent) := rfl
  have hclose : perform (close 0) lent = (.ok (), shut) := rfl
  obtain ⟨w', hrelease⟩ : ∃ w', perform (release 0 0) shut = (.ok (.ok ()), w') := ⟨_, rfl⟩
  refine ⟨w', ?_⟩
  unfold visit
  rw [lobby, perform_bind_ok hnew]
  dsimp only
  rw [perform_bind_ok hlend]
  dsimp only
  rw [perform_bind_ok hrefuse]
  dsimp only
  rw [perform_bind_ok hclose, perform_bind_ok hrelease, perform_pure]

/-- The session was closed after all, and the books are as they were. -/
theorem visit_safe :
    ∃ (made : Except SessionError Nat) (w₀ w' : World Behaviour) (log : Log) (x : Pool),
    perform (new loner { console := false } 1) lobby = (.ok made, w₀) ∧
      Run lobby.pools.size w₀ { closed := !made.isOk } w' log ∧ log.closed = true ∧ log.held = [] ∧
      Safe lobby lobby.pools.size x log w' ∧ (∀ s ∈ x.made, w'.Closed s 1) ∧
      w'.metrics.instancesActive = 0 ∧ w'.metrics.poolInUse = 0 := by
  have hn : ∀ ops : HostOps Behaviour, ops.Leave World.roster → NativeLeaves World.roster ops :=
    fun _ => Behaviour.nativeObeys
  obtain ⟨w', hvisit⟩ := perform_visit
  -- The steps of the visit, one after the other.
  unfold visit at hvisit
  obtain ⟨made, w₀, hnew, hvisit⟩ := exists_of_perform_bind hvisit
  cases made with
  | error e => cases hvisit
  | ok p =>
    obtain ⟨lent, w₁, hlend, hvisit⟩ := exists_of_perform_bind hvisit
    cases lent with
    | error e => cases hvisit
    | ok s =>
      obtain ⟨refused, w₂, hrefuse, hvisit⟩ := exists_of_perform_bind hvisit
      cases refused with
      | ok t => cases hvisit
      | error e =>
        obtain ⟨_, w₃, hclose, hvisit⟩ := exists_of_perform_bind hvisit
        obtain ⟨r, w₄, hrelease, hvisit⟩ := exists_of_perform_bind hvisit
        cases hvisit
        obtain ⟨hp, _⟩ := Run.safe hn hnew .start
        cases hp p rfl
        have h₀ : Run lobby.pools.size w₀ { closed := false } w₀ { closed := false } := .start
        have h₁ := h₀.next (.lend 1 false hlend)
        have h₂ := h₁.next (.refuse false hrefuse)
        have h₃ := h₂.next (.shut hclose)
        have h₄ := h₃.next (.giveBack List.mem_cons_self hrelease)
        have hheld : [(1, 0)].erase (1, 0) = [] := by decide
        obtain ⟨_, x, _, _, hsafe⟩ := Run.safe hn hnew h₄
        obtain ⟨hclosed, _, hactive, _, hinUse⟩ := hsafe.settled rfl hheld
        exact ⟨_, w₀, w', _, x, hnew, h₄, rfl, hheld, hsafe, hclosed, hactive, hinUse⟩

end Pool

end ObjectBridge

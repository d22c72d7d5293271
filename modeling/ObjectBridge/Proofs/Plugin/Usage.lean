import ObjectBridge.Proofs.Plugin.Clients

/-!
# `ObjectBridge.Proofs.Plugin.Usage`: what a pool says about its use

How many sessions of a pool are in use is said in two places. The gauge that
is published goes up when a session is lent and down when it comes back.
The statistics take the number of sessions that are ready from the size of
the pool.

The gauge is always right. The statistics are right as long as every
session is either ready or lent, and say too much otherwise: a session that
could neither be reset nor replaced stays in use for ever, and so do all
sessions that were ready when the pool was closed. `Run.reports` states
both for every run, with the exact condition. `Counted` is what a step
keeps for it: `Kept` says that a pool in which nothing was lost is full, and
here it is also said that one in which something was lost is not.
-/

set_option autoImplicit false

namespace ObjectBridge.Pool

variable {β : Type} {w w' w₀ : World β} {base R : Roster} {plugin : Plugin} {p s n : Nat}
    {log log' log₀ : Log} {x x' : Pool}

/-- The pool and the log agree, and so they do about what was lost. -/
structure Counted (plugin : Plugin) (base : Roster) (p n : Nat) (log : Log) (x : Pool)
    (R : Roster) : Prop extends Kept base p n log x R where
  plugin_eq : x.plugin = plugin
  short : x.closed = false → ¬log.mended → x.idle.length + log.sessions.length < x.size

/-- There are as many sessions held as entries in the log. -/
theorem Log.length_sessions (log : Log) : log.sessions.length = log.held.length := List.length_map _

/-- What is given back was lent. -/
theorem Log.length_erase {client s : Nat} (h : (client, s) ∈ log.held) :
    (log.held.erase (client, s)).length + 1 = log.held.length := by
  rw [List.length_erase_of_mem h]
  have := List.length_pos_of_mem h
  omega

section

variable [Native β] (hu : Undisturbed (World.roster (β := β)))

include hu

/-- A step does not make up for what was lost before. -/
theorem Counted.step (h : Counted plugin base p n log x w.roster) (step : Step p w log w' log') :
    ∃ x', Counted plugin base p n log' x' w'.roster := by
  obtain ⟨x', h'⟩ := h.toKept.step hu step
  -- There is one pool of the number, whichever lemma speaks of it.
  have hthere {y : Pool} (hy : w'.roster.pools[p]? = some y) : x' = y :=
    Option.some.inj (h'.there.symm.trans hy)
  suffices hrest : x'.plugin = x.plugin ∧
      (x'.closed = false → ¬log'.mended → x'.idle.length + log'.held.length < x'.size) by
    obtain ⟨hplugin, hshort⟩ := hrest
    refine ⟨x', h', hplugin.trans h.plugin_eq, ?_⟩
    rw [Log.length_sessions]
    exact hshort
  have hfits := h.fits
  have hshort := h.short
  rw [Log.length_sessions] at hfits hshort
  cases step with
  | lend client cancelled hrun =>
    obtain ⟨rest, hidle, horder⟩ := h.toInOrder.lent hrun
    obtain rfl := hthere horder.there
    refine ⟨rfl, ?_⟩
    intro hopen hlost
    have hless := hshort hopen hlost
    rw [hidle, List.length_cons] at hless
    show rest.length + (log.held.length + 1) < x.size
    omega
  | refuse cancelled hrun =>
    obtain rfl := h.toInOrder.refused hrun
    obtain rfl := hthere h.there
    exact ⟨rfl, hshort⟩
  | @script _ client s text cancelled hheld =>
    rw [Session.leaves_execute hu s text cancelled w] at hthere
    obtain rfl := hthere h.there
    exact ⟨rfl, hshort⟩
  | @giveBack _ _ client s r hheld hrun =>
    obtain ⟨y, hy, hclosed, hsize, hplugin, hmends, _⟩ :=
      release_spec hu h.toInOrder (Log.mem_sessions hheld) hrun
    obtain rfl := hthere hy.there
    refine ⟨hplugin, ?_⟩
    intro hopen hlost
    rw [hclosed] at hopen
    have herase := Log.length_erase hheld
    have hlog : log.closed = false := h.closed_eq.symm.trans hopen
    show x'.idle.length + (log.held.erase (client, s)).length < x'.size
    -- Either this session is lost, or one was before.
    obtain ⟨hidle, hmended⟩ | ⟨hidle, _⟩ := hmends hopen
    · have hbefore : ¬log.mended := fun hmended' => hlost ⟨hmended', fun _ => hmended⟩
      have hless := hshort hopen hbefore
      omega
    · rw [hidle]
      omega
  | execute hback =>
    obtain ⟨y, hy, hclosed, hsize, hplugin, hmends⟩ := execute_spec hu h.toInOrder hback rfl
    obtain rfl := hthere hy.there
    refine ⟨hplugin, ?_⟩
    intro hopen hlost
    rw [hclosed] at hopen
    show x'.idle.length + log.held.length < x'.size
    obtain ⟨hidle, hmended⟩ | ⟨hidle, _⟩ := hmends hopen
    · have hbefore : ¬log.mended := fun hmended' => hlost ⟨hmended', fun _ => hmended⟩
      have hless := hshort hopen hbefore
      omega
    · omega
  | shut hrun =>
    obtain ⟨y, hy, hclosed, hplugin, _⟩ := close_spec h.toInOrder hrun
    obtain rfl := hthere hy.there
    refine ⟨hplugin, ?_⟩
    intro hopen
    rw [hclosed] at hopen
    cases hopen
  | elsewhere hroster =>
    obtain rfl := hthere (hroster.symm ▸ h.there)
    exact ⟨rfl, hshort⟩

/-- A run keeps the count. -/
theorem Counted.run (h : Counted plugin base p n log₀ x w₀.roster) (run : Run p w₀ log₀ w log) :
    ∃ x', Counted plugin base p n log x' w.roster := by
  induction run with
  | start => exact ⟨x, h⟩
  | next _ step ih =>
    obtain ⟨x', h'⟩ := ih
    exact h'.step hu step

end

/-- What is said about the use of a pool. The pool was made in the world
`w`, is `x` now, and the world is `w'`. -/
structure Reports (w : World β) (plugin : Plugin) (x : Pool) (log : Log) (w' : World β) : Prop where
  /-- The gauge counts the sessions that are lent, if the plugin is
  metered. -/
  gauge : w'.metrics.poolInUse = w.metrics.poolInUse + log.held.length * plugin.weight
  /-- The statistics count those that are not ready, -/
  inUse : (stats x).inUse = x.size - x.idle.length
  /-- which are at least those that are lent, -/
  atLeast : log.held.length ≤ (stats x).inUse
  /-- and no more if and only if nothing was lost, or, once the pool is
  closed, if all of its sessions are lent. -/
  precise : (stats x).inUse = log.held.length ↔ if log.closed then log.held.length = x.size
  else log.mended

/-- Where the count is kept the gauge reports what it should. -/
theorem Reports.of_counted (h : Counted plugin w.roster p n log x w'.roster) :
    Reports w plugin x log w' := by
  have hready : (stats x).inUse = x.size - x.idle.length := by
    show (x.size : Int) - ((if x.closed then 0 else x.idle.length : Nat) : Int) = _
    cases hclosed : x.closed with
    | false => rfl
    | true =>
      rw [h.emptied hclosed]
      rfl
  have hfits := h.fits
  have hfull := h.full
  have hshort := h.short
  rw [Log.length_sessions] at hfits hfull hshort
  constructor
  case gauge =>
    have hinUse : w'.metrics.poolInUse = w.metrics.poolInUse + (log.sessions.length : Nat) *
        x.plugin.weight := h.inUse
    rw [hinUse, Log.length_sessions, h.plugin_eq]
  case inUse => exact hready
  case atLeast =>
    rw [hready]
    omega
  case precise =>
    rw [hready]
    -- A closed pool keeps nothing idle, so all it has made counts as in use.
    cases hclosed : log.closed with
    | true =>
      have hidle : x.idle = [] := h.emptied (h.closed_eq.trans hclosed)
      rw [hidle, if_pos rfl, List.length_nil]
      omega
    | false =>
      have hopen : x.closed = false := h.closed_eq.trans hclosed
      rw [if_neg Bool.false_ne_true]
      constructor
      · intro hequal
        by_contra hlost
        have hless := hshort hopen hlost
        omega
      · intro hmended
        have hsum := hfull hmended hopen
        omega

/-- Whatever clients do with a pool, the gauge is right, and the statistics
are right as long as every session is ready or lent. -/
theorem Run.reports [Native β]
    (hn : ∀ ops : HostOps β, ops.Leave World.roster → NativeLeaves World.roster ops)
    {config : RuntimeConfig} {size : Int} {made : Except SessionError Nat}
    (hnew : perform (new plugin config size) w = (.ok made, w₀))
    (run : Run w.pools.size w₀ { closed := !made.isOk } w' log) :
    ∃ x, w'.pools[w.pools.size]? = some x ∧ x.size = sizeOf size ∧ Reports w plugin x log w' := by
  have hu : Undisturbed (World.roster (β := β)) := undisturbed_roster hn
  obtain ⟨x₀, h₀, hsize, hplugin, hmade, hfailed⟩ := new_spec hu hnew
  have hstart : Counted plugin w.roster w.pools.size (sizeOf size) { closed := !made.isOk } x₀
      w₀.roster := by
    have hnothing : ¬(({ closed := !made.isOk } : Log).mended) → False := fun hlost => hlost trivial
    cases made with
    | ok q =>
      obtain ⟨_, hopen, hfull⟩ := hmade q rfl
      exact ⟨⟨h₀, hsize, hopen, fun _ _ => hfull⟩, hplugin, fun _ hlost => (hnothing hlost).elim⟩
    | error e =>
      have hclosed : x₀.closed = true := hfailed e rfl
      refine ⟨⟨h₀, hsize, hclosed, fun _ hopen => ?_⟩, hplugin, fun _ hlost =>
        (hnothing hlost).elim⟩
      rw [hclosed] at hopen
      cases hopen
  obtain ⟨x, hcounted⟩ := hstart.run hu run
  exact ⟨x, hcounted.there, hcounted.size_eq, .of_counted hcounted⟩

/-! ### A session that is lost -/

/-- Counting how many are in use leaves the premises. -/
theorem premises_countUse (x : Pool) (n : Int) : Leaves (World.premises (β := β)) (countUse x n) :=
  .modify fun _ => by split <;> rfl

/-- A session is lost when no graph can be assembled for its plugin any
more. It can still give up what it had. -/
theorem exists_lost [Native β] {u v : World β} {z : Session} {y : Runtime}
    (hx : w.roster.pools[p]? = some x) (hopen : x.closed = false) (hz : w.sessions[s]? = some z)
    (hplugin : z.plugin = x.plugin) (hy : w.runtimes[z.runtime]? = some y)
    (hcount : perform (countUse x (-1)) w = (.ok (), u))
    (hvacate : perform (Session.vacate s) u = (.ok (), v)) (hgone : ∀ graph : Graph β, ∃ e,
      graph.assemble (w.registries.getD x.plugin.registry {}) x.plugin.manifest = .error e) :
    ∃ e w', perform (release p s) w = (.ok (.error e), w') ∧ ¬Mends p s w := by
  have hpremises := (premises_countUse x (-1)).eq hcount
  have hsessions : u.sessions = w.sessions := congrArg Prod.fst hpremises
  have hruntimes : u.runtimes = w.runtimes := congrArg (·.2.1) hpremises
  have hregistries : u.registries = w.registries := congrArg (·.2.2) hpremises
  rw [← hsessions] at hz
  rw [← hruntimes] at hy
  obtain ⟨hempty, hruntime, hkept⟩ := Session.premises_vacate hz hy hvacate
  rw [← hregistries, ← hkept] at hgone
  obtain ⟨e, herror⟩ := hgone v.graph
  have hreset := Session.perform_reset_of_error hz hy hvacate (hplugin ▸ herror)
  -- The session that was started anew has nothing to give up when it is closed.
  obtain ⟨w₁, hclose, hleft⟩ :=
    Session.perform_close_vestibule y.config (x := { z with inst := none })
    (Array.getElem?_eq_some_iff.mp hempty).1.le (Array.getElem?_eq_some_iff.mp hruntime).1.le rfl
  obtain ⟨e', herror'⟩ := hgone w₁.graph
  rw [← hleft] at herror'
  obtain ⟨w₂, hnew⟩ := Session.perform_new_of_error x.config herror'
  obtain ⟨hrelease, hlost⟩ := perform_release_of_lost hx hopen hcount hreset hclose hnew
  exact ⟨_, w₂, hrelease, hlost⟩

/-- A world with a class that plugins may ask for. -/
def classroom : World Behaviour :=
  { registries := #[{ classes := .ofList [(.ofString "Lesson", { name := .ofString "Lesson" })] }] }

/-- A plugin whose root is of this class, and whose sessions are counted. -/
def pupil : Plugin where
  manifest := { name := .ofString "pupil", className := .ofString "Lesson" }
  registry := 0
  options := {}
  metered := true

/-- While the only session is lent the class disappears, so that the session
can neither be reset nor replaced. -/
def strand : M Behaviour (Stats × Int) := do
  match ← new pupil { console := false } 1 with
  | .error _ => throw .fault
  | .ok p =>
    match ← acquire p false with
    | .error _ => throw .fault
    | .ok s =>
      modify fun w => { w with registries := #[{}] }
      let _ ← release p s
      return (stats (← pool p), (← get).metrics.poolInUse)

/-- Where nothing is registered no pupil can be made. -/
theorem assemble_pupil (graph : Graph Behaviour) : ∃ e, graph.assemble {} pupil.manifest =
    .error e := ⟨_, rfl⟩

/-- No client has a session any more, and one is in use. -/
theorem perform_strand : ∃ w', perform strand classroom =
    (.ok ({ size := 1, available := 0, inUse := 1, closed := false }, 0), w') := by
  have hu : Undisturbed (World.roster (β := Behaviour)) := undisturbed_roster fun _ =>
    Behaviour.nativeObeys
  obtain ⟨graph, root, hassemble⟩ : ∃ graph root,
      Graph.assemble (classroom.registries.getD 0 {}) pupil.manifest {} = .ok (graph, root) :=
        ⟨_, _, rfl⟩
  obtain ⟨heap, used, metrics, hnew⟩ : ∃ heap used metrics,
      perform (new pupil { console := false } 1) classroom =
      (.ok (.ok 0), readied classroom.registries pupil graph root heap used metrics) :=
    exists_readied classroom.registries hassemble (by decide)
  let w₀ := readied classroom.registries pupil graph root heap used metrics
  let x : Pool := { plugin := pupil, config := { console := false }, size := 1, made := [0] }
  let lent : World Behaviour := { w₀ with pools := #[x], metrics := metrics.poolUsed 1 }
  let gone : World Behaviour := { lent with registries := #[{}] }
  let returned : World Behaviour := { gone with metrics := gone.metrics.poolUsed (-1) }
  have hlend : perform (acquire 0 false) w₀ = (.ok (.ok 0), lent) := rfl
  -- The pool is in order all the time: what is registered is none of its business.
  have horder : InOrder classroom.roster 0 [0] x gone.roster := by
    obtain ⟨_, hmade, _⟩ := new_spec hu hnew
    obtain ⟨rest, _, horder⟩ := hmade.lent hlend
    have hthere : lent.roster.pools[0]? = some x := rfl
    rw [Option.some.inj (horder.there.symm.trans hthere)] at horder
    exact horder
  obtain ⟨_, hvacate⟩ : ∃ v, perform (Session.vacate 0) returned = (.ok (), v) := ⟨_, rfl⟩
  obtain ⟨_, w', hrelease, hlost⟩ :=
    exists_lost (w := gone) (u := returned) horder.there rfl rfl rfl rfl rfl hvacate assemble_pupil
  obtain ⟨x', h', hclosed, hsize, _, hmends, _⟩ :=
    release_spec hu horder List.mem_cons_self hrelease
  obtain ⟨_, hmends⟩ | ⟨hidle, _⟩ := hmends rfl
  · exact absurd hmends hlost
  have hbefore : classroom.roster.inUse = 0 := rfl
  have hgauge : w'.metrics.poolInUse = 0 := h'.inUse.trans (by simp [hbefore])
  refine ⟨w', ?_⟩
  unfold strand
  rw [perform_bind_ok hnew]
  dsimp only
  rw [perform_bind_ok hlend]
  dsimp only
  rw [perform_bind_ok (perform_modify _ lent), perform_bind_ok hrelease,
    perform_bind_ok (perform_pool h'.there), perform_bind_ok (perform_get w'), perform_pure, hgauge]
  unfold stats
  rw [hclosed, hsize, hidle]
  rfl

/-- These are steps of clients. -/
theorem exists_strand : ∃ (made : Except SessionError Nat) (w₀ w' : World Behaviour) (log : Log),
    perform (new pupil { console := false } 1) classroom = (.ok made, w₀) ∧
      Run classroom.pools.size w₀ { closed := !made.isOk } w' log ∧ log.held = [] ∧
      log.closed = false ∧ w'.metrics.poolInUse = 0 ∧
        stats (w'.pools.getD classroom.pools.size default) =
        { size := 1, available := 0, inUse := 1, closed := false } := by
  obtain ⟨w', hstrand⟩ := perform_strand
  unfold strand at hstrand
  obtain ⟨made, w₀, hnew, hstrand⟩ := exists_of_perform_bind hstrand
  cases made with
  | error e => cases hstrand
  | ok p =>
    obtain ⟨lent, w₁, hlend, hstrand⟩ := exists_of_perform_bind hstrand
    cases lent with
    | error e => cases hstrand
    | ok s =>
      obtain ⟨_, w₂, hmodify, hstrand⟩ := exists_of_perform_bind hstrand
      have hroster : w₂.roster = w₁.roster := by
        cases hmodify
        rfl
      obtain ⟨r, w₃, hrelease, hstrand⟩ := exists_of_perform_bind hstrand
      obtain ⟨x, _, hx, hstrand⟩ := exists_of_perform_bind hstrand
      cases hx
      obtain ⟨v, _, hget, hstrand⟩ := exists_of_perform_bind hstrand
      cases hget
      have hanswer := congrArg Prod.fst hstrand
      have hworld : w₃ = w' := congrArg Prod.snd hstrand
      subst hworld
      -- The run is taken apart; what was made is the pool the client works with.
      obtain ⟨x₀, _, _, _, hmade, _⟩ :=
        new_spec (undisturbed_roster fun _ => Behaviour.nativeObeys) hnew
      obtain ⟨hp, _⟩ := hmade p rfl
      subst hp
      have h₀ : Run classroom.pools.size w₀ { closed := false } w₀ { closed := false } := .start
      have h₁ := h₀.next (.lend 1 false hlend)
      have h₂ := h₁.next (.elsewhere hroster)
      have h₃ := h₂.next (.giveBack List.mem_cons_self hrelease)
      have hheld : [(1, s)].erase (1, s) = [] := List.erase_cons_head _ _
      have hpair := Except.ok.inj hanswer
      have hstats := congrArg Prod.fst hpair
      have hgauge := congrArg Prod.snd hpair
      exact ⟨_, w₀, w₃, _, hnew, h₃, hheld, rfl, hgauge, hstats⟩

/-- The statistics say that one session is in use, and the gauge that none
is. -/
theorem strand_reports :
    ∃ (made : Except SessionError Nat) (w₀ w' : World Behaviour) (log : Log) (x : Pool),
    perform (new pupil { console := false } 1) classroom = (.ok made, w₀) ∧
      Run classroom.pools.size w₀ { closed := !made.isOk } w' log ∧
      w'.pools[classroom.pools.size]? = some x ∧ Reports classroom pupil x log w' ∧
      (stats x).inUse = 1 ∧ w'.metrics.poolInUse = 0 ∧ ¬log.mended := by
  obtain ⟨made, w₀, w', log, hnew, run, hheld, hopen, hgauge, hstats⟩ := exists_strand
  obtain ⟨x, hx, _, hreports⟩ := Run.reports (fun _ => Behaviour.nativeObeys) hnew run
  rw [getD_of_there hx] at hstats
  have hone : (stats x).inUse = 1 := congrArg Stats.inUse hstats
  refine ⟨made, w₀, w', log, x, hnew, run, hx, hreports, hone, hgauge, ?_⟩
  intro hmended
  have hequal := hreports.precise.mpr (by rw [hopen]; exact hmended)
  rw [hone, hheld] at hequal
  cases hequal

/-- What the statistics call in use need not be with a client, and the gauge
may say otherwise. -/
theorem not_inUse_of_strand :
    ¬∀ (plugin : Plugin) (config : RuntimeConfig) (size : Int) (made : Except SessionError Nat)
      (w w₀ w' : World Behaviour) (log : Log), perform (new plugin config size) w = (.ok made, w₀) →
      Run w.pools.size w₀ { closed := !made.isOk } w' log →
        (stats (w'.pools.getD w.pools.size default)).inUse = log.held.length := by
  intro h
  obtain ⟨made, w₀, w', log, hnew, run, hheld, _, _, hstats⟩ := exists_strand
  have hequal := h _ _ _ _ _ _ _ _ hnew run
  rw [hstats, hheld] at hequal
  cases hequal

end ObjectBridge.Pool

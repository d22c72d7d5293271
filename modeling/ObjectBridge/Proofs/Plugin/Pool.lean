import ObjectBridge.Proofs.Plugin.Crew

/-!
# `ObjectBridge.Proofs.Plugin.Pool`: one operation of a pool

`InOrder` is what holds of a pool that clients have sessions of. Every
session that was made is ready, lent to one client, or closed, and only one
of the three; there is room for those that are lent; and what is published
is what was published before the pool, with the sessions that work and
those that are lent on top.

Each operation of a pool has one theorem that takes it from one order to
the next. An operation closes and makes sessions on its way, while the
books about what is lent are ahead or behind. So the part of the order that
is only about sessions, `Staffed`, has a lemma for each thing that can
happen to one of them.
-/

set_option autoImplicit false

namespace ObjectBridge

variable {β : Type} {w w' w₀ : World β} {base R R' : Roster} {held held' rest : List Nat}
    {p s n : Nat} {x : Pool}

/-- A pool with a new session. -/
def Pool.enrolled (x : Pool) (s : Nat) : Pool :=
  { x with idle := x.idle ++ [s], made := x.made ++ [s] }

/-- A change of one pool. -/
def Roster.editPool (R : Roster) (p : Nat) (f : Pool → Pool) : Roster :=
  { R with pools := R.pools.modify p f }

namespace Pool

open Roster

/-! ### Staff -/

/-- The sessions of a pool: those that are ready and those that are with
others work, and there is room for them. What was published before the pool
was made is in `base`. -/
structure Staffed (base : Roster) (p : Nat) (held : List Nat) (x : Pool) (R : Roster) : Prop where
  there : R.pools[p]? = some x
  crew : R.Crew x.plugin base.sessions.size x.made (x.idle ++ held)
  emptied : x.closed = true → x.idle = []
  fits : x.idle.length + held.length ≤ x.size
  active : R.active = base.active + (x.idle.length + held.length : Nat) * x.plugin.weight
  published : R.published = base.published + (x.idle.length + held.length : Nat) * x.plugin.weight

namespace Staffed

/-- The order in which sessions are held makes no difference. -/
theorem perm (h : Staffed base p held x R) (hperm : held.Perm held') :
    Staffed base p held' x R where
  there := h.there
  crew := h.crew.perm (hperm.append_left x.idle)
  emptied := h.emptied
  fits := hperm.length_eq ▸ h.fits
  active := hperm.length_eq ▸ h.active
  published := hperm.length_eq ▸ h.published

/-- Nor does the gauge of those in use. -/
theorem setInUse (h : Staffed base p held x R)
    (u : Int) : Staffed base p held x { R with inUse := u } where
  there := h.there
  crew := h.crew.congr rfl rfl rfl
  emptied := h.emptied
  fits := h.fits
  active := h.active
  published := h.published

/-- Whoever is held is on duty. -/
theorem onDuty (h : Staffed base p held x R) (hs : s ∈ held) : R.OnDuty x.plugin s (R.seat s) 0 :=
  h.crew.working s (List.mem_append_right _ hs)

/-- A session starts over. -/
theorem keep (h : Staffed base p held x R) (hs : s ∈ held) (hshift : R.Shifts s (R.seat s) 0 R')
    (hduty : R'.OnDuty x.plugin s (R.seat s) 0) : Staffed base p held x R' where
  there := hshift.pools ▸ h.there
  crew := h.crew.keep (List.mem_append_right _ hs) hshift hduty
  emptied := h.emptied
  fits := h.fits
  active := by rw [hshift.active, h.active, add_zero]
  published := by rw [hshift.published, h.published, add_zero]

/-- A session is closed. -/
theorem retire (h : Staffed base p held x R) (hs : s ∈ held)
    (hshift : R.Shifts s (R.seat s) (-x.plugin.weight) R')
    (hvacant : R'.Vacant x.plugin s (R.seat s) 1 false) : Staffed base p (held.erase s) x R' := by
  have hidle : s ∉ x.idle := fun hmem => List.disjoint_of_nodup_append h.crew.nodup hmem hs
  have hlength : held.length = (held.erase s).length + 1 := by
    rw [List.length_erase_of_mem hs]
    have := List.length_pos_of_mem hs
    omega
  have hcrew := h.crew.retire (List.mem_append_right _ hs) hshift hvacant
  rw [List.erase_append_right _ hidle] at hcrew
  refine ⟨hshift.pools ▸ h.there, hcrew, h.emptied, ?_, ?_, ?_⟩
  · have := h.fits
    omega
  · rw [hshift.active, h.active, hlength]
    push_cast
    ring
  · rw [hshift.published, h.published, hlength]
    push_cast
    ring

/-- A pool that is edited is the edit of what it was. -/
theorem editPool_getElem? (h : R.pools[p]? = some x) (f : Pool → Pool) :
    (R.editPool p f).pools[p]? = some (f x) := by
  show (R.pools.modify p f)[p]? = _
  rw [Array.getElem?_modify, if_pos rfl, h, Option.map_some]

/-- A session is lent. -/
theorem lend (h : Staffed base p held x R) (hidle : x.idle = s :: rest) (hopen : x.closed = false) :
    Staffed base p (s :: held) { x with idle := rest }
      (R.editPool p fun x => { x with idle := rest }) := by
  have hlength : x.idle.length = rest.length + 1 := by rw [hidle, List.length_cons]
  have hsum : rest.length + (s :: held).length = x.idle.length + held.length := by
    rw [hlength, List.length_cons]
    omega
  refine ⟨editPool_getElem? h.there _, ?_, fun hclosed => ?_, ?_, ?_, ?_⟩
  · have hcrew := h.crew
    rw [hidle, List.cons_append] at hcrew
    exact (hcrew.perm List.perm_middle.symm).congr rfl rfl rfl
  · rw [hopen] at hclosed
    cases hclosed
  · exact hsum ▸ h.fits
  · exact hsum ▸ h.active
  · exact hsum ▸ h.published

/-- A session comes back. -/
theorem putBack (h : Staffed base p held x R) (hs : s ∈ held) (hopen : x.closed = false) :
    Staffed base p (held.erase s) { x with idle := x.idle ++ [s] }
      (R.editPool p fun x => { x with idle := x.idle ++ [s] }) := by
  have hperm : (x.idle ++ held).Perm (x.idle ++ [s] ++ held.erase s) := by
    rw [List.append_assoc]
    exact (List.perm_cons_erase hs).append_left x.idle
  have hsum : (x.idle ++ [s]).length + (held.erase s).length = x.idle.length + held.length := by
    have hlength := hperm.length_eq
    simp only [List.length_append] at hlength ⊢
    omega
  refine ⟨editPool_getElem? h.there _, (h.crew.perm hperm).congr rfl rfl rfl, fun hclosed =>
    ?_, ?_, ?_, ?_⟩
  · rw [hopen] at hclosed
    cases hclosed
  · exact hsum ▸ h.fits
  · exact hsum ▸ h.active
  · exact hsum ▸ h.published

/-- A new session is taken in. -/
theorem hire (h : Staffed base p held x R) (hopen : x.closed = false)
    (hroom : x.idle.length + held.length < x.size)
    (hshift : R.Shifts R.sessions.size R.isOpen.size x.plugin.weight R')
    (hduty : R'.OnDuty x.plugin R.sessions.size R.isOpen.size 0) :
    Staffed base p held (x.enrolled R.sessions.size)
      (R'.editPool p (·.enrolled R.sessions.size)) := by
  -- The new session is the last of the idle ones, and stands after those that are lent in the crew.
  have hperm : (x.idle ++ held ++ [R.sessions.size]).Perm
      (x.idle ++ [R.sessions.size] ++ held) := by
    rw [List.append_assoc, List.append_assoc]
    exact List.perm_append_comm.append_left x.idle
  have hsum : (x.enrolled R.sessions.size).idle.length + held.length =
      x.idle.length + held.length + 1 := by
    show (x.idle ++ [R.sessions.size]).length + held.length = _
    rw [List.length_append, List.length_singleton]
    omega
  refine ⟨editPool_getElem? (hshift.pools ▸ h.there) _,
    ((h.crew.hire hshift hduty).perm hperm).congr rfl rfl rfl, fun hclosed => ?_, ?_, ?_, ?_⟩
  · have hclosed : x.closed = true := hclosed
    rw [hopen] at hclosed
    cases hclosed
  · rw [hsum]
    exact hroom
  · rw [hsum]
    show R'.active = base.active + _ * x.plugin.weight
    rw [hshift.active, h.active]
    push_cast
    ring
  · rw [hsum]
    show R'.published = base.published + _ * x.plugin.weight
    rw [hshift.published, h.published]
    push_cast
    ring

/-- A new session turned out not to be possible. -/
theorem pass (h : Staffed base p held x R) (hshift : R.Shifts R.sessions.size R.isOpen.size 0 R')
    (hvacant : R'.Vacant x.plugin R.sessions.size R.isOpen.size 0 false) :
    Staffed base p held x R' where
  there := hshift.pools ▸ h.there
  crew := h.crew.pass hshift hvacant
  emptied := h.emptied
  fits := h.fits
  active := by rw [hshift.active, h.active, add_zero]
  published := by rw [hshift.published, h.published, add_zero]

/-- The pool is closed. Those that were ready are on their way out. -/
theorem shut (h : Staffed base p held x R) :
    Staffed base p (x.idle ++ held) { x with closed := true, idle := [] }
      (R.editPool p fun x => { x with closed := true, idle := [] }) := by
  have hsum : 0 + (x.idle ++ held).length = x.idle.length + held.length := by
    rw [List.length_append, Nat.zero_add]
  exact ⟨editPool_getElem? h.there _, h.crew.congr rfl rfl rfl, fun _ => rfl, hsum ▸ h.fits,
    hsum ▸ h.active, hsum ▸ h.published⟩

end Staffed

/-! ### Operations -/

/-- What holds of a pool when the clients have the sessions `held` between
them. -/
structure InOrder (base : Roster) (p : Nat) (held : List Nat) (x : Pool) (R : Roster) : Prop
    extends Staffed base p held x R where
  inUse : R.inUse = base.inUse + (held.length : Nat) * x.plugin.weight

/-- A pool is in order however its held sessions are listed. -/
theorem InOrder.perm (h : InOrder base p held x R) (hperm : held.Perm held') :
    InOrder base p held' x R :=
  ⟨h.toStaffed.perm hperm, hperm.length_eq ▸ h.inUse⟩

/-- A pool on the roster is there. -/
theorem getD_of_there (h : w.roster.pools[p]? = some x) : w.pools.getD p default = x := by
  have hpools : w.pools[p]? = some x := h
  rw [Array.getD_eq_getD_getElem?, hpools, Option.getD_some]

/-- Looking a pool up gives what the roster says. -/
theorem perform_pool (h : w.roster.pools[p]? = some x) : perform (pool p) w = (.ok x, w) := by
  show (Except.ok (w.pools.getD p default), w) = _
  rw [getD_of_there h]

/-- Changing a pool is an edit of the roster. -/
theorem perform_modifyPool (p : Nat) (f : Pool → Pool) (w : World β) :
    ∃ w', perform (modifyPool p f) w = (.ok (), w') ∧ w'.roster = w.roster.editPool p f :=
  ⟨_, rfl, rfl⟩

/-- Enrolling a session is one too. -/
theorem perform_enrol (p s : Nat) (w : World β) :
    ∃ w', perform (enrol p s) w = (.ok (), w') ∧ w'.roster = w.roster.editPool p (·.enrolled s) :=
  perform_modifyPool p _ w

/-- Counting how many are in use sets the gauge of the roster. -/
theorem perform_countUse (x : Pool) (n : Int) (w : World β) :
    ∃ w', perform (countUse x n) w = (.ok (), w') ∧
      w'.roster = { w.roster with inUse := w.roster.inUse + n * x.plugin.weight } := by
  refine ⟨_, perform_modify _ w, ?_⟩
  unfold Plugin.weight
  cases x.plugin.metered <;> simp [World.roster, Metrics.poolUsed]

/-- A session that is lent is given, none, or the pool is closed. -/
theorem acquire_spec (h : InOrder base p held x w.roster) (cancelled : Bool) :
    ∃ res w', perform (acquire p cancelled) w = (.ok res, w') ∧
      (x.closed = true ∧ res = .error .closed ∧ w' = w ∨
        x.closed = false ∧ x.idle = [] ∧ res = .error (if cancelled then .cancelled else .timeout) ∧
        w' = w ∨ x.closed = false ∧ ∃ s rest, x.idle = s :: rest ∧ res = .ok s ∧
          InOrder base p (s :: held) { x with idle := rest } w'.roster) := by
  unfold acquire
  rw [perform_bind_ok (perform_pool h.there)]
  by_cases hclosed : x.closed = true
  · rw [if_pos hclosed]
    exact ⟨_, w, rfl, .inl ⟨hclosed, rfl, rfl⟩⟩
  rw [if_neg hclosed]
  have hopen : x.closed = false := Bool.eq_false_iff.mpr hclosed
  cases hidle : x.idle with
  | nil => exact ⟨_, w, rfl, .inr (.inl ⟨hopen, rfl, rfl, rfl⟩)⟩
  | cons s rest =>
    -- The one that waited longest is lent, and counts as in use from now on.
    obtain ⟨w₁, hmodify, hroster₁⟩ := perform_modifyPool p (fun x => { x with idle := rest }) w
    obtain ⟨w₂, hcount, hroster₂⟩ := perform_countUse x 1 w₁
    refine ⟨.ok s, w₂, ?_, .inr (.inr ⟨hopen, s, rest, rfl, rfl, ?_, ?_⟩)⟩
    · dsimp only
      rw [perform_bind_ok hmodify, perform_bind_ok hcount, perform_pure]
    · rw [hroster₂, hroster₁]
      exact (h.lend hidle hopen).setInUse _
    · rw [hroster₂, hroster₁]
      show w.roster.inUse + _ = _
      rw [h.inUse, List.length_cons]
      push_cast
      ring

/-- The session that a client is given was the first that was ready. -/
theorem InOrder.lent {cancelled : Bool} (h : InOrder base p held x w.roster)
    (hrun : perform (acquire p cancelled) w = (.ok (.ok s), w')) :
    ∃ rest, x.idle = s :: rest ∧ InOrder base p (s :: held) { x with idle := rest } w'.roster := by
  obtain ⟨res, w₁, hacquire, hres⟩ := acquire_spec h cancelled
  cases hrun.symm.trans hacquire
  obtain ⟨_, hres, _⟩ | ⟨_, _, hres, _⟩ | ⟨_, _, rest, hidle, hres, horder⟩ := hres
  · cases hres
  · cases hres
  cases hres
  exact ⟨rest, hidle, horder⟩

/-- A client that is given none has changed nothing. -/
theorem InOrder.refused {cancelled : Bool} {e : AcquireError} (h : InOrder base p held x w.roster)
    (hrun : perform (acquire p cancelled) w = (.ok (.error e), w')) : w' = w := by
  obtain ⟨res, w₁, hacquire, hres⟩ := acquire_spec h cancelled
  cases hrun.symm.trans hacquire
  obtain ⟨_, _, hsame⟩ | ⟨_, _, _, hsame⟩ | ⟨_, _, _, _, hres, _⟩ := hres
  · exact hsame
  · exact hsame
  · cases hres

/-- A session that is closed is one less. -/
theorem staffed_close (h : Staffed base p held x w.roster) (hs : s ∈ held)
    (hrun : perform (Session.close s) w = (.ok (), w')) :
    Staffed base p (held.erase s) x w'.roster ∧ w'.roster.inUse = w.roster.inUse := by
  obtain ⟨hshift, hvacant⟩ := (Session.close_spec hrun).1 (h.onDuty hs)
  exact ⟨h.retire hs hshift hvacant, hshift.inUse⟩

/-- Closing sessions that are held takes them away, and leaves the pool
staffed. -/
theorem staffed_closeSessions {l : List Nat} (h : Staffed base p (l ++ held) x w.roster)
    (hrun : perform (closeSessions l) w = (.ok (), w')) :
    Staffed base p held x w'.roster ∧ w'.roster.inUse = w.roster.inUse := by
  induction l generalizing w with
  | nil =>
    cases hrun
    exact ⟨h, rfl⟩
  | cons s l ih =>
    obtain ⟨_, w₁, hclose, hrest⟩ := exists_of_perform_bind hrun
    obtain ⟨h₁, hinUse₁⟩ := staffed_close h List.mem_cons_self hclose
    rw [List.cons_append, List.erase_cons_head] at h₁
    obtain ⟨h₂, hinUse₂⟩ := ih h₁ hrest
    exact ⟨h₂, hinUse₂.trans hinUse₁⟩

/-- A pool that is closed stays in order, and stays closed. -/
theorem close_spec (h : InOrder base p held x w.roster)
    (hrun : perform (close p) w = (.ok (), w')) :
    ∃ x', InOrder base p held x' w'.roster ∧ x'.closed = true ∧ x'.plugin = x.plugin ∧
      x'.size = x.size := by
  unfold close at hrun
  rw [perform_bind_ok (perform_pool h.there)] at hrun
  by_cases hclosed : x.closed = true
  · rw [if_pos hclosed] at hrun
    cases hrun
    exact ⟨x, h, hclosed, rfl, rfl⟩
  rw [if_neg hclosed] at hrun
  obtain ⟨w₁, hmodify, hroster₁⟩ :=
    perform_modifyPool p (fun x => { x with closed := true, idle := [] }) w
  rw [perform_bind_ok hmodify] at hrun
  have h₁ := h.shut
  rw [← hroster₁] at h₁
  obtain ⟨h₂, hinUse⟩ := staffed_closeSessions h₁ hrun
  refine ⟨_, ⟨h₂, ?_⟩, rfl, rfl, rfl⟩
  rw [hinUse, hroster₁]
  exact h.inUse

section

variable [Native β] (hu : Undisturbed (World.roster (β := β)))

/-- A session that comes back is ready again, or another one takes its
place. -/
def Mends (p s : Nat) (w : World β) : Prop :=
  ∃ w₁, perform (countUse (w.pools.getD p default) (-1)) w = (.ok (), w₁) ∧
    ((∃ w₂, perform (Session.reset s) w₁ = (.ok (.ok ()), w₂)) ∨
      ∃ e fresh w₂ w₃ w₄, perform (Session.reset s) w₁ = (.ok (.error e), w₂) ∧
        perform (Session.close s) w₂ = (.ok (), w₃) ∧
        perform (Session.new (w.pools.getD p default).plugin (w.pools.getD p default).config) w₃ =
        (.ok (.ok fresh), w₄))

section

variable {w₁ w₂ w₃ w₄ : World β} {e : SessionError} {made : Except SessionError Nat}

/-- A session that could be reset is ready again. -/
theorem mends_of_reset (hx : w.roster.pools[p]? = some x)
    (hcount : perform (countUse x (-1)) w = (.ok (), w₁))
    (hreset : perform (Session.reset s) w₁ = (.ok (.ok ()), w₂)) : Mends p s w := by
  rw [← getD_of_there hx] at hcount
  exact ⟨w₁, hcount, .inl ⟨w₂, hreset⟩⟩

/-- One that could not be reset is made up for if and only if another one
can be made. -/
theorem mends_iff_made (hx : w.roster.pools[p]? = some x)
    (hcount : perform (countUse x (-1)) w = (.ok (), w₁))
    (hreset : perform (Session.reset s) w₁ = (.ok (.error e), w₂))
    (hclose : perform (Session.close s) w₂ = (.ok (), w₃))
    (hnew : perform (Session.new x.plugin x.config) w₃ = (.ok made, w₄)) :
    Mends p s w ↔ ∃ fresh, made = .ok fresh := by
  rw [← getD_of_there hx] at hcount hnew
  constructor
  · rintro ⟨_, hcounted, hends⟩
    cases hcount.symm.trans hcounted
    obtain ⟨_, hends⟩ | ⟨_, fresh, _, _, _, hreset', hclose', hnew'⟩ := hends
    · cases hreset.symm.trans hends
    · cases hreset.symm.trans hreset'
      cases hclose.symm.trans hclose'
      cases hnew.symm.trans hnew'
      exact ⟨fresh, rfl⟩
  · rintro ⟨fresh, rfl⟩
    exact ⟨w₁, hcount, .inr ⟨e, fresh, w₂, w₃, w₄, hreset, hclose, hnew⟩⟩

/-- What becomes of a session that can neither be reset nor replaced. -/
theorem perform_release_of_lost {e' : SessionError} (hx : w.roster.pools[p]? = some x)
    (hopen : x.closed = false) (hcount : perform (countUse x (-1)) w = (.ok (), w₁))
    (hreset : perform (Session.reset s) w₁ = (.ok (.error e), w₂))
    (hclose : perform (Session.close s) w₂ = (.ok (), w₃))
    (hnew : perform (Session.new x.plugin x.config) w₃ = (.ok (.error e'), w₄)) :
    perform (release p s) w = (.ok (.error e), w₄) ∧ ¬Mends p s w := by
  constructor
  · unfold release
    rw [perform_bind_ok (perform_pool hx), perform_bind_ok hcount, hopen, if_neg Bool.false_ne_true,
      perform_bind_ok hreset]
    dsimp only
    rw [perform_bind_ok hclose, perform_bind_ok hnew]
    rfl
  · rw [mends_iff_made hx hcount hreset hclose hnew]
    rintro ⟨_, hmade⟩
    cases hmade

end

include hu

/-- A session that cannot be reset is closed, and a new one takes its place
if it can be made. -/
theorem staffed_replace {w₂ w₃ w₄ : World β} {e : SessionError} {made : Except SessionError Nat}
    (h : Staffed base p held x w.roster) (hs : s ∈ held) (hopen : x.closed = false)
    (hreset : perform (Session.reset s) w = (.ok (.error e), w₂))
    (hclose : perform (Session.close s) w₂ = (.ok (), w₃))
    (hnew : perform (Session.new x.plugin x.config) w₃ = (.ok made, w₄)) :
    w₄.roster.inUse = w.roster.inUse ∧ match made with
      | .ok fresh => Staffed base p (held.erase s) (x.enrolled fresh)
        (w₄.roster.editPool p (·.enrolled fresh))
      | .error _ => Staffed base p (held.erase s) x w₄.roster := by
  obtain ⟨hres, _⟩ | ⟨_, _, hshift, hvacant⟩ := Session.reset_spec hu (h.onDuty hs) hreset
  · cases hres
  obtain ⟨hshift₃, hvacant₃⟩ := (Session.close_spec hclose).2 true hvacant
  have h₃ := h.retire hs ((hshift.trans hshift₃).congr (add_zero _)) hvacant₃
  have hinUse₃ := hshift₃.inUse.trans hshift.inUse
  obtain ⟨rfl, hshift₄, hduty⟩ | ⟨_, rfl, hshift₄, hvacant₄⟩ := Session.new_spec hu hnew
  · -- The session that is gone has left room for it.
    have hroom : x.idle.length + (held.erase s).length < x.size := by
      have := h.fits
      have := List.length_pos_of_mem hs
      rw [List.length_erase_of_mem hs]
      omega
    exact ⟨hshift₄.inUse.trans hinUse₃, h₃.hire hopen hroom hshift₄ hduty⟩
  · exact ⟨hshift₄.inUse.trans hinUse₃, h₃.pass hshift₄ hvacant₄⟩

/-- A session that a client gives back is ready again, replaced or closed.
It is not closed for want of room, and when the pool is open the number of
sessions that are ready tells whether it is made up for. -/
theorem release_spec {r : Except SessionError Unit} (h : InOrder base p held x w.roster)
    (hs : s ∈ held) (hrun : perform (release p s) w = (.ok r, w')) :
    ∃ x', InOrder base p (held.erase s) x' w'.roster ∧ x'.closed = x.closed ∧ x'.size = x.size ∧
      x'.plugin = x.plugin ∧
      (x.closed = false → x'.idle.length = x.idle.length + 1 ∧ Mends p s w ∨ x'.idle = x.idle ∧
        ¬Mends p s w) ∧
      (x.closed = false → r = .ok () → x'.idle = x.idle ++ [s]) := by
  unfold release at hrun
  rw [perform_bind_ok (perform_pool h.there)] at hrun
  obtain ⟨w₁, hcount, hroster₁⟩ := perform_countUse x (-1) w
  rw [perform_bind_ok hcount] at hrun
  -- The use is counted first, while the session is still with the client.
  have h₁ : Staffed base p held x w₁.roster := by
    rw [hroster₁]
    exact h.toStaffed.setInUse _
  have hinUse₁ : w₁.roster.inUse = base.inUse + (held.erase s).length * x.plugin.weight := by
    have hlength : held.length = (held.erase s).length + 1 := by
      rw [List.length_erase_of_mem hs, Nat.sub_one_add_one (List.length_pos_of_mem hs).ne']
    rw [hroster₁]
    show w.roster.inUse + _ = _
    rw [h.inUse, hlength]
    push_cast
    ring
  cases hclosed : x.closed with
  | true =>
    rw [hclosed, if_pos rfl] at hrun
    obtain ⟨_, w₂, hclose, hrest⟩ := exists_of_perform_bind hrun
    cases hrest
    obtain ⟨h₂, hinUse₂⟩ := staffed_close h₁ hs hclose
    exact ⟨x, ⟨h₂, hinUse₂.trans hinUse₁⟩, hclosed, rfl, rfl, nofun, nofun⟩
  | false =>
    rw [hclosed, if_neg Bool.false_ne_true] at hrun
    obtain ⟨res, w₂, hreset, hrun⟩ := exists_of_perform_bind hrun
    cases res with
    | ok _ =>
      obtain ⟨_, hshift, hduty⟩ | ⟨_, hres, _⟩ := Session.reset_spec hu (h₁.onDuty hs) hreset
      case inr => cases hres
      have hroom : x.idle.length < x.size := by
        have := h.fits
        have := List.length_pos_of_mem hs
        omega
      dsimp only at hrun
      rw [if_pos hroom] at hrun
      obtain ⟨w₃, hmodify, hroster₃⟩ :=
        perform_modifyPool p (fun x => { x with idle := x.idle ++ [s] }) w₂
      rw [perform_bind_ok hmodify, perform_pure] at hrun
      cases hrun
      refine ⟨{ x with idle := x.idle ++ [s] }, ?_, hclosed, rfl, rfl,
        fun _ => .inl ⟨List.length_append, mends_of_reset h.there hcount hreset⟩, fun _ _ => rfl⟩
      rw [hroster₃]
      exact ⟨(h₁.keep hs hshift hduty).putBack hs hclosed, hshift.inUse.trans hinUse₁⟩
    | error e =>
      obtain ⟨_, w₃, hclose, hrun⟩ := exists_of_perform_bind hrun
      obtain ⟨made, w₄, hnew, hrun⟩ := exists_of_perform_bind hrun
      have hmends := mends_iff_made h.there hcount hreset hclose hnew
      obtain ⟨hinUse₄, h₄⟩ := staffed_replace hu h₁ hs hclosed hreset hclose hnew
      cases made with
      | ok fresh =>
        obtain ⟨w₅, henrol, hroster₅⟩ := perform_enrol p fresh w₄
        cases (perform_bind_ok henrol _).symm.trans hrun
        refine ⟨x.enrolled fresh, ?_, hclosed, rfl, rfl,
          fun _ => .inl ⟨List.length_append, hmends.mpr ⟨fresh, rfl⟩⟩, fun _ hr => ?_⟩
        · rw [hroster₅]
          exact ⟨h₄, hinUse₄.trans hinUse₁⟩
        · cases hr
      | error e' =>
        cases hrun
        refine ⟨x, ⟨h₄, hinUse₄.trans hinUse₁⟩, hclosed, rfl, rfl, fun _ => .inr ⟨rfl, ?_⟩,
          fun _ hr => ?_⟩
        · rw [hmends]
          rintro ⟨_, hmade⟩
          cases hmade
        · cases hr

omit hu in
/-- The session that is lent to run a script is given back, whatever
becomes of the script. -/
def GivesBack (p : Nat) (script : String) (cancelled : Bool) (w : World β) : Prop :=
  ∀ s w₁, perform (acquire p cancelled) w = (.ok (.ok s), w₁) →
    ∃ r w₂, perform (release p s) (perform (Session.execute s script cancelled) w₁).2 = (.ok r, w₂)

omit hu in
/-- The session that was lent to run a script is ready again afterwards, or
another one takes its place. -/
def MendsAfter (p : Nat) (script : String) (cancelled : Bool) (w : World β) : Prop :=
  ∀ s w₁, perform (acquire p cancelled) w = (.ok (.ok s), w₁) →
    Mends p s (perform (Session.execute s script cancelled) w₁).2

/-- Running a script on a lent session, which is given back in the end. -/
theorem execute_spec {script : String} {cancelled : Bool} (h : InOrder base p held x w.roster)
    (hback : GivesBack p script cancelled w)
    (hrun : (perform (execute p script cancelled) w).2 = w') :
    ∃ x', InOrder base p held x' w'.roster ∧ x'.closed = x.closed ∧ x'.size = x.size ∧
      x'.plugin = x.plugin ∧ (x.closed = false → x'.idle.length = x.idle.length ∧
        MendsAfter p script cancelled w ∨ x'.idle.length < x.idle.length ∧
        ¬MendsAfter p script cancelled w) := by
  obtain ⟨res, w₁, hacquire, hres⟩ := acquire_spec h cancelled
  unfold execute at hrun
  rw [perform_bind_ok hacquire] at hrun
  -- Nothing can be lost of a session that was not lent.
  have hnone {e : AcquireError} (he : res = .error e) : MendsAfter p script cancelled w := by
    intro s w₂ hlent
    rw [hacquire, he] at hlent
    cases hlent
  obtain ⟨_, rfl, rfl⟩ | ⟨_, _, rfl, rfl⟩ | ⟨hopen, s, rest, hidle, rfl, h₁⟩ := hres
  · cases hrun
    exact ⟨x, h, rfl, rfl, rfl, fun _ => .inl ⟨rfl, hnone rfl⟩⟩
  · cases hrun
    exact ⟨x, h, rfl, rfl, rfl, fun _ => .inl ⟨rfl, hnone rfl⟩⟩
  obtain ⟨r, w₂, hrelease⟩ := hback s w₁ hacquire
  have hafter : InOrder base p (s :: held) { x with idle := rest }
      (perform (Session.execute s script cancelled) w₁).2.roster := by
    rw [Session.leaves_execute hu s script cancelled w₁]
    exact h₁
  dsimp only at hrun
  rw [perform_cleanly, perform_bind_pure_snd, perform_bind_ok hrelease, perform_pure] at hrun
  cases hrun
  obtain ⟨x', h₂, hclosed, hsize, hplugin, hmended, _⟩ :=
    release_spec hu hafter List.mem_cons_self hrelease
  rw [List.erase_cons_head] at h₂
  have hmends : MendsAfter p script cancelled w ↔
      Mends p s (perform (Session.execute s script cancelled) w₁).2 := by
    constructor
    · intro hends
      exact hends s w₁ hacquire
    · intro hends t w₂ hlent
      rw [hacquire] at hlent
      cases hlent
      exact hends
  refine ⟨x', h₂, hclosed, hsize, hplugin, fun _ => ?_⟩
  rw [hmends, hidle, List.length_cons]
  obtain ⟨hlength, hends⟩ | ⟨hlength, hends⟩ := hmended hopen
  · exact .inl ⟨hlength, hends⟩
  · refine .inr ⟨?_, hends⟩
    rw [hlength]
    exact Nat.lt_succ_self _

/-- Making sessions one after the other. -/
theorem fill_spec {r : Except SessionError Unit} (h : InOrder base p [] x w.roster)
    (hopen : x.closed = false) (hroom : x.idle.length + n ≤ x.size)
    (hrun : perform (fill p n) w = (.ok r, w')) :
    ∃ x', InOrder base p [] x' w'.roster ∧ x'.closed = false ∧ x'.size = x.size ∧
      x'.plugin = x.plugin ∧ (r = .ok () → x'.idle.length = x.idle.length + n) := by
  -- Each session that is made takes one of the places that are left.
  induction n generalizing w x with
  | zero =>
    cases hrun
    exact ⟨x, h, hopen, rfl, rfl, fun _ => rfl⟩
  | succ n ih =>
    unfold fill at hrun
    rw [perform_bind_ok (perform_pool h.there)] at hrun
    obtain ⟨made, w₁, hnew, hrun⟩ := exists_of_perform_bind hrun
    obtain ⟨rfl, hshift, hduty⟩ | ⟨e, rfl, hshift, hvacant⟩ := Session.new_spec hu hnew
    · obtain ⟨w₂, henrol, hroster₂⟩ := perform_enrol p w.roster.sessions.size w₁
      have hrun' := (perform_bind_ok henrol _).symm.trans hrun
      have hlength : (x.enrolled w.roster.sessions.size).idle.length = x.idle.length + 1 :=
        List.length_append
      have hroom₁ : x.idle.length + ([] : List Nat).length < x.size := by
        rw [List.length_nil]
        omega
      have h₂ : InOrder base p [] (x.enrolled w.roster.sessions.size) w₂.roster := by
        rw [hroster₂]
        exact ⟨h.hire hopen hroom₁ hshift hduty, hshift.inUse.trans h.inUse⟩
      have hroom₂ : (x.enrolled w.roster.sessions.size).idle.length + n ≤ x.size := by omega
      obtain ⟨x', hx', hopen', hsize', hplugin', hfilled⟩ := ih h₂ hopen hroom₂ hrun'
      refine ⟨x', hx', hopen', hsize', hplugin', fun hr => ?_⟩
      rw [hfilled hr]
      omega
    · cases hrun
      refine ⟨x, ⟨h.pass hshift hvacant, hshift.inUse.trans h.inUse⟩, hopen, rfl, rfl, fun hr => ?_⟩
      cases hr

/-- How many sessions are asked for. -/
def sizeOf (size : Int) : Nat := if size ≤ 0 then 4 else size.toNat

/-- A new pool is in order, whether it is to be used or was closed at
once. -/
theorem new_spec {plugin : Plugin} {config : RuntimeConfig} {size : Int}
    {r : Except SessionError Nat} (hrun : perform (new plugin config size) w = (.ok r, w')) :
    ∃ x, InOrder w.roster w.pools.size [] x w'.roster ∧ x.size = sizeOf size ∧ x.plugin = plugin ∧
      (∀ q, r = .ok q → q = w.pools.size ∧ x.closed = false ∧ x.idle.length = x.size) ∧
      ∀ e, r = .error e → x.closed = true := by
  unfold new at hrun
  extract_lets n at hrun
  rw [perform_bind_ok (perform_modifyGet _ w)] at hrun
  dsimp only at hrun
  set x₀ : Pool := { plugin, config, size := n }
  set w₁ : World β := { w with pools := w.pools.push x₀ }
  -- The pool is entered with nothing in it, which is in order, and then filled.
  have h₁ : InOrder w.roster w.pools.size [] x₀ w₁.roster := by
    refine ⟨⟨Array.getElem?_push_size, (Crew.nil w.roster plugin).congr rfl rfl rfl, fun _ => rfl,
      Nat.zero_le _, ?_, ?_⟩, ?_⟩
    all_goals simp [World.roster, x₀, w₁]
  obtain ⟨filled, w₂, hfill, hrun⟩ := exists_of_perform_bind hrun
  obtain ⟨x, hx, hopen, hsize, hplugin, hfilled⟩ := fill_spec hu h₁ rfl (Nat.zero_add n).le hfill
  cases filled with
  | ok _ =>
    cases hrun
    refine ⟨x, hx, hsize, hplugin, fun q hq => ?_, fun e he => by cases he⟩
    cases hq
    refine ⟨rfl, hopen, ?_⟩
    rw [hfilled rfl, hsize]
    exact Nat.zero_add n
  | error e =>
    obtain ⟨_, w₃, hclose, hrun⟩ := exists_of_perform_bind hrun
    cases hrun
    obtain ⟨x', hx', hclosed, hplugin', hsize'⟩ := close_spec hx hclose
    refine ⟨x', hx', hsize'.trans hsize, hplugin'.trans hplugin, fun q hq => ?_, fun _ _ => hclosed⟩
    cases hq

end

end Pool

end ObjectBridge

import ObjectBridge.Proofs.Plugin.Roster

/-!
# `ObjectBridge.Proofs.Plugin.Session`: one session and the others

A session works in a runtime of its own, with an instance of its own. It is
`OnDuty` while it has one, and `Vacant` otherwise: between its instances, or
after it was closed. Each operation of a session has one theorem that says
which of the two it is afterwards and how many instances more are active.

Instances are told apart by the runtime they are made for. So an operation
of one session does not touch the instances of the others, and `Shifts`
says all there is to say to the others: what is not the session's own is
the same. Sessions that are `OnDuty` or `Vacant` stay so when the roster
shifts elsewhere.
-/

set_option autoImplicit false

namespace ObjectBridge

variable {β : Type} {w w' : World β} {p q : Plugin} {s t r u n : Nat} {d e : Int}
    {R R' R'' : Roster}

/-- How many active instances an instance of the plugin counts for. -/
def Plugin.weight (p : Plugin) : Int := if p.metered then 1 else 0

namespace Roster

/-! ### States of a session -/

/-- The session works in its runtime, which is open, and was closed `n`
times. -/
def OnDuty (R : Roster) (p : Plugin) (s r n : Nat) : Prop :=
  ∃ i x, R.sessions[s]? = some { plugin := p, runtime := r, inst := some i, closings := n } ∧
    R.instances[i]? = some x ∧ x.plugin = p ∧ x.host = .script r ∧ x.destroyed = false ∧
    R.isOpen[r]? = some true

/-- The session has no instance; its runtime is open or not. -/
def Vacant (R : Roster) (p : Plugin) (s r n : Nat) (isOpen : Bool) : Prop :=
  R.sessions[s]? = some { plugin := p, runtime := r, inst := none, closings := n } ∧
    R.isOpen[r]? = some isOpen

/-- Nothing but the session `s`, its runtime `r` and the instances made for
it has changed, and `d` instances more are active. -/
structure Shifts (R : Roster) (s r : Nat) (d : Int) (R' : Roster) : Prop where
  pools : R'.pools = R.pools
  inUse : R'.inUse = R.inUse
  sessions : ∀ t : Nat, t ≠ s → R'.sessions[t]? = R.sessions[t]?
  isOpen : ∀ u : Nat, u ≠ r → R'.isOpen[u]? = R.isOpen[u]?
  instances : ∀ (i : Nat) (x : Instance), R.instances[i]? = some x → x.host ≠ .script r →
    R'.instances[i]? = some x
  active : R'.active = R.active + d
  published : R'.published = R.published + d

/-- Nothing shifts nothing. -/
theorem Shifts.refl (R : Roster) (s r : Nat) : R.Shifts s r 0 R :=
  ⟨rfl, rfl, fun _ _ => rfl, fun _ _ => rfl, fun _ _ h _ => h, by simp, by simp⟩

/-- Shifts after one another add up. -/
theorem Shifts.trans (h : R.Shifts s r d R') (h' : R'.Shifts s r e R'') :
    R.Shifts s r (d + e) R'' where
  pools := h'.pools.trans h.pools
  inUse := h'.inUse.trans h.inUse
  sessions t hne := (h'.sessions t hne).trans (h.sessions t hne)
  isOpen u hne := (h'.isOpen u hne).trans (h.isOpen u hne)
  instances i x hx hhost := h'.instances i x (h.instances i x hx hhost) hhost
  active := by rw [h'.active, h.active, add_assoc]
  published := by rw [h'.published, h.published, add_assoc]

/-- What is shifted may be written in another way. -/
theorem Shifts.congr (h : R.Shifts s r d R') (hd : d = e) : R.Shifts s r e R' := hd ▸ h

/-- A session stays on duty when things happen to another one in another
runtime. -/
theorem OnDuty.shift (h : R.OnDuty q t u n) (hshift : R.Shifts s r d R') (hs : t ≠ s) (hr : u ≠ r) :
    R'.OnDuty q t u n := by
  obtain ⟨i, x, hsession, hx, hplugin, hhost, hdestroyed, hopen⟩ := h
  have hne : x.host ≠ .script r := by
    rw [hhost]
    exact fun h => hr (HostId.script.inj h)
  refine ⟨i, x, ?_, hshift.instances i x hx hne, hplugin, hhost, hdestroyed, ?_⟩
  · rw [hshift.sessions t hs, hsession]
  · rw [hshift.isOpen u hr, hopen]

/-- The same for a vacant session. -/
theorem Vacant.shift {b : Bool} (h : R.Vacant q t u n b) (hshift : R.Shifts s r d R') (hs : t ≠ s)
    (hr : u ≠ r) :
    R'.Vacant q t u n b := by
  obtain ⟨hsession, hopen⟩ := h
  refine ⟨?_, ?_⟩
  · rw [hshift.sessions t hs, hsession]
  · rw [hshift.isOpen u hr, hopen]

/-! ### What moves a roster -/

/-- Counting instances shifts them by their weight. -/
theorem shifts_count (R : Roster) (s r : Nat) (p : Plugin) (n : Int) :
    R.Shifts s r (n * p.weight) (R.count p n) := by
  unfold count Plugin.weight
  cases p.metered with
  | true => exact ⟨rfl, rfl, fun _ _ => rfl, fun _ _ => rfl, fun _ _ h _ => h, by simp, by simp⟩
  | false => simpa using Shifts.refl R s r

/-- A change of one session shifts no count. -/
theorem shifts_sessions {S : Array Session} (R : Roster) (s r : Nat)
    (h : ∀ t : Nat, t ≠ s → S[t]? = R.sessions[t]?) : R.Shifts s r 0 { R with sessions := S } :=
  ⟨rfl, rfl, h, fun _ _ => rfl, fun _ _ h _ => h, by simp, by simp⟩

/-- Nor does a change of one runtime, -/
theorem shifts_isOpen {O : Array Bool} (R : Roster) (s r : Nat)
    (h : ∀ u : Nat, u ≠ r → O[u]? = R.isOpen[u]?) : R.Shifts s r 0 { R with isOpen := O } :=
  ⟨rfl, rfl, fun _ _ => rfl, h, fun _ _ h _ => h, by simp, by simp⟩

/-- or of the instances in it. -/
theorem shifts_instances {I : Array Instance} (R : Roster) (s r : Nat)
    (h : ∀ (i : Nat) (x : Instance), R.instances[i]? = some x → x.host ≠ .script r →
      I[i]? = some x) :
    R.Shifts s r 0 { R with instances := I } :=
  ⟨rfl, rfl, fun _ _ => rfl, fun _ _ => rfl, h, by simp, by simp⟩

/-- Opening or closing a runtime shifts no count. -/
theorem shifts_setOpen (R : Roster) (s r : Nat) (b : Bool) : R.Shifts s r 0 (R.setOpen r b) := by
  refine R.shifts_isOpen s r fun u hu => ?_
  rw [Array.getElem?_modify, if_neg (Ne.symm hu)]

/-- Engaging an instance shifts the count up by its weight, -/
theorem shifts_engage (R : Roster) (s : Nat) {x : Instance} (_ : x.host = .script r) :
    R.Shifts s r x.plugin.weight (R.engage x) := by
  have hpush : R.Shifts s r 0 { R with instances := R.instances.push x } := by
    refine R.shifts_instances s r fun i y hy _ => ?_
    obtain ⟨hi, rfl⟩ := Array.getElem?_eq_some_iff.mp hy
    exact Array.getElem?_push_lt hi
  exact (hpush.trans (shifts_count _ s r x.plugin 1)).congr (by rw [zero_add, one_mul])

/-- dismissing it shifts the count down. -/
theorem shifts_dismiss (R : Roster) (s : Nat) {i : Nat} {x : Instance}
    (hx : R.instances[i]? = some x) (hhost : x.host = .script r) (hactive : x.destroyed = false) :
    R.Shifts s r (-x.plugin.weight) (R.dismiss i) := by
  have hmodify : R.Shifts s r 0
      { R with instances := R.instances.modify i Instance.dismissed } := by
    refine R.shifts_instances s r fun j y hy hne => ?_
    have hij : i ≠ j := by
      rintro rfl
      cases hx.symm.trans hy
      exact hne hhost
    rw [Array.getElem?_modify, if_neg hij, hy]
  have hdismiss : R.dismiss i =
      ({ R with instances := R.instances.modify i Instance.dismissed } : Roster).count
      x.plugin (-1) := by
    unfold dismiss
    rw [hx]
    simp [hactive]
  rw [hdismiss]
  exact (hmodify.trans (shifts_count _ s r x.plugin (-1))).congr (by rw [zero_add, neg_one_mul])

/-- A change of one session. -/
def edit (R : Roster) (s : Nat) (f : Session → Session) : Roster :=
  { R with sessions := R.sessions.modify s f }

/-- Editing a session shifts no count. -/
theorem shifts_edit (R : Roster) (s r : Nat) (f : Session → Session) :
    R.Shifts s r 0 (R.edit s f) := by
  refine R.shifts_sessions s r fun t ht => ?_
  rw [Array.getElem?_modify, if_neg (Ne.symm ht)]

/-- A session that is edited is the edit of what it was. -/
theorem edit_getElem? {x : Session} (hx : R.sessions[s]? = some x) (f : Session → Session) :
    (R.edit s f).sessions[s]? = some (f x) := by
  show (R.sessions.modify s f)[s]? = _
  rw [Array.getElem?_modify, if_pos rfl, hx, Option.map_some]

/-- A runtime that is set open is open. -/
theorem setOpen_getElem? {b : Bool} (h : R.isOpen[r]? = some b) (c : Bool) :
    (R.setOpen r c).isOpen[r]? = some c := by
  show (R.isOpen.modify r _)[r]? = _
  rw [Array.getElem?_modify, if_pos rfl, h, Option.map_some]

/-- Engaging an instance adds it, and leaves sessions and runtimes. -/
theorem engage_eq (R : Roster) (x : Instance) :
    (R.engage x).sessions = R.sessions ∧ (R.engage x).isOpen = R.isOpen ∧
      (R.engage x).instances = R.instances.push x := by
  unfold engage count
  split <;> exact ⟨rfl, rfl, rfl⟩

/-- Dismissing one leaves them too. -/
theorem dismiss_eq (R : Roster) (i : Nat) :
    (R.dismiss i).sessions = R.sessions ∧ (R.dismiss i).isOpen = R.isOpen := by
  unfold dismiss
  split
  · unfold count
    split
    · exact ⟨rfl, rfl⟩
    · split <;> exact ⟨rfl, rfl⟩
  · exact ⟨rfl, rfl⟩

end Roster

/-! ### Operations of a session -/

namespace Session

open Roster

/-- Looking a session up gives what is there. -/
theorem perform_get? (s : Nat) (w : World β) : perform (get? s) w = (.ok w.sessions[s]?, w) := rfl

/-- Changing a session is an edit of the roster. -/
theorem perform_modifySession (s : Nat) (f : Session → Session) (w : World β) :
    ∃ w', perform (modifySession s f) w = (.ok (), w') ∧ w'.roster = w.roster.edit s f :=
  ⟨_, rfl, rfl⟩

/-- A session that works loses its instance, and nothing else. -/
theorem detach_onDuty (hduty : w.roster.OnDuty p s r n) (h : perform (detach s) w = (.ok (), w')) :
    w.roster.Shifts s r (-p.weight) w'.roster ∧ w'.roster.Vacant p s r n true := by
  obtain ⟨i, x, hsession, hx, rfl, hhost, hactive, hopen⟩ := hduty
  have hsession' : w.sessions[s]? = _ := hsession
  unfold detach at h
  rw [perform_bind_ok (perform_get? s w), hsession'] at h
  dsimp only [Option.bind_some] at h
  obtain ⟨_, w₁, hdestroy, h⟩ := exists_of_perform_bind h
  obtain ⟨w₂, hmodify, hroster₂⟩ := perform_modifySession s (fun x => { x with inst := none }) w₁
  cases h.symm.trans hmodify
  have hroster₁ := roster_destroy hdestroy
  obtain ⟨hsessions, hisOpen⟩ := w.roster.dismiss_eq i
  rw [hroster₂, hroster₁]
  refine ⟨((w.roster.shifts_dismiss s hx hhost hactive).trans (shifts_edit _ s r _)).congr
    (add_zero _), ?_, ?_⟩
  · exact edit_getElem? (hsessions ▸ hsession) _
  · exact hisOpen ▸ hopen

/-- A session without an instance has none to lose. -/
theorem detach_vacant {b : Bool} (hvacant : w.roster.Vacant p s r n b)
    (h : perform (detach s) w = (.ok (), w')) :
    w' = w := by
  have hsession : w.sessions[s]? = _ := hvacant.1
  unfold detach at h
  rw [perform_bind_ok (perform_get? s w), hsession] at h
  cases h
  rfl

/-- Closing a runtime. -/
theorem closeRuntime_spec {b : Bool} (hvacant : w.roster.Vacant p s r n b)
    (h : perform (Runtime.close r) w = (.ok (), w')) :
    w.roster.Shifts s r 0 w'.roster ∧ w'.roster.Vacant p s r n false := by
  rw [Runtime.roster_close h]
  exact ⟨shifts_setOpen _ s r false, hvacant.1, setOpen_getElem? hvacant.2 false⟩

/-- A session that is closed gives up its instance, if it has one, and its
runtime. -/
theorem close_spec (h : perform (close s) w = (.ok (), w')) :
    (w.roster.OnDuty p s r n → w.roster.Shifts s r (-p.weight) w'.roster ∧
      w'.roster.Vacant p s r (n + 1) false) ∧ ∀ b, w.roster.Vacant p s r n b →
        w.roster.Shifts s r 0 w'.roster ∧ w'.roster.Vacant p s r (n + 1) false := by
  obtain ⟨w₁, hnote, hroster₁⟩ :=
    perform_modifySession s (fun x => { x with closings := x.closings + 1 }) w
  unfold close at h
  rw [perform_bind_ok (perform_get? s w)] at h
  -- A session on duty gives up its instance first; a vacant one has none to give up.
  constructor
  · rintro ⟨i, x, hsession, hx, hplugin, hhost, hactive, hopen⟩
    have hsession' : w.sessions[s]? = _ := hsession
    rw [hsession'] at h
    dsimp only at h
    rw [perform_bind_ok hnote] at h
    obtain ⟨_, w₂, hdetach, hclose⟩ := exists_of_perform_bind h
    have hduty : w₁.roster.OnDuty p s r (n + 1) := by
      rw [hroster₁]
      exact ⟨i, x, edit_getElem? hsession _, hx, hplugin, hhost, hactive, hopen⟩
    obtain ⟨hshift, hvacant⟩ := detach_onDuty hduty hdetach
    obtain ⟨hshift', hvacant'⟩ := closeRuntime_spec hvacant hclose
    rw [hroster₁] at hshift
    exact ⟨(((w.roster.shifts_edit s r _).trans hshift).trans hshift').congr (by ring), hvacant'⟩
  · rintro b ⟨hsession, hopen⟩
    have hsession' : w.sessions[s]? = _ := hsession
    rw [hsession'] at h
    dsimp only at h
    rw [perform_bind_ok hnote] at h
    obtain ⟨_, w₂, hdetach, hclose⟩ := exists_of_perform_bind h
    have hvacant : w₁.roster.Vacant p s r (n + 1) b := by
      rw [hroster₁]
      exact ⟨edit_getElem? hsession _, hopen⟩
    cases detach_vacant hvacant hdetach
    obtain ⟨hshift, hvacant'⟩ := closeRuntime_spec hvacant hclose
    rw [hroster₁] at hshift
    exact ⟨(w.roster.shifts_edit s r _).trans hshift, hvacant'⟩

section

variable [Native β] (hu : Undisturbed (World.roster (β := β)))

include hu

omit [Native β] hu in
/-- Taking the object of an instance touches nothing but its books. -/
theorem leaves_scriptableObject {γ : Type} {view : World β → γ} [Public view] (i : Nat) :
    Leaves view (Instance.scriptableObject i) := by
  refine .bind .get fun w => ?_
  split
  · exact .bind (obeys_retain _) fun _ => .pure _
  · exact .pure _

/-- A session without an instance gets one, or stays as it is. -/
theorem attach_spec {res : Except SessionError Unit} (hvacant : w.roster.Vacant p s r n true)
    (h : perform (attach s) w = (.ok res, w')) :
    (res = .ok () ∧ w.roster.Shifts s r p.weight w'.roster ∧ w'.roster.OnDuty p s r n) ∨
      ∃ e, res = .error e ∧ w.roster.Shifts s r 0 w'.roster ∧ w'.roster.Vacant p s r n true := by
  obtain ⟨hsession, hopen⟩ := hvacant
  have hsession' : w.sessions[s]? = _ := hsession
  unfold attach at h
  rw [perform_bind_ok (perform_get? s w), hsession'] at h
  dsimp only at h
  obtain ⟨made, w₁, hnew, h⟩ := exists_of_perform_bind h
  obtain ⟨e, rfl, hkept⟩ | ⟨x, rfl, hplugin, hhost, hactive, hengage⟩ := roster_instanceNew hnew
  · cases h
    exact .inr ⟨_, rfl, hkept ▸ .refl _ s r, hkept ▸ ⟨hsession, hopen⟩⟩
  obtain ⟨hsessions, hisOpen, hinstances⟩ := w.roster.engage_eq x
  dsimp only at h
  obtain ⟨root, w₂, hroot, h⟩ := exists_of_perform_bind h
  obtain ⟨bound, w₃, hbind, h⟩ := exists_of_perform_bind h
  -- Binding runs scripts, which leave the roster alone.
  have hroster₂ : w₂.roster = w₁.roster := (leaves_scriptableObject _).eq hroot
  have hroster₃ : w₃.roster = w.roster.engage x :=
    ((Runtime.obeys_bind hu r _ root).of_run hbind).trans (hroster₂.trans hengage)
  have hshift : w.roster.Shifts s r p.weight w₃.roster := by
    rw [hroster₃, ← hplugin]
    exact w.roster.shifts_engage s hhost
  have hthere : w₃.roster.instances[w.roster.instances.size]? = some x := by
    rw [hroster₃, hinstances]
    exact Array.getElem?_push_size
  cases bound with
  | error e =>
    obtain ⟨_, w₄, hdestroy, h⟩ := exists_of_perform_bind h
    cases h
    -- The instance that could not be bound is struck off again.
    obtain ⟨hsessions', hisOpen'⟩ := w₃.roster.dismiss_eq w.roster.instances.size
    rw [roster_destroy hdestroy]
    refine .inr ⟨_, rfl, ?_, ?_, ?_⟩
    · have hback := w₃.roster.shifts_dismiss s hthere hhost hactive
      exact (hshift.trans hback).congr (by rw [hplugin, add_neg_cancel])
    · rw [hsessions', hroster₃, hsessions]
      exact hsession
    · rw [hisOpen', hroster₃, hisOpen]
      exact hopen
  | ok _ =>
    obtain ⟨w₄, hmodify, hroster₄⟩ :=
      perform_modifySession s (fun y => { y with inst := some w.roster.instances.size }) w₃
    dsimp only at h
    rw [perform_bind_ok hmodify, perform_pure] at h
    cases h
    rw [hroster₄]
    refine .inl ⟨rfl, (hshift.trans (shifts_edit _ s r _)).congr (add_zero _),
      w.roster.instances.size, x, ?_, hthere, hplugin, hhost, hactive, ?_⟩
    · have hsessions₃ : w₃.roster.sessions = w.roster.sessions := by rw [hroster₃, hsessions]
      exact edit_getElem? (hsessions₃ ▸ hsession) _
    · show w₃.roster.isOpen[r]? = _
      rw [hroster₃, hisOpen]
      exact hopen

/-- A session that works starts over, or is without an instance. -/
theorem reset_spec {res : Except SessionError Unit} (hduty : w.roster.OnDuty p s r n)
    (h : perform (reset s) w = (.ok res, w')) :
    (res = .ok () ∧ w.roster.Shifts s r 0 w'.roster ∧ w'.roster.OnDuty p s r n) ∨
      ∃ e, res = .error e ∧ w.roster.Shifts s r (-p.weight) w'.roster ∧
      w'.roster.Vacant p s r n true := by
  have hsession : ∃ i, w.sessions[s]? =
      some { plugin := p, runtime := r, inst := some i, closings := n } := by
    obtain ⟨i, _, hsession, _⟩ := hduty
    exact ⟨i, hsession⟩
  obtain ⟨i, hsession⟩ := hsession
  unfold reset at h
  rw [perform_bind_ok (perform_get? s w), hsession] at h
  dsimp only at h
  obtain ⟨_, w₁, hdetach, h⟩ := exists_of_perform_bind h
  obtain ⟨_, w₂, hreset, hattach⟩ := exists_of_perform_bind h
  -- The instance is given up, the runtime opened anew, and another instance attached.
  obtain ⟨hshift₁, hvacant₁⟩ := detach_onDuty hduty hdetach
  have hroster₂ := Runtime.roster_reset hreset
  have hshift₂ : w.roster.Shifts s r (-p.weight) w₂.roster := by
    rw [hroster₂]
    exact (hshift₁.trans (shifts_setOpen _ s r true)).congr (add_zero _)
  have hvacant₂ : w₂.roster.Vacant p s r n true := by
    rw [hroster₂]
    exact ⟨hvacant₁.1, setOpen_getElem? hvacant₁.2 true⟩
  obtain ⟨rfl, hshift₃, hduty₃⟩ | ⟨e, rfl, hshift₃, hvacant₃⟩ := attach_spec hu hvacant₂ hattach
  · exact .inl ⟨rfl, (hshift₂.trans hshift₃).congr (neg_add_cancel _), hduty₃⟩
  · exact .inr ⟨e, rfl, (hshift₂.trans hshift₃).congr (add_zero _), hvacant₃⟩

/-- A new session works in a new runtime. One that cannot be made leaves
nothing behind but a closed runtime. -/
theorem new_spec {config : RuntimeConfig} {res : Except SessionError Nat}
    (h : perform (new p config) w = (.ok res, w')) :
    (res = .ok w.roster.sessions.size ∧
        w.roster.Shifts w.roster.sessions.size w.roster.isOpen.size p.weight w'.roster ∧
        w'.roster.OnDuty p w.roster.sessions.size w.roster.isOpen.size 0) ∨
      ∃ e, res = .error e ∧ w.roster.Shifts w.roster.sessions.size w.roster.isOpen.size
        0 w'.roster ∧ w'.roster.Vacant p w.roster.sessions.size w.roster.isOpen.size 0 false := by
  obtain ⟨r, w₁, hopen, h⟩ := exists_of_perform_bind h
  obtain ⟨rfl, hroster₁⟩ := Runtime.roster_open hopen
  rw [perform_bind_ok (perform_modifyGet _ w₁)] at h
  dsimp only at h
  have hsessions : w₁.sessions = w.roster.sessions := congrArg Roster.sessions hroster₁
  rw [hsessions] at h
  -- The session is there, in an open runtime, and without an instance yet.
  set x : Session := { plugin := p, runtime := w.roster.isOpen.size }
  set w₂ : World β := { w₁ with sessions := w.roster.sessions.push x }
  have hroster₂ : w₂.roster = { w₁.roster with sessions := w.roster.sessions.push x } := rfl
  rw [hroster₁] at hroster₂
  have hshift₂ : w.roster.Shifts w.roster.sessions.size w.roster.isOpen.size 0 w₂.roster := by
    have hruntime := w.roster.shifts_isOpen (O := w.roster.isOpen.push true) w.roster.sessions.size
      w.roster.isOpen.size fun u hu => by rw [Array.getElem?_push, if_neg hu]
    have hsession := shifts_sessions (S := w.roster.sessions.push x)
      { w.roster with isOpen := w.roster.isOpen.push true } w.roster.sessions.size
      w.roster.isOpen.size fun t ht => by rw [Array.getElem?_push, if_neg ht]
    rw [hroster₂]
    exact hruntime.trans hsession
  have hvacant₂ : w₂.roster.Vacant p w.roster.sessions.size w.roster.isOpen.size 0 true := by
    rw [hroster₂]
    exact ⟨Array.getElem?_push_size, Array.getElem?_push_size⟩
  obtain ⟨attached, w₃, hattach, h⟩ := exists_of_perform_bind h
  obtain ⟨rfl, hshift₃, hduty₃⟩ | ⟨e, rfl, hshift₃, hvacant₃⟩ := attach_spec hu hvacant₂ hattach
  · cases h
    exact .inl ⟨rfl, (hshift₂.trans hshift₃).congr (zero_add _), hduty₃⟩
  · obtain ⟨_, w₄, hclose, h⟩ := exists_of_perform_bind h
    cases h
    obtain ⟨hshift₄, hvacant₄⟩ := closeRuntime_spec hvacant₃ hclose
    exact .inr ⟨e, rfl, (hshift₂.trans hshift₃).trans hshift₄, hvacant₄⟩

omit hu in
/-- What scripts leave alone is left alone when one is run in a session. -/
theorem leaves_execute {γ : Type} {view : World β → γ} [Public view] (hu : Undisturbed view)
    (s : Nat) (script : String) (cancelled : Bool) :
    Leaves view (execute s script cancelled : M β Runtime.Execution) := by
  refine .bind (.bind .get fun _ => .pure _) fun found => ?_
  cases found with
  | none => exact .throw _
  | some x => exact Runtime.obeys_execute hu x.runtime script cancelled

end

end Session

end ObjectBridge

import ObjectBridge.Profile
import ObjectBridge.Proofs.Data.Dict

/-!
# `ObjectBridge.Proofs.Profile`: what a recorder has measured

A recorder keeps a stack of open measurements for every key, and sums up
the closed ones. Here it is told from the events alone what it has summed
up. The events are those of a `Timekeeping`, which is a recorder together
with the scopes that were begun on it. A history lists events latest first.

* `stats_after`: the entry of a key depends on nothing but its `marks`, the
  starts and stops of that key since the last reset. It counts the stops
  that had an unmatched start, and its total is what those stops read, less
  what the starts read, plus what the starts read that are still open.
* `step_comm`: events on different keys commute.
* `after_spec`: both, with what follows for a key whose starts have all been
  stopped.

An event on one key is seen by the lane of that key and by no other
(`lane_step`), and a timekeeping is its lanes (`ext_lane`). The rest is
about single lanes.
-/

set_option autoImplicit false

namespace ObjectBridge

/-! ### Recorders -/

namespace Recorder

/-- What a recorder has for one key. -/
structure Lane where
  opened : Option (List Int) := none
  timing : Option Timing := none
  started : Option Nat := none
  stranded : Option Nat := none

namespace Lane

/-- The lane once it is started at a reading of the clock. -/
def start (l : Lane) (now : Int) : Lane :=
  { l with opened := some (now :: l.opened.getD []), started := some (l.started.getD 0 + 1) }

/-- The lane once it is stopped. Nothing happens when nothing is open. -/
def stop (l : Lane) (now : Int) : Lane :=
  match l.opened with
  | some (began :: earlier) =>
    { l with
      opened := if earlier.isEmpty then none else some earlier
      timing := some { calls := (l.timing.getD {}).calls + 1, total := (l.timing.getD {}).total +
        (now - began) } }
  | _ => l

/-- The lane once one more measurement was left open. -/
def strand (l : Lane) : Lane := { l with stranded := some (l.stranded.getD 0 + 1) }

end Lane

/-- What a recorder has under a key. -/
def lane (r : Recorder) (key : Bytes) : Lane where
  opened := r.opened.find? key
  timing := r.timings.find? key
  started := r.started.find? key
  stranded := r.stranded.find? key

/-- A recorder is its lanes. -/
theorem ext_lane {r r' : Recorder} (h : ∀ key, r.lane key = r'.lane key) : r = r' := by
  obtain ⟨_, _, _, _⟩ := r
  obtain ⟨_, _, _, _⟩ := r'
  rw [mk.injEq]
  exact ⟨Dict.ext_find? fun key => congrArg Lane.opened (h key), Dict.ext_find? fun key =>
    congrArg Lane.timing (h key), Dict.ext_find? fun key => congrArg Lane.started (h key),
      Dict.ext_find? fun key => congrArg Lane.stranded (h key)⟩

variable (r : Recorder) (key : Bytes) (now : Int) (j : Bytes)

/-- A start concerns one lane. -/
theorem lane_start : (r.start key now).lane j = if j = key then (r.lane j).start now
else r.lane j := by
  by_cases hj : j = key
  · subst hj
    simp [lane, start, Lane.start, Dict.find?_alter]
  · simp [lane, start, Dict.find?_alter, hj]

/-- So does a stop, -/
theorem lane_stop : (r.stop key now).lane j = if j = key then (r.lane j).stop now
else r.lane j := by
  have hopen : (r.lane key).opened = r.opened.find? key := rfl
  unfold stop Lane.stop
  by_cases hj : j = key
  · subst hj
    rw [if_pos rfl, hopen]
    cases hfind : r.opened.find? j with
    | none => rfl
    | some readings =>
      cases readings with
      | nil => rfl
      | cons began earlier =>
        cases earlier <;> simp [lane, hfind, Dict.find?_alter, Dict.find?_erase]
  · rw [if_neg hj]
    split
    next began earlier hfind =>
      cases earlier <;> simp [lane, Dict.find?_alter, Dict.find?_erase, Dict.find?_insert, hj]
    next => rfl

/-- and a measurement that is left open. -/
theorem lane_strand : (r.strand key).lane j = if j = key then (r.lane j).strand else r.lane j := by
  by_cases hj : j = key
  · subst hj
    simp [lane, strand, Lane.strand, Dict.find?_alter]
  · simp [lane, strand, Dict.find?_alter, hj]

end Recorder

/-! ### Scopes -/

/-- A recorder, and the scopes begun on it. A scope is known by its key and
a number. -/
structure Timekeeping where
  recorder : Recorder := {}
  scopes : (key : Bytes) → Nat → Option { s : Scope // s.key = key } := fun _ _ => none

/-- Closing a scope leaves its key. -/
theorem Scope.key_close (s : Scope) (r : Recorder) (now : Int) : (s.close r now).2.key = s.key := by
  unfold Scope.close
  split <;> rfl

namespace Timekeeping

/-- Every event but a reset is on a key, and has its own reading of the
clock. -/
inductive Event
  | start (key : Bytes) (now : Int)
  | stop (key : Bytes) (now : Int)
  | reset
  /-- A scope begins. -/
  | scope (key : Bytes) (n : Nat) (now : Int)
  /-- A scope is stopped. -/
  | finish (key : Bytes) (n : Nat) (now : Int)
  deriving DecidableEq, Repr

/-- The key an event is about; a reset is about all of them. -/
def Event.key? : Event → Option Bytes
  | .start key _ | .stop key _ | .scope key _ _ | .finish key _ _ => some key
  | .reset => none

/-- Keeps a scope. -/
def keep (t : Timekeeping) {key : Bytes} (n : Nat) (r : Recorder)
    (s : { s : Scope // s.key = key }) : Timekeeping where
  recorder := r
  scopes := Function.update t.scopes key (Function.update (t.scopes key) n (some s))

/-- What an event does to the recorder and to the scopes. -/
def step (t : Timekeeping) : Event → Timekeeping
  | .start key now => { t with recorder := t.recorder.start key now }
  | .stop key now => { t with recorder := t.recorder.stop key now }
  | .reset => { t with recorder := t.recorder.reset }
  | .scope key n now =>
    let begun := Scope.begin t.recorder key now
    t.keep n begun.1 ⟨begun.2, rfl⟩
  | .finish key n now =>
    match t.scopes key n with
    | some s =>
      let closed := s.1.close t.recorder now
      t.keep n closed.1 ⟨closed.2, (s.1.key_close t.recorder now).trans s.2⟩
    | none => t

/-- What a history leads to. -/
def after : List Event → Timekeeping
  | [] => {}
  | e :: before => (after before).step e

/-! ### Marks -/

/-- A start or a stop of one key. -/
inductive Mark
  | start (now : Int)
  | stop (now : Int)
  deriving DecidableEq, Repr

/-- Was the scope begun, and not stopped since? -/
def isLive (key : Bytes) (n : Nat) : List Event → Bool
  | [] => false
  | .scope k m _ :: before => (k = key && m = n) || isLive key n before
  | .finish k m _ :: before => !(k = key && m = n) && isLive key n before
  | _ :: before => isLive key n before

/-- The starts and stops of a key since the last reset, latest first. A
scope is stopped once. -/
def marks (key : Bytes) : List Event → List Mark
  | [] => []
  | .reset :: _ => []
  | .start k now :: before => if k = key then .start now :: marks key before else marks key before
  | .stop k now :: before => if k = key then .stop now :: marks key before else marks key before
  | .scope k _ now :: before => if k = key then .start now :: marks key before else marks key before
  | .finish k n now :: before =>
    if k = key && isLive k n before then .stop now :: marks key before else marks key before

namespace Mark

/-- How many starts have not been stopped. -/
def unmatched : List Mark → Nat
  | [] => 0
  | .start _ :: before => unmatched before + 1
  | .stop _ :: before => unmatched before - 1

/-- The readings of the stops that had an unmatched start. -/
def answered : List Mark → List Int
  | [] => []
  | .start _ :: before => answered before
  | .stop now :: before => if 0 < unmatched before then now :: answered before else answered before

/-- The readings of the starts that have not been stopped, each stop having
stopped the latest. -/
def pending : List Mark → List Int
  | [] => []
  | .start now :: before => now :: pending before
  | .stop _ :: before => (pending before).tail

/-- The readings of the starts. -/
def starts : List Mark → List Int
  | [] => []
  | .start now :: before => now :: starts before
  | .stop _ :: before => starts before

/-- The readings of the stops. -/
def stops : List Mark → List Int
  | [] => []
  | .start _ :: before => stops before
  | .stop now :: before => now :: stops before

/-- As many measurements are open as starts are unmatched. -/
theorem length_pending (ms : List Mark) : (pending ms).length = unmatched ms := by
  induction ms with
  | nil => rfl
  | cons m before ih =>
    cases m with
    | start now => exact congrArg (· + 1) ih
    | stop now =>
      show (pending before).tail.length = unmatched before - 1
      rw [List.length_tail, ih]

/-- None is open when every start is matched. -/
theorem pending_eq_nil_iff {ms : List Mark} : pending ms = [] ↔ unmatched ms = 0 := by
  rw [← length_pending, List.length_eq_zero_iff]

/-- As long as no stop had an unmatched start, every start is open. -/
theorem pending_of_answered_eq_nil {ms : List Mark} (h : answered ms = []) :
    pending ms = starts ms := by
  induction ms with
  | nil => rfl
  | cons m before ih =>
    cases m with
    | start now => exact congrArg (now :: ·) (ih h)
    | stop now =>
      by_cases hopen : 0 < unmatched before
      · rw [answered, if_pos hopen] at h
        cases h
      · rw [answered, if_neg hopen] at h
        have hpending : pending before = [] := pending_eq_nil_iff.mpr (by omega)
        show (pending before).tail = starts before
        rw [← ih h, hpending]
        rfl

/-- What the stops that had an unmatched start have read, less what the
starts have read that they have stopped. -/
def total (ms : List Mark) : Int := (answered ms).sum + (pending ms).sum - (starts ms).sum

/-- What is known of the measurements that are closed. -/
def timing? (ms : List Mark) : Option Timing :=
  if answered ms = [] then none else some { calls := (answered ms).length, total := total ms }

/-- The measurements that are open. -/
def opened? (ms : List Mark) : Option (List Int) :=
  if pending ms = [] then none else some (pending ms)

/-- The timing of a lane is that of its marks. -/
theorem timing?_getD (ms : List Mark) :
    (timing? ms).getD {} = { calls := (answered ms).length, total := total ms } := by
  unfold timing?
  split
  next hnone => simp [total, hnone, pending_of_answered_eq_nil hnone]
  next => rfl

end Mark

/-! ### Lanes -/

/-- What a timekeeping has for one key. -/
structure Lane extends Recorder.Lane where
  /-- Was the scope of a number stopped, if there is one? -/
  scope : Nat → Option Bool

namespace Lane

/-- The lane once it is started; scopes are left as they are. -/
def start (l : Lane) (now : Int) : Lane := { l with toLane := l.toLane.start now }

/-- The lane once it is stopped; scopes are left as they are. -/
def stop (l : Lane) (now : Int) : Lane := { l with toLane := l.toLane.stop now }

/-- What an event on its key, or a reset, does to a lane. -/
def act (l : Lane) : Event → Lane
  | .start _ now => l.start now
  | .stop _ now => l.stop now
  | .reset => { toLane := {}, scope := l.scope }
  | .scope _ n now => { l.start now with scope := Function.update l.scope n (some false) }
  | .finish _ n now =>
    match l.scope n with
    | some false => { l.stop now with scope := Function.update l.scope n (some true) }
    | _ => l

end Lane

/-- What there is under a key, with the scopes that were begun for it. -/
def lane (t : Timekeeping) (key : Bytes) : Lane where
  toLane := t.recorder.lane key
  scope n := (t.scopes key n).map (·.1.stopped)

/-- A timekeeping is its lanes. -/
theorem ext_lane {t t' : Timekeeping} (h : ∀ key, t.lane key = t'.lane key) : t = t' := by
  have hrecorder : t.recorder = t'.recorder := Recorder.ext_lane fun key =>
    congrArg Lane.toLane (h key)
  have hscopes : t.scopes = t'.scopes := by
    funext key n
    have hstopped : (t.scopes key n).map (·.1.stopped) = (t'.scopes key n).map (·.1.stopped) :=
      congrFun (congrArg Lane.scope (h key)) n
    cases hs : t.scopes key n with
    | none =>
      rw [hs] at hstopped
      exact (Option.map_eq_none_iff.mp hstopped.symm).symm
    | some s =>
      rw [hs] at hstopped
      obtain ⟨s', hs', hsame⟩ := Option.map_eq_some_iff.mp hstopped.symm
      rw [hs']
      obtain ⟨⟨k, b⟩, hk⟩ := s
      obtain ⟨⟨k', b'⟩, hk'⟩ := s'
      -- Both have the key, so they are told apart by nothing else.
      simp only [Option.some.injEq, Subtype.mk.injEq, Scope.mk.injEq]
      exact ⟨hk.trans hk'.symm, hsame.symm⟩
  cases t
  cases t'
  cases hrecorder
  cases hscopes
  rfl

/-- Keeping a scope concerns the lane of its key. -/
theorem lane_keep (t : Timekeeping) {key : Bytes} (n : Nat) (r : Recorder)
    (s : { s : Scope // s.key = key }) (j : Bytes) : (t.keep n r s).lane j =
      { toLane := r.lane j
        scope := if j = key then Function.update (t.lane j).scope n (some s.1.stopped)
        else (t.lane j).scope } := by
  by_cases hj : j = key
  · subst hj
    rw [if_pos rfl, lane, Lane.mk.injEq]
    refine ⟨rfl, ?_⟩
    funext m
    by_cases hm : m = n
    · subst hm
      simp [keep]
    · simp [lane, keep, hm]
  · rw [if_neg hj]
    simp [lane, keep, hj]

/-- A lane does not see events on other keys. -/
theorem lane_step_of_ne (t : Timekeeping) {e : Event} {k key : Bytes} (he : e.key? = some k)
    (hne : key ≠ k) :
    (t.step e).lane key = t.lane key := by
  cases e <;> cases he
  case start now => simp [step, lane, Recorder.lane_start, hne]
  case stop now => simp [step, lane, Recorder.lane_stop, hne]
  case scope n now =>
    show (t.keep n (t.recorder.start k now) ⟨{ key := k }, rfl⟩).lane key = _
    rw [lane_keep, Recorder.lane_start, if_neg hne, if_neg hne]
    rfl
  case finish n now =>
    -- A scope that is not there, or is stopped already, is left alone.
    cases hs : t.scopes k n with
    | none => simp only [step, hs]
    | some s =>
      obtain ⟨⟨_, stopped⟩, rfl⟩ := s
      simp only [step, hs]
      rw [lane_keep, if_neg hne]
      cases stopped with
      | false =>
        show ({ toLane := (t.recorder.stop _ now).lane key, scope := (t.lane key).scope } : Lane) =
            _
        rw [Recorder.lane_stop, if_neg hne]
        rfl
      | true => rfl

/-- It sees those on its own key. -/
theorem lane_step_of_eq (t : Timekeeping) {e : Event} {key : Bytes} (he : e.key? = some key) :
    (t.step e).lane key = (t.lane key).act e := by
  cases e <;> cases he
  case start now => simp [step, lane, Recorder.lane_start, Lane.act, Lane.start]
  case stop now => simp [step, lane, Recorder.lane_stop, Lane.act, Lane.stop]
  case scope n now =>
    show (t.keep n (t.recorder.start key now) ⟨{ key }, rfl⟩).lane key = _
    rw [lane_keep, Recorder.lane_start, if_pos rfl, if_pos rfl]
    rfl
  case finish n now =>
    have hscope : (t.lane key).scope n = (t.scopes key n).map (·.1.stopped) := rfl
    cases hs : t.scopes key n with
    | none =>
      rw [hs] at hscope
      simp only [step, hs, Lane.act, hscope, Option.map_none]
    | some s =>
      obtain ⟨⟨_, stopped⟩, rfl⟩ := s
      rw [hs, Option.map_some] at hscope
      simp only [step, hs, Lane.act, hscope]
      rw [lane_keep, if_pos rfl]
      cases stopped with
      | false =>
        show ({ toLane := (t.recorder.stop _ now).lane _, scope := Function.update _ n (some true) }
            : Lane) = _
        rw [Recorder.lane_stop, if_pos rfl]
        rfl
      | true =>
        -- A scope that was stopped before stays as it is.
        have hsame : Function.update (t.lane _).scope n (some true) = (t.lane _).scope :=
          Function.update_eq_self_iff.mpr hscope.symm
        exact congrArg (Lane.mk _) hsame

/-- An event is seen by the lane of its key, a reset by all lanes. -/
theorem lane_step (t : Timekeeping) (e : Event) (key : Bytes) :
    (t.step e).lane key = if e.key? = none ∨ e.key? = some key then (t.lane key).act e
    else t.lane key := by
  cases he : e.key? with
  | none =>
    cases e <;> cases he
    rfl
  | some k =>
    by_cases hk : key = k
    · subst hk
      simp [lane_step_of_eq t he]
    · simp [lane_step_of_ne t he hk, Ne.symm hk]

/-- Events on different keys commute. -/
theorem step_comm (t : Timekeeping) {e e' : Event} {key key' : Bytes} (he : e.key? = some key)
    (he' : e'.key? = some key') (hne : key ≠ key') : (t.step e).step e' = (t.step e').step e := by
  refine ext_lane fun j => ?_
  simp only [lane_step, he, he']
  by_cases hj : key = j
  · simp [hj, hj ▸ hne.symm]
  · simp [hj]

/-! ### Histories -/

/-- A lane holds the measurements of these marks. -/
structure Measures (l : Recorder.Lane) (ms : List Mark) : Prop where
  opened : l.opened = Mark.opened? ms
  timing : l.timing = Mark.timing? ms

namespace Measures

variable {l : Recorder.Lane} {ms : List Mark}

/-- A start is one more mark. -/
theorem start (h : Measures l ms) (now : Int) : Measures (l.start now) (.start now :: ms) where
  opened := by
    show some (now :: l.opened.getD []) = _
    rw [h.opened, Mark.opened?, Mark.opened?]
    by_cases hnone : Mark.pending ms = [] <;> simp [Mark.pending, hnone]
  timing := by
    show l.timing = _
    rw [h.timing, Mark.timing?, Mark.timing?]
    have htotal : Mark.total (.start now :: ms) = Mark.total ms := by
      simp only [Mark.total, Mark.answered, Mark.pending, Mark.starts, List.sum_cons]
      omega
    rw [htotal]
    rfl

/-- A stop closes the latest start that is open, and is ignored when there
is none. -/
theorem stop (h : Measures l ms) (now : Int) : Measures (l.stop now) (.stop now :: ms) := by
  have hopened := h.opened
  unfold Mark.opened? at hopened
  cases hpending : Mark.pending ms with
  | nil =>
    have hunmatched : Mark.unmatched ms = 0 := Mark.pending_eq_nil_iff.mp hpending
    have hanswered : Mark.answered (.stop now :: ms) = Mark.answered ms := by
      simp [Mark.answered, hunmatched]
    have hpending' : Mark.pending (.stop now :: ms) = Mark.pending ms := by
      simp [Mark.pending, hpending]
    rw [hpending, if_pos rfl] at hopened
    rw [Recorder.Lane.stop, hopened]
    constructor
    · rw [h.opened, Mark.opened?, Mark.opened?, hpending']
    · rw [h.timing, Mark.timing?, Mark.timing?, Mark.total, Mark.total, hanswered, hpending']
      rfl
  | cons began earlier =>
    have hunmatched : 0 < Mark.unmatched ms := by
      rw [← Mark.length_pending, hpending]
      exact Nat.succ_pos _
    have hanswered : Mark.answered (.stop now :: ms) = now :: Mark.answered ms := by
      simp [Mark.answered, hunmatched]
    have hpending' : Mark.pending (.stop now :: ms) = earlier := by simp [Mark.pending, hpending]
    rw [hpending, if_neg (List.cons_ne_nil _ _)] at hopened
    rw [Recorder.Lane.stop, hopened]
    constructor
    · rw [Mark.opened?, hpending']
      cases earlier <;> rfl
    · -- The total grows by what the stop read, less what the start read.
      have htotal : Mark.total (.stop now :: ms) = Mark.total ms + (now - began) := by
        simp only [Mark.total, hanswered, hpending', hpending, Mark.starts, List.sum_cons]
        omega
      dsimp only
      rw [h.timing, Mark.timing?_getD, Mark.timing?, hanswered,
        if_neg (List.cons_ne_nil _ _), htotal]
      rfl

end Measures

/-- An event on another key leaves no mark, and ends no scope. -/
theorem marks_cons_of_ne {e : Event} {k key : Bytes} (he : e.key? = some k) (hne : key ≠ k)
    (before : List Event) :
    marks key (e :: before) = marks key before ∧ ∀ n, isLive key n (e :: before) =
      isLive key n before := by
  cases e <;> cases he <;> simp [marks, isLive, Ne.symm hne]

/-- What is known of a lane: it holds the measurements of the marks of its
key, and the scopes that are live are those that are not stopped. -/
def Tells (l : Lane) (key : Bytes) (h : List Event) : Prop :=
  Measures l.toLane (marks key h) ∧ ∀ n, l.scope n = some false ↔ isLive key n h = true

namespace Tells

variable {l : Lane} {key : Bytes} {before : List Event}

/-- A scope is told by what it does. -/
theorem scope (h : Tells l key before) (n : Nat) (now : Int) :
    Tells (l.act (.scope key n now)) key (.scope key n now :: before) := by
  obtain ⟨hmeasures, hlive⟩ := h
  have hstarted := hmeasures.start now
  simp only [Tells, marks, isLive, if_true, Lane.act]
  refine ⟨⟨hstarted.opened, hstarted.timing⟩, fun m => ?_⟩
  by_cases hm : m = n
  · simp [hm]
  · simp [hm, Ne.symm hm, hlive]

/-- The first time, the scope is live and stopped; later nothing happens. -/
theorem finish (h : Tells l key before) (n : Nat) (now : Int) :
    Tells (l.act (.finish key n now)) key (.finish key n now :: before) := by
  obtain ⟨hmeasures, hlive⟩ := h
  simp only [Tells, marks, isLive, decide_true, Bool.true_and, Lane.act]
  cases hn : isLive key n before with
  | true =>
    -- A scope that is not live was never started, or is stopped already.
    have hstopped := hmeasures.stop now
    rw [(hlive n).mpr hn, if_pos rfl]
    refine ⟨⟨hstopped.opened, hstopped.timing⟩, fun m => ?_⟩
    by_cases hm : m = n
    · simp [hm]
    · simp [hm, Ne.symm hm, hlive]
  | false =>
    have hstopped : l.scope n ≠ some false := fun hs => by
      rw [(hlive n).mp hs] at hn
      cases hn
    rw [if_neg Bool.false_ne_true]
    split
    next hs => exact absurd hs hstopped
    next =>
      refine ⟨hmeasures, fun m => ?_⟩
      by_cases hm : m = n
      · simp [hm, hstopped, hn]
      · simp [Ne.symm hm, hlive]

end Tells

/-- After any history every lane is known in this way. -/
theorem lane_after (key : Bytes) (h : List Event) : Tells ((after h).lane key) key h := by
  induction h with
  | nil => exact ⟨⟨rfl, rfl⟩, fun n => by simp [after, lane, isLive]⟩
  | cons e before ih =>
    cases he : e.key? with
    | none =>
      cases e <;> cases he
      exact ⟨⟨rfl, rfl⟩, ih.2⟩
    | some k =>
      -- Events of other keys leave the lane as it is.
      by_cases hk : key = k
      case neg =>
        obtain ⟨hmarks, hlive⟩ := marks_cons_of_ne he hk before
        simp only [after, lane_step_of_ne _ he hk, Tells, hmarks, hlive]
        exact ih
      case pos =>
        subst hk
        rw [after, lane_step_of_eq _ he]
        cases e with
        | start k now =>
          cases he
          simp only [Tells, marks, isLive, if_true]
          exact ⟨ih.1.start now, ih.2⟩
        | stop k now =>
          cases he
          simp only [Tells, marks, isLive, if_true]
          exact ⟨ih.1.stop now, ih.2⟩
        | reset => cases he
        | scope k n now =>
          cases he
          exact ih.scope n now
        | finish k n now =>
          cases he
          exact ih.finish n now

/-- What is told about a key depends on its marks. -/
theorem stats_after (h : List Event) (key : Bytes) :
    (after h).recorder.stats.lookup key = Mark.timing? (marks key h) := by
  have hbeq : (inferInstance : BEq Bytes) = instBEqOfDecidableEq := lawful_beq_subsingleton _ _
  rw [← (lane_after key h).1.timing]
  exact congrArg (fun beq => @List.lookup _ _ beq key (after h).recorder.stats) hbeq

/-- After any history the calls of a key are its stops since the last reset
that had an unmatched start, where a scope is stopped once. What is told is
in strict key order. When every start has been stopped since the last reset
and no stop was without one, the total is what the stops read less what the
starts read. Events on different keys commute. -/
theorem after_spec (h : List Event) :
    (∀ key, (((after h).recorder.stats.lookup key).getD {}).calls =
      (Mark.answered (marks key h)).length) ∧ (∀ key, Mark.unmatched (marks key h) = 0 →
      Mark.answered (marks key h) = Mark.stops (marks key h) →
        (((after h).recorder.stats.lookup key).getD {}).total =
          (Mark.stops (marks key h)).sum - (Mark.starts (marks key h)).sum) ∧
      ((after h).recorder.stats.map Prod.fst).Pairwise (· < ·) ∧
      ((after h).recorder.stats.map Prod.fst).Nodup ∧
      ∀ (e e' : Event) (key key' : Bytes), e.key? = some key → e'.key? = some key' → key ≠ key' →
        after (e' :: e :: h) = after (e :: e' :: h) := by
  refine ⟨fun key => ?_, fun key hclosed hmatched => ?_, Dict.pairwise_keys _,
    Dict.nodup_keys _, ?_⟩
  · rw [stats_after, Mark.timing?_getD]
  · have hpending : Mark.pending (marks key h) = [] := Mark.pending_eq_nil_iff.mpr hclosed
    rw [stats_after, Mark.timing?_getD]
    show Mark.total (marks key h) = _
    rw [Mark.total, hmatched, hpending, List.sum_nil, Int.add_zero]
  · intro e e' key key' he he' hne
    exact step_comm (after h) he he' hne

/-- A reset, two scopes of one key that end in the order they began in, the
first one twice, and an event on another key. -/
theorem after_spec_scopes :
    let h : List Event := [.finish [1] 1 9, .finish [1] 0 8, .finish [1] 0 7, .scope [1] 1 4,
      .scope [1] 0 2, .reset, .start [1] 1]
    Mark.unmatched (marks [1] h) = 0 ∧ Mark.answered (marks [1] h) = Mark.stops (marks [1] h) ∧
      (((after h).recorder.stats.lookup [1]).getD {}).calls = 2 ∧
      (((after h).recorder.stats.lookup [1]).getD {}).total = 10 ∧
      after (.start [2] 11 :: .stop [1] 10 :: h) = after (.stop [1] 10 :: .start [2] 11 :: h) := by
  intro h
  have hspec := after_spec h
  have hclosed : Mark.unmatched (marks [1] h) = 0 := by decide
  have hmatched : Mark.answered (marks [1] h) = Mark.stops (marks [1] h) := by decide
  refine ⟨hclosed, hmatched, ?_, ?_, ?_⟩
  · rw [hspec.1]
    decide
  · rw [hspec.2.1 [1] hclosed hmatched]
    decide
  · exact hspec.2.2.2.2 (.stop [1] 10) (.start [2] 11) [1] [2] rfl rfl (by decide)

end Timekeeping

end ObjectBridge

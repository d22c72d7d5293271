import ObjectBridge.Proofs.Bridge.Books
import ObjectBridge.Proofs.Bridge.Hosts

/-!
# `ObjectBridge.Proofs.Bridge.Stopping`: whose flag stops a script

A runtime runs one script after the other, and each run has a watcher of its
own. A `Scene` is what caller and watchers share, `Scene.step` is what each of
them may do next, and a course of events interleaves them in any order.

A flag that stops a script was raised by some watcher. It is the watcher of
an earlier run exactly when it acted late, that is, after the flag had been
lowered for its own run (`Scene.raised_late_iff`). There is time for that:
the watcher of a run is told that the run is over only after the flag has
been lowered.

Scripts that are executed one after the other are such a course
(`Runtime.course_executeAll`).
-/

set_option autoImplicit false

namespace ObjectBridge

/-! ### Caller and watchers -/

/-- Where the caller is. -/
inductive Phase
  /-- No script is being executed. -/
  | idle
  | running
  /-- The script has ended, or could not be read. -/
  | ended
  /-- The flag has been lowered; the watcher has not been told yet. -/
  | lowered
  deriving DecidableEq, Repr

/-- Where a runtime and its watchers are. -/
structure Scene where
  watch : Watch := {}
  phase : Phase := .idle
  /-- The runs whose watchers have not acted and have not left. -/
  waiting : List Nat := []
  deriving DecidableEq, Repr

/-- What happens next. -/
inductive Event
  | begin
  /-- The script cannot be read. -/
  | refuse
  | finish
  /-- The script finds the flag raised. -/
  | abort
  | lower
  /-- The watcher is told that the run is over. -/
  | tell
  /-- The watcher of a run raises the flag. -/
  | fire (run : Nat) (cancelled : Bool)
  /-- The watcher of a run takes note that the run is over. -/
  | leave (run : Nat)
  deriving DecidableEq, Repr

namespace Scene

/-- Has the flag been lowered for a run? -/
def isOver (s : Scene) (run : Nat) : Bool := run < s.watch.runs || s.phase = .lowered ||
    s.phase = .idle

/-- Has the watcher of a run been told that it is over? It may act all the
same, as long as it has not taken note of that. -/
def isTold (s : Scene) (run : Nat) : Bool := run < s.watch.runs || s.phase = .idle

/-- The scene after an event, if the event is possible. -/
def step (s : Scene) : Event → Option Scene
  | .begin =>
    if s.phase = .idle then
      some { watch := s.watch.start, phase := .running, waiting := (s.watch.runs + 1) :: s.waiting }
    else none
  | .refuse => if s.phase = .running then some { s with phase := .ended } else none
  | .finish => if s.phase = .running ∧ s.watch.flag = none then some { s with phase := .ended }
  else none
  | .abort => if s.phase = .running ∧ s.watch.flag ≠ none then some { s with phase := .ended }
  else none
  | .lower => if s.phase = .ended then some { s with watch := s.watch.lower, phase := .lowered }
  else none
  | .tell => if s.phase = .lowered then some { s with phase := .idle } else none
  | .fire run cancelled =>
    if run ∈ s.waiting then
      some { s with watch := s.watch.raise { run, cancelled }, waiting := s.waiting.erase run }
    else none
  | .leave run =>
    if run ∈ s.waiting ∧ s.isTold run then some { s with waiting := s.waiting.erase run } else none

/-- The scene after a course of events, if each of them is possible. -/
def follow (s : Scene) : List Event → Option Scene
  | [] => some s
  | e :: es => (s.step e).bind fun s' => s'.follow es

variable {s s' : Scene} {e : Event} {es es' : List Event}

/-- A course is followed by following its parts. -/
theorem follow_append (s : Scene) (es es' : List Event) :
    s.follow (es ++ es') = (s.follow es).bind fun s' => s'.follow es' := by
  induction es generalizing s with
  | nil => rfl
  | cons e es ih =>
    simp only [List.cons_append, follow, ih, Option.bind_assoc]

end Scene

/-- Does the event leave the flag as it is? -/
def Event.quiet : Event → Bool
  | .lower => false
  | .fire _ _ => false
  | _ => true

namespace Scene

variable {s s' : Scene} {e : Event} {es es' : List Event} {k : Nat}

/-! ### One event -/

/-- The stages of a run. -/
def rank : Phase → Nat
  | .running => 0
  | .ended => 1
  | .lowered => 2
  | .idle => 3

/-- How far the caller has come. -/
def stage (s : Scene) : Nat := 4 * s.watch.runs + rank s.phase

/-- What an event does: the caller goes on by one stage, or a watcher
acts or leaves. -/
theorem step_cases (h : s.step e = some s') :
    (s'.stage = s.stage + 1 ∧ (∀ k ∈ s'.waiting, k ∈ s.waiting ∨ k = s'.watch.runs) ∧
      (e = .lower ∧ s.phase = .ended ∧ s'.watch.flag = none ∨
        e.quiet = true ∧ s.phase ≠ .ended ∧ s'.watch.flag = s.watch.flag)) ∨
    (s'.stage = s.stage ∧ (∀ k ∈ s'.waiting, k ∈ s.waiting) ∧
      ((∃ run cancelled, e = .fire run cancelled ∧ run ∈ s.waiting ∧
        s'.watch.flag = some { run, cancelled }) ∨ e.quiet = true ∧ s'.watch.flag =
          s.watch.flag)) := by
  obtain ⟨watch, phase, waiting⟩ := s
  -- An event happens under the guard that its step checks.
  cases e <;> simp only [step, Option.ite_none_right_eq_some, Option.some.injEq] at h
  case begin =>
    obtain ⟨rfl, rfl⟩ := h
    exact .inl ⟨rfl, fun k hk => (List.mem_cons.mp hk).symm, .inr ⟨rfl, nofun, rfl⟩⟩
  case lower =>
    obtain ⟨rfl, rfl⟩ := h
    exact .inl ⟨rfl, fun k hk => .inl hk, .inl ⟨rfl, rfl, rfl⟩⟩
  case fire run cancelled =>
    obtain ⟨hrun, rfl⟩ := h
    exact .inr ⟨rfl, fun k hk => List.mem_of_mem_erase hk, .inl ⟨run, cancelled, rfl, hrun, rfl⟩⟩
  case leave run =>
    obtain ⟨-, rfl⟩ := h
    exact .inr ⟨rfl, fun k hk => List.mem_of_mem_erase hk, .inr ⟨rfl, rfl⟩⟩
  case finish | abort =>
    obtain ⟨⟨rfl, -⟩, rfl⟩ := h
    exact .inl ⟨rfl, fun k hk => .inl hk, .inr ⟨rfl, nofun, rfl⟩⟩
  case refuse | tell =>
    obtain ⟨rfl, rfl⟩ := h
    exact .inl ⟨rfl, fun k hk => .inl hk, .inr ⟨rfl, nofun, rfl⟩⟩

/-- Each run takes four stages. -/
theorem runs_eq (s : Scene) : s.watch.runs = s.stage / 4 := by
  unfold stage
  cases s.phase <;> simp only [rank] <;> omega

/-- After the first of them it has ended. -/
theorem phase_eq_ended_iff (s : Scene) : s.phase = .ended ↔ s.stage % 4 = 1 := by
  unfold stage
  cases s.phase <;> simp [rank]

/-- A run that has begun is over when the caller has come to its third
stage. -/
theorem isOver_iff (hk : k ≤ s.watch.runs) : s.isOver k = true ↔ 4 * k + 2 ≤ s.stage := by
  unfold isOver stage
  cases s.phase <;> simp [rank] <;> omega

/-! ### Courses -/

/-- Only runs that have begun have watchers. -/
theorem waiting_le (hs : ∀ k ∈ s.waiting, k ≤ s.watch.runs) (h : s.follow es = some s') :
    ∀ k ∈ s'.waiting, k ≤ s'.watch.runs := by
  induction es generalizing s with
  | nil =>
    cases h
    exact hs
  | cons e es ih =>
    obtain ⟨s₁, hstep, hrest⟩ := Option.bind_eq_some_iff.mp h
    refine ih (fun k hk => ?_) hrest
    -- Only a run that begins brings a watcher, which is its own.
    have hruns := s.runs_eq
    have hruns₁ := s₁.runs_eq
    rcases step_cases hstep with ⟨hstage, hwaiting, -⟩ | ⟨hstage, hwaiting, -⟩
    · rcases hwaiting k hk with hold | hnew
      · have := hs k hold
        omega
      · exact Nat.le_of_eq hnew
    · have := hs k (hwaiting k hk)
      omega

/-- Where the flag is neither raised nor lowered, no run gets over that has
not been over before. -/
theorem follow_quiet (hquiet : ∀ e ∈ es, e.quiet = true) (h : s.follow es = some s') :
    s'.watch.flag = s.watch.flag ∧ s.stage ≤ s'.stage ∧ ∀ k, s.stage ≤ 4 * k + 1 →
      s'.stage ≤ 4 * k + 1 := by
  induction es generalizing s with
  | nil =>
    cases h
    exact ⟨rfl, Nat.le_refl _, fun k hk => hk⟩
  | cons e es ih =>
    obtain ⟨s₁, hstep, hrest⟩ := Option.bind_eq_some_iff.mp h
    obtain ⟨hflag, hstage, hbound⟩ :=
      ih (fun e' he' => hquiet e' (List.mem_cons_of_mem _ he')) hrest
    have he := hquiet e List.mem_cons_self
    -- A quiet event takes the caller on from every stage but the one where the
    -- flag is to be lowered.
    rcases step_cases hstep with ⟨hnext, -, ⟨rfl, -⟩ | ⟨-, hphase, hsame⟩⟩ | ⟨hnext, -,
      ⟨_, _, rfl, -⟩ | ⟨-, hsame⟩⟩
    · cases he
    · have hended := mt s.phase_eq_ended_iff.mpr hphase
      exact ⟨hflag.trans hsame, by omega, fun k hk => hbound k (by omega)⟩
    · cases he
    · exact ⟨hflag.trans hsame, by omega, fun k hk => hbound k (by omega)⟩

/-- A flag was raised by a watcher, and has been left alone since. -/
theorem flag_origin {f : Interrupt} (hs : s.watch.flag = none) (h : s.follow es = some s')
    (hf : s'.watch.flag = some f) :
    ∃ before after s₀, es = before ++ .fire f.run f.cancelled :: after ∧ s.follow before = some s₀ ∧
      f.run ∈ s₀.waiting ∧ ∀ e ∈ after, e.quiet = true := by
  -- The last event either raised the flag or found it raised.
  induction es using List.reverseRecOn generalizing s' with
  | nil =>
    cases h
    cases hs.symm.trans hf
  | append_singleton es e ih =>
    rw [follow_append] at h
    obtain ⟨s₁, hfirst, hlast⟩ := Option.bind_eq_some_iff.mp h
    obtain ⟨s₂, hstep, hdone⟩ := Option.bind_eq_some_iff.mp hlast
    cases hdone
    have hearlier (hquiet : e.quiet = true) (hsame : s'.watch.flag = s₁.watch.flag) :
        ∃ before after s₀, es ++ [e] = before ++ .fire f.run f.cancelled :: after ∧
          s.follow before = some s₀ ∧ f.run ∈ s₀.waiting ∧ ∀ e ∈ after, e.quiet = true := by
      obtain ⟨before, after, s₀, hes, hbefore, hrun, hafter⟩ := ih hfirst (hsame.symm.trans hf)
      refine ⟨before, after ++ [e], s₀, ?_, hbefore, hrun, ?_⟩
      · rw [hes, List.append_assoc, List.cons_append]
      · exact List.forall_mem_append.mpr ⟨hafter, List.forall_mem_singleton.mpr hquiet⟩
    rcases step_cases hstep with ⟨-, -, ⟨-, -, hnone⟩ | ⟨hquiet, -, hsame⟩⟩ | ⟨-, -,
      hraised | ⟨hquiet, hsame⟩⟩
    · cases hnone.symm.trans hf
    · exact hearlier hquiet hsame
    · obtain ⟨run, cancelled, rfl, hrun, hflag⟩ := hraised
      cases hflag.symm.trans hf
      exact ⟨es, [], s₁, rfl, hfirst, hrun, nofun⟩
    · exact hearlier hquiet hsame

/-- The flag that stops a script was raised for an earlier run exactly when
its watcher acted after the flag had been lowered for that run. -/
theorem raised_late_iff {f : Interrupt} (h : follow {} es = some s) (hrunning : s.phase = .running)
    (hf : s.watch.flag = some f) :
    ∃ before after s₀, es = before ++ .fire f.run f.cancelled :: after ∧
      follow {} before = some s₀ ∧ (∀ e ∈ after, e.quiet = true) ∧
      (f.run ≠ s.watch.runs ↔ s₀.isOver f.run = true) := by
  obtain ⟨before, after, s₀, rfl, hbefore, hrun, hafter⟩ := flag_origin rfl h hf
  refine ⟨before, after, s₀, rfl, hbefore, hafter, ?_⟩
  rw [follow_append, hbefore] at h
  obtain ⟨s₁, hfire, hrest⟩ :=
    Option.bind_eq_some_iff.mp (show (s₀.step (.fire f.run f.cancelled)).bind _ = some s from h)
  have hfired : s₁.stage = s₀.stage := by
    rcases step_cases hfire with ⟨-, -, ⟨hevent, -⟩ | ⟨hquiet, -⟩⟩ | ⟨hstage, -⟩
    · cases hevent
    · cases hquiet
    · exact hstage
  have hle := waiting_le (by simp) hbefore f.run hrun
  rw [isOver_iff hle]
  obtain ⟨-, hstage, hbound⟩ := follow_quiet hafter hrest
  have hruns := s.runs_eq
  have hruns₀ := s₀.runs_eq
  have hstage' : s.stage = 4 * s.watch.runs := by
    unfold stage
    rw [hrunning]
    rfl
  -- The flag is not lowered after it was raised. So the caller, whose run has
  -- begun, has lowered the flag for an earlier run before.
  constructor
  · intro hne
    by_contra hnot
    have := hbound f.run (by omega)
    omega
  · intro hover
    omega

end Scene

/-! ### Scripts as courses -/

variable {β : Type} {w w' : World β} {i : Nat}

/-- Waiting leaves the flag and the watcher as they were, or the watcher has
raised the flag and is gone. -/
def Watch.Waited (x y : Watch) : Prop :=
  y.runs = x.runs ∧
    (y.flag = x.flag ∧ y.watcher.map Prod.fst = x.watcher.map Prod.fst ∨
      y.flag = x.watcher.map Prod.fst ∧ x.watcher ≠ none ∧ y.watcher = none)

namespace Watch.Waited

/-- A watch has waited for nothing. -/
theorem refl (x : Watch) : x.Waited x := ⟨rfl, .inl ⟨rfl, rfl⟩⟩

/-- Waiting goes on. -/
theorem trans {x y z : Watch} (h : x.Waited y) (h' : y.Waited z) : x.Waited z := by
  -- A watcher that has raised the flag is gone and does not act again.
  obtain ⟨hruns, ⟨hflag, hwatcher⟩ | ⟨hraised, hthere, hgone⟩⟩ := h
  · obtain ⟨hruns', ⟨hflag', hwatcher'⟩ | ⟨hraised', hthere', hgone'⟩⟩ := h'
    · exact ⟨hruns'.trans hruns, .inl ⟨hflag'.trans hflag, hwatcher'.trans hwatcher⟩⟩
    · refine ⟨hruns'.trans hruns, .inr ⟨hraised'.trans hwatcher, fun hnone => hthere' ?_, hgone'⟩⟩
      rw [hnone, Option.map_none, Option.map_eq_none_iff] at hwatcher
      exact hwatcher
  · obtain ⟨hruns', ⟨hflag', hwatcher'⟩ | ⟨-, hthere', -⟩⟩ := h'
    · refine ⟨hruns'.trans hruns, .inr ⟨hflag'.trans hraised, hthere, ?_⟩⟩
      rw [hgone, Option.map_none, Option.map_eq_none_iff] at hwatcher'
      exact hwatcher'
    · exact absurd hgone hthere'

/-- Time that elapses is waited. -/
theorem elapse (x : Watch) (steps : Nat) : x.Waited (x.elapse steps) := by
  unfold Watch.elapse
  split
  next f patience hwatcher =>
    split
    · refine ⟨rfl, .inr ⟨?_, ?_, rfl⟩⟩
      · rw [hwatcher]
        rfl
      · rw [hwatcher]
        nofun
    · refine ⟨rfl, .inl ⟨rfl, ?_⟩⟩
      rw [hwatcher]
      rfl
  next => exact .refl x

end Watch.Waited

/-- The watches of a world are those of its runtimes. -/
theorem World.watch_runtime (w : World β) (i : Nat) :
    (w.runtime i).watch = w.watches.getD i {} := by
  rw [World.runtime, World.watches, Array.getD_eq_getD_getElem?, Array.getD_eq_getD_getElem?,
    Array.getElem?_map]
  cases w.runtimes[i]? <;> rfl

/-- Nothing happens to the watch of a runtime but that time passes. -/
def World.Waited (i : Nat) (w w' : World β) : Prop :=
  w'.runtimes.size = w.runtimes.size ∧ (w.runtime i).watch.Waited (w'.runtime i).watch

/-- With the same watches, a runtime has the same watch and is still there. -/
theorem World.watch_of_same (h : w'.watches = w.watches) (i : Nat) :
    (w'.runtime i).watch = (w.runtime i).watch ∧ w'.runtimes.size = w.runtimes.size := by
  constructor
  · rw [World.watch_runtime, World.watch_runtime, h]
  · have hsize := congrArg Array.size h
    rwa [World.watches, World.watches, Array.size_map, Array.size_map] at hsize

/-- With the same watches nobody has waited. -/
theorem World.waited_of_same (h : w'.watches = w.watches) : w.Waited i w' :=
  ⟨(World.watch_of_same h i).2, (World.watch_of_same h i).1.symm ▸ .refl _⟩

/-- Measuring leaves the watches. -/
theorem watches_withRecorder (recorder : Option Nat) (f : Recorder → Recorder) (w : World β) :
    (perform (withRecorder recorder f) w).2.watches = w.watches := by
  cases recorder <;> rfl

instance : Lenient (Same (World.watches (β := β))) where
  of_eq _ _ h := h
  stopped recorder _ h := (watches_withRecorder recorder _ _).trans
    (Eq.trans h (watches_withRecorder recorder _ _))
  stranded recorder _ h := (watches_withRecorder recorder _ _).trans
    (Eq.trans h (watches_withRecorder recorder _ _))

/-- Waiting goes on. -/
theorem World.Waited.trans {w'' : World β} (h : w.Waited i w') (h' : w'.Waited i w'') :
    w.Waited i w'' :=
  ⟨h'.1.trans h.1, h.2.trans h'.2⟩

/-- Recorders watch nothing. -/
theorem World.Waited.timed {recorder : Option Nat} {f g : Recorder → Recorder}
    (h : (perform (withRecorder recorder f) w).2.Waited i w') :
    w.Waited i (perform (withRecorder recorder g) w').2 :=
  ((World.waited_of_same (watches_withRecorder recorder f w)).trans h).trans
    (World.waited_of_same (watches_withRecorder recorder g w'))

instance : Lenient (World.Waited (β := β) i) where
  refl _ := World.waited_of_same rfl
  trans _ _ _ h h' := h.trans h'
  of_eq _ _ h := World.waited_of_same h
  stopped _ _ h := h.timed
  stranded _ _ h := h.timed

/-- What a scene has in common with the watch of a runtime that is not
running. -/
structure Scene.Shows (s : Scene) (y : Watch) : Prop where
  idle : s.phase = .idle
  runs : s.watch.runs = y.runs
  flag : s.watch.flag = y.flag

/-- Was the script stopped? Nothing was run when it could not be. -/
def Event.stopped? : Event → Option Bool
  | .refuse => some false
  | .finish => some false
  | .abort => some true
  | _ => none

/-- Was the run stopped from outside? A closed runtime did not run at all. -/
def Runtime.Execution.stopped? (x : Runtime.Execution) : Option Bool :=
  match x.result with
  | .error .closed => none
  | .error (.interrupted _) => some true
  | _ => some false

/-- An execution is a course, from a scene to one that shows the watch it
leaves. -/
def Scene.Plays (s : Scene) (x : Runtime.Execution) (y : Watch) : Prop :=
  ∃ es s', s.follow es = some s' ∧ s'.Shows y ∧ es.filterMap Event.stopped? = x.stopped?.toList

namespace Scene.Shows

variable {s : Scene} {x : Runtime.Execution} {y z : Watch}

/-- The course of one run, which ends in a scene like the one before it. -/
theorem plays_of_follow (h : s.Shows y) (es : List Event) (u : Watch)
    (hfollow : follow { s with phase := .idle } es = some { s with watch := u, phase := .idle })
    (hu : u.runs = s.watch.start.runs) (hz : z.runs = y.start.runs ∧ z.flag = u.flag)
    (hx : es.filterMap Event.stopped? = x.stopped?.toList) : s.Plays x z := by
  have hs : { s with phase := .idle } = s := by rw [← h.idle]
  rw [hs] at hfollow
  have hruns : u.runs = z.runs := (hu.trans (congrArg (· + 1) h.runs)).trans hz.1.symm
  exact ⟨es, _, hfollow, ⟨rfl, hruns, hz.2.symm⟩, hx⟩

/-- A run in which the watcher does not act. -/
theorem plays_unwatched (h : s.Shows y) {e : Event}
    (he : e = .refuse ∨ e = .finish ∧ y.flag = none ∨ e = .abort ∧ y.flag ≠ none)
    (hx : x.stopped? = e.stopped?) (hz : z.runs = y.start.runs ∧ z.flag = none) : s.Plays x z := by
  refine h.plays_of_follow [.begin, e, .lower, .tell, .leave (s.watch.runs + 1)] s.watch.start.lower
    ?_ rfl hz ?_
  · rw [← h.flag] at he
    rcases he with rfl | ⟨rfl, hnone⟩ | ⟨rfl, hsome⟩
    · simp [follow, step, isTold, Watch.start, Watch.lower]
    · simp [follow, step, isTold, Watch.start, Watch.lower, hnone]
    · simp [follow, step, isTold, Watch.start, Watch.lower, hsome]
  · rw [hx]
    rcases he with rfl | ⟨rfl, -⟩ | ⟨rfl, -⟩ <;> rfl

/-- A run that is stopped by its own watcher. -/
theorem plays_stopped (h : s.Shows y) (cancelled : Bool) (hx : x.stopped? = some true)
    (hz : z.runs = y.start.runs ∧ z.flag = none) : s.Plays x z := by
  refine h.plays_of_follow [.begin, .fire (s.watch.runs + 1) cancelled, .abort, .lower, .tell]
    s.watch.start.lower ?_ rfl hz ?_
  · simp [follow, step, Watch.start, Watch.raise, Watch.lower]
  · rw [hx]
    rfl

/-- A run whose watcher acts after the flag has been lowered. -/
theorem plays_late (h : s.Shows y) {f : Interrupt} (hf : f.run = y.start.runs)
    (hnone : y.flag = none) (hx : x.stopped? = some false)
    (hz : z.runs = y.start.runs ∧ z.flag = some f) : s.Plays x z := by
  have hrun : f.run = s.watch.runs + 1 := hf.trans (congrArg (· + 1) h.runs).symm
  refine h.plays_of_follow [.begin, .finish, .lower, .fire f.run f.cancelled, .tell]
    (s.watch.start.lower.raise f) ?_ rfl hz ?_
  · rw [hrun]
    simp [follow, step, Watch.start, Watch.raise, Watch.lower, h.flag.trans hnone, ← hrun]
  · rw [hx]
    rfl

end Scene.Shows

namespace Runtime

variable [Native β] {x : Execution}

omit [Native β] in
/-- A runtime that is changed is the change of what it was. -/
theorem runtime_modifyRuntime (hi : i < w.runtimes.size) (f : Runtime → Runtime) :
    World.runtime { w with runtimes := w.runtimes.modify i f } i = f (w.runtime i) :=
  (w.runtime_modify i i f).trans (if_pos ⟨rfl, hi⟩)

omit [Native β] in
/-- The world after a run has ended. -/
theorem finish_ends (hi : i < w.runtimes.size) {result : Except ScriptError Exported}
    (hrun : perform (finish i result : M β Execution) w = (.ok x, w')) :
    x.result = result ∧ (w'.runtime i).watch = (w.runtime i).watch.lower ∧
      w'.runtimes.size = w.runtimes.size := by
  unfold finish modifyWatch modifyRuntime at hrun
  rw [perform_bind_ok (perform_modify _ _), perform_bind_ok (perform_get _)] at hrun
  cases hrun
  exact ⟨rfl, congrArg Runtime.watch (runtime_modifyRuntime hi _), Array.size_modify⟩

variable (hu : Upheld (Same (World.watches (β := β))))

include hu

/-- What the text of something thrown is does not change the watch. -/
theorem finishThrown_ends (hi : i < w.runtimes.size) {v : Script.Value}
    (hrun : perform (finishThrown i v) w = (.ok x, w')) :
    x.stopped? = some false ∧ (w'.runtime i).watch = (w.runtime i).watch.lower ∧
      w'.runtimes.size = w.runtimes.size := by
  obtain ⟨ended, w₁, hfinish, hrest⟩ := exists_of_perform_bind hrun
  obtain ⟨-, hwatch, hsize⟩ := finish_ends hi hfinish
  obtain ⟨text, w₂, htext, hlast⟩ := exists_of_perform_bind hrest
  obtain ⟨hwatch₂, hsize₂⟩ := World.watch_of_same
    ((Obeys.caught (ScriptHost.obeys_textOf hu (nativeObeys_host hu) i v)).of_run htext) i
  have hended : x.stopped? = some false ∧ w' = w₂ := by
    rcases text with u | text
    · cases u with
      | thrown v =>
        cases hlast
        exact ⟨rfl, rfl⟩
      | _ => cases hlast
    · cases hlast
      exact ⟨rfl, rfl⟩
  obtain ⟨hstopped, rfl⟩ := hended
  exact ⟨hstopped, hwatch₂.trans hwatch, hsize₂.trans hsize⟩

/-- While a property is read on the way out, time passes. -/
theorem waited_fetchWatched (o : Script.ObjId) (key : Script.Key) :
    Obeys (World.Waited i) (fetchWatched i o key : M β (Option Script.Value)) := by
  have hheed (code : Bool) : Obeys (World.Waited i) (heedFlag i code : M β Unit) := by
    refine .bind .get fun w => ?_
    split
    · exact .throw _
    · exact .pure _
  have hfetch : Obeys (World.Waited i)
      (ScriptHost.fetch host i o key : M β (Option Script.Value)) := fun w =>
    World.waited_of_same (ScriptHost.obeys_fetch hu (nativeObeys_host hu) i o key w)
  have hpass : Obeys (World.Waited i) (passTime i : M β Unit) := by
    refine .modify fun w => ⟨Array.size_modify, ?_⟩
    rw [World.runtime_modify]
    split
    · exact .elapse _ _
    · exact .refl _
  exact .bind .get fun w => .bind (hheed _) fun _ => .bind (.cleanly hfetch hpass) fun v =>
    .bind (hheed _) fun _ => .pure _

/-- While the result is taken out, the watcher of the run may act. -/
theorem takeOut_ends (hi : i < w.runtimes.size) {f : Interrupt} {v : Script.Value}
    (hrun : perform (takeOut i f v) w = (.ok x, w')) :
    x.stopped? = some false ∧ (w'.runtime i).watch.runs = (w.runtime i).watch.runs ∧
      ((w'.runtime i).watch.flag = none ∨ (w'.runtime i).watch.flag = some f) ∧
      w'.runtimes.size = w.runtimes.size := by
  obtain ⟨ended, w₁, hfinish, hrest⟩ := exists_of_perform_bind hrun
  obtain ⟨-, hwatch₁, hsize₁⟩ := finish_ends hi hfinish
  have hi₁ : i < w₁.runtimes.size := hsize₁.symm ▸ hi
  rw [modifyRuntime, perform_bind_ok (perform_modify _ _)] at hrest
  have hkept := congrArg Runtime.watch
    (runtime_modifyRuntime hi₁ fun r => { r with watch := r.watch.keep f r.steps })
  generalize hw₂ : { w₁ with
    runtimes := w₁.runtimes.modify i fun r => { r with watch := r.watch.keep f r.steps } } =
      w₂ at hrest hkept
  have hsize₂ : w₂.runtimes.size = w.runtimes.size := hw₂ ▸ Array.size_modify.trans hsize₁
  dsimp only at hkept
  rw [hwatch₁] at hkept
  obtain ⟨out, w₃, hclean, hlast⟩ := exists_of_perform_bind hrest
  cases hlast
  -- The watcher is sent away in the world the export leaves.
  obtain ⟨hsize, hruns, hwaited⟩ := obeys_exportResult (waited_fetchWatched hu (i := i)) v w₂
  rw [perform_cleanly, modifyWatch, modifyRuntime, perform_modify] at hclean
  obtain ⟨-, rfl⟩ := Prod.mk.inj hclean
  have hlast := congrArg Runtime.watch (runtime_modifyRuntime
    (w := (perform (exportResult i v) w₂).2) (hsize.symm ▸ hsize₂.symm ▸ hi) fun r =>
      { r with watch := r.watch.dismiss })
  rw [hkept] at hruns hwaited
  refine ⟨rfl, ?_, ?_, Array.size_modify.trans (hsize.trans hsize₂)⟩
  · rw [hlast]
    exact hruns
  · rw [hlast]
    rcases hwaited with ⟨hflag, -⟩ | ⟨hflag, -, -⟩
    · exact .inl hflag
    · exact .inr hflag

/-- A run that came to an outcome is a course. It was begun in a scene that
shows the watch `y`, with the flag lowered. -/
theorem plays_conclude {s : Scene} {y : Watch} (hs : s.Shows y) (hnone : y.flag = none)
    (hi : i < w.runtimes.size) (hwatch : (w.runtime i).watch = y.start) {f : Interrupt}
    (hf : f.run = y.start.runs) {ran : Except Unwind Script.Outcome}
    (hrun : perform (conclude i f ran) w = (.ok x, w')) :
    s.Plays x (w'.runtime i).watch ∧ w'.runtimes.size = w.runtimes.size := by
  have hfinish : Event.finish = .refuse ∨ Event.finish = .finish ∧ y.flag = none ∨
      Event.finish = .abort ∧ y.flag ≠ none :=
    .inr (.inl ⟨rfl, hnone⟩)
  have hended {result : Except ScriptError Exported}
      (hstopped : Execution.stopped? { result, console := none } = some false)
      (hlast : perform (finish i result) w = (.ok x, w')) :
      s.Plays x (w'.runtime i).watch ∧ w'.runtimes.size = w.runtimes.size := by
    obtain ⟨rfl, hwatch', hsize⟩ := finish_ends hi hlast
    rw [hwatch', hwatch]
    exact ⟨hs.plays_unwatched hfinish hstopped ⟨rfl, rfl⟩, hsize⟩
  have hthrown {v : Script.Value} (hlast : perform (finishThrown i v) w = (.ok x, w')) :
      s.Plays x (w'.runtime i).watch ∧ w'.runtimes.size = w.runtimes.size := by
    obtain ⟨hx, hwatch', hsize⟩ := finishThrown_ends hu hi hlast
    rw [hwatch', hwatch]
    exact ⟨hs.plays_unwatched hfinish hx ⟨rfl, rfl⟩, hsize⟩
  unfold conclude at hrun
  split at hrun
  next v =>
    -- Only here the watcher may still act after the flag has been lowered.
    obtain ⟨hx, hruns, hlow | hhigh, hsize⟩ := takeOut_ends hu hi hrun
    · exact ⟨hs.plays_unwatched hfinish hx ⟨hwatch ▸ hruns, hlow⟩, hsize⟩
    · exact ⟨hs.plays_late hf hnone hx ⟨hwatch ▸ hruns, hhigh⟩, hsize⟩
  next => exact hended rfl hrun
  next => exact hended rfl hrun
  next => exact hended rfl hrun
  next =>
    obtain ⟨hresult, hwatch', hsize⟩ := finish_ends hi hrun
    rw [hwatch', hwatch]
    exact ⟨hs.plays_stopped f.cancelled (by rw [Execution.stopped?, hresult]) ⟨rfl, rfl⟩, hsize⟩
  next => exact hthrown hrun
  next => exact hthrown hrun
  next => cases hrun

/-- The execution of a script is a course. -/
theorem plays_execute {s : Scene} (hs : s.Shows (w.runtime i).watch) (hi : i < w.runtimes.size)
    {script : String} {cancelled : Bool}
    (hrun : perform (execute i script cancelled) w = (.ok x, w')) :
    s.Plays x (w'.runtime i).watch ∧ w'.runtimes.size = w.runtimes.size := by
  unfold execute at hrun
  rw [perform_bind_ok (perform_get w)] at hrun
  cases hopen : (w.runtime i).isOpen with
  | false =>
    rw [hopen, Bool.not_false, if_pos rfl] at hrun
    cases hrun
    exact ⟨⟨[], s, rfl, hs, rfl⟩, rfl⟩
  | true =>
    rw [hopen, Bool.not_true, if_neg Bool.false_ne_true, modifyRuntime,
      perform_bind_ok (perform_modify _ _)] at hrun
    have hbegun : _ = (w.runtime i).watch.start :=
      congrArg Runtime.watch (runtime_modifyRuntime hi begun)
    have hsize : (w.runtimes.modify i begun).size = w.runtimes.size := Array.size_modify
    generalize hw₁ : { w with runtimes := w.runtimes.modify i begun } = w₁ at hrun hbegun
    have hsize₁ : w₁.runtimes.size = w.runtimes.size := hw₁ ▸ hsize
    have hi₁ : i < w₁.runtimes.size := hsize₁.symm ▸ hi
    split at hrun
    next =>
      -- The script cannot be read.
      obtain ⟨hresult, hwatch, hsize'⟩ := finish_ends hi₁ hrun
      rw [hwatch, hbegun]
      exact ⟨hs.plays_unwatched (.inl rfl) (by rw [Execution.stopped?, hresult]; rfl) ⟨rfl, rfl⟩,
        hsize'.trans hsize₁⟩
    next program _ =>
      rw [perform_bind_ok (perform_get w₁)] at hrun
      dsimp only at hrun
      have hstarted : (w.runtime i).watch.start.flag = (w.runtime i).watch.flag := rfl
      rw [hbegun, hstarted] at hrun
      cases hflag : (w.runtime i).watch.flag with
      | some f =>
        -- A flag has been left, and nothing of the script is run.
        rw [hflag] at hrun
        obtain ⟨hresult, hwatch, hsize'⟩ := finish_ends hi₁ hrun
        rw [hwatch, hbegun]
        have hsome : (w.runtime i).watch.flag ≠ none := hflag ▸ nofun
        exact ⟨hs.plays_unwatched (.inr (.inr ⟨rfl, hsome⟩))
          (by rw [Execution.stopped?, hresult]; rfl) ⟨rfl, rfl⟩, hsize'.trans hsize₁⟩
      | none =>
        rw [hflag] at hrun
        dsimp only at hrun
        rw [perform_bind_ok (perform_caught _ _)] at hrun
        obtain ⟨hwatch₂, hsize₂⟩ :=
          World.watch_of_same (ScriptHost.obeys_runProgram hu (nativeObeys_host hu) i program
          (if cancelled then ScriptHost.leastSteps else ScriptHost.stepLimit (w₁.runtime i).config)
            w₁) i
        obtain ⟨hplays, hsize'⟩ :=
          plays_conclude hu hs hflag (hsize₂.symm ▸ hi₁) (hwatch₂.trans hbegun) rfl hrun
        exact ⟨hplays, (hsize'.trans hsize₂).trans hsize₁⟩

omit hu in
/-- Executes scripts one after the other. -/
def executeAll (i : Nat) : List (String × Bool) → M β (List Execution)
  | [] => return []
  | (script, cancelled) :: rest => do
    let x ← execute i script cancelled
    return x :: (← executeAll i rest)

/-- What a runtime does for scripts one after the other is a course of its
scene. -/
theorem course_executeAll {s : Scene} (hs : s.Shows (w.runtime i).watch) (hi : i < w.runtimes.size)
    {scripts : List (String × Bool)} {xs : List Execution}
    (hrun : perform (executeAll i scripts) w = (.ok xs, w')) :
    ∃ es s', s.follow es = some s' ∧ s'.Shows (w'.runtime i).watch ∧
      es.filterMap Event.stopped? = xs.filterMap Execution.stopped? := by
  induction scripts generalizing s w xs with
  | nil =>
    cases hrun
    exact ⟨[], s, rfl, hs, rfl⟩
  | cons next rest ih =>
    obtain ⟨script, cancelled⟩ := next
    obtain ⟨x, w₁, hfirst, hrest⟩ := exists_of_perform_bind hrun
    obtain ⟨others, w₂, hothers, hlast⟩ := exists_of_perform_bind hrest
    cases hlast
    obtain ⟨⟨es, s₁, hfollow, hshows, hstopped⟩, hsize⟩ := plays_execute hu hs hi hfirst
    obtain ⟨es', s₂, hfollow', hshows', hstopped'⟩ := ih hshows (hsize.symm ▸ hi) hothers
    refine ⟨es ++ es', s₂, ?_, hshows', ?_⟩
    · rw [Scene.follow_append, hfollow]
      exact hfollow'
    · rw [List.filterMap_append, hstopped, hstopped', List.filterMap_cons]
      cases x.stopped? <;> rfl

end Runtime

/-- What stops the scripts of a runtime. -/
structure Runtime.Stops (β : Type) [Native β] : Prop where
  /-- Scripts that are executed one after the other are a course. The same
  ones are stopped. -/
  course : ∀ (i : Nat) (w w' : World β) (scripts : List (String × Bool)) (xs : List Execution),
    i < w.runtimes.size → (w.runtime i).watch = {} → perform (executeAll i scripts) w =
    (.ok xs, w') → ∃ es s, Scene.follow {} es = some s ∧ s.Shows (w'.runtime i).watch ∧
      es.filterMap Event.stopped? = xs.filterMap Execution.stopped?
  /-- However caller and watchers take turns, a script is stopped by a flag
  that some watcher has raised. It is the watcher of an earlier run exactly
  when the flag had been lowered for that run before. -/
  late_iff : ∀ (es : List Event) (s : Scene) (f : Interrupt),
    Scene.follow {} es = some s → s.phase = .running → s.watch.flag = some f →
    ∃ before after s₀, es = before ++ .fire f.run f.cancelled :: after ∧
      Scene.follow {} before = some s₀ ∧ (∀ e ∈ after, e.quiet = true) ∧
      (f.run ≠ s.watch.runs ↔ s₀.isOver f.run = true)

/-- Neither hosts nor scripts touch a flag, provided that native code does
not. -/
theorem upheld_watches [Native β] (hn : ∀ ops : HostOps β, ops.Obey (Same World.watches) →
    NativeObeys (Same World.watches) ops) : Upheld (Same (World.watches (β := β))) where
  report := obeys_setLastError (fun _ _ _ => rfl) fun _ _ => rfl
  native := hn

/-- Scripts on a fresh runtime follow a course, and a flag is that of an
earlier run exactly when it was raised late. -/
theorem Runtime.stops [Native β] (hn : ∀ ops : HostOps β, ops.Obey (Same World.watches) →
    NativeObeys (Same World.watches) ops) : Stops β where
  course i w w' scripts xs hi hfresh hrun := by
    have hshows : Scene.Shows {} (w.runtime i).watch := hfresh ▸ ⟨rfl, rfl, rfl⟩
    exact course_executeAll (upheld_watches hn) hshows hi hrun
  late_iff _ _ _ h hrunning hf := Scene.raised_late_iff h hrunning hf

/-- The first watcher acts after the flag has been lowered and before it is
told; the second script finds the flag raised. -/
def lateCourse : List Event := [.begin, .finish, .lower, .fire 1 false, .tell, .begin]

/-- The second run is on, and the flag of the first is still up. -/
def lateScene : Scene where
  watch := { runs := 2, flag := some { run := 1, cancelled := false } }
  phase := .running
  waiting := [2]

/-- In the late course a watcher stops a run that is not its own. -/
theorem Runtime.stops_lateCourse :
    ∃ before after s₀, lateCourse = before ++ .fire 1 false :: after ∧
      Scene.follow {} before = some s₀ ∧ (∀ e ∈ after, e.quiet = true) ∧
      (1 ≠ lateScene.watch.runs ↔ s₀.isOver 1 = true) := by
  have hstops : Stops Behaviour := stops fun _ => Behaviour.nativeObeys
  exact hstops.late_iff lateCourse lateScene { run := 1, cancelled := false } (by decide) rfl rfl

/-- So a flag need not belong to the run that heeds it. -/
theorem not_own_lateCourse :
    ¬∀ (es : List Event) (s : Scene) (f : Interrupt), Scene.follow {} es = some s →
      s.phase = .running → s.watch.flag = some f → f.run = s.watch.runs := by
  intro h
  have hown := h lateCourse lateScene { run := 1, cancelled := false } (by decide) rfl rfl
  exact absurd hown (by decide)

end ObjectBridge

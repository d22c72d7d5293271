import Mathlib
import ObjectBridge.Trace.Traffic

/-!
# `ObjectBridge.Proofs.Trace.Steps`: what one step of the traffic does

The steps of calls and of the collector are functions that may fail. What
they do when they do not is said here once, case by case: a `Deed` of a call
and a `Gathering` of the collector. `Moves` puts them together, and every step
that is made is one (`Traffic.moves_of_step`), and the other way round
(`Moves.step`).

What is proved about the traffic is proved by these cases, and nothing looks
into the functions again.
-/

set_option autoImplicit false

namespace ObjectBridge.Tracer

variable {t t' : Traffic} {x x' : Shared} {c c' : Call} {k k' : Collector}
    {note : Option Note} {i : Nat}

/-! ### What a step does -/

/-- What a step of a call does. -/
inductive Deed (x : Shared) (i : Nat) : Call → Shared → Call → Option Note → Prop
  | enter {s} (hfree : x.writer = false) :
    Deed x i (.submit s .entering) { x with readers := x.readers + 1 } (.submit s .looking) none
  | drop {s} (hclosed : x.tracer.closed = true) :
    Deed x i (.submit s .looking) x (.submit s .leaving) (some (.dropped i s))
  | proceed {s} (hopen : x.tracer.closed = false) : Deed x i (.submit s .looking) x
    (.submit s .handing) none
  | spill {s} (hshut : x.shut = false) (hfull : bufferSize ≤ x.tracer.waiting.length) :
    Deed x i (.submit s .handing) x (.submit s .leaving) (some (.spilled i s))
  | hand {s} (hshut : x.shut = false) (hroom : x.tracer.waiting.length < bufferSize) :
    Deed x i (.submit s .handing) { x with tracer := x.tracer.enqueue s } (.submit s .leaving)
      (some (.submitted i s))
  | leave {s} (hreader : x.readers ≠ 0) :
    Deed x i (.submit s .leaving) { x with readers := x.readers - 1 } (.submit s .returned)
      (some (.returned i))
  | seize (hfree : x.writer = false) (hreaders : x.readers = 0) :
    Deed x i (.close .entering) { x with writer := true } (.close .looking) none
  | findClosed (hclosed : x.tracer.closed = true) : Deed x i (.close .looking) x
    (.close (.leaving false)) none
  | findOpen (hopen : x.tracer.closed = false) : Deed x i (.close .looking) x (.close .marking) none
  | mark :
    Deed x i (.close .marking) { x with tracer := { x.tracer with closed := true } }
      (.close .shutting) (some (.closed i))
  | shut (hshut : x.shut = false) : Deed x i (.close .shutting) { x with shut := true }
    (.close (.leaving true)) none
  | yieldFirst (hwriter : x.writer = true) :
    Deed x i (.close (.leaving true)) { x with writer := false } (.close .waiting) none
  | yield (hwriter : x.writer = true) :
    Deed x i (.close (.leaving false)) { x with writer := false } (.close (.returned false))
      (some (.returned i))
  | finish (hdone : x.done = true) : Deed x i (.close .waiting) x (.close (.returned true))
    (some (.returned i))

/-- A submission that goes on does its part. -/
theorem Submission.deed_of_go {s : Span} {stage stage' : Submission}
    (h : stage.go x i s = .ok (x', stage', note)) :
    Deed x i (.submit s stage) x' (.submit s stage') note := by
  cases stage <;> dsimp only [Submission.go] at h
  case entering =>
    -- The guards of the stages are the premises of the deeds.
    split at h <;> cases h
    next hfree => exact .enter (by simpa using hfree)
  case looking =>
    split at h <;> cases h
    · next hclosed => exact .drop hclosed
    · next hopen => exact .proceed (by simpa using hopen)
  case handing =>
    split at h
    · cases h
    · next hshut =>
      have hshut : x.shut = false := by simpa using hshut
      split at h <;> cases h
      · next hfull => exact .spill hshut hfull
      · next hroom => exact .hand hshut (Nat.lt_of_not_le hroom)
  case leaving =>
    split at h <;> cases h
    next hreader => exact .leave hreader
  case returned => cases h

/-- So does a close. -/
theorem Closing.deed_of_go {stage stage' : Closing} (h : stage.go x i = .ok (x', stage', note)) :
    Deed x i (.close stage) x' (.close stage') note := by
  cases stage <;> dsimp only [Closing.go] at h
  case entering =>
    -- The guards of the stages are the premises of the deeds.
    split at h <;> cases h
    next hfree =>
      obtain ⟨hwriter, hreaders⟩ := by simpa using hfree
      exact .seize hwriter hreaders
  case looking =>
    cases h
    split
    · next hclosed => exact .findClosed hclosed
    · next hopen => exact .findOpen (by simpa using hopen)
  case marking =>
    cases h
    exact .mark
  case shutting =>
    split at h <;> cases h
    next hshut => exact .shut (by simpa using hshut)
  case leaving first =>
    split at h
    · cases h
    · next hwriter =>
      have hwriter : x.writer = true := by simpa using hwriter
      split at h <;> cases h
      · next hfirst =>
        subst hfirst
        exact .yieldFirst hwriter
      · next hfirst =>
        obtain rfl : first = false := by simpa using hfirst
        exact .yield hwriter
  case waiting =>
    split at h <;> cases h
    next hdone => exact .finish hdone
  case returned => cases h

/-- So does every call. -/
theorem Call.deed_of_go (h : c.go x i = .ok (x', c', note)) : Deed x i c x' c' note := by
  cases c with
  | submit s stage =>
    dsimp only [Call.go] at h
    cases hgo : stage.go x i s with
    | error e =>
      rw [hgo] at h
      cases h
    | ok made =>
      rw [hgo] at h
      cases h
      exact Submission.deed_of_go hgo
  | close stage =>
    dsimp only [Call.go] at h
    cases hgo : stage.go x i with
    | error e =>
      rw [hgo] at h
      cases h
    | ok made =>
      rw [hgo] at h
      cases h
      exact Closing.deed_of_go hgo

/-- What a deed is, a step of the call does. -/
theorem Deed.go (h : Deed x i c x' c' note) : c.go x i = .ok (x', c', note) := by
  cases h with
  | enter hfree => simp [Call.go, Submission.go, hfree, bind, Except.bind, pure, Except.pure]
  | drop hclosed => simp [Call.go, Submission.go, hclosed, bind, Except.bind, pure, Except.pure]
  | proceed hopen => simp [Call.go, Submission.go, hopen, bind, Except.bind, pure, Except.pure]
  | spill hshut hfull =>
    simp [Call.go, Submission.go, hshut, hfull, bind, Except.bind, pure, Except.pure]
  | hand hshut hroom =>
    simp [Call.go, Submission.go, hshut, Nat.not_le_of_lt hroom, bind, Except.bind, pure,
      Except.pure]
  | leave hreader => simp [Call.go, Submission.go, hreader, bind, Except.bind, pure, Except.pure]
  | seize hfree hreaders =>
    simp [Call.go, Closing.go, hfree, hreaders, bind, Except.bind, pure, Except.pure]
  | findClosed hclosed => simp [Call.go, Closing.go, hclosed, bind, Except.bind, pure, Except.pure]
  | findOpen hopen => simp [Call.go, Closing.go, hopen, bind, Except.bind, pure, Except.pure]
  | mark => rfl
  | shut hshut => simp [Call.go, Closing.go, hshut, bind, Except.bind, pure, Except.pure]
  | yieldFirst hwriter => simp [Call.go, Closing.go, hwriter, bind, Except.bind, pure, Except.pure]
  | yield hwriter => simp [Call.go, Closing.go, hwriter, bind, Except.bind, pure, Except.pure]
  | finish hdone => simp [Call.go, Closing.go, hdone, bind, Except.bind, pure, Except.pure]

/-- Has the call come to its end? -/
def Call.isOver : Call → Bool
  | .submit _ stage => stage = .returned
  | .close (.returned _) => true
  | .close _ => false

/-- What a step of the collector does. -/
inductive Gathering (x : Shared) : Collector → Shared → Collector → Option Note → Prop
  | take {s rest} (hwaiting : x.tracer.waiting = s :: rest) :
    Gathering x .receiving { x with tracer := { x.tracer with waiting := rest } } (.logging s) none
  | stop (hwaiting : x.tracer.waiting = []) (hshut : x.shut = true) :
    Gathering x .receiving x .leaving none
  | log {s} :
    Gathering x (.logging s) { x with tracer := { x.tracer with logged := s :: x.tracer.logged } }
      .receiving (some (.logged s))
  | tell (hdone : x.done = false) : Gathering x .leaving { x with done := true } .gone none

/-- A collector that goes on gathers. -/
theorem Collector.gathering_of_go (h : k.go x = .ok (x', k', note)) : Gathering x k x' k' note := by
  cases k <;> dsimp only [Collector.go] at h
  case receiving =>
    split at h
    · next hwaiting =>
      cases h
      exact .take hwaiting
    · next hwaiting =>
      split at h <;> cases h
      next hshut => exact .stop hwaiting hshut
  case logging s =>
    cases h
    exact .log
  case leaving =>
    split at h <;> cases h
    next hdone => exact .tell (by simpa using hdone)
  case gone => cases h

/-- What it gathers it can go on with. -/
theorem Gathering.go (h : Gathering x k x' k' note) : k.go x = .ok (x', k', note) := by
  cases h with
  | take hwaiting => simp [Collector.go, hwaiting]
  | stop hwaiting hshut => simp [Collector.go, hwaiting, hshut]
  | log => rfl
  | tell hdone => simp [Collector.go, hdone]

/-- What a step of the traffic does. -/
inductive Moves (t : Traffic) : Turn → Traffic → Prop
  | submit (s : Span) : Moves t (.submit s) (t.enter (.submit s .entering))
  | close : Moves t .close (t.enter (.close .entering))
  | call {before after : List Call} {old new : Call} {y : Shared} {n : Option Note}
    (hcalls : t.calls = before ++ old :: after) (hdeed : Deed t.shared before.length old y new n) :
    Moves t (.call before.length)
      { t with shared := y, calls := before ++ new :: after, past := t.past ++ n.toList }
  | collector {next : Collector} {y : Shared} {n : Option Note}
    (hgathering : Gathering t.shared t.collector y next n) :
    Moves t .collector { t with shared := y, collector := next, past := t.past ++ n.toList }

/-- A list around one of its places. -/
theorem exists_append_of_getElem? {α : Type} {l : List α} {a : α} (h : l[i]? = some a) :
    ∃ before after, l = before ++ a :: after ∧ before.length = i := by
  obtain ⟨hi, rfl⟩ := List.getElem?_eq_some_iff.mp h
  exact ⟨l.take i, l.drop (i + 1), by simp, List.length_take_of_le (Nat.le_of_lt hi)⟩

/-- A step moves the traffic. -/
theorem Traffic.moves_of_step {turn : Turn} (h : t.step turn = .ok t') : Moves t turn t' := by
  cases turn with
  | submit s =>
    cases h
    exact .submit s
  | close =>
    cases h
    exact .close
  | call place =>
    dsimp only [Traffic.step] at h
    split at h
    · cases h
    · next c hc =>
      -- The call whose turn it is stands between those that began before and after it.
      obtain ⟨before, after, hcalls, rfl⟩ := exists_append_of_getElem? hc
      cases hgo : c.go t.shared before.length with
      | error e =>
        rw [hgo] at h
        cases h
      | ok made =>
        rw [hgo, hcalls] at h
        cases h
        simpa using Moves.call hcalls (Call.deed_of_go hgo)
  | collector =>
    dsimp only [Traffic.step] at h
    cases hgo : t.collector.go t.shared with
    | error e =>
      rw [hgo] at h
      cases h
    | ok made =>
      rw [hgo] at h
      cases h
      exact .collector (Collector.gathering_of_go hgo)

/-- What moves is a step. -/
theorem Moves.step {turn : Turn} (h : Moves t turn t') : t.step turn = .ok t' := by
  cases h with
  | submit s => rfl
  | close => rfl
  | @call before after old new _ _ hcalls hdeed =>
    have hc : t.calls[before.length]? = some old := by simp [hcalls]
    have hset : t.calls.set before.length new = before ++ new :: after := by simp [hcalls]
    simp only [Traffic.step, hc, hdeed.go]
    rw [← hset]
    rfl
  | collector hgathering =>
    simp only [Traffic.step, hgathering.go]
    rfl

/-! ### Steps one after the other -/

/-- Turns are followed one after the other. -/
theorem Traffic.exists_of_follow_cons {turn : Turn} {rest : List Turn}
    (h : t.follow (turn :: rest) = .ok t') :
    ∃ t₁, t.step turn = .ok t₁ ∧ t₁.follow rest = .ok t' := by
  unfold Traffic.follow at h
  cases hstep : t.step turn with
  | error e =>
    rw [hstep] at h
    cases h
  | ok t₁ =>
    rw [hstep] at h
    exact ⟨t₁, rfl, h⟩

/-- What holds at the start and is kept by every step holds after all of
them. -/
theorem Traffic.follow_induction {P : Traffic → Prop}
    (hstep : ∀ {t turn t'}, P t → Moves t turn t' → P t') {turns : List Turn} (ht : P t)
    (h : t.follow turns = .ok t') : P t' := by
  induction turns generalizing t with
  | nil =>
    cases h
    exact ht
  | cons turn rest ih =>
    obtain ⟨t₁, hfirst, hrest⟩ := exists_of_follow_cons h
    exact ih (hstep ht (moves_of_step hfirst)) hrest

end ObjectBridge.Tracer

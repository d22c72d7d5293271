import ObjectBridge.Proofs.Trace.Steps

/-!
# `ObjectBridge.Proofs.Trace.Locking`: who has the lock, and what it keeps

The lock is counted right: the readers are the submissions between coming in
and leaving, and the writer is a closing between coming in and leaving
(`Locked`). So whoever closes the tracer is alone with it.

That keeps what each call relies on. A submission that has found the tracer
open hands over its span before it is closed, and a closing that has found it
open is the only one that shuts the buffer (`Call.Fits`, `Collector.Fits`).
Nothing is done to a buffer or a lock that must not be done
(`Fitting.eq_blocked`).

It also keeps everyone going: as long as a call is not over, someone can take
a step (`Fitting.exists_step`), and what has begun is done after a bounded
number of steps (`length_le_left`).
-/

set_option autoImplicit false

namespace ObjectBridge.Tracer

variable {t t' : Traffic} {x y : Shared} {c d : Call} {k : Collector} {turn : Turn}
    {before after : List Call}

/-! ### The lock -/

/-- Has the call the lock as a reader? -/
def Call.reads : Call → Bool
  | .submit _ stage => stage = .looking || stage = .handing || stage = .leaving
  | .close _ => false

/-- Has the call the lock as the writer? -/
def Call.writes : Call → Bool
  | .submit _ _ => false
  | .close .looking => true
  | .close .marking => true
  | .close .shutting => true
  | .close (.leaving _) => true
  | .close _ => false

/-- The collector leaves the lock. -/
theorem Gathering.lock {next : Collector} {n : Option Note} (h : Gathering x k y next n) :
    y.readers = x.readers ∧ y.writer = x.writer := by
  cases h <;> exact ⟨rfl, rfl⟩

/-- The lock is had by those who have taken it, and by a writer alone. -/
structure Locked (t : Traffic) : Prop where
  readers : t.shared.readers = t.calls.countP Call.reads
  writers : t.shared.writer.toNat = t.calls.countP Call.writes
  apart : t.shared.writer = true → t.shared.readers = 0

namespace Locked

/-- At first nobody holds the lock. -/
theorem start (service : String) (idText : Nat → String) : Locked (.start service idText) :=
  ⟨rfl, rfl, nofun⟩

/-- A call enters without the lock. -/
theorem enter (h : Locked t) (hreads : c.reads = false) (hwrites : c.writes = false) :
    Locked (t.enter c) where
  readers := by
    show t.shared.readers = (t.calls ++ [c]).countP _
    rw [List.countP_append, List.countP_singleton, hreads, h.readers]
    rfl
  writers := by
    show t.shared.writer.toNat = (t.calls ++ [c]).countP _
    rw [List.countP_append, List.countP_singleton, hwrites, h.writers]
    rfl
  apart := h.apart

/-- Whatever moves, the lock is held as it should be. -/
theorem moves (h : Locked t) (hmoves : Moves t turn t') : Locked t' := by
  obtain ⟨hreaders, hwriters, hapart⟩ := h
  cases hmoves with
  | submit s => exact enter ⟨hreaders, hwriters, hapart⟩ rfl rfl
  | close => exact enter ⟨hreaders, hwriters, hapart⟩ rfl rfl
  | call hcalls hdeed =>
    rw [hcalls, List.countP_append, List.countP_cons] at hreaders hwriters
    constructor
    case readers =>
      show _ = List.countP _ _
      rw [List.countP_append, List.countP_cons]
      cases hdeed <;> simp [Call.reads] at hreaders ⊢ <;> omega
    case writers =>
      show _ = List.countP _ _
      rw [List.countP_append, List.countP_cons]
      cases hdeed <;> simp_all [Call.writes] <;> omega
    case apart =>
      -- Only taking the lock and giving it back concern who has it.
      cases hdeed with
      | enter hfree =>
        intro hwriter
        cases hfree.symm.trans hwriter
      | leave =>
        intro hwriter
        show t.shared.readers - 1 = 0
        rw [hapart hwriter]
      | seize _ hnone => exact fun _ => hnone
      | yieldFirst => exact nofun
      | yield => exact nofun
      | _ => exact hapart
  | collector hgathering =>
    obtain ⟨hr, hw⟩ := hgathering.lock
    exact ⟨hr.trans hreaders, (congrArg Bool.toNat hw).trans hwriters, fun hwriter =>
      hr.trans (hapart (hw ▸ hwriter))⟩

/-- Where there is a reader there is no writer. -/
theorem not_writer (h : Locked t) (hc : c ∈ t.calls) (hreads : c.reads = true) :
    t.shared.writer = false ∧ t.shared.readers ≠ 0 := by
  have hreaders : t.shared.readers ≠ 0 := by
    rw [h.readers]
    exact Nat.ne_of_gt (List.countP_pos_iff.mpr ⟨c, hc, hreads⟩)
  refine ⟨?_, hreaders⟩
  cases hwriter : t.shared.writer with
  | false => rfl
  | true => exact absurd (h.apart hwriter) hreaders

/-- Beside the writer no one has the lock. -/
theorem alone (h : Locked t) (hcalls : t.calls = before ++ c :: after) (hwrites : c.writes = true) :
    t.shared.writer = true ∧ ∀ d ∈ before ++ after, d.reads = false ∧ d.writes = false := by
  have hwriters := h.writers
  rw [hcalls, List.countP_append, List.countP_cons, hwrites, if_pos rfl] at hwriters
  have hle := Bool.toNat_le t.shared.writer
  -- There is one writer at most, and while there is one nobody reads.
  have hwriter : t.shared.writer = true := by
    cases hw : t.shared.writer with
    | true => rfl
    | false =>
      rw [hw] at hwriters
      simp at hwriters
  have hnone : (before ++ after).countP Call.writes = 0 := by
    rw [List.countP_append]
    omega
  have hreaders : t.calls.countP Call.reads = 0 := h.readers ▸ h.apart hwriter
  refine ⟨hwriter, fun d hd => ?_⟩
  have hmem : d ∈ t.calls := by
    rw [hcalls]
    simp only [List.mem_append, List.mem_cons] at hd ⊢
    tauto
  exact ⟨by simpa using List.countP_eq_zero.mp hreaders d hmem, by
    simpa using List.countP_eq_zero.mp hnone d hd⟩

end Locked

/-! ### What calls and collector rely on -/

/-- What a call relies on where it is. -/
def Call.Fits (x : Shared) : Call → Prop
  | .submit _ .handing => x.tracer.closed = false
  | .close .looking => x.shut = x.tracer.closed
  | .close .marking => x.tracer.closed = false ∧ x.shut = false
  | .close .shutting => x.tracer.closed = true ∧ x.shut = false
  | .close (.leaving _) => x.tracer.closed = true ∧ x.shut = true
  | .close .waiting => x.shut = true
  | .close (.returned true) => x.done = true
  | _ => True

/-- What the collector relies on where it is. -/
def Collector.Fits (x : Shared) : Collector → Prop
  | .receiving => x.done = false
  | .logging _ => x.done = false
  | .leaving => x.done = false ∧ x.shut = true ∧ x.tracer.waiting = []
  | .gone => x.done = true ∧ x.shut = true ∧ x.tracer.waiting = []

/-- Nothing that a call without the lock relies on is undone. -/
theorem Call.Fits.mono (h : c.Fits x) (hreads : c.reads = false) (hwrites : c.writes = false)
    (hshut : x.shut = true → y.shut = true) (hdone : x.done = true → y.done = true) : c.Fits y := by
  cases c with
  | submit s stage => cases stage <;> trivial
  | close stage =>
    cases stage with
    | waiting => exact hshut h
    | returned first =>
      cases first with
      | false => trivial
      | true => exact hdone h
    | entering => trivial
    | _ => cases hwrites

/-- What a call relies on is what is closed, shut and done. -/
theorem Call.Fits.of_eq (h : c.Fits x) (hclosed : y.tracer.closed = x.tracer.closed)
    (hshut : y.shut = x.shut) (hdone : x.done = true → y.done = true) : c.Fits y := by
  unfold Call.Fits at h ⊢
  rw [hclosed, hshut]
  split at h
  case h_7 => exact hdone h
  all_goals exact h

/-- The collector finds the buffer shut and empty before it is gone, and takes
from the calls nothing they rely on. -/
theorem Gathering.fits {k' : Collector} {n : Option Note} (h : Gathering x k y k' n)
    (hfits : k.Fits x) :
    k'.Fits y := by
  cases h with
  | take => exact hfits
  | stop hwaiting hshut => exact ⟨hfits, hshut, hwaiting⟩
  | log => exact hfits
  | tell => exact ⟨rfl, hfits.2⟩

/-- The collector leaves every call fitting. -/
theorem Gathering.fits_call {k' : Collector} {n : Option Note} (h : Gathering x k y k' n)
    (hfits : c.Fits x) :
    c.Fits y := by
  cases h with
  | tell => exact hfits.of_eq rfl rfl fun _ => rfl
  | _ => exact hfits.of_eq rfl rfl id

/-- It leaves what is shared whole. -/
theorem Gathering.whole {k' : Collector} {n : Option Note} (h : Gathering x k y k' n)
    (hwhole : x.writer = false → x.shut = x.tracer.closed) :
    y.writer = false → y.shut = y.tracer.closed := by
  cases h <;> exact hwhole

/-- Everyone is where they can be. -/
structure Fitting (t : Traffic) : Prop where
  locked : Locked t
  /-- Closing is not interrupted. -/
  whole : t.shared.writer = false → t.shared.shut = t.shared.tracer.closed
  calls : ∀ c ∈ t.calls, c.Fits t.shared
  collector : t.collector.Fits t.shared

namespace Fitting

variable {old new : Call} {n : Option Note}

/-- At first everything fits. -/
theorem start (service : String) (idText : Nat → String) : Fitting (.start service idText) where
  locked := .start service idText
  whole _ := rfl
  calls := nofun
  collector := rfl

/-- Where a call has the lock, what it relies on is so. -/
theorem of_mem (h : Fitting t) (hcalls : t.calls = before ++ c :: after) : c.Fits t.shared :=
  h.calls c (hcalls ▸ List.mem_append_right _ List.mem_cons_self)

/-- A call does not take from the others what they rely on. -/
theorem others (h : Fitting t) (hcalls : t.calls = before ++ old :: after)
    (hdeed : Deed t.shared before.length old y new n) : ∀ d ∈ before ++ after, d.Fits y := by
  intro d hd
  have hfits : d.Fits t.shared := by
    refine h.calls d ?_
    rw [hcalls]
    simp only [List.mem_append, List.mem_cons] at hd ⊢
    tauto
  cases hdeed with
  | mark =>
    obtain ⟨hreads, hwrites⟩ := (h.locked.alone hcalls rfl).2 d hd
    exact hfits.mono hreads hwrites id id
  | shut =>
    obtain ⟨hreads, hwrites⟩ := (h.locked.alone hcalls rfl).2 d hd
    exact hfits.mono hreads hwrites (fun _ => rfl) id
  | _ => exact hfits.of_eq rfl rfl id

/-- A call that goes on can rely on what it needs next. -/
theorem next (h : Fitting t) (hcalls : t.calls = before ++ old :: after)
    (hdeed : Deed t.shared before.length old y new n) : new.Fits y := by
  have hfits := h.of_mem hcalls
  cases hdeed with
  | proceed hopen => exact hopen
  | seize hfree => exact h.whole hfree
  | findClosed hclosed => exact ⟨hclosed, Eq.trans hfits hclosed⟩
  | findOpen hopen => exact ⟨hopen, Eq.trans hfits hopen⟩
  | mark => exact ⟨rfl, hfits.2⟩
  | shut => exact ⟨hfits.1, rfl⟩
  | yieldFirst => exact hfits.2
  | finish hdone => exact hdone
  | _ => trivial

/-- A call that does its part leaves what is shared whole. -/
theorem whole_of_deed (h : Fitting t) (hcalls : t.calls = before ++ old :: after)
    (hdeed : Deed t.shared before.length old y new n) :
    y.writer = false → y.shut = y.tracer.closed := by
  have hfits := h.of_mem hcalls
  cases hdeed with
  | seize => exact nofun
  | mark => exact fun hfree => absurd ((h.locked.alone hcalls rfl).1.symm.trans hfree) nofun
  | shut => exact fun hfree => absurd ((h.locked.alone hcalls rfl).1.symm.trans hfree) nofun
  | yieldFirst => exact fun _ => hfits.2.trans hfits.1.symm
  | yield => exact fun _ => hfits.2.trans hfits.1.symm
  | _ => exact h.whole

/-- It leaves the collector fitting. -/
theorem collector_of_deed (h : Fitting t) (hdeed : Deed t.shared before.length old y new n) :
    t.collector.Fits y := by
  have hfits := h.collector
  cases hdeed with
  | hand hshut =>
    -- The buffer is not shut, so the collector is still there.
    cases hk : t.collector <;> rw [hk] at hfits
    case receiving => exact hfits
    case logging => exact hfits
    case leaving => cases hshut.symm.trans hfits.2.1
    case gone => cases hshut.symm.trans hfits.2.1
  | shut =>
    cases hk : t.collector <;> rw [hk] at hfits
    case receiving => exact hfits
    case logging => exact hfits
    case leaving => exact ⟨hfits.1, rfl, hfits.2.2⟩
    case gone => exact ⟨hfits.1, rfl, hfits.2.2⟩
  | _ => exact hfits

/-- A call that enters fits. -/
theorem enter (h : Fitting t) (hc : c = .close .entering ∨ ∃ s, c = .submit s .entering) :
    Fitting (t.enter c) where
  locked := by
    rcases hc with rfl | ⟨s, rfl⟩
    · exact h.locked.enter rfl rfl
    · exact h.locked.enter rfl rfl
  whole := h.whole
  calls d hd := by
    rcases List.mem_append.mp hd with hold | hnew
    · exact h.calls d hold
    · obtain rfl := List.mem_singleton.mp hnew
      rcases hc with rfl | ⟨s, rfl⟩ <;> trivial
  collector := h.collector

/-- Whatever moves, everything fits. -/
theorem moves (h : Fitting t) (hmoves : Moves t turn t') : Fitting t' := by
  have hlocked := h.locked.moves hmoves
  cases hmoves with
  | submit s => exact h.enter (.inr ⟨s, rfl⟩)
  | close => exact h.enter (.inl rfl)
  | call hcalls hdeed =>
    refine ⟨hlocked, h.whole_of_deed hcalls hdeed, fun d hd => ?_, h.collector_of_deed hdeed⟩
    rcases List.mem_append.mp hd with hbefore | hafter
    · exact h.others hcalls hdeed d (List.mem_append_left _ hbefore)
    · rcases List.mem_cons.mp hafter with rfl | hafter
      · exact h.next hcalls hdeed
      · exact h.others hcalls hdeed d (List.mem_append_right _ hafter)
  | collector hgathering =>
    exact ⟨hlocked, hgathering.whole h.whole, fun c hc => hgathering.fits_call (h.calls c hc),
      hgathering.fits h.collector⟩

end Fitting

/-! ### Going on -/

/-- Who does not have the lock has to wait at most. -/
theorem Call.eq_blocked_of_go (hreads : c.reads = false) (hwrites : c.writes = false)
    {i : Nat} {f : Halt} (h : c.go x i = .error f) : f = .blocked := by
  -- Outside the lock a call is about to enter, waits for the collector or is over.
  cases c with
  | submit s stage =>
    cases stage with
    | entering =>
      cases hw : x.writer <;> simp [Call.go, Submission.go, hw, bind, Except.bind, pure,
        Except.pure] at h
      exact h.symm
    | returned =>
      cases h
      rfl
    | _ => cases hreads
  | close stage =>
    cases stage with
    | entering =>
      by_cases hfree : x.writer = false ∧ x.readers = 0
      · simp [Call.go, Closing.go, hfree, bind, Except.bind, pure, Except.pure] at h
      · simp only [Call.go, Closing.go] at h
        rw [if_pos (by simpa [or_iff_not_imp_left] using hfree)] at h
        cases h
        rfl
    | waiting =>
      cases hd : x.done <;> simp [Call.go, Closing.go, hd, bind, Except.bind, pure,
        Except.pure] at h
      exact h.symm
    | returned =>
      cases h
      rfl
    | _ => cases hwrites

/-- Does the turn go on with what has begun? -/
def Turn.isInner : Turn → Bool
  | .call _ => true
  | .collector => true
  | _ => false

namespace Fitting

/-- Who has the lock can always go on. -/
theorem exists_deed (h : Fitting t) (hcalls : t.calls = before ++ c :: after)
    (hholds : c.reads = true ∨ c.writes = true) :
    ∃ y c' n, Deed t.shared before.length c y c' n := by
  -- Each stage under the lock has a deed for whatever it finds; the stages outside it are excluded.
  have hfits := h.of_mem hcalls
  have hmem : c ∈ t.calls := hcalls ▸ List.mem_append_right _ List.mem_cons_self
  cases c with
  | submit s stage =>
    have hreads : (Call.submit s stage).reads = true := hholds.resolve_right nofun
    obtain ⟨hfree, hreaders⟩ := h.locked.not_writer hmem hreads
    cases stage with
    | looking =>
      cases hclosed : t.shared.tracer.closed with
      | true => exact ⟨_, _, _, .drop hclosed⟩
      | false => exact ⟨_, _, _, .proceed hclosed⟩
    | handing =>
      have hshut : t.shared.shut = false := (h.whole hfree).trans hfits
      rcases Nat.lt_or_ge t.shared.tracer.waiting.length bufferSize with hroom | hfull
      · exact ⟨_, _, _, .hand hshut hroom⟩
      · exact ⟨_, _, _, .spill hshut hfull⟩
    | leaving => exact ⟨_, _, _, .leave hreaders⟩
    | entering => cases hreads
    | returned => cases hreads
  | close stage =>
    have hwrites : (Call.close stage).writes = true := hholds.resolve_left nofun
    have hwriter := (h.locked.alone hcalls hwrites).1
    cases stage with
    | looking =>
      cases hclosed : t.shared.tracer.closed with
      | true => exact ⟨_, _, _, .findClosed hclosed⟩
      | false => exact ⟨_, _, _, .findOpen hclosed⟩
    | marking => exact ⟨_, _, _, .mark⟩
    | shutting => exact ⟨_, _, _, .shut hfits.2⟩
    | leaving first =>
      cases first with
      | true => exact ⟨_, _, _, .yieldFirst hwriter⟩
      | false => exact ⟨_, _, _, .yield hwriter⟩
    | entering => cases hwrites
    | waiting => cases hwrites
    | returned => cases hwrites

/-- Nothing is sent to a buffer that is shut or shut twice, and no lock is
given back that is not had: a step that is not made has to wait. -/
theorem eq_blocked (h : Fitting t) {f : Halt} (hstep : t.step turn = .error f) : f = .blocked := by
  cases turn with
  | submit s => cases hstep
  | close => cases hstep
  | call place =>
    dsimp only [Traffic.step] at hstep
    split at hstep
    · cases hstep
      rfl
    · next c hc =>
      obtain ⟨before, after, hcalls, rfl⟩ := exists_append_of_getElem? hc
      -- Who has the lock goes on, and who has not can only be waiting for it.
      by_cases hholds : c.reads = true ∨ c.writes = true
      · obtain ⟨y, c', n, hdeed⟩ := h.exists_deed hcalls hholds
        rw [hdeed.go] at hstep
        cases hstep
      · obtain ⟨hreads, hwrites⟩ := by simpa using hholds
        cases hgo : c.go t.shared before.length with
        | error e =>
          rw [hgo] at hstep
          cases hstep
          exact Call.eq_blocked_of_go hreads hwrites hgo
        | ok made =>
          rw [hgo] at hstep
          cases hstep
  | collector =>
    have hfits := h.collector
    dsimp only [Traffic.step] at hstep
    cases hk : t.collector <;> rw [hk] at hstep hfits
    case receiving =>
      dsimp only [Collector.go] at hstep
      split at hstep
      · cases hstep
      · split at hstep <;> cases hstep
        rfl
    case logging => cases hstep
    case leaving =>
      simp only [Collector.go, hfits.1] at hstep
      cases hstep
    case gone =>
      cases hstep
      rfl

/-- As long as a call is not over, a call or the collector can go on. -/
theorem exists_step (h : Fitting t) (hc : c ∈ t.calls) (hover : c.isOver = false) :
    ∃ turn t', turn.isInner = true ∧ t.step turn = .ok t' := by
  by_cases hheld : ∃ d ∈ t.calls, d.reads = true ∨ d.writes = true
  · obtain ⟨d, hd, hholds⟩ := hheld
    obtain ⟨before, after, hcalls⟩ := List.append_of_mem hd
    obtain ⟨y, d', n, hdeed⟩ := h.exists_deed hcalls hholds
    exact ⟨_, _, rfl, (Moves.call hcalls hdeed).step⟩
  · -- No one has the lock. So whoever wants to come in can, and otherwise all
    -- wait for the collector.
    have hnone (d : Call) (hd : d ∈ t.calls) : d.reads = false ∧ d.writes = false := by
      simpa using fun hholds => hheld ⟨d, hd, hholds⟩
    have hreaders : t.shared.readers = 0 := by
      rw [h.locked.readers, List.countP_eq_zero]
      exact fun d hd => by simp [(hnone d hd).1]
    have hfree : t.shared.writer = false := by
      have hwriters : t.shared.writer.toNat = 0 := by
        rw [h.locked.writers, List.countP_eq_zero]
        exact fun d hd => by simp [(hnone d hd).2]
      simpa using hwriters
    obtain ⟨before, after, hcalls⟩ := List.append_of_mem hc
    have hdeed {y : Shared} {c' : Call} {n : Option Note}
        (hdeed : Deed t.shared before.length c y c' n) :
        ∃ turn t', turn.isInner = true ∧ t.step turn = .ok t' :=
          ⟨_, _, rfl, (Moves.call hcalls hdeed).step⟩
    obtain ⟨hreads, hwrites⟩ := hnone c hc
    have hfits := h.calls c hc
    cases c with
    | submit s stage =>
      cases stage with
      | entering => exact hdeed (.enter hfree)
      | returned => cases hover
      | _ => cases hreads
    | close stage =>
      cases stage with
      | entering => exact hdeed (.seize hfree hreaders)
      | returned => cases hover
      | waiting =>
        have hgather {k' : Collector} {y : Shared} {n : Option Note}
            (hgathering : Gathering t.shared t.collector y k' n) :
            ∃ turn t', turn.isInner = true ∧ t.step turn = .ok t' :=
              ⟨_, _, rfl, (Moves.collector hgathering).step⟩
        have hthere := h.collector
        cases hk : t.collector <;> rw [hk] at hgather hthere
        case receiving =>
          cases hwaiting : t.shared.tracer.waiting with
          | nil => exact hgather (.stop hwaiting hfits)
          | cons s rest => exact hgather (.take hwaiting)
        case logging => exact hgather .log
        case leaving => exact hgather (.tell hthere.1)
        case gone => exact hdeed (.finish hthere.1)
      | _ => cases hwrites

end Fitting

/-! ### Coming to an end -/

/-- More than the steps a call has still to make: a span that is handed over is
to be taken and logged, too. -/
def Call.left : Call → Nat
  | .submit _ .entering => 6
  | .submit _ .looking => 5
  | .submit _ .handing => 4
  | .submit _ .leaving => 1
  | .submit _ .returned => 0
  | .close .entering => 6
  | .close .looking => 5
  | .close .marking => 4
  | .close .shutting => 3
  | .close (.leaving true) => 2
  | .close (.leaving false) => 1
  | .close .waiting => 1
  | .close (.returned _) => 0

/-- How many steps the collector can take on its own, at most. -/
def Collector.left : Collector → Nat
  | .receiving => 2
  | .logging _ => 3
  | .leaving => 1
  | .gone => 0

/-- How many steps the traffic can take if nobody calls again, at most. -/
def Traffic.left (t : Traffic) : Nat :=
  (t.calls.map Call.left).sum + 2 * t.shared.tracer.waiting.length + t.collector.left

/-- Going on brings the end nearer. -/
theorem Moves.left_lt (h : Moves t turn t') (hinner : turn.isInner = true) : t'.left < t.left := by
  cases h with
  | submit => cases hinner
  | close => cases hinner
  | call hcalls hdeed =>
    unfold Traffic.left
    rw [hcalls]
    simp only [List.map_append, List.map_cons, List.sum_append, List.sum_cons]
    cases hdeed <;> simp only [Call.left, enqueue, List.length_append, List.length_singleton] <;>
      omega
  | collector hgathering =>
    unfold Traffic.left
    dsimp only
    cases hk : t.collector <;> rw [hk] at hgathering <;> cases hgathering
    case receiving.take hwaiting =>
      simp only [Collector.left, hwaiting, List.length_cons]
      omega
    all_goals simp only [Collector.left]; omega

/-- What has begun goes on for so many steps at most. -/
theorem length_le_left {turns : List Turn} (hinner : ∀ turn ∈ turns, turn.isInner = true)
    (h : t.follow turns = .ok t') : turns.length + t'.left ≤ t.left := by
  induction turns generalizing t with
  | nil =>
    cases h
    exact Nat.le_of_eq (Nat.zero_add _)
  | cons turn rest ih =>
    obtain ⟨t₁, hstep, hrest⟩ := Traffic.exists_of_follow_cons h
    have hlt := (Traffic.moves_of_step hstep).left_lt (hinner turn List.mem_cons_self)
    have hle := ih (fun u hu => hinner u (List.mem_cons_of_mem _ hu)) hrest
    rw [List.length_cons]
    omega

end ObjectBridge.Tracer

import ObjectBridge.Proofs.Trace.Locking
import ObjectBridge.Proofs.Trace.Notes

/-!
# `ObjectBridge.Proofs.Trace.Delivery`: spans that reach the log

However callers and the collector take turns, the notes tell how things are
(`Told`): what was submitted and is not logged yet is in the buffer or in the
hand of the collector, in this order. Each step takes a note only when it may
be taken, since the lock keeps submitting and closing apart (`Fitting`).

A span is only spilled when there is no room for it. `Traffic.delivers` puts
this together for a buffer that never fills up.
-/

set_option autoImplicit false

namespace ObjectBridge.Tracer

variable {t t' : Traffic} {x y : Shared} {c old new : Call} {k' : Collector} {turn : Turn}
    {o : Option Note} {n : Note}
  {i : Nat} {earlier later : List Note} {before after : List Call}

/-! ### What the notes tell -/

/-- The span that the collector has taken and not logged. -/
def Collector.inHand : Collector → List Span
  | .logging s => [s]
  | _ => []

/-- The notes tell how things are. -/
structure Told (t : Traffic) : Prop where
  closed : t.shared.tracer.closed = true ↔ WasClosed t.past
  entries : entries t.past = t.shared.tracer.log
  submissions : submissions t.past =
    t.shared.tracer.log ++ (t.collector.inHand ++ t.shared.tracer.waiting)
  trail : ∀ (i : Nat) (c : Call), t.calls[i]? = some c → c.Trail i (notesOf i t.past)
  /-- Nothing is noted about calls there have not been. -/
  fresh : ∀ i, t.calls.length ≤ i → notesOf i t.past = []
  orderly : Orderly t.past

/-- One place of a list does not concern the others. -/
theorem getElem?_append_cons_of_ne {α : Type} {front back : List α} (a b : α)
    (h : i ≠ front.length) :
    (front ++ a :: back)[i]? = (front ++ b :: back)[i]? := by
  rcases Nat.lt_or_gt_of_ne h with hlt | hgt
  · rw [List.getElem?_append_left hlt, List.getElem?_append_left hlt]
  · obtain ⟨j, rfl⟩ := Nat.exists_eq_add_of_lt hgt
    rw [List.getElem?_append_right (by omega), List.getElem?_append_right (by omega),
      show front.length + j + 1 - front.length = j + 1 by omega, List.getElem?_cons_succ,
          List.getElem?_cons_succ]

/-- A call that enters leaves what is shared, -/
@[simp] theorem Traffic.shared_enter (t : Traffic) (c : Call) : (t.enter c).shared = t.shared := rfl

/-- and the collector. -/
@[simp] theorem Traffic.collector_enter (t : Traffic) (c : Call) : (t.enter c).collector =
    t.collector := rfl

/-- It comes last. -/
@[simp] theorem Traffic.calls_enter (t : Traffic) (c : Call) : (t.enter c).calls = t.calls ++ [c] :=
  rfl

/-- The past has that it was called. -/
@[simp] theorem Traffic.past_enter (t : Traffic) (c : Call) :
    (t.enter c).past = t.past ++ [.called t.calls.length] := rfl

namespace Told

/-- At first there is nothing to tell. -/
theorem start (service : String) (idText : Nat → String) : Told (.start service idText) where
  closed := ⟨nofun, fun ⟨_, h⟩ => absurd h (by simp [Traffic.start])⟩
  entries := rfl
  submissions := rfl
  trail := by simp [Traffic.start]
  fresh _ _ := rfl
  orderly := .nil

/-- What a step of a call notes may be noted. -/
theorem admits_of_deed (h : Told t) (hfitting : Fitting t)
    (hcalls : t.calls = before ++ old :: after)
    (hdeed : Deed t.shared before.length old y new (some n)) : Admits t.past n := by
  have hfits := hfitting.of_mem hcalls
  have htrail : old.Trail before.length (notesOf before.length t.past) :=
    h.trail _ _ (by simp [hcalls])
  cases hdeed with
  | drop hclosed => exact h.closed.mp hclosed
  | spill hshut hfull =>
    show bufferSize + (Tracer.entries t.past).length ≤ (Tracer.submissions t.past).length
    rw [h.entries, h.submissions, List.length_append, List.length_append]
    omega
  | hand => exact fun hwas => absurd (hfits.symm.trans (h.closed.mpr hwas)) Bool.false_ne_true
  | mark => exact fun hwas => absurd (hfits.1.symm.trans (h.closed.mpr hwas)) Bool.false_ne_true
  | leave =>
    exact fun hclosed => absurd ((mem_notesOf rfl).mpr hclosed) (htrail.not_closed (.inl ⟨_, rfl⟩))
  | yield =>
    exact fun hclosed => absurd ((mem_notesOf rfl).mpr hclosed) (htrail.not_closed (.inr rfl))
  | finish hdone =>
    intro _
    -- The collector is gone, so nothing is left.
    have hthere := hfitting.collector
    cases hk : t.collector <;> rw [hk] at hthere
    case gone =>
      rw [h.entries, h.submissions, hk, hthere.2.2]
      exact (List.append_nil _).symm
    all_goals simp [Collector.Fits, hdone] at hthere

/-- A past stays in order when it admits the next note. -/
theorem orderly_append (h : Told t) (ho : ∀ n, o = some n → Admits t.past n) :
    Orderly (t.past ++ o.toList) := by
  cases o with
  | none =>
    rw [Option.toList_none, List.append_nil]
    exact h.orderly
  | some n => exact h.orderly.concat (ho n rfl)

/-- A call begins. -/
theorem enter (h : Told t) (hc : ∀ i, c.Trail i [.called i]) : Told (t.enter c) where
  closed := by
    rw [Traffic.shared_enter, Traffic.past_enter, wasClosed_append, h.closed]
    simp [WasClosed]
  entries := by
    rw [Traffic.shared_enter, Traffic.past_enter, entries_append, h.entries]
    exact List.append_nil _
  submissions := by
    rw [Traffic.shared_enter, Traffic.collector_enter, Traffic.past_enter, submissions_append,
      h.submissions]
    exact List.append_nil _
  trail i d hd := by
    rw [Traffic.past_enter]
    rw [Traffic.calls_enter] at hd
    -- The call that begins is the last one, and has no notes before its own.
    rcases Nat.lt_or_ge i t.calls.length with hlt | hge
    · have hold : t.calls[i]? = some d := by rwa [List.getElem?_append_left hlt] at hd
      rw [notesOf_append_of_ne (by simpa [Note.call?] using Nat.ne_of_gt hlt)]
      exact h.trail i d hold
    · have hi : i = t.calls.length := by
        have hlt := (List.getElem?_eq_some_iff.mp hd).1
        simp at hlt
        omega
      subst hi
      obtain rfl : c = d := by simpa using hd
      rw [notesOf_append_of_call? (by simp [Note.call?]), h.fresh _ (Nat.le_refl _)]
      exact hc _
  fresh i hi := by
    rw [Traffic.past_enter]
    have hlt : t.calls.length < i := by simpa using hi
    rw [notesOf_append_of_ne (by simpa [Note.call?] using Nat.ne_of_lt hlt)]
    exact h.fresh i (Nat.le_of_lt hlt)
  orderly := by
    rw [Traffic.past_enter]
    exact h.orderly.concat trivial

/-- A call goes on. -/
theorem deed (h : Told t) (hfitting : Fitting t) (hcalls : t.calls = before ++ old :: after)
    (hdeed : Deed t.shared before.length old y new o) :
    Told { t with shared := y, calls := before ++ new :: after, past := t.past ++ o.toList } where
  closed := by
    show y.tracer.closed = true ↔ WasClosed (t.past ++ o.toList)
    rw [wasClosed_append, ← h.closed]
    cases hdeed <;> simp [WasClosed, enqueue]
  entries := by
    show Tracer.entries (t.past ++ o.toList) = y.tracer.log
    rw [entries_append, h.entries]
    cases hdeed <;> exact List.append_nil _
  submissions := by
    show Tracer.submissions (t.past ++ o.toList) =
        y.tracer.log ++ (t.collector.inHand ++ y.tracer.waiting)
    rw [submissions_append, h.submissions]
    -- Handing over is the only deed that submits.
    cases hdeed with
    | hand => simp [Tracer.submissions, Note.submission?, enqueue, log]
    | _ => exact List.append_nil _
  trail i d hd := by
    show d.Trail i (notesOf i (t.past ++ o.toList))
    by_cases hi : i = before.length
    · subst hi
      obtain rfl : new = d := by simpa using hd
      rw [notesOf_append_of_call? fun n hn => hdeed.call?_eq hn]
      exact hdeed.trail (h.trail _ old (by simp [hcalls]))
    · have hold : t.calls[i]? = some d := by
        rw [hcalls, getElem?_append_cons_of_ne old new hi]
        exact hd
      rw [notesOf_append_of_ne fun n hn => by simpa [hdeed.call?_eq hn] using Ne.symm hi]
      exact h.trail i d hold
  fresh i hi := by
    show notesOf i (t.past ++ o.toList) = []
    have hle : t.calls.length ≤ i := by simpa [hcalls] using hi
    have hne : before.length ≠ i := by
      rw [hcalls, List.length_append, List.length_cons] at hle
      omega
    rw [notesOf_append_of_ne fun n hn => by simpa [hdeed.call?_eq hn] using hne]
    exact h.fresh i hle
  orderly := h.orderly_append fun n hn => by
    subst hn
    exact h.admits_of_deed hfitting hcalls hdeed

/-- The collector goes on. -/
theorem gathering (h : Told t) (hgathering : Gathering t.shared t.collector y k' o) :
    Told { t with shared := y, collector := k', past := t.past ++ o.toList } := by
  have hsubmissions := h.submissions
  generalize hk : t.collector = k at hgathering hsubmissions
  -- Only what is logged is noted, and that is about no call.
  have hnotes (i : Nat) : notesOf i (t.past ++ o.toList) = notesOf i t.past := by
    refine notesOf_append_of_ne fun n hn => ?_
    cases hgathering <;> simp at hn
    subst hn
    nofun
  constructor
  case closed =>
    show y.tracer.closed = true ↔ WasClosed (t.past ++ o.toList)
    rw [wasClosed_append, ← h.closed]
    cases hgathering <;> simp [WasClosed]
  case entries =>
    show Tracer.entries (t.past ++ o.toList) = y.tracer.log
    rw [entries_append, h.entries]
    cases hgathering with
    | log => exact List.reverse_cons.symm
    | _ => exact List.append_nil _
  case submissions =>
    show Tracer.submissions (t.past ++ o.toList) = y.tracer.log ++ (k'.inHand ++ y.tracer.waiting)
    rw [submissions_append, hsubmissions]
    cases hgathering with
    | take hwaiting =>
      rw [hwaiting]
      exact List.append_nil _
    | stop => exact List.append_nil _
    | log => simp [Tracer.submissions, Note.submission?, log, Collector.inHand]
    | tell => exact List.append_nil _
  case trail => exact fun i c hc => (hnotes i).symm ▸ h.trail i c hc
  case fresh => exact fun i hi => (hnotes i).trans (h.fresh i hi)
  case orderly =>
    refine h.orderly_append fun n hn => ?_
    subst hn
    cases hgathering with
    | log =>
      show Tracer.entries t.past ++ _ <+: Tracer.submissions t.past
      rw [h.entries, hsubmissions]
      exact ⟨t.shared.tracer.waiting, by simp [Collector.inHand]⟩

/-- Whatever moves, the past tells what is there. -/
theorem moves (h : Told t) (hfitting : Fitting t) (hmoves : Moves t turn t') : Told t' := by
  cases hmoves with
  | submit s => exact h.enter fun i => rfl
  | close => exact h.enter fun i => rfl
  | call hcalls hdeed => exact h.deed hfitting hcalls hdeed
  | collector hgathering => exact h.gathering hgathering

end Told

/-! ### Room in the buffer -/

/-- At every moment there is room in the buffer. -/
def Traffic.Roomy (t : Traffic) (turns : List Turn) : Prop :=
  ∀ before t', before <+: turns → t.follow before = .ok t' →
    t'.shared.tracer.waiting.length < bufferSize

/-- At most one more span waits after a step. -/
theorem Moves.waiting_le (h : Moves t turn t') :
    t'.shared.tracer.waiting.length ≤ t.shared.tracer.waiting.length + 1 := by
  cases h with
  | submit s => exact Nat.le_succ _
  | close => exact Nat.le_succ _
  | call hcalls hdeed =>
    cases hdeed with
    | hand => exact Nat.le_of_eq List.length_append
    | _ => exact Nat.le_succ _
  | collector hgathering =>
    generalize t.collector = k at hgathering
    cases hgathering with
    | take hwaiting =>
      rw [hwaiting, List.length_cons]
      exact Nat.le_add_right_of_le (Nat.le_succ _)
    | _ => exact Nat.le_succ _

/-- A turn makes one more span wait at most. -/
theorem waiting_le_of_follow {turns : List Turn} (h : t.follow turns = .ok t') :
    t'.shared.tracer.waiting.length ≤ t.shared.tracer.waiting.length + turns.length := by
  induction turns generalizing t with
  | nil =>
    cases h
    exact Nat.le_refl _
  | cons turn rest ih =>
    obtain ⟨t₁, hstep, hrest⟩ := Traffic.exists_of_follow_cons h
    have hone := (Traffic.moves_of_step hstep).waiting_le
    have hmore := ih hrest
    rw [List.length_cons]
    omega

/-- Few steps leave room. -/
theorem Traffic.roomy_of_length {turns : List Turn}
    (h : t.shared.tracer.waiting.length + turns.length < bufferSize) : t.Roomy turns := by
  intro before t' hprefix hfollow
  have hle := waiting_le_of_follow hfollow
  have hlength := hprefix.length_le
  omega

/-- A span is spilled when there is no room. -/
theorem Moves.not_spilled (h : Moves t turn t')
    (hroom : t.shared.tracer.waiting.length < bufferSize) (hnone : ∀ i s, .spilled i s ∉ t.past) :
    ∀ i s, .spilled i s ∉ t'.past := by
  have hlater {later : List Note} (hlater : ∀ i s, .spilled i s ∉ later) (i : Nat) (s : Span) :
      .spilled i s ∉ t.past ++ later :=
        fun hmem => (List.mem_append.mp hmem).elim (hnone i s) (hlater i s)
  cases h with
  | submit s => exact hlater (by simp)
  | close => exact hlater (by simp)
  | call hcalls hdeed =>
    cases hdeed with
    | spill _ hfull => exact absurd hroom (Nat.not_lt.mpr hfull)
    | _ => exact hlater (by simp)
  | collector hgathering =>
    generalize t.collector = k at hgathering
    cases hgathering <;> exact hlater (by simp)

/-- Where there is always room, no span is spilled. -/
theorem not_spilled_of_follow {turns : List Turn} (hroom : t.Roomy turns)
    (hnone : ∀ i s, .spilled i s ∉ t.past) (h : t.follow turns = .ok t') :
    ∀ i s, .spilled i s ∉ t'.past := by
  induction turns generalizing t with
  | nil =>
    cases h
    exact hnone
  | cons turn rest ih =>
    obtain ⟨t₁, hstep, hrest⟩ := Traffic.exists_of_follow_cons h
    have hnow : t.shared.tracer.waiting.length < bufferSize := hroom [] t List.nil_prefix rfl
    refine ih (fun before t' hprefix hfollow => ?_) ((Traffic.moves_of_step hstep).not_spilled hnow
      hnone) hrest
    refine hroom (turn :: before) t' (List.cons_prefix_cons.mpr ⟨rfl, hprefix⟩) ?_
    unfold Traffic.follow
    rw [hstep]
    exact hfollow

/-! ### Delivery -/

/-- Where a call is noted after the tracer was closed, nothing of it is
submitted. -/
theorem Told.late {s : Span} (h : Told t) (hpast : t.past = earlier ++ .called i :: later)
    (hclosed : WasClosed earlier) : .submitted i s ∉ t.past := by
  intro hmem
  have hnone : Tracer.submissions (.called i :: later) = [] :=
    Orderly.submissions_eq_nil (hpast ▸ h.orderly) hclosed
  have hearlier : .submitted i s ∈ earlier := by
    rw [hpast] at hmem
    refine (List.mem_append.mp hmem).resolve_right fun hlater => ?_
    exact List.not_mem_nil (hnone ▸ List.mem_filterMap.mpr ⟨_, hlater, rfl⟩ : s ∈ [])
  -- So the call was noted before, too.
  have hnotes : notesOf i t.past = notesOf i earlier ++ .called i :: notesOf i later := by
    rw [hpast]
    simp [notesOf, Note.call?]
  have hlt : i < t.calls.length := by
    refine Nat.lt_of_not_le fun hle => ?_
    rw [h.fresh i hle] at hnotes
    simp at hnotes
  obtain ⟨rest, hrest, hnot⟩ := (h.trail i _ (List.getElem?_eq_getElem hlt)).called
  rw [hrest] at hnotes
  cases hfirst : notesOf i earlier with
  | nil => exact List.not_mem_nil (hfirst ▸ (mem_notesOf rfl).mpr hearlier)
  | cons m ms =>
    rw [hfirst, List.cons_append] at hnotes
    obtain ⟨-, htail⟩ := List.cons.inj hnotes
    exact hnot (htail ▸ List.mem_append_right _ List.mem_cons_self)

/-- The tracer delivers what it was given. -/
structure Delivery (t : Traffic) : Prop where
  /-- The log is what was logged. -/
  log : t.shared.tracer.log = entries t.past
  /-- At every moment the spans that have been logged are those submitted
  first, each once and in the order they were submitted. -/
  ordered : ∀ earlier later, t.past = earlier ++ later → entries earlier <+: submissions earlier
  /-- The tracer is closed once, and nothing is submitted afterwards. -/
  closed : ∀ i earlier later, t.past = earlier ++ .closed i :: later →
    ¬ WasClosed earlier ∧ ¬ WasClosed later ∧ submissions later = []
  /-- When the call returns that closed the tracer, all spans have been logged
  that were submitted before it did, and no other is ever logged. -/
  drained : ∀ i earlier between later, t.past =
    earlier ++ .closed i :: (between ++ .returned i :: later) →
    entries (earlier ++ .closed i :: between) = submissions earlier ∧ entries later = []
  /-- A submission comes to one of two things, and that once. -/
  outcome : ∀ i s stage, t.calls[i]? = some (.submit s stage) →
    notesOf i t.past <+: [.called i, .submitted i s, .returned i] ∨
      notesOf i t.past <+: [.called i, .dropped i s, .returned i]
  /-- A call is over when it has returned. -/
  finished : ∀ i c, t.calls[i]? = some c → (c.isOver = true ↔ .returned i ∈ t.past)
  /-- A span is dropped when the tracer was closed before. -/
  dropped : ∀ i s earlier later, t.past = earlier ++ .dropped i s :: later → WasClosed earlier
  /-- A submission that begins when the tracer was closed comes too late. -/
  late : ∀ i s earlier later, t.past = earlier ++ .called i :: later → WasClosed earlier →
    .submitted i s ∉ t.past
  /-- The spans are those, and in the order, that a tracer logs that does one
  thing at a time. -/
  linear : ∀ service idText, (t.past.foldl redo { service, idText }).log = submissions t.past
  /-- Nothing is sent to a buffer that is shut, nothing is shut twice, and the
  lock is not given back by someone who does not have it. -/
  safe : ∀ turn halt, t.step turn = .error halt → halt = .blocked
  /-- What has begun goes on as long as a call is not over, and it does so for
  a bounded number of steps. -/
  ends : ∀ inner t', (∀ turn ∈ inner, turn.isInner = true) → t.follow inner = .ok t' →
    inner.length ≤ t.left ∧ ((∃ c ∈ t'.calls, c.isOver = false) → ∃ turn t'', turn.isInner = true ∧
    t'.step turn = .ok t'')

/-- Whoever submits spans or closes the tracer, and in whatever order everyone
takes their steps: as long as there is room in the buffer, spans are
delivered. -/
theorem Traffic.delivers {service : String} {idText : Nat → String} {turns : List Turn}
    (h : (start service idText).follow turns = .ok t) (hroom : (start service idText).Roomy turns) :
    Delivery t := by
  -- Both are invariants of the steps, and nobody spills while there is room.
  obtain ⟨hfitting, htold⟩ : Fitting t ∧ Told t :=
    follow_induction (P := fun t => Fitting t ∧ Told t)
      (fun hboth hmoves => ⟨hboth.1.moves hmoves, hboth.2.moves hboth.1 hmoves⟩)
      ⟨.start service idText, .start service idText⟩ h
  have hspilled : ∀ i s, .spilled i s ∉ t.past := not_spilled_of_follow hroom (fun _ _ => nofun) h
  constructor
  case log => exact htold.entries.symm
  case ordered => exact fun earlier later hpast =>
    Orderly.entries_prefix (Orderly.left (hpast ▸ htold.orderly))
  case closed =>
    intro i earlier later hpast
    have hsplit : t.past = (earlier ++ [.closed i]) ++ later := by simpa using hpast
    have horderly : Orderly ((earlier ++ [.closed i]) ++ later) := hsplit ▸ htold.orderly
    have hwas : WasClosed (earlier ++ [.closed i]) := ⟨i, by simp⟩
    exact ⟨htold.orderly earlier _ later hpast, horderly.not_wasClosed hwas,
      horderly.submissions_eq_nil hwas⟩
  case drained => exact fun i earlier between later hpast =>
    Orderly.entries_of_returned (hpast ▸ htold.orderly)
  case outcome =>
    exact fun i s stage hc => (htold.trail i _ hc).outcome fun hmem =>
      hspilled i s ((mem_notesOf rfl).mp hmem)
  case finished => exact fun i c hc => (htold.trail i c hc).isOver_iff.trans (mem_notesOf rfl)
  case dropped => exact fun i s earlier later hpast => htold.orderly earlier _ later hpast
  case late => exact fun i s earlier later hpast hclosed => htold.late hpast hclosed
  case linear =>
    exact fun service idText => (foldl_redo { service, idText } rfl rfl htold.orderly hspilled).2.2
  case safe => exact fun turn halt => hfitting.eq_blocked
  case ends =>
    intro inner t' hinner hfollow
    have hthen : Fitting t' := follow_induction Fitting.moves hfitting hfollow
    exact ⟨Nat.le_of_add_right_le (length_le_left hinner hfollow), fun ⟨c, hc, hover⟩ =>
      hthen.exists_step hc hover⟩

/-- Two spans are submitted while the tracer is about to be closed, and one
afterwards. -/
theorem Traffic.delivers_two_of_three :
    let a : Span := { trace := "t", id := "1", parent := "", name := "read", service := "bridge" }
    let b : Span := { trace := "t", id := "2", parent := "1", name := "write", service := "bridge" }
    let c : Span := { trace := "t", id := "3", parent := "1", name := "late", service := "bridge" }
    let turns : List Turn := [.submit a, .submit b, .call 1, .close, .call 0, .call 1, .call 1,
      .collector, .call 0, .call 0, .call 1, .call 0, .call 2, .call 2, .call 2, .submit c,
      .collector, .call 2, .call 2, .call 3, .call 3, .call 3, .collector, .collector, .collector,
      .collector, .call 2]
    ∃ t, (start "bridge" toString).follow turns = .ok t ∧ (start "bridge" toString).Roomy turns ∧
      Delivery t ∧ t.shared.tracer.log = [b, a] ∧ t.calls.all Call.isOver :=
  have hroom : (start "bridge" toString).Roomy _ := roomy_of_length (by decide)
  ⟨_, rfl, hroom, delivers rfl hroom, rfl, rfl⟩

end ObjectBridge.Tracer

import ObjectBridge.Proofs.Trace.Steps

/-!
# `ObjectBridge.Proofs.Trace.Notes`: what can be read off the notes

The notes of a traffic are kept in the order things happened. `Admits` says
when a note may follow the notes before it, and notes that all may stand where
they stand are `Orderly`. This is all it takes to see what becomes of spans:
those that were logged are always the first of those that were submitted
(`Orderly.entries_prefix`), and when the call returns that closed the tracer
they are all of them (`Orderly.entries_of_returned`). A tracer that does one
thing at a time comes to the same log (`foldl_redo`).

`Call.Trail` tells the notes about one call by where it is.
-/

set_option autoImplicit false

namespace ObjectBridge.Tracer

variable {x y : Shared} {c old new : Call} {o : Option Note} {n : Note} {i : Nat}
    {past earlier later : List Note}

/-! ### Notes -/

/-- The span that waits from now on. -/
def Note.submission? : Note → Option Span
  | .submitted _ s => some s
  | _ => none

/-- The span that is logged. -/
def Note.entry? : Note → Option Span
  | .logged s => some s
  | _ => none

/-- The call the note is about. -/
def Note.call? : Note → Option Nat
  | .called i | .submitted i _ | .dropped i _ | .spilled i _ | .closed i | .returned i => some i
  | .logged _ => none

/-- The spans that were submitted, the earliest first. -/
def submissions (past : List Note) : List Span := past.filterMap Note.submission?

/-- The spans that were logged, the earliest first. -/
def entries (past : List Note) : List Span := past.filterMap Note.entry?

/-- Has the tracer been closed? -/
def WasClosed (past : List Note) : Prop := ∃ i, .closed i ∈ past

/-- The notes about a call. -/
def notesOf (i : Nat) (past : List Note) : List Note := past.filter (·.call? = some i)

/-- When a note may be taken, by the notes before it: a span is submitted while
the tracer has not been closed, and dropped afterwards; it is logged when its
turn has come. When the call returns that closed the tracer, everything that
was submitted has been logged. -/
def Admits (past : List Note) : Note → Prop
  | .called _ => True
  | .submitted _ _ => ¬ WasClosed past
  | .dropped _ _ => WasClosed past
  | .spilled _ _ => bufferSize + (entries past).length ≤ (submissions past).length
  | .closed _ => ¬ WasClosed past
  | .logged s => entries past ++ [s] <+: submissions past
  | .returned i => .closed i ∈ past → entries past = submissions past

/-- Each note was taken when it may be taken. -/
def Orderly (past : List Note) : Prop := ∀ earlier n later, past = earlier ++ n :: later →
    Admits earlier n

/-- What was submitted in two portions of the past. -/
@[simp] theorem submissions_append (past later : List Note) :
    submissions (past ++ later) = submissions past ++ submissions later := List.filterMap_append

/-- What was logged in them. -/
@[simp] theorem entries_append (past later : List Note) :
    entries (past ++ later) = entries past ++ entries later :=
  List.filterMap_append

/-- A close is in one of them. -/
theorem wasClosed_append : WasClosed (past ++ later) ↔ WasClosed past ∨ WasClosed later := by
  unfold WasClosed
  simp only [List.mem_append, exists_or]

namespace Orderly

/-- An empty past is in order. -/
theorem nil : Orderly [] := by
  intro earlier n later h
  exact absurd h (by simp)

/-- A past stays in order with a note it admits. -/
theorem concat (h : Orderly past) (hn : Admits past n) : Orderly (past ++ [n]) := by
  intro earlier m later heq
  rcases List.eq_nil_or_concat later with rfl | ⟨later, l, rfl⟩
  · obtain ⟨rfl, hm⟩ := List.append_inj' heq rfl
    cases hm
    exact hn
  · rw [List.concat_eq_append, ← List.cons_append, ← List.append_assoc] at heq
    obtain ⟨hpast, -⟩ := List.append_inj' heq rfl
    exact h earlier m later hpast

/-- What came before is in order, too. -/
theorem left (h : Orderly (past ++ later)) : Orderly past := fun earlier n rest heq =>
  h earlier n (rest ++ later) (by rw [heq, List.append_assoc, List.cons_append])

/-- What has been logged is what was submitted first, in the same order. -/
theorem entries_prefix (h : Orderly past) : entries past <+: submissions past := by
  induction past using List.reverseRecOn with
  | nil => exact List.prefix_rfl
  | append_singleton past n ih =>
    have hn : Admits past n := h past n [] rfl
    have ih := ih h.left
    rw [entries_append, submissions_append]
    cases n with
    | logged s =>
      show entries past ++ [s] <+: submissions past ++ []
      rw [List.append_nil]
      exact hn
    | submitted i s =>
      show entries past ++ [] <+: submissions past ++ [s]
      rw [List.append_nil]
      exact ih.trans (List.prefix_append _ _)
    | _ =>
      show entries past ++ [] <+: submissions past ++ []
      rw [List.append_nil, List.append_nil]
      exact ih

/-- Nothing is submitted to a tracer that was closed. -/
theorem submissions_eq_nil (h : Orderly (past ++ later)) (hclosed : WasClosed past) :
    submissions later = [] := by
  rw [submissions, List.filterMap_eq_nil_iff]
  intro n hn
  obtain ⟨front, back, rfl⟩ := List.append_of_mem hn
  have hadmits := h (past ++ front) n back (by rw [List.append_assoc])
  cases n with
  | submitted i s => exact absurd (wasClosed_append.mpr (.inl hclosed)) hadmits
  | _ => rfl

/-- A tracer is closed once. -/
theorem not_wasClosed (h : Orderly (past ++ later)) (hclosed : WasClosed past) :
    ¬ WasClosed later := by
  rintro ⟨i, hi⟩
  obtain ⟨front, back, rfl⟩ := List.append_of_mem hi
  exact h (past ++ front) (.closed i) back (by rw [List.append_assoc])
    (wasClosed_append.mpr (.inl hclosed))

/-- When the call returns that closed the tracer, what was submitted before it
did so has been logged, and nothing is logged afterwards. -/
theorem entries_of_returned (h : Orderly (earlier ++ .closed i :: (past ++ .returned i :: later))) :
    entries (earlier ++ .closed i :: past) = submissions earlier ∧ entries later = [] := by
  have hwas : WasClosed (earlier ++ [.closed i]) := ⟨i, by simp⟩
  have hsplit : earlier ++ .closed i :: (past ++ .returned i :: later) =
      (earlier ++ [.closed i]) ++ (past ++ .returned i :: later) := by simp
  have hnone := submissions_eq_nil (hsplit ▸ h) hwas
  rw [submissions_append] at hnone
  obtain ⟨hpast, hlater⟩ := List.append_eq_nil_iff.mp hnone
  have hbefore : submissions (earlier ++ .closed i :: past) = submissions earlier := by
    rw [submissions_append]
    show submissions earlier ++ submissions past = _
    rw [hpast, List.append_nil]
  have hall : entries (earlier ++ .closed i :: past) = submissions earlier :=
    (h (earlier ++ .closed i :: past) (.returned i) later (by simp) (by simp)).trans hbefore
  refine ⟨hall, ?_⟩
  -- All that was submitted is in the log already.
  have hprefix := h.entries_prefix
  rw [show earlier ++ .closed i :: (past ++ .returned i :: later) =
    (earlier ++ .closed i :: past) ++ .returned i :: later by simp, entries_append,
    submissions_append, hall, hbefore] at hprefix
  have hlength := hprefix.length_le
  rw [show submissions (.returned i :: later) = [] from hlater] at hlength
  have hnil : entries (.returned i :: later) = [] := by simpa using hlength
  exact hnil

end Orderly

/-! ### The trail of a call -/

/-- What may come of a submission. -/
def Note.IsOutcome (i : Nat) (s : Span) (n : Note) : Prop :=
  n = .submitted i s ∨ n = .dropped i s ∨ n = .spilled i s

/-- What is noted about a call, by where it is. -/
def Call.Trail (i : Nat) (notes : List Note) : Call → Prop
  | .submit s .leaving => ∃ n, n.IsOutcome i s ∧ notes = [.called i, n]
  | .submit s .returned => ∃ n, n.IsOutcome i s ∧ notes = [.called i, n, .returned i]
  | .submit _ _ => notes = [.called i]
  | .close .shutting => notes = [.called i, .closed i]
  | .close (.leaving true) => notes = [.called i, .closed i]
  | .close .waiting => notes = [.called i, .closed i]
  | .close (.returned true) => notes = [.called i, .closed i, .returned i]
  | .close (.returned false) => notes = [.called i, .returned i]
  | .close _ => notes = [.called i]

/-- A step of a call notes something about this call. -/
theorem Deed.call?_eq (h : Deed x i old y new o) (hn : n ∈ o.toList) : n.call? = some i := by
  cases h <;> simp at hn <;> subst hn <;> rfl

/-- Notes about a call come behind those there are. -/
theorem notesOf_append_of_call? (h : ∀ n ∈ later, n.call? = some i) :
    notesOf i (past ++ later) = notesOf i past ++ later := by
  have hall : later.filter (·.call? = some i) = later := List.filter_eq_self.mpr fun n hn =>
    decide_eq_true (h n hn)
  unfold notesOf
  rw [List.filter_append, hall]

/-- Notes about others do not count. -/
theorem notesOf_append_of_ne (h : ∀ n ∈ later, n.call? ≠ some i) :
    notesOf i (past ++ later) = notesOf i past := by
  have hnone : later.filter (·.call? = some i) = [] := List.filter_eq_nil_iff.mpr fun n hn => by
    simpa using h n hn
  unfold notesOf
  rw [List.filter_append, hnone, List.append_nil]

/-- A call leaves its trail step by step. -/
theorem Deed.trail {notes : List Note} (h : Deed x i old y new o) (htrail : old.Trail i notes) :
    new.Trail i (notes ++ o.toList) := by
  -- A deed without a note keeps the trail, and a note is the next one on it.
  cases h with
  | enter => exact (List.append_nil _).trans htrail
  | proceed => exact (List.append_nil _).trans htrail
  | drop =>
    obtain rfl := htrail
    exact ⟨_, .inr (.inl rfl), rfl⟩
  | spill =>
    obtain rfl := htrail
    exact ⟨_, .inr (.inr rfl), rfl⟩
  | hand =>
    obtain rfl := htrail
    exact ⟨_, .inl rfl, rfl⟩
  | leave =>
    obtain ⟨n, hn, rfl⟩ := htrail
    exact ⟨n, hn, rfl⟩
  | seize => exact (List.append_nil _).trans htrail
  | findClosed => exact (List.append_nil _).trans htrail
  | findOpen => exact (List.append_nil _).trans htrail
  | mark =>
    obtain rfl := htrail
    rfl
  | shut => exact (List.append_nil _).trans htrail
  | yieldFirst => exact (List.append_nil _).trans htrail
  | yield =>
    obtain rfl := htrail
    rfl
  | finish =>
    obtain rfl := htrail
    rfl

/-- The call that has closed the tracer is on its way out. -/
theorem Call.Trail.not_closed {notes : List Note} (h : c.Trail i notes)
    (hc : (∃ s, c = .submit s .leaving) ∨ c = .close (.leaving false)) : .closed i ∉ notes := by
  rcases hc with ⟨s, rfl⟩ | rfl
  · obtain ⟨n, hn, rfl⟩ := h
    rcases hn with rfl | rfl | rfl <;> simp
  · obtain rfl := h
    simp

/-- The notes of a call are those of the past that are its own. -/
theorem mem_notesOf (hn : n.call? = some i) : n ∈ notesOf i past ↔ n ∈ past := by
  unfold notesOf
  rw [List.mem_filter, decide_eq_true hn, and_iff_left rfl]

/-- A call is over when it has returned. -/
theorem Call.Trail.isOver_iff {notes : List Note} (h : c.Trail i notes) :
    c.isOver = true ↔ .returned i ∈ notes := by
  -- Only a call that has returned has a trail that ends so.
  cases c with
  | submit s stage =>
    cases stage with
    | leaving =>
      obtain ⟨n, hn, rfl⟩ := h
      rcases hn with rfl | rfl | rfl <;> simp [Call.isOver]
    | returned =>
      obtain ⟨n, hn, rfl⟩ := h
      simp [Call.isOver]
    | _ =>
      obtain rfl := h
      simp [Call.isOver]
  | close stage =>
    cases stage with
    | leaving first =>
      cases first <;>
      · obtain rfl := h
        simp [Call.isOver]
    | returned first =>
      cases first <;>
      · obtain rfl := h
        simp [Call.isOver]
    | _ =>
      obtain rfl := h
      simp [Call.isOver]

/-- The first note about a call is that there is one, and it is not noted
twice. -/
theorem Call.Trail.called {notes : List Note} (h : c.Trail i notes) :
    ∃ rest, notes = .called i :: rest ∧ .called i ∉ rest := by
  have hone {rest : List Note} (hnotes : notes = .called i :: rest) (hrest : .called i ∉ rest) :
      ∃ rest, notes = .called i :: rest ∧ .called i ∉ rest := ⟨rest, hnotes, hrest⟩
  cases c with
  | submit s stage =>
    cases stage with
    | leaving =>
      obtain ⟨n, hn, hnotes⟩ := h
      exact hone hnotes (by rcases hn with rfl | rfl | rfl <;> simp)
    | returned =>
      obtain ⟨n, hn, hnotes⟩ := h
      exact hone hnotes (by rcases hn with rfl | rfl | rfl <;> simp)
    | _ => exact hone h (by simp)
  | close stage =>
    cases stage with
    | leaving first => cases first <;> exact hone h (by simp)
    | returned first => cases first <;> exact hone h (by simp)
    | _ => exact hone h (by simp)

/-- Without a spill, a submission comes to one of two things. -/
theorem Call.Trail.outcome {notes : List Note} {s : Span} {stage : Submission}
    (h : (Call.submit s stage).Trail i notes) (hspilled : .spilled i s ∉ notes) :
    notes <+: [.called i, .submitted i s, .returned i] ∨
      notes <+: [.called i, .dropped i s, .returned i] := by
  cases stage with
  | leaving =>
    obtain ⟨n, hn, rfl⟩ := h
    rcases hn with rfl | rfl | rfl
    · exact .inl ⟨_, rfl⟩
    · exact .inr ⟨_, rfl⟩
    · exact absurd (by simp) hspilled
  | returned =>
    obtain ⟨n, hn, rfl⟩ := h
    rcases hn with rfl | rfl | rfl
    · exact .inl List.prefix_rfl
    · exact .inr List.prefix_rfl
    · exact absurd (by simp) hspilled
  | _ =>
    obtain rfl := h
    exact .inl ⟨_, rfl⟩

/-! ### One call at a time -/

/-- What a call does when nothing else is going on. -/
def redo (t : Tracer) : Note → Tracer
  | .submitted _ s | .dropped _ s | .spilled _ s => t.deliver s
  | .closed _ => t.close
  | _ => t

/-- A tracer that logs each span before anything else happens, logs the same
spans in the same order. -/
theorem foldl_redo (t : Tracer) (hopen : t.closed = false) (hidle : t.waiting = [])
    (h : Orderly past) (hspilled : ∀ i s, .spilled i s ∉ past) :
    ((past.foldl redo t).closed = true ↔ WasClosed past) ∧ (past.foldl redo t).waiting = [] ∧
      (past.foldl redo t).log = t.log ++ submissions past := by
  -- By induction from the end: what a note may follow depends on all that came before it.
  induction past using List.reverseRecOn with
  | nil =>
    have hnone : ¬ WasClosed [] := fun ⟨_, hmem⟩ => List.not_mem_nil hmem
    exact ⟨iff_of_false (Bool.eq_false_iff.mp hopen) hnone, hidle, (List.append_nil _).symm⟩
  | append_singleton past n ih =>
    obtain ⟨hclosed, hwaiting, hlog⟩ := ih h.left fun i s hmem =>
      hspilled i s (List.mem_append_left _ hmem)
    have hn : Admits past n := h past n [] rfl
    rw [List.foldl_append, List.foldl_cons, List.foldl_nil, wasClosed_append, submissions_append,
      ← List.append_assoc, ← hlog, ← hclosed]
    cases n with
    | submitted i s =>
      have hnot : (past.foldl redo t).closed = false := by simpa using mt hclosed.mp hn
      simp [redo, deliver, submit, collect, hnot, hwaiting, bufferSize, WasClosed,
        Tracer.submissions, log, Note.submission?]
    | dropped i s =>
      have hyes : (past.foldl redo t).closed = true := hclosed.mpr hn
      simp [redo, deliver, submit, collect, hyes, hwaiting, WasClosed, Tracer.submissions, log,
        Note.submission?]
    | spilled i s => exact absurd (List.mem_append_right past List.mem_cons_self) (hspilled i s)
    | closed i =>
      have hnot : (past.foldl redo t).closed = false := by simpa using mt hclosed.mp hn
      simp [redo, close, hnot, hwaiting, WasClosed, Tracer.submissions, log, Note.submission?]
    | _ => simp [redo, hwaiting, WasClosed, Tracer.submissions, Note.submission?]

end ObjectBridge.Tracer

import ObjectBridge.Trace

/-!
# `ObjectBridge.Trace.Traffic`: many callers and one tracer

Spans are submitted by any number of callers at the same time, and a tracer
may be closed by several of them. A lock keeps closing apart from submitting:
those who submit share it as readers, whoever closes has it alone as the
writer. Submitted spans wait in a buffer, from which a collector takes them
one after the other and logs them. Closing shuts the buffer and waits until
the collector has logged what was in it.

A `Traffic` is everything that is going on: what the parties share, where each
of them is, and the notes about what they have done. `Traffic.step` is one
step of one of them, and which of them it is, is not said here. What must not
happen to a buffer or a lock is a `Halt`.

A reader is let in here whenever there is no writer. A lock that lets readers
wait for a writer that waits allows fewer courses.
-/

set_option autoImplicit false

namespace ObjectBridge.Tracer

/-! ### What is shared -/

structure Shared where
  tracer : Tracer
  /-- How many have the lock as readers. -/
  readers : Nat := 0
  /-- Does someone have the lock as the writer? -/
  writer : Bool := false
  /-- Is the buffer shut? -/
  shut : Bool := false
  /-- Has the collector told that it is done? -/
  done : Bool := false

/-- Why a step is not made. -/
inductive Halt
  /-- The party has to wait, or has come to its end. -/
  | blocked
  /-- A span was handed to a buffer that is shut. -/
  | sendOnShut
  /-- What is shut was to be shut. -/
  | shutTwice
  /-- The lock was given back by someone who does not have it. -/
  | unlockFree
  deriving DecidableEq, Repr

/-- What is noted about a step: which call it is about, and the span. -/
inductive Note
  | called (call : Nat)
  /-- The span waits from now on. -/
  | submitted (call : Nat) (s : Span)
  /-- The tracer was found closed. -/
  | dropped (call : Nat) (s : Span)
  /-- Too many spans were waiting. -/
  | spilled (call : Nat) (s : Span)
  /-- The tracer was closed. -/
  | closed (call : Nat)
  | logged (s : Span)
  | returned (call : Nat)

/-! ### Calls -/

/-- Where a submission is. It is a reader from its second stage to its last
but one. -/
inductive Submission
  | entering
  /-- Is the tracer closed? -/
  | looking
  | handing
  | leaving
  | returned
  deriving DecidableEq, Repr

/-- Where a closing is. It is the writer from its second stage until it has
left. -/
inductive Closing
  | entering
  /-- Is the tracer closed? -/
  | looking
  | marking
  | shutting
  /-- `first` tells whether this is the call that has closed the tracer. -/
  | leaving (first : Bool)
  /-- The collector is to tell that it is done. -/
  | waiting
  | returned (first : Bool)
  deriving DecidableEq, Repr

inductive Call
  | submit (s : Span) (stage : Submission)
  | close (stage : Closing)

/-- Puts a span into the buffer. -/
def enqueue (t : Tracer) (s : Span) : Tracer := { t with waiting := t.waiting ++ [s] }

/-- The next step of a submission. -/
def Submission.go (x : Shared) (call : Nat) (s : Span) :
    Submission → Except Halt (Shared × Submission × Option Note)
  | .entering =>
    if x.writer then .error .blocked else .ok ({ x with readers := x.readers + 1 }, .looking, none)
  | .looking =>
    if x.tracer.closed then .ok (x, .leaving, some (.dropped call s)) else .ok (x, .handing, none)
  | .handing =>
    if x.shut then .error .sendOnShut
    else if bufferSize ≤ x.tracer.waiting.length then .ok (x, .leaving, some (.spilled call s))
    else .ok ({ x with tracer := x.tracer.enqueue s }, .leaving, some (.submitted call s))
  | .leaving =>
    if x.readers = 0 then .error .unlockFree
    else .ok ({ x with readers := x.readers - 1 }, .returned, some (.returned call))
  | .returned => .error .blocked

/-- The next step of a closing. -/
def Closing.go (x : Shared) (call : Nat) : Closing → Except Halt (Shared × Closing × Option Note)
  | .entering =>
    if x.writer || x.readers ≠ 0 then .error .blocked
    else .ok ({ x with writer := true }, .looking, none)
  | .looking => .ok (x, if x.tracer.closed then .leaving false else .marking, none)
  | .marking =>
    .ok ({ x with tracer := { x.tracer with closed := true } }, .shutting, some (.closed call))
  | .shutting => if x.shut then .error .shutTwice
  else .ok ({ x with shut := true }, .leaving true, none)
  | .leaving first =>
    if !x.writer then .error .unlockFree
    else if first then .ok ({ x with writer := false }, .waiting, none)
    else .ok ({ x with writer := false }, .returned false, some (.returned call))
  | .waiting => if x.done then .ok (x, .returned true, some (.returned call)) else .error .blocked
  | .returned _ => .error .blocked

/-- The next step of a call. -/
def Call.go (x : Shared) (call : Nat) : Call → Except Halt (Shared × Call × Option Note)
  | .submit s stage => do
    let (x, stage, note) ← stage.go x call s
    return (x, .submit s stage, note)
  | .close stage => do
    let (x, stage, note) ← stage.go x call
    return (x, .close stage, note)

/-! ### The collector -/

/-- Where the collector is. -/
inductive Collector
  | receiving
  | logging (s : Span)
  /-- The buffer is shut, and nothing is left in it. -/
  | leaving
  | gone

/-- The next step of the collector. -/
def Collector.go (x : Shared) : Collector → Except Halt (Shared × Collector × Option Note)
  | .receiving =>
    match x.tracer.waiting with
    | s :: rest => .ok ({ x with tracer := { x.tracer with waiting := rest } }, .logging s, none)
    | [] => if x.shut then .ok (x, .leaving, none) else .error .blocked
  | .logging s =>
    .ok ({ x with tracer := { x.tracer with logged := s :: x.tracer.logged } }, .receiving,
      some (.logged s))
  | .leaving => if x.done then .error .shutTwice else .ok ({ x with done := true }, .gone, none)
  | .gone => .error .blocked

/-! ### Everyone together -/

structure Traffic where
  shared : Shared
  collector : Collector := .receiving
  /-- The calls there have been, each known by its place. -/
  calls : List Call := []
  /-- What has been noted, the earliest first. No step depends on it. -/
  past : List Note := []

/-- Whose turn it is. -/
inductive Turn
  /-- A new call. -/
  | submit (s : Span)
  | close
  /-- A step of a call. -/
  | call (place : Nat)
  | collector

namespace Traffic

/-- A tracer that no one has called. -/
def start (service : String) (idText : Nat → String) : Traffic :=
  { shared := { tracer := { service, idText } } }

/-- Begins a call. -/
def enter (t : Traffic) (c : Call) : Traffic :=
  { t with calls := t.calls ++ [c], past := t.past ++ [.called t.calls.length] }

/-- One step of one party. -/
def step (t : Traffic) : Turn → Except Halt Traffic
  | .submit s => .ok (t.enter (.submit s .entering))
  | .close => .ok (t.enter (.close .entering))
  | .call place =>
    match t.calls[place]? with
    | none => .error .blocked
    | some c => do
      let (shared, c, note) ← c.go t.shared place
      return { t with shared, calls := t.calls.set place c, past := t.past ++ note.toList }
  | .collector => do
    let (shared, collector, note) ← t.collector.go t.shared
    return { t with shared, collector, past := t.past ++ note.toList }

/-- Steps one after the other. -/
def follow (t : Traffic) : List Turn → Except Halt Traffic
  | [] => .ok t
  | turn :: rest => do (← t.step turn).follow rest

end Traffic

end ObjectBridge.Tracer

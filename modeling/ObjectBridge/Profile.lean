import ObjectBridge.Data.Dict
import ObjectBridge.Text.Utf8

/-!
# `ObjectBridge.Profile`: timing operations

A `Recorder` hears when an operation starts and stops. Operations are
named by keys; starts of one key nest, and a stop closes the latest start
of its key that is still open. A stop without an open start is ignored,
so a measurement that a reset has dropped cannot come back.

Readings of the clock are passed in: the recorder itself has none. They and
the totals have no bounds here. A clock that counts nanoseconds in 64 bits
agrees as long as no total comes to `2 ^ 63` of them.
-/

set_option autoImplicit false

namespace ObjectBridge

/-- What is known about the finished measurements of one key. -/
structure Timing where
  calls : Nat := 0
  total : Int := 0
  deriving DecidableEq, Repr, Inhabited

/-- Open and finished measurements by key. -/
structure Recorder where
  /-- Readings of the starts still open, latest first. -/
  opened : Dict Bytes (List Int) := {}
  timings : Dict Bytes Timing := {}
  /-- How often each key was started. This is only noted; no operation reads
  it. -/
  started : Dict Bytes Nat := {}
  /-- How many measurements of each key were left open because what they time
  was unwound. This is only noted; no operation reads it. -/
  stranded : Dict Bytes Nat := {}
  deriving Repr, Inhabited

namespace Recorder

/-- Opens a measurement. -/
def start (r : Recorder) (key : Bytes) (now : Int) : Recorder :=
  { r with
    opened := r.opened.alter key fun before => now :: before.getD []
    started := r.started.alter key fun n => n.getD 0 + 1 }

/-- Closes the latest open measurement of a key. -/
def stop (r : Recorder) (key : Bytes) (now : Int) : Recorder :=
  match r.opened.find? key with
  | some (began :: earlier) =>
    { r with
      opened := if earlier.isEmpty then r.opened.erase key else r.opened.insert key earlier
      timings := r.timings.alter key fun t =>
        let t := t.getD {}
        { calls := t.calls + 1, total := t.total + (now - began) } }
  | _ => r

/-- Notes that nobody is going to close a measurement. -/
def strand (r : Recorder) (key : Bytes) : Recorder :=
  { r with stranded := r.stranded.alter key fun n => n.getD 0 + 1 }

/-- Forgets every measurement, open or finished. -/
def reset (_ : Recorder) : Recorder := {}

/-- The finished measurements by key, in key order. -/
def stats (r : Recorder) : List (Bytes × Timing) := r.timings.entries

/-- Calls by key, in key order. -/
def calls (r : Recorder) : List (Bytes × Nat) := r.stats.map fun e => (e.1, e.2.calls)

end Recorder

/-- A measurement that is stopped at most once. -/
structure Scope where
  key : Bytes
  stopped : Bool := false
  deriving Repr, Inhabited

namespace Scope

/-- Starts a measurement. -/
def begin (r : Recorder) (key : Bytes) (now : Int) : Recorder × Scope :=
  (r.start key now, { key })

/-- Stops a measurement unless it was stopped before. -/
def close (s : Scope) (r : Recorder) (now : Int) : Recorder × Scope :=
  if s.stopped then (r, s) else (r.stop s.key now, { s with stopped := true })

end Scope

end ObjectBridge

/-!
# `ObjectBridge.Bridge.Watch`: stopping scripts

Every run of a script has a watcher. It waits until the time is up, or until
the caller gives up, and then raises the flag of the runtime. A script that
finds the flag raised ends at once, also when it has only just started.

When a script has ended the flag is lowered. The watcher is still there
then: it is dismissed only when the result has been taken out of the
runtime.
-/

set_option autoImplicit false

namespace ObjectBridge

/-- What a watcher raises. -/
structure Interrupt where
  /-- The run that is watched. This is only noted; no operation reads it. -/
  run : Nat
  /-- Did the caller give up? Otherwise the time was up. -/
  cancelled : Bool
  deriving DecidableEq, Repr

/-- What stops the scripts of a runtime. -/
structure Watch where
  /-- Runs begun so far. -/
  runs : Nat := 0
  flag : Option Interrupt := none
  /-- The watcher of a script that has ended, with the steps for which it
  is going to wait. -/
  watcher : Option (Interrupt × Nat) := none
  deriving DecidableEq, Repr

instance : Inhabited Watch := ⟨{}⟩

namespace Watch

/-- A run begins. The flag stays as it is. -/
def start (w : Watch) : Watch := { w with runs := w.runs + 1 }

/-- A watcher raises the flag. -/
def raise (w : Watch) (f : Interrupt) : Watch := { w with flag := some f }

/-- The script has ended. -/
def lower (w : Watch) : Watch := { w with flag := none }

/-- The watcher stays for a while. -/
def keep (w : Watch) (f : Interrupt) (patience : Nat) : Watch :=
  { w with watcher := some (f, patience) }

/-- Nobody is watching any more. -/
def dismiss (w : Watch) : Watch := { w with watcher := none }

/-- Steps go by. A watcher that waited for no more than these acts. -/
def elapse (w : Watch) (steps : Nat) : Watch :=
  match w.watcher with
  | some (f, patience) => if patience ≤ steps then (w.raise f).dismiss
  else w.keep f (patience - steps)
  | none => w

end Watch

end ObjectBridge

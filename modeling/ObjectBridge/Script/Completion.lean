import ObjectBridge.Script.Syntax

/-!
# `ObjectBridge.Script.Completion`: the value of a program

The value of a program is that of the last expression statement that was
reached, as far as that can be told from the program's text. In a list of
statements only the last one that can have a value counts, and what stands
behind a `break` or `continue` is not looked at: such a list counts when
the statement it leaves does. `Stmt.keep` marks the statements that
count.
-/

set_option autoImplicit false

namespace ObjectBridge.Script

/-- A statement that can be left from inside. -/
structure Target where
  label : Option String
  /-- Is it left by a plain `break`? -/
  breaks : Bool
  /-- Is it left by a plain `continue`? -/
  continues : Bool
  /-- Does the statement count? -/
  kept : Bool

/-- Is the statement a jump out of another? -/
def Stmt.isJump : Stmt → Bool
  | .break _ => true
  | .continue _ => true
  | _ => false

/-- The statement that a jump leaves. -/
def Stmt.target? (targets : List Target) : Stmt → Option Target
  | .break none => targets.find? (·.breaks)
  | .continue none => targets.find? (·.continues)
  | .break (some l) | .continue (some l) => targets.find? (·.label = some l)
  | _ => none

mutual

/-- Has the statement no value whatever happens? -/
def Stmt.isSilent : Stmt → Bool
  | .empty _ => true
  | .var _ => true
  | .break _ => true
  | .continue _ => true
  | .labelled _ s => s.isSilent
  | .block _ body => allSilent body
  | _ => false

/-- Have statements up to the first jump no value? -/
def allSilent : List Stmt → Bool
  | [] => true
  | s :: rest => s.isJump || (s.isSilent && allSilent rest)

end

/-- The position of the last statement that can have a value, before the
first jump, and what that jump leaves. -/
def lastLoud (targets : List Target) : (position : Nat) → (found : Option Nat) → List Stmt →
    Option Nat × Option Target
  | _, found, [] => (found, none)
  | i, found, s :: rest =>
    if s.isJump then (found, s.target? targets)
    else lastLoud targets (i + 1) (if s.isSilent then found else some i) rest

mutual

/-- Marks what counts in a statement that counts when `kept`. -/
def Stmt.keep (targets : List Target) (kept : Bool) : Stmt → Stmt
  | .empty _ => .empty kept
  | .expr e _ => .expr e kept
  | .var decls => .var decls
  | .function name f => .function name f
  | .block functions body =>
    let (last, target) := lastLoud targets 0 none body
    let kept := (target.map (·.kept)).getD kept
    .block functions (keepAll targets (if kept then last else none) 0 body)
  | .cond _ test yes no =>
    .cond kept test (yes.keep targets kept) (match no with
      | some s => some (s.keep targets kept)
      | none => none)
  | .while _ label test body =>
    .while kept label test (body.keep ({ label, breaks := true, continues := true, kept } ::
      targets) kept)
  | .doWhile _ label body test =>
    .doWhile kept label (body.keep ({ label, breaks := true, continues := true, kept } :: targets)
      kept) test
  | .for _ label init test update body =>
    .for kept label init test update
      (body.keep ({ label, breaks := true, continues := true, kept } :: targets) kept)
  | .forIn _ label target object body =>
    .forIn kept label target object
      (body.keep ({ label, breaks := true, continues := true, kept } :: targets) kept)
  | .switch _ subject functions cases =>
    .switch kept subject functions
      (keepCases ({ label := none, breaks := true, continues := false, kept } :: targets) kept
      cases)
  | .labelled label s =>
    .labelled label (s.keep ({ label := some label, breaks := false, continues := false, kept } ::
      targets) kept)
  | .try _ body handler finalizer =>
    -- A finalizer that jumps decides what counts.
    let (last, target) := match finalizer with
      | some (.block _ ss) => lastLoud targets 0 none ss
      | _ => (none, none)
    let inner := match target, last with
      | none, _ => kept
      | some t, none => t.kept
      | some _, some _ => false
    let drops := target.isSome && last.isNone && inner
    .try kept (body.keep targets inner)
      (match handler with
        | some (.mk param functions ss) =>
          let (last, target) := lastLoud targets 0 none ss
          let inner := (target.map (·.kept)).getD inner
          some (.mk param functions (keepAll targets (if inner then last else none) 0 ss))
        | none => none)
      (match finalizer with
        | some s =>
          let s := s.keep targets false
          some (if drops then .block [] [.empty true, s] else s)
        | none => none)
  | s => s

/-- Marks what counts in statements of which the one at position `last`
counts. -/
def keepAll (targets : List Target) (last : Option Nat) : (position : Nat) → List Stmt → List Stmt
  | _, [] => []
  | i, s :: rest => s.keep targets (last = some i) :: keepAll targets last (i + 1) rest

/-- Marks what counts in the cases of a `switch`. -/
def keepCases (targets : List Target) (kept : Bool) : List SwitchCase → List SwitchCase
  | [] => []
  | .mk test body :: rest =>
    let (last, target) := lastLoud targets 0 none body
    let inner := (target.map (·.kept)).getD kept
    .mk test (keepAll targets (if inner then last else none) 0 body) :: keepCases targets kept rest

end

/-- Marks what counts in the body of a program. -/
def keepProgram (body : List Stmt) : List Stmt :=
  keepAll [] (lastLoud [] 0 none body).1 0 body

end ObjectBridge.Script

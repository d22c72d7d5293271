/-!
# `ObjectBridge.Manifest.Refusal`: why a document is no manifest

A document that is not well formed, or that holds something a manifest
has no place for, is refused. A few things are found out too late for
that: they are a `Misfit`, and reading breaks off with a message about
what could not be done.
-/

set_option autoImplicit false

namespace ObjectBridge.Manifest

/-- The kinds of date and time. -/
inductive MomentKind
  | date
  | time
  | dateTime
  /-- With the distance from universal time. -/
  | instant
  deriving DecidableEq, Repr

/-- The name of the kind. -/
def MomentKind.name : MomentKind → String
  | .date => "toml.LocalDate"
  | .time => "toml.LocalTime"
  | .dateTime => "toml.LocalDateTime"
  | .instant => "time.Time"

/-- What a value is stored in. -/
inductive Target
  | text
  | texts
  | namespace_
  | namespaces
  deriving DecidableEq, Repr

/-- The name of what is wanted. -/
def Target.name : Target → String
  | .text => "string"
  | .texts => "[]string"
  | .namespace_ => "manifest.Namespace"
  | .namespaces => "[]manifest.Namespace"

/-- What cannot be stored where it belongs, and is no ordinary error. -/
inductive Misfit
  /-- A date or time. -/
  | moment (kind : MomentKind) (target : Target)
  /-- A table below a text. -/
  | tableInText
  /-- An element of a list below the last one of a list without any. -/
  | inNone
  /-- A tag where a list belongs, without a list. -/
  | noList
  deriving DecidableEq, Repr

/-- What is said about a misfit; nothing is where there was nothing to
look at. -/
def Misfit.message? : Misfit → Option String
  | .moment kind target =>
    some ("reflect.Set: value of type " ++ kind.name ++ " is not assignable to type " ++
      target.name)
  | .tableInText => some "unhandled part: string"
  | .inNone => some "reflect: slice index out of range"
  | .noList => none

/-- Why a document is no manifest. -/
inductive Refusal
  | malformed
  | misfit (m : Misfit)
  deriving DecidableEq, Repr

end ObjectBridge.Manifest

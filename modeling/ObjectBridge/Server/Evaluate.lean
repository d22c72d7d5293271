import ObjectBridge.Data.Json.Document
import ObjectBridge.Server.Basic
import ObjectBridge.Text.Quoted

/-!
# `ObjectBridge.Server.Evaluate`: scripts that come from outside

Scripts come as members of JSON objects, over two ways with the same
rules: only the first value of a text is read, the case of a key does not
matter, the last of several members with the same key wins, and null is
as good as nothing.

What a script yields is sent back as JSON. Some values have no such form.
-/

set_option autoImplicit false

namespace ObjectBridge

/-! ### Reading what was sent -/

/-- Why a text could not be read. -/
inductive DecodeError
  /-- There was nothing to read. -/
  | empty
  | malformed
  deriving DecidableEq, Repr

def DecodeError.message : DecodeError → String
  | .empty => "EOF"
  | .malformed => "json"

/-- The members of the object at the beginning of a text; null has
none. -/
def decodeMembers (text : String) : Except DecodeError (List (Bytes × Json.Document)) :=
  let symbols := text.toList.map Utf8.Symbol.char
  match Json.Document.value? false symbols with
  | some (.object members, _) => .ok members
  | some (.null, _) => .ok []
  | some _ => .error .malformed
  | none => .error (if symbols.all Json.Document.isBlank then .empty else .malformed)

/-- The text under a key, `found` being the one found so far. -/
def textMember (key : String) (found : String) :
    List (Bytes × Json.Document) → Except DecodeError String
  | [] => .ok found
  | (k, v) :: rest =>
    if Letter.sameFold k.toStringLossy.toList key.toList then
      match v with
      | .string text => textMember key text.toStringLossy rest
      | .null => textMember key found rest
      | _ => .error .malformed
    else textMember key found rest

/-- The longest script that is run, in bytes. -/
def maxScriptBytes : Nat := 65536

/-! ### Sending back what came of it -/

namespace Runtime

mutual

/-- A value as JSON, if it has that form. Functions do not, nor do numbers
that are not finite, nor what is inside itself. -/
def Exported.json? : Exported → Option Json
  | .null => some .null
  | .bool b => some (.bool b)
  | .string text => some (.string text.toStringLossy)
  | .bigint n => some (.int n)
  | .number n => if n.isFinite then some (.number (Decimal.writeScript n)) else none
  | .list items => (jsonItems? items).map .array
  | .object fields => (jsonFields? fields).map .object
  | .function | .cycle => none
  | .other => some (.object [])

def jsonItems? : List Exported → Option (List Json)
  | [] => some []
  | x :: rest =>
    match x.json?, jsonItems? rest with
    | some v, some vs => some (v :: vs)
    | _, _ => none

def jsonFields? : List (String × Exported) → Option (List (String × Json))
  | [] => some []
  | (k, x) :: rest =>
    match x.json?, jsonFields? rest with
    | some v, some vs => some ((k, v) :: vs)
    | _, _ => none

end

def Execution.succeeded (x : Execution) : Bool := x.result.isOk

/-- How a run is entered in the books. -/
def Execution.status (x : Execution) : String := if x.succeeded then "ok" else "error"

/-- Has something been thrown whose text cannot be had? Whoever reports on
the run then fails likewise. -/
def Execution.isMute (x : Execution) : Bool :=
  match x.result with
  | .error .mute => true
  | _ => false

/-- What came of a run, if that has a form as JSON. -/
def Execution.json? (id : String) (x : Execution) : Option Json :=
  let lines := (x.console.getD []).map fun e =>
    Json.object [("level", .string e.1), ("message", .string e.2.toStringLossy)]
  match x.result with
  | .ok v =>
    v.json?.map fun v => .object [("id", .string id), ("value", v), ("console", .array lines)]
  | .error e =>
    some (.object [("id", .string id), ("value", .null), ("console", .array lines),
      ("error", .string e.message)])

end Runtime

end ObjectBridge

import ObjectBridge.Http.Address

/-!
# `ObjectBridge.Server.Listen`: where a server listens

A port is a number or the name of a service. Nothing at all is port zero,
which stands for any port that is free.
-/

set_option autoImplicit false

namespace ObjectBridge

/-- Why a server cannot listen. -/
inductive ListenError
  | endpoint (text : String) (fault : EndpointFault)
  | invalidPort (text : String)
  | unknownPort (text : String)
  deriving DecidableEq, Repr

def ListenError.message : ListenError → String
  | .endpoint text fault => "listen tcp: address " ++ text ++ ": " ++ fault.message
  | .invalidPort text => "listen tcp: address " ++ text ++ ": invalid port"
  | .unknownPort text => "listen tcp: lookup tcp/" ++ text ++ ": unknown port"

namespace Port

/-- Services with a port of their own. -/
def services : List (String × Nat) :=
  [("domain", 53), ("ftp", 21), ("ftps", 990), ("gopher", 70), ("http", 80), ("https", 443),
    ("imap2", 143), ("imap3", 220), ("imaps", 993), ("pop3", 110), ("pop3s", 995), ("smtp", 25),
    ("submissions", 465), ("ssh", 22), ("telnet", 23)]

/-- Numbers from this one on are not read to their end. -/
def readLimit : Nat := Nat.pow 2 30

/-- A number in decimal, `n` being what was read of it so far. -/
def digits? : (n : Nat) → List Char → Option Nat
  | n, [] => some n
  | n, c :: rest =>
    if !c.isDigit then none
    else if readLimit ≤ n then some n
    else digits? (n * 10 + (c.toNat - '0'.toNat)) rest

/-- A number with or without a sign. -/
def number? : List Char → Option Int
  | '+' :: rest => (digits? 0 rest).map Int.ofNat
  | '-' :: rest => (digits? 0 rest).map fun n => -(n : Int)
  | cs => (digits? 0 cs).map Int.ofNat

/-- The port that a text stands for. -/
def parse (text : String) : Except ListenError Nat :=
  match number? text.toList with
  | some n => if 0 ≤ n ∧ n ≤ 65535 then .ok n.toNat else .error (.invalidPort text)
  | none =>
    match services.lookup text.toLower with
    | some n => .ok n
    | none => .error (.unknownPort text)

end Port

/-- The port a server listens at, for settings of host and port. -/
def listenPort (host port : String) : Except ListenError Nat :=
  let text := host ++ ":" ++ port
  match Endpoint.parse text.toList with
  | .error fault => .error (.endpoint text fault)
  | .ok e => Port.parse (String.ofList e.port)

end ObjectBridge

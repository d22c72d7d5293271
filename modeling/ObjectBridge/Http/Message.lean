import ObjectBridge.Data.Dict
import ObjectBridge.Data.Json
import ObjectBridge.Http.Address
import ObjectBridge.Text.Base64
import ObjectBridge.Text.Quoted

/-!
# `ObjectBridge.Http.Message`: requests and responses

The client a request comes from is named by the proxies it passed, which
are all believed: the first of the addresses they give, provided that all
of them are addresses, and otherwise the address at the other end of the
connection.
-/

set_option autoImplicit false

/-!
## Header fields

The name of a header field has no letter case, so fields are kept under
their canonical names, in which every word begins with a capital. A field
may have several values.
-/

namespace ObjectBridge

/-- Header fields by canonical name. -/
abbrev Headers := Dict String (List String)

namespace Headers

/-- May a character stand in the name of a field? -/
def isNameChar (c : Char) : Bool := c.isAlphanum || "!#$%&'*+-.^_`|~".toList.contains c

/-- Capitals at the beginning of words, small letters elsewhere. -/
def capitalise : (atStart : Bool) → List Char → List Char
  | _, [] => []
  | true, c :: rest => c.toUpper :: capitalise (c = '-') rest
  | false, c :: rest => c.toLower :: capitalise (c = '-') rest

/-- The canonical form of a name. What cannot be a name stays as it is. -/
def canonicalName (name : String) : String :=
  if name.toList.all isNameChar then String.ofList (capitalise true name.toList) else name

/-- The first value of a field; a field that is missing is empty. -/
def value (h : Headers) (name : String) : String :=
  ((h.find? (canonicalName name)).bind List.head?).getD ""

/-- Gives a field one value. -/
def set (h : Headers) (name value : String) : Headers := h.insert (canonicalName name) [value]

/-- The fields of both; those of the second win. -/
def withAll (h more : Headers) : Headers := more.entries.foldl (fun d e => d.insert e.1 e.2) h

/-- Headers that are set one after the other. -/
def ofPairs (pairs : List (String × String)) : Headers :=
  pairs.foldl (fun h p => h.set p.1 p.2) {}

/-- The items of a list, without the blanks around them. -/
def items (value : String) : List String :=
  (value.toList.splitOn ',').map fun item => String.ofList (Blank.trim item)

/-- The words of a list in small letters, up to the first place where
something else than one word stands between two commas. -/
def wordsFrom : (fuel : Nat) → List Char → List String
  | 0, _ => []
  | fuel + 1, cs =>
    let skip (cs : List Char) : List Char := cs.dropWhile fun c => c = ' ' || c = '\t'
    let cs := skip cs
    let word := cs.takeWhile isNameChar
    if word = [] then []
    else
      match skip (cs.drop word.length) with
      | [] => [(String.ofList word).toLower]
      | ',' :: rest => (String.ofList word).toLower :: wordsFrom fuel rest
      | _ => []

/-- The words of a list in small letters. -/
def words (value : String) : List String := wordsFrom (value.length + 1) value.toList

end Headers

end ObjectBridge

namespace ObjectBridge

/-- What a client asks for. -/
structure Request where
  method : String := "GET"
  /-- The path with the query, if there is one. -/
  target : String
  headers : Headers := {}
  body : String := ""
  host : String := "example.com"
  /-- The other end of the connection. -/
  remote : String := "192.0.2.1:1234"
  /-- When it came, in nanoseconds. -/
  arrival : Int := 0

/-- What a response carries. -/
inductive Body
  | empty
  | json (v : Json)
  | text (s : String)
  /-- Published lines, in no order. -/
  | lines (l : List String)

/-- The length in bytes. -/
def Body.size : Body → Nat
  | .empty => 0
  | .json v => v.render.utf8ByteSize
  | .text s => s.utf8ByteSize
  | .lines l => l.foldl (fun n s => n + s.utf8ByteSize + 1) 0

/-- What a client is told. -/
structure Response where
  status : Nat
  headers : Headers := {}
  body : Body := .empty

namespace Response

/-- A response that carries a document. -/
def json (status : Nat) (v : Json) : Response where
  status
  headers := .ofPairs [("Content-Type", "application/json; charset=utf-8")]
  body := .json v

/-- A response that carries a text. -/
def text (status : Nat) (type s : String) : Response where
  status
  headers := .ofPairs [("Content-Type", type)]
  body := .text s

/-- A JSON response that tells what went wrong. -/
def failure (status : Nat) (message : String) : Response :=
  json status (.object [("error", .string message)])

/-- The response where there is nothing. -/
def notFound : Response := text 404 "text/plain" "404 page not found"

/-- The response with more headers. -/
def withHeaders (r : Response) (more : Headers) : Response :=
  { r with headers := r.headers.withAll more }

end Response

namespace Request

/-- The part of the target before the query. -/
def rawPath (r : Request) : List Char := r.target.toList.takeWhile (· ≠ '?')

/-- The query with its mark; empty when there is none. -/
def query (r : Request) : String := String.ofList (r.target.toList.dropWhile (· ≠ '?'))

/-- Puts bytes in the places of their escapes. -/
def unescape : List Char → Bytes
  | [] => []
  | '%' :: a :: b :: rest =>
    match Json.hexDigit? a, Json.hexDigit? b with
    | some a, some b => (a * 16 + b).toUInt8 :: unescape rest
    | _, _ => Utf8.encodeChar '%' ++ unescape (a :: b :: rest)
  | c :: rest => Utf8.encodeChar c ++ unescape rest
termination_by cs => cs.length

/-- The path without escapes. -/
def path (r : Request) : String := (unescape r.rawPath).toStringLossy

/-- The address in a list, if all that is in it are addresses. -/
def forwarded? (value : String) : Option String :=
  let items := Headers.items value
  if value ≠ "" ∧ items.all fun item => (IpAddress.parse? item.toList).isSome then
    items.head? else none

/-- The name of the client; nobody knows a client whose end of the
connection has no address. -/
def client (r : Request) : String :=
  match Endpoint.parse (Blank.trim r.remote.toList) with
  | .error _ => ""
  | .ok e =>
    match IpAddress.parse? e.host with
    | none => ""
    | some a =>
      match forwarded? (r.headers.value "X-Forwarded-For"),
        forwarded? (r.headers.value "X-Real-Ip") with
      | some name, _ => name
      | none, some name => name
      | none, none => a.text

/-- Is a word in the list that a field holds, in whatever case? -/
def mentions (r : Request) (field word : String) : Bool :=
  word ∈ Headers.words (r.headers.value field)

/-- Can a text be the key of a handshake: sixteen bytes in base 64? -/
def isHandshakeKey (s : String) : Bool := ((Base64.decode? s.toList).map List.length) = some 16

/-- Does it ask to go on with messages in both directions? -/
def isHandshake (r : Request) : Bool :=
  r.mentions "Connection" "upgrade" && r.mentions "Upgrade" "websocket"
    && r.mentions "Sec-Websocket-Version" "13" &&
    isHandshakeKey (r.headers.value "Sec-Websocket-Key")

end Request

end ObjectBridge

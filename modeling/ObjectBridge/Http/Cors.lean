import ObjectBridge.Http.Message
import ObjectBridge.Text.Case
import ObjectBridge.Text.Regex.Parser

/-!
# `ObjectBridge.Http.Cors`: requests from pages of other origins

A browser tells the origin of the page a request comes from, and lets the
page see the response only if the server agrees. Before some requests it
asks first, with the method `OPTIONS`. A `CorsPolicy` says which origins
are welcome, and `CorsPolicy.verdict` what becomes of a request.

An origin is given as it is, or as a regular expression between slashes.
An expression is read only when an origin is compared with it, so a fault
in it shows first in a request.
-/

set_option autoImplicit false

namespace ObjectBridge

/-- What origins are compared with. -/
inductive OriginRule
  | exactly (origin : String)
  /-- A regular expression. -/
  | like (expression : String)
  deriving DecidableEq, Repr

/-- Who may send requests from elsewhere, and which. -/
structure CorsPolicy where
  /-- `*` stands for every origin. -/
  origins : List String := ["*"]
  methods : List String := ["GET", "POST", "OPTIONS"]
  headers : List String :=
    ["Content-Type", "Content-Length", "Accept-Encoding", "Accept", "Origin", "Cache-Control",
      "X-Requested-With", "X-Request-ID"]
  credentials : Bool := false
  /-- Seconds for which an answer may be kept. -/
  maxAge : Int := 43200
  deriving DecidableEq, Repr

/-- Why a policy cannot be used. -/
inductive CorsError
  | noOrigins
  | badOrigin
  deriving DecidableEq, Repr

/-- The text of the error. -/
def CorsError.message : CorsError → String
  | .noOrigins => "conflict settings: all origins disabled"
  | .badOrigin => "bad origin: origins must contain '*' or include http://,https://"

/-- What becomes of a request. -/
inductive CorsVerdict
  /-- It does not come from another origin. -/
  | unrelated
  | refused
  /-- It only asks; these fields are the answer. -/
  | asked (fields : Headers)
  /-- It goes on, and the response gets these fields. -/
  | allowed (fields : Headers)

namespace OriginRule

/-- Letters that may stand after the closing slash of an expression. They
change nothing. -/
def flagLetters : List Char := ['g', 'i', 'm', 'u', 'y']

/-- What stands between slashes, where a flag may follow the second. -/
def slashed? (cs : List Char) : Option (List Char) :=
  match cs with
  | '/' :: cs =>
    match cs.reverse with
    | '/' :: body => some body.reverse
    | flag :: '/' :: body => if flagLetters.contains flag then some body.reverse else none
    | _ => none
  | _ => none

/-- The rule that a text stands for. Nothing between slashes, or more than
one line, is no expression. -/
def ofString (s : String) : OriginRule :=
  match slashed? s.toList with
  | some body => if body.isEmpty || body.contains '\n' then .exactly s
  else .like (String.ofList body)
  | none => .exactly s

/-- Does an origin follow a rule? -/
def admits (origin : String) : OriginRule → Except Regex.ParseError Bool
  | .exactly s => .ok (s == origin)
  | .like expression => (Regex.parse expression).map (·.matches_ origin)

/-- Does an origin follow one of the rules? The first that it follows is
the last one looked at. -/
def anyAdmits (origin : String) : List OriginRule → Except Regex.ParseError Bool
  | [] => .ok false
  | rule :: rules =>
    match rule.admits origin with
    | .ok false => anyAdmits origin rules
    | result => result

end OriginRule

namespace CorsPolicy

/-- Can this be an origin? -/
def isOrigin (s : String) : Bool :=
  s.toList.contains '*' || "http://".toList.isPrefixOf s.toList ||
    "https://".toList.isPrefixOf s.toList

/-- Looks for what is wrong with a policy. -/
def check (p : CorsPolicy) : Except CorsError Unit :=
  if p.origins.isEmpty then .error .noOrigins
  else if p.origins.all isOrigin then .ok () else .error .badOrigin

/-- In small letters, without the blanks around it. -/
def plainForm (s : String) : String := Lower.ofString (String.ofList (Blank.trim s.toList))

/-- The plain forms of words, each once. -/
def plainForms (words : List String) : List String :=
  (words.foldl (fun seen w => if seen.contains (plainForm w) then seen else plainForm w ::
    seen) []).reverse

/-- Does the policy stand for every origin? -/
def welcomesAll (p : CorsPolicy) : Bool := p.origins.contains "*"

/-- Is an origin welcome? -/
def welcomes (p : CorsPolicy) (origin : String) : Except Regex.ParseError Bool :=
  if p.welcomesAll then .ok true
  else OriginRule.anyAdmits origin ((plainForms p.origins).map OriginRule.ofString)

/-- A list of words as the value of a field; no words, no field. -/
def listField (name : String) (words : List String) : List (String × List String) :=
  if words.isEmpty then [] else [(name, [",".intercalate words])]

/-- The fields about who may see the response. Where it is not everyone,
the response varies with what is listed. -/
def originFields (p : CorsPolicy) (origin : String) (varying : List String) :
    List (String × List String) :=
  (if p.credentials then [("Access-Control-Allow-Credentials", ["true"])] else [])
    ++ (if p.welcomesAll then [("Access-Control-Allow-Origin", ["*"])]
      else [("Access-Control-Allow-Origin", [origin]), ("Vary", varying)])

/-- The fields of the answer to one who only asks. -/
def answerFields (p : CorsPolicy) (origin : String) : Headers :=
  .ofList (p.originFields origin ["Origin", "Access-Control-Request-Method",
    "Access-Control-Request-Headers"] ++ listField "Access-Control-Allow-Methods"
    ((plainForms p.methods).map Lower.raise) ++ listField "Access-Control-Allow-Headers"
    ((plainForms p.headers).map Headers.canonicalName) ++
    (if 0 < p.maxAge then [("Access-Control-Max-Age", [toString p.maxAge])] else []))

/-- What becomes of a request. -/
def verdict (p : CorsPolicy) (r : Request) : Except Regex.ParseError CorsVerdict :=
  let origin := r.headers.value "Origin"
  if origin = "" || origin = "http://" ++ r.host || origin = "https://" ++ r.host then
    .ok .unrelated
  else
    (p.welcomes origin).map fun isWelcome =>
      if !isWelcome then .refused
      else if r.method = "OPTIONS" then .asked (p.answerFields origin)
      else .allowed (.ofList (p.originFields origin ["Origin"]))

/-- The response, if `inner` is the response to requests that go on. -/
def guard (p : CorsPolicy) (r : Request) (inner : Response) : Except Regex.ParseError Response :=
  (p.verdict r).map fun
    | .unrelated => inner
    | .refused => { status := 403 }
    | .asked fields => { status := 204, headers := fields }
    | .allowed fields => inner.withHeaders fields

end CorsPolicy

end ObjectBridge

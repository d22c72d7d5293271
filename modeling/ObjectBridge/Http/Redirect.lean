import ObjectBridge.Files.Tree
import ObjectBridge.Http.Message
import ObjectBridge.Text.Quoted

/-!
# `ObjectBridge.Http.Redirect`: sending a request on to another path

A server that stands behind another may be reached under a path of its
own there, which the one in front tells in a header field. What a client
is sent on to begins with that path.

The new location is a reference: with two slashes in front it names a
host, and otherwise a path, which is made absolute and as short as
possible.
-/

set_option autoImplicit false

namespace ObjectBridge.Redirect

/-- May a character stand in the path that is put in front? -/
def isSafe (c : Char) : Bool := c.isAlphanum || c = '/' || c = '-'

/-- Leaves out slashes that follow another one. -/
def singleSlashes : List Char → List Char
  | '/' :: '/' :: rest => singleSlashes ('/' :: rest)
  | c :: rest => c :: singleSlashes rest
  | [] => []

/-- The path of the request, with the path in front of the server before
it. -/
def fullPath (r : Request) : String :=
  let front := Files.shorten (r.headers.value "X-Forwarded-Prefix")
  if front = "." then r.path
  else String.ofList (singleSlashes (front.toList.filter isSafe)) ++ "/" ++ r.path

/-- The path without the slash at its end. -/
def target (r : Request) : String :=
  let full := (fullPath r).toList
  if 1 < full.length && full.getLast? = some '/' then String.ofList full.dropLast
  else String.ofList (full ++ ['/'])

/-- Does a reference name a host? -/
def namesHost : List Char → Bool
  | '/' :: '/' :: c :: _ => c ≠ '/'
  | _ => false

/-- The part of a path up to its last slash. -/
def directory (path : List Char) : List Char := (path.reverse.dropWhile (· ≠ '/')).reverse

/-- Where a request is sent, without the query. -/
def place (r : Request) : String :=
  let path := (target r).toList
  if namesHost path then String.ofList path
  else
    let full := if path.head? = some '/' then path else directory path ++ path
    let short := Files.shorten (String.ofList full)
    if full.getLast? = some '/' && short.toList.getLast? ≠ some '/' then short ++ "/" else short

/-- A byte of a location: those beyond ASCII are escaped. -/
def escapeByte (b : UInt8) : String :=
  if b.toNat < 0x80 then (Char.ofNat b.toNat).toString else "%" ++ Quoted.hexBytes [b]

/-- A character in the text of a page. -/
def escapeMarkup (c : Char) : String :=
  if c = '&' then "&amp;"
  else if c = '<' then "&lt;"
  else if c = '>' then "&gt;"
  else if c.toNat = 34 || c.toNat = 39 then "&#" ++ toString c.toNat ++ ";"
  else c.toString

/-- Sends a request for a path with a slash too many on to the path
without it. Those who only read are shown a page. -/
def response (r : Request) : Response :=
  let location := place r ++ r.query
  let field : Headers := .ofPairs
      [("Location", String.join ((Bytes.ofString location).map escapeByte))]
  if r.method = "GET" then
    let link := String.join (location.toList.map escapeMarkup)
    (Response.text 301 "text/html; charset=utf-8" ("<a href=\"" ++ link ++
      "\">Moved Permanently</a>.\n\n")).withHeaders field
  else { status := 307, headers := field }

end ObjectBridge.Redirect

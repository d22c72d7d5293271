import ObjectBridge.Data.Dict
import ObjectBridge.Http.Message

/-!
# `ObjectBridge.Http.RateLimit`: how often a client may ask

Every client has a bucket of tokens, which is full at first, fills up
steadily and gives one token to each request that is admitted. Clients
that have not been seen for a while are forgotten, so that there are not
ever more of them. This is done only now and then, when a request comes.

Time is given in nanoseconds by whoever asks, and tokens are counted in
thousand-millionths, so that nothing is ever rounded: a bucket that fills
by `rate` tokens a second fills by `rate` such parts a nanosecond.
-/

set_option autoImplicit false

namespace ObjectBridge

/-- How many parts a token has. -/
def tokenParts : Int := 1000000000

/-- How many requests a client may send. -/
structure RateLimit where
  /-- Tokens a second. -/
  rate : Int := 100
  /-- Tokens in a full bucket. -/
  burst : Int := 200
  /-- Nanoseconds after which a client may be forgotten; never when not
  positive. -/
  idle : Int := 180000000000
  deriving DecidableEq, Repr

/-- The parts of tokens there were at a time. -/
structure Bucket where
  level : Int
  since : Int
  deriving DecidableEq, Repr

namespace Bucket

/-- A full bucket. -/
def full (c : RateLimit) (now : Int) : Bucket := { level := c.burst * tokenParts, since := now }

/-- What is in the bucket by now. -/
def levelAt (c : RateLimit) (b : Bucket) (now : Int) : Int :=
  min (c.burst * tokenParts) (b.level + c.rate * (now - b.since))

/-- Takes a token, if there is a whole one. -/
def take (c : RateLimit) (b : Bucket) (now : Int) : Bool × Bucket :=
  let level := b.levelAt c now
  if tokenParts ≤ level then (true, { level := level - tokenParts, since := now })
  else (false, { level, since := now })

end Bucket

/-- A client that has been seen. -/
structure RateClient where
  bucket : Bucket
  lastSeen : Int
  deriving DecidableEq, Repr

/-- A limit and the clients it is held against. -/
structure Limiter where
  limit : RateLimit
  clients : Dict String RateClient := {}
  /-- When clients were last forgotten, or the beginning. -/
  lastSweep : Int := 0

namespace Limiter

/-- Forgets clients that have not been seen for long, if that has not
been done for as long. -/
def sweep (l : Limiter) (now : Int) : Limiter :=
  if 0 < l.limit.idle ∧ l.limit.idle < now - l.lastSweep then
    { l with
      clients := l.clients.filter fun e => !decide (l.limit.idle < now - e.2.lastSeen)
      lastSweep := now }
  else l

/-- Is a request of the client admitted? -/
def consider (l : Limiter) (client : String) (now : Int) : Bool × Limiter :=
  let l := l.sweep now
  let bucket := ((l.clients.find? client).map (·.bucket)).getD (.full l.limit now)
  let (admitted, bucket) := bucket.take l.limit now
  (admitted, { l with clients := l.clients.insert client { bucket, lastSeen := now } })

/-- The response to a request that is not admitted. -/
def refusal : Response := .failure 429 "rate limit exceeded"

/-- The responses to requests, if `inner` is the response to those that
are admitted. -/
def guard (l : Limiter) (inner : Response) : List Request → List Response
  | [] => []
  | r :: rest =>
    let (admitted, l) := l.consider r.client r.arrival
    (if admitted then inner else refusal) :: l.guard inner rest

end Limiter

end ObjectBridge

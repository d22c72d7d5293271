import ObjectBridge.Http.RateLimit
import ObjectBridge.Proofs.Data.Dict

/-!
# `ObjectBridge.Proofs.Http.RateLimit`: forgetting clients goes unnoticed

A limiter forgets clients now and then, and it does so while it answers
somebody else. A client that was forgotten gets a full bucket when it comes
back. Nobody notices if the bucket it left behind would have been full by
then, and that takes a limit under which buckets fill up in the time after
which clients may be forgotten (`RateLimit.Refills`).

What a limiter does about a client depends on nothing but `balance`, the
level at which the client finds its bucket at this time or a later one:

* a sweep changes no balance (`Steady.balance_sweep`);
* a request is admitted by its client's balance (`Steady.consider_fst`), and
  changes that balance and no other (`Steady.balance_consider_self`,
  `Steady.balance_consider_of_ne`).

`Matches` relates two limiters with the same balances for a group of clients.
It is kept when one of the group makes a request to both, and when somebody
else makes one to the first only. So a group is told what it would be told
alone, by a limiter that sweeps or by one that does not
(`told_starting`). `sweeps_unnoticed` is this for the group of all clients,
and for every group.
-/

set_option autoImplicit false

namespace ObjectBridge

/-! ### Buckets -/

namespace RateLimit

/-- The level of a full bucket. -/
def capacity (c : RateLimit) : Int := c.burst * tokenParts

/-- Buckets do not leak, and one that nobody takes from is full by the time
its client may be forgotten. -/
structure Refills (c : RateLimit) : Prop where
  rate : 0 ≤ c.rate
  burst : 0 ≤ c.burst
  idle : 0 < c.idle → c.capacity ≤ c.rate * c.idle

/-- A bucket that refills holds no less than nothing. -/
theorem Refills.capacity_nonneg {c : RateLimit} (h : c.Refills) : 0 ≤ c.capacity :=
  Int.mul_nonneg h.burst (by decide)

end RateLimit

namespace Bucket

variable {c : RateLimit} {b : Bucket} {now : Int}

/-- What a request leaves of a level. -/
def spent (level : Int) : Int := if tokenParts ≤ level then level - tokenParts else level

/-- What is left after spending is no less than nothing. -/
theorem spent_nonneg {level : Int} (h : 0 ≤ level) : 0 ≤ spent level := by
  unfold spent
  split <;> omega

/-- A full bucket stays full. -/
theorem levelAt_full (c : RateLimit) (now : Int) : (full c now).levelAt c now = c.capacity := by
  simp only [levelAt, full, RateLimit.capacity, Int.sub_self, Int.mul_zero, Int.add_zero,
    Int.min_self]

/-- A level never falls below nothing. -/
theorem levelAt_nonneg (h : c.Refills) (hlevel : 0 ≤ b.level) (hnow : b.since ≤ now) :
    0 ≤ b.levelAt c now := by
  have hcapacity : 0 ≤ c.burst * tokenParts := h.capacity_nonneg
  have hrefill : 0 ≤ c.rate * (now - b.since) := Int.mul_nonneg h.rate (by omega)
  unfold levelAt
  omega

/-- A token is taken when there is one. -/
theorem take_eq (c : RateLimit) (b : Bucket) (now : Int) :
    b.take c now = (decide (tokenParts ≤ b.levelAt c now),
      { level := spent (b.levelAt c now), since := now }) := by
  simp only [take, spent]
  split
  case isTrue h => rw [decide_eq_true h]
  case isFalse h => rw [decide_eq_false h]

end Bucket

namespace Limiter

variable {l l' : Limiter} {c c' : RateLimit} {client other : String} {now t u : Int}

/-! ### Balances -/

/-- The level at which a client finds its bucket. -/
def balance (l : Limiter) (client : String) (now : Int) : Int :=
  match l.clients.find? client with
  | some r => r.bucket.levelAt l.limit now
  | none => l.limit.capacity

/-- The limiter was last asked no later than now. A client was seen when its
bucket was last looked into, and no bucket owes tokens. -/
structure Steady (l : Limiter) (now : Int) : Prop where
  limit : l.limit.Refills
  clients : ∀ client r, l.clients.find? client = some r →
    r.lastSeen = r.bucket.since ∧ r.bucket.since ≤ now ∧ 0 ≤ r.bucket.level

/-- A steady limiter stays steady as time goes on. -/
theorem Steady.later (h : l.Steady now) (ht : now ≤ t) : l.Steady t where
  limit := h.limit
  clients client r hr := by
    obtain ⟨hseen, hsince, hlevel⟩ := h.clients client r hr
    exact ⟨hseen, by omega, hlevel⟩

/-- Nobody's balance is below nothing. -/
theorem Steady.balance_nonneg (h : l.Steady now) (client : String) : 0 ≤ l.balance client now := by
  unfold balance
  split
  next r hr =>
    obtain ⟨-, hsince, hlevel⟩ := h.clients client r hr
    exact Bucket.levelAt_nonneg h.limit hlevel hsince
  next => exact h.limit.capacity_nonneg

/-- A sweep leaves the limit. -/
theorem limit_sweep (l : Limiter) (now : Int) : (l.sweep now).limit = l.limit := by
  unfold sweep
  split <;> rfl

/-- Who is still known after a sweep was known before. -/
theorem find?_sweep {r : RateClient} (h : (l.sweep now).clients.find? client = some r) :
    l.clients.find? client = some r := by
  unfold sweep at h
  split at h
  · rw [Dict.find?_filter] at h
    exact (Option.filter_eq_some_iff.mp h).1
  · exact h

/-- It leaves the limiter steady. -/
theorem Steady.sweep (h : l.Steady now) (t : Int) : (l.sweep t).Steady now where
  limit := (limit_sweep l t).symm ▸ h.limit
  clients client r hr := h.clients client r (find?_sweep hr)

/-- The bucket of a client that may be forgotten is full. -/
theorem Steady.levelAt_of_idle (h : l.Steady now) {r : RateClient}
    (hr : l.clients.find? client = some r) (hpos : 0 < l.limit.idle)
    (hidle : l.limit.idle < t - r.lastSeen) :
    r.bucket.levelAt l.limit t = l.limit.capacity := by
  obtain ⟨hseen, -, hlevel⟩ := h.clients client r hr
  have hrefill : l.limit.rate * l.limit.idle ≤ l.limit.rate * (t - r.bucket.since) :=
    Int.mul_le_mul_of_nonneg_left (by omega) h.limit.rate
  have hfull : l.limit.capacity ≤ r.bucket.level + l.limit.rate * (t - r.bucket.since) := by
    have := h.limit.idle hpos
    omega
  exact Int.min_eq_left hfull

/-- Nobody notices that clients were forgotten. -/
theorem Steady.balance_sweep (h : l.Steady now) (client : String) (htu : t ≤ u) :
    (l.sweep t).balance client u = l.balance client u := by
  unfold Limiter.sweep
  split
  case isFalse => rfl
  case isTrue hsweep =>
    simp only [balance, Dict.find?_filter]
    cases hr : l.clients.find? client with
    | none => rfl
    | some r =>
      by_cases hidle : l.limit.idle < t - r.lastSeen
      · -- The client is forgotten, with a bucket that is full from `t` on.
        simp only [Option.filter_some, hidle, decide_true, Bool.not_true,
          Bool.false_eq_true, if_false]
        exact (h.levelAt_of_idle hr hsweep.1 (by omega)).symm
      · simp only [Option.filter_some, hidle, decide_false, Bool.not_false, if_true]

/-! ### Requests -/

/-- A request is admitted when there is a whole token, and spends it. -/
theorem consider_eq (l : Limiter) (client : String) (now : Int) :
    l.consider client now = (decide (tokenParts ≤ (l.sweep now).balance client now),
      { l.sweep now with
        clients := (l.sweep now).clients.insert client
          { bucket := { level := Bucket.spent ((l.sweep now).balance client now), since := now }
            lastSeen := now } }) := by
  unfold consider balance
  cases hfind : (l.sweep now).clients.find? client with
  | none =>
    simp only [hfind, Option.map_none, Option.getD_none, Bucket.take_eq, Bucket.levelAt_full]
  | some r => simp only [hfind, Option.map_some, Option.getD_some, Bucket.take_eq]

/-- Considering a client leaves the limit. -/
theorem limit_consider (l : Limiter) (client : String) (now : Int) :
    (l.consider client now).2.limit = l.limit :=
  limit_sweep l now

/-- A client is admitted exactly when it has a token. -/
theorem Steady.consider_fst (h : l.Steady now) (client : String) (t : Int) :
    (l.consider client t).1 = decide (tokenParts ≤ l.balance client t) := by
  rw [consider_eq, h.balance_sweep client (Int.le_refl t)]

/-- Considering it leaves the limiter steady. -/
theorem Steady.consider_snd (h : l.Steady now) (client : String) (hnow : now ≤ t) :
    (l.consider client t).2.Steady t where
  limit := (limit_consider l client t).symm ▸ h.limit
  clients x r hr := by
    rw [consider_eq, Dict.find?_insert] at hr
    split at hr
    · cases hr
      exact ⟨rfl, Int.le_refl t,
        Bucket.spent_nonneg (((h.later hnow).sweep t).balance_nonneg client)⟩
    · exact (h.later hnow).clients x r (find?_sweep hr)

/-- What a client finds after a request depends on what it found then. -/
theorem Steady.balance_consider_self (h : l.Steady now) (client : String) (t u : Int) :
    (l.consider client t).2.balance client u =
      min l.limit.capacity (Bucket.spent (l.balance client t) + l.limit.rate * (u - t)) := by
  rw [consider_eq, h.balance_sweep client (Int.le_refl t)]
  simp only [balance, Dict.find?_insert_self, Bucket.levelAt, limit_sweep, RateLimit.capacity]

/-- A request leaves every other client's bucket alone. -/
theorem Steady.balance_consider_of_ne (h : l.Steady now) (hne : other ≠ client) (htu : t ≤ u) :
    (l.consider client t).2.balance other u = l.balance other u := by
  rw [← h.balance_sweep other htu, consider_eq]
  simp only [balance, Dict.find?_insert, if_neg hne]

/-! ### Groups of clients -/

variable {group : String → Bool} {requests : List Request}

/-- From now on, two limiters treat the clients of a group alike. -/
structure Matches (group : String → Bool) (l l' : Limiter) (now : Int) : Prop where
  left : l.Steady now
  right : l'.Steady now
  rate : l'.limit.rate = l.limit.rate
  burst : l'.limit.burst = l.limit.burst
  balance : ∀ client, group client → ∀ t, now ≤ t → l'.balance client t = l.balance client t

/-- One of the group makes a request to both limiters. It gets the same
answer from them, and both take the same note of it. -/
theorem Matches.consider (h : Matches group l l' now) (hclient : group client) (hnow : now ≤ t) :
    (l'.consider client t).1 = (l.consider client t).1 ∧
      Matches group (l.consider client t).2 (l'.consider client t).2 t := by
  have hfound : l'.balance client t = l.balance client t := h.balance client hclient t hnow
  constructor
  · rw [h.left.consider_fst, h.right.consider_fst, hfound]
  · refine ⟨h.left.consider_snd client hnow, h.right.consider_snd client hnow, ?_, ?_,
      fun x hx u htu => ?_⟩
    · rw [limit_consider, limit_consider, h.rate]
    · rw [limit_consider, limit_consider, h.burst]
    · by_cases hne : x = client
      · subst hne
        rw [h.left.balance_consider_self, h.right.balance_consider_self, hfound, RateLimit.capacity,
          RateLimit.capacity, h.rate, h.burst]
      · rw [h.left.balance_consider_of_ne hne htu, h.right.balance_consider_of_ne hne htu]
        exact h.balance x hx u (Int.le_trans hnow htu)

/-- Somebody else makes a request to the first limiter only. -/
theorem Matches.consider_left (h : Matches group l l' now) (hclient : ¬group client)
    (hnow : now ≤ t) :
    Matches group (l.consider client t).2 l' t := by
  refine ⟨h.left.consider_snd client hnow, h.right.later hnow, ?_, ?_, fun x hx u htu => ?_⟩
  · rw [limit_consider, h.rate]
  · rw [limit_consider, h.burst]
  · have hne : x ≠ client := fun heq => hclient (heq ▸ hx)
    rw [h.left.balance_consider_of_ne hne htu]
    exact h.balance x hx u (Int.le_trans hnow htu)

/-! ### Runs -/

/-- Which of the requests are admitted. -/
def admissions (l : Limiter) : List Request → List Bool
  | [] => []
  | r :: rest =>
    (l.consider r.client r.arrival).1 :: (l.consider r.client r.arrival).2.admissions rest

/-- Those that are admitted get through, the others are refused. -/
theorem guard_eq (l : Limiter) (inner : Response) (requests : List Request) :
    l.guard inner requests = (l.admissions requests).map fun admitted => if admitted then inner
    else refusal := by
  induction requests generalizing l with
  | nil => rfl
  | cons r rest ih => simp only [guard, admissions, List.map_cons, ih]

/-- Every request is decided. -/
theorem length_admissions (l : Limiter) (requests : List Request) :
    (l.admissions requests).length = requests.length := by
  induction requests generalizing l with
  | nil => rfl
  | cons r rest ih => rw [admissions, List.length_cons, List.length_cons, ih]

/-- What the clients of a group are told. -/
def told (group : String → Bool) (requests : List Request) (admitted : List Bool) : List Bool :=
  ((requests.zip admitted).filter fun e => group e.1.client).map Prod.snd

/-- Everybody together is told everything. -/
theorem told_everybody (l : Limiter) (requests : List Request) :
    told (fun _ => true) requests (l.admissions requests) = l.admissions requests := by
  rw [told, List.filter_true, List.map_snd_zip]
  exact (length_admissions l requests).le

/-- The clients of a group are told what the other limiter tells them when
they are the only ones to ask it. -/
theorem Matches.told_admissions (h : Matches group l l' now)
    (hnow : ∀ r ∈ requests, now ≤ r.arrival)
    (hordered : requests.Pairwise fun r s => r.arrival ≤ s.arrival) :
    told group requests (l.admissions requests) =
      l'.admissions (requests.filter fun r => group r.client) := by
  induction requests generalizing l l' now with
  | nil => rfl
  | cons r rest ih =>
    obtain ⟨hnext, hrest⟩ := List.pairwise_cons.mp hordered
    have hr : now ≤ r.arrival := hnow r List.mem_cons_self
    by_cases hclient : group r.client
    · obtain ⟨hsame, hmatches⟩ := h.consider hclient hr
      have htail := ih hmatches hnext hrest
      rw [told] at htail ⊢
      simp only [admissions, List.zip_cons_cons, List.filter_cons, hclient, if_true, List.map_cons,
        hsame, htail]
    · have htail := ih (h.consider_left hclient hr) hnext hrest
      rw [told] at htail ⊢
      simp only [admissions, List.zip_cons_cons, List.filter_cons, hclient, if_false,
        Bool.false_eq_true, htail]

/-- A limiter that has seen nobody. -/
def starting (c : RateLimit) (start : Int) : Limiter := { limit := c, lastSweep := start }

/-- At first a limiter is steady. -/
theorem steady_starting (h : c.Refills) (start now : Int) : (starting c start).Steady now where
  limit := h
  clients client r hr := by
    rw [starting, Dict.find?_empty] at hr
    cases hr

/-- From the start, a group is told the same whatever the others do. -/
theorem told_starting (h : c.Refills) (h' : c'.Refills) (hrate : c'.rate = c.rate)
    (hburst : c'.burst = c.burst) (group : String → Bool) (start : Int)
    (hordered : requests.Pairwise fun r s => r.arrival ≤ s.arrival) :
    told group requests ((starting c start).admissions requests) =
      (starting c' start).admissions (requests.filter fun r => group r.client) := by
  have hmatches (now : Int) : Matches group (starting c start) (starting c' start) now :=
    ⟨steady_starting h start now, steady_starting h' start now, hrate, hburst,
      fun _ _ _ _ => congrArg (· * tokenParts) hburst⟩
  cases requests with
  | nil => rfl
  | cons r rest =>
    -- Nobody has come before the first request, so that is when to begin.
    refine (hmatches r.arrival).told_admissions (fun s hs => ?_) hordered
    rcases List.mem_cons.mp hs with rfl | hs
    · exact Int.le_refl _
    · exact (List.pairwise_cons.mp hordered).1 s hs

/-- Buckets fill up before their clients may be forgotten. Then a limiter
admits the requests it would admit if it forgot nobody, and what a group of
clients is told does not depend on what the others ask. The responses tell
which requests were admitted and nothing else. -/
theorem sweeps_unnoticed (hrate : 0 ≤ c.rate) (hburst : 0 ≤ c.burst)
    (hidle : c.burst * tokenParts ≤ c.rate * c.idle) (start : Int)
    (hordered : requests.Pairwise fun r s => r.arrival ≤ s.arrival) :
    (starting c start).admissions requests =
      (starting { c with idle := 0 } start).admissions requests ∧ (∀ group : String →
        Bool, told group requests ((starting c start).admissions requests) =
        (starting c start).admissions (requests.filter fun r => group r.client)) ∧
      ∀ inner, (starting c start).guard inner requests =
        ((starting c start).admissions requests).map fun admitted => if admitted then inner
        else refusal := by
  have hsweeping : c.Refills := ⟨hrate, hburst, fun _ => hidle⟩
  have hnever : RateLimit.Refills { c with idle := 0 } :=
    ⟨hrate, hburst, fun h => absurd h (Int.lt_irrefl 0)⟩
  refine ⟨?_, fun group => ?_, fun inner => guard_eq _ inner requests⟩
  · have hall := told_starting hsweeping hnever rfl rfl (fun _ => true) start hordered
    rwa [told_everybody, List.filter_true] at hall
  · exact told_starting hsweeping hsweeping rfl rfl group start hordered

/-- The limit that is used when nothing else is said fills its buckets long
before clients are forgotten. -/
example : ({} : RateLimit).burst * tokenParts ≤ ({} : RateLimit).rate * ({} : RateLimit).idle := by
  decide

/-- One token, which is back after the second for which clients are
remembered. -/
def brief : RateLimit := { rate := 1, burst := 1, idle := 1000000000 }

/-- A client asks twice within a second. It comes back when another client
has just had it forgotten. -/
def callers : List Request :=
  [{ target := "/", remote := "192.0.2.1:1", arrival := 0 },
    { target := "/", remote := "192.0.2.1:1", arrival := 500000000 },
    { target := "/", remote := "192.0.2.2:1", arrival := 2000000000 },
    { target := "/", remote := "192.0.2.1:1", arrival := 2000000000 }]

/-- Callers that return after they were swept away. -/
theorem sweeps_unnoticed_brief :
    (0 ≤ brief.rate ∧ 0 ≤ brief.burst ∧ brief.burst * tokenParts ≤ brief.rate * brief.idle ∧
      callers.Pairwise fun r s => r.arrival ≤ s.arrival) ∧
      (((starting brief 0).consider "192.0.2.1" 500000000).2.sweep 2000000000).clients.keys = [] ∧
      (starting brief 0).admissions callers = [true, false, true, true] ∧
      (starting { brief with idle := 0 } 0).admissions callers = [true, false, true, true] := by
  have hordered : callers.Pairwise fun r s => r.arrival ≤ s.arrival := by decide
  have hunnoticed := sweeps_unnoticed (c := brief) (by decide) (by decide) (by decide) 0 hordered
  have hsweeping : (starting brief 0).admissions callers = [true, false, true, true] := by
    decide +kernel
  exact ⟨by decide, by decide, hsweeping, hunnoticed.1 ▸ hsweeping⟩

end Limiter

end ObjectBridge

import ObjectBridge.Proofs.Bridge.Request
import ObjectBridge.Proofs.Builtin.Leaves
import ObjectBridge.Proofs.Data.Dict

/-!
# `ObjectBridge.Proofs.Bridge.Reporting`: how failures are reported

A host makes requests of the proxies of one instance and passes the same
exception slot to each. A failure is reported in two places that work in
opposite ways: the slot keeps the first one, the instance's last error is
the last one. The exception books count all of them.

`course` makes any list of requests and takes down, for each, what was
asked and answered, and what the host got. `course_reported` says what the
slot, the last error, the books and the reference counts are after it. One
request is `Request.turn_reports`; the rest is adding up, along the list.

A failure may throw an object, and whoever throws it hands a reference over
(`Turn.HandsOver`). The slot takes the object of the first failure; the
objects of all others are released (`Slot.lost`).
-/

set_option autoImplicit false

namespace ObjectBridge

/-! ### What is on record -/

/-- The object a failure throws. -/
def Failure.object? (f : Failure) : Option ObjectRef :=
  match f.thrown? with
  | some (.object o) => some o
  | _ => none

/-- What is on record about the failures of an instance: whether they are
counted, and which was the last. The exception books are those of the whole
program. -/
structure Reports where
  inst : Option (Bool × Bytes)
  exceptions : Labelled Nat
  total : Int

namespace Reports

/-- Are the exceptions of the instance counted? -/
def counts (r : Reports) : Bool := (r.inst.map Prod.fst).getD false

/-- Enters a failure. -/
def enter (r : Reports) (f : Failure) : Reports where
  inst := r.inst.map fun x => (x.1, f.describe)
  exceptions := if r.counts then Labelled.increment r.exceptions [Failure.label f.describe]
  else r.exceptions
  total := if r.counts then r.total + 1 else r.total

/-- Entering a failure leaves the counts. -/
theorem counts_enter (r : Reports) (f : Failure) : (r.enter f).counts = r.counts := by
  cases h : r.inst <;> simp [counts, enter, h]

/-- The last error is the last one entered. -/
theorem inst_foldl_enter (fs : List Failure) (r : Reports) :
    (fs.foldl enter r).inst = r.inst.map fun x =>
  (x.1, (fs.getLast?.map Failure.describe).getD x.2) := by
  induction fs generalizing r with
  | nil => simp
  | cons f fs ih =>
    rw [List.foldl_cons, ih, enter, Option.map_map]
    congr 1
    funext x
    rw [List.getLast?_cons]
    cases fs.getLast? <;> rfl

/-- Every failure is counted once, if any is. -/
theorem total_foldl_enter (fs : List Failure) (r : Reports) :
    (fs.foldl enter r).total = r.total + (if r.counts then fs.length else 0 : Nat) := by
  induction fs generalizing r with
  | nil => simp
  | cons f fs ih =>
    rw [List.foldl_cons, ih, counts_enter]
    simp only [enter]
    split
    · rw [List.length_cons]
      omega
    · rfl

/-- Every failure is counted under the label of its message. -/
theorem exceptions_foldl_enter (fs : List Failure) (r : Reports) (label : String) :
    ((fs.foldl enter r).exceptions.find? [label]).getD 0 = (r.exceptions.find? [label]).getD 0 +
      if r.counts then fs.countP (Failure.label ·.describe = label) else 0 := by
  induction fs generalizing r with
  | nil => simp
  | cons f fs ih =>
    rw [List.foldl_cons, ih, counts_enter]
    simp only [enter]
    split
    · rw [Labelled.increment, Dict.alter, Dict.find?_insert, List.countP_cons]
      by_cases hlabel : Failure.label f.describe = label
      · subst hlabel
        simp
        omega
      · have hne : [label] ≠ [Failure.label f.describe] := fun h => hlabel (List.cons.inj h).1.symm
        simp [hlabel, hne]
    · rfl

end Reports

/-- The reports about an instance. -/
def World.reports {β : Type} (i : Nat) (w : World β) : Reports where
  inst := (w.instances[i]?).map fun x => (x.plugin.metered, x.lastError)
  exceptions := w.metrics.exceptions
  total := w.metrics.snapshot.exceptions

instance publicReports {β : Type} (i : Nat) : Public (World.reports (β := β) i) where
  congr {w w'} h := by
    have hinst : w'.instances = w.instances := congrArg Affairs.instances h
    have hexceptions : w'.metrics.exceptions = w.metrics.exceptions :=
      congrArg (·.metrics.exceptions) h
    have htotal : w'.metrics.snapshot.exceptions = w.metrics.snapshot.exceptions :=
      congrArg (·.metrics.snapshot.exceptions) h
    simp only [World.reports, hinst, hexceptions, htotal]

/-! ### One failure -/

namespace Slot

/-- Does the slot take an exception? -/
def isFree (slot : Slot) : Bool :=
  match slot with
  | some s => !s.isPending
  | none => false

/-- The slot after failures were raised into it, in order: it keeps what
was pending, and else the value of the first. -/
def raised (slot : Slot) (fs : List Failure) : Slot :=
  slot.map fun s => { pending := s.pending <|> fs.head?.map Failure.exceptionValue }

/-- The objects thrown by failures that do not get into the slot. -/
def lost (slot : Slot) (fs : List Failure) : List ObjectRef :=
  (if slot.isFree then fs.tail else fs).filterMap Failure.object?

/-- Without failures the slot stays as it is. -/
theorem raised_nil (slot : Slot) : slot.raised [] = slot := by
  cases slot <;> simp [raised]

/-- Nor is anything lost. -/
theorem lost_nil (slot : Slot) : slot.lost [] = [] := by simp [lost]

/-- After a failure the slot is taken. -/
theorem isFree_raised_cons (slot : Slot) (f : Failure) (fs : List Failure) :
    (slot.raised (f :: fs)).isFree = false := by
  cases slot with
  | none => rfl
  | some s =>
    obtain ⟨pending⟩ := s
    cases pending <;> rfl

/-- Failures are raised one after the other. -/
theorem raised_append (slot : Slot) (fs gs : List Failure) :
    slot.raised (fs ++ gs) = (slot.raised fs).raised gs := by
  cases slot with
  | none => rfl
  | some s =>
    obtain ⟨pending⟩ := s
    cases pending with
    | some v => rfl
    | none => cases fs <;> simp [raised]

/-- What is lost of two lists is lost of the first, and then of the
second. -/
theorem lost_append (slot : Slot) (fs gs : List Failure) :
    slot.lost (fs ++ gs) = slot.lost fs ++ (slot.raised fs).lost gs := by
  cases fs with
  | nil => rw [List.nil_append, raised_nil, lost_nil, List.nil_append]
  | cons f fs =>
    simp only [lost, isFree_raised_cons, List.cons_append, List.tail_cons]
    split
    · exact List.filterMap_append
    · rw [← List.cons_append]
      exact List.filterMap_append

/-- Raising says whether the slot was free. -/
theorem raiseInto_eq (slot : Slot) (f : Failure) :
    ExceptionSlot.raiseInto slot f.exceptionValue = (slot.isFree, slot.raised [f]) := by
  cases slot with
  | none => rfl
  | some s =>
    obtain ⟨pending⟩ := s
    cases pending <;> rfl

end Slot

namespace Proxy

variable {β : Type} {p : Proxy} {slot : Slot} {f : Failure} {w : World β} {i : Nat}

/-- Dropping what a failure carries releases it. -/
theorem dropThrown_eq (f : Failure) :
    (dropThrown f : M β Unit) = match f.object? with
      | some o => release o
      | none => return () := by
  unfold dropThrown Failure.object?
  cases f.thrown? with
  | none => rfl
  | some v => cases v <;> rfl

/-- Raising a failure releases what it throws, unless the slot takes it. -/
theorem perform_raiseInto (i : Nat) (slot : Slot) (hout : ∀ o, f.object? = some o → 1 ≤ w.refs o) :
    ∃ w', perform (raiseInto slot f) w = (.ok (slot.raised [f]), w') ∧ w'.reports i = w.reports i ∧
      ∀ o, w'.refs o = w.refs o - (slot.lost [f]).count o := by
  unfold raiseInto
  rw [Slot.raiseInto_eq]
  dsimp only
  cases hfree : slot.isFree with
  | true => exact ⟨w, rfl, rfl, fun o => by simp [Slot.lost, hfree]⟩
  | false =>
    -- The slot is taken already, so what the failure throws is lost.
    have hlost : slot.lost [f] = f.object?.toList := by
      simp only [Slot.lost, hfree]
      cases hobject : f.object? <;> simp [hobject]
    rw [hlost]
    simp only [Bool.not_false, if_true, dropThrown_eq]
    cases hobject : f.object? with
    | none => exact ⟨w, rfl, rfl, fun o => by simp⟩
    | some thrown =>
      obtain ⟨w', hrun, hcounts⟩ := perform_release_of_refs (hout thrown hobject)
      have hleaves : Leaves (World.reports i) (release thrown : M β Unit) := obeys_release thrown
      have hreports : (perform (release thrown) w).2.reports i = w.reports i := hleaves w
      rw [hrun] at hreports
      refine ⟨w', (perform_bind_ok hrun _).trans rfl, hreports, fun o => ?_⟩
      rw [hcounts.refs o, Pi.neg_apply, one, Option.toList_some, List.count_singleton]
      by_cases ho : o = thrown
      · subst ho
        simp
        omega
      · simp [ho, Ne.symm ho]

/-- The message of a failure becomes the last error, and the failure is
counted. -/
theorem reports_setLastError (ctx : Context) (hinst : ctx.inst = some i) (f : Failure)
    (w : World β) :
    (perform (setLastError ctx f.describe) w).2.reports i = (w.reports i).enter f := by
  unfold setLastError
  rw [hinst]
  dsimp only
  rw [modifyInstance, perform_bind_ok (perform_modify _ w), meter, perform_modify]
  cases hx : w.instances[i]? with
  | none =>
    have hnone : (w.instances.modify i fun x => { x with lastError := f.describe })[i]? = none := by
      rw [Array.getElem?_modify, if_pos rfl, hx]
      rfl
    simp [World.instanceOf?, hinst, hnone, World.reports, Reports.enter, Reports.counts, hx]
  | some x =>
    have hsome : (w.instances.modify i fun x => { x with lastError := f.describe })[i]? =
        some { x with lastError := f.describe } := by
      rw [Array.getElem?_modify, if_pos rfl, hx]
      rfl
    cases hmetered : x.plugin.metered <;>
      simp [World.instanceOf?, hinst, hsome, World.reports, Reports.enter, Reports.counts,
        hx, hmetered, Metrics.recordException]

/-- Reporting a failure raises it and makes it the last error. -/
theorem perform_fail (hinst : p.context.inst = some i) (slot : Slot)
    (hout : ∀ o, f.object? = some o → 1 ≤ w.refs o) :
    ∃ w', perform (p.fail slot f) w = (.ok (slot.raised [f]), w') ∧
      w'.reports i = (w.reports i).enter f ∧ ∀ o,
      w'.refs o = w.refs o - (slot.lost [f]).count o := by
  obtain ⟨w₁, hraise, hreports, hrefs⟩ := perform_raiseInto i slot hout
  obtain ⟨_, w', hset, halike⟩ := quietly_setLastError p.context f.describe w₁
  refine ⟨w', ?_, ?_, fun o => ?_⟩
  · unfold fail
    rw [perform_bind_ok hraise, perform_bind_ok hset, perform_pure]
  · have hentered := reports_setLastError p.context hinst f w₁
    rwa [hset, hreports] at hentered
  · rw [← hrefs o, halike.recounts.refs o, Pi.zero_apply, add_zero]

/-! ### Courses -/

section

variable [Native β]

/-- One request: the world in which it was answered, what became of it,
the world that left, and what the host got. A host gets nothing from a
request that is unwound. -/
structure Turn (β : Type) where
  proxy : Proxy
  request : Request
  asked : World β
  outcome : Except Unwind (Except Failure Reply)
  answered : World β
  reply : Option Reply

/-- The failure of a request, if it failed. -/
def Turn.failure? (t : Turn β) : Option Failure :=
  match t.outcome with
  | .ok (.error f) => some f
  | _ => none

omit [Native β] in
/-- The failure of a turn is the one it is answered with. -/
theorem Turn.failure?_eq_some_iff (t : Turn β) :
    t.failure? = some f ↔ t.outcome = .ok (.error f) := by
  unfold failure?
  cases t.outcome with
  | error u => simp
  | ok result => cases result <;> simp

/-- An object that is thrown is handed over with a reference to it. -/
def Turn.HandsOver (t : Turn β) : Prop := ∀ o ∈ t.failure?.bind Failure.object?,
    1 ≤ t.answered.refs o

/-- The turn in which a proxy is asked for something. -/
def Request.turn (ops : HostOps β) (p : Proxy) (slot : Slot) (r : Request) (w : World β) :
    Turn β where
  proxy := p
  request := r
  asked := r.entered p w
  outcome := (perform (r.ask ops p) (r.entered p w)).1
  answered := (perform (r.ask ops p) (r.entered p w)).2
  reply := (perform (r.serve ops p slot) w).1.toOption.map Prod.fst

instance (t : Turn β) : Decidable t.HandsOver :=
  inferInstanceAs (Decidable (∀ o ∈ t.failure?.bind Failure.object?, _))

/-- What a host has for a slot after a request. One that is unwound leaves
it as it was. -/
def Slot.next (slot : Slot) : Except Unwind (Reply × Slot) → Slot
  | .ok served => served.2
  | .error _ => slot

/-- The slot after a request. -/
def Request.slotAfter (ops : HostOps β) (p : Proxy) (slot : Slot) (r : Request)
    (w : World β) : Slot :=
  Slot.next slot (perform (r.serve ops p slot) w).1

/-- Requests one after the other, and what they left. -/
structure Course (β : Type) where
  turns : List (Turn β)
  slot : Slot
  world : World β

/-- The failures of a course, in order. -/
def Course.failures (c : Course β) : List Failure := c.turns.filterMap Turn.failure?

/-- Makes requests, each with the slot the one before it left. -/
def course (ops : HostOps β) : List (Proxy × Request) → Slot → World β → Course β
  | [], slot, w => { turns := [], slot, world := w }
  | (p, r) :: rest, slot, w =>
    let later := course ops rest (r.slotAfter ops p slot w) (perform (r.serve ops p slot) w).2
    { later with turns := r.turn ops p slot w :: later.turns }

variable {ops : HostOps β}

/-- What a host gets from a request that became what it did. -/
def Request.given (r : Request) : Except Unwind (Except Failure Reply) → Option Reply
  | .ok (.ok reply) => some reply
  | .ok (.error _) => some r.blank
  | .error _ => none

/-- What one request does to the slot, the reports and the counts. -/
structure Turn.Reports (i : Nat) (w : World β) (slot : Slot) (t : Turn β) (w' : World β)
    (slot' : Slot) : Prop where
  reply : t.reply = t.request.given t.outcome
  raised : slot' = slot.raised t.failure?.toList
  entered : w'.reports i = t.failure?.toList.foldl ObjectBridge.Reports.enter (w.reports i)
  refs : ∀ o, w'.refs o = w.refs o + (t.answered.refs o - t.asked.refs o) -
    (slot.lost t.failure?.toList).count o

/-- The timers around a request change nothing that is reported. -/
theorem Request.reports_of_settled {r : Request} {result : Except Unwind (Reply × Slot)}
    {w' : World β} (hsettled : r.settled ops p slot w = (result, w'))
    (hreply : result.toOption.map Prod.fst = r.given (r.turn ops p slot w).outcome)
    (hraised : Slot.next slot result = slot.raised (r.turn ops p slot w).failure?.toList)
    (hentered : w'.reports i = (r.turn ops p slot w).failure?.toList.foldl Reports.enter
      (w.reports i))
    (hrefs : ∀ o, w'.refs o =
      w.refs o + ((r.turn ops p slot w).answered.refs o - (r.turn ops p slot w).asked.refs o) -
      (slot.lost (r.turn ops p slot w).failure?.toList).count o) :
    (r.turn ops p slot w).Reports i w slot (perform (r.serve ops p slot) w).2
      (r.slotAfter ops p slot w) := by
  have hserve := perform_serve ops p slot r w
  rw [hsettled] at hserve
  -- Leaving a request stops its timer, which holds nothing.
  have hleft (o : ObjectRef) : (r.left p w w').refs o = w'.refs o := by
    simpa using (r.alike_left p w w').recounts.refs o
  refine ⟨?_, ?_, ?_, fun o => ?_⟩
  · rw [turn, hserve]
    exact hreply
  · rw [slotAfter, hserve]
    exact hraised
  · rw [hserve]
    exact (r.view_left p w w').trans hentered
  · rw [hserve]
    exact (hleft o).trans (hrefs o)

/-- Answering a request reports nothing. -/
theorem Request.reports_answered (hn : NativeLeaves (World.reports i) ops) (slot : Slot)
    (r : Request) (w : World β) :
    (r.turn ops p slot w).answered.reports i = w.reports i :=
  (r.leaves_ask hn p (r.entered p w)).trans (r.view_entered p w)

/-- Until it is asked a request has moved no reference. -/
theorem Request.refs_answered (ops : HostOps β) (slot : Slot) (r : Request) (w : World β)
    (o : ObjectRef) :
    (r.turn ops p slot w).answered.refs o =
      w.refs o + ((r.turn ops p slot w).answered.refs o - (r.turn ops p slot w).asked.refs o) := by
  have hentered : (r.turn ops p slot w).asked.refs o = w.refs o := by
    show (r.entered p w).refs o = w.refs o
    simpa using (r.alike_entered p w).recounts.refs o
  rw [hentered]
  omega

/-- A request that does not fail changes nothing that is reported. -/
theorem Request.reports_of_none {r : Request} {result : Except Unwind (Reply × Slot)}
    (hn : NativeLeaves (World.reports i) ops) (hnone : (r.turn ops p slot w).failure? = none)
    (hsettled : r.settled ops p slot w = (result, (r.turn ops p slot w).answered))
    (hreply : result.toOption.map Prod.fst = r.given (r.turn ops p slot w).outcome)
    (hnext : Slot.next slot result = slot) :
    (r.turn ops p slot w).Reports i w slot (perform (r.serve ops p slot) w).2
      (r.slotAfter ops p slot w) := by
  refine reports_of_settled hsettled hreply ?_ ?_ fun o => ?_
  · rw [hnone, hnext]
    exact slot.raised_nil.symm
  · rw [hnone, r.reports_answered hn slot w]
    rfl
  · rw [hnone]
    show _ = _ - ((slot.lost []).count o : Int)
    rw [Slot.lost_nil]
    simpa using r.refs_answered ops slot w o

/-- A request that fails enters its failure in both places. -/
theorem Request.turn_reports (hn : NativeLeaves (World.reports i) ops)
    (hinst : p.context.inst = some i) (slot : Slot) (r : Request) (w : World β)
    (hover : (r.turn ops p slot w).HandsOver) :
    (r.turn ops p slot w).Reports i w slot (perform (r.serve ops p slot) w).2
      (r.slotAfter ops p slot w) := by
  have hsettled : r.settled ops p slot w =
      perform (r.ask ops p >>= r.settle p slot) (r.entered p w) := rfl
  have hask : perform (r.ask ops p) (r.entered p w) =
    ((r.turn ops p slot w).outcome, (r.turn ops p slot w).answered) := rfl
  rw [perform_bind, hask] at hsettled
  -- Only a failure is reported; an answer and what unwinds the request are passed on.
  cases houtcome : (r.turn ops p slot w).outcome with
  | error u =>
    have hnone : (r.turn ops p slot w).failure? = none := by rw [Turn.failure?, houtcome]
    rw [houtcome] at hsettled
    exact reports_of_none hn hnone hsettled (by rw [houtcome]; rfl) rfl
  | ok result =>
    rw [houtcome] at hsettled
    cases result with
    | ok reply =>
      have hnone : (r.turn ops p slot w).failure? = none := by rw [Turn.failure?, houtcome]
      exact reports_of_none hn hnone hsettled (by rw [houtcome]; rfl) rfl
    | error f =>
      have hfailure : (r.turn ops p slot w).failure? = some f := by rw [Turn.failure?, houtcome]
      obtain ⟨w', hfail, hreports, hcounts⟩ := perform_fail hinst slot fun o ho =>
        hover o (by rw [hfailure]; exact ho)
      have hrun : r.settled ops p slot w = (.ok (r.blank, slot.raised [f]), w') :=
        hsettled.trans (perform_bind_ok hfail _)
      refine reports_of_settled hrun (by rw [houtcome]; rfl) (by rw [hfailure]; rfl) ?_ fun o => ?_
      · rw [hfailure, hreports, r.reports_answered hn slot w]
        rfl
      · rw [hcounts o, hfailure]
        exact congrArg (· - ((slot.lost [f]).count o : Int)) (r.refs_answered ops slot w o)

/-- A request fails for the reasons `Request.ask_error_iff` lists. -/
theorem Request.turn_failure_iff (ops : HostOps β) (p : Proxy) (slot : Slot) (r : Request)
    (w : World β) :
    (∃ f, (r.turn ops p slot w).failure? = some f) ↔
      r.Misnamed ∨ r.NodeFails ops p (r.entered p w) ∨ r.OutOfBytes p (r.entered p w) := by
  rw [← r.ask_error_iff ops p (r.entered p w)]
  exact exists_congr fun f => (r.turn ops p slot w).failure?_eq_some_iff

/-- What is on record after a course of requests. -/
structure Course.Reported (ops : HostOps β) (i : Nat) (slot : Slot) (w : World β) (x : Instance)
    (c : Course β) :
    Prop where
  /-- Which requests fail, and what the host gets. -/
  fails_iff : ∀ t ∈ c.turns, (∃ f, t.failure? = some f) ↔
    t.request.Misnamed ∨ t.request.NodeFails ops t.proxy t.asked ∨
    t.request.OutOfBytes t.proxy t.asked
  reply : ∀ t ∈ c.turns, t.reply = t.request.given t.outcome
  /-- The slot has the first failure. -/
  first : c.slot = slot.raised c.failures
  /-- The instance has the last failure. -/
  last : c.world.instances[i]?.map Instance.lastError =
    some ((c.failures.getLast?.map Failure.describe).getD x.lastError)
  /-- All are counted, in total and by their labels. -/
  total : c.world.metrics.snapshot.exceptions =
    w.metrics.snapshot.exceptions + (if x.plugin.metered then c.failures.length else 0 : Nat)
  labelled : ∀ label, (c.world.metrics.exceptions.find? [label]).getD 0 =
    (w.metrics.exceptions.find? [label]).getD 0 +
      if x.plugin.metered then c.failures.countP (Failure.label ·.describe = label) else 0
  /-- What the slot did not take is released, on top of what native code
  did. -/
  refs : ∀ o, c.world.refs o =
    w.refs o + (c.turns.map fun t => t.answered.refs o - t.asked.refs o).sum -
    (slot.lost c.failures).count o

/-- The first failure takes the slot, and each one is entered and gives
back what the slot did not take. -/
theorem course_adds_up (hn : NativeLeaves (World.reports i) ops) (requests : List (Proxy × Request))
    (hinst : ∀ q ∈ requests, q.1.context.inst = some i) (slot : Slot) (w : World β)
    (hover : ∀ t ∈ (course ops requests slot w).turns, t.HandsOver) :
    (course ops requests slot w).slot = slot.raised (course ops requests slot w).failures ∧
      (course ops requests slot w).world.reports i =
        (course ops requests slot w).failures.foldl Reports.enter (w.reports i) ∧
      ∀ o, (course ops requests slot w).world.refs o =
        w.refs o + ((course ops requests slot w).turns.map fun t =>
  t.answered.refs o - t.asked.refs o).sum -
          (slot.lost (course ops requests slot w).failures).count o := by
  -- Each turn starts with the slot and the world the one before it left.
  induction requests generalizing slot w with
  | nil =>
    exact ⟨slot.raised_nil.symm, rfl, fun o => by simp [course, Course.failures, Slot.lost_nil]⟩
  | cons q rest ih =>
    obtain ⟨p, r⟩ := q
    set slot' := r.slotAfter ops p slot w with hslot'
    set w' := (perform (r.serve ops p slot) w).2 with hw'
    set t := r.turn ops p slot w with ht
    have hcourse : course ops ((p, r) :: rest) slot w =
      { course ops rest slot' w' with turns := t :: (course ops rest slot' w').turns } := rfl
    rw [hcourse] at hover ⊢
    have hturn : t.Reports i w slot w' slot' :=
      r.turn_reports hn (hinst _ List.mem_cons_self) slot w (hover t List.mem_cons_self)
    obtain ⟨hraised, hreports, hrefs⟩ :=
      ih (fun q hq => hinst q (List.mem_cons_of_mem _ hq)) slot' w'
      fun t ht => hover t (List.mem_cons_of_mem _ ht)
    have hfailures : Course.failures { course ops rest slot' w' with turns := t ::
        (course ops rest slot' w').turns } =
        t.failure?.toList ++ (course ops rest slot' w').failures := by
      unfold Course.failures
      rw [List.filterMap_cons]
      cases t.failure? <;> rfl
    rw [hfailures]
    refine ⟨?_, ?_, fun o => ?_⟩
    · rw [Slot.raised_append, ← hturn.raised]
      exact hraised
    · rw [List.foldl_append, ← hturn.entered]
      exact hreports
    · rw [Slot.lost_append, List.count_append, ← hturn.raised, List.map_cons, List.sum_cons]
      refine (hrefs o).trans ?_
      rw [hturn.refs o]
      push_cast
      omega

/-- Every request is reported like one that is made alone. -/
theorem turns_reported (hn : NativeLeaves (World.reports i) ops) (requests : List (Proxy × Request))
    (hinst : ∀ q ∈ requests, q.1.context.inst = some i) (slot : Slot) (w : World β)
    (hover : ∀ t ∈ (course ops requests slot w).turns, t.HandsOver) {t : Turn β}
    (ht : t ∈ (course ops requests slot w).turns) :
    t.reply = t.request.given t.outcome ∧ ((∃ f, t.failure? = some f) ↔
      t.request.Misnamed ∨ t.request.NodeFails ops t.proxy t.asked ∨
      t.request.OutOfBytes t.proxy t.asked) := by
  induction requests generalizing slot w with
  | nil => cases ht
  | cons q rest ih =>
    obtain ⟨p, r⟩ := q
    rcases List.mem_cons.mp ht with rfl | hlater
    · exact ⟨(r.turn_reports hn (hinst _ List.mem_cons_self) slot w
        (hover _ List.mem_cons_self)).reply, r.turn_failure_iff ops p slot w⟩
    · exact ih (fun q hq => hinst q (List.mem_cons_of_mem _ hq)) _ _
        (fun t ht => hover t (List.mem_cons_of_mem _ ht)) hlater

/-- The slot has the first failure, the instance the last, and the books
have all of them. -/
theorem course_reported (hn : NativeLeaves (World.reports i) ops) {x : Instance} {w : World β}
    (hx : w.instances[i]? = some x) (requests : List (Proxy × Request))
    (hinst : ∀ q ∈ requests, q.1.context.inst = some i) (slot : Slot)
    (hover : ∀ t ∈ (course ops requests slot w).turns, t.HandsOver) :
    (course ops requests slot w).Reported ops i slot w x := by
  obtain ⟨hslot, hreports, hrefs⟩ := course_adds_up hn requests hinst slot w hover
  have hcounts : (w.reports i).counts = x.plugin.metered := by
    simp [World.reports, Reports.counts, hx]
  refine ⟨fun t ht => (turns_reported hn requests hinst slot w hover ht).2,
    fun t ht => (turns_reported hn requests hinst slot w hover ht).1, hslot, ?_, ?_,
    fun label => ?_, hrefs⟩
  · have hlast := congrArg (fun r => r.inst.map Prod.snd) hreports
    rw [Reports.inst_foldl_enter] at hlast
    simpa [World.reports, hx, Function.comp_def] using hlast
  · have htotal := congrArg Reports.total hreports
    rw [Reports.total_foldl_enter, hcounts] at htotal
    exact htotal
  · have hlabelled := congrArg (fun r => (r.exceptions.find? [label]).getD 0) hreports
    simp only [Reports.exceptions_foldl_enter, hcounts] at hlabelled
    exact hlabelled

end

/-- A host whose objects have no properties. -/
def barren : HostOps Behaviour where
  hasProperty _ _ _ := return false
  getProperty _ _ _ := return none
  setProperty _ _ _ _ := return false
  evaluate _ _ _ := return none

/-- A host that does nothing leaves everything. -/
theorem leave_barren {γ : Type} (view : World Behaviour → γ) : barren.Leave view where
  hasProperty _ _ _ := .pure _
  getProperty _ _ _ := .pure _
  setProperty _ _ _ _ := .pure _
  evaluate _ _ _ := .pure _

/-- A plugin that throws what it is given, and an object to give it. -/
def thrower : World Behaviour where
  tables := #[{ refs := { refs := 1 } }]
  graph := { nodes := #[{ cls := some { methods := .ofList [(.ofString "raise", some .raise)] } }] }
  instances :=
    #[{ plugin := { (default : Plugin) with metered := true }, root := 0, host := .memory }]

/-- The object is thrown twice, and then a property without a name is
read. -/
def throws : List (Proxy × Request) :=
  let root : Proxy := { context := { host := .memory, inst := some 0 }, node := 0 }
  [(root, .call (.string (.ofString "raise")) [.object (.table 0)]),
    (root, .call (.string (.ofString "raise")) [.object (.table 0)]), (root, .getProperty .void)]

/-- The slot has the object that was thrown first; the second reference is
given back. -/
theorem course_throws :
    let c := course barren throws (some {}) thrower
    c.Reported barren 0 (some {}) thrower thrower.instances[0] ∧ c.failures.length = 3 ∧
      (c.slot.bind ExceptionSlot.pending).bind Variant.object? = some (.table 0) ∧
      c.world.refs (.table 0) = 2 := by
  have hn : NativeLeaves (World.reports 0) barren := Behaviour.nativeObeys (leave_barren _)
  have hinst : ∀ q ∈ throws, q.1.context.inst = some 0 := by decide +kernel
  have hover : ∀ t ∈ (course barren throws (some {}) thrower).turns, t.HandsOver := by
    decide +kernel
  refine ⟨course_reported hn rfl throws hinst (some {}) hover, ?_, ?_, ?_⟩ <;> decide +kernel

end Proxy

end ObjectBridge

import ObjectBridge.Bridge.Native
import ObjectBridge.Proofs.Bridge.Reporting

/-!
# `ObjectBridge.Proofs.Bridge.Marshalling`: all of the bytes, or none

The names of a node's members reach a host as strings in the host's own
bytes, and the host may run out of bytes at any of them. Then the strings
made so far are given back.

The two hosts count differently. The in-memory host refuses single requests
that are too large, a script runtime refuses what goes over its budget and
never counts below zero. `Till` holds what either goes by, so that asking
for bytes and giving them back are described once
(`perform_memAlloc_till`, `perform_memFree_till`).

`perform_nameVariants_till` is about the loop over the names: it comes to
its end and has taken the bytes of all names, or it stops at the first name
there are no bytes for, and everything is as it was.
`Proxy.marshals_allOrNothing` says so of the request, and of every way to
make a variant.
-/

set_option autoImplicit false

namespace ObjectBridge

variable {α β : Type} {host : HostId} {w w' : World β}

/-! ### Tills -/

/-- What a host goes by when it gives out bytes. -/
structure Till where
  /-- Is there such a host? -/
  known : Bool
  /-- Does the count stay at zero when more is given back? -/
  clamps : Bool
  /-- Single requests for more are refused; no limit when not positive. -/
  perRequest : Int
  /-- More than this is never out; no limit when not positive. -/
  budget : Int
  /-- The bytes given out and not got back. -/
  out : Int

namespace Till

/-- The bytes of a list of texts. -/
def size (names : List Bytes) : Int := (names.map fun name => (name.length : Int)).sum

/-- The till after `n` more bytes were given out. -/
def take (t : Till) (n : Int) : Till := { t with out := t.out + n }

/-- The host gives out `n` more bytes. -/
def Gives (t : Till) (n : Int) : Prop :=
  (0 < t.perRequest → n ≤ t.perRequest) ∧ (0 < t.budget → t.out + n ≤ t.budget)

/-- The host has bytes for all of the texts. -/
def Affords (t : Till) (names : List Bytes) : Prop :=
  (0 < t.perRequest → ∀ name ∈ names, (name.length : Int) ≤ t.perRequest) ∧
    (0 < t.budget → t.out + size names ≤ t.budget)

/-- The host exists and has not given out more than it may. -/
structure InOrder (t : Till) : Prop where
  known : t.known = true
  nonneg : t.clamps = true → 0 ≤ t.out
  within : 0 < t.budget → t.out ≤ t.budget

instance (t : Till) (n : Int) : Decidable (t.Gives n) :=
  inferInstanceAs (Decidable ((0 < t.perRequest → n ≤ t.perRequest) ∧
    (0 < t.budget → t.out + n ≤ t.budget)))

instance (t : Till) (names : List Bytes) : Decidable (t.Affords names) :=
  inferInstanceAs (Decidable ((0 < t.perRequest → ∀ name ∈ names, (name.length : Int) ≤
    t.perRequest) ∧ (0 < t.budget → t.out + size names ≤ t.budget)))

variable {t : Till} {name : Bytes} {names rest : List Bytes}

/-- No names need no bytes. -/
@[simp] theorem size_nil : size [] = 0 := rfl

/-- A name needs its own bytes, and the rest theirs. -/
@[simp] theorem size_cons : size (name :: rest) = name.length + size rest := by simp [size]

/-- Names in two portions need the bytes of both. -/
@[simp] theorem size_append : size (names ++ rest) = size names + size rest := by simp [size]

/-- No names need less than nothing. -/
theorem size_nonneg (names : List Bytes) : 0 ≤ size names := by
  induction names with
  | nil => simp
  | cons name rest ih =>
    rw [size_cons]
    omega

/-- Taking nothing leaves the till. -/
@[simp] theorem take_zero (t : Till) : t.take 0 = t := by simp [take]

/-- What is taken twice may be taken at once. -/
@[simp] theorem take_take (t : Till) (n m : Int) : (t.take n).take m = t.take (n + m) := by
  simp [take, Int.add_assoc]

/-- Nothing is always affordable. -/
theorem InOrder.affords_nil (h : t.InOrder) : t.Affords [] := by
  simpa [Affords] using h.within

/-- Bytes that are given out leave the till in order. -/
theorem InOrder.take (h : t.InOrder) {n : Nat} (hgives : t.Gives n) : (t.take n).InOrder where
  known := h.known
  nonneg hclamps := by
    have := h.nonneg hclamps
    show 0 ≤ t.out + n
    omega
  within := hgives.2

/-- The texts are paid for one after the other. -/
theorem affords_cons :
    t.Affords (name :: rest) ↔ t.Gives name.length ∧ (t.take name.length).Affords rest := by
  have hrest := size_nonneg rest
  simp only [Affords, Gives, take, List.mem_cons, forall_eq_or_imp, size_cons]
  constructor
  · rintro ⟨hper, hbudget⟩
    refine ⟨⟨fun h => (hper h).1, fun h => ?_⟩, fun h => (hper h).2, fun h => ?_⟩
    · have := hbudget h
      omega
    · have := hbudget h
      omega
  · rintro ⟨⟨hname, _⟩, hper, hbudget⟩
    refine ⟨fun h => ⟨hname h, hper h⟩, fun h => ?_⟩
    have := hbudget h
    omega

/-- This is the first text there are no bytes for. -/
def Refuses (t : Till) (names : List Bytes) (name : Bytes) : Prop :=
  ∃ before after, names = before ++ name :: after ∧ t.Affords before ∧
    ¬ t.Affords (before ++ [name])

/-- A text that was paid for is not the one that is refused. -/
theorem Refuses.cons {refused : Bytes} (hgives : t.Gives name.length)
    (h : (t.take name.length).Refuses rest refused) :
    t.Refuses (name :: rest) refused := by
  obtain ⟨before, after, rfl, hbefore, hrefused⟩ := h
  refine ⟨name :: before, after, rfl, affords_cons.mpr ⟨hgives, hbefore⟩, fun hall => hrefused ?_⟩
  rw [List.cons_append] at hall
  exact (affords_cons.mp hall).2

end Till

/-- The till of a host. -/
def World.till : HostId → World β → Till
  | .memory, w =>
    { known := true, clamps := false, perRequest := w.memory.allocLimit, budget := 0,
      out := w.memory.allocated }
  | .script i, w =>
    { known := decide (i < w.runtimes.size), clamps := true, perRequest := 0
      budget := (w.runtime i).config.maxAlloc, out := (w.runtime i).allocated }

/-- The till of a runtime is in order when it is there and has kept to its
budget. -/
theorem inOrder_script_iff {i : Nat} :
    (w.till (.script i)).InOrder ↔ i < w.runtimes.size ∧ 0 ≤ (w.runtime i).allocated ∧
      (0 < (w.runtime i).config.maxAlloc → (w.runtime i).allocated ≤
        (w.runtime i).config.maxAlloc) := by
  constructor
  · intro h
    exact ⟨of_decide_eq_true h.known, h.nonneg rfl, h.within⟩
  · rintro ⟨hi, hnonneg, hwithin⟩
    exact ⟨decide_eq_true hi, fun _ => hnonneg, hwithin⟩

/-! ### Bytes out and in -/

/-- The till of a runtime that exists, with another count. -/
theorem till_modifyRuntime {i : Nat} (hi : i < w.runtimes.size) {f : Runtime → Runtime} {n : Int}
    (hconfig : ∀ r, (f r).config = r.config)
    (hout : (f (w.runtime i)).allocated = (w.runtime i).allocated + n) :
    World.till (.script i) { w with runtimes := w.runtimes.modify i f } =
      (w.till (.script i)).take n := by
  have hruntime : World.runtime { w with runtimes := w.runtimes.modify i f } i =
      f (w.runtime i) := by
    rw [World.runtime_modify, if_pos ⟨rfl, hi⟩]
  simp only [World.till, Till.take, hruntime, hconfig, hout, Array.size_modify]

/-- The in-memory host looks at the size of the request. -/
theorem gives_memory_iff (w : World β) (n : Int) :
    (w.till .memory).Gives n ↔ ¬ (0 < w.memory.allocLimit ∧ w.memory.allocLimit < n) := by
  simp only [Till.Gives, World.till]
  omega

/-- A runtime looks at its budget. -/
theorem gives_script_iff (w : World β) (i : Nat) (n : Int) :
    (w.till (.script i)).Gives n ↔ withinBudget (w.runtime i).config.maxAlloc
      (w.runtime i).allocated n = true := by
  simp only [withinBudget, Till.Gives, World.till, Bool.or_eq_true, decide_eq_true_eq]
  omega

/-- A host gives out bytes as its till says. -/
theorem perform_memAlloc_till (h : (w.till host).known = true) (n : Nat) :
    ∃ w', perform (memAlloc host n) w = (.ok (decide ((w.till host).Gives n)), w') ∧
      w'.till host = if (w.till host).Gives n then (w.till host).take n else w.till host := by
  have hnat : ¬ (n : Int) < 0 := by omega
  -- The in-memory host limits each request, and a script host the sum of what was not given back.
  cases host with
  | memory =>
    unfold memAlloc countCall modifyMemory
    rw [perform_bind_ok (perform_modify _ w), perform_bind_ok (perform_get _)]
    simp only [hnat, decide_false, Bool.false_or, Bool.and_eq_true, decide_eq_true_eq]
    by_cases hover : 0 < w.memory.allocLimit ∧ w.memory.allocLimit < n
    · have hgives : ¬ (w.till .memory).Gives n :=
        fun hgives => (gives_memory_iff w n).mp hgives hover
      rw [if_neg hgives, decide_eq_false hgives, if_pos hover]
      exact ⟨_, rfl, rfl⟩
    · have hgives : (w.till .memory).Gives n := (gives_memory_iff w n).mpr hover
      rw [if_pos hgives, decide_eq_true hgives, if_neg hover]
      exact ⟨_, rfl, rfl⟩
  | script i =>
    have hi : i < w.runtimes.size := of_decide_eq_true h
    unfold memAlloc
    rw [perform_bind_ok (perform_get w)]
    simp only [hnat, decide_false, Bool.false_or, gives_script_iff]
    cases withinBudget (w.runtime i).config.maxAlloc (w.runtime i).allocated n with
    | true => exact ⟨_, rfl, till_modifyRuntime hi (fun _ => rfl) rfl⟩
    | false => exact ⟨w, rfl, rfl⟩

/-- Bytes that are out can be given back. -/
theorem perform_memFree_till {n : Nat} (h : (w.till host).known = true)
    (hout : (w.till host).clamps = true → n ≤ (w.till host).out) :
    ∃ w', perform (memFree host n) w = (.ok (), w') ∧ w'.till host = (w.till host).take (-n) := by
  cases host with
  | memory => exact ⟨_, rfl, by simp [World.till, Till.take, Int.sub_eq_add_neg]⟩
  | script i =>
    refine ⟨_, rfl, till_modifyRuntime (of_decide_eq_true h) (fun _ => rfl) ?_⟩
    have hcovered : (n : Int) ≤ (w.runtime i).allocated := hout rfl
    show max 0 ((w.runtime i).allocated - n) = (w.runtime i).allocated + -(n : Int)
    omega

/-- Releasing a string puts its bytes back. -/
theorem perform_releaseVariant_till (bytes : Bytes) (h : (w.till host).known = true)
    (hout : (w.till host).clamps = true → bytes.length ≤ (w.till host).out) :
    ∃ w', perform (releaseVariant host (.string bytes)) w = (.ok (), w') ∧
      w'.till host = (w.till host).take (-bytes.length) := by
  cases host with
  | memory => exact ⟨_, rfl, by simp [World.till, Till.take, Int.sub_eq_add_neg]⟩
  | script i => exact perform_memFree_till h hout

/-- Strings that are out can be given back, all of them. -/
theorem perform_releaseAll_till {names : List Bytes} (h : (w.till host).known = true)
    (hout : (w.till host).clamps = true → Till.size names ≤ (w.till host).out) :
    ∃ w', perform (releaseAll host (names.map .string)) w = (.ok (), w') ∧
      w'.till host = (w.till host).take (-Till.size names) := by
  -- What was given back is out no more, so the rest still is.
  induction names generalizing w with
  | nil => exact ⟨w, rfl, by simp⟩
  | cons name rest ih =>
    have hrest := Till.size_nonneg rest
    simp only [Till.size_cons] at hout
    obtain ⟨w₁, hrun₁, htill₁⟩ := perform_releaseVariant_till name h fun hclamps => by
      have := hout hclamps
      omega
    obtain ⟨w', hrun, htill⟩ := ih (w := w₁) (by rw [htill₁]; exact h) fun hclamps => by
      rw [htill₁] at hclamps ⊢
      have := hout hclamps
      show Till.size rest ≤ (w.till host).out + -(name.length : Int)
      omega
    refine ⟨w', (perform_bind_ok hrun₁ _).trans hrun, ?_⟩
    rw [htill, htill₁, Till.take_take, Till.size_cons]
    congr 1
    omega

/-! ### Strings -/

/-- A string is made when there are bytes for it, and takes as many. -/
theorem perform_valueFromString_given {bytes : Bytes} (h : (w.till host).known = true)
    (hgives : (w.till host).Gives bytes.length) :
    ∃ w', perform (valueFromString host bytes) w = (.ok (.ok (.string bytes)), w') ∧
      w'.till host = (w.till host).take bytes.length := by
  unfold valueFromString
  split
  next hempty =>
    subst hempty
    exact ⟨w, rfl, (Till.take_zero _).symm⟩
  next =>
    obtain ⟨w', hrun, htill⟩ := perform_memAlloc_till h bytes.length
    rw [decide_eq_true hgives] at hrun
    rw [if_pos hgives] at htill
    exact ⟨w', perform_bind_ok hrun _, htill⟩

/-- Otherwise nothing is taken. -/
theorem perform_valueFromString_of_not_gives {bytes : Bytes} (h : (w.till host).known = true)
    (hne : bytes ≠ []) (hgives : ¬ (w.till host).Gives bytes.length) :
    ∃ w', perform (valueFromString host bytes) w = (.ok (.error (.allocation bytes.length)), w') ∧
      w'.till host = w.till host := by
  obtain ⟨w', hrun, htill⟩ := perform_memAlloc_till h bytes.length
  rw [decide_eq_false hgives] at hrun
  rw [if_neg hgives] at htill
  unfold valueFromString
  rw [if_neg hne]
  exact ⟨w', perform_bind_ok hrun _, htill⟩

/-- A till that is in order has bytes for the empty string. -/
theorem perform_valueFromString_refused {bytes : Bytes} (h : (w.till host).InOrder)
    (hgives : ¬ (w.till host).Gives bytes.length) :
    ∃ w', perform (valueFromString host bytes) w = (.ok (.error (.allocation bytes.length)), w') ∧
      w'.till host = w.till host := by
  have hne : bytes ≠ [] := by
    rintro rfl
    refine hgives ⟨fun hpos => Int.le_of_lt hpos, fun hpos => ?_⟩
    simpa using h.within hpos
  exact perform_valueFromString_of_not_gives h.known hne hgives

/-! ### The names of a node -/

/-- The loop over the names. It has made `given` and comes to its end, or
gives everything back at the first name there are no bytes for. -/
theorem perform_nameVariants_till (given names : List Bytes) (h : (w.till host).InOrder)
    (hgiven : (w.till host).clamps = true → Till.size given ≤ (w.till host).out) :
    ((w.till host).Affords names → ∃ w',
      perform (Proxy.nameVariants host (given.map .string).reverse names) w =
        (.ok (.ok ((given ++ names).map .string)), w') ∧
      w'.till host = (w.till host).take (Till.size names)) ∧
    (¬ (w.till host).Affords names → ∃ name w', (w.till host).Refuses names name ∧
      perform (Proxy.nameVariants host (given.map .string).reverse names) w =
        (.ok (.error (.allocation name.length)), w') ∧
      w'.till host = (w.till host).take (-Till.size given)) := by
  induction names generalizing given w with
  | nil =>
    refine ⟨fun _ => ⟨w, ?_, (Till.take_zero _).symm⟩, fun hnot => absurd h.affords_nil hnot⟩
    simp [Proxy.nameVariants]
  | cons name rest ih =>
    unfold Proxy.nameVariants
    by_cases hgives : (w.till host).Gives name.length
    · obtain ⟨w₁, hrun₁, htill₁⟩ := perform_valueFromString_given h.known hgives
      have hinOrder : (w₁.till host).InOrder := htill₁ ▸ h.take hgives
      -- The name is among those given back from now on.
      have hmore : (w₁.till host).clamps = true → Till.size (given ++ [name]) ≤
          (w₁.till host).out := by
        rw [htill₁]
        intro hclamps
        have := hgiven hclamps
        show Till.size (given ++ [name]) ≤ (w.till host).out + name.length
        simp only [Till.size_append, Till.size_cons, Till.size_nil]
        omega
      have hloop := ih _ hinOrder hmore
      rw [perform_bind_ok hrun₁]
      simp only [List.map_append, List.map_cons, List.map_nil, List.reverse_append,
        List.reverse_cons, List.reverse_nil, List.nil_append, List.singleton_append,
        List.append_assoc, htill₁] at hloop
      refine ⟨fun hall => ?_, fun hnot => ?_⟩
      · obtain ⟨w', hrun, htill⟩ := hloop.1 (Till.affords_cons.mp hall).2
        refine ⟨w', by simpa using hrun, ?_⟩
        rw [htill, Till.take_take, Till.size_cons]
      · obtain ⟨refused, w', hrefused, hrun, htill⟩ :=
          hloop.2 fun hrest => hnot (Till.affords_cons.mpr ⟨hgives, hrest⟩)
        refine ⟨refused, w', hrefused.cons hgives, hrun, ?_⟩
        rw [htill, Till.take_take]
        simp only [Till.size_append, Till.size_cons, Till.size_nil]
        congr 1
        omega
    · obtain ⟨w₁, hrun₁, htill₁⟩ := perform_valueFromString_refused h hgives
      have hnot : ¬ (w.till host).Affords (name :: rest) :=
        fun hall => hgives (Till.affords_cons.mp hall).1
      have hback : (w₁.till host).clamps = true → Till.size given ≤ (w₁.till host).out := by
        rw [htill₁]
        exact hgiven
      obtain ⟨w', hrelease, htill⟩ := perform_releaseAll_till (htill₁ ▸ h.known) hback
      rw [perform_bind_ok hrun₁]
      refine ⟨fun hall => absurd hall hnot, fun _ =>
        ⟨name, w', ⟨[], rest, rfl, h.affords_nil, ?_⟩, ?_, ?_⟩⟩
      · exact fun hone => hgives (Till.affords_cons.mp hone).1
      · rw [List.reverse_reverse]
        exact perform_bind_ok hrelease _
      · rw [htill, htill₁]

namespace Proxy

/-- Measuring leaves the till. -/
theorem till_withRecorder (host : HostId) (recorder : Option Nat) (f : Recorder → Recorder) :
    Leaves (World.till host) (withRecorder recorder f : M β Unit) := by
  intro w
  cases recorder <;> cases host <;> rfl

/-- So does starting a measured operation -/
theorem till_started (p : Proxy) (operation : String) (name : Bytes) (w : World β) (host : HostId) :
    (p.started w operation name).till host = w.till host := till_withRecorder host _ _ w

/-- and stopping it. -/
theorem till_stopped (p : Proxy) (operation : String) (name : Bytes) (w answered : World β)
    (host : HostId) :
    (p.stopped w operation name answered).till host = answered.till host :=
  till_withRecorder host _ _ answered

/-- Noting the last error leaves it too. -/
theorem till_setLastError (host : HostId) (ctx : Context) (message : Bytes) :
    Leaves (World.till host) (setLastError ctx message : M β Unit) := by
  refine obeys_setLastError (fun _ _ _ => ?_) (fun _ _ => ?_) ctx message
  all_goals cases host <;> rfl

/-- Reporting a failure that throws no object changes what is reported and
nothing else. -/
theorem perform_fail_plain (p : Proxy) (slot : Slot) {f : Failure} (hplain : f.object? = none)
    (w : World β) :
    ∃ w', perform (p.fail slot f) w = (.ok (slot.raised [f]), w') ∧ w.Alike w' ∧ ∀ host,
      w'.till host = w.till host := by
  have hraise : perform (raiseInto slot f) w = (.ok (slot.raised [f]), w) := by
    unfold raiseInto
    rw [Slot.raiseInto_eq, dropThrown_eq, hplain]
    cases slot.isFree <;> rfl
  obtain ⟨_, w', hset, halike⟩ := quietly_setLastError p.context f.describe w
  refine ⟨w', ?_, halike, fun host => (till_setLastError host _ _).eq hset⟩
  unfold fail
  rw [perform_bind_ok hraise, perform_bind_ok hset, perform_pure]

/-- A host that asks for the names gets all of them and no exception, or
none and the exception that bytes ran out. -/
structure ListsOrNothing (p : Proxy) (slot : Slot) (w : World β) : Prop where
  /-- With bytes for all names, exactly those are taken. -/
  all : (w.till p.context.host).Affords (w.graph.memberNames p.node) → ∃ w',
    perform (p.propertyNames slot) w =
      (.ok (some ((w.graph.memberNames p.node).map .string), slot), w') ∧
      w'.till p.context.host = (w.till p.context.host).take (Till.size (w.graph.memberNames p.node))
  /-- Otherwise the first name there are no bytes for is reported, and the
  host's books are as before. -/
  nothing : ¬ (w.till p.context.host).Affords (w.graph.memberNames p.node) → ∃ name w',
    (w.till p.context.host).Refuses (w.graph.memberNames p.node) name ∧
      perform (p.propertyNames slot) w = (.ok (none, slot.raised [.allocation name.length]), w') ∧
      w'.till p.context.host = w.till p.context.host

/-- A till in order lists all names or none. -/
theorem listsOrNothing (p : Proxy) (slot : Slot) (h : (w.till p.context.host).InOrder) :
    p.ListsOrNothing slot w := by
  have hstarted := p.till_started "PropertyNames" [] w p.context.host
  have hgraph : (p.started w "PropertyNames" []).graph = w.graph := (p.alike_started w _ _).graph
  -- The loop over the names takes bytes one name at a time, or has none left for one of them.
  have hloop := perform_nameVariants_till [] (w.graph.memberNames p.node) (hstarted.symm ▸ h)
    fun hclamps => by rw [hstarted] at hclamps ⊢; exact h.nonneg hclamps
  simp only [List.map_nil, List.reverse_nil, List.nil_append, hstarted, Till.size_nil, Int.neg_zero,
    Till.take_zero] at hloop
  constructor
  case all =>
    intro hall
    obtain ⟨w₁, hrun, htill⟩ := hloop.1 hall
    refine ⟨p.stopped w "PropertyNames" [] w₁, ?_, (p.till_stopped _ _ _ _ _).trans htill⟩
    unfold propertyNames
    rw [perform_measured_eq, perform_bind_ok (perform_get _), hgraph, perform_bind_ok hrun]
    rfl
  case nothing =>
    intro hnot
    obtain ⟨name, w₁, hrefused, hrun, htill⟩ := hloop.2 hnot
    obtain ⟨w₂, hfail, _, hkept⟩ := p.perform_fail_plain slot (f := .allocation name.length) rfl w₁
    refine ⟨name, p.stopped w "PropertyNames" [] w₂, hrefused, ?_, ?_⟩
    · unfold propertyNames
      rw [perform_measured_eq, perform_bind_ok (perform_get _), hgraph, perform_bind_ok hrun]
      simp only
      rw [perform_bind_ok hfail]
      rfl
    · rw [p.till_stopped, hkept, htill]

end Proxy

/-! ### Making variants -/

/-- An operation that makes a variant returns, and if it fails the host's
books are as before. -/
def MakesOrNothing (host : HostId) (act : M β (Except Failure Variant)) (w : World β) : Prop :=
  ∃ made w', perform act w = (.ok made, w') ∧ ∀ f, made = .error f → w'.till host = w.till host

/-- What is made without bytes is made or not. -/
theorem MakesOrNothing.pure (host : HostId) (made : Except Failure Variant) (w : World β) :
    MakesOrNothing host (Pure.pure made) w := ⟨made, w, rfl, fun _ _ => rfl⟩

/-- A string is made with its bytes taken, or nothing is taken. -/
theorem makesOrNothing_valueFromString (h : (w.till host).InOrder) (bytes : Bytes) :
    MakesOrNothing host (valueFromString host bytes) w := by
  by_cases hgives : (w.till host).Gives bytes.length
  · obtain ⟨w', hrun, _⟩ := perform_valueFromString_given h.known hgives
    exact ⟨_, w', hrun, nofun⟩
  · obtain ⟨w', hrun, htill⟩ := perform_valueFromString_refused h hgives
    exact ⟨_, w', hrun, fun _ _ => htill⟩

/-- The same for a string of wide text, -/
theorem makesOrNothing_valueFromWide (h : (w.till host).InOrder) (enc : WideEncoding)
    (units : List UInt32) :
    MakesOrNothing host (valueFromWide host enc units) w := by
  unfold valueFromWide
  cases Wide.toUtf8 enc units with
  | ok bytes => exact makesOrNothing_valueFromString h bytes
  | error e => exact .pure host _ w

/-- and for any native value. -/
theorem makesOrNothing_toVariant (h : (w.till host).InOrder) (v : NativeValue) :
    MakesOrNothing host (v.toVariant host) w := by
  cases v with
  | text bytes | data bytes => exact makesOrNothing_valueFromString h bytes
  | owned o => cases o <;> exact .pure host _ w
  | _ => exact .pure host _ w

/-- Marshalling takes all the bytes it needs, or none. -/
theorem Proxy.marshals_allOrNothing (p : Proxy) (h : (w.till p.context.host).InOrder) :
    (∀ slot, p.ListsOrNothing slot w) ∧
    (∀ bytes, MakesOrNothing p.context.host (valueFromString p.context.host bytes) w) ∧
    (∀ enc units, MakesOrNothing p.context.host (valueFromWide p.context.host enc units) w) ∧
    ∀ v : NativeValue, MakesOrNothing p.context.host (v.toVariant p.context.host) w :=
  ⟨fun slot => p.listsOrNothing slot h, makesOrNothing_valueFromString h,
    makesOrNothing_valueFromWide h, makesOrNothing_toVariant h⟩

/-- A runtime with three of its five bytes left, and a node with two
members of two bytes each. -/
def tightWorld : World Unit :=
  { proxies := #[{ refs := { refs := 1 }, context := { host := .script 0 }, node := 0 }]
    graph :=
      { nodes := #[{ cls := some { methods := .ofList [([97, 98], some ()),
        ([99, 100], some ())] } }] }
    runtimes := #[{ config := { maxAlloc := 5 }, allocated := 2 }] }

/-- There are bytes for one of the names, and they are given back. -/
theorem Proxy.marshals_allOrNothing_tight :
    (tightWorld.till (.script 0)).InOrder ∧ ∃ w',
      perform ((tightWorld.proxy 0).propertyNames (some {})) tightWorld =
        (.ok
          (none, some { pending := some (.string (.ofString "host allocation failed: 2 bytes")) }),
          w') ∧
      (w'.runtime 0).allocated = 2 := by
  have hinOrder : (tightWorld.till (.script 0)).InOrder := inOrder_script_iff.mpr (by decide)
  have hall := (tightWorld.proxy 0).marshals_allOrNothing hinOrder
  obtain ⟨name, w', hrefused, hrun, htill⟩ := (hall.1 (some {})).nothing (by decide)
  have hlength : name.length = 2 := by
    obtain ⟨before, after, hnames, _⟩ := hrefused
    have hevery : ∀ name ∈ tightWorld.graph.memberNames (tightWorld.proxy 0).node, name.length =
        2 := by decide
    exact hevery name (hnames ▸ List.mem_append_right _ List.mem_cons_self)
  rw [hlength] at hrun
  exact ⟨hinOrder, w', hrun, congrArg Till.out htill⟩

end ObjectBridge

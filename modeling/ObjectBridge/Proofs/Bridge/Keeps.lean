import ObjectBridge.Proofs.Bridge.Books

/-!
# `ObjectBridge.Proofs.Bridge.Keeps`: operations that keep the books

An operation takes references over from its caller and answers with a
result that holds references (`Holds`). It keeps the books (`Keeps`) when
nothing else changes: outside the runtimes there are fewer references by
those it took, and more by those its result holds. An operation that is
unwound has no result, so what it took is gone and what it made is given
back.

There is one exception. A closed runtime cannot take an object on, and
whoever hands it one does not come to give the reference back. So an
operation that is unwound because something was not there may leave
references over, if a runtime is closed.

The rules say how operations are put together: what a result holds is taken
by what comes next, and a clean-up takes what was put aside for it.
-/

set_option autoImplicit false

namespace ObjectBridge

/-! ### What results hold -/

/-- Results that may hold references. -/
class Holds (α : Type) where
  holds : α → ObjectRef → Int
  nonneg : ∀ x o, 0 ≤ holds x o

export Holds (holds)

/-- A type whose values hold nothing. -/
@[reducible] def Holds.nothing (α : Type) : Holds α := ⟨fun _ => 0, fun _ _ => Int.le_refl 0⟩

instance : Holds Unit := .nothing _
instance : Holds Bool := .nothing _
instance : Holds Script.Value := .nothing _
instance : Holds Script.Text := .nothing _
instance : Holds Unwind := .nothing _

instance : Holds Variant where
  holds
    | .object o => one o
    | _ => 0
  nonneg v x := by
    split
    · exact one_nonneg _ _
    · exact Int.le_refl 0

instance : Holds ExceptionSlot := ⟨fun s => holds s.value, fun s => Holds.nonneg s.value⟩

/-- A failure holds what it throws. -/
instance : Holds Failure :=
  ⟨fun f => holds f.exceptionValue, fun f => Holds.nonneg f.exceptionValue⟩

section

variable {α γ : Type} [Holds α] [Holds γ]

instance : Holds (Option α) where
  holds
    | some x => holds x
    | none => 0
  nonneg v o := by
    split
    · exact Holds.nonneg _ _
    · exact Int.le_refl 0

instance : Holds (α × γ) :=
  ⟨fun x => holds x.1 + holds x.2, fun x o =>
    Int.add_nonneg (Holds.nonneg x.1 o) (Holds.nonneg x.2 o)⟩

instance : Holds (Except γ α) where
  holds
    | .ok x => holds x
    | .error e => holds e
  nonneg r o := by
    split <;> exact Holds.nonneg _ _

/-- What the members of a list hold together. -/
def holdsAll : List α → ObjectRef → Int
  | [] => 0
  | x :: rest => holds x + holdsAll rest

/-- A list holds no less than nothing. -/
theorem holdsAll_nonneg (l : List α) (o : ObjectRef) : 0 ≤ holdsAll l o := by
  induction l with
  | nil => exact Int.le_refl 0
  | cons x rest ih => exact Int.add_nonneg (Holds.nonneg x o) ih

instance : Holds (List α) := ⟨holdsAll, holdsAll_nonneg⟩

/-- Nothing holds nothing. -/
@[simp] theorem holds_none : holds (none : Option α) = 0 := rfl
/-- Something holds what it is made of. -/
@[simp] theorem holds_some (x : α) : holds (some x) = holds x := rfl
/-- A pair holds what its parts hold. -/
@[simp] theorem holds_pair (x : α) (y : γ) : holds (x, y) = holds x + holds y := rfl
/-- A result holds what is given back. -/
@[simp] theorem holds_ok (x : α) : holds (.ok x : Except γ α) = holds x := rfl
/-- A failure holds what its error holds. -/
@[simp] theorem holds_error (e : γ) : holds (.error e : Except γ α) = holds e := rfl
/-- An empty list holds nothing. -/
@[simp] theorem holds_nil : holds ([] : List α) = 0 := rfl
/-- A list holds what its head and its tail hold. -/
@[simp] theorem holds_cons (x : α) (l : List α) : holds (x :: l) = holds x + holds l := rfl

/-- Two lists together hold what each of them holds. -/
theorem holds_append (l l' : List α) : holds (l ++ l') = holds l + holds l' := by
  induction l with
  | nil => rw [List.nil_append, holds_nil, zero_add]
  | cons x rest ih => rw [List.cons_append, holds_cons, ih, holds_cons, add_assoc]

/-- A list holds no less than one of its members. -/
theorem holds_le_of_mem {x : α} {l : List α} (h : x ∈ l) (o : ObjectRef) :
    holds x o ≤ holds l o := by
  induction l with
  | nil => cases h
  | cons y rest ih =>
    rw [holds_cons, Pi.add_apply]
    have := Holds.nonneg y o
    have := Holds.nonneg rest o
    rcases List.mem_cons.mp h with rfl | hx
    · omega
    · have := ih hx
      omega

/-- The order makes no difference. -/
@[simp] theorem holds_reverse (l : List α) : holds l.reverse = holds l := by
  induction l with
  | nil => rfl
  | cons x rest ih => rw [List.reverse_cons, holds_append, ih, holds_cons, holds_cons, holds_nil,
    add_zero, add_comm]

end

/-- A truth value holds nothing. -/
@[simp] theorem holds_bool (x : Bool) : holds x = 0 := rfl
/-- Nor does what unwinds. -/
@[simp] theorem holds_unwind (u : Unwind) : holds u = 0 := rfl
/-- An object variant holds one reference. -/
@[simp] theorem holds_object (o : ObjectRef) : holds (Variant.object o) = one o := rfl
/-- The void variant holds none. -/
@[simp] theorem holds_void : holds Variant.void = 0 := rfl

/-- A slot holds what its exception carries. -/
theorem holds_slot (slot : Slot) : holds slot = holds (slot.getD {}).value := by
  cases slot <;> rfl

/-- A failure holds what it would carry as an exception. -/
theorem holds_failure (f : Failure) : holds f = holds f.exceptionValue := rfl

variable {α β γ : Type} {good : Roles β} {w w' : World β} {t n : ObjectRef → Int}

/-! ### Operations that do not touch references -/

/-- An operation that has a result and changes no books. -/
def Quietly (act : M β α) : Prop := ∀ w, ∃ x w', perform act w = (.ok x, w') ∧ w.Alike w'

namespace Quietly

/-- Giving back a value is quiet. -/
theorem pure (x : α) : Quietly (pure x : M β α) := fun w => ⟨x, w, rfl, .refl w⟩

/-- So is reading the world, -/
theorem get : Quietly (get : M β (World β)) := fun w => ⟨w, w, rfl, .refl w⟩

/-- and a change that leaves the books as they are. -/
theorem modify {f : World β → World β} (hf : ∀ w : World β, w.Alike (f w)) :
    Quietly (modify f : M β PUnit) :=
  fun w => ⟨_, _, rfl, hf w⟩

/-- Quiet operations follow each other. -/
theorem bind {act : M β α} {f : α → M β γ} (h : Quietly act) (hf : ∀ x, Quietly (f x)) :
    Quietly (act >>= f) := by
  intro w
  obtain ⟨x, w₁, hrun, hw₁⟩ := h w
  obtain ⟨y, w₂, hrun₂, hw₂⟩ := hf x w₁
  exact ⟨y, w₂, (perform_bind_ok hrun f).trans hrun₂, hw₁.trans hw₂⟩

/-- A note may be left after a quiet one. -/
theorem noting {act : M β α} (h : Quietly act) (note : M β Unit) : Quietly (noting act note) := by
  intro w
  obtain ⟨x, w', hrun, hw'⟩ := h w
  exact ⟨x, w', perform_noting_ok hrun note, hw'⟩

end Quietly

/-! ### Keeping the books -/

/-- Is it excused that references are left over? -/
def World.Excuses (w : World β) (r : Except Unwind α) : Prop :=
  r = .error .fault ∧ ∃ i, (w.runtime i).isOpen = false

/-- A result and the world it comes with: `n` more references are held
outside, and no reference was released that nobody held. -/
structure Settles (good : Roles β) (w : World β) (n : ObjectRef → Int) (r : Except Unwind α)
    (w' : World β) :
    Prop where
  proper : r ≠ .error (.misuse RefCount.unretainedMessage)
  leads : ∃ extra : ObjectRef → Int, (∀ o, 0 ≤ extra o) ∧ (extra = 0 ∨ w.Excuses r) ∧
    w.Leads good (n + extra) w'

/-- Run in the world `w`, an operation takes the references `t` over, and
its result holds what it adds. -/
def Keeps [Holds α] (good : Roles β) (act : M β α) (t : ObjectRef → Int) (w : World β) : Prop :=
  Settles good w (holds (perform act w).1 - t) (perform act w).1 (perform act w).2

namespace Settles

variable {r : Except Unwind α} {x : α}

/-- Nothing need be excused where a world leads to another one. -/
theorem of_leads (hr : r ≠ .error (.misuse RefCount.unretainedMessage)) (h : w.Leads good n w') :
    Settles good w n r w' :=
  ⟨hr, 0, fun _ => Int.le_refl 0, .inl rfl, by rwa [add_zero]⟩

/-- The references may be written in another way. -/
theorem congr {m : ObjectRef → Int} (h : Settles good w n r w') (hn : ∀ o, n o = m o) :
    Settles good w m r w' :=
  funext hn ▸ h

/-- With a result there is nothing left over. -/
theorem leads_of_ok (h : Settles good w n (.ok x : Except Unwind α) w') : w.Leads good n w' := by
  obtain ⟨extra, _, hextra, hl⟩ := h.leads
  rcases hextra with rfl | hexcuse
  · rwa [add_zero] at hl
  · cases hexcuse.1

/-- What follows adds its own. -/
theorem trans {w₁ : World β} {m : ObjectRef → Int} {q : Except Unwind γ} (h : w.Leads good n w₁)
    (h' : Settles good w₁ m q w') : Settles good w (n + m) q w' := by
  obtain ⟨extra, hpos, hextra, hl⟩ := h'.leads
  refine ⟨h'.proper, extra, hpos, ?_, (h.trans hl).congr fun o => ?_⟩
  · -- A runtime that is closed by then was closed before.
    rcases hextra with hzero | ⟨hq, i, hi⟩
    · exact .inl hzero
    · exact .inr ⟨hq, i, (h.grows.isOpen i) ▸ hi⟩
  · simp only [Pi.add_apply, add_assoc]

/-- The result may be given to somebody else who is unwound with it. -/
theorem map {q : Except Unwind γ} (h : Settles good w n r w')
    (hq : q ≠ .error (.misuse RefCount.unretainedMessage))
    (hrq : r = .error .fault → q = .error .fault) :
    Settles good w n q w' := by
  obtain ⟨extra, hpos, hextra, hl⟩ := h.leads
  exact ⟨hq, extra, hpos, hextra.imp_right fun hexcuse => ⟨hrq hexcuse.1, hexcuse.2⟩, hl⟩

end Settles

namespace Keeps

variable [Holds α] [Holds γ] {act : M β α} {f : α → M β γ} {x : α}

/-- So may those that an operation takes over. -/
theorem congr {m : ObjectRef → Int} (h : Keeps good act t w) (ht : ∀ o, t o = m o) :
    Keeps good act m w :=
  funext ht ▸ h

/-- An operation that is known to have a result. -/
theorem of_ok (hrun : perform act w = (.ok x, w')) (h : w.Leads good (holds x - t) w') :
    Keeps good act t w := by
  rw [Keeps, hrun]
  exact .of_leads (by simp) h

/-- What an operation that has a result leads to. -/
theorem leads_of_ok (h : Keeps good act t w) (hrun : perform act w = (.ok x, w')) :
    w.Leads good (holds x - t) w' := by
  rw [Keeps, hrun] at h
  exact h.leads_of_ok

/-- A result that is handed on is taken. -/
theorem pure (hs : w.Sound good) (x : α) : Keeps good (pure x : M β α) (holds x) w :=
  of_ok rfl ((World.Leads.refl hs).congr fun o => by simp)

/-- A result that holds nothing. -/
theorem pure_nothing (hs : w.Sound good) (hx : holds x = 0) :
    Keeps good (Pure.pure x : M β α) 0 w :=
  hx ▸ pure hs x

/-- Unwinding takes nothing over and adds nothing. -/
theorem unwind (hs : w.Sound good) {u : Unwind} (hu : u ≠ .misuse RefCount.unretainedMessage) :
    Keeps good (throw u : M β α) 0 w :=
  .of_leads (fun h => hu (Except.error.inj h)) ((World.Leads.refl hs).congr fun o => by simp)

omit [Holds γ] in
/-- What was caught is thrown again. -/
theorem rethrow (hs : w.Sound good) {u : Unwind}
    (hu : (.error u : Except Unwind γ) ≠ .error (.misuse RefCount.unretainedMessage)) :
    Keeps good (throw u : M β α) 0 w :=
  unwind hs fun h => hu (congrArg Except.error h)

omit [Holds α] in
/-- An operation that is known to have a result, and what comes next. -/
theorem after (hrun : perform act w = (.ok x, w')) (hl : w.Leads good n w')
    (h : Keeps good (f x) (t + n) w') :
    Keeps good (act >>= f) t w := by
  rw [Keeps, perform_bind_ok hrun]
  exact (h.trans hl).congr fun o => by simp only [Pi.add_apply, Pi.sub_apply]; omega

/-- Reading the world changes nothing about what is kept. -/
theorem get_bind {f : World β → M β γ} (h : Keeps good (f w) t w) : Keeps good (get >>= f) t w := h

omit [Holds α] in
/-- What comes after an operation that changes no books. -/
theorem quiet_bind (hs : w.Sound good) (hq : Quietly act)
    (h : ∀ x w', w.Alike w' → w'.Sound good → Keeps good (f x) t w') :
    Keeps good (act >>= f) t w := by
  obtain ⟨x, w', hrun, halike⟩ := hq w
  have hl := halike.leads hs
  exact after hrun hl ((h x w' halike hl.sound).congr fun o => by simp)

/-- What an operation's result holds is taken by what comes next. -/
theorem bind (h : Keeps good act t w)
    (hf : ∀ x w', perform act w = (.ok x, w') → w.Leads good (holds x - t) w' →
      Keeps good (f x) (holds x) w') :
    Keeps good (act >>= f) t w := by
  cases hrun : perform act w with
  | mk r w' =>
    cases r with
    | ok x =>
      have hl := h.leads_of_ok hrun
      exact after hrun hl ((hf x w' hrun hl).congr fun o => by
        simp only [Pi.add_apply, Pi.sub_apply]; omega)
    | error u =>
      -- There is no result that something could come of.
      rw [Keeps, hrun] at h
      rw [Keeps, perform_bind, hrun]
      exact h.map (fun hu => h.proper (congrArg _ (Except.error.inj hu))) fun hu =>
        congrArg _ (Except.error.inj hu)

/-- What an operation that takes nothing answers is held by then. -/
theorem next (hs : w.Sound good) (h : Keeps good act 0 w)
    (hf : ∀ x w', perform act w = (.ok x, w') → w.Leads good (holds x) w' →
      (∀ o, holds x o ≤ w'.outside o) → Keeps good (f x) (holds x) w') : Keeps good
        (act >>= f) 0 w := by
  refine h.bind fun x w' hrun hl => hf x w' hrun (hl.congr fun o => by simp) fun o => ?_
  have := hs.covered o
  rw [hl.outside, Pi.sub_apply, Pi.zero_apply]
  omega

/-- What is unwound may be caught, as long as what is not there is not
passed over. -/
theorem caught_bind {f : Except Unwind α → M β γ} (h : Keeps good act t w)
    (hfault : f (.error .fault) = throw .fault)
    (hf : ∀ r w', perform act w = (r, w') → r ≠ .error (.misuse RefCount.unretainedMessage) →
      w.Leads good (holds r - t) w' → Keeps good (f r) (holds r) w') :
    Keeps good (caught act >>= f) t w := by
  cases hrun : perform act w with
  | mk r w' =>
    have hcaught : perform (caught act) w = (.ok r, w') := by rw [perform_caught, hrun]
    rw [Keeps, hrun] at h
    obtain ⟨extra, hpos, hextra, hl⟩ := h.leads
    rcases hextra with rfl | hexcuse
    · rw [add_zero] at hl
      have hnext := hf r w' hrun h.proper hl
      exact after hcaught hl (hnext.congr fun o => by simp only [Pi.add_apply, Pi.sub_apply]; omega)
    · -- Something was left over, so whoever catches it lets it go on.
      obtain ⟨rfl, hclosed⟩ := hexcuse
      rw [Keeps, perform_bind_ok hcaught, hfault]
      exact h.map (by simp) fun _ => rfl

/-- A clean-up takes what was put aside for it. -/
theorem withCleanUp {cleanUp : M β Unit} {c : ObjectRef → Int} (h : Keeps good act t w)
    (hc : ∀ w', w'.Sound good → (∀ o, w.outside o - t o ≤ w'.outside o) →
      ∃ w'', perform cleanUp w' = (.ok (), w'') ∧ w'.Leads good (-c) w'') :
    Keeps good (cleanly act cleanUp) (t + c) w := by
  cases hrun : perform act w with
  | mk r w' =>
    rw [Keeps, hrun] at h
    obtain ⟨extra, hpos, hextra, hl⟩ := h.leads
    -- Whatever the result holds and whatever is left over comes on top of
    -- what was put aside.
    obtain ⟨w'', hclean, hl'⟩ := hc w' hl.sound fun o => by
      have := Holds.nonneg r o
      have := hpos o
      rw [hl.outside]
      simp only [Pi.add_apply, Pi.sub_apply]
      omega
    rw [Keeps, perform_cleanly, hrun, hclean]
    refine ⟨h.proper, extra, hpos, hextra, (hl.trans hl').congr fun o => ?_⟩
    simp only [Pi.add_apply, Pi.sub_apply, Pi.neg_apply]
    omega

/-- A quiet clean-up takes nothing. -/
theorem withCleanUp_quietly {cleanUp : M β Unit} (h : Keeps good act t w) (hq : Quietly cleanUp) :
    Keeps good (cleanly act cleanUp) t w :=
  have hc : ∀ w' : World β, w'.Sound good → (∀ o, w.outside o - t o ≤ w'.outside o) →
      ∃ w'', perform cleanUp w' = (.ok (), w'') ∧ w'.Leads good (-0) w'' := fun w' hs _ => by
    obtain ⟨_, w'', hrun, halike⟩ := hq w'
    exact ⟨w'', hrun, (halike.leads hs).congr fun o => by simp⟩
  (h.withCleanUp hc).congr fun o => by simp

/-- Neither does a quiet note. -/
theorem noting_quietly {note : M β Unit} (h : Keeps good act t w) (hq : Quietly note) :
    Keeps good (noting act note) t w := by
  have hclean := h.withCleanUp_quietly hq
  cases hrun : perform act w with
  | mk r w' =>
    cases r with
    | ok x => rwa [Keeps, perform_noting_ok hrun, ← hrun]
    | error u =>
      obtain ⟨_, w'', hnote, _⟩ := hq w'
      rw [Keeps, perform_cleanly, hrun, hnote] at hclean
      rwa [Keeps, perform_noting_error hrun, hnote]

end Keeps

end ObjectBridge

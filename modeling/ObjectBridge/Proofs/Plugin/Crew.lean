import ObjectBridge.Proofs.Plugin.Session

/-!
# `ObjectBridge.Proofs.Plugin.Crew`: the sessions of a pool

The sessions there have been since a pool was made fall into those that
work, whoever has them at the moment, and those that do not. A `Crew` is in
order when the former are on duty, each in a runtime of its own, and the
latter are vacant in a closed runtime: those that were made for the pool
were closed once, and the others are what is left of sessions that could
not be made.

A pool does four things to its crew, and each keeps it in order: a session
starts over, a session is closed, a session is made, and a session turns out
not to be possible. In each case the operation shifts the roster of one
session, and all others keep their state (`Crew.others`).
-/

set_option autoImplicit false

namespace ObjectBridge.Roster

variable {p : Plugin} {first s t r n : Nat} {d : Int} {R R' : Roster} {made on on' : List Nat}

/-! ### Runtimes -/

/-- The runtime of a session. -/
def seat (R : Roster) (s : Nat) : Nat := (R.sessions[s]?.map Session.runtime).getD 0

/-- A session on duty sits in its runtime. -/
theorem OnDuty.seat_eq (h : R.OnDuty p s r n) : R.seat s = r := by
  obtain ⟨i, x, hsession, _⟩ := h
  rw [seat, hsession]
  rfl

/-- So does a vacant one. -/
theorem Vacant.seat_eq {b : Bool} (h : R.Vacant p s r n b) : R.seat s = r := by
  rw [seat, h.1]
  rfl

/-- What happens to a session leaves the others in their seats. -/
theorem Shifts.seat_eq (h : R.Shifts s r d R') (hne : t ≠ s) : R'.seat t = R.seat t := by
  rw [seat, seat, h.sessions t hne]

/-! ### Sessions there have been -/

/-- The session is there, and is `first` or came later. -/
def Since (R : Roster) (first s : Nat) : Prop := first ≤ s ∧ s < R.sessions.size

/-- A session on duty is on the roster, and so is its runtime. -/
theorem OnDuty.lt_size (h : R.OnDuty p s r n) : s < R.sessions.size ∧ r < R.isOpen.size := by
  obtain ⟨i, x, hsession, _, _, _, _, hopen⟩ := h
  exact ⟨(Array.getElem?_eq_some_iff.mp hsession).1, (Array.getElem?_eq_some_iff.mp hopen).1⟩

/-- The same for a vacant one. -/
theorem Vacant.lt_size {b : Bool} (h : R.Vacant p s r n b) :
    s < R.sessions.size ∧ r < R.isOpen.size :=
  ⟨(Array.getElem?_eq_some_iff.mp h.1).1, (Array.getElem?_eq_some_iff.mp h.2).1⟩

/-- What is done to one session does not make others appear or vanish. -/
theorem Shifts.since_iff (h : R.Shifts s r d R') (hne : t ≠ s) :
    R'.Since first t ↔ R.Since first t := by
  have hnone : R'.sessions.size ≤ t ↔ R.sessions.size ≤ t := by
    rw [← Array.getElem?_eq_none_iff, ← Array.getElem?_eq_none_iff, h.sessions t hne]
  rw [Since, Since, ← not_le, ← not_le, hnone]

/-! ### Crews -/

/-- Of the sessions there have been since `first`, those in `on` work, each
in a runtime of its own. No other does: it was closed once if it was made
for the pool, and otherwise there was nothing to close. -/
structure Crew (R : Roster) (p : Plugin) (first : Nat) (made on : List Nat) : Prop where
  nodup : on.Nodup
  owned : ∀ s ∈ on, s ∈ made
  since : ∀ s ∈ made, R.Since first s
  le_size : first ≤ R.sessions.size
  apart : ∀ s t, R.Since first s → R.Since first t → R.seat s = R.seat t → s = t
  working : ∀ s ∈ on, R.OnDuty p s (R.seat s) 0
  retired : ∀ s, R.Since first s → s ∉ on →
    R.Vacant p s (R.seat s) (if s ∈ made then 1 else 0) false

namespace Crew

/-- Nobody is a crew of no sessions. -/
theorem nil (R : Roster) (p : Plugin) : R.Crew p R.sessions.size [] [] := by
  have hnone : ∀ s, ¬ R.Since R.sessions.size s := by
    intro s hs
    exact absurd hs.1 hs.2.not_ge
  constructor <;> simp [hnone]

/-- The order in which sessions came on duty makes no difference. -/
theorem perm (h : R.Crew p first made on) (hperm : on.Perm on') : R.Crew p first made on' where
  nodup := hperm.nodup_iff.mp h.nodup
  owned s hs := h.owned s (hperm.mem_iff.mpr hs)
  since := h.since
  le_size := h.le_size
  apart := h.apart
  working s hs := h.working s (hperm.mem_iff.mpr hs)
  retired s hs hoff := h.retired s hs (mt hperm.mem_iff.mp hoff)

/-- Neither pools nor what is counted matter to a crew. -/
theorem congr (h : R.Crew p first made on) (hsessions : R'.sessions = R.sessions)
    (hinstances : R'.instances = R.instances) (hopen : R'.isOpen = R.isOpen) :
    R'.Crew p first made on := by
  have hseat (s : Nat) : R'.seat s = R.seat s := by rw [seat, seat, hsessions]
  have hsince (s : Nat) : R'.Since first s ↔ R.Since first s := by rw [Since, Since, hsessions]
  refine ⟨h.nodup, h.owned, fun s hs => (hsince s).mpr (h.since s hs), hsessions ▸ h.le_size,
    fun s t hs ht hst => ?_, fun s hs => ?_, fun s hs hoff => ?_⟩
  · rw [hseat, hseat] at hst
    exact h.apart s t ((hsince s).mp hs) ((hsince t).mp ht) hst
  · rw [hseat, OnDuty, hsessions, hinstances, hopen]
    exact h.working s hs
  · rw [hseat, Vacant, hsessions, hopen]
    exact h.retired s ((hsince s).mp hs) hoff

/-- Every session has its runtime. -/
theorem seat_lt (h : R.Crew p first made on) (hs : R.Since first s) : R.seat s < R.isOpen.size := by
  by_cases hon : s ∈ on
  · exact (h.working s hon).lt_size.2
  · exact (h.retired s hs hon).lt_size.2

/-- What is done to one session leaves the others as they are. -/
theorem others (h : R.Crew p first made on) (hshift : R.Shifts s r d R')
    (hr : ∀ t, R.Since first t → t ≠ s → R.seat t ≠ r) (ht : R.Since first t) (hne : t ≠ s) :
    (t ∈ on → R'.OnDuty p t (R'.seat t) 0) ∧
      (t ∉ on → R'.Vacant p t (R'.seat t) (if t ∈ made then 1 else 0) false) := by
  rw [hshift.seat_eq hne]
  constructor
  · intro hon
    exact (h.working t hon).shift hshift hne (hr t ht hne)
  · intro hoff
    exact (h.retired t ht hoff).shift hshift hne (hr t ht hne)

/-- What is done to one session of the crew. -/
theorem others_own (h : R.Crew p first made on) (hs : R.Since first s)
    (hshift : R.Shifts s (R.seat s) d R') (ht : R.Since first t) (hne : t ≠ s) :
    (t ∈ on → R'.OnDuty p t (R'.seat t) 0) ∧
      (t ∉ on → R'.Vacant p t (R'.seat t) (if t ∈ made then 1 else 0) false) :=
  h.others hshift (fun u hu hus huseat => hus (h.apart u s hu hs huseat)) ht hne

/-- What is done to a session that was not there before. -/
theorem others_new (h : R.Crew p first made on)
    (hshift : R.Shifts R.sessions.size R.isOpen.size d R') (ht : R.Since first t) :
    (t ∈ on → R'.OnDuty p t (R'.seat t) 0) ∧
      (t ∉ on → R'.Vacant p t (R'.seat t) (if t ∈ made then 1 else 0) false) :=
  h.others hshift (fun _ hu _ => (h.seat_lt hu).ne) ht ht.2.ne

/-- The next session is not one that was made before. -/
theorem size_notMem (h : R.Crew p first made on) : R.sessions.size ∉ made :=
  fun hmem => (h.since _ hmem).2.ne rfl

/-- A session is still there, in its runtime, and so are the others. -/
theorem stay (h : R.Crew p first made on) (hs : s ∈ made) (hshift : R.Shifts s (R.seat s) d R')
    (hseat : R'.seat s = R.seat s) (hlt : s < R'.sessions.size) :
    (∀ t, R'.Since first t ↔ R.Since first t) ∧
      ∀ t u, R'.Since first t → R'.Since first u → R'.seat t = R'.seat u → t = u := by
  have hsince : ∀ t, R'.Since first t ↔ R.Since first t := by
    intro t
    by_cases hts : t = s
    · rw [hts]
      exact iff_of_true ⟨(h.since s hs).1, hlt⟩ (h.since s hs)
    · exact hshift.since_iff hts
  have hseats : ∀ t, R'.seat t = R.seat t := by
    intro t
    by_cases hts : t = s
    · rw [hts, hseat]
    · exact hshift.seat_eq hts
  refine ⟨hsince, fun t u ht hu htu => ?_⟩
  rw [hseats, hseats] at htu
  exact h.apart t u ((hsince t).mp ht) ((hsince u).mp hu) htu

/-- A session starts over. -/
theorem keep (h : R.Crew p first made on) (hs : s ∈ on) (hshift : R.Shifts s (R.seat s) d R')
    (hduty : R'.OnDuty p s (R.seat s) 0) : R'.Crew p first made on := by
  have hmade : s ∈ made := h.owned s hs
  obtain ⟨hsince, hapart⟩ := h.stay hmade hshift hduty.seat_eq hduty.lt_size.1
  refine ⟨h.nodup, h.owned, fun t ht => (hsince t).mpr (h.since t ht), ?_, hapart, fun t ht => ?_,
    fun t ht hoff => ?_⟩
  · exact (h.since s hmade).1.trans hduty.lt_size.1.le
  · by_cases hts : t = s
    · rw [hts, hduty.seat_eq]
      exact hduty
    · exact (h.others_own (h.since s hmade) hshift (h.since t (h.owned t ht)) hts).1 ht
  · have hts : t ≠ s := fun hts => hoff (hts ▸ hs)
    exact (h.others_own (h.since s hmade) hshift ((hsince t).mp ht) hts).2 hoff

/-- A session is closed. -/
theorem retire (h : R.Crew p first made on) (hs : s ∈ on) (hshift : R.Shifts s (R.seat s) d R')
    (hvacant : R'.Vacant p s (R.seat s) 1 false) : R'.Crew p first made (on.erase s) := by
  have hmade : s ∈ made := h.owned s hs
  obtain ⟨hsince, hapart⟩ := h.stay hmade hshift hvacant.seat_eq hvacant.lt_size.1
  refine ⟨h.nodup.erase s, fun t ht => h.owned t (List.mem_of_mem_erase ht),
    fun t ht => (hsince t).mpr (h.since t ht), ?_, hapart, fun t ht => ?_, fun t ht hoff => ?_⟩
  · exact (h.since s hmade).1.trans hvacant.lt_size.1.le
  · obtain ⟨hts, hon⟩ := h.nodup.mem_erase_iff.mp ht
    exact (h.others_own (h.since s hmade) hshift (h.since t (h.owned t hon)) hts).1 hon
  · by_cases hts : t = s
    · rw [hts, if_pos hmade, hvacant.seat_eq]
      exact hvacant
    · have hon : t ∉ on := fun hon => hoff (h.nodup.mem_erase_iff.mpr ⟨hts, hon⟩)
      exact (h.others_own (h.since s hmade) hshift ((hsince t).mp ht) hts).2 hon

/-- One session more is there, in a runtime that was not there before. -/
theorem come (h : R.Crew p first made on) (hshift : R.Shifts R.sessions.size R.isOpen.size d R')
    (hseat : R'.seat R.sessions.size = R.isOpen.size) (hlt : R.sessions.size < R'.sessions.size) :
    (∀ t, R'.Since first t ↔ R.Since first t ∨ t = R.sessions.size) ∧
      ∀ t u, R'.Since first t → R'.Since first u → R'.seat t = R'.seat u → t = u := by
  have hsince : ∀ t, R'.Since first t ↔ R.Since first t ∨ t = R.sessions.size := by
    intro t
    by_cases ht : t = R.sessions.size
    · rw [ht]
      exact iff_of_true ⟨h.le_size, hlt⟩ (.inr rfl)
    · rw [hshift.since_iff ht, or_iff_left ht]
  have hother : ∀ t, R.Since first t → R'.seat t = R.seat t := fun t ht => hshift.seat_eq ht.2.ne
  refine ⟨hsince, fun t u ht hu htu => ?_⟩
  rcases (hsince t).mp ht with ht | rfl <;> rcases (hsince u).mp hu with hu | rfl
  · rw [hother t ht, hother u hu] at htu
    exact h.apart t u ht hu htu
  · rw [hother t ht, hseat] at htu
    exact absurd htu (h.seat_lt ht).ne
  · rw [hother u hu, hseat] at htu
    exact absurd htu.symm (h.seat_lt hu).ne
  · rfl

/-- A session turns out not to be possible. -/
theorem pass (h : R.Crew p first made on) (hshift : R.Shifts R.sessions.size R.isOpen.size d R')
    (hvacant : R'.Vacant p R.sessions.size R.isOpen.size 0 false) : R'.Crew p first made on := by
  obtain ⟨hsince, hapart⟩ := h.come hshift hvacant.seat_eq hvacant.lt_size.1
  refine ⟨h.nodup, h.owned, fun t ht => (hsince t).mpr (.inl (h.since t ht)),
    h.le_size.trans hvacant.lt_size.1.le, hapart, fun t ht => ?_, fun t ht hoff => ?_⟩
  · exact (h.others_new hshift (h.since t (h.owned t ht))).1 ht
  · rcases (hsince t).mp ht with ht | rfl
    · exact (h.others_new hshift ht).2 hoff
    · rw [if_neg h.size_notMem, hvacant.seat_eq]
      exact hvacant

/-- A session is made. -/
theorem hire (h : R.Crew p first made on) (hshift : R.Shifts R.sessions.size R.isOpen.size d R')
    (hduty : R'.OnDuty p R.sessions.size R.isOpen.size 0) :
    R'.Crew p first (made ++ [R.sessions.size]) (on ++ [R.sessions.size]) := by
  -- Who came in between is the new session and nobody else.
  obtain ⟨hsince, hapart⟩ := h.come hshift hduty.seat_eq hduty.lt_size.1
  refine ⟨?_, ?_, ?_, h.le_size.trans hduty.lt_size.1.le, hapart, ?_, ?_⟩
  · exact h.nodup.append (List.nodup_singleton _)
      (by simpa using fun hon => h.size_notMem (h.owned _ hon))
  · intro t ht
    rcases List.mem_append.mp ht with ht | ht
    · exact List.mem_append_left _ (h.owned t ht)
    · exact List.mem_append_right _ ht
  · intro t ht
    rcases List.mem_append.mp ht with ht | ht
    · exact (hsince t).mpr (.inl (h.since t ht))
    · exact (hsince t).mpr (.inr (List.mem_singleton.mp ht))
  · intro t ht
    rcases List.mem_append.mp ht with ht | ht
    · exact (h.others_new hshift (h.since t (h.owned t ht))).1 ht
    · rw [List.mem_singleton.mp ht, hduty.seat_eq]
      exact hduty
  · intro t ht hoff
    rcases (hsince t).mp ht with ht | rfl
    · have hmade : t ∈ made ++ [R.sessions.size] ↔ t ∈ made := by
        rw [List.mem_append, List.mem_singleton, or_iff_left ht.2.ne]
      simp only [hmade]
      exact (h.others_new hshift ht).2 fun hon => hoff (List.mem_append_left _ hon)
    · exact absurd (List.mem_append_right _ (List.mem_singleton.mpr rfl)) hoff

end Crew

end ObjectBridge.Roster

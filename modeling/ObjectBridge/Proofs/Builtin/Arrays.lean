import ObjectBridge.Proofs.Bridge.Silent
import ObjectBridge.Proofs.Builtin.Contract

/-!
# `ObjectBridge.Proofs.Builtin.Arrays`: members that read arrays

`sum`, `join` and `at` read an array of the script's. Each read runs code of
the script: it may answer with anything, say that there is nothing, or throw.
What such a call leaves behind is counted here.

A read is `Clean` when it leaves nothing behind but its answer. Then the call
gives back all it got, save in one case: when a read is unwound while `sum`
or `join` go through the elements, those read before are in nobody's hands.
They are `stranded`, and `serveCall_stranded` says that a call owes them
exactly.

An array of the script's own is read cleanly as long as its getters ask
nobody outside (`cleanArray_of_silent`). They may throw: `trapWorld` is a
world in which three bytes are lost that way.
-/

set_option autoImplicit false

namespace ObjectBridge

variable {α β : Type} {good : Roles β} {w w' : World β} {i : Nat}

/-! ### Reads -/

/-- What the answer of a read holds. -/
def readCharge : Except Unwind (Option Variant) → Account → Int
  | .ok (some v) => v.charge
  | _ => 0

/-- A read leaves nothing behind but its answer. -/
def Clean (good : Roles β) (i : Nat) (read : M β (Option Variant)) (w : World β) : Prop :=
  w.Owes good i (readCharge (perform read w).1) (perform read w).2

/-- A clean read owes what was read. -/
theorem Clean.owes {read : M β (Option Variant)} {r : Except Unwind (Option Variant)}
    (h : Clean good i read w) (hrun : perform read w = (r, w')) :
    w.Owes good i (readCharge r) w' := by
  unfold Clean at h
  rwa [hrun] at h

/-- The accessor that native code has in a context. -/
def World.accessor (w : World β) (ctx : Context) : Accessor :=
  match w.instanceOf? ctx with
  | some x => { policy := x.plugin.options.index, recorder := x.recorder }
  | none => {}

/-- The accessor is that of the context. -/
theorem perform_accessorFor (ctx : Context) (w : World β) :
    perform (accessorFor ctx) w = (.ok (w.accessor ctx), w) := by
  unfold accessorFor World.accessor
  rw [perform_bind_ok (perform_get w)]
  cases w.instanceOf? ctx <;> rfl

namespace Behaviour

/-- What variants that were read hold. -/
def heldCharge : Except Unwind (Except Failure (List Variant)) → Account → Int
  | .ok (.ok vs) => charges vs
  | _ => 0

variable {ops : HostOps β} {ctx : Context} {acc : Accessor} {arr : ObjectRef} {args : List Variant}
    {b : Behaviour}

/-- The number of elements an array is read for, when its length is one. -/
def elementCount? (length : Option Variant) : Option Nat :=
  match length.bind (·.number?) with
  | some n =>
    if n < 0 || n > Float.ofNat maxArrayLength then none
    else some ((Double.ofFloat n).truncate?.getD 0).toNat
  | none => none

/-- The elements in hand when the read of one of them is unwound. -/
def strandedFrom (ops : HostOps β) (ctx : Context) (acc : Accessor) (arr : ObjectRef) :
    (count next : Nat) → (done : List Variant) → World β → List Variant
  | 0, _, _, _ => []
  | count + 1, next, done, w =>
    match perform (acc.getIndexed ops ctx.host arr (Int32.ofNat next)) w with
    | (.ok (some v), w') => strandedFrom ops ctx acc arr count (next + 1) (v :: done) w'
    | (.ok none, _) => []
    | (.error _, _) => done.reverse

/-- The elements of an array in hand when a read is unwound. -/
def strandedArray (ops : HostOps β) (ctx : Context) (arr : ObjectRef) (w : World β) :
    List Variant :=
  match perform ((w.accessor ctx).getNamed ops ctx.host arr (.ofString "length")) w with
  | (.ok length, w') =>
    match elementCount? length with
    | some count => strandedFrom ops ctx (w.accessor ctx) arr count 0 [] w'
    | none => []
  | (.error _, _) => []

/-- `P` holds whenever an element is read, in the world it is read in. -/
def EachElement (P : Identifier → World β → Prop) (ops : HostOps β) (ctx : Context) (acc : Accessor)
    (arr : ObjectRef) : (count next : Nat) → World β → Prop
  | 0, _, _ => True
  | count + 1, next, w =>
    P (.index (Int32.ofNat next)) w ∧
      match perform (acc.getIndexed ops ctx.host arr (Int32.ofNat next)) w with
      | (.ok (some _), w') => EachElement P ops ctx acc arr count (next + 1) w'
      | _ => True

/-- `P` holds whenever the length or an element of an array is read. -/
def EachRead (P : Identifier → World β → Prop) (ops : HostOps β) (ctx : Context) (arr : ObjectRef)
    (w : World β) :
    Prop :=
  P (.name (.ofString "length")) w ∧
    match perform ((w.accessor ctx).getNamed ops ctx.host arr (.ofString "length")) w with
    | (.ok length, w') =>
      match elementCount? length with
      | some count => EachElement P ops ctx (w.accessor ctx) arr count 0 w'
      | none => True
    | (.error _, _) => True

instance EachElement.decidable {P : Identifier → World β → Prop} [∀ id w, Decidable (P id w)]
    {ops : HostOps β} {ctx : Context} {acc : Accessor} {arr : ObjectRef} :
    (count next : Nat) → (w : World β) → Decidable (EachElement P ops ctx acc arr count next w)
  | 0, _, _ => isTrue trivial
  | count + 1, next, w =>
    have rest (r : Except Unwind (Option Variant) × World β) : Decidable (match r with
        | (.ok (some _), w') => EachElement P ops ctx acc arr count (next + 1) w'
        | _ => True) :=
      match r with
      | (.ok (some _), w') => EachElement.decidable count (next + 1) w'
      | (.ok none, _) => isTrue trivial
      | (.error _, _) => isTrue trivial
    have := rest (perform (acc.getIndexed ops ctx.host arr (Int32.ofNat next)) w)
    inferInstanceAs (Decidable (_ ∧ _))

instance EachRead.decidable {P : Identifier → World β → Prop} [∀ id w, Decidable (P id w)]
    {ops : HostOps β} {ctx : Context} {arr : ObjectRef} (w : World β) :
    Decidable (EachRead P ops ctx arr w) :=
  have elements (w' : World β) (count : Option Nat) : Decidable (match count with
      | some count => EachElement P ops ctx (w.accessor ctx) arr count 0 w'
      | none => True) :=
    match count with
    | some count => EachElement.decidable count 0 w'
    | none => isTrue trivial
  have rest (r : Except Unwind (Option Variant) × World β) : Decidable (match r with
      | (.ok length, w') =>
        match elementCount? length with
        | some count => EachElement P ops ctx (w.accessor ctx) arr count 0 w'
        | none => True
      | (.error _, _) => True) :=
    match r with
    | (.ok length, w') => elements w' (elementCount? length)
    | (.error _, _) => isTrue trivial
  have := rest (perform ((w.accessor ctx).getNamed ops ctx.host arr (.ofString "length")) w)
  inferInstanceAs (Decidable (_ ∧ _))

/-- A read through an accessor is clean. -/
def CleanRead (good : Roles β) (i : Nat) (ops : HostOps β) (ctx : Context) (acc : Accessor)
    (arr : ObjectRef) (id : Identifier) (w : World β) : Prop :=
  match id with
  | .name name => Clean good i (acc.getNamed ops ctx.host arr name) w
  | .index index => Clean good i (acc.getIndexed ops ctx.host arr index) w

/-- Whenever the length or an element of an array is read, the read is
clean. -/
def CleanArray (good : Roles β) (i : Nat) (ops : HostOps β) (ctx : Context) (arr : ObjectRef)
    (w : World β) : Prop :=
  EachRead (CleanRead good i ops ctx (w.accessor ctx) arr) ops ctx arr w

/-! ### Arrays -/

/-- Elements that are read belong to the caller, and those read before one
is missing are given back. -/
theorem perform_readElements_owes (hhost : ctx.host = .script i) {count next : Nat}
    {done : List Variant} (hs : w.Sound good) (hi : i < w.runtimes.size)
    (hdone : ∀ a, charges done a ≤ w.standing i a)
    (hclean : EachElement (CleanRead good i ops ctx acc arr) ops ctx acc arr count next w) :
    ∃ r w', perform (readElements ops ctx acc arr count next done) w = (r, w') ∧
      w.Owes good i (heldCharge r + charges (strandedFrom ops ctx acc arr count next done w) -
        charges done) w' ∧
      ∀ f, r = .ok (.error f) → f.thrown? = none := by
  -- The count of what is left to read falls. What is done stays covered, since a read adds what it
  -- owes and takes nothing away.
  induction count generalizing next done w with
  | zero =>
    refine ⟨_, w, rfl, (World.Owes.refl hs).congr fun a => ?_, nofun⟩
    simp [heldCharge, strandedFrom, charges_reverse]
  | succ count ih =>
    obtain ⟨hread, hrest⟩ := hclean
    replace hread : Clean good i (acc.getIndexed ops ctx.host arr (Int32.ofNat next)) w := hread
    unfold readElements strandedFrom
    rw [perform_bind]
    cases hrun : perform (acc.getIndexed ops ctx.host arr (Int32.ofNat next)) w with
    | mk r w₁ =>
      have howes := hread.owes hrun
      rw [hrun] at hrest
      cases r with
      | error u =>
        refine ⟨.error u, w₁, rfl, howes.congr fun a => ?_, nofun⟩
        simp [readCharge, heldCharge, charges_reverse]
      | ok answer =>
        cases answer with
        | some v =>
          have hdone₁ (a : Account) : charges (v :: done) a ≤ w₁.standing i a := by
            have := hdone a
            have hv : readCharge (.ok (some v)) a = v.charge a := rfl
            rw [howes.standing, charges_cons, hv]
            omega
          obtain ⟨r, w', hread', howes', hspoken⟩ := ih howes.sound (howes.lt hi) hdone₁ hrest
          refine ⟨r, w', hread', (howes.trans howes').congr fun a => ?_, hspoken⟩
          have hv : readCharge (.ok (some v)) a = v.charge a := rfl
          simp only [Pi.add_apply, Pi.sub_apply, charges_cons, hv]
          omega
        -- An element is missing: what is done goes back.
        | none =>
          have hdone₁ (a : Account) : charges done.reverse a ≤ w₁.standing i a := by
            have hnone : readCharge (.ok none) a = 0 := rfl
            rw [howes.standing, charges_reverse, hnone, Int.add_zero]
            exact hdone a
          obtain ⟨w', hrelease, howes'⟩ :=
            perform_releaseAll_script howes.sound (howes.lt hi) hdone₁
          have hback : perform (releaseAll ctx.host done.reverse) w₁ = (.ok (), w') :=
            hhost ▸ hrelease
          refine ⟨_, w', perform_bind_ok hback _, (howes.trans howes').congr fun a => ?_,
            fun f hf => by cases hf; rfl⟩
          simp [readCharge, heldCharge, charges_reverse]

/-- A number holds nothing. -/
theorem charge_of_number {v : Variant} {n : Float} (h : v.number? = some n) (a : Account) :
    v.charge a = 0 := by
  cases v <;> cases h <;> cases a <;> rfl

/-- Reading an array owes its elements, or those that are stranded. -/
theorem perform_readArray_owes (hhost : ctx.host = .script i) (hi : i < w.runtimes.size)
    (hpos : ∀ a, 0 ≤ w.standing i a) (hclean : CleanArray good i ops ctx arr w) :
    ∃ r w', perform (readArray ops ctx arr) w = (r, w') ∧
      w.Owes good i (heldCharge r + charges (strandedArray ops ctx arr w)) w' ∧
      ∀ f, r = .ok (.error f) → f.thrown? = none := by
  obtain ⟨hlength, helements⟩ := hclean
  replace hlength : Clean good i ((w.accessor ctx).getNamed ops ctx.host arr (.ofString "length"))
    w := hlength
  unfold readArray strandedArray
  rw [perform_bind_ok (perform_accessorFor ctx w), perform_bind]
  cases hrun : perform ((w.accessor ctx).getNamed ops ctx.host arr (.ofString "length")) w with
  | mk r w₁ =>
    have howes := hlength.owes hrun
    rw [hrun] at helements
    cases r with
    | error u =>
      exact ⟨.error u, w₁, rfl, howes.congr fun a => by simp [readCharge, heldCharge], nofun⟩
    | ok length =>
      have hstanding (a : Account) : w₁.standing i a = w.standing i a + readCharge (.ok length) a :=
        howes.standing a
      simp only [elementCount?] at helements ⊢
      cases hnumber : length.bind (·.number?) with
      | none =>
        -- What is no length is given back.
        have hcharge (a : Account) : (length.getD .void).charge a = readCharge (.ok length) a := by
          cases length with
          | none => exact Variant.charge_void a
          | some v => rfl
        have hheld (a : Account) : (length.getD .void).charge a ≤ w₁.standing i a := by
          have := hpos a
          rw [hstanding, hcharge]
          omega
        obtain ⟨w', hrelease, howes'⟩ :=
          perform_releaseVariant_script howes.sound (howes.lt hi) hheld
        have hback : perform (releaseVariant ctx.host (length.getD .void)) w₁ = (.ok (), w') :=
          hhost ▸ hrelease
        refine ⟨_, w', perform_bind_ok hback _, (howes.trans howes').congr fun a => ?_,
          fun f hf => by cases hf; rfl⟩
        simp [heldCharge, hcharge]
      | some n =>
        have hnothing (a : Account) : readCharge (.ok length) a = 0 := by
          cases length with
          | none => rfl
          | some v => exact charge_of_number hnumber a
        rw [hnumber] at helements
        dsimp only at helements ⊢
        by_cases hout : (n < 0 || n > Float.ofNat maxArrayLength) = true
        · rw [if_pos hout, if_pos hout]
          refine ⟨_, w₁, rfl, howes.congr fun a => ?_, fun f hf => by cases hf; rfl⟩
          simp [heldCharge, hnothing]
        · rw [if_neg hout] at helements
          rw [if_neg hout, if_neg hout]
          have hempty (a : Account) : charges [] a ≤ w₁.standing i a := by
            rw [hstanding, hnothing, Int.add_zero]
            exact hpos a
          obtain ⟨r, w', hread, howes', hspoken⟩ :=
            perform_readElements_owes hhost howes.sound (howes.lt hi) hempty helements
          refine ⟨r, w', hread, (howes.trans howes').congr fun a => ?_, hspoken⟩
          simp [hnothing]

/-! ### Members -/

/-- What the text between the elements is. -/
def separator (args : List Variant) : Except Failure Bytes :=
  if 1 < args.length then argString "join" args 1 else .ok (.ofString ",")

/-- The array a call goes through, unless it refuses its arguments. -/
def array? (b : Behaviour) (args : List Variant) : Option ObjectRef :=
  match b with
  | .sum => (argObject "sum" args 0).toOption
  | .join => if (separator args).isOk then (argObject "join" args 0).toOption else none
  | _ => none

/-- The index of the element that is asked for, if it is one. -/
def elementIndex? (args : List Variant) : Option Int32 :=
  match argNumber "at" args 1 with
  | .ok n =>
    if n < -2147483648.0 || n > 2147483647.0 then none
    else some (Int32.ofInt ((Double.ofFloat n).truncate?.getD (-2147483648)))
  | .error _ => none

/-- The array and the index of the one element a call reads, unless it
refuses its arguments. -/
def element? (b : Behaviour) (args : List Variant) : Option (ObjectRef × Int32) :=
  match b with
  | .element => (argObject "at" args 0).toOption.bind fun arr =>
    (elementIndex? args).map fun index => (arr, index)
  | _ => none

/-- The members that read arrays. -/
inductive Reads : Behaviour → Prop
  | sum : Reads .sum
  | join : Reads .join
  | element : Reads .element

/-- What a call reads it reads cleanly. -/
structure CleanReads (good : Roles β) (i : Nat) (ops : HostOps β) (ctx : Context) (b : Behaviour)
    (args : List Variant) (w : World β) : Prop where
  array : ∀ arr, b.array? args = some arr → CleanArray good i ops ctx arr w
  element : ∀ arr index, b.element? args = some (arr, index) →
    CleanRead good i ops ctx (w.accessor ctx) arr (.index index) w

/-- The elements in hand when a call is unwound by a read. -/
def stranded (ops : HostOps β) (ctx : Context) (b : Behaviour) (args : List Variant) (w : World β) :
    List Variant :=
  match b.array? args with
  | some arr => strandedArray ops ctx arr w
  | none => []

/-- What is wrong with an argument is no object that was thrown. -/
theorem thrown?_of_argObject {method : String} {k : Nat} {f : Failure}
    (h : argObject method args k = .error f) :
    f.thrown? = none := by
  obtain rfl := eq_of_argObject h
  rfl

/-- The same where a string is wanted, -/
theorem thrown?_of_argString {method : String} {k : Nat} {f : Failure}
    (h : argString method args k = .error f) :
    f.thrown? = none := by
  obtain rfl := eq_of_argString h
  rfl

/-- or a number. -/
theorem thrown?_of_argNumber {method : String} {k : Nat} {f : Failure}
    (h : argNumber method args k = .error f) :
    f.thrown? = none := by
  obtain rfl := eq_of_argNumber h
  rfl

/-- What a member owes is its answer and what is stranded. -/
def Settled (good : Roles β) (i : Nat) (stranded : List Variant)
    (act : M β (Except Failure Variant)) (w : World β) :
    Prop :=
  ∃ r w', perform act w = (r, w') ∧ w.Owes good i (answerCharge r + charges stranded) w' ∧ Spoken r

/-- Refusing arguments owes nothing. -/
theorem settled_refuse (hs : w.Sound good) {f : Failure} (hf : f.thrown? = none) :
    Settled good i [] (pure (.error f)) w := by
  refine ⟨_, w, rfl, (World.Owes.refl hs).congr fun a => ?_, fun f' hf' => by cases hf'; exact hf⟩
  simp [answerCharge]

/-- Whatever is made of the elements of an array, they are given back. -/
theorem settled_withArray (hhost : ctx.host = .script i) (hi : i < w.runtimes.size)
    (hpos : ∀ a, 0 ≤ w.standing i a) (hclean : CleanArray good i ops ctx arr w)
    {use : List Variant → M β (Except Failure Variant)}
    (huse : ∀ elems w₁, w₁.Sound good → i < w₁.runtimes.size → Settled good i [] (use elems) w₁) :
    Settled good i (strandedArray ops ctx arr w) (do
      match ← readArray ops ctx arr with
      | .error f => return .error f
      | .ok elems => cleanly (use elems) (releaseAll ctx.host elems)) w := by
  obtain ⟨r, w₁, hread, howes, hspoken⟩ := perform_readArray_owes hhost hi hpos hclean
  unfold Settled
  rw [perform_bind, hread]
  cases r with
  | error u =>
    exact ⟨.error u, w₁, rfl, howes.congr fun a => by simp [heldCharge, answerCharge], nofun⟩
  | ok answer =>
    cases answer with
    | error f =>
      refine ⟨_, w₁, rfl, howes.congr fun a => by simp [heldCharge, answerCharge], fun f' hf' => ?_⟩
      cases hf'
      exact hspoken f rfl
    | ok elems =>
      obtain ⟨r, w₂, hrun, howes₂, hspoken₂⟩ := huse elems w₁ howes.sound (howes.lt hi)
      have hstranded (a : Account) := charges_nonneg (strandedArray ops ctx arr w) a
      have hheld (a : Account) : heldCharge (.ok (.ok elems)) a = charges elems a := rfl
      -- The elements are covered when their use is over, as using them leaves nothing owed.
      have hleft (a : Account) : charges elems a ≤ w₁.standing i a := by
        have := hpos a
        have := hstranded a
        rw [howes.standing, Pi.add_apply, hheld]
        omega
      have hanswer (a : Account) : 0 ≤ (answerCharge r + charges []) a := by
        have := answerCharge_nonneg r a
        rwa [Pi.add_apply, charges_nil, Int.add_zero]
      obtain ⟨w', hclean, howes'⟩ :=
        ScriptHost.perform_cleanly_releaseAll (howes.lt hi) hleft hrun howes₂ hanswer
      refine ⟨r, w', hhost ▸ hclean, (howes.trans howes').congr fun a => ?_, hspoken₂⟩
      simp only [Pi.add_apply, Pi.sub_apply, charges_nil, hheld]
      omega

/-- Adding up owes nothing. -/
theorem settled_total (hs : w.Sound good) (elems : List Variant) :
    Settled good i [] (do
      match total 0 0.0 elems with
      | .ok n => return .ok (.ofNumber n)
      | .error i => return .error (.ofText ("sum: element " ++ toString i ++ " is not a number")))
        w := by
  cases total 0 0.0 elems with
  | error place => exact settled_refuse hs rfl
  | ok n =>
    refine ⟨_, w, rfl, (World.Owes.refl hs).congr fun a => ?_, nofun⟩
    simp [answerCharge, charge_ofNumber]

/-- A new text is owed. -/
theorem settled_valueFromString (hhost : ctx.host = .script i) (hs : w.Sound good)
    (hi : i < w.runtimes.size) (bytes : Bytes) :
    Settled good i [] (valueFromString ctx.host bytes) w := by
  obtain ⟨r, w', hrun, howes, herror⟩ := perform_valueFromString_script hs hi bytes
  refine ⟨.ok r, w', hhost ▸ hrun, howes.congr fun a => ?_, fun f hf => ?_⟩
  · cases r <;> simp [answerCharge, Except.toOption]
  · cases hf
    rw [herror f rfl]
    rfl

/-- Adding up an array that can be read cleanly is settled. -/
theorem settled_runSum (hhost : ctx.host = .script i) (hs : w.Sound good) (hi : i < w.runtimes.size)
    (hpos : ∀ a, 0 ≤ w.standing i a) (hclean : CleanReads good i ops ctx .sum args w) :
    Settled good i (stranded ops ctx .sum args w) (runSum ops ctx args) w := by
  have harray := hclean.array
  unfold runSum stranded
  simp only [array?] at harray ⊢
  cases harg : argObject "sum" args 0 with
  | error f => exact settled_refuse hs (thrown?_of_argObject harg)
  | ok arr =>
    rw [harg] at harray
    exact settled_withArray hhost hi hpos (harray arr rfl) fun elems _ hs₁ _ =>
      settled_total hs₁ elems

/-- So is joining its elements -/
theorem settled_runJoin (hhost : ctx.host = .script i) (hs : w.Sound good)
    (hi : i < w.runtimes.size) (hpos : ∀ a, 0 ≤ w.standing i a)
    (hclean : CleanReads good i ops ctx .join args w) :
    Settled good i (stranded ops ctx .join args w) (runJoin ops ctx args) w := by
  have harray := hclean.array
  unfold runJoin stranded
  simp only [array?] at harray ⊢
  -- Both are read before the array, so nothing is owed when one of them is missing.
  have hseparator : (if 1 < args.length then argString "join" args 1 else .ok (.ofString ",")) =
      separator args := rfl
  rw [hseparator]
  cases harg : argObject "join" args 0 with
  | error f =>
    have hnone : (if (separator args).isOk then (Except.error f : Except Failure ObjectRef).toOption
    else none) = none := by
      split <;> rfl
    rw [hnone]
    exact settled_refuse hs (thrown?_of_argObject harg)
  | ok arr =>
    cases hsep : separator args with
    | error f =>
      have hf : f.thrown? = none := by
        unfold separator at hsep
        split at hsep
        · exact thrown?_of_argString hsep
        · cases hsep
      exact settled_refuse hs hf
    | ok sep =>
      rw [harg, hsep] at harray
      exact settled_withArray hhost hi hpos (harray arr rfl) fun elems _ hs₁ hi₁ =>
        settled_valueFromString hhost hs₁ hi₁ _

/-- and picking one. -/
theorem settled_runElement (hs : w.Sound good)
    (hclean : CleanReads good i ops ctx .element args w) :
    Settled good i [] (runElement ops ctx args) w := by
  have helement := hclean.element
  unfold runElement
  simp only [element?, elementIndex?] at helement
  cases harg : argObject "at" args 0 with
  | error f => exact settled_refuse hs (thrown?_of_argObject harg)
  | ok arr =>
    cases hindex : argNumber "at" args 1 with
    | error f => exact settled_refuse hs (thrown?_of_argNumber hindex)
    | ok n =>
      rw [harg, hindex] at helement
      dsimp only at helement ⊢
      -- An index that is out of range is refused before anything is read.
      split at helement
      case isTrue hout =>
        rw [if_pos hout]
        exact settled_refuse hs rfl
      case isFalse hin =>
        rw [if_neg hin]
        have hread : Clean good i ((w.accessor ctx).getIndexed ops ctx.host arr
            (Int32.ofInt ((Double.ofFloat n).truncate?.getD (-2147483648)))) w := helement arr _ rfl
        unfold Settled
        rw [perform_bind_ok (perform_accessorFor ctx w), perform_bind]
        cases hrun : perform ((w.accessor ctx).getIndexed ops ctx.host arr
            (Int32.ofInt ((Double.ofFloat n).truncate?.getD (-2147483648)))) w with
        | mk r w₁ =>
          have howes := hread.owes hrun
          cases r with
          | error u =>
            exact ⟨.error u, w₁, rfl, howes.congr fun a => by simp [readCharge, answerCharge],
              nofun⟩
          | ok answer =>
            cases answer with
            | some v =>
              exact ⟨_, w₁, rfl, howes.congr fun a => by simp [readCharge, answerCharge], nofun⟩
            | none =>
              refine ⟨_, w₁, rfl, howes.congr fun a => by simp [readCharge, answerCharge],
                fun f hf => ?_⟩
              cases hf
              rfl

/-- A member that reads arrays owes its answer and what is stranded. -/
theorem settled_run (hb : Reads b) (lift : Behaviour → β) (hhost : ctx.host = .script i)
    (hs : w.Sound good) (hi : i < w.runtimes.size) (hpos : ∀ a, 0 ≤ w.standing i a)
    (hclean : CleanReads good i ops ctx b args w) :
    Settled good i (stranded ops ctx b args w) (b.run lift ops ctx args) w := by
  cases hb with
  | sum => exact settled_runSum hhost hs hi hpos hclean
  | join => exact settled_runJoin hhost hs hi hpos hclean
  | element => exact settled_runElement hs hclean

end Behaviour

/-! ### Silent arrays -/

/-- A timer only changes the recorders. -/
theorem perform_clock (recorder : Option Nat) (f : Recorder → Recorder) (w : World β) :
    ∃ x, perform (withRecorder recorder f) w = (.ok (), { w with recorders := x }) := by
  cases recorder with
  | none => exact ⟨w.recorders, rfl⟩
  | some k => exact ⟨w.recorders.modify k f, rfl⟩

/-- What the recorders measure owes nothing. -/
theorem World.owes_clock (hs : w.Sound good) (x : Array Recorder) :
    w.Owes good i 0 { w with recorders := x } :=
  .of_alike hs ⟨rfl, rfl, rfl, rfl, rfl, rfl⟩ rfl

/-- What the recorders have no part in is the same when it is timed. -/
theorem perform_timed_clock {act : M β α} {r : Except Unwind α} (a : Accessor) (primitive : String)
    (h : ∀ x, perform act { w with recorders := x } = (r, { w' with recorders := x })) :
    ∃ y, perform (a.timed primitive act) w = (r, { w' with recorders := y }) := by
  obtain ⟨x, hstart⟩ := perform_clock a.recorder
      (fun r => r.start (.ofString ("host." ++ primitive)) 0) w
  unfold Accessor.timed
  dsimp only
  rw [startTimer, perform_bind_ok hstart]
  cases r with
  | error u =>
    obtain ⟨y, hstrand⟩ := perform_clock a.recorder
      (fun r => r.strand (.ofString ("host." ++ primitive))) { w' with recorders := x }
    exact ⟨y, by rw [perform_bind, perform_noting_error (h x), strandTimer, hstrand]⟩
  | ok value =>
    obtain ⟨y, hstop⟩ := perform_clock a.recorder
      (fun r => r.stop (.ofString ("host." ++ primitive)) 0) { w' with recorders := x }
    exact ⟨y, (perform_bind_ok (perform_noting_ok (h x) _) _).trans (perform_bind_ok hstop _)⟩

/-- A read that is clean whatever the recorders are is clean when it is
timed. -/
theorem clean_timed {act : M β (Option Variant)} (a : Accessor) (primitive : String)
    (hs : w.Sound good) (h : ∀ x, Clean good i act { w with recorders := x }) :
    Clean good i (a.timed primitive act) w := by
  obtain ⟨x, hstart⟩ := perform_clock a.recorder
      (fun r => r.start (.ofString ("host." ++ primitive)) 0) w
  have hstarted : w.Owes good i 0 { w with recorders := x } := World.owes_clock hs x
  unfold Clean Accessor.timed
  dsimp only
  rw [startTimer, perform_bind_ok hstart]
  cases hrun : perform act { w with recorders := x } with
  | mk r w₁ =>
    have howes := hstarted.trans ((h x).owes hrun)
    cases r with
    | error u =>
      obtain ⟨y, hstrand⟩ := perform_clock a.recorder
          (fun r => r.strand (.ofString ("host." ++ primitive))) w₁
      rw [perform_bind, perform_noting_error hrun, strandTimer, hstrand]
      exact (howes.trans (World.owes_clock howes.sound y)).congr fun a => by simp
    | ok value =>
      obtain ⟨y, hstop⟩ := perform_clock a.recorder
          (fun r => r.stop (.ofString ("host." ++ primitive)) 0) w₁
      rw [perform_bind_ok (perform_noting_ok hrun _), stopTimer, perform_bind_ok hstop]
      exact (howes.trans (World.owes_clock howes.sound y)).congr fun a => by simp

namespace ScriptHost

open Script (Key)

variable [Native β] {ops ops' : HostOps β} {h : Nat} {id : Identifier}

/-- A read through an accessor is silent: both the question whether there
is a property and the read of it are. -/
def silentRead (i h : Nat) (id : Identifier) (w : World β) : Bool :=
  silent i (w.handles.getD h default).object (keyOf id) w &&
    silent i (w.handles.getD h default).object (keyOf id)
    (fetched i (w.handles.getD h default).object (keyOf id) w)

/-- The script object behind a handle is read by running its getters. -/
structure ReadsBy (ops ops' : HostOps β) (i : Nat) : Prop where
  has : ∀ h id, ops.hasProperty (.script i) (.handle h) id = hasProperty ops' i (.handle h) id
  get : ∀ h id, ops.getProperty (.script i) (.handle h) id = getProperty ops' i (.handle h) id

/-- The operations of hosts read script objects so. -/
theorem readsBy_hostOps (level i : Nat) :
    ReadsBy (hostOps (level + 1) : HostOps β) (hostOps level) i :=
  ⟨fun _ _ => rfl, fun _ _ => rfl⟩

/-- A silent read of a property is clean: only the answer is owed. -/
theorem clean_getProperty (hs : w.Sound good) (hi : i < w.runtimes.size)
    (hsilent : silent i (w.handles.getD h default).object (keyOf id) w = true) :
    Clean good i (getProperty ops' i (.handle h) id) w := by
  have howes : w.Owes good i 0 (fetched i (w.handles.getD h default).object (keyOf id) w) :=
    owes_fetched hs hi _ _
  unfold Clean getProperty
  rw [perform_bind_ok (perform_get w)]
  dsimp only
  rw [perform_bind, perform_fetch_silent hi hsilent]
  cases hanswer : fetchAnswer (fetchRun i (w.handles.getD h default).object (keyOf id) w).2.2 with
  | error u => exact howes
  | ok answer =>
    cases answer with
    | none => exact howes
    | some v =>
      obtain ⟨r, w', hrun, howes'⟩ := perform_toVariant_owes howes.sound (howes.lt hi) v
      dsimp only
      rw [hrun]
      refine (howes.trans howes').congr fun a => ?_
      cases r <;> simp [readCharge]

/-- Asking silently whether there is a property, and then reading it, is
clean. -/
theorem clean_asked (a : Accessor) (hops : ReadsBy ops ops' i) (hs : w.Sound good)
    (hi : i < w.runtimes.size) (hsilent : silentRead i h id w = true) :
    Clean good i (do
      if ← a.timed "HasProperty" (ops.hasProperty (.script i) (.handle h) id) then
        a.timed "GetProperty" (ops.getProperty (.script i) (.handle h) id)
      else return none) w := by
  obtain ⟨hfirst, hsecond⟩ := Bool.and_eq_true_iff.mp hsilent
  rw [hops.has, hops.get]
  -- Whether there is a property depends on the run only.
  have hasked (x : Array Recorder) : perform (hasProperty ops' i (.handle h) id)
      { w with recorders := x } =
        ((fetchAnswer (fetchRun i (w.handles.getD h default).object (keyOf id) w).2.2).map
        Option.isSome, { fetched i (w.handles.getD h default).object (keyOf id)
        w with recorders := x }) := by
    unfold hasProperty
    rw [perform_bind_ok (perform_get _)]
    dsimp only
    have hfetch : perform (fetch ops' i (w.handles.getD h default).object (keyOf id))
        { w with recorders := x } =
          (fetchAnswer (fetchRun i (w.handles.getD h default).object (keyOf id) w).2.2,
          { fetched i (w.handles.getD h default).object (keyOf id) w with recorders := x }) :=
      perform_fetch_silent hi hfirst
    rw [perform_bind, hfetch]
    cases fetchAnswer (fetchRun i (w.handles.getD h default).object (keyOf id) w).2.2 <;> rfl
  obtain ⟨y, hrun⟩ := perform_timed_clock a "HasProperty" hasked
  have howes₁ : w.Owes good i 0 (fetched i (w.handles.getD h default).object (keyOf id) w) :=
    owes_fetched hs hi _ _
  have howes : w.Owes good i 0 { fetched i (w.handles.getD h default).object (keyOf id)
      w with recorders := y } :=
    (howes₁.trans (World.owes_clock howes₁.sound y)).congr fun a => Int.zero_add _
  unfold Clean
  rw [perform_bind, hrun]
  cases fetchAnswer (fetchRun i (w.handles.getD h default).object (keyOf id) w).2.2 with
  | error u => exact howes
  | ok answer =>
    cases answer with
    | none => exact howes
    | some v =>
      have hread : Clean good i (a.timed "GetProperty" (getProperty ops' i (.handle h) id))
          { fetched i (w.handles.getD h default).object (keyOf id) w with recorders := y } := by
        refine clean_timed a _ howes.sound fun x => ?_
        have hsound := (World.owes_clock (i := i) howes₁.sound x).sound
        exact clean_getProperty hsound (howes₁.lt hi) hsecond
      exact (howes.trans hread).congr fun a => Int.zero_add _

omit [Native β] in
/-- What is clean once the identifier is there is clean. -/
theorem clean_identified {make : M β Identifier} {rest : Identifier → M β (Option Variant)}
    (acc : Accessor) (primitive : String) (hs : w.Sound good)
    (hmake : ∀ w' : World β, perform make w' = (.ok id, w'))
    (hrest : ∀ x, Clean good i (rest id) { w with recorders := x }) :
    Clean good i (acc.timed primitive make >>= rest) w := by
  obtain ⟨x, hname⟩ := perform_timed_clock acc primitive fun x => hmake { w with recorders := x }
  have howes : w.Owes good i 0 { w with recorders := x } := World.owes_clock hs x
  unfold Clean
  rw [perform_bind_ok hname]
  exact (howes.trans (hrest x)).congr fun a => Int.zero_add _

/-- A silent read of a script object is clean, whatever the policy of the
accessor. -/
theorem cleanRead_of_silent {ctx : Context} (hhost : ctx.host = .script i) (acc : Accessor)
    (hops : ReadsBy ops ops' i) (hs : w.Sound good) (hi : i < w.runtimes.size)
    (hsilent : silentRead i h id w = true) :
    Behaviour.CleanRead good i ops ctx acc (.handle h) id w := by
  have hasked (x : Array Recorder) :=
    clean_asked acc hops (World.owes_clock (i := i) hs x).sound hi hsilent
  unfold Behaviour.CleanRead
  rw [hhost]
  cases id with
  | name name => exact clean_identified acc "StringIdentifier" hs (fun _ => rfl) hasked
  | index index =>
    refine clean_identified acc "IntIdentifier" hs (fun _ => rfl) fun x => ?_
    cases acc.policy.skipExistenceCheck with
    | false => exact hasked x
    | true =>
      -- Where nothing is read, the policy may make up an answer.
      have hsound := (World.owes_clock (i := i) hs x).sound
      have hread : Clean good i
          (acc.timed "GetProperty" (getProperty ops' i (.handle h) (.index index)))
          { w with recorders := x } := by
        refine clean_timed acc _ hsound fun y => ?_
        exact clean_getProperty (World.owes_clock (i := i) hsound y).sound hi
          (Bool.and_eq_true_iff.mp hsilent).1
      rw [← hops.get] at hread
      rw [if_pos rfl]
      unfold Clean
      rw [perform_bind]
      cases hrun : perform (acc.timed "GetProperty"
          (ops.getProperty (.script i) (.handle h) (.index index))) { w with recorders := x } with
      | mk r w' =>
        have howes := hread.owes hrun
        rcases r with u | _ | v
        · exact howes
        · cases acc.policy.missing <;> exact howes.congr fun a => by cases a <;> rfl
        · exact howes

/-- Elements of a script object that are read silently are read cleanly. -/
theorem eachElement_clean {ctx : Context} {acc : Accessor} {count next : Nat}
    (hhost : ctx.host = .script i) (hops : ReadsBy ops ops' i) (hs : w.Sound good)
    (hi : i < w.runtimes.size)
    (hsilent : Behaviour.EachElement (fun id w => silentRead i h id w = true) ops ctx acc
      (.handle h) count next w) :
    Behaviour.EachElement (Behaviour.CleanRead good i ops ctx acc (.handle h)) ops ctx acc
      (.handle h) count next w := by
  induction count generalizing next w with
  | zero => trivial
  | succ count ih =>
    have hclean := cleanRead_of_silent hhost acc hops hs hi hsilent.1
    refine ⟨hclean, ?_⟩
    have hrest := hsilent.2
    cases hrun : perform (acc.getIndexed ops ctx.host (.handle h) (Int32.ofNat next)) w with
    | mk r w' =>
      rw [hrun] at hrest
      have howes := Clean.owes hclean hrun
      rcases r with u | _ | v
      · trivial
      · trivial
      · exact ih howes.sound (howes.lt hi) hrest

/-- An array of the script's that is read silently is read cleanly. -/
theorem cleanArray_of_silent {ctx : Context} (hhost : ctx.host = .script i)
    (hops : ReadsBy ops ops' i) (hs : w.Sound good) (hi : i < w.runtimes.size)
    (hsilent : Behaviour.EachRead (fun id w => silentRead i h id w = true) ops ctx (.handle h) w) :
    Behaviour.CleanArray good i ops ctx (.handle h) w := by
  have hclean := cleanRead_of_silent hhost (w.accessor ctx) hops hs hi hsilent.1
  refine ⟨hclean, ?_⟩
  have hrest := hsilent.2
  cases hrun : perform ((w.accessor ctx).getNamed ops ctx.host (.handle h) (.ofString "length"))
    w with
  | mk r w' =>
    rw [hrun] at hrest
    have howes := Clean.owes hclean hrun
    cases r with
    | error u => trivial
    | ok length =>
      dsimp only at hrest ⊢
      cases hcount : Behaviour.elementCount? length with
      | none => trivial
      | some count =>
        rw [hcount] at hrest
        exact eachElement_clean hhost hops howes.sound (howes.lt hi) hrest

end ScriptHost

/-! ### Calls of scripts -/

/-- A runtime has its bytes back, and no proxy has more references than
before that the runtimes do not hold. -/
structure World.Returned (i : Nat) (w w' : World β) : Prop where
  allocated : (w'.runtime i).allocated = (w.runtime i).allocated
  proxies : ∀ p, w'.outside (.proxy p) ≤ w.outside (.proxy p)

/-- Everything is back when neither bytes nor references to proxies are
lost. -/
theorem World.returned_iff {lost : List Variant}
    (hbytes : (w'.runtime i).allocated = (w.runtime i).allocated + bytesIn lost)
    (hrefs : ∀ o, w'.outside o = w.outside o + refsIn lost o) :
    w.Returned i w' ↔ ∀ v ∈ lost, v.asBytes = [] ∧ ∀ p, v ≠ .object (.proxy p) := by
  constructor
  · intro h v hv
    have hnone : bytesIn lost = 0 := by
      have := h.allocated
      omega
    constructor
    · have hmem : v.asBytes.length ∈ lost.map fun v => v.asBytes.length := List.mem_map_of_mem hv
      exact List.length_eq_zero_iff.mp
        (Nat.le_zero.mp (hnone ▸ List.single_le_sum (fun _ _ => Nat.zero_le _) _ hmem))
    · rintro p rfl
      have hle := h.proxies p
      -- One reference that is lost is one too many.
      have hcount : 0 < refsIn lost (.proxy p) :=
        List.countP_pos_iff.mpr ⟨_, hv, by simp [Variant.object?]⟩
      have := hrefs (.proxy p)
      omega
  · intro h
    have hnone : bytesIn lost = 0 := by
      refine List.sum_eq_zero fun n hn => ?_
      obtain ⟨v, hv, rfl⟩ := List.mem_map.mp hn
      rw [(h v hv).1, List.length_nil]
    have hnorefs (p : Nat) : refsIn lost (.proxy p) = 0 := by
      refine List.countP_eq_zero.mpr fun v hv hobject => ?_
      cases v with
      | object o => exact (h _ hv).2 p (by simpa [Variant.object?] using hobject)
      | _ => simp [Variant.object?] at hobject
    refine ⟨by omega, fun p => ?_⟩
    have := hrefs (.proxy p)
    have := hnorefs p
    omega

namespace ScriptHost

open Script (Value)

variable [Native β] {ops : HostOps β} {p : Proxy} {name : Bytes} {args : List Value}
    {b : Behaviour} {code : β}

/-- The elements in hand when a call is unwound by a read. A call that is
not passed its arguments reads nothing. -/
def stranded (ops : HostOps β) (i : Nat) (p : Proxy) (name : Bytes) (b : Behaviour)
    (args : List Value) (w : World β) : List Variant :=
  match perform (toVariants i [] args) w with
  | (.ok (vs, true), w₁) => b.stranded ops p.context vs (p.started w₁ "Call" name)
  | _ => []

/-- What native code reads that is passed these arguments it reads
cleanly. -/
def CleanCall (good : Roles β) (ops : HostOps β) (i : Nat) (p : Proxy) (name : Bytes)
    (b : Behaviour) (args : List Value) (w : World β) : Prop :=
  match perform (toVariants i [] args) w with
  | (.ok (vs, true), w₁) =>
    Behaviour.CleanReads good i ops p.context b vs (p.started w₁ "Call" name)
  | _ => True

/-- A call of a member that reads an array owes what is stranded and
nothing else, whatever the reads come to. -/
theorem serveCall_stranded (hb : Behaviour.Reads b) (lift : Behaviour → β)
    (hcode : w.graph.method? p.node name = some code)
    (hlift : ∀ args, Native.call ops p.context code args = b.run lift ops p.context args)
    (hhost : p.context.host = .script i) (hs : w.Sound good) (hi : i < w.runtimes.size)
    (hpos : 0 ≤ (w.runtime i).allocated) (hclean : CleanCall good ops i p name b args w) :
    ∃ q w', perform (serveCall ops i p (.string name) args) w = (q, w') ∧
      (w'.runtime i).allocated =
      (w.runtime i).allocated + bytesIn (stranded ops i p name b args w) ∧
      (∀ o, w'.outside o = w.outside o + refsIn (stranded ops i p name b args w) o) ∧
      (w.Returned i w' ↔
        ∀ v ∈ stranded ops i p name b args w, v.asBytes = [] ∧ ∀ x, v ≠ .object (.proxy x)) := by
  have hstanding (a : Account) : 0 ≤ w.standing i a := by
    cases a with
    | refs o => exact hs.covered o
    | bytes => exact hpos
  -- One equation over all accounts, from which the bytes and the references are read off.
  have howes : ∃ q w', perform (serveCall ops i p (.string name) args) w = (q, w') ∧
      w.Owes good i (charges (stranded ops i p name b args w)) w' := by
    obtain ⟨vs, complete, w₁, hargs, _⟩ := perform_toVariants_owes hs hi [] args
    unfold stranded
    unfold CleanCall at hclean
    rw [hargs] at hclean ⊢
    cases complete with
    | false => exact perform_serveCall_refused hs hi hstanding (.string name) hargs
    | true =>
      have howes₁ := owes_arguments hs hi hargs
      have hstarted : w₁.Owes good i 0 (p.started w₁ "Call" name) :=
        Proxy.owes_started howes₁.sound p "Call" name
      have hstanding₁ (a : Account) : 0 ≤ (p.started w₁ "Call" name).standing i a := by
        have := hstanding a
        have := charges_nonneg vs a
        rw [hstarted.standing, howes₁.standing, Pi.zero_apply]
        omega
      obtain ⟨r, w₂, hrun, howes₂, hspoken⟩ := Behaviour.settled_run hb lift hhost hstarted.sound
        (hstarted.lt (howes₁.lt hi)) hstanding₁ hclean
      rw [← hlift] at hrun
      exact perform_serveCall_owes hs hi hstanding hcode hargs hrun hspoken howes₂
        (charges_nonneg _)
  obtain ⟨q, w', hrun, howes⟩ := howes
  have hbytes : (w'.runtime i).allocated =
      (w.runtime i).allocated + bytesIn (stranded ops i p name b args w) := by
    rw [← charges_bytes]
    exact howes.bytes
  have hrefs (o : ObjectRef) : w'.outside o =
      w.outside o + refsIn (stranded ops i p name b args w) o := by
    rw [← charges_refs]
    exact howes.leads.outside o
  exact ⟨q, w', hrun, hbytes, hrefs, World.returned_iff hbytes hrefs⟩

end ScriptHost

/-! ### A trap -/

/-- A script calls `sum` with an array of two elements, the text `abc` and
one whose getter throws. -/
def trapWorld : World Behaviour where
  proxies := #[{ refs := { refs := 1 }, context := { host := .script 0 }, node := 0 }]
  graph := { nodes := #[{ cls := some { methods := .ofList [(.ofString "sum", some .sum)] } }] }
  runtimes := #[{ adopted := [.proxy 0] }]
  heap := { objects := #[
    { fields := #[(.name "length", .plain (.number 2.0)), (.index 0, .plain (.ofString "abc")),
        (.index 1, { slot := .accessor (.object 1) .undefined })] },
    { kind := .function (.builtin .unavailable) }] }

/-- Native code of every kind. -/
def anyCode : Roles Behaviour := ⟨fun _ => True, fun _ => True⟩

/-- The books of the trap are sound. -/
theorem sound_trapWorld : trapWorld.Sound anyCode where
  contexts p x hx := by
    cases p with
    | zero =>
      cases hx
      exact ⟨0, by decide, rfl⟩
    | succ p => cases hx
  code n c hc := ⟨fun _ _ _ => trivial, fun _ _ _ _ _ => trivial, fun _ _ _ _ _ => trivial,
    fun _ _ => trivial⟩
  covered o := by
    match o with
    | .table 0 | .table (_ + 1) | .proxy 0 | .proxy (_ + 1) | .handle _ => exact Int.le_refl 0

/-- The text that was read before the getter threw is stranded: three bytes
stay given out. -/
theorem serveCall_stranded_text :
    ∃ q w', perform (ScriptHost.serveCall host 0 (trapWorld.proxy 0) (.string (.ofString "sum"))
      [.object 0])
        trapWorld = (q, w') ∧
      (w'.runtime 0).allocated = 3 := by
  have hargs : perform (ScriptHost.toVariants 0 [] [.object 0]) trapWorld =
      (.ok ([.object (.handle 0)], true),
      { trapWorld with handles := #[{ refs := { refs := 1 }, runtime := 0, object := 0 }] }) := rfl
  have hsound := (ScriptHost.owes_arguments sound_trapWorld (by decide) hargs).sound
  have hclean : ScriptHost.CleanCall anyCode host 0 (trapWorld.proxy 0) (.ofString "sum") .sum
      [.object 0] trapWorld := by
    unfold ScriptHost.CleanCall
    rw [hargs]
    refine ⟨fun arr harr => ?_, nofun⟩
    cases harr
    refine ScriptHost.cleanArray_of_silent rfl (ScriptHost.readsBy_hostOps 9999 0) ?_ (by decide)
      (by decide +kernel)
    exact (Proxy.owes_started (i := 0) hsound (trapWorld.proxy 0) "Call" (.ofString "sum")).sound
  obtain ⟨q, w', hrun, hbytes, _⟩ := ScriptHost.serveCall_stranded .sum id rfl (fun _ => rfl) rfl
    sound_trapWorld (by decide) (by decide) hclean
  have hlost : bytesIn (ScriptHost.stranded host 0 (trapWorld.proxy 0) (.ofString "sum") .sum
      [.object 0] trapWorld) = 3 := by
    decide +kernel
  refine ⟨q, w', hrun, ?_⟩
  rw [hbytes, hlost]
  rfl

/-- Adding it up does not return what was taken. -/
theorem not_returned_trapWorld :
    ¬ trapWorld.Returned 0 (perform (ScriptHost.serve host 0 (.call (.proxy 0) "sum" [.object 0]))
      trapWorld).2 := by
  intro h
  have hlost : ((perform (ScriptHost.serve host 0 (.call (.proxy 0) "sum" [.object 0]))
      trapWorld).2.runtime 0).allocated ≠ (trapWorld.runtime 0).allocated := by
    decide +kernel
  exact hlost h.allocated

end ObjectBridge

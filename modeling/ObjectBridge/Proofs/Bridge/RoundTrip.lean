import ObjectBridge.Proofs.Bridge.Silent
import ObjectBridge.Proofs.Decimal.Whole
import ObjectBridge.Proofs.Text.Utf8

/-!
# `ObjectBridge.Proofs.Bridge.RoundTrip`: what scripts hand back

Native code and scripts have different values: two widths of numbers on
one side and one on the other, bytes and text, references and objects. A
variant that goes to the scripts of a runtime and comes back unchanged by
them has been through both conversions, `toValue` and `toVariant`.

* A number comes back in the narrowest width (`Variant.ofNumber_of_fits`,
  `Variant.ofNumber_of_not_fits`), with its value; a string comes back with
  its bytes (`Text.toBytes_ofBytes`).
* A proxy is presented to scripts by an object that the runtime knows again
  (`presents_exposing`), so it comes back as itself.
* A script object comes back behind a new handle, unless it is the very
  object by which this runtime presents a native object. Another runtime
  does not know that object, and gives native code a handle on it.

The lemmas `roundTrip_string`, `roundTrip_double`, `roundTrip_int32`,
`roundTrip_proxy` and `roundTrip_handle` are the cases of what
`World.Returns` says: what comes back, and what is owed afterwards.
-/

set_option autoImplicit false

namespace ObjectBridge

variable {β : Type} {w w' : World β} {i : Nat}

/-! ### Numbers -/

/-- The double is a whole number of 32 bits, and not negative zero. -/
def Double.Fits (d : Double) (n : Int32) : Prop :=
  d.toInt? = some n.toInt ∧ d.isNegativeZero = false

/-- A double that fits an integer is that integer as a double. -/
theorem Double.Fits.ofInt {d : Float} {n : Int32} (h : (Double.ofFloat d).Fits n) :
    Float.ofInt n.toInt = d := by
  have := n.le_toInt
  have := n.toInt_lt
  exact (Double.eq_ofInt h.1 h.2 (by omega)).symm

/-- Every number of 32 bits fits. -/
theorem Double.fits_ofInt (n : Int32) : (Double.ofFloat (Float.ofInt n.toInt)).Fits n := by
  have := n.le_toInt
  have := n.toInt_lt
  exact ⟨Double.toInt?_ofInt (by omega), Double.isNegativeZero_ofInt (by omega)⟩

namespace Variant

/-- A number that fits becomes an integer. -/
theorem ofNumber_of_fits {d : Float} {n : Int32} (h : (Double.ofFloat d).Fits n) :
    ofNumber d = .int32 n := by
  have hlow := n.le_toInt
  have hhigh := n.toInt_lt
  have hrange : -2147483648 ≤ n.toInt ∧ n.toInt ≤ 2147483647 ∧ ¬(Double.ofFloat d).isNegativeZero :=
    ⟨hlow, by omega, by simp [h.2]⟩
  simp only [ofNumber, h.1]
  rw [if_pos hrange, Int32.ofInt_toInt]

/-- One that does not fit stays a double. -/
theorem ofNumber_of_not_fits {d : Float} (h : ∀ n, ¬(Double.ofFloat d).Fits n) :
    ofNumber d = .double d := by
  simp only [ofNumber]
  split
  case h_1 n hn =>
    split
    case isTrue hrange =>
      have hback : (Int32.ofInt n).toInt = n := Int32.toInt_ofInt_of_le hrange.1 (by omega)
      exact absurd ⟨hback.symm ▸ hn, by simpa using hrange.2.2⟩ (h (Int32.ofInt n))
    case isFalse => rfl
  case h_2 => rfl

end Variant

/-! ### Text -/

/-- Scripts hand back the bytes of a text they have not looked at. -/
theorem Script.Text.toBytes_ofBytes (bytes : Bytes) : (Text.ofBytes bytes).toBytes = bytes := by
  unfold ofBytes Bytes.toString?
  cases hdecode : Utf8.decode bytes with
  | ok cs =>
    rw [Utf8.decode_eq_ok_iff.mp hdecode]
    exact congrArg Utf8.encode String.toList_ofList
  | error e => rfl

namespace World

/-! ### Objects -/

/-- The script object behind a handle. -/
def scriptObject (w : World β) (h : Nat) : Script.ObjId := (w.handles.getD h default).object

/-- Objects are what they were, apart from how often they are held. -/
structure SameObjects (w w' : World β) : Prop where
  tables : ∀ k, (w'.table k).contents = (w.table k).contents
  proxies : ∀ p, ((w'.proxy p).context, (w'.proxy p).node) = ((w.proxy p).context, (w.proxy p).node)
  handles : ∀ h, w.has (.handle h) → w'.has (.handle h) ∧ w'.scriptObject h = w.scriptObject h

/-- A world has the same objects as itself. -/
theorem SameObjects.refl (w : World β) : w.SameObjects w :=
  ⟨fun _ => rfl, fun _ => rfl, fun _ h => ⟨h, rfl⟩⟩

/-- What has been the same twice is the same. -/
theorem SameObjects.trans {w'' : World β} (h : w.SameObjects w') (h' : w'.SameObjects w'') :
    w.SameObjects w'' where
  tables k := (h'.tables k).trans (h.tables k)
  proxies p := (h'.proxies p).trans (h.proxies p)
  handles k hk :=
    have hk' := h.handles k hk
    have hk'' := h'.handles k hk'.1
    ⟨hk''.1, hk''.2.trans hk'.2⟩

/-- What a change of an element keeps, it keeps of every element. -/
theorem getD_modify_of_forall {α γ : Type} (xs : Array α) (k j : Nat) (d : α)
    {f : α → α} {g : α → γ} (h : ∀ x, g (f x) = g x) :
    g ((xs.modify k f).getD j d) = g (xs.getD j d) := by
  rw [Array.getD_eq_getD_getElem?, Array.getD_eq_getD_getElem?, Array.getElem?_modify]
  split
  · cases xs[j]? with
    | none => rfl
    | some x => exact h x
  · rfl

/-- Counting changes no object. -/
theorem sameObjects_recount (w : World β) (ref : ObjectRef) (d : Int) :
    w.SameObjects (w.recount ref d) := by
  cases ref with
  | table k =>
    exact ⟨fun j => getD_modify_of_forall _ k j _ fun _ => rfl, fun _ => rfl, fun _ h => ⟨h, rfl⟩⟩
  | proxy k =>
    have hproxy (j : Nat) := getD_modify_of_forall w.proxies k j default
      (g := fun p => (p.context, p.node))
      (f := fun p => { p with refs := { refs := p.refs.refs + d } }) fun _ => rfl
    exact ⟨fun _ => rfl, hproxy, fun _ h => ⟨h, rfl⟩⟩
  | handle k =>
    refine ⟨fun _ => rfl, fun _ => rfl, fun j hj =>
      ⟨?_, getD_modify_of_forall _ k j _ fun _ => rfl⟩⟩
    simpa [recount, has] using hj

/-- The runtime is open, and presents the native object to its scripts by
the script object. -/
structure Presents (w : World β) (i : Nat) (o : Script.ObjId) (ref : ObjectRef) : Prop where
  isOpen : (w.runtime i).isOpen = true
  kind : (w.heap.obj o).kind = .native (w.runtime i).realm.number ref
  has : w.has ref = true

/-- The world after a runtime has presented a native object to its scripts:
one reference more, which the runtime has adopted. -/
def exposing (w : World β) (i : Nat) (ref : ObjectRef) : World β :=
  { w.recount ref 1 with
    runtimes := w.runtimes.modify i fun r => { r with adopted := ref :: r.adopted }
    heap := (w.heap.newNative (w.runtime i).realm ref).1 }

/-- The world after native code got a handle on a script object. -/
def handling (w : World β) (i : Nat) (o : Script.ObjId) : World β :=
  { w with handles := w.handles.push { refs := { refs := 1 }, runtime := i, object := o } }

/-- Exposing an object takes one reference to it. -/
theorem refs_exposing {ref : ObjectRef} (h : w.has ref) (x : ObjectRef) :
    (w.exposing i ref).refs x = w.refs x + one ref x := by
  have hrefs : (w.exposing i ref).refs x = (w.recount ref 1).refs x := by cases x <;> rfl
  rw [hrefs, refs_recount h]
  rfl

/-- It makes no new object of the host's. -/
theorem has_exposing (ref x : ObjectRef) : (w.exposing i ref).has x = w.has x := by
  cases ref <;> cases x <;> first | rfl | simp [exposing, recount, has]

/-- The runtime it is exposed to adopts it. -/
theorem runtime_exposing (hi : i < w.runtimes.size) (ref : ObjectRef) (j : Nat) :
    (w.exposing i ref).runtime j =
      if j = i then { w.runtime i with adopted := ref :: (w.runtime i).adopted }
      else w.runtime j := by
  have hmodify := w.runtime_modify i j fun r => { r with adopted := ref :: r.adopted }
  refine Eq.trans hmodify ?_
  by_cases hj : j = i
  · subst hj
    rw [if_pos ⟨rfl, hi⟩, if_pos rfl]
  · rw [if_neg fun h => hj h.1.symm, if_neg hj]

/-- A runtime knows the object again by which it presents a native object. -/
theorem presents_exposing {ref : ObjectRef} (hi : i < w.runtimes.size)
    (hopen : (w.runtime i).isOpen = true) (h : w.has ref) :
    (w.exposing i ref).Presents i w.heap.objects.size ref where
  isOpen := by rw [runtime_exposing hi, if_pos rfl]; exact hopen
  kind := by
    rw [runtime_exposing hi, if_pos rfl]
    show ((w.heap.objects.push _).getD w.heap.objects.size {}).kind = _
    rw [Array.getD_eq_getD_getElem?, Array.getElem?_push_size]
    rfl
  has := by rw [has_exposing]; exact h

/-- The objects stay the same. -/
theorem sameObjects_exposing (w : World β) (i : Nat) (ref : ObjectRef) :
    w.SameObjects (w.exposing i ref) :=
  have h := w.sameObjects_recount ref 1
  ⟨h.tables, h.proxies, h.handles⟩

/-- So they do when a script's object is given out. -/
theorem sameObjects_handling (w : World β) (i : Nat) (o : Script.ObjId) :
    w.SameObjects (w.handling i o) := by
  refine ⟨fun _ => rfl, fun _ => rfl, fun h hh => ?_⟩
  have hlt : h < w.handles.size := of_decide_eq_true hh
  constructor
  · exact decide_eq_true (by simp [handling, Nat.lt_succ_of_lt hlt])
  · simp [handling, scriptObject, Array.getElem?_push, hlt.ne]

/-- The handle it is given out with has one reference. -/
theorem refs_handling (o : Script.ObjId) (x : ObjectRef) :
    (w.handling i o).refs x = w.refs x + one (.handle w.handles.size) x := w.refs_pushHandle _ x

/-- The handle is for that object. -/
theorem scriptObject_handling (o : Script.ObjId) :
    (w.handling i o).scriptObject w.handles.size = o := by
  simp [handling, scriptObject]

end World

namespace ScriptHost

open Script (Value)

variable {o : Script.ObjId} {ref : ObjectRef}

/-! ### The two conversions -/

/-- An object that presents another one is unwrapped to it. -/
theorem perform_unwrap?_of_presents (h : w.Presents i o ref) :
    perform (unwrap? i o) w = (.ok (some ref), w) := by
  unfold unwrap?
  rw [perform_bind_ok (perform_get w)]
  dsimp only
  rw [h.kind]
  dsimp only
  rw [if_pos (by simp [h.isOpen, h.has])]
  rfl

/-- One that presents nothing is not unwrapped. -/
theorem perform_unwrap?_of_not_presents (h : ∀ ref, ¬w.Presents i o ref) :
    perform (unwrap? i o) w = (.ok none, w) := by
  unfold unwrap?
  rw [perform_bind_ok (perform_get w)]
  dsimp only
  split
  case h_1 realm ref hkind =>
    split
    case isTrue hknown =>
      simp only [Bool.and_eq_true, decide_eq_true_eq] at hknown
      exact absurd ⟨hknown.1.1, hknown.1.2 ▸ hkind, hknown.2⟩ (h ref)
    case isFalse => rfl
  case h_2 => rfl

/-- The object of a native object becomes that native object, held once
more. -/
theorem perform_toVariant_of_presents (h : w.Presents i o ref) :
    perform (toVariant i (.object o)) w = (.ok (some (.object ref)), w.recount ref 1) := by
  unfold toVariant
  dsimp only
  rw [perform_bind_ok (perform_unwrap?_of_presents h)]
  cases ref <;> rfl

/-- Any other object becomes a handle of its own. -/
theorem perform_toVariant_of_not_presents (h : ∀ ref, ¬w.Presents i o ref) :
    perform (toVariant i (.object o)) w =
      (.ok (some (.object (.handle w.handles.size))), w.handling i o) := by
  unfold toVariant
  dsimp only
  rw [perform_bind_ok (perform_unwrap?_of_not_presents h)]
  rfl

/-- An open runtime exposes an object by a new one of its own. -/
theorem perform_exposeObject_of_isOpen (hi : i < w.runtimes.size)
    (hopen : (w.runtime i).isOpen = true) (ref : ObjectRef) :
    perform (exposeObject i ref) w = (.ok (.object w.heap.objects.size), w.exposing i ref) := by
  have hretain : perform (retain ref) w = (.ok (), w.recount ref 1) := by cases ref <;> rfl
  have hruntimes : (w.recount ref 1).runtimes = w.runtimes := by cases ref <;> rfl
  have hheap : (w.recount ref 1).heap = w.heap := by cases ref <;> rfl
  have hadopted : World.runtime { w.recount ref 1 with
      runtimes := w.runtimes.modify i fun r => { r with adopted := ref :: r.adopted } } i =
        { w.runtime i with adopted := ref :: (w.runtime i).adopted } :=
    (w.runtime_modify i i _).trans (if_pos ⟨rfl, hi⟩)
  unfold exposeObject
  rw [perform_bind_ok hretain, modifyRuntime, perform_bind_ok (perform_modify _ _),
    perform_bind_ok (perform_get _)]
  dsimp only
  rw [hruntimes, hadopted, if_pos hopen, perform_bind_ok (perform_withHeap_eq _ _)]
  dsimp only
  rw [hheap]
  rfl

/-- A string that fits the budget is copied into bytes of the runtime. -/
theorem perform_textVariant?_of_withinBudget {t : Script.Text}
    (h : withinBudget (w.runtime i).config.maxAlloc (w.runtime i).allocated t.toBytes.length =
      true) :
    perform (textVariant? i t) w = (.ok (some (.string t.toBytes)), { w with
      runtimes := w.runtimes.modify i fun r =>
  { r with allocated := r.allocated + t.toBytes.length } }) := by
  have hgiven : perform (memAlloc (.script i) t.toBytes.length) w = (.ok true, { w with
      runtimes := w.runtimes.modify i fun r =>
        { r with allocated := r.allocated + t.toBytes.length } }) := by
    unfold memAlloc
    rw [perform_bind_ok (perform_get w)]
    dsimp only
    rw [h, if_neg (by simp)]
    rfl
  unfold textVariant?
  dsimp only
  rw [perform_bind_ok hgiven]
  rfl

end ScriptHost

/-! ### There and back -/

/-- What a runtime adopts when the variant becomes a value. -/
def Variant.exposed : Variant → List ObjectRef
  | .object (.proxy p) => [.proxy p]
  | _ => []

namespace World

/-- Can the scripts of a runtime hand the variant back? A string has to fit
what is left of the budget. An object is one that is there, and none of the
in-memory host's; only an open runtime can present a proxy. -/
def Crosses (w : World β) (i : Nat) : Variant → Prop
  | .string bytes => withinBudget (w.runtime i).config.maxAlloc (w.runtime i).allocated
    bytes.length = true
  | .object (.proxy p) => w.has (.proxy p) = true ∧ (w.runtime i).isOpen = true
  | .object (.handle h) => w.has (.handle h) = true
  | .object (.table _) => False
  | _ => True

/-- What a variant comes back as, from scripts that left the world as
`w'`. -/
inductive Restores (w : World β) (i : Nat) (w' : World β) : Variant → Variant → Prop
  /-- Most values come back as they were. -/
  | same (v : Variant) (hnumber : v.kind ≠ .double) (hobject : ∀ h, v ≠ .object (.handle h)) :
  Restores w i w' v v
  /-- A double that is a whole number of 32 bits comes back as that number. -/
  | narrowed (d : Float) (n : Int32) (hfits : (Double.ofFloat d).Fits n)
    (hvalue : Float.ofInt n.toInt = d) :
    Restores w i w' (.double d) (.int32 n)
  | wide (d : Float) (hfits : ∀ n, ¬(Double.ofFloat d).Fits n) :
    Restores w i w' (.double d) (.double d)
  /-- A script object comes back behind a new handle. -/
  | wrapped (h k : Nat) (hunknown : ∀ ref, ¬w.Presents i (w.scriptObject h) ref)
    (hnew : w.has (.handle k) = false) (hobject : w'.scriptObject k = w.scriptObject h) :
    Restores w i w' (.object (.handle h)) (.object (.handle k))
  /-- The object by which the runtime presents a native object comes back
  as that native object. -/
  | unwrapped (h : Nat) (ref : ObjectRef) (hknown : w.Presents i (w.scriptObject h) ref) :
    Restores w i w' (.object (.handle h)) (.object ref)

/-- A variant has come back, and this is all that is owed for it: a
reference to the object that came back, a reference that the runtime has
adopted, and the bytes of a string. -/
structure Returns (w : World β) (i : Nat) (v v' : Variant) (w' : World β) : Prop where
  restores : w.Restores i w' v v'
  refs : ∀ o, w'.refs o = w.refs o + holds v' o + v.exposed.count o
  runtime : w'.runtime i = { w.runtime i with
    adopted := v.exposed ++ (w.runtime i).adopted
    allocated := (w.runtime i).allocated + v.asBytes.length }
  runtimes : ∀ j, j ≠ i → w'.runtime j = w.runtime j
  objects : w.SameObjects w'
  others : w' = { w with
    tables := w'.tables, proxies := w'.proxies, handles := w'.handles, heap := w'.heap, runtimes :=
      w'.runtimes }

/-- Most values own nothing. -/
theorem Returns.of_plain {v v' : Variant} (hr : w.Restores i w v v') (hholds : holds v' = 0)
    (hexposed : v.exposed = []) (hbytes : v.asBytes = []) : w.Returns i v v' w where
  restores := hr
  refs o := by simp [hholds, hexposed]
  runtime := by simp [hexposed, hbytes]
  runtimes _ _ := rfl
  objects := .refl w
  others := rfl

/-- Counting references leaves the runtimes. -/
theorem runtime_recount (ref : ObjectRef) (d : Int) (j : Nat) :
    (w.recount ref d).runtime j = w.runtime j := by
  cases ref <;> rfl

end World

namespace ScriptHost

variable {v : Variant}

/-- A variant goes to the scripts of a runtime and comes back. -/
def roundTrip (i : Nat) (v : Variant) : M β (Option Variant) := do toVariant i (← toValue i v)

/-- What went in is taken out of the script's value. -/
theorem perform_roundTrip {x : Script.Value} {w₁ : World β}
    (h : perform (toValue i v) w = (.ok x, w₁)) :
    perform (roundTrip i v) w = perform (toVariant i x) w₁ := perform_bind_ok h _

/-- A string comes back, and belongs to whoever asked. -/
theorem roundTrip_string {bytes : Bytes} (hi : i < w.runtimes.size)
    (h : w.Crosses i (.string bytes)) :
    ∃ w', perform (roundTrip i (.string bytes)) w = (.ok (some (.string bytes)), w') ∧
      w.Returns i (.string bytes) (.string bytes) w' := by
  have hthere : perform (toValue i (.string bytes)) w = (.ok (.string (.ofBytes bytes)), w) := rfl
  have hback := perform_textVariant?_of_withinBudget (w := w) (i := i) (t := .ofBytes bytes)
  rw [Script.Text.toBytes_ofBytes] at hback
  have hruntime (j : Nat) := w.runtime_modify i j fun r =>
    { r with allocated := r.allocated + bytes.length }
  refine ⟨_, (perform_roundTrip hthere).trans (hback h), .same _ nofun nofun, fun o => ?_, ?_,
    fun j hj => ?_, ⟨fun _ => rfl, fun _ => rfl, fun _ h => ⟨h, rfl⟩⟩, rfl⟩
  · rw [World.refs_modifyRuntime]
    show _ = _ + 0 + 0
    omega
  · exact (hruntime i).trans (if_pos ⟨rfl, hi⟩)
  · exact (hruntime j).trans (if_neg fun h => hj h.1.symm)

/-- A double comes back as the number it is. -/
theorem roundTrip_double (d : Float) (w : World β) :
    ∃ v', perform (roundTrip i (.double d)) w = (.ok (some v'), w) ∧
      w.Returns i (.double d) v' w := by
  by_cases h : ∃ n, (Double.ofFloat d).Fits n
  · obtain ⟨n, hn⟩ := h
    refine ⟨.int32 n, ?_, .of_plain (.narrowed d n hn hn.ofInt) rfl rfl rfl⟩
    show (Except.ok (some (Variant.ofNumber d)), w) = _
    rw [Variant.ofNumber_of_fits hn]
  · have hn := not_exists.mp h
    refine ⟨.double d, ?_, .of_plain (.wide d hn) rfl rfl rfl⟩
    show (Except.ok (some (Variant.ofNumber d)), w) = _
    rw [Variant.ofNumber_of_not_fits hn]

/-- An integer comes back. -/
theorem roundTrip_int32 (n : Int32) (w : World β) :
    perform (roundTrip i (.int32 n)) w = (.ok (some (.int32 n)), w) := by
  show (Except.ok (some (Variant.ofNumber (Float.ofInt n.toInt))), w) = _
  rw [Variant.ofNumber_of_fits (Double.fits_ofInt n)]

/-- A proxy comes back as itself. -/
theorem roundTrip_proxy {p : Nat} (hi : i < w.runtimes.size)
    (h : w.Crosses i (.object (.proxy p))) :
    ∃ w', perform (roundTrip i (.object (.proxy p))) w = (.ok (some (.object (.proxy p))), w') ∧
      w.Returns i (.object (.proxy p)) (.object (.proxy p)) w' := by
  obtain ⟨hhas, hopen⟩ := h
  have hthere : perform (toValue i (.object (.proxy p))) w =
      (.ok (.object w.heap.objects.size), w.exposing i (.proxy p)) :=
        perform_exposeObject_of_isOpen hi hopen _
  have hknown := World.presents_exposing hi hopen hhas
  have hruntime := World.runtime_exposing hi (.proxy p)
  refine ⟨_, (perform_roundTrip hthere).trans (perform_toVariant_of_presents hknown),
    .same _ nofun nofun, fun o => ?_, ?_, fun j hj => ?_,
    (w.sameObjects_exposing i _).trans (World.sameObjects_recount _ _ 1), rfl⟩
  · rw [World.refs_recount hknown.has, World.refs_exposing hhas]
    show _ + one (.proxy p) o + one (.proxy p) o =
        _ + one (.proxy p) o + ([ObjectRef.proxy p].count o : Int)
    rw [List.count_singleton, one]
    by_cases ho : o = .proxy p
    · simp [ho]
    · simp [ho, Ne.symm ho]
  · rw [World.runtime_recount, hruntime, if_pos rfl]
    simp [Variant.exposed, Variant.asBytes, Variant.bytes?]
  · rw [World.runtime_recount, hruntime, if_neg hj]

/-- A handle comes back as one for the same object. -/
theorem roundTrip_handle (h : Nat) (w : World β) :
    ∃ v' w', perform (roundTrip i (.object (.handle h))) w = (.ok (some v'), w') ∧
      w.Returns i (.object (.handle h)) v' w' := by
  have hthere : perform (toValue i (.object (.handle h))) w =
      (.ok (.object (w.scriptObject h)), w) := rfl
  -- The object of the script presents an object of a host, or it gets a handle of its own.
  by_cases hknown : ∃ ref, w.Presents i (w.scriptObject h) ref
  · obtain ⟨ref, hknown⟩ := hknown
    refine ⟨_, _, (perform_roundTrip hthere).trans (perform_toVariant_of_presents hknown),
      .unwrapped h ref hknown, fun o => ?_, ?_, fun j _ => World.runtime_recount ref 1 j,
      w.sameObjects_recount ref 1, ?_⟩
    · rw [World.refs_recount hknown.has]
      exact (Int.add_zero _).symm
    · rw [World.runtime_recount]
      simp [Variant.exposed, Variant.asBytes, Variant.bytes?]
    · cases ref <;> rfl
  · have hunknown := not_exists.mp hknown
    refine ⟨_, _, (perform_roundTrip hthere).trans (perform_toVariant_of_not_presents hunknown),
      .wrapped h _ hunknown ?_ (World.scriptObject_handling _), fun o => ?_, ?_, fun j _ => rfl,
      w.sameObjects_handling i _, rfl⟩
    · exact decide_eq_false (Nat.lt_irrefl _)
    · rw [World.refs_handling]
      exact (Int.add_zero _).symm
    · show w.runtime i = _
      simp [Variant.exposed, Variant.asBytes, Variant.bytes?]

/-- What goes to the scripts of a runtime comes back, and nothing else is
owed for it. -/
theorem roundTrip_returns (hi : i < w.runtimes.size) (h : w.Crosses i v) :
    ∃ v' w', perform (roundTrip i v) w = (.ok (some v'), w') ∧ w.Returns i v v' w' := by
  cases v with
  | void => exact ⟨_, w, rfl, .of_plain (.same _ nofun nofun) rfl rfl rfl⟩
  | null => exact ⟨_, w, rfl, .of_plain (.same _ nofun nofun) rfl rfl rfl⟩
  | bool b => exact ⟨_, w, rfl, .of_plain (.same _ nofun nofun) rfl rfl rfl⟩
  | int32 n => exact ⟨_, w, roundTrip_int32 n w, .of_plain (.same _ nofun nofun) rfl rfl rfl⟩
  | double d =>
    obtain ⟨v', hback, hreturns⟩ := roundTrip_double d w
    exact ⟨v', w, hback, hreturns⟩
  | string bytes => exact ⟨_, roundTrip_string hi h⟩
  | object o =>
    cases o with
    | handle k => exact roundTrip_handle k w
    | proxy p => exact ⟨_, roundTrip_proxy hi h⟩
    | table k => exact h.elim

/-! ### Across runtimes -/

/-- Two open runtimes, and a proxy that native code holds. -/
def neighbours : World Unit where
  runtimes := #[{ realm := { number := 0 } }, { realm := { number := 1 } }]
  realms := 2
  proxies := #[{ refs := { refs := 1 }, context := { host := .script 0 }, node := 0 }]

/-- The proxy comes back where two runtimes are neighbours. -/
theorem roundTrip_returns_neighbours :
    0 < neighbours.runtimes.size ∧ neighbours.Crosses 0 (.object (.proxy 0)) ∧
      ∃ v' w', perform (roundTrip 0 (.object (.proxy 0))) neighbours = (.ok (some v'), w') ∧
        neighbours.Returns 0 (.object (.proxy 0)) v' w' :=
  ⟨by decide, ⟨rfl, rfl⟩, roundTrip_returns (by decide) ⟨rfl, rfl⟩⟩

/-- The first runtime presents the proxy to its scripts, and the object it
does so by finds its way to native code through the second. -/
def relay : M Unit (Option Variant) := do toVariant 1 (← toValue 0 (.object (.proxy 0)))

/-- The second runtime gives out a handle on the object. The first does not
hand it back behind a handle: it knows the object, and hands back the
proxy. A runtime that is closed hands back nothing when it is given a
proxy. -/
theorem roundTrip_relayed :
    (∃ w, perform relay neighbours = (.ok (some (.object (.handle 0))), w) ∧
      w.Crosses 0 (.object (.handle 0)) ∧
      ∀ k w', perform (roundTrip 0 (.object (.handle 0))) w ≠
      (.ok (some (.object (.handle k))), w')) ∧
    ∀ v' w', perform (roundTrip 0 (.object (.proxy 0)))
      { neighbours with runtimes := #[{ isOpen := false }] } ≠ (.ok v', w') := by
  have hback (w : World Unit) (h : perform relay neighbours =
      (.ok (some (.object (.handle 0))), w)) :
      ∃ w', perform (roundTrip 0 (.object (.handle 0))) w =
        (.ok (some (.object (.proxy 0))), w') := by
    cases h
    exact ⟨_, rfl⟩
  refine ⟨⟨_, rfl, rfl, fun k w' hrun => ?_⟩, fun v' w' hrun => ?_⟩
  · obtain ⟨w'', hproxy⟩ := hback _ rfl
    cases hproxy.symm.trans hrun
  · cases hrun

end ScriptHost

end ObjectBridge

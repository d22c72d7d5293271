import ObjectBridge.Proofs.Bridge.Contract
import ObjectBridge.Proofs.Bridge.Leaves

/-!
# `ObjectBridge.Proofs.Bridge.Request`: what a proxy does with a request

A host makes seven kinds of requests of a proxy. Each is written out in
`Bridge.Proxy`, and all of them do the same: the name is checked, the node
is asked, and a failure is reported. `Request.ask` is the part that comes
before anything is reported, and `perform_serve` says that every request is
asked, settled, and timed around both.

`ask_error_iff` lists why a request fails: its name has the wrong kind, the
operation of the node fails, or there are no bytes for a name.
-/

set_option autoImplicit false

namespace ObjectBridge.Proxy

variable {β : Type}

/-! ### Requests -/

/-- What a host can ask of a proxy. -/
inductive Request
  | hasMethod (name : Variant)
  | hasProperty (name : Variant)
  | getProperty (name : Variant)
  | propertyNames
  | setProperty (name v : Variant)
  | call (method : Variant) (args : List Variant)
  | construct (args : List Variant)

/-- What a host gets. -/
inductive Reply
  | truth (b : Bool)
  | value (v : Variant)
  | names (names : Option (List Variant))
  | stored

namespace Request

/-- What a host gets when a request fails. -/
def blank : Request → Reply
  | .hasMethod _ | .hasProperty _ => .truth false
  | .propertyNames => .names none
  | .setProperty _ _ => .stored
  | .getProperty _ | .call _ _ | .construct _ => .value .void

/-- The name has the wrong kind. A call without a name is a request to
construct, and no mistake. -/
def Misnamed : Request → Prop
  | .hasMethod name | .hasProperty name | .getProperty name | .setProperty name _ => ∀ n,
    name ≠ .string n
  | .call method _ => method ≠ .void ∧ ∀ n, method ≠ .string n
  | .propertyNames | .construct _ => False

/-- The operation and the name a request is timed under. One with a name
of the wrong kind is not timed. -/
def scope? : Request → Option (String × Bytes)
  | .hasMethod (.string n) => some ("HasMethod", n)
  | .hasProperty (.string n) => some ("HasProperty", n)
  | .getProperty (.string n) => some ("GetProperty", n)
  | .propertyNames => some ("PropertyNames", [])
  | .setProperty (.string n) _ => some ("SetProperty", n)
  | .call .void _ | .construct _ => some ("Construct", [])
  | .call (.string n) _ => some ("Call", n)
  | _ => none

variable [Native β]

/-- Makes a request of a proxy. -/
def serve (ops : HostOps β) (p : Proxy) (slot : Slot) : Request → M β (Reply × Slot)
  | .hasMethod name => return Prod.map .truth id (← p.hasMethod name slot)
  | .hasProperty name => return Prod.map .truth id (← p.hasProperty name slot)
  | .getProperty name => return Prod.map .value id (← p.getProperty ops name slot)
  | .propertyNames => return Prod.map .names id (← p.propertyNames slot)
  | .setProperty name v => return (.stored, ← p.setProperty ops name v slot)
  | .call method args => return Prod.map .value id (← p.call ops method args slot)
  | .construct args => return Prod.map .value id (← p.construct ops args slot)

/-- What becomes of a request before anything is reported: the name has
the wrong kind, or the node answers. -/
def ask (ops : HostOps β) (p : Proxy) : Request → M β (Except Failure Reply)
  | .hasMethod (.string n) => return .ok (.truth ((← get).graph.hasMethod p.node n))
  | .hasProperty (.string n) => return .ok (.truth ((← get).graph.hasProperty p.node n))
  | .getProperty (.string n) => return (← Node.getProperty ops p.context p.node n).map .value
  | .propertyNames =>
    return (← nameVariants p.context.host [] ((← get).graph.memberNames p.node)).map (.names ∘ some)
  | .setProperty (.string n) v => return (← Node.setProperty ops p.context p.node n v).map fun _ =>
    .stored
  | .call .void args | .construct args =>
    return (← Node.construct ops p.context p.node args).map .value
  | .call (.string n) args => return (← Node.call ops p.context p.node n args).map .value
  | .hasMethod _ | .call _ _ => return .error .methodNameNotString
  | .hasProperty _ | .getProperty _ | .setProperty _ _ => return .error .propertyNameNotString

/-- Turns what became of a request into what the host gets. -/
def settle (p : Proxy) (slot : Slot) (r : Request) : Except Failure Reply → M β (Reply × Slot)
  | .ok reply => return (reply, slot)
  | .error f => return (r.blank, ← p.fail slot f)

end Request

/-! ### Timing -/

/-- The recorder of a proxy's instance. -/
def recorder (p : Proxy) (w : World β) : Option Nat := (w.instanceOf? p.context).bind (·.recorder)

/-- What a proxy's requests are timed under. -/
def timerKey (p : Proxy) (w : World β) (operation : String) (name : Bytes) : Bytes :=
  className w.graph p.node ++ .ofString ("::" ++ operation ++ "(") ++ name ++ .ofString ")"

/-- The world with a timer running. -/
def started (p : Proxy) (w : World β) (operation : String) (name : Bytes) : World β :=
  (perform (startTimer (p.recorder w) (p.timerKey w operation name)) w).2

/-- The world `answered` with a timer stopped that was started in the world
`w`. -/
def stopped (p : Proxy) (w : World β) (operation : String) (name : Bytes)
    (answered : World β) : World β :=
  (perform (stopTimer (p.recorder w) (p.timerKey w operation name)) answered).2

/-- The world in which a request is answered. -/
def Request.entered (r : Request) (p : Proxy) (w : World β) : World β :=
  match r.scope? with
  | some (operation, name) => p.started w operation name
  | none => w

/-- The world that is left when a request made in the world `w` is
answered. -/
def Request.left (r : Request) (p : Proxy) (w answered : World β) : World β :=
  match r.scope? with
  | some (operation, name) => p.stopped w operation name answered
  | none => answered

/-- Starting a measured operation leaves the books. -/
theorem alike_started (p : Proxy) (w : World β) (operation : String) (name : Bytes) :
    w.Alike (p.started w operation name) := by
  obtain ⟨_, w', hrun, halike⟩ := quietly_startTimer (p.recorder w) (p.timerKey w operation name) w
  rwa [started, hrun]

/-- So does stopping it. -/
theorem alike_stopped (p : Proxy) (w : World β) (operation : String) (name : Bytes)
    (answered : World β) :
    answered.Alike (p.stopped w operation name answered) := by
  obtain ⟨_, w', hrun, halike⟩ :=
    quietly_stopTimer (p.recorder w) (p.timerKey w operation name) answered
  rwa [stopped, hrun]

/-- Entering a request leaves the books, -/
theorem Request.alike_entered (r : Request) (p : Proxy) (w : World β) :
    w.Alike (r.entered p w) := by
  unfold entered
  split
  · exact p.alike_started w _ _
  · exact .refl w

/-- and so does leaving it. -/
theorem Request.alike_left (r : Request) (p : Proxy) (w answered : World β) :
    answered.Alike (r.left p w answered) := by
  unfold left
  split
  · exact p.alike_stopped w _ _ answered
  · exact .refl answered

section

variable {γ : Type} {view : World β → γ} [Public view]

/-- What is not about measuring stays the same on entering, -/
theorem Request.view_entered (r : Request) (p : Proxy) (w : World β) :
    view (r.entered p w) = view w := by
  unfold entered
  split
  · exact Public.withRecorder _ _ w
  · rfl

/-- and on leaving. -/
theorem Request.view_left (r : Request) (p : Proxy) (w answered : World β) :
    view (r.left p w answered) = view answered := by
  unfold left
  split
  · exact Public.withRecorder _ _ answered
  · rfl

end

/-- An operation that is timed runs while its timer is running. -/
theorem perform_measured_eq {α : Type} (p : Proxy) (operation : String) (name : Bytes) (act : M β α)
    (w : World β) :
    perform (p.measured operation name act) w =
      ((perform act (p.started w operation name)).1,
        p.stopped w operation name (perform act (p.started w operation name)).2) := by
  unfold measured
  rw [perform_bind_ok (perform_get w)]
  show perform (startTimer (p.recorder w) (p.timerKey w operation name) >>= fun _ =>
    cleanly act (stopTimer (p.recorder w) (p.timerKey w operation name))) w = _
  rw [startTimer, perform_bind_ok (perform_withRecorder _ _ w), perform_cleanly, stopTimer,
    perform_withRecorder]
  rfl

/-- Where nothing is timed it just runs. -/
theorem perform_measured_unprofiled {α : Type} {p : Proxy} {w : World β} {operation : String}
    {name : Bytes} {act : M β α} (hnone : p.recorder w = none) :
    perform (p.measured operation name act) w = perform act w := by
  rw [perform_measured_eq]
  unfold started stopped
  rw [hnone]
  rfl

namespace Request

variable [Native β]

/-- A request is asked and settled while its timer, if it has one, is
running. -/
def settled (ops : HostOps β) (p : Proxy) (slot : Slot) (r : Request) (w : World β) :
    Except Unwind (Reply × Slot) × World β :=
  perform (r.ask ops p >>= r.settle p slot) (r.entered p w)

/-- A measured request is entered, asked, settled and left. -/
theorem perform_serve_timed {α : Type} {ops : HostOps β} {p : Proxy} {slot : Slot} {r : Request}
    {operation : String} {name : Bytes} {act : M β α} {f : α → Reply × Slot}
    (hscope : r.scope? = some (operation, name))
    (hserve : r.serve ops p slot = do return f (← p.measured operation name act))
    (hsettle : (do return f (← act)) = r.ask ops p >>= r.settle p slot) (w : World β) :
    perform (r.serve ops p slot) w =
      ((r.settled ops p slot w).1, r.left p w (r.settled ops p slot w).2) := by
  have hentered : r.entered p w = p.started w operation name := by rw [entered, hscope]
  have hleft (answered : World β) : r.left p w answered = p.stopped w operation name answered := by
    rw [left, hscope]
  rw [hserve, settled, ← hsettle, hentered, hleft, perform_bind, perform_measured_eq, perform_bind]
  cases hact : perform act (p.started w operation name) with
  | mk answered w' => cases answered <;> rfl

/-- Any other request is asked and settled. -/
theorem perform_serve_untimed {ops : HostOps β} {p : Proxy} {slot : Slot} {r : Request}
    (hscope : r.scope? = none) (hserve : r.serve ops p slot = r.ask ops p >>= r.settle p slot)
    (w : World β) :
    perform (r.serve ops p slot) w =
      ((r.settled ops p slot w).1, r.left p w (r.settled ops p slot w).2) := by
  have hentered : r.entered p w = w := by rw [entered, hscope]
  have hleft (answered : World β) : r.left p w answered = answered := by rw [left, hscope]
  rw [hserve, settled, hentered, hleft]

omit [Native β] in
/-- Answers are settled as `Proxy.answer` does it. -/
theorem settle_answer {p : Proxy} {slot : Slot} {r : Request} (hblank : r.blank = .value .void)
    (act : M β (Except Failure Variant)) :
    ((act >>= p.answer slot) >>= fun x => pure (Prod.map Reply.value id x)) =
      (act >>= fun x => pure (x.map Reply.value)) >>= r.settle p slot := by
  simp only [bind_assoc, pure_bind]
  congr 1
  funext answered
  cases answered <;> simp [answer, settle, Except.map, hblank]

/-- Every request is asked, settled and timed. -/
theorem perform_serve (ops : HostOps β) (p : Proxy) (slot : Slot) (r : Request) (w : World β) :
    perform (r.serve ops p slot) w =
      ((r.settled ops p slot w).1, r.left p w (r.settled ops p slot w).2) := by
  -- A name that is no text is answered at once and not timed.
  cases r with
  | getProperty name =>
    cases name with
    | string n => exact perform_serve_timed rfl rfl (settle_answer rfl _) w
    | _ =>
      exact perform_serve_untimed rfl (by simp [serve, Proxy.getProperty, ask, settle, blank]) w
  | call method args =>
    cases method with
    | void => exact perform_serve_timed rfl rfl (settle_answer rfl _) w
    | string n => exact perform_serve_timed rfl rfl (settle_answer rfl _) w
    | _ => exact perform_serve_untimed rfl (by simp [serve, Proxy.call, ask, settle, blank]) w
  | construct args => exact perform_serve_timed rfl rfl (settle_answer rfl _) w
  | hasMethod name =>
    cases name with
    | string n => exact perform_serve_timed rfl rfl (by simp [ask, settle]) w
    | _ => exact perform_serve_untimed rfl (by simp [serve, Proxy.hasMethod, ask, settle, blank]) w
  | hasProperty name =>
    cases name with
    | string n => exact perform_serve_timed rfl rfl (by simp [ask, settle]) w
    | _ =>
      exact perform_serve_untimed rfl (by simp [serve, Proxy.hasProperty, ask, settle, blank]) w
  | propertyNames =>
    refine perform_serve_timed rfl rfl ?_ w
    simp only [ask, bind_assoc, pure_bind]
    congr 1
    funext w'
    congr 1
    funext named
    cases named <;> simp [settle, Except.map, blank]
  | setProperty name v =>
    cases name with
    | string n =>
      refine perform_serve_timed rfl rfl ?_ w
      simp only [ask, bind_assoc, pure_bind]
      congr 1
      funext done
      cases done <;> simp [settle, Except.map, blank]
    | _ =>
      exact perform_serve_untimed rfl (by simp [serve, Proxy.setProperty, ask, settle, blank]) w

end Request

/-! ### Asking -/

section

variable [Native β] {γ : Type} {view : World β → γ} [Public view] {ops : HostOps β}

/-- Up to the point where something is reported, a request leaves alone
what native code leaves alone. -/
theorem Request.leaves_ask (hn : NativeLeaves view ops) (p : Proxy) (r : Request) :
    Leaves view (r.ask ops p) := by
  -- A call without a name constructs.
  have hconstruct (args : List Variant) : Leaves view (Request.ask ops p (.construct args)) :=
    .bind (Node.obeys_construct hn _ _ _) fun _ => .pure _
  cases r with
  | propertyNames => exact .bind .get fun _ => .bind (obeys_nameVariants _ _ _) fun _ => .pure _
  | construct args => exact hconstruct args
  | hasMethod name =>
    cases name with
    | string n => exact .bind .get fun _ => .pure _
    | _ => exact .pure _
  | hasProperty name =>
    cases name with
    | string n => exact .bind .get fun _ => .pure _
    | _ => exact .pure _
  | getProperty name =>
    cases name with
    | string n => exact .bind (Node.obeys_getProperty hn _ _ _) fun _ => .pure _
    | _ => exact .pure _
  | setProperty name v =>
    cases name with
    | string n => exact .bind (Node.obeys_setProperty hn _ _ _ _) fun _ => .pure _
    | _ => exact .pure _
  | call method args =>
    cases method with
    | void => exact hconstruct args
    | string n => exact .bind (Node.obeys_call hn _ _ _ _) fun _ => .pure _
    | _ => exact .pure _

end

/-! ### Failing -/

/-- Bytes run out on the way through the names. -/
inductive NoBytes (host : HostId) : World β → List Bytes → Prop
  | here {w w' : World β} {name : Bytes} {rest : List Bytes} {f : Failure}
      (h : perform (valueFromString host name) w = (.ok (.error f), w')) :
      NoBytes host w (name :: rest)
  | later {w w' : World β} {name : Bytes} {rest : List Bytes} {v : Variant}
      (h : perform (valueFromString host name) w = (.ok (.ok v), w'))
      (hrest : NoBytes host w' rest) :
      NoBytes host w (name :: rest)

/-- A string that could be made is the one asked for. -/
theorem eq_of_valueFromString {host : HostId} {bytes : Bytes} {v : Variant} {w w' : World β}
    (h : perform (valueFromString host bytes) w = (.ok (.ok v), w')) : v = .string bytes := by
  unfold valueFromString at h
  split at h
  case isTrue hempty =>
    subst hempty
    cases h
    rfl
  case isFalse =>
    obtain ⟨given, w₁, hrun, _⟩ := quietly_memAlloc host bytes.length w
    rw [perform_bind_ok hrun] at h
    cases given <;> cases h
    rfl

/-- Strings are given back without fail. -/
theorem perform_releaseAll_strings (host : HostId) {done : List Variant}
    (h : ∀ v ∈ done, ∃ b, v = .string b) (w : World β) :
    ∃ w', perform (releaseAll host done) w = (.ok (), w') := by
  induction done generalizing w with
  | nil => exact ⟨w, rfl⟩
  | cons v rest ih =>
    obtain ⟨bytes, rfl⟩ := h v List.mem_cons_self
    obtain ⟨w₁, _, hcounted⟩ := perform_counted host "ReleaseVariant" (memFree host bytes.length) w
    obtain ⟨_, w₂, hfree, _⟩ := quietly_memFree host bytes.length w₁
    obtain ⟨w', hrest⟩ := ih (fun v hv => h v (List.mem_cons_of_mem _ hv)) w₂
    exact ⟨w', (perform_bind_ok (hcounted.trans hfree) _).trans hrest⟩

/-- The names cannot be made when bytes run out, and only then. -/
theorem nameVariants_error_iff (host : HostId) {done : List Variant}
    (hdone : ∀ v ∈ done, ∃ b, v = .string b) (names : List Bytes) (w : World β) :
    (∃ f, (perform (nameVariants host done names) w).1 = .ok (.error f)) ↔
      NoBytes host w names := by
  -- What is done is generalized: it is texts, so giving it back cannot fail.
  induction names generalizing done w with
  | nil =>
    constructor
    · rintro ⟨f, hf⟩
      cases hf
    · intro h
      cases h
  | cons name rest ih =>
    obtain ⟨made, w₁, hmade, _⟩ := perform_valueFromString host name w
    unfold nameVariants
    rw [perform_bind_ok hmade]
    cases made with
    | ok v =>
      have hv : v = .string name := eq_of_valueFromString hmade
      have hdone' : ∀ x ∈ v :: done, ∃ b, x = .string b := by
        intro x hx
        rcases List.mem_cons.mp hx with rfl | hx
        · exact ⟨name, hv⟩
        · exact hdone x hx
      refine (ih hdone' w₁).trans ⟨fun h => .later hmade h, fun h => ?_⟩
      cases h with
      | here h =>
        rw [hmade] at h
        cases h
      | later h hrest =>
        rw [hmade] at h
        cases h
        exact hrest
    | error f =>
      have hreverse : ∀ v ∈ done.reverse, ∃ b, v = .string b :=
        fun v hv => hdone v (List.mem_reverse.mp hv)
      obtain ⟨w', hrelease⟩ := perform_releaseAll_strings host hreverse w₁
      refine ⟨fun _ => .here hmade, fun _ => ⟨f, ?_⟩⟩
      rw [perform_bind_ok hrelease, perform_pure]

/-- Handing an answer on neither makes nor mends a failure. -/
theorem perform_map_error_iff {α γ : Type} (act : M β (Except Failure α)) (g : α → γ)
    (w : World β) :
    (∃ f, (perform (act >>= fun x => pure (x.map g)) w).1 = .ok (.error f)) ↔
      ∃ f, (perform act w).1 = .ok (.error f) := by
  rw [perform_bind]
  cases hrun : perform act w with
  | mk r w' =>
    cases r with
    | error u => simp
    | ok answered => cases answered <;> simp [Except.map]

namespace Request

variable [Native β]

/-- The operation of the node that is requested fails. -/
def NodeFails (ops : HostOps β) (p : Proxy) (w : World β) : Request → Prop
  | .getProperty (.string n) => ∃ f, (perform (Node.getProperty ops p.context p.node n) w).1 =
    .ok (.error f)
  | .setProperty (.string n) v => ∃ f, (perform (Node.setProperty ops p.context p.node n v) w).1 =
    .ok (.error f)
  | .call (.string n) args => ∃ f, (perform (Node.call ops p.context p.node n args) w).1 =
    .ok (.error f)
  | .call .void args | .construct args =>
    ∃ f, (perform (Node.construct ops p.context p.node args) w).1 = .ok (.error f)
  | _ => False

/-- The names that are requested cannot be made. -/
def OutOfBytes (p : Proxy) (w : World β) : Request → Prop
  | .propertyNames => NoBytes p.context.host w (w.graph.memberNames p.node)
  | _ => False

/-- Why a request fails. -/
theorem ask_error_iff (ops : HostOps β) (p : Proxy) (r : Request) (w : World β) :
    (∃ f, (perform (r.ask ops p) w).1 = .ok (.error f)) ↔ r.Misnamed ∨ r.NodeFails ops p w ∨
      r.OutOfBytes p w := by
  -- What a misnamed request answers is a failure by definition.
  have hmisnamed {f : Failure} (r : Request) (h : r.Misnamed) (hask : r.ask ops p =
      return .error f) :
      (∃ f, (perform (r.ask ops p) w).1 = .ok (.error f)) ↔ r.Misnamed ∨ r.NodeFails ops p w ∨
        r.OutOfBytes p w :=
    ⟨fun _ => .inl h, fun _ => ⟨f, by rw [hask, perform_pure]⟩⟩
  have hnamed (n : Bytes) : ¬∀ m, Variant.string n ≠ .string m := fun h => h n rfl
  have hconstruct (args : List Variant) :
      (∃ f, (perform (ask ops p (.construct args)) w).1 = .ok (.error f)) ↔
        NodeFails ops p w (.construct args) := perform_map_error_iff _ _ w
  cases r with
  | hasMethod name =>
    cases name with
    | string n =>
      simp only [Misnamed, NodeFails, OutOfBytes, hnamed, or_false, iff_false]
      rintro ⟨f, hf⟩
      cases hf
    | _ => exact hmisnamed _ (by simp [Misnamed]) rfl
  | hasProperty name =>
    cases name with
    | string n =>
      simp only [Misnamed, NodeFails, OutOfBytes, hnamed, or_false, iff_false]
      rintro ⟨f, hf⟩
      cases hf
    | _ => exact hmisnamed _ (by simp [Misnamed]) rfl
  | propertyNames =>
    simp only [ask, Misnamed, NodeFails, OutOfBytes, false_or]
    rw [perform_bind_ok (perform_get w), perform_map_error_iff]
    exact nameVariants_error_iff _ (by simp) _ _
  | getProperty name =>
    cases name with
    | string n =>
      simp only [Misnamed, OutOfBytes, hnamed, false_or, or_false]
      exact perform_map_error_iff _ _ w
    | _ => exact hmisnamed _ (by simp [Misnamed]) rfl
  | setProperty name v =>
    cases name with
    | string n =>
      simp only [Misnamed, OutOfBytes, hnamed, false_or, or_false]
      exact perform_map_error_iff _ _ w
    | _ => exact hmisnamed _ (by simp [Misnamed]) rfl
  | call method args =>
    cases method with
    | void =>
      simp only [Misnamed, OutOfBytes, ne_eq, not_true_eq_false, false_and, false_or, or_false]
      exact hconstruct args
    | string n =>
      simp only [Misnamed, OutOfBytes, hnamed, and_false, false_or, or_false]
      exact perform_map_error_iff _ _ w
    | _ => exact hmisnamed _ (by simp [Misnamed]) rfl
  | construct args =>
    simp only [Misnamed, OutOfBytes, false_or, or_false]
    exact hconstruct args

end Request

end ObjectBridge.Proxy

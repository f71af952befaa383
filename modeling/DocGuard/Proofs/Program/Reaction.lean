import DocGuard.Proofs.Program.Guarding
import DocGuard.Proofs.Program.Inquiry.Callable
/-!
Failing and warning.

A check first gathers what it looks at: it finds the function, its documentation and the types of
the arguments (`gatherCall`). How it reacts to a mismatch plays no part in this. What was gathered
is then concluded. So two checks that begin alike, of which one fails on a mismatch and the other
warns, gather the same, log the same, and speak of the same violation under the same name; they
differ in that one fails with the wording that the other gives a warning with (`Alike`). What is
asked on the way can fail, and then both end in this way.

What becomes of the warning is up to the program (`Given`). It is noted in the globals, and refused
where these do not hold what it could be noted in; and a program can have warnings dropped, or have
them end what gives them (`warning_refused`).
-/

namespace DocGuard

open Run

/-! ### Gathering -/

/-- What a check has gathered when it comes to its verdict. -/
inductive Gathered where
  /-- There is nothing to look at, for the reason logged, which is a detail. -/
  | skipped (entry : LogEntry) (detail : entry.level = .debug)
  /-- These are the findings about the arguments of the function at `place`. -/
  | found (place : Value) (findings : List Finding)

/-- A computation where arguments are judged. -/
def inJudgment {α : Type} (x : Run α) : Run α :=
  Run.inFunction "docparams.validate" "_judge" [] x

section Gathering

variable (styles : List Style)

/-- Finds what a docstring, which may be missing, says of some arguments of the function at `place`.
-/
def gatherIn (place : Value) (doc : Option String) (names : List String) (args : List Value) :
    Run Gathered :=
  inJudgment do
    return .found place (← extractIn ask styles doc names args)

/-- Gathers what is checked in a call of `method`. -/
def gatherMethod (c : RunningCall) (method : String) : Run Gathered := do
  match ← calledFunction ask c with
  | none => return .skipped (.undocumented method) rfl
  | some f =>
    match ← checkable? ask f with
    | none => return .skipped (.undocumented method) rfl
    | some (doc, params) =>
      let name ← callableName ask f
      let place := if ← isTrue ask name then name else sharedText method
      gatherIn styles place (some doc) params c.args

/-- Gathers what is checked in a running call. -/
def gatherCall (c : Option RunningCall) : Run Gathered :=
  match c.bind fun c => (placeName? c.method).map (c, ·) with
  | none => return .skipped .noCaller rfl
  | some (c, method) =>
    if c.args.isEmpty then return .skipped (.noArguments method) rfl
    else gatherMethod styles c method

/-- Ends a check once all is gathered. -/
def Gathered.conclude (inProgram : Bool) (reaction : OnMismatch) :
    Gathered → Run (Option Violation)
  | skipped entry _ => Run.follow (.skipped entry)
  | found place findings => inJudgment (followFindings ask inProgram reaction place findings)

variable (inProgram : Bool) (options : CheckOptions)

theorem judgeIn_eq_gatherIn (place : Value) (doc : Option String) (names : List String)
    (args : List Value) :
    judgeIn ask inProgram options place doc names args
      = gatherIn options.styles place doc names args
          >>= Gathered.conclude inProgram options.reaction := by
  rw [judgeIn, gatherIn, inJudgment, inFunction, inFunction, within_bind, within_bind, bind_assoc]
  congr 1

theorem checkMethod_eq_gatherMethod (c : RunningCall) (method : String) :
    checkMethod ask inProgram options c method
      = gatherMethod options.styles c method
          >>= Gathered.conclude inProgram options.reaction := by
  rw [checkMethod, gatherMethod, bind_assoc]
  congr 1
  funext f
  cases f with
  | none => rw [pure_bind]; rfl
  | some f =>
    simp only [bind_assoc]
    congr 1
    funext documented
    cases documented with
    | none => rw [pure_bind]; rfl
    | some documented => simp only [bind_assoc, judgeIn_eq_gatherIn]

/-- A check gathers, and then concludes. -/
theorem checkCall_eq_gatherCall (c : Option RunningCall) :
    checkCall ask inProgram options c
      = gatherCall options.styles c >>= Gathered.conclude inProgram options.reaction := by
  rw [checkCall, gatherCall]
  rcases c.bind fun c => (placeName? c.method).map (c, ·) with _ | ⟨c, method⟩
  · rfl
  · simp only
    split
    · rfl
    · exact checkMethod_eq_gatherMethod ..

variable {w : World} {m₀ : Machine}

theorem inquires_gatherIn (place : Value) (doc : Option String) (names : List String)
    (args : List Value) : Inquires w m₀ (gatherIn styles place doc names args) :=
  .inFunction ((inquires_extractIn ..).bind fun _ => .pure _) ..

theorem inquires_gatherMethod (c : RunningCall) (method : String) :
    Inquires w m₀ (gatherMethod styles c method) := by
  refine (inquires_calledFunction c).bind fun called => ?_
  cases called with
  | none => exact .pure _
  | some f =>
    refine (inquires_checkable? f).bind fun documented => ?_
    cases documented with
    | none => exact .pure _
    | some documented =>
      exact (inquires_callableName f).bind fun _ => (inquires_isTrue _).bind fun _ =>
        inquires_gatherIn ..

/-- To gather what is checked is only to ask. -/
theorem inquires_gatherCall (c : Option RunningCall) : Inquires w m₀ (gatherCall styles c) := by
  unfold gatherCall
  rcases c.bind fun c => (placeName? c.method).map (c, ·) with _ | ⟨c, method⟩
  · exact .pure _
  · simp only
    split
    · exact .pure _
    · exact inquires_gatherMethod ..

end Gathering

/-! ### What was told -/

/-- The findings are about these tags and arguments, in this order, each with a type that was told
of the argument. -/
def ToldOf (names : List String) (records : List (Tag × Value)) (findings : List Finding) : Prop :=
  List.Forall₂ (fun record f => ∃ type w m m', on w (typeNameOf ask record.2) m = (.ok type, m')
    ∧ f = .ofTag names record.1 type) records findings

section ToldOf

variable {styles : List Style} {w : World} {m m' : Machine} {place : Value}
variable {findings : List Finding}

theorem toldOf_mapM {names : List String} {records : List (Tag × Value)}
    (h : on w (records.mapM (findIn ask names)) m = (.ok findings, m')) :
    ToldOf names records findings := by
  induction records generalizing m findings with
  | nil =>
    cases h
    exact .nil
  | cons record rest ih =>
    rw [List.mapM_cons, on_bind_eq_ok_iff] at h
    obtain ⟨f, m₁, first, h⟩ := h
    obtain ⟨others, m₂, later, h⟩ := on_bind_eq_ok_iff.1 h
    cases h
    obtain ⟨type, m₃, told, found⟩ := on_bind_eq_ok_iff.1 first
    cases found
    exact .cons ⟨type, w, m, _, told, rfl⟩ (ih later)

theorem toldOf_gatherIn {doc : Option String} {names : List String} {args : List Value}
    {at' : Value}
    (h : on w (gatherIn styles at' doc names args) m = (.ok (.found place findings), m')) :
    place = at' ∧ ToldOf names (Finding.arguedIn styles doc names args) findings := by
  rw [gatherIn, inJudgment, on_inFunction] at h
  obtain ⟨found, m₁, told, h⟩ := on_bind_eq_ok_iff.1 h
  cases h
  rw [extractIn, on_inFunction] at told
  exact ⟨rfl, toldOf_mapM told⟩

/-- What is gathered of a call is about the arguments of the call, by the documentation that some
value showed. -/
theorem toldOf_gatherCall {c : RunningCall}
    (h : on w (gatherCall styles (some c)) m = (.ok (.found place findings), m')) :
    ∃ f doc params m₁ m₂, on w (checkable? ask f) m₁ = (.ok (some (doc, params)), m₂)
      ∧ ToldOf params (Finding.arguedIn styles (some doc) params c.args) findings := by
  rw [gatherCall, Option.bind_some] at h
  generalize placeName? c.method = named at h
  cases named with
  | none => cases h
  | some method =>
    simp only [Option.map_some] at h
    split at h
    · cases h
    obtain ⟨called, m₁, -, h⟩ := on_bind_eq_ok_iff.1 h
    cases called with
    | none => cases h
    | some f =>
      obtain ⟨documented, m₂, shown, h⟩ := on_bind_eq_ok_iff.1 h
      cases documented with
      | none => cases h
      | some documented =>
        obtain ⟨doc, params⟩ := documented
        obtain ⟨name, m₃, -, h⟩ := on_bind_eq_ok_iff.1 h
        obtain ⟨counts, m₄, -, h⟩ := on_bind_eq_ok_iff.1 h
        exact ⟨f, doc, params, m₁, m₂, shown, (toldOf_gatherIn h).2⟩

end ToldOf

/-! ### Warnings -/

/-- What becomes of a warning that is given from `m`. It is noted without any event, which leaves the
store `s`, and then it is what the program makes of warnings. -/
inductive Given (inProgram : Bool) (said : Mismatch) (m : Machine) :
    Except Fault Unit × Machine → Prop
  | shown {s : Store} (notes : ∀ w, on w (noteWarning inProgram) m = (.ok (), ⟨s, m.events⟩))
      (use : m.store.warnings = .shown) :
      Given inProgram said m (.ok (), Machine.reporting ⟨s, m.events⟩ [.warning said])
  | dropped {s : Store} (notes : ∀ w, on w (noteWarning inProgram) m = (.ok (), ⟨s, m.events⟩))
      (use : m.store.warnings = .dropped) :
      Given inProgram said m (.ok (), ⟨s, m.events⟩)
  | failing {s : Store} (notes : ∀ w, on w (noteWarning inProgram) m = (.ok (), ⟨s, m.events⟩))
      (use : m.store.warnings = .failing) :
      Given inProgram said m (.error (.warned said), ⟨s, m.events⟩)
  /-- The globals do not hold what it could be noted in. -/
  | refused {held : Value} (warns : inProgram = true)
      (registry : m.store.globals.get? "__warningregistry__" = some held)
      (odd : m.store.isAbsentOr "dict" held = false) :
      Given inProgram said m (.error .badCall, m)

section Warnings

variable (inProgram : Bool) (m : Machine)

/-- A warning is noted without any event, or refused. -/
theorem on_noteWarning :
    (∃ s, (∀ w, on w (noteWarning inProgram) m = (.ok (), ⟨s, m.events⟩))
        ∧ s.warnings = m.store.warnings)
      ∨ inProgram = true ∧ (∀ w, on w (noteWarning inProgram) m = (.error .badCall, m))
        ∧ ∃ held, m.store.globals.get? "__warningregistry__" = some held
          ∧ m.store.isAbsentOr "dict" held = false := by
  cases inProgram with
  | false => exact .inl ⟨m.store, fun _ => rfl, rfl⟩
  | true =>
    -- only the globals matter, which are the same from everywhere
    have asked (w : World) : on w (noteWarning true) m
        = on w (match m.store.globals.get? "__warningregistry__" with
          | none => do
            let noted ← newNamespace [("version", ← Run.newInt 1)]
            Run.change fun s => { s with globals := s.globals.set "__warningregistry__" noted }
          | some held =>
            if m.store.isAbsentOr "dict" held then pure () else throw .badCall) m :=
      (gives_store m).bind _
    cases registry : m.store.globals.get? "__warningregistry__" with
    | none =>
      simp only [asked, registry]
      exact .inl ⟨_, fun _ => rfl, rfl⟩
    | some held =>
      simp only [asked, registry]
      cases odd : m.store.isAbsentOr "dict" held with
      | false => exact .inr ⟨trivial, fun _ => rfl, held, rfl, odd⟩
      | true => exact .inl ⟨m.store, fun _ => rfl, rfl⟩

theorem given_giveWarning (said : Mismatch) (w : World) :
    Given inProgram said m (on w (giveWarning inProgram said) m) := by
  rw [giveWarning, on_bind]
  rcases on_noteWarning inProgram m with ⟨s, notes, same⟩ | ⟨warns, refuses, held, registry, odd⟩
  · rw [notes w]
    simp only
    rw [(gives_store _).bind, same]
    cases use : m.store.warnings with
    | shown => exact .shown notes use
    | dropped => exact .dropped notes use
    | failing => exact .failing notes use
  · rw [refuses w]
    exact .refused warns registry odd

end Warnings

/-! ### Concluding -/

section Concluding

variable (w : World) (inProgram : Bool) (gather : Run Gathered) (m : Machine)

/-- The first mismatch among what was gathered, put into the log. -/
structure Logged where
  place : Value
  findings : List Finding
  violation : Violation
  /-- The name that the log gives to the function. -/
  name : Option String
  /-- The machine when all was gathered. -/
  gathered : Machine
  /-- The machine when the name had been asked. -/
  named : Machine
  gathers : on w gather m = (.ok (.found place findings), gathered)
  first : Finding.IsFirst findings violation
  names : on w.ofJudgment (loggedName? ask place) gathered = (.ok name, named)
  led : Leads w m named

variable {w gather m} in
/-- The machine when the mismatch has been logged. -/
def Logged.machine (l : Logged w gather m) : Machine :=
  l.named.reporting [.log (.mismatch l.name l.violation)]

/-- How two checks end that gather the same, of which the first fails on a mismatch and the second
warns. -/
inductive Alike : Except Fault (Option Violation) × Machine →
    Except Fault (Option Violation) × Machine → Prop
  /-- Something failed that was asked on the way. -/
  | interrupted {e : Fault} {m' : Machine} (led : Leads w m m') (explained : Explained w m e) :
      Alike (.error e, m') (.error e, m')
  /-- There was nothing to look at, which was logged as a detail. -/
  | skipped {entry : LogEntry} {m' : Machine} (led : Leads w m m') (detail : entry.level = .debug)
      (nothing : ∀ place findings, (on w gather m).1 = .ok (.found place findings) → findings = []) :
      Alike (.ok none, m'.reporting [.log entry]) (.ok none, m'.reporting [.log entry])
  /-- No types differ. -/
  | fits {place : Value} {findings : List Finding} {m' : Machine} (led : Leads w m m')
      (gathers : on w gather m = (.ok (.found place findings), m'))
      (all : ∀ f ∈ findings, f.expected = f.actual) :
      Alike (.ok none, m') (.ok none, m')
  /-- The mismatch was logged, and then the name failed that was asked for the wording. -/
  | unsaid (l : Logged w gather m) {e : Fault} {m' : Machine} (led : Leads w l.machine m')
      (explained : Explained w l.machine e) :
      Alike (.error e, m') (.error e, m')
  /-- The mismatch was logged, and the one fails with what the other warns of. A check that warns
  yields the violation, unless the warning ends it. -/
  | violated (l : Logged w gather m) {said : Option String} {m' : Machine}
      {given : Except Fault Unit × Machine} (led : Leads w l.machine m')
      (words : on w.ofJudgment (mismatchAt ask l.place l.violation) l.machine
        = (.ok ⟨l.violation, said⟩, m'))
      (gives : Given inProgram ⟨l.violation, said⟩ m' given) :
      Alike (.error (.mismatch ⟨l.violation, said⟩ (m'.store.textOf? l.place)), m')
        (given.1.map fun _ => some l.violation, given.2)

variable {w inProgram gather m}

/-- Questions can be asked where arguments are judged. -/
theorem Run.Inquires.ofJudgment {α : Type} {x : Run α} {m₀ m₁ : Machine} (asks : Inquires w m₀ x)
    (led : Leads w m₀ m₁) :
    Leads w m₀ (on w.ofJudgment x m₁).2
      ∧ ∀ e, (on w.ofJudgment x m₁).1 = .error e → Explained w m₀ e :=
  ⟨asks.leads [.frame (.ofFunction "docparams.validate" "_judge" [])] m₁ led,
    fun e => asks.failure [.frame (.ofFunction "docparams.validate" "_judge" [])] m₁ e led⟩

/-- The failure about a violation speaks of this violation. -/
theorem exists_of_on_mismatchAt {place : Value} {v : Violation} {said : Mismatch} {m m' : Machine}
    (h : on w (mismatchAt ask place v) m = (.ok said, m')) : ∃ name, said = ⟨v, name⟩ := by
  rw [mismatchAt, on_within] at h
  obtain ⟨name, _, -, h⟩ := on_bind_eq_ok_iff.1 h
  cases h
  exact ⟨name, rfl⟩

/-- Once the mismatch is logged, the name is asked for the wording, and then one check fails and the
other warns. -/
theorem Logged.alike (l : Logged w gather m) :
    Alike w inProgram gather m
      (on w.ofJudgment (do
        let said ← mismatchAt ask l.place l.violation
        throw (.mismatch said ((← Run.store).textOf? l.place))) l.machine)
      (on w.ofJudgment (do
        let said ← mismatchAt ask l.place l.violation
        giveWarning inProgram said
        return some l.violation) l.machine) := by
  obtain ⟨led, failure⟩ := (inquires_mismatchAt l.place l.violation).ofJudgment
    (.refl (a := l.machine) (r := _) : Leads w l.machine l.machine)
  rw [on_bind, on_bind]
  rcases words : on w.ofJudgment (mismatchAt ask l.place l.violation) l.machine with ⟨e | said, m'⟩
  · rw [words] at led failure
    exact .unsaid l led (failure e rfl)
  · rw [words] at led
    obtain ⟨name, rfl⟩ := exists_of_on_mismatchAt words
    have gives := given_giveWarning inProgram m' ⟨l.violation, name⟩ w.ofJudgment
    simp only
    rw [(gives_store m').bind, on_throw, on_bind]
    generalize on w.ofJudgment (giveWarning inProgram ⟨l.violation, name⟩) m' = given at gives
    have alike := Alike.violated l led words gives
    rcases given with ⟨_ | _, _⟩ <;> exact alike

variable {place : Value} {m₁ : Machine}

/-- Where nothing was found, both checks log this, under a name that is asked for. -/
theorem alike_followFindings_nil (led : Leads w m m₁)
    (gathers : on w gather m = (.ok (.found place []), m₁)) :
    Alike w inProgram gather m
      (on w.ofJudgment (followFindings ask inProgram .fail place []) m₁)
      (on w.ofJudgment (followFindings ask inProgram .warn place []) m₁) := by
  obtain ⟨ledOn, failure⟩ := (inquires_loggedName? place).ofJudgment led
  have whole (reaction : OnMismatch) :
      on w.ofJudgment (followFindings ask inProgram reaction place []) m₁
        = match on w.ofJudgment (loggedName? ask place) m₁ with
          | (.ok name, m') => (.ok none, m'.reporting [.log (.nothingFound name)])
          | (.error e, m') => (.error e, m') := by
    show on w.ofJudgment (loggedName? ask place >>= _) m₁ = _
    rw [on_bind]
    rcases on w.ofJudgment (loggedName? ask place) m₁ with ⟨_ | _, _⟩ <;> rfl
  rw [whole, whole]
  generalize on w.ofJudgment (loggedName? ask place) m₁ = asked at ledOn failure
  rcases asked with ⟨e | name, m'⟩
  · exact .interrupted ledOn (failure e rfl)
  · exact .skipped ledOn rfl fun place findings h => by rw [gathers] at h; cases h; rfl

/-- Where something was found and no types differ, there is nothing to react to. -/
theorem on_followFindings_of_all {findings : List Finding}
    (all : ∀ f ∈ findings, f.expected = f.actual) (some : findings ≠ [])
    (reaction : OnMismatch) :
    on w (followFindings ask inProgram reaction place findings) m₁ = (.ok none, m₁) := by
  have isEmpty : findings.isEmpty = false := List.isEmpty_eq_false_iff.2 some
  have none := Finding.firstViolation?_eq_none_iff.2 all
  rw [followFindings, isEmpty, none, if_neg Bool.false_ne_true]
  simp only
  rw [on_follow, Verdict.ofFindings, isEmpty, none, if_neg Bool.false_ne_true]
  exact congrArg (Prod.mk _) m₁.reporting_nil

/-- A mismatch is logged under a name that is asked for, and then both checks react to it. -/
theorem alike_followFindings_of_isFirst {findings : List Finding} {v : Violation}
    (led : Leads w m m₁) (gathers : on w gather m = (.ok (.found place findings), m₁))
    (first : Finding.IsFirst findings v) :
    Alike w inProgram gather m
      (on w.ofJudgment (followFindings ask inProgram .fail place findings) m₁)
      (on w.ofJudgment (followFindings ask inProgram .warn place findings) m₁) := by
  have violated := Finding.firstViolation?_eq_some_iff.2 first
  obtain ⟨ledOn, failure⟩ := (inquires_loggedName? place).ofJudgment led
  rw [followFindings, followFindings, Finding.isEmpty_eq_false_of_firstViolation? violated,
    violated, if_neg Bool.false_ne_true, if_neg Bool.false_ne_true]
  simp only
  rw [on_bind, on_bind]
  rcases names : on w.ofJudgment (loggedName? ask place) m₁ with ⟨e | name, m'⟩
  · rw [names] at ledOn failure
    exact .interrupted ledOn (failure e rfl)
  · rw [names] at ledOn
    exact (Logged.mk place findings v name m₁ m' gathers first names ledOn).alike

/-- Two checks that gather the same end alike. -/
theorem alike_conclude (asks : Inquires w m gather) :
    Alike w inProgram gather m
      (on w (gather >>= Gathered.conclude inProgram .fail) m)
      (on w (gather >>= Gathered.conclude inProgram .warn) m) := by
  have led : Leads w m (on w gather m).2 := asks.leads [] m .refl
  have failure : ∀ e, _ → (on w gather m).1 = .error e → _ := asks.failure [] m
  rw [on_bind, on_bind]
  -- up to here the reaction has not been looked at
  rcases gathers : on w gather m with ⟨e | g, m₁⟩
  · rw [gathers] at led failure
    exact .interrupted led (failure e .refl rfl)
  rw [gathers] at led
  cases g with
  | skipped entry detail =>
    exact .skipped led detail fun place findings h => by rw [gathers] at h; cases h
  | found place findings =>
    simp only [Gathered.conclude, inJudgment, on_inFunction]
    by_cases all : ∀ f ∈ findings, f.expected = f.actual
    · by_cases nothing : findings = []
      · subst nothing
        exact alike_followFindings_nil led gathers
      · rw [on_followFindings_of_all all nothing, on_followFindings_of_all all nothing]
        exact .fits led gathers all
    · obtain ⟨v, first⟩ := Finding.exists_isFirst all
      exact alike_followFindings_of_isFirst led gathers first

end Concluding

/-! ### Guarded functions -/

namespace Guard

/-- The same guard with this reaction to a mismatch. -/
def reacting (g : Guard) (reaction : OnMismatch) : Guard :=
  { g with options := { g.options with reaction } }

variable (g : Guard) (w : World) (args : List Value) (keywords : Bindings Value) (m : Machine)

/-- How a guarded call ends once its check has ended: the failure of the check is passed on, and
otherwise the function is called now. -/
def afterCheck : Except Fault (Option Violation) × Machine → Except Fault Value × Machine
  | (.error e, checked) => (.error e, checked)
  | (.ok _, checked) =>
    passOn w (on (g.world w args keywords) (ask (.function g.inner) args keywords) checked)

/-- What the guard gathers of a call that gives these arguments to the parameters. -/
def gathers (binding : Binding) : Run Gathered :=
  gatherIn g.options.styles g.place (some g.doc) g.params (g.argumentsIn binding)

variable {f : Function} {reaction : OnMismatch}
variable (guarded : f.behaviour = .guard (g.reacting reaction))
include guarded

/-- A call of a guarded function that binds is judged, and then goes on. -/
theorem on_callFunction_of_bindStrictly? (room : Guard.room ≤ w.levels) {binding : Binding}
    (binds : g.signature.bindStrictly? args keywords = some binding) :
    on w (callFunction ask f args keywords) m
      = g.afterCheck w args keywords (on (g.world w args keywords)
          (g.gathers binding
            >>= Gathered.conclude (Frame.inProgram (framesOf w.layers).head?) reaction) m) := by
  have judged : (g.reacting reaction).judgedValues? args keywords
      = some (g.argumentsIn binding) := by
    rw [judgedValues?]
    exact congrArg (Option.map _) binds
  have world : (g.reacting reaction).world w args keywords = g.world w args keywords := rfl
  have gathers : gatherIn (g.reacting reaction).options.styles (g.reacting reaction).place
      (some (g.reacting reaction).doc) (g.reacting reaction).params (g.argumentsIn binding)
    = g.gathers binding := rfl
  rw [callFunction_of_guard guarded, (g.reacting reaction).on_letThrough _ _ _ _ room, world, judged,
    examine, on_discard, judgeIn_eq_gatherIn, gathers, reacting]
  rcases on (g.world w args keywords) (g.gathers binding >>= _) m with ⟨_ | _, _⟩ <;> rfl

/-- Without room for a check, or if the call does not bind, the reaction plays no part. -/
theorem on_callFunction_of_unjudged {f' : Function} {reaction' : OnMismatch}
    (guarded' : f'.behaviour = .guard (g.reacting reaction'))
    (unjudged : w.levels < Guard.room ∨ g.signature.bindStrictly? args keywords = none) :
    on w (callFunction ask f args keywords) m = on w (callFunction ask f' args keywords) m := by
  rw [callFunction_of_guard guarded, callFunction_of_guard guarded']
  rcases unjudged with tight | unbound
  · rw [on_letThrough_of_lt _ _ _ _ _ tight, on_letThrough_of_lt _ _ _ _ _ tight]
  · have nothing (reaction : OnMismatch) :
        (g.reacting reaction).judgedValues? args keywords = none := by
      rw [judgedValues?]
      exact congrArg (Option.map _) unbound
    simp only [nothing, examine]
    rfl

end Guard

/-- What guarding a function makes of it, once the options are known. -/
def guarding (options : CheckOptions) (id : FunctionId) : Run FunctionId := do
  let checkable ← checkable? ask (.function id)
  let name ← callableName ask (.function id)
  let s ← Run.store
  match checkable, s.functions[id]? with
  | some (doc, params), some f =>
    Run.newFunction (guardOf f id ⟨id, options, name, doc, params, s.functionSignature f⟩)
  | _, _ => do
    Run.emit (.reported (.log (.notGuarded (← textIn ask name))))
    return id

/-- Two functions are made of one, with guards that differ only in their reaction, or none is. -/
theorem on_guarding (w : World) (styles : List Style) (id : FunctionId) (m : Machine) :
    on w (guarding ⟨styles, .fail⟩ id) m = on w (guarding ⟨styles, .warn⟩ id) m
      ∨ ∃ (g : Guard) (f : Function) (m' : Machine), g.options.styles = styles ∧ ∀ reaction,
          on w (guarding ⟨styles, reaction⟩ id) m
            = on w (Run.newFunction (guardOf f id (g.reacting reaction))) m' := by
  simp only [guarding, on_bind]
  rcases on w (checkable? ask (.function id)) m with ⟨_ | documented, m₁⟩
  · exact .inl rfl
  simp only
  rcases on w (callableName ask (.function id)) m₁ with ⟨_ | name, m₂⟩
  · exact .inl rfl
  simp only [on_store]
  rcases documented with _ | ⟨doc, params⟩
  · exact .inl rfl
  rcases m₂.store.functions[id]? with _ | f
  · exact .inl rfl
  · let g : Guard := ⟨id, ⟨styles, .fail⟩, name, doc, params, m₂.store.functionSignature f⟩
    exact .inr ⟨g, f, m₂, rfl, fun _ => rfl⟩

/-! ### The reactions -/

/-- Two functions that the same guard stands before, but for the reaction: the first guard fails on
a mismatch, and the second warns. -/
structure Guard.Pair (g : Guard) (f h : Function) : Prop where
  fails : f.behaviour = .guard (g.reacting .fail)
  warns : h.behaviour = .guard (g.reacting .warn)

/-- What holds of a check that fails on a mismatch and one that warns, both in these styles, wherever
they are made. -/
structure ReactionsAgree (styleNames : List String) (styles : List Style) : Prop where
  /-- Checks of arguments that are given end alike. -/
  arguments : ∀ w inProgram place doc params args m,
    Alike (w.ofArguments args) inProgram (gatherIn styles place doc params args) m
      (on w (checkArguments ask inProgram ⟨styleNames, some "raise"⟩ place doc params args) m)
      (on w (checkArguments ask inProgram ⟨styleNames, some "warn"⟩ place doc params args) m)
  /-- Checks of a call that is given end alike. -/
  given : ∀ w inProgram given m, Alike w.ofCheck inProgram (gatherCall styles (some given)) m
    (on w (checkGiven ask inProgram ⟨styleNames, some "raise"⟩ given) m)
    (on w (checkGiven ask inProgram ⟨styleNames, some "warn"⟩ given) m)
  /-- A function is guarded in both ways or in none, and the guards differ in the reaction only. -/
  guarded : ∀ w id m,
    let raised := on w (guardFunction ask ⟨styleNames, some "raise"⟩ id) m
    let warned := on w (guardFunction ask ⟨styleNames, some "warn"⟩ id) m
    raised = warned ∨ ∃ (g : Guard) (f : Function) (m' : Machine), g.options.styles = styles
      ∧ raised = on w (Run.newFunction (guardOf f id (g.reacting .fail))) m'
      ∧ warned = on w (Run.newFunction (guardOf f id (g.reacting .warn))) m'
  /-- Calls of two functions guarded like this come to the same if they do not bind, or if there is
  no room for a check. Otherwise they are judged alike, and then each ends or goes on to the
  function. -/
  called : ∀ (g : Guard) (f h : Function), g.Pair f h → ∀ w args keywords m,
    let raised := on w (callFunction ask f args keywords) m
    let warned := on w (callFunction ask h args keywords) m
    (w.levels < Guard.room ∨ g.signature.bindStrictly? args keywords = none → raised = warned)
      ∧ ∀ binding, Guard.room ≤ w.levels → g.signature.bindStrictly? args keywords = some binding →
        ∃ first second, Alike (g.world w args keywords) (Frame.inProgram (framesOf w.layers).head?)
            (g.gathers binding) m first second
          ∧ raised = g.afterCheck w args keywords first
          ∧ warned = g.afterCheck w args keywords second
  /-- What is found among arguments, those that are given or those of a guarded call, are the tags of
  the documentation, with the arguments. -/
  judged : ∀ w styles at' doc params args m place findings m',
    on w (gatherIn styles at' doc params args) m = (.ok (.found place findings), m') →
      place = at' ∧ ToldOf params (Finding.arguedIn styles doc params args) findings
  /-- What is found in a given call are the tags of some documentation, with the arguments. -/
  found : ∀ w given m place findings m',
    on w (gatherCall styles (some given)) m = (.ok (.found place findings), m') →
      ∃ f doc params m₁ m₂, on w (checkable? ask f) m₁ = (.ok (some (doc, params)), m₂)
        ∧ ToldOf params (Finding.arguedIn styles (some doc) params given.args) findings
  /-- A plain name is the same in the log and in the wording. -/
  named : ∀ place name, Value.Names place name → ∀ m,
    Gives (loggedName? ask place) m (placeName? name)
      ∧ ∀ v, Gives (mismatchAt ask place v) m ⟨v, placeName? name⟩
  /-- Where the types of the arguments can be told without changing anything, and warnings are shown,
  checks of arguments end with the verdict on the findings. -/
  told : ∀ w place name doc params args (types : Value → String) m, Value.Names place name → placeName? name = name →
    (∀ record ∈ Finding.arguedIn styles doc params args,
      Gives (typeNameOf ask record.2) m (types record.2)) →
    let findings := (Finding.arguedIn styles doc params args).map fun record =>
      Finding.ofTag params record.1 (types record.2)
    (∀ inProgram,
      on w (checkArguments ask inProgram ⟨styleNames, some "raise"⟩ place doc params args) m
        = on w (Run.follow (.ofFindings .fail name findings)) m)
      ∧ (m.store.warnings = .shown →
        on w (checkArguments ask false ⟨styleNames, some "warn"⟩ place doc params args) m
          = on w (Run.follow (.ofFindings .warn name findings)) m)

/-- Two calls that go through guards which differ in their reaction are judged alike. -/
theorem Guard.Pair.alike {g : Guard} {f h : Function} (pair : g.Pair f h) (w : World)
    {args : List Value} {keywords : Bindings Value} (m : Machine) (room : Guard.room ≤ w.levels)
    {binding : Binding} (binds : g.signature.bindStrictly? args keywords = some binding) :
    ∃ first second, Alike (g.world w args keywords) (Frame.inProgram (framesOf w.layers).head?)
        (g.gathers binding) m first second
      ∧ on w (callFunction ask f args keywords) m = g.afterCheck w args keywords first
      ∧ on w (callFunction ask h args keywords) m = g.afterCheck w args keywords second :=
  ⟨_, _, alike_conclude (inquires_gatherIn ..),
    g.on_callFunction_of_bindStrictly? w args keywords m pair.fails room binds,
    g.on_callFunction_of_bindStrictly? w args keywords m pair.warns room binds⟩

section Named

variable {styleNames : List String} {styles : List Style}
variable (named : Style.ofNames styleNames = .ok styles) (w : World) (m : Machine)
include named

/-- A check of given arguments finds what is to be found, and comes to a conclusion. -/
theorem on_checkArguments_eq_gatherIn (inProgram : Bool) (place : Value) (doc : Option String)
    (params : List String) (args : List Value) (reaction : OnMismatch) :
    on w (checkArguments ask inProgram ⟨styleNames, some reaction.name⟩ place doc params args) m
      = on (w.ofArguments args) (gatherIn styles place doc params args
          >>= Gathered.conclude inProgram reaction) m := by
  have valid := CheckOptions.ofNames_of_named named reaction
  rw [checkArguments, on_inFunction, (gives_options valid m).bind, judgeIn_eq_gatherIn,
    World.ofArguments]

/-- A check of a given call finds what is to be found, and comes to a conclusion. -/
theorem on_checkGiven_eq_gatherCall (inProgram : Bool) (given : RunningCall)
    (reaction : OnMismatch) :
    on w (checkGiven ask inProgram ⟨styleNames, some reaction.name⟩ given) m
      = on w.ofCheck (gatherCall styles (some given)
          >>= Gathered.conclude inProgram reaction) m := by
  have valid := CheckOptions.ofNames_of_named named reaction
  rw [checkGiven, on_inFunction, (gives_options valid m).bind, checkCall_eq_gatherCall,
    World.ofCheck]

theorem on_guardFunction_eq_guarding (id : FunctionId) (reaction : OnMismatch) :
    on w (guardFunction ask ⟨styleNames, some reaction.name⟩ id) m
      = on (w.inFunction "docparams.validate" "validated" [("func", .function id)])
          (guarding ⟨styles, reaction⟩ id) m := by
  have valid := CheckOptions.ofNames_of_named named reaction
  rw [guardFunction, on_inFunction, (gives_options valid m).bind]
  rfl

end Named

/-- **Failing and warning speak of the same mismatch.** In known styles, a check that fails on a
mismatch and one that warns, of arguments or of a call that is given, or of the call of a guarded
function, find the same and end alike (see `Alike`): something failed that they asked on the way; or
nothing differs, of which at most a detail is logged; or the first mismatch is logged once, and then
the one fails with the wording that the other gives a warning with. -/
theorem reactions_agree {styleNames : List String} (known : Style.AreKnown styleNames) :
    ∃ styles, Style.ofNames styleNames = .ok styles ∧ ReactionsAgree styleNames styles := by
  obtain ⟨styles, named, -⟩ := Style.exists_ofNames_eq known
  -- the checks gather the same whatever the reaction is, and what follows is alike
  refine ⟨styles, named, {
    arguments := fun w inProgram place doc params args m => ?arguments
    given := fun w inProgram given m => ?given
    guarded := fun w id m => ?guarded
    called := fun g f h pair w args keywords m => ?called
    judged := fun _ _ _ _ _ _ _ _ _ _ => toldOf_gatherIn
    found := fun _ _ _ _ _ _ => toldOf_gatherCall
    named := fun _ _ plain m => ⟨plain.loggedName? ask m, fun v => plain.mismatchAt ask v m⟩
    told := fun w place name doc params args types m plain same asked => ?told }⟩
  case arguments =>
    have checks := on_checkArguments_eq_gatherIn named w m inProgram place doc params args
    have alike : Alike (w.ofArguments args) inProgram _ m _ _ :=
      alike_conclude (inquires_gatherIn styles place doc params args)
    rw [← checks .fail, ← checks .warn] at alike
    exact alike
  case given =>
    have checks := on_checkGiven_eq_gatherCall named w m inProgram given
    have alike : Alike w.ofCheck inProgram _ m _ _ :=
      alike_conclude (inquires_gatherCall styles (some given))
    rw [← checks .fail, ← checks .warn] at alike
    exact alike
  case guarded =>
    have guards := on_guardFunction_eq_guarding named w m id
    have pair := on_guarding (w.inFunction "docparams.validate" "validated" [("func", .function id)])
      styles id m
    rw [← guards, ← guards] at pair
    refine pair.imp_right ?_
    rintro ⟨g, f, m', same, guarded⟩
    exact ⟨g, f, m', same, (guards .fail).trans (guarded .fail),
      (guards .warn).trans (guarded .warn)⟩
  case called =>
    exact ⟨g.on_callFunction_of_unjudged w args keywords m pair.fails pair.warns,
      fun _ room binds => pair.alike w m room binds⟩
  case told =>
    exact ⟨fun inProgram => on_checkArguments_of_told named plain same asked .fail nofun,
      fun shown => on_checkArguments_of_told named plain same asked .warn fun _ => ⟨rfl, shown⟩⟩

/-- Of `f("x", "y")` both checks speak of the first argument, and the second does not matter. -/
theorem reactions_agree_first :
    Style.AreKnown ["phpdoc"]
      ∧ on Sample.world (checkArguments ask false ⟨["phpdoc"], some "raise"⟩ (sharedText "f")
          (some "@param int $a @param int $b") ["a", "b"] [.str 1 "x", .str 2 "y"]) Sample.machine
        = (.error (.mismatch ⟨⟨"a", "integer", "string"⟩, some "f"⟩ (some "f")),
          Sample.machine.reporting [.log (.mismatch (some "f") ⟨"a", "integer", "string"⟩)])
      ∧ on Sample.world (checkArguments ask false ⟨["phpdoc"], some "warn"⟩ (sharedText "f")
          (some "@param int $a @param int $b") ["a", "b"] [.str 1 "x", .str 2 "y"]) Sample.machine
        = (.ok (some ⟨"a", "integer", "string"⟩),
          Sample.machine.reporting [.log (.mismatch (some "f") ⟨"a", "integer", "string"⟩),
            .warning ⟨⟨"a", "integer", "string"⟩, some "f"⟩]) := by
  have known : Style.AreKnown ["phpdoc"] := ⟨by decide, by simpa using ⟨.phpdoc, rfl⟩⟩
  obtain ⟨styles, named, agree⟩ := reactions_agree known
  obtain rfl : styles = [.phpdoc] := (Except.ok.inj named).symm
  let records := Finding.arguedIn [.phpdoc] (some "@param int $a @param int $b") ["a", "b"]
    [.str 1 "x", .str 2 "y"]
  have texts : ∀ record ∈ records, record.2.isDirect = true := by decide +kernel
  obtain ⟨raised, warned⟩ := agree.told Sample.world (sharedText "f") (some "f")
    (some "@param int $a @param int $b") ["a", "b"] [.str 1 "x", .str 2 "y"] Value.typeName
    Sample.machine (.text 0 "f") rfl fun record hr =>
      (Value.IsAsMade.of_isDirect (texts record hr)).typeNameOf
  have first : Finding.firstViolation? (records.map fun record =>
      Finding.ofTag ["a", "b"] record.1 record.2.typeName) = some ⟨"a", "integer", "string"⟩ := by
    decide +kernel
  have verdict (reaction : OnMismatch) :=
    Verdict.ofFindings_of_firstViolation? first reaction (some "f")
  refine ⟨known, (raised false).trans ?_, (warned rfl).trans ?_⟩
  · rw [verdict, on_follow]
    rfl
  · rw [verdict, on_follow]
    rfl

/-! ### Where a check that warns speaks of no mismatch -/

namespace Noticed

/-- The options under which a check reacts like this to a mismatch. -/
def reacting (reaction : OnMismatch) : OptionNames :=
  ⟨["phpdoc"], some reaction.name⟩

/-- A guarded function with this reaction is called with a text for an integer, in a program that
makes this of warnings. -/
def warnedOf (use : WarningUse) (reaction : OnMismatch) : Session :=
  { program [
      .define (function "f" 1 [param "n"] (.str 1 "@param int $n") (some (reacting reaction)) []),
      call (.ofName "f") [.literal (.str 2 "s")]] with
    warnings := use }

/-- What is logged about the text. -/
def logged : Signal :=
  .log (.mismatch (some "f") ⟨"n", "integer", "string"⟩)

end Noticed

open Noticed

/-- **Where two checks do not speak of the same mismatch.** Where a warning cannot be noted, the
check that should warn is refused after the mismatch was logged, while the other one fails with the
mismatch. A program can also have warnings dropped, so that there is none, or have the check end with
it. And what a check asks of the arguments can fail, so that either check fails without any
mismatch. -/
theorem warning_refused :
    reported (noRegistry (reacting .fail)) = [(.fine, []), (.fine, []), (.mismatch, [logged])]
      ∧ reported (noRegistry (reacting .warn)) = [(.fine, []), (.fine, []), (.refused, [logged])]
      ∧ reported (warnedOf .dropped .warn) = [(.fine, []), (.fine, [logged])]
      ∧ reported (warnedOf .failing .warn) = [(.fine, []), (.warned, [logged])]
      ∧ reported (hiddenClass (reacting .fail)) = [(.fine, []), (.fine, []), (noStep, [])]
      ∧ reported (hiddenClass (reacting .warn)) = [(.fine, []), (.fine, []), (noStep, [])] := by
  refine ⟨?_, ?_, ?_, ?_, ?_, ?_⟩ <;> decide +kernel

end DocGuard

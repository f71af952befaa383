import DocGuard.Proofs.Program.Agreement
import DocGuard.Proofs.Program.Calling
import DocGuard.Proofs.Program.Type
import DocGuard.Program.Session
/-!
What a call of a guarded function comes to.

A guard judges a call before it lets it through. If the judgment fails, that is how the call ends.
Otherwise the guarded function is called once, with the same arguments and from a frame of the guard,
and what comes of this is passed on (`passOn`). So a guarded call is the judgment,
followed by the call that was asked for, as long as this call takes no notice of what is around it
(`aloneAt`). `GuardedCall.Transparent` collects what holds of each call that binds.

Which calls bind, and what is judged of them, was settled when the function was guarded. This and
other ways in which a guard is noticed are shown by programs at the end (`guard_noticed`).
-/

namespace DocGuard

open Run

/-- The machine after these signals. -/
def Machine.reporting (m : Machine) (signals : List Signal) : Machine :=
  { m with events := m.events ++ signals.map .reported }

theorem Machine.reporting_nil (m : Machine) : m.reporting [] = m := by
  rw [reporting, List.map_nil, List.append_nil]

/-- A warning that is noted down is no event, and changes nothing of what becomes of it. -/
theorem on_noteWarning_keeps (w : World) (inProgram : Bool) (m : Machine) :
    (on w (noteWarning inProgram) m).2.events = m.events
      ∧ (on w (noteWarning inProgram) m).2.store.warnings = m.store.warnings := by
  cases inProgram with
  | false => exact ⟨rfl, rfl⟩
  | true =>
    rw [noteWarning, Bool.not_true, if_neg Bool.false_ne_true, (gives_store m).bind]
    cases m.store.globals.get? "__warningregistry__" with
    | none => exact ⟨rfl, rfl⟩
    | some held =>
      simp only
      split <;> exact ⟨rfl, rfl⟩

/-- A warning that is given where warnings are shown is one event. -/
theorem events_of_on_giveWarning {w : World} {inProgram : Bool} {said : Mismatch} {m m' : Machine}
    (shown : m.store.warnings = .shown)
    (given : on w (giveWarning inProgram said) m = (.ok (), m')) :
    m'.events = m.events ++ [.reported (.warning said)] := by
  obtain ⟨events, warnings⟩ := on_noteWarning_keeps w inProgram m
  obtain ⟨_, noted, notes, given⟩ := on_bind_eq_ok_iff.1 given
  rw [notes] at events warnings
  rw [(gives_store noted).bind, warnings, shown] at given
  cases given
  exact congrArg (· ++ _) events

/-! ### Guarded calls -/

/-- How a call that went through a guard ends: a failure is passed on as it is, and a result once the
guard has ended too. -/
def passOn (w : World) : Except Fault Value × Machine → Except Fault Value × Machine
  | (.error e, m) => (.error e, m)
  | (.ok v, m) => on w (do
      Run.retaining [v] (giveUp ask)
      return v) m

namespace Guard

variable (g : Guard) (w : World) (args : List Value) (keywords : Bindings Value) (m : Machine)

/-- The world inside the guard. -/
def world : World :=
  w.inside (.frame (.guarding g.inner g.place args keywords (g.judgedValues? args keywords)))

variable {w} (check : Bool → Run Unit)

/-- A check that fails is how the call ends. After any other check the function is called. -/
theorem on_letThrough (room : Guard.room ≤ w.levels) :
    on w (g.letThrough ask args keywords check) m
      = match on (g.world w args keywords) (check (Frame.inProgram (framesOf w.layers).head?)) m with
        | (.error e, m') => (.error e, m')
        | (.ok _, m') =>
          passOn w (on (g.world w args keywords) (ask (.function g.inner) args keywords) m') := by
  have enough : on w (Run.hasRoom Guard.room) m = (.ok true, m) := by
    rw [on_hasRoom, decide_eq_true room]
  rw [letThrough, on_bind, enough]
  show on w (Run.nearest >>= _) m = _
  rw [on_bind, on_nearest]
  show on w (Run.within _ _ >>= _) m = _
  rw [on_bind, on_within, on_bind, ← world]
  rcases on (g.world w args keywords) (check _) m with ⟨_ | _, m'⟩
  · rfl
  · simp only
    rcases on (g.world w args keywords) (ask (.function g.inner) args keywords) m' with ⟨_ | _, _⟩ <;>
      rfl

/-- Without room for validation nothing is checked or called. -/
theorem on_letThrough_of_lt (tight : w.levels < Guard.room) :
    on w (g.letThrough ask args keywords check) m = (.error .tooDeep, m) := by
  have none : on w (Run.hasRoom Guard.room) m = (.ok false, m) := by
    rw [on_hasRoom, decide_eq_false (Nat.not_le.2 tight)]
  rw [letThrough, on_bind, none]
  rfl

end Guard

/-- A call of a function that this guard stands before, at any time after it was guarded: both may
have been changed, but for the guard itself and for the parameters of the function. -/
structure GuardedCall (g : Guard) where
  machine : Machine
  id : FunctionId
  wrapper : Function
  function : Function
  code : Code
  outer : Bindings CellId
  /-- What is around the call. -/
  layers : List Layer
  /-- How many calls may go on inside it, one inside the other. -/
  levels : Nat
  args : List Value
  keywords : Bindings Value
  stored : machine.store.functions[id]? = some wrapper
  guards : wrapper.behaviour = .guard g
  inner : machine.store.functions[g.inner]? = some function
  runs : function.behaviour = .run code outer
  signature : machine.store.codeSignature code function.defaults function.keywordDefaults
    = g.signature
  /-- There is room for the calls that validation makes. -/
  room : Guard.room ≤ levels

namespace GuardedCall

variable {g : Guard} (c : GuardedCall g)

/-- What the call comes to. -/
def outcome : Except Fault Value × Machine :=
  callAt (c.levels + 1) c.layers (.function c.id) c.args c.keywords c.machine

/-- What the same call of the function itself comes to. -/
def direct (m : Machine) : Except Fault Value × Machine :=
  callAt (c.levels + 1) c.layers (.function g.inner) c.args c.keywords m

/-- What is around the call. -/
def world : World :=
  .at c.levels c.layers

/-- The world inside the guard. -/
def inside : World :=
  g.world c.world c.args c.keywords

/-- What the guard's call of the function comes to. -/
def called (m : Machine) : Except Fault Value × Machine :=
  callAt c.levels c.inside.layers (.function g.inner) c.args c.keywords m

/-- The call comes from the text of the program. -/
def inProgram : Bool :=
  Frame.inProgram (framesOf c.layers).head?

/-- What the judgment of a call that binds comes to. -/
def judged (binding : Binding) : Except Fault (Option Violation) × Machine :=
  on c.inside ((g.judgment binding).run ask c.inProgram) c.machine

/-- The types of what is judged can be told without running anything of the program. -/
def Told (binding : Binding) (types : Value → String) : Prop :=
  ∀ record ∈ (g.judgment binding).records,
    Gives (typeNameOf ask record.2) c.machine (types record.2)

/-- The types of values that are as they were made are told at once. -/
theorem told_of_isAsMade {binding : Binding}
    (made : ∀ name ∈ g.params, (binding.givenFor name).IsAsMade c.machine.store) :
    c.Told binding Value.typeName := by
  intro record hr
  obtain ⟨name, hname, given⟩ := List.mem_map.1 (Finding.mem_of_mem_arguedIn hr).1
  exact (given ▸ made name hname).typeNameOf

/-- The call is examined, and then goes to the function. -/
theorem outcome_eq : c.outcome
    = match on c.inside
        (g.examine ask c.inProgram (g.judgedValues? c.args c.keywords)) c.machine with
      | (.error e, m) => (.error e, m)
      | (.ok _, m) => passOn c.world (c.called m) := by
  rw [outcome, on_callAt_function c.stored, callFunction_of_guard c.guards,
    g.on_letThrough _ _ _ _ c.room]
  rfl

/-- The function that is called from inside the guard is called one level deeper. -/
theorem called_of_stored {m : Machine} {f : Function}
    (stored : m.store.functions[g.inner]? = some f) :
    c.called m = on (.at (c.levels - 1) c.inside.layers) (callFunction ask f c.args c.keywords) m := by
  obtain ⟨k, hk⟩ : ∃ k, c.levels = k + 1 := by
    have room := c.room
    simp only [Guard.room] at room
    exact ⟨c.levels - 1, by omega⟩
  rw [called, hk]
  exact on_callAt_function stored k _ _ _

/-- Of a call that does not bind nothing is judged, and nothing happens but that it is refused. -/
theorem outcome_of_bind?_eq_none (unbound : g.signature.bind? c.args c.keywords = none) :
    c.outcome = (.error .badCall, c.machine) := by
  have nothing : g.judgedValues? c.args c.keywords = none := by
    rw [Guard.judgedValues?, Signature.bindStrictly?, unbound, ite_self]
    rfl
  have refused : c.called c.machine = (.error .badCall, c.machine) := by
    rw [c.called_of_stored c.inner]
    exact on_callFunction_of_bind?_eq_none c.runs c.signature unbound _
  rw [outcome_eq, nothing]
  show passOn c.world (c.called c.machine) = _
  rw [refused]
  rfl

/-- The function itself refuses such a call in the same way. -/
theorem direct_of_bind?_eq_none (unbound : g.signature.bind? c.args c.keywords = none) :
    c.direct c.machine = (.error .badCall, c.machine) := by
  rw [direct, on_callAt_function c.inner]
  exact on_callFunction_of_bind?_eq_none c.runs c.signature unbound _

section Binds

variable {binding : Binding} (binds : g.signature.bind? c.args c.keywords = some binding)
include binds

/-- The function is entered with what was bound. -/
theorem called_eq {m : Machine} {f : Function} {code : Code} {outer : Bindings CellId}
    (stored : m.store.functions[g.inner]? = some f) (runs : f.behaviour = .run code outer)
    (signature : m.store.codeSignature code f.defaults f.keywordDefaults = g.signature) :
    c.called m = on (.at (c.levels - 1) c.inside.layers)
      (runEntered ask g.signature code m.entryMark
        (m.entryVariables g.signature code binding outer))
      (m.entered g.signature code binding) := by
  rw [c.called_of_stored stored]
  exact on_callFunction_of_bind?_eq_some runs signature binds _

/-- A call that binds is judged, unless a keyword has the name of an unfilled parameter that is
positional only. -/
theorem outcome_of_bind? (plain : g.signature.namesPositionalOnly c.args c.keywords = false) :
    c.outcome = match c.judged binding with
      | (.error e, m) => (.error e, m)
      | (.ok _, m) => passOn c.world (c.called m) := by
  rw [outcome_eq, g.examine_of_bind? ask c.inProgram binds, plain, if_neg Bool.false_ne_true,
    on_discard, judged]
  rcases on c.inside ((g.judgment binding).run ask c.inProgram) c.machine with
    ⟨_ | _, _⟩ <;> rfl

end Binds

/-- What the guard passes on of a call that takes no notice of what is around it is all that this
call does. -/
theorem passOn_called_of_aloneAt {m : Machine} {f : Function} {code : Code}
    {outer : Bindings CellId} (stored : m.store.functions[g.inner]? = some f)
    (runs : f.behaviour = .run code outer) {n : Nat} (enough : n ≤ c.levels) {e : Effect Value}
    (alone : aloneAt n [] (.function g.inner) c.args c.keywords m.store = some e) :
    passOn c.world (c.called m) = e.on m.events := by
  have called : c.called m = e.on m.events :=
    callAt_of_aloneAt alone enough c.inside.layers m.events
  rw [called, Effect.on]
  cases returns : e.result with
  | error _ => rfl
  | ok v =>
    -- when the guard ends, nothing is left for it to give up
    have quiet := giveUp_of_aloneAt stored runs alone returns
    rw [passOn, on_bind, on_retaining, quiet]
    rfl

/-- What holds of a call that binds. The guard judges `binding`, under `name`. -/
structure Transparent (name : String) (binding : Binding) : Prop where
  /-- If the judgment fails, this is how the call ends. -/
  refused : ∀ e m, c.judged binding = (.error e, m) → c.outcome = (.error e, m)
  /-- Otherwise the function is called once, with the same arguments, and what comes of this is
  passed on. -/
  passed : ∀ found m, c.judged binding = (.ok found, m) → c.outcome = passOn c.world (c.called m)
  /-- The function is entered with what was bound, as long as it keeps its parameters. -/
  entered : ∀ m f code outer, m.store.functions[g.inner]? = some f →
    f.behaviour = .run code outer →
    m.store.codeSignature code f.defaults f.keywordDefaults = g.signature →
    c.called m = on (.at (c.levels - 1) c.inside.layers)
      (runEntered ask g.signature code m.entryMark
        (m.entryVariables g.signature code binding outer))
      (m.entered g.signature code binding)
  /-- With the reaction to fail, the call fails with the first violation, and nothing but the log
  changes. -/
  mismatch : ∀ types v, c.Told binding types → (g.judgment binding).violation? types = some v →
    g.options.reaction = .fail →
    c.outcome = (.error (.mismatch ⟨v, placeName? (some name)⟩ (some name)),
      c.machine.reporting [.log (.mismatch (placeName? (some name)) v)])
  /-- With the reaction to warn, the violation is logged, and one warning is given. -/
  warned : ∀ types v, c.Told binding types → (g.judgment binding).violation? types = some v →
    g.options.reaction = .warn →
    c.judged binding = on c.inside (do
        giveWarning c.inProgram ⟨v, placeName? (some name)⟩
        return some v) (c.machine.reporting [.log (.mismatch (placeName? (some name)) v)])
  /-- Without a violation, the judgment only reports that it was skipped, if it was. -/
  fits : ∀ types, c.Told binding types → (g.judgment binding).violation? types = none →
    c.judged binding = (.ok none, c.machine.reporting (Verdict.ofFindings g.options.reaction
      (placeName? (some name)) ((g.judgment binding).findings types)).signals)
  /-- Whenever the function is called and warnings are shown, the judgment has reported what its
  verdict says. -/
  reported : ∀ types found m, c.Told binding types → c.machine.store.warnings = .shown →
    c.judged binding = (.ok found, m) →
    found = (g.judgment binding).violation? types
      ∧ m.events = c.machine.events ++ (Verdict.ofFindings g.options.reaction
          (placeName? (some name)) ((g.judgment binding).findings types)).signals.map .reported
  /-- If the function takes no notice of what is around it, the call comes to the same as a call of
  the function itself after the judgment. -/
  alone : ∀ found m f code outer, c.judged binding = (.ok found, m) →
    m.store.functions[g.inner]? = some f → f.behaviour = .run code outer →
    ∀ n e, n ≤ c.levels →
      aloneAt n [] (.function g.inner) c.args c.keywords m.store = some e →
      c.outcome = c.direct m ∧ c.outcome = e.on m.events

section Transparent

variable {name : String} {binding : Binding} (place : g.place = sharedText name)
include place

theorem judged_of_violation?_eq_some {types : Value → String} (told : c.Told binding types)
    {v : Violation} (violated : (g.judgment binding).violation? types = some v) :
    c.judged binding
      = on c.inside (match g.options.reaction with
          | .fail => throw (.mismatch ⟨v, placeName? (some name)⟩ (some name))
          | .warn => do
            giveWarning c.inProgram ⟨v, placeName? (some name)⟩
            return some v) (c.machine.reporting [.log (.mismatch (placeName? (some name)) v)]) := by
  have plain : (g.judgment binding).place.Names (some name) := by
    rw [Guard.judgment, place]
    exact .text 0 name
  exact Judgment.on_run_of_violation?_eq_some plain told violated

theorem judged_of_violation?_eq_none {types : Value → String} (told : c.Told binding types)
    (fine : (g.judgment binding).violation? types = none) :
    c.judged binding = (.ok none, c.machine.reporting (Verdict.ofFindings g.options.reaction
      (placeName? (some name)) ((g.judgment binding).findings types)).signals) := by
  have plain : (g.judgment binding).place.Names (some name) := by
    rw [Guard.judgment, place]
    exact .text 0 name
  rw [judged, Judgment.on_run_of_violation?_eq_none plain told fine, on_follow,
    Verdict.result_ofFindings_of_firstViolation? fine]
  rfl

/-- A judgment that ends has found what there is to be found, and has reported its verdict. -/
theorem reported_of_judged {types : Value → String} (told : c.Told binding types)
    (shown : c.machine.store.warnings = .shown) {found : Option Violation} {m : Machine}
    (ended : c.judged binding = (.ok found, m)) :
    found = (g.judgment binding).violation? types
      ∧ m.events = c.machine.events ++ (Verdict.ofFindings g.options.reaction
          (placeName? (some name)) ((g.judgment binding).findings types)).signals.map
            .reported := by
  cases violated : (g.judgment binding).violation? types with
  | none =>
    rw [c.judged_of_violation?_eq_none place told violated] at ended
    cases ended
    exact ⟨rfl, rfl⟩
  | some v =>
    rw [c.judged_of_violation?_eq_some place told violated] at ended
    rw [Verdict.ofFindings_of_firstViolation? violated]
    -- a judgment that fails does not end, so that only the warning is left
    cases reaction : g.options.reaction with
    | fail =>
      rw [reaction] at ended
      cases ended
    | warn =>
      rw [reaction] at ended
      have shown : (c.machine.reporting [.log (.mismatch (placeName? (some name)) v)]).store.warnings
          = .shown := shown
      obtain ⟨_, warned, given, ended⟩ := on_bind_eq_ok_iff.1 ended
      cases ended
      refine ⟨rfl, (events_of_on_giveWarning shown given).trans ?_⟩
      exact List.append_assoc ..

/-- The guard is transparent. -/
theorem transparent (binds : g.signature.bind? c.args c.keywords = some binding)
    (plain : g.signature.namesPositionalOnly c.args c.keywords = false) :
    c.Transparent name binding where
  refused e m failed := by rw [c.outcome_of_bind? binds plain, failed]
  passed found m ended := by rw [c.outcome_of_bind? binds plain, ended]
  entered m f code outer stored runs signature := c.called_eq binds stored runs signature
  mismatch types v told violated reaction := by
    rw [c.outcome_of_bind? binds plain,
      c.judged_of_violation?_eq_some place told violated, reaction]
    rfl
  warned types v told violated reaction := by
    rw [c.judged_of_violation?_eq_some place told violated, reaction]
  fits types told fine := c.judged_of_violation?_eq_none place told fine
  reported types found m told shown ended := c.reported_of_judged place told shown ended
  alone found m f code outer ended stored runs n e enough alone := by
    have whole : c.outcome = e.on m.events := by
      rw [c.outcome_of_bind? binds plain, ended]
      exact c.passOn_called_of_aloneAt stored runs enough alone
    have direct : c.direct m = e.on m.events :=
      callAt_of_aloneAt alone (Nat.le_succ_of_le enough) c.layers m.events
    exact ⟨whole.trans direct.symm, whole⟩

end Transparent

end GuardedCall

/-- **A guard is transparent, or keeps the call out.** A function without documentation or
parameters is left as it is. Any other function gets a guard, and from then on, whatever the program
did to both except that it gave the function other parameters or defaults:

* a call that does not bind is refused as by the function itself, and nothing else happens;
* a call that binds is judged, and then goes to the function as `GuardedCall.Transparent` tells,
  unless a keyword has the name of an unfilled parameter that is positional only. -/
theorem guard_transparent {names : OptionNames} {options : CheckOptions}
    (valid : CheckOptions.ofNames names.styles names.reaction = .ok options) {face : Face}
    (d : Decoration face) :
    (face.checkable? = none →
      ∀ w, on w (guardFunction d.call names d.id) d.machine
        = (.ok d.id, d.machine.reporting [.log (.notGuarded face.name)]))
    ∧ ∀ doc params, face.checkable? = some (doc, params) →
      let guard := face.guard options doc d.id
      (∀ w, on w (guardFunction d.call names d.id) d.machine
          = (.ok d.machine.store.functions.size, { d.machine with
              store := { d.machine.store with
                functions := d.machine.store.functions.push (guardOf d.function d.id guard) } }))
        ∧ ∀ c : GuardedCall guard,
          (face.signature.bind? c.args c.keywords = none →
            c.outcome = (.error .badCall, c.machine)
              ∧ c.direct c.machine = (.error .badCall, c.machine))
          ∧ ∀ binding, face.signature.bind? c.args c.keywords = some binding →
            face.signature.namesPositionalOnly c.args c.keywords = false →
            c.Transparent face.name binding := by
  refine ⟨fun nothing w => d.shows.on_guardFunction_of_none d.call valid nothing,
    fun doc params documented => ?_⟩
  have speaks := Face.eq_documentable_of_checkable? documented
  subst speaks
  refine ⟨fun w => d.shows.on_guardFunction d.call valid documented,
    fun c => ⟨fun unbound => ?_, ?_⟩⟩
  · exact ⟨c.outcome_of_bind?_eq_none unbound, c.direct_of_bind?_eq_none unbound⟩
  · exact fun binding binds plain => c.transparent rfl binds plain

/-! ### A function that returns its argument -/

namespace Identity

/-- The code of a function that keeps its argument under another name, has it written out, and
returns it. -/
def code : Code :=
  ⟨1, "f", "f", "f", [⟨"a", .positional, none⟩],
    [.set (.ofName "b") (.path (.ofName "a")),
      .call (.ofName "str") [.path (.ofName "b")] [] none,
      .return (.path (.ofName "b"))]⟩

/-- The documentation of the function. -/
def doc : String := "@param int $a"

/-- A function `f(a)` whose documentation says that `a` is an integer. -/
def function : Function :=
  { Sample.function with
    doc := .str 1 Identity.doc
    defaults := .none
    behaviour := .run code [] }

/-- What the function shows. -/
def face : Face where
  signature := [⟨"a", .positional, none⟩]
  doc := some Identity.doc
  qualifiedName := "f"
  plainName := "f"

/-- The guard of the function. -/
def guard : Guard :=
  face.guard Sample.options doc 0

/-- A program that defined the function and some others. -/
def machineOf (functions : Array Function) : Machine :=
  ⟨{ Sample.machine.store with functions }, []⟩

theorem shows : Shows (machineOf #[function]).store 0 function code face where
  stored := rfl
  runs := rfl
  signature := rfl
  distinct := by decide
  defaults := Nat.zero_le 1
  doc := rfl
  qualifiedName := rfl
  plainName := rfl
  own _ _ := rfl

/-- The function, about to be guarded. -/
def decoration : Decoration face where
  call := ask
  machine := machineOf #[function]
  id := 0
  function := function
  code := code
  shows := shows

/-- A call of the guarded function from the module. -/
def call (args : List Value) : GuardedCall guard where
  machine := machineOf #[function, guardOf function 0 guard]
  id := 1
  wrapper := guardOf function 0 guard
  function := function
  code := code
  outer := []
  layers := [.frame .module]
  levels := 60
  args := args
  keywords := []
  stored := rfl
  guards := rfl
  inner := rfl
  runs := rfl
  signature := rfl
  room := by decide

/-- What a call with one argument gives to the parameter. -/
def binding (v : Value) : Binding := ⟨[("a", v)], [], []⟩

theorem told {v : Value} (direct : v.isDirect = true) :
    (Identity.call [v]).Told (binding v) Value.typeName :=
  (Identity.call [v]).told_of_isAsMade fun name h => by
    cases List.mem_singleton.1 h
    exact .of_isDirect direct

/-- What the call of `f(3)` comes to alone. -/
def alone : Option (Effect Value) :=
  aloneAt 10 [] (.function 0) [.int 5 3] [] (Identity.call []).machine.store

/-- The effect is to return three. -/
def returnsThree (e : Option (Effect Value)) : Bool :=
  match e with
  | some ⟨.ok (.int 5 n), _, _⟩ => n == 3
  | _ => false

theorem exists_of_returnsThree {e : Option (Effect Value)} (h : returnsThree e = true) :
    ∃ e', e = some e' ∧ e'.result = .ok (.int 5 3) := by
  unfold returnsThree at h
  split at h
  · next n s es =>
    rw [eq_of_beq h]
    exact ⟨_, rfl, rfl⟩
  · cases h

end Identity

open Identity

/-- `f()` does not bind, `f("x")` is a mismatch, and `f(3)` is what it would be without the guard.
-/
theorem guard_transparent_identity :
    CheckOptions.ofNames Sample.names.styles Sample.names.reaction = .ok Sample.options
      ∧ (Identity.call []).outcome = (.error .badCall, (Identity.call []).machine)
      ∧ (Identity.call [.str 6 "x"]).outcome
        = (.error (.mismatch ⟨⟨"a", "integer", "string"⟩, some "f"⟩ (some "f")),
          (Identity.call []).machine.reporting
            [.log (.mismatch (some "f") ⟨"a", "integer", "string"⟩)])
      ∧ (Identity.call [.int 5 3]).outcome
        = (Identity.call [.int 5 3]).direct (Identity.call [.int 5 3]).machine
      ∧ (Identity.call [.int 5 3]).outcome.1 = .ok (.int 5 3) := by
  obtain ⟨-, guarded⟩ := guard_transparent Sample.valid decoration
  obtain ⟨-, calls⟩ := guarded doc ["a"] rfl
  refine ⟨Sample.valid, ((calls (Identity.call [])).1 rfl).1, ?_, ?_⟩
  · have violated : (guard.judgment (binding (.str 6 "x"))).violation? Value.typeName
        = some ⟨"a", "integer", "string"⟩ := by
      decide +kernel
    have transparent := (calls (Identity.call [.str 6 "x"])).2 (binding (.str 6 "x")) rfl rfl
    exact transparent.mismatch Value.typeName _ (told rfl) violated rfl
  · let c := Identity.call [.int 5 3]
    have fine : (guard.judgment (binding (.int 5 3))).violation? Value.typeName = none := by
      decide +kernel
    have silence : (Verdict.ofFindings .fail (some "f")
        ((guard.judgment (binding (.int 5 3))).findings Value.typeName)).signals = [] := by
      decide +kernel
    have transparent := (calls c).2 (binding (.int 5 3)) rfl rfl
    have judged : c.judged (binding (.int 5 3)) = (.ok none, c.machine) := by
      refine (transparent.fits Value.typeName (told rfl) fine).trans ?_
      show (Except.ok none, c.machine.reporting (Verdict.ofFindings .fail (some "f")
        ((guard.judgment (binding (.int 5 3))).findings Value.typeName)).signals) = _
      rw [silence, Machine.reporting_nil]
    have three : returnsThree Identity.alone = true := by
      decide +kernel
    obtain ⟨e, alone, returns⟩ := exists_of_returnsThree three
    obtain ⟨same, whole⟩ := transparent.alone _ _ function code [] judged rfl rfl 10 e
      (by decide) alone
    exact ⟨same, (congrArg Prod.fst whole).trans returns⟩

/-! ### Where a guard is noticed -/

namespace Noticed

/-- A function in the text. -/
def function (name : String) (place : Nat) (params : List (Param Expr)) (doc : Value)
    (guard : Option OptionNames) (body : List Action) : Definition :=
  .function ⟨name, name, name, place, params, .literal doc, .plain, guard⟩ body

/-- A parameter without a default. -/
def param (name : String) : Param Expr := ⟨name, .positional, none⟩

/-- A call from the module. -/
def call (target : Path) (args : List Expr) : Step :=
  .call target args [] none false

/-- A program that runs these steps. -/
def program (steps : List Step) : Session := ⟨"m", true, steps, 20, .shown⟩

/-- How a computation ended. -/
inductive Ending where
  | fine
  | mismatch
  /-- The arguments of a call do not bind, or a value does not fit. -/
  | refused
  | warned
  /-- The value of an argument does not fit, as this text says. -/
  | misfit (message : String)
  | tooDeep
  | otherwise
deriving DecidableEq

namespace Ending

variable {α : Type}

/-- How a computation ended that came to this. -/
def ofResult : Except Fault α → Ending
  | .ok _ => fine
  | .error (.mismatch _ _) => mismatch
  | .error .badCall => refused
  | .error (.warned _) => warned
  | .error (.badValue message) => misfit message
  | .error .tooDeep => tooDeep
  | .error _ => otherwise

end Ending

/-- How each step of a program ended, and which functions were entered meanwhile. -/
def seen (session : Session) : List (Ending × List String) :=
  session.run.map fun o =>
    (.ofResult o.answer, o.events.filterMap fun | .entered f => some f | _ => none)

/-- How each step of a program ended, and what was reported meanwhile. -/
def reported (session : Session) : List (Ending × List Signal) :=
  session.run.map fun o =>
    (.ofResult o.answer, o.events.filterMap fun | .reported signal => some signal | _ => none)

/-- A guarded function `h(a, b=2)` loses its default, and is called with one text, first through its
guard and then itself. -/
def newParameters : Session := program [
  .define (function "h" 1 [param "a", ⟨"b", .positional, some (.literal (.int 1 2))⟩]
    (.str 2 "@param int $a") (some Sample.names) []),
  .act (.set ⟨⟨"h", false⟩, [⟨"__wrapped__", false⟩, ⟨"__defaults__", false⟩]⟩ (.literal .none)),
  call (.ofName "h") [.literal (.str 3 "s")],
  call ⟨⟨"h", false⟩, [⟨"__wrapped__", false⟩]⟩ [.literal (.str 4 "s")]]

/-- The body of a function that drops its argument `x` before it calls `g`. -/
def dropping : List Action := [.delete (.ofName "x"), .call (.ofName "g") [] [] none]

/-- A function and a guarded one do the same to an instance whose class asks to be told. -/
def lastReference : Session := program [
  .define (function "g" 1 [] .none none []),
  .define (.cls ⟨"D", "D", 2, [], .literal .none⟩ [
    function "__del__" 3 [param "self"] .none none []]),
  .define (function "plain" 4 [param "x", param "n"] .none none dropping),
  .define (function "f" 5 [param "x", param "n"] (.str 1 "@param int $n") (some Sample.names)
    dropping),
  call (.ofName "plain") [.path ⟨⟨"D", true⟩, []⟩, .literal (.int 2 1)],
  call (.ofName "f") [.path ⟨⟨"D", true⟩, []⟩, .literal (.int 3 1)]]

/-- Asks for a range without a step. -/
def misfitting : Action :=
  .call (.ofName "range") [.literal (.int 3 0), .literal (.int 4 9), .literal (.int 3 0)] [] none

/-- That this does not fit. -/
def noStep : Ending := .misfit "range() arg 3 must not be zero"

/-- A class, derived from these, of which the instances do this when they should show which class they
are. -/
def showingBy (bases : List Path) (action : Action) : Definition :=
  .cls ⟨"C", "C", 1, bases, .literal .none⟩ [
    .property "__class__" (.given ⟨"get", "get", "get", 2, [param "self"], .literal .none, .plain,
      none⟩ [action]) .missing]

/-- A function guarded under these options is given an instance of a class that asks for a range
without a step when it should show which class it is. -/
def hiddenClass (options : OptionNames) : Session := program [
  .define (showingBy [] misfitting),
  .define (function "f" 3 [param "n"] (.str 1 "@param int $n") (some options) []),
  call (.ofName "f") [.path ⟨⟨"C", true⟩, []⟩]]

/-- The globals hold a number where a warning is to be noted, and a function guarded under these
options is called with a text for an integer. -/
def noRegistry (options : OptionNames) : Session := program [
  .define (function "f" 1 [param "n"] (.str 1 "@param int $n") (some options) []),
  .act (.set (.ofName "__warningregistry__") (.literal (.int 2 3))),
  call (.ofName "f") [.literal (.str 3 "s")]]

end Noticed

open Noticed

/-- **Where a guard is noticed.** A function that lost a default is judged although the call does not
bind any more. The guard holds its arguments, so that the last reference to an instance is given up
later than by the function itself. The type of an argument is asked of its class, which can fail. A
warning that cannot be noted is refused. And validation needs room for calls of its own. -/
theorem guard_noticed :
    seen newParameters = [(.fine, []), (.fine, []), (.mismatch, []), (.refused, [])]
      ∧ seen lastReference = [(.fine, []), (.fine, []), (.fine, []), (.fine, []),
        (.fine, ["plain", "__del__", "g"]), (.fine, ["f", "g", "__del__"])]
      ∧ seen (hiddenClass Sample.names) = [(.fine, []), (.fine, []), (noStep, ["get"])]
      ∧ seen (noRegistry ⟨["phpdoc"], some "warn"⟩) = [(.fine, []), (.fine, []), (.refused, [])]
      ∧ Ending.ofResult (callAt 10 [.frame .module] (.function 1) [.int 5 3] []
        (Identity.call []).machine).1 = .tooDeep
      ∧ Ending.ofResult (callAt 10 [.frame .module] (.function 0) [.int 5 3] []
        (Identity.call []).machine).1 = .fine := by
  refine ⟨?_, ?_, ?_, ?_, ?_, ?_⟩ <;> decide +kernel

end DocGuard

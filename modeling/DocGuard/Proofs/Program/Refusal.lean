import DocGuard.Proofs.Program.Guarding
import DocGuard.Proofs.Program.Inquiry.Callable
import DocGuard.Proofs.Verdict.Refusal
/-!
Wrong options are refused first, and nothing else is.

Each check, of arguments, of a call that is given or of one that goes on, and the guarding of a
function look at their options before anything else. If these are wrong they fail and leave the
machine as it was; a definition that should be guarded has made its function by then, and binds
nothing. With other options they do not fail so by themselves: only what they call can
(`Run.Blameless`). It can indeed, and it can also fail in other ways that look alike to the program
(`right_options_fail`).
-/

namespace DocGuard

open Run

/-! ### Right options -/

/-- Some call that is made from inside the world fails like this. -/
def World.CallFails (w : World) (e : Fault) : Prop :=
  ∃ inner v args keywords m, (on (w.amid inner) (ask v args keywords) m).1 = .error e

namespace Run

variable {α β : Type} {w : World}

/-- The computation does not fail for wrong options unless a call fails so. -/
structure Blameless (w : World) (x : Run α) : Prop where
  called : ∀ inner m e, (on (w.amid inner) x m).1 = .error (.options e) → w.CallFails (.options e)

namespace Blameless

/-- Who only asks is not to blame. -/
theorem of_inquires {x : Run α} (asks : ∀ m, Inquires w m x) : Blameless w x := by
  refine ⟨fun inner m e failed => ?_⟩
  rcases (asks m).failure inner m _ .refl failed with other | ⟨inner', v, args, keywords, m', -, called⟩
  · cases other
  · exact ⟨inner', v, args, keywords, m', called⟩

theorem pure (a : α) : Blameless w (Pure.pure a : Run α) :=
  ⟨fun _ _ _ failed => by cases failed⟩

theorem throw {fault : Fault} (other : ∀ e, fault ≠ .options e) :
    Blameless w (MonadExcept.throw fault : Run α) :=
  ⟨fun _ _ e failed => absurd (Except.error.inj failed) (other e)⟩

theorem emit (event : Event) : Blameless w (Run.emit event) :=
  ⟨fun _ _ _ failed => by cases failed⟩

theorem follow (verdict : Verdict) : Blameless w (Run.follow verdict) := by
  refine ⟨fun inner m e failed => ?_⟩
  rw [on_follow] at failed
  generalize verdict.result = result at failed
  cases result <;> cases failed

theorem bind {x : Run α} {f : α → Run β} (hx : Blameless w x) (hf : ∀ a, Blameless w (f a)) :
    Blameless w (x >>= f) := by
  refine ⟨fun inner m e failed => ?_⟩
  have first := hx.called inner m e
  rw [on_bind] at failed
  generalize on (w.amid inner) x m = ended at first failed
  rcases ended with ⟨fault | a, m'⟩
  · exact first (congrArg Except.error (Except.error.inj failed))
  · exact (hf a).called inner m' e failed

theorem inFunction {x : Run α} (hx : Blameless w x) (home name : String) (params : Bindings Value) :
    Blameless w (Run.inFunction home name params x) := by
  refine ⟨fun inner m e failed => ?_⟩
  rw [on_inFunction] at failed
  exact hx.called (.frame (.ofFunction home name params) :: inner) m e failed

theorem ite {c : Prop} [Decidable c] {x y : Run α} (hx : Blameless w x) (hy : Blameless w y) :
    Blameless w (if c then x else y) := by
  split
  · exact hx
  · exact hy

end Blameless

end Run

section Checks

variable {w : World} (inProgram : Bool)

theorem blameless_noteWarning : Blameless w (noteWarning inProgram) := by
  refine .ite (.pure _) (Blameless.bind (.of_inquires fun _ => .store) fun s => ?_)
  split
  · refine Blameless.bind (.of_inquires fun _ => inquires_newInt 1) fun version => ?_
    refine Blameless.bind (.of_inquires fun _ => inquires_newNamespace _) fun noted => ?_
    exact .of_inquires fun _ => .change _
  · exact .ite (.pure _) (.throw nofun)

theorem blameless_giveWarning (said : Mismatch) : Blameless w (giveWarning inProgram said) := by
  refine (blameless_noteWarning inProgram).bind fun _ => ?_
  refine Blameless.bind (.of_inquires fun _ => .store) fun s => ?_
  split
  · exact .emit _
  · exact .pure _
  · exact .throw nofun

theorem blameless_followFindings (reaction : OnMismatch) (place : Value) (findings : List Finding) :
    Blameless w (followFindings ask inProgram reaction place findings) := by
  have name : Blameless w (loggedName? ask place) := .of_inquires fun _ => inquires_loggedName? place
  refine .ite (name.bind fun _ => Blameless.follow _) ?_
  split
  · exact .follow _
  · next v _ =>
    refine name.bind fun logged => (Blameless.emit _).bind fun _ => ?_
    refine Blameless.bind (.of_inquires fun _ => inquires_mismatchAt place v) fun said => ?_
    cases reaction with
    | fail => exact Blameless.bind (.of_inquires fun _ => .store) fun s => .throw nofun
    | warn => exact (blameless_giveWarning inProgram said).bind fun _ => .pure _

variable (options : CheckOptions)

theorem blameless_judgeIn (place : Value) (doc : Option String) (params : List String)
    (args : List Value) : Blameless w (judgeIn ask inProgram options place doc params args) := by
  refine Blameless.inFunction ?_ ..
  refine Blameless.bind (.of_inquires fun _ => inquires_extractIn ..) fun findings => ?_
  exact blameless_followFindings ..

theorem blameless_checkMethod (c : RunningCall) (method : String) :
    Blameless w (checkMethod ask inProgram options c method) := by
  refine Blameless.bind (.of_inquires fun _ => inquires_calledFunction c) fun called => ?_
  cases called with
  | none => exact .follow _
  | some f =>
    refine Blameless.bind (.of_inquires fun _ => inquires_checkable? f) fun documented => ?_
    cases documented with
    | none => exact .follow _
    | some documented =>
      refine Blameless.bind (.of_inquires fun _ => inquires_callableName f) fun name => ?_
      refine Blameless.bind (.of_inquires fun _ => inquires_isTrue name) fun counts => ?_
      exact blameless_judgeIn ..

theorem blameless_checkCall (c : Option RunningCall) :
    Blameless w (checkCall ask inProgram options c) := by
  unfold checkCall
  split
  · exact .follow _
  · exact .ite (.follow _) (blameless_checkMethod ..)

end Checks

/-! ### Wrong options -/

/-- The computation is refused for its options before it does anything, and otherwise does not fail
so unless a call fails so that it makes. -/
structure Run.RefusesFirst {α : Type} (refuses : OptionError → Prop) (x : Run α) : Prop where
  refused : ∀ e, refuses e → ∀ w m, on w x m = (.error (.options e), m)
  only : ∀ w m e, (on w x m).1 = .error (.options e) → refuses e ∨ w.CallFails (.options e)

namespace Run.RefusesFirst

variable {α : Type} {refuses : OptionError → Prop}

theorem inFunction {x : Run α} (h : RefusesFirst refuses x) (home name : String)
    (params : Bindings Value) : RefusesFirst refuses (Run.inFunction home name params x) where
  refused e refused w m := (on_inFunction ..).trans (h.refused e refused _ m)
  only w m e failed := by
    rw [on_inFunction] at failed
    refine (h.only _ m e failed).imp_right ?_
    rintro ⟨inner, v, args, keywords, m', called⟩
    refine ⟨inner ++ [.frame (.ofFunction home name params)], v, args, keywords, m', ?_⟩
    rw [World.amid, List.append_assoc]
    exact called

/-- What looks at its options, and then does not fail for them, is refused first. -/
theorem options_bind (names : OptionNames) {f : CheckOptions → Run α}
    (goesOn : ∀ w options, Blameless w (f options)) :
    RefusesFirst (CheckOptions.Refuses names.styles names.reaction)
      (Run.options names >>= f) where
  refused e refused w m := by
    rw [on_bind, on_options, CheckOptions.ofNames_eq_error_iff.2 refused]
    rfl
  only w m e failed := by
    rw [on_bind, on_options, ← CheckOptions.ofNames_eq_error_iff] at *
    cases read : CheckOptions.ofNames names.styles names.reaction with
    | error e' =>
      rw [read] at failed
      cases failed
      exact .inl rfl
    | ok options =>
      rw [read] at failed
      exact .inr ((goesOn w options).called [] m e failed)

end Run.RefusesFirst

section Entries

variable (names : OptionNames)

theorem refusesFirst_checkArguments (inProgram : Bool) (place : Value) (doc : Option String)
    (params : List String) (args : List Value) :
    RefusesFirst (CheckOptions.Refuses names.styles names.reaction)
      (checkArguments ask inProgram names place doc params args) :=
  .inFunction (.options_bind names fun _ _ => blameless_judgeIn ..) ..

theorem refusesFirst_checkGiven (inProgram : Bool) (given : RunningCall) :
    RefusesFirst (CheckOptions.Refuses names.styles names.reaction)
      (checkGiven ask inProgram names given) :=
  .inFunction (.options_bind names fun _ _ => blameless_checkCall ..) ..

theorem refusesFirst_checkFrames (frames : List Frame) :
    RefusesFirst (CheckOptions.Refuses names.styles names.reaction)
      (checkFrames ask names frames) := by
  refine .inFunction (.options_bind names fun _ options => ?_) ..
  refine Blameless.bind (.of_inquires fun _ => inquires_runningCall ..) fun c => ?_
  exact blameless_checkCall ..

theorem refusesFirst_guardFunction (id : FunctionId) :
    RefusesFirst (CheckOptions.Refuses names.styles names.reaction)
      (guardFunction ask names id) := by
  refine .inFunction (.options_bind names fun _ options => ?_) ..
  refine Blameless.bind (.of_inquires fun _ => inquires_checkable? _) fun documented => ?_
  refine Blameless.bind (.of_inquires fun _ => inquires_callableName _) fun name => ?_
  refine Blameless.bind (.of_inquires fun _ => .store) fun s => ?_
  split
  · exact .of_inquires fun _ => inquires_newFunction _
  · refine Blameless.bind (.of_inquires fun _ => inquires_textIn name) fun text => ?_
    exact (Blameless.emit _).bind fun _ => .pure _

theorem refusesFirst_extractNamed (doc : Option String) (params : List String) (args : List Value) :
    RefusesFirst (Style.Refuses names.styles) (extractNamed ask names.styles doc params args) where
  refused e refused w m := by
    rw [extractNamed, Style.ofNames_eq_error_iff.2 refused]
    rfl
  only w m e failed := by
    rw [← Style.ofNames_eq_error_iff]
    rw [extractNamed] at failed
    cases read : Style.ofNames names.styles with
    | error e' =>
      rw [read] at failed
      cases failed
      exact .inl rfl
    | ok styles =>
      rw [read] at failed
      have asks : Blameless w (extractIn ask styles doc params args) :=
        .of_inquires fun _ => inquires_extractIn ..
      exact .inr (asks.called [] m e failed)

end Entries

/-! ### Definitions -/

/-- A definition without its guard. -/
def FunctionHead.unguarded (head : FunctionHead) : FunctionHead :=
  { head with guard := none }

/-- How what follows a function that was made to be guarded ends, if its options are refused. -/
def refusedAfter {α : Type} (e : OptionError) :
    Except Fault FunctionId × Machine → Except Fault α × Machine
  | (.ok _, m) => (.error (.options e), m)
  | (.error fault, m) => (.error fault, m)

/-- A function is made first, and then guarded. -/
theorem makeFunction_eq (call : Call) (env : Env) (head : FunctionHead) (body : List Action)
    {names : OptionNames} (guarded : head.guard = some names) :
    makeFunction call env head body
      = makeFunction call env head.unguarded body >>= guardFunction call names := by
  rw [makeFunction, makeFunction, guarded]
  simp only [FunctionHead.unguarded, bind_assoc, pure_bind]

/-- A definition that should be guarded under wrong options makes the function, and then fails.
Nothing that should follow does. -/
theorem on_makeFunction_bind_of_refuses {α : Type} {names : OptionNames} {e : OptionError}
    (refused : CheckOptions.Refuses names.styles names.reaction e) {head : FunctionHead}
    (guarded : head.guard = some names) (env : Env) (body : List Action) (f : FunctionId → Run α)
    (w : World) (m : Machine) :
    on w (makeFunction ask env head body >>= f) m
      = refusedAfter e (on w (makeFunction ask env head.unguarded body) m) := by
  rw [makeFunction_eq ask env head body guarded, bind_assoc, on_bind]
  rcases on w (makeFunction ask env head.unguarded body) m with ⟨fault | id, m'⟩
  · rfl
  · simp only
    rw [on_bind, (refusesFirst_guardFunction names id).refused e refused]
    rfl

/-! ### Options first -/

/-- **Options are looked at first.** A check of arguments, of a call that is given or of one that goes
on, and the guarding of a function, are refused if the reaction to a mismatch has no meaning or some
style is not known; what only needs styles is refused for these. The error is the same each time:
that of the reaction first, and else the names that are no styles, each once and in increasing order.
Nothing happens before; a definition that should be guarded binds nothing. Under other options none
of this fails so, unless something does that it calls. Styles count once, in the order in which they
were named first. -/
theorem options_refused_first (names : OptionNames) :
    ((∃ e, CheckOptions.Refuses names.styles names.reaction e)
        ↔ (names.reaction ≠ some "raise" ∧ names.reaction ≠ some "warn")
          ∨ ¬ Style.AreKnown names.styles)
      ∧ (∀ place doc params args e,
        check names.styles names.reaction place doc params args = .error e
          ↔ CheckOptions.Refuses names.styles names.reaction e)
      ∧ (∀ doc params args e, Finding.extract doc params args names.styles = .error e
        ↔ Style.Refuses names.styles e)
      ∧ (∀ params text e, Tag.search params names.styles text = .error e
        ↔ params = [] ∧ e = .noName ∨ params ≠ [] ∧ Style.Refuses names.styles e)
      ∧ (∀ doc params args, RefusesFirst (Style.Refuses names.styles)
        (extractNamed ask names.styles doc params args))
      ∧ (∀ inProgram place doc params args,
        RefusesFirst (CheckOptions.Refuses names.styles names.reaction)
          (checkArguments ask inProgram names place doc params args))
      ∧ (∀ inProgram given, RefusesFirst (CheckOptions.Refuses names.styles names.reaction)
        (checkGiven ask inProgram names given))
      ∧ (∀ frames, RefusesFirst (CheckOptions.Refuses names.styles names.reaction)
        (checkFrames ask names frames))
      ∧ (∀ id, RefusesFirst (CheckOptions.Refuses names.styles names.reaction)
        (guardFunction ask names id))
      ∧ (∀ e, CheckOptions.Refuses names.styles names.reaction e → ∀ head, head.guard = some names →
        ∀ body w m,
          (∀ env, on w ((Action.define (.function head body)).run ask env) m
            = refusedAfter e (on w (makeFunction ask env head.unguarded body) m))
          ∧ on w (Step.define (.function head body)).run m = refusedAfter e
            (on (w.inside (.frame .module)) (makeFunction ask .toplevel head.unguarded body) m))
      ∧ ∀ styles, Style.ofNames names.styles = .ok styles →
        styles.map Style.name = names.styles.eraseDups ∧ styles.Nodup
          ∧ Style.ofNames (styles.map Style.name) = .ok styles := by
  refine ⟨CheckOptions.exists_refuses_iff, fun _ _ _ _ _ => check_eq_error_iff,
    fun _ _ _ _ => Finding.extract_eq_error_iff, fun _ _ _ => Tag.search_eq_error_iff,
    refusesFirst_extractNamed names, refusesFirst_checkArguments names,
    refusesFirst_checkGiven names, refusesFirst_checkFrames names,
    refusesFirst_guardFunction names, ?_, fun _ => Style.of_ofNames⟩
  refine fun e refused head guarded body w m => ⟨fun env => ?_, ?_⟩
  · simp only [Action.run, Definition.make, bind_assoc]
    exact on_makeFunction_bind_of_refuses refused guarded env body _ w m
  · rw [Step.run, inModule, on_within]
    simp only [Definition.make, bind_assoc]
    exact on_makeFunction_bind_of_refuses refused guarded _ body _ _ m

/-- Of a reaction without a meaning and a style that there is not, the reaction is told, and the
function is not guarded. -/
theorem options_refused_first_reaction :
    on Sample.world (guardFunction ask ⟨["numpy"], some "ignore"⟩ 0)
        (Identity.machineOf #[Identity.function])
      = (.error (.options (.unknownReaction (some "ignore"))),
        Identity.machineOf #[Identity.function]) := by
  obtain ⟨-, -, -, -, -, -, -, -, guarding, -⟩ :=
    options_refused_first ⟨["numpy"], some "ignore"⟩
  refine (guarding 0).refused _ (.unknownReaction fun named => ?_) _ _
  cases named <;> decide

/-! ### Where right options do not help -/

namespace Noticed

/-- A function puts an instance under the name of its parameter and checks itself under right
options. The class of the instance asks for a range without a step when it should show which class
it is. -/
def unreadable : Session := program [
  .define (showingBy [] misfitting),
  .define (function "f" 3 [param "n"] (.str 1 "@param int $n") none [
    .call (.ofName "C") [] [] (some "n"), .validate ⟨["phpdoc"], some "raise"⟩ false]),
  call (.ofName "f") [.literal (.int 2 1)]]

end Noticed

open Noticed

/-- **Right options do not help against what is called.** A check under right options ends as one
under wrong options would, with the failure of what it called. -/
theorem right_options_fail :
    CheckOptions.ofNames ["phpdoc"] (some "raise") = .ok ⟨[.phpdoc], .fail⟩
      ∧ reported unreadable = [(.fine, []), (.fine, []), (noStep, [])] := by
  refine ⟨?_, ?_⟩ <;> decide +kernel

end DocGuard

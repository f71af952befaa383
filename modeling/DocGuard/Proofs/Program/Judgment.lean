import DocGuard.Proofs.Program.Binding
import DocGuard.Proofs.Program.Function
import DocGuard.Proofs.Verdict.First
/-!
The judgment of a call.

What is found about the arguments of a call depends on the documentation, the parameters, the
options, the name of the function, and the arguments, however these were come by. The records of a
judgment are the tags that speak of an argument, each with this argument; fewer records give fewer
violations. Where the types of the values can be told without running anything of the program, as
those of numbers, texts and containers always can, the judgment ends with the verdict on the
findings.
-/

namespace DocGuard

open Run

/-- The world as it is where a running call is checked. -/
def World.ofCheck (w : World) : World :=
  w.inFunction "docparams.validate" "validate_arguments" []

/-- The world as it is where arguments that are given are checked. -/
def World.ofArguments (w : World) (args : List Value) : World :=
  w.inFunction "docparams.validate" "check_arguments" [("args", .tuple 0 args)]

/-- The world as it is where arguments are judged. -/
def World.ofJudgment (w : World) : World :=
  w.inFunction "docparams.validate" "_judge" []

/-- All that the judgment of a call depends on. -/
structure Judgment where
  options : CheckOptions
  /-- The name of the function. -/
  place : Value
  doc : Option String
  params : List String
  /-- The arguments in the order of the parameters. -/
  args : List Value

/-- Giving a warning takes no notice of what is around it. -/
theorem on_giveWarning_eq (w w' : World) (inProgram : Bool) (said : Mismatch) (m : Machine) :
    on w (giveWarning inProgram said) m = on w' (giveWarning inProgram said) m := by
  have noted : on w (noteWarning inProgram) m = on w' (noteWarning inProgram) m := by
    cases inProgram with
    | false => rfl
    | true =>
      rw [noteWarning, Bool.not_true, if_neg Bool.false_ne_true, (gives_store m).bind,
        (gives_store m).bind]
      rcases m.store.globals.get? "__warningregistry__" with _ | held
      · rfl
      · simp only
        split <;> rfl
  rw [giveWarning, on_bind, on_bind, noted]
  rcases on w' (noteWarning inProgram) m with ⟨_ | _, m'⟩
  · rfl
  · simp only
    rw [(gives_store m').bind, (gives_store m').bind]
    cases m'.store.warnings <;> rfl

/-! ### Findings -/

/-- Where the types of the values can be told, all is found that the docstring says. -/
theorem answers_extractIn {w : World} {states : Machine → Prop} {call : Call} {styles : List Style}
    {doc : Option String} {names : List String} {args : List Value} {types : Value → String}
    (told : ∀ record ∈ Finding.arguedIn styles doc names args,
      Answers w states (typeNameOf call record.2) (types record.2)) :
    Answers w states (extractIn call styles doc names args)
      ((Finding.arguedIn styles doc names args).map fun record =>
        Finding.ofTag names record.1 (types record.2)) := by
  have found : ∀ record ∈ Finding.arguedIn styles doc names args, Answers w states
      (findIn call names record) (Finding.ofTag names record.1 (types record.2)) :=
    fun record hr => (told record hr).bind (.pure rfl)
  exact Ends.inFunction (answers_mapM found) _ _ _

section Following

variable {call : Call} {inProgram : Bool} {reaction : OnMismatch} {place : Value}
variable {name : Option String} {findings : List Finding} {w : World} {m : Machine}
variable (plain : place.Names name)
include plain

/-- Where nothing is violated, the verdict on the findings is followed. -/
theorem on_followFindings_of_none (found : Finding.firstViolation? findings = none) :
    on w (followFindings call inProgram reaction place findings) m
      = on w (Run.follow (.ofFindings reaction (placeName? name) findings)) m := by
  rw [followFindings]
  by_cases nothing : findings.isEmpty = true
  · rw [if_pos nothing, (plain.loggedName? call m).bind, on_follow]
  · have verdict (place : Option String) :
        Verdict.ofFindings reaction place findings = ⟨[], .ok none⟩ := by
      rw [Verdict.ofFindings, if_neg nothing, found]
    rw [if_neg nothing, found]
    simp only [verdict, on_follow]

/-- A violation is logged, and then follows a failure, or a warning. -/
theorem on_followFindings_of_some {v : Violation}
    (found : Finding.firstViolation? findings = some v) :
    on w (followFindings call inProgram reaction place findings) m
      = on w (match reaction with
          | .fail => throw (.mismatch ⟨v, placeName? name⟩ name)
          | .warn => do
            giveWarning inProgram ⟨v, placeName? name⟩
            return some v)
        { m with events := m.events ++ [.reported (.log (.mismatch (placeName? name) v))] } := by
  rw [followFindings, Finding.isEmpty_eq_false_of_firstViolation? found, found,
    if_neg Bool.false_ne_true]
  simp only
  rw [(plain.loggedName? call m).bind, on_bind, on_emit]
  simp only
  rw [(plain.mismatchAt call v _).bind]
  cases reaction with
  | fail =>
    simp only
    rw [(gives_store _).bind, on_throw, on_throw, plain.textOf?]
  | warn => rfl

/-- What follows findings yields nothing exactly if none of them is a violation. -/
theorem result_followFindings_eq_none_iff :
    (on w (followFindings call inProgram reaction place findings) m).1 = .ok none
      ↔ Finding.firstViolation? findings = none := by
  cases found : Finding.firstViolation? findings with
  | none =>
    rw [on_followFindings_of_none plain found, on_follow,
      Verdict.result_ofFindings_of_firstViolation? found]
    exact ⟨fun _ => rfl, fun _ => rfl⟩
  | some v =>
    rw [on_followFindings_of_some plain found]
    cases reaction with
    | fail => simp [on_throw]
    | warn =>
      simp only [on_bind]
      rcases on w (giveWarning inProgram _) _ with ⟨_ | _, _⟩ <;> simp [on_pure]

end Following

namespace Judgment

variable (j : Judgment) (call : Call) (inProgram : Bool)

/-- Judges the arguments, and follows the verdict. -/
def run : Run (Option Violation) :=
  judgeIn call inProgram j.options j.place j.doc j.params j.args

/-- What is judged: the tags that speak of an argument, each with this argument. -/
def records : List (Tag × Value) :=
  Finding.arguedIn j.options.styles j.doc j.params j.args

/-- What is found where the values have these types. -/
def findings (types : Value → String) : List Finding :=
  j.records.map fun record => Finding.ofTag j.params record.1 (types record.2)

/-- The violation where the values have these types, if there is one. -/
def violation? (types : Value → String) : Option Violation :=
  Finding.firstViolation? (j.findings types)

/-- Judges the arguments of a running call of `method`, unless it has none at all. -/
def check (method : String) : Run (Option Violation) :=
  if j.args.isEmpty then Run.follow (.skipped (.noArguments method)) else j.run call true

variable {j}

/-- The arguments matter only by what they make of the tags. -/
theorem run_with_args {args : List Value}
    (h : ({ j with args := args } : Judgment).records = j.records) :
    ({ j with args := args } : Judgment).run call inProgram = j.run call inProgram := by
  have same : Finding.arguedIn j.options.styles j.doc j.params args
      = Finding.arguedIn j.options.styles j.doc j.params j.args := h
  rw [run, judgeIn, extractIn, same]
  rfl

/-- Fewer records give fewer violations, whatever types the values have. -/
theorem isSome_violation?_of_sublist {k : Judgment} (params : k.params = j.params)
    (h : k.records.Sublist j.records) (types : Value → String)
    (found : (k.violation? types).isSome) : (j.violation? types).isSome := by
  have findings : (k.findings types).Sublist (j.findings types) := by
    rw [Judgment.findings, params]
    exact h.map _
  rw [violation?, Finding.firstViolation?, List.findSome?_isSome_iff] at found ⊢
  obtain ⟨f, hf, violated⟩ := found
  exact ⟨f, findings.subset hf, violated⟩

end Judgment

namespace Judgment

variable {j : Judgment} {name : Option String} {types : Value → String} {m : Machine} {call : Call}
variable {w : World} (plain : j.place.Names name)
include plain

/-- Where nothing is judged, nothing is found. -/
theorem on_run_of_records_eq_nil (nothing : j.records = []) (inProgram : Bool) :
    on w (j.run call inProgram) m
      = on w (Run.follow (.skipped (.nothingFound (placeName? name)))) m := by
  have none : Finding.arguedIn j.options.styles j.doc j.params j.args = [] := nothing
  have found : Gives (extractIn call j.options.styles j.doc j.params j.args) m [] := by
    rw [extractIn, none]
    exact Gives.inFunction (gives_pure [] m) _ _ _
  rw [run, judgeIn, on_inFunction, found.bind, followFindings]
  show on _ (loggedName? call j.place >>= _) m = _
  rw [(plain.loggedName? call m).bind, on_follow, on_follow]
  rfl

/-- A check of the same records ends as the judgment does, even if it is skipped. -/
theorem result_check {k : Judgment} (same : k.records = j.records)
    (run : k.run call true = j.run call true) (method : String) (m : Machine) :
    (on w (k.check call method) m).1 = (on w (j.run call true) m).1 := by
  rw [check]
  by_cases none : k.args.isEmpty = true
  · have nothing : j.records = [] := by
      rw [← same, records, List.isEmpty_iff.1 none, Finding.arguedIn_nil]
    rw [if_pos none, on_run_of_records_eq_nil plain nothing]
    rfl
  · rw [if_neg none, run]

omit plain in
/-- Where the types of the values can be told, the judgment follows what is found, from a state where
they still can be. -/
theorem exists_on_run_eq_followFindings {states : Machine → Prop} (hm : states m)
    (told : ∀ record ∈ j.records, Answers w states (typeNameOf call record.2) (types record.2))
    (inProgram : Bool) :
    ∃ m', states m' ∧ on w (j.run call inProgram) m
      = on w.ofJudgment
          (followFindings call inProgram j.options.reaction j.place (j.findings types)) m' := by
  have found : Answers w.ofJudgment states
      (extractIn call j.options.styles j.doc j.params j.args) (j.findings types) :=
    Ends.inside (answers_extractIn told) _
  obtain ⟨m', ends, hm'⟩ := found.exists_on hm
  refine ⟨m', hm', ?_⟩
  rw [run, judgeIn, on_inFunction, ← World.ofJudgment, on_bind, ends]

section Told

variable (told : ∀ record ∈ j.records, Gives (typeNameOf call record.2) m (types record.2))
variable {inProgram : Bool}
include told

omit plain in
/-- Where the types of the values can be told without changing anything, the judgment follows what
is found. -/
theorem on_run_eq_followFindings : on w (j.run call inProgram) m
    = on w.ofJudgment (followFindings call inProgram j.options.reaction j.place (j.findings types)) m := by
  have found : Gives (extractIn call j.options.styles j.doc j.params j.args) m
      (j.findings types) := by
    refine Gives.inFunction (gives_mapM fun record hr => ?_) _ _ _
    exact (told record hr).trans (gives_pure _ m)
  rw [run, judgeIn, on_inFunction, found.bind, World.ofJudgment]

/-- Where nothing is violated, the judgment ends with the verdict on the findings. -/
theorem on_run_of_violation?_eq_none (none : j.violation? types = none) :
    on w (j.run call inProgram) m = on w (Run.follow
      (.ofFindings j.options.reaction (placeName? name) (j.findings types))) m := by
  rw [on_run_eq_followFindings told, on_followFindings_of_none plain none, on_follow, on_follow]

/-- A violation is logged, and then the judgment fails, or warns and ends. -/
theorem on_run_of_violation?_eq_some {v : Violation} (violated : j.violation? types = some v) :
    on w (j.run call inProgram) m
      = on w (match j.options.reaction with
          | .fail => throw (.mismatch ⟨v, placeName? name⟩ name)
          | .warn => do
            giveWarning inProgram ⟨v, placeName? name⟩
            return some v)
        { m with events := m.events ++ [.reported (.log (.mismatch (placeName? name) v))] } := by
  rw [on_run_eq_followFindings told, on_followFindings_of_some plain violated]
  -- what follows takes no notice of what is around it
  cases j.options.reaction with
  | fail => rfl
  | warn =>
    simp only
    rw [on_bind, on_bind, on_giveWarning_eq _ w]
    rcases on w (giveWarning inProgram _) _ with ⟨_ | _, _⟩ <;> rfl

/-- **What the judgment comes to.** Where the types of the values can be told without changing
anything, the judgment ends with the verdict on the findings: with the first violation, the name of
the function and the wording of both, or with none. (A program that is warned can note this down in
its globals, and make something else of warnings, which is left out here.) -/
theorem on_run_of_told (named : placeName? name = name)
    (usual : j.options.reaction = .warn → inProgram = false ∧ m.store.warnings = .shown) :
    on w (j.run call inProgram) m
      = on w (Run.follow (.ofFindings j.options.reaction name (j.findings types))) m := by
  cases violated : j.violation? types with
  | none =>
    rw [on_run_of_violation?_eq_none plain told violated, named]
  | some v =>
    rw [on_run_of_violation?_eq_some plain told violated,
      Verdict.ofFindings_of_firstViolation? violated, named]
    cases reaction : j.options.reaction with
    | fail => rfl
    | warn =>
      obtain ⟨rfl, shown⟩ := usual reaction
      rw [on_follow]
      have notes (m : Machine) : Gives (noteWarning false) m () := fun _ => rfl
      simp only
      rw [on_bind, giveWarning, (notes _).bind, (gives_store _).bind]
      simp only
      rw [shown]
      show (Except.ok (some v), (⟨m.store, m.events ++ [_] ++ [_]⟩ : Machine)) = _
      rw [List.append_assoc]
      rfl

end Told

omit plain in
/-- A check of arguments that are given is their judgment. -/
theorem on_checkArguments {names : OptionNames} {options : CheckOptions}
    (valid : CheckOptions.ofNames names.styles names.reaction = .ok options) (call : Call)
    (inProgram : Bool) (place : Value) (doc : Option String) (params : List String)
    (args : List Value) (w : World) (m : Machine) :
    on w (checkArguments call inProgram names place doc params args) m
      = on (w.ofArguments args)
          ((⟨options, place, doc, params, args⟩ : Judgment).run call inProgram) m := by
  rw [checkArguments, on_inFunction, (gives_options valid m).bind]
  rfl

end Judgment

/-- Where the types of the arguments can be told without changing anything, a check of them ends with
the verdict on the findings. -/
theorem on_checkArguments_of_told {styleNames : List String} {styles : List Style}
    (named : Style.ofNames styleNames = .ok styles) {place : Value} {name : Option String}
    (plain : place.Names name) (whole : placeName? name = name) {doc : Option String}
    {params : List String} {args : List Value} {call : Call} {types : Value → String} {m : Machine}
    (told : ∀ record ∈ Finding.arguedIn styles doc params args,
      Gives (typeNameOf call record.2) m (types record.2))
    (reaction : OnMismatch) {inProgram : Bool}
    (usual : reaction = .warn → inProgram = false ∧ m.store.warnings = .shown) {w : World} :
    on w (checkArguments call inProgram ⟨styleNames, some reaction.name⟩ place doc params args) m
      = on w (Run.follow (.ofFindings reaction name
          ((Finding.arguedIn styles doc params args).map fun record =>
            Finding.ofTag params record.1 (types record.2)))) m := by
  let j : Judgment := ⟨⟨styles, reaction⟩, place, doc, params, args⟩
  have valid := CheckOptions.ofNames_of_named named reaction
  rw [Judgment.on_checkArguments valid, j.on_run_of_told plain told whole usual, on_follow, on_follow]
  rfl

end DocGuard

import DocGuard.Proofs.Program.Calling
import DocGuard.Proofs.Program.Judgment
import DocGuard.Proofs.Program.Type
/-!
The two ways to have the arguments of a function checked.

A function can be guarded, or check its own running call before it does anything else. Both end in
one judgment: of the same documentation, for the same parameters, under the same name, with the same
options. Only the arguments are found in two ways (see `DocGuard.Proofs.Program.Binding`). Where the
search for the running function leads back to it, the two judgments look at the same tags with the
same arguments, apart from arguments that are the very default of their parameter, at which only the
guard looks; and apart from the calls that bind although a guard cannot bind them, of which it
judges nothing.
-/

namespace DocGuard

open Run

/-! ### Guarded functions -/

/-- The guard of a function that showed this face. -/
def Face.guard (face : Face) (options : CheckOptions) (doc : String) (id : FunctionId) : Guard :=
  ⟨id, options, sharedText face.name, doc, face.signature.documentable, face.signature⟩

/-- What a guard judges of a call. -/
def Guard.judgment (g : Guard) (binding : Binding) : Judgment :=
  ⟨g.options, g.place, some g.doc, g.params, g.params.map binding.givenFor⟩

/-- A guard judges the arguments of a call that binds, unless a keyword has the name of an unfilled
parameter that is positional only. -/
theorem Guard.examine_of_bind? (g : Guard) (call : Call) (inProgram : Bool) {args : List Value}
    {keywords : Bindings Value} {binding : Binding}
    (binds : g.signature.bind? args keywords = some binding) :
    g.examine call inProgram (g.judgedValues? args keywords)
      = if g.signature.namesPositionalOnly args keywords then pure ()
        else discard ((g.judgment binding).run call inProgram) := by
  rw [Guard.judgedValues?, Signature.bindStrictly?]
  by_cases h : g.signature.namesPositionalOnly args keywords = true
  · rw [if_pos h, if_pos h]
    rfl
  · rw [if_neg h, if_neg h, binds]
    rfl

/-- A call that goes through a guard once a check has ended. -/
def Guard.letThrough (g : Guard) (call : Call) (args : List Value) (keywords : Bindings Value)
    (check : Bool → Run Unit) : Run Value := do
  if !(← Run.hasRoom Guard.room) then throw .tooDeep
  let inProgram := Frame.inProgram (← Run.nearest)
  let result ← Run.within
      (.frame (.guarding g.inner g.place args keywords (g.judgedValues? args keywords))) do
    check inProgram
    call (.function g.inner) args keywords
  Run.retaining [result] (giveUp call)
  return result

/-- A call of a function that a guard stands before is judged first. -/
theorem callFunction_of_guard {f : Function} {g : Guard} (guarded : f.behaviour = .guard g)
    (call : Call) (args : List Value) (keywords : Bindings Value) :
    callFunction call f args keywords
      = g.letThrough call args keywords fun inProgram =>
          g.examine call inProgram (g.judgedValues? args keywords) := by
  rw [callFunction]
  simp only [guarded]
  rfl

/-! ### Functions that check themselves -/

/-- The search for the function that runs in a frame finds the one at `id`, and whom it belongs to;
`searched` is the machine when this is done. -/
def Resolves (w : World) (frame : Frame) (around : List Frame) (locals : Bindings Value)
    (code : Code) (id : FunctionId) (m searched : Machine) : Prop :=
  ∃ found owner, on w (runningFunction ask frame around locals code.name code.place) m
      = (.ok (some (.function id)), found)
    ∧ on w (ownerOf ask frame locals) found = (.ok owner, searched)

/-- A function that the globals hold under its own name is found at once. -/
theorem runningFunction_of_global {m : Machine} {name : String} {place : Nat} {id : FunctionId}
    {f : Function} {frame : Frame}
    (bound : (frame.globals m.store).get? name = some (.function id))
    (stored : m.store.functions[id]? = some f) (placed : f.place = place) (call : Call)
    (around : List Frame) (locals : Bindings Value) :
    Gives (runningFunction call frame around locals name place) m (some (.function id)) := by
  have running : Gives (runs call place (.function id)) m true := by
    intro w
    rw [runs, placeOf?, bind_assoc, (gives_store m).bind]
    simp only [stored, Option.map_some, placed]
    show (Except.ok (some place == some place), m) = _
    rw [beq_self_eq_true]
  have found : Gives (globalRunning call frame name place) m (some (.function id)) := by
    intro w
    rw [globalRunning, (gives_store m).bind, bound]
    simp only
    rw [running.bind]
    rfl
  refine Gives.inFunction (fun w => ?_) _ _ _
  rw [firstFound, found.bind]
  rfl

/-- Without a receiver a function belongs to the module that is registered under the name shown. -/
theorem ownerOf_of_registered {m : Machine} {locals : Bindings Value} {text : String}
    (self : locals.get? "self" = none) (cls : locals.get? "cls" = none)
    (shown : m.store.globals.get? "__name__" = some (sharedText text))
    (registered : m.store.registered = some text) (call : Call) (mark : Nat) (code : Code)
    (vars : Bindings CellId) :
    Gives (ownerOf call (.call mark code vars) locals) m .module := by
  have key : Gives (requireKey call (sharedText text)) m () := fun _ => rfl
  have read : m.store.textOf? (sharedText text) = some text := rfl
  refine Gives.inFunction (fun w => ?_) _ _ _
  rw [self, cls]
  simp only [registeredModule]
  rw [(gives_store m).bind, shown, Option.getD_some, key.bind,
    (gives_store m).bind, read]
  simp only [registered, beq_self_eq_true, if_true]
  rfl

/-- The running call that is found: its arguments are those of the parameters that the function
shows. -/
theorem on_runningCall {w : World} {mark : Nat} {code : Code} {vars : Bindings CellId}
    {around : List Frame} {m searched : Machine} {id : FunctionId} {f : Function} {shown : Code}
    {face : Face}
    (resolves : Resolves (w.inFunction "docparams.context" "caller_context" [])
      (.call mark code vars) around (m.store.locals (.call mark code vars)) code id
      { m with store := m.store.afterListing (.call mark code vars) } searched)
    (shows : Shows searched.store id f shown face) :
    ∃ owner, on w (runningCall ask (.call mark code vars :: around) 0) m
      = (.ok (some ⟨owner, some code.name, argumentsOf face.signature face.signature.documentable
          (m.store.locals (.call mark code vars)), some (.function id)⟩), searched) := by
  obtain ⟨found, owner, search, owns⟩ := resolves
  refine ⟨owner, ?_⟩
  show on w (Run.inFunction "docparams.context" "caller_context" [] (do
    return some (← callIn ask (.call mark code vars) around code.name code.place))) m = _
  rw [on_inFunction, callIn, on_bind, on_bind, on_listLocals]
  simp only
  rw [on_bind, search]
  simp only
  rw [on_bind, owns]
  simp only
  rw [(shows.interfaceOf ask).bind, (shows.signatureShown ask).bind]
  rfl

/-- What documentation can speak of are the parameters that the signature says. -/
theorem Face.eq_documentable_of_checkable? {face : Face} {doc : String} {params : List String}
    (h : face.checkable? = some (doc, params)) : params = face.signature.documentable := by
  rw [checkable?, interface] at h
  cases written : face.doc.bind Docstring.ofText? with
  | none => simp [written, Interface.checkable?] at h
  | some text =>
    simp only [written, Interface.checkable?] at h
    split at h
    · cases h
    · cases h
      rfl

section Check

variable {w : World} {m : Machine} {id : FunctionId} (call : Call) (options : CheckOptions)
variable {method : String} (owner : Value) (args : List Value)

/-- A running call is looked at if its function has a name; without arguments it is skipped. -/
theorem on_checkCall (named : method ≠ "") :
    on w (checkCall call true options (some ⟨owner, some method, args, some (.function id)⟩)) m
      = on w (if args.isEmpty then Run.follow (.skipped (.noArguments method))
          else checkMethod call true options ⟨owner, some method, args, some (.function id)⟩ method)
          m := by
  have name : placeName? (some method) = some method := by
    rw [placeName?, Option.filter_some, String.isEmpty_eq_false_iff.2 named]
    rfl
  rw [checkCall]
  simp only [Option.bind_some, name, Option.map_some]

theorem calledFunction_of_some :
    Gives (calledFunction call ⟨owner, some method, args, some (.function id)⟩) m
      (some (.function id)) :=
  (isTrue_function call m id).trans fun _ => rfl

variable {f : Function} {code : Code} {face : Face}
variable (shows : Shows m.store id f code face) (named : method ≠ "")
include shows named

/-- A documented function judges its running call. -/
theorem on_checkCall_of_some {doc : String} {params : List String}
    (documented : face.checkable? = some (doc, params)) :
    on w (checkCall call true options (some ⟨owner, some method, args, some (.function id)⟩)) m
      = on w ((⟨options, sharedText (face.nameOr method), some doc, params, args⟩ :
          Judgment).check call method) m := by
  rw [on_checkCall call options owner args named, Judgment.check]
  by_cases none : args.isEmpty = true
  · rw [if_pos none, if_pos none]
  · rw [if_neg none, if_neg none, checkMethod,
      (calledFunction_of_some call owner args).bind]
    simp only
    rw [(shows.checkable? call).bind, documented]
    simp only
    rw [(shows.callableName call).bind, sharedText, (isTrue_str call m 0 face.name).bind,
      Face.nameOr]
    by_cases empty : face.name = ""
    · rw [if_pos empty, if_neg (by simpa using empty)]
      rfl
    · rw [if_neg empty, if_pos (by simpa using empty)]
      rfl

/-- A function without documentation or parameters skips the check. -/
theorem on_checkCall_of_none (nothing : face.checkable? = none) :
    ∃ entry,
      on w (checkCall call true options (some ⟨owner, some method, args, some (.function id)⟩)) m
        = on w (Run.follow (.skipped entry)) m := by
  rw [on_checkCall call options owner args named]
  by_cases none : args.isEmpty = true
  · rw [if_pos none]
    exact ⟨_, rfl⟩
  · rw [if_neg none, checkMethod, (calledFunction_of_some call owner args).bind]
    simp only
    rw [(shows.checkable? call).bind, nothing]
    exact ⟨_, rfl⟩

end Check

/-- A call of a function that checks its own arguments first of all, and to which the search for the
running function leads back. Between the definition and the end of this search the function keeps
its face. -/
structure InlineCall (face : Face) (names : OptionNames) (binding : Binding) where
  /-- What is around the call. -/
  world : World
  /-- The machine that is called in. -/
  machine : Machine
  id : FunctionId
  function : Function
  code : Code
  outer : Bindings CellId
  /-- What the body does after the check. -/
  rest : List Action
  shows : Shows machine.store id function code face
  behaviour : function.behaviour = .run code outer
  /-- The variables taken from outside are those that the definition captured. -/
  closes : ∃ env, outer = captured env (face.signature.map Param.name) code.body
  body : code.body = .validate names false :: rest
  named : code.name ≠ ""
  /-- The machine when the search has ended. -/
  searched : Machine
  resolves : Resolves
    (((world.inside (.frame (machine.entryFrame face.signature code binding outer))).inFunction
      "docparams.validate" "validate_arguments" []).inFunction
      "docparams.context" "caller_context" [])
    (machine.entryFrame face.signature code binding outer) (framesOf world.layers)
    (machine.entryLocals face.signature code binding outer) code id
    { machine.entered face.signature code binding with
      store := (machine.entered face.signature code binding).store.afterListing
        (machine.entryFrame face.signature code binding outer) } searched
  unchanged : ∃ f c, Shows searched.store id f c face

namespace InlineCall

variable {face : Face} {names : OptionNames} {binding : Binding}
variable (i : InlineCall face names binding)

/-- The frame of the call. -/
def frame : Frame :=
  i.machine.entryFrame face.signature i.code binding i.outer

/-- Where the body stands. -/
def env : Env :=
  .ofCall face.signature i.code (i.machine.entryVariables face.signature i.code binding i.outer)

/-- The arguments that the running call finds. -/
def arguments : List Value :=
  argumentsOf face.signature face.signature.documentable
    (i.machine.entryLocals face.signature i.code binding i.outer)

/-- The call that begins with a check. -/
def begunBy (check : Run (Option Violation)) : Run Value := do
  let result ← Run.within (.frame i.frame) do
    Run.emit (.validated (← check))
    giveUp ask
    runBody ask i.env i.rest
  let result := result.getD .none
  Run.retaining [result] (giveUp ask)
  return result

/-- The variables of the call hold what was bound. -/
theorem heldIn {args : List Value} {keywords : Bindings Value}
    (binds : face.signature.bind? args keywords = some binding) :
    binding.HeldIn face.signature
      (i.machine.entryLocals face.signature i.code binding i.outer) := by
  obtain ⟨env, closes⟩ := i.closes
  refine heldIn_entryLocals i.shows.distinct (fun name id h => ?_) binds
  rw [closes] at h
  exact not_mem_params_of_mem_captured h

/-- What the call comes to depends on what its check comes to. -/
theorem on_begunBy_congr {check other : Run (Option Violation)} {m m' : Machine}
    (same : on (i.world.inside (.frame i.frame)) check m
      = on (i.world.inside (.frame i.frame)) other m') :
    on i.world (i.begunBy check) m = on i.world (i.begunBy other) m' := by
  have inner : on i.world (Run.within (.frame i.frame) (do
        Run.emit (.validated (← check))
        giveUp ask
        runBody ask i.env i.rest)) m
      = on i.world (Run.within (.frame i.frame) (do
        Run.emit (.validated (← other))
        giveUp ask
        runBody ask i.env i.rest)) m' := by
    rw [on_within, on_within, on_bind, on_bind, same]
  rw [begunBy, begunBy, on_bind, on_bind, inner]

/-- A check that fails ends the call. -/
theorem result_begunBy_of_error {check : Run (Option Violation)} {m : Machine} {e : Fault}
    (fails : (on (i.world.inside (.frame i.frame)) check m).1 = .error e) :
    (on i.world (i.begunBy check) m).1 = .error e := by
  refine result_bind_of_error ?_ _
  rw [on_within]
  exact result_bind_of_error fails _

/-- A call of the function enters the body, and begins with a check of itself. -/
theorem on_callFunction_eq_begunBy {args : List Value} {keywords : Bindings Value}
    (binds : face.signature.bind? args keywords = some binding) :
    on i.world (callFunction ask i.function args keywords) i.machine
      = on i.world (i.begunBy (checkRunning ask names false))
          (i.machine.entered face.signature i.code binding) := by
  rw [on_callFunction_of_bind?_eq_some i.behaviour i.shows.signature binds]
  have body : runBody ask i.env i.code.body = (do
      Run.emit (.validated (← checkRunning ask names false))
      giveUp ask
      runBody ask i.env i.rest) := by
    simp only [i.body, runBody, Action.run, bind_assoc, pure_bind]
  show on i.world (do
    let result ← Run.within (.frame i.frame) (runBody ask i.env i.code.body)
    let result := result.getD .none
    Run.retaining [result] (giveUp ask)
    return result) _ = _
  rw [body]
  rfl

/-- The check searches for the running function, finds it, and checks the call that it found. -/
theorem on_callFunction {options : CheckOptions}
    (valid : CheckOptions.ofNames names.styles names.reaction = .ok options) {args : List Value}
    {keywords : Bindings Value} (binds : face.signature.bind? args keywords = some binding) :
    ∃ owner, on i.world (callFunction ask i.function args keywords) i.machine
      = on i.world (i.begunBy (Run.inFunction "docparams.validate" "validate_arguments" []
          (checkCall ask true options
            (some ⟨owner, some i.code.name, i.arguments, some (.function i.id)⟩)))) i.searched := by
  obtain ⟨f, c, unchanged⟩ := i.unchanged
  obtain ⟨owner, found⟩ := on_runningCall i.resolves unchanged
  refine ⟨owner, (i.on_callFunction_eq_begunBy binds).trans (i.on_begunBy_congr ?_)⟩
  have running : on ((i.world.inside (.frame i.frame)).inFunction "docparams.validate"
        "validate_arguments" []) (runningCall ask (i.frame :: framesOf i.world.layers) 0)
        (i.machine.entered face.signature i.code binding)
      = (.ok (some ⟨owner, some i.code.name, i.arguments, some (.function i.id)⟩), i.searched) :=
    found
  rw [checkRunning, on_bind, on_layers]
  show on _ (checkFrames ask names (i.frame :: framesOf i.world.layers)) _ = _
  rw [checkFrames, on_inFunction, (gives_options valid _).bind, on_bind, running, on_inFunction]
  rfl

/-- What the running call judges of itself. -/
def judgment (options : CheckOptions) (doc : String) : Judgment :=
  ⟨options, sharedText (face.nameOr i.code.name), some doc, face.signature.documentable, i.arguments⟩

section Records

variable {args : List Value} {keywords : Bindings Value}
variable (binds : face.signature.bind? args keywords = some binding) (options : CheckOptions)
variable (doc : String) (id : FunctionId)
include binds

/-- What the running call judges of itself, a guard judges of the call too. -/
theorem records_judgment_sublist :
    (i.judgment options doc).records.Sublist
      ((face.guard options doc id).judgment binding).records :=
  Binding.arguedIn_argumentsOf_sublist i.shows.distinct (i.heldIn binds) options.styles (some doc)

/-- Where no argument is the default of its parameter, both judge the same. -/
theorem records_judgment (avoids : binding.AvoidsDefaults face.signature) :
    (i.judgment options doc).records = ((face.guard options doc id).judgment binding).records :=
  Binding.arguedIn_argumentsOf i.shows.distinct (i.heldIn binds) options.styles (some doc) avoids

end Records

end InlineCall

/-! ### Agreement -/

/-- A function that is about to be guarded. -/
structure Decoration (face : Face) where
  call : Call
  machine : Machine
  id : FunctionId
  function : Function
  code : Code
  shows : Shows machine.store id function code face

/-- **Guarded functions and functions that check themselves agree.** Take any signature,
documentation and options, any call that binds, a function guarded with them, and a function that
checks its own call first of all and is found to be running.

Without documentation or parameters neither checks anything. Otherwise a guarded call first judges
what was given, unless a keyword has the name of an unfilled parameter that is positional only: then
it judges nothing. The other call judges what it sees of itself. All that it judges is judged of
what was given, so that it finds no violation where none is found there; and if no argument is the
default of its parameter, both judgments are one and the same, apart from the name of the function if
that was emptied: the running call is known as what it was called by then. -/
theorem inline_agrees_with_guard {names : OptionNames} {options : CheckOptions}
    (valid : CheckOptions.ofNames names.styles names.reaction = .ok options) {face : Face}
    {args : List Value} {keywords : Bindings Value} {binding : Binding}
    (binds : face.signature.bind? args keywords = some binding) (d : Decoration face)
    (i : InlineCall face names binding) :
    (face.checkable? = none →
      (∀ w, on w (guardFunction d.call names d.id) d.machine
          = (.ok d.id, { d.machine with
              events := d.machine.events ++ [.reported (.log (.notGuarded face.name))] }))
        ∧ ∃ entry, on i.world (callFunction ask i.function args keywords) i.machine
            = on i.world (i.begunBy (Run.follow (.skipped entry))) i.searched)
    ∧ ∀ doc params, face.checkable? = some (doc, params) →
      let guard := face.guard options doc d.id
      let given := guard.judgment binding
      let seen := i.judgment options doc
      let known := { given with place := seen.place }
      (∀ w, on w (guardFunction d.call names d.id) d.machine
          = (.ok d.machine.store.functions.size, { d.machine with
              store := { d.machine.store with
                functions := d.machine.store.functions.push (guardOf d.function d.id guard) } }))
        ∧ (∀ call f, f.behaviour = .guard guard →
            callFunction call f args keywords = guard.letThrough call args keywords fun inProgram =>
              if face.signature.namesPositionalOnly args keywords then pure ()
              else discard (given.run call inProgram))
        ∧ on i.world (callFunction ask i.function args keywords) i.machine
            = on i.world (i.begunBy (Run.inFunction "docparams.validate" "validate_arguments" []
                (seen.check ask i.code.name))) i.searched
        ∧ seen.records.Sublist given.records
        ∧ (∀ types, (seen.violation? types).isSome → (given.violation? types).isSome)
        ∧ (face.name ≠ "" → known = given)
        ∧ (binding.AvoidsDefaults face.signature →
            seen.records = given.records
              ∧ (∀ call inProgram, seen.run call inProgram = known.run call inProgram)
              ∧ ∀ w call method m,
                  (on w (seen.check call method) m).1 = (on w (known.run call true) m).1) := by
  obtain ⟨f, c, unchanged⟩ := i.unchanged
  obtain ⟨owner, inline⟩ := i.on_callFunction valid binds
  refine ⟨fun nothing => ?_, fun doc params documented => ?_⟩
  · -- without documentation or parameters the one is no guard, and the other check is skipped
    refine ⟨fun w => d.shows.on_guardFunction_of_none d.call valid nothing, ?_⟩
    obtain ⟨entry, skipped⟩ := on_checkCall_of_none ask options owner i.arguments unchanged i.named
      nothing
    refine ⟨entry, inline.trans (i.on_begunBy_congr ?_)⟩
    rw [on_inFunction, skipped, on_follow, on_follow]
  · intro guard given seen known
    -- both judge by the parameters that the documentation can speak of
    have speaks := Face.eq_documentable_of_checkable? documented
    subst speaks
    have sublist : seen.records.Sublist given.records :=
      i.records_judgment_sublist binds options doc d.id
    refine ⟨fun w => d.shows.on_guardFunction d.call valid documented, fun call f guarded => ?_, ?_,
      sublist, Judgment.isSome_violation?_of_sublist rfl sublist, fun named => ?_, fun avoids => ?_⟩
    · rw [callFunction_of_guard guarded]
      congr 1
      funext inProgram
      exact guard.examine_of_bind? call inProgram binds
    · refine inline.trans (i.on_begunBy_congr ?_)
      rw [on_inFunction, on_inFunction,
        on_checkCall_of_some ask options owner i.arguments unchanged i.named documented]
      rfl
    · show (⟨_, sharedText (face.nameOr _), _, _, _⟩ : Judgment) = ⟨_, sharedText face.name, _, _, _⟩
      rw [Face.nameOr, if_neg named]
      rfl
    · have same : seen.records = given.records :=
        i.records_judgment binds options doc d.id avoids
      have run (call : Call) (inProgram : Bool) :
          seen.run call inProgram = known.run call inProgram :=
        Judgment.run_with_args (j := known) call inProgram same
      have plain : known.place.Names (some (face.nameOr i.code.name)) := .text 0 _
      exact ⟨same, run, fun w call method m =>
        Judgment.result_check plain same (run call true) method m⟩

/-! ### A function whose first parameter is positional only -/

namespace Sample

/-- The options of the sample. -/
def names : OptionNames := ⟨["phpdoc"], some "raise"⟩

/-- The same options, read. -/
def options : CheckOptions := ⟨[.phpdoc], .fail⟩

theorem valid : CheckOptions.ofNames names.styles names.reaction = .ok options := rfl

/-- The documentation of the sample. -/
def doc : String := "@param int $b"

/-- The code of a function of three parameters that only checks itself. -/
def code : Code :=
  ⟨1, "f", "f", "f",
    [⟨"a", .positionalOnly, none⟩, ⟨"b", .positional, none⟩, ⟨"kw", .keywords, none⟩],
    [.validate names false]⟩

/-- A function `f(a=1, /, b=2, **kw)` whose documentation says that `b` is an integer. -/
def function : Function where
  name := sharedText "f"
  qualifiedName := sharedText "f"
  doc := .str 1 Sample.doc
  module := sharedText "m"
  defaults := .tuple 2 [.int 3 1, .int 4 2]
  keywordDefaults := .none
  annotations := .none
  behaviour := .run code []
  attributes := []

/-- What the function shows. -/
def face : Face where
  signature := [⟨"a", .positionalOnly, some (.int 3 1)⟩, ⟨"b", .positional, some (.int 4 2)⟩,
    ⟨"kw", .keywords, none⟩]
  doc := some Sample.doc
  qualifiedName := "f"
  plainName := "f"

/-- A program that defined the function and nothing else. -/
def machine : Machine where
  store :=
    { warnings := .shown
      registered := some "m"
      globals := [("__name__", sharedText "m"), ("f", .function 0)]
      functions := #[function]
      classes := #[]
      cells := #[]
      written := []
      attributes := []
      contents := []
      reclassed := []
      adopted := []
      stored := []
      codes := []
      writing := []
      places := []
      instances := []
      firstMark := 10
      nextMark := 10 }
  events := []

/-- The world of the module. -/
def world : World := .at depthLimit [.frame .module]

/-- The machine in which a call of the function looks for itself. -/
def searched (binding : Binding) : Machine :=
  { machine.entered face.signature code binding with
    store := (machine.entered face.signature code binding).store.afterListing
      (machine.entryFrame face.signature code binding []) }

/-- The function shows its face before a call and in it. -/
theorem shows (s : Store) (functions : s.functions = #[function]) (adopted : s.adopted = []) :
    Shows s 0 function code face where
  stored := by rw [functions]; rfl
  runs := rfl
  signature := rfl
  distinct := by decide
  defaults := Nat.le_refl 2
  doc := rfl
  qualifiedName := rfl
  plainName := rfl
  own name _ := by
    have nothing : s.ownAttributes (.function 0) = [] := by
      rw [Store.ownAttributes, Store.adopted?, adopted]
      show s.givenAttributes (.function 0) = []
      rw [Store.givenAttributes, functions]
      rfl
    rw [nothing]
    rfl

/-- The function, about to be guarded. -/
def decoration : Decoration face where
  call := ask
  machine := machine
  id := 0
  function := function
  code := code
  shows := shows _ rfl rfl

/-- A call of the function from its module. -/
def inlineCall (binding : Binding)
    (self : (machine.entryLocals face.signature code binding []).get? "self" = none)
    (cls : (machine.entryLocals face.signature code binding []).get? "cls" = none) :
    InlineCall face names binding where
  world := world
  machine := machine
  id := 0
  function := function
  code := code
  outer := []
  rest := []
  shows := shows _ rfl rfl
  behaviour := rfl
  closes := ⟨.toplevel, rfl⟩
  body := rfl
  named := by decide
  searched := searched binding
  resolves := ⟨searched binding, .module,
    runningFunction_of_global (f := function) rfl rfl rfl _ _ _ _,
    ownerOf_of_registered self cls rfl rfl _ _ _ _ _⟩
  unchanged := ⟨function, code, shows _ rfl rfl⟩

/-- What `f(3, "x")` gives to the parameters. -/
def byPosition : Binding := ⟨[("a", .int 5 3), ("b", .str 6 "x")], [], []⟩

/-- What `f(b="x", a=3)` gives to the parameters: the keyword `a` is collected. -/
def byKeyword : Binding := ⟨[("b", .str 6 "x")], [], [("a", .int 5 3)]⟩

/-- The keyword arguments of the second call. -/
def keywords : Bindings Value := [("b", .str 6 "x"), ("a", .int 5 3)]

theorem avoidsDefaults {binding : Binding}
    (a : ∀ v, binding.given.get? "a" = some v → v.same (.int 3 1) = false)
    (b : ∀ v, binding.given.get? "b" = some v → v.same (.int 4 2) = false) :
    binding.AvoidsDefaults face.signature := by
  intro p hp v d given default
  simp only [face, List.mem_cons, List.not_mem_nil, or_false] at hp
  rcases hp with rfl | rfl | rfl
  · cases default
    exact a v given
  · cases default
    exact b v given
  · cases default

end Sample

open Sample

/-- Both ways of checking find what is wrong with `f(3, "x")`. -/
theorem inline_agrees_with_guard_positional :
    let inline := inlineCall byPosition rfl rfl
    let seen := inline.judgment options doc
    let given := (face.guard options doc 0).judgment byPosition
    CheckOptions.ofNames names.styles names.reaction = .ok options
      ∧ face.signature.bind? [.int 5 3, .str 6 "x"] [] = some byPosition
      ∧ on world (callFunction ask function [.int 5 3, .str 6 "x"] []) machine
          = on world (inline.begunBy (Run.inFunction "docparams.validate" "validate_arguments" []
              (seen.check ask "f"))) (searched byPosition)
      ∧ (∀ call inProgram, seen.run call inProgram = given.run call inProgram)
      ∧ given.violation? Value.typeName = some ⟨"b", "integer", "string"⟩ := by
  intro inline seen given
  have binds : face.signature.bind? [.int 5 3, .str 6 "x"] [] = some byPosition := rfl
  have avoids : byPosition.AvoidsDefaults face.signature :=
    avoidsDefaults (fun v h => by cases h; rfl) (fun v h => by cases h; rfl)
  have violated : ((face.guard options doc 0).judgment byPosition).violation? Value.typeName
      = some ⟨"b", "integer", "string"⟩ := by
    decide +kernel
  obtain ⟨-, agrees⟩ := inline_agrees_with_guard valid binds decoration inline
  obtain ⟨-, -, runs, -, -, -, same⟩ := agrees doc ["a", "b"] rfl
  exact ⟨valid, binds, runs, (same avoids).2.1, violated⟩

/-- The call `f(b="x", a=3)` binds and gives no parameter its default. A guard looks at nothing of
it, while the function finds of itself that `b` is no integer. -/
theorem guard_misses_collected_keyword :
    face.signature.bind? [] keywords = some byKeyword
      ∧ byKeyword.AvoidsDefaults face.signature
      ∧ (∀ call f, f.behaviour = .guard (face.guard options doc 0) →
          callFunction call f [] keywords
            = (face.guard options doc 0).letThrough call [] keywords fun _ => pure ())
      ∧ (on world (callFunction ask function [] keywords) machine).1
          = .error (.mismatch ⟨⟨"b", "integer", "string"⟩, some "f"⟩ (some "f")) := by
  have binds : face.signature.bind? [] keywords = some byKeyword := rfl
  have avoids : byKeyword.AvoidsDefaults face.signature :=
    avoidsDefaults (fun v h => by cases h) (fun v h => by cases h; rfl)
  refine ⟨binds, avoids, fun call f guarded => ?_, ?_⟩
  · rw [callFunction_of_guard guarded]
    rfl
  · let inline := inlineCall byKeyword rfl rfl
    let given : Judgment := (face.guard options doc 0).judgment byKeyword
    have plain : given.place.Names (some "f") := .text 0 "f"
    have same : (inline.judgment options doc).records = given.records :=
      inline.records_judgment binds options doc 0 avoids
    have told : ∀ record ∈ given.records,
        Gives (typeNameOf ask record.2) (searched byKeyword) (Value.typeName record.2) := by
      intro record hr
      obtain ⟨mem, present⟩ := Finding.mem_of_mem_arguedIn hr
      rcases List.mem_cons.1 mem with value | mem
      · rw [value] at present
        cases present
      · rw [List.mem_singleton.1 mem]
        exact (Value.IsAsMade.of_isDirect rfl).typeNameOf
    have judged (w : World) : (on w (given.run ask true) (searched byKeyword)).1
        = .error (.mismatch ⟨⟨"b", "integer", "string"⟩, some "f"⟩ (some "f")) := by
      have findings : given.findings Value.typeName = [⟨"b", "integer", "string", 1⟩] := by
        show ((face.guard options doc 0).judgment byKeyword).findings Value.typeName = _
        decide +kernel
      rw [Judgment.on_run_of_told plain told rfl nofun, findings]
      rfl
    obtain ⟨owner, runs⟩ := inline.on_callFunction valid binds
    have run := Judgment.run_with_args (j := given) ask true same
    have documented : face.checkable? = some (doc, ["a", "b"]) := rfl
    refine (congrArg Prod.fst runs).trans (inline.result_begunBy_of_error ?_)
    rw [on_inFunction]
    refine (congrArg Prod.fst (on_checkCall_of_some ask options owner inline.arguments
      (shows (searched byKeyword).store rfl rfl) inline.named documented)).trans ?_
    exact (Judgment.result_check plain same run "f" _).trans (judged _)

end DocGuard

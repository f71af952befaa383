import DocGuard.Proofs.Program.Agreement
import DocGuard.Proofs.Program.Inheritance
/-!
How far the search for the running function reaches.

In a frame without a receiver the search looks at the global of the name, at what those classes
among the globals offer that define the name, and at the variables of all frames from the running
one outwards: a variable holds something that runs the code, or a class that offers it. Each of
these places is a list that is gone through until something runs the code, so that the whole search
is one list (`Survey.reach`), and its first entry that does is taken (`answers_runningFunction`).
What stands behind this entry is not asked any more, so that nothing is needed but that what the
search comes to answers (`Surveyed`).

From the search follows the running call (`search_reaches_running`): what runs the code and is
reached is found, whatever the depth; where nothing does the global of the name is taken if it can
be called, and where it cannot there is a name without a function, and a check is skipped.
-/

namespace DocGuard

open Run

/-! ### What there is to ask -/

/-- What the values that the search can come to answer. -/
structure Survey where
  /-- The value runs the code. -/
  carries : Value → Bool
  /-- The value counts as a class. -/
  isClass : Value → Bool
  /-- The class has a member of the name itself. -/
  defines : Value → Bool
  /-- The candidates of the name that the class has. -/
  candidates : Value → List Value
  /-- The value can be called. -/
  callable : Value → Bool

/-- A frame with what its variables hold. -/
abbrev Scene := Frame × List Value

namespace Survey

variable (k : Survey)

/-- What is reached through a class. -/
def ofClass (v : Value) : List Value :=
  if k.isClass v then present (k.candidates v) else []

/-- What is reached through a global, if it is a class that defines the name. -/
def ofGlobal (v : Value) : List Value :=
  if k.isClass v && k.defines v then present (k.candidates v) else []

/-- What is reached through a variable: what it holds, and what this offers if it is a class. -/
def ofVariable (v : Value) : List Value :=
  v :: k.ofClass v

/-- What is reached through the variables of a frame. -/
def ofScene (scene : Scene) : List Value :=
  scene.2.flatMap k.ofVariable

/-- All that is reached, in the order of the search. -/
def reach (name : String) (globals : Bindings Value) (scenes : List Scene) : List Value :=
  (globals.get? name).toList
    ++ ((globals.map Prod.snd).flatMap k.ofGlobal ++ scenes.flatMap k.ofScene)

/-- Among some things the search comes to this one: it has found nothing before. -/
def ComesTo {α : Type} (reached : α → List Value) (things : List α) (a : α) : Prop :=
  ∃ before after, things = before ++ a :: after
    ∧ (before.flatMap reached).find? k.carries = none

/-- What is found in the end: the first thing reached that runs the code, or the global of the name
if it can be called. -/
def found (name : String) (globals : Bindings Value) (scenes : List Scene) : Option Value :=
  ((k.reach name globals scenes).find? k.carries).or ((globals.get? name).filter k.callable)

variable {k} {α : Type} {reached : α → List Value} {a b : α} {rest : List α}

theorem comesTo_head : k.ComesTo reached (a :: rest) a :=
  ⟨[], rest, rfl, rfl⟩

theorem ComesTo.mem {things : List α} (h : k.ComesTo reached things a) : a ∈ things := by
  obtain ⟨before, after, rfl, -⟩ := h
  exact List.mem_append_right _ (List.mem_cons_self ..)

/-- Where a thing leads to nothing the search comes to what is behind it. -/
theorem ComesTo.cons (h : k.ComesTo reached rest b)
    (nothing : (reached a).find? k.carries = none) : k.ComesTo reached (a :: rest) b := by
  obtain ⟨before, after, rfl, none⟩ := h
  refine ⟨a :: before, after, rfl, ?_⟩
  rw [List.flatMap_cons, List.find?_append, nothing, none]
  rfl

end Survey

section Answering

variable (w : World) (states : Machine → Prop) (call : Call) (name : String) (place : Nat)
variable (k : Survey)

/-- A class answers for its candidates. -/
structure ClassAnswers (v : Value) : Prop where
  listed : Candidates w states call v name (k.candidates v)
  asked : ∀ f ∈ present (k.candidates v), Answers w states (runs call place f) (k.carries f)

/-- A global answers whether it is a class that defines the name, and if so for its candidates. -/
structure GlobalAnswers (v : Value) : Prop where
  counts : Answers w states (countsAsClass call v) (k.isClass v)
  defines : k.isClass v = true →
    ∃ own, Answers w states (ownMemberShown? call v name) own ∧ own.isSome = k.defines v
  offers : k.isClass v = true → k.defines v = true → ClassAnswers w states call name place k v

/-- What a variable holds answers whether it runs the code, and if not whether it is a class, and if
so for its candidates. -/
structure VariableAnswers (v : Value) : Prop where
  asked : Answers w states (runs call place v) (k.carries v)
  counts : k.carries v = false → Answers w states (countsAsClass call v) (k.isClass v)
  offers : k.carries v = false → k.isClass v = true → ClassAnswers w states call name place k v

/-- The variables of a frame can be listed, and what they hold answers. -/
structure SceneAnswers (scene : Scene) : Prop where
  lists : ∃ locals, Answers w states (listLocals scene.1) locals ∧ locals.map Prod.snd = scene.2
  holds : ∀ v, k.ComesTo k.ofVariable scene.2 v → VariableAnswers w states call name place k v

/-- Whatever the search comes to answers. -/
structure Surveyed (frame : Frame) (globals : Bindings Value) (scenes : List Scene) : Prop where
  known : ∀ m, states m → frame.globals m.store = globals
  bound : ∀ v, globals.get? name = some v → Answers w states (runs call place v) (k.carries v)
  classes : (globals.get? name).filter k.carries = none →
    ∀ v, k.ComesTo k.ofGlobal (globals.map Prod.snd) v → GlobalAnswers w states call name place k v
  scenes : (globals.get? name).filter k.carries = none →
    ((globals.map Prod.snd).flatMap k.ofGlobal).find? k.carries = none →
    ∀ scene, k.ComesTo k.ofScene scenes scene → SceneAnswers w states call name place k scene
  callable : ∀ v, globals.get? name = some v →
    ∀ m, states m → m.store.isCallable v = k.callable v

end Answering

/-! ### The places of the search -/

section Places

variable {w : World} {states : Machine → Prop} {call : Call} {name : String} {place : Nat}
variable {k : Survey}

theorem ClassAnswers.answers_offeredRunning {v : Value}
    (h : ClassAnswers w states call name place k v) :
    Answers w states (offeredRunning call v name place)
      ((present (k.candidates v)).find? k.carries) :=
  DocGuard.answers_offeredRunning h.listed h.asked

/-- The classes among some globals are asked one after the other. -/
theorem answers_classesOffer {values : List Value}
    (answer : ∀ v, k.ComesTo k.ofGlobal values v → GlobalAnswers w states call name place k v) :
    Answers w states (classesOffer call name place values)
      ((values.flatMap k.ofGlobal).find? k.carries) := by
  induction values with
  | nil => exact Answers.pure none
  | cons v rest ih =>
    have first := answer v Survey.comesTo_head
    -- the others have to answer only where nothing is reached through the first
    have others (nothing : (k.ofGlobal v).find? k.carries = none) :=
      ih fun w hw => answer w (hw.cons nothing)
    rw [classesOffer, List.flatMap_cons, List.find?_append]
    refine first.counts.bind ?_
    cases isClass : k.isClass v with
    | false =>
      have nothing : (k.ofGlobal v).find? k.carries = none := by
        rw [Survey.ofGlobal, isClass]
        rfl
      rw [nothing]
      exact others nothing
    | true =>
      obtain ⟨own, shown, has⟩ := first.defines isClass
      refine shown.bind ?_
      cases defines : k.defines v with
      | false =>
        have nothing : (k.ofGlobal v).find? k.carries = none := by
          rw [Survey.ofGlobal, defines, Bool.and_false]
          rfl
        rw [defines, Option.isSome_eq_false_iff] at has
        rw [has, nothing]
        exact others nothing
      | true =>
        have reached : k.ofGlobal v = present (k.candidates v) := by
          rw [Survey.ofGlobal, isClass, defines]
          rfl
        rw [defines] at has
        rw [reached] at others ⊢
        rw [← Option.not_isSome, has]
        exact answers_orElse (first.offers isClass defines).answers_offeredRunning others

/-- What some variables hold is asked one after the other. -/
theorem answers_valuesHold {values : List Value}
    (answer : ∀ v, k.ComesTo k.ofVariable values v → VariableAnswers w states call name place k v) :
    Answers w states (valuesHold call name place values)
      ((values.flatMap k.ofVariable).find? k.carries) := by
  induction values with
  | nil => exact Answers.pure none
  | cons v rest ih =>
    have first := answer v Survey.comesTo_head
    have others (nothing : (k.ofVariable v).find? k.carries = none) :=
      ih fun w hw => answer w (hw.cons nothing)
    rw [valuesHold, List.flatMap_cons, List.find?_append]
    refine first.asked.bind ?_
    -- what runs the code is taken as it is, and only something else is asked for being a class
    rw [Survey.ofVariable, List.find?_cons] at others ⊢
    cases carries : k.carries v with
    | true => exact Answers.pure _
    | false =>
      rw [carries] at others
      refine (first.counts carries).bind ?_
      cases isClass : k.isClass v with
      | false =>
        have nothing : (k.ofClass v).find? k.carries = none := by
          rw [Survey.ofClass, isClass]
          rfl
        simp only [nothing] at others ⊢
        exact others trivial
      | true =>
        have reached : k.ofClass v = present (k.candidates v) := by
          rw [Survey.ofClass, isClass]
          rfl
        rw [reached] at others ⊢
        exact answers_orElse (first.offers carries isClass).answers_offeredRunning others

/-- The variables of some frames are listed and asked, one frame after the other. -/
theorem answers_framesHold {scenes : List Scene}
    (answer : ∀ scene, k.ComesTo k.ofScene scenes scene →
      SceneAnswers w states call name place k scene) :
    Answers w states (framesHold call name place (scenes.map Prod.fst))
      ((scenes.flatMap k.ofScene).find? k.carries) := by
  induction scenes with
  | nil => exact Answers.pure none
  | cons scene rest ih =>
    have first := answer scene Survey.comesTo_head
    have others (nothing : (k.ofScene scene).find? k.carries = none) :=
      ih fun next h => answer next (h.cons nothing)
    obtain ⟨locals, listed, held⟩ := first.lists
    rw [List.map_cons, framesHold, List.flatMap_cons, List.find?_append]
    refine listed.bind ?_
    rw [held]
    exact answers_orElse (answers_valuesHold first.holds) others

/-- **The search is one list.** Without a receiver the first thing is found of all that is reached
that runs the code, and if nothing does the global of the name, if it can be called. -/
theorem answers_runningFunction {frame : Frame} {around : List Frame} {globals : Bindings Value}
    {scenes : List Scene} {locals : Bindings Value} (seen : scenes.map Prod.fst = frame :: around)
    (self : locals.get? "self" = none) (cls : locals.get? "cls" = none)
    (surveyed : Surveyed w states call name place k frame globals scenes) :
    Answers w states (runningFunction call frame around locals name place)
      (k.found name globals scenes) := by
  have bound (m : Machine) (hm : states m) :
      (frame.globals m.store).get? name = globals.get? name := by
    rw [surveyed.known m hm]
  have noReceiver : Answers w states (receiverOffers call locals name place) none := by
    rw [receiverOffers, self]
    exact Answers.pure none
  have noClass : Answers w states (classOffers call locals name place) none := by
    rw [classOffers, cls]
    exact Answers.pure none
  have callable : Answers w states (globalCallable frame name) ((globals.get? name).filter k.callable) := by
    rw [globalCallable]
    refine Ends.store_bind fun m hm => ?_
    rw [bound m hm]
    cases held : globals.get? name with
    | none => exact Answers.pure none
    | some v =>
      rw [Option.filter_some, Option.filter_some, surveyed.callable v held m hm]
      exact Answers.pure _
  -- the global is an entry of the list, and is looked for by a search of its own
  have global : ((globals.get? name).toList.find? k.carries)
      = (globals.get? name).filter k.carries := by
    cases globals.get? name with
    | none => rfl
    | some v => cases carries : k.carries v <;> simp [carries, Option.filter_some]
  -- the parts of the list are what the searches find one after the other
  have order : k.found name globals scenes
      = ((globals.get? name).filter k.carries).or (none.or (none.or
        ((((globals.map Prod.snd).flatMap k.ofGlobal).find? k.carries).or
          (((scenes.flatMap k.ofScene).find? k.carries).or
            (((globals.get? name).filter k.callable).or none))))) := by
    simp only [Survey.found, Survey.reach, List.find?_append, global, Option.none_or,
      Option.or_none, Option.or_assoc]
  rw [order]
  refine Ends.inFunction ?_ _ _ _
  refine answers_firstFound_cons (answers_globalRunning bound surveyed.bound) fun notGlobal => ?_
  refine answers_firstFound_cons noReceiver fun _ => ?_
  refine answers_firstFound_cons noClass fun _ => ?_
  refine answers_firstFound_cons ?_ fun noClasses => ?_
  · refine Ends.store_bind fun m hm => ?_
    rw [surveyed.known m hm]
    exact answers_classesOffer (surveyed.classes notGlobal)
  · refine answers_firstFound_cons ?_ fun _ => ?_
    · rw [← seen]
      exact answers_framesHold (surveyed.scenes notGlobal noClasses)
    · exact answers_firstFound_cons callable fun _ => Answers.pure none

end Places

/-! ### The running call -/

section RunningCall

variable {w : World} {states : Machine → Prop} {call : Call} {name : String} {place : Nat}
variable {k : Survey}
variable {globals : Bindings Value} {scenes : List Scene}

/-- The search reaches a value: it is the global of the name, or is offered by a class among the
globals that defines the name, or is held by a variable of one of the frames or offered by a class
that is. -/
inductive Survey.Reaches (k : Survey) (name : String) (globals : Bindings Value)
    (scenes : List Scene) (f : Value) : Prop where
  | global (bound : globals.get? name = some f)
  | ofGlobal {v : Value} (among : v ∈ globals.map Prod.snd) (isClass : k.isClass v = true)
      (defines : k.defines v = true) (offered : f ∈ present (k.candidates v))
  | held {scene : Scene} (among : scene ∈ scenes) (holds : f ∈ scene.2)
  | ofHeld {scene : Scene} {v : Value} (among : scene ∈ scenes) (holds : v ∈ scene.2)
      (isClass : k.isClass v = true) (offered : f ∈ present (k.candidates v))

theorem Survey.mem_reach_iff {f : Value} :
    f ∈ k.reach name globals scenes ↔ k.Reaches name globals scenes f := by
  rw [reach, List.mem_append, List.mem_append, Option.mem_toList]
  constructor
  · rintro (bound | offered | held)
    · exact .global bound
    · obtain ⟨v, among, hf⟩ := List.mem_flatMap.1 offered
      rw [ofGlobal] at hf
      split at hf
      · rename_i defines
        obtain ⟨isClass, defines⟩ := Bool.and_eq_true_iff.1 defines
        exact .ofGlobal among isClass defines hf
      · cases hf
    · obtain ⟨scene, among, hf⟩ := List.mem_flatMap.1 held
      obtain ⟨v, holds, hf⟩ := List.mem_flatMap.1 hf
      rcases List.mem_cons.1 hf with rfl | hf
      · exact .held among holds
      · rw [ofClass] at hf
        split at hf
        · rename_i isClass
          exact .ofHeld among holds isClass hf
        · cases hf
  · rintro (bound | ⟨among, isClass, defines, offered⟩ | ⟨among, holds⟩ |
      ⟨among, holds, isClass, offered⟩)
    · exact .inl bound
    · refine .inr (.inl (List.mem_flatMap.2 ⟨_, among, ?_⟩))
      rwa [ofGlobal, isClass, defines]
    · refine .inr (.inr (List.mem_flatMap.2 ⟨_, among, List.mem_flatMap.2 ⟨f, holds, ?_⟩⟩))
      exact List.mem_cons_self ..
    · refine .inr (.inr (List.mem_flatMap.2 ⟨_, among, List.mem_flatMap.2 ⟨_, holds, ?_⟩⟩))
      refine List.mem_cons_of_mem _ ?_
      rwa [ofClass, isClass]

/-- A running call without a function is skipped by a check. -/
theorem on_checkFrames_of_none {frames : List Frame} {m m' : Machine} {names : OptionNames}
    {options : CheckOptions}
    (valid : CheckOptions.ofNames names.styles names.reaction = .ok options)
    (ends : on w.ofCheck (runningCall call frames 0) m
      = (.ok (some ⟨.none, some name, [], none⟩), m')) :
    ∃ entry, entry.level = .debug ∧ on w (checkFrames call names frames) m
      = (.ok none, { m' with events := m'.events ++ [.reported (.log entry)] }) := by
  rw [checkFrames, on_inFunction, (gives_options valid m).bind]
  show ∃ entry, _ ∧ on w.ofCheck (runningCall call frames 0 >>= _) m = _
  rw [on_bind, ends]
  cases named : placeName? (some name) with
  | none =>
    refine ⟨.noCaller, rfl, ?_⟩
    simp only [checkCall, Option.bind_some, named, Option.map_none]
    rw [on_follow]
    rfl
  | some method =>
    refine ⟨.noArguments method, rfl, ?_⟩
    simp only [checkCall, Option.bind_some, named, Option.map_some]
    exact on_follow ..

/-- **Whatever the search reaches is found.** In the frame of a named function without a receiver,
at any depth and in states in which what the search comes to answers: if anything that the search
reaches runs the code, the running call is that of a function which runs it. If nothing does, it is
that of the global of the name, as long as this can be called. And else the call has a name and
nothing more, so that a check of it is skipped with no more than a detail in the log. -/
theorem search_reaches_running {frames around : List Frame} {depth : Int} {frame : Frame}
    {m : Machine} (top : frames.drop depth.toNat = frame :: around)
    (code : frame.code? = some (name, place))
    (self : (m.store.locals frame).get? "self" = none)
    (cls : (m.store.locals frame).get? "cls" = none)
    (seen : scenes.map Prod.fst = frame :: around) (began : states (m.listing frame))
    (surveyed : Surveyed w states call name place k frame globals scenes)
    (described : ∀ f, k.found name globals scenes = some f →
      Describable w states call frame (m.store.locals frame) f) :
    ((∃ f, k.Reaches name globals scenes f ∧ k.carries f = true) →
        ∃ c f m', on w (runningCall call frames depth) m = (.ok (some c), m') ∧ c.func = some f
          ∧ k.Reaches name globals scenes f ∧ k.carries f = true)
      ∧ ((∀ f, k.Reaches name globals scenes f → k.carries f = false) →
        (∀ f, globals.get? name = some f → k.callable f = true →
          ∃ c m', on w (runningCall call frames depth) m = (.ok (some c), m') ∧ c.func = some f)
        ∧ ((∀ f, globals.get? name = some f → k.callable f = false) →
          (∃ m', on w (runningCall call frames depth) m
              = (.ok (some ⟨.none, some name, [], none⟩), m'))
            ∧ ∃ m', on w.ofCheck (runningCall call (frame :: around) 0) m
                  = (.ok (some ⟨.none, some name, [], none⟩), m')
                ∧ ∀ names options,
                  CheckOptions.ofNames names.styles names.reaction = .ok options →
                  ∃ entry, entry.level = .debug
                    ∧ on w (checkFrames call names (frame :: around)) m
                      = (.ok none,
                        { m' with events := m'.events ++ [.reported (.log entry)] }))) := by
  have search := answers_runningFunction seen self cls surveyed
  have reports (f : Value) (found : k.found name globals scenes = some f) :
      ∃ c m', on w (runningCall call frames depth) m = (.ok (some c), m') ∧ c.func = some f := by
    rw [found] at search
    obtain ⟨c, m', ends, -, -, hc⟩ :=
      ends_runningCall_of_some top code began search (described f found)
    exact ⟨c, m', ends, hc⟩
  refine ⟨?_, fun nothing => ?_⟩
  · -- what is found is the first that runs the code, and need not be the `f` that was given
    rintro ⟨f, reaches, carries⟩
    obtain ⟨g, first⟩ : ∃ g, (k.reach name globals scenes).find? k.carries = some g :=
      Option.isSome_iff_exists.1 (List.find?_isSome.2 ⟨f, Survey.mem_reach_iff.2 reaches, carries⟩)
    obtain ⟨c, m', ends, hc⟩ := reports g (by rw [Survey.found, first, Option.some_or])
    exact ⟨c, g, m', ends, hc, Survey.mem_reach_iff.1 (List.mem_of_find?_eq_some first),
      List.find?_some first⟩
  · -- then only the last search is left, which does not ask for the code
    have none : (k.reach name globals scenes).find? k.carries = none :=
      List.find?_eq_none.2 fun f hf =>
        Bool.eq_false_iff.1 (nothing f (Survey.mem_reach_iff.1 hf))
    have only : k.found name globals scenes = (globals.get? name).filter k.callable := by
      rw [Survey.found, none, Option.none_or]
    refine ⟨fun f bound callable => reports f ?_, fun uncallable => ?_⟩
    · rw [only, bound, Option.filter_some, callable]
      rfl
    · have nowhere : k.found name globals scenes = Option.none := by
        rw [only]
        exact Option.filter_eq_none_iff.2 fun f hf => Bool.eq_false_iff.1 (uncallable f hf)
      rw [nowhere] at search
      obtain ⟨m', ends, -⟩ := ends_runningCall_of_none top code began search
      have here : (frame :: around).drop (0 : Int).toNat = frame :: around := rfl
      obtain ⟨m₁, checked, -⟩ := ends_runningCall_of_none here code began (search.inside _)
      exact ⟨⟨m', ends⟩, m₁, checked, fun names options valid => on_checkFrames_of_none valid checked⟩

end RunningCall

/-! ### Two inner functions -/

namespace Inner

/-- A class with a method `f`, which does not define the names searched for. -/
def cls : ClassRef := ⟨"C", none, .defined 0⟩

/-- The code of an inner function without parameters. -/
def code (place : Nat) (name : String) : Code :=
  ⟨place, name, name, "outer.<locals>." ++ name, [], []⟩

/-- An inner function with this code. -/
def function (code : Code) : Function where
  name := sharedText code.name
  qualifiedName := sharedText code.qualifiedName
  doc := .str 1 "inner"
  module := sharedText "m"
  defaults := .none
  keywordDefaults := .none
  annotations := .none
  behaviour := .run code []
  attributes := []

/-- Two functions were made inside another one. A global holds the first under a name that is not
its own, and nothing holds the second. -/
def machine : Machine where
  store :=
    { warnings := .shown
      registered := some "m"
      globals := [("kept", .function 0), ("__name__", sharedText "m"), ("C", .cls cls)]
      functions := #[function (code 2 "g"), function (code 3 "h")]
      classes := #[Override.info cls [.builtin "object"] [cls, .builtin "object"] 0]
      cells := #[]
      written := []
      attributes := []
      contents := []
      reclassed := []
      adopted := []
      stored := []
      codes := []
      writing := []
      places := []
      instances := []
      firstMark := 10
      nextMark := 11 }
  events := []

/-- The frame of a call of a function with this code. -/
def frame (code : Code) : Frame := .call 10 code []

/-- The machine in which the search for its function begins. -/
def began : Machine := machine.listing (frame (code 2 "g"))

/-- The world of a call of a function with this code. -/
def world (code : Code) : World := World.at depthLimit [.frame (frame code), .frame .module]

/-- What the values answer when they are asked for the code of a function. -/
def survey (id : FunctionId) : Survey where
  carries
    | .function other => other == id
    | _ => false
  isClass
    | .cls _ => true
    | _ => false
  defines _ := false
  candidates _ := []
  callable
    | .function _ | .cls _ => true
    | _ => false

/-- The values of the globals. -/
def values : List Value := [.function 0, sharedText "m", .cls cls]

/-- The frames of a call from the module, with what their variables hold. -/
def scenes (code : Code) : List Scene := [(frame code, []), (.module, values)]

section Surveyed

variable {w : World} {name : String} {id : FunctionId} {v : Value}

theorem counts (hv : v ∈ values) :
    Answers w (· = began) (countsAsClass ask v) ((survey id).isClass v) := by
  simp only [values, List.mem_cons, List.not_mem_nil, or_false] at hv
  rcases hv with rfl | rfl | rfl
  · exact (isInstance_function ask began 0 "type").answers
  · exact Gives.answers fun _ => rfl
  · exact Gives.answers fun _ => rfl

variable (undefined : ∀ d ∈ [cls, .builtin "object"], began.store.ownMember? d name = none)
include undefined

/-- The class has no candidates. -/
theorem candidates : Candidates w (· = began) ask (.cls cls) name [] := by
  have none : began.store.candidates cls name = [] := by
    show ([cls, .builtin "object"].map fun d =>
      ((began.store.ownMember? d name).map began.store.offers).getD []).flatten = []
    rw [List.map_cons, List.map_cons, undefined cls (List.mem_cons_self ..),
      undefined (.builtin "object") (List.mem_cons_of_mem _ (List.mem_cons_self ..))]
    rfl
  rw [← none]
  refine candidates_of_isPlainMember rfl (by decide +kernel) fun d hd => ?_
  rw [undefined d hd]
  rfl

theorem globalAnswers (hv : v ∈ values) :
    GlobalAnswers w (· = began) ask name (id + 2) (survey id) v where
  counts := counts hv
  defines isClass := by
    simp only [values, List.mem_cons, List.not_mem_nil, or_false] at hv
    rcases hv with rfl | rfl | rfl
    · cases isClass
    · cases isClass
    · refine ⟨_, (gives_ownMemberShown? rfl).answers, ?_⟩
      rw [undefined cls (List.mem_cons_self ..)]
      rfl
  offers _ defines := by cases defines

theorem variableAnswers (hv : v ∈ values) :
    VariableAnswers w (· = began) ask name (id + 2) (survey id) v where
  asked := by
    simp only [values, List.mem_cons, List.not_mem_nil, or_false] at hv
    rcases hv with rfl | rfl | rfl
    · have placed : (some 2 == some (id + 2)) = (0 == id) := by
        cases id <;> simp
      refine Gives.answers fun _ => (on_runs_function ask (id + 2) 0 began).trans ?_
      show (Except.ok (some 2 == some (id + 2)), began) = _
      rw [placed]
      rfl
    · exact Gives.answers fun _ => rfl
    · exact Gives.answers fun _ => rfl
  counts _ := counts hv
  offers _ isClass := by
    simp only [values, List.mem_cons, List.not_mem_nil, or_false] at hv
    rcases hv with rfl | rfl | rfl
    · cases isClass
    · cases isClass
    · refine ⟨candidates undefined, ?_⟩
      intro f hf
      cases hf

theorem surveyed (code : Code) (free : machine.store.globals.get? name = none)
    (listed : began.listing (frame code) = began) :
    Surveyed w (· = began) ask name (id + 2) (survey id) (frame code) machine.store.globals
      (scenes code) where
  known := by
    rintro _ rfl
    rfl
  bound v hv := by
    rw [free] at hv
    cases hv
  classes _ v hv := globalAnswers undefined hv.mem
  scenes _ _ scene hs := by
    rcases List.mem_pair.1 hs.mem with rfl | rfl
    · have lists : Gives (listLocals (frame code)) began [] := by
        intro w
        rw [on_listLocals]
        exact congrArg (Prod.mk _) listed
      refine ⟨⟨[], lists.answers, rfl⟩, ?_⟩
      intro v hv
      cases hv.mem
    · have lists : Gives (listLocals .module) began machine.store.globals := fun _ => rfl
      exact ⟨⟨_, lists.answers, rfl⟩, fun v hv => variableAnswers undefined hv.mem⟩
  callable v hv := by
    rw [free] at hv
    cases hv

end Surveyed

/-- What the first function shows. -/
def face : Face := ⟨[], some "inner", "outer.<locals>.g", "g"⟩

theorem shows : Shows began.store 0 (function (code 2 "g")) (code 2 "g") face where
  stored := rfl
  runs := rfl
  signature := rfl
  distinct := by decide
  defaults := Nat.zero_le _
  doc := rfl
  qualifiedName := rfl
  plainName := rfl
  own _ _ := rfl

theorem describable {w : World} :
    Describable w (· = began) ask (frame (code 2 "g")) [] (.function 0) := by
  have owner : Gives (ownerOf ask (frame (code 2 "g")) []) began .module :=
    ownerOf_of_registered rfl rfl rfl rfl ask _ _ _
  exact shows.describable (owner.answers.imp fun _ _ => trivial)

end Inner

/-- The first function is found in the global that holds it. Of the second there is nothing but its
name, and a check that it makes is skipped. -/
theorem search_reaches_running_inner :
    (∃ c f m', on (Inner.world (Inner.code 2 "g"))
          (runningCall ask [Inner.frame (Inner.code 2 "g"), .module] 0) Inner.machine
        = (.ok (some c), m') ∧ c.func = some f ∧ (Inner.survey 0).carries f = true)
      ∧ ∃ m', on (Inner.world (Inner.code 3 "h")).ofCheck
            (runningCall ask [Inner.frame (Inner.code 3 "h"), .module] 0) Inner.machine
          = (.ok (some ⟨.none, some "h", [], none⟩), m')
        ∧ ∃ entry, entry.level = .debug
          ∧ on (Inner.world (Inner.code 3 "h"))
              (checkFrames ask Sample.names [Inner.frame (Inner.code 3 "h"), .module]) Inner.machine
            = (.ok none, { m' with events := m'.events ++ [.reported (.log entry)] }) := by
  constructor
  · let frame := Inner.frame (Inner.code 2 "g")
    have surveyed : Surveyed (Inner.world (Inner.code 2 "g")) (· = Inner.began) ask "g" 2
        (Inner.survey 0) frame Inner.machine.store.globals (Inner.scenes (Inner.code 2 "g")) := by
      refine Inner.surveyed (fun d hd => ?_) _ rfl rfl
      rcases List.mem_pair.1 hd with rfl | rfl <;> rfl
    have found : (Inner.survey 0).found "g" Inner.machine.store.globals
        (Inner.scenes (Inner.code 2 "g")) = some (.function 0) := rfl
    obtain ⟨reached, -⟩ := @search_reaches_running (Inner.world (Inner.code 2 "g")) (· = Inner.began) ask
      "g" 2 (Inner.survey 0) Inner.machine.store.globals (Inner.scenes (Inner.code 2 "g"))
      [frame, .module] [.module] 0 frame Inner.machine rfl rfl rfl rfl rfl rfl surveyed fun f hf => by
        cases found.symm.trans hf
        exact Inner.describable
    obtain ⟨c, f, m', ends, hc, -, carries⟩ := reached ⟨.function 0,
      .held (List.mem_cons_of_mem _ (List.mem_cons_self ..)) (List.mem_cons_self ..), rfl⟩
    exact ⟨c, f, m', ends, hc, carries⟩
  · let frame := Inner.frame (Inner.code 3 "h")
    have surveyed : Surveyed (Inner.world (Inner.code 3 "h")) (· = Inner.began) ask "h" 3
        (Inner.survey 1) frame Inner.machine.store.globals (Inner.scenes (Inner.code 3 "h")) := by
      refine Inner.surveyed (fun d hd => ?_) _ rfl rfl
      rcases List.mem_pair.1 hd with rfl | rfl <;> rfl
    have nowhere : (Inner.survey 1).found "h" Inner.machine.store.globals
        (Inner.scenes (Inner.code 3 "h")) = none := rfl
    obtain ⟨-, missed⟩ := @search_reaches_running (Inner.world (Inner.code 3 "h")) (· = Inner.began) ask
      "h" 3 (Inner.survey 1) Inner.machine.store.globals (Inner.scenes (Inner.code 3 "h"))
      [frame, .module] [.module] 0 frame Inner.machine rfl rfl rfl rfl rfl rfl surveyed fun f hf => by
        cases nowhere.symm.trans hf
    have nothing : ∀ f, (Inner.survey 1).Reaches "h" Inner.machine.store.globals
        (Inner.scenes (Inner.code 3 "h")) f → (Inner.survey 1).carries f = false := by
      intro f reaches
      have among : f ∈ Inner.values := Survey.mem_reach_iff.2 reaches
      simp only [Inner.values, List.mem_cons, List.not_mem_nil, or_false] at among
      rcases among with rfl | rfl | rfl <;> rfl
    obtain ⟨-, m', ends, skipped⟩ := (missed nothing).2 fun f hf => by cases hf
    exact ⟨m', ends, skipped Sample.names Sample.options Sample.valid⟩

/-! ### Values that show code, or refuse to -/

namespace Stray

open Namesake (head maker)

/-- A function that `outer` made is called, and nothing holds it. There is a global function of its
name. Then its code is given to an instance, which goes again. Another instance fails when it is
asked for its code, and a function that `outer` made is called once more. -/
def session : Session where
  moduleName := "demo.mod"
  registered := true
  firstMark := 10
  steps := [
    .define (.function (head "f" 1 ["x"] (.str 1 "global")) []),
    .define (maker "outer" 2 [] "f" [.describe 0 false]),
    .call ⟨⟨"outer", true⟩, []⟩ [.literal (.int 2 7)] [] none false,
    .define (.cls ⟨"N", "N", 4, [], .literal .none⟩ []),
    .call (.ofName "N") [] [] (some "n") false,
    .act (.set ⟨⟨"n", false⟩, [⟨"__code__", false⟩]⟩
      (.path ⟨⟨"outer", true⟩, [⟨"__code__", false⟩]⟩)),
    .act (.delete (.ofName "n")),
    .define (.cls ⟨"H", "H", 5, [], .literal .none⟩ [
      .property "__code__" (.given (head "get" 6 ["self"] .none) [
        .call (.ofName "range") [.literal (.int 4 0), .literal (.int 5 9), .literal (.int 6 0)] []
          none]) .missing]),
    .call (.ofName "H") [] [] (some "h") false,
    .call ⟨⟨"outer", true⟩, []⟩ [.literal (.int 7 7)] [] none false]

/-- The class of what was described as the function of a call, if a call was described. -/
def described (o : Outcome) : Option String :=
  o.events.findSome? fun
    | .described (some c) => c.func.map FunctionView.type
    | _ => none

/-- The machine when `outer` has been called after the first six steps. -/
def returned : Machine :=
  let s := ((session.steps.take 6).mapM Step.outcome session.start).2
  (on (World.at depthLimit [.frame .module])
    (callPath ask .toplevel (.ofName "outer") [] []) ⟨s, []⟩).2

/-- The code of the function that `outer` makes. -/
def code : Code :=
  ⟨3, "f", "f", "outer.<locals>.f", [⟨"x", .positional, none⟩], [.describe 0 false]⟩

/-- What the call of this function gives to its parameter. -/
def binding : Binding := ⟨[("x", .int 3 7)], [], []⟩

/-- The frame of the call. -/
def frame : Frame :=
  returned.entryFrame [⟨"x", .positional, none⟩] code binding []

/-- The machine in which the search for its function begins. -/
def machine : Machine :=
  (returned.entered [⟨"x", .positional, none⟩] code binding).listing frame

/-- The world of the call. -/
def world : World := World.at depthLimit [.frame frame, .frame .module]

/-- The search for the function that runs in the frame. -/
def search : Run (Option Value) :=
  runningFunction ask frame [.module] (machine.store.locals frame) "f" 3

/-- What was found cannot be called. -/
def isUncallable (found : Except Fault (Option Value)) : Bool :=
  match found with
  | .ok (some f) => !machine.store.isCallable f
  | _ => false

theorem exists_of_isUncallable {found : Except Fault (Option Value)}
    (h : isUncallable found = true) :
    ∃ f, found = .ok (some f) ∧ machine.store.isCallable f = false := by
  rcases found with _ | _ | f
  · cases h
  · cases h
  · rw [isUncallable, Bool.not_eq_true'] at h
    exact ⟨f, rfl, h⟩

end Stray

/-- What is found need not be callable: an instance that shows the code is taken although no
function that runs it is held anywhere, and the global of the name could be called. And where a
value fails when it is asked for its code, nothing is described, although without this value it is
the global of the name that is taken. -/
theorem search_takes_stray :
    (∃ f, (on Stray.world Stray.search Stray.machine).1 = .ok (some f)
        ∧ Stray.machine.store.isCallable f = false)
      ∧ (Stray.machine.store.globals.get? "f").any Stray.machine.store.isCallable = true
      ∧ Stray.session.run.map Stray.described
        = [none, none, some "function", none, none, none, none, none, none, none] := by
  refine ⟨Stray.exists_of_isUncallable ?_, ?_, ?_⟩ <;> decide +kernel

end DocGuard

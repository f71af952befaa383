import DocGuard.Program.Session
import DocGuard.Proofs.Program.Entering
/-!
What the search for the running function finds.

The search looks in six places, one after the other, and asks the values that it meets whether they
run the code of the frame. To ask a value may run code of the program and change the machine, so
that each statement here says which machine the questions began with and which one they left.

A function that is found has said that it runs the code (`SaysItRuns`), with two exceptions. The
class of the receiver, and likewise a class that is the first argument of a class method, offers the
first function that it has under the name when no function does that it or an ancestor has under the
name (`FirstOfName`). And when all other places have been searched in vain, a global of the name is
taken as it is. `Found` lists these reasons, there are no others (`runningCall_func`), and with the
last ones the function may be another one of the same name (`runningCall_takes_namesake`).
-/

namespace DocGuard

open Run

section Search

variable {w : World} {call : Call} {name : String} {place : Nat} {m m' : Machine} {f : Value}

/-! ### Asking -/

/-- The value was asked last of all, and said that it runs the code. -/
def SaysItRuns (w : World) (call : Call) (place : Nat) (f : Value) (m' : Machine) : Prop :=
  ∃ inner m, on (w.amid inner) (runs call place f) m = (.ok true, m')

/-- Some values were asked one after the other, and none said that it runs the code. -/
def NoneRuns (w : World) (call : Call) (place : Nat) : List Value → Machine → Machine → Prop
  | [], m, m' => m = m'
  | v :: rest, m, m' => ∃ m₁, on w (runs call place v) m = (.ok false, m₁)
      ∧ NoneRuns w call place rest m₁ m'

/-- To ask a function changes nothing: it runs the code if its own code is at the place. -/
theorem on_runs_function (call : Call) (place : Nat) (id : FunctionId) (m : Machine) :
    on w (runs call place (.function id)) m
      = (.ok ((m.store.functions[id]?).map Function.place == some place), m) := rfl

/-- A function that says that it runs the code does. -/
theorem SaysItRuns.place_eq {id : FunctionId} (h : SaysItRuns w call place (.function id) m') :
    ∃ g, m'.store.functions[id]? = some g ∧ g.place = place := by
  obtain ⟨inner, m, asked⟩ := h
  rw [on_runs_function] at asked
  obtain ⟨answer, rfl⟩ := Prod.mk.inj asked
  exact Option.map_eq_some_iff.1 (eq_of_beq (Except.ok.inj answer))

/-- Who says so from inside a function says so. -/
theorem SaysItRuns.of_inFunction {home function : String} {params : Bindings Value}
    (h : SaysItRuns (w.inFunction home function params) call place f m') :
    SaysItRuns w call place f m' := by
  obtain ⟨inner, m, asked⟩ := h
  refine ⟨inner ++ [.frame (.ofFunction home function params)], m, ?_⟩
  rw [World.amid, List.append_assoc]
  exact asked

/-- Of some values the first that says that it runs the code is taken. -/
theorem on_findM?_runs {values : List Value} {found : Option Value}
    (h : on w (values.findM? (runs call place)) m = (.ok found, m')) :
    (∃ f, found = some f ∧ SaysItRuns w call place f m')
      ∨ found = none ∧ NoneRuns w call place values m m' := by
  induction values generalizing m with
  | nil =>
    obtain ⟨rfl, rfl⟩ := on_pure_eq_ok_iff.1 h
    exact .inr ⟨rfl, rfl⟩
  | cons v rest ih =>
    obtain ⟨answer, m₁, asked, h⟩ := on_bind_eq_ok_iff.1 h
    cases answer with
    | true =>
      obtain ⟨rfl, rfl⟩ := on_pure_eq_ok_iff.1 h
      exact .inl ⟨v, rfl, [], m, asked⟩
    | false =>
      rcases ih h with found | ⟨rfl, others⟩
      · exact .inl found
      · exact .inr ⟨rfl, m₁, asked, others⟩

/-! ### What classes offer -/

/-- The functions that a class itself offers under a name. -/
def ownOffer (call : Call) (cls : Value) (name : String) : Run (List Value) := do
  match (← ownMemberShown? call cls name).filter fun member => !member.isAbsent with
  | none => return []
  | some member => return (← offers? call member).getD []

/-- The first of the functions that a class itself offers, unless it is absent. -/
def firstPresent (offer : List Value) : Option Value :=
  offer.head?.filter fun f => !f.isAbsent

/-- Some classes were gone through; these are the functions that each of them offered, and none of
these said that it runs the code. -/
def NoneOffered (w : World) (call : Call) (name : String) (place : Nat) :
    List Value → List (List Value) → Machine → Machine → Prop
  | [], offers, m, m' => offers = [] ∧ m = m'
  | cls :: rest, offers, m, m' => ∃ here later m₁ m₂, offers = here :: later
      ∧ on w (ownOffer call cls name) m = (.ok here, m₁) ∧ NoneRuns w call place here m₁ m₂
      ∧ NoneOffered w call name place rest later m₂ m'

/-- The world as it is where classes are searched. -/
def World.searching (w : World) (cls : Value) : World :=
  w.inFunction "docparams.context" "_lookup_in_mro" [("obj_class", cls)]

/-- The whole ancestry that a class shows was gone through, no function that was offered under the
name runs the code, and this is the first of them. -/
def FirstOfName (w : World) (call : Call) (cls : Value) (name : String) (place : Nat) (f : Value)
    (m m' : Machine) : Prop :=
  ∃ ancestry offers m₁, on (w.searching cls) (ancestryShown call cls) m = (.ok ancestry, m₁)
    ∧ NoneOffered (w.searching cls) call name place ancestry offers m₁ m'
    ∧ offers.findSome? firstPresent = some f

/-- The one that is taken of the functions that a class itself offers: the first that runs the code,
or the first of all if none is asked for. -/
def taken (call : Call) (place : Option Nat) (here : List Value) : Run (Option Value) :=
  match place with
  | none => pure here.head?
  | some place => here.findM? (runs call place)

/-- One class of an ancestry: what it offers is asked, and then the others have their turn. -/
theorem offeredAmong_cons (call : Call) (name : String) (place : Option Nat) (first : Option Value)
    (cls : Value) (rest : List Value) (m : Machine) :
    on w (offeredAmong call name place first (cls :: rest)) m
      = on w (ownOffer call cls name >>= fun here => do
          match ← taken call place here with
          | some f => return if f.isAbsent then none else some f
          | none => offeredAmong call name place (first.or (firstPresent here)) rest) m := by
  rw [offeredAmong, ownOffer, bind_assoc, on_bind, on_bind]
  rcases on w (ownMemberShown? call cls name) m with ⟨_ | member, m₁⟩
  · rfl
  · simp only
    cases member.filter fun member => !member.isAbsent with
    | none =>
      -- a class without the member offers nothing, and there is nothing to ask
      have nothing : taken call place [] = pure none := by
        cases place <;> rfl
      rw [pure_bind, nothing, pure_bind]
      simp only [firstPresent, List.head?_nil, Option.filter_none, Option.or_none]
    | some member =>
      simp only [bind_assoc, pure_bind]
      cases place <;> rfl

/-- The function offered by an ancestry says that it runs the code, or none does that was offered,
and it is the first. -/
theorem on_offeredAmong {first : Option Value} {classes : List Value}
    (h : on w (offeredAmong call name (some place) first classes) m = (.ok (some f), m')) :
    SaysItRuns w call place f m' ∨ ∃ offers, NoneOffered w call name place classes offers m m'
      ∧ first.or (offers.findSome? firstPresent) = some f := by
  induction classes generalizing first m with
  | nil =>
    obtain ⟨rfl, rfl⟩ := on_pure_eq_ok_iff.1 h
    exact .inr ⟨[], ⟨rfl, rfl⟩, by rw [List.findSome?_nil, Option.or_none]⟩
  | cons cls rest ih =>
    rw [offeredAmong_cons] at h
    obtain ⟨here, m₁, offer, h⟩ := on_bind_eq_ok_iff.1 h
    obtain ⟨found, m₂, asked, h⟩ := on_bind_eq_ok_iff.1 h
    rcases on_findM?_runs asked with ⟨g, rfl, told⟩ | ⟨rfl, none⟩
    · obtain ⟨e, rfl⟩ := on_pure_eq_ok_iff.1 h
      split at e
      · cases e
      · cases e
        exact .inl told
    · -- what this class offers comes first, unless something came before
      rcases ih h with told | ⟨offers, later, e⟩
      · exact .inl told
      · refine .inr ⟨here :: offers, ⟨here, offers, m₁, m₂, rfl, offer, none, later⟩, ?_⟩
        rw [List.findSome?_cons, ← e, Option.or_assoc]
        cases firstPresent here <;> rfl

/-- The function that a class offers says that it runs the code, or it is the first of its name. -/
theorem on_offered {cls : Value}
    (h : on w (offered call cls name (some place)) m = (.ok (some f), m')) :
    SaysItRuns w call place f m' ∨ FirstOfName w call cls name place f m m' := by
  rw [offered, on_inFunction] at h
  obtain ⟨ancestry, m₁, shown, h⟩ := on_bind_eq_ok_iff.1 h
  rcases on_offeredAmong h with told | ⟨offers, none, e⟩
  · exact .inl told.of_inFunction
  · exact .inr ⟨ancestry, offers, m₁, shown, none, e⟩

/-- What is taken from a class only if it runs the code says so last. -/
theorem on_offeredRunning {cls : Value}
    (h : on w (offeredRunning call cls name place) m = (.ok (some f), m')) :
    SaysItRuns w call place f m' := by
  obtain ⟨found, m₁, -, h⟩ := on_bind_eq_ok_iff.1 h
  cases found with
  | none => cases (on_pure_eq_ok_iff.1 h).1
  | some g =>
    obtain ⟨answer, m₂, asked, h⟩ := on_bind_eq_ok_iff.1 h
    obtain ⟨e, rfl⟩ := on_pure_eq_ok_iff.1 h
    cases answer with
    | true =>
      cases e
      exact ⟨[], m₁, asked⟩
    | false => cases e

/-! ### The places of the search -/

/-- What the classes among some values offer says that it runs the code. -/
theorem on_classesOffer {values : List Value}
    (h : on w (classesOffer call name place values) m = (.ok (some f), m')) :
    SaysItRuns w call place f m' := by
  induction values generalizing m with
  | nil => cases (on_pure_eq_ok_iff.1 h).1
  | cons v rest ih =>
    rw [classesOffer] at h
    obtain ⟨isClass, m₁, -, h⟩ := on_bind_eq_ok_iff.1 h
    cases isClass with
    | false => exact ih h
    | true =>
      obtain ⟨own, m₂, -, h⟩ := on_bind_eq_ok_iff.1 h
      cases own with
      | none => exact ih h
      | some member =>
        obtain ⟨found, m₃, running, h⟩ := on_bind_eq_ok_iff.1 h
        cases found with
        | none => exact ih h
        | some g =>
          obtain ⟨e, rfl⟩ := on_pure_eq_ok_iff.1 h
          cases e
          exact on_offeredRunning running

/-- What some variables hold says that it runs the code. -/
theorem on_valuesHold {values : List Value}
    (h : on w (valuesHold call name place values) m = (.ok (some f), m')) :
    SaysItRuns w call place f m' := by
  induction values generalizing m with
  | nil => cases (on_pure_eq_ok_iff.1 h).1
  | cons v rest ih =>
    rw [valuesHold] at h
    obtain ⟨answer, m₁, asked, h⟩ := on_bind_eq_ok_iff.1 h
    cases answer with
    | true =>
      obtain ⟨e, rfl⟩ := on_pure_eq_ok_iff.1 h
      cases e
      exact ⟨[], m, asked⟩
    | false =>
      -- a class that does not run the code itself is asked for what it has under the name
      obtain ⟨isClass, m₂, -, h⟩ := on_bind_eq_ok_iff.1 h
      cases isClass with
      | false => exact ih h
      | true =>
        obtain ⟨found, m₃, running, h⟩ := on_bind_eq_ok_iff.1 h
        cases found with
        | none => exact ih h
        | some g =>
          obtain ⟨e, rfl⟩ := on_pure_eq_ok_iff.1 h
          cases e
          exact on_offeredRunning running

/-- What the variables of some frames hold says that it runs the code. -/
theorem on_framesHold {frames : List Frame}
    (h : on w (framesHold call name place frames) m = (.ok (some f), m')) :
    SaysItRuns w call place f m' := by
  induction frames generalizing m with
  | nil => cases (on_pure_eq_ok_iff.1 h).1
  | cons frame rest ih =>
    rw [framesHold] at h
    obtain ⟨locals, m₁, -, h⟩ := on_bind_eq_ok_iff.1 h
    obtain ⟨found, m₂, held, h⟩ := on_bind_eq_ok_iff.1 h
    cases found with
    | none => exact ih h
    | some g =>
      obtain ⟨e, rfl⟩ := on_pure_eq_ok_iff.1 h
      cases e
      exact on_valuesHold held

variable {frame : Frame}

/-- A global that is found for its code says that it runs it. -/
theorem on_globalRunning
    (h : on w (globalRunning call frame name place) m = (.ok (some f), m')) :
    SaysItRuns w call place f m' := by
  rw [globalRunning, (gives_store m).bind] at h
  cases bound : (frame.globals m.store).get? name with
  | none =>
    rw [bound] at h
    cases (on_pure_eq_ok_iff.1 h).1
  | some v =>
    simp only [bound] at h
    obtain ⟨answer, m₁, asked, h⟩ := on_bind_eq_ok_iff.1 h
    obtain ⟨e, rfl⟩ := on_pure_eq_ok_iff.1 h
    cases answer with
    | true =>
      cases e
      exact ⟨[], m, asked⟩
    | false => cases e

variable {locals : Bindings Value}

theorem on_receiverOffers (h : on w (receiverOffers call locals name place) m = (.ok (some f), m')) :
    SaysItRuns w call place f m' ∨ ∃ receiver, locals.get? "self" = some receiver
      ∧ FirstOfName w call (.cls (m.store.classOf receiver)) name place f m m' := by
  rw [receiverOffers] at h
  cases held : locals.get? "self" with
  | none =>
    rw [held] at h
    cases (on_pure_eq_ok_iff.1 h).1
  | some receiver =>
    simp only [held] at h
    rw [(gives_store m).bind] at h
    exact (on_offered h).imp_right fun first => ⟨receiver, rfl, first⟩

theorem on_classOffers (h : on w (classOffers call locals name place) m = (.ok (some f), m')) :
    SaysItRuns w call place f m' ∨ ∃ cls m₁, locals.get? "cls" = some cls
      ∧ on w (countsAsClass call cls) m = (.ok true, m₁)
      ∧ FirstOfName w call cls name place f m₁ m' := by
  rw [classOffers] at h
  cases held : locals.get? "cls" with
  | none =>
    rw [held] at h
    cases (on_pure_eq_ok_iff.1 h).1
  | some cls =>
    simp only [held] at h
    obtain ⟨isClass, m₁, counts, h⟩ := on_bind_eq_ok_iff.1 h
    cases isClass with
    | false => cases (on_pure_eq_ok_iff.1 h).1
    | true => exact (on_offered h).imp_right fun first => ⟨cls, m₁, rfl, counts, first⟩

/-! ### The search as a whole -/

/-- Some searches were made one after the other, and none found anything. -/
def NothingFound (w : World) : List (Run (Option Value)) → Machine → Machine → Prop
  | [], m, m' => m = m'
  | search :: rest, m, m' => ∃ m₁, on w search m = (.ok none, m₁) ∧ NothingFound w rest m₁ m'

/-- Why a function is found for the first of some frames, of which these are the variables. -/
inductive Found (w : World) (call : Call) (frame : Frame) (around : List Frame)
    (locals : Bindings Value) (name : String) (place : Nat) (f : Value) (m m' : Machine) : Prop
    where
  /-- It says that it runs the code. -/
  | saysItRuns (told : SaysItRuns w call place f m')
  /-- The global of the name does not run the code, and nothing does that the class of the receiver
  and its ancestors offer under the name. -/
  | firstOfReceiver {receiver : Value} {m₁ : Machine} (held : locals.get? "self" = some receiver)
      (before : NothingFound w [globalRunning call frame name place] m m₁)
      (first : FirstOfName w call (.cls (m₁.store.classOf receiver)) name place f m₁ m')
  /-- The global of the name does not run the code, a receiver offers nothing, and nothing runs the
  code that the class that is the first argument and its ancestors offer under the name. -/
  | firstOfClass {cls : Value} {m₁ m₂ : Machine} (held : locals.get? "cls" = some cls)
      (before : NothingFound w [globalRunning call frame name place,
        receiverOffers call locals name place] m m₁)
      (counts : on w (countsAsClass call cls) m₁ = (.ok true, m₂))
      (first : FirstOfName w call cls name place f m₂ m')
  /-- Everything has been searched, and nothing is left but the global of the name. -/
  | onlyGlobal
      (before : NothingFound w [globalRunning call frame name place,
        receiverOffers call locals name place, classOffers call locals name place,
        globalsOffer call frame name place, framesHold call name place (frame :: around)] m m')
      (bound : (frame.globals m'.store).get? name = some f)
      (callable : m'.store.isCallable f = true)

/-- The first of some searches finds it, or the others do after this one. -/
theorem on_firstFound_cons {search : Run (Option Value)} {rest : List (Run (Option Value))}
    (h : on w (firstFound (search :: rest)) m = (.ok (some f), m')) :
    on w search m = (.ok (some f), m')
      ∨ ∃ m₁, on w search m = (.ok none, m₁) ∧ on w (firstFound rest) m₁ = (.ok (some f), m') := by
  rw [firstFound] at h
  obtain ⟨found, m₁, searched, h⟩ := on_bind_eq_ok_iff.1 h
  cases found with
  | none => exact .inr ⟨m₁, searched, h⟩
  | some g =>
    obtain ⟨e, rfl⟩ := on_pure_eq_ok_iff.1 h
    cases e
    exact .inl searched

/-- The world as it is where the function of a frame is searched. -/
def World.ofSearch (w : World) : World :=
  w.inFunction "docparams.context" "_func_from_frame" []

/-- There is no other reason to find a function than these. -/
theorem on_runningFunction {around : List Frame}
    (h : on w (runningFunction call frame around locals name place) m = (.ok (some f), m')) :
    Found w.ofSearch call frame around locals name place f m m' := by
  rw [runningFunction, on_inFunction] at h
  -- each search is tried where those before it have found nothing
  rcases on_firstFound_cons h with global | ⟨m₁, noGlobal, h⟩
  · exact .saysItRuns (on_globalRunning global)
  rcases on_firstFound_cons h with receiver | ⟨m₂, noReceiver, h⟩
  · rcases on_receiverOffers receiver with told | ⟨receiver, held, first⟩
    · exact .saysItRuns told
    · exact .firstOfReceiver held ⟨m₁, noGlobal, rfl⟩ first
  rcases on_firstFound_cons h with cls | ⟨m₃, noClass, h⟩
  · rcases on_classOffers cls with told | ⟨cls, counted, held, counts, first⟩
    · exact .saysItRuns told
    · exact .firstOfClass held ⟨m₁, noGlobal, m₂, noReceiver, rfl⟩ counts first
  rcases on_firstFound_cons h with classes | ⟨m₄, noClasses, h⟩
  · rw [globalsOffer, (gives_store m₃).bind] at classes
    exact .saysItRuns (on_classesOffer classes)
  rcases on_firstFound_cons h with held | ⟨m₅, noneHeld, h⟩
  · exact .saysItRuns (on_framesHold held)
  rcases on_firstFound_cons h with callable | ⟨m₆, -, h⟩
  · rw [globalCallable, (gives_store m₅).bind] at callable
    obtain ⟨e, rfl⟩ := on_pure_eq_ok_iff.1 callable
    obtain ⟨bound, callable⟩ := Option.filter_eq_some_iff.1 e
    exact .onlyGlobal ⟨m₁, noGlobal, m₂, noReceiver, m₃, noClass, m₄, noClasses, m₅, noneHeld, rfl⟩
      bound callable
  · cases (on_pure_eq_ok_iff.1 h).1

/-- The world as it is where a running call is looked for. -/
def World.ofContext (w : World) : World :=
  w.inFunction "docparams.context" "caller_context" []

/-- A running call in a frame that has a name and code is looked for among what can be searched. -/
theorem on_runningCallAt_of_code {frame : Frame} {around : List Frame}
    (code : frame.code? = some (name, place)) :
    on w (runningCallAt call (frame :: around)) m
      = on w.ofContext (some <$> callIn call frame around name place) m := by
  rw [runningCallAt.eq_def, on_inFunction]
  cases frame with
  | checking owner func name params => cases code
  | _ =>
    simp only [code]
    rfl

/-- Without name or code there is no running call, except in the functions of the modules of checks.
-/
theorem on_runningCallAt_of_no_code {frame : Frame} {around : List Frame}
    (code : frame.code? = none) :
    on w (runningCallAt call (frame :: around)) m
      = (.ok (match frame with
          | .checking owner func name params =>
            some ⟨owner, name, dropTrailing (params.map Prod.snd), func⟩
          | _ => none), m) := by
  rw [runningCallAt.eq_def, on_inFunction]
  cases frame with
  | checking owner func name params => rfl
  | _ =>
    simp only [code]
    rfl

/-- If a call has a function, this is what the search in its frame has found. -/
theorem exists_of_on_callIn {frame : Frame} {around : List Frame} {c : RunningCall}
    (h : on w (callIn call frame around name place) m = (.ok c, m')) (hf : c.func = some f) :
    ∃ searched, on w (runningFunction call frame around (m.store.locals frame) name place)
        { m with store := m.store.afterListing frame } = (.ok (some f), searched)
      ∧ c.method = some name := by
  obtain ⟨locals, m₁, listed, h⟩ := on_bind_eq_ok_iff.1 h
  rw [on_listLocals] at listed
  cases listed
  obtain ⟨found, searched, search, h⟩ := on_bind_eq_ok_iff.1 h
  cases found with
  | none =>
    cases (on_pure_eq_ok_iff.1 h).1
    cases hf
  | some g =>
    -- the owner, the documentation and the signature do not change which function it is
    obtain ⟨owner, m₂, -, h⟩ := on_bind_eq_ok_iff.1 h
    obtain ⟨interface, m₃, -, h⟩ := on_bind_eq_ok_iff.1 h
    obtain ⟨sig, m₄, -, h⟩ := on_bind_eq_ok_iff.1 h
    cases (on_pure_eq_ok_iff.1 h).1
    cases hf
    exact ⟨searched, search, rfl⟩

end Search

/-! ### Functions of the same name -/

namespace Namesake

/-- The options of the checks. -/
def names : OptionNames := ⟨["phpdoc", "sphinx", "google"], some "raise"⟩

/-- The first lines of a definition. -/
def head (name : String) (place : Nat) (params : List String) (doc : Value) : FunctionHead :=
  ⟨name, name, name, place, params.map (⟨·, .positional, none⟩), .literal doc, .plain, none⟩

/-- A function that makes one of the name `inner`, without documentation, and returns it. -/
def maker (name : String) (place : Nat) (params : List String) (inner : String)
    (body : List Action) : Definition :=
  .function (head name place params .none) [
    .define (.function (head inner (place + 1) ["x"] .none) body),
    .return (.path ⟨⟨inner, false⟩, []⟩)]

/-- Two functions that check themselves are called, both without documentation: one made by `outer`,
with the name of a global, and one made by a method of `C`, with the name of another method. -/
def session : Session where
  moduleName := "m"
  registered := true
  firstMark := 10
  steps := [
    .define (.function (head "f" 1 ["x"] (.str 1 "@param int $x")) []),
    .define (maker "outer" 2 [] "f" [.validate names false]),
    .call ⟨⟨"outer", true⟩, []⟩ [.literal (.str 2 "s")] [] none false,
    .define (.cls ⟨"C", "C", 4, [], .literal .none⟩ [
      .function (head "check" 5 ["self", "x"] (.str 3 "@param int $x")) [],
      maker "run" 6 ["self"] "check" [.get ⟨⟨"self", false⟩, []⟩, .validate names false]]),
    .call ⟨⟨"C", true⟩, [⟨"run", true⟩]⟩ [.literal (.str 4 "s")] [] none false]

/-- The mismatch with which a step fails. -/
def mismatch? (o : Outcome) : Option Mismatch :=
  match o.answer with
  | .error (.mismatch m _) => some m
  | _ => none

/-- The code of the function that `outer` makes. -/
def code : Code :=
  ⟨3, "f", "f", "outer.<locals>.f", [⟨"x", .positional, none⟩], [.validate names false]⟩

/-- The machine when `outer` has been called after the first two steps. -/
def returned : Machine :=
  let s := ((session.steps.take 2).mapM Step.outcome session.start).2
  (on (World.at depthLimit [.frame .module])
    (callPath ask .toplevel ⟨⟨"outer", false⟩, []⟩ [] []) ⟨s, []⟩).2

/-- What the call of the function that `outer` made gives to its parameter. -/
def binding : Binding := ⟨[("x", .str 2 "s")], [], []⟩

/-- The machine in which the body of this function begins. -/
def machine : Machine :=
  returned.entered [⟨"x", .positional, none⟩] code binding

/-- The frame of the call. -/
def frame : Frame :=
  returned.entryFrame [⟨"x", .positional, none⟩] code binding []

/-- The world of the body. -/
def world : World :=
  World.at depthLimit [.frame frame, .frame .module]

/-- The function of a running call that was found. -/
def function? (found : Except Fault (Option RunningCall)) : Option FunctionId :=
  match found with
  | .ok (some c) => c.func.bind fun | .function id => some id | _ => none
  | _ => none

theorem exists_of_function? {found : Except Fault (Option RunningCall)} {id : FunctionId}
    (h : function? found = some id) : ∃ c, found = .ok (some c) ∧ c.func = some (.function id) := by
  rcases found with _ | _ | c
  · cases h
  · cases h
  · obtain ⟨f, hf, e⟩ := Option.bind_eq_some_iff.1 h
    refine ⟨c, rfl, hf.trans ?_⟩
    cases f with
    | function id =>
      cases e
      rfl
    | _ => cases e

/-- For the function that `outer` made, the global of its name is found. -/
theorem function?_runningCall :
    function? (on world (runningCall ask [frame, .module] 0) machine).1 = some 0 := by
  decide +kernel

end Namesake

end DocGuard

import DocGuard.Proofs.Program.Answering
import DocGuard.Proofs.Program.Type
import Mathlib.Data.List.Forall2
/-!
The definition that runs, among those that a class inherits.

A class and its ancestors may have several definitions of one name. Those that the search for a
running function chooses from are the candidates of the name: along the ancestry, nearest class
first, a callable that is the member itself, the function that a static or class method was made of,
the setter and then the getter of a property. In states in which the classes and their members
answer when they are asked for these (`Candidates`), the search is a choice from this list
(`answers_offered`): the first candidate that runs the code, and the first of all if none does. So
an ancestor's definition that runs is never taken for the one that overrides it, nor the other way
round (`inheritance_finds_running`).

Of classes and members that say nothing of themselves otherwise the candidates are read from the
store (`candidates_of_isPlainMember`).
-/

namespace DocGuard

open Run

/-! ### Candidates -/

section Candidates

variable (w : World) (states : Machine → Prop) (call : Call)

/-- The functions that a member of a class offers, by what it answers. -/
inductive Offers (member : Value) : List Value → Prop where
  /-- A static or class method offers the function that it was made of. -/
  | wrapped {f : Value}
      (wraps : Answers w states (isInstanceOfAny call member ["staticmethod", "classmethod"]) true)
      (held : Answers w states (getMember call member "__func__") f) : Offers member [f]
  /-- A property offers its setter and then its getter, as far as it has them. -/
  | accessors {setter getter : Value}
      (wraps : Answers w states (isInstanceOfAny call member ["staticmethod", "classmethod"]) false)
      (property : Answers w states (isInstance call member (.builtin "property")) true)
      (set : Answers w states (getMember call member "fset") setter)
      (get : Answers w states (getMember call member "fget") getter) :
      Offers member ([setter, getter].filter fun f => !f.isAbsent)
  /-- Any other callable offers itself. -/
  | itself
      (wraps : Answers w states (isInstanceOfAny call member ["staticmethod", "classmethod"]) false)
      (property : Answers w states (isInstance call member (.builtin "property")) false)
      (callable : ∀ m, states m → m.store.isCallable member = true) : Offers member [member]
  /-- What cannot be called offers nothing. -/
  | nothing
      (wraps : Answers w states (isInstanceOfAny call member ["staticmethod", "classmethod"]) false)
      (property : Answers w states (isInstance call member (.builtin "property")) false)
      (callable : ∀ m, states m → m.store.isCallable member = false) : Offers member []

/-- The functions that a class itself has to offer under a name. -/
inductive OwnCandidates (name : String) (cls : Value) : List Value → Prop where
  | none {shown : Option Value} (held : Answers w states (ownMemberShown? call cls name) shown)
      (absent : (shown.filter fun member => !member.isAbsent) = .none) : OwnCandidates name cls []
  | some {member : Value} {here : List Value}
      (held : Answers w states (ownMemberShown? call cls name) (.some member))
      (present : member.isAbsent = false) (offers : Offers w states call member here) :
      OwnCandidates name cls here

/-- The functions that a class and its ancestors have to offer under a name, nearest class first. -/
def Candidates (cls : Value) (name : String) (candidates : List Value) : Prop :=
  ∃ ancestry offers, Answers w states (ancestryShown call cls) ancestry
    ∧ List.Forall₂ (OwnCandidates w states call name) ancestry offers ∧ offers.flatten = candidates

end Candidates

/-! ### The choice -/

section Choice

variable {w : World} {states : Machine → Prop} {call : Call} {cls member : Value} {name : String}
variable {candidates here : List Value} {place : Nat} {carries : Value → Bool}

/-- A member that answers is asked for what it offers. -/
theorem answers_offers? (offers : Offers w states call member here) :
    Ends w states (offers? call member) fun offered => offered.getD [] = here := by
  rw [offers?]
  cases offers with
  | wrapped wraps held => exact wraps.bind (held.bind (Ends.pure rfl))
  | accessors wraps property set get =>
    exact wraps.bind (property.bind (set.bind (get.bind (Ends.pure rfl))))
  | itself wraps property callable =>
    refine wraps.bind (property.bind (Ends.store_bind fun m hm => ?_))
    rw [callable m hm]
    exact Ends.pure rfl
  | nothing wraps property callable =>
    refine wraps.bind (property.bind (Ends.store_bind fun m hm => ?_))
    rw [callable m hm]
    exact Ends.pure rfl

/-- A class that answers is asked for what it offers itself. -/
theorem answers_ownOffer (own : OwnCandidates w states call name cls here) :
    Answers w states (ownOffer call cls name) here := by
  rw [ownOffer]
  cases own with
  | none held absent =>
    refine held.bind ?_
    rw [absent]
    exact Answers.pure []
  | some held present offers =>
    refine held.bind ?_
    rw [Option.filter_some, present]
    refine (answers_offers? offers).bind ?_
    rintro offered rfl
    exact Answers.pure _

theorem firstPresent_singleton (f : Value) :
    firstPresent [f] = [f].find? fun g => !g.isAbsent := by
  cases absent : f.isAbsent <;> simp [firstPresent, absent]

/-- The first function of a class that is there is the first of all that it offers, unless that is
the absent value. -/
theorem firstPresent_of_ownCandidates (own : OwnCandidates w states call name cls here) :
    firstPresent here = here.find? fun f => !f.isAbsent := by
  cases own with
  | none => rfl
  | some _ _ offers =>
    cases offers with
    | wrapped => exact firstPresent_singleton _
    | @accessors setter getter =>
      cases set : setter.isAbsent <;> cases get : getter.isAbsent <;> simp [firstPresent, set, get]
    | itself => exact firstPresent_singleton _
    | nothing => rfl

/-- Of some classes the first candidate is taken that suits, and if none does the first of all that
is not absent. It comes behind what was found before. -/
theorem answers_offeredAmong {classes : List Value} {offers : List (List Value)}
    {place : Option Nat} {suits : Value → Bool}
    (own : List.Forall₂ (OwnCandidates w states call name) classes offers)
    (sound : ∀ f, offers.flatten.find? suits = some f → f.isAbsent = false)
    (asked : ∀ here ∈ offers, Answers w states (taken call place here) (here.find? suits))
    (first : Option Value) :
    Answers w states (offeredAmong call name place first classes)
      ((offers.flatten.find? suits).or (first.or (offers.flatten.find? fun f => !f.isAbsent))) := by
  -- the induction is on the classes; what the first adds to `first` is passed on to the rest
  induction own generalizing first with
  | nil =>
    rw [offeredAmong, List.flatten_nil, List.find?_nil, List.find?_nil, Option.or_none]
    exact Answers.pure first
  | @cons cls here rest later own _ ih =>
    have asked' : ∀ here ∈ later, Answers w states (taken call place here) (here.find? suits) :=
      fun here h => asked here (List.mem_cons_of_mem _ h)
    refine Ends.of_on (fun _ => offeredAmong_cons call name place first cls rest) ?_
    refine (answers_ownOffer own).bind ?_
    refine (asked here (List.mem_cons_self ..)).bind ?_
    rw [List.flatten_cons, List.find?_append] at sound ⊢
    rw [List.find?_append]
    cases found : here.find? suits with
    | some f =>
      have there := sound f (by rw [found, Option.some_or])
      simp only [there, Option.some_or]
      exact Answers.pure _
    | none =>
      rw [found] at sound
      have others := ih sound asked' (first.or (firstPresent here))
      rw [Option.or_assoc, firstPresent_of_ownCandidates own] at others
      rw [Option.none_or, firstPresent_of_ownCandidates own]
      exact others

/-- **What a class offers is a choice from its candidates**: the first that suits, and if none does
the first of all that is not absent. -/
theorem answers_offered {place : Option Nat} {suits : Value → Bool}
    (listed : Candidates w states call cls name candidates)
    (sound : ∀ f, candidates.find? suits = some f → f.isAbsent = false)
    (asked : ∀ here, (∀ f ∈ here, f ∈ candidates) →
      Answers w states (taken call place here) (here.find? suits)) :
    Answers w states (offered call cls name place)
      ((candidates.find? suits).or (candidates.find? fun f => !f.isAbsent)) := by
  obtain ⟨ancestry, offers, shown, own, rfl⟩ := listed
  rw [offered]
  refine Ends.inFunction (shown.bind ?_) _ _ _
  refine answers_offeredAmong own sound (fun here h => asked here fun f hf => ?_) none
  exact List.mem_flatten.2 ⟨here, h, hf⟩

/-- Those of some values that are not absent. -/
def present (values : List Value) : List Value :=
  values.filter fun f => !f.isAbsent

/-- With code the first candidate that runs it is taken, and if none does the first of all. What is
absent does not count. -/
theorem answers_offered_some (listed : Candidates w states call cls name candidates)
    (asked : ∀ f ∈ present candidates, Answers w states (runs call place f) (carries f)) :
    Answers w states (offered call cls name (some place))
      (((present candidates).find? carries).or (present candidates).head?) := by
  -- the absent value is asked as well, and has no code
  have answer : ∀ f ∈ candidates, Answers w states (runs call place f)
      (decide ((!f.isAbsent) = true ∧ carries f = true)) := by
    intro f hf
    cases absent : f.isAbsent with
    | false =>
      have answer := asked f (List.mem_filter.2 ⟨hf, by rw [absent, Bool.not_false]⟩)
      simpa using answer
    | true =>
      cases f with
      | none => exact Answers.pure false
      | _ => cases absent
  rw [present, List.find?_filter, List.head?_filter]
  refine answers_offered listed (fun f found => ?_)
    fun here among => answers_findM? fun f hf => answer f (among f hf)
  have both := List.find?_some found
  rw [decide_eq_true_eq, Bool.not_eq_true'] at both
  exact both.1

/-- Without code the first candidate is taken, unless it is the absent value. -/
theorem answers_offered_none (listed : Candidates w states call cls name candidates)
    (present : ∀ f, candidates.head? = some f → f.isAbsent = false) :
    Answers w states (offered call cls name none) candidates.head? := by
  have any : ∀ here : List Value, here.find? (fun _ => true) = here.head? := by
    intro here
    cases here <;> rfl
  have answers : ∀ here, (∀ f ∈ here, f ∈ candidates) →
      Answers w states (taken call none here) (here.find? fun _ => true) := by
    intro here _
    rw [any]
    exact Answers.pure _
  have chosen := answers_offered listed (by rwa [any]) answers
  rw [any] at chosen
  cases candidates with
  | nil => exact chosen
  | cons f rest => exact chosen

/-- What is taken only if it runs the code is the first candidate that does. -/
theorem answers_offeredRunning (listed : Candidates w states call cls name candidates)
    (asked : ∀ f ∈ present candidates, Answers w states (runs call place f) (carries f)) :
    Answers w states (offeredRunning call cls name place) ((present candidates).find? carries) := by
  rw [offeredRunning]
  refine (answers_offered_some listed asked).bind ?_
  cases found : (present candidates).find? carries with
  | some f =>
    refine (asked f (List.mem_of_find?_eq_some found)).bind ?_
    rw [List.find?_some found]
    exact Answers.pure _
  | none =>
    -- then the class offers the first of all, which is asked again and refused
    rw [Option.none_or]
    cases first : (present candidates).head? with
    | none => exact Answers.pure _
    | some f =>
      have among := List.mem_of_mem_head? first
      refine (asked f among).bind ?_
      rw [Bool.eq_false_iff.2 (List.find?_eq_none.1 found f among)]
      exact Answers.pure _

end Choice

/-! ### Plain members -/

/-- What a member offers that says nothing of itself otherwise. -/
def Store.offers (s : Store) (member : Value) : List Value :=
  match member, s.content member with
  | .staticMethod _ _, .staticMethod _ func | .classMethod _ _, .classMethod _ func => [func]
  | .property _ _ _ _, .property _ getter setter _ =>
    [setter, getter].filter fun f => !f.isAbsent
  | .function id, _ => [.function id]
  | _, _ => []

/-- What a class and its ancestors have to offer under a name, where neither they nor their members
say otherwise. -/
def Store.candidates (s : Store) (c : ClassRef) (name : String) : List Value :=
  ((s.ancestry c).map fun d => ((s.ownMember? d name).map s.offers).getD []).flatten

/-- A member is a function, a static or class method, a property or a plain value. -/
def Store.isPlainMember (s : Store) (member : Value) : Bool :=
  match member, s.content member with
  | .function _, _ | .staticMethod _ _, .staticMethod _ _ | .classMethod _ _, .classMethod _ _
  | .property _ _ _ _, .property _ _ _ _ => true
  | v, _ => v.isDirect

section Ordinary

variable {w : World} {call : Call} {m : Machine} {c : ClassRef} {name : String} {member : Value}

/-- What is kept for each instance of a class is read as a field of it. -/
theorem on_getMember_stored {v : Value} {way : String} (owner : String)
    (reads : m.store.special? v "__getattribute__"
      = some (.slot .operation way "__getattribute__"))
    (usual : way = "object" ∨ way = "property")
    (answers : m.store.special? v "__getattr__" = none)
    (found : m.store.special? v name = some (.slot .stored owner name))
    (of : m.store.isOf owner v = true) :
    on w (getMember call v name) m = on w (readField call owner name v) m := by
  have guards : m.store.guardsAttribute (.slot .stored owner name) = true := rfl
  have object : on w (plainMember call way v name) m = on w (objectMember call v name) m := by
    rcases usual with rfl | rfl <;>
    · rw [plainMember, (gives_store m).bind]
      rfl
  have inherited : m.store.inherited? (m.store.classOf v) name
      = some (.slot .stored owner name) := found
  rw [getMember, (gives_store m).bind, reads, answers]
  simp only
  rw [object, objectMember, (gives_store m).bind]
  simp only [inherited, Option.filter_some, guards, if_true]
  show on w (reachSlot call .stored owner name (some v) (m.store.classOf v)) m = _
  rw [reachSlot, (gives_store m).bind]
  simp only [of, if_true]

theorem gives_isInstanceOfAny_of_not {v : Value} {c d : String}
    (first : Gives (isInstance call v (.builtin c)) m false)
    (second : Gives (isInstance call v (.builtin d)) m false) :
    Gives (isInstanceOfAny call v [c, d]) m false := by
  intro w
  rw [isInstanceOfAny, first.bind]
  show on w (isInstanceOfAny call v [d]) m = _
  rw [isInstanceOfAny, second.bind]
  rfl

/-- A static or class method holds the function that it was made of. -/
theorem gives_func {mark : Nat} {func f : Value} {v : Value}
    (kind : v = .staticMethod mark func ∧ (∃ other, m.store.content v = .staticMethod other f)
      ∨ v = .classMethod mark func ∧ ∃ other, m.store.content v = .classMethod other f) :
    Gives (getMember call v "__func__") m f := by
  rcases kind with ⟨rfl, other, content⟩ | ⟨rfl, other, content⟩
  · intro w
    rw [on_getMember_stored "staticmethod" rfl (.inl rfl) rfl rfl rfl, readField,
      (gives_store m).bind]
    simp only [content]
    rfl
  · intro w
    rw [on_getMember_stored "classmethod" rfl (.inl rfl) rfl rfl rfl, readField,
      (gives_store m).bind]
    simp only [content]
    rfl

/-- A property holds its accessors. -/
theorem gives_accessor {mark other : Nat} {a b c getter setter deleter f : Value}
    (content : m.store.content (.property mark a b c) = .property other getter setter deleter)
    (held : name = "fset" ∧ f = setter ∨ name = "fget" ∧ f = getter) :
    Gives (getMember call (.property mark a b c) name) m f := by
  rcases held with ⟨rfl, rfl⟩ | ⟨rfl, rfl⟩ <;>
  · intro w
    rw [on_getMember_stored "property" rfl (.inr rfl) rfl rfl rfl, readField,
      (gives_store m).bind]
    simp only [content]
    rfl

/-- A property is an instance of what the class of properties derives from. -/
theorem isInstance_property (mark : Nat) (a b c : Value) (cls : String) :
    Gives (isInstance call (.property mark a b c) (.builtin cls)) m
      (m.store.derives (.builtin "property") (.builtin cls)) := by
  have isClass : Gives (getMember call (.property mark a b c) "__class__") m
      (.cls (.builtin "property")) :=
    getMember_class (.builtin "property") fun cls h => by
      revert cls
      exact of_decide_eq_true rfl
  have shown : Gives (shownClass? call (.property mark a b c)) m (some (.builtin "property")) :=
    isClass.orMissing.trans (gives_pure _ m)
  have told := isInstance_of_shown shown (.builtin cls)
  rwa [show m.store.classOf (.property mark a b c) = .builtin "property" from rfl,
    Bool.or_self] at told

theorem offers_of_isDirect (direct : member.isDirect = true) :
    Offers w (· = m) call member [] := by
  have asked : Gives (isInstanceOfAny call member ["staticmethod", "classmethod"]) m false
      ∧ Gives (isInstance call member (.builtin "property")) m false
      ∧ m.store.isCallable member = false := by
    cases member with
    | none | bool _ | int _ _ | float _ _ | str _ _ | list _ _ | tuple _ _ | dict _ _ =>
      exact ⟨fun _ => rfl, fun _ => rfl, rfl⟩
    | _ => cases direct
  obtain ⟨neither, property, callable⟩ := asked
  refine .nothing neither.answers property.answers ?_
  rintro _ rfl
  exact callable

/-- Members of these kinds answer with what they hold. -/
theorem offers_of_isPlainMember (plain : m.store.isPlainMember member = true) :
    Offers w (· = m) call member (m.store.offers member) := by
  cases member with
  | function id =>
    have neither : Gives (isInstanceOfAny call (.function id) ["staticmethod", "classmethod"]) m
        false := by
      apply gives_isInstanceOfAny_of_not
      · exact isInstance_function call m id "staticmethod"
      · exact isInstance_function call m id "classmethod"
    refine .itself neither.answers (isInstance_function call m id "property").answers ?_
    rintro _ rfl
    rfl
  | staticMethod mark g =>
    cases content : m.store.content (.staticMethod mark g) with
    | staticMethod other f =>
      simp only [Store.offers, content]
      exact .wrapped (Gives.answers fun _ => rfl) (gives_func (.inl ⟨rfl, other, content⟩)).answers
    | _ => simp [Store.isPlainMember, content, Value.isDirect] at plain
  | classMethod mark g =>
    cases content : m.store.content (.classMethod mark g) with
    | classMethod other f =>
      simp only [Store.offers, content]
      exact .wrapped (Gives.answers fun _ => rfl) (gives_func (.inr ⟨rfl, other, content⟩)).answers
    | _ => simp [Store.isPlainMember, content, Value.isDirect] at plain
  | property mark a b c =>
    cases content : m.store.content (.property mark a b c) with
    | property other getter setter deleter =>
      simp only [Store.offers, content]
      have neither : Gives (isInstanceOfAny call (.property mark a b c)
          ["staticmethod", "classmethod"]) m false := by
        apply gives_isInstanceOfAny_of_not
        · exact isInstance_property mark a b c "staticmethod"
        · exact isInstance_property mark a b c "classmethod"
      exact .accessors neither.answers (isInstance_property mark a b c "property").answers
        (gives_accessor content (.inl ⟨rfl, rfl⟩)).answers
        (gives_accessor content (.inr ⟨rfl, rfl⟩)).answers
    | _ => simp [Store.isPlainMember, content, Value.isDirect] at plain
  -- data of these kinds is neither called nor wraps anything that is
  | none | bool _ | int _ _ | float _ _ | str _ _ | list _ _ | tuple _ _ | dict _ _ =>
    exact offers_of_isDirect rfl
  | _ => cases plain

/-- A class of the usual kind shows its ancestry, -/
theorem gives_ancestryShown (plain : (m.store.classInfo c).kind = .builtin "type") :
    Gives (ancestryShown call (.cls c)) m ((m.store.ancestry c).map .cls) := by
  have kind : m.store.classOf (.cls c) = .builtin "type" := plain
  have get : m.store.special? (.cls c) "__getattribute__"
      = some (.slot .operation "type" "__getattribute__") := by
    rw [Store.special?, kind]
    rfl
  have mro : m.store.special? (.cls c) "__mro__" = some (.slot .stored "type" "__mro__") := by
    rw [Store.special?, kind]
    rfl
  intro w
  rw [ancestryShown, (gives_store m).bind, get, mro]
  rfl

/-- and what it has itself. -/
theorem gives_ownMemberShown? (plain : (m.store.classInfo c).kind = .builtin "type") :
    Gives (ownMemberShown? call (.cls c) name) m (m.store.ownMember? c name) := by
  have kind : m.store.classOf (.cls c) = .builtin "type" := plain
  have get : m.store.special? (.cls c) "__getattribute__"
      = some (.slot .operation "type" "__getattribute__") := by
    rw [Store.special?, kind]
    rfl
  have dict : m.store.special? (.cls c) "__dict__" = some (.slot .field "type" "__dict__") := by
    rw [Store.special?, kind]
    rfl
  intro w
  rw [ownMemberShown?, (gives_store m).bind, get, dict]
  rfl

/-- **The candidates of a name are read from the store**, where the classes are of the usual kind
and have plain members of the name. -/
theorem candidates_of_isPlainMember (kind : (m.store.classInfo c).kind = .builtin "type")
    (kinds : ∀ d ∈ m.store.ancestry c, (m.store.classInfo d).kind = .builtin "type")
    (plain : ∀ d ∈ m.store.ancestry c,
      (m.store.ownMember? d name).all m.store.isPlainMember = true) :
    Candidates w (· = m) call (.cls c) name (m.store.candidates c name) := by
  refine ⟨_, _, (gives_ancestryShown kind).answers, ?_, rfl⟩
  rw [List.forall₂_map_left_iff, List.forall₂_map_right_iff, List.forall₂_same]
  intro d hd
  have shown : Answers w (· = m) (ownMemberShown? call (.cls d) name) (m.store.ownMember? d name) :=
    (gives_ownMemberShown? (kinds d hd)).answers
  cases held : m.store.ownMember? d name with
  | none =>
    rw [held] at shown
    exact .none shown rfl
  | some member =>
    have own := plain d hd
    rw [held] at shown own
    have offers : Offers w (· = m) call member (m.store.offers member) := offers_of_isPlainMember own
    cases present : member.isAbsent with
    | false => exact .some shown present offers
    | true =>
      cases member with
      | none => exact .none shown rfl
      | _ => cases present

end Ordinary

/-! ### The running definition -/

section Running

variable {w : World} {states : Machine → Prop} {call : Call} {cls : Value} {name : String}
variable {candidates : List Value} {place : Nat} {carries : Value → Bool}

/-- The call that has these variables has a receiver of the class, or else was made on the class. -/
inductive Receives (w : World) (states : Machine → Prop) (call : Call) (locals : Bindings Value) :
    Value → Prop where
  | receiver {v : Value} {c : ClassRef} (held : locals.get? "self" = some v)
      (known : ∀ m, states m → m.store.classOf v = c) : Receives w states call locals (.cls c)
  | itself {cls : Value} (free : locals.get? "self" = none) (held : locals.get? "cls" = some cls)
      (counts : Answers w states (countsAsClass call cls) true) : Receives w states call locals cls

/-- A frame with these variables runs a candidate of the name of its code. The global of the name,
if there is one, can be asked too, and what runs the code can be described. -/
structure RunsCandidate (w : World) (states : Machine → Prop) (call : Call) (carries : Value → Bool)
    (frame : Frame) (locals : Bindings Value) (name : String) (place : Nat) (cls : Value)
    (candidates : List Value) (bound : Option Value) : Prop where
  code : frame.code? = some (name, place)
  global : ∀ m, states m → (frame.globals m.store).get? name = bound
  asked : ∀ v, bound = some v → Answers w states (runs call place v) (carries v)
  receives : Receives w states call locals cls
  running : ∃ f ∈ present candidates, carries f = true
  described : ∀ f ∈ bound.toList ++ present candidates, carries f = true →
    Describable w states call frame locals f

/-- The search ends with what the class offers, unless the global of the name runs the code. -/
theorem answers_runningFunction_of_offered {frame : Frame} {around : List Frame}
    {locals : Bindings Value} {bound : Option Value} {f : Value}
    (receives : Receives w states call locals cls)
    (global : Answers w states (globalRunning call frame name place) (bound.filter carries))
    (offers : Answers w states (offered call cls name (some place)) (some f)) :
    Answers w states (runningFunction call frame around locals name place)
      ((bound.filter carries).or (some f)) := by
  refine Ends.inFunction ?_ _ _ _
  refine answers_firstFound_cons global fun _ => ?_
  cases receives with
  | @receiver v c held known =>
    have found : Answers w states (receiverOffers call locals name place) (some f) := by
      rw [receiverOffers, held]
      refine Ends.store_bind fun m hm => ?_
      rw [known m hm]
      exact offers
    exact answers_firstFound_of_some found
  | itself free held counts =>
    -- a receiver would have been asked first
    have passed : Answers w states (receiverOffers call locals name place) none := by
      rw [receiverOffers, free]
      exact Answers.pure none
    have found : Answers w states (classOffers call locals name place) (some f) := by
      rw [classOffers, held]
      exact counts.bind offers
    refine answers_firstFound_cons passed fun _ => ?_
    exact answers_firstFound_of_some found

/-- **A class offers the definition that runs.** With code it is the first candidate that runs it if
any candidate of the whole ancestry does, else the first of all, and nothing only where there is
none. Without code it is the first candidate. What is absent does not count as one, but without code
nothing may be absent in the first place. A frame that runs a candidate of the name of its code,
whoever called it and however many parents' methods are going on around it, is therefore found to be
a call of a function that runs its code. -/
theorem inheritance_finds_running (listed : Candidates w states call cls name candidates)
    (asked : ∀ f ∈ present candidates, Answers w states (runs call place f) (carries f)) :
    Answers w states (offered call cls name (some place))
        (((present candidates).find? carries).or (present candidates).head?)
      ∧ (∀ m, states m →
          ((on w (offered call cls name (some place)) m).1 = .ok none ↔ present candidates = []))
      ∧ (candidates.head? = (present candidates).head? →
          Answers w states (offered call cls name none) (present candidates).head?)
      ∧ ∀ (frames around : List Frame) (depth : Int) (frame : Frame) (bound : Option Value)
          (m : Machine), frames.drop depth.toNat = frame :: around → states (m.listing frame) →
          RunsCandidate w states call carries frame (m.store.locals frame) name place cls candidates
            bound →
          ∃ c f m', on w (runningCall call frames depth) m = (.ok (some c), m')
            ∧ c.func = some f ∧ f ∈ bound.toList ++ present candidates ∧ carries f = true := by
  have chosen := answers_offered_some listed asked
  refine ⟨chosen, fun m hm => ?_, fun first => ?_, ?_⟩
  · obtain ⟨m', ends, -⟩ := chosen.exists_on hm
    rw [ends, Except.ok.injEq, Option.or_eq_none_iff, List.head?_eq_none_iff]
    constructor
    · exact And.right
    · intro none
      rw [none]
      exact ⟨rfl, rfl⟩
  · rw [← first]
    refine answers_offered_none listed fun f hf => ?_
    rw [first] at hf
    have there := (List.mem_filter.1 (List.mem_of_mem_head? hf)).2
    rwa [Bool.not_eq_true'] at there
  · intro frames around depth frame bound m top began runs
    obtain ⟨f, found⟩ : ∃ f, (present candidates).find? carries = some f :=
      Option.isSome_iff_exists.1 (List.find?_isSome.2 runs.running)
    rw [found, Option.some_or] at chosen
    -- the global of the name is asked before the class and may run the code as well
    have search : Answers w states
        (runningFunction call frame around (m.store.locals frame) name place)
        ((bound.filter carries).or (some f)) :=
      answers_runningFunction_of_offered runs.receives
        (answers_globalRunning runs.global runs.asked) chosen
    obtain ⟨g, taken, among, carrying⟩ : ∃ g, (bound.filter carries).or (some f) = some g
        ∧ g ∈ bound.toList ++ present candidates ∧ carries g = true := by
      cases global : bound.filter carries with
      | none =>
        exact ⟨f, rfl, List.mem_append_right _ (List.mem_of_find?_eq_some found),
          List.find?_some found⟩
      | some g =>
        obtain ⟨held, carrying⟩ := Option.filter_eq_some_iff.1 global
        exact ⟨g, rfl, List.mem_append_left _ (Option.mem_toList.2 held), carrying⟩
    rw [taken] at search
    obtain ⟨c, m', ends, -, -, hc⟩ := ends_runningCall_of_some top runs.code began search
      (runs.described g among carrying)
    exact ⟨c, g, m', ends, hc, among, carrying⟩

end Running

/-! ### An override and its parent's method -/

namespace Override

/-- The parent class, which has a method `f`. -/
def parent : ClassRef := ⟨"B", none, .defined 0⟩

/-- A class that has a method `f` of its own. -/
def child : ClassRef := ⟨"A", none, .defined 1⟩

/-- The code of a method `f` at a place. -/
def code (place : Nat) (qualifiedName : String) : Code :=
  ⟨place, "f", "f", qualifiedName, [⟨"self", .positional, none⟩], []⟩

/-- A method `f` with this documentation. -/
def method (place : Nat) (qualifiedName : String) (doc : Value) : Function where
  name := sharedText "f"
  qualifiedName := sharedText qualifiedName
  doc := doc
  module := sharedText "m"
  defaults := .none
  keywordDefaults := .none
  annotations := .none
  behaviour := .run (code place qualifiedName) []
  attributes := []

/-- What is kept about a class with these ancestors and this method. -/
def info (c : ClassRef) (bases ancestry : List ClassRef) (f : FunctionId) : ClassInfo where
  name := sharedText c.name
  qualifiedName := sharedText c.name
  kind := .builtin "type"
  bases := bases
  base := bases.head?
  ancestry := ancestry
  layout := "object"
  solid := .builtin "object"
  kept := ["__dict__", "__weakref__"]
  described := none
  members := [("__module__", sharedText "m"), ("f", .function f), ("__doc__", .none)]

/-- An instance of the child. -/
def receiver : Value := .object 10 child

/-- Both methods of `receiver` are going on: the override has called the parent's. -/
def machine : Machine where
  store :=
    { warnings := .shown
      registered := some "m"
      globals := [("__name__", sharedText "m"), ("B", .cls parent), ("A", .cls child)]
      functions := #[method 2 "B.f" (.str 1 "base"), method 4 "A.f" (.str 2 "override")]
      classes := #[info parent [.builtin "object"] [parent, .builtin "object"] 0,
        info child [parent] [child, parent, .builtin "object"] 1]
      cells := #[some receiver, some receiver]
      written := []
      attributes := []
      contents := []
      reclassed := []
      adopted := []
      stored := []
      codes := []
      writing := []
      places := []
      instances := [(10, child)]
      firstMark := 10
      nextMark := 13 }
  events := []

/-- The frame of the parent's method. -/
def frame : Frame := .call 12 (code 2 "B.f") [("self", 1)]

/-- The frames, innermost first. -/
def frames : List Frame := [frame, .call 11 (code 4 "A.f") [("self", 0)], .module]

/-- The world of the parent's method. -/
def world : World := World.at depthLimit (frames.map .frame)

/-- The machine in which the search begins. -/
def began : Machine := machine.listing frame

/-- What the parent's method shows. -/
def face : Face := ⟨[⟨"self", .positional, none⟩], some "base", "B.f", "f"⟩

theorem shows : Shows began.store 0 (method 2 "B.f" (.str 1 "base")) (code 2 "B.f") face where
  stored := rfl
  runs := rfl
  signature := rfl
  distinct := by decide
  defaults := Nat.zero_le _
  doc := rfl
  qualifiedName := rfl
  plainName := rfl
  own _ _ := rfl

/-- The candidates of the name are the override and then the parent's method. -/
theorem candidates :
    Candidates world (· = began) ask (.cls child) "f" [.function 1, .function 0] := by
  have listed : Candidates world (· = began) ask (.cls child) "f"
      (began.store.candidates child "f") :=
    candidates_of_isPlainMember rfl (by decide +kernel) (by decide +kernel)
  exact listed

/-- Which of them runs the code. -/
def carries : Value → Bool
  | .function id => id == 0
  | _ => false

theorem asked (f : Value) (hf : f ∈ [Value.function 1, .function 0]) :
    Answers world (· = began) (runs ask 2 f) (carries f) := by
  rcases List.mem_pair.1 hf with rfl | rfl
  · exact Gives.answers fun _ => rfl
  · exact Gives.answers fun _ => rfl

/-- The frame of the parent's method runs a candidate. -/
theorem runsCandidate :
    RunsCandidate world (· = began) ask carries frame (machine.store.locals frame) "f" 2
      (.cls child) [.function 1, .function 0] none where
  code := rfl
  global := by
    rintro _ rfl
    rfl
  asked v h := by cases h
  receives := .receiver rfl (by
    rintro _ rfl
    rfl)
  running := ⟨.function 0, List.mem_pair.2 (.inr rfl), rfl⟩
  described f hf carrying := by
    rcases List.mem_pair.1 hf with rfl | rfl
    · cases carrying
    · have owner : Gives (ownerOf ask frame (machine.store.locals frame)) began (.cls child) :=
        Gives.inFunction (fun _ => rfl) _ _ _
      exact shows.describable (owner.answers.imp fun _ _ => trivial)

end Override

/-- The parent's method is found in its own frame although the receiver's class overrides it, and
the override where no code is asked for. -/
theorem inheritance_finds_running_parent :
    on Override.world (offered ask (.cls Override.child) "f" (some 2)) Override.began
        = (.ok (some (.function 0)), Override.began)
      ∧ on Override.world (offered ask (.cls Override.child) "f" none) Override.began
        = (.ok (some (.function 1)), Override.began)
      ∧ ∃ c m', on Override.world (runningCall ask Override.frames 0) Override.machine
          = (.ok (some c), m') ∧ c.func = some (.function 0) := by
  obtain ⟨withCode, -, withoutCode, found⟩ :=
    inheritance_finds_running Override.candidates Override.asked
  obtain ⟨c, f, m', ends, hc, among, carrying⟩ :=
    found Override.frames _ 0 Override.frame none Override.machine rfl rfl Override.runsCandidate
  refine ⟨?_, ?_, c, m', ends, ?_⟩
  · obtain ⟨_, ends, rfl⟩ := withCode.exists_on rfl
    exact ends
  · obtain ⟨_, ends, rfl⟩ := (withoutCode rfl).exists_on rfl
    exact ends
  · rcases List.mem_pair.1 among with rfl | rfl
    · cases carrying
    · exact hc

/-! ### Members that do not answer -/

namespace Obstructed

open Namesake (head)

/-- Two classes are derived from one with a method `f`: one has a static method of nothing under
this name, the other an object that fails when it is asked for its code. The first one is asked for
its function, and the method is called for an instance of each. -/
def session : Session where
  moduleName := "demo.mod"
  registered := true
  firstMark := 10
  steps := [
    .define (.cls ⟨"B", "B", 1, [], .literal .none⟩ [
      .function (head "f" 2 ["self"] (.str 1 "base")) [.describe 0 false]]),
    .call (.ofName "staticmethod") [.literal .none] [] (some "s") false,
    .define (.cls ⟨"A", "A", 3, [.ofName "B"], .literal .none⟩ [.value "f" (.path (.ofName "s"))]),
    .resolve (.path (.ofName "A")) (some "f"),
    .call ⟨⟨"B", false⟩, [⟨"f", false⟩]⟩ [.path ⟨⟨"A", true⟩, []⟩] [] none false,
    .define (.cls ⟨"H", "H", 4, [], .literal .none⟩ [
      .function (head "__call__" 5 ["self"] .none) [],
      .property "__code__" (.given (head "get" 6 ["self"] .none) [
        .call (.ofName "range") [.literal (.int 2 0), .literal (.int 3 9), .literal (.int 4 0)] []
          none]) .missing]),
    .call (.ofName "H") [] [] (some "h") false,
    .define (.cls ⟨"D", "D", 7, [.ofName "B"], .literal .none⟩ [.value "f" (.path (.ofName "h"))]),
    .call ⟨⟨"B", false⟩, [⟨"f", false⟩]⟩ [.path ⟨⟨"D", true⟩, []⟩] [] none false]

/-- The step was asked for a function and found none. -/
def findsNone (o : Outcome) : Bool :=
  match o.answer with
  | .ok (.resolved none) => true
  | _ => false

/-- During the step a call was described, and its function was known. -/
def describes (o : Outcome) : Bool :=
  o.events.any fun
    | .described (some c) => c.func.isSome
    | _ => false

/-- The class with a static method of nothing. -/
def cls : ClassRef := ⟨"A", none, .defined 1⟩

/-- The machine when this class has been defined. -/
def machine : Machine :=
  ⟨((session.steps.take 3).mapM Step.outcome session.start).2, []⟩

/-- The world between two steps. -/
def world : World := World.at depthLimit []

/-- The functions among some values, in order. -/
def functions (values : List Value) : List (Option FunctionId) :=
  values.map fun
    | .function id => some id
    | _ => none

theorem eq_of_functions {values : List Value} {id : FunctionId}
    (h : functions values = [some id]) : values = [.function id] := by
  obtain ⟨v, rfl, hv⟩ := List.map_eq_singleton_iff.1 h
  cases v with
  | function _ =>
    cases hv
    rfl
  | _ => cases hv

/-- The classes are of the usual kind, the one function among the candidates is that of the parent,
and without code nothing is found. -/
theorem asked :
    (machine.store.classInfo cls).kind = .builtin "type"
      ∧ (∀ d ∈ machine.store.ancestry cls, (machine.store.classInfo d).kind = .builtin "type")
      ∧ (∀ d ∈ machine.store.ancestry cls,
        (machine.store.ownMember? d "f").all machine.store.isPlainMember = true)
      ∧ functions ((machine.store.candidates cls "f").filter machine.store.isCallable) = [some 0]
      ∧ (match (on world (offered ask (.cls cls) "f" none) machine).1 with
        | .ok found => found.isNone
        | .error _ => false) = true := by
  decide +kernel

end Obstructed

/-- What a member holds or answers can keep the search from a definition that is there. Behind a
static method of nothing a parent's function is not found, although it is the only candidate that
can be called. And where a member fails when it is asked for its code, the running call of the
parent's method is not described, as it is for an instance of the other class. -/
theorem inheritance_obstructed :
    (∃ candidates,
        Candidates Obstructed.world (· = Obstructed.machine) ask (.cls Obstructed.cls) "f"
          candidates
        ∧ candidates.filter Obstructed.machine.store.isCallable = [.function 0]
        ∧ (on Obstructed.world (offered ask (.cls Obstructed.cls) "f" none) Obstructed.machine).1
          = .ok none)
      ∧ Obstructed.session.run.map (fun o => (Obstructed.findsNone o, Obstructed.describes o))
        = [(false, false), (false, false), (false, false), (true, false), (false, true),
          (false, false), (false, false), (false, false), (false, false)] := by
  obtain ⟨kind, kinds, plain, functions, nothing⟩ := Obstructed.asked
  refine ⟨⟨_, candidates_of_isPlainMember kind kinds plain,
    Obstructed.eq_of_functions functions, ?_⟩, by decide +kernel⟩
  revert nothing
  cases (on Obstructed.world (offered ask (.cls Obstructed.cls) "f" none)
    Obstructed.machine).1 with
  | error _ =>
    intro h
    cases h
  | ok found =>
    intro h
    rw [Option.isNone_iff_eq_none.1 h]

end DocGuard

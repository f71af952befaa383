import DocGuard.Proofs.Program.Class
import DocGuard.Proofs.Program.Function
/-!
The types of values.

A check asks a value of which scalar types it is an instance, one after the other, and if it is of
none, what the class is called that it is named by. `TypeFacts` is what the answers are, and a value
`Tells` them if each question is answered so. The name of the type follows from them
(`Tells.typeNameOf`).

Most values tell at once. A value of which the program did not change the class shows this class,
whatever its attributes are: nothing but `object` has a member of the language for the class of an
object (`inherited?_class`). Then the name of its type is `Value.typeName`
(`Value.IsAsMade.typeNameOf`), unless the value only pretends to be a class.
-/

namespace DocGuard

open Run

/-! ### Facts about types -/

/-- What can be known of the type of a value. -/
structure TypeFacts where
  /-- The value is an instance of a scalar type. -/
  isA : ScalarType → Bool
  /-- The name of the class that the value is named by. -/
  className : String

namespace TypeFacts

variable {facts : TypeFacts} {t : ScalarType}

/-- The first scalar type of which the value is an instance. Truth values, which are integers too,
come first. -/
def scalar? (facts : TypeFacts) : Option ScalarType :=
  ScalarType.all.find? facts.isA

/-- The name of the type. -/
def name (facts : TypeFacts) : String :=
  match facts.scalar? with
  | some t => t.name
  | none => facts.className

/-- The value is of a scalar type: it is an instance of it, and of none that is tried before. -/
def IsOf (facts : TypeFacts) (t : ScalarType) : Prop :=
  facts.isA t = true ∧ ∀ s ∈ ScalarType.all.takeWhile (· != t), facts.isA s = false

/-- The value is an instance of no scalar type, but its class has the name of one. -/
def PassesFor (facts : TypeFacts) (t : ScalarType) : Prop :=
  (∀ s, facts.isA s = false) ∧ facts.className = t.name

instance : Decidable (facts.IsOf t) :=
  inferInstanceAs (Decidable (_ ∧ _))

instance : Decidable (facts.PassesFor t) :=
  decidable_of_iff ((∀ s ∈ ScalarType.all, facts.isA s = false) ∧ facts.className = t.name)
    (and_congr_left' ⟨fun h s => h s s.mem_all, fun h s _ => h s⟩)

theorem scalar?_eq_none_iff : facts.scalar? = none ↔ ∀ t, facts.isA t = false := by
  rw [scalar?, List.find?_eq_none]
  simp only [Bool.not_eq_true]
  exact ⟨fun h t => h t t.mem_all, fun h t _ => h t⟩

theorem scalar?_eq_some_iff : facts.scalar? = some t ↔ facts.IsOf t := by
  cases t <;> simp [scalar?, IsOf, ScalarType.all, List.find?_cons] <;> grind

/-- Only a value of no scalar type is named by its class. -/
theorem name_of_isA_eq_false (h : ∀ t, facts.isA t = false) : facts.name = facts.className := by
  rw [name, scalar?_eq_none_iff.2 h]

/-- A type has the name of a scalar type if the value is of it, or passes for one that is. -/
theorem name_eq_iff : facts.name = t.name ↔ facts.IsOf t ∨ facts.PassesFor t := by
  rw [name, PassesFor, ← scalar?_eq_none_iff, ← scalar?_eq_some_iff]
  cases facts.scalar? with
  | none => simp
  | some s =>
    simp only [Option.some_inj, reduceCtorEq, false_and, or_false]
    exact ⟨ScalarType.name_injective, congrArg ScalarType.name⟩

end TypeFacts

/-- The facts about a value that shows its class plainly. -/
def Value.facts (v : Value) : TypeFacts :=
  ⟨v.isA, v.className⟩

/-- The value answers like this whenever it is asked for its type. -/
structure Tells (w : World) (states : Machine → Prop) (call : Call) (v : Value)
    (facts : TypeFacts) : Prop where
  isA : ∀ t : ScalarType,
    Answers w states (isInstance call v (.builtin t.className)) (facts.isA t)
  className : facts.scalar? = none → Answers w states (classNameOf call v) facts.className

namespace Tells

variable {w : World} {states : Machine → Prop} {call : Call} {v : Value} {facts : TypeFacts}

/-- The name of the type is the first scalar type that is told, else the name of the class. -/
theorem typeNameOf (h : Tells w states call v facts) :
    Answers w states (DocGuard.typeNameOf call v) facts.name := by
  have among (types : List ScalarType) (named : types.find? facts.isA = none →
      Answers w states (classNameOf call v) facts.className) :
      Answers w states (typeNameAmong call v types) (match types.find? facts.isA with
        | some t => t.name
        | none => facts.className) := by
    induction types with
    | nil => exact named rfl
    | cons t rest ih =>
      rw [typeNameAmong]
      refine (h.isA t).bind ?_
      rw [List.find?_cons] at named ⊢
      cases told : facts.isA t with
      | true => exact Ends.pure rfl
      | false =>
        rw [told] at named
        exact ih named
  exact Ends.inFunction (among ScalarType.all h.className) _ _ _

end Tells

/-! ### Classes that show themselves -/

section Shown

variable {call : Call} {m : Machine} {v : Value} {d : ClassRef}

/-- A value is an instance of what its class, or the class that it shows, derives from. -/
theorem isInstance_of_shown (shown : Gives (shownClass? call v) m (some d)) (c : ClassRef) :
    Gives (isInstance call v c) m
      (m.store.derives (m.store.classOf v) c || m.store.derives d c) := by
  intro w
  rw [isInstance, (gives_store m).bind]
  cases own : m.store.derives (m.store.classOf v) c with
  | true => rfl
  | false =>
    rw [if_neg Bool.false_ne_true, shown.bind]
    rfl

end Shown

/-! ### Values that show their class -/

/-- The classes of which the values have members of their own, or read their members otherwise than
objects do. -/
def ClassRef.special : List String :=
  ["type", "super", "method", "module", "GenericAlias"]

section Members

variable {call : Call} {m : Machine} {v : Value} {c : ClassRef}

/-- A field of the language is read from any value that can have it. -/
theorem on_reach_field (w : World) (owner name : String) (through : ClassRef)
    (fits : m.store.isOf owner v = true) :
    on w (reach call (.slot .field owner name) (some v) through) m
      = on w (readField call owner name v) m := by
  have getter : m.store.special? (.slot .field owner name) "__get__"
      = some (.slot .operation "getset_descriptor" "__get__") := rfl
  rw [reach, (gives_store m).bind]
  simp only [getter]
  rw [reachPlainly, (gives_store m).bind]
  show on w (reachSlot call .field owner name (some v) through) m = _
  rw [reachSlot, (gives_store m).bind]
  simp only [fits, if_true]

/-- Every object shows its class. -/
theorem gives_readField_class (call : Call) (m : Machine) (v : Value) :
    Gives (readField call "object" "__class__" v) m
      (.cls (m.store.shownClass v)) := by
  intro w
  rw [readField, (gives_store m).bind]
  rfl

/-- An object of a class that is as it was made shows this class, or the one that it pretends to be
of. -/
theorem objectMember_class (made : (m.store.classOf v).IsAsMade m.store) :
    Gives (objectMember call v "__class__") m
      (.cls (m.store.shownClass v)) := by
  have fits : m.store.isOf "object" v = true := by
    rw [Store.isOf, made.derives, List.contains_iff_mem]
    exact (Ancestry.ofBuiltin_spec _).1
  have guards : m.store.guardsAttribute (.slot .field "object" "__class__") = true := rfl
  intro w
  rw [objectMember, (gives_store m).bind]
  simp only [made.inherited?_class, Option.filter_some, guards, if_true]
  rw [on_reach_field w _ _ _ fits, gives_readField_class]

theorem getMember_class (made : (m.store.classOf v).IsAsMade m.store)
    (plain : ∀ cls ∈ ClassRef.special,
      .builtin cls ∉ Ancestry.ofBuiltin (m.store.classOf v).root) :
    Gives (getMember call v "__class__") m
      (.cls (m.store.shownClass v)) := by
  obtain ⟨way, hway, reads⟩ := made.exists_getattribute
  have ordinary : way ∉ ClassRef.special := fun special => plain way special hway
  have reads : m.store.special? v "__getattribute__"
      = some (.slot .operation way "__getattribute__") := reads
  have answers : m.store.special? v "__getattr__" = none := made.inherited?_getattr
  intro w
  rw [getMember, (gives_store m).bind]
  simp only [reads, answers]
  rw [plainMember, (gives_store m).bind]
  split
  case h_6 | h_7 => exact objectMember_class made w
  all_goals exact absurd (by decide) ordinary

/-- What the classes of classes say about a class is a field of the language. -/
theorem on_getMember_cls (made : c.IsAsMade m.store) {owner name : String}
    (field : (owner, name) = ("object", "__class__") ∨ (owner, name) = ("type", "__name__"))
    (w : World) :
    on w (getMember call (.cls c) name) m = on w (readField call owner name (.cls c)) m := by
  have reads : m.store.special? (.cls c) "__getattribute__"
      = some (.slot .operation "type" "__getattribute__") := by
    rw [Store.special?, Store.classOf]
    rcases made.kind with kind | kind <;> rw [kind] <;> rfl
  have answers : m.store.special? (.cls c) "__getattr__" = none := by
    rw [Store.special?, Store.classOf]
    rcases made.kind with kind | kind <;> rw [kind] <;> rfl
  have above : m.store.inherited? (m.store.classInfo c).kind name = some (.slot .field owner name) := by
    rcases made.kind with kind | kind <;> rw [kind] <;> rcases field with e | e <;> cases e <;> rfl
  have fits : m.store.isOf owner (.cls c) = true := by
    rw [Store.isOf, Store.classOf]
    rcases made.kind with kind | kind <;> rw [kind] <;> rcases field with e | e <;> cases e <;> rfl
  have guards : m.store.guardsAttribute (.slot .field owner name) = true := rfl
  rw [getMember, (gives_store m).bind]
  simp only [reads, answers]
  rw [plainMember, (gives_store m).bind]
  show on w (classMember call c name) m = _
  rw [classMember, (gives_store m).bind]
  simp only [above, Option.filter_some, guards, if_true]
  exact on_reach_field w owner name _ fits

theorem getMember_cls_name (made : c.IsAsMade m.store) :
    Gives (getMember call (.cls c) "__name__") m (sharedText c.name) := by
  intro w
  rw [on_getMember_cls made (.inr rfl), readField, (gives_store m).bind]
  show on w (classField c "__name__") m = _
  rw [classField, (gives_store m).bind]
  simp only [made.info_name]
  rfl

end Members

/-! ### Types told at once -/

namespace Value

/-- The value is absent or of a type of the language, and nothing but its content. -/
def isDirect : Value → Bool
  | none | bool _ | int _ _ | float _ _ | str _ _ | list _ _ | tuple _ _ | dict _ _ => true
  | _ => false

/-- Nothing about the value has been changed that its type depends on: it is a class, or its members
are read in the way of objects, and it does not pretend to be a class. -/
inductive IsAsMade (s : Store) : Value → Prop
  | cls {c : ClassRef} (made : c.IsAsMade s) : IsAsMade s (.cls c)
  | object {v : Value} (own : s.classOf v = v.typeClass) (made : v.typeClass.IsAsMade s)
    (shown : v.shownClass.IsAsMade s)
    (ordinary : ∀ cls ∈ ClassRef.special, .builtin cls ∉ Ancestry.ofBuiltin v.typeClass.root)
    (noClass : .builtin "type" ∉ Ancestry.ofBuiltin v.shownClass.root) : IsAsMade s v

/-- A value that needs not be asked shows its own class. -/
theorem shownClass_of_isPlain {v : Value} (h : v.isPlain = true) : v.shownClass = v.typeClass := by
  cases v <;> first | rfl | cases h

namespace IsAsMade

variable {m : Machine} {v : Value} {c : ClassRef} {call : Call}

theorem shows_cls (made : c.IsAsMade m.store) :
    Gives (shownClass? call (.cls c)) m (some (m.store.classInfo c).kind) := by
  have isClass : Gives (getMember call (.cls c) "__class__") m (.cls (m.store.classInfo c).kind) := by
    intro w
    rw [on_getMember_cls made (.inl rfl), gives_readField_class]
    rfl
  exact isClass.orMissing.trans (gives_pure _ m)

/-- A class tells that it is a class, and its name. -/
theorem tells_cls (made : c.IsAsMade m.store) (w : World) :
    Tells w (· = m) call (.cls c) (Value.cls c).facts := by
  have shown : Gives (shownClass? call (.cls c)) m (some (m.store.classInfo c).kind) :=
    shows_cls made
  have asked := isInstance_of_shown shown
  have own : m.store.classOf (.cls c) = (m.store.classInfo c).kind := rfl
  refine ⟨fun t => Gives.answers ?_, fun _ => Gives.answers ?_⟩
  · have noScalar : m.store.derives (m.store.classInfo c).kind (.builtin t.className) = false := by
      rcases made.kind with kind | kind <;> rw [kind, (ClassRef.IsAsMade.builtin _).derives_scalar] <;> rfl
    have told := asked (.builtin t.className)
    rw [own, noScalar] at told
    exact told
  · have isClass : m.store.derives (m.store.classInfo c).kind (.builtin "type") = true := by
      rcases made.kind with kind | kind <;> rw [kind] <;> rfl
    have told := asked (.builtin "type")
    rw [own, isClass] at told
    refine Gives.inFunction (told.trans ?_) _ _ _
    exact (getMember_cls_name made).trans (fun _ => rfl)

/-- Any other value tells of the class that it shows. -/
theorem tells_object (own : m.store.classOf v = v.typeClass) (made : v.typeClass.IsAsMade m.store)
    (shown : v.shownClass.IsAsMade m.store)
    (ordinary : ∀ cls ∈ ClassRef.special, .builtin cls ∉ Ancestry.ofBuiltin v.typeClass.root)
    (noClass : .builtin "type" ∉ Ancestry.ofBuiltin v.shownClass.root) (w : World) :
    Tells w (· = m) call v v.facts := by
  -- the class is a member that only `object` has, and so cannot be hidden
  have isClass : Gives (getMember call v "__class__") m (.cls v.shownClass) := by
    have same : m.store.shownClass v = v.shownClass := by
      cases v <;> first | exact own | rfl
    rw [← same]
    refine getMember_class ?_ ?_ <;> rw [own]
    · exact made
    · exact ordinary
  have shows : Gives (shownClass? call v) m (some v.shownClass) := by
    rw [shownClass?]
    split
    · next plain =>
      rw [shownClass_of_isPlain plain]
      exact gives_pure _ m
    · exact isClass.orMissing.trans (gives_pure _ m)
  have asked (d : ClassRef) : Gives (isInstance call v d) m
      (m.store.derives v.typeClass d || m.store.derives v.shownClass d) := by
    rw [← own]
    exact isInstance_of_shown shows d
  refine ⟨fun t => Gives.answers ?_, fun _ => Gives.answers ?_⟩
  · have told := asked (.builtin t.className)
    rw [made.derives_scalar, shown.derives_scalar] at told
    exact told
  · have told := asked (.builtin "type")
    have no : (m.store.derives v.typeClass (.builtin "type")
        || m.store.derives v.shownClass (.builtin "type")) = false := by
      have noClass' := ordinary "type" (by decide)
      rw [made.derives, shown.derives]
      simp [noClass, noClass']
    have name : v.className = v.shownClass.name := by
      have type : ClassRef.builtin "type" ∈ Ancestry.ofBuiltin "type" := by decide +kernel
      cases v <;> first | rfl | exact absurd type (ordinary "type" (by decide))
    rw [no] at told
    refine Gives.inFunction (told.trans (isClass.trans ?_)) _ _ _
    rw [facts, name]
    exact (getMember_cls_name shown).trans (fun _ => rfl)

/-- The value tells the class that it shows, and its name. -/
theorem tells (made : v.IsAsMade m.store) (w : World) : Tells w (· = m) call v v.facts := by
  cases made with
  | cls made => exact tells_cls made w
  | object own made shown ordinary noClass => exact tells_object own made shown ordinary noClass w

/-- To tell the type of the value changes nothing. -/
theorem typeNameOf (made : v.IsAsMade m.store) :
    Gives (DocGuard.typeNameOf call v) m v.typeName := by
  intro w
  obtain ⟨m', told, same⟩ := (made.tells w).typeNameOf.exists_on rfl
  rw [same] at told
  exact told

/-- A value that is nothing but its content is as it was made. -/
theorem of_isDirect {s : Store} (h : v.isDirect = true) : v.IsAsMade s := by
  have made {cls : String} (type : v.typeClass = .builtin cls) (shown : v.shownClass = .builtin cls)
      (own : s.classOf v = v.typeClass)
      (ordinary : ∀ other ∈ ClassRef.special, .builtin other ∉ Ancestry.ofBuiltin cls) :
      v.IsAsMade s := by
    refine .object own ?_ ?_ ?_ ?_
    · rw [type]
      exact .builtin cls
    · rw [shown]
      exact .builtin cls
    · rw [type]
      exact ordinary
    · rw [shown]
      exact ordinary "type" (by decide)
  cases v <;> first | exact made rfl rfl rfl (by decide +kernel) | cases h

end IsAsMade

end Value

end DocGuard

import DocGuard.Proofs.Program.Inquiry
/-!
The questions about values.

Reading members, comparing, and going through what is held are computations that only ask (see
`Run.Inquires`), for each function along the recursion of its definition.
-/

namespace DocGuard

open Run

variable {w : World} {m₀ : Machine}

/-! ### New values and variables -/

theorem inquires_newMark : Inquires w m₀ Run.newMark :=
  Inquires.store.bind fun _ => (Inquires.change _).bind fun _ => .pure _

theorem inquires_newVariables (held : List (String × Option Value)) :
    Inquires w m₀ (Run.newVariables held) :=
  Inquires.store.bind fun _ => (Inquires.change _).bind fun _ => .pure _

theorem inquires_newFunction (f : Function) : Inquires w m₀ (Run.newFunction f) :=
  Inquires.store.bind fun _ => (Inquires.change _).bind fun _ => .pure _

theorem inquires_changeFunction (id : FunctionId) (f : Function → Function) :
    Inquires w m₀ (Run.changeFunction id f) :=
  .change _

theorem inquires_changeAttributes (mark : Nat) (f : Bindings Value → Bindings Value) :
    Inquires w m₀ (Run.changeAttributes mark f) :=
  .change _

theorem inquires_changeClass (c : ClassRef) (f : ClassInfo → ClassInfo) :
    Inquires w m₀ (Run.changeClass c f) := by
  unfold Run.changeClass
  split
  · exact .change _
  · exact .change _
  · exact .fail rfl

theorem inquires_changeContent (mark : Nat) (content : Value) :
    Inquires w m₀ (Run.changeContent mark content) :=
  .change _

theorem inquires_listLocals (frame : Frame) : Inquires w m₀ (Run.listLocals frame) :=
  Inquires.store.bind fun _ => (Inquires.change _).bind fun _ => .pure _

theorem inquires_newText (text : String) : Inquires w m₀ (Run.newText text) :=
  inquires_newMark.bind fun _ => .pure _

theorem inquires_newList (items : List Value) : Inquires w m₀ (Run.newList items) :=
  inquires_newMark.bind fun _ => (inquires_changeContent _ _).bind fun _ => .pure _

theorem inquires_newTuple (items : List Value) : Inquires w m₀ (Run.newTuple items) :=
  inquires_newMark.bind fun _ => .pure _

theorem inquires_newInt (n : Int) : Inquires w m₀ (Run.newInt n) :=
  inquires_newMark.bind fun _ => .pure _

/-! ### Fields -/

theorem inquires_classTuple (classes : List ClassRef) : Inquires w m₀ (classTuple classes) :=
  inquires_newTuple _

theorem inquires_newNamespace (entries : Bindings Value) :
    Inquires w m₀ (newNamespace entries) :=
  inquires_newMark.bind fun _ => .pure _

theorem inquires_newBytes (codes : List Char) : Inquires w m₀ (newBytes codes) :=
  inquires_newMark.bind fun _ => (inquires_changeContent _ _).bind fun _ => .pure _

theorem inquires_attributesDict (v : Value) : Inquires w m₀ (attributesDict v) :=
  Inquires.store.bind fun _ => .pure _

theorem inquires_classField (c : ClassRef) (name : String) :
    Inquires w m₀ (classField c name) := by
  unfold classField
  refine Inquires.store.bind fun s => ?_
  split
  any_goals first
    | exact .pure _ | exact .fail rfl | exact inquires_newInt _ | exact inquires_classTuple _
  · -- the attributes are shown through a new value
    refine inquires_newMark.bind fun mark => ?_
    exact (inquires_changeContent ..).bind fun _ => .pure _
  · refine .ite (.pure _) ?_
    split
    · exact .pure _
    · exact .fail rfl
  · exact .ite (.pure _) (.pure _)
  · -- annotations that are not there are made when they are asked for
    refine .ite_bind (.fail rfl) fun _ => ?_
    split
    · exact .pure _
    · refine (inquires_newNamespace _).bind fun held => ?_
      exact (inquires_changeClass ..).bind fun _ => .pure _

theorem inquires_slotField (owner member name : String) (qualified : Value) :
    Inquires w m₀ (slotField owner member name qualified) := by
  unfold slotField
  extract_lets told
  split <;> first | exact .pure _ | exact .fail rfl

theorem inquires_codeField (place : Nat) (name : String) :
    Inquires w m₀ (codeField place name) := by
  unfold codeField
  refine Inquires.store.bind fun s => ?_
  extract_lets found code own count names taken
  have ofCount (p : Param Unit → Bool) : Inquires w m₀ (count p) := inquires_newInt _
  have ofNames (list : List String) : Inquires w m₀ (names list) := inquires_newTuple _
  clear_value count names
  split <;> first
    | exact .pure _ | exact .fail rfl | exact ofCount _ | exact ofNames _ | exact inquires_newInt _
    | exact inquires_newBytes _

theorem inquires_numberField (content : Value) (name : String) :
    Inquires w m₀ (numberField content name) := by
  unfold numberField
  extract_lets float
  have ofFloat (text : String) : Inquires w m₀ (float text) :=
    inquires_newMark.bind fun _ => .pure _
  split <;> first | exact .pure _ | exact .fail rfl | exact inquires_newInt _ | exact ofFloat _

theorem inquires_boundField (content : Value) (name : String) :
    Inquires w m₀ (boundField content name) := by
  unfold boundField
  split <;> first | exact .pure _ | exact .fail rfl

theorem inquires_memoryField (s : Store) (inner : Value) (name : String) :
    Inquires w m₀ (memoryField s inner name) := by
  unfold memoryField
  extract_lets size
  have ofSize : Inquires w m₀ size := inquires_newInt _
  split
  · exact .pure _
  · exact ofSize
  · exact .pure _
  · exact inquires_newInt _
  · exact inquires_newInt _
  · exact .pure _
  · exact ofSize.bind fun _ => inquires_newTuple _
  · exact (inquires_newInt _).bind fun _ => inquires_newTuple _
  · exact .pure _
  · exact .pure _

theorem inquires_faultField (s : Store) (owner name : String) (v : Value) :
    Inquires w m₀ (faultField s owner name v) := by
  unfold faultField
  split
  · exact .pure _
  · exact .pure _
  · exact inquires_attributesDict v
  · split
    · exact .pure _
    · split
      · exact .pure _
      · exact .fail rfl
      · exact .pure _

theorem inquires_guardVariables (g : Guard) : Inquires w m₀ (guardVariables g) := by
  have opaqueValue (cls : String) : Inquires w m₀ (do
      return Value.object (← Run.newMark) (.derived (← Run.newMark) "object" cls)) :=
    inquires_newMark.bind fun _ => inquires_newMark.bind fun _ => .pure _
  exact (inquires_newTuple _).bind fun _ => (opaqueValue _).bind fun _ =>
    (opaqueValue _).bind fun _ => .pure _

theorem inquires_functionField (id : FunctionId) (name : String) :
    Inquires w m₀ (functionField id name) := by
  unfold functionField
  refine Inquires.store.bind fun s => ?_
  cases s.functions[id]? with
  | none => exact .fail rfl
  | some f =>
    dsimp only
    split
    · split
      · refine (inquires_guardVariables _).bind fun held => ?_
        exact (inquires_newVariables held).bind fun _ => inquires_newTuple _
      · exact inquires_newTuple _
    · exact .pure _
    · exact inquires_attributesDict _
    · exact .pure _
    · exact .pure _
    · refine .ite (.pure _) ((inquires_newNamespace _).bind fun held => ?_)
      exact (inquires_changeFunction ..).bind fun _ => .pure _
    · exact .fail rfl

theorem inquires_readStorage (cls : ClassRef) (name : String) (v : Value) :
    Inquires w m₀ (readStorage cls name v) := by
  unfold readStorage
  refine Inquires.store.bind fun s => .ite_bind (.fail rfl) fun _ => ?_
  split
  · exact inquires_attributesDict v
  · exact .pure _
  · split
    · exact .pure _
    · exact .fail rfl

theorem inquires_readField (owner name : String) (v : Value) :
    Inquires w m₀ (readField ask owner name v) := by
  unfold readField
  refine Inquires.store.bind fun s => ?_
  -- the kind of the value, and then the name of the field
  repeat' split
  all_goals first
    | exact .pure _ | exact .fail rfl | exact .of_call .. | exact inquires_attributesDict _
    | exact inquires_classField .. | exact inquires_functionField .. | exact inquires_codeField ..
    | exact inquires_slotField .. | exact inquires_boundField .. | exact inquires_memoryField ..
    | exact inquires_faultField .. | exact inquires_numberField .. | exact inquires_newTuple _
    | exact inquires_newMark.bind fun _ => .pure _
    | exact inquires_newMark.bind fun _ => (inquires_changeContent ..).bind fun _ => .pure _

/-! ### Members -/

theorem inquires_reachSlot (kind : SlotKind) (owner name : String) (receiver : Option Value)
    (cls : ClassRef) :
    Inquires w m₀ (reachSlot ask kind owner name receiver cls) := by
  unfold reachSlot
  refine Inquires.store.bind fun s => ?_
  have marks (bound : Nat → Value) : Inquires w m₀ (do return bound (← Run.newMark)) :=
    inquires_newMark.bind fun _ => .pure _
  split
  · exact .ite (marks _) (.fail rfl)
  · exact .ite (marks _) (.fail rfl)
  · exact .ite (marks _) (.fail rfl)
  · exact .ite (inquires_readField ..) (.fail rfl)
  · exact .ite (inquires_readField ..) (.fail rfl)
  · exact .pure _

theorem inquires_reachPlainly (member : Value) (receiver : Option Value) (cls : ClassRef) :
    Inquires w m₀ (reachPlainly ask member receiver cls) := by
  unfold reachPlainly
  refine Inquires.store.bind fun s => ?_
  split
  · exact inquires_newMark.bind fun _ => .pure _
  · exact .pure _
  · split
    · exact .of_call ..
    · exact inquires_newMark.bind fun _ => .pure _
  · exact .ite (.fail rfl) (.of_call ..)
  · exact inquires_readStorage ..
  · exact inquires_newMark.bind fun _ => .pure _
  · exact inquires_reachSlot ..
  · exact .pure _

theorem inquires_reach (member : Value) (receiver : Option Value) (cls : ClassRef) :
    Inquires w m₀ (reach ask member receiver cls) := by
  unfold reach
  refine Inquires.store.bind fun s => ?_
  split
  · exact .pure _
  · exact inquires_reachPlainly ..
  · exact .of_call ..

theorem inquires_callSpecialWith (operation receiver : Value) (args : List Value)
    (keywords : Bindings Value) :
    Inquires w m₀ (callSpecialWith ask operation receiver args keywords) := by
  unfold callSpecialWith
  refine Inquires.store.bind fun s => ?_
  split
  · exact .of_call ..
  · exact (inquires_reach ..).bind fun _ => .of_call ..

theorem inquires_callSpecial (operation receiver : Value) (args : List Value) :
    Inquires w m₀ (callSpecial ask operation receiver args) :=
  inquires_callSpecialWith ..

theorem inquires_changeGivenAttributes (v : Value) (f : Bindings Value → Bindings Value) :
    Inquires w m₀ (changeGivenAttributes v f) := by
  unfold changeGivenAttributes
  split
  · exact inquires_changeFunction ..
  · exact .change _
  · exact inquires_changeClass ..
  all_goals first | exact inquires_changeAttributes .. | exact .pure _

theorem inquires_changeOwnAttributes (v : Value) (f : Bindings Value → Bindings Value) :
    Inquires w m₀ (changeOwnAttributes v f) := by
  unfold changeOwnAttributes
  refine Inquires.store.bind fun s => ?_
  split
  · exact inquires_changeGivenAttributes ..
  · exact inquires_changeGivenAttributes ..
  · split
    · exact inquires_changeContent ..
    · exact .pure _

theorem inquires_objectMember (v : Value) (name : String) :
    Inquires w m₀ (objectMember ask v name) := by
  unfold objectMember
  refine Inquires.store.bind fun s => ?_
  extract_lets cls found
  split
  · exact inquires_reach ..
  · exact .pure _
  · exact inquires_reach ..
  · exact .fail rfl

theorem inquires_classMember (c : ClassRef) (name : String) :
    Inquires w m₀ (classMember ask c name) := by
  unfold classMember
  refine Inquires.store.bind fun s => ?_
  extract_lets kind above
  split
  · exact inquires_reach ..
  · exact inquires_reach ..
  · exact inquires_reach ..
  · exact .fail rfl

theorem inquires_parentMember (view : Value) (after : ClassRef) (receiver : Value)
    (start : ClassRef) (name : String) :
    Inquires w m₀ (parentMember ask view after receiver start name) := by
  unfold parentMember
  refine Inquires.store.bind fun s => ?_
  extract_lets found through
  cases found with
  | some member => exact inquires_reach ..
  | none => exact inquires_objectMember ..

theorem inquires_methodMember (v func : Value) (name : String) :
    Inquires w m₀ (methodMember ask v func name) := by
  unfold methodMember
  refine Inquires.store.bind fun s => ?_
  split
  · exact inquires_reach ..
  · exact .of_call ..

theorem inquires_moduleMember (v : Value) (name : String) :
    Inquires w m₀ (moduleMember ask v name) := by
  unfold moduleMember
  refine .attempt_bind (inquires_objectMember v name) (fun _ => .pure _) fun e explained => ?_
  refine Inquires.store.bind fun s => ?_
  split
  · exact .of_call ..
  · exact .throw explained

theorem inquires_plainMember (way : String) (v : Value) (name : String) :
    Inquires w m₀ (plainMember ask way v name) := by
  unfold plainMember
  refine Inquires.store.bind fun s => ?_
  split
  · exact inquires_classMember ..
  · exact inquires_parentMember ..
  · exact inquires_methodMember ..
  · exact inquires_moduleMember ..
  · exact .ite (inquires_objectMember ..) (.of_call ..)
  · exact .ite (.pure _) (inquires_objectMember ..)
  · exact inquires_objectMember ..

theorem inquires_getMember (v : Value) (name : String) :
    Inquires w m₀ (getMember ask v name) := by
  unfold getMember
  refine Inquires.store.bind fun s => ?_
  extract_lets first
  have ofFirst : Inquires w m₀ first := by
    unfold first
    split
    · exact inquires_plainMember ..
    · exact (inquires_newText _).bind fun _ => inquires_callSpecial ..
    · exact inquires_objectMember ..
  split
  · exact ofFirst
  · refine .attempt_bind ofFirst (fun _ => .pure _) fun e explained => .ite ?_ (.throw explained)
    exact (inquires_newText _).bind fun _ => inquires_callSpecial ..

theorem inquires_getMember? (v : Value) (name : String) :
    Inquires w m₀ (getMember? ask v name) :=
  (inquires_getMember v name).orMissing

theorem inquires_refuse {α : Type} (v : Value) {e : String → Fault}
    (h : ∀ text, (e text).isOfCheck = false) : Inquires w m₀ (refuse ask v e : Run α) :=
  (Inquires.of_call _ _ _).bind fun _ => Inquires.store.bind fun _ => .fail (h _)

theorem inquires_itemUnder (v key : Value) : Inquires w m₀ (itemUnder ask v key) := by
  unfold itemUnder
  refine Inquires.store.bind fun s => ?_
  split
  · exact inquires_callSpecial ..
  · refine (inquires_getMember? ..).bind fun member => ?_
    split
    · exact .fail rfl
    · exact .fail rfl
    · exact .of_call ..
  · exact .fail rfl

/-! ### Truth, length and classes -/

theorem inquires_lengthGiven (v : Value) : Inquires w m₀ (lengthGiven ask v) := by
  unfold lengthGiven
  extract_lets integer? require
  have ofRequire (n : Option Int) : Inquires w m₀ (require n) := by
    cases n with
    | none => exact .fail rfl
    | some n => exact .ite (.fail rfl) (.pure _)
  clear_value require
  refine Inquires.store.bind fun s => ?_
  split
  · exact (Inquires.pure _).bind ofRequire
  · exact (Inquires.pure _).bind ofRequire
  · refine (inquires_callSpecial ..).bind fun given => Inquires.store.bind fun s => ?_
    exact (Inquires.pure _).bind ofRequire

theorem inquires_lengthOf? (v : Value) : Inquires w m₀ (lengthOf? ask v) := by
  have ofGiven (length : Value) : Inquires w m₀ (do return some (← lengthGiven ask length)) :=
    (inquires_lengthGiven length).bind fun _ => .pure _
  unfold lengthOf?
  refine Inquires.store.bind fun s => ?_
  split
  · exact .pure _
  · split
    · exact (Inquires.of_call ..).bind ofGiven
    · exact .pure _
  · exact .pure _
  · exact (inquires_callSpecial ..).bind ofGiven

theorem inquires_isTrue (v : Value) : Inquires w m₀ (isTrue ask v) := by
  unfold isTrue
  refine Inquires.store.bind fun s => ?_
  split
  · exact .pure _
  · refine (inquires_callSpecial ..).bind fun answer => ?_
    split
    · exact .pure _
    · exact .fail rfl
  · refine (inquires_lengthOf? v).bind fun length => ?_
    split <;> exact .pure _

theorem inquires_shownClass? (v : Value) : Inquires w m₀ (shownClass? ask v) := by
  unfold shownClass?
  refine .ite (.pure _) ((inquires_getMember? v _).bind fun shown => ?_)
  split <;> exact .pure _

theorem inquires_isInstance (v : Value) (c : ClassRef) :
    Inquires w m₀ (isInstance ask v c) := by
  unfold isInstance
  refine Inquires.store.bind fun s => .ite (.pure _) ?_
  refine (inquires_shownClass? v).bind fun shown => ?_
  cases shown with
  | some shown => exact Inquires.store.bind fun _ => .pure _
  | none => exact .pure _

theorem inquires_isInstanceOfAny (v : Value) (classes : List String) :
    Inquires w m₀ (isInstanceOfAny ask v classes) := by
  induction classes with
  | nil => exact .pure _
  | cons c rest ih => exact (inquires_isInstance v _).bind fun _ => .ite (.pure _) ih

/-! ### Keys -/

theorem inquires_askHeldPlaces {ask : Value → Run Unit} (h : ∀ v, Inquires w m₀ (ask v))
    (owner : String) (v : Value) : Inquires w m₀ (askHeldPlaces ask owner v) := by
  unfold askHeldPlaces
  refine Inquires.store.bind fun s => ?_
  split
  · exact .forM _ h
  · exact .forM _ h
  · exact .fail rfl
  · exact h _
  · exact .pure _

theorem inquires_askPlaceWithin (n : Nat) (v : Value) :
    Inquires w m₀ (askPlaceWithin ask n v) := by
  induction n generalizing v with
  | zero => exact .fail rfl
  | succ n ih =>
    unfold askPlaceWithin
    refine Inquires.store.bind fun s => ?_
    split
    · exact .fail rfl
    · exact .fail rfl
    · exact inquires_askHeldPlaces ih ..
    · refine (inquires_callSpecial ..).bind fun given => Inquires.store.bind fun s => ?_
      split
      · exact .change _
      · exact .pure _
      · exact .fail rfl

theorem inquires_askPlace (v : Value) : Inquires w m₀ (askPlace ask v) :=
  (inquires_askPlaceWithin _ v).bind fun _ => Inquires.store.bind fun _ => .pure _

theorem inquires_requireKey (v : Value) : Inquires w m₀ (requireKey ask v) :=
  (inquires_askPlace v).discard

theorem inquires_askEqual (v u : Value) : Inquires w m₀ (askEqual ask v u) := by
  unfold askEqual
  refine (Inquires.of_call ..).bind fun answer => ?_
  split <;> exact .pure _

theorem inquires_isKey (place : KeyPlace) (key other : Value) :
    Inquires w m₀ (isKey ask place key other) := by
  unfold isKey
  refine .ite (.pure _) (Inquires.store.bind fun s => .ite (.pure _) ?_)
  split
  · exact .pure _
  · exact inquires_askEqual ..

theorem inquires_findKey? {α : Type} (keyOf : α → Value) (place : KeyPlace) (key : Value)
    (things : List α) : Inquires w m₀ (findKey? ask keyOf place key things) := by
  induction things with
  | nil => exact .pure _
  | cons a rest ih => exact (inquires_isKey ..).bind fun _ => .ite (.pure _) ih

theorem inquires_placeOfKey (known : Bool) (key : Value) :
    Inquires w m₀ (placeOfKey ask known key) := by
  unfold placeOfKey
  exact .ite (Inquires.store.bind fun _ => .pure _) (inquires_askPlace key)

theorem inquires_heldUnderKnown? (key : Value) (entries : List (Value × Value)) :
    Inquires w m₀ (heldUnderKnown? ask key entries) :=
  (inquires_placeOfKey _ _).bind fun _ => (inquires_findKey? ..).bind fun _ => .pure _

theorem inquires_keyAmong? (known : Bool) (v : Value) (keys : List Value) :
    Inquires w m₀ (keyAmong? ask known v keys) :=
  (inquires_placeOfKey _ _).bind fun _ => inquires_findKey? ..

/-! ### Comparison -/

theorem inquires_allEqual (vs ws : List Value) : Inquires w m₀ (allEqual ask vs ws) := by
  induction vs generalizing ws with
  | nil => cases ws <;> exact .pure _
  | cons v vs ih =>
    cases ws with
    | nil => exact .pure _
    | cons w ws =>
      unfold allEqual
      refine Inquires.bind (inquires_askEqual v w) fun same => ?_
      split
      · exact ih ws
      · exact .pure _

theorem inquires_firstDifferent? (vs ws : List Value) :
    Inquires w m₀ (firstDifferent? ask vs ws) := by
  induction vs generalizing ws with
  | nil => cases ws <;> exact .pure _
  | cons v vs ih =>
    cases ws with
    | nil => exact .pure _
    | cons w ws =>
      unfold firstDifferent?
      refine Inquires.bind (inquires_askEqual v w) fun same => ?_
      split
      · exact ih ws
      · exact .pure _

theorem inquires_compareItems (r : Relation) (vs ws : List Value) :
    Inquires w m₀ (compareItems ask r vs ws) := by
  unfold compareItems
  refine Inquires.bind (inquires_firstDifferent? vs ws) fun different => ?_
  split
  · exact .pure _
  · split
    · exact .pure _
    · exact .pure _
    · exact .of_call ..

theorem inquires_allAmong (vs ws : List Value) : Inquires w m₀ (allAmong ask vs ws) := by
  induction vs with
  | nil => exact .pure _
  | cons v vs ih => exact (inquires_keyAmong? ..).bind fun _ => .ite ih (.pure _)

theorem inquires_compareSets (r : Relation) (vs ws : List Value) :
    Inquires w m₀ (compareSets ask r vs ws) := by
  unfold compareSets
  extract_lets within
  have ofWithin (asked : Bool) (vs ws : List Value) : Inquires w m₀ (within asked vs ws) :=
    .ite (Inquires.store.bind fun _ => inquires_allAmong ..) (.pure _)
  cases r with
  | unequal => exact (ofWithin ..).bind fun _ => .pure _
  | equal | less | atMost | greater | atLeast => exact ofWithin ..

theorem inquires_allEntriesIn (others entries : List (Value × Value)) :
    Inquires w m₀ (allEntriesIn ask others entries) := by
  induction entries with
  | nil => exact .pure _
  | cons entry rest ih =>
    refine (inquires_heldUnderKnown? ..).bind fun held => ?_
    cases held with
    | none => exact .pure _
    | some w => exact (inquires_askEqual ..).bind fun _ => .ite ih (.pure _)

theorem inquires_setItems? (s : Store) (v : Value) : Inquires w m₀ (setItems? s v) := by
  unfold setItems?
  extract_lets entries
  split
  · refine .ite (.pure _) (.ite ?_ (.pure _))
    exact (Inquires.mapM _ fun _ => inquires_newTuple _).bind fun _ => .pure _
  · exact .pure _
  · exact .pure _

theorem inquires_allHeldBy (container : Value) (items : List Value) :
    Inquires w m₀ (allHeldBy ask container items) := by
  induction items with
  | nil => exact .pure _
  | cons v rest ih =>
    unfold allHeldBy
    refine Inquires.store.bind fun s => ?_
    split
    · exact .pure _
    · refine (inquires_callSpecial ..).bind fun answer => ?_
      exact (inquires_isTrue answer).bind fun _ => .ite ih (.pure _)

theorem inquires_compareViews (r : Relation) (v u : Value) (vs ws : List Value) :
    Inquires w m₀ (compareViews ask r v u vs ws) := by
  unfold compareViews
  extract_lets size within
  have ofSize (v : Value) : Inquires w m₀ (size v) :=
    (inquires_lengthOf? v).bind fun _ => .pure _
  have ofWithin (asked : Bool) (container : Value) (items : List Value) :
      Inquires w m₀ (within asked container items) :=
    .ite (inquires_allHeldBy ..) (.pure _)
  refine (ofSize v).bind fun m => (ofSize u).bind fun n => ?_
  cases r with
  | unequal => exact (ofWithin ..).bind fun _ => .pure _
  | equal | less | atMost | greater | atLeast => exact ofWithin ..

theorem inquires_plainAnswer? (r : Relation) (owner : String) (v u : Value) :
    Inquires w m₀ (plainAnswer? ask r owner v u) := by
  unfold plainAnswer?
  refine Inquires.store.bind fun s => ?_
  extract_lets isAny told alike numbers
  have ofTold (b : Bool) : Inquires w m₀ (told b) := .pure _
  have ofAlike (same : Bool) : Inquires w m₀ (alike same) := .ite (ofTold _) (.pure _)
  have ofNumbers (classes : List String) : Inquires w m₀ (numbers classes) := by
    unfold numbers
    split
    · exact ofTold _
    · exact .pure _
  have ofItems (vs ws : List Value) :
      Inquires w m₀ (do return some (← compareItems ask r vs ws)) :=
    (inquires_compareItems ..).bind fun _ => .pure _
  have ofSets (vs ws : List Value) :
      Inquires w m₀ (do return some (Value.bool (← compareSets ask r vs ws))) :=
    (inquires_compareSets ..).bind fun _ => .pure _
  have ofAnswer (sign : String) (args : List Value) :
      Inquires w m₀ (do return some (← ask (.builtin sign) args [])) :=
    (Inquires.of_call ..).bind fun _ => .pure _
  clear_value told alike numbers
  split
  any_goals first | exact .pure _ | exact ofAlike _ | exact ofNumbers _
  case h_14 | h_15 =>
    refine (inquires_setItems? s v).bind fun vs => (inquires_setItems? s u).bind fun ws => ?_
    split
    · exact (inquires_compareViews ..).bind ofTold
    · exact .pure _
  -- most answer only if the values are of the same kind
  any_goals refine .ite ?_ (.pure _)
  any_goals first | exact ofTold _ | exact ofNumbers _ | exact ofItems .. | exact ofSets ..
  · split
    · exact .pure _
    · -- an object is unequal to what it does not call equal
      split
      · exact .pure _
      · refine (inquires_callSpecial ..).bind fun answer => .ite (.pure _) ?_
        exact (inquires_isTrue answer).bind fun _ => ofTold _
      · exact .pure _
    · exact .pure _
  · split
    · exact ofTold _
    · exact .pure _
  · exact .ite (ofTold _) (ofItems ..)
  · split
    · exact ofAlike _
    · exact .pure _
  · split
    · exact ofAlike _
    · exact .pure _
  · exact Inquires.bind (inquires_allEqual ..) ofAlike
  · exact (inquires_compareSets ..).bind ofAlike
  · exact ofAnswer ..
  · refine .ite (.pure _) (.ite ?_ ((Inquires.pure _).bind ofAlike))
    exact (inquires_allEntriesIn ..).bind ofAlike
  · exact (inquires_askEqual ..).bind fun _ => ofAlike _
  · split
    · exact ofAnswer ..
    · exact ofTold _
  · exact .ite (ofAlike _) (.ite (ofAlike _) (.pure _))

theorem inquires_answer? (r : Relation) (v u : Value) : Inquires w m₀ (answer? ask r v u) := by
  unfold answer?
  refine Inquires.store.bind fun s => ?_
  split
  · exact inquires_plainAnswer? ..
  · exact (inquires_callSpecial ..).bind fun _ => .pure _
  · exact .pure _

theorem inquires_compare (r : Relation) (v u : Value) : Inquires w m₀ (compare ask r v u) := by
  unfold compare
  refine Inquires.store.bind fun s => ?_
  extract_lets c d forth back
  have ofForth : Inquires w m₀ forth := inquires_answer? r v u
  have ofBack : Inquires w m₀ back := inquires_answer? r.converse u v
  generalize ordered : (if c != d && s.derives d c then (back, forth) else (forth, back)) = answers
  have ofAnswers : Inquires w m₀ answers.1 ∧ Inquires w m₀ answers.2 := by
    rw [← ordered]
    split
    · exact ⟨ofBack, ofForth⟩
    · exact ⟨ofForth, ofBack⟩
  refine ofAnswers.1.bind fun answer => ?_
  cases answer with
  | some answer => exact .pure _
  | none =>
    refine ofAnswers.2.bind fun answer => ?_
    cases answer with
    | some answer => exact .pure _
    | none => cases r <;> first | exact .pure _ | exact .fail rfl

theorem inquires_isEqual (v u : Value) : Inquires w m₀ (isEqual ask v u) := by
  unfold isEqual
  exact .ite (.pure _) ((inquires_compare ..).bind fun _ => inquires_isTrue _)

/-! ### Iteration -/

theorem inquires_newKeeping (cls : String) (kept : List Value) :
    Inquires w m₀ (newKeeping cls kept) :=
  inquires_newMark.bind fun _ => (inquires_changeContent _ _).bind fun _ => .pure _

theorem inquires_setContent (v content : Value) : Inquires w m₀ (setContent v content) := by
  unfold setContent
  split
  · split
    · exact Inquires.store.bind fun s => inquires_changeOwnAttributes ..
    · exact .fail rfl
  · exact inquires_changeContent ..
  · exact .fail rfl

theorem inquires_rangeItems (start stop step : Int) :
    Inquires w m₀ (rangeItems start stop step) := by
  unfold rangeItems
  exact .ite_bind (.fail rfl) fun _ => .mapM _ fun _ => inquires_newInt _

theorem inquires_heldItems? (owner : String) (v : Value) :
    Inquires w m₀ (heldItems? owner v) := by
  unfold heldItems?
  refine Inquires.store.bind fun s => ?_
  have ofEach {α : Type} (things : List α) {f : α → Run Value}
      (h : ∀ a, Inquires w m₀ (f a)) : Inquires w m₀ (do return some (← things.mapM f)) :=
    (Inquires.mapM _ h).bind fun _ => .pure _
  split
  any_goals first
    | exact .pure _ | exact ofEach _ fun _ => inquires_newTuple _
    | exact ofEach _ fun _ => inquires_newText _ | exact ofEach _ fun _ => inquires_newInt _
  split
  · exact (inquires_rangeItems ..).bind fun _ => .pure _
  · exact .pure _

theorem inquires_plainIterator (owner : String) (v : Value) :
    Inquires w m₀ (plainIterator ask owner v) := by
  unfold plainIterator
  refine Inquires.store.bind fun s => ?_
  extract_lets from0 sized
  have ofFrom0 (cls : String) : Inquires w m₀ (from0 cls) := inquires_newKeeping ..
  have ofSized (cls : String) (d : Value) : Inquires w m₀ (sized cls d) :=
    inquires_newKeeping ..
  clear_value from0 sized
  split
  any_goals first
    | exact .pure _ | exact .of_call .. | exact ofFrom0 _ | exact ofSized ..
    | exact inquires_newKeeping ..
  split
  · exact inquires_newKeeping ..
  · exact .fail rfl

theorem inquires_iteratorOf (v : Value) : Inquires w m₀ (iteratorOf ask v) := by
  unfold iteratorOf
  refine Inquires.store.bind fun s => ?_
  split
  · exact .ite (inquires_newKeeping ..) (.fail rfl)
  · exact .fail rfl
  · exact inquires_plainIterator ..
  · refine (inquires_callSpecial ..).bind fun it => ?_
    exact Inquires.store.bind fun _ => .ite (.pure _) (.fail rfl)

theorem Run.Inquires.orExhausted {α : Type} {x : Run α} (hx : Inquires w m₀ x) :
    Inquires w m₀ (DocGuard.orExhausted x) :=
  hx.orNone Fault.isExhausted

theorem inquires_nextOf? (it : Value) : Inquires w m₀ (nextOf? ask it) := by
  unfold nextOf?
  refine Inquires.store.bind fun s => ?_
  split
  · exact .fail rfl
  · exact (Inquires.of_call ..).orExhausted
  · exact (inquires_callSpecial ..).orExhausted

theorem inquires_collect (it : Value) (n : Nat) : Inquires w m₀ (collect ask it n) := by
  induction n with
  | zero => exact .fail rfl
  | succ n ih =>
    refine (inquires_nextOf? it).bind fun item => ?_
    cases item with
    | none => exact .pure _
    | some v => exact ih.bind fun _ => .pure _

theorem inquires_askLength (v : Value) : Inquires w m₀ (askLength ask v) := by
  unfold askLength
  extract_lets passing
  have ofPassing {x : Run Unit} (hx : Inquires w m₀ x) : Inquires w m₀ (passing x) := by
    refine .attempt_bind hx (fun _ => .pure _) fun e explained => ?_
    cases e <;> first | exact .pure _ | exact .throw explained
  clear_value passing
  refine Inquires.store.bind fun s => ?_
  extract_lets goOn
  have ofGoOn (known : Bool) : Inquires w m₀ (goOn known) := by
    refine .ite (.pure _) (Inquires.store.bind fun s => ?_)
    split
    · exact .pure _
    · split
      · exact .ite (ofPassing (inquires_lengthOf? _).discard).discard (.pure _)
      · exact .pure _
    · refine .attempt_bind (inquires_callSpecial ..) (fun hint => .ite (.pure _) ?_)
        fun e explained => ?_
      · refine Inquires.store.bind fun s => ?_
        split
        · exact .ite (.fail rfl) (.pure _)
        · exact .fail rfl
      · cases e <;> first | exact .pure _ | exact .throw explained
  clear_value goOn
  split
  · exact (Inquires.pure _).bind ofGoOn
  · exact (ofPassing (inquires_lengthOf? v).discard).bind ofGoOn

theorem inquires_itemsIn (v : Value) (asks : Bool) : Inquires w m₀ (itemsIn ask v asks) := by
  unfold itemsIn
  refine Inquires.store.bind fun s => ?_
  split
  · refine (inquires_heldItems? ..).bind fun held => ?_
    split
    · exact .ite_bind (inquires_askLength v) fun _ => .pure _
    · refine (inquires_plainIterator ..).bind fun it => ?_
      exact .ite_bind (inquires_askLength v) fun _ => inquires_collect ..
  · refine (inquires_iteratorOf v).bind fun it => ?_
    exact .ite_bind (inquires_askLength v) fun _ => inquires_collect ..

end DocGuard

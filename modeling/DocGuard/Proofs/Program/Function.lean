import DocGuard.Proofs.Program.Answer
/-!
What a function shows of itself.

Whatever a program did to the classes and values around it, a function that was given nothing to say
otherwise answers all questions about itself out of its own record: which parameters it has, which
documentation, and which name. Asking it changes nothing. From this follows what guarding it reads.
-/

namespace DocGuard

open Run

/-! ### Texts -/

section Texts

variable (call : Call) (m : Machine) (mark : Nat)

/-- A text counts as true unless it is empty. -/
theorem isTrue_str (text : String) : Gives (isTrue call (.str mark text)) m (text != "") := by
  have length : Gives (lengthOf? call (.str mark text)) m (some text.length) :=
    fun _ => rfl
  have long : (text.length != 0) = (text != "") := by
    rw [Bool.eq_iff_iff, bne_iff_ne, bne_iff_ne, Ne, Ne, String.length_eq_zero_iff]
  intro w
  rw [isTrue, (gives_store m).bind]
  show on w (lengthOf? call (.str mark text) >>= _) m = _
  rw [length.bind, ← long]
  rfl

theorem textIn_sharedText (text : String) : Gives (textIn call (sharedText text)) m text :=
  fun _ => rfl

end Texts

/-! ### Names -/

/-- What the name of a function is where it is a text that is nothing else, or absent. -/
inductive Value.Names : Value → Option String → Prop
  | absent : Names .none Option.none
  | text (mark : Nat) (text : String) : Names (.str mark text) (some text)

section Names

variable {place : Value} {name : Option String}

theorem placeName?_some (text : String) :
    placeName? (some text) = if text != "" then some text else none := by
  rw [placeName?, Option.filter_some, bne]
  have same : text.isEmpty = (text == "") := by
    rw [Bool.eq_iff_iff, String.isEmpty_iff, beq_iff_eq]
  rw [same]

/-- Such a name is put into the log as it is, unless it is empty. -/
theorem Value.Names.loggedName? (h : place.Names name) (call : Call) (m : Machine) :
    Gives (DocGuard.loggedName? call place) m (placeName? name) := by
  cases h with
  | absent => exact fun _ => rfl
  | text mark text =>
    intro w
    rw [DocGuard.loggedName?, (isTrue_str call m mark text).bind, placeName?_some]
    cases text != "" <;> rfl

/-- Such a name is put into the wording of a failure as it is, unless it is empty. -/
theorem Value.Names.saidName? (h : place.Names name) (call : Call) (m : Machine) :
    Gives (DocGuard.saidName? call place) m (placeName? name) := by
  cases h with
  | absent => exact fun _ => rfl
  | text mark text =>
    intro w
    show on w (isTrue call (.str mark text) >>= _) m = _
    rw [(isTrue_str call m mark text).bind, placeName?_some]
    cases text != "" <;> rfl

/-- The failure about a violation has the name that is put into its wording. -/
theorem Value.Names.mismatchAt (h : place.Names name) (call : Call) (v : Violation) (m : Machine) :
    Gives (DocGuard.mismatchAt call place v) m ⟨v, placeName? name⟩ := by
  intro w
  rw [DocGuard.mismatchAt, on_within, (h.saidName? call m).bind]
  rfl

theorem Value.Names.textOf? (h : place.Names name) (s : Store) : s.textOf? place = name := by
  cases h <;> rfl

end Names

/-! ### The members of a function -/

section Members

variable (call : Call) (m : Machine) (id : FunctionId) {w : World}

theorem isTrue_function : Gives (isTrue call (.function id)) m true := fun _ => rfl

/-- The members of a function are read in the way of all objects. -/
theorem plainMember_function (name : String) :
    on w (plainMember call "object" (.function id) name) m
      = on w (objectMember call (.function id) name) m := by
  rw [plainMember, (gives_store m).bind]
  rfl

theorem on_getMember_function (name : String) :
    on w (getMember call (.function id) name) m = on w (objectMember call (.function id) name) m := by
  have reads : m.store.special? (.function id) "__getattribute__"
      = some (.slot .operation "object" "__getattribute__") := rfl
  have answers : m.store.special? (.function id) "__getattr__" = none := rfl
  rw [getMember, (gives_store m).bind]
  simp only [reads, answers]
  exact plainMember_function call m id name

/-- A function shows the class of functions as its own. -/
theorem shownClass?_function :
    Gives (shownClass? call (.function id)) m (some (.builtin "function")) := by
  have found : m.store.inherited? (m.store.classOf (.function id)) "__class__"
      = some (.slot .field "object" "__class__") := rfl
  have guards : m.store.guardsAttribute (.slot .field "object" "__class__") = true := rfl
  have read : Gives (getMember call (.function id) "__class__") m (.cls (.builtin "function")) := by
    intro w
    rw [on_getMember_function, objectMember, (gives_store m).bind]
    simp only [found, Option.filter_some, guards, if_true]
    rfl
  exact read.orMissing.trans (gives_pure _ m)

/-- A function is an instance of what the class of functions derives from. -/
theorem isInstance_function (c : String) :
    Gives (isInstance call (.function id) (.builtin c)) m
      ((Ancestry.ofBuiltin "function").contains (.builtin c)) := by
  have cls : m.store.classOf (.function id) = .builtin "function" := rfl
  have derives : m.store.derives (.builtin "function") (.builtin c)
      = (Ancestry.ofBuiltin "function").contains (.builtin c) := rfl
  intro w
  rw [isInstance, (gives_store m).bind, cls, derives]
  cases known : (Ancestry.ofBuiltin "function").contains (ClassRef.builtin c) with
  | true => rfl
  | false =>
    -- the class that the function shows is its own, so asking it gives no other answer
    show on w (shownClass? call (.function id) >>= _) m = _
    rw [(shownClass?_function call m id).bind]
    show (Except.ok (m.store.derives (.builtin "function") (.builtin c)), m) = _
    rw [derives, known]

theorem isInstance_function_method :
    Gives (isInstance call (.function id) (.builtin "method")) m false :=
  isInstance_function call m id "method"

theorem isInstance_function_function :
    Gives (isInstance call (.function id) (.builtin "function")) m true :=
  isInstance_function call m id "function"

variable {m id}

/-- A member that neither the class of functions nor the function itself has is missing. -/
theorem getMember?_function_of_missing {name : String}
    (language : m.store.inherited? (.builtin "function") name = none)
    (own : (m.store.ownAttributes (.function id)).get? name = none) :
    Gives (getMember? call (.function id) name) m none := by
  have found : m.store.inherited? (m.store.classOf (.function id)) name = none := language
  intro w
  have fails : on w (getMember call (.function id) name) m = (.error (.noMember name), m) := by
    rw [on_getMember_function, objectMember, (gives_store m).bind]
    simp only [found, own]
    rfl
  rw [getMember?, orMissing, on_bind, on_attempt, fails]
  rfl

/-- What the language keeps about a function is read from its record. -/
theorem on_getMember_functionField {name : String} {kind : SlotKind}
    (kept : kind = .field ∨ kind = .stored)
    (language : m.store.inherited? (.builtin "function") name = some (.slot kind "function" name)) :
    on w (getMember call (.function id) name) m = on w (functionField id name) m := by
  have found : m.store.inherited? (m.store.classOf (.function id)) name
      = some (.slot kind "function" name) := language
  have guards : m.store.guardsAttribute (.slot kind "function" name) = true := by
    rcases kept with rfl | rfl <;> rfl
  rw [on_getMember_function, objectMember, (gives_store m).bind]
  simp only [found, Option.filter_some, guards, if_true]
  rcases kept with rfl | rfl <;> rfl

variable {f : Function}

theorem getMember_function_doc (h : m.store.functions[id]? = some f) :
    Gives (getMember call (.function id) "__doc__") m f.doc := by
  intro w
  rw [on_getMember_functionField call (.inr rfl) rfl, functionField, (gives_store m).bind]
  simp only [h]
  rfl

theorem getMember_function_qualname (h : m.store.functions[id]? = some f) :
    Gives (getMember call (.function id) "__qualname__") m f.qualifiedName := by
  intro w
  rw [on_getMember_functionField call (.inl rfl) rfl, functionField, (gives_store m).bind]
  simp only [h]
  rfl

theorem getMember_function_name (h : m.store.functions[id]? = some f) :
    Gives (getMember call (.function id) "__name__") m f.name := by
  intro w
  rw [on_getMember_functionField call (.inl rfl) rfl, functionField, (gives_store m).bind]
  simp only [h]
  rfl

end Members

/-! ### The face of a function -/

/-- What a function as it was defined shows of itself. -/
structure Face where
  signature : Signature
  /-- The documentation as it was written, if there is any. -/
  doc : Option String
  qualifiedName : String
  plainName : String

namespace Face

/-- The name that a check knows the function by: the qualified name unless it is empty, else the
plain one. -/
def name (face : Face) : String :=
  if face.qualifiedName = "" then face.plainName else face.qualifiedName

/-- The name that a check knows the function by which was called as `method`. -/
def nameOr (face : Face) (method : String) : String :=
  if face.name = "" then method else face.name

/-- The documentation, cleaned, and the parameters that it can speak of. -/
def interface (face : Face) : Interface :=
  ⟨face.doc.bind Docstring.ofText?, face.signature.documentable⟩

/-- The documentation and the parameters, if there is something to check. -/
def checkable? (face : Face) : Option (String × List String) :=
  Interface.checkable? (some face.interface)

end Face

/-- The text of a value that is documentation as definitions write it: text, or nothing. -/
def Value.writtenDoc? : Value → Option (Option String)
  | .none => some Option.none
  | .str _ text => some (some text)
  | _ => Option.none

/-- The names under which a function can be made to say something else about its parameters. -/
def signatureNames : List String :=
  ["__wrapped__", "__signature__", "_partialmethod", "__text_signature__"]

/-- The function at `id` is as a definition makes it: it runs code, its parameters have different
names and at most as many defaults as places, it was given no other signature, and it shows this
face. -/
structure Shows (s : Store) (id : FunctionId) (f : Function) (code : Code) (face : Face) :
    Prop where
  stored : s.functions[id]? = some f
  runs : f.code? = some code
  signature : s.codeSignature code f.defaults f.keywordDefaults = face.signature
  distinct : (face.signature.map Param.name).Nodup
  defaults : (s.itemsOf f.defaults).length ≤ (code.params.filter Param.takesPosition).length
  doc : f.doc.writtenDoc? = some face.doc
  qualifiedName : f.qualifiedName = sharedText face.qualifiedName
  plainName : f.name = sharedText face.plainName
  own : ∀ name ∈ signatureNames, (s.ownAttributes (.function id)).get? name = none

namespace Shows

variable {m : Machine} {id : FunctionId} {f : Function} {code : Code} {face : Face} {w : World}
variable (h : Shows m.store id f code face) (call : Call)
include h

/-- The function says nothing else about its parameters. -/
theorem getMember?_signatureName {name : String} (hn : name ∈ signatureNames) :
    Gives (getMember? call (.function id) name) m none := by
  refine getMember?_function_of_missing call ?_ (h.own name hn)
  simp only [signatureNames, List.mem_cons, List.not_mem_nil, or_false] at hn
  rcases hn with rfl | rfl | rfl | rfl <;> rfl

/-- With at most as many defaults as places, the signature shown is that of calls. -/
theorem shownSignature :
    m.store.shownSignature code f.defaults f.keywordDefaults = face.signature := by
  rw [← h.signature, Store.shownSignature, Store.codeSignature]
  simp only [h.defaults, if_true, Nat.sub_eq_zero_of_le h.defaults, List.drop_zero]

theorem functionSignature : m.store.functionSignature f = face.signature := by
  rw [Store.functionSignature, h.runs]
  exact h.signature

theorem signatureOfFunction :
    Gives (DocGuard.signatureOfFunction call (.function id)) m face.signature := by
  have stored : m.store.function? (.function id) = some f := h.stored
  intro w
  unfold DocGuard.signatureOfFunction
  rw [(isInstance_function_function call m id).bind]
  show on w (getMember? call (.function id) "__text_signature__" >>= _) m = _
  rw [(h.getMember?_signatureName call (by decide)).bind]
  show on w (store >>= _) m = _
  rw [(gives_store m).bind]
  simp only [stored]
  rw [(gives_store m).bind]
  simp only [h.runs]
  rw [h.shownSignature]
  rfl

/-- The function wraps nothing. -/
theorem unwrapped (n : Nat) (seen : List Value) :
    Gives (DocGuard.unwrapped call (.function id) (n + 1) seen (.function id)) m
      (.function id) := by
  intro w
  rw [DocGuard.unwrapped, (h.getMember?_signatureName call (by decide)).bind]
  rfl

theorem signatureOf : Gives (DocGuard.signatureOf call (.function id)) m face.signature := by
  have noMethod := isInstance_function_method call m id
  intro w
  show on w (signatureWithin call (999 + 1) (.function id)) m = _
  rw [signatureWithin, (gives_store m).bind]
  show on w (isInstance call (.function id) (.builtin "method") >>= _) m = _
  rw [noMethod.bind]
  show on w (DocGuard.unwrapped call (.function id) (999 + 1) [.function id] (.function id) >>= _) m
    = _
  rw [(h.unwrapped call 999 _).bind, noMethod.bind]
  show on w (getMember? call (.function id) "__signature__" >>= _) m = _
  rw [(h.getMember?_signatureName call (by decide)).bind]
  show on w (getMember? call (.function id) "_partialmethod" >>= _) m = _
  rw [(h.getMember?_signatureName call (by decide)).bind]
  show on w (isInstance call (.function id) (.builtin "function") >>= _) m = _
  rw [(isInstance_function_function call m id).bind]
  exact h.signatureOfFunction call w

theorem signatureShown : Gives (DocGuard.signatureShown call (.function id)) m face.signature := by
  refine Gives.inFunction (fun w => ?_) _ _ _
  rw [(h.signatureOf call).orUnfit.bind]
  rfl

/-- The documentation of the function is cleaned as text. -/
theorem cleanedDoc? :
    Gives (DocGuard.cleanedDoc? call f.doc) m (face.doc.bind Docstring.ofText?) := by
  have doc := h.doc
  cases written : f.doc with
  | none =>
    rw [written, Value.writtenDoc?, Option.some_inj] at doc
    rw [← doc]
    exact gives_pure _ m
  | str mark text =>
    rw [written, Value.writtenDoc?, Option.some_inj] at doc
    rw [← doc]
    exact gives_pure _ m
  | _ => simp [written, Value.writtenDoc?] at doc

theorem interfaceOf : Gives (DocGuard.interfaceOf call (.function id)) m (some face.interface) := by
  refine Gives.inFunction ?_ _ _ _
  intro w
  show on w (store >>= _) m = _
  rw [(gives_store m).bind]
  show on w (Run.orUnfit (DocGuard.signatureOf call (.function id)) >>= _) m = _
  rw [(h.signatureOf call).orUnfit.bind]
  show on w (Run.orMissing (getMember call (.function id) "__doc__") >>= _) m = _
  rw [(getMember_function_doc call h.stored).orMissing.bind]
  show on w (DocGuard.cleanedDoc? call f.doc >>= _) m = _
  rw [(h.cleanedDoc? call).bind]
  rfl

theorem checkable? : Gives (DocGuard.checkable? call (.function id)) m face.checkable? := by
  intro w
  rw [DocGuard.checkable?, (h.interfaceOf call).bind]
  rfl

theorem callableName :
    Gives (DocGuard.callableName call (.function id)) m (sharedText face.name) := by
  refine Gives.inFunction ?_ _ _ _
  intro w
  show on w (Run.orMissing (getMember call (.function id) "__qualname__") >>= _) m = _
  rw [(getMember_function_qualname call h.stored).orMissing.bind]
  show on w (isTrue call f.qualifiedName >>= _) m = _
  rw [h.qualifiedName, sharedText, (isTrue_str call m 0 face.qualifiedName).bind, Face.name]
  by_cases empty : face.qualifiedName = ""
  · rw [if_pos empty, if_neg (by simpa using empty)]
    show on w (Run.orMissing (getMember call (.function id) "__name__") >>= _) m = _
    rw [(getMember_function_name call h.stored).orMissing.bind, ← h.plainName]
    rfl
  · rw [if_neg empty, if_pos (by simpa using empty)]
    rfl

/-! ### Guarding -/

variable {names : OptionNames} {options : CheckOptions}
variable (valid : CheckOptions.ofNames names.styles names.reaction = .ok options)
include valid

/-- A function without documentation or parameters is left as it is. -/
theorem on_guardFunction_of_none (nothing : face.checkable? = none) :
    on w (guardFunction call names id) m
      = (.ok id, { m with events := m.events ++ [.reported (.log (.notGuarded face.name))] }) := by
  rw [guardFunction, on_inFunction, (gives_options valid m).bind, (h.checkable? call).bind,
    (h.callableName call).bind, (gives_store m).bind]
  simp only [nothing]
  rw [(textIn_sharedText call m face.name).bind]
  rfl

/-- **A guard keeps what the function showed when it was guarded**: options, name, documentation,
parameters and signature. -/
theorem on_guardFunction {doc : String} {params : List String}
    (documented : face.checkable? = some (doc, params)) :
    on w (guardFunction call names id) m
      = (.ok m.store.functions.size,
          { m with store := { m.store with functions := m.store.functions.push (guardOf f id
              ⟨id, options, sharedText face.name, doc, params, face.signature⟩) } }) := by
  rw [guardFunction, on_inFunction, (gives_options valid m).bind, (h.checkable? call).bind,
    (h.callableName call).bind, (gives_store m).bind]
  simp only [documented, h.stored, h.functionSignature]
  rfl

end Shows

/-! ### Definitions -/

namespace Signature

/-- Giving parameters their defaults keeps their names. -/
theorem names_withDefaults (params : List (Param Unit)) (positional : List (Option Value))
    (keyword : Bindings Value) :
    (withDefaults params positional keyword).map Param.name = params.map Param.name := by
  induction params generalizing positional with
  | nil => rfl
  | cons p rest ih =>
    rw [withDefaults]
    split
    · exact congrArg (p.name :: ·) (ih _)
    · exact congrArg (p.name :: ·) (ih _)

end Signature

section Definitions

variable {call : Call} {m : Machine}

/-- Keeping the defaults of a function changes no function, and keeps at most one for each place. -/
theorem on_newDefaults (params : List (Param Expr)) (values : Bindings Value) (m : Machine) :
    ∃ v m', on w (newDefaults params values) m = (.ok v, m')
      ∧ m'.store.functions = m.store.functions ∧ m'.store.adopted = m.store.adopted
      ∧ ∀ s : Store, (s.itemsOf v).length ≤ (params.filter Param.takesPosition).length := by
  rw [newDefaults]
  by_cases none : ((params.filter Param.takesPosition).filterMap fun p =>
      values.get? p.name).isEmpty = true
  · simp only [none, if_true]
    exact ⟨_, _, rfl, rfl, rfl, fun s => Nat.zero_le _⟩
  · simp only [none]
    exact ⟨_, _, rfl, rfl, rfl, fun s => List.length_filterMap_le ..⟩

theorem on_newKeywordDefaults (params : List (Param Expr)) (values : Bindings Value)
    (m : Machine) :
    ∃ v m', on w (newKeywordDefaults params values) m = (.ok v, m')
      ∧ m'.store.functions = m.store.functions ∧ m'.store.adopted = m.store.adopted := by
  rw [newKeywordDefaults]
  by_cases none : ((params.filter (·.kind == .keywordOnly)).filterMap fun p =>
      (values.get? p.name).map (p.name, ·)).isEmpty = true
  · simp only [none, if_true]
    exact ⟨_, _, rfl, rfl, rfl⟩
  · simp only [none]
    exact ⟨_, _, rfl, rfl, rfl⟩

/-- The code of a function that is defined in an environment. -/
def FunctionHead.codeIn (head : FunctionHead) (env : Env) (body : List Action) : Code :=
  ⟨head.place, head.label, head.name, env.qualifier ++ head.name, bareParams head.params, body⟩

/-- The function that a definition makes, with the defaults that it keeps. -/
def FunctionHead.made (head : FunctionHead) (env : Env) (body : List Action)
    (doc home kept keptNamed : Value) : Function where
  name := sharedText head.name
  qualifiedName := sharedText (env.qualifier ++ head.name)
  doc := doc
  module := home
  defaults := kept
  keywordDefaults := keptNamed
  annotations := .none
  behaviour := .run (head.codeIn env body) (captured env (head.params.map Param.name) body)
  attributes := []

/-- A function that was given no dictionary has its attributes in its record. -/
theorem ownAttributes_function {s : Store} {id : FunctionId} {f : Function}
    (stored : s.functions[id]? = some f) (unadopted : s.adopted? (.function id) = none) :
    s.ownAttributes (.function id) = f.attributes := by
  rw [Store.ownAttributes, unadopted]
  show s.givenAttributes (.function id) = f.attributes
  rw [Store.givenAttributes, stored]
  rfl

section Made

variable {env : Env} {head : FunctionHead} {body : List Action} {s : Store} {id : FunctionId}
variable {doc home kept keptNamed : Value} {text : Option String}

theorem names_codeSignature_codeIn :
    (s.codeSignature (head.codeIn env body) kept keptNamed).map Param.name
      = head.params.map Param.name :=
  (Signature.names_withDefaults ..).trans List.map_map

/-- What a definition makes shows the documentation, the names and the parameters. -/
theorem FunctionHead.shows_made
    (stored : s.functions[id]? = some (head.made env body doc home kept keptNamed))
    (unadopted : s.adopted? (.function id) = none) (written : doc.writtenDoc? = some text)
    (few : (s.itemsOf kept).length ≤ (head.params.filter Param.takesPosition).length)
    (distinct : (head.params.map Param.name).Nodup) :
    Shows s id (head.made env body doc home kept keptNamed) (head.codeIn env body)
      ⟨s.codeSignature (head.codeIn env body) kept keptNamed, text, env.qualifier ++ head.name,
        head.name⟩ where
  stored := stored
  runs := rfl
  signature := rfl
  distinct := names_codeSignature_codeIn ▸ distinct
  defaults := by
    have places : (head.codeIn env body).params.filter Param.takesPosition
        = bareParams (head.params.filter Param.takesPosition) := List.filter_map
    rw [places, bareParams, List.length_map]
    exact few
  doc := written
  qualifiedName := rfl
  plainName := rfl
  own _ _ := by
    rw [ownAttributes_function stored unadopted]
    rfl

end Made

/-- **Definitions make functions as they are asked for here**: whatever the defaults are, once the
documentation is text or nothing, the function made runs the body that was written and shows the
documentation, the names and the parameters. If the definition says so, it is then guarded. -/
theorem exists_shows_makeFunction {env : Env} {head : FunctionHead} {body : List Action}
    {doc : Value} {text : Option String} {values : Bindings Value} {m₁ m₂ : Machine}
    (reads : on w (head.doc.eval call env) m = (.ok doc, m₁)) (written : doc.writtenDoc? = some text)
    (defaults : on w (evalDefaults call env head.params) m₁ = (.ok values, m₂))
    (distinct : (head.params.map Param.name).Nodup)
    (unadopted : m₂.store.adopted? (.function m₂.store.functions.size) = none) :
    ∃ m₃ f code face, Shows m₃.store m₂.store.functions.size f code face
      ∧ face.doc = text ∧ face.qualifiedName = env.qualifier ++ head.name
      ∧ face.plainName = head.name
      ∧ face.signature.map Param.name = head.params.map Param.name
      ∧ code.name = head.name ∧ code.body = body
      ∧ f.behaviour = .run code (captured env (face.signature.map Param.name) code.body)
      ∧ on w (makeFunction call env head body) m
          = on w (head.guard.elim (pure m₂.store.functions.size)
              fun names => guardFunction call names m₂.store.functions.size) m₃ := by
  obtain ⟨kept, m', keeps, functions', adopted', few⟩ := on_newDefaults head.params values m₂
  obtain ⟨keptNamed, m'', keepsNamed, functions'', adopted''⟩ :=
    on_newKeywordDefaults head.params values m'
  generalize made : head.made env body doc ((shownModule? m₂.store).getD .none) kept keptNamed = f
  -- keeping the defaults made no function, so that this one gets the next place
  have size : m''.store.functions.size = m₂.store.functions.size := by
    rw [functions'', functions']
  obtain ⟨m₃, functions₃, adopted₃, makes⟩ : ∃ m₃ : Machine,
      m₃.store.functions = m''.store.functions.push f ∧ m₃.store.adopted = m''.store.adopted
        ∧ on w (newFunction f) m'' = (.ok m₂.store.functions.size, m₃) :=
    ⟨{ m'' with store := { m''.store with functions := m''.store.functions.push f } }, rfl, rfl,
      by rw [← size]; rfl⟩
  have stored : m₃.store.functions[m₂.store.functions.size]? = some f := by
    rw [functions₃, ← size]
    exact Array.getElem?_push_size
  have unadopted₃ : m₃.store.adopted? (.function m₂.store.functions.size) = none := by
    rw [← unadopted, Store.adopted?, Store.adopted?, adopted₃, adopted'', adopted']
  have shows := FunctionHead.shows_made (made ▸ stored) unadopted₃ written (few m₃.store) distinct
  refine ⟨m₃, _, _, _, shows, rfl, rfl, rfl, names_codeSignature_codeIn, rfl, rfl,
    by rw [names_codeSignature_codeIn]; rfl, ?_⟩
  rw [makeFunction, on_bind, reads]
  simp only
  rw [on_bind, defaults]
  simp only
  rw [(gives_store m₂).bind, on_bind, keeps]
  simp only
  rw [on_bind, keepsNamed]
  simp only
  change on w (newFunction (head.made env body doc ((shownModule? m₂.store).getD .none) kept
    keptNamed) >>= _) m'' = _
  rw [made, on_bind, makes]
  cases head.guard <;> rfl

end Definitions

end DocGuard

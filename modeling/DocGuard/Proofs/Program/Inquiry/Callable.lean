import DocGuard.Proofs.Program.Inquiry.Value
/-!
The questions about callables.

Signatures, documentation, and the search for the running call are asked of the values of the
program. So are the types of the arguments, and the names put into the log and into the wording of a
failure.
-/

namespace DocGuard

open Run

variable {w : World} {m₀ : Machine}

/-! ### Signatures that are written -/

theorem inquires_Parameters.Constant.value (c : Parameters.Constant) :
    Inquires w m₀ (Parameters.Constant.value c) := by
  unfold Parameters.Constant.value
  split
  any_goals first | exact .pure _ | exact inquires_newInt _ | exact inquires_newText _
  · exact inquires_newMark.bind fun _ => .pure _
  all_goals
    refine inquires_newMark.bind fun mark => ?_
    exact (inquires_changeContent ..).bind fun _ => .pure _

theorem inquires_Parameters.follow (v : Value) (path : List String) :
    Inquires w m₀ (Parameters.follow ask v path) := by
  induction path generalizing v with
  | nil => exact .pure _
  | cons name rest ih => exact (inquires_getMember v name).bind fun _ => ih _

theorem inquires_Parameters.valueOf (globals : Bindings Value) (path : List String) :
    Inquires w m₀ (Parameters.valueOf ask globals path) := by
  unfold Parameters.valueOf
  extract_lets first require
  have ofRequire (v : Value) : Inquires w m₀ (require v) :=
    (inquires_isInstanceOfAny v _).bind fun _ => .ite (.pure _) (.fail rfl)
  clear_value require
  split
  · exact (inquires_Parameters.follow ..).bind ofRequire
  · split
    · exact (Inquires.pure _).bind ofRequire
    · exact (Inquires.fail rfl).bind ofRequire
  · exact (Inquires.fail rfl).bind ofRequire

theorem inquires_Parameters.signedValue (negative : Bool) (v : Value) :
    Inquires w m₀ (Parameters.signedValue negative v) := by
  unfold Parameters.signedValue
  refine .ite (.pure _) (Inquires.store.bind fun s => ?_)
  split
  · exact inquires_newInt _
  · exact inquires_newMark.bind fun _ => .pure _
  · refine inquires_newMark.bind fun mark => ?_
    exact (inquires_changeContent ..).bind fun _ => .pure _
  · exact .fail rfl

theorem inquires_Parameters.Default.constantValue (globals : Bindings Value)
    (e : Parameters.Default) : Inquires w m₀ (e.constantValue ask globals) := by
  induction e using Parameters.Default.constantValue.induct with
  | case1 c => exact inquires_Parameters.Constant.value c
  | case2 path => exact inquires_Parameters.valueOf globals path
  | case3 join left right first second =>
    unfold Parameters.Default.constantValue
    exact first.bind fun _ => second.bind fun _ => .of_call ..
  | case4 e noConstant noName noJoined =>
    have fails :
        e.constantValue ask globals = throw (.badValue "malformed node or string") := by
      cases e with
      | constant c => exact absurd rfl (noConstant c)
      | name path => exact absurd rfl (noName path)
      | joined join left right => exact absurd rfl (noJoined join left right)
      | _ => rfl
    rw [fails]
    exact .fail rfl

theorem inquires_Parameters.Default.value (globals : Bindings Value) :
    (∀ e, Inquires w m₀ (Parameters.Default.value ask globals e)) ∧
      (∀ l, Inquires w m₀ (Parameters.Default.entryValues ask globals l)) ∧
        ∀ l, Inquires w m₀ (Parameters.Default.values ask globals l) := by
  refine Parameters.Default.value.mutual_induct _ _ _ ?_ ?_ ?_ ?_ ?_ ?_ ?_ ?_ ?_ ?_
  · intro items ih
    unfold Parameters.Default.value
    exact ih.bind fun _ => .ite (.pure _) (inquires_newTuple _)
  · intro items ih
    unfold Parameters.Default.value
    exact ih.bind fun _ => inquires_newList _
  · intro items ih
    unfold Parameters.Default.value
    exact ih.bind fun _ => (inquires_newList _).bind fun _ => .of_call ..
  · intro entries ih
    unfold Parameters.Default.value
    refine (Inquires.of_call ..).bind fun d => ih.bind fun held => ?_
    refine (Inquires.forIn _ (fun entry _ => ?_) _).bind fun _ => .pure _
    exact (Inquires.of_call ..).discard.bind fun _ => .pure _
  · intro negative e
    unfold Parameters.Default.value
    refine (inquires_Parameters.Default.constantValue globals e).bind fun v => ?_
    exact .ite (inquires_Parameters.signedValue ..) (.fail rfl)
  · intro e noTuple noList noSet noDict noSigned
    have plain : e.value ask globals = e.constantValue ask globals := by
      cases e with
      | tuple items => exact absurd rfl (noTuple items)
      | list items => exact absurd rfl (noList items)
      | set items => exact absurd rfl (noSet items)
      | dict entries => exact absurd rfl (noDict entries)
      | signed negative e => exact absurd rfl (noSigned negative e)
      | _ => rfl
    rw [plain]
    exact inquires_Parameters.Default.constantValue globals e
  · exact .pure _
  · intro e rest first others
    unfold Parameters.Default.values
    exact first.bind fun _ => others.bind fun _ => .pure _
  · exact .pure _
  · intro key held rest first second others
    unfold Parameters.Default.entryValues
    exact first.bind fun _ => second.bind fun _ => others.bind fun _ => .pure _

theorem inquires_Parameters.evaluated (globals : Bindings Value)
    (params : List (Param Parameters.Default)) :
    Inquires w m₀ (Parameters.evaluated ask globals params) := by
  induction params with
  | nil => exact .pure _
  | cons p rest ih =>
    unfold Parameters.evaluated
    extract_lets goOn
    have ofGoOn (default : Option Value) : Inquires w m₀ (goOn default) :=
      ih.bind fun _ => .pure _
    clear_value goOn
    cases p.default with
    | none => exact (Inquires.pure _).bind ofGoOn
    | some e =>
      refine ((inquires_Parameters.Default.value globals).1 e).bind fun v => ?_
      exact (Inquires.pure _).bind ofGoOn

theorem inquires_globalsNamedBy (v : Value) : Inquires w m₀ (globalsNamedBy ask v) := by
  unfold globalsNamedBy
  refine (inquires_getMember? v _).bind fun name => (inquires_isTrue _).bind fun _ => ?_
  refine .ite (.pure _) ?_
  exact (Inquires.of_call ..).discard.bind fun _ => Inquires.store.bind fun _ => .pure _

theorem inquires_writtenSignature (v : Value) (text : String) :
    Inquires w m₀ (writtenSignature ask v text) := by
  unfold writtenSignature
  refine .ite_bind (.fail rfl) fun _ => ?_
  cases Parameters.ofText? text with
  | none => exact inquires_refuse _ fun _ => rfl
  | some p =>
    refine (inquires_globalsNamedBy v).bind fun globals => ?_
    refine .attempt_bind (inquires_Parameters.evaluated ..) (fun sig => ?_) fun e explained => ?_
    · refine .ite (.pure _) ((inquires_getMember? v _).bind fun self => ?_)
      exact (inquires_isInstance ..).discard.bind fun _ => .pure _
    · exact .ite (inquires_refuse _ fun _ => rfl) (.throw explained)

theorem inquires_askMethod (v : Value) (name : String) (args : List Value) :
    Inquires w m₀ (askMethod ask v name args) :=
  (inquires_getMember v name).bind fun _ => .of_call ..

theorem inquires_saidText (said : Value) : Inquires w m₀ (saidText ask said) := by
  unfold saidText
  refine (inquires_isTrue said).discard.bind fun _ => ?_
  refine (inquires_askMethod ..).bind fun _ => (inquires_itemsIn ..).bind fun lines => ?_
  refine (Inquires.filterM _ inquires_isTrue).bind fun kept => ?_
  refine (Inquires.mapM _ fun line => ?_).bind fun _ => .pure _
  refine (inquires_askMethod ..).bind fun given => Inquires.store.bind fun s => ?_
  split
  · exact .pure _
  · exact .ite (.fail rfl) (.fail rfl)

theorem inquires_saidSignature? (v said : Value) :
    Inquires w m₀ (saidSignature? ask v said) := by
  unfold saidSignature?
  refine (inquires_isTrue said).bind fun _ => .ite (.pure _) ?_
  have ofRead (text : String) :
      Inquires w m₀ (do return some (← writtenSignature ask v text)) :=
    (inquires_writtenSignature v text).bind fun _ => .pure _
  split
  · exact (Inquires.pure _).bind ofRead
  · exact (inquires_saidText _).bind ofRead

/-! ### Signatures of callables -/

theorem inquires_looksLikeFunction (v : Value) : Inquires w m₀ (looksLikeFunction ask v) := by
  unfold looksLikeFunction
  refine Inquires.store.bind fun s => .ite (.pure _) ?_
  refine (inquires_isInstance v _).bind fun _ => .ite (.pure _) ?_
  refine (inquires_getMember? v _).bind fun name => (inquires_getMember? v _).bind fun code => ?_
  refine (inquires_getMember? v _).bind fun defaults => ?_
  refine (inquires_getMember? v _).bind fun keywordDefaults => ?_
  refine (inquires_getMember? v _).bind fun annotations => ?_
  extract_lets annotations absentOr
  have ofAbsentOr (cls : String) (held : Option Value) : Inquires w m₀ (absentOr cls held) := by
    cases held with
    | none => exact .pure _
    | some held => exact .ite (.pure _) (inquires_isInstance held _)
  refine (inquires_isInstance _ _).bind fun _ => .ite (.pure _) ?_
  refine (inquires_isInstance _ _).bind fun _ => .ite (.pure _) ?_
  refine (ofAbsentOr "tuple" defaults).bind fun _ => .ite (.pure _) ?_
  refine (ofAbsentOr "dict" keywordDefaults).bind fun _ => .ite (.pure _) ?_
  exact (inquires_isInstance annotations _).bind fun _ => .ite (.pure _) (.pure _)

theorem inquires_signatureOfFunction (v : Value) :
    Inquires w m₀ (signatureOfFunction ask v) := by
  unfold signatureOfFunction
  extract_lets unsaid unrefused
  have ofUnsaid (u : Unit) : Inquires w m₀ (unsaid u) := by
    refine Inquires.store.bind fun s => ?_
    split
    · exact Inquires.store.bind fun _ => .pure _
    split
    · exact inquires_writtenSignature ..
    refine (inquires_getMember v _).bind fun code => ?_
    refine (inquires_isInstance v _).discard.bind fun _ => ?_
    refine (inquires_isInstance v _).discard.bind fun _ => ?_
    refine (inquires_getMember? v _).bind fun annotations => ?_
    refine (inquires_getMember? v _).discard.bind fun _ => (inquires_isInstance ..).bind fun _ => ?_
    refine .ite_bind (inquires_refuse _ fun _ => rfl) fun _ => ?_
    refine (inquires_getMember v _).bind fun _ => (inquires_getMember v _).bind fun _ => ?_
    split
    · exact Inquires.store.bind fun s => by split <;> exact .pure _
    · exact .fail rfl
  clear_value unsaid
  have ofUnrefused (u : Unit) : Inquires w m₀ (unrefused u) := by
    refine (inquires_getMember? v _).bind fun said => ?_
    cases said with
    | none => exact ofUnsaid ()
    | some said =>
      refine Inquires.bind (inquires_saidSignature? v said) fun sig => ?_
      cases sig with
      | some sig => exact .pure _
      | none => exact ofUnsaid ()
  clear_value unrefused
  refine (inquires_isInstance v _).bind fun _ => .ite ?_ (ofUnrefused ())
  refine (inquires_looksLikeFunction v).bind fun _ => ?_
  exact .ite_bind (inquires_refuse _ fun _ => rfl) ofUnrefused

theorem inquires_isBoundMember (v : Value) : Inquires w m₀ (isBoundMember ask v) := by
  unfold isBoundMember
  refine (inquires_isInstanceOfAny v _).bind fun _ => .ite (.pure _) ?_
  refine Inquires.store.bind fun s => (inquires_getMember? ..).bind fun _ => .ite (.pure _) ?_
  exact (inquires_getMember? ..).bind fun _ => .pure _

theorem inquires_isLanguageCallable (v : Value) : Inquires w m₀ (isLanguageCallable ask v) := by
  unfold isLanguageCallable
  refine (inquires_isInstance v _).bind fun _ => .ite (.pure _) ?_
  refine (inquires_isBoundMember v).bind fun _ => .ite (.pure _) ?_
  refine (inquires_isInstanceOfAny v _).bind fun _ => .ite (.pure _) ?_
  exact (inquires_isEqual ..).bind fun _ => .ite (.pure _) (inquires_isEqual ..)

theorem inquires_signatureOfLanguageCallable (v : Value) :
    Inquires w m₀ (signatureOfLanguageCallable ask v) := by
  unfold signatureOfLanguageCallable
  refine (inquires_isLanguageCallable v).bind fun _ => ?_
  refine .ite_bind (inquires_refuse _ fun _ => rfl) fun _ => ?_
  refine (inquires_getMember? v _).bind fun said => ?_
  refine Inquires.bind (inquires_saidSignature? v _) fun sig => ?_
  cases sig with
  | some sig => exact .pure _
  | none => exact inquires_refuse _ fun _ => rfl

theorem inquires_definedMember? (cls : Value) (name : String) :
    Inquires w m₀ (definedMember? ask cls name) := by
  unfold definedMember?
  refine (inquires_getMember? cls name).bind fun member => ?_
  split
  · exact .pure _
  · exact .pure _
  · exact (inquires_isInstanceOfAny ..).bind fun _ => .pure _

theorem inquires_hasItself (cls : Value) (name : String) :
    Inquires w m₀ (hasItself ask cls name) := by
  unfold hasItself
  refine (inquires_getMember cls _).bind fun members => ?_
  exact (Inquires.of_call ..).bind fun _ => inquires_isTrue _

theorem inquires_factory? (cls : Value) : Inquires w m₀ (factory? ask cls) := by
  unfold factory?
  refine (inquires_definedMember? cls _).bind fun made => ?_
  refine (inquires_definedMember? cls _).bind fun initialised => ?_
  refine (inquires_hasItself cls _).bind fun _ => .ite (.pure _) ?_
  exact (inquires_hasItself cls _).bind fun _ => .ite (.pure _) (.pure _)

theorem inquires_saidByClasses? (classes : List Value) :
    Inquires w m₀ (saidByClasses? ask classes) := by
  induction classes with
  | nil => exact .pure _
  | cons cls rest ih =>
    unfold saidByClasses?
    refine (inquires_getMember? cls _).bind fun said => ?_
    split
    · refine Inquires.bind (inquires_saidSignature? cls _) fun sig => ?_
      split
      · exact .pure _
      · exact ih
    · exact ih

theorem inquires_shownAncestry (cls : Value) : Inquires w m₀ (shownAncestry ask cls) :=
  (inquires_getMember cls _).bind fun _ => Inquires.store.bind fun _ => .pure _

theorem inquires_inheritedSignature (cls : Value) :
    Inquires w m₀ (inheritedSignature ask cls) := by
  unfold inheritedSignature
  refine (inquires_shownAncestry cls).bind fun classes => ?_
  refine (inquires_saidByClasses? _).bind fun said => ?_
  cases said with
  | some sig => exact .pure _
  | none =>
    refine (inquires_shownAncestry cls).bind fun classes => ?_
    extract_lets plain finish unlessRefused
    have ofPlain (name : String) : Inquires w m₀ (plain name) := by
      refine (inquires_getMember cls name).bind fun member => ?_
      split <;> exact .pure _
    have ofFinish (isPlain : Bool) : Inquires w m₀ (finish isPlain) :=
      .ite (.pure _) (inquires_refuse _ fun _ => rfl)
    refine .ite_bind (inquires_refuse _ fun _ => rfl) fun _ => ?_
    refine (ofPlain _).bind fun _ => .ite ((ofPlain _).bind ofFinish) ?_
    exact (Inquires.pure _).bind ofFinish

theorem inquires_withoutReceiver (sig : Signature) : Inquires w m₀ (withoutReceiver sig) := by
  unfold withoutReceiver
  split
  · exact .pure _
  · exact .fail rfl

theorem inquires_unwrapped (outermost : Value) (n : Nat) (seen : List Value) (v : Value) :
    Inquires w m₀ (unwrapped ask outermost n seen v) := by
  induction n generalizing seen v with
  | zero => exact inquires_refuse _ fun _ => rfl
  | succ n ih =>
    unfold unwrapped
    refine (inquires_getMember? v _).bind fun _ => .ite (.pure _) ?_
    refine (inquires_getMember? v _).bind fun _ => .ite (.pure _) ?_
    refine (inquires_getMember v _).bind fun inner => ?_
    exact .ite_bind (inquires_refuse _ fun _ => rfl) fun _ => ih _ inner

theorem inquires_refuseSignature (v : Value) : Inquires w m₀ (refuseSignature ask v) :=
  (inquires_isInstance v _).bind fun _ => inquires_refuse _ fun _ => rfl

theorem inquires_signatureWithin (n : Nat) (v : Value) :
    Inquires w m₀ (signatureWithin ask n v) := by
  induction n generalizing v with
  | zero => exact .fail rfl
  | succ n ih =>
    unfold signatureWithin
    refine Inquires.store.bind fun s => ?_
    -- each refusal on the way is followed by the same questions as without it
    extract_lets callable
    have ofCallable (u : Unit) : Inquires w m₀ (callable u) := by
      refine (inquires_isInstance v _).bind fun isMethod => .ite ?_ ?_
      · exact (inquires_getMember ..).bind fun _ => (ih _).bind fun _ => inquires_withoutReceiver _
      refine (inquires_unwrapped ..).bind fun v => ?_
      refine (inquires_isInstance v _).bind fun isMethod => .ite (ih v) ?_
      refine (inquires_getMember? v _).bind fun shown => ?_
      extract_lets whole unsigned
      have ofWhole (u : Unit) : Inquires w m₀ (whole u) := by
        refine (inquires_isInstance v _).bind fun _ => .ite (inquires_signatureOfFunction v) ?_
        refine (inquires_looksLikeFunction v).bind fun _ => .ite (inquires_signatureOfFunction v) ?_
        refine (inquires_isLanguageCallable v).bind fun _ =>
          .ite (inquires_signatureOfLanguageCallable v) ?_
        refine (inquires_isInstance v _).discard.bind fun _ => Inquires.store.bind fun s => ?_
        refine (inquires_isInstance v _).bind fun isClass => .ite ?_ ?_
        · refine (inquires_definedMember? _ _).bind fun operation => ?_
          cases operation with
          | some operation => exact (ih operation).bind fun _ => inquires_withoutReceiver _
          | none =>
            refine (inquires_factory? v).bind fun factory => ?_
            cases factory with
            | some factory => exact (ih factory).bind fun _ => inquires_withoutReceiver _
            | none => exact inquires_inheritedSignature v
        · refine (inquires_isInstanceOfAny v _).bind fun _ => .ite (inquires_refuseSignature v) ?_
          refine (inquires_definedMember? _ _).bind fun operation => ?_
          cases operation with
          | none => exact inquires_refuseSignature v
          | some operation =>
            refine .attempt_bind (ih operation) inquires_withoutReceiver fun e explained => ?_
            exact .ite (inquires_refuse _ fun _ => rfl) (.throw explained)
      clear_value whole
      have ofUnsigned (u : Unit) : Inquires w m₀ (unsigned u) := by
        refine (inquires_getMember? v _).bind fun part => ?_
        cases part with
        | some part => exact (inquires_isInstance part _).discard.bind fun _ => ofWhole _
        | none => exact ofWhole ()
      clear_value unsigned
      cases shown with
      | some shown =>
        refine .ite ?_ (ofUnsigned ())
        exact (inquires_isInstance shown _).discard.bind fun _ =>
          (inquires_refuse _ fun _ => rfl).bind fun _ => ofUnsigned _
      | none => exact ofUnsigned ()
    clear_value callable
    exact .ite_bind (inquires_refuse _ fun _ => rfl) ofCallable

theorem inquires_signatureOf (v : Value) : Inquires w m₀ (signatureOf ask v) :=
  inquires_signatureWithin ..

/-! ### Interfaces -/

theorem inquires_requireLength (v : Value) : Inquires w m₀ (requireLength ask v) := by
  refine (inquires_lengthOf? v).bind fun length => ?_
  cases length with
  | some n => exact .pure _
  | none => exact .fail rfl

theorem inquires_marginOf (lines : List Value) : Inquires w m₀ (marginOf ask lines) := by
  refine .foldlM _ (fun margin line => ?_) none
  refine (inquires_askMethod line _ _).bind fun stripped => ?_
  refine (inquires_requireLength stripped).bind fun content => .ite (.pure _) ?_
  exact (inquires_requireLength line).bind fun _ => .pure _

theorem inquires_lineFrom (line : Value) (place : Int) :
    Inquires w m₀ (lineFrom ask line place) := by
  unfold lineFrom
  refine (inquires_newInt place).bind fun place => ?_
  exact (Inquires.of_call ..).bind fun slice => inquires_itemUnder line slice

theorem inquires_withoutFalse (items : List Value) :
    Inquires w m₀ (withoutFalse ask items) := by
  induction items with
  | nil => exact .pure _
  | cons v rest ih => exact (inquires_isTrue v).bind fun _ => .ite (.pure _) ih

theorem inquires_askedRows (list : Value) : Inquires w m₀ (askedRows ask list) := by
  unfold askedRows
  refine Inquires.store.bind fun s => ?_
  extract_lets lines changed strip
  have ofChanged (lines : List Value) : Inquires w m₀ (changed lines) :=
    (inquires_setContent ..).bind fun _ => .pure _
  clear_value changed
  have ofStrip (lines : List Value) : Inquires w m₀ (strip lines) := by
    refine (inquires_withoutFalse _).bind fun kept => (ofChanged _).bind fun lines => ?_
    refine (inquires_withoutFalse _).bind fun kept => (ofChanged _).bind fun lines => ?_
    refine .mapM _ fun line => Inquires.store.bind fun s => ?_
    split
    · exact .pure _
    · exact .fail rfl
  refine (inquires_marginOf _).bind fun margin => ?_
  refine (Inquires.mapM _ fun line => inquires_askMethod line _ _).bind fun first => ?_
  refine (ofChanged _).bind fun lines => ?_
  cases margin with
  | none => exact (Inquires.pure _).bind ofStrip
  | some margin =>
    refine (Inquires.mapM _ fun line => inquires_lineFrom line margin).bind fun rest => ?_
    exact (ofChanged _).bind ofStrip

theorem inquires_cleanedRowsOf (lines : Value) : Inquires w m₀ (cleanedRowsOf ask lines) := by
  unfold cleanedRowsOf
  refine Inquires.store.bind fun s => .ite (inquires_askedRows lines) ?_
  exact .ite (.pure _) (.fail rfl)

theorem inquires_cleanedDoc? (doc : Value) : Inquires w m₀ (cleanedDoc? ask doc) := by
  unfold cleanedDoc?
  split
  · exact .pure _
  refine (inquires_isInstance doc _).bind fun _ => .ite (.pure _) ?_
  refine (inquires_askMethod doc _ _).bind fun stripped => ?_
  refine (inquires_isTrue stripped).bind fun _ => .ite (.pure _) ?_
  refine (inquires_askMethod doc _ _).bind fun expanded => ?_
  split
  · exact (Inquires.pure _).bind fun _ => .pure _
  · refine (inquires_askMethod ..).bind fun lines => ?_
    exact (inquires_cleanedRowsOf lines).bind fun _ => .pure _

theorem inquires_interfaceOf (v : Value) : Inquires w m₀ (interfaceOf ask v) := by
  refine Inquires.inFunction ?_ ..
  refine Inquires.store.bind fun s => .ite (.pure _) ?_
  refine (inquires_signatureOf v).orUnfit.bind fun sig => ?_
  cases sig with
  | none => exact .pure _
  | some sig =>
    refine (inquires_getMember? v _).bind fun doc => ?_
    exact (inquires_cleanedDoc? _).bind fun _ => .pure _

theorem inquires_checkable? (v : Value) : Inquires w m₀ (checkable? ask v) :=
  (inquires_interfaceOf v).bind fun _ => .pure _

theorem inquires_callableName (v : Value) : Inquires w m₀ (callableName ask v) := by
  refine Inquires.inFunction ?_ ..
  refine (inquires_getMember? v _).bind fun qualified => ?_
  refine (inquires_isTrue _).bind fun _ => .ite (.pure _) ?_
  exact (inquires_getMember? v _).bind fun _ => .pure _

theorem inquires_textIn (v : Value) : Inquires w m₀ (textIn ask v) := by
  unfold textIn
  split
  · exact .pure _
  · exact .pure _
  · exact (Inquires.of_call ..).bind fun _ => Inquires.store.bind fun _ => .pure _

theorem inquires_classNameOf (v : Value) : Inquires w m₀ (classNameOf ask v) := by
  have ofName (cls : Value) : Inquires w m₀ (do
      let name ← getMember ask cls "__name__"
      return (← Run.store).wording name) :=
    (inquires_getMember cls _).bind fun _ => Inquires.store.bind fun _ => .pure _
  refine Inquires.inFunction ?_ ..
  refine (inquires_isInstance v _).bind fun _ => .ite ((Inquires.pure v).bind ofName) ?_
  exact (inquires_getMember v _).bind ofName

theorem inquires_typeNameAmong (v : Value) (types : List ScalarType) :
    Inquires w m₀ (typeNameAmong ask v types) := by
  induction types with
  | nil => exact inquires_classNameOf v
  | cons t rest ih => exact (inquires_isInstance v _).bind fun _ => .ite (.pure _) ih

theorem inquires_typeNameOf (v : Value) : Inquires w m₀ (typeNameOf ask v) :=
  (inquires_typeNameAmong ..).inFunction ..

/-! ### The running definition -/

theorem inquires_placeOf? (v : Value) : Inquires w m₀ (placeOf? ask v) := by
  unfold placeOf?
  refine Inquires.store.bind fun s => ?_
  split
  · exact .pure _
  · refine .ite (.pure _) ((inquires_getMember? ..).bind fun code => ?_)
    split <;> exact .pure _

theorem inquires_runs (place : Nat) (v : Value) : Inquires w m₀ (runs ask place v) :=
  (inquires_placeOf? v).bind fun _ => .pure _

theorem inquires_ancestryShown (cls : Value) : Inquires w m₀ (ancestryShown ask cls) := by
  unfold ancestryShown
  refine Inquires.store.bind fun s => ?_
  split
  · exact .pure _
  · refine (inquires_getMember ..).bind fun shown => Inquires.store.bind fun s => ?_
    split
    · exact .pure _
    · exact .pure _
    · exact .fail rfl

theorem inquires_ownMemberShown? (cls : Value) (name : String) :
    Inquires w m₀ (ownMemberShown? ask cls name) := by
  unfold ownMemberShown?
  refine Inquires.store.bind fun s => ?_
  split
  · exact .pure _
  · exact (inquires_getMember ..).bind fun _ => Inquires.store.bind fun _ => .pure _

theorem inquires_offers? (member : Value) : Inquires w m₀ (offers? ask member) := by
  unfold offers?
  refine (inquires_isInstanceOfAny member _).bind fun _ => .ite ?_ ?_
  · exact (inquires_getMember member _).bind fun _ => .pure _
  refine (inquires_isInstance member _).bind fun _ => .ite ?_ ?_
  · refine (inquires_getMember member _).bind fun setter => ?_
    exact (inquires_getMember member _).bind fun getter => .pure _
  · exact Inquires.store.bind fun _ => .pure _

theorem inquires_offeredAmong (name : String) (place : Option Nat) (first : Option Value)
    (classes : List Value) : Inquires w m₀ (offeredAmong ask name place first classes) := by
  induction classes generalizing first with
  | nil => exact .pure _
  | cons cls rest ih =>
    unfold offeredAmong
    refine (inquires_ownMemberShown? cls name).bind fun shown => ?_
    split
    · exact ih _
    · refine (inquires_offers? _).bind fun offers => ?_
      extract_lets offered here choose
      have ofChoose (found : Option Value) : Inquires w m₀ (choose found) := by
        cases found with
        | some f => exact .pure _
        | none => exact ih _
      clear_value choose
      cases place with
      | none => exact (Inquires.pure _).bind ofChoose
      | some place => exact (Inquires.findM? _ fun f => inquires_runs place f).bind ofChoose

theorem inquires_offered (cls : Value) (name : String) (place : Option Nat) :
    Inquires w m₀ (offered ask cls name place) :=
  .inFunction ((inquires_ancestryShown cls).bind fun _ => inquires_offeredAmong ..) ..

theorem inquires_offeredRunning (cls : Value) (name : String) (place : Nat) :
    Inquires w m₀ (offeredRunning ask cls name place) := by
  unfold offeredRunning
  refine (inquires_offered ..).bind fun found => ?_
  cases found with
  | some f => exact (inquires_runs place f).bind fun _ => .pure _
  | none => exact .pure _

theorem inquires_countsAsClass (v : Value) : Inquires w m₀ (countsAsClass ask v) := by
  unfold countsAsClass
  split
  · exact .pure _
  · exact inquires_isInstance ..

theorem inquires_resolve (owner : Value) (method : Option String) :
    Inquires w m₀ (resolve ask owner method) := by
  refine Inquires.inFunction ?_ ..
  split
  · exact .pure _
  · exact .pure _
  · refine (inquires_countsAsClass _).bind fun _ => .ite (inquires_offered ..) ?_
    refine (inquires_getMember? ..).bind fun member => ?_
    cases member with
    | some m => exact Inquires.store.bind fun _ => .pure _
    | none => exact .pure _

/-! ### The running call -/

theorem inquires_globalRunning (frame : Frame) (name : String) (place : Nat) :
    Inquires w m₀ (globalRunning ask frame name place) := by
  unfold globalRunning
  refine Inquires.store.bind fun s => ?_
  split
  · exact (inquires_runs ..).bind fun _ => .pure _
  · exact .pure _

theorem inquires_receiverOffers (locals : Bindings Value) (name : String) (place : Nat) :
    Inquires w m₀ (receiverOffers ask locals name place) := by
  unfold receiverOffers
  split
  · exact Inquires.store.bind fun _ => inquires_offered ..
  · exact .pure _

theorem inquires_classOffers (locals : Bindings Value) (name : String) (place : Nat) :
    Inquires w m₀ (classOffers ask locals name place) := by
  unfold classOffers
  split
  · exact .pure _
  · exact (inquires_countsAsClass _).bind fun _ => .ite (inquires_offered ..) (.pure _)

theorem inquires_classesOffer (name : String) (place : Nat) (values : List Value) :
    Inquires w m₀ (classesOffer ask name place values) := by
  induction values with
  | nil => exact .pure _
  | cons v rest ih =>
    unfold classesOffer
    refine (inquires_countsAsClass v).bind fun _ => .ite ih ?_
    refine (inquires_ownMemberShown? v name).bind fun _ => .ite ih ?_
    refine (inquires_offeredRunning v name place).bind fun found => ?_
    cases found with
    | some f => exact .pure _
    | none => exact ih

theorem inquires_valuesHold (name : String) (place : Nat) (values : List Value) :
    Inquires w m₀ (valuesHold ask name place values) := by
  induction values with
  | nil => exact .pure _
  | cons v rest ih =>
    unfold valuesHold
    refine (inquires_runs place v).bind fun _ => .ite (.pure _) ?_
    refine (inquires_countsAsClass v).bind fun _ => .ite ih ?_
    refine (inquires_offeredRunning v name place).bind fun found => ?_
    cases found with
    | some f => exact .pure _
    | none => exact ih

theorem inquires_framesHold (name : String) (place : Nat) (frames : List Frame) :
    Inquires w m₀ (framesHold ask name place frames) := by
  induction frames with
  | nil => exact .pure _
  | cons frame rest ih =>
    unfold framesHold
    refine (inquires_listLocals frame).bind fun locals => ?_
    refine (inquires_valuesHold name place _).bind fun found => ?_
    cases found with
    | some f => exact .pure _
    | none => exact ih

theorem inquires_globalCallable (frame : Frame) (name : String) :
    Inquires w m₀ (globalCallable frame name) :=
  Inquires.store.bind fun _ => .pure _

theorem inquires_firstFound {searches : List (Run (Option Value))}
    (h : ∀ search ∈ searches, Inquires w m₀ search) :
    Inquires w m₀ (firstFound searches) := by
  induction searches with
  | nil => exact .pure _
  | cons search rest ih =>
    unfold firstFound
    refine (h search (List.mem_cons_self ..)).bind fun found => ?_
    cases found with
    | some f => exact .pure _
    | none => exact ih fun other mem => h other (List.mem_cons_of_mem _ mem)

theorem inquires_runningFunction (frame : Frame) (around : List Frame) (locals : Bindings Value)
    (name : String) (place : Nat) :
    Inquires w m₀ (runningFunction ask frame around locals name place) := by
  refine .inFunction (inquires_firstFound fun search mem => ?_) ..
  simp only [List.mem_cons, List.not_mem_nil, or_false] at mem
  rcases mem with rfl | rfl | rfl | rfl | rfl | rfl
  · exact inquires_globalRunning frame name place
  · exact inquires_receiverOffers locals name place
  · exact inquires_classOffers locals name place
  · exact Inquires.store.bind fun _ => inquires_classesOffer name place _
  · exact inquires_framesHold name place (frame :: around)
  · exact inquires_globalCallable frame name

theorem inquires_registeredModule (frame : Frame) :
    Inquires w m₀ (registeredModule ask frame) := by
  unfold registeredModule
  split
  · exact .pure _
  · refine Inquires.store.bind fun s => (inquires_requireKey _).bind fun _ => ?_
    refine Inquires.store.bind fun s => ?_
    split
    · exact .pure _
    · exact .ite (.pure _) (.pure _)

theorem inquires_ownerOf (frame : Frame) (locals : Bindings Value) :
    Inquires w m₀ (ownerOf ask frame locals) := by
  refine Inquires.inFunction ?_ ..
  split
  · exact Inquires.store.bind fun _ => .pure _
  · refine (inquires_isInstance ..).bind fun _ => .ite (.pure _) ?_
    exact inquires_registeredModule frame
  · exact inquires_registeredModule frame

theorem inquires_signatureShown (func : Value) : Inquires w m₀ (signatureShown ask func) :=
  .inFunction ((inquires_signatureOf func).orUnfit.bind fun _ => .pure _) ..

theorem inquires_callIn (frame : Frame) (around : List Frame) (name : String) (place : Nat) :
    Inquires w m₀ (callIn ask frame around name place) := by
  refine (inquires_listLocals frame).bind fun locals => ?_
  refine (inquires_runningFunction ..).bind fun found => ?_
  cases found with
  | none => exact .pure _
  | some func =>
    refine (inquires_ownerOf frame locals).bind fun owner => ?_
    refine (inquires_interfaceOf func).bind fun interface => ?_
    exact (inquires_signatureShown func).bind fun _ => .pure _

theorem inquires_runningCallAt (frames : List Frame) :
    Inquires w m₀ (runningCallAt ask frames) := by
  refine Inquires.inFunction ?_ ..
  split
  · exact .pure _
  · exact .pure _
  · split
    · exact .pure _
    · exact (inquires_callIn ..).bind fun _ => .pure _

theorem inquires_runningCall (stack : List Frame) (depth : Int) :
    Inquires w m₀ (runningCall ask stack depth) :=
  inquires_runningCallAt _

/-! ### Checks -/

theorem inquires_findIn (names : List String) (found : Tag × Value) :
    Inquires w m₀ (findIn ask names found) :=
  (inquires_typeNameOf _).bind fun _ => .pure _

theorem inquires_extractIn (styles : List Style) (doc : Option String) (names : List String)
    (args : List Value) : Inquires w m₀ (extractIn ask styles doc names args) :=
  .inFunction (.mapM _ fun _ => inquires_findIn ..) ..

theorem inquires_loggedName? (place : Value) : Inquires w m₀ (loggedName? ask place) := by
  unfold loggedName?
  refine (inquires_isTrue place).bind fun _ => .ite ?_ (.pure _)
  exact (inquires_textIn place).bind fun _ => .pure _

theorem inquires_saidName? (place : Value) : Inquires w m₀ (saidName? ask place) := by
  unfold saidName?
  refine (inquires_isTrue place).bind fun _ => .ite (.pure _) ?_
  split
  · exact .pure _
  · exact (Inquires.of_call ..).bind fun _ => Inquires.store.bind fun _ => .pure _

theorem inquires_mismatchAt (place : Value) (v : Violation) :
    Inquires w m₀ (mismatchAt ask place v) :=
  .within ((inquires_saidName? place).bind fun _ => .pure _) _

theorem inquires_calledFunction (c : RunningCall) : Inquires w m₀ (calledFunction ask c) := by
  unfold calledFunction
  split
  · exact (inquires_isTrue _).bind fun _ => .ite (.pure _) (inquires_resolve ..)
  · exact inquires_resolve ..

end DocGuard

import DocGuard.Proofs.Verdict
/-!
Which options are refused, and with what.

Style names are refused if there are none, or else if some are no styles; these are then all told,
each once and in increasing order (`Style.Refuses`). A check looks at its reaction to a mismatch
first, and at the styles only if that has a meaning (`CheckOptions.Refuses`). Whatever else there is
to a check plays no part: it is refused in exactly the same cases and with the same error.
-/

namespace DocGuard

namespace Style

/-- Some names are those among others that are no styles, in increasing order. -/
structure AreUnknown (unknown names : List String) : Prop where
  increasing : unknown.Pairwise (· < ·)
  mem_iff : ∀ name, name ∈ unknown ↔ name ∈ names ∧ ∀ style : Style, style.name ≠ name

/-- The names of styles are refused, and with this error. -/
inductive Refuses (names : List String) : OptionError → Prop
  | noStyle (none : names = []) : Refuses names .noStyle
  | unknownStyles {unknown : List String} (some : unknown ≠ []) (are : AreUnknown unknown names) :
      Refuses names (.unknownStyles unknown)

variable {names : List String} {styles : List Style} {e : OptionError}

theorem isNone_ofName?_iff {name : String} :
    (ofName? name).isNone = true ↔ ∀ style : Style, style.name ≠ name := by
  rw [Option.isNone_iff_eq_none]
  constructor
  · rintro h style rfl
    rw [ofName?_name] at h
    cases h
  · intro h
    refine List.find?_eq_none.2 fun style _ => ?_
    simpa using h style

/-- The names that are told are those that are no styles. -/
theorem areUnknown_sortStrings (names : List String) :
    AreUnknown (sortStrings (names.eraseDups.filter fun name => (ofName? name).isNone)) names where
  increasing := by
    have distinct :
        (sortStrings (names.eraseDups.filter fun name => (ofName? name).isNone)).Nodup :=
      (sortBy_perm _ _).nodup_iff.2 ((nodup_eraseDups names).filter _)
    exact (pairwise_sortStrings _).imp₂ (fun _ _ => Std.lt_of_le_of_ne) distinct
  mem_iff name := by
    rw [sortStrings, mem_sortBy, List.mem_filter, List.mem_eraseDups, isNone_ofName?_iff]

/-- There is only one list of names to be told. -/
theorem AreUnknown.unique {unknown unknown' : List String} (h : AreUnknown unknown names)
    (h' : AreUnknown unknown' names) : unknown = unknown' := by
  have distinct {l : List String} (h : AreUnknown l names) : l.Nodup :=
    h.increasing.imp fun {a b} (lt : a < b) (e : a = b) => String.lt_irrefl b (e ▸ lt)
  have perm : unknown.Perm unknown' :=
    (List.perm_ext_iff_of_nodup (distinct h) (distinct h')).2 fun name => by
      rw [h.mem_iff, h'.mem_iff]
  exact perm.eq_of_pairwise (fun _ _ _ _ lt lt' => (String.lt_asymm lt lt').elim) h.increasing
    h'.increasing

theorem isEmpty_eraseDups (names : List String) : names.eraseDups.isEmpty = names.isEmpty := by
  cases names with
  | nil => rfl
  | cons name rest => rw [List.eraseDups_cons]; rfl

/-- Names of styles are refused where they should be, and with the error that they should. -/
theorem ofNames_eq_error_iff : ofNames names = .error e ↔ Refuses names e := by
  have are := areUnknown_sortStrings names
  have told : sortStrings (names.eraseDups.filter fun name => (ofName? name).isNone) = []
      ↔ (names.eraseDups.filter fun name => (ofName? name).isNone).isEmpty = true := by
    rw [List.isEmpty_iff, ← List.length_eq_zero_iff, sortStrings, (sortBy_perm _ _).length_eq,
      List.length_eq_zero_iff]
  simp only [ofNames, isEmpty_eraseDups]
  split
  next none =>
    -- no style at all is refused before unknown ones are looked for
    have none := List.isEmpty_iff.1 none
    constructor
    · rintro ⟨⟩
      exact .noStyle none
    · rintro (_ | ⟨some, given⟩)
      · rfl
      · obtain ⟨name, hname⟩ := List.exists_mem_of_ne_nil _ some
        rw [given.mem_iff, none] at hname
        cases hname.1
  next some =>
    split
    next known =>
      constructor
      · rintro ⟨⟩
      · rintro (none | ⟨some', given⟩)
        · exact absurd (List.isEmpty_iff.2 none) some
        · exact absurd (given.unique are ▸ told.2 known) some'
    next unknown =>
      constructor
      · rintro ⟨⟩
        exact .unknownStyles (fun none => unknown (told.1 none)) are
      · rintro (none | ⟨-, given⟩)
        · exact absurd (List.isEmpty_iff.2 none) some
        · rw [given.unique are]

/-- Names that are all known are those of the styles found. -/
theorem map_name_filterMap_ofName? {l : List String}
    (known : ∀ name ∈ l, (ofName? name).isNone = false) : (l.filterMap ofName?).map name = l := by
  induction l with
  | nil => rfl
  | cons name rest ih =>
    have others := ih fun other h => known other (List.mem_cons_of_mem _ h)
    rcases found : ofName? name with _ | style
    · exact absurd (known name (List.mem_cons_self ..)) (by simp [found])
    · rw [List.filterMap_cons_some found, List.map_cons, others, name_of_ofName? found]

/-- What is named again does not matter. -/
theorem ofNames_eraseDups (names : List String) : ofNames names.eraseDups = ofNames names := by
  rw [ofNames, eraseDups_of_nodup (nodup_eraseDups names)]
  rfl

/-- Styles that are found are distinct, in the order in which they were named first, and they are
found again under their own names. -/
theorem of_ofNames (h : ofNames names = .ok styles) :
    styles.map name = names.eraseDups ∧ styles.Nodup ∧ ofNames (styles.map name) = .ok styles := by
  have found := h
  simp only [ofNames] at found
  split at found
  next => cases found
  next =>
    split at found
    next known =>
      cases found
      have known : ∀ name ∈ names.eraseDups, (ofName? name).isNone = false := by
        intro name hname
        exact Bool.eq_false_iff.2 (List.filter_eq_nil_iff.1 (List.isEmpty_iff.1 known) name hname)
      have named := map_name_filterMap_ofName? known
      have distinct : (List.map name (names.eraseDups.filterMap ofName?)).Nodup := by
        rw [named]
        exact nodup_eraseDups names
      refine ⟨named, List.Pairwise.of_map name (fun _ _ ne e => ne (congrArg name e)) distinct, ?_⟩
      rw [named, ofNames_eraseDups, h]
    next => cases found

/-- Names are refused exactly if they are not known. -/
theorem exists_refuses_iff : (∃ e, Refuses names e) ↔ ¬ AreKnown names := by
  constructor
  · rintro ⟨e, refused⟩ known
    obtain ⟨styles, found, -⟩ := exists_ofNames_eq known
    rw [← ofNames_eq_error_iff, found] at refused
    cases refused
  · intro unknown
    by_cases none : names = []
    · exact ⟨_, .noStyle none⟩
    · refine ⟨_, .unknownStyles (fun nothing => unknown ⟨none, fun name h => ?_⟩)
        (areUnknown_sortStrings names)⟩
      by_contra missing
      have told := ((areUnknown_sortStrings names).mem_iff name).2
        ⟨h, fun style e => missing ⟨style, e⟩⟩
      rw [nothing] at told
      cases told

end Style

/-! ### Reactions -/

theorem OnMismatch.ofName_eq_ok_iff {given : Option String} {reaction : OnMismatch} :
    ofName given = .ok reaction ↔ given = some reaction.name := by
  constructor
  · intro h
    rw [ofName] at h
    split at h
    · cases h
      assumption
    · split at h
      · cases h
        assumption
      · cases h
  · rintro rfl
    exact ofName_name reaction

theorem OnMismatch.ofName_eq_error_iff {given : Option String} {e : OptionError} :
    ofName given = .error e
      ↔ (∀ reaction : OnMismatch, given ≠ some reaction.name) ∧ e = .unknownReaction given := by
  constructor
  · intro h
    refine ⟨fun reaction named => ?_, ?_⟩
    · rw [named, ofName_name] at h
      cases h
    · rw [ofName] at h
      split at h
      · cases h
      · split at h
        · cases h
        · exact (Except.error.inj h).symm
  · rintro ⟨unnamed, rfl⟩
    rw [ofName, if_neg (unnamed .fail), if_neg (unnamed .warn)]

/-! ### Options -/

/-- The options of a check are refused, and with this error. -/
inductive CheckOptions.Refuses (styleNames : List String) (reaction : Option String) :
    OptionError → Prop
  /-- The reaction has no meaning, whatever the styles are. -/
  | unknownReaction (unnamed : ∀ named : OnMismatch, reaction ≠ some named.name) :
      Refuses styleNames reaction (.unknownReaction reaction)
  /-- The reaction has a meaning, but the styles are refused. -/
  | styles {named : OnMismatch} {e : OptionError} (known : reaction = some named.name)
      (refused : Style.Refuses styleNames e) : Refuses styleNames reaction e

namespace CheckOptions

variable {styleNames : List String} {reaction : Option String} {e : OptionError}

/-- Options are refused where they should be, and with the error that they should. -/
theorem ofNames_eq_error_iff :
    ofNames styleNames reaction = .error e ↔ Refuses styleNames reaction e := by
  rcases named : OnMismatch.ofName reaction with e' | r
  · -- the styles are not looked at
    obtain ⟨unnamed, rfl⟩ := OnMismatch.ofName_eq_error_iff.1 named
    rw [ofNames, named]
    constructor
    · rintro ⟨⟩
      exact .unknownReaction unnamed
    · rintro (_ | ⟨known, -⟩)
      · rfl
      · exact absurd known (unnamed _)
  · have known := OnMismatch.ofName_eq_ok_iff.1 named
    have rest : ofNames styleNames reaction = .error e ↔ Style.ofNames styleNames = .error e := by
      rw [ofNames, named]
      rcases Style.ofNames styleNames with _ | _ <;> simp [bind, Except.bind, pure, Except.pure]
    rw [rest, Style.ofNames_eq_error_iff]
    constructor
    · exact .styles known
    · rintro (unnamed | ⟨-, refused⟩)
      · exact absurd known (unnamed r)
      · exact refused

/-- Options are refused exactly if the reaction has no meaning or some style is not known. -/
theorem exists_refuses_iff : (∃ e, Refuses styleNames reaction e)
    ↔ (reaction ≠ some "raise" ∧ reaction ≠ some "warn") ∨ ¬ Style.AreKnown styleNames := by
  constructor
  · rintro ⟨e, unnamed | ⟨-, refused⟩⟩
    · exact .inl ⟨unnamed .fail, unnamed .warn⟩
    · exact .inr (Style.exists_refuses_iff.1 ⟨e, refused⟩)
  · intro wrong
    by_cases unnamed : ∀ named : OnMismatch, reaction ≠ some named.name
    · exact ⟨_, .unknownReaction unnamed⟩
    · push Not at unnamed
      obtain ⟨named, known⟩ := unnamed
      have unknown : ¬ Style.AreKnown styleNames := by
        refine wrong.resolve_left fun ⟨notFail, notWarn⟩ => ?_
        cases named
        · exact notFail known
        · exact notWarn known
      obtain ⟨e, refused⟩ := Style.exists_refuses_iff.2 unknown
      exact ⟨e, .styles known refused⟩

end CheckOptions

/-! ### Entry points -/

section Entries

variable {styleNames names : List String} {e : OptionError}

/-- A check of explicit arguments is refused for its options only. -/
theorem check_eq_error_iff {reaction place doc : Option String} {args : List Value} :
    check styleNames reaction place doc names args = .error e
      ↔ CheckOptions.Refuses styleNames reaction e := by
  rw [← CheckOptions.ofNames_eq_error_iff, check]
  rcases CheckOptions.ofNames styleNames reaction with _ | _ <;> simp [Except.map]

/-- Looking for what documentation says of some arguments is refused for its styles only. -/
theorem Finding.extract_eq_error_iff {doc : Option String} {args : List Value} :
    extract doc names args styleNames = .error e ↔ Style.Refuses styleNames e := by
  rw [← Style.ofNames_eq_error_iff, extract]
  rcases Style.ofNames styleNames with _ | _ <;> simp [Except.map]

/-- Looking for tags is refused if there are no names to look for, and else for its styles. -/
theorem Tag.search_eq_error_iff {text : String} :
    search names styleNames text = .error e
      ↔ names = [] ∧ e = .noName ∨ names ≠ [] ∧ Style.Refuses styleNames e := by
  rw [← Style.ofNames_eq_error_iff, search]
  cases names with
  | nil => simp [throw, throwThe, MonadExceptOf.throw, bind, Except.bind, eq_comm]
  | cons name rest =>
    rcases Style.ofNames styleNames with _ | _ <;> simp [bind, Except.bind, pure, Except.pure]

end Entries

end DocGuard

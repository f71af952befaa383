import DocGuard.Proofs.Finding
import DocGuard.Proofs.Tag.Reading
import DocGuard.Verdict
import Mathlib.Data.List.Basic
/-!
What the verdict on some arguments depends on.

Of the styles and the parameter names that a check is given, it matters which they are, and of the
arguments, which type the one in the place of each name has, if there is one (`SameFacts`). Order
and repetitions of styles and names, arguments without a parameter and the arguments themselves do
not matter.

For the tags this follows from the grammar, which speaks of styles and names only as members of what
is given: a text has one list of tags (`Tag.IsScan.eq`), so that a scan that tries names of equal
length in another order finds the same (`Tag.scan_eq_all`). From there on each stage is shown to
look at no more than the stage before it has fixed.
-/

namespace DocGuard

/-! ### Lists without repetition, and sorted ones -/

section Lists

variable {α : Type}

theorem nodup_eraseDups [DecidableEq α] (l : List α) : l.eraseDups.Nodup := by
  induction h : l.length using Nat.strongRecOn generalizing l with
  | _ n ih =>
    cases l with
    | nil => simp
    | cons a l =>
      have shorter : (l.filter fun b => !b == a).length < n := by
        have := List.length_filter_le (fun b => !b == a) l
        rw [List.length_cons] at h
        omega
      rw [List.eraseDups_cons, List.nodup_cons]
      exact ⟨by simp, ih _ shorter _ rfl⟩

/-- A list without repetition has none to lose. -/
theorem eraseDups_of_nodup [DecidableEq α] {l : List α} (h : l.Nodup) : l.eraseDups = l := by
  induction l with
  | nil => rfl
  | cons a l ih =>
    obtain ⟨fresh, rest⟩ := List.nodup_cons.1 h
    have others : (l.filter fun b => !b == a) = l := by
      refine List.filter_eq_self.2 fun b hb => ?_
      have ne : b ≠ a := fun e => fresh (e ▸ hb)
      simpa using ne
    rw [List.eraseDups_cons, others, ih rest]

/-- Sorting leaves a list alone that is in order. -/
theorem sortBy_of_pairwise {le : α → α → Bool} {l : List α}
    (h : l.Pairwise fun a b => le a b) : sortBy le l = l := by
  induction l with
  | nil => rfl
  | cons a l ih =>
    obtain ⟨first, rest⟩ := List.pairwise_cons.1 h
    rw [sortBy, ih rest]
    cases l with
    | nil => rfl
    | cons b l => rw [insertBy, if_pos (first b List.mem_cons_self)]

/-- Lists of the same strings are sorted alike. -/
theorem sortStrings_eq_of_perm {l l' : List String} (h : l.Perm l') :
    sortStrings l = sortStrings l' := by
  have sorted : (sortStrings l).Perm (sortStrings l') :=
    (sortBy_perm _ l).trans (h.trans (sortBy_perm _ l').symm)
  exact sorted.eq_of_pairwise (fun _ _ _ _ => String.le_antisymm) (pairwise_sortStrings l)
    (pairwise_sortStrings l')

/-- Lists with the same members are the same, but for repetitions and order. -/
theorem perm_eraseDups [DecidableEq α] {l l' : List α} (h : ∀ a, a ∈ l ↔ a ∈ l') :
    l.eraseDups.Perm l'.eraseDups := by
  rw [List.perm_ext_iff_of_nodup (nodup_eraseDups l) (nodup_eraseDups l')]
  intro a
  rw [List.mem_eraseDups, List.mem_eraseDups, h]

end Lists

/-! ### Styles -/

/-- Style names with the same members are refused alike, or name the same styles. -/
theorem Style.ofNames_congr {names names' : List String} (h : ∀ name, name ∈ names ↔ name ∈ names') :
    (∃ e, ofNames names = .error e ∧ ofNames names' = .error e)
      ∨ ∃ styles styles', ofNames names = .ok styles ∧ ofNames names' = .ok styles'
        ∧ ∀ style, style ∈ styles ↔ style ∈ styles' := by
  have perm := perm_eraseDups h
  have empty : names.eraseDups.isEmpty = names'.eraseDups.isEmpty := perm.isEmpty_eq
  have unknown := perm.filter fun name => (ofName? name).isNone
  simp only [ofNames, ← empty, ← unknown.isEmpty_eq, ← sortStrings_eq_of_perm unknown]
  split
  · exact .inl ⟨_, rfl, rfl⟩
  · split
    · exact .inr ⟨_, _, rfl, rfl, fun style => (perm.filterMap ofName?).mem_iff⟩
    · exact .inl ⟨_, rfl, rfl⟩

/-- What is done with the styles named is done alike if it is done alike for the same styles. -/
theorem Style.map_ofNames_congr {β : Type} {names names' : List String} {f g : List Style → β}
    (h : ∀ name, name ∈ names ↔ name ∈ names')
    (same : ∀ styles styles', (∀ style, style ∈ styles ↔ style ∈ styles') → f styles = g styles') :
    (ofNames names).map f = (ofNames names').map g := by
  rcases Style.ofNames_congr h with
    ⟨e, found, found'⟩ | ⟨styles, styles', found, found', hstyles⟩
  · rw [found, found', Except.map, Except.map]
  · rw [found, found', Except.map, Except.map, same styles styles' hstyles]

/-! ### Tags -/

namespace Tag

variable {styles styles' : List Style} {names names' order : List String} {text : List Char}
  {offset : Nat} {tags : List Tag} {l : Layout}

theorem wanted_congr (hstyles : ∀ style, style ∈ styles ↔ style ∈ styles')
    (hnames : ∀ name, name ∈ names ↔ name ∈ names') (l : Layout) :
    Wanted styles names l ↔ Wanted styles' names' l := by
  rw [Wanted, Wanted, hstyles, hnames]

/-- The grammar speaks of styles and names only as members of what is given. -/
theorem IsScan.congr (hstyles : ∀ style, style ∈ styles ↔ style ∈ styles')
    (hnames : ∀ name, name ∈ names ↔ name ∈ names') (h : IsScan styles names text offset tags) :
    IsScan styles' names' text offset tags := by
  have wanted := wanted_congr hstyles hnames
  refine ⟨fun tag htag => ?_, h.covers, h.apart, fun l start le hl fits => ?_⟩
  · obtain ⟨l, written⟩ := h.written tag htag
    exact ⟨l, (wanted l).1 written.wanted, written.fits, written.eq,
      fun l' hl' => written.longest l' ((wanted l').2 hl'), written.only⟩
  · exact h.noneMissed l start le ((wanted l).2 hl) fits

/-- A search for the same styles and names finds the same tags. -/
theorem all_congr (hstyles : ∀ style, style ∈ styles ↔ style ∈ styles')
    (hnames : ∀ name, name ∈ names ↔ name ∈ names') (text : List Char) :
    all styles names text = all styles' names' text :=
  ((isScan_all styles names text).congr hstyles hnames).eq (isScan_all styles' names' text)

/-- Names of equal length may be tried in any order. -/
theorem scan_eq_all (distinct : order.Nodup) (hnames : ∀ name, name ∈ order ↔ name ∈ names)
    (longer : order.Pairwise fun a b => b.length ≤ a.length) (styles : List Style)
    (text : List Char) : scan styles order none 0 0 text = all styles names text := by
  have sorted : longestFirst order = order := by
    rw [longestFirst, eraseDups_of_nodup distinct]
    exact sortBy_of_pairwise (by simpa using longer)
  rw [← all_congr (fun _ => Iff.rfl) hnames text, all, sorted]

/-- A search needs a name and known styles, and then finds all tags. -/
theorem map_search (names styleNames : List String) (text : String) :
    (search names styleNames text).map Prod.snd = if names.isEmpty then .error .noName
      else (Style.ofNames styleNames).map fun styles => all styles names text.toList := by
  rw [search]
  cases names.isEmpty with
  | true => rfl
  | false => cases Style.ofNames styleNames <;> rfl

end Tag

/-! ### Findings -/

namespace Finding

variable {findings findings' : List Finding} {styles styles' : List Style}
  {names names' : List String} {args args' : List Value}

/-- What a finding says, in whichever place the parameter stands. -/
def withoutPlace (f : Finding) : String × String × String :=
  (f.name, f.expected, f.actual)

/-- The type of the argument in the place of the first parameter of this name, unless it is absent.
-/
def typeAt? (names : List String) (args : List Value) (name : String) : Option String :=
  (argument? names args name).map Value.typeName

/-- The findings of a docstring take from the arguments only their types. -/
theorem map_withoutPlace_ofDoc (doc : String) :
    (ofDoc styles (some doc) names args).map withoutPlace
      = ((Tag.all styles names doc.toList).filter (counts (Section.all doc.toList))).filterMap
        fun tag => (typeAt? names args tag.name).map fun type =>
          (tag.name, ScalarType.canonicalName tag.token, type) := by
  rw [ofDoc_some, List.map_filterMap]
  simp only [typeAt?, Option.map_map]
  rfl

/-- Only what is asked for is found. -/
theorem mem_names_of_mem_all {tag : Tag} {text : List Char}
    (h : tag ∈ Tag.all styles names text) : tag.name ∈ names := by
  obtain ⟨l, written⟩ := (Tag.isScan_all styles names text).written tag h
  rw [written.eq]
  exact written.wanted.2

/-- The same styles and names and the same types find the same, but for the places of the
parameters. -/
theorem map_withoutPlace_congr (hstyles : ∀ style, style ∈ styles ↔ style ∈ styles')
    (hnames : ∀ name, name ∈ names ↔ name ∈ names')
    (htypes : ∀ name ∈ names, typeAt? names args name = typeAt? names' args' name)
    (doc : Option String) : (ofDoc styles doc names args).map withoutPlace
      = (ofDoc styles' doc names' args').map withoutPlace := by
  cases doc with
  | none => rfl
  | some doc =>
    rw [map_withoutPlace_ofDoc, map_withoutPlace_ofDoc, ← Tag.all_congr hstyles hnames]
    refine List.filterMap_congr fun tag htag => ?_
    rw [htypes tag.name (mem_names_of_mem_all (List.mem_filter.1 htag).1)]

theorem map_extract {β : Type} (f : List Finding → β) (doc : Option String) (names : List String)
    (args : List Value) (styleNames : List String) : (extract doc names args styleNames).map f
      = (Style.ofNames styleNames).map fun styles => f (ofDoc styles doc names args) := by
  rw [extract]
  cases Style.ofNames styleNames <;> rfl

/-- The violation in findings of which one knows all but the places. -/
theorem firstViolation?_congr (h : findings.map withoutPlace = findings'.map withoutPlace) :
    firstViolation? findings = firstViolation? findings' := by
  let violationOf? : String × String × String → Option Violation :=
    fun (name, expected, actual) => if expected = actual then none else some ⟨name, expected, actual⟩
  have factors (findings : List Finding) :
      firstViolation? findings = (findings.map withoutPlace).findSome? violationOf? := by
    rw [List.findSome?_map]
    rfl
  rw [factors, factors, h]

end Finding

/-! ### Verdicts -/

theorem Verdict.ofFindings_congr {findings findings' : List Finding}
    (h : findings.map Finding.withoutPlace = findings'.map Finding.withoutPlace)
    (reaction : OnMismatch) (place : Option String) :
    ofFindings reaction place findings = ofFindings reaction place findings' := by
  have empty : findings.isEmpty = findings'.isEmpty := by
    rw [← List.isEmpty_map (f := Finding.withoutPlace), h, List.isEmpty_map]
  rw [ofFindings, ofFindings, empty, Finding.firstViolation?_congr h]

theorem OnMismatch.ofName_name (reaction : OnMismatch) :
    ofName (some reaction.name) = .ok reaction := by
  cases reaction <;> decide

/-- Options are read from names that are known. -/
theorem CheckOptions.ofNames_of_named {styleNames : List String} {styles : List Style}
    (named : Style.ofNames styleNames = .ok styles) (reaction : OnMismatch) :
    CheckOptions.ofNames styleNames (some reaction.name) = .ok ⟨styles, reaction⟩ := by
  rw [CheckOptions.ofNames, OnMismatch.ofName_name, named]
  rfl

/-- A check looks at its reaction, then at its styles, and then judges. -/
theorem check_eq_bind (styleNames : List String) (reaction place doc : Option String)
    (names : List String) (args : List Value) : check styleNames reaction place doc names args
      = (OnMismatch.ofName reaction).bind fun reaction => (Style.ofNames styleNames).map fun styles =>
        judge ⟨styles, reaction⟩ place doc names args := by
  rw [check, CheckOptions.ofNames]
  cases OnMismatch.ofName reaction with
  | error e => rfl
  | ok reaction => cases Style.ofNames styleNames <;> rfl

/-- A check in these styles looks at its reaction, and ends with the verdict on what is found. -/
theorem check_eq_map {styleNames : List String} {styles : List Style}
    (named : Style.ofNames styleNames = .ok styles) (reaction place doc : Option String)
    (names : List String) (args : List Value) : check styleNames reaction place doc names args
      = (OnMismatch.ofName reaction).map fun reaction =>
        .ofFindings reaction place (Finding.ofDoc styles doc names args) := by
  rw [check_eq_bind, named]
  rfl

/-- Two inputs of a check that agree on everything that matters: on which styles and which names are
given, and, for each name, on the type of the argument in the place where the name is first given, or
on its absence. -/
structure SameFacts (styleNames styleNames' names names' : List String)
    (args args' : List Value) : Prop where
  sameStyles : ∀ style, style ∈ styleNames ↔ style ∈ styleNames'
  sameNames : ∀ name, name ∈ names ↔ name ∈ names'
  sameTypes : ∀ name ∈ names, Finding.typeAt? names args name = Finding.typeAt? names' args' name

namespace SameFacts

variable {styleNames styleNames' names names' : List String} {args args' : List Value}

/-- A search finds the same tags, or is refused alike. -/
theorem search_eq (h : SameFacts styleNames styleNames' names names' args args') (text : String) :
    (Tag.search names styleNames text).map Prod.snd
      = (Tag.search names' styleNames' text).map Prod.snd := by
  have empty : names.isEmpty = names'.isEmpty := by
    rw [Bool.eq_iff_iff, List.isEmpty_iff, List.isEmpty_iff, List.eq_nil_iff_forall_not_mem,
      List.eq_nil_iff_forall_not_mem]
    simp only [h.sameNames]
  rw [Tag.map_search, Tag.map_search, empty, Style.map_ofNames_congr h.sameStyles
    fun _ _ same => Tag.all_congr same h.sameNames text.toList]

/-- The findings are the same, but for the places of the parameters. -/
theorem map_extract_eq (h : SameFacts styleNames styleNames' names names' args args')
    (doc : Option String) :
    (Finding.extract doc names args styleNames).map (·.map Finding.withoutPlace)
      = (Finding.extract doc names' args' styleNames').map (·.map Finding.withoutPlace) := by
  rw [Finding.map_extract, Finding.map_extract]
  exact Style.map_ofNames_congr h.sameStyles fun _ _ same =>
    Finding.map_withoutPlace_congr same h.sameNames h.sameTypes doc

/-- The verdict is the same. -/
theorem check_eq (h : SameFacts styleNames styleNames' names names' args args')
    (reaction place doc : Option String) : check styleNames reaction place doc names args
      = check styleNames' reaction place doc names' args' := by
  rw [check_eq_bind, check_eq_bind]
  refine congrArg _ (funext fun reaction => ?_)
  refine Style.map_ofNames_congr h.sameStyles fun styles styles' same => ?_
  exact Verdict.ofFindings_congr
    (Finding.map_withoutPlace_congr same h.sameNames h.sameTypes doc) reaction place

end SameFacts

/-- **Nothing but these facts matters.** A search finds the same tags or is refused alike, whichever
order it tries names of equal length in; the findings are the same, but for the places of the
parameters; and so is the verdict, with all that is logged and warned about. -/
theorem outcome_eq_of_sameFacts {styleNames styleNames' names names' : List String}
    {args args' : List Value} (h : SameFacts styleNames styleNames' names names' args args')
    (doc : Option String) :
    (∀ text, (Tag.search names styleNames text).map Prod.snd
        = (Tag.search names' styleNames' text).map Prod.snd)
      ∧ (∀ styles styles' order text, (∀ style, style ∈ styles ↔ style ∈ styles') → order.Nodup →
        (∀ name, name ∈ order ↔ name ∈ names') →
        (order.Pairwise fun a b => b.length ≤ a.length) →
        Tag.scan styles order none 0 0 text = Tag.all styles' names text)
      ∧ (Finding.extract doc names args styleNames).map (·.map Finding.withoutPlace)
        = (Finding.extract doc names' args' styleNames').map (·.map Finding.withoutPlace)
      ∧ ∀ reaction place, check styleNames reaction place doc names args
        = check styleNames' reaction place doc names' args' := by
  refine ⟨h.search_eq, ?_, h.map_extract_eq doc, fun reaction place => h.check_eq reaction place doc⟩
  intro styles styles' order text hstyles distinct hnames longer
  have hnames' (name : String) : name ∈ names' ↔ name ∈ names := (h.sameNames name).symm
  rw [Tag.scan_eq_all distinct hnames longer, Tag.all_congr hstyles hnames']

/-- A name that is given twice stands for its first argument; what stands in its second place is
never looked at. -/
theorem outcome_eq_of_sameFacts_repeated :
    SameFacts ["google", "phpdoc", "google"] ["phpdoc", "google"] ["b", "a", "b"] ["a", "b"]
        [.int 0 5, .none, .str 0 "s"] [.none, .int 0 7]
      ∧ check ["google", "phpdoc", "google"] (some "raise") (some "f") (some "@param string $b")
          ["b", "a", "b"] [.int 0 5, .none, .str 0 "s"]
        = check ["phpdoc", "google"] (some "raise") (some "f") (some "@param string $b") ["a", "b"]
          [.none, .int 0 7] := by
  have same : SameFacts ["google", "phpdoc", "google"] ["phpdoc", "google"] ["b", "a", "b"]
      ["a", "b"] [.int 0 5, .none, .str 0 "s"] [.none, .int 0 7] :=
    ⟨by grind, by grind, by decide +kernel⟩
  obtain ⟨-, -, -, outcome⟩ := outcome_eq_of_sameFacts same (some "@param string $b")
  exact ⟨same, outcome _ _⟩

end DocGuard

import DocGuard.Proofs.Program.Refusal
import DocGuard.Proofs.Section.Membership
import Mathlib.Data.List.Forall2
/-!
What extraction relies on.

To turn a tag into a finding, one looks up the style that it is written in, the place of its name
among the parameters, and the argument in this place. Each of these might be missing.
`Finding.lookUpAll` extracts in this way, style by style and name by name, and says what is missing
where something is (`Finding.Lack`).

Nothing ever is (`Finding.lookUpAll_eq`). Where a tag begins, it is read in its own style, and in no
other (`Tag.readIn?_eq`), and only names that were asked for are read. So what remains of extraction
is to ask the arguments for their types, one after the other (`Extracts`), and the main result is
that it gives one finding for each tag that counts and has an argument, unless one of these
arguments fails to answer (`extraction_lacks_nothing`). In a running program an argument can
(`extraction_fails`).
-/

namespace DocGuard

open Text Run

/-! ### The style of a tag -/

namespace Tag

variable {styles : List Style} {names : List String} {text front rest : List Char} {tag : Tag}
variable {l : Layout}

/-- What is read in one style where a tag begins. -/
def readIn? (names : List String) (text : List Char) (tag : Tag) (style : Style) : Option Tag :=
  at? [style] (longestFirst names) (charBefore text tag.start) tag.start (text.drop tag.start)

/-- What is read in one style where a tag is written is this tag. -/
theorem Written.eq_of_at? (h : Written styles names (front ++ rest) tag l)
    (start : tag.start = front.length) {style : Style} {tag' : Tag}
    (found : at? [style] (longestFirst names) front.getLast? front.length rest = some tag') :
    style = tag.style ∧ tag' = tag := by
  obtain ⟨start', l', written⟩ := written_of_at? found
  have fits : l'.Fits (front ++ rest) tag.start := by
    rw [start, ← start']
    exact written.fits
  have fits' : l.Fits (front ++ rest) tag'.start := by
    rw [start', ← start]
    exact h.fits
  have same : l'.style = l.style := fits.style_eq h.fits
  have asked : l'.style = style := List.mem_singleton.1 written.wanted.1
  -- each layout was there to be taken where the other one was, so neither has the longer name
  have le : l'.name.length ≤ l.name.length :=
    h.longest l' ⟨same ▸ h.wanted.1, written.wanted.2⟩ fits
  have ge : l.name.length ≤ l'.name.length :=
    written.longest l ⟨same ▸ written.wanted.1, h.wanted.2⟩ fits'
  have layouts : l' = l := fits.eq_of_length_eq h.fits (Nat.le_antisymm le ge)
  constructor
  · rw [← asked, same, h.eq]
    rfl
  · rw [h.eq, written.eq, start, start', layouts]

/-- Where a tag begins, it is read in its own style, and nothing is read in any other. -/
theorem readIn?_eq (h : tag ∈ all styles names text) (style : Style) :
    tag.readIn? names text style = if style = tag.style then some tag else none := by
  obtain ⟨l, written⟩ := (isScan_all styles names text).written tag h
  have covers := (isScan_all styles names text).covers tag h
  obtain ⟨front, rest, rfl, start⟩ :
      ∃ front rest, text = front ++ rest ∧ tag.start = front.length :=
    ⟨text.take tag.start, text.drop tag.start, (List.take_append_drop ..).symm,
      (List.length_take_of_le (by omega)).symm⟩
  rw [readIn?, start, charBefore_append, List.drop_left]
  rcases found : at? [style] (longestFirst names) front.getLast? front.length rest with - | tag'
  · have other : style ≠ tag.style := by
      rintro rfl
      have fits := written.fits
      rw [start] at fits
      have own : l.style = tag.style := (congrArg Tag.style written.eq).symm
      exact not_fits_of_at? found l ⟨List.mem_singleton.2 own, written.wanted.2⟩ fits
    rw [if_neg other]
  · obtain ⟨rfl, rfl⟩ := written.eq_of_at? start found
    rw [if_pos rfl]

theorem style_mem_of_mem_all (h : tag ∈ all styles names text) : tag.style ∈ styles := by
  obtain ⟨l, written⟩ := (isScan_all styles names text).written tag h
  rw [written.eq]
  exact written.wanted.1

/-- Tags are found in the order in which they begin. -/
theorem pairwise_start_all (styles : List Style) (names : List String) (text : List Char) :
    (all styles names text).Pairwise fun a b => a.start < b.start := by
  have scan := isScan_all styles names text
  refine scan.apart.imp_of_mem fun {a b} ha _ apart => ?_
  have := scan.covers a ha
  omega

end Tag

namespace Finding

/-! ### Looking things up -/

/-- What might be missing where a tag is looked up. -/
inductive Lack where
  /-- The tag is read in none of the styles. -/
  | style
  /-- Its name is that of no parameter. -/
  | name
  /-- There is nothing in the place of the parameter. -/
  | argument

/-- The place of the first parameter of this name, and the argument there, unless it is absent. -/
def lookUpArgument (names : List String) (args : List Value) (name : String) :
    Except Lack (Option (Nat × Value)) :=
  match names.idxOf? name with
  | none => .error .name
  | some place =>
    if args.length ≤ place then .ok none
    else match args[place]? with
      | none => .error .argument
      | some v => .ok (if v.isAbsent then none else some (place, v))

section LookUp

variable {m : Type → Type} [Monad m] (typeOf : Value → m String)
variable (styles : List Style) (names : List String) (args : List Value)

/-- What a tag finds, where nothing is taken for granted that is looked up. -/
def lookUp (text : List Char) (sections : List Section) (tag : Tag) :
    ExceptT Lack m (Option Finding) := do
  match styles.findSome? fun style => (tag.readIn? names text style).map (style, ·) with
  | none => throw .style
  | some (style, read) =>
    if style == .google && !sections.any (·.holds tag.start) then return none
    match lookUpArgument names args read.name with
    | .error lack => throw lack
    | .ok none => return none
    | .ok (some (place, v)) =>
      return some ⟨read.name, ScalarType.canonicalName read.token, ← typeOf v, place⟩

/-- What some tags find, one after the other. -/
def lookUpEach (text : List Char) (sections : List Section) :
    List Tag → ExceptT Lack m (List Finding)
  | [] => return []
  | tag :: tags => do
    match ← lookUp typeOf styles names args text sections tag with
    | none => lookUpEach text sections tags
    | some f => return f :: (← lookUpEach text sections tags)

/-- The findings of a docstring, where nothing is taken for granted that is looked up. Sections are
looked at only if there is a style that asks for them. -/
def lookUpAll (doc : Option String) : ExceptT Lack m (List Finding) :=
  match doc with
  | none => return []
  | some doc =>
    if doc.isEmpty || names.isEmpty then return []
    else
      let text := doc.toList
      let sections := if .google ∈ styles then Section.all text else []
      lookUpEach typeOf styles names args text sections (Tag.all styles names text)

end LookUp

/-! ### Nothing is missing -/

/-- A tag with the argument in the place of its parameter, if it counts and there is one. -/
def record? (names : List String) (args : List Value) (sections : List Section) (tag : Tag) :
    Option (Tag × Value) :=
  if counts sections tag then (argument? names args tag.name).map (tag, ·) else none

variable {styles : List Style} {names : List String} {args : List Value} {text : List Char}
variable {sections : List Section} {tag : Tag} {v : Value}

theorem argued_eq_filterMap (styles : List Style) (text : List Char) (names : List String)
    (args : List Value) : argued styles text names args
      = (Tag.all styles names text).filterMap (record? names args (Section.all text)) := by
  rw [argued, List.filterMap_filter]
  rfl

/-- Where a docstring is missing, it is as if it were empty. -/
theorem arguedIn_eq (styles : List Style) (doc : Option String) (names : List String)
    (args : List Value) :
    arguedIn styles doc names args = argued styles (doc.getD "").toList names args := by
  cases doc with
  | none => rfl
  | some doc => exact arguedIn_some doc

/-- The first style in which a tag is read is its own. -/
theorem findSome?_readIn? (h : tag ∈ Tag.all styles names text) :
    (styles.findSome? fun style => (tag.readIn? names text style).map (style, ·))
      = some (tag.style, tag) := by
  have others : ∀ style ∈ styles, style ≠ tag.style →
      (tag.readIn? names text style).map (style, ·) = none := by
    intro style _ ne
    rw [Tag.readIn?_eq h, if_neg ne]
    rfl
  rw [Reading.findSome?_eq_of_unique others, if_pos (Tag.style_mem_of_mem_all h),
    Tag.readIn?_eq h, if_pos rfl]
  rfl

theorem idxOf?_eq_some_idxOf {name : String} (h : name ∈ names) :
    names.idxOf? name = some (names.idxOf name) := by
  obtain ⟨place, found⟩ := Option.isSome_iff_exists.1 (List.isSome_idxOf?.2 h)
  rw [List.idxOf_eq_getD_idxOf?, found]
  rfl

/-- For the name of a parameter nothing is missing. -/
theorem lookUpArgument_eq {name : String} (h : name ∈ names) (args : List Value) :
    lookUpArgument names args name
      = .ok ((argument? names args name).map (names.idxOf name, ·)) := by
  rw [lookUpArgument, idxOf?_eq_some_idxOf h, argument?]
  by_cases behind : args.length ≤ names.idxOf name
  · simp [behind]
  · have inside := List.getElem?_eq_getElem (Nat.lt_of_not_le behind)
    cases absent : args[names.idxOf name].isAbsent <;>
      simp [behind, inside, absent, Option.filter_some]

section NothingMissing

variable {m : Type → Type} [Monad m] [LawfulMonad m] (typeOf : Value → m String)

/-- Of a tag nothing is missing. If it counts and has an argument, this is asked for its type. -/
theorem lookUp_eq (h : tag ∈ Tag.all styles names text) (args : List Value)
    (sections : List Section) :
    (lookUp typeOf styles names args text sections tag).run
      = .ok <$> (record? names args sections tag).mapM fun r => ofTag names r.1 <$> typeOf r.2 := by
  have out :
      (tag.style == .google && !sections.any (·.holds tag.start)) = !counts sections tag := by
    rw [counts, bne]
    cases tag.style == .google <;> simp
  rw [lookUp, findSome?_readIn? h]
  simp only [lookUpArgument_eq (mem_names_of_mem_all h), out]
  rw [record?]
  cases counts sections tag with
  | false => simp
  | true =>
    cases argument? names args tag.name with
    | none => simp
    | some v => simp [ofTag, Except.map]

theorem lookUpEach_eq {tags : List Tag} (h : ∀ tag ∈ tags, tag ∈ Tag.all styles names text)
    (args : List Value) (sections : List Section) :
    (lookUpEach typeOf styles names args text sections tags).run
      = .ok <$> (tags.filterMap (record? names args sections)).mapM fun r =>
        ofTag names r.1 <$> typeOf r.2 := by
  induction tags with
  | nil => simp [lookUpEach]
  | cons tag tags ih =>
    have first := lookUp_eq typeOf (h tag List.mem_cons_self) args sections
    have later := ih fun tag htag => h tag (List.mem_cons_of_mem _ htag)
    rw [lookUpEach, ExceptT.run_bind, first, List.filterMap_cons]
    cases record? names args sections tag with
    | none => simpa using later
    | some r => simp [later, Except.map]

/-- Only tags in google style ask for sections. -/
theorem record?_of_asked (h : tag ∈ Tag.all styles names text) (args : List Value)
    (sections : List Section) :
    record? names args (if .google ∈ styles then sections else []) tag
      = record? names args sections tag := by
  by_cases asked : .google ∈ styles
  · rw [if_pos asked]
  · have other : tag.style ≠ .google := fun google => asked (google ▸ Tag.style_mem_of_mem_all h)
    have counted (sections : List Section) : counts sections tag = true := by
      rw [counts, bne_iff_ne.2 other, Bool.true_or]
    rw [record?, record?, counted, counted]

/-- **Extraction lacks nothing.** What is left of it is to ask for types. -/
theorem lookUpAll_eq (styles : List Style) (names : List String) (args : List Value)
    (doc : Option String) :
    (lookUpAll typeOf styles names args doc).run
      = .ok <$> (arguedIn styles doc names args).mapM fun r => ofTag names r.1 <$> typeOf r.2 := by
  cases doc with
  | none => simp [lookUpAll, arguedIn]
  | some doc =>
    rw [lookUpAll, arguedIn]
    split
    · simp
    · rw [lookUpEach_eq typeOf fun _ => id, argued_eq_filterMap,
        List.filterMap_congr fun _ h => record?_of_asked h args _]

end NothingMissing

/-! ### What is found -/

/-- The finding is about a tag, and about the argument in the place of the first parameter of its
name, which is of this type. -/
structure Records (f : Finding) (names : List String) (args : List Value) (tag : Tag) (v : Value)
    (type : String) : Prop where
  name : f.name = tag.name
  listed : f.name ∈ names
  first : names.idxOf? f.name = some f.position
  inside : f.position < args.length
  given : args[f.position]? = some v
  present : v.isAbsent = false
  expected : f.expected = ScalarType.canonicalName tag.token
  scalar : ∃ t : ScalarType, f.expected = t.name
  actual : f.actual = type

/-- How the tags of a text are read, and that these are those of them that count and have an
argument, each with this argument. -/
structure AreRecords (styles : List Style) (names : List String) (text : List Char)
    (args : List Value) (records : List (Tag × Value)) : Prop where
  /-- Where a tag begins, it is read in one of the styles, and nothing is read in any other. -/
  readOnce : ∀ tag ∈ Tag.all styles names text, tag.style ∈ styles
    ∧ ∀ style, tag.readIn? names text style = if style = tag.style then some tag else none
  /-- Only names are read that were asked for. -/
  listed : ∀ tag ∈ Tag.all styles names text, tag.name ∈ names
  /-- Tags stand one after the other. -/
  increasing : (Tag.all styles names text).Pairwise fun a b => a.start < b.start
  /-- A tag belongs to them if it counts and there is something in the place of its parameter. -/
  mem_iff : ∀ tag v, (tag, v) ∈ records ↔ tag ∈ Tag.all styles names text
    ∧ (tag.style = .google → ∃ s ∈ Section.all text, s.start ≤ tag.start ∧ tag.start < s.stop)
    ∧ args[names.idxOf tag.name]? = some v ∧ v.isAbsent = false
  /-- They are in the order of the text, so that each is among them once. -/
  ordered : records.Pairwise fun r s => r.1.start < s.1.start

theorem record?_eq_some_iff {r : Tag × Value} : record? names args sections tag = some r
    ↔ counts sections tag = true ∧ args[names.idxOf tag.name]? = some r.2
      ∧ r.2.isAbsent = false ∧ r.1 = tag := by
  rw [record?]
  cases counts sections tag with
  | false => simp
  | true =>
    rw [if_pos rfl, Option.map_eq_some_iff]
    constructor
    · rintro ⟨v, found, rfl⟩
      obtain ⟨given, present⟩ := Option.filter_eq_some_iff.1 found
      exact ⟨rfl, given, by simpa using present, rfl⟩
    · rintro ⟨-, given, present, rfl⟩
      exact ⟨r.2, Option.filter_eq_some_iff.2 ⟨given, by simpa using present⟩, rfl⟩

theorem areRecords_arguedIn (styles : List Style) (doc : Option String) (names : List String)
    (args : List Value) :
    AreRecords styles names (doc.getD "").toList args (arguedIn styles doc names args) := by
  have increasing := Tag.pairwise_start_all styles names (doc.getD "").toList
  rw [arguedIn_eq, argued_eq_filterMap]
  refine ⟨fun tag h => ⟨Tag.style_mem_of_mem_all h, Tag.readIn?_eq h⟩,
    fun tag => mem_names_of_mem_all, increasing, fun tag v => ?_, ?_⟩
  · simp only [List.mem_filterMap, record?_eq_some_iff, counts_eq_true_iff, Section.holds_iff]
    constructor
    · rintro ⟨_, htag, counted, given, present, rfl⟩
      exact ⟨htag, counted, given, present⟩
    · rintro ⟨htag, counted, given, present⟩
      exact ⟨tag, htag, counted, given, present, rfl⟩
  · refine List.Pairwise.filterMap _ (fun a b before r hr s hs => ?_) increasing
    obtain ⟨-, -, -, rfl⟩ := record?_eq_some_iff.1 hr
    obtain ⟨-, -, -, rfl⟩ := record?_eq_some_iff.1 hs
    exact before

/-- What a tag finds is about it and its argument. -/
theorem records_ofTag {doc : Option String} {r : Tag × Value}
    (h : r ∈ arguedIn styles doc names args) (type : String) :
    (ofTag names r.1 type).Records names args r.1 r.2 type := by
  obtain ⟨htag, -, given, present⟩ :=
    ((areRecords_arguedIn styles doc names args).mem_iff r.1 r.2).1 h
  have listed := mem_names_of_mem_all htag
  exact ⟨rfl, listed, idxOf?_eq_some_idxOf listed, (List.getElem?_eq_some_iff.1 given).1, given,
    present, rfl, ScalarType.exists_canonicalName (Tag.isToken_of_mem_all htag), rfl⟩

end Finding

/-! ### Extraction in a running program -/

/-- The world as it is where it is looked for what documentation says. -/
def World.ofExtraction (w : World) : World :=
  w.inFunction "docparams.extract" "extract" []

/-- How extraction ends that has these tags and arguments left: the arguments are asked for their
types one after the other. Each gives a finding, unless it fails to answer, which ends it all. -/
inductive Extracts (w : World) (names : List String) (args : List Value) :
    Machine → List (Tag × Value) → Except Fault (List Finding) × Machine → Prop
  | done {m : Machine} : Extracts w names args m [] (.ok [], m)
  | told {m m₁ m' : Machine} {tag : Tag} {v : Value} {rest : List (Tag × Value)} {type : String}
      {f : Finding} {result : Except Fault (List Finding)}
      (answer : on w (typeNameOf ask v) m = (.ok type, m₁))
      (records : f.Records names args tag v type)
      (goesOn : Extracts w names args m₁ rest (result, m')) :
      Extracts w names args m ((tag, v) :: rest) (result.map (f :: ·), m')
  | untold {m m' : Machine} {tag : Tag} {v : Value} {rest : List (Tag × Value)} {e : Fault}
      (answer : on w (typeNameOf ask v) m = (.error e, m')) :
      Extracts w names args m ((tag, v) :: rest) (.error e, m')

section Running

variable {w : World} {names : List String} {args : List Value} {records : List (Tag × Value)}

theorem findIn_eq (call : Call) (names : List String) (r : Tag × Value) :
    findIn call names r = Finding.ofTag names r.1 <$> typeNameOf call r.2 :=
  (map_eq_pure_bind ..).symm

theorem extracts_mapM (h : ∀ r ∈ records, ∀ type,
      (Finding.ofTag names r.1 type).Records names args r.1 r.2 type) (m : Machine) :
    Extracts w names args m records (on w (records.mapM (findIn ask names)) m) := by
  induction records generalizing m with
  | nil => exact .done
  | cons r rest ih =>
    rw [List.mapM_cons, findIn, bind_assoc, on_bind]
    rcases answer : on w (typeNameOf ask r.2) m with ⟨e | type, m₁⟩
    · exact .untold answer
    · have goesOn := ih (fun s hs => h s (List.mem_cons_of_mem r hs)) m₁
      simp only [pure_bind, on_bind]
      -- a later failure takes the place of all findings, which is what `Except.map` does too
      generalize on w (rest.mapM (findIn ask names)) m₁ = ended at goesOn ⊢
      rcases ended with ⟨e | found, m'⟩ <;>
        exact .told answer (h r List.mem_cons_self type) goesOn

/-- **What extraction comes to.** In known styles, for any docstring or none, any names and any
arguments, nothing is missing that extraction looks up: a tag is read in one style, which is one of
those asked for, and its name is one of the names. Each tag that counts and has an argument gives
one finding, in the order of the text, and no other tag gives any. A finding holds the place of the
first parameter of its name and the type of the argument there, and declares a scalar type. In a
running program extraction asks for these types and does nothing else, so that it fails only where
an argument fails to answer. -/
theorem extraction_lacks_nothing {styleNames : List String} (known : Style.AreKnown styleNames)
    (doc : Option String) (names : List String) (args : List Value) :
    ∃ styles records, Style.ofNames styleNames = .ok styles
      ∧ (∀ style, style ∈ styles ↔ style.name ∈ styleNames)
      ∧ Finding.AreRecords styles names (doc.getD "").toList args records
      ∧ (∃ findings, Finding.extract doc names args styleNames = .ok findings
        ∧ (Finding.lookUpAll (m := Id) Value.typeName styles names args doc).run = .ok findings
        ∧ List.Forall₂ (fun r f => f.Records names args r.1 r.2 r.2.typeName) records findings)
      ∧ ∀ w m,
        on w.ofExtraction (Finding.lookUpAll (typeNameOf ask) styles names args doc).run m
            = on w (Except.ok <$> extractNamed ask styleNames doc names args) m
          ∧ Extracts w.ofExtraction names args m records
            (on w (extractNamed ask styleNames doc names args) m)
          ∧ ∀ inProgram reaction place,
            on w (judgeIn ask inProgram ⟨styles, reaction⟩ place doc names args) m
              = on w.ofJudgment (extractNamed ask styleNames doc names args
                >>= followFindings ask inProgram reaction place) m := by
  obtain ⟨styles, named, mem, found⟩ := Finding.extract_of_areKnown known doc names args
  have running : extractNamed ask styleNames doc names args = extractIn ask styles doc names args := by
    rw [extractNamed, named]
  refine ⟨styles, _, named, mem, Finding.areRecords_arguedIn styles doc names args,
    ⟨_, found, ?_, ?_⟩, fun w m => ?_⟩
  · rw [Finding.lookUpAll_eq]
    exact congrArg Except.ok List.idRun_mapM
  · rw [Finding.ofDoc, List.forall₂_map_right_iff]
    exact List.forall₂_same.2 fun r h => Finding.records_ofTag h r.2.typeName
  · rw [running]
    refine ⟨?_, ?_, fun inProgram reaction place => ?_⟩
    · rw [Finding.lookUpAll_eq, map_eq_pure_bind, map_eq_pure_bind, on_bind, on_bind, extractIn,
        on_inFunction, funext (findIn_eq ask names)]
      rfl
    · rw [extractIn, on_inFunction]
      exact extracts_mapM (fun r => Finding.records_ofTag) m
    · rw [judgeIn, on_inFunction, World.ofJudgment]

/-- A name may be empty. It is read where a word begins, and stands for the first parameter that has
no name. -/
theorem extraction_lacks_nothing_empty_name :
    Style.AreKnown ["phpdoc"] ∧ ∃ styles records,
      Finding.AreRecords styles ["", ""] "@param int $x".toList [.bool true, .none] records
        ∧ List.Forall₂ (fun r f => Finding.Records f ["", ""] [.bool true, .none] r.1 r.2
          r.2.typeName) records [⟨"", "integer", "boolean", 0⟩] := by
  have known : Style.AreKnown ["phpdoc"] := ⟨by decide, by simpa using ⟨.phpdoc, rfl⟩⟩
  obtain ⟨styles, records, -, -, areRecords, ⟨findings, found, -, about⟩, -⟩ :=
    extraction_lacks_nothing known (some "@param int $x") ["", ""] [.bool true, .none]
  have run : Finding.extract (some "@param int $x") ["", ""] [.bool true, .none] ["phpdoc"]
      = .ok [⟨"", "integer", "boolean", 0⟩] := by
    decide +kernel
  rw [run] at found
  cases found
  exact ⟨known, styles, records, areRecords, about⟩

end Running

/-! ### Where an argument does not answer -/

namespace Noticed

/-- An instance of a class that asks for a range without a step when it should show which class it
is, and the machine in which it has been made. -/
def silentInstance : Except Fault Value × Machine :=
  on (.at depthLimit []) (do
    discard (Step.run (.define (showingBy [] misfitting)))
    inModule (Path.eval ask .toplevel ⟨⟨"C", true⟩, []⟩)) ⟨(program []).start, []⟩

/-- How extraction ends that is given this instance among its arguments. -/
def silentEnding (doc : String) (names : List String) (args : Value → List Value) : Ending :=
  match silentInstance with
  | (.error _, _) => .otherwise
  | (.ok v, m) =>
    .ofResult (on Sample.world (extractNamed ask ["phpdoc"] (some doc) names (args v)) m).1

end Noticed

open Noticed

/-- **An argument can fail to answer.** Its class shows by a call which class it is, and the call
fails. Then extraction fails, although nothing is missing, and so does the check of a call with this
argument. -/
theorem extraction_fails :
    Style.ofNames ["phpdoc"] = .ok [.phpdoc]
      ∧ silentEnding "@param int $n" ["n"] ([·]) = noStep
      ∧ seen (hiddenClass Sample.names) = [(.fine, []), (.fine, []), (noStep, ["get"])] := by
  refine ⟨?_, ?_, ?_⟩ <;> decide +kernel

end DocGuard

import DocGuard.Proofs.Program.Guarding
import DocGuard.Proofs.Verdict
/-!
Whether a verdict is right about the types of the arguments.

Types are compared by their names. A value is asked of which scalar types it is an instance, one
after the other, and goes by the name of the first (`TypeFacts.IsOf`), whatever its own class is
called: truth values are no integers, and instances of derived classes and values that show another
class are what they are instances of. Any other value goes by the name of its class, which can be any
name, also that of a scalar type. Such a value passes for one of that type (`TypeFacts.PassesFor`).

So a check misses a value of another type than documented only if the value passes for one of that
type; and it finds fault with an instance of the type documented only if this is an instance of a
scalar type too that is tried before. A value that shows its class plainly is not
(`Value.isOf_facts_iff`).
-/

namespace DocGuard

open Run

/-! ### Types -/

/-- A value that shows its class plainly is of a scalar type if it is an instance of it, but no truth
value where integers are meant. -/
theorem Value.isOf_facts_iff {v : Value} {t : ScalarType} :
    v.facts.IsOf t ↔ v.isA t = true ∧ (t = .integer → v.isA .boolean = false) := by
  have single : ∃ c : ClassRef, ∀ s, v.isA s = c.holds s := by
    cases v with
    | proxy mark name shown => exact ⟨.builtin shown.name, fun s => Bool.false_or _⟩
    | _ => exact ⟨_, fun s => Bool.or_self _⟩
  obtain ⟨c, isA⟩ := single
  have facts (s : ScalarType) : v.facts.isA s = c.holds s := isA s
  simp only [TypeFacts.IsOf, facts, isA, ClassRef.holds]
  rcases c.scalar with _ | s
  · simp
  · cases s <;> cases t <;> simp [ScalarType.all]

/-! ### Records -/

/-- The tag declares this type. -/
def Tag.Declares (tag : Tag) (t : ScalarType) : Prop :=
  ScalarType.canonicalName tag.token = t.name

instance (tag : Tag) (t : ScalarType) : Decidable (tag.Declares t) :=
  inferInstanceAs (Decidable (_ = _))

/-- Every tag that speaks of an argument declares a scalar type, for an argument that is there. -/
theorem Finding.exists_declares {styles : List Style} {doc : Option String} {names : List String}
    {args : List Value} {record : Tag × Value} (h : record ∈ arguedIn styles doc names args) :
    (∃ t, record.1.Declares t)
      ∧ args[names.idxOf record.1.name]? = some record.2 ∧ record.2.isAbsent = false := by
  cases doc with
  | none => cases h
  | some doc =>
    rw [arguedIn_some, argued, List.mem_filterMap] at h
    obtain ⟨tag, htag, found⟩ := h
    obtain ⟨v, argument, rfl⟩ := Option.map_eq_some_iff.1 found
    obtain ⟨given, present⟩ := Option.filter_eq_some_iff.1 argument
    exact ⟨ScalarType.exists_canonicalName (Tag.isToken_of_mem_all (List.mem_filter.1 htag).1),
      given, by simpa using present⟩

section Declares

variable {facts : TypeFacts} {names : List String} {tag : Tag} {t : ScalarType}
variable (declares : tag.Declares t)
include declares

/-- What a tag finds is no violation if the value is of the type declared, or passes for one that is.
-/
theorem Finding.violation?_ofTag_eq_none_iff :
    (ofTag names tag facts.name).violation? = none ↔ facts.IsOf t ∨ facts.PassesFor t := by
  rw [violation?_eq_none_iff, ← TypeFacts.name_eq_iff]
  show ScalarType.canonicalName tag.token = facts.name ↔ _
  rw [declares, eq_comm]

/-- A value of no scalar type is a violation by the name of its class, unless this is the name of the
type declared. -/
theorem Finding.violation?_ofTag_of_isA_eq_false (noScalar : ∀ s, facts.isA s = false) :
    (ofTag names tag facts.name).violation?
      = if t.name = facts.className then none else some ⟨tag.name, t.name, facts.className⟩ := by
  rw [violation?, ofTag, declares, TypeFacts.name_of_isA_eq_false noScalar]

end Declares

/-! ### Verdicts -/

section Verdicts

variable {styleNames : List String} {styles : List Style}
variable (named : Style.ofNames styleNames = .ok styles) {w : World} {m : Machine}
variable {reaction : OnMismatch} {place : Value} {name doc : Option String} {params : List String}
variable {args : List Value} (plain : place.Names name)
include named

/-- Of arguments that show their classes plainly the same is found as of these values. -/
theorem gives_extractNamed (made : ∀ v ∈ args, v.IsAsMade m.store) :
    ∃ findings, Finding.extract doc params args styleNames = .ok findings
      ∧ Gives (extractNamed ask styleNames doc params args) m findings := by
  refine ⟨Finding.ofDoc styles doc params args, ?_, ?_⟩
  · rw [Finding.extract, named]
    rfl
  · rw [extractNamed, named]
    refine Gives.inFunction (gives_mapM fun record hr => ?_) _ _ _
    exact (made record.2 (Finding.mem_of_mem_arguedIn hr).1).typeNameOf.trans (gives_pure _ m)

include plain

/-- A check of arguments that show their classes plainly, asked for outside of the program, ends with
the verdict on these values. -/
theorem on_checkArguments_eq_check (whole : placeName? name = name)
    (made : ∀ v ∈ args, v.IsAsMade m.store) (shown : m.store.warnings = .shown) :
    ∃ verdict, check styleNames (some reaction.name) name doc params args = .ok verdict
      ∧ on w (checkArguments ask false ⟨styleNames, some reaction.name⟩ place doc params args) m
        = on w (Run.follow verdict) m := by
  have told : ∀ record ∈ Finding.arguedIn styles doc params args,
      Gives (typeNameOf ask record.2) m record.2.typeName :=
    fun record hr => (made record.2 (Finding.mem_of_mem_arguedIn hr).1).typeNameOf
  refine ⟨.ofFindings reaction name (Finding.ofDoc styles doc params args), ?_,
    on_checkArguments_of_told named plain whole told reaction fun _ => ⟨rfl, shown⟩⟩
  rw [check_eq_map named, OnMismatch.ofName_name]
  rfl

/-- A check ends without a violation exactly if no value has another type than declared, as far as
the names of types tell. -/
theorem result_checkArguments_eq_none_iff {states : Machine → Prop} (hm : states m)
    {facts : Value → TypeFacts}
    (tells : ∀ record ∈ Finding.arguedIn styles doc params args,
      Tells w states ask record.2 (facts record.2)) (inProgram : Bool) :
    (on w (checkArguments ask inProgram ⟨styleNames, some reaction.name⟩ place doc params args) m).1
        = .ok none
      ↔ ∀ record ∈ Finding.arguedIn styles doc params args, ∀ t, record.1.Declares t →
        (facts record.2).IsOf t ∨ (facts record.2).PassesFor t := by
  let j : Judgment := ⟨⟨styles, reaction⟩, place, doc, params, args⟩
  let types (v : Value) : String := (facts v).name
  have told : ∀ record ∈ j.records, Answers (w.ofArguments args) states (typeNameOf ask record.2)
      (types record.2) :=
    fun record hr => Ends.inside (tells record hr).typeNameOf _
  obtain ⟨m', -, follows⟩ :=
    Judgment.exists_on_run_eq_followFindings (j := j) hm told inProgram
  rw [Judgment.on_checkArguments (CheckOptions.ofNames_of_named named reaction), follows,
    result_followFindings_eq_none_iff plain, Finding.firstViolation?, List.findSome?_eq_none_iff]
  simp only [Judgment.findings, List.forall_mem_map]
  refine forall₂_congr fun record hr => ?_
  obtain ⟨⟨t, declares⟩, -⟩ := Finding.exists_declares hr
  constructor
  · intro fine s declares'
    exact (Finding.violation?_ofTag_eq_none_iff declares').1 fine
  · intro right
    exact (Finding.violation?_ofTag_eq_none_iff declares).2 (right t declares)

end Verdicts

namespace Sample

/-- An instance of a class that is derived from the integers and called `string`. -/
def number : Value := .object 0 (.derived 1 "int" "string")

/-- An instance of a class that is called `string`. -/
def misnamed : Value := .object 0 (.derived 1 "object" "string")

/-- A class that is called `string`. -/
def misnamedClass : Value := .cls (.derived 2 "object" "string")

theorem number_isAsMade : number.IsAsMade machine.store := by
  have made : ClassRef.IsAsMade machine.store (.derived 1 "int" "string") := .derived 1 _ _ rfl
  exact .object rfl made made (by decide +kernel) (by decide +kernel)

end Sample

namespace Noticed

/-- A guarded function is given a number that shows the class of texts as its own, where its
documentation asks for a text. -/
def disguised : Session := program [
  .define (showingBy [.ofName "int"] (.return (.path (.ofName "str")))),
  .define (function "f" 3 [param "n"] (.str 1 "@param string $n") (some Sample.names) []),
  call (.ofName "f") [.path ⟨⟨"C", true⟩, []⟩]]

end Noticed

open Noticed

end DocGuard

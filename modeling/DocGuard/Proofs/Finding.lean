import DocGuard.Finding
import DocGuard.Proofs.Tag.Grammar
/-!
Findings as a matter of the tags of a docstring.

Where there is no text or no parameter there is no tag either, so that the findings of a docstring
are those of its tags in every case (`Finding.ofDoc_some`).
-/

namespace DocGuard

open Text

namespace Finding

variable {styles : List Style} {names : List String} {args : List Value}

/-- Without text or without parameters there are no tags, so they make no case of their own. -/
theorem arguedIn_some (doc : String) :
    arguedIn styles (some doc) names args = argued styles doc.toList names args := by
  have none (h : doc.toList = [] ∨ names = []) : Tag.all styles names doc.toList = [] := by
    refine List.eq_nil_iff_forall_not_mem.2 fun tag htag => ?_
    obtain ⟨l, written⟩ := (Tag.isScan_all styles names doc.toList).written tag htag
    have covers := (Tag.isScan_all styles names doc.toList).covers tag htag
    rcases h with empty | nameless
    · rw [empty, List.length_nil] at covers
      omega
    · have named := written.wanted.2
      rw [nameless] at named
      cases named
  rw [arguedIn]
  split
  · rename_i nothing
    rw [argued, none (by simpa using nothing)]
    rfl
  · rfl

/-- The findings of a docstring: one for each tag that counts and names a parameter with an
argument. -/
theorem ofDoc_some (doc : String) : ofDoc styles (some doc) names args
    = ((Tag.all styles names doc.toList).filter (counts (Section.all doc.toList))).filterMap
      fun tag => (argument? names args tag.name).map fun v => ofTag names tag v.typeName := by
  rw [ofDoc, arguedIn_some, argued, List.map_filterMap]
  simp only [Option.map_map]
  rfl

/-- In known styles there are always findings, if only none. -/
theorem extract_of_areKnown {styleNames : List String} (known : Style.AreKnown styleNames)
    (doc : Option String) (names : List String) (args : List Value) :
    ∃ styles, Style.ofNames styleNames = .ok styles
      ∧ (∀ style, style ∈ styles ↔ style.name ∈ styleNames)
      ∧ extract doc names args styleNames = .ok (ofDoc styles doc names args) := by
  obtain ⟨styles, found, mem⟩ := Style.exists_ofNames_eq known
  refine ⟨styles, found, mem, ?_⟩
  rw [extract, found]
  rfl

end Finding

end DocGuard

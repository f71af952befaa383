import DocGuard.Proofs.Cleaning
import DocGuard.Proofs.Verdict
import DocGuard.Text.Search
/-!
Documentation that is wrapped in another way.

Splitting a text at white space leaves its chunks. Texts with the same chunks have the same visible
characters, with a gap in the one wherever there is one in the other (`Text.respaced_of_chunks`),
and more does not matter to tags that may stand anywhere. So where entries in google style are not
looked for, a docstring can be indented and wrapped at will, with any line ends
(`Finding.extract_eq_of_chunks`).
-/

namespace DocGuard

open Text

/-! ### Chunks -/

namespace Text

variable {text text' : List Char} {first : Bool}

/-- The chunks of a text: what stands between white space. -/
def chunks (text : List Char) : List (List Char) :=
  cutWords isBlank (text.length + 1) text

/-- A text is white space, or it begins with a chunk, perhaps behind white space. -/
theorem cutWords_cases {n : Nat} (hn : text.length ≤ n) :
    (IsSpace text ∧ cutWords isBlank n text = [])
      ∨ ∃ gap c word tail m, text = gap ++ c :: (word ++ tail) ∧ IsSpace gap
        ∧ (∀ d ∈ c :: word, isBlank d = false) ∧ tail.head?.all isBlank = true
        ∧ n = m + 1 ∧ tail.length ≤ m
        ∧ cutWords isBlank n text = (c :: word) :: cutWords isBlank m tail := by
  have split : text.takeWhile isBlank ++ text.dropWhile isBlank = text :=
    List.takeWhile_append_dropWhile
  have gap : IsSpace (text.takeWhile isBlank) := fun c hc => of_mem_takeWhile hc
  rcases e : text.dropWhile isBlank with - | ⟨c, rest⟩
  · left
    rw [e, List.append_nil] at split
    refine ⟨split ▸ gap, ?_⟩
    cases n <;> simp [cutWords, e]
  · right
    have hc : isBlank c = false := by
      have head := head?_dropWhile isBlank text
      rwa [e] at head
    have chunk : (c :: rest).takeWhile (!isBlank ·) = c :: rest.takeWhile (!isBlank ·) := by
      simp [hc]
    have behind : (c :: rest).dropWhile (!isBlank ·) = rest.dropWhile (!isBlank ·) := by
      simp [hc]
    have length := congrArg List.length split
    rw [e, List.length_append, List.length_cons] at length
    -- there is a visible character, so that `n` is not used up
    obtain ⟨m, rfl⟩ : ∃ m, n = m + 1 := ⟨n - 1, by omega⟩
    refine ⟨_, c, rest.takeWhile (!isBlank ·), rest.dropWhile (!isBlank ·), m, ?_, gap, ?_, ?_, rfl,
      ?_, ?_⟩
    · rw [List.takeWhile_append_dropWhile, ← e, split]
    · rintro d hd
      rcases List.mem_cons.1 hd with rfl | hd
      · exact hc
      · simpa using of_mem_takeWhile hd
    · have head := head?_dropWhile (!isBlank ·) rest
      rcases h : (rest.dropWhile (!isBlank ·)).head? with - | d
      · rfl
      · simpa [h] using head
    · have shorter := (List.dropWhile_suffix (p := (!isBlank ·)) (l := rest)).length_le
      omega
    · rw [cutWords, e, chunk, behind]
      rfl

/-- Visible characters may stand in front of both texts. -/
theorem Respaced.append {lines : Prop} {feeds feeds' : Nat} {word : List Char}
    (hword : ∀ c ∈ word, isBlank c = false) (h : Respaced lines feeds feeds' false text text') :
    Respaced lines feeds feeds' false (word ++ text) (word ++ text') := by
  induction word with
  | nil => exact h
  | cons c word ih =>
    exact (ih fun d hd => hword d (List.mem_cons_of_mem c hd)).cons (hword c List.mem_cons_self)

/-- Where a chunk ends in both texts, and the same chunks follow, the texts differ in white space
only. -/
theorem respaced_of_cutWords {n n' : Nat} (hn : text.length ≤ n) (hn' : text'.length ≤ n')
    (same : cutWords isBlank n text = cutWords isBlank n' text')
    (ends : first = false → text.head?.all isBlank = true ∧ text'.head?.all isBlank = true) :
    Respaced False 0 0 first text text' := by
  induction n generalizing text text' first n' with
  | zero =>
    obtain rfl : text = [] := List.length_eq_zero_iff.1 (Nat.le_zero.1 hn)
    rcases cutWords_cases hn' with ⟨space', -⟩ | ⟨gap', c, word, tail', m', -, -, -, -, -, -, e'⟩
    · exact .done (by simp [IsSpace]) space' False.elim
    · rw [e'] at same
      simp [cutWords] at same
  | succ n ih =>
    rcases cutWords_cases hn with
        ⟨space, e⟩ | ⟨gap, c, word, tail, m, rfl, hgap, visible, next, hm, le, e⟩
      <;> rcases cutWords_cases hn' with
        ⟨space', e'⟩ | ⟨gap', c', word', tail', m', rfl, hgap', -, next', rfl, le', e'⟩
      <;> rw [e, e'] at same
    · exact .done space space' False.elim
    · cases same
    · cases same
    · obtain rfl : n = m := Nat.succ.inj hm
      obtain ⟨chunk, rest⟩ := List.cons.inj same
      obtain ⟨rfl, rfl⟩ := List.cons.inj chunk
      -- a gap is there because the chunk before it has ended
      have there : ∀ {gap tail : List Char}, (gap ++ c :: tail).head?.all isBlank = true →
          gap ≠ [] := by
        rintro _ tail blank rfl
        rw [List.nil_append, List.head?_cons, Option.all_some, visible c List.mem_cons_self] at blank
        cases blank
      have like : GapLike False first gap gap' :=
        ⟨fun between => iff_of_false (there (ends between).1) (there (ends between).2),
          False.elim, False.elim, False.elim⟩
      refine .step hgap hgap' (visible c List.mem_cons_self) like ?_
      exact (ih le le' rest fun _ => ⟨next, next'⟩).append
        fun d hd => visible d (List.mem_cons_of_mem c hd)

/-- Texts with the same chunks differ in white space only. -/
theorem respaced_of_chunks (same : chunks text = chunks text') :
    Respaced False 0 0 true text text' :=
  respaced_of_cutWords (Nat.le_succ _) (Nat.le_succ _) same (by simp)

end Text

/-! ### Findings -/

namespace Finding

variable {styles : List Style} {names : List String} {args : List Value} {doc doc' : String}

/-- Without google style, docstrings with the same chunks pair the same parameters with the same
arguments. -/
theorem map_said_arguedIn_of_chunks (same : chunks doc.toList = chunks doc'.toList)
    (words : ∀ name ∈ names, IsWordName name) (noEntries : .google ∉ styles) :
    (arguedIn styles (some doc') names args).map said
      = (arguedIn styles (some doc) names args).map said := by
  have similar := Tag.forall₂_all_of_respaced words noEntries (respaced_of_chunks same)
  rw [arguedIn_some, arguedIn_some]
  refine map_said_argued ((List.forall₂_iff_zip.1 similar).elim fun length similar =>
    List.forall₂_iff_zip.2 ⟨length, fun {tag tag'} pair => ?_⟩)
  obtain ⟨l, written⟩ :=
    (Tag.isScan_all styles names doc.toList).written tag (List.of_mem_zip pair).1
  have style : tag.style = l.style := congrArg Tag.style written.eq
  have other : (tag.style != .google) = true :=
    bne_iff_ne.2 fun google => noEntries (google ▸ style ▸ written.wanted.1)
  have alike := similar pair
  refine ⟨alike.token, alike.name, ?_⟩
  rw [counts, counts, alike.style, other, Bool.true_or, Bool.true_or]

/-- **Layout does not matter to phpdoc and sphinx tags.** Where only these styles are looked for,
docstrings with the same chunks give the same findings, for names that are words and whatever the
arguments. Every check ends, logs and warns in the same way, and so does every judgment within a
program. -/
theorem extract_eq_of_chunks {styleNames : List String}
    (same : chunks doc.toList = chunks doc'.toList)
    (words : ∀ name ∈ names, IsWordName name) (some : styleNames ≠ [])
    (drawn : ∀ name ∈ styleNames, name = Style.phpdoc.name ∨ name = Style.sphinx.name)
    (args : List Value) :
    ∃ findings, extract (.some doc) names args styleNames = .ok findings
      ∧ extract (.some doc') names args styleNames = .ok findings
      ∧ (∀ reaction place, check styleNames reaction place (.some doc') names args
          = check styleNames reaction place (.some doc) names args)
      ∧ ∀ call inProgram options place, Style.ofNames styleNames = .ok options.styles →
          judgeIn call inProgram options place doc' names args
            = judgeIn call inProgram options place doc names args := by
  have known : Style.AreKnown styleNames :=
    ⟨some, fun name hname => (drawn name hname).elim (fun e => ⟨.phpdoc, e.symm⟩)
      fun e => ⟨.sphinx, e.symm⟩⟩
  obtain ⟨styles, named, mem, found⟩ := extract_of_areKnown known (.some doc) names args
  have noEntries : .google ∉ styles := fun google => by
    rcases drawn _ ((mem .google).1 google) with e | e <;> exact absurd e (by decide)
  have alike : (arguedIn styles (.some doc') names args).map said
      = (arguedIn styles (.some doc) names args).map said :=
    map_said_arguedIn_of_chunks same words noEntries
  have findings := ofDoc_eq_of_map_said alike
  refine ⟨_, found, ?_, fun reaction place => ?_, fun call inProgram options place hstyles => ?_⟩
  · rw [extract, named, Except.map, findings]
  · rw [check_eq_map named, check_eq_map named, findings]
  · obtain rfl : options.styles = styles := Except.ok.inj (hstyles.symm.trans named)
    exact judgeIn_eq_of_map_said call inProgram options place alike

/-- Tags stay what they are over line ends and wide spaces, also where the colon that closes one
could open another. -/
theorem extract_eq_of_chunks_wrapped :
    chunks ":param int x :param\tint y: @param bool $x,".toList
        = chunks "\r\n :param\r\n\u2003int x\n:param int\n\ny:\n\x0c@param bool\u00a0$x,\n".toList
      ∧ ∃ findings,
        extract (some ":param int x :param\tint y: @param bool $x,") ["x", "y"]
            [.bool true, .bool true] ["sphinx", "phpdoc"] = .ok findings
          ∧ extract (some
              "\r\n :param\r\n\u2003int x\n:param int\n\ny:\n\x0c@param bool\u00a0$x,\n")
            ["x", "y"] [.bool true, .bool true] ["sphinx", "phpdoc"] = .ok findings := by
  have same : chunks ":param int x :param\tint y: @param bool $x,".toList
      = chunks "\r\n :param\r\n\u2003int x\n:param int\n\ny:\n\x0c@param bool\u00a0$x,\n".toList := by
    decide +kernel
  have words : ∀ name ∈ ["x", "y"], IsWordName name := by
    simpa using ⟨isWordName_of_all (by decide) (by decide +kernel),
      isWordName_of_all (by decide) (by decide +kernel)⟩
  have drawn : ∀ name ∈ ["sphinx", "phpdoc"],
      name = Style.phpdoc.name ∨ name = Style.sphinx.name := by decide
  obtain ⟨findings, found, found', -⟩ :=
    extract_eq_of_chunks same words (by decide) drawn [.bool true, .bool true]
  exact ⟨same, findings, found, found'⟩

end Finding

end DocGuard

import DocGuard.Proofs.Program.Extraction
import DocGuard.Proofs.Program.Verdict
import DocGuard.Proofs.Tag.Inert
/-!
Documentation that goes on.

A line feed and any text are put behind a docstring. What is found in the docstring is found in the
longer one too, before everything else (`Finding.extract_append`), although the last row may become
a header, an open section may grow, and what is missing from a last tag may follow.

For the tags the reason is that no tag lies within another one whose name is a word: a tag has a
mark in it, and within a tag, apart from its two ends, there is none (`Layout.Fits.not_within`). So
a tag that reaches beyond the end of the docstring hides no tag that is complete before. For the
sections, the line on which the docstring ends may get a line feed, but it becomes no deeper by it
(`Section.isInside_append_iff`).

In a running program the arguments that the longer docstring speaks of are asked for their types. What
was asked before is asked first, and if the others answer too, a violation that was found before is
followed as before. But one of the others may not answer (`extract_append_unanswered`).
-/

namespace DocGuard

open Text Run

/-! ### Layouts at the end of a text -/

namespace Layout

variable {l g : Layout} {before : Option Char} {text rest more : List Char} {start place : Nat}

/-- Whether a word begins does not depend on what is appended, unless that begins with one. -/
theorem isWordAt_head?_append (h : isWordAt more.head? = false) (text : List Char) :
    isWordAt (text ++ more).head? = isWordAt text.head? := by
  cases text with
  | nil => exact h
  | cons => rfl

/-- A layout leads a text also if there is more behind it. -/
theorem leads_append_iff (h : isWordAt more.head? = false) :
    l.Leads before (text ++ more) (rest ++ more) ↔ l.Leads before text rest := by
  have edge : isWordAt (l.name.toList ++ (l.closing ++ (rest ++ more))).head?
      = isWordAt (l.name.toList ++ (l.closing ++ rest)).head? := by
    simpa only [List.append_assoc] using
      isWordAt_head?_append h (l.name.toList ++ (l.closing ++ rest))
  have close : isBoundary l.name.toList.getLast? (rest ++ more).head?
      = isBoundary l.name.toList.getLast? rest.head? := by
    rw [isBoundary, isBoundary, isWordAt_head?_append h]
  have written : text ++ more = l.text ++ (rest ++ more) ↔ text = l.text ++ rest := by
    rw [← List.append_assoc, List.append_cancel_right_eq]
  constructor
  · intro leads
    exact ⟨leads.regular, written.1 leads.written, edge ▸ leads.edge,
      fun hs => close ▸ leads.close hs, leads.lineStart⟩
  · intro leads
    exact ⟨leads.regular, written.2 leads.written, edge.symm ▸ leads.edge,
      fun hs => close.symm ▸ leads.close hs, leads.lineStart⟩

/-- What ends within a text fits there if and only if it fits with more behind the text. -/
theorem fits_append_right_iff (h : isWordAt more.head? = false)
    (inside : start + l.text.length ≤ text.length) :
    l.Fits (text ++ more) start ↔ l.Fits text start := by
  have length : (text.take start).length = start := List.length_take_of_le (by omega)
  have split : text = text.take start ++ text.drop start := (List.take_append_drop start text).symm
  have place := @fits_append_iff l (text.take start)
  rw [length] at place
  rw [split, List.append_assoc, place, place]
  constructor
  · rintro ⟨left, leads⟩
    -- what the layout leaves of the longer text ends with what was appended
    have cut := leads.written
    have whole := congrArg List.length cut
    rw [List.length_append, List.length_append, List.length_drop] at whole
    have suffix : more <:+ left :=
      List.suffix_of_suffix_length_le (cut ▸ List.suffix_append _ _) (List.suffix_append _ _)
        (by omega)
    obtain ⟨rest, rfl⟩ := suffix
    exact ⟨rest, (leads_append_iff h).1 leads⟩
  · rintro ⟨rest, leads⟩
    exact ⟨rest ++ more, (leads_append_iff h).2 leads⟩

/-! ### Layouts within layouts -/

theorem Fits.getElem? (h : l.Fits text start) {n : Nat} (hn : n < l.text.length) :
    text[start + n]? = l.text[n]? := by
  obtain ⟨rest, cut⟩ := h.written
  rw [← List.getElem?_drop, ← cut, List.getElem?_append_left hn]

/-- A mark stands in every layout. -/
theorem exists_mark (l : Layout) : ∃ c ∈ l.text, c = '@' ∨ c = ':' := by
  cases l with
  | phpdoc => exact ⟨'@', by simp [Layout.text, Layout.opening], .inl rfl⟩
  | sphinx => exact ⟨':', by simp [Layout.text, Layout.opening], .inr rfl⟩
  | google => exact ⟨':', by simp [Layout.text, Layout.closing], .inr rfl⟩

/-- No mark stands in a layout whose name is a word, apart from its first and its last character. -/
theorem exists_inside (regular : l.Regular) (hname : IsWordName l.name) :
    ∃ first inside last, l.text = first ++ (inside ++ last) ∧ first.length ≤ 1 ∧ last.length ≤ 1
      ∧ ∀ c ∈ inside, c ≠ '@' ∧ c ≠ ':' := by
  have param : ∀ c ∈ ['p', 'a', 'r', 'a', 'm'], c ≠ '@' ∧ c ≠ ':' := by simp
  cases l with
  | phpdoc gap token gap' sigil name =>
    obtain ⟨ht, hg, hg'⟩ := regular
    refine ⟨['@'], ['p', 'a', 'r', 'a', 'm'] ++ gap ++ token.toList ++ gap'
      ++ (if sigil then ['$'] else []) ++ name.toList, [], ?_, by simp, by simp, ?_⟩
    · simp [Layout.text, opening, closing, Layout.name]
    · intro c hc
      simp only [List.mem_append] at hc
      rcases hc with ((((hc | hc) | hc) | hc) | hc) | hc
      · exact param c hc
      · exact ne_mark_of_isBlank (hg.2 c hc)
      · exact ne_mark_of_isWord (isWord_of_mem_token ht c hc)
      · exact ne_mark_of_isBlank (hg'.2 c hc)
      · obtain rfl : c = '$' := by cases sigil <;> simp_all
        decide
      · exact ne_mark_of_isWord (hname.2 c hc)
  | sphinx gap token gap' name blanks =>
    obtain ⟨ht, hg, hg', hb⟩ := regular
    refine ⟨[':'], ['p', 'a', 'r', 'a', 'm'] ++ gap ++ token.toList ++ gap' ++ name.toList
      ++ blanks, [':'], ?_, by simp, by simp, ?_⟩
    · simp [Layout.text, opening, closing, Layout.name]
    · intro c hc
      simp only [List.mem_append] at hc
      rcases hc with ((((hc | hc) | hc) | hc) | hc) | hc
      · exact param c hc
      · exact ne_mark_of_isBlank (hg.2 c hc)
      · exact ne_mark_of_isWord (isWord_of_mem_token ht c hc)
      · exact ne_mark_of_isBlank (hg'.2 c hc)
      · exact ne_mark_of_isWord (hname.2 c hc)
      · exact ne_mark_of_isBlank (hb c hc)
  | google =>
    obtain ⟨body, written, plain⟩ := exists_body_of_google regular rfl hname.2
    exact ⟨[], body, [':'], by simp [written], by simp, by simp, plain⟩

/-- **No tag lies within another one**: what begins behind the start of a layout whose name is a
word does not end before the end of it. -/
theorem Fits.not_within (h : l.Fits text place) (hg : g.Fits text start) (hname : IsWordName g.name)
    (begins : start < place) (ends : place + l.text.length < start + g.text.length) : False := by
  obtain ⟨c, hc, mark⟩ := exists_mark l
  obtain ⟨n, hn, rfl⟩ := List.getElem_of_mem hc
  obtain ⟨first, inside, last, written, short, short', plain⟩ := exists_inside hg.regular hname
  have length := congrArg List.length written
  rw [List.length_append, List.length_append] at length
  have here : g.text[place + n - start]? = some l.text[n] := by
    rw [← hg.getElem? (by omega), show start + (place + n - start) = place + n by omega,
      h.getElem? hn, List.getElem?_eq_getElem hn]
  rw [written, List.getElem?_append_right (by omega), List.getElem?_append_left (by omega)] at here
  have none := plain _ (List.mem_of_getElem? here)
  exact mark.elim none.1 none.2

end Layout

/-! ### Tags -/

namespace Tag

variable {styles : List Style} {names : List String} {text more : List Char} {tags : List Tag}

/-- What is taken from the front of a list is all that satisfies `p`, if nothing does so behind
something that does not. -/
theorem mem_takeWhile_of_pairwise {α : Type} {p : α → Bool} {l : List α} {a : α}
    (h : l.Pairwise fun a b => p b = true → p a = true) (ha : a ∈ l) (hp : p a = true) :
    a ∈ l.takeWhile p := by
  induction l with
  | nil => cases ha
  | cons b l ih =>
    obtain ⟨first, others⟩ := List.pairwise_cons.1 h
    have hb : p b = true := by
      rcases List.mem_cons.1 ha with rfl | ha
      · exact hp
      · exact first a ha hp
    rw [List.takeWhile_cons_of_pos hb]
    rcases List.mem_cons.1 ha with rfl | ha
    · exact List.mem_cons_self
    · exact List.mem_cons_of_mem b (ih others ha)

/-- What is written in the longer text and ends within the text is written there. -/
theorem Written.of_append {tag : Tag} {l : Layout} (h : Written styles names (text ++ more) tag l)
    (quiet : isWordAt more.head? = false) (inside : tag.stop ≤ text.length) :
    Written styles names text tag l := by
  have longer {l' : Layout} (fits : l'.Fits text tag.start) : l'.Fits (text ++ more) tag.start :=
    (Layout.fits_append_right_iff quiet fits.stop_le).2 fits
  have fits : l.Fits text tag.start :=
    (Layout.fits_append_right_iff quiet (h.stop_eq ▸ inside)).1 h.fits
  exact ⟨h.wanted, fits, h.eq, fun l' wanted fits' => h.longest l' wanted (longer fits'),
    fun l' fits' e => h.only l' (longer fits') e⟩

/-- The tags of the longer text that end within the text are the tags of the text. -/
theorem IsScan.of_append (h : IsScan styles names (text ++ more) 0 tags)
    (words : ∀ name ∈ names, IsWordName name) (quiet : isWordAt more.head? = false) :
    IsScan styles names text 0 (tags.takeWhile (·.stop ≤ text.length)) := by
  have sub := List.takeWhile_sublist (fun tag : Tag => decide (tag.stop ≤ text.length)) (l := tags)
  have within : ∀ tag ∈ tags.takeWhile (·.stop ≤ text.length), tag.stop ≤ text.length := by
    intro tag htag
    simpa using of_mem_takeWhile htag
  have inOrder : tags.Pairwise fun a b =>
      decide (b.stop ≤ text.length) = true → decide (a.stop ≤ text.length) = true := by
    refine h.apart.imp_of_mem fun {a b} _ hb apart => ?_
    have := h.covers b hb
    simp only [decide_eq_true_iff]
    omega
  refine ⟨fun tag htag => ?_, fun tag htag => ?_, h.apart.sublist sub, ?_⟩
  · obtain ⟨l, written⟩ := h.written tag (sub.subset htag)
    exact ⟨l, written.of_append quiet (within tag htag)⟩
  · have covers := h.covers tag (sub.subset htag)
    exact ⟨covers.1, covers.2.1, within tag htag⟩
  · intro l start first wanted fits
    have fits' : l.Fits (text ++ more) start :=
      (Layout.fits_append_right_iff quiet fits.stop_le).2 fits
    obtain ⟨tag, htag, begins, covered⟩ := h.noneMissed l start first wanted fits'
    obtain ⟨g, written⟩ := h.written tag htag
    -- the tag that covers the layout ends with it or before it, and so within the text
    have inside : tag.stop ≤ text.length := by
      by_contra beyond
      have stop := written.stop_eq
      have := fits.stop_le
      by_cases same : tag.start = start
      · have one : l = g := fits'.eq_of_isWordName (same ▸ written.fits) (words _ wanted.2)
          (words _ written.wanted.2)
        rw [one] at this
        omega
      · exact fits'.not_within written.fits (words _ written.wanted.2) (by omega) (by omega)
    exact ⟨tag, mem_takeWhile_of_pairwise inOrder htag (decide_eq_true inside), begins, covered⟩

/-- **Appending text disturbs no tag.** The tags of a text come first among those of a longer text,
unless a word goes on where the text has ended. -/
theorem all_append (words : ∀ name ∈ names, IsWordName name) (quiet : isWordAt more.head? = false) :
    all styles names text <+: all styles names (text ++ more) := by
  rw [(isScan_all styles names text).eq ((isScan_all styles names _).of_append words quiet)]
  exact List.takeWhile_prefix _

end Tag

/-! ### Sections -/

namespace Section

variable {column feed offset : Nat} {text body : List Char}

/-- A line becomes no deeper by a line feed. -/
theorem inBody_append_feed (line : List Char) :
    inBody column (line ++ ['\n']) = inBody column line := by
  have pads : (line ++ ['\n']).takeWhile isPad = line.takeWhile isPad := by
    rw [List.takeWhile_append]
    split
    · rename_i whole
      rw [(List.takeWhile_prefix isPad).eq_of_length whole]
      simp [isPad]
    · rfl
  rw [inBody, inBody, indentWidth, indentWidth, pads, isBlankLine, isBlankLine, List.all_append]
  simp [show isBlank '\n' = true by decide]

/-- The lines of a text stay when a line feed and more is appended, but the last one may get the
line feed. -/
theorem exists_lines_append_feed (ne : text ≠ []) (more : List Char) :
    ∃ above last tail below, lines text = above ++ [last]
      ∧ lines (text ++ '\n' :: more) = above ++ (last ++ tail) :: below
      ∧ (tail = [] ∨ tail = ['\n']) := by
  have feed : lines ('\n' :: more) = ['\n'] :: lines more := by
    simpa using @lines_append_feed [] more (by simp)
  -- only the last line can change, and so the induction goes down to the last character
  induction text with
  | nil => exact absurd rfl ne
  | cons c text ih =>
    by_cases final : text = []
    · -- the last line takes the feed if it does not end by itself
      subst final
      have alone : lines [c] = [[c]] := by simp [lines]
      rw [alone, List.singleton_append, lines]
      split
      · exact ⟨[], [c], [], lines ('\n' :: more), rfl, rfl, .inl rfl⟩
      · rw [feed]
        exact ⟨[], [c], ['\n'], lines more, rfl, rfl, .inr rfl⟩
    · obtain ⟨above, last, tail, below, split, split', small⟩ := ih final
      have ends : endsLine c (text ++ '\n' :: more) = endsLine c text := by
        cases text with
        | nil => exact absurd rfl final
        | cons => rfl
      rw [List.cons_append, lines, lines, ends, split, split']
      split
      · exact ⟨[c] :: above, last, tail, below, by simp, by simp, small⟩
      · cases above with
        | nil => exact ⟨[], c :: last, tail, below, rfl, rfl, small⟩
        | cons first above =>
          exact ⟨(c :: first) :: above, last, tail, below, rfl, rfl, small⟩

/-- A body reaches past a place that it had before if and only if it did so before. -/
theorem lt_bodyLength_append_feed_iff {n : Nat} (hn : n < body.length) (more : List Char) :
    n < bodyLength column (body ++ '\n' :: more) ↔ n < bodyLength column body := by
  have ne : body ≠ [] := List.length_pos_iff.1 (by omega)
  obtain ⟨above, last, tail, below, split, split', small⟩ := exists_lines_append_feed ne more
  have deep : inBody column (last ++ tail) = inBody column last := by
    rcases small with rfl | rfl
    · rw [List.append_nil]
    · exact inBody_append_feed last
  have whole := congrArg List.length (flatten_lines body)
  rw [split, List.flatten_append, List.length_append] at whole
  rw [bodyLength, bodyLength, split, split']
  by_cases all : ∀ line ∈ above, inBody column line = true
  · rw [List.takeWhile_append_of_pos all, List.takeWhile_append_of_pos all, List.takeWhile_cons,
      List.takeWhile_cons, deep]
    split
    · -- the last line belongs to the body, and so does the place in both cases
      simp only [List.takeWhile_nil, List.flatten_append, List.flatten_cons, List.flatten_nil,
        List.length_append, List.length_nil] at whole ⊢
      omega
    · rfl
  · -- a line above the last ends the body, and those behind it do not matter
    have short (others : List (List Char)) :
        (above ++ others).takeWhile (inBody column) = above.takeWhile (inBody column) := by
      rw [List.takeWhile_append, if_neg]
      intro same
      refine all fun line hline => ?_
      rw [← (List.takeWhile_prefix (inBody column)).eq_of_length same] at hline
      exact of_mem_takeWhile hline
    rw [short, short]

/-- A header that is complete within the text is one with more behind the text. -/
theorem headerAt_append_iff (inside : feed < text.length) (more : List Char) :
    HeaderAt (text ++ more) column feed ↔ HeaderAt text column feed := by
  have rowStart {start : Nat} (le : start ≤ text.length) :
      LineStartAt (text ++ more) start ↔ LineStartAt text start := by
    rw [LineStartAt, LineStartAt, charBefore, charBefore, List.take_append_of_le_length le]
  constructor
  · rintro ⟨start, row, atStart, written, isHeader, rfl⟩
    rw [List.drop_append_of_le_length (by omega)] at written
    have short : (row ++ ['\n']).length ≤ (text.drop start).length := by
      rw [List.length_append, List.length_singleton, List.length_drop]
      omega
    exact ⟨start, row, (rowStart (by omega)).1 atStart,
      List.prefix_of_prefix_length_le written (List.prefix_append _ _) short, isHeader, rfl⟩
  · rintro ⟨start, row, atStart, written, isHeader, rfl⟩
    refine ⟨start, row, (rowStart (by omega)).2 atStart, ?_, isHeader, rfl⟩
    rw [List.drop_append_of_le_length (by omega)]
    exact written.trans (List.prefix_append _ _)

/-- What a header governs can be told from how far its body reaches. -/
theorem governs_iff (inside : offset < text.length) : Governs text column feed offset
    ↔ HeaderAt text column feed ∧ feed < offset
      ∧ offset - (feed + 1) < bodyLength column (text.drop (feed + 1)) := by
  have reaches := @lt_bodyLength_iff_lines column (text.drop (feed + 1)) (offset - (feed + 1))
  constructor
  · intro governs
    have := governs.behind
    refine ⟨governs.header, governs.behind, reaches.2 ⟨?_, fun above line below e le => ?_⟩⟩
    · rw [List.length_drop]
      omega
    · exact governs.under above line below e (by omega)
  · rintro ⟨header, behind, lt⟩
    exact ⟨header, behind, fun above line below e le =>
      (reaches.1 lt).2 above line below e (by omega)⟩

/-- **Appending text disturbs no section**: a place of the text lies in one if and only if it does
with a line feed and more behind the text. -/
theorem isInside_append_iff (inside : offset < text.length) (more : List Char) :
    IsInside (text ++ '\n' :: more) offset ↔ IsInside text offset := by
  have longer : offset < (text ++ '\n' :: more).length := by
    rw [List.length_append]
    omega
  have same (column feed : Nat) :
      Governs (text ++ '\n' :: more) column feed offset ↔ Governs text column feed offset := by
    rw [governs_iff longer, governs_iff inside]
    by_cases behind : feed < offset
    · rw [headerAt_append_iff (by omega), List.drop_append_of_le_length (by omega),
        lt_bodyLength_append_feed_iff (by rw [List.length_drop]; omega)]
    · simp [behind]
  simp only [IsInside, longer, inside, same]

end Section

/-! ### Findings -/

/-- The violation with which a check ended: it failed with it, or returned it after a warning. -/
def Verdict.violation? (verdict : Verdict) : Option Violation :=
  match verdict.result with
  | .ok found => found
  | .error failure => some failure.violation

theorem Verdict.violation?_ofFindings (reaction : OnMismatch) (place : Option String)
    (findings : List Finding) :
    (Verdict.ofFindings reaction place findings).violation? = Finding.firstViolation? findings := by
  cases findings with
  | nil => rfl
  | cons f findings =>
    rw [ofFindings, List.isEmpty_cons]
    rcases Finding.firstViolation? (f :: findings) with - | v
    · rfl
    · cases reaction <;> rfl

namespace Finding

variable {styles : List Style} {names : List String} {args : List Value} {doc more : String}

/-- What comes behind the first violation does not matter. -/
theorem firstViolation?_of_extends {findings findings' : List Finding} {v : Violation}
    (h : findings <+: findings') (found : firstViolation? findings = some v) :
    firstViolation? findings' = some v := by
  obtain ⟨later, rfl⟩ := h
  rw [firstViolation?, List.findSome?_append, ← firstViolation?, found]
  rfl

/-- Appending text changes nothing about which tags of a docstring count. -/
theorem counts_append {tag : Tag} (h : tag ∈ Tag.all styles names doc.toList) :
    counts (Section.all (doc.toList ++ '\n' :: more.toList)) tag
      = counts (Section.all doc.toList) tag := by
  have covers := (Tag.isScan_all styles names doc.toList).covers tag h
  rw [Bool.eq_iff_iff, counts_iff, counts_iff, Section.isInside_append_iff (by omega)]

/-- Appending text keeps what is argued, before everything else. -/
theorem arguedIn_append (words : ∀ name ∈ names, IsWordName name) :
    arguedIn styles (some doc) names args
      <+: arguedIn styles (some (doc ++ "\n" ++ more)) names args := by
  have longer : (doc ++ "\n" ++ more).toList = doc.toList ++ '\n' :: more.toList := by simp
  have quiet : isWordAt ('\n' :: more.toList).head? = false := by
    rw [List.head?_cons, isWordAt_some, isWord_eq_false_of_isBlank (by decide)]
  obtain ⟨later, tags⟩ := @Tag.all_append styles names doc.toList _ words quiet
  rw [arguedIn_some, arguedIn_some, argued, argued, longer, ← tags, List.filter_append,
    List.filterMap_append, List.filter_congr fun tag htag => counts_append htag]
  exact List.prefix_append _ _

/-! ### Questions -/

/-- The findings of some records, for which their arguments are asked. -/
def further (call : Call) (names : List String) (records : List (Tag × Value)) :
    Run (List Finding) :=
  Run.inFunction "docparams.extract" "extract" [] (records.mapM (findIn call names))

/-- More records are asked about after the others. -/
theorem extractIn_of_arguedIn_eq {doc doc' : Option String} {later : List (Tag × Value)}
    (h : arguedIn styles doc' names args = arguedIn styles doc names args ++ later) (call : Call) :
    extractIn call styles doc' names args = (do
      let found ← extractIn call styles doc names args
      let others ← further call names later
      return found ++ others) := by
  rw [extractIn, h, List.mapM_append, inFunction, within_bind]
  exact congrArg _ (funext fun found => within_bind _ _ _)

/-- What comes behind a violation is not looked at. -/
theorem followFindings_append {found : List Finding} {v : Violation}
    (violated : firstViolation? found = some v) {call : Call} {inProgram : Bool}
    {reaction : OnMismatch} {place : Value} (others : List Finding) :
    followFindings call inProgram reaction place (found ++ others)
      = followFindings call inProgram reaction place found := by
  have violated' := firstViolation?_of_extends (List.prefix_append found others) violated
  rw [followFindings, followFindings, isEmpty_eq_false_of_firstViolation? violated,
    isEmpty_eq_false_of_firstViolation? violated', violated, violated']
  rfl

/-- A check of arguments follows what extraction finds. -/
theorem on_checkArguments_of_extractIn {styleNames : List String}
    (named : Style.ofNames styleNames = .ok styles) {w : World} {m m₁ : Machine} {call : Call}
    {doc : Option String} {found : List Finding}
    (asked : on (w.ofArguments args).ofJudgment (extractIn call styles doc names args) m
      = (.ok found, m₁)) {inProgram : Bool} {reaction : OnMismatch} {place : Value} :
    on w (checkArguments call inProgram ⟨styleNames, some reaction.name⟩ place doc names args) m
      = on (w.ofArguments args).ofJudgment (followFindings call inProgram reaction place found) m₁ := by
  rw [Judgment.on_checkArguments (CheckOptions.ofNames_of_named named reaction), Judgment.run,
    judgeIn, on_inFunction, ← World.ofJudgment, on_bind, asked]

/-- **Appending text disturbs no finding.** For names that are words and in known styles, the
findings of a docstring are the first ones of the docstring with a line feed and any text behind it.
So a check that ends with a violation ends with it for the longer docstring too, and logs and warns in
the same way. In a running program the longer docstring asks the same arguments for their types, and
then more of them. If these answer too, a violation that was found before is followed as it was. -/
theorem extract_append {styleNames : List String} (known : Style.AreKnown styleNames)
    (words : ∀ name ∈ names, IsWordName name) (doc more : String) (args : List Value) :
    (∃ findings findings', extract (some doc) names args styleNames = .ok findings
      ∧ extract (some (doc ++ "\n" ++ more)) names args styleNames = .ok findings'
      ∧ findings <+: findings'
      ∧ ∀ reaction place verdict v,
          check styleNames reaction place (some doc) names args = .ok verdict →
          verdict.violation? = some v →
          check styleNames reaction place (some (doc ++ "\n" ++ more)) names args
            = .ok verdict)
    ∧ ∃ styles later, Style.ofNames styleNames = .ok styles
      ∧ arguedIn styles (some (doc ++ "\n" ++ more)) names args
        = arguedIn styles (some doc) names args ++ later
      ∧ extractNamed ask styleNames (some (doc ++ "\n" ++ more)) names args = (do
        let found ← extractNamed ask styleNames (some doc) names args
        let others ← further ask names later
        return found ++ others)
      ∧ ∀ w m inProgram reaction place found m₁ others m₂ v,
        on (w.ofArguments args).ofJudgment (extractNamed ask styleNames (some doc) names args) m
          = (.ok found, m₁) →
        on (w.ofArguments args).ofJudgment (further ask names later) m₁ = (.ok others, m₂) →
        firstViolation? found = some v →
        on w (checkArguments ask inProgram ⟨styleNames, some reaction.name⟩ place (some doc) names
            args) m
          = on (w.ofArguments args).ofJudgment
            (followFindings ask inProgram reaction place found) m₁
        ∧ on w (checkArguments ask inProgram ⟨styleNames, some reaction.name⟩ place
            (some (doc ++ "\n" ++ more)) names args) m
          = on (w.ofArguments args).ofJudgment
            (followFindings ask inProgram reaction place found) m₂ := by
  obtain ⟨styles, named, -, found⟩ := extract_of_areKnown known (some doc) names args
  have goesOn : arguedIn styles (some doc) names args
      <+: arguedIn styles (some (doc ++ "\n" ++ more)) names args := arguedIn_append words
  have kept : ofDoc styles (some doc) names args
      <+: ofDoc styles (some (doc ++ "\n" ++ more)) names args := goesOn.map _
  obtain ⟨later, longer⟩ := goesOn
  refine ⟨?_, styles, later, named, longer.symm, ?_, ?_⟩
  · -- values that show their classes plainly: the first violation is among the first findings
    have found' : extract (some (doc ++ "\n" ++ more)) names args styleNames
        = .ok (ofDoc styles (some (doc ++ "\n" ++ more)) names args) := by
      rw [extract, named]
      rfl
    refine ⟨_, _, found, found', kept, fun reaction place verdict v checked violated => ?_⟩
    rw [check_eq_map named] at checked ⊢
    cases e : OnMismatch.ofName reaction with
    | error =>
      rw [e] at checked
      cases checked
    | ok reaction =>
      rw [e] at checked
      obtain rfl : Verdict.ofFindings reaction place _ = verdict := Except.ok.inj checked
      rw [Verdict.violation?_ofFindings] at violated
      rw [Except.map, Verdict.ofFindings_of_firstViolation? violated,
        Verdict.ofFindings_of_firstViolation? (firstViolation?_of_extends kept violated)]
  · rw [extractNamed, extractNamed, named]
    exact extractIn_of_arguedIn_eq longer.symm ask
  · intro w m inProgram reaction place found m₁ others m₂ v asked asked' violated
    rw [extractNamed, named] at asked
    -- the longer docstring goes on asking where the shorter one has been answered
    have asked₂ : on (w.ofArguments args).ofJudgment
        (extractIn ask styles (some (doc ++ "\n" ++ more)) names args) m
          = (.ok (found ++ others), m₂) := by
      rw [extractIn_of_arguedIn_eq longer.symm ask, on_bind, asked]
      simp only [on_bind, asked', on_pure]
    constructor
    · exact on_checkArguments_of_extractIn named asked
    · rw [on_checkArguments_of_extractIn named asked₂, followFindings_append violated]

/-- A header at the end becomes one of a section, the section above it ends no later, and a tag that
is begun at the end is not the one that is found. A check in a running program comes to the same. -/
theorem extract_append_open_end :
    Style.AreKnown ["google", "sphinx"] ∧ (∀ name ∈ ["x", "y"], IsWordName name)
      ∧ ∃ findings findings',
        extract (some "Args:\n    x (int): X\n  :param str\nArgs:") ["x", "y"]
            [.bool true, .bool true] ["google", "sphinx"] = .ok findings
          ∧ extract (some ("Args:\n    x (int): X\n  :param str\nArgs:" ++ "\n"
            ++ "  y (int): Y\nx (int): X")) ["x", "y"] [.bool true, .bool true] ["google", "sphinx"]
              = .ok findings'
          ∧ findings <+: findings'
          ∧ ∀ w m inProgram (reaction : OnMismatch) place,
            on w (checkArguments ask inProgram ⟨["google", "sphinx"], some reaction.name⟩ place
                (some ("Args:\n    x (int): X\n  :param str\nArgs:" ++ "\n"
                  ++ "  y (int): Y\nx (int): X")) ["x", "y"] [.bool true, .bool true]) m
              = on w (checkArguments ask inProgram ⟨["google", "sphinx"], some reaction.name⟩ place
                (some "Args:\n    x (int): X\n  :param str\nArgs:") ["x", "y"]
                [.bool true, .bool true]) m := by
  have known : Style.AreKnown ["google", "sphinx"] :=
    ⟨by decide, by simpa using ⟨⟨.google, rfl⟩, ⟨.sphinx, rfl⟩⟩⟩
  have words : ∀ name ∈ ["x", "y"], IsWordName name := by
    simpa using ⟨isWordName_of_all (by decide) (by decide +kernel),
      isWordName_of_all (by decide) (by decide +kernel)⟩
  obtain ⟨⟨findings, findings', found, found', kept, -⟩, styles, later, named, longer, -, follows⟩ :=
    extract_append known words "Args:\n    x (int): X\n  :param str\nArgs:"
      "  y (int): Y\nx (int): X" [.bool true, .bool true]
  refine ⟨known, words, findings, findings', found, found', kept,
    fun w m inProgram reaction place => ?_⟩
  have made : ∀ v ∈ [.bool true, .bool true], Value.IsAsMade m.store v := by
    intro v hv
    obtain rfl : v = .bool true := by simpa using hv
    exact .of_isDirect rfl
  obtain ⟨_, again, asked⟩ := gives_extractNamed named made
  obtain rfl := Except.ok.inj (found.symm.trans again)
  have answers : ∀ record ∈ later, Gives (findIn ask ["x", "y"] record) m
      (ofTag ["x", "y"] record.1 record.2.typeName) := by
    intro record hr
    have argued := longer ▸ List.mem_append_right _ hr
    exact (made record.2 (mem_of_mem_arguedIn argued).1).typeNameOf.trans (gives_pure _ m)
  have violated : firstViolation? findings = some ⟨"x", "integer", "boolean"⟩ := by
    have run : extract (some "Args:\n    x (int): X\n  :param str\nArgs:") ["x", "y"]
        [.bool true, .bool true] ["google", "sphinx"] = .ok [⟨"x", "integer", "boolean", 0⟩] := by
      decide +kernel
    rw [run] at found
    cases found
    rfl
  obtain ⟨short, long⟩ := follows w m inProgram reaction place _ m _ m _ (asked _)
    (Gives.inFunction (gives_mapM answers) _ _ _ _) violated
  exact long.trans short.symm

end Finding

/-! ### Where what is appended asks more -/

namespace Noticed

/-- Guarded functions of two parameters, of which one speaks of the second parameter too, are given a
text and an instance of a class that asks for a range without a step when it should show which class
it is. -/
def lengthened : Session := program [
  .define (showingBy [] misfitting),
  .define (function "f" 3 [param "a", param "b"] (.str 1 "@param int $a") (some Sample.names) []),
  .define (function "g" 4 [param "a", param "b"] (.str 2 ("@param int $a" ++ "\n" ++ "@param int $b"))
    (some Sample.names) []),
  call (.ofName "f") [.literal (.str 3 "x"), .path ⟨⟨"C", true⟩, []⟩],
  call (.ofName "g") [.literal (.str 3 "x"), .path ⟨⟨"C", true⟩, []⟩]]

end Noticed

open Noticed

/-- **What is appended can ask an argument that does not answer.** Then there are no findings of the
longer docstring, although there are some of the docstring, and no violation is reported. -/
theorem extract_append_unanswered :
    silentEnding "@param int $a" ["a", "b"] ([.int 5 1, ·]) = .fine
      ∧ silentEnding ("@param int $a" ++ "\n" ++ "@param int $b") ["a", "b"] ([.int 5 1, ·]) = noStep
      ∧ seen lengthened = [(.fine, []), (.fine, []), (.fine, []), (.mismatch, []),
        (noStep, ["get"])] := by
  refine ⟨?_, ?_, ?_⟩ <;> decide +kernel

end DocGuard

import DocGuard.Proofs.Finding
import DocGuard.Proofs.Section
import DocGuard.Proofs.Text.Indent
/-!
Which places of a text lie in an argument section.

A header governs a place behind it if no line from the header's next one to that of the place ends
the section: each is white space, or its spaces and tabs lead further than those of the header
(`Section.Governs`). The sections that are found hold exactly the places that some header governs
(`Section.exists_holds_iff`). Rows and lines are cut by different rules, so that a header's row may
be followed by several lines before the next row; nothing is assumed here about how they lie.

An entry in google style begins a row, and its name is no white space, so that the line it begins is
as deep as the entry. A section that holds it is governed by a header less deep
(`Section.Governs.lt_indent`).
-/

namespace DocGuard

open Text

namespace Section

variable {column feed offset : Nat} {text body : List Char}

/-! ### Headers and the places they govern -/

/-- The column that the spaces and tabs at the start of a text reach, tabs expanded. -/
def indent (text : List Char) : Nat :=
  (expandTabs 0 (text.takeWhile isPad)).length

/-- The line belongs under a header at this column: it is white space, or it is deeper. -/
def IsUnder (column : Nat) (line : List Char) : Prop :=
  (∀ c ∈ line, isBlank c = true) ∨ column < indent line

/-- A header stands in the text, its title at `column` and the line feed behind it at `feed`. -/
def HeaderAt (text : List Char) (column feed : Nat) : Prop :=
  ∃ start row, LineStartAt text start ∧ row ++ ['\n'] <+: text.drop start
    ∧ IsHeader column row ∧ feed = start + row.length

/-- The header at `column` whose line feed stands at `feed` governs a place: all lines behind it
that begin at the place or before belong under the header. -/
structure Governs (text : List Char) (column feed offset : Nat) : Prop where
  header : HeaderAt text column feed
  behind : feed < offset
  under : ∀ above line below, lines (text.drop (feed + 1)) = above ++ line :: below →
    feed + 1 + above.flatten.length ≤ offset → IsUnder column line

/-- The place lies in a section: it is one of the text, and some header governs it. -/
def IsInside (text : List Char) (offset : Nat) : Prop :=
  offset < text.length ∧ ∃ column feed, Governs text column feed offset

theorem indent_eq (text : List Char) : indent text = indentWidth text := by
  have pads : IsPadding (text.takeWhile isPad) := fun c => of_mem_takeWhile
  rw [indent, expandTabs_of_isPadding pads, List.length_replicate]
  rfl

theorem inBody_iff {line : List Char} : inBody column line = true ↔ IsUnder column line := by
  rw [inBody, Bool.or_eq_true, isBlankLine, List.all_eq_true, decide_eq_true_iff, IsUnder,
    indent_eq]

/-! ### Bodies, line by line -/

/-- What is said of the lines up to a place is said of the first line, and of those behind it up to
the place. -/
theorem forall_upTo_cons_iff {q : List Char → Prop} {first : List Char} {ls : List (List Char)}
    {n : Nat} :
    (∀ above line below, first :: ls = above ++ line :: below → above.flatten.length ≤ n → q line)
      ↔ q first ∧ ∀ above line below, ls = above ++ line :: below →
          first.length + above.flatten.length ≤ n → q line := by
  constructor
  · intro all
    refine ⟨all [] first ls rfl (Nat.zero_le n), fun above line below e le => ?_⟩
    refine all (first :: above) line below (by rw [e, List.cons_append]) ?_
    rwa [List.flatten_cons, List.length_append]
  · rintro ⟨h, all⟩ above line below e le
    cases above with
    | nil =>
      obtain ⟨rfl, -⟩ := List.cons.inj e
      exact h
    | cons a above =>
      obtain ⟨rfl, rfl⟩ := List.cons.inj e
      rw [List.flatten_cons, List.length_append] at le
      exact all above line below rfl le

/-- A place lies in the first lines that satisfy `p` if it lies in the lines at all, and no line up
to that of the place fails. -/
theorem lt_length_takeWhile_iff {p : List Char → Bool} {ls : List (List Char)} {n : Nat} :
    n < (ls.takeWhile p).flatten.length ↔ n < ls.flatten.length
      ∧ ∀ above line below, ls = above ++ line :: below → above.flatten.length ≤ n →
        p line = true := by
  induction ls generalizing n with
  | nil => simp
  | cons first ls ih =>
    rw [forall_upTo_cons_iff]
    by_cases h : p first = true
    · rw [List.takeWhile_cons_of_pos h, List.flatten_cons, List.flatten_cons, List.length_append,
        List.length_append]
      by_cases inside : n < first.length
      · -- the place lies in the first line, which is the only one that counts
        exact iff_of_true (by omega) ⟨by omega, h, fun above line below _ le => by omega⟩
      · have behind (k : Nat) : n < first.length + k ↔ n - first.length < k := by omega
        have upTo (k : Nat) : first.length + k ≤ n ↔ k ≤ n - first.length := by omega
        rw [behind, behind, ih]
        simp only [upTo, h, true_and]
    · rw [List.takeWhile_cons_of_neg h]
      exact iff_of_false (Nat.not_lt_zero n) fun ⟨_, holds, _⟩ => h holds

/-- A body reaches past a place of it if all lines up to that of the place belong under the header.
-/
theorem lt_bodyLength_iff_lines {n : Nat} : n < bodyLength column body ↔ n < body.length
    ∧ ∀ above line below, lines body = above ++ line :: below → above.flatten.length ≤ n →
      IsUnder column line := by
  simp only [bodyLength, lt_length_takeWhile_iff, flatten_lines, inBody_iff]

/-! ### The sections that are found -/

/-- A text that begins with a header holds the line feed behind it. -/
theorem feed_mem_of_header? (h : header? text = some (column, body)) : '\n' ∈ text := by
  obtain ⟨row, rfl, -⟩ := header?_eq_some_iff.1 h
  simp

/-- A section is found where a text begins with a header, and its body is what follows. -/
theorem at?_eq_some_iff {s : Section} : at? offset text = some s ↔
    ∃ column row body, text = row ++ '\n' :: body ∧ IsHeader column row
      ∧ s = ⟨offset + row.length + 1, offset + row.length + 1 + bodyLength column body⟩ := by
  have length (row body : List Char) :
      (row ++ '\n' :: body).length - body.length = row.length + 1 := by
    rw [List.length_append, List.length_cons]
    omega
  rw [at?, Option.map_eq_some_iff]
  constructor
  · rintro ⟨⟨column, body⟩, h, rfl⟩
    obtain ⟨row, rfl, isHeader⟩ := header?_eq_some_iff.1 h
    refine ⟨column, row, body, rfl, isHeader, ?_⟩
    simp only [length, ← Nat.add_assoc]
  · rintro ⟨column, row, body, rfl, isHeader, rfl⟩
    refine ⟨(column, body), header?_eq_some_iff.2 ⟨row, rfl, isHeader⟩, ?_⟩
    simp only [length, ← Nat.add_assoc]

/-- The search through a text finds the sections of all headers that begin a row. -/
theorem mem_scan_iff {s : Section} {front : List Char} :
    s ∈ scan front.length (atLineStart front.getLast?) text ↔ ∃ start, front.length ≤ start
      ∧ LineStartAt (front ++ text) start ∧ at? start ((front ++ text).drop start) = some s := by
  -- by induction on what is left to scan, where `front` is what was passed
  induction text generalizing front with
  | nil =>
    refine iff_of_false List.not_mem_nil fun ⟨start, le, _, found⟩ => ?_
    rw [List.append_nil, List.drop_of_length_le le] at found
    cases found
  | cons c rest ih =>
    have next := @ih (front ++ [c])
    have row : atLineStart (front ++ [c]).getLast? = (c == '\n') := by
      rw [List.getLast?_concat]
      rfl
    rw [row, List.length_append, List.length_singleton, List.append_assoc,
      List.singleton_append] at next
    rw [scan, List.mem_append, next]
    constructor
    · rintro (here | ⟨start, le, later⟩)
      · split at here
        · rename_i rowStart
          refine ⟨front.length, Nat.le_refl _, Layout.lineStartAt_append_iff.2 rowStart, ?_⟩
          rw [List.drop_left]
          exact Option.mem_toList.1 here
        · cases here
      · exact ⟨start, by omega, later⟩
    · rintro ⟨start, le, rowStart, found⟩
      by_cases here : start = front.length
      · left
        subst here
        rw [List.drop_left] at found
        rw [if_pos (Layout.lineStartAt_append_iff.1 rowStart)]
        exact Option.mem_toList.2 found
      · exact .inr ⟨start, by omega, rowStart, found⟩

theorem mem_all_iff {s : Section} : s ∈ all text ↔
    ∃ start, LineStartAt text start ∧ at? start (text.drop start) = some s := by
  have found := @mem_scan_iff text s []
  simp only [List.nil_append, List.length_nil, Nat.zero_le, true_and] at found
  exact found

/-- What stands behind the line feed of a row, cut from the whole text. -/
theorem drop_behind {start : Nat} {row : List Char} (cut : text.drop start = row ++ '\n' :: body) :
    text.drop (start + row.length + 1) = body := by
  rw [Nat.add_assoc, ← List.drop_drop, cut, ← List.drop_drop, List.drop_left]
  rfl

theorem holds_iff {s : Section} : s.holds offset = true ↔ s.start ≤ offset ∧ offset < s.stop := by
  rw [holds, Bool.and_eq_true, decide_eq_true_iff, decide_eq_true_iff]

/-- The section of a header holds the places of the text that the header governs. -/
theorem holds_iff_governs {start : Nat} {row : List Char}
    (cut : text.drop start = row ++ '\n' :: body) (rowStart : LineStartAt text start)
    (isHeader : IsHeader column row) :
    (⟨start + row.length + 1, start + row.length + 1 + bodyLength column body⟩ : Section).holds
        offset = true
      ↔ offset < text.length ∧ Governs text column (start + row.length) offset := by
  have behind := drop_behind cut
  have length := congrArg List.length behind
  have header : HeaderAt text column (start + row.length) :=
    ⟨start, row, rowStart, ⟨body, by simp [cut]⟩, isHeader, rfl⟩
  -- the body begins behind the line feed of the header, and so do the lines that are looked at
  have reaches := @lt_bodyLength_iff_lines column body (offset - (start + row.length + 1))
  rw [List.length_drop] at length
  rw [holds_iff]
  constructor
  · rintro ⟨le, lt⟩
    simp only at le lt
    obtain ⟨inside, under⟩ := reaches.1 (by omega)
    refine ⟨by omega, header, by omega, fun above line below e le' => ?_⟩
    rw [behind] at e
    exact under above line below e (by omega)
  · rintro ⟨inside, governs⟩
    have := governs.behind
    have lt := reaches.2 ⟨by omega, fun above line below e le =>
      governs.under above line below (by rw [behind, e]) (by omega)⟩
    exact ⟨by simp only; omega, by simp only; omega⟩

/-- **The sections hold what the headers govern**: a place lies in one of them if and only if no
line from some header to that of the place ends the header's section. -/
theorem exists_holds_iff : (∃ s ∈ all text, s.holds offset = true) ↔ IsInside text offset := by
  constructor
  · rintro ⟨s, hs, held⟩
    obtain ⟨start, rowStart, found⟩ := mem_all_iff.1 hs
    obtain ⟨column, row, body, cut, isHeader, rfl⟩ := at?_eq_some_iff.1 found
    obtain ⟨inside, governs⟩ := (holds_iff_governs cut rowStart isHeader).1 held
    exact ⟨inside, column, _, governs⟩
  · rintro ⟨inside, column, feed, governs⟩
    obtain ⟨start, row, rowStart, ⟨body, cut⟩, isHeader, rfl⟩ := governs.header
    have cut : text.drop start = row ++ '\n' :: body := by simpa using cut.symm
    exact ⟨_, mem_all_iff.2 ⟨start, rowStart,
      at?_eq_some_iff.2 ⟨column, row, body, cut, isHeader, rfl⟩⟩,
      (holds_iff_governs cut rowStart isHeader).2 ⟨inside, governs⟩⟩

/-! ### Entries -/

/-- What stands between two places of a text, the second of which begins a row, ends with a line
feed. -/
theorem exists_between {start : Nat} (rowStart : LineStartAt text offset) (pos : 0 < offset)
    (le : start ≤ offset) (inside : offset ≤ text.length) :
    ∃ between, text.drop start = between ++ text.drop offset ∧ between.length = offset - start
      ∧ (between = [] ∨ between.getLast? = some '\n') := by
  have length : (text.take offset).length = offset := List.length_take_of_le inside
  have last : (text.take offset).getLast? = some '\n' := rowStart.resolve_left (by omega)
  refine ⟨(text.take offset).drop start, ?_, by rw [List.length_drop, length], ?_⟩
  · rw [← List.drop_append_of_le_length (by omega), List.take_append_drop]
  · rw [List.getLast?_drop, last]
    by_cases short : (text.take offset).length ≤ start
    · exact .inl (List.drop_of_length_le short)
    · exact .inr (if_neg short)

/-- What begins a row behind a header that governs it, with something visible behind its spaces and
tabs, stands deeper than the header. -/
theorem Governs.lt_indent (h : Governs text column feed offset) (rowStart : LineStartAt text offset)
    {margin rest : List Char} {c : Char} (cut : text.drop offset = margin ++ c :: rest)
    (hmargin : IsPadding margin) (hc : isBlank c = false) :
    column < indent (text.drop offset) := by
  have inside : offset < text.length := by
    have length := congrArg List.length cut
    rw [List.length_drop, List.length_append, List.length_cons] at length
    omega
  have visible (rest : List Char) : (c :: rest).head?.any isPad = false :=
    isPad_eq_false_of_isBlank_eq_false hc
  have noBreak : ∀ d ∈ margin ++ [c], isLineBreak d = false := by
    intro d hd
    rcases List.mem_append.1 hd with hd | hd
    · exact isLineBreak_eq_false_of_isPad (hmargin d hd)
    · rw [List.mem_singleton.1 hd]
      exact isLineBreak_eq_false_of_isBlank_eq_false hc
  have first : lines (text.drop offset)
      = (margin ++ c :: (lines rest).headD []) :: (lines rest).tail := by
    have line := lines_append_of_noBreak noBreak (by simp) rest
    rw [cut]
    simpa using line
  have pos := h.behind
  -- the row begins a line, so that the header's lines go on with those of what stands there
  obtain ⟨between, cut', place, ends⟩ :=
    exists_between rowStart (by omega) (Nat.succ_le_of_lt pos) (Nat.le_of_lt inside)
  have whole : lines (text.drop (feed + 1)) = lines between ++ lines (text.drop offset) := by
    rw [cut', lines_append ends]
  rw [first] at whole
  have under := h.under _ _ _ whole (by
    rw [flatten_lines, place]
    omega)
  rcases under with blank | deeper
  · rw [blank c (by simp)] at hc
    cases hc
  · rw [indent, takeWhile_append_of_head? hmargin (visible _)] at deeper
    rw [indent, cut, takeWhile_append_of_head? hmargin (visible rest)]
    exact deeper

/-- An entry in google style stands deeper than every header that governs it. -/
theorem Governs.lt_indent_of_fits {l : Layout} (h : Governs text column feed offset)
    (fits : l.Fits text offset) (style : l.style = .google) :
    column < indent (text.drop offset) := by
  obtain ⟨rest, leads⟩ := fits.leads
  cases l with
  | phpdoc => cases style
  | sphinx => cases style
  | google margin name pad pad' token pad'' remark last =>
    have cut : text.drop offset = margin ++ (name.toList
        ++ ((Layout.google margin name pad pad' token pad'' remark last).closing ++ rest)) := by
      rw [leads.written]
      simp only [Layout.text, Layout.opening, Layout.name, List.append_assoc]
    have edge := leads.edge
    rw [Layout.name] at edge
    generalize name.toList ++ ((Layout.google margin name pad pad' token pad'' remark last).closing
      ++ rest) = visible at cut edge
    cases visible with
    | nil => cases edge
    | cons c visible =>
      exact h.lt_indent (fits.lineStart rfl) cut leads.regular.2.1
        (isBlank_eq_false_of_isWord edge)

/-- Whether a place lies in a section is decided by finding the sections. -/
instance (text : List Char) (offset : Nat) : Decidable (IsInside text offset) :=
  decidable_of_iff (∃ s ∈ all text, s.holds offset = true) exists_holds_iff

end Section

namespace Finding

open Section

/-- A tag counts if it is in google style only where it lies in a section. -/
theorem counts_eq_true_iff {sections : List Section} {tag : Tag} : counts sections tag = true
    ↔ (tag.style = .google → ∃ s ∈ sections, s.holds tag.start = true) := by
  rw [counts, Bool.or_eq_true, bne_iff_ne, List.any_eq_true, Decidable.imp_iff_not_or]

theorem counts_iff {text : List Char} {tag : Tag} : counts (Section.all text) tag = true
    ↔ (tag.style = .google → IsInside text tag.start) := by
  rw [counts_eq_true_iff, exists_holds_iff]

/-- **Sections hold what headers govern, and entries count inside of them.** A place of a docstring
lies in a section that is found if and only if it lies in the text and no line up to its own ends
the section of some header before it. Of the tags of the docstring, findings come from those in
google style that lie in a section and from all in other styles; and every entry that lies in a
section is deeper than each header that governs it. -/
theorem extract_eq_inside (doc : String) (names : List String) (args : List Value)
    (styleNames : List String) (known : Style.AreKnown styleNames) :
    (∀ offset, (∃ s ∈ Section.all doc.toList, s.start ≤ offset ∧ offset < s.stop)
        ↔ IsInside doc.toList offset)
      ∧ ∃ styles tags, Style.ofNames styleNames = .ok styles
        ∧ tags = Tag.all styles names doc.toList
        ∧ extract (some doc) names args styleNames
          = .ok ((tags.filter fun tag =>
              decide (tag.style = .google → IsInside doc.toList tag.start)).filterMap fun tag =>
                (argument? names args tag.name).map fun v => ofTag names tag v.typeName)
        ∧ ∀ tag ∈ tags, tag.style = .google → ∀ column feed,
          Governs doc.toList column feed tag.start →
            column < indent (doc.toList.drop tag.start) := by
  obtain ⟨styles, found, -, extracted⟩ := extract_of_areKnown known (some doc) names args
  refine ⟨fun offset => ?_, styles, _, found, rfl, ?_, fun tag htag google column feed governs => ?_⟩
  · simp only [← exists_holds_iff, holds_iff]
  · have kept : (fun tag : Tag => decide (tag.style = .google → IsInside doc.toList tag.start))
        = counts (Section.all doc.toList) :=
      funext fun tag => Bool.eq_iff_iff.2 (decide_eq_true_iff.trans counts_iff.symm)
    rw [extracted, ofDoc_some, kept]
  · obtain ⟨l, written⟩ := (Tag.isScan_all styles names doc.toList).written tag htag
    have style : tag.style = l.style := congrArg Tag.style written.eq
    exact governs.lt_indent_of_fits written.fits (style ▸ google)

/-- A form feed ends a line, and so may end a section in the midst of a row. -/
theorem extract_eq_inside_form_feed :
    Style.AreKnown ["google"]
      ∧ IsInside "Args:\n\tx (int): X\u000cends\n\ty (int): Y".toList 6
      ∧ ¬ IsInside "Args:\n\tx (int): X\u000cends\n\ty (int): Y".toList 22
      ∧ 0 < indent ("Args:\n\tx (int): X\u000cends\n\ty (int): Y".toList.drop 6) := by
  have known : Style.AreKnown ["google"] := ⟨by decide, by simpa using ⟨.google, rfl⟩⟩
  obtain ⟨inside, styles, tags, found, rfl, -, deeper⟩ := extract_eq_inside
    "Args:\n\tx (int): X\u000cends\n\ty (int): Y" ["x", "y"] [.bool true, .bool true] ["google"]
    known
  obtain rfl : [Style.google] = styles := Except.ok.inj found
  have first : IsInside "Args:\n\tx (int): X\u000cends\n\ty (int): Y".toList 6 :=
    (inside 6).1 (by decide +kernel)
  refine ⟨known, first, fun second => ?_, ?_⟩
  · exact absurd ((inside 22).2 second) (by decide +kernel)
  · obtain ⟨-, column, feed, governs⟩ := first
    exact Nat.zero_lt_of_lt (deeper ⟨.google, "int", "x", 6, 15⟩ (by decide +kernel) rfl column feed
      governs)

end Finding

end DocGuard

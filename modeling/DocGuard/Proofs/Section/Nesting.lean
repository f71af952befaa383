import DocGuard.Proofs.Section.Membership
/-!
How argument sections lie to each other.

A header can stand in the body of another section, and then its section ends no later: what is
deeper than the inner header is deeper than the outer one too. Otherwise the outer section has ended
before the inner header begins. Both come from one comparison. The body of the outer section reaches
over what stands before the inner header, over the header's line, and then as far as its own measure
of what follows, or else it ends before the header (`Section.bodyLength_append_header`); and of two
measures of one text the one with the lesser column reaches further (`Section.bodyLength_anti`).

Headers are cut at line feeds, and bodies at every line break. A header's row has no line break in
it, so that it is one line of every body that it stands in.
-/

namespace DocGuard

open Text

namespace Section

variable {column column' place place' offset : Nat} {text between body row rest : List Char}
variable {s t : Section}

/-! ### Bodies -/

/-- What is deep enough under a deeper header is deep enough. -/
theorem bodyLength_anti (h : column ≤ column') (body : List Char) :
    bodyLength column' body ≤ bodyLength column body := by
  refine Nat.le_of_not_lt fun further => ?_
  obtain ⟨inside, under⟩ := lt_bodyLength_iff_lines.1 further
  exact Nat.lt_irrefl _ (lt_bodyLength_iff_lines.2 ⟨inside, fun above line below e le =>
    (under above line below e le).imp_right (Nat.lt_of_le_of_lt h)⟩)

/-! ### The line of a header -/

theorem IsHeader.noBreak (h : IsHeader column row) : ∀ c ∈ row, isLineBreak c = false := by
  obtain ⟨pads, title, pads', rfl, hpads, hpads', htitle, -⟩ := h
  intro c hc
  rcases List.mem_append.1 hc with hc | hc
  · rcases List.mem_append.1 hc with hc | hc
    · exact isLineBreak_eq_false_of_isPad (hpads c hc)
    · have plain : title.any isLineBreak = false := by
        rcases htitle with rfl | rfl <;> decide
      exact eq_false_of_any plain c hc
  · exact isLineBreak_eq_false_of_isPad (hpads' c hc)

/-- A header's line belongs under another header if its title stands deeper. -/
theorem IsHeader.inBody_iff (h : IsHeader column' row) :
    inBody column (row ++ ['\n']) = true ↔ column < column' := by
  obtain ⟨pads, title, pads', rfl, hpads, -, htitle, rfl⟩ := h
  have visible : isBlank 'A' = false := by decide
  obtain ⟨tail, cut⟩ : ∃ tail, pads ++ title ++ pads' ++ ['\n'] = pads ++ 'A' :: tail := by
    rcases htitle with rfl | rfl <;> exact ⟨_, by simp; rfl⟩
  rw [cut, inBody_append hpads visible, decide_eq_true_iff]

/-- A body reaches over what stands before a header and over the header's line, and goes on behind
it, if the header's title stands deeper; or else it ends before the header. -/
theorem bodyLength_append_header (ends : between = [] ∨ between.getLast? = some '\n')
    (isHeader : IsHeader column' row) (column : Nat) (rest : List Char) :
    (column < column' ∧ bodyLength column (between ++ (row ++ '\n' :: rest))
        = between.length + (row.length + 1) + bodyLength column rest)
      ∨ bodyLength column (between ++ (row ++ '\n' :: rest)) ≤ between.length := by
  have one : lines (row ++ ['\n']) = [row ++ ['\n']] := lines_append_feed isHeader.noBreak
  -- the body gets as far as the header if nothing before the header ends it
  by_cases deep : ∀ line ∈ lines between, inBody column line = true
  · rw [bodyLength_append ends deep]
    by_cases deeper : column < column'
    · have line : ∀ line ∈ lines (row ++ ['\n']), inBody column line = true := by
        simpa [one] using isHeader.inBody_iff.2 deeper
      have whole : row ++ '\n' :: rest = row ++ ['\n'] ++ rest := by simp
      rw [whole, bodyLength_append (by simp) line, List.length_append, List.length_singleton]
      exact .inl ⟨deeper, (Nat.add_assoc ..).symm⟩
    · have first : lines (row ++ '\n' :: rest) = (row ++ ['\n']) :: lines rest :=
        lines_append_feed isHeader.noBreak
      have none : ¬ 0 < bodyLength column (row ++ '\n' :: rest) := by
        rw [bodyLength_pos_iff (by simp), first, List.headD_cons, isHeader.inBody_iff]
        exact deeper
      exact .inr (by omega)
  · exact .inr (bodyLength_append_le ends deep _)

/-! ### Headers of sections -/

/-- The section is that of a header: the header's row begins at `place`, its title stands at
`column`, and the section begins behind the line feed of the row. -/
structure HasHeader (text : List Char) (column place : Nat) (s : Section) : Prop where
  rowStart : LineStartAt text place
  row : ∃ row, row ++ ['\n'] <+: text.drop place ∧ IsHeader column row
    ∧ s.start = place + row.length + 1

/-- No line feed stands in the row of a header. -/
theorem HasHeader.noFeed (h : HasHeader text column place s) (le : place ≤ offset)
    (lt : offset + 1 < s.start) : text[offset]? ≠ some '\n' := by
  obtain ⟨row, ⟨body, cut⟩, isHeader, start⟩ := h.row
  intro feed
  have inside : offset - place < row.length := by omega
  have here : text[offset]? = row[offset - place]? := by
    have shift : (text.drop place)[offset - place]? = text[offset]? := by
      rw [List.getElem?_drop, Nat.add_sub_cancel' le]
    rw [← shift, ← cut, List.append_assoc, List.getElem?_append_left inside]
  exact isHeader.noFeed (List.mem_of_getElem? (here.symm.trans feed))

theorem HasHeader.lt_length (h : HasHeader text column place s) : place < text.length := by
  obtain ⟨row, ⟨body, cut⟩, -⟩ := h.row
  have length := congrArg List.length cut
  simp only [List.length_append, List.length_singleton, List.length_drop] at length
  omega

/-- A section has one header. -/
theorem HasHeader.unique (h : HasHeader text column place s)
    (h' : HasHeader text column' place' s) : column = column' ∧ place = place' := by
  have le {column column' place place' : Nat} (h : HasHeader text column place s)
      (h' : HasHeader text column' place' s) : place' ≤ place := by
    obtain ⟨row', -, -, start⟩ := h'.row
    refine Nat.le_of_not_lt fun lt => ?_
    have feed := h'.rowStart.feed (Nat.zero_lt_of_lt lt) (Nat.le_of_lt h'.lt_length)
    exact h.noFeed (by omega) (by omega) feed
  obtain rfl : place = place' := Nat.le_antisymm (le h' h) (le h h')
  obtain ⟨row, ⟨body, cut⟩, isHeader, -⟩ := h.row
  obtain ⟨row', ⟨body', cut'⟩, isHeader', -⟩ := h'.row
  have same : row ++ '\n' :: body = row' ++ '\n' :: body' := by simpa using cut.trans cut'.symm
  obtain ⟨rfl, rfl⟩ := append_feed_inj isHeader.noFeed isHeader'.noFeed same
  have read := header?_eq_some_iff.2 ⟨row, Eq.refl (row ++ '\n' :: body), isHeader⟩
  rw [header?_eq_some_iff.2 ⟨row, rfl, isHeader'⟩] at read
  cases read
  exact ⟨rfl, rfl⟩

/-- The sections that are found are those of headers, each as long as the measure of its body. -/
theorem mem_all_iff_hasHeader : s ∈ all text ↔ ∃ column place, HasHeader text column place s
    ∧ s.stop = s.start + bodyLength column (text.drop s.start) := by
  rw [mem_all_iff]
  constructor
  · rintro ⟨place, rowStart, found⟩
    obtain ⟨column, row, body, cut, isHeader, rfl⟩ := at?_eq_some_iff.1 found
    refine ⟨column, place, ⟨rowStart, row, ⟨body, by simp [cut]⟩, isHeader, rfl⟩, ?_⟩
    simp only [drop_behind cut]
  · rintro ⟨column, place, h, stop⟩
    obtain ⟨row, ⟨body, cut⟩, isHeader, start⟩ := h.row
    have cut : text.drop place = row ++ '\n' :: body := by simpa using cut.symm
    refine ⟨place, h.rowStart, at?_eq_some_iff.2 ⟨column, row, body, cut, isHeader, ?_⟩⟩
    rw [start, drop_behind cut] at stop
    show Section.mk s.start s.stop = _
    rw [start, stop]

/-- A section is as long as the measure of its body under its header. -/
theorem HasHeader.stop_eq (h : HasHeader text column place s) (hs : s ∈ all text) :
    s.stop = s.start + bodyLength column (text.drop s.start) := by
  obtain ⟨column', place', h', stop⟩ := mem_all_iff_hasHeader.1 hs
  rwa [(h.unique h').1]

/-! ### One section -/

/-- A section ends at this place for its header at `column`: a line begins there that is not blank
and stands no deeper than the header. -/
def EndsAt (text : List Char) (column place : Nat) : Prop :=
  ∃ above line below, lines text = above ++ line :: below ∧ above.flatten.length = place
    ∧ (∃ c ∈ line, isBlank c = false) ∧ indent line ≤ column

/-- The section lies in the text, begins a row, and ends with the text or where a line ends it. -/
structure Delimited (text : List Char) (column : Nat) (s : Section) : Prop where
  start_pos : 0 < s.start
  start_le_stop : s.start ≤ s.stop
  stop_le_length : s.stop ≤ text.length
  behindFeed : charBefore text s.start = some '\n'
  ends : s.stop = text.length ∨ EndsAt text column s.stop

theorem HasHeader.lt_start (h : HasHeader text column place s) : place < s.start := by
  obtain ⟨row, -, -, start⟩ := h.row
  omega

theorem HasHeader.start_pos (h : HasHeader text column place s) : 0 < s.start :=
  Nat.zero_lt_of_lt h.lt_start

theorem HasHeader.start_le_length (h : HasHeader text column place s) : s.start ≤ text.length := by
  obtain ⟨row, ⟨body, cut⟩, -, start⟩ := h.row
  have length := congrArg List.length cut
  have := h.lt_length
  simp only [List.length_append, List.length_singleton, List.length_drop] at length
  omega

theorem HasHeader.charBefore_start (h : HasHeader text column place s) :
    charBefore text s.start = some '\n' := by
  obtain ⟨row, ⟨body, cut⟩, -, start⟩ := h.row
  have whole : text = text.take place ++ row ++ ['\n'] ++ body := by
    rw [List.append_assoc, List.append_assoc, ← List.append_assoc row, cut, List.take_append_drop]
  have length : (text.take place ++ row ++ ['\n']).length = s.start := by
    rw [start, List.length_append, List.length_append, List.length_singleton,
      List.length_take_of_le (Nat.le_of_lt h.lt_length)]
  have last : charBefore (text.take place ++ row ++ ['\n'] ++ body)
      (text.take place ++ row ++ ['\n']).length = some '\n' := by
    rw [charBefore_append, List.getLast?_concat]
  rwa [length, ← whole] at last

/-- The line at which a body stops is not blank and no deeper than the header. -/
theorem endsAt_of_bodyLength (ends : between = [] ∨ between.getLast? = some '\n')
    (short : bodyLength column body ≠ body.length) :
    EndsAt (between ++ body) column (between.length + bodyLength column body) := by
  have cut := (List.takeWhile_append_dropWhile (p := inBody column) (l := lines body)).symm
  rcases e : (lines body).dropWhile (inBody column) with - | ⟨line, below⟩
  · rw [e, List.append_nil] at cut
    rw [bodyLength, ← cut, flatten_lines] at short
    exact absurd rfl short
  · have stops : inBody column line = false := by
      have head := head?_dropWhile (inBody column) (lines body)
      rwa [e] at head
    obtain ⟨filled, shallow⟩ : ¬ (∀ c ∈ line, isBlank c = true) ∧ ¬ column < indent line := by
      rw [← not_or]
      exact fun under => Bool.eq_false_iff.1 stops (inBody_iff.2 under)
    rw [e] at cut
    refine ⟨lines between ++ (lines body).takeWhile (inBody column), line, below, ?_, ?_, ?_,
      Nat.le_of_not_lt shallow⟩
    · rw [lines_append ends, List.append_assoc, ← cut]
    · rw [List.flatten_append, List.length_append, flatten_lines, bodyLength]
    · simpa using filled

theorem HasHeader.delimited (h : HasHeader text column place s) (hs : s ∈ all text) :
    Delimited text column s := by
  have stop := h.stop_eq hs
  have reach := bodyLength_le column (text.drop s.start)
  have inside := h.start_le_length
  have before := h.charBefore_start
  have length : (text.take s.start).length = s.start := List.length_take_of_le inside
  rw [List.length_drop] at reach
  refine ⟨h.start_pos, by omega, by omega, before, ?_⟩
  by_cases whole : bodyLength column (text.drop s.start) = (text.drop s.start).length
  · rw [List.length_drop] at whole
    exact .inl (by omega)
  · have ends := endsAt_of_bodyLength (.inr before) whole
    rw [List.take_append_drop, length, ← stop] at ends
    exact .inr ends

/-! ### Their order -/

/-- A text without a line feed has no sections. -/
theorem scan_of_noFeed {rowStart : Bool} (noFeed : '\n' ∉ text) :
    scan offset rowStart text = [] := by
  induction text generalizing offset rowStart with
  | nil => rfl
  | cons c text ih =>
    have none : at? offset (c :: text) = none := by
      rw [at?, Option.map_eq_none_iff, Option.eq_none_iff_forall_ne_some]
      exact fun _ header => noFeed (feed_mem_of_header? header)
    rw [scan, none, ih fun feed => noFeed (List.mem_cons_of_mem c feed)]
    cases rowStart <;> rfl

/-- Sections are found in the order in which they start. -/
theorem pairwise_start_scan (offset : Nat) (text : List Char) :
    (scan offset true text).Pairwise fun s t => s.start < t.start := by
  -- row by row: the first row gives at most one section, which begins with the next row
  by_cases feed : '\n' ∈ text
  · obtain ⟨row, rest, rfl, noFeed⟩ := List.eq_append_cons_of_mem feed
    have later := pairwise_start_scan (offset + row.length + 1) rest
    rw [scan_row noFeed, List.pairwise_append]
    refine ⟨?_, later, fun s hs t ht => ?_⟩
    · cases at? offset (row ++ '\n' :: rest) with
      | none => exact .nil
      | some s => exact List.pairwise_singleton _ s
    · obtain ⟨_, row', _, cut, isHeader, rfl⟩ := at?_eq_some_iff.1 (Option.mem_toList.1 hs)
      obtain ⟨rfl, -⟩ := append_feed_inj noFeed isHeader.noFeed cut
      exact lt_start_of_mem_scan ht
  · rw [scan_of_noFeed feed]
    exact .nil
termination_by text.length
decreasing_by
  subst_vars
  simp only [List.length_append, List.length_cons]
  omega

/-! ### Two sections -/

/-- The second section lies in the first one, and its header stands deeper. -/
structure Encloses (column column' : Nat) (s t : Section) : Prop where
  deeper : column < column'
  start_lt_start : s.start < t.start
  start_le_stop : t.start ≤ t.stop
  stop_le_stop : t.stop ≤ s.stop

/-- The header of a section that begins later stands behind the start of the first one. -/
theorem HasHeader.start_le_place (h : HasHeader text column place s)
    (h' : HasHeader text column' place' t) (lt : s.start < t.start) : s.start ≤ place' := by
  have pos := h.start_pos
  have le := h.start_le_length
  refine Nat.le_of_not_lt fun behind => ?_
  have feed := LineStartAt.feed (.inr h.charBefore_start) pos le
  exact h'.noFeed (by omega) (by omega) feed

/-- The text behind the start of a section, cut at the header of a later one. -/
theorem HasHeader.exists_between (h : HasHeader text column place s)
    (h' : HasHeader text column' place' t) (lt : s.start < t.start) :
    ∃ between row, text.drop s.start = between ++ (row ++ '\n' :: text.drop t.start)
      ∧ (between = [] ∨ between.getLast? = some '\n') ∧ IsHeader column' row
      ∧ place' = s.start + between.length ∧ t.start = place' + row.length + 1 := by
  obtain ⟨row, ⟨body, cut⟩, isHeader, start⟩ := h'.row
  have le := h.start_le_place h' lt
  have cut : text.drop place' = row ++ '\n' :: body := by simpa using cut.symm
  obtain ⟨between, split, length, ends⟩ := Section.exists_between h'.rowStart
    (Nat.lt_of_lt_of_le h.start_pos le) le (Nat.le_of_lt h'.lt_length)
  refine ⟨between, row, ?_, ends, isHeader, by omega, start⟩
  rw [split, start, drop_behind cut, cut]

/-- Whatever part of the line of a later header lies in a section, all of the later section does,
and its header stands deeper; or else the section has ended before. -/
theorem HasHeader.encloses_or_lt (h : HasHeader text column place s)
    (h' : HasHeader text column' place' t) (hs : s ∈ all text) (ht : t ∈ all text)
    (lt : s.start < t.start) (le : place' ≤ offset) (inside : offset < t.start) :
    (s.holds offset = true ∧ Encloses column column' s t)
      ∨ s.holds offset = false ∧ s.stop < t.start := by
  obtain ⟨between, row, cut, ends, isHeader, place, start⟩ := h.exists_between h' lt
  have stop := h.stop_eq hs
  have stop' := h'.stop_eq ht
  rw [cut] at stop
  rcases bodyLength_append_header ends isHeader column (text.drop t.start) with
    ⟨deeper, reaches⟩ | short
  · have further := bodyLength_anti (Nat.le_of_lt deeper) (text.drop t.start)
    exact .inl ⟨holds_iff.2 ⟨by omega, by omega⟩, deeper, lt, by omega, by omega⟩
  · refine .inr ⟨Bool.eq_false_iff.2 fun held => ?_, by omega⟩
    have := (holds_iff.1 held).2
    omega

/-- How the sections of a text lie. -/
structure WellNested (text : List Char) (sections : List Section) : Prop where
  /-- Each is the section of a header, and of one only. -/
  headed : ∀ s ∈ sections, ∃ column place, HasHeader text column place s
    ∧ ∀ column' place', HasHeader text column' place' s → column' = column ∧ place' = place
  /-- Each lies in the text, begins behind a line feed, and ends with the text or at a line that is
  not blank and no deeper than the header. -/
  delimited : ∀ s ∈ sections, ∀ column place, HasHeader text column place s →
    Delimited text column s
  /-- They start one after the other. -/
  increasing : sections.Pairwise fun s t => s.start < t.start
  /-- If a place of the line of the later header lies in the earlier section, then this header
  stands deeper and its section lies in the earlier one; if a place does not, then the earlier
  section ends before the later one starts. -/
  nested : sections.Pairwise fun s t => ∀ column place column' place',
    HasHeader text column place s → HasHeader text column' place' t →
      ∀ offset, place' ≤ offset → offset < t.start →
        (s.holds offset = true → Encloses column column' s t)
          ∧ (s.holds offset = false → s.stop < t.start)
  /-- None reaches into another one in part. -/
  laminar : sections.Pairwise fun s t => (s.start < t.start ∧ t.stop ≤ s.stop) ∨ s.stop < t.start

/-- **Sections are well nested**: of two sections of a text, the later one lies in the earlier one
or begins behind the end of it, according to whether its header's line lies in the earlier one. -/
theorem wellNested_all (text : List Char) : WellNested text (all text) := by
  have increasing : (all text).Pairwise fun s t => s.start < t.start := pairwise_start_scan 0 text
  refine ⟨fun s hs => ?_, fun s hs column place h => h.delimited hs, increasing, ?_, ?_⟩
  · obtain ⟨column, place, h, -⟩ := mem_all_iff_hasHeader.1 hs
    exact ⟨column, place, h, fun column' place' h' => h'.unique h⟩
  · refine increasing.imp_of_mem fun hs ht lt => ?_
    intro column place column' place' h h' offset le inside
    rcases h.encloses_or_lt h' hs ht lt le inside with ⟨held, encloses⟩ | ⟨notHeld, ended⟩
    · exact ⟨fun _ => encloses, fun notHeld => absurd held (Bool.eq_false_iff.1 notHeld)⟩
    · exact ⟨fun held => absurd held (Bool.eq_false_iff.1 notHeld), fun _ => ended⟩
  · refine increasing.imp_of_mem fun hs ht lt => ?_
    obtain ⟨column, place, h, -⟩ := mem_all_iff_hasHeader.1 hs
    obtain ⟨column', place', h', -⟩ := mem_all_iff_hasHeader.1 ht
    rcases h.encloses_or_lt h' hs ht lt (Nat.le_refl place') h'.lt_start with
      ⟨-, encloses⟩ | ⟨-, ended⟩
    · exact .inl ⟨lt, encloses.stop_le_stop⟩
    · exact .inr ended

/-- A line two columns deep ends the inner one of two sections, and the header behind it ends the
outer one. -/
example : all "Args:\n    Args:\n\tx\n  y\nArgs:\n z".toList = [⟨6, 23⟩, ⟨16, 19⟩, ⟨29, 31⟩] := by
  decide +kernel

end Section

end DocGuard

import DocGuard.Program.Check
import DocGuard.Proofs.Docstring
import DocGuard.Proofs.Finding
import DocGuard.Verdict
/-!
Cleaning a docstring and what is found in it.

Cleaning changes white space only, so it changes no tag. What it can change is which entries in
google style stand in an argument section, since it takes the whole indentation from the first row
and the common margin from all others. If the rows are even, and if the first row is no header or is
as deep as the margin, sections are kept too (`Docstring.IsEvenlyLaid`), and so is every verdict
(`Finding.extract_ofText?`). Neither condition can be left out (`Finding.extract_ofText?_uneven`).
-/

namespace DocGuard

open Text

namespace Docstring

variable {taken column : Nat} {row row' text : List Char}

/-! ### Reindented rows in sections -/

/-- A row with something in it loses columns of its padding. -/
theorem Reindented.cases (h : Reindented True taken row row') :
    (IsSpace row ∧ IsSpace row') ∨ ∃ margin c body column, row = margin ++ c :: body
      ∧ row' = List.replicate (width margin - taken) ' ' ++ expandTabs column (c :: body)
      ∧ IsPadding margin ∧ isBlank c = false ∧ taken ≤ width margin := by
  obtain ⟨margin, body, column, rfl, rfl, space, visible, filled⟩ := h
  cases body with
  | nil =>
    refine .inl ⟨by simpa using space, ?_⟩
    intro c hc
    exact isBlank_expandTabs space c (List.mem_of_mem_drop (by simpa [expandTabs] using hc))
  | cons c body =>
    obtain ⟨le, pads⟩ := filled (by simp)
    have pads := pads trivial
    rw [expandTabs_of_isPadding pads] at le ⊢
    refine .inr ⟨margin, c, body, column, rfl, by rw [List.drop_replicate], pads, visible, ?_⟩
    simpa using le

/-- A reindented row is as deep as its origin, less the columns taken. -/
theorem Reindented.inBody_eq (h : Reindented True taken row row') (column : Nat) :
    Section.inBody column row' = Section.inBody (column + taken) row := by
  rcases h.cases with ⟨space, space'⟩ | ⟨margin, c, body, start, rfl, rfl, pads, visible, le⟩
  · rw [Section.inBody_of_isBlankLine (List.all_eq_true.2 space),
      Section.inBody_of_isBlankLine (List.all_eq_true.2 space')]
  · rw [expandTabs_cons, expansion_of_isBlank visible, List.singleton_append,
      Section.inBody_append pads visible, Section.inBody_append (isPadding_replicate _) visible,
      width_replicate]
    exact decide_eq_decide.2 (by omega)

theorem not_isHeader_of_isSpace (h : IsSpace row) : ¬ Section.IsHeader column row := by
  rintro ⟨pads, title, pads', rfl, -, -, htitle, -⟩
  have letter : 'A' ∈ title := by rcases htitle with rfl | rfl <;> simp
  exact absurd (h 'A' (by simp [letter])) (by decide)

theorem isBlank_of_mem_title {title : List Char} (h : Section.IsTitle title) :
    ∀ c ∈ title, isBlank c = false := by
  rcases h with rfl | rfl <;> exact eq_false_of_any (by decide)

/-- A header behind its padding. -/
theorem isHeader_append_iff {margin body : List Char} {c : Char} (pads : IsPadding margin)
    (visible : isBlank c = false) :
    Section.IsHeader column (margin ++ c :: body) ↔ column = width margin
      ∧ ∃ title pads', c :: body = title ++ pads' ∧ IsPadding pads' ∧ Section.IsTitle title := by
  have head : (c :: body).head?.any isPad = false := isPad_eq_false_of_isBlank_eq_false visible
  constructor
  · rintro ⟨pads₁, title, pads', e, hpads₁, hpads', htitle, rfl⟩
    rw [List.append_assoc] at e
    obtain ⟨rfl, tail⟩ :=
      append_inj_of_head? pads head hpads₁ (Section.isPad_head?_title htitle _) e
    exact ⟨rfl, title, pads', tail, hpads', htitle⟩
  · rintro ⟨rfl, title, pads', e, hpads', htitle⟩
    exact ⟨margin, title, pads', by rw [e, List.append_assoc], pads, hpads', htitle, rfl⟩

theorem expandTabs_of_visible {word : List Char} (h : ∀ c ∈ word, isBlank c = false) (start : Nat) :
    expandTabs start word = word := by
  induction word generalizing start with
  | nil => rfl
  | cons c word ih =>
    rw [expandTabs_cons, expansion_of_isBlank (h c List.mem_cons_self),
      ih fun d hd => h d (List.mem_cons_of_mem c hd)]
    rfl

/-- Expanding tabs keeps a title and the padding behind it. -/
theorem exists_title_expandTabs_iff (start : Nat) (body : List Char) :
    (∃ title pads', expandTabs start body = title ++ pads' ∧ IsPadding pads'
        ∧ Section.IsTitle title)
      ↔ ∃ title pads', body = title ++ pads' ∧ IsPadding pads' ∧ Section.IsTitle title := by
  constructor
  · rintro ⟨title, pads', e, hpads', htitle⟩
    obtain ⟨start', rest, rfl, rfl⟩ := exists_of_expandTabs_append (isBlank_of_mem_title htitle) e
    exact ⟨title, rest, rfl, isPadding_of_expandTabs hpads', htitle⟩
  · rintro ⟨title, pads', rfl, hpads', htitle⟩
    refine ⟨title, expandTabs (title.foldl Text.advance start) pads', ?_,
      isPadding_expandTabs hpads', htitle⟩
    rw [expandTabs_append, expandTabs_of_visible (isBlank_of_mem_title htitle)]

/-- A reindented row is a header if its origin is, with its title as many columns to the left. -/
theorem Reindented.isHeader_iff (h : Reindented True taken row row') (column : Nat) :
    Section.IsHeader column row' ↔ Section.IsHeader (column + taken) row := by
  rcases h.cases with ⟨space, space'⟩ | ⟨margin, c, body, start, rfl, rfl, pads, visible, le⟩
  · exact iff_of_false (not_isHeader_of_isSpace space') (not_isHeader_of_isSpace space)
  · have expanded := exists_title_expandTabs_iff start (c :: body)
    rw [expandTabs_cons, expansion_of_isBlank visible, List.singleton_append] at expanded ⊢
    rw [isHeader_append_iff pads visible, isHeader_append_iff (isPadding_replicate _) visible,
      width_replicate, expanded]
    exact and_congr_left fun _ => by omega

theorem Reindented.le_of_isHeader (h : Reindented True taken row row') (column : Nat)
    (header : Section.IsHeader column row) : taken ≤ column := by
  rcases h.cases with ⟨space, -⟩ | ⟨margin, c, body, start, rfl, rfl, pads, visible, le⟩
  · exact absurd header (not_isHeader_of_isSpace space)
  · rw [isHeader_append_iff pads visible] at header
    omega

/-- A reindented row is even if its origin is. -/
theorem Reindented.isEven (h : Reindented True taken row row') (even : IsEven row) :
    IsEven row' := by
  rcases h.cases with ⟨-, space'⟩ | ⟨margin, c, body, start, rfl, rfl, pads, visible, -⟩
  · intro filled
    rw [isBlankLine, List.all_eq_true.2 space'] at filled
    cases filled
  · intro _
    obtain ⟨-, noBreak⟩ := even (isBlankLine_append visible)
    have spaces := isPadding_replicate (width margin - taken)
    have head : (expandTabs start (c :: body)).head?.any isBlank = false :=
      head?_expandTabs start visible
    refine ⟨?_, ?_⟩
    · rw [takeWhile_append_of_head? (fun d hd => isBlank_of_isPad (spaces d hd)) head]
      exact spaces
    · intro front d rest e ends
      have notSpace : d ∉ List.replicate (width margin - taken) ' ' := by
        intro hd
        rw [List.eq_of_mem_replicate hd] at ends
        exact absurd ends (by decide)
      -- a break behind the margin is one of the row, and only white space follows it
      obtain ⟨front', -, behind⟩ := exists_front_of_not_mem notSpace e
      obtain ⟨before, after, start', cut, rfl⟩ := exists_break_of_expandTabs ends behind
      have blank := noBreak (margin ++ before) d after (by rw [cut, List.append_assoc]) ends
      exact List.all_eq_true.2 (isBlank_expandTabs (List.all_eq_true.1 blank))

/-! ### Sections of a cleaned docstring -/

/-- The docstring is indented by spaces and tabs only, no other line break stands inside of its
rows, and if its first row is a header, it is as deep as the margin of the others. -/
structure IsEvenlyLaid (text : List Char) : Prop where
  even : ∀ row ∈ rows text, IsEven row
  header : ∀ first later column m, rows text = first :: later → Section.IsHeader column first →
    margin? (later.map (expandTabs 0)) = some m → column = m

section Sections

variable {header header' : List Char} {above above' below below' parts parts' : List (List Char)}

theorem inBody_forall_iff (h : List.Forall₂ (Reindented True taken) parts parts') (column : Nat) :
    (∀ r ∈ parts', Section.inBody column r = true)
      ↔ ∀ r ∈ parts, Section.inBody (column + taken) r = true := by
  induction h with
  | nil => simp
  | cons hrow _ ih => rw [List.forall_mem_cons, List.forall_mem_cons, hrow.inBody_eq, ih]

/-- A section stays one if its header loses as many columns as the rows in it. -/
theorem Reindented.section_iff (hheader : Reindented True taken header header')
    (h : List.Forall₂ (Reindented True taken) parts parts') :
    (∃ column, Section.IsHeader column header ∧ ∀ r ∈ parts, Section.inBody column r = true)
      ↔ ∃ column, Section.IsHeader column header'
          ∧ ∀ r ∈ parts', Section.inBody column r = true := by
  constructor
  · rintro ⟨column, isHeader, deep⟩
    have le := hheader.le_of_isHeader column isHeader
    obtain ⟨column, rfl⟩ := Nat.exists_eq_add_of_le' le
    exact ⟨column, (hheader.isHeader_iff column).2 isHeader, (inBody_forall_iff h column).2 deep⟩
  · rintro ⟨column, isHeader, deep⟩
    exact ⟨column + taken, (hheader.isHeader_iff column).1 isHeader,
      (inBody_forall_iff h column).1 deep⟩

/-- Rows that all lose the same columns lie in a section as they did before. -/
theorem Reindented.covers_iff (h : List.Forall₂ (Reindented True taken) above above')
    (hrow : Reindented True taken row row') :
    Section.Covers above row ↔ Section.Covers above' row' := by
  induction h with
  | nil => exact Iff.rfl
  | cons hheader hbetween ih =>
    exact or_congr (hheader.section_iff (List.rel_append hbetween (.cons hrow .nil))) ih

theorem column_eq_zero_of_isHeader (stripped : row.head?.any isBlank = false)
    (h : Section.IsHeader column row) : column = 0 := by
  obtain ⟨pads, title, pads', rfl, hpads, -, -, rfl⟩ := h
  cases pads with
  | nil => rfl
  | cons c pads =>
    have blank : isBlank c = true := isBlank_of_isPad (hpads c List.mem_cons_self)
    rw [show isBlank c = false from stripped] at blank
    cases blank

/-- The first row loses all of its columns. If it is a header, this must be as many as the rows of
its section lose. -/
theorem Reindented.section_first_iff {indent : Nat}
    (hheader : Reindented True indent header header') (stripped : header'.head?.any isBlank = false)
    (same : ∀ column, Section.IsHeader column header → column = taken)
    (h : List.Forall₂ (Reindented True taken) parts parts') :
    (∃ column, Section.IsHeader column header ∧ ∀ r ∈ parts, Section.inBody column r = true)
      ↔ ∃ column, Section.IsHeader column header'
          ∧ ∀ r ∈ parts', Section.inBody column r = true := by
  have fits : ∀ column, Section.IsHeader column header → indent = taken := by
    intro column isHeader
    obtain ⟨left, rfl⟩ := Nat.exists_eq_add_of_le' (hheader.le_of_isHeader column isHeader)
    have none := column_eq_zero_of_isHeader stripped ((hheader.isHeader_iff left).2 isHeader)
    rw [← same _ isHeader, none, Nat.zero_add]
  constructor
  · rintro ⟨column, isHeader, deep⟩
    obtain rfl := fits column isHeader
    exact (hheader.section_iff h).1 ⟨column, isHeader, deep⟩
  · rintro ⟨column, isHeader, deep⟩
    obtain rfl := fits _ ((hheader.isHeader_iff column).1 isHeader)
    exact (hheader.section_iff h).2 ⟨column, isHeader, deep⟩

theorem isSpace_nil : IsSpace [] := by
  simp [IsSpace]

/-- Empty rows in front make no section. -/
theorem covers_append_iff (empty : ∀ r ∈ above, r = []) :
    Section.Covers (above ++ above') row ↔ Section.Covers above' row := by
  induction above with
  | nil => exact Iff.rfl
  | cons header above ih =>
    have others := ih fun r hr => empty r (List.mem_cons_of_mem header hr)
    have noHeader : ¬ ∃ column, Section.IsHeader column header
        ∧ ∀ r ∈ above ++ above' ++ [row], Section.inBody column r = true := by
      rintro ⟨column, isHeader, -⟩
      rw [empty header List.mem_cons_self] at isHeader
      exact not_isHeader_of_isSpace isSpace_nil isHeader
    rw [← others]
    exact or_iff_right noHeader

/-- **Alignment keeps the sections.** A row lies in a section before it is aligned if and only if it
does afterwards. -/
theorem IsEvenlyLaid.covers_iff (laid : IsEvenlyLaid text)
    (split : rows text = above ++ row :: below)
    (split' : alignedRows text = above' ++ row' :: below') (length : above.length = above'.length)
    (filled : isBlankLine row = false) :
    Section.Covers above row ↔ Section.Covers above' row' := by
  -- the first row loses columns of its own, all rows below it the margin
  cases above with
  | nil =>
    rw [List.length_eq_zero_iff.1 length.symm]
    exact Iff.rfl
  | cons first between =>
    obtain ⟨first', between', rfl⟩ := List.exists_cons_of_length_eq_add_one length.symm
    rw [List.cons_append] at split split'
    have aligned := alignedRows_eq split
    rw [split'] at aligned
    obtain ⟨rfl, later⟩ := List.cons.inj aligned
    rw [List.map_append, List.map_cons] at later
    obtain ⟨rfl, tail⟩ := List.append_inj later (by simpa using length.symm)
    obtain ⟨rfl, -⟩ := List.cons.inj tail
    have even : ∀ r ∈ first :: (between ++ row :: below), IsEven r :=
      fun r hr => laid.even r (split ▸ hr)
    have hrow : row ∈ between ++ row :: below := by simp
    have margin := (margin_le (List.mem_map_of_mem hrow) (isBlankLine_expandTabs filled)).1
    have reindented : ∀ r ∈ between ++ row :: below, Reindented True _ r _ :=
      fun r hr => reindented_later hr fun _ => even r (List.mem_cons_of_mem first hr)
    have hbetween := (List.forall₂_map_right_iff.2 (List.forall₂_same.2 fun r hr =>
      reindented r (List.mem_append_left _ hr)))
    exact or_congr (Reindented.section_first_iff
        (reindented_first fun _ => even first List.mem_cons_self) (head?_dropWhile isBlank _)
        (fun column isHeader => laid.header first _ column _ split isHeader margin)
        (List.rel_append hbetween (.cons (reindented row hrow) .nil)))
      (Reindented.covers_iff hbetween (reindented row hrow))

end Sections

/-! ### Tags of a cleaned docstring -/

section Tags

variable {styles : List Style} {names : List String} {text : List Char} {start : Nat} {l : Layout}

/-- What stands in front of the first line feed stands in the first row. -/
theorem exists_rows_append {front : List Char} (noFeed : '\n' ∉ front) (rest : List Char) :
    ∃ row later, rows (front ++ rest) = (front ++ row) :: later := by
  induction front with
  | nil => exact List.exists_cons_of_ne_nil (rows_ne_nil rest)
  | cons c front ih =>
    obtain ⟨row, later, e⟩ := ih fun feed => noFeed (List.mem_cons_of_mem c feed)
    have ne : c ≠ '\n' := fun feed => noFeed (by simp [feed])
    exact ⟨row, later, by rw [List.cons_append, rows, if_neg ne, e]; rfl⟩

theorem exists_unrows_cons (row : List Char) (later : List (List Char)) :
    ∃ rest, unrows (row :: later) = row ++ rest := by
  cases later with
  | nil => exact ⟨[], by simp⟩
  | cons next later => exact ⟨_, unrows_cons_cons row next later⟩

/-- An entry in google style begins a row that is not blank. -/
theorem exists_rows_of_leads {before : Option Char} {rest : List Char}
    (leads : l.Leads before text rest) (google : l.style = .google) (word : IsWordName l.name) :
    ∃ row below, rows text = row :: below ∧ isBlankLine row = false := by
  cases l with
  | phpdoc | sphinx => cases google
  | google margin name pad pad' token pad'' remark last =>
    have word : IsWordName name := word
    have pads : IsPadding margin := leads.regular.2.1
    have noFeed : '\n' ∉ margin ++ name.toList := by
      intro feed
      rcases List.mem_append.1 feed with feed | feed
      · exact absurd (pads _ feed) (by decide)
      · exact absurd (isBlank_of_mem_words word.2 feed) (by decide)
    obtain ⟨row, below, e⟩ := exists_rows_append noFeed
      ((Layout.google margin name pad pad' token pad'' remark last).closing ++ rest)
    refine ⟨margin ++ name.toList ++ row, below, ?_, ?_⟩
    · rw [leads.written, ← e]
      simp [Layout.text, Layout.opening, Layout.name]
    · obtain ⟨c, letters, hname⟩ := List.exists_cons_of_ne_nil
        (show name.toList ≠ [] by simpa using word.1)
      have visible : isBlank c = false := isBlank_of_mem_words word.2 (by simp [hname])
      rw [List.append_assoc, hname]
      exact isBlankLine_append visible

/-- The row of an entry in google style, which tells whether the entry lies in a section. -/
theorem exists_row (even : ∀ row ∈ rows text, IsEven row) (fits : l.Fits text start)
    (google : l.style = .google) (word : IsWordName l.name) :
    ∃ above row below, rows text = above ++ row :: below
      ∧ below.length = (text.drop start).count '\n' ∧ isBlankLine row = false
      ∧ ((Section.all text).any (·.holds start) = true ↔ Section.Covers above row) := by
  have lineStart : text.take start = [] ∨ (text.take start).getLast? = some '\n' := by
    rcases fits.lineStart google with rfl | feed
    · exact .inl (List.take_zero)
    · exact .inr feed
  -- the text in front of an entry consists of whole rows
  obtain ⟨above, noFeed, front⟩ := exists_feedRows lineStart
  have split : text = feedRows above ++ text.drop start := by
    rw [← front, List.take_append_drop]
  have place : start = (feedRows above).length := by
    have := fits.stop_le
    rw [← front, List.length_take]
    omega
  obtain ⟨rest, leads⟩ := fits.leads
  obtain ⟨row, below, e, filled⟩ := exists_rows_of_leads leads google word
  have rows_eq : rows text = above ++ row :: below := by
    rw [split, rows_append noFeed, e]
  have even' : ∀ r ∈ above ++ row :: below, IsEven r := fun r hr => even r (rows_eq ▸ hr)
  obtain ⟨rest, written⟩ := exists_unrows_cons row below
  have behind : text.drop start = row ++ rest := by
    rw [← written, ← e, unrows_rows]
  refine ⟨above, row, below, rows_eq, ?_, filled, ?_⟩
  · have length := length_rows (text.drop start)
    rw [e, List.length_cons] at length
    omega
  · have found := Section.any_holds_iff
      (fun r hr => ⟨even' r (List.mem_append_left _ hr), noFeed r hr⟩)
      (even' row (by simp)) filled rest
    rwa [← behind, ← split, ← place] at found

/-- Two tags say the same and count in the same way. -/
structure SameCount (text text' : List Char) (tag tag' : Tag) : Prop where
  token : tag'.token = tag.token
  name : tag'.name = tag.name
  counts : Finding.counts (Section.all text') tag' = Finding.counts (Section.all text) tag

variable {above kept below above' kept' below' : List (List Char)}

theorem Kept.even (h : Kept True text above kept below above' kept' below')
    (even : ∀ row ∈ rows text, IsEven row) : ∀ row ∈ kept', IsEven row := by
  have all : ∀ row ∈ kept, IsEven row := fun row hrow => even row (by rw [h.rows_eq]; simp [hrow])
  have reindented := h.forall₂_kept
  clear h even
  induction reindented with
  | nil => simp
  | @cons row row' kept kept' hrow _ ih =>
    obtain ⟨taken, hrow⟩ := hrow
    rw [List.forall_mem_cons] at all ⊢
    exact ⟨hrow.isEven all.1, ih all.2⟩

/-- An entry in google style counts after the docstring is cleaned if and only if it did before. -/
theorem Kept.any_holds_iff (h : Kept True text above kept below above' kept' below')
    (laid : IsEvenlyLaid text) {start' : Nat} {l' : Layout} (fits : l.Fits text start)
    (fits' : l'.Fits (clean text) start') (google : l.style = .google)
    (google' : l'.style = .google) (word : IsWordName l.name) (word' : IsWordName l'.name)
    (row : (text.drop start).count '\n' = ((clean text).drop start').count '\n' + below.length) :
    (Section.all (clean text)).any (·.holds start') = true
      ↔ (Section.all text).any (·.holds start) = true := by
  have noFeed : ∀ row ∈ kept', '\n' ∉ row :=
    fun row hrow => noFeed_alignedRows row (by rw [h.aligned_eq]; simp [hrow])
  have rows_clean : rows (clean text) = kept' := by
    rw [h.clean_eq, rows_unrows h.ne noFeed]
  have even' : ∀ row ∈ rows (clean text), IsEven row := rows_clean ▸ h.even laid.even
  obtain ⟨passed, r, left, split, count, filled, held⟩ := exists_row laid.even fits google word
  obtain ⟨passed', r', left', split', count', -, held'⟩ := exists_row even' fits' google' word'
  rw [rows_clean] at split'
  have aligned : alignedRows text = (above' ++ passed') ++ r' :: (left' ++ below') := by
    rw [h.aligned_eq, split']
    simp
  have behind : left.length = (left' ++ below').length := by
    rw [List.length_append, ← h.forall₂_below.length_eq]
    omega
  -- counted from the end, the two rows stand in the same place of their texts
  have length : passed.length = (above' ++ passed').length := by
    have reindented : List.Forall₂ (fun row row' => ∃ taken, Reindented True taken row row')
        (rows text) (alignedRows text) := forall₂_alignedRows fun _ => laid.even
    have whole := reindented.length_eq
    rw [split, aligned, List.length_append, List.length_append, List.length_cons, List.length_cons,
      behind] at whole
    omega
  have inFront : ∀ row ∈ above', row = [] :=
    fun row hrow => h.empty row (List.mem_append_left _ hrow)
  rw [held, held', laid.covers_iff split aligned length filled, covers_append_iff inFront]

/-- Cleaning a docstring keeps its tags, and which of them count. -/
theorem forall₂_sameCount (words : ∀ name ∈ names, IsWordName name)
    (filled : isBlankLine text = false) (laid : .google ∈ styles → IsEvenlyLaid text) :
    List.Forall₂ (SameCount text (clean text)) (Tag.all styles names text)
      (Tag.all styles names (clean text)) := by
  have even : .google ∈ styles → ∀ row ∈ rows text, IsEven row := fun google => (laid google).even
  obtain ⟨above, kept, below, above', kept', below', rowsKept⟩ := exists_kept filled even
  have similar := Tag.forall₂_all_of_respaced words id rowsKept.respaced
  obtain ⟨length, similar⟩ := List.forall₂_iff_zip.1 similar
  refine List.forall₂_iff_zip.2 ⟨length, fun {tag tag'} pair => ?_⟩
  obtain ⟨l, written⟩ := (Tag.isScan_all styles names text).written tag (List.of_mem_zip pair).1
  obtain ⟨l', written'⟩ :=
    (Tag.isScan_all styles names (clean text)).written tag' (List.of_mem_zip pair).2
  have same := similar pair
  refine ⟨same.token, same.name, ?_⟩
  rw [Finding.counts, Finding.counts, same.style]
  -- only google style asks for the section, and sections are kept where the rows are laid evenly
  by_cases google : tag.style = .google
  · have style : l.style = .google := (congrArg Tag.style written.eq).symm.trans google
    have style' : l'.style = .google :=
      (congrArg Tag.style written'.eq).symm.trans (same.style.trans google)
    have requested : Style.google ∈ styles := style ▸ written.wanted.1
    rw [eq_true requested] at rowsKept
    have held := rowsKept.any_holds_iff (laid requested) written.fits written'.fits style style'
      (words _ written.wanted.2) (words _ written'.wanted.2) (by simpa using same.row google)
    rw [Bool.eq_iff_iff.2 held]
  · have others : (tag.style != .google) = true := bne_iff_ne.2 google
    rw [others, Bool.true_or, Bool.true_or]

end Tags

end Docstring

/-! ### Findings of a cleaned docstring -/

namespace Finding

variable {styles : List Style} {names : List String} {args : List Value} {text : List Char}

/-- What is taken from a tag with an argument. -/
def said (found : Tag × Value) : String × String × Value :=
  (found.1.token, found.1.name, found.2)

theorem map_said_argued {tags tags' : List Tag} {text' : List Char}
    (h : List.Forall₂ (Docstring.SameCount text text') tags tags') :
    ((tags'.filter (counts (Section.all text'))).filterMap fun tag =>
        (argument? names args tag.name).map (tag, ·)).map said
      = ((tags.filter (counts (Section.all text))).filterMap fun tag =>
        (argument? names args tag.name).map (tag, ·)).map said := by
  induction h with
  | nil => rfl
  | @cons tag tag' tags tags' same _ ih =>
    rw [List.filter_cons, List.filter_cons, same.counts]
    split
    · rw [List.filterMap_cons, List.filterMap_cons, same.name]
      rcases argument? names args tag.name with - | v
      · exact ih
      · simp only [Option.map_some, List.map_cons, ih, said, same.token, same.name]
    · exact ih

/-- A cleaned docstring pairs the same parameters with the same arguments. -/
theorem map_said_arguedIn {doc cleaned : String} (words : ∀ name ∈ names, IsWordName name)
    (laid : .google ∈ styles → Docstring.IsEvenlyLaid doc.toList)
    (h : Docstring.ofText? doc = some cleaned) :
    (arguedIn styles (some cleaned) names args).map said
      = (arguedIn styles (some doc) names args).map said := by
  rw [Docstring.ofText?] at h
  split at h
  · cases h
  · rename_i filled
    obtain rfl := Option.some.inj h
    rw [arguedIn_some, arguedIn_some, String.toList_ofList]
    exact map_said_argued (Docstring.forall₂_sameCount words (by simpa using filled) laid)

/-- Findings are made of what is taken from the tags. -/
theorem ofDoc_eq_of_map_said {doc doc' : Option String}
    (h : (arguedIn styles doc' names args).map said = (arguedIn styles doc names args).map said) :
    ofDoc styles doc' names args = ofDoc styles doc names args := by
  have factors (doc : Option String) : ofDoc styles doc names args
      = ((arguedIn styles doc names args).map said).map fun (token, name, v) =>
        ⟨name, ScalarType.canonicalName token, v.typeName, names.idxOf name⟩ := by
    rw [ofDoc, List.map_map]
    rfl
  rw [factors, factors, h]

/-- A judgment asks after the types of what is taken from the tags, and after nothing else. -/
theorem judgeIn_eq_of_map_said (call : Call) (inProgram : Bool) (options : CheckOptions)
    (place : Value) {doc doc' : String}
    (h : (arguedIn options.styles (some doc') names args).map said
      = (arguedIn options.styles (some doc) names args).map said) :
    judgeIn call inProgram options place doc' names args
      = judgeIn call inProgram options place doc names args := by
  have factors (doc : Option String) :
      (arguedIn options.styles doc names args).mapM (findIn call names)
        = ((arguedIn options.styles doc names args).map said).mapM fun (token, name, v) => do
          return ⟨name, ScalarType.canonicalName token, ← typeNameOf call v, names.idxOf name⟩ := by
    rw [List.mapM_map]
    rfl
  rw [judgeIn, judgeIn, extractIn, extractIn, factors, factors, h]

theorem ofDoc_ofText? {doc cleaned : String} (words : ∀ name ∈ names, IsWordName name)
    (laid : .google ∈ styles → Docstring.IsEvenlyLaid doc.toList)
    (h : Docstring.ofText? doc = some cleaned) :
    ofDoc styles (some cleaned) names args = ofDoc styles (some doc) names args :=
  ofDoc_eq_of_map_said (map_said_arguedIn words laid h)

theorem judgeIn_ofText? (call : Call) (inProgram : Bool) (options : CheckOptions) (place : Value)
    {doc cleaned : String} (words : ∀ name ∈ names, IsWordName name)
    (laid : .google ∈ options.styles → Docstring.IsEvenlyLaid doc.toList)
    (h : Docstring.ofText? doc = some cleaned) :
    judgeIn call inProgram options place cleaned names args
      = judgeIn call inProgram options place doc names args :=
  judgeIn_eq_of_map_said call inProgram options place (map_said_arguedIn words laid h)

/-- **Cleaning a docstring changes no verdict**, as long as entries in google style are not looked
for or the docstring is evenly laid. Whoever judges by the cleaned docstring finds what is found in
the docstring itself, and ends, logs and warns in the same way. -/
theorem extract_ofText? (doc : String) (names : List String) (args : List Value)
    (styleNames : List String) (filled : isBlankLine doc.toList = false)
    (words : ∀ name ∈ names, IsWordName name) (known : Style.AreKnown styleNames)
    (laid : "google" ∈ styleNames → Docstring.IsEvenlyLaid doc.toList) :
    ∃ cleaned, Docstring.ofText? doc = some cleaned
      ∧ extract (some cleaned) names args styleNames = extract (some doc) names args styleNames
      ∧ (∀ reaction place, check styleNames reaction place (some cleaned) names args
          = check styleNames reaction place (some doc) names args)
      ∧ ∀ call inProgram options place, Style.ofNames styleNames = .ok options.styles →
          judgeIn call inProgram options place cleaned names args
            = judgeIn call inProgram options place doc names args := by
  obtain ⟨styles, found, mem⟩ := Style.exists_ofNames_eq known
  have cleaned : Docstring.ofText? doc = some (String.ofList (Docstring.clean doc.toList)) := by
    rw [Docstring.ofText?, filled]
    rfl
  have laid' : .google ∈ styles → Docstring.IsEvenlyLaid doc.toList :=
    fun google => laid ((mem .google).1 google)
  have same : ofDoc styles (some _) names args = ofDoc styles (some doc) names args :=
    ofDoc_ofText? words laid' cleaned
  refine ⟨_, cleaned, ?_, fun reaction place => ?_, fun call inProgram options place hstyles => ?_⟩
  · rw [extract, extract, found, Except.map, Except.map, same]
  · have options : CheckOptions.ofNames styleNames reaction
        = (OnMismatch.ofName reaction).map (⟨styles, ·⟩) := by
      rw [CheckOptions.ofNames, found]
      cases OnMismatch.ofName reaction <;> rfl
    rw [check, check, options]
    cases OnMismatch.ofName reaction <;> simp only [Except.map, judge, same]
  · obtain rfl : options.styles = styles := Except.ok.inj (hstyles.symm.trans found)
    exact judgeIn_ofText? call inProgram options place words laid' cleaned

/-- A header on the first row loses as many columns as the rows below it. -/
theorem extract_ofText?_tabs :
    ∃ cleaned, Docstring.ofText? "\tArgs:\n\t    x (int): X\n\tDone." = some cleaned
      ∧ extract (some cleaned) ["x"] [.bool true] ["google"]
        = extract (some "\tArgs:\n\t    x (int): X\n\tDone.") ["x"] [.bool true] ["google"] := by
  have words : ∀ name ∈ ["x"], IsWordName name := by
    have x : "x".toList.all isWord = true := by decide +kernel
    simpa using isWordName_of_all (by decide) x
  have rows_eq : rows "\tArgs:\n\t    x (int): X\n\tDone.".toList
      = [['\t', 'A', 'r', 'g', 's', ':'],
        ['\t', ' ', ' ', ' ', ' ', 'x', ' ', '(', 'i', 'n', 't', ')', ':', ' ', 'X'],
        ['\t', 'D', 'o', 'n', 'e', '.']] := by decide +kernel
  have laid : Docstring.IsEvenlyLaid "\tArgs:\n\t    x (int): X\n\tDone.".toList := by
    refine ⟨?_, ?_⟩
    · rw [rows_eq]
      intro row hrow
      have plain : ∀ row ∈ [['\t', 'A', 'r', 'g', 's', ':'],
          ['\t', ' ', ' ', ' ', ' ', 'x', ' ', '(', 'i', 'n', 't', ')', ':', ' ', 'X'],
          ['\t', 'D', 'o', 'n', 'e', '.']],
          (row.takeWhile isBlank).all isPad = true ∧ row.any isLineBreak = false := by
        decide +kernel
      exact isEven_of_noBreak (plain row hrow).1 (plain row hrow).2
    · intro first later column m split header hm
      rw [rows_eq] at split
      obtain ⟨rfl, rfl⟩ := List.cons.inj split
      have depth := (Docstring.isHeader_append_iff
        (show IsPadding ['\t'] by simp [IsPadding, isPad])
        (show isBlank 'A' = false by decide)).1 header
      have margin : Docstring.margin? ([
          ['\t', ' ', ' ', ' ', ' ', 'x', ' ', '(', 'i', 'n', 't', ')', ':', ' ', 'X'],
          ['\t', 'D', 'o', 'n', 'e', '.']].map (expandTabs 0)) = some 8 := by decide +kernel
      exact depth.1.trans (Option.some.inj (margin.symm.trans hm))
  obtain ⟨cleaned, found, same, -⟩ := extract_ofText? "\tArgs:\n\t    x (int): X\n\tDone." ["x"]
    [.bool true] ["google"] (by decide +kernel) words ⟨by decide, by simpa using ⟨.google, rfl⟩⟩
    fun _ => laid
  exact ⟨cleaned, found, same⟩

/-- Entries in google style are lost or won if the first row is a header and less deep than the
others, if other characters than spaces and tabs stand in the margin, or if a carriage return stands
inside of a row. -/
theorem extract_ofText?_uneven :
    (Docstring.ofText? "Args:\n    x (int): X" = some "Args:\nx (int): X"
        ∧ extract (some "Args:\n    x (int): X") ["x"] [.bool true] ["google"]
          = .ok [⟨"x", "integer", "boolean", 0⟩]
        ∧ extract (some "Args:\nx (int): X") ["x"] [.bool true] ["google"] = .ok [])
      ∧ (Docstring.ofText? "D.\n\u00a0Args:\n\u00a0 x (int): X" = some "D.\nArgs:\n x (int): X"
        ∧ extract (some "D.\n\u00a0Args:\n\u00a0 x (int): X") ["x"] [.bool true] ["google"] = .ok []
        ∧ extract (some "D.\nArgs:\n x (int): X") ["x"] [.bool true] ["google"]
          = .ok [⟨"x", "integer", "boolean", 0⟩])
      ∧ (Docstring.ofText? "D.\n  Args:\n    a\r  b\n    x (int): X"
          = some "D.\nArgs:\n  a\r  b\n  x (int): X"
        ∧ extract (some "D.\n  Args:\n    a\r  b\n    x (int): X") ["x"] [.bool true] ["google"]
          = .ok []
        ∧ extract (some "D.\nArgs:\n  a\r  b\n  x (int): X") ["x"] [.bool true] ["google"]
          = .ok [⟨"x", "integer", "boolean", 0⟩]) := by
  decide +kernel

end Finding

end DocGuard

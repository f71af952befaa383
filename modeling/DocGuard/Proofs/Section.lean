import DocGuard.Proofs.Tag.Layout
import DocGuard.Proofs.Text.Line
import DocGuard.Section
/-!
Argument sections, row by row.

A section is found by its header and measured line by line. Where the rows of a text are even, that
is, indented by spaces and tabs and not broken in their midst, the lines of a row are as deep as the
row, and whether a row lies in a section can be told from the rows above it: there is a header, and
everything between the header and the row is blank or deeper than the header
(`Section.any_holds_iff`).
-/

namespace DocGuard

open Text

namespace Text

/-- A row with something in it is indented by spaces and tabs only, and no line break stands in it
before its last visible character. -/
def IsEven (row : List Char) : Prop :=
  isBlankLine row = false →
    (∀ c ∈ row.takeWhile isBlank, isPad c = true)
      ∧ ∀ front c rest, row = front ++ c :: rest → isLineBreak c = true → isBlankLine rest = true

/-- A row with a visible character in it is not blank. -/
theorem isBlankLine_append {front rest : List Char} {c : Char} (hc : isBlank c = false) :
    isBlankLine (front ++ c :: rest) = false := by
  rw [isBlankLine, List.all_append, List.all_cons, hc, Bool.false_and, Bool.and_false]

theorem isBlankLine_append_feed {row : List Char} (h : isBlankLine row = true) :
    isBlankLine (row ++ ['\n']) = true := by
  rw [isBlankLine] at h ⊢
  rw [List.all_append, h]
  decide

theorem isEven_of_noBreak {row : List Char} (pads : (row.takeWhile isBlank).all isPad = true)
    (noBreak : row.any isLineBreak = false) : IsEven row := by
  refine fun _ => ⟨List.all_eq_true.1 pads, fun front c rest e ends => ?_⟩
  rw [eq_false_of_any noBreak c (by simp [e])] at ends
  cases ends

end Text

namespace Section

variable {indent offset : Nat} {text rest row row' : List Char} {above : List (List Char)}

/-! ### Bodies -/

/-- A body of which every line is deep enough reaches to the end. -/
theorem bodyLength_eq_length (h : ∀ line ∈ lines text, inBody indent line = true) :
    bodyLength indent text = text.length := by
  have whole : (lines text).takeWhile (inBody indent) = lines text := by
    rw [← List.append_nil (lines text), List.takeWhile_append_of_pos h]
    rfl
  rw [bodyLength, whole, flatten_lines]

/-- A body cannot be longer than the text. -/
theorem bodyLength_le (indent : Nat) (text : List Char) : bodyLength indent text ≤ text.length := by
  have whole := congrArg List.length (flatten_lines text)
  rw [← List.takeWhile_append_dropWhile (p := inBody indent) (l := lines text),
    List.flatten_append, List.length_append] at whole
  exact Nat.le.intro whole

/-- A body goes on behind lines that are all deep enough. -/
theorem bodyLength_append (h : text = [] ∨ text.getLast? = some '\n')
    (deep : ∀ line ∈ lines text, inBody indent line = true) (rest : List Char) :
    bodyLength indent (text ++ rest) = text.length + bodyLength indent rest := by
  rw [bodyLength, lines_append h, List.takeWhile_append_of_pos deep, List.flatten_append,
    List.length_append, flatten_lines, bodyLength]

/-- A body ends within lines that are not all deep enough. -/
theorem bodyLength_append_le (h : text = [] ∨ text.getLast? = some '\n')
    (stops : ¬ ∀ line ∈ lines text, inBody indent line = true) (rest : List Char) :
    bodyLength indent (text ++ rest) ≤ text.length := by
  have strict : ((lines text).takeWhile (inBody indent)).length ≠ (lines text).length := by
    intro same
    refine stops fun line hline => ?_
    rw [← (List.takeWhile_prefix _).eq_of_length same] at hline
    exact of_mem_takeWhile hline
  rw [bodyLength, lines_append h, List.takeWhile_append, if_neg strict]
  exact bodyLength_le indent text

/-- A body reaches past a text that ends with a line feed if all lines of the text are deep enough
and so is the line behind it. -/
theorem lt_bodyLength_append (h : text = [] ∨ text.getLast? = some '\n') :
    text.length < bodyLength indent (text ++ rest)
      ↔ (∀ line ∈ lines text, inBody indent line = true) ∧ 0 < bodyLength indent rest := by
  by_cases deep : ∀ line ∈ lines text, inBody indent line = true
  · rw [bodyLength_append h deep, Nat.lt_add_right_iff_pos]
    exact (and_iff_right deep).symm
  · have short := bodyLength_append_le h deep rest
    exact iff_of_false (by omega) fun h => deep h.1

/-- A body has a character if its first line is deep enough. -/
theorem bodyLength_pos_iff (ne : text ≠ []) :
    0 < bodyLength indent text ↔ inBody indent ((lines text).headD []) = true := by
  rcases e : lines text with - | ⟨line, more⟩
  · exact absurd e (lines_ne_nil ne)
  · have some : 0 < line.length :=
      List.length_pos_iff.2 (ne_nil_of_mem_lines (e ▸ List.mem_cons_self))
    rw [bodyLength, e]
    by_cases deep : inBody indent line = true
    · simp [deep]
      omega
    · simp [deep]

theorem inBody_of_isBlankLine (h : isBlankLine text = true) : inBody indent text = true := by
  simp [inBody, h]

theorem isBlankLine_of_mem_lines {line : List Char} (h : isBlankLine text = true)
    (hline : line ∈ lines text) : isBlankLine line = true :=
  List.all_eq_true.2 fun c hc => List.all_eq_true.1 h c (mem_of_mem_lines hline hc)

/-! ### Even rows -/

/-- An even row with something in it is padding, then a body in which no line breaks, then white
space. -/
theorem exists_body_of_isEven (h : IsEven row) (filled : isBlankLine row = false) :
    ∃ pads c body tail, row = pads ++ c :: (body ++ tail) ∧ IsPadding pads ∧ isBlank c = false
      ∧ (∀ d ∈ pads ++ c :: body, isLineBreak d = false) ∧ isBlankLine tail = true := by
  obtain ⟨pads, noBreak⟩ := h filled
  have split : row.takeWhile isBlank ++ row.dropWhile isBlank = row :=
    List.takeWhile_append_dropWhile
  rcases e : row.dropWhile isBlank with - | ⟨c, visible⟩
  · rw [e, List.append_nil] at split
    have blank : isBlankLine row = true :=
      List.all_eq_true.2 fun c hc => of_mem_takeWhile (split ▸ hc)
    rw [blank] at filled
    cases filled
  · have hc : isBlank c = false := by
      have head := head?_dropWhile isBlank row
      rwa [e] at head
    -- the body ends where a line would break, and from there on the row is blank
    rw [e, ← List.takeWhile_append_dropWhile (p := fun d => !isLineBreak d) (l := visible)] at split
    refine ⟨_, c, _, _, split.symm, pads, hc, ?_, ?_⟩
    · intro d hd
      rcases List.mem_append.1 hd with hd | hd
      · exact isLineBreak_eq_false_of_isPad (pads d hd)
      · rcases List.mem_cons.1 hd with rfl | hd
        · exact isLineBreak_eq_false_of_isBlank_eq_false hc
        · simpa using of_mem_takeWhile hd
    · rcases t : visible.dropWhile (fun d => !isLineBreak d) with - | ⟨d, behind⟩
      · rfl
      · have ends : isLineBreak d = true := by
          have head := head?_dropWhile (fun d => !isLineBreak d) visible
          rw [t] at head
          simpa using head
        rw [t] at split
        have blank : isBlankLine behind = true :=
          noBreak (row.takeWhile isBlank ++ c :: visible.takeWhile (fun d => !isLineBreak d)) d
            behind (by simpa using split.symm) ends
        rw [isBlankLine, List.all_cons, isBlank_of_isLineBreak ends, Bool.true_and]
        exact blank

/-- A line that begins with padding and a visible character is as deep as the padding. -/
theorem inBody_append {pads tail : List Char} {c : Char} (hpads : IsPadding pads)
    (hc : isBlank c = false) :
    inBody indent (pads ++ c :: tail) = decide (indent < width pads) := by
  have head : (c :: tail).head?.any isPad = false := isPad_eq_false_of_isBlank_eq_false hc
  rw [inBody, isBlankLine_append hc, Bool.false_or, indentWidth,
    takeWhile_append_of_head? hpads head]

/-- The first line of a text is as deep as an even row with which the text begins. -/
theorem exists_lines_append (h : IsEven row) (filled : isBlankLine row = false)
    (rest : List Char) : ∃ line tail, isBlankLine tail = true
      ∧ lines (row ++ rest) = line :: (lines (tail ++ rest)).tail
      ∧ ∀ indent, inBody indent line = inBody indent row := by
  obtain ⟨pads, c, body, tail, rfl, hpads, hc, noBreak, blank⟩ := exists_body_of_isEven h filled
  refine ⟨pads ++ c :: (body ++ (lines (tail ++ rest)).headD []), tail, blank, ?_, fun indent => ?_⟩
  · have cut := lines_append_of_noBreak noBreak (by simp) (tail ++ rest)
    simpa using cut
  · rw [inBody_append hpads hc, inBody_append hpads hc]

/-- The lines of an even row are deep enough if the row is. -/
theorem inBody_lines_iff (h : IsEven row) :
    (∀ line ∈ lines (row ++ ['\n']), inBody indent line = true) ↔ inBody indent row = true := by
  cases filled : isBlankLine row with
  | true =>
    exact ⟨fun _ => inBody_of_isBlankLine filled, fun _ line hline =>
      inBody_of_isBlankLine (isBlankLine_of_mem_lines (isBlankLine_append_feed filled) hline)⟩
  | false =>
    obtain ⟨line, tail, blank, cut, depth⟩ := exists_lines_append h filled ['\n']
    rw [cut, List.forall_mem_cons, depth]
    exact and_iff_left fun line hline => inBody_of_isBlankLine
      (isBlankLine_of_mem_lines (isBlankLine_append_feed blank) (List.mem_of_mem_tail hline))

/-- A body that begins with an even row has a character if the row is deep enough. -/
theorem bodyLength_append_pos_iff (h : IsEven row) (filled : isBlankLine row = false)
    (rest : List Char) : 0 < bodyLength indent (row ++ rest) ↔ inBody indent row = true := by
  have ne : row ++ rest ≠ [] := by
    intro none
    rw [(List.append_eq_nil_iff.1 none).1] at filled
    cases filled
  obtain ⟨line, tail, -, cut, depth⟩ := exists_lines_append h filled rest
  rw [bodyLength_pos_iff ne, cut, List.headD_cons, depth]

/-- A body reaches into an even row behind even rows if all of them are deep enough. -/
theorem lt_bodyLength_iff (above_even : ∀ r ∈ above, IsEven r) (h : IsEven row)
    (filled : isBlankLine row = false) (rest : List Char) :
    (feedRows above).length < bodyLength indent (feedRows above ++ (row ++ rest))
      ↔ ∀ r ∈ above ++ [row], inBody indent r = true := by
  have lines_above : (∀ line ∈ lines (feedRows above), inBody indent line = true)
      ↔ ∀ r ∈ above, inBody indent r = true := by
    clear h filled
    induction above with
    | nil => simp [lines]
    | cons r above ih =>
      have cut : feedRows (r :: above) = (r ++ ['\n']) ++ feedRows above := by simp
      rw [cut, lines_append (by simp), List.forall_mem_append,
        inBody_lines_iff (above_even r List.mem_cons_self),
        ih fun r' hr' => above_even r' (List.mem_cons_of_mem r hr'), List.forall_mem_cons]
  rw [lt_bodyLength_append (feedRows_getLast? above), lines_above,
    bodyLength_append_pos_iff h filled, List.forall_mem_append]
  simp

/-! ### Headers -/

/-- The title of an argument section. -/
def IsTitle (title : List Char) : Prop :=
  title = ['A', 'r', 'g', 's', ':'] ∨ title = ['A', 'r', 'g', 'u', 'm', 'e', 'n', 't', 's', ':']

/-- The row is a header whose title stands at this column. -/
def IsHeader (column : Nat) (row : List Char) : Prop :=
  ∃ pads title pads', row = pads ++ title ++ pads' ∧ IsPadding pads ∧ IsPadding pads'
    ∧ IsTitle title ∧ column = width pads

theorem afterTitle?_eq_some_iff {text rest : List Char} :
    afterTitle? text = some rest ↔ ∃ title, text = title ++ rest ∧ IsTitle title := by
  rw [afterTitle?, Option.or_eq_some_iff]
  constructor
  · rintro (h | ⟨-, h⟩)
    · exact ⟨_, isPrefixOf?_eq_some_iff.1 h, .inr rfl⟩
    · exact ⟨_, isPrefixOf?_eq_some_iff.1 h, .inl rfl⟩
  · rintro ⟨title, rfl, rfl | rfl⟩
    · exact .inr ⟨rfl, isPrefixOf?_append _ _⟩
    · exact .inl (isPrefixOf?_append _ _)

theorem isPad_head?_title {title : List Char} (h : IsTitle title) (rest : List Char) :
    (title ++ rest).head?.any isPad = false := by
  rcases h with rfl | rfl <;> exact (by decide : isPad 'A' = false)

theorem IsHeader.noFeed {column : Nat} (h : IsHeader column row) : '\n' ∉ row := by
  have pad : isPad '\n' = false := by decide
  obtain ⟨pads, title, pads', rfl, hpads, hpads', htitle, -⟩ := h
  intro feed
  rcases List.mem_append.1 feed with feed | feed
  · rcases List.mem_append.1 feed with feed | feed
    · rw [hpads _ feed] at pad
      cases pad
    · rcases htitle with rfl | rfl <;> exact absurd feed (by decide)
  · rw [hpads' _ feed] at pad
    cases pad

/-- What stands before the first line feed of a text stands in one place. -/
theorem append_feed_inj {row row' rest rest' : List Char} (h : '\n' ∉ row) (h' : '\n' ∉ row')
    (e : row ++ '\n' :: rest = row' ++ '\n' :: rest') : row = row' ∧ rest = rest' := by
  have others : ∀ {row : List Char}, '\n' ∉ row → ∀ c ∈ row, (c != '\n') = true :=
    fun h c hc => bne_iff_ne.2 fun feed => h (feed ▸ hc)
  have feed (rest : List Char) : ('\n' :: rest).head?.any (fun c => c != '\n') = false := rfl
  obtain ⟨hrow, tail⟩ := append_inj_of_head? (others h) (feed rest) (others h') (feed rest') e
  exact ⟨hrow, (List.cons.inj tail).2⟩

/-- A text begins with a header if its first row is one. -/
theorem header?_eq_some_iff {column : Nat} {body : List Char} :
    header? text = some (column, body) ↔ ∃ row, text = row ++ '\n' :: body ∧ IsHeader column row := by
  have feed (rest : List Char) : ('\n' :: rest).head?.any isPad = false :=
    (by decide : isPad '\n' = false)
  constructor
  · intro h
    obtain ⟨after, title, h⟩ := Option.bind_eq_some_iff.1 h
    obtain ⟨title, cut, htitle⟩ := afterTitle?_eq_some_iff.1 title
    split at h
    · rename_i body' cut'
      obtain ⟨rfl, rfl⟩ := Prod.mk.inj (Option.some.inj h)
      refine ⟨text.takeWhile isPad ++ title ++ after.takeWhile isPad, ?_, _, title, _, rfl,
        fun c => of_mem_takeWhile, fun c => of_mem_takeWhile, htitle, rfl⟩
      rw [List.append_assoc _ _ ('\n' :: body'), ← cut', List.takeWhile_append_dropWhile,
        List.append_assoc, ← cut, List.takeWhile_append_dropWhile]
    · cases h
  · rintro ⟨_, rfl, pads, title, pads', rfl, hpads, hpads', htitle, rfl⟩
    have cut : pads ++ title ++ pads' ++ '\n' :: body
        = pads ++ (title ++ (pads' ++ '\n' :: body)) := by
      simp
    -- neither the title nor the line feed is a blank, so the pads are read as they were written
    rw [cut, header?, dropWhile_append_of_head? hpads (isPad_head?_title htitle _),
      afterTitle?_eq_some_iff.2 ⟨title, rfl, htitle⟩, Option.bind_eq_bind, Option.bind_some,
      dropWhile_append_of_head? hpads' (feed body)]
    show some (indentWidth _, body) = _
    rw [indentWidth, takeWhile_append_of_head? hpads (isPad_head?_title htitle _)]

/-- A text of which the first row is known begins with a header if this row is one. -/
theorem header?_append_feed_iff {column : Nat} {body : List Char} (noFeed : '\n' ∉ row) :
    header? (row ++ '\n' :: rest) = some (column, body) ↔ IsHeader column row ∧ body = rest := by
  rw [header?_eq_some_iff]
  constructor
  · rintro ⟨row', cut, isHeader⟩
    obtain ⟨rfl, rfl⟩ := append_feed_inj noFeed isHeader.noFeed cut
    exact ⟨isHeader, rfl⟩
  · rintro ⟨isHeader, rfl⟩
    exact ⟨row, rfl, isHeader⟩

/-! ### Sections of a text -/

/-- The row lies in a section: of the rows `above` one is a header, and no row from the next on
ends its section. -/
def Covers : List (List Char) → List Char → Prop
  | [], _ => False
  | header :: between, row =>
    (∃ column, IsHeader column header ∧ ∀ r ∈ between ++ [row], inBody column r = true)
      ∨ Covers between row

theorem length_lt_of_header? {column : Nat} {body : List Char}
    (h : header? text = some (column, body)) : body.length < text.length := by
  obtain ⟨row, rfl, -⟩ := header?_eq_some_iff.1 h
  rw [List.length_append, List.length_cons]
  omega

/-- A section begins behind its header. -/
theorem lt_start_of_mem_scan {rowStart : Bool} {s : Section}
    (h : s ∈ scan offset rowStart text) : offset < s.start := by
  induction text generalizing offset rowStart with
  | nil => cases h
  | cons c text ih =>
    rcases List.mem_append.1 h with h | h
    · have here : at? offset (c :: text) = some s := by
        cases rowStart with
        | true => simpa using h
        | false => cases h
      obtain ⟨⟨column, body⟩, header, rfl⟩ := Option.map_eq_some_iff.1 here
      have := length_lt_of_header? header
      show offset < offset + ((c :: text).length - body.length)
      omega
    · have := ih h
      omega

/-- Within a row no section is found. -/
theorem scan_false (noFeed : '\n' ∉ row) :
    scan offset false (row ++ '\n' :: rest) = scan (offset + row.length + 1) true rest := by
  induction row generalizing offset with
  | nil => simp [scan]
  | cons c row ih =>
    have ne : (c == '\n') = false := beq_eq_false_iff_ne.2 fun e => noFeed (by simp [e])
    have next := @ih (offset + 1) fun hc => noFeed (List.mem_cons_of_mem c hc)
    rw [List.cons_append, scan, ne, next, List.length_cons, Nat.add_right_comm offset 1]
    rfl

/-- A row gives at most one section, that of the header that it is. -/
theorem scan_row (noFeed : '\n' ∉ row) :
    scan offset true (row ++ '\n' :: rest)
      = (at? offset (row ++ '\n' :: rest)).toList ++ scan (offset + row.length + 1) true rest := by
  cases row with
  | nil => simp [scan]
  | cons c row =>
    have ne : (c == '\n') = false := beq_eq_false_iff_ne.2 fun e => noFeed (by simp [e])
    have next := @scan_false (offset + 1) rest row fun hc => noFeed (List.mem_cons_of_mem c hc)
    rw [List.cons_append, scan, if_pos rfl, ne, next, List.length_cons,
      Nat.add_right_comm offset 1]
    rfl

/-- The section of a header reaches into an even row behind even rows if all of them are deep
enough. -/
theorem any_at?_iff {header : List Char} (noFeed : '\n' ∉ header)
    (above_even : ∀ r ∈ above, IsEven r) (h : IsEven row) (filled : isBlankLine row = false)
    (rest : List Char) :
    (at? offset (header ++ '\n' :: (feedRows above ++ (row ++ rest)))).toList.any
        (·.holds (offset + header.length + 1 + (feedRows above).length)) = true
      ↔ ∃ column, IsHeader column header ∧ ∀ r ∈ above ++ [row], inBody column r = true := by
  have reaches (column : Nat) :
      (feedRows above).length < bodyLength column (feedRows above ++ (row ++ rest))
        ↔ ∀ r ∈ above ++ [row], inBody column r = true :=
    lt_bodyLength_iff above_even h filled rest
  generalize feedRows above ++ (row ++ rest) = body at reaches ⊢
  have place : (header ++ '\n' :: body).length - body.length = header.length + 1 := by
    simp only [List.length_append, List.length_cons]
    omega
  rcases e : header? (header ++ '\n' :: body) with - | ⟨column, body'⟩
  · -- nothing is read where no header is, and no header is where nothing is read
    constructor
    · intro held
      rw [at?, e] at held
      cases held
    · rintro ⟨column, isHeader, -⟩
      rw [(header?_append_feed_iff noFeed).2 ⟨isHeader, rfl⟩] at e
      cases e
  · obtain ⟨isHeader, rfl⟩ := (header?_append_feed_iff noFeed).1 e
    have held : (at? offset (header ++ '\n' :: body')).toList.any
          (·.holds (offset + header.length + 1 + (feedRows above).length)) = true
        ↔ (feedRows above).length < bodyLength column body' := by
      rw [at?, e]
      simp only [Option.map_some, place, Option.toList_some, List.any_cons, List.any_nil,
        Bool.or_false, holds, Bool.and_eq_true, decide_eq_true_eq]
      omega
    rw [held, reaches]
    constructor
    · exact fun deep => ⟨column, isHeader, deep⟩
    · rintro ⟨column', isHeader', deep⟩
      have same : header? (header ++ '\n' :: body') = some (column', body') :=
        (header?_append_feed_iff noFeed).2 ⟨isHeader', rfl⟩
      rw [e] at same
      cases same
      exact deep

/-- **Sections can be told from the rows.** A row with something in it lies in a section if one of
the rows above is a header and all rows between are blank or deeper than the header, as it is
itself. -/
theorem any_holds_iff (above_even : ∀ r ∈ above, IsEven r ∧ '\n' ∉ r) (h : IsEven row)
    (filled : isBlankLine row = false) (rest : List Char) :
    (all (feedRows above ++ (row ++ rest))).any (·.holds (feedRows above).length) = true
      ↔ Covers above row := by
  -- the rows above are passed one by one, each of which may open a section that reaches the row
  have from_ (offset : Nat) :
      (scan offset true (feedRows above ++ (row ++ rest))).any
          (·.holds (offset + (feedRows above).length)) = true ↔ Covers above row := by
    induction above generalizing offset with
    | nil =>
      have none : (scan offset true (feedRows [] ++ (row ++ rest))).any
          (·.holds (offset + (feedRows []).length)) = false := by
        refine List.any_eq_false.2 fun s hs held => ?_
        have := lt_start_of_mem_scan hs
        simp only [holds, feedRows_nil, List.length_nil, Bool.and_eq_true] at held
        have := of_decide_eq_true held.1
        omega
      rw [none]
      simp [Covers]
    | cons header above ih =>
      obtain ⟨-, noFeed⟩ := above_even header List.mem_cons_self
      have others := fun r hr => above_even r (List.mem_cons_of_mem header hr)
      have place : offset + (feedRows (header :: above)).length
          = offset + header.length + 1 + (feedRows above).length := by
        rw [feedRows_cons, List.length_append, List.length_cons]
        omega
      rw [place, feedRows_cons, List.append_assoc, List.cons_append, scan_row noFeed,
        List.any_append, Bool.or_eq_true, ih others,
        any_at?_iff noFeed (fun r hr => (others r hr).1) h filled, Covers]
  have whole := from_ 0
  rwa [Nat.zero_add] at whole

end Section

end DocGuard

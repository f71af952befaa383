import DocGuard.Docstring
import DocGuard.Proofs.Section
import DocGuard.Proofs.Tag.Respacing
import DocGuard.Proofs.Text.Indent
/-!
Cleaning a docstring.

A cleaned docstring has the rows of the docstring, apart from blank ones at the ends, and each of
them has the visible characters of its origin, with expanded tabs and another indentation
(`Reindented`). So the two texts differ in white space only (`Kept.respaced`).
-/

namespace DocGuard

open Text

namespace Docstring

variable {lines : Prop} {feeds : Nat} {first : Bool} {gap gap' body rest rest' : List Char}

/-! ### Reindented rows -/

/-- The row `row'` is `row` with tabs expanded and `taken` columns taken from its indentation. If
`lines` holds, nothing but spaces and tabs stands there. -/
def Reindented (lines : Prop) (taken : Nat) (row row' : List Char) : Prop :=
  ∃ margin body column, row = margin ++ body
    ∧ row' = (expandTabs 0 margin).drop taken ++ expandTabs column body
    ∧ IsSpace margin ∧ body.head?.any isBlank = false
    ∧ (body ≠ [] → taken ≤ (expandTabs 0 margin).length ∧ (lines → IsPadding margin))

/-- Two gaps within a row, of which the second has its tabs expanded. -/
structure WithinRow (gap gap' : List Char) : Prop where
  space : IsSpace gap
  space' : IsSpace gap'
  noFeed : '\n' ∉ gap
  noFeed' : '\n' ∉ gap'
  empty : gap = [] ↔ gap' = []
  padding : IsPadding gap ↔ IsPadding gap'

theorem not_opensLine_of_noFeed (h : '\n' ∉ gap) : ¬ OpensLine false gap := by
  rintro ⟨passed, margin, rfl, -, ⟨e, -⟩ | feed⟩
  · cases e
  · exact h (List.mem_append_left _ (List.mem_of_getLast? feed))

theorem WithinRow.gapLike (h : WithinRow gap gap') : GapLike lines false gap gap' where
  empty _ := h.empty
  padding _ _ := h.padding
  opens _ := iff_of_false (not_opensLine_of_noFeed h.noFeed) (not_opensLine_of_noFeed h.noFeed')
  feeds _ _ := by rw [List.count_eq_zero.2 h.noFeed, List.count_eq_zero.2 h.noFeed']

theorem withinRow_nil : WithinRow [] [] := by
  constructor <;> simp [IsSpace]

theorem isPadding_append_iff : IsPadding (gap ++ rest) ↔ IsPadding gap ∧ IsPadding rest := by
  simp only [IsPadding, List.forall_mem_append]

theorem isSpace_append_iff : IsSpace (gap ++ rest) ↔ IsSpace gap ∧ IsSpace rest := by
  simp only [IsSpace, List.forall_mem_append]

theorem WithinRow.concat {c : Char} (h : WithinRow gap gap') (blank : isBlank c = true)
    (ne : c ≠ '\n') (column : Nat) :
    WithinRow (gap ++ [c]) (gap' ++ expansion column c) := by
  have pads : IsPadding [c] ↔ IsPadding (expansion column c) := by
    by_cases tab : c = '\t'
    · rw [expansion, if_pos tab, tab]
      exact iff_of_true (by simp [IsPadding, isPad]) (isPadding_replicate _)
    · rw [expansion, if_neg tab]
  have spaces : IsSpace (expansion column c) := by
    intro d hd
    rcases mem_expansion hd with ⟨-, rfl⟩ | ⟨-, rfl⟩
    · decide
    · exact blank
  have noFeed : '\n' ∉ expansion column c := by
    intro feed
    rcases mem_expansion feed with ⟨-, e⟩ | ⟨-, e⟩
    · exact absurd e (by decide)
    · exact ne e.symm
  have some := expansion_ne_nil column c
  refine ⟨isSpace_append_iff.2 ⟨h.space, by simpa [IsSpace] using blank⟩,
    isSpace_append_iff.2 ⟨h.space', spaces⟩, ?_, ?_, ?_, ?_⟩
  · simpa using ⟨h.noFeed, Ne.symm ne⟩
  · simpa using ⟨h.noFeed', noFeed⟩
  · simp [some]
  · rw [isPadding_append_iff, isPadding_append_iff, h.padding, pads]

/-- Expanding the tabs of a row changes its white space only. -/
theorem respaced_expandTabs (noFeed : '\n' ∉ body) (within : WithinRow gap gap') (column : Nat)
    (behind : ∀ gap gap', WithinRow gap gap' →
      Respaced lines feeds 0 false (gap ++ rest) (gap' ++ rest')) :
    Respaced lines feeds 0 false (gap ++ (body ++ rest))
      (gap' ++ (expandTabs column body ++ rest')) := by
  induction body generalizing gap gap' column with
  | nil => exact behind gap gap' within
  | cons c body ih =>
    have ne : c ≠ '\n' := fun e => noFeed (by simp [e])
    have others : '\n' ∉ body := fun hc => noFeed (List.mem_cons_of_mem c hc)
    cases hc : isBlank c with
    | true =>
      have next := ih others (within.concat hc ne column) (advance column c)
      simpa [expandTabs_cons] using next
    | false =>
      have next := ih others withinRow_nil (advance column c)
      have step : Respaced lines feeds 0 false (gap ++ c :: (body ++ rest))
          (gap' ++ c :: (expandTabs (advance column c) body ++ rest')) :=
        .step within.space within.space' hc within.gapLike next
      simpa [expandTabs_cons, expansion_of_isBlank hc] using step

/-! ### Rows put together -/

/-- A row begins behind both gaps. -/
structure AtRow (lines : Prop) (first : Bool) (gap gap' : List Char) : Prop where
  space : IsSpace gap
  space' : IsSpace gap'
  start : StartsLine first gap
  start' : StartsLine first gap'
  feeds : lines → first = false → gap.count '\n' = gap'.count '\n'

/-- The indentation of a row lengthens the gap in front of it. -/
theorem AtRow.gapLike {margin margin' : List Char} (h : AtRow lines first gap gap')
    (pads : lines → IsPadding margin ∧ IsPadding margin') :
    GapLike lines first (gap ++ margin) (gap' ++ margin') where
  empty between := by
    have some : ∀ {gap : List Char}, StartsLine first gap → gap ≠ [] := by
      rintro gap (⟨e, -⟩ | feed)
      · rw [between] at e
        cases e
      · rintro rfl
        cases feed
    simp [some h.start, some h.start']
  padding _ between := by
    have notPads {gap margin : List Char} (start : StartsLine first gap) :
        ¬ IsPadding (gap ++ margin) := by
      intro pads
      rcases start with ⟨e, -⟩ | feed
      · rw [between] at e
        cases e
      · exact absurd (pads '\n' (List.mem_append_left _ (List.mem_of_getLast? feed))) (by decide)
    exact iff_of_false (notPads h.start) (notPads h.start')
  opens hl := iff_of_true ⟨gap, margin, rfl, (pads hl).1, h.start⟩
    ⟨gap', margin', rfl, (pads hl).2, h.start'⟩
  feeds hl between := by
    rw [List.count_append, List.count_append, Tag.count_eq_zero_of_isPadding (pads hl).1,
      Tag.count_eq_zero_of_isPadding (pads hl).2, h.feeds hl between]

theorem isSpace_feed : IsSpace ['\n'] := by
  intro c hc
  rw [List.mem_singleton.1 hc]
  decide

theorem AtRow.next {row row' : List Char} (h : AtRow lines first gap gap') (space : IsSpace row)
    (space' : IsSpace row') (noFeed : '\n' ∉ row) (noFeed' : '\n' ∉ row') :
    AtRow lines first (gap ++ row ++ ['\n']) (gap' ++ row' ++ ['\n']) := by
  refine ⟨isSpace_append_iff.2 ⟨isSpace_append_iff.2 ⟨h.space, space⟩, isSpace_feed⟩,
    isSpace_append_iff.2 ⟨isSpace_append_iff.2 ⟨h.space', space'⟩, isSpace_feed⟩, .inr (by simp),
    .inr (by simp), fun hl between => ?_⟩
  simp only [List.count_append, List.count_eq_zero.2 noFeed, List.count_eq_zero.2 noFeed',
    h.feeds hl between]

theorem WithinRow.next (h : WithinRow gap gap') :
    AtRow lines false (gap ++ ['\n']) (gap' ++ ['\n']) := by
  refine ⟨isSpace_append_iff.2 ⟨h.space, isSpace_feed⟩,
    isSpace_append_iff.2 ⟨h.space', isSpace_feed⟩, .inr (by simp), .inr (by simp), fun _ _ => ?_⟩
  simp only [List.count_append, List.count_eq_zero.2 h.noFeed, List.count_eq_zero.2 h.noFeed']

/-- A row and the same row reindented differ in white space only, whatever follows does. -/
theorem respaced_row {row row' : List Char} {taken : Nat} (h : Reindented lines taken row row')
    (noFeed : '\n' ∉ row) (noFeed' : '\n' ∉ row') (atRow : AtRow lines first gap gap')
    (within : ∀ gap gap', WithinRow gap gap' →
      Respaced lines feeds 0 false (gap ++ rest) (gap' ++ rest'))
    (blank : IsSpace row → IsSpace row' →
      Respaced lines feeds 0 first (gap ++ (row ++ rest)) (gap' ++ (row' ++ rest'))) :
    Respaced lines feeds 0 first (gap ++ (row ++ rest)) (gap' ++ (row' ++ rest')) := by
  obtain ⟨margin, body, column, rfl, rfl, space, visible, filled⟩ := h
  have space' : IsSpace ((expandTabs 0 margin).drop taken) :=
    fun c hc => isBlank_expandTabs space c (List.mem_of_mem_drop hc)
  have pads (hl : lines) (ne : body ≠ []) :
      IsPadding margin ∧ IsPadding ((expandTabs 0 margin).drop taken) :=
    ⟨(filled ne).2 hl,
      fun c hc => isPadding_expandTabs ((filled ne).2 hl) c (List.mem_of_mem_drop hc)⟩
  cases body with
  | nil => exact blank (by simpa using space) (by simpa [expandTabs] using space')
  | cons c body =>
    have hc : isBlank c = false := visible
    have inside : '\n' ∉ body := fun feed => noFeed (by simp [feed])
    have next := respaced_expandTabs inside withinRow_nil (advance column c) within
    have step : Respaced lines feeds 0 first ((gap ++ margin) ++ c :: (body ++ rest))
        ((gap' ++ (expandTabs 0 margin).drop taken)
          ++ c :: (expandTabs (advance column c) body ++ rest')) :=
      .step (isSpace_append_iff.2 ⟨atRow.space, space⟩)
        (isSpace_append_iff.2 ⟨atRow.space', space'⟩) hc
        (atRow.gapLike fun hl => pads hl (by simp)) next
    simpa [expandTabs_cons, expansion_of_isBlank hc] using step

/-- Rows that are reindented differ from their origins in white space only. Behind them, blank rows
may be missing. -/
theorem respaced_rows {parts parts' : List (List Char)} {tail : List Char} (ne : parts ≠ [])
    (h : List.Forall₂ (fun row row' => ∃ taken, Reindented lines taken row row') parts parts')
    (noFeed : ∀ row ∈ parts, '\n' ∉ row) (noFeed' : ∀ row ∈ parts', '\n' ∉ row)
    (htail : IsSpace tail)
    (count : lines → tail.count '\n' = feeds) (atRow : AtRow lines first gap gap') :
    Respaced lines feeds 0 first (gap ++ (unrows parts ++ tail)) (gap' ++ unrows parts') := by
  induction h generalizing first gap gap' with
  | nil => exact absurd rfl ne
  | @cons row row' parts parts' hrow hparts ih =>
    obtain ⟨taken, hrow⟩ := hrow
    have rowFeed := noFeed row List.mem_cons_self
    have rowFeed' := noFeed' row' List.mem_cons_self
    have others := fun r hr => noFeed r (List.mem_cons_of_mem row hr)
    have others' := fun r hr => noFeed' r (List.mem_cons_of_mem row' hr)
    cases hparts with
    | nil =>
      -- behind the last row the one text may still have blank rows, which are the `tail`
      have last : Respaced lines feeds 0 first (gap ++ (row ++ tail)) (gap' ++ (row' ++ [])) :=
        respaced_row hrow rowFeed rowFeed' atRow
        (fun gap gap' within => .done (isSpace_append_iff.2 ⟨within.space, htail⟩)
          (by simpa using within.space') fun hl _ => by
            rw [List.count_append, List.count_eq_zero.2 within.noFeed, List.append_nil,
              List.count_eq_zero.2 within.noFeed', count hl, Nat.zero_add, Nat.add_zero])
        (fun space space' => .done
          (isSpace_append_iff.2 ⟨atRow.space, isSpace_append_iff.2 ⟨space, htail⟩⟩)
          (isSpace_append_iff.2 ⟨atRow.space', by simpa using space'⟩) fun hl between => by
            simp only [List.count_append, List.count_eq_zero.2 rowFeed,
              List.count_eq_zero.2 rowFeed', atRow.feeds hl between, count hl, List.count_nil]
            omega)
      simpa using last
    | @cons next next' parts parts' hnext hparts =>
      have both : Respaced lines feeds 0 first
          (gap ++ (row ++ '\n' :: (unrows (next :: parts) ++ tail)))
          (gap' ++ (row' ++ '\n' :: unrows (next' :: parts'))) :=
        respaced_row hrow rowFeed rowFeed' atRow
        (fun gap gap' within => by simpa using ih (by simp) others others' within.next)
        (fun space space' => by
          simpa using ih (by simp) others others' (atRow.next space space' rowFeed rowFeed'))
      simpa [unrows_cons_cons] using both

/-! ### The rows of a cleaned docstring -/

/-- The margin of the later rows, or nothing if there is none. -/
def margin (later : List (List Char)) : Nat :=
  (margin? later).getD 0

/-- The rows of a docstring without tabs and margin, the blank ones at the ends included. -/
def alignedRows (text : List Char) : List (List Char) :=
  match (rows text).map (expandTabs 0) with
  | [] => []
  | first :: later => first.dropWhile isBlank :: later.map (·.drop (margin later))

theorem dropMargin_eq (later : List (List Char)) :
    dropMargin later = later.map (·.drop (margin later)) := by
  rw [dropMargin, margin]
  cases margin? later with
  | none => simp
  | some n => rfl

theorem clean_eq (text : List Char) : clean text = unrows (trimRows (alignedRows text)) := by
  rw [clean, cleanedRows, rows_expandTabs, alignedRows]
  rcases (rows text).map (expandTabs 0) with - | ⟨first, later⟩
  · rfl
  · rw [cleanRows, dropMargin_eq]

/-- Only empty rows are trimmed. -/
theorem exists_trimRows (parts : List (List Char)) :
    ∃ above below, parts = above ++ (trimRows parts ++ below)
      ∧ ∀ row ∈ above ++ below, row = [] := by
  have empty {front parts : List (List Char)} (h : front = parts.takeWhile (·.isEmpty)) :
      ∀ row ∈ front, row = [] := by
    intro row hrow
    rw [h] at hrow
    exact List.isEmpty_iff.1 (of_mem_takeWhile hrow)
  have ends := List.takeWhile_append_dropWhile (p := fun row : List Char => row.isEmpty)
    (l := (parts.dropWhile (·.isEmpty)).reverse)
  refine ⟨parts.takeWhile (·.isEmpty),
    (((parts.dropWhile (·.isEmpty)).reverse).takeWhile (·.isEmpty)).reverse, ?_, ?_⟩
  · rw [trimRows, ← List.reverse_append, ends, List.reverse_reverse,
      List.takeWhile_append_dropWhile]
  · intro row hrow
    rcases List.mem_append.1 hrow with hrow | hrow
    · exact empty rfl row hrow
    · exact empty rfl row (List.mem_reverse.1 hrow)

/-- A row is its indentation and what begins with a visible character. -/
theorem exists_body (row : List Char) : ∃ margin body column, row = margin ++ body
    ∧ expandTabs 0 row = expandTabs 0 margin ++ expandTabs column body
    ∧ IsSpace margin ∧ body.head?.any isBlank = false ∧ margin = row.takeWhile isBlank := by
  refine ⟨row.takeWhile isBlank, row.dropWhile isBlank, (row.takeWhile isBlank).foldl advance 0,
    List.takeWhile_append_dropWhile.symm, ?_, fun c => of_mem_takeWhile,
    head?_dropWhile isBlank row, rfl⟩
  rw [← expandTabs_append, List.takeWhile_append_dropWhile]

theorem head?_expandTabs (column : Nat) (h : body.head?.any isBlank = false) :
    (expandTabs column body).head?.any isBlank = false := by
  cases body with
  | nil => rfl
  | cons c body =>
    rw [expandTabs_cons, expansion_of_isBlank h]
    exact h

/-- Any number of columns up to the width of its indentation can be taken from a row. -/
theorem reindented_drop {row : List Char} {taken : Nat}
    (inside : isBlankLine row = false → taken ≤ indentLength (expandTabs 0 row))
    (even : lines → IsEven row) :
    Reindented lines taken row ((expandTabs 0 row).drop taken) := by
  obtain ⟨margin, body, column, e, expanded, space, visible, run⟩ := exists_body row
  have indent : indentLength (expandTabs 0 row) = (expandTabs 0 margin).length := by
    rw [indentLength, expanded, takeWhile_append_of_head? (isBlank_expandTabs space)
      (head?_expandTabs column visible)]
  have filled (ne : body ≠ []) : isBlankLine row = false := by
    obtain ⟨c, body, rfl⟩ := List.exists_cons_of_ne_nil ne
    rw [e]
    exact isBlankLine_append visible
  refine ⟨margin, body, column, e, ?_, space, visible, fun ne => ?_⟩
  · by_cases none : body = []
    · rw [expanded, none, expandTabs, List.append_nil, List.append_nil]
    · rw [expanded, List.drop_append_of_le_length (by rw [← indent]; exact inside (filled none))]
  · rw [← indent]
    refine ⟨inside (filled ne), fun hl c hc => ?_⟩
    rw [run] at hc
    exact (even hl (filled ne)).1 c hc

/-- The first row loses all of its indentation. -/
theorem reindented_first {row : List Char} (even : lines → IsEven row) :
    Reindented lines (indentLength (expandTabs 0 row)) row
      ((expandTabs 0 row).dropWhile isBlank) := by
  have cut : (expandTabs 0 row).dropWhile isBlank
      = (expandTabs 0 row).drop (indentLength (expandTabs 0 row)) := by
    have split := List.takeWhile_append_dropWhile (p := isBlank) (l := expandTabs 0 row)
    rw [indentLength]
    exact (List.drop_left' rfl).symm.trans (by rw [split])
  rw [cut]
  exact reindented_drop (fun _ => Nat.le_refl _) even

/-- The margin is no wider than the indentation of a row with something in it. -/
theorem margin_le {later : List (List Char)} {row : List Char} (hrow : row ∈ later)
    (filled : isBlankLine row = false) :
    margin? later = some (margin later) ∧ margin later ≤ indentLength row := by
  have mem : indentLength row
      ∈ (later.filter fun row => !isBlankLine row).map indentLength :=
    List.mem_map.2 ⟨row, List.mem_filter.2 ⟨hrow, by simp [filled]⟩, rfl⟩
  rcases e : margin? later with - | n
  · rw [margin?, List.min?_eq_none_iff] at e
    rw [e] at mem
    cases mem
  · have least := (List.min?_eq_some_iff.1 e).2 _ mem
    rw [margin, e]
    exact ⟨rfl, least⟩

theorem isBlankLine_expandTabs {row : List Char} (filled : isBlankLine row = false) :
    isBlankLine (expandTabs 0 row) = false := by
  obtain ⟨margin, body, column, e, expanded, space, visible, -⟩ := exists_body row
  cases body with
  | nil =>
    have blank : isBlankLine row = true := by
      rw [e, List.append_nil]
      exact List.all_eq_true.2 space
    rw [blank] at filled
    cases filled
  | cons c body =>
    rw [expanded, expandTabs_cons, expansion_of_isBlank visible]
    exact isBlankLine_append visible

/-- A later row loses the margin. -/
theorem reindented_later {later : List (List Char)} {row : List Char} (hrow : row ∈ later)
    (even : lines → IsEven row) :
    Reindented lines (margin (later.map (expandTabs 0))) row
      ((expandTabs 0 row).drop (margin (later.map (expandTabs 0)))) :=
  reindented_drop (fun filled => (margin_le (List.mem_map_of_mem hrow)
    (isBlankLine_expandTabs filled)).2) even

section Aligned

variable {text : List Char}

theorem alignedRows_eq {row : List Char} {later : List (List Char)} (h : rows text = row :: later) :
    alignedRows text = (expandTabs 0 row).dropWhile isBlank
      :: later.map fun row => (expandTabs 0 row).drop (margin (later.map (expandTabs 0))) := by
  rw [alignedRows, h]
  simp

/-- The rows of a docstring are reindented one by one. -/
theorem forall₂_alignedRows (even : lines → ∀ row ∈ rows text, IsEven row) :
    List.Forall₂ (fun row row' => ∃ taken, Reindented lines taken row row') (rows text)
      (alignedRows text) := by
  rcases h : rows text with - | ⟨row, later⟩
  · exact absurd h (rows_ne_nil text)
  · rw [h] at even
    rw [alignedRows_eq h]
    refine .cons ⟨_, reindented_first fun hl => even hl row List.mem_cons_self⟩ ?_
    rw [List.forall₂_map_right_iff, List.forall₂_same]
    exact fun r hr => ⟨_, reindented_later hr fun hl => even hl r (List.mem_cons_of_mem row hr)⟩

theorem noFeed_alignedRows : ∀ row ∈ alignedRows text, '\n' ∉ row := by
  rcases h : rows text with - | ⟨row, later⟩
  · exact absurd h (rows_ne_nil text)
  · have noFeed : ∀ r ∈ row :: later, '\n' ∉ expandTabs 0 r :=
      fun r hr => noFeed_expandTabs (noFeed_of_mem_rows (h ▸ hr))
    rw [alignedRows_eq h]
    intro r hr feed
    rcases List.mem_cons.1 hr with rfl | hr
    · exact noFeed row List.mem_cons_self ((List.dropWhile_sublist _).subset feed)
    · obtain ⟨r', hr', rfl⟩ := List.mem_map.1 hr
      exact noFeed r' (List.mem_cons_of_mem row hr') (List.mem_of_mem_drop feed)

theorem isSpace_of_reindented_nil {row : List Char} {taken : Nat}
    (h : Reindented lines taken row []) : IsSpace row := by
  obtain ⟨margin, body, column, rfl, e, space, -⟩ := h
  have none := expandTabs_eq_nil (List.append_eq_nil_iff.1 e.symm).2
  rw [none, List.append_nil]
  exact space

/-- Rows of which nothing is left by reindenting are blank. -/
theorem isSpace_of_forall₂_reindented {parts parts' : List (List Char)}
    (h : List.Forall₂ (fun row row' => ∃ taken, Reindented lines taken row row') parts parts')
    (empty : ∀ row ∈ parts', row = []) : ∀ row ∈ parts, IsSpace row := by
  induction h with
  | nil => simp
  | cons hrow _ ih =>
    obtain ⟨taken, hrow⟩ := hrow
    rw [empty _ List.mem_cons_self] at hrow
    intro row hmem
    rcases List.mem_cons.1 hmem with rfl | hmem
    · exact isSpace_of_reindented_nil hrow
    · exact ih (fun r hr => empty r (List.mem_cons_of_mem _ hr)) row hmem

theorem isSpace_feedRows {above : List (List Char)} (h : ∀ row ∈ above, IsSpace row) :
    IsSpace (feedRows above) := by
  intro c hc
  obtain ⟨row, hrow, hc⟩ := List.mem_flatMap.1 hc
  exact isSpace_append_iff.2 ⟨h row hrow, isSpace_feed⟩ c hc

theorem isSpace_unrows {parts : List (List Char)} (h : ∀ row ∈ parts, IsSpace row) :
    IsSpace (unrows parts) := by
  rcases List.eq_nil_or_concat parts with rfl | ⟨above, row, rfl⟩
  · simp [unrows, IsSpace]
  · rw [List.concat_eq_append] at h ⊢
    rw [unrows_append (by simp), unrows_singleton]
    exact isSpace_append_iff.2 ⟨isSpace_feedRows fun r hr => h r (List.mem_append_left _ hr),
      h row (by simp)⟩

theorem exists_append_of_forall₂ {α β : Type} {R : α → β → Prop} {l : List α}
    {front back : List β} (h : List.Forall₂ R l (front ++ back)) :
    ∃ front' back', l = front' ++ back' ∧ List.Forall₂ R front' front
      ∧ List.Forall₂ R back' back :=
  ⟨_, _, (List.take_append_drop front.length l).symm, List.forall₂_take_append l front back h,
    List.forall₂_drop_append l front back h⟩

/-- The rows of a docstring that are kept, with what becomes of them. Nothing but blank rows is
dropped. -/
structure Kept (lines : Prop) (text : List Char)
    (above kept below above' kept' below' : List (List Char)) : Prop where
  rows_eq : rows text = above ++ (kept ++ below)
  aligned_eq : alignedRows text = above' ++ (kept' ++ below')
  clean_eq : clean text = unrows kept'
  ne : kept' ≠ []
  forall₂_above : List.Forall₂ (fun row row' => ∃ taken, Reindented lines taken row row') above above'
  forall₂_kept : List.Forall₂ (fun row row' => ∃ taken, Reindented lines taken row row') kept kept'
  forall₂_below : List.Forall₂ (fun row row' => ∃ taken, Reindented lines taken row row') below below'
  empty : ∀ row ∈ above' ++ below', row = []
  blank : ∀ row ∈ above ++ below, IsSpace row

theorem exists_kept (filled : isBlankLine text = false)
    (even : lines → ∀ row ∈ rows text, IsEven row) :
    ∃ above kept below above' kept' below',
      Kept lines text above kept below above' kept' below' := by
  obtain ⟨above', below', split, empty⟩ := exists_trimRows (alignedRows text)
  have aligned := forall₂_alignedRows even
  rw [split] at aligned
  obtain ⟨above, others, rows_eq, first, aligned⟩ := exists_append_of_forall₂ aligned
  obtain ⟨kept, below, rfl, second, third⟩ := exists_append_of_forall₂ aligned
  have blank : ∀ row ∈ above ++ below, IsSpace row := by
    intro row hrow
    rcases List.mem_append.1 hrow with hrow | hrow
    · exact isSpace_of_forall₂_reindented first
        (fun r hr => empty r (List.mem_append_left _ hr)) row hrow
    · exact isSpace_of_forall₂_reindented third
        (fun r hr => empty r (List.mem_append_right _ hr)) row hrow
  refine ⟨above, kept, below, above', _, below', rows_eq, split, clean_eq text, ?_, first, second,
    third, empty, blank⟩
  -- if no row were kept, all rows were blank, and so the docstring
  intro none
  rw [none] at second
  cases second
  have allBlank : ∀ row ∈ rows text, IsSpace row := by
    rw [rows_eq]
    simpa using blank
  have blankText : isBlankLine text = true := by
    rw [← unrows_rows text]
    exact List.all_eq_true.2 (isSpace_unrows allBlank)
  rw [blankText] at filled
  cases filled

/-- Rows that follow others stand behind a line feed each. -/
theorem exists_unrows_append {parts below : List (List Char)} (ne : parts ≠ [])
    (blank : ∀ row ∈ below, IsSpace row) (noFeed : ∀ row ∈ below, '\n' ∉ row) :
    ∃ tail, unrows (parts ++ below) = unrows parts ++ tail ∧ IsSpace tail
      ∧ tail.count '\n' = below.length := by
  induction below generalizing parts with
  | nil => exact ⟨[], by simp, by simp [IsSpace], rfl⟩
  | cons row below ih =>
    obtain ⟨tail, e, space, count⟩ := ih (show parts ++ [row] ≠ [] by simp)
      (fun r hr => blank r (List.mem_cons_of_mem row hr))
      fun r hr => noFeed r (List.mem_cons_of_mem row hr)
    refine ⟨'\n' :: (row ++ tail), ?_, ?_, ?_⟩
    · rw [List.append_cons, e, unrows_concat ne]
      simp
    · exact isSpace_append_iff.2
        ⟨isSpace_feed, isSpace_append_iff.2 ⟨blank row List.mem_cons_self, space⟩⟩
    · rw [List.count_cons_self, List.count_append,
        List.count_eq_zero.2 (noFeed row List.mem_cons_self), count, Nat.zero_add, List.length_cons]

/-- **A cleaned docstring differs from its origin in white space only.** -/
theorem Kept.respaced {above kept below above' kept' below' : List (List Char)}
    (h : Kept lines text above kept below above' kept' below') :
    Respaced lines below.length 0 true text (clean text) := by
  have ne : kept ≠ [] := by
    rintro rfl
    have none := h.forall₂_kept
    cases none
    exact h.ne rfl
  have noFeed : ∀ row ∈ above ++ (kept ++ below), '\n' ∉ row :=
    fun row hrow => noFeed_of_mem_rows (h.rows_eq ▸ hrow)
  have noFeed' : ∀ row ∈ kept', '\n' ∉ row :=
    fun row hrow => noFeed_alignedRows row (by rw [h.aligned_eq]; simp [hrow])
  obtain ⟨tail, e, space, count⟩ := exists_unrows_append ne
    (fun row hrow => h.blank row (List.mem_append_right _ hrow))
    fun row hrow => noFeed row (by simp [hrow])
  have front : IsSpace (feedRows above) :=
    isSpace_feedRows fun row hrow => h.blank row (List.mem_append_left _ hrow)
  have atRow : AtRow lines true (feedRows above) [] := by
    refine ⟨front, by simp [IsSpace], ?_, .inl ⟨rfl, rfl⟩, fun _ between => by cases between⟩
    exact (feedRows_getLast? above).imp (fun none => ⟨rfl, none⟩) id
  have text_eq : text = feedRows above ++ (unrows kept ++ tail) := by
    rw [← e, ← unrows_append (by simp [ne]), ← h.rows_eq, unrows_rows]
  -- the rows above are the gap that the kept rows begin with, and the rows below are their tail
  have whole := respaced_rows ne h.forall₂_kept (fun row hrow => noFeed row (by simp [hrow]))
    noFeed' space (fun _ => count) atRow
  rw [← text_eq, List.nil_append, ← h.clean_eq] at whole
  exact whole

end Aligned

end Docstring

end DocGuard

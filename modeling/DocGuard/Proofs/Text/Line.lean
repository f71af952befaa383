import DocGuard.Proofs.Text.Run
import DocGuard.Text.Line
/-!
Lines and rows that are put one after the other.

A text that ends with a line feed keeps its lines and rows whatever follows (`lines_append`,
`rows_append`): all that is said about a text by its lines or rows can be said row by row. Rows
joined by line feeds are the rows of the joined text (`rows_unrows`).
-/

namespace DocGuard.Text

/-! ### Lines -/

theorem endsLine_eq_false {c : Char} (h : isLineBreak c = false) (rest : List Char) :
    endsLine c rest = false := by
  simp [endsLine, h]

theorem lines_ne_nil {text : List Char} (h : text ≠ []) : lines text ≠ [] := by
  intro none
  have flat := flatten_lines text
  rw [none] at flat
  exact h flat.symm

/-- The lines of a text hold its characters. -/
theorem mem_of_mem_lines {text line : List Char} {c : Char} (hline : line ∈ lines text)
    (hc : c ∈ line) : c ∈ text := by
  rw [← flatten_lines text]
  exact List.mem_flatten.2 ⟨line, hline, hc⟩

/-- No line is empty. -/
theorem ne_nil_of_mem_lines {text line : List Char} (h : line ∈ lines text) : line ≠ [] := by
  induction text generalizing line with
  | nil => cases h
  | cons c text ih =>
    rw [lines] at h
    split at h
    · rcases List.mem_cons.1 h with rfl | h
      · simp
      · exact ih h
    · rcases e : lines text with - | ⟨first, more⟩
      · rw [e] at h
        simp_all
      · rw [e] at h ih
        rcases List.mem_cons.1 h with rfl | h
        · simp
        · exact ih (List.mem_cons_of_mem first h)

/-- Characters that are no line breaks belong to the line that follows. -/
theorem lines_append_of_noBreak {body : List Char} (h : ∀ c ∈ body, isLineBreak c = false)
    (ne : body ≠ []) (rest : List Char) :
    lines (body ++ rest) = (body ++ (lines rest).headD []) :: (lines rest).tail := by
  induction body with
  | nil => exact absurd rfl ne
  | cons c body ih =>
    have goesOn := endsLine_eq_false (h c List.mem_cons_self) (body ++ rest)
    rw [List.cons_append, lines, goesOn]
    by_cases last : body = []
    · subst last
      rcases e : lines rest with - | ⟨line, more⟩ <;> simp [e]
    · rw [ih (fun d hd => h d (List.mem_cons_of_mem c hd)) last]
      rfl

/-- What ends with a line feed does so without its first character, if anything is left. -/
theorem endsWithFeed_of_cons {c : Char} {text : List Char} (ne : text ≠ [])
    (h : c :: text = [] ∨ (c :: text).getLast? = some '\n') :
    text = [] ∨ text.getLast? = some '\n' := by
  rcases h with h | h
  · cases h
  · rw [List.getLast?_cons_of_ne_nil ne] at h
    exact .inr h

/-- Behind a line feed a line begins. -/
theorem lines_append {text : List Char} (h : text = [] ∨ text.getLast? = some '\n')
    (rest : List Char) : lines (text ++ rest) = lines text ++ lines rest := by
  induction text with
  | nil => rfl
  | cons c text ih =>
    by_cases last : text = []
    · subst last
      obtain rfl : c = '\n' := by simpa using h
      have ends (rest : List Char) : endsLine '\n' rest = true := by simp [endsLine, isLineBreak]
      simp [lines, ends]
    · have hlast := endsWithFeed_of_cons last h
      have ends : endsLine c (text ++ rest) = endsLine c text := by
        cases text with
        | nil => exact absurd rfl last
        | cons d text => rfl
      rw [List.cons_append, lines, lines, ends, ih hlast]
      rcases e : lines text with - | ⟨line, more⟩
      · exact absurd e (lines_ne_nil last)
      · split <;> rfl

/-- A line that ends with its first break is the first line of the text. -/
theorem lines_append_feed {body rest : List Char} (h : ∀ c ∈ body, isLineBreak c = false) :
    lines (body ++ '\n' :: rest) = (body ++ ['\n']) :: lines rest := by
  have feed : lines ('\n' :: rest) = ['\n'] :: lines rest := by
    have alone : lines (['\n'] ++ rest) = lines ['\n'] ++ lines rest := lines_append (by simp) rest
    exact alone
  by_cases ne : body = []
  · rw [ne]
    exact feed
  · rw [lines_append_of_noBreak h ne, feed]
    rfl

/-! ### Rows -/

theorem rows_append_feed {row : List Char} (h : '\n' ∉ row) (rest : List Char) :
    rows (row ++ '\n' :: rest) = row :: rows rest := by
  induction row with
  | nil => simp [rows]
  | cons c row ih =>
    have ne : c ≠ '\n' := fun e => h (by simp [e])
    rw [List.cons_append, rows, if_neg ne, ih fun hc => h (List.mem_cons_of_mem c hc)]

theorem rows_of_noFeed {row : List Char} (h : '\n' ∉ row) : rows row = [row] := by
  induction row with
  | nil => rfl
  | cons c row ih =>
    have ne : c ≠ '\n' := fun e => h (by simp [e])
    rw [rows, if_neg ne, ih fun hc => h (List.mem_cons_of_mem c hc)]

/-- No row holds a line feed. -/
theorem noFeed_of_mem_rows {text row : List Char} (h : row ∈ rows text) : '\n' ∉ row := by
  induction text generalizing row with
  | nil =>
    obtain rfl : row = [] := by simpa [rows] using h
    simp
  | cons c text ih =>
    rw [rows] at h
    by_cases feed : c = '\n'
    · rw [if_pos feed] at h
      rcases List.mem_cons.1 h with rfl | h
      · simp
      · exact ih h
    · rw [if_neg feed] at h
      rcases e : rows text with - | ⟨first, more⟩
      · exact absurd e (rows_ne_nil text)
      · rw [e] at h ih
        rcases List.mem_cons.1 h with rfl | h
        · simpa [Ne.symm feed] using ih List.mem_cons_self
        · exact ih (List.mem_cons_of_mem first h)

theorem length_rows (text : List Char) : (rows text).length = text.count '\n' + 1 := by
  induction text with
  | nil => rfl
  | cons c text ih =>
    rw [rows]
    by_cases feed : c = '\n'
    · simp [feed, ih]
    · rcases e : rows text with - | ⟨first, more⟩
      · exact absurd e (rows_ne_nil text)
      · rw [e] at ih
        simpa [feed] using ih

/-- Rows with a line feed after each. -/
def feedRows (above : List (List Char)) : List Char :=
  above.flatMap (· ++ ['\n'])

@[simp] theorem feedRows_nil : feedRows [] = [] := rfl

@[simp] theorem feedRows_cons (row : List Char) (above : List (List Char)) :
    feedRows (row :: above) = row ++ '\n' :: feedRows above := by
  simp [feedRows]

theorem feedRows_getLast? (above : List (List Char)) :
    feedRows above = [] ∨ (feedRows above).getLast? = some '\n' := by
  rcases List.eq_nil_or_concat above with rfl | ⟨above, row, rfl⟩
  · exact .inl rfl
  · refine .inr ?_
    simp [feedRows, ← List.append_assoc]

/-- A text that is empty or ends with a line feed consists of rows with a line feed after each. -/
theorem exists_feedRows {text : List Char} (h : text = [] ∨ text.getLast? = some '\n') :
    ∃ above, (∀ row ∈ above, '\n' ∉ row) ∧ text = feedRows above := by
  induction text with
  | nil => exact ⟨[], by simp, rfl⟩
  | cons c text ih =>
    by_cases last : text = []
    · subst last
      obtain rfl : c = '\n' := by simpa using h
      exact ⟨[[]], by simp, rfl⟩
    · obtain ⟨above, noFeed, rfl⟩ := ih (endsWithFeed_of_cons last h)
      by_cases feed : c = '\n'
      · exact ⟨[] :: above, by simpa using noFeed, by simp [feed]⟩
      · cases above with
        | nil => exact absurd rfl last
        | cons row above =>
          refine ⟨(c :: row) :: above, ?_, by simp⟩
          intro row' hrow'
          rcases List.mem_cons.1 hrow' with rfl | hrow'
          · simpa [Ne.symm feed] using noFeed row List.mem_cons_self
          · exact noFeed row' (List.mem_cons_of_mem row hrow')

/-- Behind a line feed a row begins. -/
theorem rows_append {above : List (List Char)} (h : ∀ row ∈ above, '\n' ∉ row) (rest : List Char) :
    rows (feedRows above ++ rest) = above ++ rows rest := by
  induction above with
  | nil => rfl
  | cons row above ih =>
    rw [feedRows_cons, List.append_assoc, List.cons_append,
      rows_append_feed (h row List.mem_cons_self), ih fun r hr => h r (List.mem_cons_of_mem row hr)]
    rfl

theorem unrows_cons_cons (row next : List Char) (others : List (List Char)) :
    unrows (row :: next :: others) = row ++ '\n' :: unrows (next :: others) := by
  simp [unrows]

@[simp] theorem unrows_singleton (row : List Char) : unrows [row] = row := by
  simp [unrows]

theorem unrows_append {above below : List (List Char)} (ne : below ≠ []) :
    unrows (above ++ below) = feedRows above ++ unrows below := by
  induction above with
  | nil => rfl
  | cons row above ih =>
    cases e : above ++ below with
    | nil => exact absurd (List.append_eq_nil_iff.1 e).2 ne
    | cons next others =>
      rw [List.cons_append, e, unrows_cons_cons, ← e, ih, feedRows_cons]
      simp

theorem unrows_concat {above : List (List Char)} (ne : above ≠ []) (row : List Char) :
    unrows (above ++ [row]) = unrows above ++ '\n' :: row := by
  induction above with
  | nil => exact absurd rfl ne
  | cons first above ih =>
    cases above with
    | nil => simp [unrows]
    | cons next others =>
      rw [List.cons_append, List.cons_append, unrows_cons_cons, ← List.cons_append, ih (by simp),
        unrows_cons_cons]
      simp

/-- Rows that are joined are the rows of the joined text. -/
theorem rows_unrows {parts : List (List Char)} (ne : parts ≠ []) (h : ∀ row ∈ parts, '\n' ∉ row) :
    rows (unrows parts) = parts := by
  induction parts with
  | nil => exact absurd rfl ne
  | cons row parts ih =>
    cases parts with
    | nil => simpa using rows_of_noFeed (h row List.mem_cons_self)
    | cons next others =>
      rw [unrows_cons_cons, rows_append_feed (h row List.mem_cons_self),
        ih (by simp) fun r hr => h r (List.mem_cons_of_mem row hr)]

end DocGuard.Text

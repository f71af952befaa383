import DocGuard.Proofs.Tag.Layout
import DocGuard.Proofs.Text.Line
import DocGuard.Text.Indent
/-!
Tab expansion.

Expanding tabs goes row by row (`rows_expandTabs`), since a line feed leads back to the first
column. It changes no visible character and turns padding into as many spaces as the padding is
wide (`expandTabs_of_isPadding`).
-/

namespace DocGuard.Text

variable {column : Nat} {text rest pads : List Char} {c : Char}

/-- What is written for a character. -/
def expansion (column : Nat) (c : Char) : List Char :=
  if c = '\t' then List.replicate (tabStop - column % tabStop) ' ' else [c]

theorem expandTabs_cons (column : Nat) (c : Char) (rest : List Char) :
    expandTabs column (c :: rest) = expansion column c ++ expandTabs (advance column c) rest := rfl

/-- A tab is at least one column wide. -/
theorem tab_pos (column : Nat) : 0 < tabStop - column % tabStop :=
  Nat.sub_pos_of_lt (Nat.mod_lt column (by decide))

/-- A tab leads to the next tab stop. -/
theorem advance_tab (column : Nat) :
    advance column '\t' = column + (tabStop - column % tabStop) := by
  have div := Nat.div_add_mod column tabStop
  have below := tab_pos column
  rw [advance, if_pos rfl, Nat.add_mul, Nat.mul_comm]
  omega

theorem expansion_ne_nil (column : Nat) (c : Char) : expansion column c ≠ [] := by
  by_cases h : c = '\t'
  · rw [expansion, if_pos h]
    exact fun none => Nat.ne_of_gt (tab_pos column) ((List.replicate_eq_nil_iff _).1 none)
  · simp [expansion, h]

theorem expansion_of_isBlank (h : isBlank c = false) : expansion column c = [c] := by
  have ne : c ≠ '\t' := by
    rintro rfl
    exact absurd h (by decide)
  simp [expansion, ne]

/-- A tab is expanded to spaces, and any other character stands for itself. -/
theorem mem_expansion {d : Char} (h : d ∈ expansion column c) :
    (c = '\t' ∧ d = ' ') ∨ (c ≠ '\t' ∧ d = c) := by
  by_cases tab : c = '\t'
  · rw [expansion, if_pos tab] at h
    exact .inl ⟨tab, List.eq_of_mem_replicate h⟩
  · rw [expansion, if_neg tab] at h
    exact .inr ⟨tab, by simpa using h⟩

theorem expandTabs_append (column : Nat) (text rest : List Char) :
    expandTabs column (text ++ rest)
      = expandTabs column text ++ expandTabs (text.foldl advance column) rest := by
  induction text generalizing column with
  | nil => rfl
  | cons c text ih => simp [expandTabs_cons, ih]

theorem expandTabs_eq_nil (h : expandTabs column text = []) : text = [] := by
  cases text with
  | nil => rfl
  | cons c text =>
    rw [expandTabs_cons] at h
    exact absurd (List.append_eq_nil_iff.1 h).1 (expansion_ne_nil column c)

theorem mem_expandTabs {d : Char} (h : d ∈ expandTabs column text) :
    ∃ c ∈ text, (c = '\t' ∧ d = ' ') ∨ (c ≠ '\t' ∧ d = c) := by
  induction text generalizing column with
  | nil => cases h
  | cons c text ih =>
    rw [expandTabs_cons] at h
    rcases List.mem_append.1 h with h | h
    · exact ⟨c, List.mem_cons_self, mem_expansion h⟩
    · obtain ⟨e, he, hd⟩ := ih h
      exact ⟨e, List.mem_cons_of_mem c he, hd⟩

theorem noFeed_expandTabs (h : '\n' ∉ text) : '\n' ∉ expandTabs column text := by
  intro feed
  obtain ⟨c, hc, ⟨-, e⟩ | ⟨-, rfl⟩⟩ := mem_expandTabs feed
  · exact absurd e (by decide)
  · exact h hc

theorem isBlank_expandTabs (h : ∀ c ∈ text, isBlank c = true) :
    ∀ c ∈ expandTabs column text, isBlank c = true := by
  intro d hd
  obtain ⟨c, hc, ⟨-, rfl⟩ | ⟨-, rfl⟩⟩ := mem_expandTabs hd
  · decide
  · exact h d hc

/-- Expanding tabs goes row by row. -/
theorem rows_expandTabs (text : List Char) :
    rows (expandTabs 0 text) = (rows text).map (expandTabs 0) := by
  have joined : ∀ parts : List (List Char), parts ≠ [] → (∀ row ∈ parts, '\n' ∉ row) →
      rows (expandTabs 0 (unrows parts)) = parts.map (expandTabs 0) := by
    intro parts
    induction parts with
    | nil => exact fun ne => absurd rfl ne
    | cons row parts ih =>
      intro _ noFeed
      have first : '\n' ∉ expandTabs 0 row := noFeed_expandTabs (noFeed row List.mem_cons_self)
      cases parts with
      | nil => simpa using rows_of_noFeed first
      | cons next others =>
        have feed (column : Nat) (rest : List Char) :
            expandTabs column ('\n' :: rest) = '\n' :: expandTabs 0 rest := rfl
        rw [unrows_cons_cons, expandTabs_append, feed, rows_append_feed first,
          ih (by simp) fun r hr => noFeed r (List.mem_cons_of_mem row hr)]
        rfl
  have whole := joined (rows text) (rows_ne_nil text) fun row => noFeed_of_mem_rows
  rwa [unrows_rows] at whole

/-! ### Padding -/

theorem le_advance (column : Nat) (h : isPad c = true) : column ≤ advance column c := by
  rcases (by simpa [isPad] using h : c = ' ' ∨ c = '\t') with rfl | rfl
  · simp [advance]
  · rw [advance_tab]
    exact Nat.le_add_right ..

theorem expansion_of_isPad (column : Nat) (h : isPad c = true) :
    expansion column c = List.replicate (advance column c - column) ' ' := by
  rcases (by simpa [isPad] using h : c = ' ' ∨ c = '\t') with rfl | rfl
  · simp [expansion, advance]
  · rw [expansion, if_pos rfl, advance_tab, Nat.add_sub_cancel_left]

theorem expandTabs_padding (column : Nat) (h : IsPadding pads) :
    column ≤ pads.foldl advance column
      ∧ expandTabs column pads = List.replicate (pads.foldl advance column - column) ' ' := by
  induction pads generalizing column with
  | nil => simp [expandTabs]
  | cons c pads ih =>
    have pad : isPad c = true := h c List.mem_cons_self
    have step := le_advance column pad
    obtain ⟨le, spaces⟩ := ih (advance column c) fun d hd => h d (List.mem_cons_of_mem c hd)
    refine ⟨Nat.le_trans step le, ?_⟩
    rw [expandTabs_cons, expansion_of_isPad column pad, spaces, List.replicate_append_replicate,
      List.foldl_cons]
    congr 1
    omega

/-- Padding is expanded to as many spaces as it is wide. -/
theorem expandTabs_of_isPadding (h : IsPadding pads) :
    expandTabs 0 pads = List.replicate (width pads) ' ' :=
  (expandTabs_padding 0 h).2

theorem isPadding_replicate (n : Nat) : IsPadding (List.replicate n ' ') := by
  intro c hc
  rw [List.eq_of_mem_replicate hc]
  decide

theorem width_replicate (n : Nat) : width (List.replicate n ' ') = n := by
  have from_ (column : Nat) : (List.replicate n ' ').foldl advance column = column + n := by
    induction n generalizing column with
    | zero => rfl
    | succ n ih =>
      have space : advance column ' ' = column + 1 := by simp [advance]
      rw [List.replicate_succ, List.foldl_cons, space, ih]
      omega
  rw [width, from_ 0, Nat.zero_add]

/-! ### Visible characters -/

/-- Visible characters at the start of an expanded text stand at the start of the text. -/
theorem exists_of_expandTabs_append {word tail : List Char} (hword : ∀ c ∈ word, isBlank c = false)
    (h : expandTabs column text = word ++ tail) :
    ∃ column' rest, text = word ++ rest ∧ tail = expandTabs column' rest := by
  induction word generalizing column text with
  | nil => exact ⟨column, text, rfl, h.symm⟩
  | cons c word ih =>
    have hc := hword c List.mem_cons_self
    cases text with
    | nil => cases h
    | cons d text =>
      by_cases tab : d = '\t'
      · -- a tab would have put a space in front of the word
        rw [expandTabs_cons] at h
        cases e : expansion column d with
        | nil => exact absurd e (expansion_ne_nil column d)
        | cons space spaces =>
          rw [e] at h
          obtain rfl := (List.cons.inj h).1
          have only := mem_expansion (show space ∈ expansion column d by simp [e])
          rcases only with ⟨-, rfl⟩ | ⟨ne, -⟩
          · exact absurd hc (by decide)
          · exact absurd tab ne
      · rw [expandTabs_cons, expansion, if_neg tab] at h
        obtain ⟨rfl, others⟩ := List.cons.inj h
        obtain ⟨column', rest, rfl, e⟩ :=
          ih (fun e he => hword e (List.mem_cons_of_mem d he)) others
        exact ⟨column', rest, rfl, e⟩

/-- A character that the front of a text does not hold stands behind the front. -/
theorem exists_front_of_not_mem {front rest front' rest' : List Char} (h : c ∉ front)
    (e : front ++ rest = front' ++ c :: rest') :
    ∃ between, front' = front ++ between ∧ rest = between ++ c :: rest' := by
  rcases List.append_eq_append_iff.1 e with ⟨between, e₁, e₂⟩ | ⟨between, e₁, e₂⟩
  · exact ⟨between, e₁, e₂⟩
  · cases between with
    | nil => exact ⟨[], by simpa using e₁.symm, by simpa using e₂.symm⟩
    | cons d between =>
      obtain rfl := (List.cons.inj e₂).1
      exact absurd (by simp [e₁]) h

/-- Line breaks of an expanded text are those of the text. -/
theorem exists_break_of_expandTabs {front rest : List Char} (hc : isLineBreak c = true)
    (h : expandTabs column text = front ++ c :: rest) :
    ∃ front' rest' column', text = front' ++ c :: rest' ∧ rest = expandTabs column' rest' := by
  induction text generalizing column front with
  | nil => simp [expandTabs] at h
  | cons d text ih =>
    rw [expandTabs_cons] at h
    by_cases here : c ∈ expansion column d
    · rcases mem_expansion here with ⟨-, rfl⟩ | ⟨tab, rfl⟩
      · exact absurd hc (by decide)
      · rw [expansion, if_neg tab] at h
        cases front with
        | nil =>
          obtain ⟨-, e⟩ := List.cons.inj h
          exact ⟨[], text, _, rfl, e.symm⟩
        | cons f front =>
          obtain ⟨rfl, e⟩ := List.cons.inj h
          obtain ⟨front', rest', column', rfl, tail⟩ := ih e
          exact ⟨_ :: front', rest', column', rfl, tail⟩
    · obtain ⟨between, -, e⟩ := exists_front_of_not_mem here h
      obtain ⟨front', rest', column', rfl, tail⟩ := ih e
      exact ⟨d :: front', rest', column', rfl, tail⟩

theorem isPadding_of_expandTabs (h : IsPadding (expandTabs column text)) : IsPadding text := by
  induction text generalizing column with
  | nil => simp [IsPadding]
  | cons c text ih =>
    rw [expandTabs_cons] at h
    intro d hd
    rcases List.mem_cons.1 hd with rfl | hd
    · by_cases tab : d = '\t'
      · rw [tab]
        decide
      · exact h d (by simp [expansion, tab])
    · exact ih (fun e he => h e (List.mem_append_right _ he)) d hd

theorem isPadding_expandTabs (h : IsPadding text) : IsPadding (expandTabs column text) := by
  intro d hd
  obtain ⟨c, hc, ⟨-, rfl⟩ | ⟨-, rfl⟩⟩ := mem_expandTabs hd
  · decide
  · exact h d hc

end DocGuard.Text

import DocGuard.Text.Blank
import DocGuard.Text.Line
import DocGuard.Text.Word
/-!
Runs of characters of one class.

A reader that takes all characters of a class it can get splits a text in the only way in which the
first part belongs to the class and the second does not begin in it. `takeWhile_append_of_head?` and
`dropWhile_append_of_head?` say so for a text that is already split, `append_inj_of_head?` says that
two such splits of one text agree.

The classes of characters in docstrings exclude each other: no character of a word is white space
(`isWord_eq_false_of_isBlank`), and no line break either. The two marks of tags, `@` and `:`, belong
to none of them (`ne_mark_of_isWord`, `ne_mark_of_isBlank`).
-/

namespace DocGuard.Text

/-! ### Splitting a text -/

section Split

variable {α : Type} {p : α → Bool}

theorem eq_false_of_any {l : List α} (h : l.any p = false) : ∀ a ∈ l, p a = false :=
  fun a ha => Bool.eq_false_iff.2 (List.any_eq_false.1 h a ha)

theorem takeWhile_append_of_head? {run rest : List α} (inside : ∀ a ∈ run, p a = true)
    (outside : rest.head?.any p = false) : (run ++ rest).takeWhile p = run := by
  rw [List.takeWhile_append_of_pos inside]
  cases rest with
  | nil => simp
  | cons a rest => simp_all

theorem dropWhile_append_of_head? {run rest : List α} (inside : ∀ a ∈ run, p a = true)
    (outside : rest.head?.any p = false) : (run ++ rest).dropWhile p = rest := by
  rw [List.dropWhile_append_of_pos inside]
  cases rest with
  | nil => rfl
  | cons a rest => simp_all

/-- What is left after a run does not begin in its class. -/
theorem head?_dropWhile (p : α → Bool) (text : List α) :
    (text.dropWhile p).head?.any p = false := by
  induction text with
  | nil => rfl
  | cons a rest ih =>
    by_cases h : p a = true
    · simpa [h] using ih
    · simp [h]

theorem of_mem_takeWhile {text : List α} {a : α} (h : a ∈ text.takeWhile p) : p a = true := by
  have all := List.all_takeWhile (p := p) (l := text)
  exact List.all_eq_true.1 all a h

/-- A text splits in one way only into a run and what does not begin in its class. -/
theorem append_inj_of_head? {run rest run' rest' : List α} (inside : ∀ a ∈ run, p a = true)
    (outside : rest.head?.any p = false) (inside' : ∀ a ∈ run', p a = true)
    (outside' : rest'.head?.any p = false) (h : run ++ rest = run' ++ rest') :
    run = run' ∧ rest = rest' := by
  have hrun : run = run' := by
    rw [← takeWhile_append_of_head? inside outside, h,
      takeWhile_append_of_head? inside' outside']
  subst hrun
  exact ⟨rfl, List.append_cancel_left h⟩

theorem isPrefixOf?_eq_some_iff [BEq α] [LawfulBEq α] {front text rest : List α} :
    front.isPrefixOf? text = some rest ↔ text = front ++ rest := by
  induction front generalizing text with
  | nil => exact Option.some_inj
  | cons a front ih =>
    cases text with
    | nil => exact iff_of_false (fun e => (by cases e)) (fun e => (by cases e))
    | cons b text =>
      have step : (a :: front).isPrefixOf? (b :: text)
          = if a == b then front.isPrefixOf? text else none := rfl
      by_cases h : a = b
      · subst h
        rw [step, if_pos (beq_self_eq_true a), ih]
        simp
      · simp [step, h, Ne.symm h]

/-- A text begins with what is put in front of it. -/
@[simp] theorem isPrefixOf?_append [BEq α] [LawfulBEq α] (front rest : List α) :
    front.isPrefixOf? (front ++ rest) = some rest :=
  isPrefixOf?_eq_some_iff.2 rfl

end Split

/-! ### Classes that exclude each other -/

/-- Classes whose ranges lie apart have no character in common. -/
theorem Ranges.holds_eq_false_of_apart {a b : Ranges}
    (apart : ∀ r ∈ a, ∀ s ∈ b, r.2 < s.1 ∨ s.2 < r.1) {c : Char} (h : a.holds c = true) :
    b.holds c = false := by
  obtain ⟨r, hr, first, last⟩ := Ranges.holds_iff.1 h
  rw [Bool.eq_false_iff]
  intro h'
  obtain ⟨s, hs, first', last'⟩ := Ranges.holds_iff.1 h'
  rcases apart r hr s hs with below | above
  · omega
  · omega

theorem isWord_eq_false_of_isBlank {c : Char} (h : isBlank c = true) : isWord c = false :=
  Ranges.holds_eq_false_of_apart (a := blankRanges) (b := wordRanges) (by decide +kernel) h

theorem isBlank_eq_false_of_isWord {c : Char} (h : isWord c = true) : isBlank c = false := by
  rw [Bool.eq_false_iff]
  intro blank
  rw [isWord_eq_false_of_isBlank blank] at h
  cases h

theorem isWord_eq_false_of_isPad {c : Char} (h : isPad c = true) : isWord c = false :=
  isWord_eq_false_of_isBlank (isBlank_of_isPad h)

/-- A visible character is no padding. -/
theorem isPad_eq_false_of_isBlank_eq_false {c : Char} (h : isBlank c = false) :
    isPad c = false := by
  rw [Bool.eq_false_iff]
  intro pad
  rw [isBlank_of_isPad pad] at h
  cases h

theorem isPad_eq_false_of_isWord {c : Char} (h : isWord c = true) : isPad c = false :=
  isPad_eq_false_of_isBlank_eq_false (isBlank_eq_false_of_isWord h)

/-- Line breaks are white space. -/
theorem isBlank_of_isLineBreak {c : Char} (h : isLineBreak c = true) : isBlank c = true := by
  have all : ∀ c ∈ ['\n', '\r', '\x0b', '\x0c', '\x1c', '\x1d', '\x1e', '\u0085', '\u2028',
      '\u2029'], isBlank c = true := List.all_eq_true.1 (by decide)
  exact all c (by simpa [isLineBreak] using h)

/-- A visible character is no line break. -/
theorem isLineBreak_eq_false_of_isBlank_eq_false {c : Char} (h : isBlank c = false) :
    isLineBreak c = false := by
  rw [Bool.eq_false_iff]
  intro ends
  rw [isBlank_of_isLineBreak ends] at h
  cases h

theorem isLineBreak_eq_false_of_isPad {c : Char} (h : isPad c = true) : isLineBreak c = false := by
  rcases (by simpa [isPad] using h : c = ' ' ∨ c = '\t') with rfl | rfl <;> decide

theorem isLineBreak_eq_false_of_isWord {c : Char} (h : isWord c = true) :
    isLineBreak c = false :=
  isLineBreak_eq_false_of_isBlank_eq_false (isBlank_eq_false_of_isWord h)

theorem isWord_dollar : isWord '$' = false := by
  decide +kernel

theorem isWord_at : isWord '@' = false := by
  decide +kernel

theorem isWord_colon : isWord ':' = false := by
  decide +kernel

/-- A character of a word is not one of the marks that tags begin or end with. -/
theorem ne_mark_of_isWord {c : Char} (h : isWord c = true) : c ≠ '@' ∧ c ≠ ':' := by
  constructor <;> rintro rfl
  · rw [isWord_at] at h
    cases h
  · rw [isWord_colon] at h
    cases h

theorem ne_mark_of_isBlank {c : Char} (h : isBlank c = true) : c ≠ '@' ∧ c ≠ ':' := by
  constructor <;> rintro rfl <;> exact absurd h (by decide)

end DocGuard.Text

/-!
Lines of a text.

A text is cut after every line break; each line keeps the break that ends it. Line breaks are the
ASCII and Unicode characters that end a line, and a carriage return forms one break with the line
feed after it. Nothing is lost: the lines put together are the text (`flatten_lines`).

`rows` is the coarser cut, at line feeds only and without keeping them; `unrows_rows`
puts the rows together again.
-/

namespace DocGuard.Text

/-- The characters that end a line. -/
def isLineBreak (c : Char) : Bool :=
  c ∈ ['\n', '\r', '\x0b', '\x0c', '\x1c', '\x1d', '\x1e', '\u0085', '\u2028', '\u2029']

/-- The line ends after `c` when `rest` follows: `c` is a line break, and no carriage return whose
line feed is still to come. -/
def endsLine (c : Char) (rest : List Char) : Bool :=
  isLineBreak c && !(c == '\r' && rest.head? == some '\n')

/-- The lines of a text, each with the break that ends it. -/
def lines : List Char → List (List Char)
  | [] => []
  | c :: rest =>
    if endsLine c rest then [c] :: lines rest
    else match lines rest with
      | [] => [[c]]
      | line :: more => (c :: line) :: more

/-- The lines of a text put together are the text. -/
theorem flatten_lines (text : List Char) : (lines text).flatten = text := by
  induction text with
  | nil => rfl
  | cons c rest ih =>
    rw [lines]
    split
    · simp [ih]
    · rcases e : lines rest with - | ⟨line, more⟩
      · rw [e] at ih
        simpa using ih
      · rw [e] at ih
        simpa using ih

/-- What stands before, between and after the line feeds of a text. -/
def rows : List Char → List (List Char)
  | [] => [[]]
  | c :: rest =>
    if c = '\n' then [] :: rows rest
    else match rows rest with
      | [] => [[c]]
      | row :: more => (c :: row) :: more

/-- Rows put together, with a line feed between neighbours. -/
def unrows (parts : List (List Char)) : List Char :=
  (parts.intersperse ['\n']).flatten

theorem rows_ne_nil (text : List Char) : rows text ≠ [] := by
  cases text with
  | nil => simp [rows]
  | cons c rest =>
    rw [rows]
    split
    · simp
    · split <;> simp

/-- The rows of a text put together are the text. -/
theorem unrows_rows (text : List Char) : unrows (rows text) = text := by
  induction text with
  | nil => rfl
  | cons c rest ih =>
    rcases e : rows rest with - | ⟨row, more⟩
    · exact absurd e (rows_ne_nil rest)
    · rw [rows, e]
      rw [e] at ih
      by_cases h : c = '\n'
      · subst h
        simpa [unrows] using ih
      · cases more with
        | nil => simpa [unrows, h] using ih
        | cons next others => simpa [unrows, h] using ih

end DocGuard.Text

import DocGuard.Text.Ranges
/-!
White space.

Two classes occur in docstrings: any white space (`isBlank`), which may stand between the parts
of a tag, and the blanks of one line (`isPad`), which indent it.
-/

namespace DocGuard.Text

/-- The code points of white space: the ASCII separators and controls that break text, the
Unicode space separators, and the line and paragraph separators. -/
def blankRanges : Ranges :=
  [(0x9, 0xd), (0x1c, 0x20), (0x85, 0x85), (0xa0, 0xa0), (0x1680, 0x1680), (0x2000, 0x200a),
   (0x2028, 0x2029), (0x202f, 0x202f), (0x205f, 0x205f), (0x3000, 0x3000)]

/-- White space of any kind, line breaks included. -/
def isBlank (c : Char) : Bool :=
  blankRanges.holds c

/-- The space and the tab, which indent a line. -/
def isPad (c : Char) : Bool :=
  c == ' ' || c == '\t'

/-- What indents a line is white space. -/
theorem isBlank_of_isPad {c : Char} (h : isPad c = true) : isBlank c = true := by
  rcases (by simpa [isPad] using h : c = ' ' ∨ c = '\t') with rfl | rfl <;> decide

end DocGuard.Text

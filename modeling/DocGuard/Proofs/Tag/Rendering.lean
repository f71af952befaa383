import DocGuard.Proofs.Section
import DocGuard.Proofs.Tag.Grammar
import DocGuard.Finding
/-!
Extraction undoes rendering.

A list of tags is written down as an argument section, one row a tag. Every row consists of its
tag, indented, and of a line feed behind it. In front of the tag, inside it and behind it no other
tag can begin: a mark `@` occurs at most once in a row, a colon is followed by a line feed unless it
opens the row's own tag, and what else begins a line begins with a mark. A scan of the rendered text
therefore finds the tags of the rows and nothing else (`TagRow.all_document`), whatever words
their names are, and extraction gives back the tags with their arguments
(`Finding.extract_document`).
-/

namespace DocGuard

open Text

/-! ### Passing over characters -/

namespace Tag

variable {styles : List Style} {names : List String} {front rest : List Char} {tags : List Tag}

/-- A scan passes over a character at which nothing fits. -/
theorem IsScan.skipChar {c : Char}
    (h : IsScan styles names (front ++ [c] ++ rest) (front ++ [c]).length tags)
    (nothing : ∀ l left, Wanted styles names l → ¬ l.Leads front.getLast? (c :: rest) left) :
    IsScan styles names (front ++ c :: rest) front.length tags := by
  rw [List.append_assoc, List.singleton_append, List.length_append] at h
  refine h.skip fun l wanted fits => ?_
  obtain ⟨left, leads⟩ := Layout.fits_append_iff.1 fits
  exact nothing l left wanted leads

/-- A tag begins with a mark or where a line does. -/
theorem not_leads_of_ne {before : Option Char} {c : Char} (inside : atLineStart before = false)
    (hat : c ≠ '@') (hcolon : c = ':' → rest.head? ≠ some 'p') (l : Layout) (left : List Char) :
    ¬ l.Leads before (c :: rest) left := by
  intro h
  have written := h.written
  cases l with
  | phpdoc =>
    exact hat (List.cons.inj written).1
  | sphinx =>
    have written := List.cons.inj written
    refine hcolon written.1 ?_
    rw [written.2]
    rfl
  | google =>
    have start := h.lineStart rfl
    rw [inside] at start
    cases start

/-- What stands behind the first character of a row, up to its line feed. -/
structure IsPlain (text : List Char) : Prop where
  noMark : '@' ∉ text
  noColon : ':' ∉ text
  noBreak : ∀ c ∈ text, isLineBreak c = false

theorem not_mem_of_noBreak {text : List Char} (h : ∀ c ∈ text, isLineBreak c = false) :
    '\n' ∉ text := by
  intro hc
  exact absurd (h _ hc) (by decide)

theorem isPlain_append {text text' : List Char} (h : IsPlain text) (h' : IsPlain text') :
    IsPlain (text ++ text') where
  noMark hc := (List.mem_append.1 hc).elim h.noMark h'.noMark
  noColon hc := (List.mem_append.1 hc).elim h.noColon h'.noColon
  noBreak c hc := (List.mem_append.1 hc).elim (h.noBreak c) (h'.noBreak c)

theorem isPlain_of_isWord {text : List Char} (h : ∀ c ∈ text, isWord c = true) : IsPlain text where
  noMark hc := (ne_mark_of_isWord (h _ hc)).1 rfl
  noColon hc := (ne_mark_of_isWord (h _ hc)).2 rfl
  noBreak c hc := isLineBreak_eq_false_of_isWord (h c hc)

/-- A scan passes over plain text inside of a row. -/
theorem IsScan.skipPlain {plain : List Char} (hplain : IsPlain plain)
    (inside : atLineStart front.getLast? = false)
    (h : IsScan styles names (front ++ plain ++ rest) (front ++ plain).length tags) :
    IsScan styles names (front ++ (plain ++ rest)) front.length tags := by
  induction plain generalizing front with
  | nil => simpa using h
  | cons c plain ih =>
    have ne : c ≠ '@' ∧ c ≠ ':' ∧ c ≠ '\n' :=
      ⟨fun e => hplain.noMark (by simp [e]), fun e => hplain.noColon (by simp [e]),
        fun e => not_mem_of_noBreak hplain.noBreak (by simp [e])⟩
    have others : IsPlain plain :=
      ⟨fun hc => hplain.noMark (List.mem_cons_of_mem c hc),
        fun hc => hplain.noColon (List.mem_cons_of_mem c hc),
        fun d hd => hplain.noBreak d (List.mem_cons_of_mem c hd)⟩
    have next : IsScan styles names (front ++ [c] ++ (plain ++ rest)) (front ++ [c]).length tags :=
      ih others (Layout.atLineStart_concat ne.2.2) (by simpa using h)
    exact next.skipChar fun l left _ =>
      not_leads_of_ne inside ne.1 (fun e => absurd e ne.2.1) l left

/-- How a row ends: with a line feed, and perhaps a colon before it. -/
def rowEnd (colon : Bool) : List Char :=
  (if colon then [':'] else []) ++ ['\n']

/-- A scan passes over the end of a row. -/
theorem IsScan.skipEnd {colon : Bool} (inside : atLineStart front.getLast? = false)
    (h : IsScan styles names (front ++ rowEnd colon ++ rest) (front ++ rowEnd colon).length tags) :
    IsScan styles names (front ++ (rowEnd colon ++ rest)) front.length tags := by
  have feed : ∀ front : List Char, atLineStart front.getLast? = false →
      IsScan styles names (front ++ ['\n'] ++ rest) (front ++ ['\n']).length tags →
      IsScan styles names (front ++ '\n' :: rest) front.length tags := by
    intro front inside h
    exact h.skipChar fun l left _ =>
      not_leads_of_ne inside (by decide) (fun e => absurd e (by decide)) l left
  cases colon with
  | false => exact feed front inside h
  | true =>
    have next := feed (front ++ [':']) (Layout.atLineStart_concat (by decide))
      (by simpa [rowEnd] using h)
    exact next.skipChar fun l left _ => not_leads_of_ne inside (by decide) (by simp) l left

/-- Where a line begins with padding and no word, nothing fits. -/
theorem not_leads_of_isPadding {before : Option Char} {pad c : Char} {pads : List Char}
    (hpads : IsPadding (pad :: pads)) (hc : isPad c = false) (hword : isWord c = false)
    (l : Layout) (left : List Char) : ¬ l.Leads before (pad :: pads ++ c :: rest) left := by
  intro h
  have first : isPad pad = true := hpads pad List.mem_cons_self
  have written := h.written
  cases l with
  | phpdoc =>
    have e : pad = '@' := (List.cons.inj written).1
    rw [e] at first
    exact absurd first (by decide)
  | sphinx =>
    have e : pad = ':' := (List.cons.inj written).1
    rw [e] at first
    exact absurd first (by decide)
  | google margin name =>
    have edge := h.edge
    simp only [Layout.text, Layout.opening, List.append_assoc] at written
    have tail := (append_inj_of_head? hpads (by simp [hc]) h.regular.2.1
      (any_isPad_of_isWordAt edge) written).2
    rw [← tail, List.head?_cons, isWordAt_some, hword] at edge
    cases edge

/-- A scan passes over the indentation of a row that begins with a mark. -/
theorem IsScan.skipIndent {mark : Char} {tail : List Char} (hpad : isPad mark = false)
    (hword : isWord mark = false)
    (h : IsScan styles names (front ++ [' ', ' ', ' ', ' '] ++ mark :: tail)
      (front ++ [' ', ' ', ' ', ' ']).length tags) :
    IsScan styles names (front ++ ([' ', ' ', ' ', ' '] ++ mark :: tail)) front.length tags := by
  have pads : IsPadding [' ', ' ', ' ', ' '] := by simp [IsPadding, isPad]
  have plain : IsPlain [' ', ' ', ' '] := ⟨by decide, by decide, eq_false_of_any (by decide)⟩
  have behind : IsScan styles names (front ++ [' '] ++ ([' ', ' ', ' '] ++ mark :: tail))
      (front ++ [' ']).length tags :=
    IsScan.skipPlain plain (Layout.atLineStart_concat (by decide)) (by simpa using h)
  exact behind.skipChar fun l left _ =>
    not_leads_of_isPadding pads hpad hword l left

theorem atLineStart_append {text : List Char} (ne : text ≠ []) (h : '\n' ∉ text) :
    atLineStart (front ++ text).getLast? = false :=
  Layout.atLineStart_append_of_getLast? (List.getLast?_eq_some_getLast ne)
    fun e => h (e ▸ List.getLast_mem ne)

end Tag

/-! ### Rows -/

/-- A tag to be written down: a known type and a word, and whether the style's optional part, a
sigil or the remark that the parameter is optional, is written too. -/
structure TagRow where
  style : Style
  token : String
  name : String
  flag : Bool
  isToken : IsToken token
  isWordName : IsWordName name

namespace TagRow

/-- The tag as it is written. -/
def tagText (t : TagRow) : String :=
  match t.style with
  | .phpdoc => "@param " ++ t.token ++ (if t.flag then " $" else " ") ++ t.name
  | .sphinx => ":param " ++ t.token ++ " " ++ t.name ++ ":"
  | .google => t.name ++ " (" ++ t.token ++ (if t.flag then ", optional):" else "):")

/-- The row of the tag. -/
def text (t : TagRow) : String :=
  "    " ++ t.tagText ++ "\n"

/-- An argument section with a row for every tag. -/
def document (ts : List TagRow) : String :=
  "Args:\n" ++ String.join (ts.map text)

/-- The finding of a row: its style is requested, its name is a formal parameter, and there is an
argument in the place of the first parameter of this name. -/
def finding? (names : List String) (args : List Value) (styleNames : List String) (t : TagRow) :
    Option Finding :=
  if t.style.name ∈ styleNames ∧ t.name ∈ names then
    match args[names.idxOf t.name]? with
    | some v =>
      if v.isAbsent then none
      else some ⟨t.name, ScalarType.canonicalName t.token, v.typeName, names.idxOf t.name⟩
    | none => none
  else none

/-- The layout in which the tag is written. -/
def layout (t : TagRow) : Layout :=
  match t.style with
  | .phpdoc => .phpdoc [' '] t.token [' '] t.flag t.name
  | .sphinx => .sphinx [' '] t.token [' '] t.name []
  | .google => .google [' ', ' ', ' ', ' '] t.name [' '] [] t.token []
    (if t.flag then some ([' '], []) else none) []

/-- What stands in front of the tag: its margin belongs to a tag in google style. -/
def indent (t : TagRow) : List Char :=
  match t.style with
  | .google => []
  | _ => [' ', ' ', ' ', ' ']

@[simp] theorem layout_style (t : TagRow) : t.layout.style = t.style := by
  rcases e : t.style <;> simp [layout, e, Layout.style]

@[simp] theorem layout_name (t : TagRow) : t.layout.name = t.name := by
  rcases e : t.style <;> simp [layout, e, Layout.name]

@[simp] theorem layout_token (t : TagRow) : t.layout.token = t.token := by
  rcases e : t.style <;> simp [layout, e, Layout.token]

theorem toList_text (t : TagRow) :
    t.text.toList = t.indent ++ (t.layout.text ++ ['\n']) := by
  rcases e : t.style <;> rcases f : t.flag <;>
    simp [text, tagText, layout, indent, e, f, Layout.text, Layout.opening, Layout.name,
      Layout.closing, Layout.remarkText]

/-- A tag is a first character, plain text, and perhaps a colon. -/
theorem exists_isPlain (t : TagRow) : ∃ c plain, ∃ colon : Bool, isLineBreak c = false
    ∧ Tag.IsPlain plain ∧ t.layout.text = c :: (plain ++ if colon then [':'] else []) := by
  have name := Tag.isPlain_of_isWord t.isWordName.2
  have token := Tag.isPlain_of_isWord (isWord_of_mem_token t.isToken)
  have quiet : ∀ text : List Char, ('@' ∉ text ∧ ':' ∉ text
      ∧ text.any isLineBreak = false) → Tag.IsPlain text :=
    fun text h => ⟨h.1, h.2.1, eq_false_of_any h.2.2⟩
  rcases e : t.style
  · refine ⟨'@', ['p', 'a', 'r', 'a', 'm', ' '] ++ (t.token.toList ++ ([' ']
      ++ ((if t.flag then ['$'] else []) ++ t.name.toList))), false, by decide, ?_, ?_⟩
    · refine Tag.isPlain_append (quiet _ (by decide)) (Tag.isPlain_append token
        (Tag.isPlain_append (quiet _ (by decide)) (Tag.isPlain_append (quiet _ ?_) name)))
      cases t.flag <;> decide
    · simp [layout, e, Layout.text, Layout.opening, Layout.name, Layout.closing]
  · refine ⟨':', ['p', 'a', 'r', 'a', 'm', ' '] ++ (t.token.toList ++ ([' '] ++ t.name.toList)),
      true, by decide, ?_, ?_⟩
    · exact Tag.isPlain_append (quiet _ (by decide)) (Tag.isPlain_append token
        (Tag.isPlain_append (quiet _ (by decide)) name))
    · simp [layout, e, Layout.text, Layout.opening, Layout.name, Layout.closing]
  · refine ⟨' ', [' ', ' ', ' '] ++ (t.name.toList ++ ([' ', '('] ++ (t.token.toList
      ++ (Layout.remarkText (if t.flag then some ([' '], []) else none) ++ [')'])))), true,
      by decide, ?_, ?_⟩
    · refine Tag.isPlain_append (quiet _ (by decide)) (Tag.isPlain_append name
        (Tag.isPlain_append (quiet _ (by decide)) (Tag.isPlain_append token (quiet _ ?_))))
      cases t.flag <;> decide
    · simp [layout, e, Layout.text, Layout.opening, Layout.name, Layout.closing]

theorem noBreak (t : TagRow) : ∀ c ∈ t.layout.text, isLineBreak c = false := by
  obtain ⟨c, plain, colon, first, hplain, e⟩ := t.exists_isPlain
  intro d hd
  rw [e] at hd
  rcases List.mem_cons.1 hd with rfl | hd
  · exact first
  · rcases List.mem_append.1 hd with hd | hd
    · exact hplain.noBreak d hd
    · have only : d = ':' := by cases colon <;> simp_all
      rw [only]
      decide

/-- The tag stands where it is written. -/
theorem leads (t : TagRow) {before : Option Char}
    (start : t.style = .google → atLineStart before = true) (rest : List Char) :
    t.layout.Leads before (t.layout.text ++ '\n' :: rest) ('\n' :: rest) := by
  have feed : isWord '\n' = false := by decide +kernel
  have gap : IsGap [' '] := ⟨by simp, List.all_eq_true.1 (by decide)⟩
  have pad : IsPadding [' '] := by simp [IsPadding, isPad]
  have none : IsPadding [] := by simp [IsPadding]
  refine ⟨?_, rfl, ?_, ?_, by simpa using start⟩
  · rcases e : t.style
    · simpa [layout, e, Layout.Regular] using ⟨t.isToken, gap⟩
    · simpa [layout, e, Layout.Regular] using ⟨t.isToken, gap⟩
    · have margin : IsPadding [' ', ' ', ' ', ' '] := by simp [IsPadding, isPad]
      rcases f : t.flag <;> simp [layout, e, f, Layout.Regular, t.isToken, margin, pad, none]
  · rw [layout_name]
    exact t.isWordName.isWordAt_head? _
  · intro _
    rw [layout_name, isBoundary, t.isWordName.isWordAt_getLast?, List.head?_cons, isWordAt_some,
      feed]
    rfl

/-! ### The tags of a document -/

section Scan

open Tag

variable {styles : List Style} {names : List String} {tags : List Tag} {front rest : List Char}

/-- The tag that is found if the tag of a row stands at `offset`: one if it is looked for. -/
def tagAt? (styles : List Style) (names : List String) (offset : Nat) (t : TagRow) : Option Tag :=
  if t.style ∈ styles ∧ t.name ∈ names then some (t.layout.tagAt offset) else none

/-- The tags that are found in some rows, the first of which stands at `offset`. -/
def tagsFrom (styles : List Style) (names : List String) : Nat → List TagRow → List Tag
  | _, [] => []
  | offset, t :: ts =>
    (t.tagAt? styles names (offset + t.indent.length)).toList
      ++ tagsFrom styles names (offset + t.text.toList.length) ts

/-- Of the layouts looked for, only the row's own can fit where the row's tag stands: names that
are words leave no choice. -/
theorem eq_layout (t : TagRow) (words : ∀ name ∈ names, IsWordName name) {text : List Char}
    {start : Nat} (fits : t.layout.Fits text start) {l : Layout} (wanted : Wanted styles names l)
    (h : l.Fits text start) : l = t.layout :=
  h.eq_of_isWordName fits (words l.name wanted.2) (by simpa using t.isWordName)

/-- A scan takes the tag of a row if it is looked for. -/
theorem isScan_taken (t : TagRow) (words : ∀ name ∈ names, IsWordName name)
    (fits : t.layout.Fits (front ++ (t.layout.text ++ '\n' :: rest)) front.length)
    (looked : t.style ∈ styles ∧ t.name ∈ names)
    (h : IsScan styles names (front ++ (t.layout.text ++ ['\n']) ++ rest)
      (front ++ (t.layout.text ++ ['\n'])).length tags) :
    IsScan styles names (front ++ (t.layout.text ++ '\n' :: rest)) front.length
      (t.layout.tagAt front.length :: tags) := by
  have written : Written styles names (front ++ (t.layout.text ++ '\n' :: rest))
      (t.layout.tagAt front.length) t.layout :=
    ⟨by simpa [Wanted] using looked, fits, rfl,
      fun l wanted fits' => t.eq_layout words fits wanted fits' ▸ Nat.le_refl _,
      fun l fits' e => fits'.eq_of_name_eq fits e⟩
  have behind : IsScan styles names (front ++ t.layout.text ++ (rowEnd false ++ rest))
      (front ++ t.layout.text).length tags := by
    refine IsScan.skipEnd (atLineStart_append t.layout.text_ne_nil
      (not_mem_of_noBreak t.noBreak)) ?_
    simpa [rowEnd] using h
  have stop : (t.layout.tagAt front.length).stop = (front ++ t.layout.text).length := by
    simp [Layout.tagAt]
  refine IsScan.cons ?_ written
  rw [stop]
  simpa [rowEnd] using behind

/-- A scan passes over the tag of a row if it is not looked for. -/
theorem isScan_passed (t : TagRow) (words : ∀ name ∈ names, IsWordName name)
    (fits : t.layout.Fits (front ++ (t.layout.text ++ '\n' :: rest)) front.length)
    (looked : ¬ (t.style ∈ styles ∧ t.name ∈ names))
    (h : IsScan styles names (front ++ (t.layout.text ++ ['\n']) ++ rest)
      (front ++ (t.layout.text ++ ['\n'])).length tags) :
    IsScan styles names (front ++ (t.layout.text ++ '\n' :: rest)) front.length tags := by
  obtain ⟨c, plain, colon, first, hplain, e⟩ := t.exists_isPlain
  have text_eq : t.layout.text ++ '\n' :: rest = c :: (plain ++ (rowEnd colon ++ rest)) := by
    simp [e, rowEnd]
  have behind : IsScan styles names (front ++ [c] ++ plain ++ (rowEnd colon ++ rest))
      (front ++ [c] ++ plain).length tags := by
    refine IsScan.skipEnd ?_ ?_
    · have ne : c :: plain ≠ [] := by simp
      have noBreak : ∀ d ∈ c :: plain, isLineBreak d = false := by
        simpa using ⟨first, hplain.noBreak⟩
      have inside : atLineStart (front ++ c :: plain).getLast? = false :=
        atLineStart_append ne (not_mem_of_noBreak noBreak)
      simpa using inside
    · rw [e] at h
      simpa [rowEnd] using h
  rw [text_eq] at fits ⊢
  have feed : c ≠ '\n' := fun e => absurd first (by rw [e]; decide)
  -- no tag is in the row but the one it was written for, and this one is not looked for
  refine (IsScan.skipPlain hplain (Layout.atLineStart_concat feed) behind).skipChar ?_
  intro l left wanted leads
  have e := t.eq_layout words fits wanted (Layout.fits_append_iff.2 ⟨left, leads⟩)
  exact looked (by simpa [Wanted, e] using wanted)

/-- A scan that comes to the tag of a row finds the tag if it is looked for, and goes on with the
next row. -/
theorem isScan_tag (t : TagRow) (words : ∀ name ∈ names, IsWordName name)
    (start : t.style = .google → atLineStart front.getLast? = true)
    (h : IsScan styles names (front ++ (t.layout.text ++ ['\n']) ++ rest)
      (front ++ (t.layout.text ++ ['\n'])).length tags) :
    IsScan styles names (front ++ (t.layout.text ++ '\n' :: rest)) front.length
      ((t.tagAt? styles names front.length).toList ++ tags) := by
  have fits : t.layout.Fits (front ++ (t.layout.text ++ '\n' :: rest)) front.length :=
    Layout.fits_append_iff.2 ⟨_, t.leads start rest⟩
  by_cases looked : t.style ∈ styles ∧ t.name ∈ names
  · rw [tagAt?, if_pos looked]
    exact t.isScan_taken words fits looked h
  · rw [tagAt?, if_neg looked]
    exact t.isScan_passed words fits looked h

theorem exists_mark (t : TagRow) (h : t.style ≠ .google) : t.indent = [' ', ' ', ' ', ' ']
    ∧ ∃ mark tail, t.layout.text = mark :: tail ∧ isPad mark = false ∧ isWord mark = false := by
  rcases e : t.style
  · exact ⟨by simp [TagRow.indent, e], '@', _, by rw [layout, e]; rfl, by decide, isWord_at⟩
  · exact ⟨by simp [TagRow.indent, e], ':', _, by rw [layout, e]; rfl, by decide, isWord_colon⟩
  · exact absurd e h

/-- A scan that comes to the start of a row passes over its indentation, which is part of the tag
in google style. -/
theorem isScan_row (t : TagRow) (words : ∀ name ∈ names, IsWordName name)
    (start : atLineStart front.getLast? = true)
    (h : IsScan styles names (front ++ t.text.toList ++ rest) (front ++ t.text.toList).length
      tags) :
    IsScan styles names (front ++ (t.text.toList ++ rest)) front.length
      ((t.tagAt? styles names (front.length + t.indent.length)).toList ++ tags) := by
  have tag (start : t.style = .google → atLineStart (front ++ t.indent).getLast? = true) :
      IsScan styles names (front ++ t.indent ++ (t.layout.text ++ '\n' :: rest))
        (front ++ t.indent).length
        ((t.tagAt? styles names (front.length + t.indent.length)).toList ++ tags) := by
    rw [← List.length_append]
    refine t.isScan_tag words start ?_
    rw [toList_text] at h
    simpa using h
  rw [toList_text]
  by_cases hs : t.style = .google
  · have indent : t.indent = [] := by simp [TagRow.indent, hs]
    rw [indent] at tag ⊢
    simpa using tag (fun _ => by simpa using start)
  · obtain ⟨indent, mark, tail, text, hpad, hword⟩ := t.exists_mark hs
    have tag := tag (fun e => absurd e hs)
    rw [text, indent] at tag ⊢
    simpa using tag.skipIndent hpad hword

/-- A scan of some rows finds their tags. -/
theorem isScan_rows (ts : List TagRow) (words : ∀ name ∈ names, IsWordName name)
    (start : atLineStart front.getLast? = true) :
    IsScan styles names (front ++ ts.flatMap (·.text.toList)) front.length
      (tagsFrom styles names front.length ts) := by
  induction ts generalizing front with
  | nil => exact isScan_nil (by simp)
  | cons t ts ih =>
    have feed : atLineStart (front ++ t.text.toList).getLast? = true := by
      rw [toList_text, ← List.append_assoc, ← List.append_assoc, List.getLast?_concat]
      rfl
    have others := ih feed
    rw [List.length_append] at others
    rw [List.flatMap_cons, tagsFrom]
    exact t.isScan_row words start (by simpa using others)

/-- The header of an argument section, with its line feed. -/
def title : List Char := ['A', 'r', 'g', 's', ':', '\n']

theorem toList_document (ts : List TagRow) :
    (document ts).toList = title ++ ts.flatMap (·.text.toList) := by
  simp [document, title, String.toList_join, List.flatMap_map]

/-- A scan passes over the header of an argument section. -/
theorem isScan_header (words : ∀ name ∈ names, IsWordName name)
    (h : IsScan styles names (title ++ rest) 6 tags) :
    IsScan styles names (title ++ rest) 0 tags := by
  have plain : IsPlain ['r', 'g', 's'] := ⟨by decide, by decide, eq_false_of_any (by decide)⟩
  have word : ['A', 'r', 'g', 's'].all isWord = true := by decide +kernel
  have behind : IsScan styles names (['A'] ++ ['r', 'g', 's'] ++ (rowEnd true ++ rest))
      (['A'] ++ ['r', 'g', 's']).length tags :=
    IsScan.skipEnd (by decide) h
  have behind : IsScan styles names ([] ++ ['A'] ++ (['r', 'g', 's'] ++ (rowEnd true ++ rest)))
      ([] ++ ['A']).length tags :=
    IsScan.skipPlain plain (by decide) behind
  refine behind.skipChar ?_
  intro l left wanted leads
  have written := leads.written
  cases l with
  | phpdoc => exact absurd (List.cons.inj written).1 (by decide)
  | sphinx => exact absurd (List.cons.inj written).1 (by decide)
  | google margin name pad =>
    -- the name could only be the title, which a colon follows and no bracket
    have after := leads.isWordAt_closing (words name wanted.2)
    simp only [Layout.text, Layout.opening, List.append_assoc] at written
    have first : ('A' :: (['r', 'g', 's'] ++ (rowEnd true ++ rest))).head?.any isPad = false :=
      (by decide : isPad 'A' = false)
    have none : ∀ c ∈ ([] : List Char), isPad c = true := by simp
    have tail := (append_inj_of_head? none first leads.regular.2.1
      (any_isPad_of_isWordAt leads.edge) written).2
    have second : (rowEnd true ++ rest).head?.any isWord = false := by
      rw [show (rowEnd true ++ rest).head? = some ':' from rfl, Option.any_some, isWord_colon]
    have tail := (append_inj_of_head? (List.all_eq_true.1 word) second
      (words name wanted.2).2 after tail).2
    simp only [Layout.closing, List.append_assoc] at tail
    have third : (rowEnd true ++ rest).head?.any isPad = false := (by decide : isPad ':' = false)
    have bracket := (append_inj_of_head? none third leads.regular.2.2.1 rfl
      tail).2
    exact absurd (List.cons.inj bracket).1 (by decide)

/-- **A scan of a rendered document finds the tags of its rows.** -/
theorem all_document (styles : List Style) (ts : List TagRow)
    (words : ∀ name ∈ names, IsWordName name) :
    Tag.all styles names (document ts).toList = tagsFrom styles names 6 ts := by
  rw [toList_document]
  exact (isScan_all _ _ _).eq (isScan_header words (isScan_rows ts words (by decide)))

end Scan

/-! ### The section of a document -/

theorem indent_append (t : TagRow) : ∃ tail : List Char,
    t.text.toList = [' ', ' ', ' ', ' '] ++ tail ∧ tail.head?.any isPad = false := by
  rcases e : t.style
  · exact ⟨t.layout.text ++ ['\n'], by simp [toList_text, TagRow.indent, e], by
      simp [layout, e, Layout.text, Layout.opening, isPad]⟩
  · exact ⟨t.layout.text ++ ['\n'], by simp [toList_text, TagRow.indent, e], by
      simp [layout, e, Layout.text, Layout.opening, isPad]⟩
  · refine ⟨t.name.toList ++ (t.layout.closing ++ ['\n']), ?_, ?_⟩
    · simp [toList_text, TagRow.indent, layout, e, Layout.text, Layout.opening, Layout.name]
    · exact any_isPad_of_isWordAt (t.isWordName.isWordAt_head? _)

/-- A row is deeper than the header. -/
theorem inBody_text (t : TagRow) : Section.inBody 0 t.text.toList = true := by
  obtain ⟨tail, text, htail⟩ := t.indent_append
  have pads : [' ', ' ', ' ', ' '].all isPad = true := by decide
  have width : indentWidth t.text.toList = 4 := by
    rw [text, indentWidth, takeWhile_append_of_head? (List.all_eq_true.1 pads) htail]
    decide
  simp [Section.inBody, width]

theorem lines_rows (ts : List TagRow) :
    lines (ts.flatMap (·.text.toList)) = ts.map (·.text.toList) := by
  induction ts with
  | nil => rfl
  | cons t ts ih =>
    have row : t.text.toList = (t.indent ++ t.layout.text) ++ ['\n'] := by
      simp [toList_text]
    have noBreak : ∀ c ∈ t.indent ++ t.layout.text, isLineBreak c = false := by
      intro c hc
      rcases List.mem_append.1 hc with hc | hc
      · have pads : ∀ c ∈ t.indent, c = ' ' := by
          rcases e : t.style <;> simp [TagRow.indent, e]
        rw [pads c hc]
        decide
      · exact t.noBreak c hc
    rw [List.flatMap_cons, row, List.append_assoc, List.singleton_append,
      lines_append_feed noBreak, ih, List.map_cons, row]

/-- The rows are the body of an argument section. -/
theorem mem_sections (ts : List TagRow) :
    ⟨6, (document ts).toList.length⟩ ∈ Section.all (document ts).toList := by
  rw [toList_document]
  generalize e : ts.flatMap (·.text.toList) = body
  -- every line is indented, so that the section goes on to the end
  have deep : ∀ line ∈ lines body, Section.inBody 0 line = true := by
    intro line hline
    rw [← e, lines_rows] at hline
    obtain ⟨t, -, rfl⟩ := List.mem_map.1 hline
    exact t.inBody_text
  have header : Section.header? (title ++ body) = some (0, body) := rfl
  have length : (title ++ body).length = 6 + body.length := List.length_append
  have start : 6 + body.length - body.length = 6 := by omega
  have first : Section.at? 0 (title ++ body) = some ⟨6, (title ++ body).length⟩ := by
    rw [Section.at?, header, Option.map_some]
    simp only [length, start, Section.bodyLength_eq_length deep, Nat.zero_add]
  have all : Section.all (title ++ body)
      = (Section.at? 0 (title ++ body)).toList
        ++ Section.scan 6 true body :=
    Section.scan_row (show '\n' ∉ ['A', 'r', 'g', 's', ':'] by decide)
  rw [all, first]
  exact List.mem_append_left _ (List.mem_singleton.2 rfl)

/-- Every tag of a document counts. -/
theorem counts_document {styles : List Style} {names : List String} (ts : List TagRow)
    (words : ∀ name ∈ names, IsWordName name) :
    (Tag.all styles names (document ts).toList).filter
        (Finding.counts (Section.all (document ts).toList))
      = tagsFrom styles names 6 ts := by
  have scan : Tag.IsScan styles names (document ts).toList 6 (tagsFrom styles names 6 ts) := by
    rw [toList_document]
    exact isScan_rows ts words (by decide)
  rw [all_document styles ts words, List.filter_eq_self]
  intro tag htag
  have covers := scan.covers tag htag
  have inside : Section.holds ⟨6, (document ts).toList.length⟩ tag.start = true := by
    simp [Section.holds]
    omega
  have held : (Section.all (document ts).toList).any (·.holds tag.start) = true :=
    List.any_eq_true.2 ⟨_, mem_sections ts, inside⟩
  simp [Finding.counts, held]

end TagRow

/-! ### Extraction -/

section Extraction

variable {styles : List Style} {names styleNames : List String}

/-- The tag of a row finds what the row does. -/
theorem TagRow.bind_tagAt? (names : List String)
    (hstyles : ∀ style, style ∈ styles ↔ style.name ∈ styleNames)
    (args : List Value) (offset : Nat) (t : TagRow) :
    ((t.tagAt? styles names offset).bind fun tag =>
        (Finding.argument? names args tag.name).map fun v => Finding.ofTag names tag v.typeName)
      = t.finding? names args styleNames := by
  by_cases looked : t.style.name ∈ styleNames ∧ t.name ∈ names
  · have looked' : t.style ∈ styles ∧ t.name ∈ names := ⟨(hstyles _).2 looked.1, looked.2⟩
    rw [tagAt?, if_pos looked', finding?, if_pos looked, Option.bind_some]
    rcases e : args[names.idxOf t.name]? with - | v
    · simp [Finding.argument?, Layout.tagAt, e]
    · have present : Option.filter (fun v => !v.isAbsent) (some v)
          = if v.isAbsent then none else some v := by
        cases absent : v.isAbsent <;> simp [Option.filter, absent]
      rw [Finding.argument?]
      simp only [Layout.tagAt, layout_name, layout_token, e, present]
      cases v.isAbsent <;> rfl
  · have looked' : ¬ (t.style ∈ styles ∧ t.name ∈ names) :=
      fun h => looked ⟨(hstyles _).1 h.1, h.2⟩
    rw [tagAt?, if_neg looked', finding?, if_neg looked, Option.bind_none]

/-- The tags of some rows find what the rows do. -/
theorem TagRow.filterMap_tagsFrom (hstyles : ∀ style, style ∈ styles ↔ style.name ∈ styleNames)
    (args : List Value) (offset : Nat) (ts : List TagRow) :
    ((tagsFrom styles names offset ts).filterMap fun tag =>
        (Finding.argument? names args tag.name).map fun v => Finding.ofTag names tag v.typeName)
      = ts.filterMap (finding? names args styleNames) := by
  induction ts generalizing offset with
  | nil => rfl
  | cons t ts ih =>
    have row := t.bind_tagAt? names hstyles args (offset + t.indent.length)
    rw [tagsFrom, List.filterMap_append, ih, List.filterMap_cons, ← row]
    rcases t.tagAt? styles names (offset + t.indent.length) with - | tag
    · rfl
    · rw [Option.bind_some, Option.toList_some, List.filterMap_cons]
      rcases Finding.argument? names args tag.name with - | v <;> rfl

/-- **Extraction undoes rendering.** From a rendered list of tags, extraction takes the findings of
the rows, in order: nothing is lost or invented, and tags that stand more than once are found more
than once. -/
theorem Finding.extract_document (ts : List TagRow) (names : List String) (args : List Value)
    (styleNames : List String) (hnames : ∀ name ∈ names, IsWordName name)
    (hstyles : Style.AreKnown styleNames) :
    Finding.extract (some (TagRow.document ts)) names args styleNames
      = .ok (ts.filterMap (TagRow.finding? names args styleNames)) := by
  obtain ⟨styles, found, mem⟩ := Style.exists_ofNames_eq hstyles
  have some : (TagRow.document ts).isEmpty = false := by
    simp [TagRow.document]
  have findings : Finding.ofDoc styles (Option.some (TagRow.document ts)) names args
      = ts.filterMap (TagRow.finding? names args styleNames) := by
    cases names with
    | nil =>
      have nothing : TagRow.finding? [] args styleNames = fun _ => none := by
        funext t
        simp [TagRow.finding?]
      simp [Finding.ofDoc, Finding.arguedIn, nothing]
    | cons name names =>
      rw [← TagRow.filterMap_tagsFrom mem args 6 ts, ← TagRow.counts_document ts hnames]
      simp only [Finding.ofDoc, Finding.arguedIn, some, Finding.argued, List.isEmpty_cons,
        Bool.or_self, if_false, Bool.false_eq_true, List.map_filterMap, Option.map_map,
        Function.comp_def]
  rw [Finding.extract, found, Except.map, findings]

/-- Names may be words of the tags themselves, and rows may be repeated. -/
theorem Finding.extract_document_param :
    Finding.extract
        (some "Args:\n    param (int, optional):\n    @param bool $age\n    param (int, optional):\n")
        ["Args", "param"] [.none, .bool true] ["google", "phpdoc"]
      = .ok [⟨"param", "integer", "boolean", 1⟩, ⟨"param", "integer", "boolean", 1⟩] := by
  have int : IsToken "int" := by rw [IsToken]; decide
  have bool : IsToken "bool" := by rw [IsToken]; decide
  have words : ∀ name ∈ ["Args", "param", "age"], IsWordName name := by
    have all : ∀ name ∈ ["Args", "param", "age"], name ≠ "" ∧ name.toList.all isWord = true := by
      decide +kernel
    exact fun name hname => isWordName_of_all (all name hname).1 (all name hname).2
  have param : IsWordName "param" := words "param" (by decide)
  have age : IsWordName "age" := words "age" (by decide)
  exact Finding.extract_document
    [⟨.google, "int", "param", true, int, param⟩, ⟨.phpdoc, "bool", "age", true, bool, age⟩,
      ⟨.google, "int", "param", true, int, param⟩] ["Args", "param"] [.none, .bool true]
    ["google", "phpdoc"] (fun name hname => words name (List.mem_append_left ["age"] hname))
    ⟨by decide, by simpa using ⟨⟨.google, rfl⟩, ⟨.phpdoc, rfl⟩⟩⟩

end Extraction

end DocGuard

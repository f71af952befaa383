import DocGuard.Proofs.Text.Run
import DocGuard.Tag.Scan
/-!
The grammar of tags.

A `Layout` is one way to write a tag down: the type, the name, and every character that stands
between and around them. `Layout.Fits` says that a layout stands at a place of a text, with the
word boundaries and the line start that its style asks for holding in the whole text. Nothing here
searches or chooses: which of several layouts a scan takes is the matter of
`DocGuard.Proofs.Tag.Grammar`.

Main statements: the layouts that fit at one place have one style (`Fits.style_eq`) and one opening
(`Fits.opening_eq`), and of those with one name there is at most one (`Fits.eq_of_name_eq`).
-/

namespace DocGuard

open Text

/-! ### Places of a text -/

namespace Text

/-- The character in front of a place of a text. -/
def charBefore (text : List Char) (place : Nat) : Option Char :=
  (text.take place).getLast?

/-- A word begins or ends at this place of a text. -/
def EdgeAt (text : List Char) (place : Nat) : Prop :=
  isBoundary (charBefore text place) text[place]? = true

/-- A line begins at this place of a text: nothing or a line feed stands before. -/
def LineStartAt (text : List Char) (place : Nat) : Prop :=
  place = 0 ∨ charBefore text place = some '\n'

/-- White space that separates: at least one character of any kind. -/
def IsGap (text : List Char) : Prop :=
  text ≠ [] ∧ ∀ c ∈ text, isBlank c = true

/-- Spaces and tabs, if anything. -/
def IsPadding (text : List Char) : Prop :=
  ∀ c ∈ text, isPad c = true

theorem charBefore_append (front rest : List Char) :
    charBefore (front ++ rest) front.length = front.getLast? := by
  simp [charBefore]

/-- The character in front of a place that is not the first one. -/
theorem charBefore_succ {text : List Char} {place : Nat} (inside : place < text.length) :
    charBefore text (place + 1) = text[place]? := by
  rw [charBefore, List.getLast?_take, if_neg (Nat.succ_ne_zero place), Nat.add_sub_cancel,
    List.getElem?_eq_getElem inside]
  rfl

/-- A line that does not begin the text has a line feed in front. -/
theorem LineStartAt.feed {text : List Char} {place : Nat} (h : LineStartAt text place)
    (pos : 0 < place) (le : place ≤ text.length) : text[place - 1]? = some '\n' := by
  have before : charBefore text place = some '\n' := h.resolve_left (by omega)
  obtain ⟨place, rfl⟩ : ∃ n, place = n + 1 := ⟨place - 1, by omega⟩
  rwa [charBefore_succ (by omega)] at before

theorem getElem?_append_length (front rest : List Char) :
    (front ++ rest)[front.length]? = rest.head? := by
  rw [List.getElem?_append_right (Nat.le_refl _), Nat.sub_self, List.head?_eq_getElem?]

/-- Behind a character that belongs to no word, a word begins where a word character stands. -/
theorem edgeAt_append_iff {front rest : List Char} (h : isWordAt front.getLast? = false) :
    EdgeAt (front ++ rest) front.length ↔ isWordAt rest.head? = true := by
  rw [EdgeAt, charBefore_append, getElem?_append_length, isBoundary, h]
  cases isWordAt rest.head? <;> simp

/-- White space that separates ends in no word character. -/
theorem isWordAt_getLast?_of_isGap (front : List Char) {gap : List Char} (h : IsGap gap) :
    isWordAt (front ++ gap).getLast? = false := by
  obtain ⟨ne, blank⟩ := h
  rw [List.getLast?_append, List.getLast?_eq_some_getLast ne]
  exact isWord_eq_false_of_isBlank (blank _ (List.getLast_mem ne))

/-- Padding ends in no word character if what stands before it does not. -/
theorem isWordAt_getLast?_of_isPadding {front pads : List Char}
    (hfront : isWordAt front.getLast? = false) (h : IsPadding pads) :
    isWordAt (front ++ pads).getLast? = false := by
  by_cases ne : pads = []
  · simpa [ne] using hfront
  · exact isWordAt_getLast?_of_isGap front ⟨ne, fun c hc => isBlank_of_isPad (h c hc)⟩

theorem any_isBlank_of_isWordAt {c : Option Char} (h : isWordAt c = true) :
    c.any isBlank = false := by
  rcases c with - | c
  · rfl
  · exact isBlank_eq_false_of_isWord h

theorem any_isPad_of_isWordAt {c : Option Char} (h : isWordAt c = true) : c.any isPad = false := by
  rcases c with - | c
  · rfl
  · exact isPad_eq_false_of_isWord h

theorem isWordAt_head?_of_isGap {gap : List Char} (h : IsGap gap) (rest : List Char) :
    isWordAt (gap ++ rest).head? = false := by
  obtain ⟨ne, blank⟩ := h
  cases gap with
  | nil => exact absurd rfl ne
  | cons c gap => exact isWord_eq_false_of_isBlank (blank c (by simp))

theorem isWordAt_head?_of_isPadding {pads rest : List Char} (h : IsPadding pads)
    (hrest : isWordAt rest.head? = false) : isWordAt (pads ++ rest).head? = false := by
  cases pads with
  | nil => exact hrest
  | cons c pads => exact isWord_eq_false_of_isPad (h c (by simp))

end Text

/-! ### Layouts -/

/-- The spelling is one of a scalar type. -/
def IsToken (token : String) : Prop :=
  token ∈ ScalarType.spellings.map Prod.fst

theorem isWord_of_mem_token {token : String} (h : IsToken token) :
    ∀ c ∈ token.toList, isWord c = true := by
  have all : ∀ token ∈ ScalarType.spellings.map Prod.fst, token.toList.all isWord = true := by
    decide +kernel
  exact List.all_eq_true.1 (all token h)

theorem isWordAt_head?_token {token : String} (h : IsToken token) (rest : List Char) :
    isWordAt (token.toList ++ rest).head? = true := by
  have all : ∀ token ∈ ScalarType.spellings.map Prod.fst, token.toList ≠ [] := by
    decide +kernel
  have word := isWord_of_mem_token h
  cases e : token.toList with
  | nil => exact absurd e (all token h)
  | cons c letters => exact word c (by simp [e])

/-- A spelling stands for a type. -/
theorem ScalarType.exists_canonicalName {word : String} (h : IsToken word) :
    ∃ t : ScalarType, canonicalName word = t.name := by
  have all : ∀ word ∈ spellings.map Prod.fst, (ofSpelling? word).isSome := by decide
  obtain ⟨t, found⟩ := Option.isSome_iff_exists.1 (all word h)
  exact ⟨t, by rw [canonicalName, found]; rfl⟩

/-- A tag as it is written: its type, its name, and what stands between and around them. -/
inductive Layout where
  /-- `@param`, white space, the type, white space, perhaps a sigil, the name. -/
  | phpdoc (gap : List Char) (token : String) (gap' : List Char) (sigil : Bool) (name : String)
  /-- `:param`, white space, the type, white space, the name, perhaps white space, a colon. -/
  | sphinx (gap : List Char) (token : String) (gap' : List Char) (name : String)
      (blanks : List Char)
  /-- The name, an opening bracket, the type, perhaps the remark that the parameter is optional, a
  closing bracket and a colon, with padding in all places. -/
  | google (margin : List Char) (name : String) (pad pad' : List Char) (token : String)
      (pad'' : List Char) (remark : Option (List Char × List Char)) (last : List Char)

namespace Layout

/-- The style in which the tag is written. -/
def style : Layout → Style
  | phpdoc .. => .phpdoc
  | sphinx .. => .sphinx
  | google .. => .google

/-- The spelling of the type. -/
def token : Layout → String
  | phpdoc _ token .. => token
  | sphinx _ token .. => token
  | google _ _ _ _ token .. => token

/-- The name of the parameter. -/
def name : Layout → String
  | phpdoc _ _ _ _ name => name
  | sphinx _ _ _ name _ => name
  | google _ name .. => name

/-- The remark that the parameter is optional, with the padding around the word. -/
def remarkText : Option (List Char × List Char) → List Char
  | none => []
  | some (pad, pad') => ',' :: pad ++ ['o', 'p', 't', 'i', 'o', 'n', 'a', 'l'] ++ pad'

/-- What stands before the name. -/
def opening : Layout → List Char
  | phpdoc gap token gap' sigil _ =>
    ['@', 'p', 'a', 'r', 'a', 'm'] ++ gap ++ token.toList ++ gap' ++ if sigil then ['$'] else []
  | sphinx gap token gap' _ _ =>
    [':', 'p', 'a', 'r', 'a', 'm'] ++ gap ++ token.toList ++ gap'
  | google margin .. => margin

/-- What stands after the name. -/
def closing : Layout → List Char
  | phpdoc .. => []
  | sphinx _ _ _ _ blanks => blanks ++ [':']
  | google _ _ pad pad' token pad'' remark last =>
    pad ++ '(' :: pad' ++ token.toList ++ pad'' ++ remarkText remark ++ ')' :: last ++ [':']

/-- All characters of the tag. -/
def text (l : Layout) : List Char :=
  l.opening ++ l.name.toList ++ l.closing

/-- The type is a scalar type, and what separates the parts is white space of the kind that the
style allows there. -/
def Regular : Layout → Prop
  | phpdoc gap token gap' _ _ => IsToken token ∧ IsGap gap ∧ IsGap gap'
  | sphinx gap token gap' _ blanks =>
    IsToken token ∧ IsGap gap ∧ IsGap gap' ∧ ∀ c ∈ blanks, isBlank c = true
  | google margin _ pad pad' token pad'' remark last =>
    IsToken token ∧ IsPadding margin ∧ IsPadding pad ∧ IsPadding pad' ∧ IsPadding pad''
      ∧ (∀ pads ∈ remark, IsPadding pads.1 ∧ IsPadding pads.2) ∧ IsPadding last

/-- The layout stands in a text from the place `start` on. -/
structure Fits (l : Layout) (text : List Char) (start : Nat) : Prop where
  /-- Its parts are of the right kinds. -/
  regular : l.Regular
  /-- Its characters are those of the text. -/
  written : l.text <+: text.drop start
  /-- A word begins where the name stands. -/
  edge : EdgeAt text (start + l.opening.length)
  /-- In phpdoc style a word ends with the name. -/
  close : l.style = .phpdoc → EdgeAt text (start + l.text.length)
  /-- In google style the tag begins a line. -/
  lineStart : l.style = .google → LineStartAt text start

/-- The tag that the layout is at a place. -/
def tagAt (l : Layout) (start : Nat) : Tag :=
  ⟨l.style, l.token, l.name, start, start + l.text.length⟩

/-! ### A layout at the start of a text -/

/-- The layout stands at the start of a text, with `before` in front of it and `rest` behind it. -/
structure Leads (l : Layout) (before : Option Char) (text rest : List Char) : Prop where
  regular : l.Regular
  written : text = l.text ++ rest
  /-- The name begins with a word character, or one follows if it is empty. -/
  edge : isWordAt (l.name.toList ++ (l.closing ++ rest)).head? = true
  close : l.style = .phpdoc → isBoundary l.name.toList.getLast? rest.head? = true
  lineStart : l.style = .google → atLineStart before = true

/-- Where no word character stands in front, a word ends with a name where one ends that is read
alone. -/
theorem isBoundary_getLast?_append {front : List Char} (name : List Char) (after : Option Char)
    (h : isWordAt front.getLast? = false) :
    isBoundary (front ++ name).getLast? after = isBoundary name.getLast? after := by
  rw [isBoundary, isBoundary, List.getLast?_append]
  rcases name.getLast? with - | c
  · simp [h]
  · rfl

theorem atLineStart_getLast?_iff (front : List Char) :
    atLineStart front.getLast? = true ↔ front = [] ∨ front.getLast? = some '\n' := by
  rcases e : front.getLast? with - | c
  · simp [atLineStart, List.getLast?_eq_none_iff.1 e]
  · have ne : front ≠ [] := by
      rintro rfl
      simp at e
    simp [atLineStart, ne]

/-- A line begins where a text is cut if one begins behind what stands in front. -/
theorem lineStartAt_append_iff {front rest : List Char} :
    LineStartAt (front ++ rest) front.length ↔ atLineStart front.getLast? = true := by
  rw [LineStartAt, charBefore_append, atLineStart_getLast?_iff, List.length_eq_zero_iff]

/-- Behind a text that does not end with a line feed, no line begins. -/
theorem atLineStart_append_of_getLast? {front text : List Char} {c : Char}
    (last : text.getLast? = some c) (ne : c ≠ '\n') :
    atLineStart (front ++ text).getLast? = false := by
  rw [List.getLast?_append, last]
  simp [atLineStart, ne]

theorem atLineStart_concat {front : List Char} {c : Char} (ne : c ≠ '\n') :
    atLineStart (front ++ [c]).getLast? = false :=
  atLineStart_append_of_getLast? rfl ne

theorem isWordAt_of_atLineStart {before : Option Char} (h : atLineStart before = true) :
    isWordAt before = false := by
  rcases before with - | c
  · rfl
  · have hc : c = '\n' := by simpa [atLineStart] using h
    rw [hc, isWordAt_some, isWord_eq_false_of_isBlank (by decide)]

theorem text_ne_nil (l : Layout) : l.text ≠ [] := by
  intro h
  have parts := List.append_eq_nil_iff.1 h
  cases l with
  | phpdoc => exact absurd (List.append_eq_nil_iff.1 parts.1).1 (by simp [opening])
  | sphinx => exact absurd parts.2 (by simp [closing])
  | google => exact absurd parts.2 (by simp [closing])

/-- No word character stands in front of the name. -/
theorem isWordAt_opening {l : Layout} (regular : l.Regular) {front : List Char}
    (lineStart : l.style = .google → atLineStart front.getLast? = true) :
    isWordAt (front ++ l.opening).getLast? = false := by
  cases l with
  | phpdoc gap token gap' sigil name =>
    cases sigil with
    | true =>
      have ends : (front ++ (opening (phpdoc gap token gap' true name))).getLast? = some '$' := by
        simp only [opening, if_true, ← List.append_assoc, List.getLast?_concat]
      rw [ends, isWordAt_some, isWord_dollar]
    | false =>
      have h := isWordAt_getLast?_of_isGap
        (front ++ (['@', 'p', 'a', 'r', 'a', 'm'] ++ gap ++ token.toList)) regular.2.2
      simpa [opening] using h
  | sphinx gap token gap' name blanks =>
    have h := isWordAt_getLast?_of_isGap
      (front ++ ([':', 'p', 'a', 'r', 'a', 'm'] ++ gap ++ token.toList)) regular.2.2.1
    simpa [opening] using h
  | google margin =>
    exact isWordAt_getLast?_of_isPadding (isWordAt_of_atLineStart (lineStart rfl)) regular.2.1

/-- A layout fits where a text is cut if and only if it stands at the start of what is cut off. -/
theorem fits_append_iff {l : Layout} {front text : List Char} :
    l.Fits (front ++ text) front.length ↔ ∃ rest, l.Leads front.getLast? text rest := by
  have start : LineStartAt (front ++ text) front.length ↔ atLineStart front.getLast? = true :=
    lineStartAt_append_iff
  -- at each edge both sides look at the same two characters, as the name begins and ends in words
  have edge : l.Regular → (l.style = .google → atLineStart front.getLast? = true) →
      ∀ rest, text = l.text ++ rest →
      (EdgeAt (front ++ text) (front.length + l.opening.length)
        ↔ isWordAt (l.name.toList ++ (l.closing ++ rest)).head? = true) := by
    rintro regular lineStart rest rfl
    have cut : front ++ (l.text ++ rest)
        = (front ++ l.opening) ++ (l.name.toList ++ (l.closing ++ rest)) := by
      simp [Layout.text]
    rw [cut, ← List.length_append]
    exact edgeAt_append_iff (isWordAt_opening regular lineStart)
  have close : l.Regular → ∀ rest, text = l.text ++ rest → l.style = .phpdoc →
      (EdgeAt (front ++ text) (front.length + l.text.length)
        ↔ isBoundary l.name.toList.getLast? rest.head? = true) := by
    rintro regular rest rfl hs
    have nothing : l.closing = [] := by cases l <;> simp_all [style, closing]
    have cut : front ++ (l.text ++ rest) = ((front ++ l.opening) ++ l.name.toList) ++ rest := by
      simp [Layout.text, nothing]
    have place : front.length + l.text.length
        = ((front ++ l.opening) ++ l.name.toList).length := by
      simp [Layout.text, nothing]
    rw [cut, place, EdgeAt, charBefore_append, getElem?_append_length,
      isBoundary_getLast?_append _ _ (isWordAt_opening regular (by simp [hs]))]
  constructor
  · intro h
    obtain ⟨rest, hrest⟩ : l.text <+: text := by simpa using h.written
    have lineStart : l.style = .google → atLineStart front.getLast? = true :=
      fun hs => start.1 (h.lineStart hs)
    exact ⟨rest, h.regular, hrest.symm, (edge h.regular lineStart rest hrest.symm).1 h.edge,
      fun hs => (close h.regular rest hrest.symm hs).1 (h.close hs), lineStart⟩
  · rintro ⟨rest, h⟩
    refine ⟨h.regular, ?_, (edge h.regular h.lineStart rest h.written).2 h.edge,
      fun hs => (close h.regular rest h.written hs).2 (h.close hs),
      fun hs => start.2 (h.lineStart hs)⟩
    simp [h.written]

/-! ### One place, one opening, one name -/

/-- The first character of a tag tells its style. -/
theorem Leads.head? {l : Layout} {before : Option Char} {text rest : List Char}
    (h : l.Leads before text rest) : match l.style with
      | .phpdoc => text.head? = some '@'
      | .sphinx => text.head? = some ':'
      | .google => text.head?.any (fun c => isPad c || isWord c) = true := by
  cases l with
  | phpdoc => rw [h.written]; rfl
  | sphinx => rw [h.written]; rfl
  | google margin name pad pad' token pad'' remark last =>
    have text_eq : text = margin ++ (name.toList ++
        ((google margin name pad pad' token pad'' remark last).closing ++ rest)) := by
      simp [h.written, Layout.text, opening, Layout.name]
    show text.head?.any (fun c => isPad c || isWord c) = true
    cases margin with
    | nil =>
      have edge := h.edge
      rw [text_eq, List.nil_append]
      rcases e : (name.toList ++
        ((google [] name pad pad' token pad'' remark last).closing ++ rest)).head? with - | c
      · simp [Layout.name, e] at edge
      · simp_all [Layout.name]
    | cons c margin =>
      have pad : isPad c = true := h.regular.2.1 c (by simp)
      simp [text_eq, pad]

theorem Leads.style_eq {l l' : Layout} {before before' : Option Char} {text rest rest' : List Char}
    (h : l.Leads before text rest) (h' : l'.Leads before' text rest') : l.style = l'.style := by
  have pads : isPad '@' = false ∧ isPad ':' = false := by decide
  have first := h.head?
  have first' := h'.head?
  cases l <;> cases l' <;> simp_all [style, isWord_at, isWord_colon]

/-- A type between two gaps is the only one that a text begins with. -/
theorem declared_inj {gap gap' tail gap₁ gap₁' tail₁ : List Char} {token token₁ : String}
    (ht : IsToken token) (hg : IsGap gap) (hg' : IsGap gap') (htail : tail.head?.any isBlank = false)
    (ht₁ : IsToken token₁) (hg₁ : IsGap gap₁) (hg₁' : IsGap gap₁')
    (htail₁ : tail₁.head?.any isBlank = false)
    (e : gap ++ (token.toList ++ (gap' ++ tail)) = gap₁ ++ (token₁.toList ++ (gap₁' ++ tail₁))) :
    gap = gap₁ ∧ token = token₁ ∧ gap' = gap₁' ∧ tail = tail₁ := by
  obtain ⟨hgap, e⟩ := append_inj_of_head? hg.2
    (any_isBlank_of_isWordAt (isWordAt_head?_token ht _)) hg₁.2
    (any_isBlank_of_isWordAt (isWordAt_head?_token ht₁ _)) e
  obtain ⟨htoken, e⟩ := append_inj_of_head? (p := isWord) (isWord_of_mem_token ht)
    (isWordAt_head?_of_isGap hg' _) (isWord_of_mem_token ht₁) (isWordAt_head?_of_isGap hg₁' _) e
  obtain ⟨hgap', e⟩ := append_inj_of_head? hg'.2 htail hg₁'.2 htail₁ e
  exact ⟨hgap, String.toList_injective htoken, hgap', e⟩

/-- A sigil is no blank, and neither is the first character of a word. -/
theorem any_isBlank_sigil (sigil : Bool) {word : List Char} (h : isWordAt word.head? = true) :
    ((if sigil then ['$'] else []) ++ word).head?.any isBlank = false := by
  cases sigil with
  | true => exact (by decide : isBlank '$' = false)
  | false => exact any_isBlank_of_isWordAt h

/-- A sigil in front of a word is there or not. -/
theorem sigil_inj {sigil sigil₁ : Bool} {word word₁ : List Char} (h : isWordAt word.head? = true)
    (h₁ : isWordAt word₁.head? = true)
    (e : (if sigil then ['$'] else []) ++ word = (if sigil₁ then ['$'] else []) ++ word₁) :
    sigil = sigil₁ ∧ word = word₁ := by
  have quiet (text : List Char) : isWordAt ('$' :: text).head? = false := by
    rw [List.head?_cons, isWordAt_some, isWord_dollar]
  cases sigil with
  | true =>
    cases sigil₁ with
    | true => simpa using e
    | false =>
      have e : word₁ = '$' :: word := by simpa using e.symm
      rw [e, quiet] at h₁
      cases h₁
  | false =>
    cases sigil₁ with
    | true =>
      have e : word = '$' :: word₁ := by simpa using e
      rw [e, quiet] at h
      cases h
    | false => simpa using e

/-- What stands behind the name of a google tag is read in one way. -/
theorem google_closing_inj {margin margin₁ : List Char} {name name₁ token token₁ : String}
    {pad pad' pad'' last pad₁ pad₁' pad₁'' last₁ : List Char}
    {remark remark₁ : Option (List Char × List Char)} {rest rest₁ : List Char}
    (h : (google margin name pad pad' token pad'' remark last).Regular)
    (h₁ : (google margin₁ name₁ pad₁ pad₁' token₁ pad₁'' remark₁ last₁).Regular)
    (e : (google margin name pad pad' token pad'' remark last).closing ++ rest
      = (google margin₁ name₁ pad₁ pad₁' token₁ pad₁'' remark₁ last₁).closing ++ rest₁) :
    pad = pad₁ ∧ pad' = pad₁' ∧ token = token₁ ∧ pad'' = pad₁'' ∧ remark = remark₁
      ∧ last = last₁ ∧ rest = rest₁ := by
  obtain ⟨ht, -, hp, hp', hp'', hr, hl⟩ := h
  obtain ⟨ht₁, -, hp₁, hp₁', hp₁'', hr₁, hl₁⟩ := h₁
  have quiet : isWord '(' = false ∧ isWord ')' = false ∧ isWord ',' = false := by decide +kernel
  -- what may follow the type is neither a word character nor padding
  have mark : ∀ (remark : Option (List Char × List Char)) (rest : List Char),
      (remarkText remark ++ ')' :: rest).head? = some ')'
        ∨ (remarkText remark ++ ')' :: rest).head? = some ',' := by
    rintro (- | pads) rest
    · exact .inl rfl
    · exact .inr rfl
  have markWord : ∀ (remark : Option (List Char × List Char)) (rest : List Char),
      isWordAt (remarkText remark ++ ')' :: rest).head? = false := by
    intro remark rest
    rcases mark remark rest with h | h <;> simp [h, quiet]
  have markPad : ∀ (remark : Option (List Char × List Char)) (rest : List Char),
      (remarkText remark ++ ')' :: rest).head?.any isPad = false := by
    intro remark rest
    rcases mark remark rest with h | h <;> rw [h] <;> decide
  simp only [closing, List.append_assoc, List.cons_append, List.nil_append] at e
  obtain ⟨hpad, e⟩ := append_inj_of_head? hp rfl hp₁ rfl e
  obtain ⟨hpad', e⟩ := append_inj_of_head? hp' (any_isPad_of_isWordAt (isWordAt_head?_token ht _))
    hp₁' (any_isPad_of_isWordAt (isWordAt_head?_token ht₁ _)) (List.cons.inj e).2
  obtain ⟨htoken, e⟩ := append_inj_of_head? (p := isWord) (isWord_of_mem_token ht)
    (isWordAt_head?_of_isPadding hp'' (markWord _ _)) (isWord_of_mem_token ht₁)
    (isWordAt_head?_of_isPadding hp₁'' (markWord _ _)) e
  obtain ⟨hpad'', e⟩ := append_inj_of_head? hp'' (markPad _ _) hp₁'' (markPad _ _) e
  have tail : remark = remark₁ ∧ last ++ ':' :: rest = last₁ ++ ':' :: rest₁ := by
    cases remark with
    | none =>
      cases remark₁ with
      | none => simpa [remarkText] using e
      | some pads₁ => simp [remarkText] at e
    | some pads =>
      cases remark₁ with
      | none => simp [remarkText] at e
      | some pads₁ =>
        obtain ⟨a, b⟩ := pads
        obtain ⟨a₁, b₁⟩ := pads₁
        simp only [remarkText, List.append_assoc, List.cons_append, List.nil_append,
          List.cons.injEq, true_and] at e
        obtain ⟨ha, e⟩ := append_inj_of_head? (hr (a, b) rfl).1 rfl
          (hr₁ (a₁, b₁) rfl).1 rfl e
        simp only [List.cons.injEq, true_and] at e
        obtain ⟨hb, e⟩ := append_inj_of_head? (hr (a, b) rfl).2 rfl
          (hr₁ (a₁, b₁) rfl).2 rfl e
        exact ⟨congrArg some (Prod.ext ha hb), (List.cons.inj e).2⟩
  obtain ⟨hremark, e⟩ := tail
  obtain ⟨hlast, e⟩ := append_inj_of_head? hl rfl hl₁ rfl e
  exact ⟨hpad, hpad', String.toList_injective htoken, hpad'', hremark, hlast, (List.cons.inj e).2⟩

section Unique

variable {before before' : Option Char} {text rest rest' : List Char}

theorem phpdoc_opening_inj {gap gap' gap₁ gap₁' : List Char} {token name token₁ name₁ : String}
    {sigil sigil₁ : Bool} (h : (phpdoc gap token gap' sigil name).Leads before text rest)
    (h₁ : (phpdoc gap₁ token₁ gap₁' sigil₁ name₁).Leads before' text rest') :
    (gap = gap₁ ∧ token = token₁ ∧ gap' = gap₁' ∧ sigil = sigil₁)
      ∧ name.toList ++ rest = name₁.toList ++ rest' := by
  obtain ⟨ht, hg, hg'⟩ := h.regular
  obtain ⟨ht₁, hg₁, hg₁'⟩ := h₁.regular
  have e := h.written.symm.trans h₁.written
  simp only [Layout.text, opening, Layout.name, closing, List.append_assoc, List.append_nil,
    List.append_cancel_left_eq] at e
  have edge : isWordAt (name.toList ++ rest).head? = true := h.edge
  have edge₁ : isWordAt (name₁.toList ++ rest').head? = true := h₁.edge
  obtain ⟨hgap, htoken, hgap', e⟩ := declared_inj ht hg hg' (any_isBlank_sigil sigil edge)
    ht₁ hg₁ hg₁' (any_isBlank_sigil sigil₁ edge₁) e
  obtain ⟨hsigil, e⟩ := sigil_inj edge edge₁ e
  exact ⟨⟨hgap, htoken, hgap', hsigil⟩, e⟩

theorem sphinx_opening_inj {gap gap' blanks gap₁ gap₁' blanks₁ : List Char}
    {token name token₁ name₁ : String}
    (h : (sphinx gap token gap' name blanks).Leads before text rest)
    (h₁ : (sphinx gap₁ token₁ gap₁' name₁ blanks₁).Leads before' text rest') :
    (gap = gap₁ ∧ token = token₁ ∧ gap' = gap₁')
      ∧ name.toList ++ (blanks ++ ':' :: rest) = name₁.toList ++ (blanks₁ ++ ':' :: rest') := by
  obtain ⟨ht, hg, hg', -⟩ := h.regular
  obtain ⟨ht₁, hg₁, hg₁', -⟩ := h₁.regular
  have e := h.written.symm.trans h₁.written
  simp only [Layout.text, opening, Layout.name, closing, List.append_assoc, List.cons_append,
    List.nil_append, List.cons.injEq, true_and] at e
  have edge : isWordAt (name.toList ++ (blanks ++ ':' :: rest)).head? = true := by
    simpa [Layout.name, closing] using h.edge
  have edge₁ : isWordAt (name₁.toList ++ (blanks₁ ++ ':' :: rest')).head? = true := by
    simpa [Layout.name, closing] using h₁.edge
  obtain ⟨hgap, htoken, hgap', e⟩ := declared_inj ht hg hg' (any_isBlank_of_isWordAt edge)
    ht₁ hg₁ hg₁' (any_isBlank_of_isWordAt edge₁) e
  exact ⟨⟨hgap, htoken, hgap'⟩, e⟩

theorem google_opening_inj {margin pad pad' pad'' last margin₁ pad₁ pad₁' pad₁'' last₁ : List Char}
    {name token name₁ token₁ : String} {remark remark₁ : Option (List Char × List Char)}
    (h : (google margin name pad pad' token pad'' remark last).Leads before text rest)
    (h₁ : (google margin₁ name₁ pad₁ pad₁' token₁ pad₁'' remark₁ last₁).Leads before' text rest') :
    margin = margin₁
      ∧ name.toList ++ ((google margin name pad pad' token pad'' remark last).closing ++ rest)
        = name₁.toList
          ++ ((google margin₁ name₁ pad₁ pad₁' token₁ pad₁'' remark₁ last₁).closing ++ rest') := by
  have e := h.written.symm.trans h₁.written
  simp only [Layout.text, opening, Layout.name, List.append_assoc] at e
  exact append_inj_of_head? h.regular.2.1 (any_isPad_of_isWordAt h.edge) h₁.regular.2.1
    (any_isPad_of_isWordAt h₁.edge) e

/-- The layouts at the start of one text have one opening, so their names stand at one place. -/
theorem Leads.opening_eq {l l' : Layout} (h : l.Leads before text rest)
    (h' : l'.Leads before' text rest') : l.opening = l'.opening
      ∧ l.name.toList ++ (l.closing ++ rest) = l'.name.toList ++ (l'.closing ++ rest') := by
  have hs := h.style_eq h'
  cases l <;> cases l' <;> try cases hs
  case phpdoc.phpdoc =>
    obtain ⟨⟨rfl, rfl, rfl, rfl⟩, e⟩ := phpdoc_opening_inj h h'
    exact ⟨rfl, e⟩
  case sphinx.sphinx =>
    obtain ⟨⟨rfl, rfl, rfl⟩, e⟩ := sphinx_opening_inj h h'
    exact ⟨rfl, by simpa [closing, Layout.name] using e⟩
  case google.google => exact google_opening_inj h h'

/-- There is at most one layout with a given name at the start of a text. -/
theorem Leads.eq_of_name_eq {l l' : Layout} (h : l.Leads before text rest)
    (h' : l'.Leads before' text rest') (hname : l.name = l'.name) : l = l' ∧ rest = rest' := by
  have hs := h.style_eq h'
  cases l <;> cases l' <;> try cases hs
  case phpdoc.phpdoc =>
    obtain ⟨⟨rfl, rfl, rfl, rfl⟩, e⟩ := phpdoc_opening_inj h h'
    cases hname
    exact ⟨rfl, List.append_cancel_left e⟩
  case sphinx.sphinx =>
    obtain ⟨⟨rfl, rfl, rfl⟩, e⟩ := sphinx_opening_inj h h'
    cases hname
    have colon (tail : List Char) : (':' :: tail).head?.any isBlank = false :=
      (by decide : isBlank ':' = false)
    obtain ⟨rfl, tail⟩ := append_inj_of_head? h.regular.2.2.2 (colon rest) h'.regular.2.2.2
      (colon rest') (List.append_cancel_left e)
    exact ⟨rfl, (List.cons.inj tail).2⟩
  case google.google =>
    obtain ⟨rfl, e⟩ := google_opening_inj h h'
    cases hname
    obtain ⟨rfl, rfl, rfl, rfl, rfl, rfl, tail⟩ :=
      google_closing_inj h.regular h'.regular (List.append_cancel_left e)
    exact ⟨rfl, tail⟩

/-- Names of one length at one place are one name. -/
theorem Leads.name_eq_of_length_eq {l l' : Layout} (h : l.Leads before text rest)
    (h' : l'.Leads before' text rest') (hlength : l.name.length = l'.name.length) :
    l.name = l'.name := by
  have e := (h.opening_eq h').2
  have same : l.name.toList.length = l'.name.toList.length := by
    simpa [String.length_toList] using hlength
  exact String.toList_injective (List.append_inj e same).1

end Unique

/-! ### The layouts at a place of a text -/

section Place

variable {l l' : Layout} {text : List Char} {start : Nat}

/-- A layout that fits leads what stands from its place on. -/
theorem Fits.leads (h : l.Fits text start) :
    ∃ rest, l.Leads (charBefore text start) (text.drop start) rest := by
  have some : text.drop start ≠ [] := by
    intro e
    exact l.text_ne_nil (List.prefix_nil.1 (e ▸ h.written))
  have inside : start < text.length := by simpa using some
  have split : l.Fits (text.take start ++ text.drop start) (text.take start).length := by
    rwa [List.take_append_drop, List.length_take_of_le (Nat.le_of_lt inside)]
  exact fits_append_iff.1 split

theorem Fits.stop_le (h : l.Fits text start) : start + l.text.length ≤ text.length := by
  obtain ⟨rest, leads⟩ := h.leads
  have length := congrArg List.length leads.written
  have ne := List.length_pos_iff.2 l.text_ne_nil
  simp only [List.length_drop, List.length_append] at length
  omega

theorem Fits.style_eq (h : l.Fits text start) (h' : l'.Fits text start) : l.style = l'.style := by
  obtain ⟨rest, leads⟩ := h.leads
  obtain ⟨rest', leads'⟩ := h'.leads
  exact leads.style_eq leads'

theorem Fits.opening_eq (h : l.Fits text start) (h' : l'.Fits text start) :
    l.opening = l'.opening := by
  obtain ⟨rest, leads⟩ := h.leads
  obtain ⟨rest', leads'⟩ := h'.leads
  exact (leads.opening_eq leads').1

theorem Fits.eq_of_name_eq (h : l.Fits text start) (h' : l'.Fits text start)
    (hname : l.name = l'.name) : l = l' := by
  obtain ⟨rest, leads⟩ := h.leads
  obtain ⟨rest', leads'⟩ := h'.leads
  exact (leads.eq_of_name_eq leads' hname).1

theorem Fits.eq_of_length_eq (h : l.Fits text start) (h' : l'.Fits text start)
    (hlength : l.name.length = l'.name.length) : l = l' := by
  obtain ⟨rest, leads⟩ := h.leads
  obtain ⟨rest', leads'⟩ := h'.leads
  exact (leads.eq_of_name_eq leads' (leads.name_eq_of_length_eq leads' hlength)).1

end Place

end Layout

end DocGuard

import DocGuard.Proofs.Tag.Reading
/-!
The tags of a text are those of the grammar.

A scan takes, at each place it comes to, a layout with a longest name among those that fit there,
and goes on behind it. `Tag.IsScan` says what that amounts to, without a scan: every tag is written
where it stands, in the only way in which its name can be, and with a longest name; the tags keep
out of each other's way and are in order; and no wanted layout fits outside of them. There is only
one such list of tags (`Tag.IsScan.eq`), and the scan finds it (`Tag.isScan_all`).

Names may be any strings. If they are words, the names found stand in the text as whole words
(`Layout.Fits.wordRunAt`).
-/

namespace DocGuard

open Text

/-! ### Styles by name -/

/-- A list of names under which styles can be requested: at least one, and all of them known. -/
def Style.AreKnown (names : List String) : Prop :=
  names ≠ [] ∧ ∀ name ∈ names, ∃ style : Style, style.name = name

/-- Known styles are found under their names. -/
theorem Style.exists_ofNames_eq {names : List String} (h : Style.AreKnown names) :
    ∃ styles, Style.ofNames names = .ok styles ∧ ∀ style, style ∈ styles ↔ style.name ∈ names := by
  obtain ⟨ne, known⟩ := h
  have some : names.eraseDups.isEmpty = false := by
    obtain ⟨name, hname⟩ := List.exists_mem_of_ne_nil names ne
    rw [List.isEmpty_eq_false_iff]
    exact List.ne_nil_of_mem (List.mem_eraseDups.2 hname)
  have noneUnknown : (names.eraseDups.filter fun name => (ofName? name).isNone) = [] := by
    rw [List.filter_eq_nil_iff]
    intro name hname
    obtain ⟨style, rfl⟩ := known name (List.mem_eraseDups.1 hname)
    simp [Style.ofName?_name]
  refine ⟨names.eraseDups.filterMap ofName?, ?_, fun style => ?_⟩
  · simp [Style.ofNames, some, noneUnknown]
  · rw [List.mem_filterMap]
    constructor
    · rintro ⟨name, hname, found⟩
      rw [Style.name_of_ofName? found]
      exact List.mem_eraseDups.1 hname
    · intro hstyle
      exact ⟨style.name, List.mem_eraseDups.2 hstyle, Style.ofName?_name style⟩

/-! ### Whole words -/

/-- A word of at least one character. -/
def IsWordName (name : String) : Prop :=
  name ≠ "" ∧ ∀ c ∈ name.toList, isWord c = true

theorem isWordName_of_all {name : String} (ne : name ≠ "") (h : name.toList.all isWord = true) :
    IsWordName name :=
  ⟨ne, List.all_eq_true.1 h⟩

theorem IsWordName.isWordAt_head? {name : String} (h : IsWordName name) (rest : List Char) :
    isWordAt (name.toList ++ rest).head? = true := by
  rcases e : name.toList with - | ⟨c, letters⟩
  · exact absurd (by simpa using e) h.1
  · exact h.2 c (by simp [e])

theorem IsWordName.isWordAt_getLast? {name : String} (h : IsWordName name) :
    isWordAt name.toList.getLast? = true := by
  have ne : name.toList ≠ [] := by simpa using h.1
  rw [List.getLast?_eq_some_getLast ne]
  exact h.2 _ (List.getLast_mem ne)

/-- The word stands at this place of a text, and no word character stands next to it. -/
structure WordRunAt (text : List Char) (place : Nat) (word : List Char) : Prop where
  inside : ∀ c ∈ word, isWord c = true
  written : word <+: text.drop place
  before : isWordAt (charBefore text place) = false
  after : isWordAt text[place + word.length]? = false

/-- Where a word stands, no other word does. -/
theorem WordRunAt.eq {text word word' : List Char} {place : Nat} (h : WordRunAt text place word)
    (h' : WordRunAt text place word') : word = word' := by
  obtain ⟨rest, hrest⟩ := h.written
  obtain ⟨rest', hrest'⟩ := h'.written
  have behind : ∀ {word rest : List Char}, word ++ rest = text.drop place →
      isWordAt text[place + word.length]? = false → rest.head?.any isWord = false := by
    intro word rest e after
    rw [← List.getElem?_drop, ← e, getElem?_append_length] at after
    exact after
  exact (append_inj_of_head? h.inside (behind hrest h.after) h'.inside (behind hrest' h'.after)
    (hrest.trans hrest'.symm)).1

namespace Layout

variable {l : Layout} {text : List Char} {start : Nat}

/-- Behind a word that is the name of a tag, no word character stands. -/
theorem Leads.isWordAt_closing {before : Option Char} {rest : List Char}
    (h : l.Leads before text rest) (hname : IsWordName l.name) :
    isWordAt (l.closing ++ rest).head? = false := by
  have bracket : isWord '(' = false := by decide +kernel
  cases l with
  | phpdoc gap token gap' sigil name =>
    have last : isWordAt name.toList.getLast? = true := hname.isWordAt_getLast?
    have close : isBoundary name.toList.getLast? rest.head? = true := h.close rfl
    simpa [isBoundary, last, closing] using close
  | sphinx gap token gap' name blanks =>
    have tail : (closing (sphinx gap token gap' name blanks) ++ rest)
        = blanks ++ ':' :: rest := by
      simp [closing]
    rw [tail]
    cases blanks with
    | nil => simp [isWord_colon]
    | cons c blanks => exact isWord_eq_false_of_isBlank (h.regular.2.2.2 c (by simp))
  | google margin name pad pad' token pad'' remark last =>
    have tail : (closing (google margin name pad pad' token pad'' remark last) ++ rest)
        = pad ++ '(' :: (pad' ++ token.toList ++ pad'' ++ remarkText remark ++ ')' :: last
          ++ [':'] ++ rest) := by
      simp [closing]
    rw [tail]
    refine isWordAt_head?_of_isPadding h.regular.2.2.1 ?_
    rw [List.head?_cons, isWordAt_some, bracket]

/-- If the name of a tag is a word, it is a whole word of the text. -/
theorem Fits.wordRunAt (h : l.Fits text start) (hname : IsWordName l.name) :
    WordRunAt text (start + l.opening.length) l.name.toList := by
  obtain ⟨rest, leads⟩ := h.leads
  have inside : (text.take start).length = start := by
    have := h.stop_le
    rw [List.length_take]
    omega
  have cut : text = (text.take start ++ l.opening) ++ (l.name.toList ++ (l.closing ++ rest)) := by
    have split := (List.take_append_drop start text).symm
    rw [leads.written] at split
    simpa [Layout.text] using split
  have place : start + l.opening.length = (text.take start ++ l.opening).length := by
    rw [List.length_append, inside]
  have before : isWordAt (text.take start ++ l.opening).getLast? = false :=
    isWordAt_opening leads.regular leads.lineStart
  generalize text.take start ++ l.opening = front at cut place before
  subst cut
  refine ⟨hname.2, ?_, ?_, ?_⟩
  · rw [place, List.drop_left]
    exact List.prefix_append _ _
  · rw [place, charBefore_append]
    exact before
  · rw [place, ← List.length_append, ← List.append_assoc, getElem?_append_length]
    exact leads.isWordAt_closing hname

/-- Of layouts whose names are words, at most one fits at a place. -/
theorem Fits.eq_of_isWordName {l' : Layout} (h : l.Fits text start) (h' : l'.Fits text start)
    (hname : IsWordName l.name) (hname' : IsWordName l'.name) : l = l' := by
  have run := h.wordRunAt hname
  have run' := h'.wordRunAt hname'
  rw [← h.opening_eq h'] at run'
  exact h.eq_of_name_eq h' (String.toList_injective (run.eq run'))

end Layout

/-! ### What a scan finds -/

namespace Tag

variable {styles : List Style} {names : List String} {text : List Char} {offset : Nat}

/-- The layout is one that is looked for. -/
def Wanted (styles : List Style) (names : List String) (l : Layout) : Prop :=
  l.style ∈ styles ∧ l.name ∈ names

/-- The tag is written in the text as this layout, which is the one to be taken: of the layouts
looked for that fit at its start, none has a longer name, and of all layouts that fit there, this
is the only one with its name. -/
structure Written (styles : List Style) (names : List String) (text : List Char) (tag : Tag)
    (l : Layout) : Prop where
  wanted : Wanted styles names l
  fits : l.Fits text tag.start
  eq : tag = l.tagAt tag.start
  longest : ∀ l', Wanted styles names l' → l'.Fits text tag.start →
    l'.name.length ≤ l.name.length
  only : ∀ l' : Layout, l'.Fits text tag.start → l'.name = l.name → l' = l

/-- The tags are those of the text from `offset` on. -/
structure IsScan (styles : List Style) (names : List String) (text : List Char) (offset : Nat)
    (tags : List Tag) : Prop where
  /-- Each is written where it stands. -/
  written : ∀ tag ∈ tags, ∃ l, Written styles names text tag l
  /-- Each covers at least one character of the text. -/
  covers : ∀ tag ∈ tags, offset ≤ tag.start ∧ tag.start < tag.stop ∧ tag.stop ≤ text.length
  /-- Each ends before the next begins. -/
  apart : tags.Pairwise fun a b => a.stop ≤ b.start
  /-- Nothing that is looked for begins outside of them. -/
  noneMissed : ∀ l start, offset ≤ start → Wanted styles names l → l.Fits text start →
    ∃ tag ∈ tags, tag.start ≤ start ∧ start < tag.stop

/-- What is written at one place is one tag. -/
theorem Written.tag_eq {tag tag' : Tag} {l l' : Layout} (h : Written styles names text tag l)
    (h' : Written styles names text tag' l') (hstart : tag.start = tag'.start) : tag = tag' := by
  have fits' : l'.Fits text tag.start := hstart ▸ h'.fits
  have le : l'.name.length ≤ l.name.length := h.longest l' h'.wanted fits'
  have ge : l.name.length ≤ l'.name.length := h'.longest l h.wanted (hstart ▸ h.fits)
  rw [h.eq, h'.eq, ← hstart, h.fits.eq_of_length_eq fits' (Nat.le_antisymm ge le)]

theorem Written.stop_eq {tag : Tag} {l : Layout} (h : Written styles names text tag l) :
    tag.stop = tag.start + l.text.length :=
  congrArg Tag.stop h.eq

/-- Nothing is found behind the end. -/
theorem isScan_nil (h : text.length ≤ offset) : IsScan styles names text offset [] where
  written := by simp
  covers := by simp
  apart := List.Pairwise.nil
  noneMissed l start hstart _ fits := by
    have := fits.stop_le
    have := List.length_pos_iff.2 l.text_ne_nil
    omega

/-- Where nothing fits, a scan goes on to the next place. -/
theorem IsScan.skip {tags : List Tag} (h : IsScan styles names text (offset + 1) tags)
    (nothing : ∀ l, Wanted styles names l → ¬ l.Fits text offset) :
    IsScan styles names text offset tags where
  written := h.written
  covers tag htag := by
    have := h.covers tag htag
    omega
  apart := h.apart
  noneMissed l start hstart wanted fits := by
    by_cases here : start = offset
    · exact absurd (here ▸ fits) (nothing l wanted)
    · exact h.noneMissed l start (by omega) wanted fits

/-- Where a tag is written, a scan takes it and goes on behind it. -/
theorem IsScan.cons {tag : Tag} {tags : List Tag} {l : Layout}
    (h : IsScan styles names text tag.stop tags) (hl : Written styles names text tag l) :
    IsScan styles names text tag.start (tag :: tags) := by
  have ne := List.length_pos_iff.2 l.text_ne_nil
  have stop_le := hl.fits.stop_le
  have stop := hl.stop_eq
  refine ⟨?_, ?_, List.pairwise_cons.2 ⟨fun t ht => (h.covers t ht).1, h.apart⟩, ?_⟩
  · intro t ht
    rcases List.mem_cons.1 ht with rfl | ht
    · exact ⟨l, hl⟩
    · exact h.written t ht
  · intro t ht
    rcases List.mem_cons.1 ht with rfl | ht
    · omega
    · have := h.covers t ht
      omega
  · -- what begins within the tag is covered by it, and anything later by what was found before
    intro l' start hstart wanted fits
    by_cases inside : start < tag.stop
    · exact ⟨tag, List.mem_cons_self, hstart, inside⟩
    · obtain ⟨t, ht, covered⟩ := h.noneMissed l' start (by omega) wanted fits
      exact ⟨t, List.mem_cons_of_mem tag ht, covered⟩

/-- What is found after a tag is found from its end on. -/
theorem IsScan.tail {tag : Tag} {tags : List Tag}
    (h : IsScan styles names text offset (tag :: tags)) :
    IsScan styles names text tag.stop tags := by
  obtain ⟨behind, apart⟩ := List.pairwise_cons.1 h.apart
  have first := h.covers tag List.mem_cons_self
  refine ⟨fun t ht => h.written t (List.mem_cons_of_mem tag ht), ?_, apart, ?_⟩
  · intro t ht
    have := h.covers t (List.mem_cons_of_mem tag ht)
    exact ⟨behind t ht, this.2⟩
  · intro l start hstart wanted fits
    obtain ⟨t, ht, covered⟩ := h.noneMissed l start (by omega) wanted fits
    rcases List.mem_cons.1 ht with rfl | ht
    · omega
    · exact ⟨t, ht, covered⟩

/-- Of two lists of the tags of a text, one begins no later than the other. -/
theorem IsScan.exists_cons {tag : Tag} {tags tags' : List Tag}
    (h : IsScan styles names text offset (tag :: tags))
    (h' : IsScan styles names text offset tags') :
    ∃ tag' rest', tags' = tag' :: rest' ∧ tag'.start ≤ tag.start := by
  obtain ⟨l, hl⟩ := h.written tag List.mem_cons_self
  have here := (h.covers tag List.mem_cons_self).1
  obtain ⟨t, ht, before, -⟩ := h'.noneMissed l tag.start here hl.wanted hl.fits
  cases tags' with
  | nil => cases ht
  | cons tag' rest' =>
    refine ⟨tag', rest', rfl, ?_⟩
    rcases List.mem_cons.1 ht with rfl | ht
    · exact before
    · have := (List.pairwise_cons.1 h'.apart).1 t ht
      have := h'.covers tag' List.mem_cons_self
      omega

/-- **A text has its tags in one way only.** -/
theorem IsScan.eq {tags tags' : List Tag} (h : IsScan styles names text offset tags)
    (h' : IsScan styles names text offset tags') : tags = tags' := by
  induction tags generalizing offset tags' with
  | nil =>
    cases tags' with
    | nil => rfl
    | cons tag' rest' =>
      obtain ⟨tag, rest, e, -⟩ := h'.exists_cons h
      cases e
  | cons tag rest ih =>
    obtain ⟨tag', rest', rfl, le⟩ := h.exists_cons h'
    obtain ⟨_, _, e, ge⟩ := h'.exists_cons h
    cases e
    obtain ⟨l, hl⟩ := h.written tag List.mem_cons_self
    obtain ⟨l', hl'⟩ := h'.written tag' List.mem_cons_self
    obtain rfl := hl.tag_eq hl' (by omega)
    rw [ih h.tail h'.tail]

/-! ### The scan -/

/-- Where longer things come first, a search finds a longest of those that answer. -/
theorem exists_longest_of_findSome? {α β : Type} {f : α → Option β} {length : α → Nat} {l : List α}
    {b : β} (sorted : l.Pairwise fun x y => length y ≤ length x) (h : l.findSome? f = some b) :
    ∃ a ∈ l, f a = some b ∧ ∀ x ∈ l, (f x).isSome → length x ≤ length a := by
  induction l with
  | nil => cases h
  | cons x l ih =>
    obtain ⟨first, others⟩ := List.pairwise_cons.1 sorted
    rw [List.findSome?_cons] at h
    rcases e : f x with - | found
    · rw [e] at h
      obtain ⟨a, ha, answer, longest⟩ := ih others h
      refine ⟨a, List.mem_cons_of_mem x ha, answer, fun y hy some => ?_⟩
      rcases List.mem_cons.1 hy with rfl | hy
      · simp [e] at some
      · exact longest y hy some
    · rw [e] at h
      refine ⟨x, List.mem_cons_self, e.trans h, fun y hy _ => ?_⟩
      rcases List.mem_cons.1 hy with rfl | hy
      · exact Nat.le_refl _
      · exact first y hy

section Scan

variable {front rest : List Char}

/-- A layout that fits is read by the reader of its style that knows its name. -/
theorem exists_read?_of_fits {l : Layout} (h : l.Fits (front ++ rest) front.length) :
    (l.style.read? [l.name] front.getLast? rest).isSome := by
  obtain ⟨left, leads⟩ := Layout.fits_append_iff.1 h
  have read : l.style.read? [l.name] front.getLast? rest = some ⟨l.token, l.name, left⟩ :=
    Style.read?_singleton_iff.2 ⟨l, rfl, rfl, leads, rfl⟩
  rw [read]
  rfl

/-- A tag that is read is written where it is read. -/
theorem written_of_at? {tag : Tag}
    (h : at? styles (longestFirst names) front.getLast? front.length rest = some tag) :
    tag.start = front.length ∧ ∃ l, Written styles names (front ++ rest) tag l := by
  obtain ⟨style, hstyle, found⟩ := List.exists_of_findSome?_eq_some h
  obtain ⟨r, read, rfl⟩ := Option.map_eq_some_iff.1 found
  rw [Style.read?_eq_findSome?] at read
  obtain ⟨name, hname, read, longest⟩ :=
    exists_longest_of_findSome? (pairwise_longestFirst names) read
  obtain ⟨l, rfl, rfl, leads, hr⟩ := Style.read?_singleton_iff.1 read
  have fits : l.Fits (front ++ rest) front.length := Layout.fits_append_iff.2 ⟨r.rest, leads⟩
  have length : rest.length - r.rest.length = l.text.length := by
    have := congrArg List.length leads.written
    rw [List.length_append] at this
    omega
  refine ⟨rfl, l, ⟨hstyle, mem_longestFirst.1 hname⟩, fits, ?_, ?_, ?_⟩
  · rw [length, hr]
    rfl
  · -- what fits is read, and names are tried from the longest on
    intro l' wanted fits'
    have read' := exists_read?_of_fits fits'
    rw [fits'.style_eq fits] at read'
    exact longest l'.name (mem_longestFirst.2 wanted.2) read'
  · intro l' fits' e
    exact fits'.eq_of_name_eq fits e

/-- Where no tag is read, none fits. -/
theorem not_fits_of_at? (h : at? styles (longestFirst names) front.getLast? front.length rest = none)
    (l : Layout) (wanted : Wanted styles names l) : ¬ l.Fits (front ++ rest) front.length := by
  intro fits
  have unread := List.findSome?_eq_none_iff.1 h l.style wanted.1
  rw [Option.map_eq_none_iff, Style.read?_eq_findSome?] at unread
  have none := List.findSome?_eq_none_iff.1 unread l.name (mem_longestFirst.2 wanted.2)
  have read := exists_read?_of_fits fits
  rw [none] at read
  cases read

/-- A scan finds the tags behind what it has passed and what is covered. -/
theorem isScan_scan (styles : List Style) (names : List String) (front : List Char)
    (covered : Nat) (rest : List Char) :
    IsScan styles names (front ++ rest) (front.length + covered)
      (scan styles (longestFirst names) front.getLast? front.length covered rest) := by
  -- by induction on what is left, of which the tag found last covers the first `covered` characters
  induction rest generalizing front covered with
  | nil =>
    rw [scan, List.append_nil]
    exact isScan_nil (Nat.le_add_right _ _)
  | cons c rest ih =>
    have next (covered : Nat) : IsScan styles names (front ++ c :: rest)
        (front.length + 1 + covered)
        (scan styles (longestFirst names) (some c) (front.length + 1) covered rest) := by
      simpa using ih (front ++ [c]) covered
    cases covered with
    | succ covered =>
      have place : front.length + (covered + 1) = front.length + 1 + covered := by omega
      rw [scan, place]
      exact next covered
    | zero =>
      rw [scan, Nat.add_zero]
      split
      · rename_i tag found
        obtain ⟨start, l, hl⟩ := written_of_at? found
        have stop := hl.stop_eq
        have ne := List.length_pos_iff.2 l.text_ne_nil
        have place : front.length + 1 + (tag.stop - tag.start - 1) = tag.stop := by omega
        have tags := next (tag.stop - tag.start - 1)
        rw [place] at tags
        rw [← start]
        rw [← start] at tags
        exact tags.cons hl
      · rename_i nothing
        exact (next 0).skip (not_fits_of_at? nothing)

theorem isScan_all (styles : List Style) (names : List String) (text : List Char) :
    IsScan styles names text 0 (all styles names text) :=
  isScan_scan styles names [] 0 text

theorem isToken_of_mem_all {tag : Tag} {text : List Char} (h : tag ∈ all styles names text) :
    IsToken tag.token := by
  obtain ⟨l, written⟩ := (isScan_all styles names text).written tag h
  have regular := written.fits.regular
  rw [written.eq]
  cases l <;> exact regular.1

end Scan

/-- **The tags of a text are exactly those of the grammar.** A search succeeds for any names and any
known styles. The tags that it finds are written in the text as layouts of the styles and names
asked for; none is missed, none overlaps another, and no other list of tags is like that. If the
names are words, the names found are whole words of the text. -/
theorem search_eq_grammar (names styleNames : List String) (text : String) (hnames : names ≠ [])
    (hstyles : Style.AreKnown styleNames) :
    ∃ styles tags, search names styleNames text = .ok (styles, tags)
      ∧ (∀ style, style ∈ styles ↔ style.name ∈ styleNames)
      ∧ IsScan styles names text.toList 0 tags
      ∧ (∀ tags', IsScan styles names text.toList 0 tags' → tags' = tags)
      ∧ ((∀ name ∈ names, IsWordName name) → ∀ tag ∈ tags, ∀ l,
          Written styles names text.toList tag l →
          WordRunAt text.toList (tag.start + l.opening.length) tag.name.toList) := by
  obtain ⟨styles, found, mem⟩ := Style.exists_ofNames_eq hstyles
  have some : names.isEmpty = false := List.isEmpty_eq_false_iff.2 hnames
  refine ⟨styles, all styles names text.toList, ?_, mem, isScan_all _ _ _,
    fun tags' h => h.eq (isScan_all _ _ _), ?_⟩
  · rw [search, some, found]
    rfl
  · intro words tag _ l written
    have name_eq : tag.name = l.name := congrArg Tag.name written.eq
    rw [name_eq]
    exact written.fits.wordRunAt (words l.name written.wanted.2)

/-- A name may hold a blank. Where a shorter one fits too, the longer one is found. -/
theorem search_eq_grammar_blank_name :
    IsScan [.phpdoc] ["age", "age x"] "@param int $age x".toList 0
      [⟨.phpdoc, "int", "age x", 0, 17⟩] := by
  obtain ⟨styles, tags, found, -, scan, -⟩ := search_eq_grammar ["age", "age x"] ["phpdoc"]
    "@param int $age x" (by decide) ⟨by decide, by simpa using ⟨.phpdoc, rfl⟩⟩
  have run : search ["age", "age x"] ["phpdoc"] "@param int $age x"
      = .ok ([.phpdoc], [⟨.phpdoc, "int", "age x", 0, 17⟩]) := by
    rfl
  rw [run] at found
  cases found
  exact scan

end Tag

end DocGuard

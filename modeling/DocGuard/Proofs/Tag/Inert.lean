import DocGuard.Proofs.Verdict
import Mathlib.Data.List.Pairwise
/-!
Entries outside of sections.

An entry in google style that lies in no section does not count, but it is read with all other tags,
and what it covers is read as nothing else. If names are words, the only mark in an entry with which
a tag of another style can begin is the colon that closes it, so the tags of the other styles are
those of a search that leaves google style out, unless such a colon opens a field
(`Tag.withoutEntries_all_eq_iff`). Where one does, the field is missed, and another one may be found
in what it would have covered.
-/

namespace DocGuard

open Text

/-! ### Where tags of other styles can begin -/

namespace Layout

variable {l g : Layout} {text : List Char} {start place : Nat}

/-- An entry whose name is a word has the mark of no other style in it, but for the colon at its
end. -/
theorem exists_body_of_google (regular : g.Regular) (google : g.style = .google)
    (word : ∀ c ∈ g.name.toList, isWord c = true) :
    ∃ body, g.text = body ++ [':'] ∧ ∀ c ∈ body, c ≠ '@' ∧ c ≠ ':' := by
  have ofPad {c : Char} (h : isPad c = true) : c ≠ '@' ∧ c ≠ ':' :=
    ne_mark_of_isBlank (isBlank_of_isPad h)
  cases g with
  | phpdoc => cases google
  | sphinx => cases google
  | google margin name pad pad' token pad'' remark last =>
    obtain ⟨ht, hm, hp, hp', hp'', hr, hl⟩ := regular
    have inRemark : ∀ c ∈ remarkText remark, c ≠ '@' ∧ c ≠ ':' := by
      intro c hc
      cases remark with
      | none => cases hc
      | some pads =>
        obtain ⟨before, after⟩ := hr pads rfl
        have optional : ∀ c ∈ ['o', 'p', 't', 'i', 'o', 'n', 'a', 'l'], c ≠ '@' ∧ c ≠ ':' := by
          simp
        simp only [remarkText, List.mem_append] at hc
        rcases hc with (hc | hc) | hc
        · rcases List.mem_cons.1 hc with rfl | hc
          · decide
          · exact ofPad (before c hc)
        · exact optional c hc
        · exact ofPad (after c hc)
    refine ⟨margin ++ name.toList ++ (pad ++ '(' :: pad' ++ token.toList ++ pad''
      ++ remarkText remark ++ ')' :: last), by simp [text, opening, closing, Layout.name], ?_⟩
    intro c hc
    simp only [List.mem_append, List.mem_cons] at hc
    rcases hc with (hc | hc) | (((((hc | rfl | hc) | hc) | hc) | hc) | rfl | hc)
    · exact ofPad (hm c hc)
    · exact ne_mark_of_isWord (word c hc)
    · exact ofPad (hp c hc)
    · decide
    · exact ofPad (hp' c hc)
    · exact ne_mark_of_isWord (isWord_of_mem_token ht c hc)
    · exact ofPad (hp'' c hc)
    · exact inRemark c hc
    · decide
    · exact ofPad (hl c hc)

/-- A tag of another style begins with its mark. -/
theorem Fits.getElem?_start (h : l.Fits text start) (other : l.style ≠ .google) :
    text[start]? = some (if l.style = .phpdoc then '@' else ':') := by
  obtain ⟨rest, leads⟩ := h.leads
  have first := leads.head?
  rw [← List.head?_drop]
  cases l with
  | phpdoc => exact first
  | sphinx => exact first
  | google => exact absurd rfl other

/-- A tag of another style that begins in an entry is a field that begins with its last colon. -/
theorem Fits.eq_stop_of_google (h : l.Fits text place) (other : l.style ≠ .google)
    (hg : g.Fits text start) (google : g.style = .google)
    (word : ∀ c ∈ g.name.toList, isWord c = true) (after : start ≤ place)
    (inside : place < start + g.text.length) :
    l.style = .sphinx ∧ place = start + g.text.length - 1 := by
  obtain ⟨body, written, plain⟩ := exists_body_of_google hg.regular google word
  have length : g.text.length = body.length + 1 := by
    rw [written, List.length_append, List.length_singleton]
  have first := h.getElem?_start other
  have here : text[place]? = (body ++ [':'])[place - start]? := by
    obtain ⟨rest, cut⟩ := hg.written
    have split : (text.drop start)[place - start]? = text[place]? := by
      rw [List.getElem?_drop, Nat.add_sub_cancel' after]
    rw [← split, ← cut, written, List.getElem?_append_left (by
      rw [List.length_append, List.length_singleton]
      omega)]
  rw [here] at first
  by_cases last : place - start < body.length
  · -- inside the entry there is no mark that could open the tag
    rw [List.getElem?_append_left last] at first
    have mem := List.mem_of_getElem? first
    have none := plain _ mem
    split at none
    · exact absurd rfl none.1
    · exact absurd rfl none.2
  · have ends : place - start = body.length := by omega
    rw [ends, List.getElem?_concat_length, Option.some_inj] at first
    refine ⟨?_, by omega⟩
    cases e : l.style with
    | phpdoc => simp [e] at first
    | sphinx => rfl
    | google => exact absurd e other

end Layout

/-! ### Scans without entries -/

namespace Tag

variable {styles : List Style} {names : List String} {text : List Char} {offset : Nat}
  {tags : List Tag}

/-- The last character of the tag opens a field that is looked for. -/
def OpensField (styles : List Style) (names : List String) (text : List Char) (tag : Tag) : Prop :=
  ∃ l, Wanted styles names l ∧ l.style = .sphinx ∧ l.Fits text (tag.stop - 1)

/-- The styles but for google style. -/
def otherStyles (styles : List Style) : List Style :=
  styles.filter (· != .google)

/-- The tags but for entries. -/
def withoutEntries (tags : List Tag) : List Tag :=
  tags.filter (·.style != .google)

theorem mem_otherStyles {style : Style} :
    style ∈ otherStyles styles ↔ style ∈ styles ∧ style ≠ .google := by
  simp [otherStyles]

theorem mem_withoutEntries {tag : Tag} :
    tag ∈ withoutEntries tags ↔ tag ∈ tags ∧ tag.style ≠ .google := by
  simp [withoutEntries]

/-- What is looked for without google style is what is looked for and is no entry. -/
theorem wanted_otherStyles_iff {l : Layout} :
    Wanted (otherStyles styles) names l ↔ Wanted styles names l ∧ l.style ≠ .google := by
  rw [Wanted, Wanted, mem_otherStyles]
  tauto

theorem Written.otherStyles {tag : Tag} {l : Layout} (h : Written styles names text tag l)
    (other : tag.style ≠ .google) : Written (otherStyles styles) names text tag l := by
  have style : tag.style = l.style := congrArg Tag.style h.eq
  exact ⟨wanted_otherStyles_iff.2 ⟨h.wanted, style ▸ other⟩, h.fits, h.eq,
    fun l' wanted => h.longest l' (wanted_otherStyles_iff.1 wanted).1, h.only⟩

/-- If no entry closes with a colon that opens a field, the other tags are those of the other
styles. -/
theorem IsScan.withoutEntries (h : IsScan styles names text offset tags)
    (words : ∀ name ∈ names, ∀ c ∈ name.toList, isWord c = true)
    (apart : ∀ tag ∈ tags, tag.style = .google → ¬ tag.OpensField styles names text) :
    IsScan (otherStyles styles) names text offset (withoutEntries tags) where
  written tag htag := by
    obtain ⟨mem, other⟩ := mem_withoutEntries.1 htag
    obtain ⟨l, written⟩ := h.written tag mem
    exact ⟨l, written.otherStyles other⟩
  covers tag htag := h.covers tag (mem_withoutEntries.1 htag).1
  apart := h.apart.filter _
  noneMissed l start hstart wanted fits := by
    obtain ⟨wanted, other⟩ := wanted_otherStyles_iff.1 wanted
    obtain ⟨tag, htag, before, inside⟩ := h.noneMissed l start hstart wanted fits
    refine ⟨tag, mem_withoutEntries.2 ⟨htag, fun google => ?_⟩, before, inside⟩
    obtain ⟨g, written⟩ := h.written tag htag
    have style : tag.style = g.style := congrArg Tag.style written.eq
    have stop := written.stop_eq
    obtain ⟨field, place⟩ := fits.eq_stop_of_google other written.fits (style ▸ google)
      (words g.name written.wanted.2) before (by omega)
    exact apart tag htag google ⟨l, wanted, field, by rw [stop, ← place]; exact fits⟩

/-- At most one tag covers a place. -/
theorem IsScan.eq_of_covers (h : IsScan styles names text offset tags) {tag tag' : Tag}
    (htag : tag ∈ tags) (htag' : tag' ∈ tags) {place : Nat}
    (covered : tag.start ≤ place ∧ place < tag.stop)
    (covered' : tag'.start ≤ place ∧ place < tag'.stop) : tag = tag' := by
  have : Std.Symm fun a b : Tag => a.stop ≤ b.start ∨ b.stop ≤ a.start := ⟨fun _ _ => Or.symm⟩
  have apart : tags.Pairwise fun a b => a.stop ≤ b.start ∨ b.stop ≤ a.start := h.apart.imp Or.inl
  by_contra ne
  have := apart.forall htag htag' ne
  omega

/-- If an entry closes with a colon that opens a field, this field is found in a search without
google style, and not in the search that finds the entry. -/
theorem IsScan.not_opensField (h : IsScan styles names text offset tags)
    (h' : IsScan (otherStyles styles) names text offset (Tag.withoutEntries tags)) {tag : Tag}
    (htag : tag ∈ tags) (google : tag.style = .google) : ¬ tag.OpensField styles names text := by
  rintro ⟨l, wanted, field, fits⟩
  have covers := h.covers tag htag
  have wanted' : Wanted (Tag.otherStyles styles) names l :=
    wanted_otherStyles_iff.2 ⟨wanted, by rw [field]; decide⟩
  obtain ⟨tag', htag', before, inside⟩ := h'.noneMissed l _ (by omega) wanted' fits
  obtain ⟨mem, other⟩ := mem_withoutEntries.1 htag'
  have same : tag = tag' := h.eq_of_covers htag mem ⟨by omega, by omega⟩ ⟨before, inside⟩
  exact other (same ▸ google)

/-- The tags of the other styles are those of a search without google style exactly if no entry
closes with a colon that opens a field. -/
theorem withoutEntries_all_eq_iff (words : ∀ name ∈ names, ∀ c ∈ name.toList, isWord c = true) :
    withoutEntries (all styles names text) = all (otherStyles styles) names text
      ↔ ∀ tag ∈ all styles names text, tag.style = .google →
        ¬ tag.OpensField styles names text := by
  have scan := isScan_all styles names text
  constructor
  · intro same tag htag google
    refine scan.not_opensField ?_ htag google
    rw [same]
    exact isScan_all _ _ _
  · intro apart
    exact (scan.withoutEntries words apart).eq (isScan_all _ _ _)

end Tag

/-! ### Findings -/

namespace Finding

variable {styles : List Style} {names : List String} {args : List Value} {doc : String}

/-- Where there is no section, entries do not count. -/
theorem ofDoc_of_noSection (noSection : Section.all doc.toList = []) :
    ofDoc styles (some doc) names args
      = (Tag.withoutEntries (Tag.all styles names doc.toList)).filterMap fun tag =>
        (argument? names args tag.name).map fun v => ofTag names tag v.typeName := by
  have none : counts (Section.all doc.toList) = fun tag => tag.style != .google := by
    funext tag
    rw [counts, noSection, List.any_nil, Bool.or_false]
  rw [ofDoc_some, none]
  rfl

/-- Without google style no tag is an entry. -/
theorem withoutEntries_all_otherStyles (text : List Char) :
    Tag.withoutEntries (Tag.all (Tag.otherStyles styles) names text)
      = Tag.all (Tag.otherStyles styles) names text := by
  refine List.filter_eq_self.2 fun tag htag => ?_
  obtain ⟨l, written⟩ := (Tag.isScan_all _ names text).written tag htag
  have style : tag.style = l.style := congrArg Tag.style written.eq
  simpa [style] using (Tag.wanted_otherStyles_iff.1 written.wanted).2

/-- The names of the styles but for google style. -/
def otherNames (styleNames : List String) : List String :=
  styleNames.filter (· != Style.google.name)

/-- If another style is named, the styles named are known without google style too. -/
theorem exists_ofNames_otherNames {styleNames : List String} (known : Style.AreKnown styleNames)
    (other : ∃ name ∈ styleNames, name ≠ Style.google.name)
    (mem : ∀ style, style ∈ styles ↔ style.name ∈ styleNames) :
    ∃ styles', Style.ofNames (otherNames styleNames) = .ok styles'
      ∧ ∀ style, style ∈ styles' ↔ style ∈ Tag.otherStyles styles := by
  have known' : Style.AreKnown (otherNames styleNames) := by
    obtain ⟨name, hname, ne⟩ := other
    refine ⟨List.ne_nil_of_mem (List.mem_filter.2 ⟨hname, by simpa using ne⟩), ?_⟩
    exact fun name hname => known.2 name (List.mem_filter.1 hname).1
  obtain ⟨styles', found, mem'⟩ := Style.exists_ofNames_eq known'
  refine ⟨styles', found, fun style => ?_⟩
  rw [mem', Tag.mem_otherStyles, mem, otherNames, List.mem_filter]
  cases style <;> simp [Style.name]

/-- **Where entries do not count, and what they hide.** In a docstring without sections, let names
that are words be looked for in google style and others. The tags of the other styles are those of a
search without google style exactly if no entry closes with a colon that opens a field; and then so
are the findings, whatever the arguments. If fields are not looked for, none is opened. -/
theorem extract_otherNames {styleNames : List String} (known : Style.AreKnown styleNames)
    (other : ∃ name ∈ styleNames, name ≠ Style.google.name)
    (words : ∀ name ∈ names, IsWordName name) (noSection : Section.all doc.toList = []) :
    ∃ styles, Style.ofNames styleNames = .ok styles
      ∧ (Tag.withoutEntries (Tag.all styles names doc.toList)
          = Tag.all (Tag.otherStyles styles) names doc.toList
        ↔ ∀ tag ∈ Tag.all styles names doc.toList, tag.style = .google →
          ¬ tag.OpensField styles names doc.toList)
      ∧ ((∀ tag ∈ Tag.all styles names doc.toList, tag.style = .google →
          ¬ tag.OpensField styles names doc.toList) →
        ∀ args, ∃ findings, extract (some doc) names args styleNames = .ok findings
          ∧ extract (some doc) names args (otherNames styleNames) = .ok findings)
      ∧ (Style.sphinx.name ∉ styleNames →
        ∀ tag : Tag, ¬ tag.OpensField styles names doc.toList) := by
  obtain ⟨styles, found, mem⟩ := Style.exists_ofNames_eq known
  obtain ⟨styles', found', mem'⟩ := exists_ofNames_otherNames known other mem
  have apart_iff := @Tag.withoutEntries_all_eq_iff styles names doc.toList
    fun name hname => (words name hname).2
  refine ⟨styles, found, apart_iff, fun apart args => ?_, ?_⟩
  · have tags : Tag.withoutEntries (Tag.all styles' names doc.toList)
        = Tag.withoutEntries (Tag.all styles names doc.toList) := by
      rw [Tag.all_congr mem' (fun _ => Iff.rfl), withoutEntries_all_otherStyles, apart_iff.2 apart]
    refine ⟨ofDoc styles (some doc) names args, ?_, ?_⟩
    · rw [extract, found]
      rfl
    · rw [extract, found', ofDoc_of_noSection noSection, ← tags, ← ofDoc_of_noSection noSection]
      rfl
  · rintro noField tag ⟨l, wanted, field, -⟩
    have named := (mem l.style).1 wanted.1
    rw [field] at named
    exact noField named

/-- An entry that closes on the line before a field hides nothing, and one that phpdoc tags follow
at once does not either. -/
theorem extract_otherNames_next_line :
    Style.AreKnown ["google", "sphinx", "phpdoc"]
      ∧ (∃ name ∈ ["google", "sphinx", "phpdoc"], name ≠ Style.google.name)
      ∧ (∀ name ∈ ["x", "y"], IsWordName name)
      ∧ Section.all "x (int):\n:param int y:\ny (bool):@param bool x".toList = []
      ∧ ∃ findings, extract (some "x (int):\n:param int y:\ny (bool):@param bool x") ["x", "y"]
            [.bool true, .bool true] ["google", "sphinx", "phpdoc"] = .ok findings
          ∧ extract (some "x (int):\n:param int y:\ny (bool):@param bool x") ["x", "y"]
            [.bool true, .bool true] (otherNames ["google", "sphinx", "phpdoc"])
              = .ok findings := by
  have known : Style.AreKnown ["google", "sphinx", "phpdoc"] :=
    ⟨by decide, by simpa using ⟨⟨.google, rfl⟩, ⟨.sphinx, rfl⟩, ⟨.phpdoc, rfl⟩⟩⟩
  have other : ∃ name ∈ ["google", "sphinx", "phpdoc"], name ≠ Style.google.name := by decide
  have words : ∀ name ∈ ["x", "y"], IsWordName name := by
    simpa using ⟨isWordName_of_all (by decide) (by decide +kernel),
      isWordName_of_all (by decide) (by decide +kernel)⟩
  have noSection : Section.all "x (int):\n:param int y:\ny (bool):@param bool x".toList = [] := by
    decide +kernel
  obtain ⟨styles, found, apart_iff, same, -⟩ := extract_otherNames known other words noSection
  obtain rfl : [Style.google, .sphinx, .phpdoc] = styles := Except.ok.inj found
  exact ⟨known, other, words, noSection, same (apart_iff.1 (by decide +kernel)) _⟩

/-- **An entry that does not count hides a field.** The colon that closes the entry would open the
field, so the field is missed. What the field would have covered can then be found instead: its own
closing colon opens another one. -/
theorem extract_misses_field :
    Section.all "x (int):param int y: Y".toList = []
      ∧ extract (some "x (int):param int y: Y") ["x", "y"] [.bool true, .bool true]
          ["phpdoc", "sphinx", "google"] = .ok []
      ∧ extract (some "x (int):param int y: Y") ["x", "y"] [.bool true, .bool true]
          ["phpdoc", "sphinx"] = .ok [⟨"y", "integer", "boolean", 1⟩]
      ∧ Section.all "x (int):param int y:param int x:".toList = []
      ∧ extract (some "x (int):param int y:param int x:") ["x", "y"] [.bool true, .bool true]
          ["phpdoc", "sphinx", "google"] = .ok [⟨"x", "integer", "boolean", 0⟩]
      ∧ extract (some "x (int):param int y:param int x:") ["x", "y"] [.bool true, .bool true]
          ["phpdoc", "sphinx"] = .ok [⟨"y", "integer", "boolean", 1⟩] := by
  decide +kernel

end Finding

end DocGuard

import DocGuard.Proofs.Tag.Grammar
import Mathlib.Data.List.Forall2
/-!
Texts that differ in white space.

Two texts have the same visible characters, and between them gaps of white space that may differ.
As long as names are words, a tag of one of the texts is a tag of the other: what counts of a gap is
whether it is there at all, for google style also whether it is padding and whether a line begins in
it (`GapLike`). The gap at the start may come and go as well, and what stands at the end has no part
in any tag.

A scan of the one text and a scan of the other therefore find the same tags one by one
(`Tag.forall₂_all_of_respaced`), and tags in google style stand on corresponding rows.
-/

namespace DocGuard

open Text

/-! ### Gaps -/

namespace Text

/-- White space of any kind, if anything. -/
def IsSpace (text : List Char) : Prop :=
  ∀ c ∈ text, isBlank c = true

/-- A line begins behind this white space, which is the `first` of its text or not. -/
def StartsLine (first : Bool) (gap : List Char) : Prop :=
  (first = true ∧ gap = []) ∨ gap.getLast? = some '\n'

/-- A line begins in this white space, and only padding follows. -/
def OpensLine (first : Bool) (gap : List Char) : Prop :=
  ∃ passed margin, gap = passed ++ margin ∧ IsPadding margin ∧ StartsLine first passed

/-- Two gaps are alike to tags, and to tags in google style if `lines` holds. -/
structure GapLike (lines : Prop) (first : Bool) (gap gap' : List Char) : Prop where
  /-- A gap between characters is in both texts or in none. -/
  empty : first = false → (gap = [] ↔ gap' = [])
  padding : lines → first = false → (IsPadding gap ↔ IsPadding gap')
  opens : lines → (OpensLine first gap ↔ OpensLine first gap')
  /-- A gap between characters goes over as many line feeds. -/
  feeds : lines → first = false → gap.count '\n' = gap'.count '\n'

/-- The texts have the same visible characters, with gaps alike. Behind the last one, there are
`feeds` line feeds in the one text for `feeds'` in the other. -/
inductive Respaced (lines : Prop) (feeds feeds' : Nat) : Bool → List Char → List Char → Prop
  | done {first text text'} :
      IsSpace text → IsSpace text' →
      (lines → first = false → text.count '\n' + feeds' = text'.count '\n' + feeds) →
      Respaced lines feeds feeds' first text text'
  | step {first gap gap' c text text'} :
      IsSpace gap → IsSpace gap' → isBlank c = false → GapLike lines first gap gap' →
      Respaced lines feeds feeds' false text text' →
      Respaced lines feeds feeds' first (gap ++ c :: text) (gap' ++ c :: text')

variable {lines : Prop} {feeds feeds' : Nat} {first : Bool} {gap gap' text text' : List Char}

theorem GapLike.symm (h : GapLike lines first gap gap') : GapLike lines first gap' gap where
  empty between := (h.empty between).symm
  padding hl between := (h.padding hl between).symm
  opens hl := (h.opens hl).symm
  feeds hl between := (h.feeds hl between).symm

theorem GapLike.refl (lines : Prop) (first : Bool) (gap : List Char) :
    GapLike lines first gap gap where
  empty _ := Iff.rfl
  padding _ _ := Iff.rfl
  opens _ := Iff.rfl
  feeds _ _ := rfl

theorem Respaced.symm (h : Respaced lines feeds feeds' first text text') :
    Respaced lines feeds' feeds first text' text := by
  induction h with
  | done hs hs' count => exact .done hs' hs fun hl between => (count hl between).symm
  | step hs hs' hc like _ ih => exact .step hs' hs hc like.symm ih

/-- The rows behind a visible character correspond. -/
theorem Respaced.count_eq (h : Respaced lines feeds feeds' false text text') (hl : lines) :
    text.count '\n' + feeds' = text'.count '\n' + feeds := by
  generalize hfirst : false = first at h
  induction h with
  | done _ _ count => exact count hl hfirst.symm
  | @step _ gap gap' c text text' _ _ _ like _ ih =>
    have here := like.feeds hl hfirst.symm
    have behind := ih rfl
    simp only [List.count_append, List.count_cons]
    omega

/-- A visible character behind a gap stands in the other text too. -/
theorem Respaced.exists_gap {c : Char}
    (h : Respaced lines feeds feeds' first (gap ++ c :: text) text') (hgap : IsSpace gap)
    (hc : isBlank c = false) :
    ∃ gap' rest, IsSpace gap' ∧ text' = gap' ++ c :: rest ∧ GapLike lines first gap gap'
      ∧ Respaced lines feeds feeds' false text rest := by
  generalize e : gap ++ c :: text = whole at h
  cases h with
  | done hs =>
    have := hs c (e ▸ by simp)
    rw [hc] at this
    cases this
  | @step _ gap₁ gap₁' c₁ text₁ text₁' hs hs' hc₁ like h =>
    obtain ⟨rfl, tail⟩ := append_inj_of_head? hgap
      (show (c :: text).head?.any isBlank = false from hc) hs
      (show (c₁ :: text₁).head?.any isBlank = false from hc₁) e
    obtain ⟨rfl, rfl⟩ := List.cons.inj tail
    exact ⟨gap₁', text₁', hs', rfl, like, h⟩

/-- The same visible character may stand in front of both texts. -/
theorem Respaced.cons {c : Char} (hc : isBlank c = false)
    (h : Respaced lines feeds feeds' false text text') :
    Respaced lines feeds feeds' false (c :: text) (c :: text') := by
  have step : Respaced lines feeds feeds' false ([] ++ c :: text) ([] ++ c :: text') :=
    .step (by simp [IsSpace]) (by simp [IsSpace]) hc (.refl lines false []) h
  exact step

/-- Between visible characters, a gap has a gap alike to it. -/
theorem Respaced.exists_between
    (h : Respaced lines feeds feeds' false (gap ++ text) text') (hgap : IsSpace gap)
    (ne : text ≠ []) (htext : text.head?.any isBlank = false) :
    ∃ gap' rest, IsSpace gap' ∧ text' = gap' ++ rest ∧ GapLike lines false gap gap'
      ∧ Respaced lines feeds feeds' false text rest := by
  cases text with
  | nil => exact absurd rfl ne
  | cons c text =>
    obtain ⟨gap', rest, hgap', e, like, h⟩ := h.exists_gap hgap htext
    exact ⟨gap', c :: rest, hgap', e, like, h.cons htext⟩

/-- Visible characters stand side by side in both texts. -/
theorem Respaced.exists_word {word : List Char}
    (h : Respaced lines feeds feeds' false (word ++ text) text')
    (hword : ∀ c ∈ word, isBlank c = false) :
    ∃ rest, text' = word ++ rest ∧ Respaced lines feeds feeds' false text rest := by
  induction word generalizing text' with
  | nil => exact ⟨text', rfl, h⟩
  | cons c word ih =>
    have h : Respaced lines feeds feeds' false ([] ++ c :: (word ++ text)) text' := h
    obtain ⟨gap', tail, -, rfl, like, htail⟩ :=
      h.exists_gap (by simp [IsSpace]) (hword c List.mem_cons_self)
    obtain rfl : gap' = [] := (like.empty rfl).1 rfl
    obtain ⟨rest, rfl, hrest⟩ := ih htail fun d hd => hword d (List.mem_cons_of_mem c hd)
    exact ⟨rest, rfl, hrest⟩

/-- Behind visible characters, a word goes on in both texts or in none. -/
theorem Respaced.isWordAt_head? (h : Respaced lines feeds feeds' false text text') :
    isWordAt text.head? = isWordAt text'.head? := by
  have quiet : ∀ {gap : List Char}, IsSpace gap → ∀ rest, gap ≠ [] →
      isWordAt (gap ++ rest).head? = false :=
    fun hs rest ne => isWordAt_head?_of_isGap ⟨ne, hs⟩ rest
  have silent : ∀ {gap : List Char}, IsSpace gap → isWordAt gap.head? = false := by
    intro gap hs
    cases gap with
    | nil => rfl
    | cons c gap => exact isWord_eq_false_of_isBlank (hs c (by simp))
  generalize hfirst : false = first at h
  cases h with
  | done hs hs' => rw [silent hs, silent hs']
  | @step _ gap gap' c text text' hs hs' hc like h =>
    by_cases ne : gap = []
    · rw [ne, (like.empty hfirst.symm).1 ne]
      rfl
    · rw [quiet hs _ ne, quiet hs' _ fun e => ne ((like.empty hfirst.symm).2 e)]

/-- Where white space separates, it does so in both texts. -/
theorem Respaced.exists_isGap (h : Respaced lines feeds feeds' false (gap ++ text) text')
    (hgap : IsGap gap) (ne : text ≠ []) (htext : text.head?.any isBlank = false) :
    ∃ gap' rest, IsGap gap' ∧ text' = gap' ++ rest
      ∧ Respaced lines feeds feeds' false text rest := by
  obtain ⟨gap', rest, hs, e, like, h⟩ := h.exists_between hgap.2 ne htext
  exact ⟨gap', rest, ⟨fun none => hgap.1 ((like.empty rfl).2 none), hs⟩, e, h⟩

/-- Where there is padding, there is padding in both texts. -/
theorem Respaced.exists_isPadding (h : Respaced lines feeds feeds' false (gap ++ text) text')
    (hl : lines) (hgap : IsPadding gap) (ne : text ≠ []) (htext : text.head?.any isBlank = false) :
    ∃ gap' rest, IsPadding gap' ∧ text' = gap' ++ rest
      ∧ Respaced lines feeds feeds' false text rest := by
  obtain ⟨gap', rest, -, e, like, h⟩ :=
    h.exists_between (fun c hc => isBlank_of_isPad (hgap c hc)) ne htext
  exact ⟨gap', rest, (like.padding hl rfl).1 hgap, e, h⟩

theorem isBlank_of_mem_words {c : Char} {word : List Char} (h : ∀ c ∈ word, isWord c = true)
    (hc : c ∈ word) : isBlank c = false :=
  isBlank_eq_false_of_isWord (h c hc)

end Text

/-! ### Tags -/

namespace Layout

/-- The padding in front of the tag, which is part of it in google style. -/
def margin : Layout → List Char
  | google margin .. => margin
  | _ => []

theorem isPadding_margin {l : Layout} (h : l.Regular) : IsPadding l.margin := by
  cases l with
  | phpdoc | sphinx => simp [margin, IsPadding]
  | google => exact h.2.1

section Respaced

variable {lines : Prop} {feeds feeds' : Nat} {before before' : Option Char}
variable {text text' rest margin' : List Char}

theorem exists_remarkText {remark : Option (List Char × List Char)}
    (h : Respaced lines feeds feeds' false (remarkText remark ++ ')' :: rest) text') (hl : lines)
    (hremark : ∀ pads ∈ remark, IsPadding pads.1 ∧ IsPadding pads.2) :
    ∃ remark' rest', (∀ pads ∈ remark', IsPadding pads.1 ∧ IsPadding pads.2)
      ∧ text' = remarkText remark' ++ ')' :: rest'
      ∧ Respaced lines feeds feeds' false rest rest' := by
  cases remark with
  | none =>
    have h : Respaced lines feeds feeds' false ([')'] ++ rest) text' := h
    obtain ⟨rest', e, h⟩ := h.exists_word (eq_false_of_any (by decide))
    exact ⟨none, rest', by simp, e, h⟩
  | some pads =>
    obtain ⟨first, second⟩ := hremark pads rfl
    have h : Respaced lines feeds feeds' false ([','] ++ (pads.1
        ++ (['o', 'p', 't', 'i', 'o', 'n', 'a', 'l'] ++ (pads.2 ++ ([')'] ++ rest))))) text' := by
      simpa [remarkText] using h
    obtain ⟨text₁, rfl, h₁⟩ := h.exists_word (eq_false_of_any (by decide))
    obtain ⟨pad, text₂, hpad, rfl, h₂⟩ := h₁.exists_isPadding hl first (by simp) rfl
    obtain ⟨text₃, rfl, h₃⟩ := h₂.exists_word (eq_false_of_any (by decide))
    obtain ⟨pad', text₄, hpad', rfl, h₄⟩ := h₃.exists_isPadding hl second (by simp) rfl
    obtain ⟨rest', rfl, h₅⟩ := h₄.exists_word (eq_false_of_any (by decide))
    refine ⟨some (pad, pad'), rest', ?_, by simp [remarkText], h₅⟩
    rintro _ ⟨⟩
    exact ⟨hpad, hpad'⟩

theorem Leads.exists_phpdoc (before' : Option Char) {gap gap' : List Char} {token name : String}
    {sigil : Bool} (h : (phpdoc gap token gap' sigil name).Leads before text rest)
    (hname : IsWordName name)
    (respaced : Respaced lines feeds feeds' false text text') :
    ∃ gap₁ gap₁' rest', (phpdoc gap₁ token gap₁' sigil name).Leads before' text' rest'
      ∧ Respaced lines feeds feeds' false rest rest' := by
  obtain ⟨ht, hg, hg'⟩ := h.regular
  have ne : name.toList ≠ [] := by simpa using hname.1
  have sigilWord : ∀ c ∈ (if sigil then ['$'] else []) ++ name.toList, isBlank c = false := by
    intro c hc
    rcases List.mem_append.1 hc with hc | hc
    · have only : c = '$' := by cases sigil <;> simp_all
      rw [only]
      decide
    · exact isBlank_of_mem_words hname.2 hc
  have cut : text = ['@', 'p', 'a', 'r', 'a', 'm'] ++ (gap ++ (token.toList ++ (gap'
      ++ (((if sigil then ['$'] else []) ++ name.toList) ++ rest)))) := by
    rw [h.written]
    simp [Layout.text, opening, Layout.name, closing]
  rw [cut] at respaced
  -- part for part, words stay what they are and gaps become gaps
  obtain ⟨text₁, rfl, h₁⟩ := respaced.exists_word (eq_false_of_any (by decide))
  obtain ⟨gap₁, text₂, hgap₁, rfl, h₂⟩ := h₁.exists_isGap hg (by simp [ne])
    (any_isBlank_of_isWordAt (isWordAt_head?_token ht _))
  obtain ⟨text₃, rfl, h₃⟩ :=
    h₂.exists_word fun c hc => isBlank_of_mem_words (isWord_of_mem_token ht) hc
  obtain ⟨gap₁', text₄, hgap₁', rfl, h₄⟩ := h₃.exists_isGap hg' (by simp [ne])
    (by rw [List.append_assoc]; exact any_isBlank_sigil sigil (hname.isWordAt_head? rest))
  obtain ⟨rest', rfl, h₅⟩ := h₄.exists_word sigilWord
  have close : isBoundary name.toList.getLast? rest.head? = true := h.close rfl
  rw [isBoundary, h₅.isWordAt_head?] at close
  refine ⟨gap₁, gap₁', rest', ⟨⟨ht, hgap₁, hgap₁'⟩, ?_, hname.isWordAt_head? rest',
    fun _ => close,
    fun e => (by cases e)⟩, h₅⟩
  simp [Layout.text, opening, Layout.name, closing]

theorem Leads.exists_sphinx (before' : Option Char) {gap gap' blanks : List Char}
    {token name : String} (h : (sphinx gap token gap' name blanks).Leads before text rest)
    (hname : IsWordName name)
    (respaced : Respaced lines feeds feeds' false text text') :
    ∃ gap₁ gap₁' blanks₁ rest', (sphinx gap₁ token gap₁' name blanks₁).Leads before' text' rest'
      ∧ Respaced lines feeds feeds' false rest rest' := by
  obtain ⟨ht, hg, hg', hb⟩ := h.regular
  have cut : text = [':', 'p', 'a', 'r', 'a', 'm'] ++ (gap ++ (token.toList ++ (gap'
      ++ (name.toList ++ (blanks ++ ([':'] ++ rest)))))) := by
    rw [h.written]
    simp [Layout.text, opening, Layout.name, closing]
  rw [cut] at respaced
  obtain ⟨text₁, rfl, h₁⟩ := respaced.exists_word (eq_false_of_any (by decide))
  obtain ⟨gap₁, text₂, hgap₁, rfl, h₂⟩ := h₁.exists_isGap hg (by simp)
    (any_isBlank_of_isWordAt (isWordAt_head?_token ht _))
  obtain ⟨text₃, rfl, h₃⟩ :=
    h₂.exists_word fun c hc => isBlank_of_mem_words (isWord_of_mem_token ht) hc
  obtain ⟨gap₁', text₄, hgap₁', rfl, h₄⟩ := h₃.exists_isGap hg' (by simp)
    (any_isBlank_of_isWordAt (hname.isWordAt_head? _))
  obtain ⟨text₅, rfl, h₅⟩ := h₄.exists_word fun c hc => isBlank_of_mem_words hname.2 hc
  obtain ⟨blanks₁, text₆, hblanks₁, rfl, -, h₆⟩ := h₅.exists_between hb (by simp)
    (by decide : isBlank ':' = false)
  obtain ⟨rest', rfl, h₇⟩ := h₆.exists_word (eq_false_of_any (by decide))
  refine ⟨gap₁, gap₁', blanks₁, rest', ⟨⟨ht, hgap₁, hgap₁', hblanks₁⟩, ?_, hname.isWordAt_head? _,
    fun e => (by cases e), fun e => (by cases e)⟩, h₇⟩
  simp [Layout.text, opening, Layout.name, closing]

theorem Leads.exists_google {margin pad pad' pad'' last : List Char} {token name : String}
    {remark : Option (List Char × List Char)}
    (h : (google margin name pad pad' token pad'' remark last).Leads before (margin ++ text) rest)
    (hname : IsWordName name) (hl : lines)
    (respaced : Respaced lines feeds feeds' false text text') (hmargin : IsPadding margin')
    (start : atLineStart before' = true) :
    ∃ pad₁ pad₁' pad₁'' remark₁ last₁ rest',
      (google margin' name pad₁ pad₁' token pad₁'' remark₁ last₁).Leads before'
        (margin' ++ text') rest'
      ∧ Respaced lines feeds feeds' false rest rest' := by
  obtain ⟨ht, hm, hp, hp', hp'', hr, hlast⟩ := h.regular
  have cut : text = name.toList ++ (pad ++ (['('] ++ (pad' ++ (token.toList ++ (pad''
      ++ (remarkText remark ++ ')' :: (last ++ ([':'] ++ rest)))))))) := by
    have written := h.written
    simp only [Layout.text, opening, Layout.name, closing, List.append_assoc,
      List.append_cancel_left_eq] at written
    simp [written]
  -- what may follow the type is visible
  have mark (remark : Option (List Char × List Char)) (rest : List Char) :
      (remarkText remark ++ ')' :: rest).head?.any isBlank = false := by
    cases remark with
    | none => exact (by decide : isBlank ')' = false)
    | some pads => exact (by decide : isBlank ',' = false)
  rw [cut] at respaced
  obtain ⟨text₁, rfl, h₁⟩ := respaced.exists_word fun c hc => isBlank_of_mem_words hname.2 hc
  obtain ⟨pad₁, text₂, hpad₁, rfl, h₂⟩ := h₁.exists_isPadding hl hp (by simp)
    (by decide : isBlank '(' = false)
  obtain ⟨text₃, rfl, h₃⟩ := h₂.exists_word (eq_false_of_any (by decide))
  obtain ⟨pad₁', text₄, hpad₁', rfl, h₄⟩ := h₃.exists_isPadding hl hp' (by simp)
    (any_isBlank_of_isWordAt (isWordAt_head?_token ht _))
  obtain ⟨text₅, rfl, h₅⟩ :=
    h₄.exists_word fun c hc => isBlank_of_mem_words (isWord_of_mem_token ht) hc
  obtain ⟨pad₁'', text₆, hpad₁'', rfl, h₆⟩ := h₅.exists_isPadding hl hp'' (by simp) (mark remark _)
  obtain ⟨remark₁, text₇, hremark₁, rfl, h₇⟩ := exists_remarkText h₆ hl hr
  obtain ⟨last₁, text₈, hlast₁, rfl, h₈⟩ := h₇.exists_isPadding hl hlast (by simp)
    (by decide : isBlank ':' = false)
  obtain ⟨rest', rfl, h₉⟩ := h₈.exists_word (eq_false_of_any (by decide))
  refine ⟨pad₁, pad₁', pad₁'', remark₁, last₁, rest',
    ⟨⟨ht, hmargin, hpad₁, hpad₁', hpad₁'', hremark₁, hlast₁⟩, ?_, hname.isWordAt_head? _,
      fun e => (by cases e), fun _ => start⟩, h₉⟩
  simp [Layout.text, opening, Layout.name, closing]

/-- A tag whose name is a word leads the other text as well. -/
theorem Leads.exists_respaced {l : Layout} (h : l.Leads before (l.margin ++ text) rest)
    (hname : IsWordName l.name) (respaced : Respaced lines feeds feeds' false text text')
    (lined : l.style = .google → lines ∧ IsPadding margin' ∧ atLineStart before' = true)
    (others : l.style ≠ .google → margin' = []) :
    ∃ (l' : Layout) (rest' : List Char),
      (l'.style = l.style ∧ l'.token = l.token ∧ l'.name = l.name)
      ∧ l'.Leads before' (margin' ++ text') rest'
      ∧ Respaced lines feeds feeds' false rest rest' := by
  cases l with
  | phpdoc gap token gap' sigil name =>
    obtain ⟨gap₁, gap₁', rest', leads, behind⟩ :=
      Leads.exists_phpdoc before' h hname respaced
    rw [others (by simp [style])]
    exact ⟨phpdoc gap₁ token gap₁' sigil name, rest', ⟨rfl, rfl, rfl⟩, leads, behind⟩
  | sphinx gap token gap' name blanks =>
    obtain ⟨gap₁, gap₁', blanks₁, rest', leads, behind⟩ :=
      Leads.exists_sphinx before' h hname respaced
    rw [others (by simp [style])]
    exact ⟨sphinx gap₁ token gap₁' name blanks₁, rest', ⟨rfl, rfl, rfl⟩, leads, behind⟩
  | google margin name pad pad' token pad'' remark last =>
    obtain ⟨hl, hmargin, start⟩ := lined rfl
    obtain ⟨pad₁, pad₁', pad₁'', remark₁, last₁, rest', leads, behind⟩ :=
      Leads.exists_google h hname hl respaced hmargin start
    exact ⟨google margin' name pad₁ pad₁' token pad₁'' remark₁ last₁, rest', ⟨rfl, rfl, rfl⟩, leads,
      behind⟩

end Respaced

end Layout

/-! ### Scans -/

namespace Tag

variable {styles : List Style} {names : List String} {lines : Prop} {feeds feeds' : Nat}
variable {first : Bool} {front front' gap gap' text text' rest : List Char} {c : Char}

/-- A scan passes over places where nothing fits. -/
theorem IsScan.skipRun {tags : List Tag} {offset : Nat} (n : Nat)
    (h : IsScan styles names text (offset + n) tags)
    (nothing : ∀ i < n, ∀ l, Wanted styles names l → ¬ l.Fits text (offset + i)) :
    IsScan styles names text offset tags := by
  induction n with
  | zero => exact h
  | succ n ih =>
    refine ih (IsScan.skip h (nothing n (Nat.lt_succ_self n))) fun i hi => ?_
    exact nothing i (Nat.lt_succ_of_lt hi)

/-- A layout that fits in a gap or behind it has the rest of the gap as its margin. -/
theorem margin_eq {l : Layout} {before : Option Char} (h : l.Leads before (gap ++ c :: text) rest)
    (hgap : IsSpace gap) (hc : isBlank c = false) : l.margin = gap := by
  have first (mark : Char) (tail : List Char) (hmark : isBlank mark = false)
      (e : gap ++ c :: text = mark :: tail) : gap = [] := by
    cases gap with
    | nil => rfl
    | cons d gap =>
      have blank := hgap d List.mem_cons_self
      rw [(List.cons.inj e).1, hmark] at blank
      cases blank
  have written := h.written
  cases l with
  | phpdoc => exact (first '@' _ (by decide) written).symm
  | sphinx => exact (first ':' _ (by decide) written).symm
  | google margin name =>
    simp only [Layout.text, Layout.opening, List.append_assoc] at written
    have edge := any_isBlank_of_isWordAt h.edge
    exact (append_inj_of_head? hgap (show (c :: text).head?.any isBlank = false from hc)
      (fun d hd => isBlank_of_isPad (h.regular.2.1 d hd)) edge written).1.symm

/-- A layout that is looked for stands behind a gap, and takes `margin` of it. -/
structure Stands (styles : List Style) (names : List String) (front gap text : List Char)
    (l : Layout) (passed rest : List Char) : Prop where
  wanted : Wanted styles names l
  split : gap = passed ++ l.margin
  leads : l.Leads (front ++ passed).getLast? (l.margin ++ text) rest

/-- What fits somewhere in a gap or behind it stands behind the gap. -/
theorem exists_stands {l : Layout} {i : Nat} (wanted : Wanted styles names l)
    (hgap : IsSpace gap) (hc : isBlank c = false) (hi : i ≤ gap.length)
    (fits : l.Fits (front ++ (gap ++ c :: text)) (front.length + i)) :
    ∃ rest, Stands styles names front gap (c :: text) l (gap.take i) rest := by
  have cut : front ++ (gap ++ c :: text)
      = (front ++ gap.take i) ++ (gap.drop i ++ c :: text) := by
    rw [List.append_assoc, ← List.append_assoc (gap.take i), List.take_append_drop]
  have place : front.length + i = (front ++ gap.take i).length := by
    rw [List.length_append, List.length_take_of_le hi]
  rw [cut, place] at fits
  obtain ⟨rest, leads⟩ := Layout.fits_append_iff.1 fits
  have margin : l.margin = gap.drop i :=
    margin_eq leads (fun d hd => hgap d (List.mem_of_mem_drop hd)) hc
  exact ⟨rest, wanted, by rw [margin, List.take_append_drop], by rw [margin]; exact leads⟩

/-- The first visible character of a tag tells its style. -/
theorem style_eq_of_visible {l l' : Layout} {before before' : Option Char} {rest' : List Char}
    (h : l.Leads before (l.margin ++ c :: text) rest)
    (h' : l'.Leads before' (l'.margin ++ c :: text) rest') : l.style = l'.style := by
  have visible : ∀ {l : Layout} {before : Option Char} {rest : List Char},
      l.Leads before (l.margin ++ c :: text) rest →
      (l.style = .phpdoc → c = '@') ∧ (l.style = .sphinx → c = ':')
        ∧ (l.style = .google → isWord c = true) := by
    intro l before rest h
    have written := h.written
    cases l with
    | phpdoc =>
      exact ⟨fun _ => (List.cons.inj written).1, fun e => (by cases e), fun e => (by cases e)⟩
    | sphinx =>
      exact ⟨fun e => (by cases e), fun _ => (List.cons.inj written).1, fun e => (by cases e)⟩
    | google margin name =>
      have edge := h.edge
      simp only [Layout.text, Layout.opening, List.append_assoc] at written
      rw [← List.append_cancel_left written] at edge
      exact ⟨fun e => (by cases e), fun e => (by cases e), fun _ => edge⟩
  have first := visible h
  have first' := visible h'
  cases l <;> cases l' <;> simp_all [Layout.style, isWord_at, isWord_colon]

theorem margin_of_style {l : Layout} (h : l.style ≠ .google) : l.margin = [] := by
  cases l with
  | phpdoc | sphinx => rfl
  | google => exact absurd rfl h

/-- Behind a gap, a line begins at one place only if padding follows. -/
theorem passed_le {passed margin passed' margin' : List Char}
    (start' : atLineStart (front ++ passed').getLast? = true) (hmargin : IsPadding margin)
    (e : passed ++ margin = passed' ++ margin') : passed'.length ≤ passed.length := by
  rcases List.append_eq_append_iff.1 e with ⟨between, rfl, rfl⟩ | ⟨between, rfl, -⟩
  · rcases List.eq_nil_or_concat between with rfl | ⟨between, d, rfl⟩
    · simp
    · have pad : isPad d = true := hmargin d (by simp)
      have feed : d = '\n' := by simpa [atLineStart, ← List.append_assoc] using start'
      rw [feed] at pad
      exact absurd pad (by decide)
  · simp

/-- What stands behind a gap begins at one place. -/
theorem Stands.passed_eq {l l' : Layout} {passed passed' rest' : List Char}
    (h : Stands styles names front gap (c :: text) l passed rest)
    (h' : Stands styles names front gap (c :: text) l' passed' rest') : passed = passed' := by
  have split := h.split.symm.trans h'.split
  have style := style_eq_of_visible h.leads h'.leads
  have length : passed.length = passed'.length := by
    by_cases google : l.style = .google
    · have google' : l'.style = .google := style ▸ google
      exact Nat.le_antisymm
        (passed_le (h.leads.lineStart google) (Layout.isPadding_margin h'.leads.regular) split.symm)
        (passed_le (h'.leads.lineStart google') (Layout.isPadding_margin h.leads.regular) split)
    · rw [margin_of_style google, margin_of_style (style ▸ google)] at split
      simpa using congrArg List.length split
  exact (List.append_inj split length).1

/-- Where nothing stands behind a gap, a scan passes over the gap and what follows it. -/
theorem IsScan.skipGap {tags : List Tag} (hgap : IsSpace gap) (hc : isBlank c = false)
    (nothing : ∀ l passed rest, ¬ Stands styles names front gap (c :: text) l passed rest)
    (h : IsScan styles names (front ++ gap ++ [c] ++ text) (front ++ gap ++ [c]).length tags) :
    IsScan styles names (front ++ (gap ++ c :: text)) front.length tags := by
  refine IsScan.skipRun (gap.length + 1) ?_ ?_
  · simpa [Nat.add_assoc] using h
  · intro i hi l wanted fits
    obtain ⟨rest, stands⟩ := exists_stands wanted hgap hc (by omega) fits
    exact nothing l _ rest stands

/-- Where a layout stands behind a gap, a scan takes it. -/
theorem IsScan.takeGap {tags : List Tag} {l : Layout} {passed : List Char} (hgap : IsSpace gap)
    (hc : isBlank c = false) (words : ∀ name ∈ names, IsWordName name)
    (stands : Stands styles names front gap (c :: text) l passed rest)
    (h : IsScan styles names (front ++ passed ++ l.text ++ rest)
      (front ++ passed ++ l.text).length tags) :
    IsScan styles names (front ++ (gap ++ c :: text)) front.length
      (l.tagAt (front ++ passed).length :: tags) := by
  obtain ⟨wanted, split, leads⟩ := stands
  have cut : front ++ (gap ++ c :: text) = (front ++ passed) ++ (l.margin ++ c :: text) := by
    simp [split]
  have fits : l.Fits (front ++ (gap ++ c :: text)) (front ++ passed).length := by
    rw [cut]
    exact Layout.fits_append_iff.2 ⟨rest, leads⟩
  have only : ∀ l', Wanted styles names l' →
      l'.Fits (front ++ (gap ++ c :: text)) (front ++ passed).length → l' = l :=
    fun l' wanted' fits' => fits'.eq_of_isWordName fits (words _ wanted'.2) (words _ wanted.2)
  have written : Written styles names (front ++ (gap ++ c :: text))
      (l.tagAt (front ++ passed).length) l :=
    ⟨wanted, fits, rfl, fun l' wanted' fits' => only l' wanted' fits' ▸ Nat.le_refl _,
      fun l' fits' e => fits'.eq_of_name_eq fits e⟩
  have stop : (l.tagAt (front ++ passed).length).stop = (front ++ passed ++ l.text).length := by
    simp [Layout.tagAt, Nat.add_assoc]
  have here : IsScan styles names (front ++ (gap ++ c :: text)) (front ++ passed).length
      (l.tagAt (front ++ passed).length :: tags) := by
    refine IsScan.cons ?_ written
    rw [stop, cut, leads.written, ← List.append_assoc]
    exact h
  refine IsScan.skipRun passed.length (by simpa using here) ?_
  -- a layout that fits earlier in the gap would have passed less of it
  intro i hi l' wanted' fits'
  have length : passed.length ≤ gap.length := by simp [split]
  obtain ⟨rest', earlier⟩ := exists_stands wanted' hgap hc (by omega) fits'
  have same := congrArg List.length (earlier.passed_eq ⟨wanted, split, leads⟩)
  rw [List.length_take_of_le (by omega)] at same
  omega

/-- What a scan has passed: nothing at the `first` gap, and else something within a line. -/
def IsFront (first : Bool) (front : List Char) : Prop :=
  (first = true ∧ front = []) ∨ (first = false ∧ atLineStart front.getLast? = false)

theorem atLineStart_iff_startsLine (h : IsFront first front) (passed : List Char) :
    atLineStart (front ++ passed).getLast? = true ↔ StartsLine first passed := by
  rcases h with ⟨rfl, rfl⟩ | ⟨rfl, inside⟩
  · simp [StartsLine, Layout.atLineStart_getLast?_iff]
  · rcases List.eq_nil_or_concat passed with rfl | ⟨passed, d, rfl⟩
    · simp [StartsLine, inside]
    · simp [StartsLine, atLineStart, ← List.append_assoc]

/-- What stands behind a gap stands behind a gap alike to it. -/
theorem Stands.exists_respaced {l : Layout} {passed : List Char}
    (h : Stands styles names front gap (c :: text) l passed rest)
    (words : ∀ name ∈ names, IsWordName name) (lined : .google ∈ styles → lines)
    (hfront : IsFront first front) (hfront' : IsFront first front') (hgap' : IsSpace gap')
    (hc : isBlank c = false) (like : GapLike lines first gap gap')
    (respaced : Respaced lines feeds feeds' false text text') :
    ∃ l' passed' rest', Stands styles names front' gap' (c :: text') l' passed' rest'
      ∧ (l'.style = l.style ∧ l'.token = l.token ∧ l'.name = l.name)
      ∧ Respaced lines feeds feeds' false rest rest' := by
  obtain ⟨wanted, split, leads⟩ := h
  have hname := words l.name wanted.2
  have behind : Respaced lines feeds feeds' false (c :: text) (c :: text') := respaced.cons hc
  -- a google layout takes the padding of its line, and others take nothing of the gap
  obtain ⟨passed', margin', rfl, google, others⟩ : ∃ passed' margin', gap' = passed' ++ margin'
      ∧ (l.style = .google → lines ∧ IsPadding margin'
        ∧ atLineStart (front' ++ passed').getLast? = true)
      ∧ (l.style ≠ .google → margin' = []) := by
    by_cases google : l.style = .google
    · have hl : lines := lined (google ▸ wanted.1)
      have start : StartsLine first passed :=
        (atLineStart_iff_startsLine hfront passed).1 (leads.lineStart google)
      obtain ⟨passed', margin', split', pads', start'⟩ :=
        (like.opens hl).1 ⟨passed, l.margin, split, Layout.isPadding_margin leads.regular, start⟩
      exact ⟨passed', margin', split',
        fun _ => ⟨hl, pads', (atLineStart_iff_startsLine hfront' passed').2 start'⟩,
        fun h => absurd google h⟩
    · exact ⟨gap', [], (List.append_nil gap').symm, fun h => absurd h google, fun _ => rfl⟩
  obtain ⟨l', rest', ⟨style, token, name⟩, leads', after⟩ :=
    leads.exists_respaced hname behind google others
  have margin : l'.margin = margin' :=
    margin_eq leads' (fun d hd => hgap' d (List.mem_append_right _ hd)) hc
  refine ⟨l', passed', rest', ⟨?_, by rw [margin], by rw [margin]; exact leads'⟩,
    ⟨style, token, name⟩, after⟩
  rw [Wanted, style, name]
  exact wanted

/-- Tags of two texts that say the same, and in google style stand on corresponding rows. -/
structure Similar (feeds feeds' : Nat) (text text' : List Char) (tag tag' : Tag) : Prop where
  style : tag'.style = tag.style
  token : tag'.token = tag.token
  name : tag'.name = tag.name
  row : tag.style = .google →
    (text.drop tag.start).count '\n' + feeds' = (text'.drop tag'.start).count '\n' + feeds

theorem count_eq_zero_of_isPadding {pads : List Char} (h : IsPadding pads) :
    pads.count '\n' = 0 := by
  rw [List.count_eq_zero]
  intro feed
  exact absurd (h _ feed) (by decide)

theorem Stands.append_eq {l : Layout} {passed : List Char}
    (h : Stands styles names front gap text l passed rest) :
    front ++ (gap ++ text) = front ++ passed ++ l.text ++ rest := by
  rw [h.split, List.append_assoc passed, h.leads.written]
  simp

theorem Stands.length_lt {l : Layout} {passed : List Char}
    (h : Stands styles names front gap text l passed rest) :
    rest.length < (gap ++ text).length := by
  have length := congrArg List.length h.append_eq
  have ne := List.length_pos_iff.2 l.text_ne_nil
  simp only [List.length_append] at length ⊢
  omega

theorem Stands.count_drop_start {l : Layout} {passed : List Char}
    (h : Stands styles names front gap (c :: text) l passed rest) :
    ((front ++ (gap ++ c :: text)).drop (l.tagAt (front ++ passed).length).start).count '\n'
      = (c :: text).count '\n' := by
  have cut : front ++ (gap ++ c :: text) = (front ++ passed) ++ (l.margin ++ c :: text) := by
    simp [h.split]
  rw [cut, Layout.tagAt, List.drop_left, List.count_append,
    count_eq_zero_of_isPadding (Layout.isPadding_margin h.leads.regular), Nat.zero_add]

/-- White space alone holds no tag. -/
theorem isScan_of_isSpace (h : IsSpace text) :
    IsScan styles names (front ++ text) front.length [] := by
  refine IsScan.skipRun text.length (isScan_nil (by simp)) fun i hi l _ fits => ?_
  obtain ⟨c, hc, visible⟩ : ∃ c ∈ l.text, isBlank c = false := by
    cases l with
    | phpdoc => exact ⟨'@', by simp [Layout.text, Layout.opening], by decide⟩
    | sphinx => exact ⟨':', by simp [Layout.text, Layout.opening], by decide⟩
    | google => exact ⟨':', by simp [Layout.text, Layout.closing], by decide⟩
  have place : (front ++ text).drop (front.length + i) = text.drop i := by
    rw [List.drop_append]
    simp
  have blank := h c (List.mem_of_mem_drop (place ▸ fits.written.subset hc))
  rw [visible] at blank
  cases blank

/-- A tag whose name is a word ends within a line. -/
theorem atLineStart_text {l : Layout} (hname : IsWordName l.name) :
    atLineStart (front ++ l.text).getLast? = false := by
  have last : ∃ c, l.text.getLast? = some c ∧ c ≠ '\n' := by
    cases l with
    | phpdoc gap token gap' sigil name =>
      have ne : name.toList ≠ [] := by simpa [Layout.name] using hname.1
      have ends : (Layout.phpdoc gap token gap' sigil name).text.getLast?
          = some (name.toList.getLast ne) := by
        simp only [Layout.text, Layout.closing, Layout.name, List.append_nil,
          List.getLast?_append, List.getLast?_eq_some_getLast ne, Option.some_or]
      refine ⟨_, ends, fun feed => ?_⟩
      have word : isWord (name.toList.getLast ne) = true := hname.2 _ (List.getLast_mem ne)
      rw [feed] at word
      exact absurd (isBlank_eq_false_of_isWord word) (by decide)
    | sphinx | google =>
      exact ⟨':', by simp only [Layout.text, Layout.closing, ← List.append_assoc,
        List.getLast?_concat], by decide⟩
  obtain ⟨c, e, ne⟩ := last
  exact Layout.atLineStart_append_of_getLast? e ne

/-- Scans of two texts that differ in white space go on in step. -/
theorem exists_isScan (words : ∀ name ∈ names, IsWordName name) (lined : .google ∈ styles → lines)
    {whole whole' : List Char} (hwhole : whole = front ++ text)
    (hwhole' : whole' = front' ++ text') (hfront : IsFront first front)
    (hfront' : IsFront first front') (h : Respaced lines feeds feeds' first text text') :
    ∃ tags tags', IsScan styles names whole front.length tags
      ∧ IsScan styles names whole' front'.length tags'
      ∧ List.Forall₂ (Similar feeds feeds' whole whole') tags tags' := by
  -- on the length of what is left, since a tag goes over several gaps at once
  induction n : text.length using Nat.strongRecOn
    generalizing first front front' text text' with
  | _ n ih =>
    subst n
    cases h with
    | done hs hs' =>
      subst hwhole hwhole'
      exact ⟨[], [], isScan_of_isSpace hs, isScan_of_isSpace hs', .nil⟩
    | @step _ gap gap' c text text' hgap hgap' hc like behind =>
      by_cases any : ∃ l passed rest, Stands styles names front gap (c :: text) l passed rest
      · obtain ⟨l, passed, rest, stands⟩ := any
        obtain ⟨l', passed', rest', stands', ⟨style, token, name⟩, after⟩ :=
          stands.exists_respaced words lined hfront hfront' hgap' hc like behind
        obtain ⟨tags, tags', scan, scan', similar⟩ := ih _ stands.length_lt
          (hwhole.trans stands.append_eq) (hwhole'.trans stands'.append_eq)
          (.inr ⟨rfl, atLineStart_text (words _ stands.wanted.2)⟩)
          (.inr ⟨rfl, atLineStart_text (words _ stands'.wanted.2)⟩) after rfl
        subst hwhole hwhole'
        refine ⟨_, _, IsScan.takeGap hgap hc words stands (stands.append_eq ▸ scan),
          IsScan.takeGap hgap' hc words stands' (stands'.append_eq ▸ scan'),
          .cons ⟨style, token, name, fun google => ?_⟩ similar⟩
        have rows := behind.count_eq (lined (google ▸ stands.wanted.1))
        rw [stands.count_drop_start, stands'.count_drop_start, List.count_cons, List.count_cons]
        omega
      · -- nothing stands behind the gap of the other text either, so both scans pass it
        have none' (l' : Layout) (passed' rest' : List Char) :
            ¬ Stands styles names front' gap' (c :: text') l' passed' rest' := by
          intro stands'
          obtain ⟨l, passed, rest, stands, -⟩ :=
            stands'.exists_respaced words lined hfront' hfront hgap hc like.symm behind.symm
          exact any ⟨l, passed, rest, stands⟩
        have ne : c ≠ '\n' := by
          rintro rfl
          exact absurd hc (by decide)
        have less : text.length < (gap ++ c :: text).length := by simp; omega
        obtain ⟨tags, tags', scan, scan', similar⟩ := ih _ less
          (show whole = (front ++ gap ++ [c]) ++ text by simp [hwhole])
          (show whole' = (front' ++ gap' ++ [c]) ++ text' by simp [hwhole'])
          (.inr ⟨rfl, Layout.atLineStart_concat ne⟩) (.inr ⟨rfl, Layout.atLineStart_concat ne⟩)
          behind rfl
        subst hwhole hwhole'
        exact ⟨tags, tags',
          IsScan.skipGap hgap hc (fun l passed rest h => any ⟨l, passed, rest, h⟩)
            (by simpa using scan),
          IsScan.skipGap hgap' hc none' (by simpa using scan'), similar⟩

/-- **Tags do not depend on white space.** The tags of two texts that differ in white space are the
same one by one. -/
theorem forall₂_all_of_respaced (words : ∀ name ∈ names, IsWordName name)
    (lined : .google ∈ styles → lines) (h : Respaced lines feeds feeds' true text text') :
    List.Forall₂ (Similar feeds feeds' text text') (all styles names text)
      (all styles names text') := by
  obtain ⟨tags, tags', scan, scan', similar⟩ := exists_isScan words lined
    (show text = [] ++ text from rfl) (show text' = [] ++ text' from rfl) (.inl ⟨rfl, rfl⟩)
    (.inl ⟨rfl, rfl⟩) h
  rw [← scan.eq (isScan_all styles names text), ← scan'.eq (isScan_all styles names text')]
  exact similar

end Tag

end DocGuard

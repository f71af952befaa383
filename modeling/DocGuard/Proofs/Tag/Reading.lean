import DocGuard.Proofs.Tag.Layout
/-!
Readers and the grammar.

A reader of one style tries type tokens and names one after the other. A type token is followed by
no word character, so at most one token can be read where a text stands (`oneOf_eq_of_isWord`); the
trials of the names can therefore be moved to the outside (`Style.read?_eq_findSome?`), and what is
left to understand is a reader that knows a single name. Such a reader accepts exactly the layouts
of the grammar (`Style.read?_singleton_iff`).
-/

namespace DocGuard

open Text

theorem mem_longestFirst {strings : List String} {s : String} :
    s ∈ longestFirst strings ↔ s ∈ strings := by
  rw [longestFirst, mem_sortBy, List.mem_eraseDups]

/-- Longer strings come first. -/
theorem pairwise_longestFirst (strings : List String) :
    (longestFirst strings).Pairwise fun a b => b.length ≤ a.length := by
  have total (a b : String) : decide (b.length ≤ a.length) ∨ decide (a.length ≤ b.length) := by
    simpa using Nat.le_total b.length a.length
  have trans (a b c : String) (h : decide (b.length ≤ a.length)) (h' : decide (c.length ≤ b.length)) :
      decide (c.length ≤ a.length) := by
    simp only [decide_eq_true_eq] at h h' ⊢
    omega
  simpa [longestFirst] using pairwise_sortBy total trans strings.eraseDups

theorem mem_typeTokens {token : String} : token ∈ typeTokens ↔ IsToken token :=
  mem_longestFirst

namespace Reading

/-! ### Trying one after the other -/

/-- A search in which all but one thing fail looks at this one. -/
theorem findSome?_eq_of_unique {α β : Type} [DecidableEq α] {f : α → Option β} {a : α}
    {l : List α} (h : ∀ b ∈ l, b ≠ a → f b = none) :
    l.findSome? f = if a ∈ l then f a else none := by
  induction l with
  | nil => rfl
  | cons b l ih =>
    have ih := ih fun c hc => h c (List.mem_cons_of_mem b hc)
    by_cases hb : b = a
    · subst hb
      rw [List.findSome?_cons]
      by_cases hl : b ∈ l <;> cases e : f b <;> simp [ih, hl, e]
    · have first : f b = none := h b List.mem_cons_self hb
      simp [first, ih, Ne.symm hb]

/-- What a search finds can be asked for after an answer as well as before it. -/
theorem bind_findSome? {α β γ : Type} (o : Option α) (l : List β) (f : α → β → Option γ) :
    (o.bind fun a => l.findSome? (f a)) = l.findSome? fun b => o.bind fun a => f a b := by
  cases o with
  | none => exact (List.findSome?_eq_none_iff.2 fun _ _ => rfl).symm
  | some a => rfl

theorem guard_bind_eq_some_iff {α : Type} {p : Prop} [Decidable p] {o : Option α} {a : α} :
    ((guard p : Option Unit).bind fun _ => o) = some a ↔ p ∧ o = some a := by
  by_cases h : p
  · have passes : (guard p : Option Unit) = some () := if_pos h
    rw [passes, Option.bind_some]
    exact (and_iff_right h).symm
  · have fails : (guard p : Option Unit) = none := if_neg h
    rw [fails]
    exact ⟨fun e => (by cases e), fun e => absurd e.1 h⟩

/-- The reader goes on only where no word does. -/
def StopsWords (next : String → List Char → Option Reading) : Prop :=
  ∀ word text, (next word text).isSome → isWordAt text.head? = false

/-- Of words, only the one can be read that a text begins with as a whole. -/
theorem oneOf_eq_of_isWord {words : List String} {next : String → List Char → Option Reading}
    (hwords : ∀ word ∈ words, ∀ c ∈ word.toList, isWord c = true) (hnext : StopsWords next)
    (text : List Char) :
    oneOf words next text = if String.ofList (text.takeWhile isWord) ∈ words
      then next (String.ofList (text.takeWhile isWord)) (text.dropWhile isWord) else none := by
  have others : ∀ word ∈ words, word ≠ String.ofList (text.takeWhile isWord) →
      (word.toList.isPrefixOf? text).bind (next word) = none := by
    intro word hword hne
    rcases e : word.toList.isPrefixOf? text with - | rest
    · rfl
    · rw [Option.bind_some, ← Option.not_isSome_iff_eq_none]
      intro some
      have cut := isPrefixOf?_eq_some_iff.1 e
      have run : text.takeWhile isWord = word.toList := by
        rw [cut]
        exact takeWhile_append_of_head? (hwords word hword) (hnext word rest some)
      exact hne (by rw [run, String.ofList_toList])
  have cut : (String.ofList (text.takeWhile isWord)).toList.isPrefixOf? text
      = some (text.dropWhile isWord) := by
    rw [isPrefixOf?_eq_some_iff, String.toList_ofList, List.takeWhile_append_dropWhile]
  rw [oneOf, findSome?_eq_of_unique others, cut, Option.bind_some]

/-- A token is read where it stands with no word character behind it. -/
theorem oneOf_typeTokens {next : String → List Char → Option Reading} (hnext : StopsWords next)
    {token : String} (ht : IsToken token) {rest : List Char}
    (hrest : isWordAt rest.head? = false) :
    oneOf typeTokens next (token.toList ++ rest) = next token rest := by
  have words : ∀ word ∈ typeTokens, ∀ c ∈ word.toList, isWord c = true :=
    fun word hword => isWord_of_mem_token (mem_typeTokens.1 hword)
  have inside := isWord_of_mem_token ht
  rw [oneOf_eq_of_isWord words hnext, takeWhile_append_of_head? inside hrest,
    dropWhile_append_of_head? inside hrest, String.ofList_toList, if_pos (mem_typeTokens.2 ht)]

/-- The trials of names can be moved outside those of tokens. -/
theorem oneOf_typeTokens_findSome? {names : List String}
    {next : String → String → List Char → Option Reading} (hnext : ∀ name, StopsWords (next name))
    (text : List Char) :
    oneOf typeTokens (fun token text => names.findSome? fun name => next name token text) text
      = names.findSome? fun name => oneOf typeTokens (next name) text := by
  have words : ∀ word ∈ typeTokens, ∀ c ∈ word.toList, isWord c = true :=
    fun word hword => isWord_of_mem_token (mem_typeTokens.1 hword)
  have together : StopsWords fun token text => names.findSome? fun name => next name token text := by
    intro word text h
    obtain ⟨name, -, found⟩ := List.findSome?_isSome_iff.1 h
    exact hnext name word text found
  rw [oneOf_eq_of_isWord words together]
  simp only [oneOf_eq_of_isWord words (hnext _)]
  split
  · rfl
  · exact (List.findSome?_eq_none_iff.2 fun _ _ => rfl).symm

/-- What the readers of a mark, blanks and a type do with some names comes down to what they do with
each of them. -/
theorem bind_afterBlanks?_findSome? {names : List String}
    {next : String → String → List Char → Option Reading} (hnext : ∀ name, StopsWords (next name))
    {read : String → List Char → Option Reading}
    (inner : ∀ token text, read token text = names.findSome? fun name => next name token text)
    (o : Option (List Char)) :
    (o.bind fun text => (afterBlanks? text).bind fun text => oneOf typeTokens read text)
      = names.findSome? fun name => o.bind fun text =>
          (afterBlanks? text).bind fun text => oneOf typeTokens (next name) text := by
  have read_eq : read = fun token text => names.findSome? fun name => next name token text := by
    funext token text
    exact inner token text
  have typed (text : List Char) : oneOf typeTokens read text
      = names.findSome? fun name => oneOf typeTokens (next name) text := by
    rw [read_eq]
    exact oneOf_typeTokens_findSome? hnext text
  have blanks (text : List Char) :
      ((afterBlanks? text).bind fun text => oneOf typeTokens read text)
        = names.findSome? fun name =>
            (afterBlanks? text).bind fun text => oneOf typeTokens (next name) text := by
    rw [← bind_findSome?]
    exact congrArg (afterBlanks? text).bind (funext typed)
  rw [← bind_findSome?]
  exact congrArg o.bind (funext blanks)

/-- A word that is read comes from the words tried, and the text begins with it. -/
theorem exists_of_oneOf {words : List String} {next : String → List Char → Option Reading}
    {text : List Char} {r : Reading} (h : oneOf words next text = some r) :
    ∃ word ∈ words, ∃ rest, text = word.toList ++ rest ∧ next word rest = some r := by
  obtain ⟨word, hword, found⟩ := List.exists_of_findSome?_eq_some h
  obtain ⟨rest, cut, found⟩ := Option.bind_eq_some_iff.1 found
  exact ⟨word, hword, rest, isPrefixOf?_eq_some_iff.1 cut, found⟩

/-! ### Reading the parts -/

theorem afterBlanks?_eq_some_iff {text rest : List Char} :
    afterBlanks? text = some rest
      ↔ ∃ gap, IsGap gap ∧ rest.head?.any isBlank = false ∧ text = gap ++ rest := by
  constructor
  · intro h
    cases text with
    | nil => cases h
    | cons c text =>
      by_cases hc : isBlank c = true
      · have hrest : text.dropWhile isBlank = rest := by simpa [afterBlanks?, hc] using h
        subst hrest
        refine ⟨c :: text.takeWhile isBlank, ⟨by simp, ?_⟩, head?_dropWhile isBlank text, by simp⟩
        intro d hd
        rcases List.mem_cons.1 hd with rfl | hd
        · exact hc
        · exact of_mem_takeWhile hd
      · simp [afterBlanks?, hc] at h
  · rintro ⟨gap, ⟨ne, blank⟩, hrest, rfl⟩
    cases gap with
    | nil => exact absurd rfl ne
    | cons c gap =>
      have hc : isBlank c = true := blank c List.mem_cons_self
      have inside : ∀ d ∈ gap, isBlank d = true := fun d hd => blank d (List.mem_cons_of_mem c hd)
      simp [afterBlanks?, hc, dropWhile_append_of_head? inside hrest]

theorem afterBlanks?_append {gap rest : List Char} (h : IsGap gap)
    (hrest : rest.head?.any isBlank = false) : afterBlanks? (gap ++ rest) = some rest :=
  afterBlanks?_eq_some_iff.2 ⟨gap, h, hrest, rfl⟩

theorem isWordAt_head?_of_afterBlanks? {text rest : List Char} (h : afterBlanks? text = some rest) :
    isWordAt text.head? = false := by
  obtain ⟨gap, hgap, -, rfl⟩ := afterBlanks?_eq_some_iff.1 h
  exact isWordAt_head?_of_isGap hgap rest

theorem afterMark?_eq_some_iff {mark : Char} {text rest : List Char} :
    afterMark? mark text = some rest ↔ text = mark :: rest := by
  cases text with
  | nil => simp [afterMark?]
  | cons c text =>
    by_cases h : c = mark <;> simp [afterMark?, h]

theorem dropPads_append {pads rest : List Char} (h : IsPadding pads)
    (hrest : rest.head?.any isPad = false) : dropPads (pads ++ rest) = rest :=
  dropWhile_append_of_head? h hrest

/-- Dropping padding drops padding. -/
theorem exists_isPadding (text : List Char) :
    ∃ pads, IsPadding pads ∧ text = pads ++ dropPads text :=
  ⟨text.takeWhile isPad, fun _ hc => of_mem_takeWhile hc, by simp [dropPads]⟩

theorem dropSigil_append {sigil : Bool} {word : List Char} (h : isWordAt word.head? = true) :
    dropSigil ((if sigil then ['$'] else []) ++ word) = word := by
  cases sigil with
  | true => rfl
  | false =>
    have first : word.head? ≠ some '$' := by
      intro e
      rw [e, isWordAt_some, isWord_dollar] at h
      cases h
    show dropSigil word = word
    unfold dropSigil
    split
    · simp at first
    · rfl

theorem exists_sigil (text : List Char) :
    ∃ sigil : Bool, text = (if sigil then ['$'] else []) ++ dropSigil text := by
  unfold dropSigil
  split
  · exact ⟨true, rfl⟩
  · exact ⟨false, rfl⟩

theorem dropOptional?_append {remark : Option (List Char × List Char)} {rest : List Char}
    (h : ∀ pads ∈ remark, IsPadding pads.1 ∧ IsPadding pads.2) :
    dropOptional? (Layout.remarkText remark ++ ')' :: rest) = some (')' :: rest) := by
  cases remark with
  | none => rfl
  | some pads =>
    obtain ⟨first, second⟩ := h pads rfl
    have inner : dropPads (pads.1 ++ (['o', 'p', 't', 'i', 'o', 'n', 'a', 'l']
          ++ (pads.2 ++ ')' :: rest)))
        = ['o', 'p', 't', 'i', 'o', 'n', 'a', 'l'] ++ (pads.2 ++ ')' :: rest) :=
      dropPads_append first rfl
    have cut : Layout.remarkText (some pads) ++ ')' :: rest = ',' :: (pads.1
        ++ (['o', 'p', 't', 'i', 'o', 'n', 'a', 'l'] ++ (pads.2 ++ ')' :: rest))) := by
      simp [Layout.remarkText]
    rw [cut, dropOptional?, inner, isPrefixOf?_append]
    exact congrArg some (dropPads_append second rfl)

theorem exists_of_dropOptional? {text rest : List Char} (h : dropOptional? text = some rest) :
    ∃ remark, (∀ pads ∈ remark, IsPadding pads.1 ∧ IsPadding pads.2)
      ∧ text = Layout.remarkText remark ++ rest := by
  unfold dropOptional? at h
  split at h
  · rename_i text
    obtain ⟨tail, word, e⟩ := Option.bind_eq_some_iff.1 h
    have e : dropPads tail = rest := Option.some.inj e
    obtain ⟨pads, hpads, cut⟩ := exists_isPadding text
    obtain ⟨pads', hpads', cut'⟩ := exists_isPadding tail
    refine ⟨some (pads, pads'), ?_, ?_⟩
    · rintro _ ⟨⟩
      exact ⟨hpads, hpads'⟩
    · rw [isPrefixOf?_eq_some_iff.1 word, cut', e] at cut
      simp [cut, Layout.remarkText]
  · exact ⟨none, by simp, by simpa [Layout.remarkText] using h⟩

/-- Of tokens, one is read if it stands there with no word character behind it. -/
theorem oneOf_typeTokens_eq_some_iff {next : String → List Char → Option Reading}
    (hnext : StopsWords next) {text : List Char} {r : Reading} :
    oneOf typeTokens next text = some r
      ↔ ∃ token rest, IsToken token ∧ text = token.toList ++ rest ∧ next token rest = some r := by
  constructor
  · intro h
    obtain ⟨token, htoken, rest, cut, found⟩ := exists_of_oneOf h
    exact ⟨token, rest, mem_typeTokens.1 htoken, cut, found⟩
  · rintro ⟨token, rest, htoken, rfl, found⟩
    rw [oneOf_typeTokens hnext htoken (hnext token rest (by rw [found]; rfl)), found]

/-! ### Readers that know one name -/

section Name

variable {text : List Char}

/-- What follows the type in phpdoc style, for one name. -/
def phpdocName? (name token : String) (text : List Char) : Option Reading := do
  let text ← afterBlanks? text
  let text := dropSigil text
  guard (isWordAt text.head?)
  let rest ← name.toList.isPrefixOf? text
  guard (isBoundary name.toList.getLast? rest.head?)
  return ⟨token, name, rest⟩

theorem stopsWords_phpdocName? (name : String) : StopsWords (phpdocName? name) := by
  intro token text h
  obtain ⟨r, h⟩ := Option.isSome_iff_exists.1 h
  obtain ⟨rest, blanks, -⟩ := Option.bind_eq_some_iff.1 h
  exact isWordAt_head?_of_afterBlanks? blanks

theorem phpdoc?_eq (names : List String) (text : List Char) :
    phpdoc? names text = names.findSome? fun name =>
      (['@', 'p', 'a', 'r', 'a', 'm'].isPrefixOf? text).bind fun text =>
        (afterBlanks? text).bind fun text => oneOf typeTokens (phpdocName? name) text := by
  have inner (token : String) (text : List Char) :
      ((afterBlanks? text).bind fun text =>
        (guard (isWordAt (dropSigil text).head?) : Option Unit).bind fun _ =>
          oneOf names (fun name rest => do
            guard (isBoundary name.toList.getLast? rest.head?)
            return ⟨token, name, rest⟩) (dropSigil text))
        = names.findSome? fun name => phpdocName? name token text := by
    refine Eq.trans (congrArg (afterBlanks? text).bind (funext fun text => ?_))
      (bind_findSome? (afterBlanks? text) names _)
    exact bind_findSome? _ names _
  exact bind_afterBlanks?_findSome? stopsWords_phpdocName? inner _

theorem phpdocName?_eq_some_iff {name token : String} {r : Reading} :
    phpdocName? name token text = some r ↔ ∃ gap' : List Char, ∃ sigil : Bool, IsGap gap'
      ∧ text = gap' ++ ((if sigil then ['$'] else []) ++ (name.toList ++ r.rest))
      ∧ isWordAt (name.toList ++ r.rest).head? = true
      ∧ isBoundary name.toList.getLast? r.rest.head? = true ∧ r = ⟨token, name, r.rest⟩ := by
  constructor
  · intro h
    obtain ⟨tail, blanks, h⟩ := Option.bind_eq_some_iff.1 h
    obtain ⟨edge, h⟩ := guard_bind_eq_some_iff.1 h
    obtain ⟨rest, word, h⟩ := Option.bind_eq_some_iff.1 h
    obtain ⟨close, h⟩ := guard_bind_eq_some_iff.1 h
    obtain rfl := Option.some.inj h
    obtain ⟨gap', hgap', -, rfl⟩ := afterBlanks?_eq_some_iff.1 blanks
    obtain ⟨sigil, cut⟩ := exists_sigil tail
    rw [isPrefixOf?_eq_some_iff] at word
    rw [word] at cut edge
    exact ⟨gap', sigil, hgap', by rw [cut], edge, close, rfl⟩
  · rintro ⟨gap', sigil, hgap', rfl, edge, close, hr⟩
    rw [phpdocName?, afterBlanks?_append hgap' (Layout.any_isBlank_sigil sigil edge)]
    refine guard_bind_eq_some_iff.2 ?_
    rw [dropSigil_append edge]
    refine ⟨edge, ?_⟩
    rw [isPrefixOf?_append]
    exact guard_bind_eq_some_iff.2 ⟨close, congrArg some hr.symm⟩

/-- What follows the type in sphinx style, for one name. -/
def sphinxName? (name token : String) (text : List Char) : Option Reading := do
  let text ← afterBlanks? text
  guard (isWordAt text.head?)
  let text ← name.toList.isPrefixOf? text
  let rest ← afterMark? ':' (text.dropWhile isBlank)
  return ⟨token, name, rest⟩

theorem stopsWords_sphinxName? (name : String) : StopsWords (sphinxName? name) := by
  intro token text h
  obtain ⟨r, h⟩ := Option.isSome_iff_exists.1 h
  obtain ⟨rest, blanks, -⟩ := Option.bind_eq_some_iff.1 h
  exact isWordAt_head?_of_afterBlanks? blanks

theorem sphinx?_eq (names : List String) (text : List Char) :
    sphinx? names text = names.findSome? fun name =>
      ([':', 'p', 'a', 'r', 'a', 'm'].isPrefixOf? text).bind fun text =>
        (afterBlanks? text).bind fun text => oneOf typeTokens (sphinxName? name) text := by
  have inner (token : String) (text : List Char) :
      ((afterBlanks? text).bind fun text =>
        (guard (isWordAt text.head?) : Option Unit).bind fun _ =>
          oneOf names (fun name text => do
            let rest ← afterMark? ':' (text.dropWhile isBlank)
            return ⟨token, name, rest⟩) text)
        = names.findSome? fun name => sphinxName? name token text := by
    refine Eq.trans (congrArg (afterBlanks? text).bind (funext fun text => ?_))
      (bind_findSome? (afterBlanks? text) names _)
    exact bind_findSome? _ names _
  exact bind_afterBlanks?_findSome? stopsWords_sphinxName? inner _

theorem sphinxName?_eq_some_iff {name token : String} {r : Reading} :
    sphinxName? name token text = some r ↔ ∃ gap' blanks : List Char, IsGap gap'
      ∧ (∀ c ∈ blanks, isBlank c = true)
      ∧ text = gap' ++ (name.toList ++ (blanks ++ ':' :: r.rest))
      ∧ isWordAt (name.toList ++ (blanks ++ ':' :: r.rest)).head? = true
      ∧ r = ⟨token, name, r.rest⟩ := by
  constructor
  · intro h
    obtain ⟨tail, gap, h⟩ := Option.bind_eq_some_iff.1 h
    obtain ⟨edge, h⟩ := guard_bind_eq_some_iff.1 h
    obtain ⟨tail', word, h⟩ := Option.bind_eq_some_iff.1 h
    obtain ⟨rest, mark, h⟩ := Option.bind_eq_some_iff.1 h
    obtain rfl := Option.some.inj h
    obtain ⟨gap', hgap', -, rfl⟩ := afterBlanks?_eq_some_iff.1 gap
    rw [afterMark?_eq_some_iff] at mark
    have cut : tail' = tail'.takeWhile isBlank ++ ':' :: rest := by
      rw [← mark, List.takeWhile_append_dropWhile]
    rw [isPrefixOf?_eq_some_iff, cut] at word
    rw [word] at edge
    exact ⟨gap', tail'.takeWhile isBlank, hgap', fun _ hc => of_mem_takeWhile hc, by rw [word],
      edge, rfl⟩
  · rintro ⟨gap', blanks, hgap', hblanks, rfl, edge, hr⟩
    rw [sphinxName?, afterBlanks?_append hgap' (any_isBlank_of_isWordAt edge)]
    refine guard_bind_eq_some_iff.2 ⟨edge, ?_⟩
    have colon : (':' :: r.rest).head?.any isBlank = false := (by decide : isBlank ':' = false)
    rw [isPrefixOf?_append, Option.bind_eq_bind, Option.bind_some,
      dropWhile_append_of_head? hblanks colon]
    exact congrArg some hr.symm

/-- What follows the type in google style. -/
def googleEnd? (name token : String) (text : List Char) : Option Reading := do
  let text ← dropOptional? (dropPads text)
  let text ← afterMark? ')' text
  let rest ← afterMark? ':' (dropPads text)
  return ⟨token, name, rest⟩

theorem isWordAt_head?_dropPads {text : List Char} (h : isWordAt (dropPads text).head? = false) :
    isWordAt text.head? = false := by
  obtain ⟨pads, hpads, cut⟩ := exists_isPadding text
  rw [cut]
  exact isWordAt_head?_of_isPadding hpads h

theorem stopsWords_googleEnd? (name : String) : StopsWords (googleEnd? name) := by
  intro token text h
  have marks : isWord ',' = false ∧ isWord ')' = false := by decide +kernel
  obtain ⟨r, h⟩ := Option.isSome_iff_exists.1 h
  obtain ⟨rest, optional, h⟩ := Option.bind_eq_some_iff.1 h
  obtain ⟨rest', mark, -⟩ := Option.bind_eq_some_iff.1 h
  rw [afterMark?_eq_some_iff] at mark
  obtain ⟨remark, -, cut⟩ := exists_of_dropOptional? optional
  apply isWordAt_head?_dropPads
  rw [cut, mark]
  cases remark with
  | none => simp [Layout.remarkText, marks]
  | some pads => simp [Layout.remarkText, marks]

theorem googleEnd?_eq_some_iff {name token : String} {r : Reading} :
    googleEnd? name token text = some r ↔ ∃ (pad'' : List Char)
      (remark : Option (List Char × List Char)) (last : List Char), IsPadding pad''
      ∧ (∀ pads ∈ remark, IsPadding pads.1 ∧ IsPadding pads.2) ∧ IsPadding last
      ∧ text = pad'' ++ (Layout.remarkText remark ++ ')' :: (last ++ ':' :: r.rest))
      ∧ r = ⟨token, name, r.rest⟩ := by
  constructor
  · intro h
    obtain ⟨tail, optional, h⟩ := Option.bind_eq_some_iff.1 h
    obtain ⟨tail', mark, h⟩ := Option.bind_eq_some_iff.1 h
    obtain ⟨rest, mark', h⟩ := Option.bind_eq_some_iff.1 h
    obtain rfl := Option.some.inj h
    rw [afterMark?_eq_some_iff] at mark mark'
    obtain ⟨remark, hremark, cut⟩ := exists_of_dropOptional? optional
    obtain ⟨pad'', hpad'', cut''⟩ := exists_isPadding text
    obtain ⟨last, hlast, cut'⟩ := exists_isPadding tail'
    refine ⟨pad'', remark, last, hpad'', hremark, hlast, ?_, rfl⟩
    rw [cut'', cut, mark, cut', mark']
  · rintro ⟨pad'', remark, last, hpad'', hremark, hlast, rfl, hr⟩
    have mark : (Layout.remarkText remark ++ ')' :: (last ++ ':' :: r.rest)).head?.any isPad
        = false := by
      cases remark <;> rfl
    have colon : (':' :: r.rest).head?.any isPad = false := rfl
    rw [googleEnd?, dropPads_append hpad'' mark, dropOptional?_append hremark]
    show (afterMark? ':' (dropPads (last ++ ':' :: r.rest))).bind _ = _
    rw [dropPads_append hlast colon]
    exact congrArg some hr.symm

/-- What a reader of google style does with one name. -/
def googleName? (name : String) (text : List Char) : Option Reading := do
  let text := dropPads text
  guard (isWordAt text.head?)
  let text ← name.toList.isPrefixOf? text
  let text ← afterMark? '(' (dropPads text)
  oneOf typeTokens (googleEnd? name) (dropPads text)

theorem google?_eq (names : List String) (text : List Char) :
    google? names text = names.findSome? fun name => googleName? name text := by
  have inner : google? names text
      = (guard (isWordAt (dropPads text).head?) : Option Unit).bind fun _ =>
        oneOf names (fun name text => do
          let text ← afterMark? '(' (dropPads text)
          oneOf typeTokens (googleEnd? name) (dropPads text)) (dropPads text) := rfl
  rw [inner]
  exact bind_findSome? _ names _

end Name

/-! ### Readers and layouts -/

section Leads

variable {before : Option Char} {text : List Char} {name : String} {r : Reading}

theorem phpdoc?_singleton_iff :
    phpdoc? [name] text = some r ↔ ∃ l : Layout, l.style = .phpdoc ∧ l.name = name
      ∧ l.Leads before text r.rest ∧ r = ⟨l.token, name, r.rest⟩ := by
  rw [phpdoc?_eq, List.findSome?_singleton]
  constructor
  · intro h
    obtain ⟨tail, mark, h⟩ := Option.bind_eq_some_iff.1 h
    obtain ⟨tail', blanks, h⟩ := Option.bind_eq_some_iff.1 h
    obtain ⟨token, tail'', htoken, rfl, found⟩ :=
      (oneOf_typeTokens_eq_some_iff (stopsWords_phpdocName? name)).1 h
    obtain ⟨gap', sigil, hgap', rfl, edge, close, hr⟩ := phpdocName?_eq_some_iff.1 found
    obtain ⟨gap, hgap, -, rfl⟩ := afterBlanks?_eq_some_iff.1 blanks
    rw [isPrefixOf?_eq_some_iff] at mark
    refine ⟨.phpdoc gap token gap' sigil name, rfl, rfl, ⟨⟨htoken, hgap, hgap'⟩, ?_, edge,
      fun _ => close, fun h => (by cases h)⟩, hr⟩
    simp [mark, Layout.text, Layout.opening, Layout.closing, Layout.name]
  · rintro ⟨l, hs, rfl, h, hr⟩
    cases l with
    | sphinx | google => cases hs
    | phpdoc gap token gap' sigil name =>
      obtain ⟨htoken, hgap, hgap'⟩ := h.regular
      have cut : text = ['@', 'p', 'a', 'r', 'a', 'm'] ++ (gap ++ (token.toList ++ (gap'
          ++ ((if sigil then ['$'] else []) ++ (name.toList ++ r.rest))))) := by
        rw [h.written]
        simp [Layout.text, Layout.opening, Layout.closing, Layout.name]
      rw [cut, isPrefixOf?_append, Option.bind_some, afterBlanks?_append hgap
        (any_isBlank_of_isWordAt (isWordAt_head?_token htoken _)), Option.bind_some]
      exact (oneOf_typeTokens_eq_some_iff (stopsWords_phpdocName? name)).2
        ⟨token, _, htoken, rfl, phpdocName?_eq_some_iff.2
          ⟨gap', sigil, hgap', rfl, h.edge, h.close rfl, hr⟩⟩

theorem sphinx?_singleton_iff :
    sphinx? [name] text = some r ↔ ∃ l : Layout, l.style = .sphinx ∧ l.name = name
      ∧ l.Leads before text r.rest ∧ r = ⟨l.token, name, r.rest⟩ := by
  rw [sphinx?_eq, List.findSome?_singleton]
  constructor
  · intro h
    obtain ⟨tail, mark, h⟩ := Option.bind_eq_some_iff.1 h
    obtain ⟨tail', blanks, h⟩ := Option.bind_eq_some_iff.1 h
    obtain ⟨token, tail'', htoken, rfl, found⟩ :=
      (oneOf_typeTokens_eq_some_iff (stopsWords_sphinxName? name)).1 h
    obtain ⟨gap', blanks', hgap', hblanks', rfl, edge, hr⟩ := sphinxName?_eq_some_iff.1 found
    obtain ⟨gap, hgap, -, rfl⟩ := afterBlanks?_eq_some_iff.1 blanks
    rw [isPrefixOf?_eq_some_iff] at mark
    refine ⟨.sphinx gap token gap' name blanks', rfl, rfl, ⟨⟨htoken, hgap, hgap', hblanks'⟩, ?_, ?_,
      fun h => (by cases h), fun h => (by cases h)⟩, hr⟩
    · simp [mark, Layout.text, Layout.opening, Layout.closing, Layout.name]
    · simpa [Layout.closing, Layout.name] using edge
  · rintro ⟨l, hs, rfl, h, hr⟩
    cases l with
    | phpdoc | google => cases hs
    | sphinx gap token gap' name blanks =>
      obtain ⟨htoken, hgap, hgap', hblanks⟩ := h.regular
      have cut : text = [':', 'p', 'a', 'r', 'a', 'm'] ++ (gap ++ (token.toList ++ (gap'
          ++ (name.toList ++ (blanks ++ ':' :: r.rest))))) := by
        rw [h.written]
        simp [Layout.text, Layout.opening, Layout.closing, Layout.name]
      have edge : isWordAt (name.toList ++ (blanks ++ ':' :: r.rest)).head? = true := by
        simpa [Layout.closing, Layout.name] using h.edge
      rw [cut, isPrefixOf?_append, Option.bind_some, afterBlanks?_append hgap
        (any_isBlank_of_isWordAt (isWordAt_head?_token htoken _)), Option.bind_some]
      exact (oneOf_typeTokens_eq_some_iff (stopsWords_sphinxName? name)).2
        ⟨token, _, htoken, rfl, sphinxName?_eq_some_iff.2
          ⟨gap', blanks, hgap', hblanks, rfl, edge, hr⟩⟩

theorem google?_singleton_iff (lineStart : atLineStart before = true) :
    google? [name] text = some r ↔ ∃ l : Layout, l.style = .google ∧ l.name = name
      ∧ l.Leads before text r.rest ∧ r = ⟨l.token, name, r.rest⟩ := by
  rw [google?_eq, List.findSome?_singleton]
  constructor
  · intro h
    obtain ⟨edge, h⟩ := guard_bind_eq_some_iff.1 h
    obtain ⟨tail, word, h⟩ := Option.bind_eq_some_iff.1 h
    obtain ⟨tail', mark, h⟩ := Option.bind_eq_some_iff.1 h
    obtain ⟨token, tail'', htoken, cut, h⟩ :=
      (oneOf_typeTokens_eq_some_iff (stopsWords_googleEnd? name)).1 h
    obtain ⟨pad'', remark, last, hpad'', hremark, hlast, rfl, hr⟩ := googleEnd?_eq_some_iff.1 h
    obtain ⟨margin, hmargin, text_eq⟩ := exists_isPadding text
    obtain ⟨pad, hpad, tail_eq⟩ := exists_isPadding tail
    obtain ⟨pad', hpad', tail'_eq⟩ := exists_isPadding tail'
    rw [isPrefixOf?_eq_some_iff] at word
    rw [afterMark?_eq_some_iff] at mark
    have closing_eq : tail = (Layout.google margin name pad pad' token pad'' remark last).closing
        ++ r.rest := by
      rw [tail_eq, mark, tail'_eq, cut]
      simp [Layout.closing]
    -- what was read is put together to a layout
    refine ⟨.google margin name pad pad' token pad'' remark last, rfl, rfl,
      ⟨⟨htoken, hmargin, hpad, hpad', hpad'', hremark, hlast⟩, ?_, ?_, fun h => (by cases h),
        fun _ => lineStart⟩, hr⟩
    · rw [text_eq, word, closing_eq]
      simp [Layout.text, Layout.opening, Layout.name]
    · rw [word, closing_eq] at edge
      exact edge
  · rintro ⟨l, hs, rfl, h, hr⟩
    cases l with
    | phpdoc | sphinx => cases hs
    | google margin name pad pad' token pad'' remark last =>
      obtain ⟨htoken, hmargin, hpad, hpad', hpad'', hremark, hlast⟩ := h.regular
      have inner : text = margin ++ (name.toList
          ++ ((Layout.google margin name pad pad' token pad'' remark last).closing ++ r.rest)) := by
        rw [h.written]
        simp [Layout.text, Layout.opening, Layout.name]
      have closing_eq : (Layout.google margin name pad pad' token pad'' remark last).closing ++ r.rest
          = pad ++ '(' :: (pad' ++ (token.toList ++ (pad'' ++ (Layout.remarkText remark
            ++ ')' :: (last ++ ':' :: r.rest))))) := by
        simp [Layout.closing]
      have dropped : dropPads text = name.toList
          ++ ((Layout.google margin name pad pad' token pad'' remark last).closing ++ r.rest) := by
        rw [inner]
        exact dropPads_append hmargin (any_isPad_of_isWordAt h.edge)
      -- the reader gets past the parts of the layout, one after the other
      refine guard_bind_eq_some_iff.2 ?_
      rw [dropped]
      refine ⟨h.edge, ?_⟩
      show ((name.toList.isPrefixOf? _).bind _) = _
      rw [isPrefixOf?_append, Option.bind_some, closing_eq, dropPads_append hpad rfl]
      show oneOf typeTokens (googleEnd? name) (dropPads (pad' ++ _)) = _
      rw [dropPads_append hpad' (any_isPad_of_isWordAt (isWordAt_head?_token htoken _))]
      exact (oneOf_typeTokens_eq_some_iff (stopsWords_googleEnd? name)).2
        ⟨token, _, htoken, rfl, googleEnd?_eq_some_iff.2
          ⟨pad'', remark, last, hpad'', hremark, hlast, rfl, hr⟩⟩

end Leads

end Reading

/-- A reader tries the names one by one. -/
theorem Style.read?_eq_findSome? (style : Style) (names : List String) (before : Option Char)
    (text : List Char) :
    style.read? names before text = names.findSome? fun name => style.read? [name] before text := by
  cases style with
  | phpdoc => simp [Style.read?, Reading.phpdoc?_eq]
  | sphinx => simp [Style.read?, Reading.sphinx?_eq]
  | google =>
    by_cases h : atLineStart before = true
    · simp [Style.read?, Reading.google?_eq, h]
    · simpa [Style.read?, h] using (List.findSome?_eq_none_iff.2 fun _ _ => rfl).symm

/-- A reader that knows one name accepts exactly the layouts of this name. -/
theorem Style.read?_singleton_iff {style : Style} {name : String} {before : Option Char}
    {text : List Char} {r : Reading} : style.read? [name] before text = some r
      ↔ ∃ l : Layout, l.style = style ∧ l.name = name ∧ l.Leads before text r.rest
        ∧ r = ⟨l.token, name, r.rest⟩ := by
  cases style with
  | phpdoc => exact Reading.phpdoc?_singleton_iff
  | sphinx => exact Reading.sphinx?_singleton_iff
  | google =>
    by_cases h : atLineStart before = true
    · rw [Style.read?, if_pos h]
      exact Reading.google?_singleton_iff h
    · rw [Style.read?, if_neg h]
      refine ⟨fun e => (by cases e), ?_⟩
      rintro ⟨l, hs, -, leads, -⟩
      exact absurd (leads.lineStart hs) h

end DocGuard

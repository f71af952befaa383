import DocGuard.Text.Digit
import DocGuard.Text.Letter.Form
import DocGuard.Text.Letter.Kind
import DocGuard.Text.Word
/-!
Letters, and texts in large or small letters.

What a character is follows from the tables of `DocGuard.Text.Letter.Kind`, and its forms from those
of `DocGuard.Text.Letter.Form`. The small form of one letter depends on where it stands: a sigma at
the end of a word has a form of its own.
-/

namespace DocGuard.Text

/-! ### Kinds -/

/-- The character is in one of the runs. -/
def inRuns (runs : List Stride) (c : Char) : Bool :=
  runs.any fun run => run.holds c.toNat

/-- The character is a large letter. -/
def isLarge (c : Char) : Bool :=
  if c.toNat < 0x80 then c.isUpper else inRuns largeLetters c

/-- The character is a small letter. -/
def isSmall (c : Char) : Bool :=
  if c.toNat < 0x80 then c.isLower else inRuns smallLetters c

/-- The character is the form that begins a word, of a letter with a large form besides. -/
def isTitle (c : Char) : Bool :=
  c.toNat ≥ 0x80 && inRuns titleLetters c

/-- The character has a large and a small form. -/
def isCased (c : Char) : Bool :=
  isLarge c || isSmall c || isTitle c

/-- The character is passed over when it is asked what stands before or behind a letter. -/
def isPassed (c : Char) : Bool :=
  inRuns passedLetters c

/-- The character is a letter or has the value of a number. -/
def isAlphanumeric (c : Char) : Bool :=
  isWord c && c != '_'

/-- The character is a letter. -/
def isLetter (c : Char) : Bool :=
  isAlphanumeric c && !inRuns numberSigns c

/-- The character is a decimal digit. -/
def isDecimal (c : Char) : Bool :=
  (digit? c).isSome

/-- The character has the value of a digit. -/
def isDigit (c : Char) : Bool :=
  isDecimal c || inRuns raisedDigits c

/-- The character has the value of a number. -/
def isNumeric (c : Char) : Bool :=
  inRuns numberSigns c || inRuns numberLetters c

/-- The character can begin a name. -/
def beginsName (c : Char) : Bool :=
  if c.toNat < 0x80 then c.isAlpha || c == '_'
  else (isLetter c && !inRuns namelessLetters c) || inRuns nameSigns c

/-- The character can stand in a name. -/
def inName (c : Char) : Bool :=
  beginsName c || c.isDigit || (c.toNat ≥ 0x80 && inRuns nameMarks c)

/-- The text can be a name. -/
def isName : List Char → Bool
  | [] => false
  | c :: rest => beginsName c && rest.all inName

/-! ### Forms -/

/-- The form that some tables give for a character. -/
def formIn? (runs : List CaseRun) (groups : List (Nat × List Nat)) (c : Char) :
    Option (List Char) :=
  let n := c.toNat
  let run := runs.find? fun r =>
    r.first ≤ n && n ≤ r.first + (r.count - 1) * r.step && (n - r.first) % r.step == 0
  match run, groups.lookup n with
  | some r, _ => some [Char.ofNat (r.form + (n - r.first))]
  | none, some group => some (group.map Char.ofNat)
  | none, none => none

/-- The large form of a character. -/
def largeForm (c : Char) : List Char :=
  if c.toNat < 0x80 then [c.toUpper] else (formIn? largeRuns largeGroups c).getD [c]

/-- The small form of a character that stands alone. -/
def smallForm (c : Char) : List Char :=
  if c.toNat < 0x80 then [c.toLower] else (formIn? smallRuns smallGroups c).getD [c]

/-- The form of a character that begins a word. -/
def titleForm (c : Char) : List Char :=
  if c.toNat < 0x80 then [c.toUpper] else (formIn? titleRuns titleGroups c).getD (largeForm c)

/-- The form of a character in which texts are compared. -/
def foldForm (c : Char) : List Char :=
  if c.toNat < 0x80 then [c.toLower] else (formIn? foldRuns foldGroups c).getD (smallForm c)

/-- The large sigma. -/
def sigma : Char := Char.ofNat 0x3a3

/-- The first character that is not passed over has a large and a small form. -/
def meetsCased (text : List Char) : Bool :=
  ((text.dropWhile isPassed).head?).any isCased

/-- The small form of a character between two pieces of text; the first is read backwards. -/
def smallFormBetween (before : List Char) (c : Char) (after : List Char) : List Char :=
  if c = sigma then
    [Char.ofNat (if meetsCased before && !meetsCased after then 0x3c2 else 0x3c3)]
  else smallForm c

/-- Replaces each character by what `form` makes of it between what stands before it, read
backwards, and what stands behind it. -/
def mapBetween (form : List Char → Char → List Char → List Char) (before : List Char) :
    List Char → List Char
  | [] => []
  | c :: rest => form before c rest ++ mapBetween form (c :: before) rest

/-- The text in large letters. -/
def large (text : List Char) : List Char :=
  text.flatMap largeForm

/-- The text in small letters. -/
def small (text : List Char) : List Char :=
  mapBetween smallFormBetween [] text

/-- The text in the form in which texts are compared. -/
def folded (text : List Char) : List Char :=
  text.flatMap foldForm

/-- The text with a letter that begins a word at its beginning, and small letters behind it. -/
def capitalized (text : List Char) : List Char :=
  mapBetween (fun before c after =>
    if before.isEmpty then titleForm c else smallFormBetween before c after) [] text

/-- The text with large letters small and small letters large. -/
def swapped (text : List Char) : List Char :=
  mapBetween (fun before c after =>
    if isLarge c then smallFormBetween before c after
    else if isSmall c then largeForm c
    else [c]) [] text

/-- The text as a title: each word begins with the form for that. -/
def titled (text : List Char) : List Char :=
  mapBetween (fun before c after =>
    if before.head?.any isCased then smallFormBetween before c after else titleForm c) [] text

/-! ### Texts -/

/-- The text has a character, and all of its characters are such. -/
def eachIs (kind : Char → Bool) (text : List Char) : Bool :=
  !text.isEmpty && text.all kind

/-- The text has large letters, and no others of two forms. -/
def allLarge (text : List Char) : Bool :=
  text.any isLarge && !text.any fun c => isSmall c || isTitle c

/-- The text has small letters, and no others of two forms. -/
def allSmall (text : List Char) : Bool :=
  text.any isSmall && !text.any fun c => isLarge c || isTitle c

/-- Small letters stand behind letters and other letters do not; `inside` tells whether what stands
before the text is a letter. -/
def inTitleOrder (inside : Bool) : List Char → Bool
  | [] => true
  | c :: rest =>
    if isLarge c || isTitle c then !inside && inTitleOrder true rest
    else if isSmall c then inside && inTitleOrder true rest
    else inTitleOrder false rest

/-- The text has words, and all of them begin as in a title. -/
def isTitled (text : List Char) : Bool :=
  text.any isCased && inTitleOrder false text

end DocGuard.Text

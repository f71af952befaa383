import DocGuard.Text.Normal.Accent
import DocGuard.Text.Normal.Variant
/-!
One spelling for each name.

Some characters are variants of others: letters of mathematical alphabets, wide and raised letters,
joined letters. A name spelled with them is the same name as the one spelled with the letters they
stand for, and an accent written after a letter makes the accented letter. `normalForm` is the
spelling that all of these share: variants are replaced, letters and accents are taken apart, the
accents of each letter are put in order, and letters and accents are joined again.
-/

namespace DocGuard.Text

/-- The characters that a character stands for, each letter apart from its accents. A letter that
was joined to an accent can be a variant of another one too. -/
def taken (c : Char) : List Char :=
  if c.toNat < 0x80 then [c] else ((plainForm c).flatMap (apart 4)).flatMap plainForm

/-- Puts an accent behind those accents, read backwards, that it may not stand before. -/
def putAccent (accent : Char) : List Char → List Char
  | [] => [accent]
  | c :: rest =>
    if accentClass accent < accentClass c then c :: putAccent accent rest else accent :: c :: rest

/-- The text, read so far and backwards, with the accents of each letter in order. -/
def orderedFrom (read : List Char) : List Char → List Char
  | [] => read.reverse
  | c :: rest =>
    if accentClass c = 0 then orderedFrom (c :: read) rest else orderedFrom (putAccent c read) rest

/-- Joins accents to the letter before them. What stands behind that letter and could not be joined
is kept in `passed`, backwards; it blocks accents of the same place, and later letters if there is
any. -/
def joinedFrom (letter : Char) (passed : List Char) : List Char → List Char
  | [] => letter :: passed.reverse
  | c :: rest =>
    let blocked := match passed with
      | [] => false
      | last :: _ => accentClass c ≤ accentClass last
    match if blocked then none else joined? letter c with
    | some both => joinedFrom both passed rest
    | none =>
      if accentClass c = 0 then letter :: passed.reverse ++ joinedFrom c [] rest
      else joinedFrom letter (c :: passed) rest

/-- The text with letters and accents joined. -/
def composed (text : List Char) : List Char :=
  match text with
  | [] => []
  | c :: rest => joinedFrom c [] rest

/-- The spelling that all spellings of a name share. -/
def normalForm (name : String) : String :=
  if name.toList.all fun c => c.toNat < 0x80 then name
  else String.ofList (composed (orderedFrom [] (name.toList.flatMap taken)))

end DocGuard.Text

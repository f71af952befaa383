import DocGuard.Sorting
import DocGuard.Text.Quoted
/-!
Tag styles, and the options of a check.

A check is told which styles of tag count and what to do about a mismatch. Both are given by name,
so both can be wrong; `OptionError` holds every way in which they can, and `OptionError.message`
the wording.
-/

namespace DocGuard

/-- The styles in which documentation declares the type of a parameter. -/
inductive Style where
  /-- A tag `@param int $age`, with the sigil or without. -/
  | phpdoc
  /-- A field `:param int age:`. -/
  | sphinx
  /-- An entry `age (int):` of an argument section. -/
  | google
deriving DecidableEq, Repr

/-- What follows a mismatch. -/
inductive OnMismatch where
  /-- The check fails. -/
  | fail
  /-- The check warns and goes on. -/
  | warn
deriving DecidableEq, Repr

/-- Why the options of a check are refused. -/
inductive OptionError where
  /-- No style is given. -/
  | noStyle
  /-- Some of the names given are no styles. -/
  | unknownStyles (names : List String)
  /-- No parameter name is given. -/
  | noName
  /-- The reaction to a mismatch has no meaning. -/
  | unknownReaction (given : Option String)
deriving DecidableEq, Repr

namespace Style

/-- All styles, in the order in which they are tried unless a check says otherwise. -/
def all : List Style := [phpdoc, sphinx, google]

/-- The name of a style. -/
def name : Style → String
  | phpdoc => "phpdoc"
  | sphinx => "sphinx"
  | google => "google"

/-- The style of a name. -/
def ofName? (name : String) : Option Style :=
  all.find? fun style => style.name == name

theorem ofName?_name (style : Style) : ofName? style.name = some style := by
  cases style <;> decide

theorem name_of_ofName? {name : String} {style : Style} (h : ofName? name = some style) :
    style.name = name := by
  simpa using List.find?_some h

/-- The distinct styles named, in the order of their first mention. At least one is needed, and
every name has to be known; the names that are not are reported in increasing order. -/
def ofNames (names : List String) : Except OptionError (List Style) :=
  let distinct := names.eraseDups
  let unknown := distinct.filter fun name => (ofName? name).isNone
  if distinct.isEmpty then .error .noStyle
  else if unknown.isEmpty then .ok (distinct.filterMap ofName?)
  else .error (.unknownStyles (sortStrings unknown))

end Style

namespace OnMismatch

/-- The name of a reaction. -/
def name : OnMismatch → String
  | fail => "raise"
  | warn => "warn"

/-- The reaction of a name, which may be missing. -/
def ofName (given : Option String) : Except OptionError OnMismatch :=
  if given = some fail.name then .ok fail
  else if given = some warn.name then .ok warn
  else .error (.unknownReaction given)

end OnMismatch

/-- The wording of a refusal. -/
def OptionError.message : OptionError → String
  | .noStyle => "at least one docstring style required"
  | .unknownStyles names =>
    "unknown docstring style(s): " ++ Text.quotedList names ++ ", expected any of "
      ++ Text.quotedList (Style.all.map Style.name)
  | .noName => "param_pattern: at least one parameter name required"
  | .unknownReaction given =>
    "on_error must be 'raise' or 'warn', got " ++ (given.map Text.quoted).getD "None"

end DocGuard

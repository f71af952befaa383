import DocGuard.Section
import DocGuard.Tag.Scan
import DocGuard.Value.Basic
/-!
Documented parameters and the arguments supplied for them.

A finding pairs a tag of the documentation with the argument in the place of the parameter it
names. Tags that name no parameter with an argument give no finding, and an entry in google style
counts only inside an argument section. Findings come in the order of the tags.
-/

namespace DocGuard

/-- A documented parameter for which an argument was supplied. -/
structure Finding where
  /-- The name of the parameter. -/
  name : String
  /-- The type that the documentation declares. -/
  expected : String
  /-- The type of the argument. -/
  actual : String
  /-- The place of the parameter among the formal parameters. -/
  position : Nat
deriving DecidableEq, Repr

namespace Finding

/-- The tag counts: it stands in an argument section, or its style needs none. -/
def counts (sections : List Section) (tag : Tag) : Bool :=
  tag.style != .google || sections.any (·.holds tag.start)

/-- The argument in the place of the first parameter of this name, unless it is absent. -/
def argument? (names : List String) (args : List Value) (name : String) : Option Value :=
  args[names.idxOf name]?.filter fun v => !v.isAbsent

/-- What a tag finds, given the name of the type of the argument. -/
def ofTag (names : List String) (tag : Tag) (type : String) : Finding :=
  ⟨tag.name, ScalarType.canonicalName tag.token, type, names.idxOf tag.name⟩

/-- The tags that count and name a parameter with an argument, each with this argument. -/
def argued (styles : List Style) (doc : List Char) (names : List String) (args : List Value) :
    List (Tag × Value) :=
  ((Tag.all styles names doc).filter (counts (Section.all doc))).filterMap fun tag =>
    (argument? names args tag.name).map (tag, ·)

/-- The tags of a docstring, which may be missing, each with its argument. Without parameters there
are none. -/
def arguedIn (styles : List Style) (doc : Option String) (names : List String)
    (args : List Value) : List (Tag × Value) :=
  match doc with
  | none => []
  | some doc => if doc.isEmpty || names.isEmpty then [] else argued styles doc.toList names args

/-- The findings of a docstring, which may be missing, for formal parameters and arguments in the
same order. -/
def ofDoc (styles : List Style) (doc : Option String) (names : List String)
    (args : List Value) : List Finding :=
  (arguedIn styles doc names args).map fun (tag, v) => ofTag names tag v.typeName

/-- The findings of a docstring in styles given by their names. -/
def extract (doc : Option String) (names : List String) (args : List Value)
    (styleNames : List String) : Except OptionError (List Finding) :=
  (Style.ofNames styleNames).map fun styles => ofDoc styles doc names args

end Finding

end DocGuard

/-!
Scalar types and their spellings.

Documentation may declare four types, each under one or more spellings. A spelling is folded into
the canonical name of its type; any other word stands for itself.
-/

namespace DocGuard

/-- The types whose values can be checked against documentation. -/
inductive ScalarType where
  | boolean
  | integer
  | double
  | string
deriving DecidableEq, Repr

namespace ScalarType

/-- The canonical name of a type. -/
def name : ScalarType → String
  | boolean => "boolean"
  | integer => "integer"
  | double => "double"
  | string => "string"

/-- All types. The order is that in which a value is tested: a truth value also counts as an
integer, so `boolean` comes first. -/
def all : List ScalarType := [boolean, integer, double, string]

/-- Every spelling with the type it stands for. -/
def spellings : List (String × ScalarType) :=
  [("string", string), ("double", double), ("float", double), ("integer", integer),
   ("int", integer), ("boolean", boolean), ("bool", boolean)]

/-- The type that a spelling stands for. -/
def ofSpelling? (word : String) : Option ScalarType :=
  spellings.lookup word

/-- The canonical name for a spelling; a word that spells no type is its own name. -/
def canonicalName (word : String) : String :=
  ((ofSpelling? word).map name).getD word

theorem mem_all (t : ScalarType) : t ∈ all := by
  cases t <;> decide

/-- A canonical name spells its own type. -/
theorem ofSpelling?_name (t : ScalarType) : ofSpelling? t.name = some t := by
  cases t <;> decide

theorem name_injective {s t : ScalarType} (h : s.name = t.name) : s = t := by
  have := congrArg ofSpelling? h
  simpa [ofSpelling?_name] using this

end ScalarType

end DocGuard

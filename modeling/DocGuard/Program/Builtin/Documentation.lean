import DocGuard.Program.Builtin.Documentation.Bytes
import DocGuard.Program.Builtin.Documentation.Callable
import DocGuard.Program.Builtin.Documentation.Class
import DocGuard.Program.Builtin.Documentation.Container
import DocGuard.Program.Builtin.Documentation.Decimal
import DocGuard.Program.Builtin.Documentation.Fraction
import DocGuard.Program.Builtin.Documentation.Number
import DocGuard.Program.Builtin.Documentation.Object
import DocGuard.Program.Builtin.Documentation.Text
/-!
What the classes and callables of the language say of themselves.

`ofClass?`, `ofFunction?` and `ofMember?` look up the parameters and the documentation, each as
text.
-/

namespace DocGuard.Documentation

/-- The members of the classes, by class. -/
def members : List (String × List Entry) :=
  ofText
    ++ ofBytes
    ++ ofNumber
    ++ ofContainer
    ++ ofFraction
    ++ ofDecimal
    ++ ofObject

/-- What a class says of itself. -/
def ofClass? (name : String) : Option (String × String) :=
  classes.lookup name

/-- What a callable of the language says of itself. -/
def ofFunction? (name : String) : Option (String × String) :=
  functions.lookup name

/-- What a member of a class says of itself. -/
def ofMember? (owner name : String) : Option (String × String) :=
  (((members.lookup owner).getD []).lookup name).or (operations.lookup name)

end DocGuard.Documentation

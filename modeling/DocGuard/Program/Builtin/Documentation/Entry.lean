/-!
What a member of a class, or a callable, says of itself.
-/

namespace DocGuard.Documentation

/-- A name, the parameters as text (empty if they cannot be read) and the documentation (empty if
there is none). -/
abbrev Entry := String × String × String

end DocGuard.Documentation

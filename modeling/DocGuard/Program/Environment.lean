import DocGuard.Program.Access
import DocGuard.Program.Builtin.Name
/-!
What names mean where a piece of text stands.

A name means a member of the class whose body is being run, else a variable of the functions
around, else a global, else something of the language.
-/

namespace DocGuard

/-- Where a piece of text stands. -/
structure Env where
  /-- In the body of a class, the members bound so far. -/
  members : Bindings Value
  /-- The variables of the functions around. -/
  vars : Bindings CellId
  /-- The variable that took the first positional argument of the function that runs. -/
  receiver : Option CellId
  /-- What precedes the names of definitions in their qualified names. -/
  qualifier : String
  /-- In the body of a class, the names that it binds. -/
  classNames : List String

namespace Env

/-- The text of the program outside all definitions. -/
def toplevel : Env := ⟨[], [], none, "", []⟩

/-- The variable of a name, unless the class body being run makes the name its own. -/
def cellOf? (env : Env) (name : String) : Option CellId :=
  if env.classNames.contains name then none else env.vars.get? name

end Env

/-- The value of a name. A variable that holds nothing has none. -/
def lookupName (env : Env) (name : String) : Run Value := do
  let s ← Run.store
  let held := match env.members.get? name, env.cellOf? name with
    | some v, _ => some v
    | none, some cell => s.cell? cell
    | none, none => (s.globals.get? name).or (builtin? name)
  match held with
  | some v => return v
  | none => throw (.unboundName name)

/-- Binds a name: a variable in a function, else a global. -/
def bindName (env : Env) (name : String) (v : Value) : Run Unit :=
  match env.cellOf? name with
  | some cell => Run.setCell cell (some v)
  | none => Run.change fun s => { s with globals := s.globals.set name v }

/-- Unbinds a name, which has to be bound. -/
def unbindName (env : Env) (name : String) : Run Unit := do
  let s ← Run.store
  match env.cellOf? name with
  | some cell =>
    if (s.cell? cell).isNone then throw (.unboundName name)
    Run.setCell cell none
  | none =>
    if !s.globals.has name then throw (.unboundName name)
    Run.change fun s => { s with globals := s.globals.erase name }

end DocGuard

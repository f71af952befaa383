/-!
Names bound to things, in the order in which they were first bound.

Binding a name again keeps its place; a name that was unbound and is bound again comes last.
-/

namespace DocGuard

/-- Names bound to things, in the order of binding. -/
abbrev Bindings (α : Type) := List (String × α)

namespace Bindings

variable {α β : Type}

/-- What a name is bound to. -/
def get? (b : Bindings α) (name : String) : Option α :=
  b.lookup name

/-- The name is bound. -/
def has (b : Bindings α) (name : String) : Bool :=
  (b.get? name).isSome

/-- The bindings after binding `name` to `a`. -/
def set (name : String) (a : α) : Bindings α → Bindings α
  | [] => [(name, a)]
  | (other, c) :: rest =>
    if name == other then (name, a) :: rest else (other, c) :: set name a rest

/-- The bindings after unbinding `name`. -/
def erase (name : String) (b : Bindings α) : Bindings α :=
  b.filter fun entry => !(name == entry.1)

theorem get?_cons (other : String) (c : α) (b : Bindings α) (name : String) :
    get? ((other, c) :: b) name = if name == other then some c else get? b name := by
  simp only [get?, List.lookup_cons]
  cases name == other <;> rfl

end Bindings

end DocGuard

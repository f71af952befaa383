import DocGuard.Program.Builtin.Class
import DocGuard.Program.Scope
import DocGuard.Value.Identity
import DocGuard.Verdict
/-!
The state of a running program.

Functions, classes and variables live in a store and are known by their place in it; what never
changes about a class is part of its value. What can change about any other value is kept by the
mark of the value: its attributes, its content and its class. Besides the store there are frames,
one for each call that is going on. A frame names its variables by their places in the store, so
that inner functions share the variables of the functions around them.
-/

namespace DocGuard

/-- A variable is known by its place in the store. -/
abbrev CellId := Nat

/-- The code of a function, shared by all functions that one definition makes. -/
structure Code where
  /-- The place of the definition in the text. -/
  place : Nat
  /-- The name as it was written, under which calls are reported. -/
  label : String
  name : String
  /-- What precedes the names of definitions inside it in their qualified names. -/
  qualifiedName : String
  /-- The parameters, without their defaults. -/
  params : List (Param Unit)
  body : List Action

/-- What is checked before a guarded function is entered. All of it was read when the guard was
set up. -/
structure Guard where
  /-- The function that is guarded. -/
  inner : FunctionId
  options : CheckOptions
  /-- The name under which the function is reported. -/
  place : Value
  /-- The documentation, cleaned. -/
  doc : String
  /-- The parameters that the documentation can speak of. -/
  params : List String
  signature : Signature

/-- What a call of a function does. -/
inductive Behaviour where
  /-- It runs code, with the variables taken from the functions around it. -/
  | run (code : Code) (outer : Bindings CellId)
  /-- It checks the arguments, and then calls the function that is guarded. -/
  | guard (g : Guard)

/-- A function. All that it shows of itself can be changed. -/
structure Function where
  name : Value
  qualifiedName : Value
  doc : Value
  module : Value
  /-- The defaults of the last parameters that can be filled by position: a tuple, or absent. -/
  defaults : Value
  /-- The defaults of the parameters that can be filled by keyword only: a dictionary, or absent. -/
  keywordDefaults : Value
  /-- What is said of the types of the parameters: a dictionary, or absent if nothing ever was. -/
  annotations : Value
  behaviour : Behaviour
  /-- The attributes that the program gave to the function. -/
  attributes : Bindings Value

namespace Function

/-- The code that a call of the function runs itself. -/
def code? (f : Function) : Option Code :=
  match f.behaviour with
  | .run code _ => some code
  | .guard _ => none

end Function

/-- What a program can change about a class, and what it derives from. -/
structure ClassInfo where
  name : Value
  qualifiedName : Value
  /-- The class of the class itself. -/
  kind : ClassRef
  /-- The classes that it is directly derived from. -/
  bases : List ClassRef
  /-- That one of them whose layout the instances extend. -/
  base : Option ClassRef
  /-- The class and the classes it derives from, nearest first. -/
  ancestry : List ClassRef
  /-- The builtin class that determines what instances hold. -/
  layout : String
  /-- The nearest class in the ancestry that determines how instances are laid out. -/
  solid : ClassRef
  /-- What instances keep beyond those of the class that they extend. -/
  kept : List String
  /-- What the class said of itself when it was made, if that is text. -/
  described : Option String
  members : Bindings Value

/-- A call that is going on, or a piece of text that is being run outside any function. -/
inductive Frame where
  /-- The module that the program is. Its variables are the globals. -/
  | module
  /-- Another module, in which nothing is found. -/
  | elsewhere
  /-- A function without a name, in which nothing is found. -/
  | nameless
  /-- The body of a class that is being defined, with the members bound so far. -/
  | classBody (name : String) (place : Nat) (members : Bindings Value)
  /-- A function that runs code. Each call has a mark of its own. -/
  | call (mark : Nat) (code : Code) (vars : Bindings CellId)
  /-- The guard before `inner`, which is reported as `place`, when it was called with these arguments.
  It judges the values, which it knows once it has bound the arguments. -/
  | guarding (inner : FunctionId) (place : Value) (args : List Value) (keywords : Bindings Value)
      (values : Option (List Value))
  /-- Another function that takes part in a check, with the class or module that it belongs to. Of its
  parameters those are listed that take a value of the program. -/
  | checking (owner func : Value) (name : String) (params : Bindings Value)

/-- What becomes of the warnings that are given. -/
inductive WarningUse where
  | shown
  | dropped
  /-- Whoever gives a warning fails with it. -/
  | failing
deriving DecidableEq, Repr

/-- The state of a program between two actions. -/
structure Store where
  /-- What becomes of warnings. -/
  warnings : WarningUse
  /-- The name under which the program's module is registered, if it is. -/
  registered : Option String
  globals : Bindings Value
  functions : Array Function
  classes : Array ClassInfo
  cells : Array (Option Value)
  /-- What was changed about the classes made for one value, by mark. -/
  written : List (Nat × ClassInfo)
  /-- The attributes of objects, by mark. -/
  attributes : List (Nat × Bindings Value)
  /-- What instances of classes derived from builtin ones hold, and what containers hold now, by
  mark. -/
  contents : List (Nat × Value)
  /-- The classes of objects that were given another one, by mark. -/
  reclassed : List (Nat × ClassRef)
  /-- The dictionaries that values were given to keep their attributes in. -/
  adopted : List (Value × Value)
  /-- What instances keep by the members of their classes, by mark: under the place of the class and
  the name. -/
  stored : List (Nat × List ((ClassRef × String) × Value))
  /-- Code that was made out of other code, by its place. -/
  codes : List (Nat × Code)
  /-- The containers that are being written out, innermost first. -/
  writing : List Value
  /-- The numbers that objects gave for themselves when they were sorted into places, by mark. -/
  places : List (Nat × Int)
  /-- The instances that were made and not given up yet, by mark. -/
  instances : List (Nat × ClassRef)
  /-- The marks below this one belong to values written out, which last for ever. -/
  firstMark : Nat
  /-- The next mark for a value made while the program runs. -/
  nextMark : Nat

/-- The mark by which the content of a value is kept. -/
def Value.contentMark? : Value → Option Nat
  | .object mark _ | .list mark _ | .dict mark _ | .property mark _ _ _ | .staticMethod mark _
  | .classMethod mark _ => some mark
  | _ => Option.none

/-- A text of which all copies are one object. -/
def sharedText (text : String) : Value :=
  .str 0 text

namespace Store

/-- What a variable holds. -/
def cell? (s : Store) (id : CellId) : Option Value :=
  s.cells[id]?.join

/-- The function of a value, if the value is one. -/
def function? (s : Store) : Value → Option Function
  | .function id => s.functions[id]?
  | _ => none

/-- What an instance keeps by a member of a class. -/
def stored? (s : Store) (mark : Nat) (cls : ClassRef) (name : String) : Option Value :=
  ((s.stored.lookup mark).getD []).lookup (cls, name)

/-- The attributes of an object. -/
def attributesOf (s : Store) (mark : Nat) : Bindings Value :=
  (s.attributes.lookup mark).getD []

/-- New variables, each under a name and holding what is given with it, if anything. -/
def addVariables (s : Store) (held : List (String × Option Value)) : Store × Bindings CellId :=
  ({ s with cells := s.cells ++ (held.map Prod.snd).toArray },
    held.zipIdx.map fun (entry, i) => (entry.1, s.cells.size + i))

/-- Which of some variables hold something, and what they hold. -/
def heldBy (s : Store) (vars : Bindings CellId) : Bindings Value :=
  vars.filterMap fun (name, id) => (s.cell? id).map (name, ·)

/-- The entries of a dictionary under names, in order. -/
def namedEntries (entries : List (Value × Value)) : Bindings Value :=
  entries.filterMap fun (key, v) => match key with
    | .str _ name => some (name, v)
    | _ => none

/-- Names with what they mean as the entries of a dictionary. -/
def entriesNamed (named : Bindings Value) : List (Value × Value) :=
  named.map fun (name, v) => (sharedText name, v)

/-- The entries after one was put under a name. -/
def putNamed (name : String) (v : Value) : List (Value × Value) → List (Value × Value)
  | [] => [(sharedText name, v)]
  | (.str mark other, w) :: rest =>
    if other == name then (.str mark other, v) :: rest
    else (.str mark other, w) :: putNamed name v rest
  | entry :: rest => entry :: putNamed name v rest

/-- The entries without that of a name. -/
def dropNamed (name : String) (entries : List (Value × Value)) : List (Value × Value) :=
  entries.filter fun entry => match entry.1 with
    | .str _ other => other != name
    | _ => true

/-- The entries of a frame's dictionary after its variables were written there. -/
def refreshed (s : Store) (vars : Bindings CellId) (entries : List (Value × Value)) :
    List (Value × Value) :=
  vars.foldl (fun entries (name, id) => match s.cell? id with
    | some v => putNamed name v entries
    | none => dropNamed name entries) entries

/-- The entries of the dictionary of a call, if the call was given one. -/
def dictionary? (s : Store) (mark : Nat) : Option (List (Value × Value)) :=
  match s.contents.lookup mark with
  | some (.dict _ entries) => some entries
  | _ => none

/-- The variables of a frame that hold something, in order, with what they hold. Those of a call are
listed by its dictionary, if it has one: what was there before comes first. -/
def locals (s : Store) : Frame → Bindings Value
  | .module => s.globals
  | .elsewhere => []
  | .nameless => []
  | .classBody _ _ members => members
  | .call mark _ vars =>
    match s.dictionary? mark with
    | some entries => namedEntries (s.refreshed vars entries)
    | none => s.heldBy vars
  | .guarding inner place args keywords values =>
    [("args", .tuple 0 args), ("kwargs", .dict 0 (entriesNamed keywords))]
      ++ (values.map fun values => ("values", .tuple 0 values)).toList
      ++ [("func", .function inner), ("where", place)]
  | .checking _ _ _ params => params

/-- The state after the variables of a frame were listed. -/
def afterListing (s : Store) : Frame → Store
  | .call mark _ vars =>
    let entries := match s.dictionary? mark with
      | some entries => s.refreshed vars entries
      | none => (s.heldBy vars).map fun (name, v) => (sharedText name, v)
    { s with contents := (mark, .dict mark entries) :: s.contents.filter (·.1 != mark) }
  | _ => s

/-- A new variable holds what it was given. -/
theorem cell?_addVariables (s : Store) (held : List (String × Option Value)) {i : Nat}
    {entry : String × Option Value} (h : held[i]? = some entry) :
    (s.addVariables held).1.cell? (s.cells.size + i) = entry.2 := by
  have hi : (held.map Prod.snd)[i]? = some entry.2 := by simp [h]
  simp [addVariables, cell?, Array.getElem?_append_right (Nat.le_add_right _ _), hi]

end Store

end DocGuard

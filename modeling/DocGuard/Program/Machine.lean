import DocGuard.Program.Plan
/-!
What computations are made of: new values, changes of the store, reports and failures.
-/

namespace DocGuard

/-- The frame of a function of one of the modules of checks. -/
def Frame.ofFunction (home name : String) (params : Bindings Value) : Frame :=
  .checking (.library home) (.slot .function home name) name params

/-- The world as it is inside such a function. -/
def World.inFunction (w : World) (home name : String) (params : Bindings Value) : World :=
  w.inside (.frame (.ofFunction home name params))

namespace Run

variable {α : Type}

/-- Adds an event. -/
def emit (e : Event) : Run Unit :=
  emitAll [e]

/-- A mark that no value has yet. -/
def newMark : Run Nat := do
  let s ← store
  change fun s => { s with nextMark := s.nextMark + 1 }
  return s.nextMark

/-- A new variable that holds nothing. -/
def newCell : Run CellId := do
  let s ← store
  change fun s => { s with cells := s.cells.push none }
  return s.cells.size

/-- New variables, each under a name and holding what is given with it. -/
def newVariables (held : List (String × Option Value)) : Run (Bindings CellId) := do
  let (s, vars) := (← store).addVariables held
  change fun _ => s
  return vars

/-- A new function. -/
def newFunction (f : Function) : Run FunctionId := do
  let s ← store
  change fun s => { s with functions := s.functions.push f }
  return s.functions.size

/-- Changes what a variable holds. -/
def setCell (id : CellId) (held : Option Value) : Run Unit :=
  change fun s => { s with cells := s.cells.setIfInBounds id held }

/-- Changes a function. -/
def changeFunction (id : FunctionId) (f : Function → Function) : Run Unit :=
  change fun s => { s with functions := s.functions.modify id f }

/-- Changes the attributes of an object. -/
def changeAttributes (mark : Nat) (f : Bindings Value → Bindings Value) : Run Unit :=
  change fun s =>
    { s with attributes :=
        (mark, f (s.attributesOf mark)) :: s.attributes.filter (·.1 != mark) }

/-- Changes what an instance keeps by a member of a class. -/
def changeStored (mark : Nat) (cls : ClassRef) (name : String) (held : Option Value) : Run Unit :=
  change fun s =>
    let others := ((s.stored.lookup mark).getD []).filter (·.1 != (cls, name))
    { s with stored :=
        (mark, (held.map ((cls, name), ·)).toList ++ others) :: s.stored.filter (·.1 != mark) }

/-- Changes what is kept about a class. That of a builtin class cannot be changed. -/
def changeClass (c : ClassRef) (f : ClassInfo → ClassInfo) : Run Unit :=
  match c.origin with
  | .defined index => change fun s => { s with classes := s.classes.modify index f }
  | .written mark _ => change fun s =>
    { s with written := (mark, f (s.classInfo c)) :: s.written.filter (·.1 != mark) }
  | .builtin => throw .badCall

/-- Changes what an object or a container holds. -/
def changeContent (mark : Nat) (content : Value) : Run Unit :=
  change fun s => { s with contents := (mark, content) :: s.contents.filter (·.1 != mark) }

/-- Gives an object another class. -/
def changeKind (mark : Nat) (c : ClassRef) : Run Unit :=
  change fun s => { s with reclassed := (mark, c) :: s.reclassed.filter (·.1 != mark) }

/-- Lists the variables of a frame that hold something, with what they hold. The next listing keeps
the order. -/
def listLocals (frame : Frame) : Run (Bindings Value) := do
  let s ← store
  change fun s => s.afterListing frame
  return s.locals frame

theorem on_listLocals (w : World) (frame : Frame) (m : Machine) :
    on w (listLocals frame) m
      = (.ok (m.store.locals frame), { m with store := m.store.afterListing frame }) := rfl

/-- A text made while the program runs. -/
def newText (text : String) : Run Value := do
  return .str (← newMark) text

/-- A list made while the program runs. -/
def newList (items : List Value) : Run Value := do
  let mark ← newMark
  changeContent mark (.list mark items)
  return .list mark items

/-- A tuple made while the program runs. -/
def newTuple (items : List Value) : Run Value := do
  return .tuple (← newMark) items

/-- An integer made while the program runs. -/
def newInt (n : Int) : Run Value := do
  return .int (← newMark) n

/-- Runs a computation inside a function of one of the modules of checks. Of its parameters those are
listed that take a value of the program. -/
def inFunction (home name : String) (params : Bindings Value) (x : Run α) : Run α :=
  within (.frame (.ofFunction home name params)) x

theorem on_inFunction (w : World) (home name : String) (params : Bindings Value) (x : Run α)
    (m : Machine) :
    on w (inFunction home name params x) m = on (w.inFunction home name params) x m :=
  on_within ..

/-- The result of a computation, or nothing if it fails for want of a member. -/
def orMissing (x : Run α) : Run (Option α) := do
  match ← attempt x with
  | .ok a => return some a
  | .error e => if e.isMissing then return none else throw e

/-- The result of a computation, or nothing if it fails because a value does not fit. -/
def orUnfit (x : Run α) : Run (Option α) := do
  match ← attempt x with
  | .ok a => return some a
  | .error e => if e.isUnfit then return none else throw e

/-- Follows a verdict: reports what it reports, and fails if it does. -/
def follow (verdict : Verdict) : Run (Option Violation) := do
  emitAll (verdict.signals.map .reported)
  match verdict.result with
  | .ok found => return found
  | .error m => throw (.mismatch m m.place)

/-- Following a verdict reports its signals and ends as the verdict does. -/
theorem on_follow (w : World) (v : Verdict) (m : Machine) :
    on w (follow v) m = (v.result.mapError fun e => .mismatch e e.place,
      { m with events := m.events ++ v.signals.map .reported }) := by
  rw [follow, on_bind, on_emitAll]
  rcases v.result with _ | _ <;> rfl

/-- The options named; wrong ones are refused. -/
def options (names : OptionNames) : Run CheckOptions :=
  match CheckOptions.ofNames names.styles names.reaction with
  | .ok options => return options
  | .error e => throw (.options e)

/-- Reading options changes nothing. -/
theorem on_options (w : World) (names : OptionNames) (m : Machine) :
    on w (options names) m
      = ((CheckOptions.ofNames names.styles names.reaction).mapError .options, m) := by
  rw [options]
  rcases CheckOptions.ofNames names.styles names.reaction with _ | _ <;> rfl

end Run

end DocGuard

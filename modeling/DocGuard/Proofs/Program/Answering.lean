import DocGuard.Proofs.Program.Search
import DocGuard.Proofs.Program.Judgment
/-!
Questions that are answered.

To ask a value may run code of the program, and this code may fail, or answer otherwise the next
time. What the search for the running function finds can be foretold only where it does neither: in
states of the machine from which what is asked answers, leads to one of these states again, and
keeps to its answers (`Run.Answers`). Where asking changes nothing there is one such state
(`Gives.answers`), as it is with functions, classes and values that say nothing of themselves
otherwise.

The running call is what its search comes to in such states: a function that was found is reported,
as far as it can be described (`ends_runningCall_of_some`), and where none is, the name alone
(`ends_runningCall_of_none`).
-/

namespace DocGuard

open Run

section Search

variable {w : World} {states : Machine → Prop} {call : Call} {name : String} {place : Nat}
variable {found others : Option Value}

/-- One search and then another: what the first finds decides, and if it finds something the other
is not made. -/
theorem answers_orElse {search later : Run (Option Value)} (first : Answers w states search found)
    (second : found = none → Answers w states later others) :
    Answers w states (do
        match ← search with
        | some f => return some f
        | none => later) (found.or others) := by
  refine first.bind ?_
  cases found with
  | none => exact second rfl
  | some f => exact Answers.pure (some f)

/-- Of some searches the first that finds something decides, and the later ones are not made. -/
theorem answers_firstFound_cons {search : Run (Option Value)} {rest : List (Run (Option Value))}
    (first : Answers w states search found)
    (later : found = none → Answers w states (firstFound rest) others) :
    Answers w states (firstFound (search :: rest)) (found.or others) := by
  rw [firstFound]
  exact answers_orElse first later

theorem answers_firstFound_of_some {search : Run (Option Value)} {rest : List (Run (Option Value))}
    {f : Value} (first : Answers w states search (some f)) :
    Answers w states (firstFound (search :: rest)) (some f) := by
  rw [firstFound]
  exact first.bind (Answers.pure (some f))

/-- The global of the name is found if it runs the code. -/
theorem answers_globalRunning {frame : Frame} {bound : Option Value} {carries : Value → Bool}
    (binds : ∀ m, states m → (frame.globals m.store).get? name = bound)
    (asked : ∀ v, bound = some v → Answers w states (runs call place v) (carries v)) :
    Answers w states (globalRunning call frame name place) (bound.filter carries) := by
  rw [globalRunning]
  refine Ends.store_bind fun m hm => ?_
  rw [binds m hm]
  cases bound with
  | none => exact Answers.pure none
  | some v =>
    rw [Option.filter_some]
    exact (asked v rfl).bind (Ends.pure rfl)

end Search

/-! ### The running call -/

section RunningCall

variable {w : World} {states : Machine → Prop} {call : Call} {frames around : List Frame}
variable {depth : Int} {frame : Frame} {name : String} {place : Nat} {m : Machine} {f : Value}

/-- What is told of a function found in a frame with these variables can be told. -/
structure Describable (w : World) (states : Machine → Prop) (call : Call) (frame : Frame)
    (locals : Bindings Value) (f : Value) : Prop where
  owner : Ends w states (ownerOf call frame locals) fun _ => True
  interface : Ends w states (interfaceOf call f) fun _ => True
  signature : Ends w states (signatureShown call f) fun _ => True

/-- A function as it was defined can be described, if it can be told whom it belongs to. -/
theorem Shows.describable {id : FunctionId} {g : Function} {code : Code} {face : Face}
    {locals : Bindings Value} (shows : Shows m.store id g code face)
    (owner : Ends w (· = m) (ownerOf call frame locals) fun _ => True) :
    Describable w (· = m) call frame locals (.function id) where
  owner := owner
  interface := (shows.interfaceOf call).answers.imp fun _ _ => trivial
  signature := (shows.signatureShown call).answers.imp fun _ _ => trivial

/-- The machine in which the search for the function of a frame begins: the variables of the frame
were listed. -/
def Machine.listing (m : Machine) (frame : Frame) : Machine :=
  { m with store := m.store.afterListing frame }

variable (top : frames.drop depth.toNat = frame :: around)
variable (code : frame.code? = some (name, place)) (began : states (m.listing frame))
include top code began

/-- A function that the search finds is reported as that of the running call. -/
theorem ends_runningCall_of_some
    (search : Answers w states
      (runningFunction call frame around (m.store.locals frame) name place) (some f))
    (described : Describable w states call frame (m.store.locals frame) f) :
    ∃ c m', on w (runningCall call frames depth) m = (.ok (some c), m') ∧ states m'
      ∧ c.method = some name ∧ c.func = some f := by
  have finds : Answers w.ofContext states _ (some f) := search.inside _
  obtain ⟨m₁, searched, hm₁⟩ := finds.exists_on began
  obtain ⟨owner, m₂, owns, hm₂, -⟩ := described.owner.inside _ [] m₁ hm₁
  obtain ⟨interface, m₃, told, hm₃, -⟩ := described.interface.inside _ [] m₂ hm₂
  obtain ⟨sig, m₄, read, hm₄, -⟩ := described.signature.inside _ [] m₃ hm₃
  have listed : on w.ofContext (listLocals frame) m
      = (.ok (m.store.locals frame), m.listing frame) := rfl
  let params := (interface.map Interface.params).getD []
  let args := argumentsOf sig params (m.store.locals frame)
  refine ⟨⟨owner, some name, args, some f⟩, m₄, ?_, hm₄, rfl, rfl⟩
  rw [runningCall, top, on_runningCallAt_of_code code, map_eq_pure_bind]
  refine on_bind_eq_ok_iff.2 ⟨_, m₄, ?_, rfl⟩
  refine on_bind_eq_ok_iff.2 ⟨_, _, listed, on_bind_eq_ok_iff.2 ⟨_, m₁, searched, ?_⟩⟩
  exact on_bind_eq_ok_iff.2 ⟨owner, m₂, owns, on_bind_eq_ok_iff.2 ⟨interface, m₃, told,
    on_bind_eq_ok_iff.2 ⟨sig, m₄, read, rfl⟩⟩⟩

/-- Where the search finds nothing, the running call has its name and nothing else. -/
theorem ends_runningCall_of_none
    (search : Answers w states
      (runningFunction call frame around (m.store.locals frame) name place) none) :
    ∃ m', on w (runningCall call frames depth) m = (.ok (some ⟨.none, some name, [], none⟩), m')
      ∧ states m' := by
  have finds : Answers w.ofContext states _ none := search.inside _
  obtain ⟨m₁, searched, hm₁⟩ := finds.exists_on began
  have listed : on w.ofContext (listLocals frame) m
      = (.ok (m.store.locals frame), m.listing frame) := rfl
  refine ⟨m₁, ?_, hm₁⟩
  rw [runningCall, top, on_runningCallAt_of_code code, map_eq_pure_bind]
  refine on_bind_eq_ok_iff.2 ⟨_, m₁, ?_, rfl⟩
  exact on_bind_eq_ok_iff.2 ⟨_, _, listed, on_bind_eq_ok_iff.2 ⟨none, m₁, searched, rfl⟩⟩

end RunningCall

end DocGuard

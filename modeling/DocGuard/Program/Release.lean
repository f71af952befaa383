import DocGuard.Program.Holder
import DocGuard.Program.Reach
/-!
Giving up instances.

As soon as nothing refers to an instance, its class is told by a call of its member `__del__`. That
happens once for an instance, between two actions or when a call has ended. What the call returns,
and whether it fails, makes no difference.
-/

namespace DocGuard

namespace Run

variable {α : Type}

/-- Notes a new instance, which its class may have to be told about when it is given up. -/
def noteInstance (v : Value) : Run Unit :=
  match v with
  | .object mark c =>
    if c.origin == .builtin then return ()
    else change fun s => { s with instances := s.instances ++ [(mark, c)] }
  | _ => return ()

/-- Runs a computation that goes on working with some values, whatever becomes of the variables
that hold them. -/
def retaining (values : List Value) (x : Run α) : Run α :=
  within (.holding values) x

end Run

/-- Gives up at most `n` instances, one after the other. -/
def giveUpAtMost (call : Call) : (n : Nat) → Run Unit
  | 0 => return ()
  | n + 1 => do
    match (← Run.store).givenUp (← Run.layers) with
    | [] => return ()
    | (mark, c) :: others =>
      Run.change fun s => { s with instances := s.instances.filter (·.1 != mark) }
      match (← Run.store).special? (.object mark c) "__del__" with
      | some operation => do
        let v := .object mark c
        let kept := v :: others.map fun (mark, c) => .object mark c
        discard (Run.attempt (Run.retaining kept (callSpecialWith call operation v [] [])))
      | none => pure ()
      giveUpAtMost call n

/-- Gives up the instances that nothing refers to. What does so is looked for only if a class asks
for it. -/
def giveUp (call : Call) : Run Unit := do
  let s ← Run.store
  if s.tellsInstances then giveUpAtMost call s.instances.length

end DocGuard

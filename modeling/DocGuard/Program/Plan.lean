import DocGuard.Program.Ancestry
import DocGuard.Program.Event
/-!
Computations of a running program.

A computation changes the store, and fails or has a result. What it cannot do by itself it asks for:
that something is reported, that a value is called, and what is around it. `Plan` is what it asks
for, one thing after the other, until it ends. Who answers is left open, so that one computation can
be looked at from different places; a `World` answers everything, and `Run.on` is what a computation
comes to in a world. The lemmas `on_bind`, `on_store`, `on_within` and so on say what each building
block comes to.

Around a computation are layers: the frames of the calls that are going on, and the values that
these calls work with. A computation can put layers around a part of itself (`Run.within`).
-/

namespace DocGuard

/-- Something that is around a computation. -/
inductive Layer where
  /-- A call that is going on, or a piece of text that is being run. -/
  | frame (f : Frame)
  /-- Values that a call works with, although no variable may hold them. -/
  | holding (values : List Value)

/-- The frames among some layers. -/
def framesOf (layers : List Layer) : List Frame :=
  layers.filterMap fun layer => match layer with
    | .frame f => some f
    | .holding _ => none

/-- What a computation asks for until it ends. -/
inductive Plan (α : Type) where
  /-- It ends, and leaves this store. -/
  | ends (result : Except Fault α) (s : Store)
  | reports (es : List Event) (rest : Plan α)
  /-- It looks at all that is around it. -/
  | looks (rest : List Layer → Plan α)
  /-- It looks at the frame nearest to it. -/
  | near (rest : Option Frame → Plan α)
  /-- It asks whether so many calls may still go on, one inside the other. -/
  | needs (levels : Nat) (rest : Bool → Plan α)
  /-- It calls a value, out of these layers of its own. -/
  | calls (inside : List Layer) (v : Value) (args : List Value) (keywords : Bindings Value)
      (s : Store) (rest : Except Fault Value → Store → Plan α)

/-- The state of a running program, with the events since the step began. -/
structure Machine where
  store : Store
  events : List Event

/-- What a computation can ask for. -/
structure World where
  /-- What is around it, innermost first. -/
  layers : List Layer
  /-- How many calls may still go on, one inside the other. -/
  levels : Nat
  /-- What a call comes to, by what is around it. -/
  answer : List Layer → Value → List Value → Bindings Value → Machine →
    Except Fault Value × Machine

/-- The world as it is inside another layer. -/
def World.inside (w : World) (layer : Layer) : World :=
  { w with layers := layer :: w.layers }

namespace Plan

variable {α β γ : Type}

/-- What one plan asks for, and then what another one does that goes on with how it ended. -/
def andThen : Plan α → (Except Fault α → Store → Plan β) → Plan β
  | ends result s, next => next result s
  | reports es rest, next => reports es (rest.andThen next)
  | looks rest, next => looks fun layers => (rest layers).andThen next
  | near rest, next => near fun frame => (rest frame).andThen next
  | needs levels rest, next => needs levels fun enough => (rest enough).andThen next
  | calls inside v args keywords s rest, next =>
    calls inside v args keywords s fun result s => (rest result s).andThen next

/-- The plan with another layer around it. -/
def within (layer : Layer) : Plan α → Plan α
  | ends result s => ends result s
  | reports es rest => reports es (rest.within layer)
  | looks rest => looks fun layers => (rest (layer :: layers)).within layer
  | near rest => match layer with
    | .frame f => (rest (some f)).within layer
    | .holding _ => near fun frame => (rest frame).within layer
  | needs levels rest => needs levels fun enough => (rest enough).within layer
  | calls inside v args keywords s rest =>
    calls (inside ++ [layer]) v args keywords s fun result s => (rest result s).within layer

/-- How the plan ends in a world, after these events, and the machine it leaves. -/
def on (w : World) : Plan α → List Event → Except Fault α × Machine
  | ends result s, es => (result, ⟨s, es⟩)
  | reports more rest, es => rest.on w (es ++ more)
  | looks rest, es => (rest w.layers).on w es
  | near rest, es => (rest (framesOf w.layers).head?).on w es
  | needs levels rest, es => (rest (decide (levels ≤ w.levels))).on w es
  | calls inside v args keywords s rest, es =>
    let ended := w.answer (inside ++ w.layers) v args keywords ⟨s, es⟩
    (rest ended.1 ended.2.store).on w ended.2.events

theorem andThen_ends (p : Plan α) : p.andThen ends = p := by
  induction p with
  | ends result s => rfl
  | reports es rest ih => exact congrArg (reports es) ih
  | looks rest ih => exact congrArg looks (funext ih)
  | near rest ih => exact congrArg near (funext ih)
  | needs levels rest ih => exact congrArg (needs levels) (funext ih)
  | calls inside v args keywords s rest ih =>
    exact congrArg (calls inside v args keywords s) (funext fun result => funext (ih result))

theorem andThen_assoc (p : Plan α) (f : Except Fault α → Store → Plan β)
    (g : Except Fault β → Store → Plan γ) :
    (p.andThen f).andThen g = p.andThen fun result s => (f result s).andThen g := by
  induction p with
  | ends result s => rfl
  | reports es rest ih => exact congrArg (reports es) ih
  | looks rest ih => exact congrArg looks (funext ih)
  | near rest ih => exact congrArg near (funext ih)
  | needs levels rest ih => exact congrArg (needs levels) (funext ih)
  | calls inside v args keywords s rest ih =>
    exact congrArg (calls inside v args keywords s) (funext fun result => funext (ih result))

/-- A plan goes on from the machine that the one before it has left. -/
theorem on_andThen (w : World) (p : Plan α) (f : Except Fault α → Store → Plan β)
    (es : List Event) :
    (p.andThen f).on w es = (f (p.on w es).1 (p.on w es).2.store).on w (p.on w es).2.events := by
  induction p generalizing es with
  | ends result s => rfl
  | reports more rest ih => exact ih _
  | looks rest ih => exact ih _ _
  | near rest ih => exact ih _ _
  | needs levels rest ih => exact ih _ _
  | calls inside v args keywords s rest ih => exact ih _ _ _

/-- A layer around the plan is the innermost one of the world that the plan sees. -/
theorem on_within (w : World) (layer : Layer) (p : Plan α) (es : List Event) :
    (p.within layer).on w es = p.on (w.inside layer) es := by
  induction p generalizing es with
  | ends result s => rfl
  | reports more rest ih => exact ih _
  | looks rest ih => exact ih _ _
  | near rest ih =>
    cases layer with
    | frame f => exact ih _ _
    | holding values => exact ih _ _
  | needs levels rest ih => exact ih _ _
  | calls inside v args keywords s rest ih =>
    have answered : (inside ++ [layer]) ++ w.layers = inside ++ (w.inside layer).layers :=
      List.append_cons .. |>.symm
    simp only [within, on, answered, ih]
    rfl

end Plan

/-- A computation of a running program. -/
def Run (α : Type) : Type :=
  Store → Plan α

/-- A way to call values: the value called, its positional and its keyword arguments. -/
abbrev Call := Value → List Value → Bindings Value → Run Value

namespace Run

variable {α β : Type}

instance : Monad Run where
  pure a := fun s => .ends (.ok a) s
  bind x f := fun s => (x s).andThen fun
    | .ok a, s => f a s
    | .error e, s => .ends (.error e) s

instance : MonadExceptOf Fault Run where
  throw e := fun s => .ends (.error e) s
  tryCatch x handle := fun s => (x s).andThen fun
    | .ok a, s => .ends (.ok a) s
    | .error e, s => handle e s

instance : LawfulMonad Run := by
  refine .mk' Run (fun {α} x => ?_) (fun a f => rfl) fun x f g => ?_
  · funext s
    have whole : (fun (result : Except Fault α) (s : Store) => match result with
        | .ok a => (pure a : Run α) s
        | .error e => .ends (.error e) s) = Plan.ends := by
      funext result s
      cases result <;> rfl
    refine Eq.trans (congrArg (x s).andThen ?_) (Plan.andThen_ends _)
    rw [← whole]
    funext result s
    cases result <;> rfl
  · funext s
    refine (Plan.andThen_assoc ..).trans (congrArg (x s).andThen ?_)
    funext result s
    cases result <;> rfl

/-- How a computation ends in a world when it begins with this machine, and the machine it leaves. -/
def on (w : World) (x : Run α) (m : Machine) : Except Fault α × Machine :=
  (x m.store).on w m.events

/-! ### Building blocks -/

/-- The store as it is now. -/
def store : Run Store := fun s => .ends (.ok s) s

/-- Changes the store. -/
def change (f : Store → Store) : Run Unit := fun s => .ends (.ok ()) (f s)

/-- Adds events. -/
def emitAll (es : List Event) : Run Unit := fun s => .reports es (.ends (.ok ()) s)

/-- Calls a value. -/
def ask : Call := fun v args keywords s => .calls [] v args keywords s .ends

/-- All that is around. -/
def layers : Run (List Layer) := fun s => .looks fun layers => .ends (.ok layers) s

/-- The frame nearest to the computation. -/
def nearest : Run (Option Frame) := fun s => .near fun frame => .ends (.ok frame) s

/-- So many calls may still go on, one inside the other. -/
def hasRoom (levels : Nat) : Run Bool := fun s => .needs levels fun enough => .ends (.ok enough) s

/-- The computation with another layer around it. -/
def within (layer : Layer) (x : Run α) : Run α := fun s => (x s).within layer

/-- How a computation ends. What it changed and reported before it failed stays. -/
def attempt (x : Run α) : Run (Except Fault α) := fun s =>
  (x s).andThen fun result => .ends (.ok result)

section On

variable (w : World)

theorem on_pure (a : α) (m : Machine) : on w (pure a) m = (.ok a, m) := rfl

theorem on_throw (e : Fault) (m : Machine) : on w (throw e : Run α) m = (.error e, m) := rfl

/-- A computation goes on with what came before, unless that failed. -/
theorem on_bind (x : Run α) (f : α → Run β) (m : Machine) :
    on w (x >>= f) m = match on w x m with
      | (.ok a, m') => on w (f a) m'
      | (.error e, m') => (.error e, m') := by
  refine (Plan.on_andThen ..).trans ?_
  show _ = match (x m.store).on w m.events with
    | (.ok a, m') => on w (f a) m'
    | (.error e, m') => (.error e, m')
  rcases (x m.store).on w m.events with ⟨_ | _, _⟩ <;> rfl

theorem on_store (m : Machine) : on w store m = (.ok m.store, m) := rfl

theorem on_change (f : Store → Store) (m : Machine) :
    on w (change f) m = (.ok (), { m with store := f m.store }) := rfl

theorem on_emitAll (es : List Event) (m : Machine) :
    on w (emitAll es) m = (.ok (), { m with events := m.events ++ es }) := rfl

theorem on_ask (v : Value) (args : List Value) (keywords : Bindings Value) (m : Machine) :
    on w (ask v args keywords) m = w.answer w.layers v args keywords m := rfl

theorem on_layers (m : Machine) : on w layers m = (.ok w.layers, m) := rfl

theorem on_nearest (m : Machine) : on w nearest m = (.ok (framesOf w.layers).head?, m) := rfl

theorem on_hasRoom (levels : Nat) (m : Machine) :
    on w (hasRoom levels) m = (.ok (decide (levels ≤ w.levels)), m) := rfl

theorem on_within (layer : Layer) (x : Run α) (m : Machine) :
    on w (within layer x) m = on (w.inside layer) x m :=
  Plan.on_within ..

theorem on_attempt (x : Run α) (m : Machine) :
    on w (attempt x) m = (.ok (on w x m).1, (on w x m).2) :=
  Plan.on_andThen ..

end On

end Run

end DocGuard

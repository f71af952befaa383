import DocGuard.Program.Making
/-!
Computations that answer.

To ask a program something may run code of the program. Two kinds of questions have answers that
can be foretold. Those that change nothing, whatever is around them (`Run.Gives`); and those that
lead, from states of the machine in which they answer, to such states again, and keep to their
answers, from inside whatever layers they are asked (`Run.Answers`). Where asking changes nothing
there is one such state (`Gives.answers`).
-/

namespace DocGuard

/-- The world inside some more layers. -/
def World.amid (w : World) (inner : List Layer) : World :=
  { w with layers := inner ++ w.layers }

/-- A layer around two parts of a plan is around each of them. -/
theorem Plan.within_andThen {α β : Type} (layer : Layer) (p : Plan α)
    (f : Except Fault α → Store → Plan β) :
    (p.andThen f).within layer = (p.within layer).andThen fun result s => (f result s).within layer := by
  induction p with
  | ends result s => rfl
  | reports es rest ih => exact congrArg (Plan.reports es) ih
  | looks rest ih => exact congrArg Plan.looks (funext fun _ => ih _)
  | near rest ih =>
    cases layer with
    | frame f => exact ih _
    | holding values => exact congrArg Plan.near (funext ih)
  | needs levels rest ih => exact congrArg (Plan.needs levels) (funext ih)
  | calls inside v args keywords s rest ih =>
    exact congrArg (Plan.calls _ v args keywords s) (funext fun result => funext (ih result))

namespace Run

variable {α β : Type} {w : World} {x : Run α} {f : α → Run β} {m m' : Machine} {a : α} {b : β}

theorem within_bind (layer : Layer) (x : Run α) (f : α → Run β) :
    within layer (x >>= f) = within layer x >>= fun a => within layer (f a) := by
  funext s
  refine (Plan.within_andThen ..).trans (congrArg ((x s).within layer).andThen ?_)
  funext result s
  cases result <;> rfl

/-! ### Ends -/

/-- A computation in two parts ends well if both parts do. -/
theorem on_bind_eq_ok_iff :
    on w (x >>= f) m = (.ok b, m')
      ↔ ∃ a m₁, on w x m = (.ok a, m₁) ∧ on w (f a) m₁ = (.ok b, m') := by
  rw [on_bind]
  generalize on w x m = first
  obtain ⟨_ | a, m₁⟩ := first
  · simp
  · constructor
    · intro h
      exact ⟨a, m₁, rfl, h⟩
    · rintro ⟨_, _, e, h⟩
      cases e
      exact h

theorem on_pure_eq_ok_iff {a b : α} :
    on w (pure a) m = (.ok b, m') ↔ a = b ∧ m = m' := by
  rw [on_pure, Prod.mk.injEq, Except.ok.injEq]

/-- A computation that fails ends what should have followed. -/
theorem result_bind_of_error {e : Fault} (h : (on w x m).1 = .error e) (f : α → Run β) :
    (on w (x >>= f) m).1 = .error e := by
  rw [on_bind]
  generalize on w x m = ended at h
  obtain ⟨result, m'⟩ := ended
  subst h
  rfl

section

variable (m)

theorem on_newMark :
    on w newMark m
      = (.ok m.store.nextMark,
          { m with store := { m.store with nextMark := m.store.nextMark + 1 } }) := rfl

theorem on_newVariables (held : List (String × Option Value)) :
    on w (newVariables held) m
      = (.ok (m.store.addVariables held).2, { m with store := (m.store.addVariables held).1 }) :=
  rfl

theorem on_emit (e : Event) :
    on w (emit e) m = (.ok (), { m with events := m.events ++ [e] }) := rfl

end

/-! ### What changes nothing -/

/-- The computation gives `a` and changes nothing, whatever is around it. -/
def Gives (x : Run α) (m : Machine) (a : α) : Prop :=
  ∀ w, on w x m = (.ok a, m)

theorem gives_store (m : Machine) : Gives store m m.store := fun _ => rfl

theorem gives_pure (a : α) (m : Machine) : Gives (pure a) m a := fun _ => rfl

/-- What comes after a computation that changes nothing goes on with its result. -/
theorem Gives.bind (h : Gives x m a) (f : α → Run β) : on w (x >>= f) m = on w (f a) m := by
  rw [on_bind, h]

theorem Gives.trans (h : Gives x m a) (next : Gives (f a) m b) : Gives (x >>= f) m b := by
  intro w
  rw [h.bind, next]

theorem Gives.within (h : Gives x m a) (layer : Layer) : Gives (Run.within layer x) m a := by
  intro w
  rw [on_within, h]

theorem Gives.inFunction (h : Gives x m a) (home name : String) (params : Bindings Value) :
    Gives (Run.inFunction home name params x) m a :=
  h.within _

theorem Gives.discard (h : Gives x m a) : Gives (discard x) m () :=
  h.trans (gives_pure () m)

theorem Gives.orMissing (h : Gives x m a) : Gives (Run.orMissing x) m (some a) := by
  intro w
  rw [Run.orMissing, on_bind, on_attempt, h]
  rfl

theorem Gives.orUnfit (h : Gives x m a) : Gives (Run.orUnfit x) m (some a) := by
  intro w
  rw [Run.orUnfit, on_bind, on_attempt, h]
  rfl

/-- To read options that are right changes nothing. -/
theorem gives_options {names : OptionNames} {options : CheckOptions}
    (valid : CheckOptions.ofNames names.styles names.reaction = .ok options) (m : Machine) :
    Gives (Run.options names) m options := by
  intro w
  rw [on_options, valid]
  rfl

/-- A computation for each item that changes nothing gives all results and changes nothing. -/
theorem gives_mapM {f : α → Run β} {g : α → β} {l : List α}
    (h : ∀ a ∈ l, Gives (f a) m (g a)) : Gives (l.mapM f) m (l.map g) := by
  induction l with
  | nil => exact gives_pure [] m
  | cons a rest ih =>
    rw [List.mapM_cons]
    refine (h a (List.mem_cons_self ..)).trans (Gives.trans (ih fun b hb => ?_) (gives_pure _ m))
    exact h b (List.mem_cons_of_mem _ hb)

/-! ### Answers -/

variable {states : Machine → Prop} {good : α → Prop} {goodAfter : β → Prop}

/-- From each of these states the computation leads to one of them, with a result that is good,
inside whatever layers it is made. -/
def Ends (w : World) (states : Machine → Prop) (x : Run α) (good : α → Prop) : Prop :=
  ∀ inner m, states m → ∃ a m', on (w.amid inner) x m = (.ok a, m') ∧ states m' ∧ good a

/-- From each of these states the computation leads to one of them, with this result. -/
def Answers (w : World) (states : Machine → Prop) (x : Run α) (a : α) : Prop :=
  Ends w states x (· = a)

theorem Answers.exists_on (h : Answers w states x a) (hm : states m) :
    ∃ m', on w x m = (.ok a, m') ∧ states m' := by
  obtain ⟨_, m', ends, hm', rfl⟩ := h [] m hm
  exact ⟨m', ends, hm'⟩

/-- What changes nothing answers. -/
theorem Gives.answers (h : Gives x m a) : Answers w (· = m) x a := by
  rintro inner _ rfl
  exact ⟨a, _, h _, rfl, rfl⟩

theorem Ends.imp {better : α → Prop} (h : Ends w states x better)
    (weaker : ∀ a, better a → good a) : Ends w states x good := by
  intro inner m hm
  obtain ⟨a, m', ends, hm', ha⟩ := h inner m hm
  exact ⟨a, m', ends, hm', weaker a ha⟩

/-- What comes to the same as another computation in every world ends as this one does. -/
theorem Ends.of_on {y : Run α} (same : ∀ w m, on w x m = on w y m) (h : Ends w states y good) :
    Ends w states x good := by
  intro inner m hm
  rw [same]
  exact h inner m hm

theorem Ends.pure (h : good a) : Ends w states (Pure.pure a) good :=
  fun _ m hm => ⟨a, m, rfl, hm, h⟩

theorem Answers.pure (a : α) : Answers w states (Pure.pure a) a :=
  Ends.pure rfl

theorem Ends.bind (h : Ends w states x good)
    (next : ∀ a, good a → Ends w states (f a) goodAfter) : Ends w states (x >>= f) goodAfter := by
  intro inner m hm
  obtain ⟨a, m₁, first, hm₁, ha⟩ := h inner m hm
  obtain ⟨b, m₂, second, hm₂, hb⟩ := next a ha inner m₁ hm₁
  exact ⟨b, m₂, on_bind_eq_ok_iff.2 ⟨a, m₁, first, second⟩, hm₂, hb⟩

/-- What comes after an answer goes on with it. -/
theorem Answers.bind (h : Answers w states x a) (next : Ends w states (f a) goodAfter) :
    Ends w states (x >>= f) goodAfter := by
  refine Ends.bind h ?_
  rintro _ rfl
  exact next

/-- What looks at the store goes on with that of any of the states. -/
theorem Ends.store_bind {f : Store → Run β}
    (next : ∀ m, states m → Ends w states (f m.store) goodAfter) :
    Ends w states (Run.store >>= f) goodAfter := by
  intro inner m hm
  obtain ⟨b, m', ends, hm', hb⟩ := next m hm inner m hm
  exact ⟨b, m', ((gives_store m).bind f).trans ends, hm', hb⟩

/-- What ends well inside any layers does so from inside another layer. -/
theorem Ends.inside (h : Ends w states x good) (layer : Layer) :
    Ends (w.inside layer) states x good := by
  intro inner m hm
  have ends := h (inner ++ [layer]) m hm
  rw [World.amid, List.append_assoc] at ends
  exact ends

/-- Layers around a question are some more layers. -/
theorem Ends.within (h : Ends w states x good) (layer : Layer) :
    Ends w states (Run.within layer x) good := by
  intro inner m hm
  obtain ⟨a, m', ends, hm', ha⟩ := h (layer :: inner) m hm
  exact ⟨a, m', (on_within ..).trans ends, hm', ha⟩

theorem Ends.inFunction (h : Ends w states x good) (home name : String)
    (params : Bindings Value) : Ends w states (Run.inFunction home name params x) good :=
  h.within _

/-- Of some values that are asked one after the other the first that agrees is found. -/
theorem answers_findM? {p : α → Run Bool} {agrees : α → Bool} {values : List α}
    (asked : ∀ v ∈ values, Answers w states (p v) (agrees v)) :
    Answers w states (values.findM? p) (values.find? agrees) := by
  induction values with
  | nil => exact Answers.pure none
  | cons v rest ih =>
    rw [List.findM?, List.find?_cons]
    refine (asked v (List.mem_cons_self ..)).bind ?_
    cases agrees v with
    | true => exact Answers.pure (some v)
    | false => exact ih fun w hw => asked w (List.mem_cons_of_mem _ hw)

/-- Some questions that all answer give all answers. -/
theorem answers_mapM {f : α → Run β} {g : α → β} {l : List α}
    (asked : ∀ a ∈ l, Answers w states (f a) (g a)) :
    Answers w states (l.mapM f) (l.map g) := by
  induction l with
  | nil => exact Answers.pure []
  | cons a rest ih =>
    rw [List.mapM_cons]
    refine (asked a (List.mem_cons_self ..)).bind (Answers.bind (ih fun b hb => ?_) (.pure rfl))
    exact asked b (List.mem_cons_of_mem _ hb)

end Run

end DocGuard

import DocGuard.Proofs.Program.Entering
/-!
Calls of functions, and what is around them.

Around a call are the frames that it comes from, the values that other calls work with meanwhile,
how many calls may still go on inside it, and what was reported before. A call that takes no notice
of this has an effect of its own: `aloneAt n` is what a call comes to that looks at nothing but its
own layers and makes at most `n` calls one inside the other, and is undefined for any other call.
By induction on what the computation asks for, and on the levels, such a call comes to the same
wherever it is made (`callAt_of_aloneAt`).
-/

namespace DocGuard

open Run

section Around

variable {α : Type} {w : World} {m : Machine}

/-- What works with some values sees a world in which they are held. -/
theorem on_retaining (values : List Value) (x : Run α) :
    on w (retaining values x) m = on (w.inside (.holding values)) x m :=
  on_within ..

/-- A computation of which the result is not wanted. -/
theorem on_discard (x : Run α) :
    on w (discard x) m = match on w x m with
      | (.ok _, m') => (.ok (), m')
      | (.error e, m') => (.error e, m') :=
  on_bind w x (fun _ => pure ()) m

end Around

/-! ### Calls of functions -/

section Calls

variable {w : World} {m : Machine} {id : FunctionId} {f : Function} {code : Code}
variable {outer : Bindings CellId} {sig : Signature} {args : List Value} {keywords : Bindings Value}

/-- A call of a function that is stored goes to this function, one level deeper. -/
theorem on_callAt_function (stored : m.store.functions[id]? = some f) (n : Nat)
    (layers : List Layer) (args : List Value) (keywords : Bindings Value) :
    callAt (n + 1) layers (.function id) args keywords m
      = on (.at n layers) (callFunction Run.ask f args keywords) m := by
  have content : m.store.content (.function id) = .function id := rfl
  rw [callAt, callWith, (gives_store m).bind]
  simp only
  rw [callPlainly, (gives_store m).bind]
  simp only [content, stored]
  rfl

/-- A call that does not bind is refused, and changes nothing. -/
theorem on_callFunction_of_bind?_eq_none (runs : f.behaviour = .run code outer)
    (signature : m.store.codeSignature code f.defaults f.keywordDefaults = sig)
    (unbound : sig.bind? args keywords = none) (call : Call) :
    on w (callFunction call f args keywords) m = (.error .badCall, m) := by
  rw [callFunction]
  simp only [runs]
  rw [(gives_store m).bind]
  simp only [signature, unbound]
  rfl

/-- A call that binds enters the body. -/
theorem on_callFunction_of_bind?_eq_some (runs : f.behaviour = .run code outer)
    (signature : m.store.codeSignature code f.defaults f.keywordDefaults = sig)
    {binding : Binding} (binds : sig.bind? args keywords = some binding) (call : Call) :
    on w (callFunction call f args keywords) m
      = on w (runEntered call sig code m.entryMark (m.entryVariables sig code binding outer))
          (m.entered sig code binding) := by
  rw [← on_runCode, callFunction]
  simp only [runs]
  rw [(gives_store m).bind]
  simp only [signature, binds]

end Calls

/-! ### Computations alone -/

/-- What a computation comes to: how it ends, the store that it leaves, and what it reports. -/
structure Effect (α : Type) where
  result : Except Fault α
  store : Store
  events : List Event

namespace Effect

variable {α : Type}

/-- The effect after something was reported. -/
def after (es : List Event) (e : Effect α) : Effect α :=
  { e with events := es ++ e.events }

/-- How a computation of this effect ends, and the machine that it leaves, after these events. -/
def on (e : Effect α) (earlier : List Event) : Except Fault α × Machine :=
  (e.result, ⟨e.store, earlier ++ e.events⟩)

theorem on_after (es : List Event) (e : Effect α) (earlier : List Event) :
    (e.after es).on earlier = e.on (earlier ++ es) := by
  rw [on, on, after, List.append_assoc]

end Effect

/-- What calls come to alone, by the layers of their own that are around them. -/
abbrev Lone := List Layer → Value → List Value → Bindings Value → Store → Option (Effect Value)

namespace Plan

variable {α β : Type} {lone : Lone} {levels : Nat} {own : List Layer}

/-- What a plan comes to alone. It has layers of its own around it, and so many levels for calls; it
must not look at anything further out, and its calls must not either. -/
def alone (lone : Lone) (levels : Nat) (own : List Layer) : Plan α → Option (Effect α)
  | ends result s => some ⟨result, s, []⟩
  | reports es rest => (rest.alone lone levels own).map (Effect.after es)
  | looks _ => none
  | near rest => (framesOf own).head?.bind fun f => (rest (some f)).alone lone levels own
  | needs more rest => if more ≤ levels then (rest true).alone lone levels own else none
  | calls inside v args keywords s rest =>
    (lone (inside ++ own) v args keywords s).bind fun called =>
      ((rest called.result called.store).alone lone levels own).map (Effect.after called.events)

/-- What a plan comes to alone it comes to in every world that is around its own layers. -/
theorem on_of_alone {w : World} {outer : List Layer} (around : w.layers = own ++ outer)
    (enough : levels ≤ w.levels)
    (sound : ∀ inner v args keywords s called, lone inner v args keywords s = some called →
      ∀ es, w.answer (inner ++ outer) v args keywords ⟨s, es⟩ = called.on es)
    {p : Plan α} {e : Effect α} (h : p.alone lone levels own = some e) (es : List Event) :
    p.on w es = e.on es := by
  -- by induction on what the plan asks for
  induction p generalizing e es with
  | ends result s =>
    cases h
    rw [Effect.on, List.append_nil]
    rfl
  | reports more rest ih =>
    obtain ⟨e', alone, rfl⟩ := Option.map_eq_some_iff.1 h
    rw [Effect.on_after]
    exact ih alone _
  | looks rest ih => cases h
  | near rest ih =>
    obtain ⟨f, nearest, alone⟩ := Option.bind_eq_some_iff.1 h
    have same : (framesOf w.layers).head? = some f := by
      rw [around, framesOf, List.filterMap_append, List.head?_append]
      exact congrArg (Option.or · _) nearest
    rw [on, same]
    exact ih _ alone es
  | needs more rest ih =>
    rw [alone] at h
    split at h
    · next within =>
      rw [on, decide_eq_true (Nat.le_trans within enough)]
      exact ih _ h es
    · cases h
  | calls inside v args keywords s rest ih =>
    obtain ⟨called, ended, h⟩ := Option.bind_eq_some_iff.1 h
    obtain ⟨e', alone, rfl⟩ := Option.map_eq_some_iff.1 h
    have answer := sound _ _ _ _ _ _ ended es
    rw [List.append_assoc, ← around] at answer
    simp only [on, answer]
    rw [Effect.on_after]
    exact ih _ _ alone _

/-- A plan that goes on after another one is alone if both are. -/
theorem alone_andThen {p : Plan α} {f : Except Fault α → Store → Plan β} {e : Effect β}
    (h : (p.andThen f).alone lone levels own = some e) :
    ∃ first second, p.alone lone levels own = some first
      ∧ (f first.result first.store).alone lone levels own = some second
      ∧ e = second.after first.events := by
  -- what is reported on the way is put in front of the events of both parts
  induction p generalizing e with
  | ends result s => exact ⟨⟨result, s, []⟩, e, rfl, h, rfl⟩
  | reports es rest ih =>
    obtain ⟨e', alone, rfl⟩ := Option.map_eq_some_iff.1 h
    obtain ⟨first, second, begins, goesOn, rfl⟩ := ih alone
    exact ⟨first.after es, second, by rw [Plan.alone, begins]; rfl, goesOn,
      by rw [Effect.after, Effect.after, Effect.after, Effect.after, List.append_assoc]⟩
  | looks rest ih => cases h
  | near rest ih =>
    obtain ⟨f, nearest, alone⟩ := Option.bind_eq_some_iff.1 h
    obtain ⟨first, second, begins, goesOn, rfl⟩ := ih _ alone
    exact ⟨first, second, by rw [Plan.alone, nearest]; exact begins, goesOn, rfl⟩
  | needs more rest ih =>
    rw [andThen, Plan.alone] at h
    split at h
    · next within =>
      obtain ⟨first, second, begins, goesOn, rfl⟩ := ih _ h
      exact ⟨first, second, by rw [Plan.alone, if_pos within, begins], goesOn, rfl⟩
    · cases h
  | calls inside v args keywords s rest ih =>
    obtain ⟨called, ended, h⟩ := Option.bind_eq_some_iff.1 h
    obtain ⟨e', alone, rfl⟩ := Option.map_eq_some_iff.1 h
    obtain ⟨first, second, begins, goesOn, rfl⟩ := ih _ _ alone
    exact ⟨first.after called.events, second, by rw [Plan.alone, ended]; simp [begins], goesOn,
      by rw [Effect.after, Effect.after, Effect.after, Effect.after, List.append_assoc]⟩

end Plan

/-- What a call comes to alone, inside layers of its own, with at most `n` calls one inside the
other. -/
def aloneAt : (n : Nat) → Lone
  | 0, _, _, _, _, _ => none
  | n + 1, own, v, args, keywords, s =>
    (callWith Run.ask v args keywords s).alone (aloneAt n) n own

/-! ### What is given up alone -/

/-- The computation returns `a` alone, and leaves the second store. -/
def ReturnsAlone {α : Type} (lone : Lone) (levels : Nat) (own : List Layer) (x : Run α) (s : Store)
    (a : α) (s' : Store) : Prop :=
  ∃ e, (x s).alone lone levels own = some e ∧ e.result = .ok a ∧ e.store = s'

section ReturnsAlone

variable {α β : Type} {lone : Lone} {levels : Nat} {own : List Layer} {s s' : Store}

/-- If two computations one after the other return alone, both do. -/
theorem ReturnsAlone.bind {x : Run α} {f : α → Run β} {b : β}
    (h : ReturnsAlone lone levels own (x >>= f) s b s') :
    ∃ a s₁, ReturnsAlone lone levels own x s a s₁ ∧ ReturnsAlone lone levels own (f a) s₁ b s' := by
  obtain ⟨e, alone, returns, rfl⟩ := h
  obtain ⟨first, second, begins, goesOn, rfl⟩ := Plan.alone_andThen alone
  cases ended : first.result with
  | error _ =>
    rw [ended] at goesOn
    cases goesOn
    cases returns
  | ok a =>
    rw [ended] at goesOn
    exact ⟨a, first.store, ⟨first, begins, ended, rfl⟩, second, goesOn, returns, rfl⟩

/-- What looks at the store goes on with it. -/
theorem ReturnsAlone.store_bind {f : Store → Run β} {b : β}
    (h : ReturnsAlone lone levels own (Run.store >>= f) s b s') :
    ReturnsAlone lone levels own (f s) s b s' :=
  h

/-- To look for instances that nothing refers to is to look at everything around. Who does this and
takes no notice of what is around has none to give up. -/
theorem ReturnsAlone.giveUp {values : List Value}
    (h : ReturnsAlone lone levels own (retaining values (giveUp ask)) s () s') :
    s' = s ∧ ∀ es, Gives (DocGuard.giveUp ask) ⟨s, es⟩ () := by
  obtain ⟨e, alone, -, rfl⟩ := h
  have plan : retaining values (DocGuard.giveUp ask) s = ((if s.tellsInstances then
      giveUpAtMost ask s.instances.length else pure ()) s).within (.holding values) := rfl
  have gives (quiet : (if s.tellsInstances then giveUpAtMost ask s.instances.length
      else pure ()) = (pure () : Run Unit)) (es : List Event) :
      Gives (DocGuard.giveUp ask) ⟨s, es⟩ () := by
    intro w
    rw [DocGuard.giveUp, (gives_store _).bind, quiet]
    rfl
  rw [plan] at alone
  -- whoever looks for instances to give up looks around, and so does not return alone
  cases asks : s.tellsInstances with
  | false =>
    rw [asks] at alone
    cases alone
    exact ⟨rfl, gives (by rw [asks]; rfl)⟩
  | true =>
    rw [asks] at alone
    cases many : s.instances.length with
    | zero =>
      rw [many] at alone
      cases alone
      exact ⟨rfl, gives (by rw [asks, many]; rfl)⟩
    | succ n =>
      rw [many] at alone
      cases alone

/-- A function that returns alone leaves nothing to be given up. -/
theorem giveUp_of_aloneAt {id : FunctionId} {f : Function} {code : Code} {outer : Bindings CellId}
    (stored : s.functions[id]? = some f) (runs : f.behaviour = .run code outer) {n : Nat}
    {args : List Value} {keywords : Bindings Value} {e : Effect Value} {v : Value}
    (h : aloneAt n own (.function id) args keywords s = some e) (returns : e.result = .ok v)
    (es : List Event) : Gives (giveUp ask) ⟨e.store, es⟩ () := by
  cases n with
  | zero => cases h
  | succ n =>
    have content : s.content (.function id) = .function id := rfl
    have called : ReturnsAlone (aloneAt n) n own (callPlainly ask (.function id) args keywords) s v
        e.store := ⟨e, h, returns, rfl⟩
    rw [callPlainly] at called
    have called := called.store_bind
    simp only [content, stored, callFunction, runs] at called
    have called := called.store_bind
    cases binds : (s.codeSignature code f.defaults f.keywordDefaults).bind? args keywords with
    | none =>
      simp only [binds] at called
      obtain ⟨_, refused, returns, -⟩ := called
      cases refused
      cases returns
    | some binding =>
      simp only [binds, runCode] at called
      -- the marks, the variables and the report come before the body
      obtain ⟨_, _, -, called⟩ := called.bind
      obtain ⟨_, _, -, called⟩ := called.bind
      obtain ⟨_, _, -, called⟩ := called.bind
      obtain ⟨_, _, -, entered⟩ := called.bind
      obtain ⟨_, _, -, ended⟩ := entered.bind
      obtain ⟨_, _, released, _, last, -, same⟩ := ended.bind
      obtain ⟨rfl, quiet⟩ := released.giveUp
      cases last
      rw [← same]
      exact quiet es

end ReturnsAlone

/-! ### What is around a call -/

/-- **A call that takes no notice of what is around it comes to the same everywhere**: with as many
levels or more, from all frames, whatever else is in use and whatever was reported before. -/
theorem callAt_of_aloneAt {n : Nat} {own : List Layer} {v : Value} {args : List Value}
    {keywords : Bindings Value} {s : Store} {e : Effect Value}
    (h : aloneAt n own v args keywords s = some e) {n' : Nat} (enough : n ≤ n')
    (outer : List Layer) (es : List Event) :
    callAt n' (own ++ outer) v args keywords ⟨s, es⟩ = e.on es := by
  -- by induction on the levels: the calls inside have one level less
  induction n generalizing own v args keywords s e n' es with
  | zero => cases h
  | succ n ih =>
    obtain ⟨k, rfl⟩ : ∃ k, n' = k + 1 := ⟨n' - 1, by omega⟩
    have more : n ≤ k := Nat.le_of_succ_le_succ enough
    exact Plan.on_of_alone rfl more
      (fun inner v args keywords s called ended es => ih ended more es) h es

end DocGuard

import DocGuard.Program.Check
import DocGuard.Proofs.Program.Answer
import Mathlib.Logic.Relation
/-!
Computations that only ask.

Before a check comes to its verdict it asks the values that it meets, which classes they are of,
whether they count as true, what they are called and what they document. Each question may run code
of the program, and this is all it does: it changes the store, and calls (`Leads`), be it from
inside layers of its own. A question by itself reports nothing, and it does not fail as checks do
unless a call that it makes has failed so (`Explained`). A computation made of such questions is one itself (`Run.Inquires`): there is a lemma
for each way to put computations together, and the modules below this one have a lemma for each
question, with a proof that follows what is asked one after the other.
-/

namespace DocGuard

open Run

/-- The failure is that of a check. -/
def Fault.isOfCheck : Fault → Bool
  | .options _ | .mismatch _ _ | .warned _ => true
  | .badCall | .badParents | .badValue _ | .unboundName _ | .noMember _ | .noParent | .noKey | .noItem
  | .exhausted | .noQuotient | .tooLarge | .changed | .notEncoded | .noEncoding | .tooDeep => false

/-- From one machine to another there are only calls, and changes of the store. -/
def Leads (w : World) : Machine → Machine → Prop :=
  Relation.ReflTransGen fun m m' => m'.events = m.events
    ∨ ∃ inner v args keywords, (on (w.amid inner) (ask v args keywords) m).2 = m'

/-- The failure is none of a check, or a call that was made after `m₀` has failed so. -/
def Explained (w : World) (m₀ : Machine) (e : Fault) : Prop :=
  e.isOfCheck = false ∨ ∃ inner v args keywords m, Leads w m₀ m
    ∧ (on (w.amid inner) (ask v args keywords) m).1 = .error e

namespace Run

variable {α β : Type} {w : World} {m₀ : Machine}

/-- A computation that checks nothing itself: events are added by calls only, and if it fails as
checks do, a call has failed so. -/
structure Inquires (w : World) (m₀ : Machine) (x : Run α) : Prop where
  leads : ∀ inner m, Leads w m₀ m → Leads w m₀ (on (w.amid inner) x m).2
  failure : ∀ inner m e, Leads w m₀ m → (on (w.amid inner) x m).1 = .error e → Explained w m₀ e

namespace Inquires

theorem of_quiet {x : Run α} (quiet : ∀ w' m, (on w' x m).2.events = m.events)
    (failure : ∀ w' m e, (on w' x m).1 = .error e → Explained w m₀ e) :
    Inquires w m₀ x :=
  ⟨fun _ m led => led.tail (.inl (quiet _ m)), fun _ m e _ h => failure _ m e h⟩

theorem of_call (v : Value) (args : List Value) (keywords : Bindings Value) :
    Inquires w m₀ (ask v args keywords) where
  leads inner _ led := led.tail (.inr ⟨inner, v, args, keywords, rfl⟩)
  failure inner m _ led h := .inr ⟨inner, v, args, keywords, m, led, h⟩

theorem pure (a : α) : Inquires w m₀ (Pure.pure a : Run α) :=
  of_quiet (fun _ _ => rfl) fun _ _ _ h => by cases h

theorem throw {e : Fault} (h : Explained w m₀ e) :
    Inquires w m₀ (MonadExcept.throw e : Run α) :=
  of_quiet (fun _ _ => rfl) fun _ _ _ failed => by
    cases failed
    exact h

/-- What fails by itself fails as no check does. -/
theorem fail {e : Fault} (h : e.isOfCheck = false) :
    Inquires w m₀ (MonadExcept.throw e : Run α) :=
  .throw (.inl h)

theorem store : Inquires w m₀ Run.store :=
  of_quiet (fun _ _ => rfl) fun _ _ _ h => by cases h

theorem change (f : Store → Store) : Inquires w m₀ (Run.change f) :=
  of_quiet (fun _ _ => rfl) fun _ _ _ h => by cases h

/-- Layers around a question are some more layers around what it asks. -/
theorem within {x : Run α} (hx : Inquires w m₀ x) (layer : Layer) :
    Inquires w m₀ (Run.within layer x) := by
  refine ⟨fun inner m led => ?_, fun inner m e led h => ?_⟩
  · rw [on_within]
    exact hx.leads (layer :: inner) m led
  · rw [on_within] at h
    exact hx.failure (layer :: inner) m e led h

theorem inFunction {x : Run α} (hx : Inquires w m₀ x) (home name : String)
    (params : Bindings Value) : Inquires w m₀ (Run.inFunction home name params x) :=
  hx.within _

theorem bind {x : Run α} {f : α → Run β} (hx : Inquires w m₀ x)
    (hf : ∀ a, Inquires w m₀ (f a)) : Inquires w m₀ (x >>= f) := by
  refine ⟨fun inner m led => ?_, fun inner m e led h => ?_⟩
  · have next := hx.leads inner m led
    rw [on_bind]
    rcases ended : on (w.amid inner) x m with ⟨_ | a, m'⟩
    · rw [ended] at next
      exact next
    · rw [ended] at next
      exact (hf a).leads inner m' next
  · have next := hx.leads inner m led
    have failure := hx.failure inner m
    rw [on_bind] at h
    rcases ended : on (w.amid inner) x m with ⟨_ | a, m'⟩
    · rw [ended] at h failure
      cases h
      exact failure _ led rfl
    · rw [ended] at h next
      exact (hf a).failure inner m' e next h

/-- What failed may be attempted again in another way, or the failure is passed on. -/
theorem attempt_bind {x : Run α} {f : Except Fault α → Run β} (hx : Inquires w m₀ x)
    (ok : ∀ a, Inquires w m₀ (f (.ok a)))
    (error : ∀ e, Explained w m₀ e → Inquires w m₀ (f (.error e))) :
    Inquires w m₀ (Run.attempt x >>= f) := by
  have whole (w' : World) (m : Machine) :
      on w' (Run.attempt x >>= f) m = on w' (f (on w' x m).1) (on w' x m).2 := by
    rw [on_bind, on_attempt]
  have goOn {inner : List Layer} {m : Machine} (led : Leads w m₀ m) :
      Inquires w m₀ (f (on (w.amid inner) x m).1) := by
    rcases ended : (on (w.amid inner) x m).1 with e | a
    · exact error e (hx.failure inner m e led ended)
    · exact ok a
  refine ⟨fun inner m led => ?_, fun inner m e led h => ?_⟩
  · rw [whole]
    exact (goOn led).leads inner _ (hx.leads inner m led)
  · rw [whole] at h
    exact (goOn led).failure inner _ e (hx.leads inner m led) h

theorem ite {c : Prop} [Decidable c] {x y : Run α} (hx : Inquires w m₀ x)
    (hy : Inquires w m₀ y) : Inquires w m₀ (if c then x else y) := by
  split
  · exact hx
  · exact hy

/-- What is asked on the way under a condition is followed by the same questions as without it. -/
theorem ite_bind {c : Prop} [Decidable c] {x : Run PUnit} {goOn : PUnit → Run α}
    (hx : Inquires w m₀ x) (hGoOn : ∀ u, Inquires w m₀ (goOn u)) :
    Inquires w m₀ (if c then x >>= goOn else goOn ⟨⟩) :=
  .ite (hx.bind hGoOn) (hGoOn ⟨⟩)

theorem discard {x : Run α} (hx : Inquires w m₀ x) :
    Inquires w m₀ (Functor.discard x) :=
  hx.bind fun _ => pure _

/-- Some failures give nothing, and any other is passed on. -/
theorem orNone {x : Run α} (hx : Inquires w m₀ x) (expected : Fault → Bool) :
    Inquires w m₀ (do
      match ← Run.attempt x with
      | .ok a => return some a
      | .error e => if expected e then return none else MonadExcept.throw e) :=
  .attempt_bind hx (fun _ => pure _) fun _ explained => .ite (pure _) (.throw explained)

theorem orMissing {x : Run α} (hx : Inquires w m₀ x) :
    Inquires w m₀ (Run.orMissing x) :=
  hx.orNone Fault.isMissing

theorem orUnfit {x : Run α} (hx : Inquires w m₀ x) : Inquires w m₀ (Run.orUnfit x) :=
  hx.orNone Fault.isUnfit

/-! #### Lists -/

section Lists

variable (l : List α)

theorem mapM {f : α → Run β} (h : ∀ a, Inquires w m₀ (f a)) :
    Inquires w m₀ (l.mapM f) := by
  induction l with
  | nil => exact pure _
  | cons a rest ih =>
    rw [List.mapM_cons]
    exact (h a).bind fun _ => ih.bind fun _ => pure _

theorem forM {f : α → Run PUnit} (h : ∀ a, Inquires w m₀ (f a)) :
    Inquires w m₀ (l.forM f) := by
  induction l with
  | nil => exact pure _
  | cons a rest ih => exact (h a).bind fun _ => ih

theorem forIn {f : α → β → Run (ForInStep β)} (h : ∀ a b, Inquires w m₀ (f a b)) (b : β) :
    Inquires w m₀ (ForIn.forIn l b f) := by
  induction l generalizing b with
  | nil => exact pure _
  | cons a rest ih =>
    rw [List.forIn_cons]
    refine (h a b).bind fun step => ?_
    cases step with
    | done b => exact pure _
    | yield b => exact ih b

theorem foldlM {f : β → α → Run β} (h : ∀ b a, Inquires w m₀ (f b a)) (b : β) :
    Inquires w m₀ (l.foldlM f b) := by
  induction l generalizing b with
  | nil => exact pure _
  | cons a rest ih => exact (h b a).bind fun _ => ih _

theorem findM? {p : α → Run Bool} (h : ∀ a, Inquires w m₀ (p a)) :
    Inquires w m₀ (l.findM? p) := by
  induction l with
  | nil => exact pure _
  | cons a rest ih =>
    refine (h a).bind fun found => ?_
    cases found
    · exact ih
    · exact pure _

theorem filterM {p : α → Run Bool} (h : ∀ a, Inquires w m₀ (p a)) :
    Inquires w m₀ (l.filterM p) := by
  have aux (l kept : List α) : Inquires w m₀ (List.filterAuxM p l kept) := by
    induction l generalizing kept with
    | nil => exact pure _
    | cons a rest ih => exact (h a).bind fun _ => ih _
  exact (aux l []).bind fun _ => pure _

end Lists

end Inquires

end Run

end DocGuard

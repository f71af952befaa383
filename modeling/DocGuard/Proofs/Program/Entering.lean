import DocGuard.Proofs.Program.Binding
import DocGuard.Proofs.Program.Function
/-!
Entering the body of a function.

A call that binds gets two marks and its own variables, reports that it was entered, and runs the
body. The body begins with every parameter's variable holding what the call gives to the parameter.
This is what the running call sees of itself, whether its frame keeps a dictionary or not: a
parameter has one variable among the function's own and none among those taken from outside.
-/

namespace DocGuard

/-- A name that is bound, and to one thing only, means this thing. -/
theorem Bindings.get?_of_all {α : Type} {b : Bindings α} {name : String} {a : α}
    (one : ∃ c, (name, c) ∈ b) (all : ∀ c, (name, c) ∈ b → c = a) : b.get? name = some a := by
  induction b with
  | nil => simp at one
  | cons entry rest ih =>
    obtain ⟨other, c⟩ := entry
    rw [get?_cons]
    by_cases e : name = other
    · subst e
      rw [all c (List.mem_cons_self ..), if_pos (beq_self_eq_true name)]
    · have later : ∃ c, (name, c) ∈ rest := by simpa [e] using one
      rw [if_neg (by simpa using e)]
      exact ih later fun c hc => all c (List.mem_cons_of_mem _ hc)

namespace Store

variable {s : Store} {vars : Bindings CellId} {name : String} {v : Value}

/-- Some variable has this name, and all that have it hold `v`. -/
structure Holds (s : Store) (vars : Bindings CellId) (name : String) (v : Value) : Prop where
  one : ∃ id, (name, id) ∈ vars
  all : ∀ id, (name, id) ∈ vars → s.cell? id = some v

theorem mem_heldBy {w : Value} :
    (name, w) ∈ s.heldBy vars ↔ ∃ id, (name, id) ∈ vars ∧ s.cell? id = some w := by
  simp only [heldBy, List.mem_filterMap, Option.map_eq_some_iff, Prod.exists, Prod.mk.injEq]
  constructor
  · rintro ⟨other, id, hid, u, hu, rfl, rfl⟩
    exact ⟨id, hid, hu⟩
  · rintro ⟨id, hid, hw⟩
    exact ⟨name, id, hid, w, hw, rfl, rfl⟩

/-- The variables list the value under its name. -/
theorem Holds.get?_heldBy (h : s.Holds vars name v) : (s.heldBy vars).get? name = some v := by
  obtain ⟨id, hid⟩ := h.one
  refine Bindings.get?_of_all ⟨v, mem_heldBy.2 ⟨id, hid, h.all id hid⟩⟩ fun w hw => ?_
  obtain ⟨other, hother, held⟩ := mem_heldBy.1 hw
  exact Option.some_inj.1 (held.symm.trans (h.all other hother))

/-! ### The dictionary of a frame -/

theorem namedEntries_cons_str (mark : Nat) (other : String) (w : Value)
    (entries : List (Value × Value)) :
    namedEntries ((.str mark other, w) :: entries) = (other, w) :: namedEntries entries := rfl

/-- A name just put into a dictionary has its new meaning, and the others keep theirs. -/
theorem get?_putNamed (entries : List (Value × Value)) (other : String) :
    (namedEntries (putNamed name v entries)).get? other
      = if other = name then some v else (namedEntries entries).get? other := by
  induction entries with
  | nil => simp [putNamed, sharedText, namedEntries_cons_str, Bindings.get?_cons]
  | cons entry rest ih =>
    obtain ⟨key, w⟩ := entry
    cases key with
    | str mark text =>
      by_cases e : text = name
      · subst e
        by_cases e' : other = text <;>
          simp [putNamed, namedEntries_cons_str, Bindings.get?_cons, e']
      · by_cases e' : other = text
        · subst e'
          simp [putNamed, namedEntries_cons_str, Bindings.get?_cons, e]
        · simp [putNamed, namedEntries_cons_str, Bindings.get?_cons, e, e', ih]
    | _ => exact ih

/-- A name just dropped from a dictionary means nothing there, and the others keep their meaning. -/
theorem get?_dropNamed_of_ne (entries : List (Value × Value)) {other : String} (h : other ≠ name) :
    (namedEntries (dropNamed name entries)).get? other = (namedEntries entries).get? other := by
  induction entries with
  | nil => rfl
  | cons entry rest ih =>
    obtain ⟨key, w⟩ := entry
    cases key with
    | str mark text =>
      by_cases e : text = name
      · have gone : dropNamed name ((.str mark text, w) :: rest) = dropNamed name rest := by
          simp [dropNamed, e]
        rw [gone, ih, namedEntries_cons_str, Bindings.get?_cons, if_neg (by simpa [e] using h)]
      · have stays : dropNamed name ((.str mark text, w) :: rest)
            = (.str mark text, w) :: dropNamed name rest := by
          simp [dropNamed, e]
        rw [stays, namedEntries_cons_str, namedEntries_cons_str, Bindings.get?_cons,
          Bindings.get?_cons, ih]
    | _ => exact ih

/-- Writing variables to a dictionary keeps what a name means there, or gives it the value that all
variables of this name hold. -/
theorem get?_refreshed (all : ∀ id, (name, id) ∈ vars → s.cell? id = some v)
    (entries : List (Value × Value))
    (h : (∃ id, (name, id) ∈ vars) ∨ (namedEntries entries).get? name = some v) :
    (namedEntries (s.refreshed vars entries)).get? name = some v := by
  -- by induction on the variables to write: the name has the meaning already, or still gets it
  induction vars generalizing entries with
  | nil =>
    rcases h with ⟨id, hid⟩ | h
    · simp at hid
    · exact h
  | cons entry rest ih =>
    obtain ⟨other, id⟩ := entry
    have others : ∀ i, (name, i) ∈ rest → s.cell? i = some v :=
      fun i hi => all i (List.mem_cons_of_mem _ hi)
    refine ih others _ ?_
    by_cases e : name = other
    · subst e
      right
      have held := all id (List.mem_cons_self ..)
      simp only [held]
      rw [get?_putNamed, if_pos rfl]
    · rcases h with ⟨i, hi⟩ | h
      · left
        exact ⟨i, by simpa [e] using hi⟩
      · right
        cases held : s.cell? id with
        | none =>
          simp only [held]
          rw [get?_dropNamed_of_ne entries e, h]
        | some w =>
          simp only [held]
          rw [get?_putNamed, if_neg e, h]

/-- A running call finds under the name of its variables what all of these hold. -/
theorem Holds.get?_locals (h : s.Holds vars name v) (mark : Nat) (code : Code) :
    (s.locals (.call mark code vars)).get? name = some v := by
  rw [locals]
  cases s.dictionary? mark with
  | none => exact h.get?_heldBy
  | some entries => exact get?_refreshed h.all entries (.inl h.one)

end Store

/-! ### The variables of a call -/

section Variables

variable {sig : Signature} {body : List Action} {binding : Binding} {mark : Nat} {p : Param Value}

/-- The order of a running function lists every parameter. -/
theorem mem_paramOrder : p ∈ paramOrder sig ↔ p ∈ sig := by
  simp only [paramOrder, List.mem_append, List.mem_filter, Param.takesPosition]
  constructor
  · rintro (((h | h) | h) | h) <;> exact h.1
  · intro h
    cases kind : p.kind <;> simp [h]

/-- The names bound in a body besides the parameters are no parameters. -/
theorem not_mem_of_mem_bodyNames {params : List String} {name : String}
    (h : name ∈ bodyNames params body) : name ∉ params := by
  rw [bodyNames] at h
  rcases List.mem_append.1 h with h | h
  · have kept := (List.mem_filter.1 (List.mem_eraseDups.1 h)).2
    simp only [Bool.and_eq_true, List.contains_iff_mem, List.mem_filter] at kept
    simpa using kept.1.2
  · have kept := (List.mem_filter.1 (List.mem_eraseDups.1 (mem_sortBy.1 h))).1
    simpa using (List.mem_filter.1 kept).2

/-- Under the name of a parameter a call has one variable, which holds what the call gives to the
parameter. -/
theorem mem_ownVariables (distinct : (sig.map Param.name).Nodup) (hp : p ∈ sig)
    {held : Option Value} :
    (p.name, held) ∈ ownVariables sig body binding mark ↔ held = binding.argument mark p := by
  rw [ownVariables, List.mem_append]
  constructor
  · rintro (h | h)
    · obtain ⟨q, hq, e⟩ := List.mem_map.1 h
      obtain ⟨name, rfl⟩ := Prod.mk.inj e
      rw [Signature.eq_of_name_eq distinct hp (mem_paramOrder.1 hq) name]
    · obtain ⟨name, hname, e⟩ := List.mem_map.1 h
      obtain ⟨rfl, -⟩ := Prod.mk.inj e
      exact absurd (List.mem_map_of_mem hp) (not_mem_of_mem_bodyNames hname)
  · rintro rfl
    exact .inl (List.mem_map.2 ⟨p, mem_paramOrder.2 hp, rfl⟩)

/-- The variables that a definition takes from outside are none of its parameters. -/
theorem not_mem_params_of_mem_captured {env : Env} {params : List String} {name : String}
    {id : CellId} (h : (name, id) ∈ captured env params body) : name ∉ params := by
  obtain ⟨taken, htaken, e⟩ := List.mem_filterMap.1 h
  obtain ⟨i, -, e⟩ := Option.map_eq_some_iff.1 e
  obtain ⟨rfl, -⟩ := Prod.mk.inj e
  have outside := mem_sortBy.1 htaken
  rw [outerNames, Mentions.outside] at outside
  have kept := (List.mem_filter.1 (List.mem_eraseDups.1 outside)).2
  intro inside
  simp [ownNames, inside] at kept

/-- New variables under a name are those that were to hold something under it. -/
theorem mem_addVariables {s : Store} {held : List (String × Option Value)} {name : String}
    {id : CellId} (h : (name, id) ∈ (s.addVariables held).2) :
    ∃ w, (name, w) ∈ held ∧ (s.addVariables held).1.cell? id = w := by
  obtain ⟨⟨entry, i⟩, hi, e⟩ := List.mem_map.1 h
  obtain ⟨rfl, rfl⟩ := Prod.mk.inj e
  have place : held[i]? = some entry := List.mk_mem_zipIdx_iff_getElem?.1 hi
  exact ⟨entry.2, List.mem_of_getElem? place, Store.cell?_addVariables s held place⟩

/-- Whatever was to be held under a name has a new variable of this name. -/
theorem exists_mem_addVariables (s : Store) {held : List (String × Option Value)} {name : String}
    {w : Option Value} (h : (name, w) ∈ held) : ∃ id, (name, id) ∈ (s.addVariables held).2 := by
  obtain ⟨i, hi⟩ := List.getElem?_of_mem h
  refine ⟨s.cells.size + i, List.mem_map.2 ⟨((name, w), i), ?_, rfl⟩⟩
  exact List.mk_mem_zipIdx_iff_getElem?.2 hi

end Variables

/-! ### The machine in which a body begins -/

namespace Machine

variable (m : Machine) (sig : Signature) (code : Code) (binding : Binding)

/-- The store after a call got its marks and its variables, and these variables. -/
def withVariables : Store × Bindings CellId :=
  { m.store with nextMark := m.store.nextMark + 1 + 1 }.addVariables
    (ownVariables sig code.body binding m.store.nextMark)

/-- The machine in which the body of a call begins. -/
def entered : Machine :=
  ⟨(m.withVariables sig code binding).1, m.events ++ [.entered code.label]⟩

/-- The mark of a call. -/
def entryMark : Nat :=
  m.store.nextMark + 1

/-- The variables of a call, those taken from outside behind its own. -/
def entryVariables (outer : Bindings CellId) : Bindings CellId :=
  (m.withVariables sig code binding).2 ++ outer

/-- The frame of a call. -/
def entryFrame (outer : Bindings CellId) : Frame :=
  .call m.entryMark code (m.entryVariables sig code binding outer)

/-- The variables that a call sees of itself when its body begins, with what they hold. -/
def entryLocals (outer : Bindings CellId) : Bindings Value :=
  (m.entered sig code binding).store.locals (m.entryFrame sig code binding outer)

end Machine

section Entry

variable {w : World} {call : Call} {m : Machine} {sig : Signature} {code : Code}
variable {binding : Binding} {outer : Bindings CellId}

/-- Entering a body only makes its variables and marks, and reports the call. -/
theorem on_runCode :
    Run.on w (runCode call sig code outer binding) m
      = Run.on w (runEntered call sig code m.entryMark (m.entryVariables sig code binding outer))
          (m.entered sig code binding) := by
  rw [runCode, Run.on_bind, Run.on_newMark]
  simp only
  rw [Run.on_bind, Run.on_newMark]
  simp only
  rw [Run.on_bind, Run.on_newVariables]
  simp only
  rw [Run.on_bind, Run.on_emit]
  rfl

/-- The new variables, and those around the function, hold for a parameter what the call gives to
it. -/
theorem holds_entered (distinct : (sig.map Param.name).Nodup)
    (apart : ∀ name id, (name, id) ∈ outer → name ∉ sig.map Param.name) {p : Param Value}
    (hp : p ∈ sig) {v : Value} (given : binding.argument m.store.nextMark p = some v) :
    (m.entered sig code binding).store.Holds (m.entryVariables sig code binding outer)
      p.name v := by
  refine ⟨?_, fun id h => ?_⟩
  · have own : (p.name, binding.argument m.store.nextMark p)
        ∈ ownVariables sig code.body binding m.store.nextMark :=
      (mem_ownVariables distinct hp).2 rfl
    obtain ⟨id, hid⟩ := exists_mem_addVariables _ own
    exact ⟨id, List.mem_append_left _ hid⟩
  · rcases List.mem_append.1 h with h | h
    · obtain ⟨w, hw, held⟩ := mem_addVariables h
      rw [(mem_ownVariables distinct hp).1 hw, given] at held
      exact held
    · exact absurd (List.mem_map_of_mem hp) (apart _ id h)

/-- **A body begins with what the call gave**: the variables that the running call sees hold the
arguments that were bound, and the defaults. -/
theorem heldIn_entryLocals (distinct : (sig.map Param.name).Nodup)
    (apart : ∀ name id, (name, id) ∈ outer → name ∉ sig.map Param.name) {args : List Value}
    {keywords : Bindings Value} (binds : sig.bind? args keywords = some binding) :
    binding.HeldIn sig (m.entryLocals sig code binding outer) := by
  intro p hp own
  have argument : binding.argument m.store.nextMark p
      = (binding.given.get? p.name).or p.default := by
    rw [Binding.argument]
    rw [Param.collects] at own
    cases kind : p.kind <;> rw [kind] at own <;> first | rfl | cases own
  obtain ⟨v, hv⟩ := Signature.given_or_default_of_bind? binds hp own
  rw [hv]
  exact (holds_entered distinct apart hp (argument.trans hv)).get?_locals _ code

end Entry

end DocGuard

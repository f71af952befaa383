import DocGuard.Program.Call
import DocGuard.Program.Running
/-!
What a call gives to the parameters of a function, told in two ways.

A guard binds the arguments and takes for each parameter what was given for it. A running call looks
at the variables of its parameters, and takes a variable that still holds the very default for one
that was not given. Both go by the same list of parameters, so what the second finds for one of them
is what the first finds, or nothing: nothing only where the argument given is the default itself.
-/

namespace DocGuard

/-! ### Signatures -/

namespace Signature

variable {sig : Signature} {p q : Param Value}

/-- Among parameters of different names, a name tells which parameter it is. -/
theorem eq_of_name_eq (distinct : (sig.map Param.name).Nodup) (hp : p ∈ sig) (hq : q ∈ sig)
    (h : q.name = p.name) : q = p := by
  induction sig with
  | nil => simp at hp
  | cons r rest ih =>
    obtain ⟨first, others⟩ := List.nodup_cons.1 distinct
    have apart : ∀ {a b : Param Value}, a = r → b ∈ rest → b.name ≠ a.name := by
      rintro a b rfl hb e
      exact first (e ▸ List.mem_map_of_mem hb)
    rcases List.mem_cons.1 hp with hp | hp <;> rcases List.mem_cons.1 hq with hq | hq
    · exact hq.trans hp.symm
    · exact absurd h (apart hp hq)
    · exact absurd h.symm (apart hq hp)
    · exact ih others hp hq

/-- The default found under the name of a parameter is that of the parameter. -/
theorem default?_name (distinct : (sig.map Param.name).Nodup) (hp : p ∈ sig) :
    sig.default? p.name = p.default := by
  rw [default?]
  cases found : sig.find? fun q => q.name == p.name && q.default.isSome with
  | none =>
    have unlike := List.find?_eq_none.1 found p hp
    cases h : p.default with
    | none => rfl
    | some d => simp [h] at unlike
  | some q =>
    have like := List.find?_some found
    simp only [Bool.and_eq_true, beq_iff_eq] at like
    rw [eq_of_name_eq distinct hp (List.mem_of_find?_eq_some found) like.1]
    rfl

/-- A name that documentation can speak of is that of a parameter which collects nothing. -/
theorem exists_of_mem_documentable {name : String} (h : name ∈ sig.documentable) :
    ∃ p ∈ sig, p.collects = false ∧ p.name = name := by
  obtain ⟨p, hp, e⟩ := List.mem_map.1 h
  obtain ⟨mem, speaks⟩ := List.mem_filter.1 hp
  simp only [Bool.and_eq_true, Bool.not_eq_true'] at speaks
  exact ⟨p, mem, speaks.1.1, e⟩

variable {args : List Value} {keywords : Bindings Value} {binding : Binding}

/-- A call that binds leaves no parameter without an argument and without a default. -/
theorem given_or_default_of_bind? (binds : sig.bind? args keywords = some binding) (hp : p ∈ sig)
    (own : p.collects = false) : ∃ v, (binding.given.get? p.name).or p.default = some v := by
  have complete : sig.lacks binding.given = false := by
    rw [bind?] at binds
    simp only at binds
    split at binds <;> try contradiction
    split at binds <;> try contradiction
    split at binds <;> try contradiction
    split at binds <;> try contradiction
    rename_i complete
    cases binds
    exact Bool.eq_false_iff.2 complete
  have filled := List.any_eq_false.1 complete p hp
  rw [← Option.isSome_iff_exists]
  cases given : binding.given.get? p.name with
  | some v => rfl
  | none =>
    cases default : p.default with
    | some d => rfl
    | none => simp [own, default, Bindings.has, given] at filled

end Signature

/-! ### The arguments of a call -/

namespace Binding

variable {sig : Signature} {binding : Binding} {locals : Bindings Value} {name : String}

/-- The variables hold for each parameter that collects nothing what the call gave to it, or else
its default. -/
def HeldIn (binding : Binding) (sig : Signature) (locals : Bindings Value) : Prop :=
  ∀ p ∈ sig, p.collects = false →
    locals.get? p.name = (binding.given.get? p.name).or p.default

/-- No argument given is the very object that is the default of its parameter. -/
def AvoidsDefaults (binding : Binding) (sig : Signature) : Prop :=
  ∀ p ∈ sig, ∀ v d, binding.given.get? p.name = some v → p.default = some d → v.same d = false

/-- What was given for a name, or the absent value. -/
def givenFor (binding : Binding) (name : String) : Value :=
  (binding.given.get? name).getD .none

/-- A running call finds for a parameter what was given for it, or nothing because that is the
default. -/
theorem supplied_eq (distinct : (sig.map Param.name).Nodup) (held : binding.HeldIn sig locals)
    (speaks : name ∈ sig.documentable) :
    supplied sig locals name = binding.givenFor name
      ∨ supplied sig locals name = .none ∧ ∃ p ∈ sig, ∃ v d,
          binding.given.get? p.name = some v ∧ p.default = some d ∧ v.same d = true := by
  obtain ⟨p, hp, own, rfl⟩ := Signature.exists_of_mem_documentable speaks
  rw [supplied, Signature.default?_name distinct hp, held p hp own, givenFor]
  cases default : p.default with
  | none => left; simp
  | some d =>
    cases given : binding.given.get? p.name with
    | none => left; simp [Value.same_self]
    | some v =>
      by_cases e : v.same d = true
      · right
        exact ⟨by simp [e], p, hp, v, d, given, default, e⟩
      · left
        simp [e]

end Binding

/-! ### Lists of arguments -/

namespace Finding

variable {names : List String} {args args' : List Value} {name : String}

/-- Absent values at the end of the arguments make no difference. -/
theorem argument?_dropTrailing (names : List String) (values : List Value) (name : String) :
    argument? names (dropTrailing values) name = argument? names values name := by
  have split : values
      = dropTrailing values ++ (values.reverse.takeWhile Value.isAbsent).reverse := by
    rw [dropTrailing, ← List.reverse_append, List.takeWhile_append_dropWhile, List.reverse_reverse]
  have absent : ∀ v ∈ (values.reverse.takeWhile Value.isAbsent).reverse, v.isAbsent = true := by
    intro v hv
    exact List.all_eq_true.1 (List.all_takeWhile ..) v (List.mem_reverse.1 hv)
  generalize (values.reverse.takeWhile Value.isAbsent).reverse = dropped at split absent
  generalize dropTrailing values = kept at split ⊢
  subst split
  rw [argument?, argument?]
  -- behind the values that are kept there is nothing, and an absent value counts as nothing
  by_cases h : names.idxOf name < kept.length
  · rw [List.getElem?_append_left h]
  · rw [List.getElem?_append_right (Nat.le_of_not_lt h),
      List.getElem?_eq_none (Nat.le_of_not_lt h)]
    cases found : dropped[names.idxOf name - kept.length]? with
    | none => rfl
    | some v =>
      have gone := absent v (List.mem_of_getElem? found)
      simp only [Option.filter_some, gone]
      rfl

/-- The argument for a name is the value in its place, unless it is absent. -/
theorem argument?_map (names : List String) (f : String → Value) (name : String) :
    argument? names (names.map f) name
      = if name ∈ names then (some (f name)).filter fun v => !v.isAbsent else none := by
  rw [argument?, List.getElem?_map]
  by_cases h : name ∈ names
  · have place : names[names.idxOf name]? = some name := by
      rw [List.getElem?_eq_getElem (List.idxOf_lt_length_of_mem h)]
      simp
    rw [if_pos h, place]
    rfl
  · rw [if_neg h, List.idxOf_eq_length h, List.getElem?_eq_none (Nat.le_refl _)]
    rfl

/-- What a tag is paired with is one of the arguments, and not absent. -/
theorem mem_of_mem_arguedIn {styles : List Style} {doc : Option String} {record : Tag × Value}
    (h : record ∈ arguedIn styles doc names args) :
    record.2 ∈ args ∧ record.2.isAbsent = false := by
  cases doc with
  | none => exact absurd h (by simp [arguedIn])
  | some doc =>
    rw [arguedIn] at h
    split at h
    · cases h
    · obtain ⟨tag, -, e⟩ := List.mem_filterMap.1 h
      obtain ⟨v, found, rfl⟩ := Option.map_eq_some_iff.1 e
      obtain ⟨place, kept⟩ := Option.filter_eq_some_iff.1 found
      exact ⟨List.mem_of_getElem? place, by simpa using kept⟩

/-- Without arguments no tag has one. -/
theorem arguedIn_nil (styles : List Style) (doc : Option String) (names : List String) :
    arguedIn styles doc names [] = [] := by
  refine List.eq_nil_iff_forall_not_mem.2 fun record h => ?_
  simpa using (mem_of_mem_arguedIn h).1

/-- Where each name has the same argument, the tags have the same arguments. -/
theorem arguedIn_congr (same : ∀ name, argument? names args name = argument? names args' name)
    (styles : List Style) (doc : Option String) :
    arguedIn styles doc names args = arguedIn styles doc names args' := by
  have slots : argument? names args = argument? names args' := funext same
  cases doc with
  | none => rfl
  | some doc =>
    rw [arguedIn, arguedIn, argued, argued]
    simp only [slots]

/-- Where each name has the same argument or none, some of the tags have the same arguments, and
the others none. -/
theorem arguedIn_sublist
    (same : ∀ name, argument? names args name = argument? names args' name
      ∨ argument? names args name = none) (styles : List Style) (doc : Option String) :
    (arguedIn styles doc names args).Sublist (arguedIn styles doc names args') := by
  have tags (tags : List Tag) :
      (tags.filterMap fun tag => (argument? names args tag.name).map (tag, ·)).Sublist
        (tags.filterMap fun tag => (argument? names args' tag.name).map (tag, ·)) := by
    -- each tag has the same argument on both sides, or none on the left
    induction tags with
    | nil => exact List.Sublist.refl _
    | cons tag rest ih =>
      rw [List.filterMap_cons, List.filterMap_cons]
      rcases same tag.name with e | e
      · rw [e]
        cases argument? names args' tag.name with
        | none => exact ih
        | some v => exact ih.cons_cons _
      · rw [e]
        cases argument? names args' tag.name with
        | none => exact ih
        | some v => exact ih.cons _
  cases doc with
  | none => exact List.Sublist.refl _
  | some doc =>
    by_cases h : (doc.isEmpty || names.isEmpty) = true
    · have nothing : arguedIn styles (some doc) names args = [] := if_pos h
      rw [nothing]
      exact List.nil_sublist _
    · rw [arguedIn, arguedIn, if_neg h, if_neg h]
      exact tags _

end Finding

/-! ### Both lists -/

namespace Binding

variable {sig : Signature} {binding : Binding} {locals : Bindings Value}
variable (distinct : (sig.map Param.name).Nodup) (held : binding.HeldIn sig locals)
include distinct held

/-- A running call finds for a name the argument that a guard finds, or none because that is the
default. -/
theorem argument?_argumentsOf (name : String) :
    let found := Finding.argument? sig.documentable
      (argumentsOf sig sig.documentable locals) name
    found = Finding.argument? sig.documentable (sig.documentable.map binding.givenFor) name
      ∨ found = none ∧ ¬ binding.AvoidsDefaults sig := by
  intro found
  have slot : found = if name ∈ sig.documentable
      then (some (supplied sig locals name)).filter fun v => !v.isAbsent else none := by
    rw [← Finding.argument?_map, ← Finding.argument?_dropTrailing]
    rfl
  rw [slot, Finding.argument?_map]
  by_cases speaks : name ∈ sig.documentable
  · rw [if_pos speaks, if_pos speaks]
    rcases supplied_eq distinct held speaks with e | ⟨e, p, hp, v, d, given, default, same⟩
    · left
      rw [e]
    · right
      refine ⟨by rw [e]; rfl, fun avoids => ?_⟩
      rw [avoids p hp v d given default] at same
      cases same
  · left
    rw [if_neg speaks, if_neg speaks]

variable (styles : List Style) (doc : Option String)

/-- **What a running call judges of its arguments, a guard judges too.** -/
theorem arguedIn_argumentsOf_sublist :
    (Finding.arguedIn styles doc sig.documentable
      (argumentsOf sig sig.documentable locals)).Sublist
        (Finding.arguedIn styles doc sig.documentable
          (sig.documentable.map binding.givenFor)) := by
  refine Finding.arguedIn_sublist (fun name => ?_) styles doc
  rcases argument?_argumentsOf distinct held name with e | ⟨e, -⟩
  · exact .inl e
  · exact .inr e

/-- **Where no argument is the default of its parameter, both judge the same.** -/
theorem arguedIn_argumentsOf (avoids : binding.AvoidsDefaults sig) :
    Finding.arguedIn styles doc sig.documentable (argumentsOf sig sig.documentable locals)
      = Finding.arguedIn styles doc sig.documentable
          (sig.documentable.map binding.givenFor) := by
  refine Finding.arguedIn_congr (fun name => ?_) styles doc
  rcases argument?_argumentsOf distinct held name with e | ⟨-, e⟩
  · exact e
  · exact absurd avoids e

end Binding

end DocGuard

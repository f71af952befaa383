import DocGuard.Program.Ancestry
/-!
Classes as they were made.

A program can change its classes, and the classes that were made for values written out; the classes
of the language it cannot change. A class that is as it was made (`ClassRef.IsAsMade`) has the
ancestry of the class of the language that it is, or is derived from, and what follows from this
holds of all classes of the language: they are gone through one by one for what their members are,
and what an unlisted class is like is known.
-/

namespace DocGuard

/-! ### The classes of the language -/

namespace BuiltinClass

/-- A class that is not listed has nothing of its own. -/
theorem ofName_cases (name : String) :
    (∃ c ∈ all, c.name = name ∧ ofName name = c)
      ∨ (∀ c ∈ all, c.name ≠ name) ∧ ofName name = ⟨name, some "object", name, false, true, []⟩ := by
  rw [ofName]
  cases found : all.find? fun c => c.name == name with
  | some c =>
    have same := List.find?_some found
    exact .inl ⟨c, List.mem_of_find?_eq_some found, eq_of_beq same, rfl⟩
  | none =>
    refine .inr ⟨fun c hc e => ?_, rfl⟩
    exact List.find?_eq_none.1 found c hc (beq_iff_eq.2 e)

theorem name_ofName (name : String) : (ofName name).name = name := by
  obtain ⟨c, -, rfl, e⟩ | ⟨-, e⟩ := ofName_cases name <;> rw [e]

/-- Only `object` tells the class of an instance. -/
theorem formOf?_class {name : String} (h : name ≠ "object") :
    (ofName name).formOf? "__class__" = none := by
  have listed : ∀ c ∈ all, c.name ≠ "object" → c.formOf? "__class__" = none := by decide +kernel
  obtain ⟨c, hc, rfl, e⟩ | ⟨-, e⟩ := ofName_cases name
  · rw [e]
    exact listed c hc h
  · rw [e]
    rfl

/-- Where a class says how members are read, this is an operation. -/
theorem formOf?_getattribute (name : String) :
    (ofName name).formOf? "__getattribute__" = none
      ∨ (ofName name).formOf? "__getattribute__" = some (.slot .operation) := by
  have listed : ∀ c ∈ all, c.formOf? "__getattribute__" = none
      ∨ c.formOf? "__getattribute__" = some (.slot .operation) := by decide +kernel
  obtain ⟨c, hc, rfl, e⟩ | ⟨-, e⟩ := ofName_cases name
  · rw [e]
    exact listed c hc
  · rw [e]
    exact .inl rfl

/-- No class answers for members that are missing. -/
theorem formOf?_getattr (name : String) : (ofName name).formOf? "__getattr__" = none := by
  have listed : ∀ c ∈ all, c.formOf? "__getattr__" = none := by decide +kernel
  obtain ⟨c, hc, rfl, e⟩ | ⟨-, e⟩ := ofName_cases name
  · rw [e]
    exact listed c hc
  · rw [e]
    rfl

end BuiltinClass

namespace Ancestry

/-- The ancestry of a class of the language consists of classes of the language. -/
theorem exists_of_mem_ofBuiltin {name : String} {c : ClassRef} (h : c ∈ ofBuiltin name) :
    ∃ n, c = .builtin n := by
  have chained (n : Nat) : ∀ name, c ∈ chain n name → ∃ n, c = .builtin n := by
    induction n with
    | zero => exact fun _ h => nomatch h
    | succ n ih =>
      intro name h
      rw [chain, List.mem_cons] at h
      rcases h with rfl | h
      · exact ⟨name, rfl⟩
      · cases parent : (BuiltinClass.ofName name).parent with
        | none =>
          rw [parent] at h
          cases h
        | some above =>
          rw [parent] at h
          exact ih above h
  exact chained 8 name h

/-- The ancestry of a class that is not listed. -/
theorem ofBuiltin_of_not_listed {name : String} (h : ∀ c ∈ BuiltinClass.all, c.name ≠ name) :
    ofBuiltin name = [.builtin name, .builtin "object"] := by
  obtain ⟨c, hc, e, -⟩ | ⟨-, e⟩ := BuiltinClass.ofName_cases name
  · exact absurd e (h c hc)
  · rw [ofBuiltin, chain, e]
    rfl

/-- The ancestry of a class of the language ends with `object`, and it has those scalar types of which
the instances are values. -/
theorem ofBuiltin_spec (name : String) :
    .builtin "object" ∈ ofBuiltin name
      ∧ ∀ t ∈ ScalarType.all, (ofBuiltin name).contains (.builtin t.className)
          = (ClassRef.builtin name).holds t := by
  have listed : ∀ c ∈ BuiltinClass.all, .builtin "object" ∈ ofBuiltin c.name
      ∧ ∀ t ∈ ScalarType.all, (ofBuiltin c.name).contains (.builtin t.className)
          = (ClassRef.builtin c.name).holds t := by
    decide +kernel
  by_cases known : ∃ c ∈ BuiltinClass.all, c.name = name
  · obtain ⟨c, hc, rfl⟩ := known
    exact listed c hc
  · -- a name that is not listed is that of a plain class, and no scalar type has such a name
    have unlisted : ∀ c ∈ BuiltinClass.all, c.name ≠ name := fun c hc e => known ⟨c, hc, e⟩
    have scalars : ∀ t : ScalarType, ∃ c ∈ BuiltinClass.all, c.name = t.className := by
      intro t
      cases t <;> decide +kernel
    rw [ofBuiltin_of_not_listed unlisted]
    refine ⟨by simp, fun t _ => ?_⟩
    have other (t : ScalarType) : name ≠ t.className := by
      obtain ⟨c, hc, e⟩ := scalars t
      exact e ▸ (unlisted c hc).symm
    have noScalar : ScalarType.ofClass? name = none := by
      unfold ScalarType.ofClass?
      split <;> first | rfl | exact absurd rfl (other .boolean) | exact absurd rfl (other .integer)
                      | exact absurd rfl (other .double) | exact absurd rfl (other .string)
    have differ : ClassRef.builtin t.className ≠ .builtin name := by
      intro e
      exact other t (congrArg ClassRef.name e).symm
    have differ' : ClassRef.builtin t.className ≠ .builtin "object" := by
      cases t <;> decide
    have none : (ClassRef.builtin name).holds t = false := by
      rw [ClassRef.holds, ClassRef.builtin, noScalar]
    rw [none]
    simp [differ, differ']
end Ancestry

/-! ### Classes as they were made -/

namespace Store

variable (s : Store) {cls name : String}

theorem ownMember?_builtin_of_slot {kind : SlotKind}
    (h : (BuiltinClass.ofName cls).formOf? name = some (.slot kind)) :
    s.ownMember? (.builtin cls) name = some (.slot kind cls name) := by
  show (BuiltinClass.formOf? (.ofName cls) name).map _ = _
  rw [h, Option.map_some, BuiltinClass.name_ofName]
  rfl

theorem ownMember?_builtin_of_none (h : (BuiltinClass.ofName cls).formOf? name = none) :
    s.ownMember? (.builtin cls) name = none := by
  show (BuiltinClass.formOf? (.ofName cls) name).map _ = _
  rw [h, Option.map_none]

end Store

/-- The class is one of the language, or one that was written out and that the program did not
change. -/
inductive ClassRef.IsAsMade (s : Store) : ClassRef → Prop
  | builtin (name : String) : IsAsMade s (.builtin name)
  | derived (mark : Nat) (base name : String) (untouched : s.written.lookup mark = none) :
    IsAsMade s (.derived mark base name)

/-- The class of the language that a class is, or is derived from. -/
def ClassRef.root (c : ClassRef) : String :=
  match c.origin with
  | .written _ base => base
  | _ => c.name

namespace ClassRef.IsAsMade

variable {s : Store} {c : ClassRef}

/-- The ancestry of the class is that of its root, with the class itself before it if that is
another one, which has no members but those that all classes have. -/
theorem ancestry (h : c.IsAsMade s) :
    s.ancestry c = Ancestry.ofBuiltin c.root
      ∨ (∃ mark base, c.origin = .written mark base) ∧ s.ancestry c = c :: Ancestry.ofBuiltin c.root
        ∧ ∀ name ∈ ["__class__", "__getattribute__", "__getattr__"], s.ownMember? c name = none := by
  cases h with
  | builtin name => exact .inl rfl
  | derived mark base name untouched =>
    -- such a class has no members but those that every class gets when it is made
    have info : s.classInfo (.derived mark base name) = (s.written.lookup mark).getD _ := rfl
    rw [untouched, Option.getD_none] at info
    refine .inr ⟨⟨mark, base, rfl⟩, ?_, fun asked h => ?_⟩
    · rw [Store.ancestry, info]
      rfl
    · show (s.classInfo (.derived mark base name)).members.get? asked = none
      rw [info]
      refine List.lookup_eq_none_iff.2 fun member hm => ?_
      rw [List.mem_append, List.mem_append, List.mem_singleton, List.mem_map, List.mem_singleton]
        at hm
      have unkept : ∀ name ∈ (BuiltinClass.ofName base).unkept,
          name = "__dict__" ∨ name = "__weakref__" := by
        intro name hn
        simp only [BuiltinClass.unkept, List.mem_append, List.mem_ite_nil_left,
          List.mem_singleton] at hn
        exact hn.imp And.right And.right
      simp only [List.mem_cons, List.not_mem_nil, or_false] at h
      rcases hm with (rfl | ⟨name, hn, rfl⟩) | rfl
      · rcases h with rfl | rfl | rfl <;> decide
      · have other : asked ≠ name := by
          rcases unkept name hn with rfl | rfl <;> rcases h with rfl | rfl | rfl <;> decide
        exact bne_iff_ne.2 other
      · rcases h with rfl | rfl | rfl <;> decide

theorem derives (h : c.IsAsMade s) (name : String) :
    s.derives c (.builtin name) = (Ancestry.ofBuiltin c.root).contains (.builtin name) := by
  rw [Store.derives]
  rcases h.ancestry with e | ⟨⟨mark, base, written⟩, e, -⟩
  · rw [e]
  · have other : (ClassRef.builtin name == c) = false := by
      rw [beq_eq_false_iff_ne]
      rintro rfl
      cases written
    rw [e, List.contains_cons, other, Bool.false_or]

variable {name : String}

/-- How its members are read, and its class, the class leaves to its root. -/
theorem inherited? (h : c.IsAsMade s)
    (hn : name ∈ ["__class__", "__getattribute__", "__getattr__"]) :
    s.inherited? c name = (Ancestry.ofBuiltin c.root).findSome? (s.ownMember? · name) := by
  rw [Store.inherited?, Store.memberOf?]
  rcases h.ancestry with e | ⟨-, e, own⟩
  · rw [e]
  · rw [e, List.findSome?_cons, own name hn]

/-- What `object` has itself is found in the class, or before it in an ancestor of the root. -/
theorem exists_inherited?_eq {kind : SlotKind} (h : c.IsAsMade s)
    (hn : name ∈ ["__class__", "__getattribute__", "__getattr__"])
    (last : (BuiltinClass.ofName "object").formOf? name = some (.slot kind)) :
    ∃ cls, .builtin cls ∈ Ancestry.ofBuiltin c.root
      ∧ ((BuiltinClass.ofName cls).formOf? name).isSome
      ∧ s.inherited? c name = s.ownMember? (.builtin cls) name := by
  have found : ((Ancestry.ofBuiltin c.root).findSome? (s.ownMember? · name)).isSome := by
    rw [List.findSome?_isSome_iff]
    refine ⟨_, (Ancestry.ofBuiltin_spec c.root).1, ?_⟩
    rw [s.ownMember?_builtin_of_slot last]
    rfl
  obtain ⟨member, found⟩ := Option.isSome_iff_exists.1 found
  obtain ⟨d, hd, e⟩ := List.exists_of_findSome?_eq_some found
  obtain ⟨cls, rfl⟩ := Ancestry.exists_of_mem_ofBuiltin hd
  refine ⟨cls, hd, Option.isSome_iff_ne_none.2 fun none => ?_, ?_⟩
  · rw [s.ownMember?_builtin_of_none none] at e
    cases e
  · rw [h.inherited? hn, found, e]

/-- The class of an instance is told by `object`. -/
theorem inherited?_class (h : c.IsAsMade s) :
    s.inherited? c "__class__" = some (.slot .field "object" "__class__") := by
  have last : (BuiltinClass.ofName "object").formOf? "__class__" = some (.slot .field) := by
    decide +kernel
  obtain ⟨cls, -, has, e⟩ := h.exists_inherited?_eq (by decide) last
  by_cases object : cls = "object"
  · rw [e, object, s.ownMember?_builtin_of_slot last]
  · rw [BuiltinClass.formOf?_class object] at has
    cases has

/-- Members are read in the way of one of the classes that the root derives from. -/
theorem exists_getattribute (h : c.IsAsMade s) :
    ∃ way, .builtin way ∈ Ancestry.ofBuiltin c.root
      ∧ s.inherited? c "__getattribute__" = some (.slot .operation way "__getattribute__") := by
  have last : (BuiltinClass.ofName "object").formOf? "__getattribute__" = some (.slot .operation) := by
    decide +kernel
  obtain ⟨way, hway, has, e⟩ := h.exists_inherited?_eq (by decide) last
  refine ⟨way, hway, ?_⟩
  rcases BuiltinClass.formOf?_getattribute way with none | operation
  · rw [none] at has
    cases has
  · rw [e, s.ownMember?_builtin_of_slot operation]

/-- The class does not answer for members that are missing. -/
theorem inherited?_getattr (h : c.IsAsMade s) : s.inherited? c "__getattr__" = none := by
  rw [h.inherited? (by decide), List.findSome?_eq_none_iff]
  intro d hd
  obtain ⟨n, rfl⟩ := Ancestry.exists_of_mem_ofBuiltin hd
  exact s.ownMember?_builtin_of_none (BuiltinClass.formOf?_getattr n)

/-- The scalar types that a class as it was made derives from. -/
theorem derives_scalar (h : c.IsAsMade s) (t : ScalarType) :
    s.derives c (.builtin t.className) = c.holds t := by
  have same : (ClassRef.builtin c.root).holds t = c.holds t := by
    cases h <;> rfl
  rw [h.derives, (Ancestry.ofBuiltin_spec c.root).2 t t.mem_all, same]

/-- The class of a class that is as it was made is that of classes, or that of abstract classes. -/
theorem kind (h : c.IsAsMade s) :
    (s.classInfo c).kind = .builtin "type"
      ∨ (s.classInfo c).kind = .builtin "ABCMeta" := by
  cases h with
  | builtin name =>
    show ClassRef.builtin (BuiltinClass.kind _) = _ ∨ ClassRef.builtin (BuiltinClass.kind _) = _
    rw [BuiltinClass.kind]
    split
    · exact .inr rfl
    · exact .inl rfl
  | derived mark base name untouched =>
    have info : s.classInfo (.derived mark base name) = (s.written.lookup mark).getD _ :=
      rfl
    rw [untouched, Option.getD_none] at info
    rw [info]
    exact .inl rfl

/-- Such a class has the name that was given to it. -/
theorem info_name (h : c.IsAsMade s) :
    (s.classInfo c).name = sharedText c.name := by
  cases h with
  | builtin name => rfl
  | derived mark base name untouched =>
    have info : s.classInfo (.derived mark base name) = (s.written.lookup mark).getD _ :=
      rfl
    rw [untouched, Option.getD_none] at info
    rw [info]

end ClassRef.IsAsMade

end DocGuard

import DocGuard.Proofs.Verdict
/-!
The first violation.

The verdict on some findings speaks of the first of them whose two types differ, whatever comes after
it, or of none if all types agree. It is an end without a violation exactly in the second case.
-/

namespace DocGuard

namespace Finding

/-- The violation is that of the first of some findings whose two types differ. -/
def IsFirst (findings : List Finding) (v : Violation) : Prop :=
  ∃ before f after, findings = before ++ f :: after ∧ (∀ g ∈ before, g.expected = g.actual)
    ∧ f.expected ≠ f.actual ∧ v = ⟨f.name, f.expected, f.actual⟩

variable {findings : List Finding} {f : Finding} {v : Violation}

theorem violation?_eq_none_iff : f.violation? = none ↔ f.expected = f.actual := by
  rw [violation?, ite_eq_left_iff]
  simp

theorem violation?_eq_some_iff :
    f.violation? = some v ↔ f.expected ≠ f.actual ∧ v = ⟨f.name, f.expected, f.actual⟩ := by
  by_cases same : f.expected = f.actual
  · simp [violation?, same]
  · simp [violation?, same, eq_comm]

theorem firstViolation?_eq_none_iff :
    firstViolation? findings = none ↔ ∀ f ∈ findings, f.expected = f.actual := by
  simp only [firstViolation?, List.findSome?_eq_none_iff, violation?_eq_none_iff]

theorem firstViolation?_eq_some_iff : firstViolation? findings = some v ↔ IsFirst findings v := by
  simp only [firstViolation?, List.findSome?_eq_some_iff, violation?_eq_none_iff,
    violation?_eq_some_iff, IsFirst]
  constructor
  · rintro ⟨before, f, after, e, ⟨differ, hv⟩, same⟩
    exact ⟨before, f, after, e, same, differ, hv⟩
  · rintro ⟨before, f, after, e, same, differ, hv⟩
    exact ⟨before, f, after, e, ⟨differ, hv⟩, same⟩

theorem exists_isFirst (h : ¬ ∀ f ∈ findings, f.expected = f.actual) :
    ∃ v, IsFirst findings v := by
  rw [← firstViolation?_eq_none_iff] at h
  obtain ⟨v, hv⟩ := Option.ne_none_iff_exists'.1 h
  exact ⟨v, firstViolation?_eq_some_iff.1 hv⟩

/-- There is only one first violation. -/
theorem IsFirst.unique {w : Violation} (hv : IsFirst findings v) (hw : IsFirst findings w) :
    v = w := by
  rw [← firstViolation?_eq_some_iff] at hv hw
  exact Option.some_inj.1 (hv.symm.trans hw)

/-- Where there is a violation, something was found. -/
theorem isEmpty_eq_false_of_firstViolation? (h : firstViolation? findings = some v) :
    findings.isEmpty = false := by
  cases findings with
  | nil => cases h
  | cons => rfl

end Finding

namespace Verdict

variable {findings : List Finding}

/-- The verdict on findings with a violation is that on the violation. -/
theorem ofFindings_of_firstViolation? {v : Violation}
    (h : Finding.firstViolation? findings = some v) (reaction : OnMismatch)
    (place : Option String) : ofFindings reaction place findings = onViolation reaction place v := by
  rw [ofFindings, Finding.isEmpty_eq_false_of_firstViolation? h, h]
  rfl

/-- Without a violation a check does not fail. -/
theorem result_ofFindings_of_firstViolation? (h : Finding.firstViolation? findings = none)
    (reaction : OnMismatch) (place : Option String) :
    (ofFindings reaction place findings).result = .ok none := by
  rw [ofFindings, h]
  cases findings.isEmpty <;> rfl

end Verdict

end DocGuard

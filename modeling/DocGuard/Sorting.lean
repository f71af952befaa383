/-!
Sorted lists.

A list is sorted by putting its items one by one in front of the first that they may precede. Items
that may precede each other both ways keep their order. Nothing is lost or invented
(`sortBy_perm`), and for an order that decides every pair the result is in order
(`pairwise_sortBy`).
-/

namespace DocGuard

variable {α : Type}

/-- Puts an item in front of the first item of a list that it may precede. -/
def insertBy (le : α → α → Bool) (a : α) : List α → List α
  | [] => [a]
  | b :: rest => if le a b then a :: b :: rest else b :: insertBy le a rest

/-- The items of a list in the order `le`. -/
def sortBy (le : α → α → Bool) : List α → List α
  | [] => []
  | a :: rest => insertBy le a (sortBy le rest)

theorem insertBy_perm (le : α → α → Bool) (a : α) (l : List α) :
    (insertBy le a l).Perm (a :: l) := by
  induction l with
  | nil => exact List.Perm.refl _
  | cons b rest ih =>
    by_cases h : le a b
    · simp [insertBy, h]
    · simpa [insertBy, h] using (ih.cons b).trans (List.Perm.swap a b rest)

/-- Sorting loses nothing and invents nothing. -/
theorem sortBy_perm (le : α → α → Bool) (l : List α) : (sortBy le l).Perm l := by
  induction l with
  | nil => exact List.Perm.refl _
  | cons a rest ih => exact (insertBy_perm le a _).trans (ih.cons a)

theorem mem_sortBy {le : α → α → Bool} {a : α} {l : List α} : a ∈ sortBy le l ↔ a ∈ l :=
  (sortBy_perm le l).mem_iff

theorem pairwise_insertBy {le : α → α → Bool} (total : ∀ a b, le a b ∨ le b a)
    (trans : ∀ a b c, le a b → le b c → le a c) (a : α) {l : List α}
    (h : l.Pairwise fun b c => le b c) : (insertBy le a l).Pairwise fun b c => le b c := by
  induction l with
  | nil => simp [insertBy]
  | cons b rest ih =>
    obtain ⟨first, others⟩ := List.pairwise_cons.1 h
    by_cases hab : le a b
    · have all : ∀ c ∈ b :: rest, le a c := by
        intro c hc
        rcases List.mem_cons.1 hc with rfl | hc
        · exact hab
        · exact trans a b c hab (first c hc)
      rw [insertBy, if_pos hab]
      exact List.pairwise_cons.2 ⟨all, h⟩
    · have hba : le b a := (total a b).resolve_left hab
      have all : ∀ c ∈ insertBy le a rest, le b c := by
        intro c hc
        rcases List.mem_cons.1 ((insertBy_perm le a rest).mem_iff.1 hc) with rfl | hc
        · exact hba
        · exact first c hc
      rw [insertBy, if_neg hab]
      exact List.pairwise_cons.2 ⟨all, ih others⟩

/-- Sorting puts the items in order. -/
theorem pairwise_sortBy {le : α → α → Bool} (total : ∀ a b, le a b ∨ le b a)
    (trans : ∀ a b c, le a b → le b c → le a c) (l : List α) :
    (sortBy le l).Pairwise fun a b => le a b := by
  induction l with
  | nil => exact List.Pairwise.nil
  | cons a rest ih => exact pairwise_insertBy total trans a ih

/-- Strings in increasing order of their code points. -/
def sortStrings (strings : List String) : List String :=
  sortBy (fun a b => decide (a ≤ b)) strings

/-- Strings that are sorted increase. -/
theorem pairwise_sortStrings (strings : List String) :
    (sortStrings strings).Pairwise fun a b => a ≤ b := by
  have total : ∀ a b : String, decide (a ≤ b) ∨ decide (b ≤ a) := fun a b => by
    simpa using String.le_total a b
  have trans : ∀ a b c : String, decide (a ≤ b) → decide (b ≤ c) → decide (a ≤ c) :=
    fun a b c => by simpa using fun h h' => String.le_trans h h'
  simpa [sortStrings] using pairwise_sortBy total trans strings

end DocGuard

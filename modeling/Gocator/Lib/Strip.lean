/-
A list without the elements at either end that satisfy a predicate, as a text without the blanks around it.
-/
import Mathlib.Data.List.DropRight

namespace Strip

variable {α : Type} {p : α → Bool}

/-- The list from the first to the last element that does not satisfy the predicate. -/
def strip (p : α → Bool) (l : List α) : List α := (l.dropWhile p).rdropWhile p

/-- What begins a list that does not begin with a blank does not begin with one either. -/
theorem dropWhile_of_prefix {l m : List α} (h : l <+: m) (hm : m.dropWhile p = m) : l.dropWhile p = l := by
  cases l with
  | nil => rfl
  | cons a l =>
    obtain ⟨rest, rfl⟩ := h
    rw [List.dropWhile_eq_self_iff] at hm ⊢
    intro hl
    simpa using hm (by simp)

theorem strip_strip (l : List α) : strip p (strip p l) = strip p l := by
  have hfront : (strip p l).dropWhile p = strip p l :=
    dropWhile_of_prefix (List.rdropWhile_prefix p _) (List.dropWhile_idempotent p l)
  unfold strip at hfront ⊢
  rw [hfront, List.rdropWhile_idempotent]

/-- An element that does not satisfy the predicate stays. -/
theorem mem_strip {l : List α} {a : α} (ha : a ∈ l) (hp : p a = false) : a ∈ strip p l := by
  rw [← List.takeWhile_append_dropWhile (p := p) (l := l), List.mem_append] at ha
  have hdrop : a ∈ l.dropWhile p := by
    rcases ha with h | h
    · have := List.mem_takeWhile_imp h
      rw [hp] at this
      cases this
    · exact h
  rw [← List.rdropWhile_append_rtakeWhile (p := p) (l := l.dropWhile p), List.mem_append] at hdrop
  rcases hdrop with h | h
  · exact h
  · have := List.mem_rtakeWhile_imp h
    rw [hp] at this
    cases this

end Strip

/-
The first occurrence of a pattern in a list and its replacement. When the list is cut by a separator
that the pattern does not contain, the first occurrence lies wholly before or wholly after it.
-/
import Mathlib.Data.List.Infix

namespace Substring

variable {α : Type}

/-! ## Prefixes and replacement -/

/-- A pattern without the separator starts a list only if it starts what is in front of the separator. -/
theorem prefix_separator {c : α} {b : List α} : ∀ {pat a : List α}, c ∉ pat → (pat <+: a ++ c :: b ↔ pat <+: a)
  | [], a, _ => by simp
  | p :: pat, [], h => by
    simp only [List.mem_cons, not_or] at h
    simp only [List.nil_append, List.cons_prefix_cons, List.prefix_nil, reduceCtorEq, iff_false, not_and]
    rintro rfl
    exact absurd rfl h.1
  | p :: pat, x :: a, h => by
    simp only [List.mem_cons, not_or] at h
    rw [List.cons_append, List.cons_prefix_cons, List.cons_prefix_cons, prefix_separator h.2]

/-- The list with the `n` elements from an index on replaced. -/
def replace (pos n : Nat) (new l : List α) : List α := l.take pos ++ new ++ l.drop (pos + n)

theorem replace_append_left {pos n : Nat} (new : List α) {a : List α} (h : pos + n ≤ a.length) (b : List α) :
    replace pos n new (a ++ b) = replace pos n new a ++ b := by
  unfold replace
  rw [List.take_append_of_le_length (by omega), List.drop_append_of_le_length h, List.append_assoc, List.append_assoc,
    List.append_assoc]

theorem replace_append_right (pos n : Nat) (new a b : List α) :
    replace (pos + a.length) n new (a ++ b) = a ++ replace pos n new b := by
  unfold replace
  rw [Nat.add_comm pos, List.take_length_add_append, Nat.add_assoc, List.drop_length_add_append, List.append_assoc,
    List.append_assoc, List.append_assoc]

/-! ## The first occurrence -/

variable [DecidableEq α]

/-- The index of the first occurrence of a pattern. -/
def find (pat : List α) : List α → Option Nat
  | [] => if pat = [] then some 0 else none
  | c :: cs => if pat.isPrefixOf (c :: cs) then some 0 else (find pat cs).map (· + 1)

/-- The list with the first occurrence of a pattern, if there is one, replaced. -/
def replaceFirst (pat new l : List α) : List α :=
  match find pat l with
  | some pos => replace pos pat.length new l
  | none => l

theorem find_cons (pat : List α) (c : α) (cs : List α) :
    find pat (c :: cs) = if pat.isPrefixOf (c :: cs) then some 0 else (find pat cs).map (· + 1) := rfl

theorem find_isSome_iff (pat : List α) : ∀ l, (find pat l).isSome ↔ pat <:+: l
  | [] => by
    unfold find
    rw [List.infix_nil]
    split <;> simp_all
  | c :: cs => by
    rw [find_cons, List.infix_cons_iff, ← List.isPrefixOf_iff_prefix, ← find_isSome_iff pat cs]
    split
    · rename_i h
      simp [h]
    · rename_i h
      simp [h]

theorem find_eq_none_iff (pat l : List α) : find pat l = none ↔ ¬ pat <:+: l := by
  rw [← find_isSome_iff, Bool.not_eq_true, Option.isSome_eq_false_iff, Option.isNone_iff_eq_none]

/-- An occurrence ends within the list. -/
theorem find_le {pat : List α} : ∀ {l : List α} {pos : Nat}, find pat l = some pos → pos + pat.length ≤ l.length
  | [], pos, h => by
    unfold find at h
    split at h
    · rename_i hp
      cases h
      simp [hp]
    · cases h
  | c :: cs, pos, h => by
    rw [find_cons] at h
    split at h
    · rename_i hp
      cases h
      have := (List.isPrefixOf_iff_prefix.1 hp).length_le
      omega
    · obtain ⟨i, hi, rfl⟩ := Option.map_eq_some_iff.1 h
      have := find_le hi
      simp only [List.length_cons]
      omega

/-- A pattern without the separator is found in front of it, or else behind it. -/
theorem find_separator {pat : List α} {c : α} (h : c ∉ pat) (hne : pat ≠ []) (b : List α) : ∀ a : List α,
    find pat (a ++ c :: b) = match find pat a with
      | some pos => some pos
      | none => (find pat b).map (· + (a.length + 1))
  | [] => by
    have hp : pat.isPrefixOf (c :: b) = false := by
      rw [Bool.eq_false_iff, Ne, List.isPrefixOf_iff_prefix, ← List.nil_append (c :: b), prefix_separator h]
      simpa using hne
    simp [find, hp, hne]
  | x :: a => by
    have hp : pat.isPrefixOf (x :: (a ++ c :: b)) = pat.isPrefixOf (x :: a) := by
      rw [Bool.eq_iff_iff, List.isPrefixOf_iff_prefix, List.isPrefixOf_iff_prefix, ← List.cons_append,
        prefix_separator h]
    rw [List.cons_append, find_cons, find_cons, hp, find_separator h hne b a]
    split
    · rfl
    · cases find pat a with
      | some pos => rfl
      | none =>
        cases find pat b with
        | some pos => simp only [Option.map_some, Option.map_none, List.length_cons, Nat.add_assoc]
        | none => rfl

/-- The first occurrence is replaced in front of the separator if there is one there, and behind it if not. -/
theorem replaceFirst_separator {pat : List α} {c : α} (h : c ∉ pat) (hne : pat ≠ []) (new a b : List α) :
    (pat <:+: a → replaceFirst pat new (a ++ c :: b) = replaceFirst pat new a ++ c :: b) ∧
    (¬ pat <:+: a → replaceFirst pat new (a ++ c :: b) = a ++ c :: replaceFirst pat new b) := by
  refine ⟨fun ha => ?_, fun ha => ?_⟩
  · obtain ⟨pos, hpos⟩ := Option.isSome_iff_exists.1 ((find_isSome_iff pat a).2 ha)
    unfold replaceFirst
    rw [find_separator h hne, hpos]
    exact replace_append_left new (find_le hpos) _
  · have hnone := (find_eq_none_iff pat a).2 ha
    unfold replaceFirst
    rw [find_separator h hne, hnone]
    cases hb : find pat b with
    | none => rfl
    | some pos =>
      simp only [Option.map_some]
      have hr := replace_append_right pos pat.length new (a ++ [c]) b
      simp only [List.length_append, List.length_cons, List.length_nil, Nat.zero_add, List.append_assoc,
        List.cons_append, List.nil_append] at hr
      exact hr

end Substring

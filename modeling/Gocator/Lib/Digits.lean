/-
Decimal digits: the number a text of digits denotes, and the digits with which a number is printed.
-/
import Gocator.Lib.JsonPointer

namespace Digits

/-- The number whose decimal digits are these. -/
def value (cs : List Char) : Nat := cs.foldl (fun n c => 10 * n + (c.toNat - 48)) 0

theorem value_append_singleton (cs : List Char) (c : Char) :
    value (cs ++ [c]) = 10 * value cs + (c.toNat - 48) := by
  unfold value
  rw [List.foldl_append]
  rfl

theorem value_toDigits (n : Nat) : value (Nat.toDigits 10 n) = n := by
  induction n using Nat.strongRecOn with
  | ind n ih =>
    rw [Nat.toDigits_eq_if (by decide)]
    split
    · rename_i hlt
      show 10 * 0 + (n.digitChar.toNat - 48) = n
      rw [Nat.toNat_digitChar_sub_48_of_lt_ten hlt]
      omega
    · rename_i hge
      have hmod : n % 10 < 10 := Nat.mod_lt _ (by decide)
      rw [value_append_singleton, ih (n / 10) (by omega), Nat.toNat_digitChar_sub_48_of_lt_ten hmod]
      omega

theorem all_isDigit_toDigits (n : Nat) : (Nat.toDigits 10 n).all (·.isDigit) = true :=
  List.all_eq_true.2 fun _ hc => Nat.isDigit_of_mem_toDigits (by decide) (by decide) hc

/-- The digits of a positive number do not start with a zero. -/
theorem head_toDigits {n : Nat} (hn : 0 < n) {cs : List Char} : Nat.toDigits 10 n ≠ '0' :: cs := by
  induction n using Nat.strongRecOn generalizing cs with
  | ind n ih =>
    rw [Nat.toDigits_eq_if (by decide)]
    split
    · intro h
      have hc : n.digitChar = '0' := (List.cons.inj h).1
      rw [Nat.digitChar_eq_zero] at hc
      omega
    · rename_i hge
      obtain ⟨d, ds, hd⟩ := List.exists_cons_of_ne_nil (Nat.toDigits_ne_nil (b := 10) (n := n / 10))
      rw [hd, List.cons_append]
      intro h
      have hzero : Nat.toDigits 10 (n / 10) = '0' :: ds := by rw [hd, (List.cons.inj h).1]
      exact ih (n / 10) (by omega) (by omega) hzero

theorem toDigits_cases (n : Nat) : (n = 0 ∧ Nat.toDigits 10 n = ['0']) ∨
    ∃ d ds, Nat.toDigits 10 n = d :: ds ∧ d ≠ '0' := by
  rcases Nat.eq_zero_or_pos n with rfl | hn
  · exact .inl ⟨rfl, rfl⟩
  · obtain ⟨d, ds, hd⟩ := List.exists_cons_of_ne_nil (Nat.toDigits_ne_nil (b := 10) (n := n))
    refine .inr ⟨d, ds, hd, ?_⟩
    rintro rfl
    exact head_toDigits hn hd

end Digits

namespace JsonPointer

/-- The digits of an index are the token of that index. -/
theorem index?_toString (i : Nat) : index? (toString i) = some i := by
  unfold index?
  rw [show (toString i).toList = Nat.toDigits 10 i from Nat.toList_repr]
  have hall := Digits.all_isDigit_toDigits i
  have hval := Digits.value_toDigits i
  rcases Digits.toDigits_cases i with ⟨rfl, h⟩ | ⟨d, ds, h, hd⟩
  · rw [h]
    rfl
  · rw [h] at hall hval ⊢
    split
    · rename_i heq; cases heq
    · rename_i heq; cases heq; exact absurd rfl hd
    · rename_i heq; cases heq; exact absurd rfl hd
    · rw [if_pos hall]
      exact congrArg some hval

/-- An index token consists of digits, so it stands for itself. -/
theorem plain_toString (i : Nat) : Plain (toString i) := by
  have hdigit : ∀ c ∈ (toString i).toList, c.isDigit = true := by
    rw [show (toString i).toList = Nat.toDigits 10 i from Nat.toList_repr]
    exact List.all_eq_true.1 (Digits.all_isDigit_toDigits i)
  constructor
  · intro hm
    exact absurd (hdigit _ hm) (by decide)
  · intro hm
    exact absurd (hdigit _ hm) (by decide)

end JsonPointer

/-
Numbers in the general style of C and Qt: so many significant figures, without zeros at the end, with an exponent where
the number is very large or very small. The text is read as the nearest number with so many figures.
-/
import Gocator.Lib.Figures
import Gocator.Lib.JsonWrite

namespace JsonText

open Decimal (Nearest digitsAndPlace significant)

/-! ## Powers of ten -/

theorem scaled_eq (n : Nat) (e : Int) : scaled n e = n * 10 ^ e := by
  unfold scaled
  rcases Int.le_total 0 e with h | h
  · obtain ⟨k, rfl⟩ := Int.eq_ofNat_of_zero_le h
    have hneg : Int.toNat (-(k : Int)) = 0 := by omega
    rw [hneg, Int.toNat_natCast, Rat.mkRat_eq_div, zpow_natCast]
    push_cast
    simp
  · obtain ⟨k, hk⟩ := Int.eq_ofNat_of_zero_le (neg_nonneg.2 h)
    obtain rfl : e = -(k : Int) := by omega
    have hpos : Int.toNat (-(k : Int)) = 0 := by omega
    rw [hpos, neg_neg, Int.toNat_natCast, Rat.mkRat_eq_div, zpow_neg, zpow_natCast]
    push_cast
    simp [div_eq_mul_inv]

/-- The zeros behind the point that are chopped off count nothing. -/
theorem scaled_chop (cs ds : List Char) (e : Int) :
    scaled (Digits.value (cs ++ ds.rdropWhile (· = '0'))) (e - (ds.rdropWhile (· = '0')).length) =
      scaled (Digits.value (cs ++ ds)) (e - ds.length) := by
  induction ds using List.reverseRecOn with
  | nil => rfl
  | append_singleton ds c ih =>
    by_cases h : c = '0'
    · subst h
      have hvalue : Digits.value (cs ++ (ds ++ ['0'])) = 10 * Digits.value (cs ++ ds) := by
        rw [← List.append_assoc, Digits.value_append_singleton]
        rfl
      have hplace : e - (ds ++ ['0']).length = e - ds.length - 1 := by
        rw [List.length_append, List.length_singleton]
        push_cast
        ring
      rw [List.rdropWhile_concat_pos _ _ _ (by simp), ih, hvalue, hplace, scaled_eq, scaled_eq,
        zpow_sub_one₀ (by norm_num)]
      push_cast
      ring
    · rw [List.rdropWhile_concat_neg _ _ _ (by simpa using h)]

/-! ## Exponents -/

/-- The exponent behind the digits, with its sign and of two digits at least. -/
def exponentText (e : Int) : List Char :=
  'e' :: (if e < 0 then '-' else '+') :: ((if e.natAbs < 10 then ['0'] else []) ++ Nat.toDigits 10 e.natAbs)

theorem value_zero_cons (cs : List Char) : Digits.value ('0' :: cs) = Digits.value cs := rfl

theorem exponentDigits_eq (sign : Int) (n : Nat) {rest : List Char} (h : Stops rest) :
    exponentDigits sign ((if n < 10 then ['0'] else []) ++ Nat.toDigits 10 n ++ rest) = some (sign * n, rest) := by
  have hdigits : ∀ c ∈ (if n < 10 then ['0'] else []) ++ Nat.toDigits 10 n, c.isDigit = true := by
    intro c hc
    rcases List.mem_append.1 hc with hc | hc
    · split at hc
      · rw [List.mem_singleton.1 hc]
        rfl
      · cases hc
    · exact Nat.isDigit_of_mem_toDigits (by decide) (by decide) hc
  have hvalue : Digits.value ((if n < 10 then ['0'] else []) ++ Nat.toDigits 10 n) = n := by
    split
    · exact (value_zero_cons _).trans (Digits.value_toDigits n)
    · exact Digits.value_toDigits n
  have hne : (if n < 10 then ['0'] else []) ++ Nat.toDigits 10 n ≠ [] :=
    List.append_ne_nil_of_right_ne_nil _ (Nat.toDigits_ne_nil (b := 10) (n := n))
  obtain ⟨htake, hdrop⟩ := takeWhile_digits hdigits fun c hc => (h c hc).1
  unfold exponentDigits
  rw [htake, hdrop, if_neg hne, hvalue]

theorem writesExponent_text (e : Int) : WritesExponent (exponentText e) e := by
  intro rest hrest
  constructor
  · rintro c ⟨⟩
    decide
  · have hdigits := fun sign => exponentDigits_eq sign e.natAbs hrest.stops
    unfold exponentText
    by_cases h : e < 0
    · have hsign : -1 * (e.natAbs : Int) = e := by omega
      rw [if_pos h]
      exact (hdigits (-1)).trans (by rw [hsign])
    · have hsign : 1 * (e.natAbs : Int) = e := by omega
      rw [if_neg h]
      exact (hdigits 1).trans (by rw [hsign])

/-! ## The general style -/

/-- A number with its last `d` digits behind the point, without the zeros at their end. -/
def pointText (negative : Bool) (d n : Nat) : List Char :=
  signed negative (n / 10 ^ d) ((Decimal.lastDigits d n).rdropWhile (· = '0'))

theorem writes_pointText (negative : Bool) (d n : Nat) {es : List Char} {e : Int} (hes : WritesExponent es e) :
    Writes (pointText negative d n ++ es) (.num ((if negative then -1 else 1) * (n * 10 ^ (e - d)))) := by
  have hdigits : ∀ c ∈ (Decimal.lastDigits d n).rdropWhile (· = '0'), c.isDigit = true := by
    intro c hc
    exact isDigit_lastDigits d _ c ((List.rdropWhile_prefix _ _).subset hc)
  have h := writes_scientific negative (n / 10 ^ d) hdigits hes
  rwa [scaled_chop, value_units, Decimal.length_lastDigits, scaled_eq] at h

/-- The style `%g`: `p` significant figures, with an exponent unless the first figure is at most `p - 1` places in front
of the point and at most four behind it. -/
def generalText (r : Nearest) (p : Nat) (x : Rat) : List Char :=
  let (n, k) := digitsAndPlace r p x
  if -4 ≤ k ∧ k < p then pointText (x < 0) (p - 1 - k).toNat n
  else pointText (x < 0) (p - 1) n ++ exponentText k

/-- The text is read as the nearest number with so many figures. -/
theorem writes_general (r : Nearest) (p : Nat) (x : Rat) :
    Writes (generalText r (p + 1) x) (.num (significant 10 r (p + 1) x)) := by
  have hvalue := Decimal.digitsAndPlace_eq r p x
  unfold generalText significant
  rw [Nat.cast_ofNat, ← hvalue]
  generalize digitsAndPlace r (p + 1) x = d
  obtain ⟨n, k⟩ := d
  dsimp only
  split
  · rename_i hk
    have hplaces : 0 - ((((p + 1 : Nat) : Int) - 1 - k).toNat : Int) = k - p := by omega
    have h := writes_pointText (x < 0) (((p + 1 : Nat) : Int) - 1 - k).toNat n writesExponent_nil
    rw [List.append_nil, hplaces] at h
    simpa using h
  · have h := writes_pointText (x < 0) p n (writesExponent_text k)
    simpa using h

end JsonText

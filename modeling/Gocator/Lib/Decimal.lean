/-
Numbers with a given number of decimal places: rounding to them, the places a number needs, which are
those its digits show without zeros at the end, and the clamp of a value into a range whose ends may be
the wrong way round.
-/
import Mathlib.Data.List.DropRight
import Mathlib.Data.Rat.Floor
import Mathlib.Tactic.Ring

namespace Decimal

/-- The number is a decimal with at most `d` places. -/
def Places (d : Nat) (x : Rat) : Prop := ∃ n : Int, x * 10 ^ d = n

theorem Places.mono {d e : Nat} {x : Rat} (h : Places d x) (hle : d ≤ e) : Places e x := by
  obtain ⟨n, hn⟩ := h
  refine ⟨n * 10 ^ (e - d), ?_⟩
  calc x * 10 ^ e = x * 10 ^ d * 10 ^ (e - d) := by rw [mul_assoc, ← pow_add, Nat.add_sub_cancel' hle]
    _ = ((n * 10 ^ (e - d) : Int) : Rat) := by rw [hn]; push_cast; rfl

theorem places_intCast (d : Nat) (n : Int) : Places d n := Places.mono ⟨n, by simp⟩ (Nat.zero_le d)

/-- The last place counts one. -/
theorem places_unit (d : Nat) : Places d (1 / 10 ^ d) :=
  ⟨1, by rw [div_mul_cancel₀ _ (pow_ne_zero d (by norm_num)), Int.cast_one]⟩

/-- Any number of steps of a decimal from a decimal. -/
theorem Places.add_intCast_mul {d : Nat} {x y : Rat} (hx : Places d x) (hy : Places d y) (n : Int) :
    Places d (x + n * y) := by
  obtain ⟨a, ha⟩ := hx
  obtain ⟨b, hb⟩ := hy
  refine ⟨a + n * b, ?_⟩
  calc (x + n * y) * 10 ^ d = x * 10 ^ d + n * (y * 10 ^ d) := by ring
    _ = ((a + n * b : Int) : Rat) := by rw [ha, hb]; push_cast; rfl

/-- The nearest decimal with `d` places, the one away from zero of two. -/
def round (d : Nat) (x : Rat) : Rat :=
  if 0 ≤ x then (x * 10 ^ d + 1 / 2).floor / 10 ^ d else -((-x * 10 ^ d + 1 / 2).floor / 10 ^ d)

theorem floor_add_half (n : Int) : ((n : Rat) + 1 / 2).floor = n := by
  rw [add_comm, Rat.floor_add_intCast]
  have h : ⌊(1 / 2 : Rat)⌋ = 0 := by norm_num
  exact (congrArg (· + n) h).trans (zero_add n)

theorem round_of_places {d : Nat} {x : Rat} (h : Places d x) : round d x = x := by
  obtain ⟨n, hn⟩ := h
  have hpos : (10 : Rat) ^ d ≠ 0 := pow_ne_zero d (by norm_num)
  unfold round
  split
  · rw [hn, floor_add_half, ← hn, mul_div_cancel_right₀ _ hpos]
  · have hneg : -x * 10 ^ d = ((-n : Int) : Rat) := by rw [neg_mul, hn, Int.cast_neg]
    rw [hneg, floor_add_half, ← hneg, mul_div_cancel_right₀ _ hpos, neg_neg]

/-- What is less than half of the last place off a decimal is rounded to it. -/
theorem round_of_near {d : Nat} {x q : Rat} (hq : Places d q) (h : |x - q| * 10 ^ d < 1 / 2) : round d x = q := by
  obtain ⟨n, hn⟩ := hq
  have hpos : (0 : Rat) < 10 ^ d := by positivity
  have hnear : |x * 10 ^ d - n| < 1 / 2 := by
    rwa [← hn, ← sub_mul, abs_mul, abs_of_pos hpos]
  obtain ⟨hlow, hhigh⟩ := abs_lt.1 hnear
  have hdecimal : q = n / 10 ^ d := by rw [← hn, mul_div_cancel_right₀ _ hpos.ne']
  have hfloor : ∀ {y : Rat} {m : Int}, (m : Rat) ≤ y + 1 / 2 → y + 1 / 2 < m + 1 → (y + 1 / 2).floor = m :=
    fun hle hlt => Int.floor_eq_iff.2 ⟨hle, hlt⟩
  unfold round
  split
  · rw [hfloor (m := n) (by linarith) (by linarith), hdecimal]
  · rw [hfloor (m := -n) (by push_cast; linarith) (by push_cast; linarith), hdecimal]
    push_cast
    ring

theorem places_round (d : Nat) (x : Rat) : Places d (round d x) := by
  have hpos : (10 : Rat) ^ d ≠ 0 := pow_ne_zero d (by norm_num)
  unfold round
  split
  · exact ⟨_, div_mul_cancel₀ _ hpos⟩
  · refine ⟨-(-x * 10 ^ d + 1 / 2).floor, ?_⟩
    rw [neg_mul, div_mul_cancel₀ _ hpos]
    push_cast
    rfl

theorem round_mono (d : Nat) {x y : Rat} (h : x ≤ y) : round d x ≤ round d y := by
  have hpos : (0 : Rat) < 10 ^ d := by positivity
  have hfloor : ∀ {a b : Rat},
    a ≤ b → ((a * 10 ^ d + 1 / 2).floor : Rat) / 10 ^ d ≤ (b * 10 ^ d + 1 / 2).floor / 10 ^ d := by
    intro a b hab
    have hmul : a * 10 ^ d + 1 / 2 ≤ b * 10 ^ d + 1 / 2 := by gcongr
    have hcast : ((a * 10 ^ d + 1 / 2).floor : Rat) ≤ (b * 10 ^ d + 1 / 2).floor :=
      Int.cast_le.2 (Int.floor_le_floor hmul)
    gcongr
  have hnonneg : ∀ {a : Rat}, 0 ≤ a → (0 : Rat) ≤ (a * 10 ^ d + 1 / 2).floor / 10 ^ d := by
    intro a ha
    have hzero : (0 : Int) ≤ ⌊a * 10 ^ d + 1 / 2⌋ := Int.floor_nonneg.2 (by positivity)
    have hcast : (0 : Rat) ≤ (a * 10 ^ d + 1 / 2).floor := Int.cast_nonneg hzero
    positivity
  unfold round
  by_cases hx : 0 ≤ x
  · rw [if_pos hx, if_pos (hx.trans h)]
    exact hfloor h
  · rw [if_neg hx]
    by_cases hy : 0 ≤ y
    · rw [if_pos hy]
      have hneg := hnonneg (a := -x) (by linarith)
      have hright := hnonneg hy
      linarith
    · rw [if_neg hy]
      have hneg := hfloor (a := -y) (b := -x) (by linarith)
      linarith

/-! ## Printing to a count of places -/

/-- The nearest whole number, the even one of two. -/
def roundEven (x : Rat) : Int :=
  if x - x.floor < 1 / 2 then x.floor
  else if 1 / 2 < x - x.floor ∨ x.floor % 2 = 1 then x.floor + 1
  else x.floor

theorem abs_roundEven_sub_le (x : Rat) : |(roundEven x : Rat) - x| ≤ 1 / 2 := by
  have hle : (x.floor : Rat) ≤ x := Int.floor_le x
  have hlt : x < x.floor + 1 := Int.lt_floor_add_one x
  unfold roundEven
  rw [abs_le]
  split
  · constructor <;> linarith
  · split
    · push_cast
      constructor <;> linarith
    · rename_i h
      have hhalf := not_lt.1 (not_or.1 h).1
      constructor <;> linarith

theorem roundEven_nonneg {x : Rat} (h : 0 ≤ x) : 0 ≤ roundEven x := by
  have hfloor : 0 ≤ x.floor := Int.floor_nonneg.2 h
  unfold roundEven
  split
  · exact hfloor
  · split
    · omega
    · exact hfloor

/-- The number that is printed for another with `d` places. -/
def fixed (d : Nat) (x : Rat) : Rat := (if x < 0 then -1 else 1) * (roundEven (|x| * 10 ^ d) / 10 ^ d)

/-! ## The places a number needs -/

/-- The digits left of `k` once trailing zeros of the number are dropped. -/
def stripZeros : Nat → Nat → Nat
  | 0, _ => 0
  | k + 1, n => if n % 10 = 0 then stripZeros k (n / 10) else k + 1

theorem stripZeros_le (k n : Nat) : stripZeros k n ≤ k := by
  induction k generalizing n with
  | zero => exact Nat.le_refl 0
  | succ k ih =>
    unfold stripZeros
    split
    · exact Nat.le_succ_of_le (ih _)
    · exact Nat.le_refl _

/-- What is dropped are zeros. -/
theorem stripZeros_dvd (k n : Nat) : 10 ^ (k - stripZeros k n) ∣ n := by
  induction k generalizing n with
  | zero => exact ⟨n, by simp [stripZeros]⟩
  | succ k ih =>
    unfold stripZeros
    split
    · next h =>
      obtain ⟨m, hm⟩ := ih (n / 10)
      have hle := stripZeros_le k (n / 10)
      refine ⟨m, ?_⟩
      calc n = 10 * (n / 10) := by omega
        _ = 10 * (10 ^ (k - stripZeros k (n / 10)) * m) := by rw [← hm]
        _ = 10 ^ (k + 1 - stripZeros k (n / 10)) * m := by
          rw [Nat.succ_sub hle, pow_succ]
          ring
    · rw [Nat.sub_self]
      exact Nat.one_dvd n

/-- The places of a number, at most `limit`, as the digits of its absolute value show them. -/
def needed (limit : Nat) (x : Rat) : Nat := stripZeros limit (round limit |x| * 10 ^ limit).floor.toNat

theorem needed_le (limit : Nat) (x : Rat) : needed limit x ≤ limit := stripZeros_le _ _

/-- A decimal has the places it needs. -/
theorem places_needed {limit : Nat} {x : Rat} (h : Places limit x) : Places (needed limit x) x := by
  obtain ⟨n, hn⟩ := h
  have habs : |x| * 10 ^ limit = ((n.natAbs : Int) : Rat) := by
    rw [Int.natCast_natAbs, Int.cast_abs, ← hn, abs_mul, abs_of_pos (a := (10 : Rat) ^ limit) (by positivity)]
  have hround : round limit |x| = |x| := round_of_places ⟨_, habs⟩
  have hneeded : needed limit x = stripZeros limit n.natAbs := by
    rw [needed, hround, habs, Rat.floor_intCast, Int.toNat_natCast]
  rw [hneeded]
  generalize hk : stripZeros limit n.natAbs = k
  have hle : k ≤ limit := hk ▸ stripZeros_le limit n.natAbs
  obtain ⟨m, hm⟩ : (10 : Int) ^ (limit - k) ∣ n := by
    have hdvd := stripZeros_dvd limit n.natAbs
    rw [hk] at hdvd
    have hcast : ((10 ^ (limit - k) : Nat) : Int) ∣ n := Int.natCast_dvd.2 hdvd
    rwa [Nat.cast_pow] at hcast
  refine ⟨m, ?_⟩
  have hpow : (10 : Rat) ^ (limit - k) ≠ 0 := pow_ne_zero _ (by norm_num)
  apply mul_right_cancel₀ hpow
  calc x * 10 ^ k * 10 ^ (limit - k) = x * 10 ^ limit := by rw [mul_assoc, ← pow_add, Nat.add_sub_cancel' hle]
    _ = n := hn
    _ = m * 10 ^ (limit - k) := by rw [hm]; push_cast; ring

/-! ## The digits of a text -/

/-- The last `k` digits of a number, with zeros in front if it has fewer. -/
def lastDigits : Nat → Nat → List Char
  | 0, _ => []
  | k + 1, n => lastDigits k (n / 10) ++ [Nat.digitChar (n % 10)]

theorem length_lastDigits (k n : Nat) : (lastDigits k n).length = k := by
  induction k generalizing n with
  | zero => rfl
  | succ k ih =>
    rw [lastDigits, List.length_append, ih]
    rfl

/-- The digits that stay when the zeros at the end are chopped off. -/
theorem length_chop_lastDigits (k n : Nat) :
    ((lastDigits k n).rdropWhile (· = '0')).length = stripZeros k n := by
  induction k generalizing n with
  | zero => rfl
  | succ k ih =>
    have hlast : Nat.digitChar (n % 10) = '0' ↔ n % 10 = 0 := Nat.digitChar_eq_zero
    unfold lastDigits stripZeros
    by_cases h : n % 10 = 0
    · rw [List.rdropWhile_concat_pos _ _ _ (by simpa using hlast.2 h), if_pos h]
      exact ih (n / 10)
    · have hkept : (lastDigits k (n / 10)).length = k := length_lastDigits k (n / 10)
      rw [List.rdropWhile_concat_neg _ _ _ (by simpa using mt hlast.1 h), if_neg h, List.length_append, hkept]
      rfl

/-! ## Ranges -/

section

variable {α : Type} [LinearOrder α]

/-- The value in the range, whose upper end is raised to the lower one if it is below it. -/
def clampTo (lo hi x : α) : α := max lo (min (max lo hi) x)

/-- The clamp keeps exactly the values of the range. -/
theorem clampTo_eq_self {lo hi x : α} : clampTo lo hi x = x ↔ lo ≤ x ∧ x ≤ max lo hi := by
  unfold clampTo
  constructor
  · intro h
    constructor
    · rw [← h]
      exact le_max_left _ _
    · rw [← h]
      exact max_le (le_max_left _ _) (min_le_left _ _)
  · rintro ⟨hlo, hhi⟩
    rw [min_eq_right hhi, max_eq_right hlo]

end

end Decimal

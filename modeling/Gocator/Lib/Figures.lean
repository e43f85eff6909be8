/-
Numbers with a given count of significant figures: the room between two of them, rounding to the nearest of them and how
far it goes, and when a number of figures in one base is found again from its nearest one in base ten.
-/
import Gocator.Lib.Decimal
import Mathlib.Data.Int.Log
import Mathlib.Algebra.Order.Floor.Semifield
import Mathlib.Algebra.Order.Field.Power
import Mathlib.Tactic.FieldSimp

namespace Decimal

/-- The number has at most `p` figures in base `b`. -/
def Figures (b p : Nat) (x : Rat) : Prop := ∃ m e : Int, |m| < b ^ p ∧ x = m * (b : Rat) ^ e

/-! ## The room between two numbers -/

section

variable {b p : Nat} {x z : Rat}

/-- In units of a lower place. -/
theorem exists_units (hb : 0 < b) (m : Int) {e g : Int} (h : g ≤ e) : ∃ k : Int, (m : Rat) * b ^ e = k * b ^ g := by
  obtain ⟨n, hn⟩ := Int.eq_ofNat_of_zero_le (sub_nonneg.2 h)
  have hbase : (b : Rat) ≠ 0 := Nat.cast_ne_zero.2 hb.ne'
  refine ⟨m * b ^ n, ?_⟩
  have he : e = n + g := by omega
  rw [he, zpow_add₀ hbase, zpow_natCast]
  push_cast
  ring

/-- Two numbers differ by a unit of the lower of their last places at least. -/
theorem unit_le_abs_sub (hb : 0 < b) {m n e f g : Int} (he : g ≤ e) (hf : g ≤ f)
    (h : (m : Rat) * b ^ e ≠ n * b ^ f) : (b : Rat) ^ g ≤ |(m : Rat) * b ^ e - n * b ^ f| := by
  have hunit : (0 : Rat) < (b : Rat) ^ g := zpow_pos (Nat.cast_pos.2 hb) g
  obtain ⟨j, hj⟩ := exists_units hb m he
  obtain ⟨k, hk⟩ := exists_units hb n hf
  have hne : j - k ≠ 0 := by
    intro hzero
    apply h
    rw [hj, hk, sub_eq_zero.1 hzero]
  have hone : (1 : Rat) ≤ |((j - k : Int) : Rat)| := by
    rw [← Int.cast_abs]
    exact_mod_cast Int.one_le_abs hne
  have hfactor : (m : Rat) * b ^ e - n * b ^ f = ((j - k : Int) : Rat) * b ^ g := by
    rw [hj, hk]
    push_cast
    ring
  rw [hfactor, abs_mul, abs_of_pos hunit]
  exact le_mul_of_one_le_left hunit.le hone

theorem abs_le_units (hb : 0 < b) {m : Int} (hm : |m| < b ^ p) (e : Int) :
    |(m : Rat) * b ^ e| ≤ (b ^ p - 1) * b ^ e := by
  have hunit : (0 : Rat) < (b : Rat) ^ e := zpow_pos (Nat.cast_pos.2 hb) e
  have hcast : |(m : Rat)| ≤ b ^ p - 1 := by
    rw [← Int.cast_abs]
    exact_mod_cast Int.le_sub_one_of_lt hm
  rw [abs_mul, abs_of_pos hunit]
  gcongr

/-- Of two numbers with so many figures each is off the other by a unit of its last figure at least. -/
theorem Figures.room (hb : 0 < b) (hx : Figures b p x) (hz : Figures b p z) (h : x ≠ z) : |x| ≤ |x - z| * b ^ p := by
  obtain ⟨m, e, hm, rfl⟩ := hx
  obtain ⟨n, f, hn, rfl⟩ := hz
  generalize hg : min e f = g
  have hunit : (0 : Rat) < (b : Rat) ^ g := zpow_pos (Nat.cast_pos.2 hb) g
  have hdiff := unit_le_abs_sub hb (by omega : g ≤ e) (by omega : g ≤ f) h
  by_cases hsmall : |(m : Rat) * b ^ e| ≤ b ^ p * b ^ g
  · calc |(m : Rat) * b ^ e| ≤ b ^ p * b ^ g := hsmall
      _ ≤ b ^ p * |(m : Rat) * b ^ e - n * b ^ f| := by gcongr
      _ = |(m : Rat) * b ^ e - n * b ^ f| * b ^ p := mul_comm _ _
  · -- a number this large has its last figure above the unit, so the unit is that of the other
    have hf : f = g := by
      by_contra hne
      have he : e = g := by omega
      apply hsmall
      rw [he]
      refine (abs_le_units hb hm g).trans ?_
      gcongr
      exact sub_le_self _ zero_le_one
    have hother := abs_le_units hb hn f
    have hdistance : |(m : Rat) * b ^ e| - |(n : Rat) * b ^ f| ≤ |(m : Rat) * b ^ e - n * b ^ f| :=
      abs_sub_abs_le_abs_sub _ _
    have hlarge := not_le.1 hsmall
    have hone : (1 : Rat) ≤ b ^ p := by exact_mod_cast Nat.one_le_pow p b hb
    rw [hf] at hother hdistance ⊢
    generalize |(m : Rat) * b ^ e| = X at *
    generalize |(m : Rat) * b ^ e - n * b ^ g| = D at *
    calc X = X * b ^ p - X * (b ^ p - 1) := by ring
      _ ≤ X * b ^ p - b ^ p * b ^ g * (b ^ p - 1) := by gcongr
      _ = (X - (b ^ p - 1) * b ^ g) * b ^ p := by ring
      _ ≤ D * b ^ p := by gcongr; linarith

end

/-! ## Rounding -/

/-- A way to go to a nearest whole number. -/
structure Nearest where
  round : Rat → Int
  abs_sub_le : ∀ x, |(round x : Rat) - x| ≤ 1 / 2

namespace Nearest

instance : CoeFun Nearest fun _ => Rat → Int := ⟨Nearest.round⟩

/-- Of two the even one. -/
def halfEven : Nearest := ⟨roundEven, abs_roundEven_sub_le⟩

/-- Of two the upper one. -/
def halfUp : Nearest where
  round x := (x + 1 / 2).floor
  abs_sub_le x := by
    have hle : ((x + 1 / 2).floor : Rat) ≤ x + 1 / 2 := Int.floor_le (x + 1 / 2)
    have hlt : x + 1 / 2 < (x + 1 / 2).floor + 1 := Int.lt_floor_add_one (x + 1 / 2)
    rw [abs_le]
    constructor <;> linarith

variable (r : Nearest)

theorem intCast (n : Int) : r n = n := by
  have h := r.abs_sub_le n
  have hcast : |((r n - n : Int) : Rat)| ≤ 1 / 2 := by rwa [Int.cast_sub]
  rw [← Int.cast_abs] at hcast
  have hlt : |r n - n| < 1 := by
    have hone : ((|r n - n| : Int) : Rat) < ((1 : Int) : Rat) := by
      rw [Int.cast_one]
      linarith
    exact_mod_cast hone
  have hzero := Int.abs_lt_one_iff.1 hlt
  omega

/-- Between two whole numbers. -/
theorem mem_of_mem {x : Rat} {lo hi : Int} (hlo : (lo : Rat) ≤ x) (hhi : x ≤ hi) : lo ≤ r x ∧ r x ≤ hi := by
  have h := abs_le.1 (r.abs_sub_le x)
  constructor
  · have hlt : ((lo : Int) : Rat) < ((r x + 1 : Int) : Rat) := by
      push_cast
      linarith
    have hint : lo < r x + 1 := by exact_mod_cast hlt
    omega
  · have hlt : ((r x : Int) : Rat) < ((hi + 1 : Int) : Rat) := by
      push_cast
      linarith
    have hint : r x < hi + 1 := by exact_mod_cast hlt
    omega

end Nearest

/-- No whole number is nearer. -/
theorem abs_nearest_sub_le (r : Nearest) (x : Rat) (k : Int) : |(r x : Rat) - x| ≤ |(k : Rat) - x| := by
  by_cases h : r x = k
  · rw [h]
  · have hround := r.abs_sub_le x
    generalize r x = n at *
    have hone : (1 : Rat) ≤ |((n - k : Int) : Rat)| := by
      rw [← Int.cast_abs]
      exact_mod_cast Int.one_le_abs (sub_ne_zero.2 h)
    have hdistance : |(n : Rat) - k| ≤ |(n : Rat) - x| + |(k : Rat) - x| := by
      rw [abs_sub_comm (k : Rat)]
      exact abs_sub_le ..
    rw [Int.cast_sub] at hone
    linarith

/-- The place of the last of `p` figures of a number in base `b`. -/
def lastPlace (b p : Nat) (x : Rat) : Int := Int.log b |x| + 1 - p

/-- The nearest number of `p` figures in units of the last one. -/
def units (b : Nat) (r : Nearest) (p : Nat) (x : Rat) : Int := r (|x| / (b : Rat) ^ lastPlace b p x)

/-- The nearest number of `p` figures in base `b`. -/
def significant (b : Nat) (r : Nearest) (p : Nat) (x : Rat) : Rat :=
  (if x < 0 then -1 else 1) * (units b r p x * (b : Rat) ^ lastPlace b p x)

/-- The digits of the nearest number of `p` figures as a number, and the place of the first. -/
def digitsAndPlace (r : Nearest) (p : Nat) (x : Rat) : Nat × Int :=
  let n := (units 10 r p x).toNat
  if n = 10 ^ p then (10 ^ (p - 1), Int.log 10 |x| + 1) else (n, Int.log 10 |x|)

theorem sign_mul_abs (x : Rat) : (if x < 0 then (-1 : Rat) else 1) * |x| = x := by
  split
  · rename_i hneg
    rw [abs_of_neg hneg, neg_mul_neg, one_mul]
  · rename_i hneg
    rw [abs_of_nonneg (not_lt.1 hneg), one_mul]

theorem abs_sign_mul (x y : Rat) : |(if x < 0 then (-1 : Rat) else 1) * y| = |y| := by
  split
  · rw [neg_one_mul, abs_neg]
  · rw [one_mul]

section

variable {b : Nat} (hb : 1 < b) (r : Nearest) {p : Nat} {x : Rat}

include hb in
theorem unit_pos (p : Nat) (x : Rat) : (0 : Rat) < (b : Rat) ^ lastPlace b p x :=
  zpow_pos (Nat.cast_pos.2 (Nat.zero_lt_of_lt hb)) _

include hb in
/-- The first of the figures is not zero. -/
theorem abs_mem (h : x ≠ 0) (p : Nat) : (b : Rat) ^ p * (b : Rat) ^ lastPlace b p x ≤ |x| * b ∧
    |x| < (b : Rat) ^ p * (b : Rat) ^ lastPlace b p x := by
  have hbase : (b : Rat) ≠ 0 := Nat.cast_ne_zero.2 (Nat.zero_lt_of_lt hb).ne'
  have hlow := Int.zpow_log_le_self hb (abs_pos.2 h)
  have hhigh := Int.lt_zpow_succ_log_self hb |x|
  have hpow : (b : Rat) ^ p * (b : Rat) ^ lastPlace b p x = (b : Rat) ^ (Int.log b |x| + 1) := by
    rw [← zpow_natCast, ← zpow_add₀ hbase, lastPlace, add_sub_cancel]
  rw [hpow]
  refine ⟨?_, hhigh⟩
  rw [zpow_add_one₀ hbase]
  gcongr

include hb in
/-- What is left out is half of the last figure at most. -/
theorem abs_significant_sub_le (p : Nat) (x : Rat) :
    |significant b r p x - x| ≤ 1 / 2 * (b : Rat) ^ lastPlace b p x := by
  have hpos := unit_pos hb p x
  have hround := r.abs_sub_le (|x| / (b : Rat) ^ lastPlace b p x)
  have hscale : abs ((units b r p x : Rat) * (b : Rat) ^ lastPlace b p x - |x|) ≤
      1 / 2 * (b : Rat) ^ lastPlace b p x := by
    have heq : (units b r p x : Rat) * (b : Rat) ^ lastPlace b p x - |x| =
        ((units b r p x : Rat) - |x| / (b : Rat) ^ lastPlace b p x) * (b : Rat) ^ lastPlace b p x := by
      field_simp
    rw [heq, abs_mul, abs_of_pos hpos]
    exact mul_le_mul_of_nonneg_right hround hpos.le
  have hsign : significant b r p x - x =
      (if x < 0 then -1 else 1) * ((units b r p x : Rat) * (b : Rat) ^ lastPlace b p x - |x|) := by
    rw [mul_sub, sign_mul_abs]
    rfl
  rw [hsign, abs_sign_mul]
  exact hscale

theorem units_zero (p : Nat) : units b r p 0 = 0 := by
  have h := r.intCast 0
  rw [Int.cast_zero] at h
  rw [units, abs_zero, zero_div, h]

theorem significant_zero (p : Nat) : significant b r p 0 = 0 := by
  unfold significant
  rw [units_zero, Int.cast_zero, zero_mul, mul_zero]

include hb in
/-- The error in proportion to the number. -/
theorem abs_significant_sub_le_mul (p : Nat) (x : Rat) :
    |significant b r (p + 1) x - x| * (2 * (b : Rat) ^ p) ≤ |x| := by
  by_cases h : x = 0
  · rw [h, significant_zero, sub_zero, abs_zero, zero_mul]
  · have hbase : (0 : Rat) < b := Nat.cast_pos.2 (Nat.zero_lt_of_lt hb)
    have hbound := abs_significant_sub_le hb r (p + 1) x
    obtain ⟨hlow, -⟩ := abs_mem hb h (p + 1)
    rw [pow_succ, mul_right_comm] at hlow
    generalize (b : Rat) ^ lastPlace b (p + 1) x = u at *
    calc |significant b r (p + 1) x - x| * (2 * (b : Rat) ^ p) ≤ 1 / 2 * u * (2 * (b : Rat) ^ p) := by gcongr
      _ = (b : Rat) ^ p * u := by ring
      _ ≤ |x| := le_of_mul_le_mul_right hlow hbase

include hb in
/-- The units are as many as `p` figures have room for. -/
theorem units_mem (h : x ≠ 0) (p : Nat) :
    (b : Int) ^ p ≤ units b r (p + 1) x ∧ units b r (p + 1) x ≤ (b : Int) ^ (p + 1) := by
  have hbase : (0 : Rat) < b := Nat.cast_pos.2 (Nat.zero_lt_of_lt hb)
  have hpos := unit_pos hb (p + 1) x
  obtain ⟨hlow, hhigh⟩ := abs_mem hb h (p + 1)
  apply r.mem_of_mem
  · rw [le_div_iff₀ hpos]
    push_cast
    rw [pow_succ, mul_right_comm] at hlow
    exact le_of_mul_le_mul_right hlow hbase
  · rw [div_le_iff₀ hpos]
    push_cast
    exact hhigh.le

include hb in
theorem units_nonneg (p : Nat) (x : Rat) : 0 ≤ units b r (p + 1) x := by
  by_cases h : x = 0
  · rw [h, units_zero]
  · exact le_trans (by positivity) (units_mem hb r h p).1

include hb in
/-- Rounding gives a number of so many figures. -/
theorem figures_significant (p : Nat) (x : Rat) : Figures b (p + 1) (significant b r (p + 1) x) := by
  have hsign : ∀ {y : Rat}, Figures b (p + 1) y → Figures b (p + 1) ((if x < 0 then -1 else 1) * y) := by
    rintro y ⟨m, e, hm, rfl⟩
    split
    · refine ⟨-m, e, by rwa [abs_neg], ?_⟩
      push_cast
      ring
    · exact ⟨m, e, hm, one_mul _⟩
  apply hsign
  have hnonneg := units_nonneg hb r p x
  by_cases h : x = 0
  · refine ⟨0, 0, ?_, ?_⟩
    · rw [abs_zero]
      exact_mod_cast Nat.pow_pos (Nat.zero_lt_of_lt hb)
    · rw [h, units_zero, Int.cast_zero, zero_mul, zero_mul]
  · obtain ⟨-, hle⟩ := units_mem hb r h p
    rcases hle.lt_or_eq with hlt | heq
    · exact ⟨_, _, by rw [abs_of_nonneg hnonneg]; exact_mod_cast hlt, rfl⟩
    · refine ⟨1, lastPlace b (p + 1) x + (p + 1 : Nat), ?_, ?_⟩
      · rw [abs_one]
        exact_mod_cast Nat.one_lt_pow (Nat.succ_ne_zero p) hb
      · rw [heq, zpow_add₀ (Nat.cast_ne_zero.2 (Nat.zero_lt_of_lt hb).ne'), zpow_natCast]
        push_cast
        ring

include hb in
/-- A number with so many figures has its last figure at its last place or above it. -/
theorem lastPlace_le {m e : Int} (hm : |m| < (b : Int) ^ p) (h : (m : Rat) * (b : Rat) ^ e ≠ 0) :
    lastPlace b p (m * (b : Rat) ^ e) ≤ e := by
  have hone : (1 : Rat) < b := by exact_mod_cast hb
  have hunit : (0 : Rat) < (b : Rat) ^ e := zpow_pos (zero_lt_one.trans hone) e
  have hlow := Int.zpow_log_le_self hb (abs_pos.2 h)
  have habs : |(m : Rat) * (b : Rat) ^ e| < (b : Rat) ^ (p + e) := by
    rw [abs_mul, abs_of_pos hunit, zpow_add₀ (zero_lt_one.trans hone).ne', zpow_natCast, ← Int.cast_abs]
    gcongr
    exact_mod_cast hm
  have hlt := (zpow_lt_zpow_iff_right₀ hone).1 (hlow.trans_lt habs)
  unfold lastPlace
  omega

include hb in
/-- A number of so many figures is rounded to itself. -/
theorem significant_of_figures (h : Figures b p x) : significant b r p x = x := by
  obtain ⟨m, e, hm, rfl⟩ := h
  by_cases hzero : (m : Rat) * (b : Rat) ^ e = 0
  · rw [hzero, significant_zero]
  · have hunit : (0 : Rat) < (b : Rat) ^ e := zpow_pos (Nat.cast_pos.2 (Nat.zero_lt_of_lt hb)) e
    have hplace := lastPlace_le hb hm hzero
    generalize hx : (m : Rat) * (b : Rat) ^ e = x at hzero hplace ⊢
    obtain ⟨k, hk⟩ := exists_units (Nat.zero_lt_of_lt hb) |m| hplace
    have hpos := unit_pos hb p x
    have habs : |x| = k * (b : Rat) ^ lastPlace b p x := by
      calc |x| = (|m| : Int) * (b : Rat) ^ e := by rw [← hx, abs_mul, abs_of_pos hunit, ← Int.cast_abs]
        _ = k * (b : Rat) ^ lastPlace b p x := hk
    have hunits : units b r p x = k := by
      rw [units, habs, mul_div_cancel_right₀ _ hpos.ne', r.intCast]
    unfold significant
    rw [hunits, ← habs, sign_mul_abs]

include hb in
theorem significant_eq_iff (p : Nat) (x : Rat) : significant b r (p + 1) x = x ↔ Figures b (p + 1) x := by
  constructor
  · intro h
    rw [← h]
    exact figures_significant hb r p x
  · exact significant_of_figures hb r

/-! ## The nearest number -/

include hb in
/-- No other multiple of the last place is nearer. -/
theorem abs_significant_sub_le_units (x : Rat) (k : Int) :
    |significant b r p x - x| ≤ abs ((k : Rat) * (b : Rat) ^ lastPlace b p x - x) := by
  have hpos := unit_pos hb p x
  have hnearest : ∀ k : Int, |significant b r p x - x| ≤ abs ((k : Rat) * (b : Rat) ^ lastPlace b p x - |x|) := by
    intro k
    have hround := abs_nearest_sub_le r (|x| / (b : Rat) ^ lastPlace b p x) k
    have hscale : ∀ y : Rat, abs (y * (b : Rat) ^ lastPlace b p x - |x|) =
        abs (y - |x| / (b : Rat) ^ lastPlace b p x) * (b : Rat) ^ lastPlace b p x := by
      intro y
      rw [← abs_of_pos hpos, ← abs_mul, abs_of_pos hpos, sub_mul, div_mul_cancel₀ _ hpos.ne']
    have hsign : significant b r p x - x =
        (if x < 0 then -1 else 1) * ((units b r p x : Rat) * (b : Rat) ^ lastPlace b p x - |x|) := by
      rw [mul_sub, sign_mul_abs]
      rfl
    rw [hsign, abs_sign_mul, hscale, hscale]
    exact mul_le_mul_of_nonneg_right hround hpos.le
  by_cases hneg : x < 0
  · have h := hnearest (-k)
    rw [abs_of_neg hneg] at h
    rw [← abs_neg ((k : Rat) * _ - x)]
    refine h.trans_eq (congrArg abs ?_)
    push_cast
    ring
  · have h := hnearest k
    rwa [abs_of_nonneg (not_lt.1 hneg)] at h

include hb in
/-- No number with so many figures is nearer. -/
theorem abs_significant_sub_le_of_figures {z : Rat} (x : Rat) (hz : Figures b (p + 1) z) :
    |significant b r (p + 1) x - x| ≤ |z - x| := by
  by_cases hx : x = 0
  · rw [hx, significant_zero, sub_self, abs_zero]
    exact abs_nonneg _
  by_cases hmultiple : ∃ k : Int, z = k * (b : Rat) ^ lastPlace b (p + 1) x
  · obtain ⟨k, hk⟩ := hmultiple
    conv_rhs => rw [hk]
    exact abs_significant_sub_le_units hb r x k
  · -- a number with a figure below the last place is smaller than the first number with that place
    have hone : (1 : Rat) < b := by exact_mod_cast hb
    obtain ⟨m, e, hm, rfl⟩ := hz
    have hlt : e < lastPlace b (p + 1) x := by
      by_contra hle
      exact hmultiple (exists_units (Nat.zero_lt_of_lt hb) m (not_lt.1 hle))
    have hpos := unit_pos hb (p + 1) x
    have hfirst : (b : Rat) ^ p * (b : Rat) ^ lastPlace b (p + 1) x ≤ |x| := by
      obtain ⟨hlow, -⟩ := abs_mem hb hx (p + 1)
      rw [pow_succ, mul_right_comm] at hlow
      exact le_of_mul_le_mul_right hlow (zero_lt_one.trans hone)
    have hsmall : |(m : Rat) * (b : Rat) ^ e| ≤ (b : Rat) ^ p * (b : Rat) ^ lastPlace b (p + 1) x := by
      have hunit : (0 : Rat) < (b : Rat) ^ e := zpow_pos (zero_lt_one.trans hone) e
      have hcast : |(m : Rat)| ≤ (b : Rat) ^ (p + 1) := by
        rw [← Int.cast_abs]
        exact_mod_cast hm.le
      calc |(m : Rat) * (b : Rat) ^ e| = |(m : Rat)| * (b : Rat) ^ e := by rw [abs_mul, abs_of_pos hunit]
        _ ≤ (b : Rat) ^ (p + 1) * (b : Rat) ^ e := by gcongr
        _ = (b : Rat) ^ p * (b : Rat) ^ (e + 1) := by
          rw [zpow_add_one₀ (zero_lt_one.trans hone).ne']
          ring
        _ ≤ (b : Rat) ^ p * (b : Rat) ^ lastPlace b (p + 1) x := by
          gcongr
          · exact hone.le
          · omega
    have hnearest := abs_significant_sub_le_units hb r (p := p + 1) x ((if x < 0 then -1 else 1) * b ^ p)
    refine hnearest.trans ?_
    have hsign : (((if x < 0 then -1 else 1) * b ^ p : Int) : Rat) * (b : Rat) ^ lastPlace b (p + 1) x - x =
        (if x < 0 then -1 else 1) * ((b : Rat) ^ p * (b : Rat) ^ lastPlace b (p + 1) x - |x|) := by
      rw [mul_sub, sign_mul_abs]
      push_cast
      ring
    rw [hsign, abs_sign_mul, abs_of_nonpos (sub_nonpos.2 hfirst), neg_sub]
    calc |x| - (b : Rat) ^ p * (b : Rat) ^ lastPlace b (p + 1) x ≤ |x| - |(m : Rat) * (b : Rat) ^ e| := by gcongr
      _ ≤ |x - m * (b : Rat) ^ e| := abs_sub_abs_le_abs_sub _ _
      _ = |m * (b : Rat) ^ e - x| := abs_sub_comm _ _

/-! ## Base ten -/

theorem digitsAndPlace_eq (p : Nat) (x : Rat) : ((digitsAndPlace r (p + 1) x).1 : Rat) *
    10 ^ ((digitsAndPlace r (p + 1) x).2 - p) = units 10 r (p + 1) x * 10 ^ lastPlace 10 (p + 1) x := by
  have hnonneg := units_nonneg (by decide : 1 < 10) r p x
  obtain ⟨n, hn⟩ := Int.eq_ofNat_of_zero_le hnonneg
  have hplace : lastPlace 10 (p + 1) x = Int.log 10 |x| - p := by
    unfold lastPlace
    push_cast
    ring
  unfold digitsAndPlace
  dsimp only
  rw [hn, Int.toNat_natCast, hplace]
  split
  · -- all nines are rounded up to a one with zeros
    rename_i hcarry
    have hpow : Int.log 10 |x| + 1 - p = (Int.log 10 |x| - p) + 1 := by ring
    rw [hcarry, hpow, zpow_add_one₀ (by norm_num)]
    push_cast
    rw [pow_succ]
    ring
  · push_cast
    rfl

/-- With room for one more figure than the numbers of another base need, every one of them is the nearest of them to
its rounding. -/
theorem abs_significant_sub_lt {q : Nat} {z : Rat} (hb : 0 < b) (hq : b ^ q < 10 ^ p) (hx : Figures b q x)
    (hz : Figures b q z) (h : z ≠ x) : |significant 10 r (p + 1) x - x| < |significant 10 r (p + 1) x - z| := by
  have hroom := hx.room hb hz h.symm
  have herror := abs_significant_sub_le_mul (by decide : 1 < 10) r p x
  have hdistance : |x - z| ≤ |significant 10 r (p + 1) x - x| + |significant 10 r (p + 1) x - z| := by
    rw [abs_sub_comm _ x]
    exact abs_sub_le ..
  have hpos : 0 < |x - z| := abs_pos.2 (sub_ne_zero.2 h.symm)
  have hpow : (b : Rat) ^ q < 10 ^ p := by exact_mod_cast hq
  have hten : (0 : Rat) < 10 ^ p := by positivity
  rw [Nat.cast_ofNat] at herror
  generalize |significant 10 r (p + 1) x - x| = E at *
  have hhalf : E * 2 < |x - z| := by
    by_contra hge
    have hle := not_lt.1 hge
    have hlt : |x - z| * b ^ q < |x - z| * 10 ^ p := by gcongr
    have hmul : |x - z| * 10 ^ p ≤ E * 2 * 10 ^ p := by gcongr
    linarith
  linarith

/-- It is found again by going back. -/
theorem significant_significant {q : Nat} (r' : Nearest) (hb : 1 < b) (hq : b ^ (q + 1) < 10 ^ p)
    (hx : Figures b (q + 1) x) : significant b r' (q + 1) (significant 10 r (p + 1) x) = x := by
  by_contra h
  have hback := figures_significant hb r' q (significant 10 r (p + 1) x)
  have hfar := abs_significant_sub_lt r (Nat.zero_lt_of_lt hb) hq hx hback h
  have hnear := abs_significant_sub_le_of_figures hb r' (significant 10 r (p + 1) x) hx
  rw [abs_sub_comm, abs_sub_comm x] at hnear
  exact absurd hnear (not_le.2 hfar)

end

end Decimal

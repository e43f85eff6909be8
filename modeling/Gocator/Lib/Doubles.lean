/-
Numbers as doubles hold them: the nearest numbers of 53 bits. How large an exponent may get is left out. Seventeen
figures of a double are enough to find it again, and a decimal of fifteen is found again from its double.
-/
import Gocator.Lib.JsonNumber

namespace Decimal

/-- The double nearest to a number, the even one of two. -/
def double (x : Rat) : Rat := significant 2 .halfEven 53 x

theorem figures_double (x : Rat) : Figures 2 53 (double x) := figures_significant (by decide) .halfEven 52 x

theorem double_eq_iff {x : Rat} : double x = x ↔ Figures 2 53 x := significant_eq_iff (by decide) .halfEven 52 x

theorem abs_double_sub_le (x : Rat) : |double x - x| * 2 ^ 53 ≤ |x| := by
  have h := abs_significant_sub_le_mul (by decide : 1 < 2) .halfEven 52 x
  rw [Nat.cast_ofNat, ← pow_succ'] at h
  exact h

/-- A double is found again from seventeen of its figures. -/
theorem double_significant (r : Nearest) {x : Rat} (hx : Figures 2 53 x) : double (significant 10 r 17 x) = x :=
  significant_significant r .halfEven (by decide) (by norm_num) hx

/-- Every other double is further from what the figures denote. -/
theorem abs_significant_sub_lt_of_double (r : Nearest) {x z : Rat} (hx : Figures 2 53 x) (hz : Figures 2 53 z)
    (h : z ≠ x) :
    |significant 10 r 17 x - x| < |significant 10 r 17 x - z| :=
  abs_significant_sub_lt r (by decide) (by norm_num) hx hz h

/-- A decimal of fifteen figures is found again from its double. -/
theorem round_double {d : Nat} {q : Rat} (hq : Places d q) (hlow : -10 ^ 15 ≤ q * 10 ^ d)
    (hhigh : q * 10 ^ d ≤ 10 ^ 15) :
    round d (double q) = q := by
  refine round_of_near hq ?_
  have hpos : (0 : Rat) < 10 ^ d := by positivity
  have habs : |q| * 10 ^ d ≤ 10 ^ 15 := by
    calc |q| * 10 ^ d = |q * 10 ^ d| := by rw [abs_mul, abs_of_pos hpos]
      _ ≤ 10 ^ 15 := abs_le.2 ⟨hlow, hhigh⟩
  have hbound : |double q - q| * 2 ^ 53 * 10 ^ d ≤ |q| * 10 ^ d := by
    have h := abs_double_sub_le q
    gcongr
  rw [mul_right_comm] at hbound
  have hroom : (2 : Rat) * 10 ^ 15 < 2 ^ 53 := by norm_num
  generalize |double q - q| * 10 ^ d = e at *
  linarith

theorem double_intCast {n : Int} (h : |n| < 2 ^ 53) : double n = n :=
  double_eq_iff.2 ⟨n, 0, by exact_mod_cast h, by simp⟩

end Decimal

namespace Json

mutual

/-- The value with a function applied to its numbers. -/
def mapNum (f : Rat → Rat) : Json → Json
  | .num q => .num (f q)
  | .arr items => .arr (mapItems f items)
  | .obj ms => .obj (mapMembers f ms)
  | j => j

def mapItems (f : Rat → Rat) : List Json → List Json
  | [] => []
  | v :: vs => mapNum f v :: mapItems f vs

def mapMembers (f : Rat → Rat) : List (String × Json) → List (String × Json)
  | [] => []
  | (k, v) :: ms => (k, mapNum f v) :: mapMembers f ms

end

@[simp] theorem mapNum_bool (f : Rat → Rat) (b : Bool) : mapNum f (.bool b) = .bool b := rfl

@[simp] theorem mapNum_num (f : Rat → Rat) (q : Rat) : mapNum f (.num q) = .num (f q) := rfl

@[simp] theorem mapNum_str (f : Rat → Rat) (s : String) : mapNum f (.str s) = .str s := rfl

end Json

namespace JsonText

/-- The JSON reader that keeps numbers in doubles. -/
def parseDoubles (text : String) : Option Json := (parse text).map (Json.mapNum Decimal.double)

theorem parseDoubles_of_parse {text : String} {v : Json} (h : parse text = some v) :
    parseDoubles text = some (v.mapNum Decimal.double) := by
  rw [parseDoubles, h, Option.map_some]

end JsonText

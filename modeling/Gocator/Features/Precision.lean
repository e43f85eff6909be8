/-
The precision and the step of an editor: the places of a number as its printed text shows them, and the places that
every number of a schema, the step and any number of steps from the value keep within.
-/
import Gocator.Features.Editors
import Gocator.Lib.JsonWrite

namespace Gocator.Features

open Decimal (Places)

/-! ## The printed text -/

/-- `QString::number(value, 'f', places)` of a number that is not negative. -/
def fixedText (places : Nat) (value : Rat) : List Char :=
  JsonText.unitsText false places (Decimal.round places value * 10 ^ places).floor.toNat

/-- The places in front of the first zero at the end, counted on the text: what `decimalPlaces` computes. -/
def printedPlaces (value : Rat) : Nat :=
  let text := (fixedText 12 |value|).rdropWhile (· = '0')
  match text.findIdx? (· = '.') with
  | some decimalPoint => min 12 (text.length - decimalPoint - 1)
  | none => 0

theorem unitsText_eq {places : Nat} (h : 0 < places) (scaled : Nat) : JsonText.unitsText false places scaled =
    Nat.toDigits 10 (scaled / 10 ^ places) ++ '.' :: Decimal.lastDigits places scaled := by
  obtain ⟨c, cs, hdigits⟩ : ∃ c cs, Decimal.lastDigits places scaled = c :: cs :=
    List.exists_cons_of_length_pos ((Decimal.length_lastDigits places scaled).symm ▸ h)
  rw [JsonText.unitsText, hdigits]
  rfl

/-- Zeros are chopped behind the point only. -/
theorem chop_point (front digits : List Char) :
    (front ++ '.' :: digits).rdropWhile (· = '0') = front ++ '.' :: digits.rdropWhile (· = '0') := by
  induction digits using List.reverseRecOn with
  | nil => exact List.rdropWhile_concat_neg _ _ _ (by decide)
  | append_singleton digits c ih =>
    rw [← List.cons_append, ← List.append_assoc]
    by_cases h : c = '0'
    · rw [List.rdropWhile_concat_pos _ _ _ (by simpa using h), List.rdropWhile_concat_pos _ _ _ (by simpa using h)]
      exact ih
    · rw [List.rdropWhile_concat_neg _ _ _ (by simpa using h), List.rdropWhile_concat_neg _ _ _ (by simpa using h),
        List.append_assoc, List.cons_append]

/-- The first point is the one behind the digits. -/
theorem findIdx?_point {front : List Char} (h : '.' ∉ front) (digits : List Char) :
    (front ++ '.' :: digits).findIdx? (· = '.') = some front.length := by
  have hfront : front.findIdx? (· = '.') = none := by
    rw [List.findIdx?_eq_none_iff]
    intro c hc
    simpa using fun heq : c = '.' => h (heq ▸ hc)
  rw [List.findIdx?_append, hfront, List.findIdx?_cons]
  simp

/-- The loop over the text counts the places that the number needs. -/
theorem printedPlaces_eq (value : Rat) : printedPlaces value = decimalPlaces value := by
  have hpoint : '.' ∉ Nat.toDigits 10 ((Decimal.round 12 |value| * 10 ^ 12).floor.toNat / 10 ^ 12) := by
    intro hmem
    have hdigit := Nat.isDigit_of_mem_toDigits (by decide) (by decide) hmem
    exact absurd hdigit (by decide)
  unfold printedPlaces fixedText
  dsimp only
  rw [unitsText_eq (by decide), chop_point, findIdx?_point hpoint]
  have hle := decimalPlaces_le value
  have hlength := Decimal.length_chop_lastDigits 12 (Decimal.round 12 |value| * 10 ^ 12).floor.toNat
  unfold decimalPlaces Decimal.needed at hle ⊢
  simp only [List.length_append, List.length_cons]
  omega

/-! ## The precision -/

section

variable {propSchema : Json} {x : Rat}

theorem schemaDecimalPlaces_le (propSchema : Json) (x : Rat) : schemaDecimalPlaces propSchema x ≤ 12 := by
  unfold schemaDecimalPlaces
  dsimp only
  omega

theorem decimalPlaces_hint_le_schema {key : String} (hkey : key ∈ numberHints) (hhas : propSchema.hasKey key = true) :
    decimalPlaces (toDouble (propSchema.get? key) 0) ≤ schemaDecimalPlaces propSchema x := by
  apply le_schemaDecimalPlaces (decimalPlaces_le _)
  apply le_foldl_of_mem (le_hintPlaces propSchema) hkey
  intro decimals
  rw [hintPlaces, if_pos hhas]
  exact le_max_right _ _

theorem places_hint {key : String} (hkey : key ∈ numberHints) (hhas : propSchema.hasKey key = true)
    (h : Places 12 (toDouble (propSchema.get? key) 0)) :
    Places (schemaDecimalPlaces propSchema x) (toDouble (propSchema.get? key) 0) :=
  (Decimal.places_needed h).mono (decimalPlaces_hint_le_schema hkey hhas)

/-! ## The step -/

/-- A hint that the schema does not have is no step. -/
theorem hasKey_of_toDouble_pos {key : String} (h : 0 < toDouble (propSchema.get? key) 0) :
    propSchema.hasKey key = true := by
  unfold Json.hasKey
  cases hget : propSchema.get? key with
  | none =>
    rw [hget] at h
    exact absurd h (lt_irrefl 0)
  | some v => rfl

/-- The step is a hint of the schema, or one in the last place. -/
theorem schemaStep_cases (propSchema : Json) (decimals : Nat) :
    (∃ key ∈ numberHints, 0 < toDouble (propSchema.get? key) 0 ∧
      schemaStep propSchema decimals = toDouble (propSchema.get? key) 0) ∨
    schemaStep propSchema decimals = 1 / 10 ^ decimals := by
  unfold schemaStep
  split
  · rename_i key hfind
    have hmem := List.mem_of_find?_eq_some hfind
    have hpos := List.find?_some hfind
    refine .inl ⟨key, ?_, by simpa using hpos, rfl⟩
    simp only [List.mem_cons, List.not_mem_nil, or_false] at hmem
    rcases hmem with rfl | rfl | rfl <;> decide
  · right
    split
    · rfl
    · rename_i hzero
      have hd : decimals = 0 := by omega
      rw [hd, pow_zero, div_one]

end

/-- With a value and hints of at most twelve places, the precision holds every one of them, and the step: any number
of steps from the value is a decimal of that precision. -/
theorem schemaDecimalPlaces_lossless (propSchema : Json) (x : Rat) (hx : Places 12 x)
    (hhints : ∀ key ∈ numberHints, propSchema.hasKey key = true → Places 12 (toDouble (propSchema.get? key) 0)) :
    let d := schemaDecimalPlaces propSchema x
    d ≤ 12 ∧ Places d x ∧
      (∀ key ∈ numberHints, propSchema.hasKey key = true → Places d (toDouble (propSchema.get? key) 0)) ∧
      0 < schemaStep propSchema d ∧ Places d (schemaStep propSchema d) ∧
      ∀ n : Int, Places d (x + n * schemaStep propSchema d) := by
  intro d
  have hvalue : Places d x := (Decimal.places_needed hx).mono (decimalPlaces_le_schema propSchema x)
  have hnumbers : ∀ key ∈ numberHints, propSchema.hasKey key = true → Places d (toDouble (propSchema.get? key) 0) :=
    fun key hkey hhas => places_hint hkey hhas (hhints key hkey hhas)
  have hstep : 0 < schemaStep propSchema d ∧ Places d (schemaStep propSchema d) := by
    rcases schemaStep_cases propSchema d with ⟨key, hkey, hpos, heq⟩ | heq
    · rw [heq]
      exact ⟨hpos, hnumbers key hkey (hasKey_of_toDouble_pos hpos)⟩
    · rw [heq]
      exact ⟨by positivity, Decimal.places_unit d⟩
  exact ⟨schemaDecimalPlaces_le propSchema x, hvalue, hnumbers, hstep.1, hstep.2, hvalue.add_intCast_mul hstep.2⟩

/-- The value 0.125, a lower bound of -0.5 and steps of 0.25. -/
theorem schemaDecimalPlaces_lossless_quarter :
    let propSchema : Json := .obj [("minimum", .num (-1 / 2)), ("multipleOf", .num (1 / 4))]
    let d := schemaDecimalPlaces propSchema (1 / 8)
    Places d (1 / 8 + (3 : Int) * schemaStep propSchema d) := by
  have hhints : ∀ key ∈ numberHints,
      (Json.obj [("minimum", .num (-1 / 2)), ("multipleOf", .num (1 / 4))]).hasKey key = true →
        Places 12 (toDouble ((Json.obj [("minimum", .num (-1 / 2)), ("multipleOf", .num (1 / 4))]).get? key) 0) := by
    intro key hkey hhas
    simp only [numberHints, List.mem_cons, List.not_mem_nil, or_false] at hkey
    rcases hkey with rfl | rfl | rfl | rfl | rfl
    · exact ⟨-500000000000, by show (-1 / 2 : Rat) * 10 ^ 12 = _; norm_num⟩
    · cases hhas
    · exact ⟨250000000000, by show (1 / 4 : Rat) * 10 ^ 12 = _; norm_num⟩
    · cases hhas
    · cases hhas
  exact (schemaDecimalPlaces_lossless _ (1 / 8) ⟨125000000000, by norm_num⟩ hhints).2.2.2.2.2 3

end Gocator.Features

/-
The editors that a schema gives: which there are, the precision that keeps a value as it is, and the entry
of an enumeration that is current.
-/
import Gocator.Features.Tree

namespace Gocator.Features

/-! ## Precision -/

/-- A loop none of whose steps lowers a value does not. -/
theorem le_foldl {α β : Type} [Preorder β] (step : β → α → β) (hstep : ∀ b a, b ≤ step b a) (l : List α) (b : β) :
    b ≤ l.foldl step b := by
  induction l generalizing b with
  | nil => exact le_refl b
  | cons a l ih => exact (hstep b a).trans (ih (step b a))

/-- A loop none of whose steps lowers a value reaches what one of them reaches. -/
theorem le_foldl_of_mem {α β : Type} [Preorder β] {step : β → α → β} (hstep : ∀ b a, b ≤ step b a) {l : List α} {a : α}
    (ha : a ∈ l) {c : β} (hc : ∀ b, c ≤ step b a) (b : β) : c ≤ l.foldl step b := by
  obtain ⟨front, rest, rfl⟩ := List.append_of_mem ha
  rw [List.foldl_append, List.foldl_cons]
  exact (hc _).trans (le_foldl step hstep rest _)

/-- The hints that are numbers. -/
def numberHints : List String := ["minimum", "maximum", "multipleOf", "step", "increment"]

/-- A round of the loop over them. -/
def hintPlaces (propSchema : Json) (decimals : Int) (key : String) : Int :=
  if propSchema.hasKey key then max decimals (decimalPlaces (toDouble (propSchema.get? key) 0)) else decimals

theorem le_hintPlaces (propSchema : Json) (decimals : Int) (key : String) :
    decimals ≤ hintPlaces propSchema decimals key := by
  unfold hintPlaces
  split
  · exact le_max_left _ _
  · exact le_refl _

/-- The hints that are places only add to them, as far as the editor goes. -/
theorem le_schemaDecimalPlaces {propSchema : Json} {x : Rat} {places : Nat} (hle : places ≤ 12)
    (h : (places : Int) ≤ numberHints.foldl (hintPlaces propSchema) (decimalPlaces x)) :
    places ≤ schemaDecimalPlaces propSchema x := by
  have hhints := le_foldl
    (fun decimals key => if propSchema.hasKey key then max decimals (toInt (propSchema.get? key) 0) else decimals)
    (by intro b a; split <;> omega) ["decimals", "decimalPlaces", "precision"]
    (numberHints.foldl (hintPlaces propSchema) (decimalPlaces x))
  have hsum := h.trans hhints
  show places ≤ (max 0 (min 12 (List.foldl _ (numberHints.foldl (hintPlaces propSchema) (decimalPlaces x)) _))).toNat
  omega

theorem decimalPlaces_le (x : Rat) : decimalPlaces x ≤ 12 := Decimal.needed_le 12 x

/-- The schema's hints add places to those of the value. -/
theorem decimalPlaces_le_schema (propSchema : Json) (x : Rat) : decimalPlaces x ≤ schemaDecimalPlaces propSchema x :=
  le_schemaDecimalPlaces (decimalPlaces_le x) (le_foldl _ (le_hintPlaces propSchema) numberHints _)

/-- A value with at most twelve places is not rounded. -/
theorem round_schemaDecimalPlaces {propSchema : Json} {x : Rat} (h : Decimal.Places 12 x) :
    Decimal.round (schemaDecimalPlaces propSchema x) x = x :=
  Decimal.round_of_places ((Decimal.places_needed h).mono (decimalPlaces_le_schema propSchema x))

/-! ## The current entry -/

section

variable {isCurrent : Json → Bool}

/-- The index that the loop over an enumeration leaves. -/
def activeIndex (isCurrent : Json → Bool) (enumVals : List Json) : Nat :=
  enumVals.zipIdx.foldl (fun activeIndex entry => if isCurrent entry.1 then entry.2 else activeIndex) 0

theorem activeIndex_append (enumVals : List Json) (v : Json) :
    activeIndex isCurrent (enumVals ++ [v]) =
      if isCurrent v then enumVals.length else activeIndex isCurrent enumVals := by
  unfold activeIndex
  rw [List.zipIdx_append, List.foldl_append]
  simp

/-- The loop ends at the last entry that matches. -/
theorem get_activeIndex {enumVals : List Json} {v : Json} (h : (enumVals.filter isCurrent).getLast? = some v) :
    enumVals[activeIndex isCurrent enumVals]? = some v := by
  induction enumVals using List.reverseRecOn with
  | nil => cases h
  | append_singleton enumVals w ih =>
    rw [activeIndex_append]
    rw [List.filter_append] at h
    by_cases hw : isCurrent w = true
    · rw [if_pos hw, List.getElem?_append_right (Nat.le_refl _), Nat.sub_self]
      simpa [hw] using h
    · rw [if_neg hw]
      have hv := ih (by simpa [hw] using h)
      rw [List.getElem?_append_left (List.getElem?_eq_some_iff.1 hv).1]
      exact hv

/-- The data of the current item is that of the last entry that matches. -/
theorem currentData {item : Json → Json} {enumVals : List Json} {v : Json}
    (h : (enumVals.filter isCurrent).getLast? = some v) :
    ∃ index, comboBox item isCurrent enumVals = .comboBox (enumVals.map item) (some index) ∧
      (enumVals.map item)[index]? = some (item v) := by
  have hne : enumVals ≠ [] := by
    rintro rfl
    cases h
  refine ⟨activeIndex isCurrent enumVals, ?_, ?_⟩
  · unfold comboBox
    rw [if_neg hne]
    rfl
  · rw [List.getElem?_map, get_activeIndex h]
    rfl

end

/-! ## The kinds of editors -/

variable {outside : Rat → Int32} {propSchema : Json} {curVal : Option Json}

theorem buildEditor_boolean (h : toText (propSchema.get? "type") = "boolean") :
    buildEditor outside propSchema curVal = some (.checkBox (toBool curVal)) := by
  unfold buildEditor
  rw [h]
  rfl

theorem buildEditor_numberEnum
    (h : toText (propSchema.get? "type") = "integer" ∨ toText (propSchema.get? "type") = "number")
    (henum : propSchema.hasKey "enum" = true) :
    buildEditor outside propSchema curVal =
      some (comboBox numberItem (isCurrentNumber curVal) (toArray (propSchema.get? "enum"))) := by
  unfold buildEditor
  rcases h with h | h <;> rw [h, henum] <;> rfl

theorem buildEditor_integer (h : toText (propSchema.get? "type") = "integer")
    (henum : propSchema.hasKey "enum" = false) :
    buildEditor outside propSchema curVal =
      some (spinBox (castInt outside (minVal propSchema)) (castInt outside (maxVal propSchema)) (toInt curVal 0)) := by
  unfold buildEditor
  rw [h, henum]
  rfl

theorem buildEditor_number (h : toText (propSchema.get? "type") = "number")
    (henum : propSchema.hasKey "enum" = false) :
    buildEditor outside propSchema curVal =
      let decimals := schemaDecimalPlaces propSchema (toDouble curVal 0)
      some (doubleSpinBox decimals (minVal propSchema) (maxVal propSchema) (schemaStep propSchema decimals)
        (toDouble curVal 0)) := by
  unfold buildEditor
  rw [h, henum]
  rfl

theorem buildEditor_textEnum (h : toText (propSchema.get? "type") = "string")
    (henum : propSchema.hasKey "enum" = true) :
    buildEditor outside propSchema curVal =
      some (comboBox textItem (isCurrentText curVal) (toArray (propSchema.get? "enum"))) := by
  unfold buildEditor
  rw [h, henum]
  rfl

/-- Every property that has an editor is of one of the five kinds. -/
theorem kind_of_buildEditor {e : Editor} (h : buildEditor outside propSchema curVal = some e) :
    toText (propSchema.get? "type") = "boolean" ∨
    ((toText (propSchema.get? "type") = "integer" ∨ toText (propSchema.get? "type") = "number") ∧
      propSchema.hasKey "enum" = true) ∨
    (toText (propSchema.get? "type") = "integer" ∧ propSchema.hasKey "enum" = false) ∨
    (toText (propSchema.get? "type") = "number" ∧ propSchema.hasKey "enum" = false) ∨
    (toText (propSchema.get? "type") = "string" ∧ propSchema.hasKey "enum" = true) := by
  unfold buildEditor at h
  generalize toText (propSchema.get? "type") = propType at h ⊢
  generalize propSchema.hasKey "enum" = hasEnum at h ⊢
  by_cases hboolean : propType = "boolean"
  · exact .inl hboolean
  · by_cases hnumeric : propType = "integer" ∨ propType = "number"
    · cases hasEnum with
      | true => exact .inr (.inl ⟨hnumeric, rfl⟩)
      | false =>
        rcases hnumeric with hinteger | hnumber
        · exact .inr (.inr (.inl ⟨hinteger, rfl⟩))
        · exact .inr (.inr (.inr (.inl ⟨hnumber, rfl⟩)))
    · dsimp only at h
      rw [if_neg hboolean, if_neg hnumeric] at h
      split at h
      · next hstring => exact .inr (.inr (.inr (.inr hstring)))
      · cases h

end Gocator.Features

/-
What the accessors find in a tree built from the resources, wherever nothing is pending: the editors show
the values of the leaves, and which of the editors of a path counts depends on the order of their addresses.
-/
import Gocator.Features.Parameters
import Gocator.Features.Editors

namespace Gocator.Features

variable {outside : Rat → Int32}

/-- The editor of a leaf whose value is not pending. -/
def Leaf.editor (outside : Rat → Int32) (leaf : Leaf) : Option Editor := buildEditor outside leaf.propSchema leaf.value

/-- What the accessor of a parameter reads from the editor of a leaf. -/
def Leaf.shown (outside : Rat → Int32) (p : Parameter) (leaf : Leaf) : Option Json := (leaf.editor outside).bind p.read

/-- The editor of the property is of the kind that the accessor of the parameter reads. -/
def Readable (propSchema : Json) : Parameter → Prop
  | .scanLengthMm => toText (propSchema.get? "type") = "number" ∧ propSchema.hasKey "enum" = false
  | .scanMode => toText (propSchema.get? "type") ∈ ["integer", "number", "string"] ∧ propSchema.hasKey "enum" = true
  | .exposureUs => toText (propSchema.get? "type") = "integer" ∧ propSchema.hasKey "enum" = false
  | .intensityEnabled => toText (propSchema.get? "type") = "boolean"
  | .uniformSpacingEnabled => toText (propSchema.get? "type") = "boolean"

/-- Every editor that the accessor of the parameter can read shows the value, or there is none and the value
is the accessor's own. -/
structure Resources.Shows (outside : Rat → Int32) (r : Resources) (p : Parameter) (v : Json) : Prop where
  editors : ∀ leaf ∈ r.leaves, leaf.path = p.path → Readable leaf.propSchema p → leaf.shown outside p = some v
  fallback : (∀ leaf ∈ r.leaves, leaf.path = p.path → ¬ Readable leaf.propSchema p) → p.fallback = v

/-! ## Editors that can be read -/

theorem Readable.shown (outside : Rat → Int32) {leaf : Leaf} {p : Parameter} (h : Readable leaf.propSchema p) :
    ∃ x, leaf.shown outside p = some x := by
  unfold Leaf.shown Leaf.editor
  cases p with
  | scanLengthMm =>
    rw [buildEditor_number h.1 h.2]
    exact ⟨_, rfl⟩
  | scanMode =>
    obtain ⟨htype, henum⟩ := h
    have hcomboBox : ∃ item isCurrent enumVals,
        buildEditor outside leaf.propSchema leaf.value = some (comboBox item isCurrent enumVals) := by
      simp only [List.mem_cons, List.not_mem_nil, or_false] at htype
      rcases htype with htype | htype | htype
      · exact ⟨_, _, _, buildEditor_numberEnum (.inl htype) henum⟩
      · exact ⟨_, _, _, buildEditor_numberEnum (.inr htype) henum⟩
      · exact ⟨_, _, _, buildEditor_textEnum htype henum⟩
    obtain ⟨item, isCurrent, enumVals, heditor⟩ := hcomboBox
    rw [heditor]
    exact ⟨_, rfl⟩
  | exposureUs =>
    rw [buildEditor_integer h.1 h.2]
    exact ⟨_, rfl⟩
  | intensityEnabled =>
    rw [buildEditor_boolean h]
    exact ⟨_, rfl⟩
  | uniformSpacingEnabled =>
    rw [buildEditor_boolean h]
    exact ⟨_, rfl⟩

theorem Readable.of_shown {leaf : Leaf} {p : Parameter} {x : Json} (h : leaf.shown outside p = some x) :
    Readable leaf.propSchema p := by
  obtain ⟨e, he, hread⟩ := Option.bind_eq_some_iff.1 h
  unfold Leaf.editor at he
  rcases kind_of_buildEditor he with ht | ⟨ht, henum⟩ | ⟨ht, henum⟩ | ⟨ht, henum⟩ | ⟨ht, henum⟩
  · rw [buildEditor_boolean ht] at he
    cases he
    cases p <;> first | exact ht | cases hread
  · rw [buildEditor_numberEnum ht henum] at he
    cases he
    cases p <;> first | exact ⟨by rcases ht with ht | ht <;> simp [ht], henum⟩ | cases hread
  · rw [buildEditor_integer ht henum] at he
    cases he
    cases p <;> first | exact ⟨ht, henum⟩ | cases hread
  · rw [buildEditor_number ht henum] at he
    cases he
    cases p <;> first | exact ⟨ht, henum⟩ | cases hread
  · rw [buildEditor_textEnum ht henum] at he
    cases he
    cases p <;> first | exact ⟨by simp [ht], henum⟩ | cases hread

/-! ## The entries of the leaves -/

theorem Leaf.feature_eq {pending : List (String × Json)} {leaf : Leaf}
    (hpending : SortedMap.get? leaf.path pending = none) :
    leaf.feature outside pending = (leaf.editor outside).map fun editor => ⟨editor, leaf.target, leaf.path⟩ := by
  unfold Leaf.feature Leaf.editor
  rw [hpending]

theorem Leaf.path_of_feature {pending : List (String × Json)} {leaf : Leaf} {f : Feature}
    (h : leaf.feature outside pending = some f) : f.path = leaf.path := by
  obtain ⟨editor, -, rfl⟩ := Option.map_eq_some_iff.1 h
  rfl

variable {pending : List (String × Json)} {r : Resources} {p : Parameter}

/-- What can be found in the tree are the values that the leaves of the path show. -/
theorem exists_shown_iff (hpending : SortedMap.get? p.path pending = none) {x : Json} :
    (∃ f ∈ populateFeatures outside pending r, p.shown f = some x) ↔
      ∃ leaf ∈ r.leaves, leaf.path = p.path ∧ leaf.shown outside p = some x := by
  constructor
  · rintro ⟨f, hf, hx⟩
    obtain ⟨leaf, hleaf, hfeature⟩ := List.mem_filterMap.1 hf
    obtain ⟨hpath, hread⟩ := Parameter.shown_eq_some_iff.1 hx
    rw [Leaf.path_of_feature hfeature] at hpath
    rw [Leaf.feature_eq (hpath ▸ hpending)] at hfeature
    obtain ⟨editor, heditor, rfl⟩ := Option.map_eq_some_iff.1 hfeature
    exact ⟨leaf, hleaf, hpath, by rw [Leaf.shown, heditor]; exact hread⟩
  · rintro ⟨leaf, hleaf, hpath, hx⟩
    obtain ⟨editor, heditor, hread⟩ := Option.bind_eq_some_iff.1 hx
    refine ⟨⟨editor, leaf.target, leaf.path⟩, List.mem_filterMap.2 ⟨leaf, hleaf, ?_⟩, ?_⟩
    · rw [Leaf.feature_eq (hpath ▸ hpending), heditor]
      rfl
    · exact Parameter.shown_eq_some_iff.2 ⟨hpath, hread⟩

theorem forall_shown_iff (hpending : SortedMap.get? p.path pending = none) {v : Json} :
    (∀ f ∈ populateFeatures outside pending r, ∀ x, p.shown f = some x → x = v) ↔
      ∀ leaf ∈ r.leaves, leaf.path = p.path → Readable leaf.propSchema p → leaf.shown outside p = some v := by
  constructor
  · intro h leaf hleaf hpath hreadable
    obtain ⟨x, hx⟩ := hreadable.shown outside
    obtain ⟨f, hf, hshown⟩ := (exists_shown_iff hpending).2 ⟨leaf, hleaf, hpath, hx⟩
    rw [hx, h f hf x hshown]
  · intro h f hf x hx
    obtain ⟨leaf, hleaf, hpath, hshown⟩ := (exists_shown_iff hpending).1 ⟨f, hf, hx⟩
    have hv := h leaf hleaf hpath (Readable.of_shown hshown)
    exact Option.some.inj (hshown.symm.trans hv)

theorem shown_none_iff (hpending : SortedMap.get? p.path pending = none) :
    (∀ f ∈ populateFeatures outside pending r, p.shown f = none) ↔
      ∀ leaf ∈ r.leaves, leaf.path = p.path → ¬ Readable leaf.propSchema p := by
  constructor
  · intro h leaf hleaf hpath hreadable
    obtain ⟨x, hx⟩ := hreadable.shown outside
    obtain ⟨f, hf, hshown⟩ := (exists_shown_iff hpending).2 ⟨leaf, hleaf, hpath, hx⟩
    rw [h f hf] at hshown
    cases hshown
  · intro h f hf
    rw [Option.eq_none_iff_forall_ne_some]
    intro x hx
    obtain ⟨leaf, hleaf, hpath, hshown⟩ := (exists_shown_iff hpending).1 ⟨f, hf, hx⟩
    exact h leaf hleaf hpath (Readable.of_shown hshown)

/-- Whatever the addresses, the accessor answers the value exactly if the resources show it. -/
theorem argument_populate_iff (hpending : SortedMap.get? p.path pending = none) {v : Json} :
    (∀ features : List Feature, features.Perm (populateFeatures outside pending r) →
      argument ⟨pending, features⟩ p = v) ↔ r.Shows outside p v := by
  have hsearch : ∀ features : List Feature,
      argument ⟨pending, features⟩ p = ((p.ordered features).findSome? p.shown).getD p.fallback := by
    intro features
    unfold argument
    rw [hpending]
  have horder : (∀ features : List Feature, features.Perm (populateFeatures outside pending r) →
      argument ⟨pending, features⟩ p = v) ↔
      ∀ features : List Feature, features.Perm (populateFeatures outside pending r) →
        (features.findSome? p.shown).getD p.fallback = v := by
    constructor
    · intro h features hperm
      have hordered := h (p.ordered features) ((p.ordered_perm features).trans hperm)
      rwa [hsearch, p.ordered_ordered] at hordered
    · intro h features hperm
      rw [hsearch]
      exact h _ ((p.ordered_perm features).trans hperm)
  -- over all orders the search finds every value that is shown
  rw [horder, findSome?_perm_iff, forall_shown_iff hpending, shown_none_iff hpending]
  constructor
  · rintro ⟨heditors, hfallback⟩
    exact ⟨heditors, hfallback⟩
  · rintro ⟨heditors, hfallback⟩
    exact ⟨heditors, hfallback⟩

end Gocator.Features

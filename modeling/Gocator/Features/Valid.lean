/-
What the tree can write: in every run of edits and refreshes a value that is dispatched is valid under the schema of
its leaf, so leaves that hold valid values keep holding such.
-/
import Gocator.Features.Edits
import Gocator.Features.Kept
import Gocator.Features.Precision

namespace Gocator.Features

open Transition (Run anyStep)
open Gocator.Facade (detectEngineId)
open Gocator.Settings (accepts)
open Decimal (Places)

/-! ## Valid values -/

/-- A number is within the bounds that the schema states. -/
def InBounds (propSchema v : Json) : Prop :=
  ∀ q, v = .num q → (∀ lo, statedBound propSchema "minimum" = some lo → lo ≤ q) ∧
    ∀ hi, statedBound propSchema "maximum" = some hi → q ≤ hi

/-- Of the type, in the bounds and in the enumeration. Steps are not looked at: an editor takes what is typed. -/
structure Valid (propSchema v : Json) : Prop where
  hasType : HasType (toText (propSchema.get? "type")) v
  bounds : InBounds propSchema v
  enum : propSchema.hasKey "enum" = true → v ∈ toArray (propSchema.get? "enum")

/-- What a document holds of a valid value. -/
def Wire.HeldValid (wire : Wire) (propSchema v : Json) : Prop := ∃ w, Valid propSchema w ∧ v = wire.held w

/-- The schema can be shown as it is: the entries of its enumeration are of its type and in its bounds, and the range of
a number without one is not empty and has bounds that the editor holds. -/
structure Proper (propSchema : Json) : Prop where
  flag : toText (propSchema.get? "type") = "boolean" → propSchema.hasKey "enum" = false
  entries : ∀ v ∈ toArray (propSchema.get? "enum"), HasType (toText (propSchema.get? "type")) v ∧ InBounds propSchema v
  range : propSchema.hasKey "enum" = false → minVal propSchema ≤ maxVal propSchema
  integer : toText (propSchema.get? "type") = "integer" → propSchema.hasKey "enum" = false →
    ∃ lo hi : Int, minVal propSchema = lo ∧ maxVal propSchema = hi ∧ intMin ≤ lo ∧ hi ≤ intMax
  number : toText (propSchema.get? "type") = "number" → propSchema.hasKey "enum" = false →
    Places 12 (minVal propSchema) ∧ Places 12 (maxVal propSchema)

/-- The values that the user can give an editor. -/
def Editor.Takes : Editor → Json → Prop
  | .checkBox _, v => ∃ b, v = .bool b
  | .spinBox minimum maximum _, v => ∃ n : Int, minimum ≤ n ∧ n ≤ maximum ∧ v = .num n
  | .doubleSpinBox _ minimum maximum _ _, v => ∃ q, minimum ≤ q ∧ q ≤ maximum ∧ v = .num q
  | .comboBox items _, v => v ∈ items

section

variable {outside : Rat → Int32} {propSchema : Json} {curVal : Option Json} {e e' : Editor} {v : Json}

theorem takes_edited {change : Edit} (h : e.edited change = some e') : e'.Takes = e.Takes := by
  cases Editor.changes_of_edited h <;> rfl

theorem takes_refreshed (w : Json) (e : Editor) : (e.refreshed w).Takes = e.Takes := by
  cases e <;> rfl

/-- What an edit dispatches is a value that the editor takes. -/
theorem takes_of_edited {change : Edit} (h : e.edited change = some e') (hv : onParameterChanged e' = some v) :
    e'.Takes v := by
  cases Editor.changes_of_edited h with
  | checkBox => exact ⟨_, (Option.some.inj hv).symm⟩
  | spinBox _ hvalue => exact ⟨_, hvalue.1, hvalue.2, (Option.some.inj hv).symm⟩
  | doubleSpinBox _ _ hvalue => exact ⟨_, hvalue.1, hvalue.2, (Option.some.inj hv).symm⟩
  | comboBox => exact (mem_of_dispatched hv).1

theorem inBounds_of_range {q : Rat} (hlo : minVal propSchema ≤ q) (hhi : q ≤ maxVal propSchema) :
    InBounds propSchema (.num q) := by
  rintro q' ⟨⟩
  rw [minVal_eq] at hlo
  rw [maxVal_eq] at hhi
  constructor
  · intro lo hstated
    rwa [hstated] at hlo
  · intro hi hstated
    rwa [hstated] at hhi

/-- A bound of the schema, or the integer that stands in for it, has the decimals of the editor. -/
theorem round_bound (propSchema : Json) {key : String} (hkey : key ∈ numberHints) (x : Rat) (n : Int)
    (h : Places 12 (toDouble (propSchema.get? key) n)) :
    Decimal.round (schemaDecimalPlaces propSchema x) (toDouble (propSchema.get? key) n) =
      toDouble (propSchema.get? key) n := by
  refine Decimal.round_of_places ?_
  cases hget : propSchema.get? key with
  | none => exact Decimal.places_intCast _ n
  | some v =>
    cases v with
    | num q =>
      have hhas : propSchema.hasKey key = true := by rw [Json.hasKey, hget]; rfl
      have hplaces := places_hint (x := x) hkey hhas
      rw [hget] at h hplaces
      exact hplaces h
    | _ => exact Decimal.places_intCast _ n

theorem round_minVal (x : Rat) (h : Places 12 (minVal propSchema)) :
    Decimal.round (schemaDecimalPlaces propSchema x) (minVal propSchema) = minVal propSchema := by
  have hbound := round_bound propSchema (by decide : "minimum" ∈ numberHints) x 0
  rw [Int.cast_zero] at hbound
  exact hbound h

theorem round_maxVal (x : Rat) (h : Places 12 (maxVal propSchema)) :
    Decimal.round (schemaDecimalPlaces propSchema x) (maxVal propSchema) = maxVal propSchema := by
  have hbound := round_bound propSchema (by decide : "maximum" ∈ numberHints) x 100000
  rw [Int.cast_ofNat] at hbound
  exact hbound h

/-- The items of an enumeration of valid entries are its entries. -/
theorem valid_of_item {item : Json → Json} (hproper : Proper propSchema)
    (hitem : ∀ w ∈ toArray (propSchema.get? "enum"), item w = w)
    (hv : v ∈ (toArray (propSchema.get? "enum")).map item) : Valid propSchema v := by
  obtain ⟨w, hw, rfl⟩ := List.mem_map.1 hv
  obtain ⟨htype, hbounds⟩ := hproper.entries w hw
  rw [hitem w hw]
  exact ⟨htype, hbounds, fun _ => hw⟩

/-- The editor of a schema takes only valid values. -/
theorem valid_of_takes (hproper : Proper propSchema) (h : buildEditor outside propSchema curVal = some e)
    (hv : e.Takes v) : Valid propSchema v := by
  rcases kind_of_buildEditor h with htype | ⟨htype, henum⟩ | ⟨htype, henum⟩ | ⟨htype, henum⟩ | ⟨htype, henum⟩
  · rw [buildEditor_boolean htype] at h
    cases h
    obtain ⟨b, rfl⟩ := hv
    refine ⟨htype, nofun, fun hhas => ?_⟩
    rw [hproper.flag htype] at hhas
    cases hhas
  · rw [buildEditor_numberEnum htype henum] at h
    cases h
    refine valid_of_item hproper (fun w hw => ?_) hv
    obtain ⟨q, rfl⟩ := (hproper.entries w hw).1.num htype
    rfl
  · obtain ⟨lo, hi, hlo, hhi, hmin, hmax⟩ := hproper.integer htype henum
    have hrange := hproper.range henum
    rw [hlo, hhi, Int.cast_le] at hrange
    rw [buildEditor_integer htype henum, hlo, hhi, castInt_intCast ⟨hmin, hrange.trans hmax⟩,
      castInt_intCast ⟨hmin.trans hrange, hmax⟩] at h
    cases h
    obtain ⟨n, hn, hn', rfl⟩ := hv
    rw [max_eq_right hrange] at hn'
    refine ⟨?_, ?_, fun hhas => ?_⟩
    · rw [htype]
      exact .inr ⟨rfl, rfl⟩
    · refine inBounds_of_range ?_ ?_
      · rw [hlo]
        exact_mod_cast hn
      · rw [hhi]
        exact_mod_cast hn'
    · rw [henum] at hhas
      cases hhas
  · obtain ⟨hmin, hmax⟩ := hproper.number htype henum
    have hlo := round_minVal (toDouble curVal 0) hmin
    have hhi := round_maxVal (toDouble curVal 0) hmax
    rw [buildEditor_number htype henum] at h
    dsimp only at h
    unfold doubleSpinBox at h
    dsimp only at h
    rw [hlo, hhi, max_eq_right (hproper.range henum)] at h
    cases h
    obtain ⟨q, hq, hq', rfl⟩ := hv
    refine ⟨?_, inBounds_of_range hq hq', fun hhas => ?_⟩
    · rw [htype]
      exact .inl rfl
    · rw [henum] at hhas
      cases hhas
  · rw [buildEditor_textEnum htype henum] at h
    cases h
    refine valid_of_item hproper (fun w hw => ?_) hv
    obtain ⟨s, rfl⟩ := (htype ▸ (hproper.entries w hw).1 : HasType "string" w).str
    rfl

end

/-! ## Runs -/

variable {outside : Rat → Int32} {pending : List (String × Json)} {r : Resources} {wire : Wire}
  {rejects : String → Bool} {s s₀ : Live} {tr : List (Nat × Json)}

theorem built_of_mem {f : Feature} (hr : r.Sound outside) (hf : f ∈ populateFeatures outside pending r) :
    ∃ propSchema curVal, LeafAt (r.schema f.target) f.names propSchema ∧
      buildEditor outside propSchema curVal = some f.editor := by
  obtain ⟨leaf, hleaf, hfeature⟩ := List.mem_filterMap.1 hf
  obtain ⟨target, data, hleaf⟩ := category_of_mem hleaf
  have htarget : f.target = target := (target_of_feature hfeature).trans (target_of_mem hleaf)
  obtain ⟨names, propSchema, hat, rfl⟩ := mem_addResourceCategory.1 hleaf
  obtain ⟨hnames, -⟩ := names_of_leafAt hr hat rfl hfeature
  obtain ⟨editor, heditor, rfl⟩ := Option.map_eq_some_iff.1 hfeature
  refine ⟨propSchema, _, ?_, heditor⟩
  rw [htarget, hnames]
  exact hat

/-- The editors take what they took, and what was dispatched is what they take. -/
structure Taken (s₀ : Live) (tr : List (Nat × Json)) (s : Live) : Prop where
  takes : ∀ (i : Nat) (f : Feature), s.features[i]? = some f →
    ∃ g : Feature, s₀.features[i]? = some g ∧ f.editor.Takes = g.editor.Takes
  written : ∀ e ∈ tr, ∃ g : Feature, s₀.features[e.1]? = some g ∧ g.editor.Takes e.2

theorem Taken.step (h : Taken s₀ tr s) {a : LiveAction} {s' : Live} {evs : List (Nat × Json)}
    (hstep : Live.step wire rejects s a = some (s', evs)) : Taken s₀ (tr ++ evs) s' := by
  cases a with
  | edit i change =>
    obtain ⟨f, f', v, hi, hedit, rfl, rfl⟩ := Live.step_edit hstep
    obtain ⟨editor, heditor, hv, rfl⟩ := Feature.edited_eq hedit
    obtain ⟨g, hg, htakes⟩ := h.takes i f hi
    have htakes' := (takes_edited heditor).trans htakes
    constructor
    · intro k f' hk
      by_cases hik : i = k
      · subst hik
        rw [List.getElem?_set_self (List.getElem?_eq_some_iff.1 hi).1] at hk
        obtain rfl := Option.some.inj hk
        exact ⟨g, hg, htakes'⟩
      · rw [List.getElem?_set_ne hik] at hk
        exact h.takes k f' hk
    · intro e he
      rcases List.mem_append.1 he with he | he
      · exact h.written e he
      · rw [List.mem_singleton.1 he]
        have htaken := takes_of_edited heditor hv
        rw [htakes'] at htaken
        exact ⟨g, hg, htaken⟩
  | updateFeatureValues =>
    obtain ⟨rfl, rfl⟩ := Prod.mk.inj (Option.some.inj hstep)
    rw [List.append_nil]
    refine ⟨fun i f' hi => ?_, h.written⟩
    obtain ⟨f, hf, rfl⟩ : ∃ f, s.features[i]? = some f ∧ f.refreshed (featureData s.device) = f' := by
      rw [applyFeatureValues, List.getElem?_map] at hi
      exact Option.map_eq_some_iff.1 hi
    obtain ⟨g, hg, htakes⟩ := h.takes i f hf
    refine ⟨g, hg, ?_⟩
    rw [← htakes]
    unfold Feature.refreshed
    split
    · rfl
    · rfl
    · exact takes_refreshed ..

theorem taken_of_run (hrun : Run (Live.step wire rejects) anyStep s₀ tr s) : Taken s₀ tr s := by
  refine Run.invariant ⟨fun i f hi => ⟨f, hi, rfl⟩, nofun⟩ ?_ hrun
  intro tr s a s' evs ih _ hstep
  exact ih.step hstep

/-- Under schemas that can be shown as they are, every value that is dispatched in a run of edits and refreshes is valid
under the schema of its leaf; and where every value that an entry finds in the documents was valid up to what a double
holds of its number, all are so in every state that is reached. -/
theorem edits_valid (hr : r.Sound outside)
    (hproper : ∀ target names propSchema, LeafAt (r.schema target) names propSchema →
      (buildEditor outside propSchema none).isSome = true → Proper propSchema)
    (hfeatures : s₀.features.Perm (populateFeatures outside pending r))
    (hrun : Run (Live.step wire rejects) anyStep s₀ tr s) :
    (∀ e ∈ tr, ∃ f propSchema, s₀.features[e.1]? = some f ∧ LeafAt (r.schema f.target) f.names propSchema ∧
      Valid propSchema e.2) ∧
    ((∀ target, accepts rejects s₀.device (targetPath (detectEngineId s₀.device) target) = true) →
      (∀ e ∈ tr, wire.read (wire.text e.2) = some (wire.held e.2)) →
      (∀ f ∈ s₀.features, ∀ propSchema v, LeafAt (r.schema f.target) f.names propSchema →
        f.targetVal (featureData s₀.device) = some v → wire.HeldValid propSchema v) →
      ∀ f ∈ s.features, ∀ propSchema v, LeafAt (r.schema f.target) f.names propSchema →
        f.targetVal (featureData s.device) = some v → wire.HeldValid propSchema v) := by
  have htaken := taken_of_run hrun
  have hwritten : ∀ e ∈ tr, ∃ f propSchema, s₀.features[e.1]? = some f ∧
      LeafAt (r.schema f.target) f.names propSchema ∧ Valid propSchema e.2 := by
    intro e he
    obtain ⟨f, hf, htakes⟩ := htaken.written e he
    obtain ⟨propSchema, curVal, hat, hbuild⟩ := built_of_mem hr (hfeatures.subset (List.mem_of_getElem? hf))
    have heditor := isSome_buildEditor none (Option.isSome_iff_exists.2 ⟨_, hbuild⟩)
    exact ⟨f, propSchema, hf, hat, valid_of_takes (hproper _ _ _ hat heditor) hbuild htakes⟩
  refine ⟨hwritten, fun haccepts htexts hstart f hf propSchema v hat hv => ?_⟩
  have hentries := entries_populateFeatures hr hfeatures
  have hsynced := synced_of_run hr haccepts hentries hrun htexts
  obtain ⟨i, hi⟩ := List.getElem?_of_mem hf
  obtain ⟨g, hg, hplace⟩ := exists_of_places hsynced.places hi
  obtain ⟨htarget, hnames⟩ := names_of_place hplace
  rw [hsynced.targetVal_eq hentries haccepts hr hi] at hv
  rw [← htarget, ← hnames] at hat
  cases hlast : lastEdit tr i with
  | none =>
    rw [hlast, Option.map_none, Option.none_or, ← targetVal_of_place hplace] at hv
    exact hstart g (List.mem_of_getElem? hg) propSchema v hat hv
  | some w =>
    rw [hlast, Option.map_some, Option.some_or] at hv
    obtain rfl := Option.some.inj hv
    have hmem : (i, w) ∈ tr := by
      obtain ⟨e, he, rfl⟩ := List.mem_map.1 (List.mem_of_getLast? hlast)
      obtain ⟨he, hei⟩ := List.mem_filter.1 he
      rw [← of_decide_eq_true hei]
      exact he
    obtain ⟨f', propSchema', hf', hat', hvalid⟩ := hwritten _ hmem
    obtain rfl := Option.some.inj (hg.symm.trans hf')
    rw [(hat.eq_of_initial (hr.wf _) hat' (List.prefix_refl _)).2]
    exact ⟨w, hvalid, rfl⟩

theorem proper_flag : Proper flagProperty := by
  refine ⟨fun _ => by decide, nofun, fun _ => ?_, fun htype => ?_, fun htype => ?_⟩
  · show (0 : Rat) ≤ 100000
    norm_num
  · exact absurd htype (by decide)
  · exact absurd htype (by decide)

/-- The check box is the only leaf. -/
theorem eq_of_leafAt_laser {target : ParameterTarget} {names : List String} {propSchema : Json}
    (hat : LeafAt (laserResources.schema target) names propSchema) : propSchema = flagProperty := by
  cases target with
  | scanner =>
    have hname : "laserOn" ≠ "parameters" := by decide
    obtain rfl := eq_of_leafAt_flag hname hat
    exact (hat.eq_of_initial (wf_flagSchema "laserOn") (leafAt_flag hname) (List.prefix_refl _)).2
  | sensor => exact absurd hat not_leafAt_empty

theorem edits_valid_laser : ∃ tr s, Run (Live.step .doubles (fun _ => false)) anyStep laserTree tr s ∧ tr ≠ [] ∧
    (∀ e ∈ tr, ∃ f propSchema, laserTree.features[e.1]? = some f ∧
      LeafAt (laserResources.schema f.target) f.names propSchema ∧ Valid propSchema e.2) := by
  obtain ⟨i, s, f, hrun, -⟩ := run_laser _
  have hproper : ∀ target names propSchema, LeafAt (laserResources.schema target) names propSchema →
      (buildEditor (fun _ => 0) propSchema none).isSome = true → Proper propSchema := by
    intro target names propSchema hat _
    rw [eq_of_leafAt_laser hat]
    exact proper_flag
  exact ⟨_, s, hrun, List.cons_ne_nil _ _, (edits_valid sound_laserResources hproper (List.Perm.refl _) hrun).1⟩

end Gocator.Features

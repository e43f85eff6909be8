/-
The numeric editors over a history of refreshes: which values they hold exactly. The range of an editor has
defaults where its schema states no bound, the bounds of an integer are cut to an `int`, and the number of
decimals is fixed when the editor is built.
-/
import Gocator.Features.Grab
import Gocator.Features.Refresh

namespace Gocator.Features

/-! ## Values and editors -/

/-- A number or an integer without an enumeration. -/
structure Numeric (propSchema : Json) : Prop where
  type : toText (propSchema.get? "type") = "integer" ∨ toText (propSchema.get? "type") = "number"
  enum : propSchema.hasKey "enum" = false

/-- The bound that the schema states under a name. -/
def statedBound (propSchema : Json) (name : String) : Option Rat :=
  match propSchema.get? name with
  | some (.num q) => some q
  | _ => none

/-- The value satisfies the bounds that the schema states; an integer is an `int`, and any other number has
at most twelve places. -/
structure OfKind (propSchema : Json) (q : Rat) : Prop where
  minimum : ∀ lo, statedBound propSchema "minimum" = some lo → lo ≤ q
  maximum : ∀ hi, statedBound propSchema "maximum" = some hi → q ≤ hi
  integer : toText (propSchema.get? "type") = "integer" → ∃ n : Int, q = n ∧ intMin ≤ n ∧ n ≤ intMax
  number : toText (propSchema.get? "type") = "number" → Decimal.Places 12 q

/-- The number that a numeric editor holds. -/
def Editor.number : Editor → Option Rat
  | .spinBox _ _ value => some value
  | .doubleSpinBox _ _ _ _ value => some value
  | _ => none

/-- The editor that is built for one value, set to another. -/
def numericEditor (outside : Rat → Int32) (propSchema : Json) (built value : Rat) : Editor :=
  if toText (propSchema.get? "type") = "integer" then
    spinBox (castInt outside (minVal propSchema)) (castInt outside (maxVal propSchema)) (toInt (some (.num value)) 0)
  else
    let decimals := schemaDecimalPlaces propSchema built
    doubleSpinBox decimals (minVal propSchema) (maxVal propSchema) (schemaStep propSchema decimals) value

theorem minVal_eq (propSchema : Json) : minVal propSchema = (statedBound propSchema "minimum").getD 0 := by
  unfold minVal toDouble statedBound
  cases propSchema.get? "minimum" with
  | none => rfl
  | some v => cases v <;> rfl

theorem maxVal_eq (propSchema : Json) : maxVal propSchema = (statedBound propSchema "maximum").getD 100000 := by
  unfold maxVal toDouble statedBound
  cases propSchema.get? "maximum" with
  | none => rfl
  | some v => cases v <;> rfl

section

variable {outside : Rat → Int32} {propSchema : Json}

theorem buildEditor_numeric (h : Numeric propSchema) (q : Rat) :
    buildEditor outside propSchema (some (.num q)) = some (numericEditor outside propSchema q q) := by
  unfold numericEditor
  rcases h.type with htype | htype
  · rw [buildEditor_integer htype h.enum, if_pos htype]
  · rw [buildEditor_number htype h.enum, if_neg (by rw [htype]; decide)]
    rfl

theorem clampTo_max {α : Type} [LinearOrder α] (lo hi x : α) :
    Decimal.clampTo lo (max lo hi) x = Decimal.clampTo lo hi x := by
  unfold Decimal.clampTo
  rw [max_eq_right (le_max_left lo hi)]

/-- A refresh sets the editor and leaves its range and its decimals. -/
theorem refreshed_numericEditor (built value value' : Rat) :
    (numericEditor outside propSchema built value).refreshed (.num value') =
      numericEditor outside propSchema built value' := by
  unfold numericEditor
  split
  · unfold spinBox Editor.refreshed
    dsimp only
    rw [clampTo_max]
  · unfold doubleSpinBox Editor.refreshed
    dsimp only
    rw [clampTo_max]
    rfl

end

/-! ## What is kept -/

/-- The integer part of the bound is an `int`. -/
def CutsToInt (x : Rat) : Prop :=
  let part := if 0 ≤ x then x.floor else x.ceil
  intMin ≤ part ∧ part ≤ intMax

/-- Where no minimum is stated the integer is not negative, and where no maximum is stated it is at most
100000, if it is not the lower end of the range; a stated bound is an `int` once cut, or the cast makes a number
of it that leaves the integer in the range. -/
structure IntKept (outside : Rat → Int32) (propSchema : Json) (n : Int) : Prop where
  lower : match statedBound propSchema "minimum" with
    | some lo => CutsToInt lo ∨ (outside lo).toInt ≤ n
    | none => 0 ≤ n
  upper : n = castInt outside (minVal propSchema) ∨ match statedBound propSchema "maximum" with
    | some hi => CutsToInt hi ∨ n ≤ (outside hi).toInt
    | none => n ≤ 100000

/-- The number has no more decimals than the editor was built with; where no minimum is stated it is not negative,
and where no maximum is stated it is at most 100000, if it is not the lower end of the range. -/
structure NumberKept (propSchema : Json) (built q : Rat) : Prop where
  places : Decimal.Places (schemaDecimalPlaces propSchema built) q
  lower : statedBound propSchema "minimum" = none → 0 ≤ q
  upper : q = Decimal.round (schemaDecimalPlaces propSchema built) (minVal propSchema) ∨
    (statedBound propSchema "maximum" = none → q ≤ 100000)

/-- The editor that is built for one value keeps another. -/
def Kept (outside : Rat → Int32) (propSchema : Json) (built q : Rat) : Prop :=
  if toText (propSchema.get? "type") = "integer" then IntKept outside propSchema q.num
  else NumberKept propSchema built q

section

variable {outside : Rat → Int32} {propSchema : Json}

theorem castInt_of_cuts {x : Rat} (h : CutsToInt x) :
    castInt outside x = if 0 ≤ x then x.floor else x.ceil := if_pos h

theorem castInt_of_not_cuts {x : Rat} (h : ¬ CutsToInt x) : castInt outside x = (outside x).toInt := if_neg h

/-- Cutting a bound to an integer moves it past no integer. -/
theorem cut_le {x : Rat} {n : Int} (h : x ≤ n) : (if 0 ≤ x then x.floor else x.ceil) ≤ n := by
  split
  · rw [← Rat.floor_intCast n]
    exact Rat.floor_monotone h
  · exact Rat.ceil_le_iff.2 h

theorem le_cut {x : Rat} {n : Int} (h : (n : Rat) ≤ x) : n ≤ if 0 ≤ x then x.floor else x.ceil := by
  split
  · exact Rat.le_floor_iff.2 h
  · exact Int.cast_le.1 (h.trans Rat.le_ceil)

theorem castInt_zero : castInt outside 0 = 0 := by
  have h : castInt outside ((0 : Int) : Rat) = 0 := castInt_intCast (by decide)
  exact_mod_cast h

theorem castInt_default : castInt outside 100000 = 100000 := by
  have h : castInt outside ((100000 : Int) : Rat) = 100000 := castInt_intCast (by decide)
  exact_mod_cast h

/-- The lower end of the range lets the integer through. -/
theorem lower_iff {n : Int} (hmin : ∀ lo, statedBound propSchema "minimum" = some lo → lo ≤ n) :
    castInt outside (minVal propSchema) ≤ n ↔ match statedBound propSchema "minimum" with
      | some lo => CutsToInt lo ∨ (outside lo).toInt ≤ n
      | none => 0 ≤ n := by
  rw [minVal_eq]
  cases hbound : statedBound propSchema "minimum" with
  | none =>
    rw [Option.getD_none, castInt_zero]
  | some lo =>
    rw [Option.getD_some]
    by_cases hcut : CutsToInt lo
    · refine iff_of_true ?_ (.inl hcut)
      rw [castInt_of_cuts hcut]
      exact cut_le (hmin lo hbound)
    · rw [castInt_of_not_cuts hcut]
      exact ⟨.inr, fun h => h.resolve_left hcut⟩

/-- The upper end of the range lets the integer through. -/
theorem upper_iff {n : Int} (hmax : ∀ hi, statedBound propSchema "maximum" = some hi → (n : Rat) ≤ hi) :
    n ≤ castInt outside (maxVal propSchema) ↔ match statedBound propSchema "maximum" with
      | some hi => CutsToInt hi ∨ n ≤ (outside hi).toInt
      | none => n ≤ 100000 := by
  rw [maxVal_eq]
  cases hbound : statedBound propSchema "maximum" with
  | none =>
    rw [Option.getD_none, castInt_default]
  | some hi =>
    rw [Option.getD_some]
    by_cases hcut : CutsToInt hi
    · refine iff_of_true ?_ (.inl hcut)
      rw [castInt_of_cuts hcut]
      exact le_cut (hmax hi hbound)
    · rw [castInt_of_not_cuts hcut]
      exact ⟨.inr, fun h => h.resolve_left hcut⟩

/-- An integer that the schema allows is held exactly if it is kept. -/
theorem spinBox_iff {n : Int} (hkind : OfKind propSchema n) :
    Decimal.clampTo (castInt outside (minVal propSchema)) (castInt outside (maxVal propSchema))
      (toInt (some (.num n)) 0) = n ↔ IntKept outside propSchema n := by
  rw [clamp_toInt_iff, le_max_iff, lower_iff hkind.minimum, upper_iff hkind.maximum]
  constructor
  · rintro ⟨hlower, hupper⟩
    refine ⟨hlower, hupper.imp_left fun hle => ?_⟩
    exact le_antisymm hle ((lower_iff hkind.minimum).2 hlower)
  · rintro ⟨hlower, hupper⟩
    exact ⟨hlower, hupper.imp_left le_of_eq⟩

/-- A double spin box holds only numbers with its decimals. -/
theorem places_of_clamp {d : Nat} {x y q : Rat}
    (h : Decimal.clampTo (Decimal.round d x) (Decimal.round d y) (Decimal.round d q) = q) : Decimal.Places d q := by
  rw [← h]
  unfold Decimal.clampTo
  rcases max_choice (Decimal.round d x) (min (max (Decimal.round d x) (Decimal.round d y)) (Decimal.round d q)) with
    hmax | hmax
  · rw [hmax]
    exact Decimal.places_round d x
  · rw [hmax]
    rcases min_choice (max (Decimal.round d x) (Decimal.round d y)) (Decimal.round d q) with hmin | hmin
    · rw [hmin]
      rcases max_choice (Decimal.round d x) (Decimal.round d y) with hend | hend <;> rw [hend]
      · exact Decimal.places_round d x
      · exact Decimal.places_round d y
    · rw [hmin]
      exact Decimal.places_round d q

/-- A number that the schema allows is held exactly if it is kept. -/
theorem doubleSpinBox_iff {built q : Rat} (hkind : OfKind propSchema q) :
    Decimal.clampTo (Decimal.round (schemaDecimalPlaces propSchema built) (minVal propSchema))
      (Decimal.round (schemaDecimalPlaces propSchema built) (maxVal propSchema))
      (Decimal.round (schemaDecimalPlaces propSchema built) q) = q ↔ NumberKept propSchema built q := by
  generalize hd : schemaDecimalPlaces propSchema built = d
  have hround : ∀ n : Int, Decimal.round d n = n := fun n => Decimal.round_of_places (Decimal.places_intCast d n)
  constructor
  · intro h
    have hplaces := places_of_clamp h
    rw [Decimal.round_of_places hplaces, Decimal.clampTo_eq_self, le_max_iff] at h
    refine ⟨hd ▸ hplaces, fun hnone => ?_, h.2.imp (fun hle => ?_) fun hle hnone => ?_⟩
    · have hzero := h.1
      rw [minVal_eq, hnone, Option.getD_none] at hzero
      exact (by exact_mod_cast hround 0 : Decimal.round d 0 = 0) ▸ hzero
    · rw [hd]
      exact le_antisymm hle h.1
    · rw [maxVal_eq, hnone, Option.getD_none] at hle
      exact hle.trans (by exact_mod_cast (hround 100000).le)
  · rintro ⟨hplaces, hlower, hupper⟩
    rw [hd] at hplaces hupper
    have hself := Decimal.round_of_places hplaces
    rw [hself, Decimal.clampTo_eq_self, le_max_iff]
    constructor
    · rw [← hself]
      refine Decimal.round_mono d ?_
      rw [minVal_eq]
      cases hbound : statedBound propSchema "minimum" with
      | none => exact hlower hbound
      | some lo => exact hkind.minimum lo hbound
    · refine hupper.imp le_of_eq fun hle => ?_
      rw [← hself]
      refine Decimal.round_mono d ?_
      rw [maxVal_eq]
      cases hbound : statedBound propSchema "maximum" with
      | none => exact hle hbound
      | some hi => exact hkind.maximum hi hbound

theorem number_numericEditor_iff {built q : Rat} (hkind : OfKind propSchema q) :
    (numericEditor outside propSchema built q).number = some q ↔ Kept outside propSchema built q := by
  unfold numericEditor Kept
  split
  · rename_i htype
    obtain ⟨n, rfl, -⟩ := hkind.integer htype
    rw [Rat.num_intCast, ← spinBox_iff hkind]
    show some ((_ : Int) : Rat) = some (n : Rat) ↔ _
    rw [Option.some.injEq, Int.cast_inj]
  · rw [← doubleSpinBox_iff hkind]
    exact Option.some_inj

end

/-! ## Histories -/

section

variable {outside : Rat → Int32} {propSchema : Json} {built : Rat}

/-- The editor is set to what each refresh finds. -/
theorem editor_afterRefreshes : ∀ (n : Nat) {f : Feature} {refreshes : List FeatureData} {v : Rat} {vs : List Rat},
    f.editor = numericEditor outside propSchema built v →
    refreshes.map (fun data => f.targetVal data) = vs.map (fun q => some (.num q)) → n ≤ refreshes.length →
    ∃ q, (v :: vs)[n]? = some q ∧
      (f.afterRefreshes (refreshes.take n)).editor = numericEditor outside propSchema built q
  | 0, _, _, v, _, hf, _, _ => ⟨v, rfl, hf⟩
  | n + 1, f, data :: refreshes, v, q :: vs, hf, hread, hn => by
    rw [List.map_cons, List.map_cons, List.cons.injEq] at hread
    have hstep := refreshed_num hread.1
    have hnext : (f.refreshed data).editor = numericEditor outside propSchema built q := by
      rw [hstep]
      show f.editor.refreshed (.num q) = _
      rw [hf, refreshed_numericEditor]
    have hrest : refreshes.map (fun data' => (f.refreshed data).targetVal data') = vs.map (fun q => some (.num q)) := by
      simp only [targetVal_refreshed]
      exact hread.2
    exact editor_afterRefreshes n hnext hrest (Nat.le_of_succ_le_succ hn)
  | n + 1, _, [], _, _, _, _, hn => absurd hn (Nat.not_succ_le_zero n)
  | n + 1, _, _ :: _, _, [], _, hread, _ => by cases hread

/-- A numeric editor holds the value it is built for and after every refresh the value that was found, exactly
when each of these values is kept. -/
theorem editor_holds_iff {pending : List (String × Json)} {leaf : Leaf} {f : Feature} {v : Rat}
    {refreshes : List FeatureData} {vs : List Rat} (hnumeric : Numeric leaf.propSchema)
    (hv : leaf.value = some (.num v)) (hpending : SortedMap.get? leaf.path pending = none)
    (hf : leaf.feature outside pending = some f)
    (hread : refreshes.map (fun data => f.targetVal data) = vs.map (fun q => some (.num q)))
    (hkind : ∀ q ∈ v :: vs, OfKind leaf.propSchema q) :
    (∀ n, n ≤ refreshes.length → (f.afterRefreshes (refreshes.take n)).editor.number = (v :: vs)[n]?) ↔
      ∀ q ∈ v :: vs, Kept outside leaf.propSchema v q := by
  have hbuilt : f.editor = numericEditor outside leaf.propSchema v v := by
    unfold Leaf.feature at hf
    rw [hv, hpending] at hf
    dsimp only at hf
    rw [buildEditor_numeric hnumeric] at hf
    cases hf
    rfl
  have hlen : refreshes.length = vs.length := by
    have hmap := congrArg List.length hread
    rwa [List.length_map, List.length_map] at hmap
  constructor
  · intro h q hq
    obtain ⟨n, hn⟩ := List.getElem?_of_mem hq
    have hle : n ≤ refreshes.length := by
      have hlt := (List.getElem?_eq_some_iff.1 hn).1
      rw [List.length_cons] at hlt
      omega
    obtain ⟨w, hw, heditor⟩ := editor_afterRefreshes n hbuilt hread hle
    obtain rfl := Option.some.inj (hn.symm.trans hw)
    have hnumber := h n hle
    rw [heditor, hn] at hnumber
    exact (number_numericEditor_iff (hkind q hq)).1 hnumber
  · intro h n hn
    obtain ⟨w, hw, heditor⟩ := editor_afterRefreshes n hbuilt hread hn
    have hmem : w ∈ v :: vs := List.mem_of_getElem? hw
    rw [heditor, hw]
    exact (number_numericEditor_iff (hkind w hmem)).2 (h w hmem)

end

/-! ## A length without hints -/

/-- A number whose schema says nothing but its type. -/
def lengthLeaf (q : Rat) : Leaf := ⟨.scanner, "/length", .obj [("type", .str "number")], some (.num q)⟩

def lengthFeature (outside : Rat → Int32) (q : Rat) : Feature :=
  ⟨numericEditor outside (lengthLeaf q).propSchema q q, .scanner, "/length"⟩

def lengthData (q : Rat) : FeatureData := ⟨.obj [("length", .num q)], .null⟩

theorem numeric_length (q : Rat) : Numeric (lengthLeaf q).propSchema := ⟨.inr (by rfl), by rfl⟩

theorem feature_length (outside : Rat → Int32) (q : Rat) :
    (lengthLeaf q).feature outside [] = some (lengthFeature outside q) := by
  unfold Leaf.feature
  dsimp only [SortedMap.get?_nil]
  show (buildEditor outside (lengthLeaf q).propSchema (some (.num q))).map _ = _
  rw [buildEditor_numeric (numeric_length q)]
  rfl

theorem targetVal_length (outside : Rat → Int32) (q q' : Rat) :
    (lengthFeature outside q).targetVal (lengthData q') = some (.num q') := by
  have hpath : ¬ "/parameters".toList <+: "/length".toList := by decide
  have hsplit : splitSlash (withoutSlash "/length".toList) = ["length"] := by decide
  show targetVal (.obj [("length", .num q')]) "/length" = _
  unfold targetVal
  rw [if_neg hpath, hsplit]
  rfl

theorem ofKind_length {q q' : Rat} (h : Decimal.Places 12 q') : OfKind (lengthLeaf q).propSchema q' := by
  refine ⟨fun lo hlo => ?_, fun hi hhi => ?_, fun htype => ?_, fun _ => h⟩
  · cases hlo
  · cases hhi
  · exact absurd htype (by rw [show toText _ = "number" from rfl]; decide)

theorem editor_holds_length :
    (∀ n, n ≤ [lengthData 2].length →
      ((lengthFeature (fun _ => 0) 1).afterRefreshes ([lengthData 2].take n)).editor.number = [(1 : Rat), 2][n]?) ↔
      ∀ q ∈ [(1 : Rat), 2], Kept (fun _ => 0) (lengthLeaf 1).propSchema 1 q := by
  have hplaces : ∀ n : Int, Decimal.Places 12 n := Decimal.places_intCast 12
  refine editor_holds_iff (numeric_length 1) rfl (SortedMap.get?_nil _) (feature_length _ 1) ?_ ?_
  · rw [List.map_singleton, targetVal_length]
    rfl
  · intro q hq
    simp only [List.mem_cons, List.not_mem_nil, or_false] at hq
    rcases hq with rfl | rfl
    · exact ofKind_length (by exact_mod_cast hplaces 1)
    · exact ofKind_length (by exact_mod_cast hplaces 2)

/-- Built for a whole number, the editor has no decimals. -/
theorem schemaDecimalPlaces_length : schemaDecimalPlaces (lengthLeaf 1).propSchema 1 = 0 := by
  have hone : ((1 : Int) : Rat) = 1 := Int.cast_one
  have hround : Decimal.round 12 |1| = 1 := by
    rw [abs_one, ← hone]
    exact Decimal.round_of_places (Decimal.places_intCast 12 1)
  have hfloor : (1 * 10 ^ 12 : Rat).floor = 1000000000000 := by
    have hcast : (1 * 10 ^ 12 : Rat) = ((1000000000000 : Int) : Rat) := by norm_num
    rw [hcast, Rat.floor_intCast]
  have hzero : decimalPlaces 1 = 0 := by
    unfold decimalPlaces Decimal.needed
    rw [hround, hfloor]
    decide
  unfold schemaDecimalPlaces
  rw [hzero]
  rfl

theorem editor_rounds_later_value : ¬ ∀ (outside : Rat → Int32) (pending : List (String × Json)) (leaf : Leaf)
    (f : Feature) (v : Rat) (refreshes : List FeatureData) (vs : List Rat), Numeric leaf.propSchema →
    leaf.value = some (.num v) → SortedMap.get? leaf.path pending = none → leaf.feature outside pending = some f →
    refreshes.map (fun data => f.targetVal data) = vs.map (fun q => some (.num q)) →
    (∀ q ∈ v :: vs, OfKind leaf.propSchema q) →
    ∀ n, n ≤ refreshes.length → (f.afterRefreshes (refreshes.take n)).editor.number = (v :: vs)[n]? := by
  intro h
  have hhalf : OfKind (lengthLeaf 1).propSchema (3 / 2) := ofKind_length ⟨1500000000000, by norm_num⟩
  have hone : OfKind (lengthLeaf 1).propSchema 1 := ofKind_length ⟨1000000000000, by norm_num⟩
  have hread : [lengthData (3 / 2)].map (fun data => (lengthFeature (fun _ => 0) 1).targetVal data) =
      [(3 / 2 : Rat)].map (fun q => some (.num q)) := by
    rw [List.map_singleton, targetVal_length]
    rfl
  have hholds := h (fun _ => 0) [] (lengthLeaf 1) _ 1 _ _ (numeric_length 1) rfl (SortedMap.get?_nil _)
    (feature_length _ 1) hread
    (by simp only [List.mem_cons, List.not_mem_nil, or_false, forall_eq_or_imp, forall_eq]; exact ⟨hone, hhalf⟩) 1
    (Nat.le_refl 1)
  have hbuilt : (lengthFeature (fun _ => 0) 1).editor = numericEditor (fun _ => 0) (lengthLeaf 1).propSchema 1 1 := rfl
  obtain ⟨w, hw, heditor⟩ := editor_afterRefreshes 1 hbuilt hread (Nat.le_refl 1)
  cases hw
  rw [heditor] at hholds
  have hkept := (number_numericEditor_iff hhalf).1 hholds
  -- three halves have a decimal
  obtain ⟨n, hn⟩ : Decimal.Places 0 (3 / 2) := schemaDecimalPlaces_length ▸ NumberKept.places hkept
  have htwice : ((2 * n : Int) : Rat) = (3 : Int) := by
    push_cast
    linarith
  have hodd : 2 * n = 3 := Int.cast_inj.1 htwice
  omega

end Gocator.Features

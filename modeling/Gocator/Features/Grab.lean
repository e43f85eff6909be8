/-
Starting a grab without an edit: whatever the schemas of the five scan parameters, the arguments of
`configure` are the values of the device exactly if every parameter keeps its value on the way through its
editor and back.
-/
import Gocator.Features.Shown

namespace Gocator.Features

/-! ## Values that a schema allows -/

def HasType (type : String) : Json → Prop
  | .null => type = "null"
  | .bool _ => type = "boolean"
  | .num q => type = "number" ∨ (type = "integer" ∧ q.den = 1)
  | .str _ => type = "string"
  | .arr _ => type = "array"
  | .obj _ => type = "object"

/-- The value is one that the schema of its property allows, with at most six places if it is a number. -/
structure Allowed (propSchema v : Json) : Prop where
  hasType : HasType (toText (propSchema.get? "type")) v
  enum : propSchema.hasKey "enum" = true → v ∈ toArray (propSchema.get? "enum")
  minimum : ∀ lo q, propSchema.get? "minimum" = some (.num lo) → v = .num q → lo ≤ q
  maximum : ∀ hi q, propSchema.get? "maximum" = some (.num hi) → v = .num q → q ≤ hi
  places : ∀ q, v = .num q → Decimal.Places 6 q

theorem HasType.bool {v : Json} (h : HasType "boolean" v) : ∃ b, v = .bool b := by
  cases v with
  | bool b => exact ⟨b, rfl⟩
  | _ => simp [HasType] at h

theorem HasType.num {type : String} {v : Json} (ht : type = "integer" ∨ type = "number") (h : HasType type v) :
    ∃ q, v = .num q := by
  cases v with
  | num q => exact ⟨q, rfl⟩
  | _ => rcases ht with rfl | rfl <;> simp [HasType] at h

theorem HasType.int {v : Json} (h : HasType "integer" v) : ∃ n : Int, v = .num n := by
  obtain ⟨q, rfl⟩ := h.num (.inl rfl)
  rcases h with h | ⟨-, hden⟩
  · simp at h
  · exact ⟨q.num, by rw [Rat.coe_int_num_of_den_eq_one hden]⟩

theorem HasType.str {v : Json} (h : HasType "string" v) : ∃ s, v = .str s := by
  cases v with
  | str s => exact ⟨s, rfl⟩
  | _ => simp [HasType] at h

/-! ## Values that an editor keeps -/

/-- The number lies in the range of its double spin box. -/
def InDoubleRange (propSchema : Json) (q : Rat) : Prop :=
  let decimals := schemaDecimalPlaces propSchema q
  let lo := Decimal.round decimals (minVal propSchema)
  lo ≤ q ∧ q ≤ max lo (Decimal.round decimals (maxVal propSchema))

/-- The integer lies in the range of its spin box. -/
def InIntRange (outside : Rat → Int32) (propSchema : Json) (n : Int) : Prop :=
  let lo := castInt outside (minVal propSchema)
  lo ≤ n ∧ n ≤ max lo (castInt outside (maxVal propSchema))

/-- The mode is 2, or it is 3 and the last entry of its enumeration that is taken for it. -/
def IsMode (propSchema v : Json) : Prop :=
  v = .num 2 ∨ (v = .num 3 ∧ ((toArray (propSchema.get? "enum")).filter (isCurrentNumber (some v))).getLast? = some v)

/-- What an editor of the kind that the accessor reads makes of a value: its range may cut the value off, and
of a mode only the numbers 2 and 3 are left. -/
def Keeps (outside : Rat → Int32) (propSchema : Json) : Parameter → Json → Prop
  | .scanLengthMm, .num q => InDoubleRange propSchema q
  | .scanMode, v => IsMode propSchema v
  | .exposureUs, .num q => InIntRange outside propSchema q.num
  | _, _ => True

variable {outside : Rat → Int32} {propSchema v : Json}

theorem castInt_mem (outside : Rat → Int32) (x : Rat) : intMin ≤ castInt outside x ∧ castInt outside x ≤ intMax := by
  unfold castInt
  dsimp only
  generalize (if 0 ≤ x then x.floor else x.ceil) = part
  split
  · assumption
  · have hlt := (outside x).toInt_lt
    have hle := (outside x).le_toInt
    unfold intMin intMax
    omega

theorem castInt_intCast {n : Int} (h : intMin ≤ n ∧ n ≤ intMax) : castInt outside n = n := by
  have hpart : (if (0 : Rat) ≤ n then (n : Rat).floor else (n : Rat).ceil) = n := by
    rw [Rat.floor_intCast, Rat.ceil_intCast, ite_self]
  unfold castInt
  rw [hpart]
  exact if_pos h

/-- The spin box of an integer shows it exactly if its range holds it. -/
theorem clamp_toInt_iff (outside : Rat → Int32) (x y : Rat) (n : Int) :
    Decimal.clampTo (castInt outside x) (castInt outside y) (toInt (some (.num n)) 0) = n ↔
      castInt outside x ≤ n ∧ n ≤ max (castInt outside x) (castInt outside y) := by
  have hx := castInt_mem outside x
  have hy := castInt_mem outside y
  generalize castInt outside x = lo at hx ⊢
  generalize castInt outside y = hi at hy ⊢
  have htoInt : toInt (some (.num n)) 0 = if intMin ≤ n ∧ n ≤ intMax then n else 0 := by
    simp [toInt]
  rw [htoInt]
  split
  · exact Decimal.clampTo_eq_self
  · next hout =>
    -- an integer that no int holds is shown as 0, and lies in no range
    unfold Decimal.clampTo
    constructor
    · intro h
      omega
    · rintro ⟨hlo, hhi⟩
      omega

/-- The double spin box of a number with few places shows it exactly if its range holds it. -/
theorem clamp_round_iff (propSchema : Json) {q : Rat} {decimals : Nat} (hplaces : Decimal.Places 6 q)
    (hdecimals : decimals = schemaDecimalPlaces propSchema q) :
    Decimal.clampTo (Decimal.round decimals (minVal propSchema)) (Decimal.round decimals (maxVal propSchema))
      (Decimal.round decimals q) = q ↔ InDoubleRange propSchema q := by
  have hround : Decimal.round decimals q = q := hdecimals ▸ round_schemaDecimalPlaces (hplaces.mono (by decide))
  rw [hround, hdecimals]
  exact Decimal.clampTo_eq_self

/-! ## The mode -/

theorem read_comboBox {item : Json → Json} {isCurrent : Json → Bool} {enumVals : List Json} {w : Json}
    (h : (enumVals.filter isCurrent).getLast? = some w) :
    Parameter.scanMode.read (comboBox item isCurrent enumVals) =
      some (Parameter.modeNumber (variantToInt (some (item w)))) := by
  obtain ⟨index, hbox, hitem⟩ := currentData h
  rw [hbox]
  show some (Parameter.modeNumber (variantToInt ((enumVals.map item)[index]?))) = _
  rw [hitem]

/-- An entry that is taken for a number and is none has no text, and is read as 0. -/
theorem variantToInt_numberItem {q : Rat} {w : Json} (hcurrent : isCurrentNumber (some (.num q)) w = true)
    (hne : w ≠ .num q) : variantToInt (some (numberItem w)) = 0 := by
  have htextless : ∀ t : String, decide ("" = t) = true → variantToInt (some (.str t)) = 0 := by
    intro t ht
    rw [← of_decide_eq_true ht]
    decide
  cases w with
  | num q' => exact absurd (congrArg Json.num (of_decide_eq_true hcurrent).symm) hne
  | null => exact htextless _ hcurrent
  | bool b => exact htextless _ hcurrent
  | str t => exact htextless _ hcurrent
  | arr items => exact htextless _ hcurrent
  | obj members => exact htextless _ hcurrent

/-- The combo box of a number's enumeration shows the mode exactly if the mode is one that is kept. -/
theorem read_numberEnum_iff {q : Rat} (hmem : .num q ∈ toArray (propSchema.get? "enum")) :
    Parameter.scanMode.read (comboBox numberItem (isCurrentNumber (some (.num q)))
      (toArray (propSchema.get? "enum"))) = some (.num q) ↔ IsMode propSchema (.num q) := by
  unfold IsMode
  generalize toArray (propSchema.get? "enum") = enumVals at hmem ⊢
  have hself : isCurrentNumber (some (.num q)) (.num q) = true := by simp [isCurrentNumber, toDouble]
  obtain ⟨w, hw⟩ : ∃ w, (enumVals.filter (isCurrentNumber (some (.num q)))).getLast? = some w := by
    have hne : enumVals.filter (isCurrentNumber (some (.num q))) ≠ [] :=
      List.ne_nil_of_mem (List.mem_filter.2 ⟨hmem, hself⟩)
    exact ⟨_, List.getLast?_eq_some_getLast hne⟩
  have hcurrent : isCurrentNumber (some (.num q)) w = true := (List.mem_filter.1 (List.mem_of_getLast? hw)).2
  rw [read_comboBox hw, Option.some.injEq]
  by_cases hwq : w = .num q
  · -- the entry is the number itself
    subst hwq
    constructor
    · intro h
      rcases Parameter.modeNumber_eq (variantToInt (some (numberItem (.num q)))) with h2 | h3
      · exact .inl (h.symm.trans h2)
      · exact .inr ⟨h.symm.trans h3, hw⟩
    · rintro (h | ⟨h, -⟩)
      · cases h
        exact Parameter.modeNumber_two
      · cases h
        exact Parameter.modeNumber_three
  · -- the entry has no text, which is read as mode 2
    rw [variantToInt_numberItem hcurrent hwq]
    constructor
    · intro h
      exact .inl h.symm
    · rintro (h | ⟨-, hlast⟩)
      · exact h.symm
      · rw [hw] at hlast
        exact absurd (Option.some.inj hlast) hwq

/-! ## One parameter through its editor -/

section

variable {leaf : Leaf}

theorem shown_scanLengthMm (hread : Readable leaf.propSchema .scanLengthMm) (hv : leaf.value = some v)
    (ha : Allowed leaf.propSchema v) :
    leaf.shown outside .scanLengthMm = some v ↔ Keeps outside leaf.propSchema .scanLengthMm v := by
  obtain ⟨q, rfl⟩ := ha.hasType.num (.inr hread.1)
  unfold Leaf.shown Leaf.editor
  rw [buildEditor_number hread.1 hread.2, hv]
  have hrange := clamp_round_iff leaf.propSchema (ha.places q rfl) rfl
  constructor
  · intro h
    exact hrange.1 (Json.num.inj (Option.some.inj h))
  · intro h
    exact congrArg (fun x => some (Json.num x)) (hrange.2 h)

theorem shown_exposureUs (hread : Readable leaf.propSchema .exposureUs) (hv : leaf.value = some v)
    (ha : Allowed leaf.propSchema v) :
    leaf.shown outside .exposureUs = some v ↔ Keeps outside leaf.propSchema .exposureUs v := by
  obtain ⟨n, rfl⟩ := (hread.1 ▸ ha.hasType : HasType "integer" v).int
  unfold Leaf.shown Leaf.editor
  rw [buildEditor_integer hread.1 hread.2, hv]
  have hrange := clamp_toInt_iff outside (minVal leaf.propSchema) (maxVal leaf.propSchema) n
  constructor
  · intro h
    have hvalue := Json.num.inj (Option.some.inj h)
    exact hrange.1 (Int.cast_injective hvalue)
  · intro h
    exact congrArg (fun m : Int => some (Json.num m)) (hrange.2 h)

theorem shown_scanMode (hread : Readable leaf.propSchema .scanMode) (hv : leaf.value = some v)
    (ha : Allowed leaf.propSchema v) :
    leaf.shown outside .scanMode = some v ↔ Keeps outside leaf.propSchema .scanMode v := by
  obtain ⟨htype, henum⟩ := hread
  simp only [List.mem_cons, List.not_mem_nil, or_false, ← or_assoc] at htype
  unfold Leaf.shown Leaf.editor
  rw [hv]
  rcases htype with htype | htype
  · obtain ⟨q, rfl⟩ := ha.hasType.num htype
    rw [buildEditor_numberEnum htype henum]
    exact read_numberEnum_iff (ha.enum henum)
  · obtain ⟨t, rfl⟩ := (htype ▸ ha.hasType : HasType "string" v).str
    rw [buildEditor_textEnum htype henum]
    -- a text is no number: the accessor cannot give it back
    constructor
    · intro h
      have hread := Option.some.inj h
      rcases Parameter.modeNumber_eq _ with h2 | h3
      · cases h2.symm.trans hread
      · cases h3.symm.trans hread
    · rintro (h2 | ⟨h3, -⟩)
      · cases h2
      · cases h3

theorem shown_checked (outside : Rat → Int32) (p : Parameter) (hread : toText (leaf.propSchema.get? "type") = "boolean")
    (hp : ∀ e, p.read e = (isChecked e).map Json.bool) (hv : leaf.value = some v) (ha : Allowed leaf.propSchema v) :
    leaf.shown outside p = some v := by
  obtain ⟨b, rfl⟩ := (hread ▸ ha.hasType : HasType "boolean" v).bool
  unfold Leaf.shown Leaf.editor
  rw [buildEditor_boolean hread, hv, Option.bind_some, hp]
  rfl

/-- A value that the schema allows comes back from an editor that the accessor reads exactly if it is one of
those that are kept. -/
theorem shown_iff {p : Parameter} (hread : Readable leaf.propSchema p) (hv : leaf.value = some v)
    (ha : Allowed leaf.propSchema v) : leaf.shown outside p = some v ↔ Keeps outside leaf.propSchema p v := by
  cases p with
  | scanLengthMm => exact shown_scanLengthMm hread hv ha
  | scanMode => exact shown_scanMode hread hv ha
  | exposureUs => exact shown_exposureUs hread hv ha
  | intensityEnabled =>
    have hshown := shown_checked outside .intensityEnabled hread (by rintro (_ | _ | _ | _) <;> rfl) hv ha
    exact iff_of_true hshown trivial
  | uniformSpacingEnabled =>
    have hshown := shown_checked outside .uniformSpacingEnabled hread
      (by rintro (_ | _ | _ | _) <;> rfl) hv ha
    exact iff_of_true hshown trivial

end

/-! ## The grab -/

/-- The five scan parameters in the resources: of each a leaf that has an editor, with a value that its schema
allows. -/
structure ScanParameters (outside : Rat → Int32) (r : Resources) where
  leaf : Parameter → Leaf
  value : Parameter → Json
  mem : ∀ p, leaf p ∈ r.leaves
  target : ∀ p, (leaf p).target = p.target
  path : ∀ p, (leaf p).path = p.path
  value_leaf : ∀ p, (leaf p).value = some (value p)
  editor : ∀ p, ((leaf p).editor outside).isSome
  allowed : ∀ p, Allowed (leaf p).propSchema (value p)

/-- The value of a parameter survives the way to `configure`: its own editor keeps it if the accessor can read
that, every other editor at its path that the accessor can read shows it too, and where there is none that the
accessor can read the value is the one that the accessor has itself. -/
structure ScanParameters.Kept {r : Resources} (s : ScanParameters outside r) (p : Parameter) : Prop where
  own : Readable (s.leaf p).propSchema p → Keeps outside (s.leaf p).propSchema p (s.value p)
  others : ∀ leaf ∈ r.leaves, leaf ≠ s.leaf p → leaf.path = p.path → Readable leaf.propSchema p →
    leaf.shown outside p = some (s.value p)
  fallback : (∀ leaf ∈ r.leaves, leaf.path = p.path → ¬ Readable leaf.propSchema p) → p.fallback = s.value p

theorem ScanParameters.shows_iff {r : Resources} (s : ScanParameters outside r) (p : Parameter) :
    r.Shows outside p (s.value p) ↔ s.Kept p := by
  constructor
  · rintro ⟨heditors, hfallback⟩
    refine ⟨?_, ?_, hfallback⟩
    · intro hread
      exact (shown_iff hread (s.value_leaf p) (s.allowed p)).1 (heditors _ (s.mem p) (s.path p) hread)
    · intro leaf hleaf _ hpath hread
      exact heditors leaf hleaf hpath hread
  · rintro ⟨hown, hothers, hfallback⟩
    refine ⟨?_, hfallback⟩
    intro leaf hleaf hpath hread
    by_cases heq : leaf = s.leaf p
    · subst heq
      exact (shown_iff hread (s.value_leaf p) (s.allowed p)).2 (hown hread)
    · exact hothers leaf hleaf heq hpath hread

/-! ## A line scanner -/

/-- The schema of a resource whose parameters are one group of properties. -/
def groupSchema (group : String) (properties : List (String × Json)) : Json :=
  .obj [("properties", .obj [("parameters", .obj [("properties", .obj [(group,
    .obj [("properties", .obj properties), ("type", .str "object")])])])])]

def groupData (group : String) (values : List (String × Json)) : Json :=
  .obj [("parameters", .obj [(group, .obj values)])]

theorem addResourceCategory_group (target : ParameterTarget) (group : String)
    (properties values : List (String × Json)) :
    addResourceCategory target (groupSchema group properties) (groupData group values) =
      properties.flatMap fun e =>
        addFeatureNode target ("/parameters" ++ "/" ++ group) e.1 (toObject (some e.2)) (.obj values) := by
  have hvalue : (Json.obj [(group, Json.obj values)]).get? group = some (.obj values) := SortedMap.get?_cons_self ..
  have hgroup : addFeatureNode target "/parameters" group
      (.obj [("properties", .obj properties), ("type", .str "object")]) (.obj [(group, .obj values)]) =
      properties.flatMap fun e =>
        addFeatureNode target ("/parameters" ++ "/" ++ group) e.1 (toObject (some e.2)) (.obj values) := by
    rw [addFeatureNode_object rfl, hvalue]
    rfl
  simp [addResourceCategory, groupSchema, groupData, Json.get?, toObject, hgroup]

def typed (type : String) : Json := .obj [("type", .str type)]

/-- A line scanner in surface mode, whose exposure time has the given type. -/
def lineScanner (exposureType : String) : Resources where
  scannerSchema := groupSchema "scanModeSettings" [("intensityEnabled", typed "boolean"),
    ("scanLengthMm", typed "number"), ("scanMode", .obj [("enum", .arr [.num 2, .num 3]), ("type", .str "integer")]),
    ("uniformSpacingEnabled", typed "boolean")]
  scannerData := groupData "scanModeSettings" [("intensityEnabled", .bool true), ("scanLengthMm", .num 50),
    ("scanMode", .num 3), ("uniformSpacingEnabled", .bool false)]
  sensorSchema := groupSchema "exposureSettings" [("singleExposure", typed exposureType)]
  sensorData := groupData "exposureSettings" [("singleExposure", .num 80)]

def lineScannerSchema (exposureType : String) : Parameter → Json
  | .scanLengthMm => typed "number"
  | .scanMode => .obj [("enum", .arr [.num 2, .num 3]), ("type", .str "integer")]
  | .exposureUs => typed exposureType
  | .intensityEnabled => typed "boolean"
  | .uniformSpacingEnabled => typed "boolean"

def lineScannerValue : Parameter → Json
  | .scanLengthMm => .num 50
  | .scanMode => .num 3
  | .exposureUs => .num 80
  | .intensityEnabled => .bool true
  | .uniformSpacingEnabled => .bool false

def lineScannerLeaf (exposureType : String) (p : Parameter) : Leaf :=
  ⟨p.target, p.path, lineScannerSchema exposureType p, some (lineScannerValue p)⟩

theorem leaves_lineScanner {exposureType : String} (h : exposureType ≠ "object") :
    (lineScanner exposureType).leaves = [.intensityEnabled, .scanLengthMm, .scanMode, .uniformSpacingEnabled,
      .exposureUs].map (lineScannerLeaf exposureType) := by
  have hexposure : toText ((typed exposureType).get? "type") ≠ "object" := h
  unfold Resources.leaves lineScanner
  rw [addResourceCategory_group, addResourceCategory_group]
  simp only [List.flatMap_cons, List.flatMap_nil, typed, toObject] at hexposure ⊢
  rw [addFeatureNode_leaf (by decide), addFeatureNode_leaf (by decide), addFeatureNode_leaf (by decide),
    addFeatureNode_leaf (by decide), addFeatureNode_leaf hexposure]
  rfl

theorem leaf_of_path {exposureType : String} (h : exposureType ≠ "object") {leaf : Leaf} {p : Parameter}
    (hleaf : leaf ∈ (lineScanner exposureType).leaves) (hpath : leaf.path = p.path) :
    leaf = lineScannerLeaf exposureType p := by
  rw [leaves_lineScanner h] at hleaf
  obtain ⟨p', -, rfl⟩ := List.mem_map.1 hleaf
  rw [Parameter.path_injective hpath]

theorem num_mem_modes {q : Rat} (h : q = 2 ∨ q = 3) : Json.num q ∈ toArray (some (.arr [.num 2, .num 3])) := by
  rcases h with rfl | rfl <;> simp [toArray]

theorem buildEditor_lineScanner {exposureType : String} (h : exposureType = "integer" ∨ exposureType = "number")
    (p : Parameter) : ((lineScannerLeaf exposureType p).editor outside).isSome := by
  cases p with
  | exposureUs => rcases h with rfl | rfl <;> rfl
  | _ => rfl

theorem allowed_typed {type : String} (htype : HasType type v) (hplaces : ∀ q, v = .num q → Decimal.Places 6 q) :
    Allowed (typed type) v :=
  ⟨htype, by rintro ⟨⟩, by rintro lo q ⟨⟩, by rintro hi q ⟨⟩, hplaces⟩

theorem places_num (n : Int) : ∀ q, Json.num n = .num q → Decimal.Places 6 q := by
  rintro q ⟨⟩
  exact Decimal.places_intCast 6 n

theorem allowed_lineScanner {exposureType : String} (h : exposureType = "integer" ∨ exposureType = "number")
    (p : Parameter) : Allowed (lineScannerSchema exposureType p) (lineScannerValue p) := by
  cases p with
  | scanLengthMm => exact allowed_typed (.inl rfl) (places_num 50)
  | scanMode =>
    exact ⟨.inr ⟨rfl, rfl⟩, fun _ => num_mem_modes (.inr rfl), by rintro lo q ⟨⟩, by rintro hi q ⟨⟩, places_num 3⟩
  | exposureUs =>
    rcases h with rfl | rfl
    · exact allowed_typed (.inr ⟨rfl, rfl⟩) (places_num 80)
    · exact allowed_typed (.inl rfl) (places_num 80)
  | intensityEnabled => exact allowed_typed rfl (by rintro q ⟨⟩)
  | uniformSpacingEnabled => exact allowed_typed rfl (by rintro q ⟨⟩)

def lineScannerParameters (outside : Rat → Int32) {exposureType : String}
    (h : exposureType = "integer" ∨ exposureType = "number") : ScanParameters outside (lineScanner exposureType) where
  leaf := lineScannerLeaf exposureType
  value := lineScannerValue
  mem p := by
    rw [leaves_lineScanner (by rcases h with rfl | rfl <;> decide)]
    exact List.mem_map_of_mem (by cases p <;> decide)
  target _ := rfl
  path _ := rfl
  value_leaf _ := rfl
  editor := buildEditor_lineScanner h
  allowed := allowed_lineScanner h

theorem readable_lineScanner (p : Parameter) : Readable (lineScannerSchema "integer" p) p := by
  cases p with
  | scanMode => exact ⟨.head _, rfl⟩
  | scanLengthMm => exact ⟨rfl, rfl⟩
  | exposureUs => exact ⟨rfl, rfl⟩
  | intensityEnabled => rfl
  | uniformSpacingEnabled => rfl

theorem keeps_lineScanner (p : Parameter) : Keeps outside (lineScannerSchema "integer" p) p (lineScannerValue p) := by
  cases p with
  | scanLengthMm =>
    have hlo (d : Nat) : Decimal.round d (minVal (typed "number")) = 0 :=
      Decimal.round_of_places (Decimal.places_intCast d 0)
    have hhi (d : Nat) : Decimal.round d (maxVal (typed "number")) = 100000 :=
      Decimal.round_of_places (Decimal.places_intCast d 100000)
    show InDoubleRange (typed "number") 50
    unfold InDoubleRange
    dsimp only
    rw [hlo, hhi]
    norm_num
  | scanMode =>
    refine .inr ⟨rfl, ?_⟩
    have hno : isCurrentNumber (some (.num 3)) (.num 2) = false := by decide
    have hyes : isCurrentNumber (some (.num 3)) (.num 3) = true := by decide
    show ([Json.num 2, Json.num 3].filter (isCurrentNumber (some (.num 3)))).getLast? = some (.num 3)
    simp [hno, hyes]
  | exposureUs =>
    have hlo : castInt outside (minVal (typed "integer")) = 0 := castInt_intCast (n := 0) (by decide)
    have hhi : castInt outside (maxVal (typed "integer")) = 100000 := castInt_intCast (n := 100000) (by decide)
    show InIntRange outside (typed "integer") 80
    unfold InIntRange
    dsimp only
    rw [hlo, hhi]
    omega
  | intensityEnabled => trivial
  | uniformSpacingEnabled => trivial

theorem kept_lineScanner (p : Parameter) : (lineScannerParameters outside (.inl rfl)).Kept p := by
  refine ⟨fun _ => keeps_lineScanner p, ?_, ?_⟩
  · intro leaf hleaf hne hpath
    exact absurd (leaf_of_path (by decide) hleaf hpath) hne
  · intro h
    exact absurd (readable_lineScanner p) (h _ ((lineScannerParameters outside (.inl rfl)).mem p) rfl)

/-- Where nothing was set or edited, the arguments of `configure` are the values of the device, whatever the
addresses of the editors, exactly if every parameter is kept. -/
theorem grab_keepsDevice_iff {r : Resources} (s : ScanParameters outside r) :
    (∀ features : List Feature, features.Perm (populateFeatures outside [] r) →
      ∀ p, (grabArguments ⟨[], features⟩).value p = s.value p) ↔ ∀ p, s.Kept p := by
  simp only [value_grabArguments]
  constructor
  · intro h p
    exact (s.shows_iff p).1 ((argument_populate_iff rfl).1 fun features hperm => h features hperm p)
  · intro h features hperm p
    exact (argument_populate_iff rfl).2 ((s.shows_iff p).2 (h p)) features hperm

theorem grab_keepsDevice_lineScanner : ∀ features : List Feature,
    features.Perm (populateFeatures (fun _ => 0) [] (lineScanner "integer")) →
      ∀ p, (grabArguments ⟨[], features⟩).value p = lineScannerValue p :=
  (grab_keepsDevice_iff (lineScannerParameters (fun _ => 0) (.inl rfl))).2 kept_lineScanner

/-- An exposure time of type `number` has an editor that the accessor does not read. -/
theorem not_grab_keepsDevice :
    ¬ ∀ (outside : Rat → Int32) (r : Resources) (s : ScanParameters outside r) (features : List Feature),
      features.Perm (populateFeatures outside [] r) → ∀ p, (grabArguments ⟨[], features⟩).value p = s.value p := by
  intro h
  have hshows : (lineScanner "number").Shows (fun _ => 0) .exposureUs (.num 80) := by
    apply (argument_populate_iff (show SortedMap.get? Parameter.exposureUs.path [] = none from rfl)).1
    intro features hperm
    rw [← value_grabArguments]
    exact h _ _ (lineScannerParameters (fun _ => 0) (.inr rfl)) features hperm .exposureUs
  have hunread : ∀ leaf ∈ (lineScanner "number").leaves, leaf.path = Parameter.exposureUs.path →
      ¬ Readable leaf.propSchema .exposureUs := by
    rintro leaf hleaf hpath ⟨htype, -⟩
    rw [leaf_of_path (by decide) hleaf hpath] at htype
    exact absurd htype (by decide)
  have hfallback : (1000 : Rat) = 80 := Json.num.inj (hshows.fallback hunread)
  norm_num at hfallback

end Gocator.Features

/-
The feature tree and the device over any run of edits and refreshes: an edit goes through `setParameterValue`
into the document of its target, a refresh brings the documents into the editors. The documents hold their numbers
in doubles. Every editor that was edited keeps the value that it wrote last, in step with its document, and nothing
else in the documents changes.
-/
import Gocator.Lib.Doubles
import Gocator.Features.Configured
import Gocator.Features.Entries
import Gocator.Features.Grab

namespace Gocator.Features

open Transition (Run anyStep)
open Gocator.Facade (detectEngineId)
open Gocator.Settings (Assignment accepts assigned lastAssigned)
open Decimal (Places clampTo)
open JsonText (parse)

/-! ## Editors that take their value again -/

/-- The value of a spin box is in its range and has its decimals; the items of a combo box are numbers and texts. -/
def Editor.Sound : Editor → Prop
  | .checkBox _ => True
  | .spinBox minimum maximum value => intMin ≤ minimum ∧ maximum ≤ intMax ∧ minimum ≤ value ∧ value ≤ maximum
  | .doubleSpinBox decimals minimum maximum _ value =>
    Places decimals minimum ∧ Places decimals maximum ∧ minimum ≤ value ∧ value ≤ maximum ∧ Places decimals value
  | .comboBox items _ => ∀ item ∈ items, (∃ q, item = .num q) ∨ ∃ s, item = .str s

/-- Every value that the user can give the editor is found again from the double that holds it. -/
def Editor.Holds (double : Rat → Rat) : Editor → Prop
  | .checkBox _ => True
  | .spinBox minimum maximum _ => ∀ n : Int, minimum ≤ n → n ≤ maximum → double n = n
  | .doubleSpinBox decimals minimum maximum _ _ =>
    ∀ q, Places decimals q → minimum ≤ q → q ≤ maximum → Decimal.round decimals (double q) = q
  | .comboBox items _ => ∀ item ∈ items, item.mapNum double = item

section

variable {outside : Rat → Int32} {propSchema : Json} {curVal : Option Json} {e e' : Editor} {double : Rat → Rat}

theorem holds_refreshed (v : Json) (e : Editor) : (e.refreshed v).Holds double = e.Holds double := by
  cases e <;> rfl

theorem clampTo_range {α : Type} [LinearOrder α] (lo hi x : α) : lo ≤ clampTo lo hi x ∧ clampTo lo hi x ≤ max lo hi :=
  ⟨le_max_left _ _, max_le (le_max_left _ _) (min_le_left _ _)⟩

/-- A clamp leaves one of three numbers. -/
theorem places_clampTo {d : Nat} {lo hi x : Rat} (hlo : Places d lo) (hhi : Places d hi) (hx : Places d x) :
    Places d (clampTo lo hi x) := by
  unfold clampTo
  rcases max_choice lo (min (max lo hi) x) with h | h <;> rw [h]
  · exact hlo
  · rcases min_choice (max lo hi) x with h | h <;> rw [h]
    · rcases max_choice lo hi with h | h <;> rw [h] <;> assumption
    · exact hx

theorem sound_spinBox (outside : Rat → Int32) (x y : Rat) (value : Int) :
    (spinBox (castInt outside x) (castInt outside y) value).Sound := by
  obtain ⟨hlo, hlo'⟩ := castInt_mem outside x
  obtain ⟨-, hhi⟩ := castInt_mem outside y
  obtain ⟨hmin, hmax⟩ := clampTo_range (castInt outside x) (castInt outside y) value
  exact ⟨hlo, max_le hlo' hhi, hmin, hmax⟩

theorem sound_doubleSpinBox (d : Nat) (x y singleStep value : Rat) : (doubleSpinBox d x y singleStep value).Sound := by
  have hlo := Decimal.places_round d x
  have hhi := Decimal.places_round d y
  obtain ⟨hmin, hmax⟩ := clampTo_range (Decimal.round d x) (Decimal.round d y) (Decimal.round d value)
  refine ⟨hlo, ?_, hmin, hmax, places_clampTo hlo hhi (Decimal.places_round d value)⟩
  rcases max_choice (Decimal.round d x) (Decimal.round d y) with h | h <;> rw [h] <;> assumption

theorem sound_comboBox {item : Json → Json} (isCurrent : Json → Bool) (enumVals : List Json)
    (h : ∀ v, (∃ q, item v = .num q) ∨ ∃ s, item v = .str s) : (comboBox item isCurrent enumVals).Sound := by
  intro i hi
  obtain ⟨v, -, rfl⟩ := List.mem_map.1 hi
  exact h v

theorem sound_numberItem (v : Json) : (∃ q, numberItem v = .num q) ∨ ∃ s, numberItem v = .str s := by
  cases v with
  | num q => exact .inl ⟨q, rfl⟩
  | _ => exact .inr ⟨_, rfl⟩

theorem sound_buildEditor (h : buildEditor outside propSchema curVal = some e) : e.Sound := by
  rcases kind_of_buildEditor h with htype | ⟨htype, henum⟩ | ⟨htype, henum⟩ | ⟨htype, henum⟩ | ⟨htype, henum⟩
  · rw [buildEditor_boolean htype] at h
    cases h
    trivial
  · rw [buildEditor_numberEnum htype henum] at h
    cases h
    exact sound_comboBox _ _ sound_numberItem
  · rw [buildEditor_integer htype henum] at h
    cases h
    exact sound_spinBox ..
  · rw [buildEditor_number htype henum] at h
    cases h
    exact sound_doubleSpinBox ..
  · rw [buildEditor_textEnum htype henum] at h
    cases h
    exact sound_comboBox _ _ fun v => .inr ⟨_, rfl⟩

theorem Editor.Sound.edited {change : Edit} (h : e.Sound) (he : e.edited change = some e') : e'.Sound := by
  cases Editor.changes_of_edited he with
  | checkBox => trivial
  | spinBox _ hvalue => exact ⟨h.1, h.2.1, hvalue⟩
  | doubleSpinBox _ _ hvalue hround =>
    refine ⟨h.1, h.2.1, hvalue.1, hvalue.2, ?_⟩
    rw [← hround]
    exact Decimal.places_round _ _
  | comboBox => exact h

theorem Editor.Sound.refreshed (h : e.Sound) (v : Json) : (e.refreshed v).Sound := by
  cases e with
  | checkBox checked => trivial
  | spinBox minimum maximum value =>
    obtain ⟨hmin, hmax, hlo, hhi⟩ := h
    obtain ⟨hlo', hhi'⟩ := clampTo_range minimum maximum (toInt (some v) 0)
    rw [max_eq_right (hlo.trans hhi)] at hhi'
    exact ⟨hmin, hmax, hlo', hhi'⟩
  | doubleSpinBox decimals minimum maximum singleStep value =>
    obtain ⟨hmin, hmax, hlo, hhi, -⟩ := h
    obtain ⟨hlo', hhi'⟩ := clampTo_range minimum maximum (Decimal.round decimals (toDouble (some v) 0))
    rw [max_eq_right (hlo.trans hhi)] at hhi'
    exact ⟨hmin, hmax, hlo', hhi', places_clampTo hmin hmax (Decimal.places_round _ _)⟩
  | comboBox items currentIndex => exact h

/-- A combo box dispatches one of its items. -/
theorem mem_of_dispatched {items : List Json} {currentIndex : Option Nat} {v : Json}
    (hv : onParameterChanged (.comboBox items currentIndex) = some v) : v ∈ items ∧ v.isNull = false := by
  unfold onParameterChanged at hv
  dsimp only at hv
  split at hv
  · cases hv
  · rename_i hnull
    cases hitem : currentIndex.bind fun i => items[i]? with
    | none =>
      rw [hitem] at hnull
      exact absurd rfl hnull
    | some item =>
      obtain ⟨i, -, hi⟩ := Option.bind_eq_some_iff.1 hitem
      rw [hitem, Option.getD_some] at hv hnull
      obtain rfl := Option.some.inj hv
      exact ⟨List.mem_of_getElem? hi, Bool.eq_false_iff.2 hnull⟩

/-- What is dispatched is a check mark, a number or a text. -/
theorem Editor.Sound.dispatched {v : Json} (h : e.Sound) (hv : onParameterChanged e = some v) :
    (∃ b, v = .bool b) ∨ (∃ q, v = .num q) ∨ ∃ s, v = .str s := by
  cases e with
  | checkBox checked => exact .inl ⟨checked, (Option.some.inj hv).symm⟩
  | spinBox minimum maximum value => exact .inr (.inl ⟨_, (Option.some.inj hv).symm⟩)
  | doubleSpinBox decimals minimum maximum singleStep value => exact .inr (.inl ⟨_, (Option.some.inj hv).symm⟩)
  | comboBox items currentIndex => exact .inr (h v (mem_of_dispatched hv).1)

/-- An item that is searched for is found, or one before it with the same data. -/
theorem findData_of_mem {items : List Json} {v : Json} (h : (∃ q, v = .num q) ∨ ∃ s, v = .str s) (hmem : v ∈ items) :
    ∃ k, findData items (numberItem v) = some k ∧ items[k]? = some v := by
  have hself : numberItem v = v ∧ sameData v v = true ∧ ∀ w, sameData v w = true → w = v := by
    rcases h with ⟨q, rfl⟩ | ⟨s, rfl⟩
    · refine ⟨rfl, decide_eq_true rfl, fun w hw => ?_⟩
      cases w with
      | num q' => exact congrArg Json.num (of_decide_eq_true hw).symm
      | _ => cases hw
    · refine ⟨rfl, decide_eq_true rfl, fun w hw => ?_⟩
      cases w with
      | str s' => exact congrArg Json.str (of_decide_eq_true hw).symm
      | _ => cases hw
  obtain ⟨hitem, hsame, huniq⟩ := hself
  obtain ⟨k, hk⟩ : ∃ k, findData items v = some k := by
    rw [← Option.isSome_iff_exists, findData, List.findIdx?_isSome, List.any_eq_true]
    exact ⟨v, hmem, hsame⟩
  obtain ⟨hlt, hfound, -⟩ := List.findIdx?_eq_some_iff_getElem.1 hk
  refine ⟨k, ?_, ?_⟩
  · rw [hitem, hk]
  · rw [List.getElem?_eq_getElem hlt, huniq _ hfound]

/-- An editor that is set to what a double holds of the value it dispatches dispatches the value again. -/
theorem Editor.Sound.dispatched_refreshed {v : Json} (h : e.Sound) (hholds : e.Holds double)
    (hv : onParameterChanged e = some v) : onParameterChanged (e.refreshed (v.mapNum double)) = some v := by
  cases e with
  | checkBox checked =>
    obtain rfl : Json.bool checked = v := Option.some.inj hv
    rfl
  | spinBox minimum maximum value =>
    obtain rfl : Json.num value = v := Option.some.inj hv
    obtain ⟨hmin, hmax, hlo, hhi⟩ := h
    have htoInt : toInt (some (.num value)) 0 = value := by
      simp only [toInt, Rat.den_intCast, Rat.num_intCast, true_and]
      exact if_pos ⟨hmin.trans hlo, hhi.trans hmax⟩
    have hclamp : clampTo minimum maximum value = value :=
      Decimal.clampTo_eq_self.2 ⟨hlo, hhi.trans (le_max_right _ _)⟩
    rw [Json.mapNum_num, hholds value hlo hhi, Editor.refreshed, htoInt, hclamp]
    rfl
  | doubleSpinBox decimals minimum maximum singleStep value =>
    obtain rfl : Json.num value = v := Option.some.inj hv
    obtain ⟨-, -, hlo, hhi, hplaces⟩ := h
    have hclamp : clampTo minimum maximum value = value :=
      Decimal.clampTo_eq_self.2 ⟨hlo, hhi.trans (le_max_right _ _)⟩
    have htoDouble : toDouble (some (.num (double value))) 0 = double value := rfl
    rw [Json.mapNum_num, Editor.refreshed, htoDouble, hholds value hplaces hlo hhi, hclamp]
    rfl
  | comboBox items currentIndex =>
    obtain ⟨hmem, hnull⟩ := mem_of_dispatched hv
    obtain ⟨k, hk, hitem⟩ := findData_of_mem (h v hmem) hmem
    rw [hholds v hmem, Editor.refreshed, hk, Option.some_or]
    unfold onParameterChanged
    dsimp only
    rw [Option.bind_some, hitem, Option.getD_some, hnull]
    rfl

end

/-! ## Edits -/

/-- What the refresh reads of the resources. -/
def featureData (D : Settings.Device) : FeatureData where
  scannerData := toObject (D.docs (targetPath (detectEngineId D) .scanner))
  sensorData := toObject (D.docs (targetPath (detectEngineId D) .sensor))

/-- The tree and the device behind it. -/
structure Live where
  features : List Feature
  device : Settings.Device

/-- What becomes of numbers between the editors and the documents: what a double holds of one, how a double is printed,
and how a text is read. -/
structure Wire where
  double : Rat → Rat
  number : Rat → String
  read : String → Option Json

namespace Wire

variable (wire : Wire)

/-- The value as the documents hold it. -/
def held (v : Json) : Json := v.mapNum wire.double

/-- The text that is sent for a value. -/
def text (v : Json) : String := jsonValueStr wire.number (wire.held v)

end Wire

/-- `QString::number(x, 'g', 17)`. -/
def numberText (x : Rat) : String := String.ofList (JsonText.generalText .halfUp 17 x)

/-- Numbers are doubles on both sides. -/
def Wire.doubles : Wire := ⟨Decimal.double, numberText, JsonText.parseDoubles⟩

/-- The next move: an edit of the editor at a position, or a refresh. -/
inductive LiveAction where
  | edit (i : Nat) (change : Edit)
  | updateFeatureValues

/-- An edit dispatches the value of its entry to an open facade, and the device answers before anything else happens; a
refresh reads the documents and applies them at once. An edit during an update, which is given up, and a refresh with
documents that were read before an edit are left out. -/
def Live.step (wire : Wire) (rejects : String → Bool) (s : Live) :
    LiveAction → Option (Live × List (Nat × Json))
  | .edit i change =>
    match s.features[i]?.bind fun f => f.edited change with
    | some (f, v) =>
      some (⟨s.features.set i f, setParameterValue true wire.read rejects f.target f.path (wire.text v) s.device⟩,
        [(i, v)])
    | none => none
  | .updateFeatureValues => some (⟨applyFeatureValues (featureData s.device) s.features, s.device⟩, [])

/-- The value that the entry at a position dispatched last. -/
def lastEdit (tr : List (Nat × Json)) (i : Nat) : Option Json := ((tr.filter (·.1 = i)).map (·.2)).getLast?

/-- The assignments that the edits of the entries make. -/
def editAssignments (wire : Wire) (engineId : String) (features : List Feature) (tr : List (Nat × Json)) :
    List Assignment :=
  tr.filterMap fun e => features[e.1]?.map fun f => ⟨targetPath engineId f.target, f.names, wire.held e.2⟩

variable {outside : Rat → Int32} {pending : List (String × Json)} {r : Resources} {wire : Wire}
  {rejects : String → Bool} {D : Settings.Device} {f : Feature} {s s₀ : Live} {tr : List (Nat × Json)}

theorem Live.step_edit {i : Nat} {change : Edit} {s' : Live} {evs : List (Nat × Json)}
    (h : Live.step wire rejects s (.edit i change) = some (s', evs)) :
    ∃ f f' v, s.features[i]? = some f ∧ f.edited change = some (f', v) ∧ evs = [(i, v)] ∧
      s' = ⟨s.features.set i f',
        setParameterValue true wire.read rejects f'.target f'.path (wire.text v) s.device⟩ := by
  unfold Live.step at h
  dsimp only at h
  split at h
  · rename_i f' v hf'
    obtain ⟨f, hi, hedit⟩ := Option.bind_eq_some_iff.1 hf'
    obtain ⟨rfl, rfl⟩ := Prod.mk.inj (Option.some.inj h)
    exact ⟨f, f', v, hi, hedit, rfl, rfl⟩
  · cases h

theorem lastEdit_append (tr tr' : List (Nat × Json)) (i : Nat) :
    lastEdit (tr ++ tr') i = (lastEdit tr' i).or (lastEdit tr i) := by
  unfold lastEdit
  rw [List.filter_append, List.map_append, List.getLast?_append]

theorem targetPath_injective (engineId : String) {target target' : ParameterTarget}
    (h : targetPath engineId target = targetPath engineId target') : target = target' := by
  have hlen : ∀ path : String, path ≠ path ++ "/sensors/sensor-0" := by
    intro path heq
    have hlist := congrArg (fun text : String => text.toList.length) heq
    simp only [String.toList_append, List.length_append] at hlist
    have hpos : 0 < "/sensors/sensor-0".toList.length := by decide
    omega
  cases target with
  | scanner =>
    cases target' with
    | scanner => rfl
    | sensor => exact absurd h (hlen _)
  | sensor =>
    cases target' with
    | scanner => exact absurd h.symm (hlen _)
    | sensor => rfl

/-- A value of an entry is assigned in its place. -/
theorem setParameterValue_eq {text : String} {v : Json} (hf : r.Entry f)
    (h : accepts rejects D (targetPath (detectEngineId D) f.target) = true) (htext : wire.read text = some v) :
    setParameterValue true wire.read rejects f.target f.path text D =
      assigned [⟨targetPath (detectEngineId D) f.target, f.names, v⟩] D := by
  obtain ⟨name, rest, hnames⟩ := List.exists_cons_of_ne_nil hf.names_ne_nil
  have htokens : Settings.pathTokens f.path = some f.names := by
    rw [hf.path, Settings.pathTokens, hnames, pathOf_cons_toList, ← hnames]
    exact tokens_of_plain hf.ok.1
  have hassign := assign_empty v hf.names_ne_nil hf.named
  unfold setParameterValue parameterPatch Settings.setAt
  rw [htext, htokens]
  simp only [Option.bind_some, hassign]
  rw [update_accepted h]
  rfl

/-! ## Runs -/

/-- The entries of the tree that was built: each is that of a leaf, and each is for a place of its own. -/
structure Resources.Entries (r : Resources) (features : List Feature) : Prop where
  entry : ∀ f ∈ features, r.Entry f
  distinct : features.Pairwise Feature.Elsewhere
  sound : ∀ f ∈ features, f.editor.Sound

theorem entries_populateFeatures (hr : r.Sound outside) {features : List Feature}
    (h : features.Perm (populateFeatures outside pending r)) : r.Entries features := by
  refine ⟨fun f hf => entry_of_mem hr (h.subset hf), ?_, fun f hf => ?_⟩
  · refine (h.pairwise_iff ?_).2 (pairwise_populateFeatures hr)
    exact fun helse htarget => (helse htarget.symm).symm
  · obtain ⟨leaf, -, hfeature⟩ := List.mem_filterMap.1 (h.subset hf)
    obtain ⟨editor, heditor, rfl⟩ := Option.map_eq_some_iff.1 hfeature
    exact sound_buildEditor heditor

/-- Two entries for one place stand at one position. -/
theorem Resources.Entries.index_eq {features : List Feature} (h : r.Entries features) {i k : Nat} {f g : Feature}
    (hi : features[i]? = some f) (hk : features[k]? = some g) (htarget : f.target = g.target)
    (hnames : f.names = g.names) : i = k := by
  obtain ⟨hlti, rfl⟩ := List.getElem?_eq_some_iff.1 hi
  obtain ⟨hltk, rfl⟩ := List.getElem?_eq_some_iff.1 hk
  have hpairs := List.pairwise_iff_getElem.1 h.distinct
  rcases Nat.lt_trichotomy i k with hlt | heq | hlt
  · exact absurd hnames (hpairs i k hlti hltk hlt htarget)
  · exact heq
  · exact absurd hnames.symm (hpairs k i hltk hlti hlt htarget.symm)

/-- The place of an entry was assigned last what its entry dispatched last. -/
theorem lastAssigned_edits {features : List Feature} (h : r.Entries features) {i : Nat} (hi : features[i]? = some f)
    (engineId : String) (tr : List (Nat × Json)) :
    lastAssigned (editAssignments wire engineId features tr) (targetPath engineId f.target) f.names =
      (lastEdit tr i).map wire.held := by
  unfold lastAssigned lastEdit editAssignments
  rw [← List.getLast?_map]
  refine congrArg List.getLast? ?_
  induction tr with
  | nil => rfl
  | cons e tr ih =>
    rw [List.filterMap_cons, List.filter_cons]
    cases hk : features[e.1]? with
    | none =>
      have hne : e.1 ≠ i := by
        rintro rfl
        rw [hk] at hi
        cases hi
      simp only [Option.map_none, hne, decide_false, Bool.false_eq_true, if_false]
      exact ih
    | some g =>
      simp only [Option.map_some, List.filter_cons]
      by_cases hei : e.1 = i
      · subst hei
        obtain rfl := Option.some.inj (hi.symm.trans hk)
        simp only [and_self, decide_true, if_true, List.map_cons, ih]
      · have hplace : ¬ (targetPath engineId g.target = targetPath engineId f.target ∧ g.names = f.names) :=
          fun hgf => hei (h.index_eq hk hi (targetPath_injective engineId hgf.1) hgf.2)
        simp only [hplace, hei, decide_false, Bool.false_eq_true, if_false, ih]

/-- The place of an entry, which stays when the editor changes. -/
def Feature.place (f : Feature) : ParameterTarget × String := (f.target, f.path)

theorem names_of_place {f g : Feature} (h : f.place = g.place) : f.target = g.target ∧ f.names = g.names := by
  obtain ⟨htarget, hpath⟩ := Prod.mk.inj h
  exact ⟨htarget, by rw [Feature.names, Feature.names, hpath]⟩

theorem targetVal_of_place {f g : Feature} (h : f.place = g.place) (data : FeatureData) :
    f.targetVal data = g.targetVal data := by
  obtain ⟨htarget, hpath⟩ := Prod.mk.inj h
  rw [Feature.targetVal, Feature.targetVal, htarget, hpath]

theorem exists_of_places {features features' : List Feature}
    (h : features.map Feature.place = features'.map Feature.place) {i : Nat} {f : Feature}
    (hi : features[i]? = some f) : ∃ g, features'[i]? = some g ∧ g.place = f.place := by
  have hget := congrArg (·[i]?) h
  simp only [List.getElem?_map, hi, Option.map_some] at hget
  obtain ⟨g, hg, hplace⟩ := Option.map_eq_some_iff.1 hget.symm
  exact ⟨g, hg, hplace⟩

/-- After the edits so far, from the tree and the device at the start. -/
structure Synced (wire : Wire) (s₀ : Live) (tr : List (Nat × Json)) (s : Live) : Prop where
  places : s.features.map Feature.place = s₀.features.map Feature.place
  sound : ∀ f ∈ s.features, f.editor.Sound
  scalar : ∀ e ∈ tr, (wire.held e.2).isNull = false ∧ (wire.held e.2).isObj = false
  device : s.device = assigned (editAssignments wire (detectEngineId s₀.device) s₀.features tr) s₀.device
  agree : ∀ i f v, s.features[i]? = some f → f.editor.Holds wire.double → lastEdit tr i = some v →
    onParameterChanged f.editor = some v

theorem mem_editAssignments {engineId : String} {features : List Feature} {a : Assignment}
    (ha : a ∈ editAssignments wire engineId features tr) : ∃ e ∈ tr, ∃ f, features[e.1]? = some f ∧
      a = ⟨targetPath engineId f.target, f.names, wire.held e.2⟩ := by
  obtain ⟨e, he, ha⟩ := List.mem_filterMap.1 ha
  obtain ⟨f, hf, rfl⟩ := Option.map_eq_some_iff.1 ha
  exact ⟨e, he, f, hf, rfl⟩

theorem at?_toObject {names : List String} (h : names ≠ []) (v : Option Json) :
    Json.at? names (toObject v) = v.bind (Json.at? names) := by
  obtain ⟨name, rest, rfl⟩ := List.exists_cons_of_ne_nil h
  cases v with
  | none => rfl
  | some v => rw [Option.bind_some, Json.at?, Json.at?, get?_toObject]

theorem featureData_of (D : Settings.Device) (target : ParameterTarget) :
    (featureData D).of target = toObject (D.docs (targetPath (detectEngineId D) target)) := by
  cases target <;> rfl

section

variable (hentries : r.Entries s₀.features)
  (haccepts : ∀ target, accepts rejects s₀.device (targetPath (detectEngineId s₀.device) target) = true)

include hentries in
theorem Synced.start : Synced wire s₀ [] s₀ :=
  ⟨rfl, hentries.sound, nofun, Settings.patched_nil.symm, nofun⟩

theorem Synced.detectEngineId_eq (h : Synced wire s₀ tr s) : detectEngineId s.device = detectEngineId s₀.device := by
  rw [h.device]
  refine detectEngineId_patched fun u hu => ?_
  obtain ⟨a, ha, rfl⟩ := List.mem_map.1 hu
  obtain ⟨e, -, f, -, rfl⟩ := mem_editAssignments ha
  exact targetPath_ne_visibleSensors _ f.target

include haccepts in
theorem Synced.accepting (h : Synced wire s₀ tr s) (target : ParameterTarget) :
    accepts rejects s.device (targetPath (detectEngineId s.device) target) = true := by
  rw [h.detectEngineId_eq, h.device, assigned, Settings.accepts_patched]
  exact haccepts target

include hentries haccepts in
/-- The document has what the entry dispatched last, or what it had. -/
theorem Synced.targetVal_eq (hr : r.Sound outside) (h : Synced wire s₀ tr s) {i : Nat} (hi : s.features[i]? = some f) :
    f.targetVal (featureData s.device) =
      ((lastEdit tr i).map wire.held).or (f.targetVal (featureData s₀.device)) := by
  obtain ⟨g, hg, hplace⟩ := exists_of_places h.places hi
  have hentry := hentries.entry g (List.mem_of_getElem? hg)
  have hne := hentry.names_ne_nil
  rw [← targetVal_of_place hplace, ← targetVal_of_place hplace, hentry.targetVal_eq, hentry.targetVal_eq,
    featureData_of, featureData_of, at?_toObject hne, at?_toObject hne, h.detectEngineId_eq]
  obtain ⟨t, ht⟩ : ∃ t, s₀.device.docs (targetPath (detectEngineId s₀.device) g.target) = some t := by
    have hacc := haccepts g.target
    rw [accepts, Bool.and_eq_true] at hacc
    exact Option.isSome_iff_exists.1 hacc.1
  have hplaces : ∀ a ∈ editAssignments wire (detectEngineId s₀.device) s₀.features tr,
      (a.path = targetPath (detectEngineId s₀.device) g.target → a.tokens = g.names ∨ Json.Apart a.tokens g.names) ∧
        a.Scalar := by
    intro a ha
    obtain ⟨e, he, f', hf', rfl⟩ := mem_editAssignments ha
    refine ⟨fun hpath => ?_, h.scalar e he⟩
    have hentry' := hentries.entry f' (List.mem_of_getElem? hf')
    exact hentry'.eq_or_apart hr hentry (targetPath_injective _ hpath)
  obtain ⟨j, hj, hat⟩ := Settings.at?_assigned_last hplaces ht
  rw [h.device, hj, ht, Option.bind_some, Option.bind_some, hat, lastAssigned_edits hentries hg]

/-! ## Steps -/

theorem Feature.edited_eq {f' : Feature} {change : Edit} {v : Json} (h : f.edited change = some (f', v)) :
    ∃ editor, f.editor.edited change = some editor ∧ onParameterChanged editor = some v ∧
      f' = { f with editor := editor } := by
  unfold Feature.edited at h
  split at h
  · rename_i editor heditor
    obtain ⟨v', hv, heq⟩ := Option.map_eq_some_iff.1 h
    cases heq
    exact ⟨editor, heditor, hv, rfl⟩
  · cases h

theorem editAssignments_snoc {features : List Feature} {i : Nat} (hi : features[i]? = some f) (engineId : String)
    (tr : List (Nat × Json)) (v : Json) : editAssignments wire engineId features (tr ++ [(i, v)]) =
      editAssignments wire engineId features tr ++ [⟨targetPath engineId f.target, f.names, wire.held v⟩] := by
  unfold editAssignments
  rw [List.filterMap_append, List.filterMap_cons, hi]
  rfl

include hentries haccepts in
theorem Synced.edit (h : Synced wire s₀ tr s) {i : Nat} {change : Edit} {f' : Feature} {v : Json}
    (hi : s.features[i]? = some f) (hedit : f.edited change = some (f', v))
    (htext : wire.read (wire.text v) = some (wire.held v)) : Synced wire s₀ (tr ++ [(i, v)]) ⟨s.features.set i f',
      setParameterValue true wire.read rejects f'.target f'.path (wire.text v) s.device⟩ := by
  obtain ⟨editor, heditor, hv, rfl⟩ := Feature.edited_eq hedit
  obtain ⟨g, hg, hplace⟩ := exists_of_places h.places hi
  obtain ⟨htarget, hnames⟩ := names_of_place hplace
  have hsound := (h.sound f (List.mem_of_getElem? hi)).edited heditor
  have hentry : r.Entry { f with editor := editor } := by
    have hg := hentries.entry g (List.mem_of_getElem? hg)
    obtain ⟨editor', target', path'⟩ := g
    obtain ⟨rfl, rfl⟩ := Prod.mk.inj hplace
    exact ⟨hg.leaf, hg.ok, hg.named, hg.lone, hg.path⟩
  have hlt : i < s.features.length := (List.getElem?_eq_some_iff.1 hi).1
  refine ⟨?_, ?_, ?_, ?_, ?_⟩
  · rw [← h.places, List.map_set]
    refine List.ext_getElem? fun k => ?_
    by_cases hk : i = k
    · subst hk
      rw [List.getElem?_set_self (by rwa [List.length_map]), List.getElem?_map, hi]
      rfl
    · rw [List.getElem?_set_ne hk]
  · intro f' hf'
    rcases List.mem_or_eq_of_mem_set hf' with hf' | rfl
    · exact h.sound f' hf'
    · exact hsound
  · intro e he
    rcases List.mem_append.1 he with he | he
    · exact h.scalar e he
    · rw [List.mem_singleton.1 he]
      rcases hsound.dispatched hv with ⟨b, rfl⟩ | ⟨q, rfl⟩ | ⟨s, rfl⟩ <;> exact ⟨rfl, rfl⟩
  · have hset := setParameterValue_eq hentry (h.accepting haccepts f.target) htext
    rw [hset, editAssignments_snoc hg, Settings.assigned_append, ← h.device, h.detectEngineId_eq, htarget, hnames]
    rfl
  · intro k f' v' hk hholds hlast
    rw [lastEdit_append] at hlast
    by_cases hik : i = k
    · subst hik
      rw [List.getElem?_set_self hlt] at hk
      obtain rfl := Option.some.inj hk
      have hself : lastEdit [(i, v)] i = some v := by simp [lastEdit]
      rw [hself, Option.some_or] at hlast
      exact hv.trans hlast
    · have hother : lastEdit [(i, v)] k = none := by simp [lastEdit, hik]
      rw [List.getElem?_set_ne hik] at hk
      rw [hother, Option.none_or] at hlast
      exact h.agree k f' v' hk hholds hlast

include hentries haccepts in
theorem Synced.refresh (hr : r.Sound outside) (h : Synced wire s₀ tr s) :
    Synced wire s₀ tr ⟨applyFeatureValues (featureData s.device) s.features, s.device⟩ := by
  have hplace : ∀ f : Feature, (f.refreshed (featureData s.device)).place = f.place := by
    intro f
    unfold Feature.refreshed
    split <;> rfl
  have hsound : ∀ f : Feature, f.editor.Sound → (f.refreshed (featureData s.device)).editor.Sound := by
    intro f hf
    unfold Feature.refreshed
    split
    · exact hf
    · exact hf
    · exact hf.refreshed _
  refine ⟨?_, ?_, h.scalar, h.device, ?_⟩
  · rw [← h.places, applyFeatureValues, List.map_map]
    exact List.map_congr_left fun f _ => hplace f
  · intro f' hf'
    obtain ⟨f, hf, rfl⟩ := List.mem_map.1 hf'
    exact hsound f (h.sound f hf)
  · intro i f' v hi hholds hlast
    obtain ⟨f, hf, rfl⟩ : ∃ f, s.features[i]? = some f ∧ f.refreshed (featureData s.device) = f' := by
      rw [applyFeatureValues, List.getElem?_map] at hi
      exact Option.map_eq_some_iff.1 hi
    have hholds' : f.editor.Holds wire.double := by
      unfold Feature.refreshed at hholds
      split at hholds
      · exact hholds
      · exact hholds
      · rwa [holds_refreshed] at hholds
    have hv := h.agree i f v hf hholds' hlast
    have hfound : f.targetVal (featureData s.device) = some (wire.held v) := by
      rw [h.targetVal_eq hentries haccepts hr hf, hlast, Option.map_some, Option.some_or]
    have hkept := (h.sound f (List.mem_of_getElem? hf)).dispatched_refreshed hholds' hv
    unfold Feature.refreshed
    rw [hfound]
    split
    · exact hv
    · exact hv
    · rename_i v' hv'
      obtain rfl := Option.some.inj hv'
      exact hkept

include hentries haccepts in
theorem Synced.step (hr : r.Sound outside)
    (h : Synced wire s₀ tr s) {a : LiveAction} {s' : Live} {evs : List (Nat × Json)}
    (hstep : Live.step wire rejects s a = some (s', evs))
    (htexts : ∀ e ∈ evs, wire.read (wire.text e.2) = some (wire.held e.2)) : Synced wire s₀ (tr ++ evs) s' := by
  cases a with
  | edit i change =>
    obtain ⟨f, f', v, hi, hedit, rfl, rfl⟩ := Live.step_edit hstep
    have htext := htexts (i, v) (List.mem_singleton_self _)
    exact h.edit hentries haccepts hi hedit htext
  | updateFeatureValues =>
    obtain ⟨rfl, rfl⟩ := Prod.mk.inj (Option.some.inj hstep)
    rw [List.append_nil]
    exact h.refresh hentries haccepts hr

end

theorem synced_of_run (hr : r.Sound outside)
    (haccepts : ∀ target, accepts rejects s₀.device (targetPath (detectEngineId s₀.device) target) = true)
    (hentries : r.Entries s₀.features) (hrun : Run (Live.step wire rejects) anyStep s₀ tr s) :
    (∀ e ∈ tr, wire.read (wire.text e.2) = some (wire.held e.2)) → Synced wire s₀ tr s := by
  have hsteps : ∀ tr s a s' evs, ((∀ e ∈ tr, wire.read (wire.text e.2) = some (wire.held e.2)) → Synced wire s₀ tr s) →
      anyStep s a → Live.step wire rejects s a = some (s', evs) →
      (∀ e ∈ tr ++ evs, wire.read (wire.text e.2) = some (wire.held e.2)) → Synced wire s₀ (tr ++ evs) s' := by
    intro tr s a s' evs ih _ hstep htexts
    have h := ih fun e he => htexts e (List.mem_append_left _ he)
    exact h.step hentries haccepts hr hstep fun e he => htexts e (List.mem_append_right _ he)
  exact hrun.invariant (fun _ => Synced.start hentries) hsteps

/-- In every state that edits and refreshes can reach, the document of every entry that was edited has the value that
the entry dispatched last, as a double holds it, and the entry shows the value if its editor finds it again from there;
the document has of every other entry what it had at the start; and so has every document of everything that is apart
from the entries that were edited. -/
theorem edits_in_step (hr : r.Sound outside)
    (haccepts : ∀ target, accepts rejects s₀.device (targetPath (detectEngineId s₀.device) target) = true)
    (hfeatures : s₀.features.Perm (populateFeatures outside pending r))
    (hrun : Run (Live.step wire rejects) anyStep s₀ tr s)
    (htexts : ∀ e ∈ tr, wire.read (wire.text e.2) = some (wire.held e.2)) :
    (∀ i f, s.features[i]? = some f →
      f.targetVal (featureData s.device) =
          ((lastEdit tr i).map wire.held).or (f.targetVal (featureData s₀.device)) ∧
        (f.editor.Holds wire.double → ∀ v, lastEdit tr i = some v → onParameterChanged f.editor = some v)) ∧
    ∀ path t, s₀.device.docs path = some t → ∃ j, s.device.docs path = some j ∧
      ∀ tokens : List String, (∀ e ∈ tr, ∀ f, s.features[e.1]? = some f →
        targetPath (detectEngineId s₀.device) f.target = path → Json.Apart f.names tokens) →
        Json.at? tokens j = Json.at? tokens t := by
  have hentries := entries_populateFeatures hr hfeatures
  have hsynced := synced_of_run hr haccepts hentries hrun htexts
  refine ⟨fun i f hi =>
      ⟨hsynced.targetVal_eq hentries haccepts hr hi, fun hholds v => hsynced.agree i f v hi hholds⟩,
    fun path t ht => ?_⟩
  rw [hsynced.device]
  obtain ⟨j, hj, hkept⟩ := Settings.at?_assigned_of_apart
    (editAssignments wire (detectEngineId s₀.device) s₀.features tr) ht
  refine ⟨j, hj, fun tokens hapart => hkept tokens fun a ha hpath => ?_⟩
  obtain ⟨e, he, f, hf, rfl⟩ := mem_editAssignments ha
  obtain ⟨g, hg, hplace⟩ := exists_of_places hsynced.places.symm hf
  obtain ⟨htarget, hnames⟩ := names_of_place hplace
  rw [← hnames]
  exact hapart e he g hg (by rw [htarget]; exact hpath)

/-! ## A check box -/

/-- A check box that is checked, and a sensor without parameters. -/
def laserResources : Resources := (flagData "laserOn").resources (flagSchema "laserOn") (.obj [])

def laserTree : Live := ⟨populateFeatures (fun _ => 0) [] laserResources, blankDevice⟩

theorem sound_laserResources : laserResources.Sound (fun _ => 0) := by
  have hname : "laserOn" ≠ "parameters" := by decide
  refine ⟨?_, ?_, ?_⟩
  · intro target
    cases target with
    | scanner => exact wf_flagSchema "laserOn"
    | sensor => exact wf_empty
  · intro target names s hat _
    cases target with
    | scanner =>
      rw [eq_of_leafAt_flag hname hat]
      refine ⟨?_, ?_⟩
      · intro n hn
        rw [List.mem_singleton.1 hn]
        decide
      · rintro n ⟨⟩ hbegins
        exact absurd hbegins (by decide)
    | sensor => exact absurd hat not_leafAt_empty
  · intro target names s hat _
    cases target with
    | scanner =>
      rw [eq_of_leafAt_flag hname hat]
      intro n hn
      rw [List.mem_singleton.1 hn]
      decide
    | sensor => exact absurd hat not_leafAt_empty

/-- The check box is unchecked, and a refresh follows. -/
theorem run_laser (wire : Wire) : ∃ i s f,
    Run (Live.step wire (fun _ => false)) anyStep laserTree [(i, .bool false)] s ∧ s.features[i]? = some f := by
  have hmem : (⟨.checkBox true, .scanner, pathOf ["laserOn"]⟩ : Feature) ∈ laserTree.features :=
    List.mem_filterMap.2 ⟨_, mem_leaves_flag (by decide), rfl⟩
  obtain ⟨i, hlt, hi⟩ := List.getElem_of_mem hmem
  obtain ⟨D, hD⟩ : ∃ D, setParameterValue true wire.read (fun _ => false) .scanner
      (pathOf ["laserOn"]) (wire.text (.bool false)) laserTree.device = D := ⟨_, rfl⟩
  have hedit : Live.step wire (fun _ => false) laserTree (.edit i (.setChecked false)) =
      some (⟨laserTree.features.set i ⟨.checkBox false, .scanner, pathOf ["laserOn"]⟩, D⟩, [(i, .bool false)]) := by
    rw [← hD]
    unfold Live.step
    dsimp only
    rw [List.getElem?_eq_getElem hlt, hi]
    rfl
  have hfirst : Run (Live.step wire (fun _ => false)) anyStep laserTree _ _ := .snoc .start trivial hedit
  obtain ⟨f, hf⟩ : ∃ f, (applyFeatureValues (featureData D)
      (laserTree.features.set i ⟨.checkBox false, .scanner, pathOf ["laserOn"]⟩))[i]? = some f := by
    rw [applyFeatureValues, List.getElem?_map, List.getElem?_set_self hlt]
    exact ⟨_, rfl⟩
  exact ⟨i, _, f, hfirst.snoc (a := LiveAction.updateFeatureValues) trivial rfl, hf⟩

theorem texts_laser (i : Nat) :
    ∀ e ∈ [(i, Json.bool false)], Wire.doubles.read (Wire.doubles.text e.2) = some (Wire.doubles.held e.2) := by
  intro e he
  rw [List.mem_singleton.1 he]
  have hparse : parse (Wire.doubles.text (.bool false)) = some (.bool false) := parse_of_writes (writes_boolText false)
  exact JsonText.parseDoubles_of_parse hparse

theorem edits_in_step_laser : ∃ tr s f, Run (Live.step Wire.doubles (fun _ => false)) anyStep laserTree tr s ∧
    f ∈ s.features ∧ f.targetVal (featureData s.device) = some (.bool false) := by
  obtain ⟨i, s, f, hrun, hf⟩ := run_laser Wire.doubles
  obtain ⟨hval, -⟩ :=
    (edits_in_step sound_laserResources (fun _ => rfl) (List.Perm.refl _) hrun (texts_laser i)).1 i f hf
  have hlast : lastEdit [(i, Json.bool false)] i = some (.bool false) := by simp [lastEdit]
  rw [hlast, Option.map_some, Option.some_or] at hval
  exact ⟨_, s, f, hrun, List.mem_of_getElem? hf, hval⟩

end Gocator.Features

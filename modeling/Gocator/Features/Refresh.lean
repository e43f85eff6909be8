/-
`applyFeatureValues`: the value to which the stored path of an editor leads in the resource of its target,
and what the editor makes of it.
-/
import Gocator.Lib.JsonPointer
import Gocator.Features.Tree

namespace Gocator.Features

/-! ## The value of a path -/

/-- The value to which segments lead from an object. What is no object on the way has no members. -/
def follow : List String → Json → Option Json
  | [], _ => none
  | [segment], currentObj => currentObj.get? segment
  | segment :: segments, currentObj => follow segments (toObject (currentObj.get? segment))

/-- `QString::split` at the slashes. -/
def splitSlash (text : List Char) : List String := (JsonPointer.segments text).map String.ofList

/-- The text behind a slash in front. -/
def withoutSlash : List Char → List Char
  | '/' :: cs => cs
  | cs => cs

/-- The value that is looked up in a resource for a stored path. -/
def targetVal (resourceData : Json) (path : String) : Option Json :=
  if "/parameters".toList <+: path.toList then
    follow (splitSlash (withoutSlash (path.toList.drop 11))) (toObject (resourceData.get? "parameters"))
  else follow (splitSlash (withoutSlash path.toList)) resourceData

/-! ## The editors -/

def sameData : Json → Json → Bool
  | .num q, .num q' => q = q'
  | .str s, .str s' => s = s'
  | _, _ => false

/-- `QComboBox::findData`. -/
def findData (items : List Json) (data : Json) : Option Nat := items.findIdx? (sameData data)

/-- The editor after it is set to a value; a combo box without an item for it stays as it is. -/
def Editor.refreshed (value : Json) : Editor → Editor
  | .checkBox _ => .checkBox (toBool (some value))
  | .spinBox minimum maximum _ =>
    .spinBox minimum maximum (Decimal.clampTo minimum maximum (toInt (some value) 0))
  | .doubleSpinBox decimals minimum maximum singleStep _ =>
    .doubleSpinBox decimals minimum maximum singleStep
      (Decimal.clampTo minimum maximum (Decimal.round decimals (toDouble (some value) 0)))
  | .comboBox items currentIndex => .comboBox items ((findData items (numberItem value)).or currentIndex)

/-- The data of the two resources that a refresh reads. -/
structure FeatureData where
  scannerData : Json
  sensorData : Json

def FeatureData.of (data : FeatureData) : ParameterTarget → Json
  | .scanner => data.scannerData
  | .sensor => data.sensorData

/-- The value that a refresh finds for an entry. -/
def Feature.targetVal (data : FeatureData) (f : Feature) : Option Json := Features.targetVal (data.of f.target) f.path

/-- An entry for which nothing is found, or null, is left alone. -/
def Feature.refreshed (data : FeatureData) (f : Feature) : Feature :=
  match f.targetVal data with
  | none => f
  | some .null => f
  | some value => { f with editor := f.editor.refreshed value }

/-- Every editor is set to the value at its path, if the documents have one. -/
def applyFeatureValues (data : FeatureData) (features : List Feature) : List Feature :=
  features.map (Feature.refreshed data)

/-- The entry after the refreshes, one after the other. -/
def Feature.afterRefreshes (f : Feature) (refreshes : List FeatureData) : Feature :=
  refreshes.foldl (fun f data => f.refreshed data) f

/-- Every entry is refreshed on its own. -/
theorem foldl_applyFeatureValues (refreshes : List FeatureData) : ∀ features : List Feature,
    refreshes.foldl (fun features data => applyFeatureValues data features) features =
      features.map (·.afterRefreshes refreshes) := by
  induction refreshes with
  | nil => exact fun features => (List.map_id features).symm
  | cons data refreshes ih =>
    intro features
    rw [List.foldl_cons, ih, applyFeatureValues, List.map_map]
    rfl

theorem targetVal_refreshed (data data' : FeatureData) (f : Feature) :
    (f.refreshed data).targetVal data' = f.targetVal data' := by
  unfold Feature.refreshed
  split <;> rfl

/-- A number that is found is what the editor is set to. -/
theorem refreshed_num {data : FeatureData} {f : Feature} {q : Rat} (h : f.targetVal data = some (.num q)) :
    f.refreshed data = { f with editor := f.editor.refreshed (.num q) } := by
  unfold Feature.refreshed
  rw [h]

end Gocator.Features

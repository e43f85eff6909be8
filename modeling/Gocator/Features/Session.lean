/-
The life of the feature tree: programmatic setters, rebuilds, clears on disconnect and the edits of the user
that `onParameterChanged` dispatches, with the writes of the five scan parameters so far.
-/
import Gocator.Lib.Run
import Gocator.Features.Shown

namespace Gocator.Features

open Gocator.Facade (ScanMode)

/-! ## Edits -/

/-- What the user does to an editor. -/
inductive Edit where
  | setChecked (checked : Bool)
  | setValue (value : Int)
  | setDoubleValue (value : Rat)
  | setCurrentIndex (index : Nat)

/-- The editor after an edit, of the values that it takes. -/
def Editor.edited : Editor → Edit → Option Editor
  | .checkBox _, .setChecked checked => some (.checkBox checked)
  | .spinBox minimum maximum _, .setValue value =>
    if minimum ≤ value ∧ value ≤ maximum then some (.spinBox minimum maximum value) else none
  | .doubleSpinBox decimals minimum maximum singleStep _, .setDoubleValue value =>
    if minimum ≤ value ∧ value ≤ maximum ∧ Decimal.round decimals value = value then
      some (.doubleSpinBox decimals minimum maximum singleStep value)
    else none
  | .comboBox items _, .setCurrentIndex index =>
    if index < items.length then some (.comboBox items (some index)) else none
  | _, _ => none

/-- The edits that an editor takes, each with the editor after it. -/
inductive Editor.Changes : Editor → Edit → Editor → Prop where
  | checkBox (old checked : Bool) : Changes (.checkBox old) (.setChecked checked) (.checkBox checked)
  | spinBox {minimum maximum value : Int} (old : Int) (hvalue : minimum ≤ value ∧ value ≤ maximum) :
    Changes (.spinBox minimum maximum old) (.setValue value) (.spinBox minimum maximum value)
  | doubleSpinBox {decimals : Nat} {minimum maximum value : Rat} (singleStep old : Rat)
    (hvalue : minimum ≤ value ∧ value ≤ maximum) (hround : Decimal.round decimals value = value) :
    Changes (.doubleSpinBox decimals minimum maximum singleStep old) (.setDoubleValue value)
      (.doubleSpinBox decimals minimum maximum singleStep value)
  | comboBox {items : List Json} {index : Nat} (old : Option Nat) (hindex : index < items.length) :
    Changes (.comboBox items old) (.setCurrentIndex index) (.comboBox items (some index))

theorem Editor.changes_of_edited {e e' : Editor} {change : Edit} (h : e.edited change = some e') :
    e.Changes change e' := by
  unfold Editor.edited at h
  split at h
  · cases h
    exact .checkBox _ _
  · split at h
    · rename_i hvalue
      cases h
      exact .spinBox _ hvalue
    · cases h
  · split at h
    · rename_i hvalue
      cases h
      exact .doubleSpinBox _ _ ⟨hvalue.1, hvalue.2.1⟩ hvalue.2.2
    · cases h
  · split at h
    · rename_i hindex
      cases h
      exact .comboBox _ hindex
    · cases h
  · cases h

/-- The value that `onParameterChanged` dispatches, unless it is null. -/
def onParameterChanged (e : Editor) : Option Json :=
  -- a combo box without items has no data
  let jsonVal := match e with
    | .checkBox checked => .bool checked
    | .spinBox _ _ value => .num value
    | .doubleSpinBox _ _ _ _ value => .num value
    | .comboBox items currentIndex => (currentIndex.bind fun i => items[i]?).getD .null
  if jsonVal.isNull then none else some jsonVal

/-! ## Setters -/

/-- A call of a programmatic setter. -/
inductive Setting where
  | setScanLengthMm (length : Rat)
  | setScanMode (mode : ScanMode)
  | setExposureUs (exposure : Int32)
  | setIntensityEnabled (enable : Bool)
  | setUniformSpacingEnabled (enable : Bool)

namespace Setting

def parameter : Setting → Parameter
  | .setScanLengthMm _ => .scanLengthMm
  | .setScanMode _ => .scanMode
  | .setExposureUs _ => .exposureUs
  | .setIntensityEnabled _ => .intensityEnabled
  | .setUniformSpacingEnabled _ => .uniformSpacingEnabled

/-- The value that becomes pending. -/
def value : Setting → Json
  | .setScanLengthMm length => .num length
  | .setScanMode mode => .num (if mode = .surfaceMode then 3 else 2)
  | .setExposureUs exposure => .num exposure.toInt
  | .setIntensityEnabled enable => .bool enable
  | .setUniformSpacingEnabled enable => .bool enable

/-- The accessor gives back what the setter was given. -/
theorem fromPending_value (x : Setting) : x.parameter.fromPending x.value = x.value := by
  cases x with
  | setScanLengthMm length => rfl
  | setScanMode mode => cases mode <;> rfl
  | setExposureUs exposure =>
    have hlt := exposure.toInt_lt
    have hle := exposure.le_toInt
    have htoInt : toInt (some (.num exposure.toInt)) 0 = exposure.toInt := by
      simp only [toInt, Rat.den_intCast, Rat.num_intCast, intMin, intMax, true_and]
      exact if_pos (by omega)
    exact congrArg (fun n : Int => Json.num n) htoInt
  | setIntensityEnabled enable => rfl
  | setUniformSpacingEnabled enable => rfl

end Setting

/-! ## Steps -/

/-- The order of the addresses of the editors that a rebuild makes, which may be any. -/
structure AddressOrder where
  arrange : List Feature → List Feature
  perm : ∀ features, (arrange features).Perm features

/-- The answers of the device to a rebuild and the addresses of its editors. -/
structure Device where
  resources : Resources
  order : AddressOrder

/-- `populateFeatures`, which does nothing unless the device is opened. -/
def FeatureWidget.populate (outside : Rat → Int32) (w : FeatureWidget) : Option Device → FeatureWidget
  | some device =>
    { w with features := device.order.arrange (populateFeatures outside w.pendingParams device.resources) }
  | none => w

/-- The tree and the writes of the parameters so far, the latest one first. -/
structure Session where
  widget : FeatureWidget
  written : List (Parameter × Json)

def Session.start : Session := ⟨⟨[], []⟩, []⟩

/-- The value of the latest write of a parameter. -/
def Session.last (s : Session) (p : Parameter) : Option Json := s.written.lookup p

/-- The next move: a setter, a rebuild of the tree, its removal, or an edit by the user. -/
inductive Action where
  | set (setting : Setting) (opened : Option Device)
  | populateFeatures (opened : Option Device)
  | clearFeatures
  | edit (i : Nat) (change : Edit)

/-- The parameter that an entry is about, if its editor is of the kind that the accessor expects. -/
def Feature.parameter (f : Feature) : Option Parameter :=
  [.scanLengthMm, .scanMode, .exposureUs, .intensityEnabled, .uniformSpacingEnabled].find? fun p => (p.shown f).isSome

/-- The entry after an edit, and the value that is dispatched. -/
def Feature.edited (f : Feature) (change : Edit) : Option (Feature × Json) :=
  match f.editor.edited change with
  | some editor => (onParameterChanged editor).map fun v => ({ f with editor := editor }, v)
  | none => none

def Session.edited (s : Session) (i : Nat) (f : Feature) (v : Json) : Session where
  widget := { s.widget with features := s.widget.features.set i f }
  written := (f.parameter.map fun p => (p, v)).toList ++ s.written

/-- A setter, a rebuild of the tree or an edit, run to its end. -/
def step (outside : Rat → Int32) (s : Session) : Action → Option (Session × List Unit)
  | .set setting opened =>
    -- the rebuild finds the new value pending
    let w := { s.widget with
      pendingParams := SortedMap.set setting.parameter.path setting.value s.widget.pendingParams }
    some (⟨w.populate outside opened, (setting.parameter, setting.value) :: s.written⟩, [])
  | .populateFeatures opened => some ({ s with widget := s.widget.populate outside opened }, [])
  -- what is pending stays
  | .clearFeatures => some ({ s with widget := { s.widget with features := [] } }, [])
  | .edit i change =>
    match s.widget.features[i]?.bind fun f => f.edited change with
    | some (f, v) => some (s.edited i f v, [])
    | none => none

end Gocator.Features

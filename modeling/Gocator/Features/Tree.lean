/-
The feature tree of the control widget: the editors that `populateFeatures` builds from the schemas and the
data of the scanner and the sensor resource, and the accessors from which the grab buttons take the
arguments of `configure`. Numbers of type `double` are exact.
-/
import Mathlib.Data.List.DropRight
import Gocator.Lib.Json
import Gocator.Lib.Decimal
import Gocator.Lib.Digits
import Gocator.Facade.Configure

namespace Gocator.Features

open Gocator.Facade (ScanMode)

/-! ## Values -/

def intMin : Int := -2147483648

def intMax : Int := 2147483647

/-- `QJsonValue::toBool`; a value that is undefined is `none`. -/
def toBool : Option Json → Bool
  | some (.bool b) => b
  | _ => false

/-- `QJsonValue::toDouble`. -/
def toDouble (v : Option Json) (defaultValue : Rat) : Rat :=
  match v with
  | some (.num q) => q
  | _ => defaultValue

/-- `QJsonValue::toInt`. -/
def toInt (v : Option Json) (defaultValue : Int) : Int :=
  match v with
  | some (.num q) => if q.den = 1 ∧ intMin ≤ q.num ∧ q.num ≤ intMax then q.num else defaultValue
  | _ => defaultValue

/-- `QJsonValue::toString`. -/
def toText : Option Json → String
  | some (.str s) => s
  | _ => ""

/-- `QJsonValue::toObject`. -/
def toObject : Option Json → Json
  | some (.obj members) => .obj members
  | _ => .obj []

/-- `QJsonValue::toArray`. -/
def toArray : Option Json → List Json
  | some (.arr items) => items
  | _ => []

/-- `static_cast<int>` of a `double`: its integer part, and anything at all of a number out of range. -/
def castInt (outside : Rat → Int32) (x : Rat) : Int :=
  -- towards zero
  let part := if 0 ≤ x then x.floor else x.ceil
  if intMin ≤ part ∧ part ≤ intMax then part else (outside x).toInt

/-- The digits of `QString::toLongLong`: none of them, or one that is no digit, makes it 0. -/
def digitsToInt (digits : List Char) : Int :=
  if digits ≠ [] ∧ digits.all Char.isDigit then Digits.value digits else 0

def textToLongLong (text : String) : Int :=
  let n := match (text.toList.dropWhile Char.isWhitespace).rdropWhile Char.isWhitespace with
    | '-' :: digits => -digitsToInt digits
    | '+' :: digits => digitsToInt digits
    | digits => digitsToInt digits
  if -2 ^ 63 ≤ n ∧ n < 2 ^ 63 then n else 0

/-- `QVariant::toInt` of the data of a combo box, which holds a `double` or a text: the overflow of a
`qlonglong` too large for an `int` shows nowhere. -/
def variantToInt : Option Json → Int
  | some (.num q) => (Decimal.round 0 q).floor.bmod (2 ^ 32)
  | some (.str s) => (textToLongLong s).bmod (2 ^ 32)
  | _ => 0

/-! ## Precision -/

def decimalPlaces (value : Rat) : Nat := Decimal.needed 12 value

def schemaDecimalPlaces (propSchema : Json) (currentValue : Rat) : Nat :=
  let decimals : Int := ["minimum", "maximum", "multipleOf", "step", "increment"].foldl
    (fun decimals key =>
      if propSchema.hasKey key then max decimals (decimalPlaces (toDouble (propSchema.get? key) 0)) else decimals)
    (decimalPlaces currentValue : Int)
  let decimals := ["decimals", "decimalPlaces", "precision"].foldl
    (fun decimals key =>
      if propSchema.hasKey key then max decimals (toInt (propSchema.get? key) 0) else decimals)
    decimals
  (max 0 (min 12 decimals)).toNat

def schemaStep (propSchema : Json) (decimals : Nat) : Rat :=
  match ["multipleOf", "step", "increment"].find? fun key => 0 < toDouble (propSchema.get? key) 0 with
  | some key => toDouble (propSchema.get? key) 0
  | none => if decimals > 0 then 1 / 10 ^ decimals else 1

/-! ## Editors -/

/-- The widget that shows a value. A combo box holds the data of its items. -/
inductive Editor where
  | checkBox (checked : Bool)
  | spinBox (minimum maximum value : Int)
  | doubleSpinBox (decimals : Nat) (minimum maximum singleStep value : Rat)
  | comboBox (items : List Json) (currentIndex : Option Nat)

/-- A spin box with a range, set to a value. -/
def spinBox (minVal maxVal value : Int) : Editor :=
  .spinBox minVal (max minVal maxVal) (Decimal.clampTo minVal maxVal value)

/-- The ends of its range are rounded like its value. -/
def doubleSpinBox (decimals : Nat) (minVal maxVal singleStep value : Rat) : Editor :=
  let lo := Decimal.round decimals minVal
  let hi := Decimal.round decimals maxVal
  .doubleSpinBox decimals lo (max lo hi) singleStep (Decimal.clampTo lo hi (Decimal.round decimals value))

/-- A combo box with the entries of an enumeration; of those that match the value, the last is current. -/
def comboBox (item : Json → Json) (isCurrent : Json → Bool) (enumVals : List Json) : Editor :=
  .comboBox (enumVals.map item)
    (if enumVals = [] then none
     else some (enumVals.zipIdx.foldl (fun activeIndex entry => if isCurrent entry.1 then entry.2 else activeIndex) 0))

/-- The item of an entry of a number's enumeration. -/
def numberItem : Json → Json
  | .num q => .num q
  | v => .str (toText (some v))

def isCurrentNumber (curVal : Option Json) : Json → Bool
  | .num q => toDouble curVal 0 = q
  | v => toText curVal = toText (some v)

def textItem (v : Json) : Json := .str (toText (some v))

def isCurrentText (curVal : Option Json) (v : Json) : Bool := toText curVal = toText (some v)

/-- The lower end of a numeric editor's range. -/
def minVal (propSchema : Json) : Rat := toDouble (propSchema.get? "minimum") 0

def maxVal (propSchema : Json) : Rat := toDouble (propSchema.get? "maximum") 100000

/-- The editor of a property that is no object, if there is one for its type. -/
def buildEditor (outside : Rat → Int32) (propSchema : Json) (curVal : Option Json) : Option Editor :=
  let propType := toText (propSchema.get? "type")
  if propType = "boolean" then some (.checkBox (toBool curVal))
  else if propType = "integer" ∨ propType = "number" then
    if propSchema.hasKey "enum" then
      some (comboBox numberItem (isCurrentNumber curVal) (toArray (propSchema.get? "enum")))
    else if propType = "integer" then
      some (spinBox (castInt outside (minVal propSchema)) (castInt outside (maxVal propSchema)) (toInt curVal 0))
    else
      let currentValue := toDouble curVal 0
      let decimals := schemaDecimalPlaces propSchema currentValue
      some (doubleSpinBox decimals (minVal propSchema) (maxVal propSchema) (schemaStep propSchema decimals)
        currentValue)
  else if propType = "string" ∧ propSchema.hasKey "enum" then
    some (comboBox textItem (isCurrentText curVal) (toArray (propSchema.get? "enum")))
  -- free texts and arrays have no editor
  else none

/-! ## The tree -/

/-- The resource that a property belongs to. -/
inductive ParameterTarget where
  | scanner
  | sensor
  deriving DecidableEq, Repr

/-- A property that is no object, with the value of the member of its name. -/
structure Leaf where
  target : ParameterTarget
  path : String
  propSchema : Json
  value : Option Json

theorem sizeOf_toObject (v : Json) : sizeOf (toObject (some v)) ≤ sizeOf v + 1 := by
  cases v <;> simp [toObject]

theorem sizeOf_subProperty {propSchema s : Json} {k name : String}
    (h : (k, s) ∈ (toObject (propSchema.get? name)).members) : sizeOf (toObject (some s)) < sizeOf propSchema := by
  cases hv : propSchema.get? name with
  | none => rw [hv] at h; cases h
  | some v =>
    rw [hv] at h
    cases v with
    | obj members =>
      have hmember := List.sizeOf_lt_of_mem h
      have hobj := Json.sizeOf_get? hv
      have hs := sizeOf_toObject s
      simp only [toObject, Json.members_obj, Prod.mk.sizeOf_spec, Json.obj.sizeOf_spec] at hmember hobj
      omega
    | _ => cases h

/-- The leaves under a property, in the order in which `addFeatureNode` reaches them. -/
def addFeatureNode (target : ParameterTarget) (basePath name : String) (propSchema valuesObj : Json) : List Leaf :=
  let path := basePath ++ "/" ++ name
  if toText (propSchema.get? "type") = "object" then
    (toObject (propSchema.get? "properties")).members.attach.flatMap fun e =>
      addFeatureNode target path e.1.1 (toObject (some e.1.2)) (toObject (valuesObj.get? name))
  else [⟨target, path, propSchema, valuesObj.get? name⟩]
  termination_by sizeOf propSchema
  decreasing_by exact sizeOf_subProperty e.2

section

variable {target : ParameterTarget} {basePath name : String} {propSchema valuesObj : Json}

theorem addFeatureNode_leaf (h : toText (propSchema.get? "type") ≠ "object") :
    addFeatureNode target basePath name propSchema valuesObj =
      [⟨target, basePath ++ "/" ++ name, propSchema, valuesObj.get? name⟩] := by
  rw [addFeatureNode]
  exact if_neg h

theorem addFeatureNode_object (h : toText (propSchema.get? "type") = "object") :
    addFeatureNode target basePath name propSchema valuesObj =
      (toObject (propSchema.get? "properties")).members.flatMap fun e =>
        addFeatureNode target (basePath ++ "/" ++ name) e.1 (toObject (some e.2)) (toObject (valuesObj.get? name)) := by
  rw [addFeatureNode, if_pos h]
  conv_rhs => rw [← List.attach_map_subtype_val (toObject (propSchema.get? "properties")).members, List.flatMap_map]

end

/-- The leaves of one resource, with or without a `parameters` envelope. -/
def addResourceCategory (target : ParameterTarget) (resourceSchema resourceData : Json) : List Leaf :=
  let resourceProperties := toObject (resourceSchema.get? "properties")
  let parameterSchema := toObject (resourceProperties.get? "parameters")
  if parameterSchema.members ≠ [] then
    (toObject (parameterSchema.get? "properties")).members.flatMap (fun e =>
      addFeatureNode target "/parameters" e.1 (toObject (some e.2)) (toObject (resourceData.get? "parameters"))) ++
    -- motion and alignment may lie beside the envelope
    (resourceProperties.members.filter fun e => e.1 ≠ "parameters").flatMap fun e =>
      addFeatureNode target "" e.1 (toObject (some e.2)) resourceData
  else
    -- firmware without the envelope
    resourceProperties.members.flatMap fun e => addFeatureNode target "" e.1 (toObject (some e.2)) resourceData

/-- What the device answers to the four reads. -/
structure Resources where
  scannerSchema : Json
  scannerData : Json
  sensorSchema : Json
  sensorData : Json

def Resources.leaves (r : Resources) : List Leaf :=
  addResourceCategory .scanner r.scannerSchema r.scannerData ++ addResourceCategory .sensor r.sensorSchema r.sensorData

/-- An entry of `_widgetToFeatureMap`. -/
structure Feature where
  editor : Editor
  target : ParameterTarget
  path : String

/-- A leaf shows the pending value of its path, if there is one. -/
def Leaf.feature (outside : Rat → Int32) (pending : List (String × Json)) (leaf : Leaf) : Option Feature :=
  let curVal := match SortedMap.get? leaf.path pending with
    | some v => some v
    | none => leaf.value
  (buildEditor outside leaf.propSchema curVal).map fun editor => ⟨editor, leaf.target, leaf.path⟩

/-- The entries that `populateFeatures` makes, in the order in which it makes them. -/
def populateFeatures (outside : Rat → Int32) (pending : List (String × Json)) (r : Resources) : List Feature :=
  r.leaves.filterMap (Leaf.feature outside pending)

/-! ## Accessors -/

/-- The entries of `_widgetToFeatureMap` in its order, which is that of the addresses of the editors, and the
values given by the programmatic setters. -/
structure FeatureWidget where
  pendingParams : List (String × Json)
  features : List Feature

/-- The value an accessor takes from the pending value, else from the first editor it can read, else its own. -/
def accessor {α : Type} (w : FeatureWidget) (path : String) (fromPending : Json → α) (read : Editor → Option α)
    (fallback : α) : α :=
  match SortedMap.get? path w.pendingParams with
  | some v => fromPending v
  | none => (w.features.findSome? fun f => if f.path = path then read f.editor else none).getD fallback

def doubleSpinValue : Editor → Option Rat
  | .doubleSpinBox _ _ _ _ value => some value
  | _ => none

def spinValue : Editor → Option Int
  | .spinBox _ _ value => some value
  | _ => none

def isChecked : Editor → Option Bool
  | .checkBox checked => some checked
  | _ => none

def scanLengthMm (w : FeatureWidget) : Rat :=
  accessor w "/parameters/scanModeSettings/scanLengthMm" (fun v => toDouble (some v) 0) doubleSpinValue 20

/-- Unlike the others, this one takes the last combo box. -/
def scanMode (w : FeatureWidget) : ScanMode :=
  let path := "/parameters/scanModeSettings/scanMode"
  let val : Int := match SortedMap.get? path w.pendingParams with
    | some v => toInt (some v) 0
    | none => w.features.foldl
      (fun val f =>
        if f.path = path then
          match f.editor with
          | .comboBox items currentIndex => variantToInt (currentIndex.bind fun i => items[i]?)
          | _ => val
        else val) 2
  if val = 3 then .surfaceMode else .profileMode

def exposureUs (w : FeatureWidget) : Int :=
  accessor w "/parameters/exposureSettings/singleExposure" (fun v => toInt (some v) 0) spinValue 1000

def intensityEnabled (w : FeatureWidget) : Bool :=
  accessor w "/parameters/scanModeSettings/intensityEnabled" (fun v => toBool (some v)) isChecked true

def uniformSpacingEnabled (w : FeatureWidget) : Bool :=
  accessor w "/parameters/scanModeSettings/uniformSpacingEnabled" (fun v => toBool (some v)) isChecked true

/-- The arguments that the grab buttons pass to `configure`. -/
structure GrabArguments where
  scanLengthMm : Rat
  scanMode : ScanMode
  intensityEnabled : Bool
  uniformSpacingEnabled : Bool
  exposureUs : Int

def grabArguments (w : FeatureWidget) : GrabArguments where
  scanLengthMm := scanLengthMm w
  scanMode := scanMode w
  intensityEnabled := intensityEnabled w
  uniformSpacingEnabled := uniformSpacingEnabled w
  exposureUs := exposureUs w

end Gocator.Features

/-
`GocatorSettingsManager` over a device that maps resource paths to JSON documents: a read looks a
document up, an update merges a patch into it, schemas are fixed. Functions that only read return
an error or a value; `applyConfig` runs in a monad that keeps the device when it throws, because an
exception does not undo the updates made before it.
-/
import Gocator.Settings.GoJson

namespace Gocator.Settings

/-! ## The device -/

/-- The resources of a device and their schemas. -/
structure Device where
  docs : String → Option Json
  schemas : String → Option Json

namespace Device

/-- Every document is well formed. -/
def WF (D : Device) : Prop := ∀ path j, D.docs path = some j → j.WF

/-- The device with another document at a path. -/
def put (D : Device) (path : String) (j : Json) : Device :=
  { D with docs := fun p => if p = path then some j else D.docs p }

@[simp] theorem put_docs_self (D : Device) (path : String) (j : Json) : (D.put path j).docs path = some j :=
  if_pos rfl

theorem put_docs_of_ne (D : Device) {path p : String} (j : Json) (h : p ≠ path) :
    (D.put path j).docs p = D.docs p :=
  if_neg h

@[simp] theorem put_schemas (D : Device) (path : String) (j : Json) : (D.put path j).schemas = D.schemas := rfl

/-- `read`. -/
def read (D : Device) (path : String) : Except Error Json :=
  match D.docs path with
  | some j => .ok j
  | none => .error (.response path)

/-- `schema`. -/
def schema (D : Device) (path : String) : Except Error Json :=
  match D.schemas path with
  | some j => .ok j
  | none => .error (.response path)

end Device

/-- The device after merging a payload into the resource at a path. -/
def merged (D : Device) (path : String) (t payload : Json) : Device := D.put path (Json.mergePatch t payload)

/-- `update`: the device merges the payload into the resource, unless it has no such resource or
rejects the update. -/
def update (rejects : String → Bool) (path : String) (payload : Json) : EStateM Error Device Unit := fun D =>
  match D.docs path with
  | none => .error (.response path) D
  | some t => if rejects path then .error (.response path) D else .ok () (merged D path t payload)

/-! ## The primary scanner -/

/-- `GocatorSettingsManager::ScannerInfo`. -/
structure ScannerInfo where
  engineId : String
  scannerId : String
  scannerPath : String
  sensorPath : String
  profileSourceId : String
  model : String
  serialNumber : String
  deriving DecidableEq, Repr

def profileSourceForEngine (engineId scannerId : String) : String :=
  if engineId = "LMIConfocalLineProfiler" then "scan:" ++ engineId ++ ":" ++ scannerId ++ ":topUniformProfileLayer0"
  else "scan:" ++ engineId ++ ":" ++ scannerId ++ ":topUniformProfile"

/-- The scanner of a sensor that reports this engine, model and serial number. -/
def ScannerInfo.ofSensor (engineId model serialNumber : String) : ScannerInfo :=
  let scannerId := "scanner-0"
  let scannerPath := "/scan/engines/" ++ engineId ++ "/scanners/" ++ scannerId
  { engineId := engineId
    scannerId := scannerId
    scannerPath := scannerPath
    sensorPath := scannerPath ++ "/sensors/sensor-0"
    profileSourceId := profileSourceForEngine engineId scannerId
    model := model
    serialNumber := serialNumber }

/-- The first visible sensor, with the paths of its scanner and its sensor. -/
def detectPrimaryScanner (D : Device) : Except Error ScannerInfo := do
  let sensorsRoot ← D.read "/scan/visibleSensors/"
  let sensors ← valueAt sensorsRoot "/sensors"
  if sensors.size = 0 then throw .noVisibleSensors
  let sensor ← valueAt sensors "/0"
  let engineId ← getString (← valueAt sensor "/engineId")
  let model ← getString (← valueAt sensor "/model")
  let serialNumber ← getString (← valueAt sensor "/serialNumber")
  return .ofSensor engineId model serialNumber

/-! ## Parameters and tools -/

def readParameters (D : Device) (path : String) : Except Error Json := do
  let resource ← D.read path
  if resource.hasKey "parameters" then valueAt resource "/parameters" else return .obj []

def updateParameters (rejects : String → Bool) (path : String) (parameters : Json) : EStateM Error Device Unit :=
  match setAt (.obj []) "/parameters" parameters with
  | .ok payload => update rejects path payload
  | .error e => throw e

/-- The ids of the embedded items, up to the first item that has none. -/
def itemIds (items : Json) : List Nat → List String
  | [] => []
  | i :: is =>
    match do getString (← valueAt items ("/" ++ toString i ++ "/id")) with
    | .ok id => id :: itemIds items is
    | .error _ => []

/-- `listTools`: what was listed before an exception is returned. -/
def listTools (D : Device) : List String :=
  let found : Except Error (List String) := do
    let data ← D.read "/tools"
    if data.hasKey "_embedded" then
      if (← valueAt data "/_embedded").hasKey "go:item" then
        let items ← valueAt data "/_embedded/go:item"
        return itemIds items (List.range items.size)
    return []
  match found with
  | .ok tools => tools
  | .error _ => []

def toolPath (toolId : String) : String := "/tools/" ++ toolId

def readToolParameters (D : Device) (toolId : String) : Except Error Json := readParameters D (toolPath toolId)

/-! ## Parameter sets -/

/-- `GocatorParameterSet`. -/
structure ParameterSet where
  data : Json

namespace ParameterSet

def empty : ParameterSet := ⟨.obj []⟩

def addParameter (s : ParameterSet) (path : String) (value : Json) : Except Error ParameterSet := do
  return ⟨← setAt s.data path value⟩

def getParameter (s : ParameterSet) (path : String) : Except Error Json := valueAt s.data path

def hasParameter (s : ParameterSet) (path : String) : Bool :=
  match s.getParameter path with
  | .ok _ => true
  | .error _ => false

end ParameterSet

/-! ## Snapshots -/

/-- The members of the scanner document that the schema names beside `parameters`. -/
def rootSettings (data : Json) : List (String × Json) → Json → Except Error Json
  | [], root => .ok root
  | (key, _) :: rest, root =>
    if key = "parameters" ∨ data.hasKey key = false then rootSettings data rest root
    else do
      let v ← valueAt data ("/" ++ key)
      let root ← setAt root ("/" ++ key) v
      rootSettings data rest root

def readScannerRootSettings (D : Device) (path : String) : Except Error Json := do
  let data ← D.read path
  let resourceSchema ← D.schema path
  if resourceSchema.hasKey "properties" then
    let properties ← valueAt resourceSchema "/properties"
    rootSettings data (← entries properties) (.obj [])
  else return .obj []

/-- The parameters of every tool, under the tool's id. -/
def toolSettings (D : Device) : List String → Json → Except Error Json
  | [], tools => .ok tools
  | id :: ids, tools => do
    let parameters ← readToolParameters D id
    let tools ← setAt tools id parameters
    toolSettings D ids tools

/-- The snapshot of a device; what a listing swallows is missing from it. -/
def readAllConfig (D : Device) : Except Error ParameterSet := do
  let scanner ← detectPrimaryScanner D
  let config ← ParameterSet.empty.addParameter "scanner" (← readParameters D scanner.scannerPath)
  let config ← config.addParameter "sensor" (← readParameters D scanner.sensorPath)
  let config ← config.addParameter "scannerRoot" (← readScannerRootSettings D scanner.scannerPath)
  config.addParameter "tools" (← toolSettings D (listTools D) (.obj []))

section

variable (rejects : String → Bool) (config : ParameterSet)

/-- A value computed without touching the device. -/
def compute {α : Type} : Except Error α → EStateM Error Device α
  | .ok a => pure a
  | .error e => throw e

def applyScanner (scanner : ScannerInfo) : EStateM Error Device Unit := do
  if config.hasParameter "scanner" then
    updateParameters rejects scanner.scannerPath (← compute (config.getParameter "scanner"))

def applyScannerRoot (scanner : ScannerInfo) : EStateM Error Device Unit := do
  if config.hasParameter "scannerRoot" then
    let scannerRoot ← compute (config.getParameter "scannerRoot")
    if scannerRoot.size > 0 then update rejects scanner.scannerPath scannerRoot

def applySensor (scanner : ScannerInfo) : EStateM Error Device Unit := do
  if config.hasParameter "sensor" then
    updateParameters rejects scanner.sensorPath (← compute (config.getParameter "sensor"))

/-- Update every tool; what one update throws is caught before the next. -/
def updateTools : List (String × Json) → EStateM Error Device Unit
  | [] => pure ()
  | (id, parameters) :: rest => do
    tryCatch (updateParameters rejects (toolPath id) parameters) fun _ => pure ()
    updateTools rest

def applyTools : EStateM Error Device Unit := do
  if config.hasParameter "tools" then
    match entries (← compute (config.getParameter "tools")) with
    | .ok tools => updateTools rejects tools
    | .error _ => pure ()

def applyConfig : EStateM Error Device Unit := do
  let scanner ← compute (detectPrimaryScanner (← get))
  applyScanner rejects config scanner
  applyScannerRoot rejects config scanner
  applySensor rejects config scanner
  applyTools rejects config

/-- `applyConfig` with the two scanner updates exchanged. -/
def applyConfigRootFirst : EStateM Error Device Unit := do
  let scanner ← compute (detectPrimaryScanner (← get))
  applyScannerRoot rejects config scanner
  applyScanner rejects config scanner
  applySensor rejects config scanner
  applyTools rejects config

end

end Gocator.Settings

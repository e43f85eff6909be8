/-
The requests with which `GocatorSettingsManager` prepares an output: the texts of the payloads as they
are streamed, and the source id of the output, which for surfaces is the profile source id with the
first occurrence of `Profile` replaced.
-/
import Gocator.Lib.Substring
import Gocator.Settings.Manager

namespace Gocator.Settings

/-! ## Requests -/

/-- A request to the device; the payload of the command that adds an output names the source. -/
inductive Request where
  | update (path payload : String)
  | call (path payload : String)
  | addOutput (sourceId payload : String)
  deriving DecidableEq, Repr

def gocatorControlPath : String := "/controls/gocator"
def addOutputPath : String := "/controls/gocator/outputs/commands/add"
def removeAllOutputPath : String := "/controls/gocator/outputs/commands/removeAll"

def Request.path : Request → String
  | .update path _ => path
  | .call path _ => path
  | .addOutput _ _ => addOutputPath

/-- The sources for which an output is added. -/
def addedSources (requests : List Request) : List String :=
  requests.filterMap fun
    | .addOutput sourceId _ => some sourceId
    | _ => none

/-! ## Payloads -/

def jsonChar : Char → List Char
  | '\\' => ['\\', '\\']
  | '\x22' => ['\\', '\x22']
  | '\n' => ['\\', 'n']
  | '\r' => ['\\', 'r']
  | '\t' => ['\\', 't']
  | ch => [ch]

def jsonString (value : String) : String := String.ofList ('\x22' :: value.toList.flatMap jsonChar ++ ['\x22'])

def boolText (b : Bool) : String := if b then "true" else "false"

/-- `GocatorSettingsManager::ProfileModeOptions`. -/
structure ProfileModeOptions where
  scanMode : Int := 2
  intensityEnabled : Bool := true
  uniformSpacingEnabled : Bool := true

/-- `{"parameters":{"scanModeSettings":…}}` for a scan mode and the two switches. -/
def scanModePayload (scanMode : Int) (intensityEnabled uniformSpacingEnabled : Bool) : String :=
  "\x7b\"parameters\":\x7b\"scanModeSettings\":\x7b\"scanMode\":" ++ toString scanMode ++ ",\"intensityEnabled\":" ++
    boolText intensityEnabled ++ ",\"uniformSpacingEnabled\":" ++ boolText uniformSpacingEnabled ++ "\x7d\x7d\x7d"

def configureProfileMode (scanner : ScannerInfo) (options : ProfileModeOptions) : Request :=
  .update scanner.scannerPath
    (scanModePayload options.scanMode options.intensityEnabled options.uniformSpacingEnabled)

def enableGocatorProtocol (enabled : Bool) : Request :=
  .update gocatorControlPath ("\x7b\"enabled\":" ++ boolText enabled ++ "\x7d")

def clearGocatorOutputs : Request := .call removeAllOutputPath "\x7b\x7d"

def addOutput (sourceId : String) (outputId : Int := 0) (autoShift : Bool := true) : Request :=
  .addOutput sourceId ("\x7b\"source\":" ++ jsonString sourceId ++ ",\"outputId\":" ++ toString outputId ++
    ",\"autoShift\":" ++ boolText autoShift ++ "\x7d")

/-! ## Preparing an output -/

/-- `prepareProfileOutput`, after the scanner is detected. -/
def profileOutput (scanner : ScannerInfo) (options : ProfileModeOptions) : List Request :=
  [configureProfileMode scanner options, enableGocatorProtocol true, clearGocatorOutputs,
    addOutput scanner.profileSourceId]

/-- The profile source id with the first `Profile` in it replaced. -/
def surfaceSource (scanner : ScannerInfo) : String :=
  String.ofList (Substring.replaceFirst "Profile".toList "Surface".toList scanner.profileSourceId.toList)

/-- `prepareSurfaceOutput`, after the scanner is detected. -/
def surfaceOutput (scanner : ScannerInfo) (options : ProfileModeOptions) : List Request :=
  [configureProfileMode scanner options, enableGocatorProtocol true, clearGocatorOutputs,
    addOutput (surfaceSource scanner)]

/-- The scanner and the requests that are sent when no request fails. -/
def prepareProfileOutput (D : Device) (options : ProfileModeOptions) : Except Error (ScannerInfo × List Request) := do
  let scanner ← detectPrimaryScanner D
  return (scanner, profileOutput scanner options)

def prepareSurfaceOutput (D : Device) (options : ProfileModeOptions) : Except Error (ScannerInfo × List Request) := do
  let scanner ← detectPrimaryScanner D
  return (scanner, surfaceOutput scanner options)

end Gocator.Settings

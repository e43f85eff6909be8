/-
The requests of the facade's `configure`, with the payloads as it concatenates them, and its own choice
of the source of the output, compared with the one of `GocatorSettingsManager`.
-/
import Gocator.Settings.Outputs

namespace Gocator.Facade

open Settings (Device Error Request ScannerInfo ProfileModeOptions valueAt getString detectPrimaryScanner addedSources
  boolText profileOutput surfaceOutput surfaceSource)

/-- `Gocator::ScanMode`. -/
inductive ScanMode where
  | profileMode
  | surfaceMode
  deriving DecidableEq, Repr

/-- The engine of the first visible sensor; whatever goes wrong is caught. -/
def detectEngineId (D : Device) : String :=
  let found : Except Error String := do
    let sensorsResponse ← D.read "/scan/visibleSensors/"
    let sensors ← valueAt sensorsResponse "/sensors"
    if sensors.size > 0 then getString (← valueAt sensors "/0/engineId") else return "LMIConfocalLineProfiler"
  match found with
  | .ok engineId => engineId
  | .error _ => "LMIConfocalLineProfiler"

def profileSourceForEngine (engineId : String) (mode : ScanMode) : String :=
  match mode with
  | .surfaceMode =>
    if engineId = "LMIConfocalLineProfiler" then "scan:" ++ engineId ++ ":scanner-0:topUniformSurfaceLayer0"
    else "scan:" ++ engineId ++ ":scanner-0:topUniformSurface"
  | .profileMode =>
    if engineId = "LMIConfocalLineProfiler" then "scan:" ++ engineId ++ ":scanner-0:topUniformProfileLayer0"
    else "scan:" ++ engineId ++ ":scanner-0:topUniformProfile"

/-- The arguments of `configure` beside the mode; the scan length as `std::to_string` prints it. -/
structure ScanArguments where
  scanLengthMm : String
  intensityEnabled : Bool
  uniformSpacingEnabled : Bool
  exposureUs : Int

/-- The requests for one engine that are sent when no request fails. -/
def configureRequests (args : ScanArguments) (mode : ScanMode) (engineId : String) : List Request :=
  let scannerPath := "/scan/engines/" ++ engineId ++ "/scanners/scanner-0"
  let sensorPath := scannerPath ++ "/sensors/sensor-0"
  let sdkScanMode := if mode = .surfaceMode then 3 else 2
  let sourceId := profileSourceForEngine engineId mode
  [.update scannerPath (Settings.scanModePayload sdkScanMode args.intensityEnabled args.uniformSpacingEnabled),
   .update sensorPath ("\x7b\"parameters\":\x7b\"exposureSettings\":\x7b\"exposureMode\":0,\"singleExposure\":" ++
     toString args.exposureUs ++ "\x7d\x7d\x7d"),
   .update scannerPath ("\x7b\"parameters\":\x7b\"scanModeSettings\":\x7b\"scanLengthMm\":" ++ args.scanLengthMm ++
     "\x7d\x7d\x7d"),
   .update Settings.gocatorControlPath "\x7b\"enabled\": true\x7d",
   .call Settings.removeAllOutputPath "\x7b\x7d",
   .addOutput sourceId ("\x7b\"source\":\"" ++ sourceId ++ "\",\"outputId\":0,\"autoShift\":true\x7d")]

/-- `configure`: the requests it sends for the engine it detects. -/
def configureDevice (D : Device) (args : ScanArguments) (mode : ScanMode) : List Request :=
  configureRequests args mode (detectEngineId D)

/-! ## The engine and the source ids -/

/-- Both paths detect the same engine. -/
theorem detectEngineId_eq {D : Device} {scanner : ScannerInfo} (h : detectPrimaryScanner D = .ok scanner) :
    detectEngineId D = scanner.engineId := by
  unfold detectPrimaryScanner at h
  obtain ⟨sensorsRoot, hroot, h⟩ := Settings.bind_eq_ok h
  obtain ⟨sensors, hsensors, h⟩ := Settings.bind_eq_ok h
  split at h
  · cases h
  rename_i hsize
  obtain ⟨sensor, hsensor, h⟩ := Settings.bind_eq_ok h
  obtain ⟨name, hname, h⟩ := Settings.bind_eq_ok h
  obtain ⟨engineId, hengine, h⟩ := Settings.bind_eq_ok h
  obtain ⟨_, -, h⟩ := Settings.bind_eq_ok h
  obtain ⟨_, -, h⟩ := Settings.bind_eq_ok h
  obtain ⟨_, -, h⟩ := Settings.bind_eq_ok h
  obtain ⟨_, -, h⟩ := Settings.bind_eq_ok h
  cases h
  have hpath : Settings.pathTokens "/0/engineId" = some (["0"] ++ ["engineId"]) := rfl
  have hpos : sensors.size > 0 := Nat.pos_of_ne_zero hsize
  have hat : valueAt sensors "/0/engineId" = .ok name := Settings.valueAt_append rfl rfl hpath hsensor hname
  unfold detectEngineId
  simp only [hroot, hsensors, hat, bind, Except.bind, if_pos hpos, hengine]
  rfl

/-- A source id, cut at the colons around the engine id. -/
theorem source_toList (engineId tail : String) : ("scan:" ++ engineId ++ ":" ++ tail).toList =
    "scan".toList ++ ':' :: (engineId.toList ++ ':' :: tail.toList) := by
  have h : "scan:".toList = "scan".toList ++ [':'] := rfl
  have h' : ":".toList = [':'] := rfl
  simp only [String.toList_append, h, h', List.append_assoc, List.cons_append, List.nil_append]

/-- Rewriting the source id gives the surface source exactly when the engine id does not contain the word. -/
theorem replaceFirst_source {pat new : List Char} (hsep : ':' ∉ pat) (hne : pat ≠ []) (hscan : ¬ pat <:+: "scan".toList)
    {tail tail' : String} (htail : Substring.replaceFirst pat new tail.toList = tail'.toList)
    (hlen : tail.toList.length = tail'.toList.length) (hdiff : tail ≠ tail') (engineId : String) :
    String.ofList (Substring.replaceFirst pat new ("scan:" ++ engineId ++ ":" ++ tail).toList) =
      "scan:" ++ engineId ++ ":" ++ tail' ↔ ¬ pat <:+: engineId.toList := by
  have hout := (Substring.replaceFirst_separator hsep hne new "scan".toList (engineId.toList ++ ':' :: tail.toList)).2
    hscan
  have hin := Substring.replaceFirst_separator hsep hne new engineId.toList tail.toList
  rw [← String.toList_inj, String.toList_ofList, source_toList, source_toList, hout]
  constructor
  · intro heq hinf
    rw [hin.1 hinf] at heq
    have htails := List.append_inj_right' (List.cons_inj_right _ |>.1 (List.append_cancel_left heq))
      (by simp only [List.length_cons, hlen])
    exact hdiff (String.toList_inj.1 (List.cons_inj_right _ |>.1 htails))
  · intro hinf
    rw [hin.2 hinf, htail]

theorem profileSource_eq (engineId model serialNumber : String) :
    (ScannerInfo.ofSensor engineId model serialNumber).profileSourceId =
      profileSourceForEngine engineId .profileMode := by
  simp only [ScannerInfo.ofSensor, Settings.profileSourceForEngine, profileSourceForEngine]
  split <;> simp only [String.append_assoc] <;> rfl

theorem surfaceSource_eq_iff (engineId model serialNumber : String) :
    surfaceSource (.ofSensor engineId model serialNumber) = profileSourceForEngine engineId .surfaceMode ↔
      ¬ "Profile".toList <:+: engineId.toList := by
  have hscan : ¬ "Profile".toList <:+: "scan".toList := by decide
  have hsep : ':' ∉ "Profile".toList := by decide
  simp only [surfaceSource, ScannerInfo.ofSensor, Settings.profileSourceForEngine, profileSourceForEngine]
  have hcut : ∀ tail : String, "scan:" ++ engineId ++ ":" ++ "scanner-0" ++ tail =
      "scan:" ++ engineId ++ ":" ++ ("scanner-0" ++ tail) := fun tail => String.append_assoc ..
  have hflat : ∀ tail : String, "scan:" ++ engineId ++ (":" ++ ("scanner-0" ++ tail)) =
      "scan:" ++ engineId ++ ":" ++ ("scanner-0" ++ tail) := fun tail => (String.append_assoc ..).symm
  split
  · rw [hcut]
    exact (hflat ":topUniformSurfaceLayer0" ▸ replaceFirst_source hsep (by decide) hscan (by decide) (by decide)
      (by decide) engineId)
  · rw [hcut]
    exact (hflat ":topUniformSurface" ▸ replaceFirst_source hsep (by decide) hscan (by decide) (by decide)
      (by decide) engineId)

/-- The two paths choose the same surface source for an engine exactly when its id does not contain
`Profile`; the profile sources always agree. -/
theorem sources_agree_iff (engineId model serialNumber : String) (options : ProfileModeOptions) (args : ScanArguments) :
    (addedSources (surfaceOutput (.ofSensor engineId model serialNumber) options) =
        addedSources (configureRequests args .surfaceMode engineId) ∧
      addedSources (profileOutput (.ofSensor engineId model serialNumber) options) =
        addedSources (configureRequests args .profileMode engineId)) ↔
      ¬ "Profile".toList <:+: engineId.toList := by
  have hadd : ∀ scanner : ScannerInfo, addedSources (surfaceOutput scanner options) = [surfaceSource scanner] ∧
      addedSources (profileOutput scanner options) = [scanner.profileSourceId] := fun _ => ⟨rfl, rfl⟩
  have hconf : ∀ mode, addedSources (configureRequests args mode engineId) = [profileSourceForEngine engineId mode] :=
    fun _ => rfl
  rw [(hadd _).1, (hadd _).2, hconf, hconf, ← surfaceSource_eq_iff engineId model serialNumber, profileSource_eq]
  simp only [and_true, List.cons.injEq]

/-- The engine both paths know by name is one of those for which they differ. -/
theorem not_sources_agree : ¬ ∀ (engineId model serialNumber : String) (options : ProfileModeOptions)
    (args : ScanArguments), addedSources (surfaceOutput (.ofSensor engineId model serialNumber) options) =
        addedSources (configureRequests args .surfaceMode engineId) ∧
      addedSources (profileOutput (.ofSensor engineId model serialNumber) options) =
        addedSources (configureRequests args .profileMode engineId) := by
  intro h
  have hs := (h "LMIConfocalLineProfiler" "" "" {} ⟨"", true, true, 0⟩).1
  have hsource : surfaceSource (.ofSensor "LMIConfocalLineProfiler" "" "") =
      "scan:LMIConfocalLineSurfacer:scanner-0:topUniformProfileLayer0" := by decide
  have hother : profileSourceForEngine "LMIConfocalLineProfiler" .surfaceMode =
      "scan:LMIConfocalLineProfiler:scanner-0:topUniformSurfaceLayer0" := by decide
  have hne : surfaceSource (.ofSensor "LMIConfocalLineProfiler" "" "") ≠
      profileSourceForEngine "LMIConfocalLineProfiler" .surfaceMode := by
    rw [hsource, hother]
    decide
  exact hne (List.cons.inj hs).1

end Gocator.Facade

/-
The scan tuning of `GocatorSettingsManager`: up to four updates with payloads that are streamed, of which one that is
rejected is the last. After any calls every place holds what the last call whose update got in wrote there, the active
area with six significant figures.
-/
import Gocator.Features.Configured
import Gocator.Lib.JsonNested
import Gocator.Lib.JsonNumber
import Mathlib.Data.List.Nodup

namespace Gocator.Features

open Gocator.Settings (Assignment Group ProfileModeOptions ScannerInfo accepts assigned boolText ended lastAssigned
  patched scanModePayload update)
open Decimal (Figures Nearest significant)
open JsonText (Literal Writes nestedText objectText parse)

/-! ## The updates -/

/-- What `configureScanTuning` is asked to change. -/
structure ScanTuningOptions where
  profileMode : ProfileModeOptions := {}
  updateExposure : Bool := false
  exposure : Int := 1000
  updateActiveArea : Bool := false
  activeAreaZ : Rat := 0
  activeAreaHeight : Rat := 11 / 10
  updateFlexSpotThreshold : Bool := false
  flexSpotThreshold : Int := 12

/-- A number as it is streamed. -/
def streamed (x : Rat) : String := String.ofList (JsonText.generalText .halfEven 6 x)

def exposurePayload (exposure : Int) : String :=
  "\x7b\"parameters\":\x7b\"exposureSettings\":\x7b\"exposureMode\":0,\"singleExposure\":" ++ toString exposure ++
    "\x7d\x7d\x7d"

def activeAreaPayload (z height : Rat) : String :=
  "\x7b\"parameters\":\x7b\"activeAreaSettings\":\x7b\"activeArea\":\x7b\"z\":" ++ streamed z ++ ",\"height\":" ++
    streamed height ++ "\x7d\x7d\x7d\x7d"

def flexSpotsPayload (threshold : Int) : String :=
  "\x7b\"parameters\":\x7b\"advancedSettings\":\x7b\"materialType\":0,\"spotDetection\":\x7b\"flexSpots\":" ++
    "\x7b\"threshold\":" ++ toString threshold ++ "\x7d\x7d\x7d\x7d\x7d"

section

variable (rejects : String → Json → Bool)

/-- `update` with a payload that is a text. The device answers each payload on its own. -/
def updateText (path text : String) : OnDevice :=
  withPayload text fun payload => update (rejects · payload) path payload

/-- The updates that the options ask for, in the order of the source. -/
def configureScanTuning (scanner : ScannerInfo) (options : ScanTuningOptions) : OnDevice := do
  updateText rejects scanner.scannerPath (scanModePayload options.profileMode.scanMode
    options.profileMode.intensityEnabled options.profileMode.uniformSpacingEnabled)
  if options.updateExposure then
    updateText rejects scanner.sensorPath (exposurePayload options.exposure)
  if options.updateActiveArea then
    updateText rejects scanner.sensorPath (activeAreaPayload options.activeAreaZ options.activeAreaHeight)
  if options.updateFlexSpotThreshold then
    updateText rejects scanner.sensorPath (flexSpotsPayload options.flexSpotThreshold)

end

/-! ## What they assign -/

/-- The updates that a call can make. -/
inductive Tuning where
  | scanMode
  | exposure
  | activeArea
  | flexSpots
  deriving DecidableEq

def Tuning.path (scanner : ScannerInfo) : Tuning → String
  | .scanMode => scanner.scannerPath
  | _ => scanner.sensorPath

/-- The places of an update and the value that the options have for each. -/
def Tuning.values : Tuning → List (List String × (ScanTuningOptions → Json))
  | .scanMode => [
      (["parameters", "scanModeSettings", "intensityEnabled"], fun o => .bool o.profileMode.intensityEnabled),
      (["parameters", "scanModeSettings", "scanMode"], fun o => .num o.profileMode.scanMode),
      (["parameters", "scanModeSettings", "uniformSpacingEnabled"], fun o => .bool o.profileMode.uniformSpacingEnabled)]
  | .exposure => [(["parameters", "exposureSettings", "exposureMode"], fun _ => .num 0),
      (["parameters", "exposureSettings", "singleExposure"], fun o => .num o.exposure)]
  | .activeArea => [(["parameters", "activeAreaSettings", "activeArea", "height"],
        fun o => .num (significant 10 .halfEven 6 o.activeAreaHeight)),
      (["parameters", "activeAreaSettings", "activeArea", "z"],
        fun o => .num (significant 10 .halfEven 6 o.activeAreaZ))]
  | .flexSpots => [(["parameters", "advancedSettings", "materialType"], fun _ => .num 0),
      (["parameters", "advancedSettings", "spotDetection", "flexSpots", "threshold"],
        fun o => .num o.flexSpotThreshold)]

/-- The updates that the options ask for. -/
def ScanTuningOptions.tunings (options : ScanTuningOptions) : List Tuning :=
  .scanMode :: ((if options.updateExposure then [.exposure] else []) ++
    ((if options.updateActiveArea then [.activeArea] else []) ++
      (if options.updateFlexSpotThreshold then [.flexSpots] else [])))

def Tuning.assignments (scanner : ScannerInfo) (options : ScanTuningOptions) (t : Tuning) : List Assignment :=
  t.values.map fun v => ⟨t.path scanner, v.1, v.2 options⟩

/-- The payload of an update. -/
def Tuning.text (options : ScanTuningOptions) : Tuning → String
  | .scanMode => scanModePayload options.profileMode.scanMode options.profileMode.intensityEnabled
      options.profileMode.uniformSpacingEnabled
  | .exposure => exposurePayload options.exposure
  | .activeArea => activeAreaPayload options.activeAreaZ options.activeAreaHeight
  | .flexSpots => flexSpotsPayload options.flexSpotThreshold

/-- The members that an update sets, in their group. -/
def Tuning.group (scanner : ScannerInfo) (options : ScanTuningOptions) : Tuning → Group
  | .scanMode => ⟨scanner.scannerPath, ["parameters", "scanModeSettings"],
      [("intensityEnabled", .bool options.profileMode.intensityEnabled),
        ("scanMode", .num options.profileMode.scanMode),
        ("uniformSpacingEnabled", .bool options.profileMode.uniformSpacingEnabled)]⟩
  | .exposure => ⟨scanner.sensorPath, ["parameters", "exposureSettings"],
      [("exposureMode", .num 0), ("singleExposure", .num options.exposure)]⟩
  | .activeArea => ⟨scanner.sensorPath, ["parameters", "activeAreaSettings", "activeArea"],
      [("height", .num (significant 10 .halfEven 6 options.activeAreaHeight)),
        ("z", .num (significant 10 .halfEven 6 options.activeAreaZ))]⟩
  | .flexSpots => ⟨scanner.sensorPath, ["parameters", "advancedSettings"],
      [("materialType", .num 0),
        ("spotDetection", Json.nest ["flexSpots", "threshold"] (.num options.flexSpotThreshold))]⟩

/-! ## The texts are read -/

theorem literal_tuning : ∀ k ∈ ["parameters", "scanModeSettings", "exposureSettings", "activeAreaSettings",
    "activeArea", "advancedSettings", "spotDetection", "flexSpots", "threshold", "materialType", "exposureMode",
    "singleExposure", "scanMode", "intensityEnabled", "uniformSpacingEnabled", "z", "height"],
    ∀ c ∈ k.toList, Literal c := by
  decide

theorem writes_streamed (x : Rat) : Writes (streamed x).toList (.num (significant 10 .halfEven 6 x)) := by
  rw [streamed, String.toList_ofList]
  exact JsonText.writes_general .halfEven 5 x

theorem activeAreaPayload_toList (z height : Rat) (v w : Json) : (activeAreaPayload z height).toList =
    nestedText ["parameters", "activeAreaSettings", "activeArea"]
      (objectText [("z", (streamed z).toList, v), ("height", (streamed height).toList, w)]) :=
  JsonText.nested_two v w (by decide +kernel) (by decide) (by decide)

theorem flexSpotsPayload_toList (threshold : Int) (v w : Json) : (flexSpotsPayload threshold).toList =
    nestedText ["parameters", "advancedSettings"] (objectText [("materialType", ['0'], v),
      ("spotDetection", nestedText ["flexSpots", "threshold"] (toString threshold).toList, w)]) :=
  JsonText.nested_second v w (by decide +kernel) (by decide)

/-- The payload of an update is read as the patch of its group. -/
theorem parse_text (scanner : ScannerInfo) (options : ScanTuningOptions) (t : Tuning) :
    parse (t.text options) =
      some (Json.nest (t.group scanner options).tokens (.obj (t.group scanner options).members)) := by
  have hzero : Writes ['0'] (.num 0) := by
    have h := JsonText.writes_int 0
    rwa [Int.cast_zero] at h
  cases t with
  | scanMode =>
    refine parse_group _ (scanModePayload_toList _ _ _ (.num options.profileMode.scanMode)
      (.bool options.profileMode.intensityEnabled) (.bool options.profileMode.uniformSpacingEnabled))
      (members_scanModeSettings ..) (literal_tuning _ (by simp)) (List.cons_ne_nil _ _) fun m hm => ?_
    simp only [List.mem_cons, List.not_mem_nil, or_false] at hm
    rcases hm with rfl | rfl | rfl
    · exact ⟨literal_tuning _ (by simp), JsonText.writes_int _⟩
    · exact ⟨literal_tuning _ (by simp), writes_boolText _⟩
    · exact ⟨literal_tuning _ (by simp), writes_boolText _⟩
  | exposure =>
    refine parse_group _ (exposurePayload_toList (toString options.exposure) (.num options.exposure))
      (JsonText.objectMembers_pair (by decide) ..) (literal_tuning _ (by simp)) (List.cons_ne_nil _ _) fun m hm => ?_
    simp only [List.mem_cons, List.not_mem_nil, or_false] at hm
    rcases hm with rfl | rfl
    · exact ⟨literal_tuning _ (by simp), hzero⟩
    · exact ⟨literal_tuning _ (by simp), JsonText.writes_int _⟩
  | activeArea =>
    apply parse_of_writes
    have htext := activeAreaPayload_toList options.activeAreaZ options.activeAreaHeight
      (.num (significant 10 .halfEven 6 options.activeAreaZ))
      (.num (significant 10 .halfEven 6 options.activeAreaHeight))
    have hwrites := JsonText.writes_pair (literal_tuning "z" (by simp)) (literal_tuning "height" (by simp))
      (writes_streamed options.activeAreaZ) (writes_streamed options.activeAreaHeight)
    -- `z` is streamed in front of `height`, and the parser keeps the members in order
    rw [JsonText.objectMembers_swapped (by decide : "height" < "z")] at hwrites
    rw [Tuning.text, htext]
    exact JsonText.writes_nested hwrites (fun k hk => literal_tuning k (by revert k; decide))
  | flexSpots =>
    apply parse_of_writes
    have hthreshold : Writes (nestedText ["flexSpots", "threshold"] (toString options.flexSpotThreshold).toList)
        (Json.nest ["flexSpots", "threshold"] (.num options.flexSpotThreshold)) :=
      JsonText.writes_nested (JsonText.writes_int _) (fun k hk => literal_tuning k (by revert k; decide))
    have htext := flexSpotsPayload_toList options.flexSpotThreshold (.num 0)
      (Json.nest ["flexSpots", "threshold"] (.num options.flexSpotThreshold))
    have hwrites := JsonText.writes_pair (literal_tuning "materialType" (by simp))
      (literal_tuning "spotDetection" (by simp)) hzero hthreshold
    rw [JsonText.objectMembers_pair (by decide : "materialType" < "spotDetection")] at hwrites
    rw [Tuning.text, htext]
    exact JsonText.writes_nested hwrites (fun k hk => literal_tuning k (by revert k; decide))

/-! ## A call -/

variable {rejects : String → Json → Bool} {D : Settings.Device} {scanner : ScannerInfo} {options : ScanTuningOptions}

/-- The updates one after another, up to the first that throws. -/
def updateAll (rejects : String → Json → Bool) (scanner : ScannerInfo) (options : ScanTuningOptions) :
    List Tuning → OnDevice
  | [] => pure ()
  | t :: ts => do
    updateText rejects (t.path scanner) (t.text options)
    updateAll rejects scanner options ts

/-- A call makes the updates that its options ask for. -/
theorem configureScanTuning_eq :
    configureScanTuning rejects scanner options = updateAll rejects scanner options options.tunings := by
  unfold configureScanTuning ScanTuningOptions.tunings
  cases options.updateExposure <;> cases options.updateActiveArea <;> cases options.updateFlexSpotThreshold <;>
    simp only [Bool.false_eq_true, if_false, if_true, bind_pure_unit, List.nil_append, List.cons_append,
      updateAll, Tuning.path, Tuning.text]

/-- The device has the document of an update and does not reject its payload. -/
def Tuning.accepted (rejects : String → Json → Bool) (scanner : ScannerInfo) (options : ScanTuningOptions)
    (D : Settings.Device) (t : Tuning) : Bool :=
  accepts (rejects · (t.group scanner options).patch.2) D (t.path scanner)

theorem accepted_patched (us : List (String × Json)) (t : Tuning) :
    t.accepted rejects scanner options (patched us D) = t.accepted rejects scanner options D :=
  congrFun (Settings.accepts_patched us) _

theorem updateText_eq (t : Tuning) : updateText rejects (t.path scanner) (t.text options) =
    update (rejects · (t.group scanner options).patch.2) (t.path scanner) (t.group scanner options).patch.2 := by
  unfold updateText withPayload
  rw [parse_text scanner options t]
  rfl

theorem updateText_accepted (t : Tuning) (h : t.accepted rejects scanner options D = true) :
    updateText rejects (t.path scanner) (t.text options) D =
      .ok () (patched [(t.group scanner options).patch] D) := by
  have hpath : (t.path scanner, (t.group scanner options).patch.2) = (t.group scanner options).patch := by
    cases t <;> rfl
  rw [updateText_eq, update_accepted h, hpath]

theorem updateText_refused (t : Tuning) (h : t.accepted rejects scanner options D = false) :
    updateText rejects (t.path scanner) (t.text options) D = .error (.response (t.path scanner)) D := by
  rw [updateText_eq]
  exact Settings.update_refused _ h

/-- The updates of a call that get in: those up to the first that is rejected. -/
def ScanTuningOptions.taken (rejects : String → Json → Bool) (scanner : ScannerInfo) (D : Settings.Device)
    (options : ScanTuningOptions) : List Tuning :=
  options.tunings.takeWhile (·.accepted rejects scanner options D)

theorem wf_group (t : Tuning) : (t.group scanner options).WF := by
  have hscanMode : ["intensityEnabled", "scanMode", "uniformSpacingEnabled"].Pairwise (· < ·) := by decide
  have hexposure : ["exposureMode", "singleExposure"].Pairwise (· < ·) := by decide
  have harea : ["height", "z"].Pairwise (· < ·) := by decide
  have hspots : ["materialType", "spotDetection"].Pairwise (· < ·) := by decide
  cases t with
  | scanMode =>
    refine .of_values hscanMode (fun v hv => ?_) (List.cons_ne_nil _ _)
    simp only [Tuning.group, List.map_cons, List.map_nil, List.mem_cons, List.not_mem_nil, or_false] at hv
    rcases hv with rfl | rfl | rfl <;> rfl
  | exposure =>
    refine .of_values hexposure (fun v hv => ?_) (List.cons_ne_nil _ _)
    simp only [Tuning.group, List.map_cons, List.map_nil, List.mem_cons, List.not_mem_nil, or_false] at hv
    rcases hv with rfl | rfl <;> rfl
  | activeArea =>
    refine .of_values harea (fun v hv => ?_) (List.cons_ne_nil _ _)
    simp only [Tuning.group, List.map_cons, List.map_nil, List.mem_cons, List.not_mem_nil, or_false] at hv
    rcases hv with rfl | rfl <;> rfl
  | flexSpots =>
    -- the second member is an object itself
    refine ⟨Json.everywhere_obj (List.pairwise_map.1 hspots) fun m hm => ?_, List.cons_ne_nil _ _⟩
    simp only [Tuning.group, List.mem_cons, List.not_mem_nil, or_false] at hm
    rcases hm with rfl | rfl
    · exact Settings.wf_of_not_obj rfl
    · exact Json.wf_nest (Settings.wf_of_not_obj rfl) _

/-- The patch of an update makes its assignments. -/
theorem patched_planned (hD : D.WF) (t : Tuning) :
    patched [(t.group scanner options).patch] D = assigned (t.assignments scanner options) D := by
  rw [Settings.patched_group (wf_group t) hD]
  cases t <;> rfl

theorem scalar_tuning (t : Tuning) : ∀ a ∈ t.assignments scanner options, a.Scalar := by
  intro a ha
  obtain ⟨v, hv, rfl⟩ := List.mem_map.1 ha
  cases t with
  | scanMode =>
    simp only [Tuning.values, List.mem_cons, List.not_mem_nil, or_false] at hv
    rcases hv with rfl | rfl | rfl <;> exact ⟨rfl, rfl⟩
  | _ =>
    simp only [Tuning.values, List.mem_cons, List.not_mem_nil, or_false] at hv
    rcases hv with rfl | rfl <;> exact ⟨rfl, rfl⟩

theorem wf_tunings (scanner : ScannerInfo) (options : ScanTuningOptions) (hD : D.WF) (ts : List Tuning) :
    (assigned (ts.flatMap (·.assignments scanner options)) D).WF := by
  refine Settings.wf_assigned hD fun a ha => ?_
  obtain ⟨t, -, ha⟩ := List.mem_flatMap.1 ha
  exact Settings.wf_of_not_obj (scalar_tuning t a ha).2

theorem patched_tunings : ∀ {ts : List Tuning} {D : Settings.Device}, D.WF →
    patched (ts.map fun t => (t.group scanner options).patch) D =
      assigned (ts.flatMap (·.assignments scanner options)) D
  | [], _, _ => rfl
  | t :: ts, D, hD => by
    have hone := wf_tunings scanner options hD [t]
    rw [List.flatMap_singleton] at hone
    rw [List.map_cons, List.flatMap_cons, Settings.assigned_append, ← patched_tunings hone, ← patched_planned hD t]
    exact Settings.patched_append [(t.group scanner options).patch] _

/-- How updates one after another end and what they leave. -/
theorem updateAll_run (rejects : String → Json → Bool) (scanner : ScannerInfo) (options : ScanTuningOptions)
    (ts : List Tuning) : ∀ D : Settings.Device, ∃ outcome : Option Settings.Error,
    updateAll rejects scanner options ts D = ended (patched ((ts.takeWhile (·.accepted rejects scanner options D)).map
      fun t => (t.group scanner options).patch) D) outcome ∧
    (outcome = none ↔ ∀ t ∈ ts, t.accepted rejects scanner options D = true) := by
  induction ts with
  | nil => exact fun D => ⟨none, congrArg _ Settings.patched_nil.symm, iff_of_true rfl fun _ => nofun⟩
  | cons t ts ih =>
    intro D
    rw [updateAll]
    cases h : t.accepted rejects scanner options D with
    | true =>
      obtain ⟨outcome, hrun, hnone⟩ := ih (patched [(t.group scanner options).patch] D)
      simp only [accepted_patched] at hrun hnone
      refine ⟨outcome, ?_, ?_⟩
      · rw [Exits.bind_ok (updateText_accepted t h), hrun, List.takeWhile_cons_of_pos h, List.map_cons]
        exact congrArg (ended · outcome) (Settings.patched_append [(t.group scanner options).patch] _).symm
      · rw [hnone, List.forall_mem_cons, and_iff_right h]
    | false =>
      refine ⟨some (.response (t.path scanner)), ?_, ?_⟩
      · rw [Exits.bind_error (updateText_refused t h), List.takeWhile_cons_of_neg (by rw [h]; exact Bool.false_ne_true),
          List.map_nil, Settings.patched_nil]
        rfl
      · refine iff_of_false (Option.some_ne_none _) fun hall => ?_
        rw [hall t (List.mem_cons_self ..)] at h
        cases h

/-- How a call ends and what it leaves. -/
theorem configureScanTuning_run (rejects : String → Json → Bool) (scanner : ScannerInfo) (options : ScanTuningOptions)
    (hD : D.WF) : ∃ outcome : Option Settings.Error,
    configureScanTuning rejects scanner options D = ended (assigned ((options.taken rejects scanner D).flatMap
      (·.assignments scanner options)) D) outcome ∧
    (outcome = none ↔ ∀ t ∈ options.tunings, t.accepted rejects scanner options D = true) := by
  obtain ⟨outcome, hrun, hnone⟩ :=
    updateAll_run rejects scanner options options.tunings D
  refine ⟨outcome, ?_, hnone⟩
  rw [configureScanTuning_eq, hrun, patched_tunings hD]
  rfl

/-! ## Any calls -/

/-- A call, and the updates that the device rejects during it. -/
structure TuningCall where
  rejects : String → Json → Bool
  options : ScanTuningOptions

/-- The device after a call; an exception goes to the caller. -/
def TuningCall.run (scanner : ScannerInfo) (c : TuningCall) (D : Settings.Device) : Settings.Device :=
  match configureScanTuning c.rejects scanner c.options D with
  | .ok _ D' => D'
  | .error _ D' => D'

/-- The device after some calls, whether they return or throw. -/
def afterTunings (scanner : ScannerInfo) (calls : List TuningCall) (D : Settings.Device) : Settings.Device :=
  calls.foldl (fun D c => c.run scanner D) D

/-- The last call whose update of this kind got in. -/
def lastTaken (scanner : ScannerInfo) (D : Settings.Device) (t : Tuning) (calls : List TuningCall) :
    Option TuningCall :=
  (calls.filter fun c => t ∈ c.options.taken c.rejects scanner D).getLast?

/-- What a call assigns. -/
def TuningCall.assignments (scanner : ScannerInfo) (D : Settings.Device) (c : TuningCall) : List Assignment :=
  (c.options.taken c.rejects scanner D).flatMap (·.assignments scanner c.options)

variable {c : TuningCall} {calls : List TuningCall}

theorem tuning_run_eq (hD : D.WF) : c.run scanner D = assigned (c.assignments scanner D) D := by
  obtain ⟨outcome, hrun, -⟩ := configureScanTuning_run c.rejects scanner c.options hD
  unfold TuningCall.run
  rw [hrun]
  cases outcome <;> rfl

theorem assignments_assigned (as : List Assignment) :
    c.assignments scanner (assigned as D) = c.assignments scanner D := by
  unfold TuningCall.assignments ScanTuningOptions.taken assigned
  simp only [accepted_patched]

theorem afterTunings_eq : ∀ {calls : List TuningCall} {D : Settings.Device}, D.WF →
    afterTunings scanner calls D = assigned (calls.flatMap (·.assignments scanner D)) D
  | [], _, _ => Settings.patched_nil.symm
  | c :: calls, D, hD => by
    have hwf : (assigned (c.assignments scanner D) D).WF := wf_tunings scanner c.options hD _
    have hstep : afterTunings scanner (c :: calls) D = afterTunings scanner calls (c.run scanner D) := rfl
    rw [hstep, tuning_run_eq hD, afterTunings_eq hwf, List.flatMap_cons, Settings.assigned_append]
    -- which resources are there does not change, so the later calls take the updates they would take at the start
    simp only [assignments_assigned]

/-- Whatever the calls assign is of one of the updates. -/
theorem mem_assignments_of_calls {a : Assignment} (ha : a ∈ calls.flatMap (·.assignments scanner D)) :
    ∃ t options, a ∈ Tuning.assignments scanner options t := by
  obtain ⟨c, -, hc⟩ := List.mem_flatMap.1 ha
  obtain ⟨t, -, ht⟩ := List.mem_flatMap.1 hc
  exact ⟨t, c.options, ht⟩

theorem wf_afterTunings (hD : D.WF) (scanner : ScannerInfo) (calls : List TuningCall) :
    (afterTunings scanner calls D).WF := by
  rw [afterTunings_eq hD]
  refine Settings.wf_assigned hD fun a ha => ?_
  obtain ⟨t, options, ha⟩ := mem_assignments_of_calls ha
  exact Settings.wf_of_not_obj (scalar_tuning t a ha).2

/-- All places are apart. -/
theorem places_apart (t t' : Tuning) (v : List String × (ScanTuningOptions → Json)) (hv : v ∈ t.values)
    (v' : List String × (ScanTuningOptions → Json)) (hv' : v' ∈ t'.values) : v'.1 = v.1 ∨ Json.Apart v'.1 v.1 := by
  have hall : ∀ tokens ∈ t.values.map (·.1), ∀ tokens' ∈ t'.values.map (·.1),
      tokens' = tokens ∨ Json.Apart tokens' tokens := by
    cases t <;> cases t' <;> decide
  exact hall _ (List.mem_map_of_mem hv) _ (List.mem_map_of_mem hv')

/-- An update writes a place of its own once and no place of another. -/
theorem written_tuning (t t' : Tuning) {v : List String × (ScanTuningOptions → Json)} (hv : v ∈ t.values) :
    ((t'.assignments scanner options).filter fun a => a.path = t.path scanner ∧ a.tokens = v.1).map (·.value) =
      if t' = t then [v.2 options] else [] := by
  by_cases h : t' = t
  · subst h
    rw [if_pos rfl]
    cases t' <;> simp only [Tuning.values, List.mem_cons, List.not_mem_nil, or_false] at hv
    · rcases hv with rfl | rfl | rfl <;> simp [Tuning.assignments, Tuning.values]
    · rcases hv with rfl | rfl <;> simp [Tuning.assignments, Tuning.values]
    · rcases hv with rfl | rfl <;> simp [Tuning.assignments, Tuning.values]
    · rcases hv with rfl | rfl <;> simp [Tuning.assignments, Tuning.values]
  · have hall : t' ≠ t → ∀ tokens ∈ t.values.map (·.1), ∀ tokens' ∈ t'.values.map (·.1), tokens' ≠ tokens := by
      cases t <;> cases t' <;> decide
    rw [if_neg h, List.map_eq_nil_iff, List.filter_eq_nil_iff]
    intro a ha
    obtain ⟨v', hv', rfl⟩ := List.mem_map.1 ha
    have hne := hall h _ (List.mem_map_of_mem hv) _ (List.mem_map_of_mem hv')
    simpa using fun _ => hne

theorem nodup_tunings (options : ScanTuningOptions) : options.tunings.Nodup := by
  unfold ScanTuningOptions.tunings
  cases options.updateExposure <;> cases options.updateActiveArea <;> cases options.updateFlexSpotThreshold <;> decide

/-- Of values for some of the elements. -/
theorem flatMap_ite {α β : Type} (p : α → Prop) [DecidablePred p] (g : α → β) (l : List α) :
    (l.flatMap fun x => if p x then [g x] else []) = (l.filter p).map g := by
  induction l with
  | nil => rfl
  | cons x l ih =>
    rw [List.flatMap_cons, ih, List.filter_cons]
    by_cases h : p x <;> simp [h]

theorem written_call (t : Tuning) {v : List String × (ScanTuningOptions → Json)} (hv : v ∈ t.values) :
    ((c.assignments scanner D).filter fun a => a.path = t.path scanner ∧ a.tokens = v.1).map (·.value) =
      if t ∈ c.options.taken c.rejects scanner D then [v.2 c.options] else [] := by
  -- no update is made twice in a call
  have hnodup : (c.options.taken c.rejects scanner D).Nodup :=
    (nodup_tunings c.options).sublist (List.takeWhile_sublist _)
  unfold TuningCall.assignments
  rw [List.filter_flatMap, List.map_flatMap]
  simp only [written_tuning t _ hv]
  rw [flatMap_ite (· = t) (fun _ => v.2 c.options)]
  split
  · rename_i hmem
    have hone : (c.options.taken c.rejects scanner D).filter (· = t) = [t] := by
      rw [List.filter_eq, List.count_eq_one_of_mem hnodup hmem]
      rfl
    rw [hone, List.map_singleton]
  · rename_i hmem
    rw [List.map_eq_nil_iff, List.filter_eq_nil_iff]
    intro t' ht' heq
    exact hmem (of_decide_eq_true heq ▸ ht')

theorem lastAssigned_eq (t : Tuning) {v : List String × (ScanTuningOptions → Json)} (hv : v ∈ t.values) :
    lastAssigned (calls.flatMap (·.assignments scanner D)) (t.path scanner) v.1 =
      (lastTaken scanner D t calls).map fun c => v.2 c.options := by
  unfold lastAssigned lastTaken
  rw [List.filter_flatMap, List.map_flatMap]
  simp only [written_call t hv]
  rw [flatMap_ite (fun c : TuningCall => t ∈ c.options.taken c.rejects scanner D) (fun c => v.2 c.options),
    List.getLast?_map]

def sampleScanner : ScannerInfo := .ofSensor "LMILaserLineProfiler" "" ""

/-- An active area a third of a millimetre high, and then one that is rejected while the exposure in front of it gets
in. -/
def sampleTunings : List TuningCall :=
  [⟨fun _ _ => false, { updateActiveArea := true, activeAreaHeight := 1 / 3 }⟩,
    ⟨fun _ payload => (payload.at? ["parameters", "activeAreaSettings"]).isSome,
      { updateExposure := true, updateActiveArea := true, activeAreaHeight := 2 }⟩]

end Gocator.Features

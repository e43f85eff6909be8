/-
What `configure` and the five setters of the facade leave in the documents of the device. Their payloads are
texts put together of names, numbers and literals; read as JSON and merged into the scanner and the sensor,
they assign the parameters, so `configure` does what the five setters do in any order, and it puts the
exposure into the manual mode and enables the output beside.
-/
import Gocator.Lib.Exits
import Gocator.Lib.JsonWrite
import Gocator.Settings.Assign
import Gocator.Features.Splice

namespace Gocator.Features

open Gocator.Facade (ScanMode ScanArguments configureDevice configureRequests detectEngineId)
open Gocator.Settings (Assignment Group Request accepts assigned boolText patched update)
open JsonText (Writes Entries Literal memberText membersText objectText objectMembers parse)

/-! ## The requests -/

/-- The path of a target (`getParameterTargetPath`). -/
def targetPath (engineId : String) : ParameterTarget → String
  | .scanner => "/scan/engines/" ++ engineId ++ "/scanners/scanner-0"
  | .sensor => "/scan/engines/" ++ engineId ++ "/scanners/scanner-0" ++ "/sensors/sensor-0"

/-- The arguments as `configure` gets them, the scan length as `std::to_string` prints it. -/
def GrabArguments.printed (args : GrabArguments) : ScanArguments where
  scanLengthMm := String.ofList (JsonText.fixedText 6 args.scanLengthMm)
  intensityEnabled := args.intensityEnabled
  uniformSpacingEnabled := args.uniformSpacingEnabled
  exposureUs := args.exposureUs

/-- A program of the device. -/
abbrev OnDevice := EStateM Settings.Error Settings.Device Unit

/-- A payload that is no JSON throws before anything is sent. -/
def withPayload (payload : String) (sent : Json → OnDevice) : OnDevice :=
  match parse payload with
  | some p => sent p
  | none => throw .json

/-- The updates among the requests. -/
def updates (requests : List Request) : List (String × String) :=
  requests.filterMap fun
    | .update path payload => some (path, payload)
    | _ => none

/-- The device after the updates, of which the first that throws is the last. -/
def afterUpdates (rejects : String → Bool) : List (String × String) → Settings.Device → Settings.Device
  | [], D => D
  | (path, payload) :: us, D =>
    match parse payload with
    | none => D
    | some p =>
      match update rejects path p D with
      | .ok _ D' => afterUpdates rejects us D'
      | .error _ D' => D'

/-- The device after the updates of `configure`, before the commands of the outputs. -/
def settled (rejects : String → Bool) (args : GrabArguments) (D : Settings.Device) : Settings.Device :=
  afterUpdates rejects (updates (configureDevice D args.printed args.scanMode)) D

/-- The text that the setter of a parameter hands to `setParameterValue`. -/
def GrabArguments.text (args : GrabArguments) : Parameter → String
  | .scanLengthMm => String.ofList (JsonText.fixedText 6 args.scanLengthMm)
  | .scanMode => toString (if args.scanMode = .surfaceMode then 3 else 2 : Int)
  | .exposureUs => toString args.exposureUs
  | .intensityEnabled => boolText args.intensityEnabled
  | .uniformSpacingEnabled => boolText args.uniformSpacingEnabled

/-- `setParameterValue`: nothing unless the facade is open, and whatever is thrown is logged. How a text is read as
JSON is left open. -/
def setParameterValue (isOpened : Bool) (read : String → Option Json) (rejects : String → Bool)
    (target : ParameterTarget) (path jsonValue : String) (D : Settings.Device) : Settings.Device :=
  if isOpened then
    match parameterPatch read path jsonValue with
    | .error _ => D
    | .ok patch => Exits.final (update rejects (targetPath (detectEngineId D) target) patch D)
  else D

/-- The setter of a parameter: `setScanLengthMm`, `setScanMode`, `setExposureUs`, `setIntensityEnabled` or
`setUniformSpacingEnabled`. -/
def GrabArguments.setter (isOpened : Bool) (rejects : String → Bool) (args : GrabArguments) (p : Parameter)
    (D : Settings.Device) : Settings.Device :=
  setParameterValue isOpened parse rejects p.target p.path (args.text p) D

/-! ## The texts are read -/

/-- The arguments with the scan length that is printed. -/
def GrabArguments.rounded (args : GrabArguments) : GrabArguments :=
  { args with scanLengthMm := Decimal.fixed 6 args.scanLengthMm }

theorem writes_boolText (b : Bool) : Writes (boolText b).toList (.bool b) := by
  cases b with
  | true => exact JsonText.writes_true
  | false => exact JsonText.writes_false

theorem writes_text (args : GrabArguments) (p : Parameter) : Writes (args.text p).toList (args.rounded.value p) := by
  cases p with
  | scanLengthMm =>
    rw [GrabArguments.text, String.toList_ofList]
    exact JsonText.writes_fixed 6 args.scanLengthMm
  | scanMode =>
    have hcast : ((if args.scanMode = .surfaceMode then 3 else 2 : Int) : Rat) =
        if args.scanMode = .surfaceMode then 3 else 2 := by
      split <;> norm_num
    have h := JsonText.writes_int (if args.scanMode = .surfaceMode then 3 else 2)
    rwa [hcast] at h
  | exposureUs => exact JsonText.writes_int args.exposureUs
  | intensityEnabled => exact writes_boolText args.intensityEnabled
  | uniformSpacingEnabled => exact writes_boolText args.uniformSpacingEnabled

theorem parse_of_writes {s : String} {v : Json} (h : Writes s.toList v) : parse s = some v := by
  rw [← String.ofList_toList (s := s)]
  exact h.parse

/-- The text of an object of parameters in their group. -/
def groupText (group : String) (ms : Entries) : List Char :=
  objectText [("parameters", objectText [(group, objectText ms, .obj (objectMembers ms))],
    .obj [(group, .obj (objectMembers ms))])]

/-- The text up to the braces at its end. -/
def begunText (group : String) (ms : Entries) : List Char :=
  '{' :: '"' :: ("parameters".toList ++
    '"' :: ':' :: '{' :: '"' :: (group.toList ++ '"' :: ':' :: '{' :: membersText ms))

section

variable {group k text piece s : String} {ms : Entries}

theorem membersText_value (ms : Entries) (cs : List Char) (v : Json) :
    membersText (ms ++ [(k, cs, v)]) = membersText (ms ++ [(k, [], .null)]) ++ cs := by
  by_cases hne : ms = []
  · subst hne
    simp only [List.nil_append, membersText, memberText, List.append_assoc, List.cons_append]
  · simp only [JsonText.membersText_concat _ hne, memberText, List.append_assoc, List.cons_append, List.nil_append]

theorem begunText_first (ms : Entries) (v : Json) (h : piece.toList = begunText group (ms ++ [(k, [], .null)])) :
    (piece ++ s).toList = begunText group (ms ++ [(k, s.toList, v)]) := by
  simp only [String.toList_append, h, begunText, membersText_value ms s.toList v, List.append_assoc, List.cons_append]

theorem begunText_next (v : Json) (htext : text.toList = begunText group ms) (hne : ms ≠ [])
    (h : piece.toList = ',' :: memberText (k, [], .null)) :
    (text ++ piece ++ s).toList = begunText group (ms ++ [(k, s.toList, v)]) := by
  simp only [String.toList_append, htext, h, begunText, JsonText.membersText_concat _ hne, memberText,
    List.append_assoc, List.cons_append, List.nil_append]

theorem begunText_end (htext : text.toList = begunText group ms) (h : piece.toList = ['\x7d', '\x7d', '\x7d']) :
    (text ++ piece).toList = groupText group ms := by
  simp only [String.toList_append, htext, h, begunText, groupText, objectText, membersText, memberText,
    List.append_assoc, List.cons_append, List.nil_append]

end

theorem parse_group {s group : String} (ms : Entries) {vs : List (String × Json)}
    (hs : s.toList = groupText group ms) (hvs : objectMembers ms = vs) (hgroup : ∀ c ∈ group.toList, Literal c)
    (hne : ms ≠ []) (h : ∀ m ∈ ms, (∀ c ∈ m.1.toList, Literal c) ∧ Writes m.2.1 m.2.2) :
    parse s = some (Json.nest ["parameters", group] (.obj vs)) := by
  refine parse_of_writes ?_
  rw [hs, ← hvs]
  exact JsonText.writes_single (by decide) (JsonText.writes_single hgroup (JsonText.writes_object hne h))

theorem literal_parameters : ∀ s ∈ ["scanMode", "intensityEnabled", "uniformSpacingEnabled", "exposureMode",
    "singleExposure", "scanLengthMm", "enabled"], ∀ c ∈ s.toList, Literal c := by
  decide

theorem literal_scanModeSettings : ∀ c ∈ "scanModeSettings".toList, Literal c := by decide

theorem literal_exposureSettings : ∀ c ∈ "exposureSettings".toList, Literal c := by decide

theorem scanModePayload_toList (n : Int) (intensityEnabled uniformSpacingEnabled : Bool) (u v w : Json) :
    (Settings.scanModePayload n intensityEnabled uniformSpacingEnabled).toList = groupText "scanModeSettings"
      [("scanMode", (toString n).toList, u), ("intensityEnabled", (boolText intensityEnabled).toList, v),
        ("uniformSpacingEnabled", (boolText uniformSpacingEnabled).toList, w)] :=
  begunText_end (begunText_next w (begunText_next v (begunText_first [] u (by decide)) (List.cons_ne_nil _ _)
    (by decide)) (List.cons_ne_nil _ _) (by decide)) (by decide)

theorem exposurePayload_toList (s : String) (v : Json) :
    ("\x7b\"parameters\":\x7b\"exposureSettings\":\x7b\"exposureMode\":0,\"singleExposure\":" ++ s ++
      "\x7d\x7d\x7d").toList = groupText "exposureSettings"
        [("exposureMode", ['0'], .num 0), ("singleExposure", s.toList, v)] :=
  begunText_end (begunText_first [("exposureMode", ['0'], .num 0)] v (by decide)) (by decide)

theorem lengthPayload_toList (s : String) (v : Json) :
    ("\x7b\"parameters\":\x7b\"scanModeSettings\":\x7b\"scanLengthMm\":" ++ s ++ "\x7d\x7d\x7d").toList =
      groupText "scanModeSettings" [("scanLengthMm", s.toList, v)] :=
  begunText_end (begunText_first [] v (by decide)) (by decide)

theorem members_scanModeSettings (a b c : List Char) (v w x : Json) :
    objectMembers [("scanMode", a, v), ("intensityEnabled", b, w), ("uniformSpacingEnabled", c, x)] =
      [("intensityEnabled", w), ("scanMode", v), ("uniformSpacingEnabled", x)] := by
  have hfirst : "intensityEnabled" < "scanMode" := by decide
  have hlast : "scanMode" < "uniformSpacingEnabled" := by decide
  simp only [objectMembers, List.foldl_cons, List.foldl_nil, SortedMap.set_nil]
  rw [SortedMap.set_cons_of_lt hfirst, SortedMap.set_cons_of_gt (hfirst.trans hlast), SortedMap.set_cons_of_gt hlast,
    SortedMap.set_nil]

theorem parse_scanModePayload (args : GrabArguments) :
    parse (Settings.scanModePayload (if args.scanMode = .surfaceMode then 3 else 2) args.intensityEnabled
      args.uniformSpacingEnabled) = some (Json.nest ["parameters", "scanModeSettings"]
        (.obj [("intensityEnabled", args.rounded.value .intensityEnabled), ("scanMode", args.rounded.value .scanMode),
          ("uniformSpacingEnabled", args.rounded.value .uniformSpacingEnabled)])) := by
  refine parse_group [("scanMode", (args.text .scanMode).toList, args.rounded.value .scanMode),
    ("intensityEnabled", (args.text .intensityEnabled).toList, args.rounded.value .intensityEnabled),
    ("uniformSpacingEnabled", (args.text .uniformSpacingEnabled).toList, args.rounded.value .uniformSpacingEnabled)]
    ?_ (members_scanModeSettings ..) literal_scanModeSettings (List.cons_ne_nil _ _) fun m hm => ?_
  · exact scanModePayload_toList ..
  · simp only [List.mem_cons, List.not_mem_nil, or_false] at hm
    rcases hm with rfl | rfl | rfl
    · exact ⟨literal_parameters _ (by simp), writes_text args .scanMode⟩
    · exact ⟨literal_parameters _ (by simp), writes_text args .intensityEnabled⟩
    · exact ⟨literal_parameters _ (by simp), writes_text args .uniformSpacingEnabled⟩

theorem parse_exposurePayload (args : GrabArguments) :
    parse ("\x7b\"parameters\":\x7b\"exposureSettings\":\x7b\"exposureMode\":0,\"singleExposure\":" ++
      toString args.exposureUs ++ "\x7d\x7d\x7d") = some (Json.nest ["parameters", "exposureSettings"]
        (.obj [("exposureMode", .num 0), ("singleExposure", args.rounded.value .exposureUs)])) := by
  refine parse_group [("exposureMode", ['0'], .num 0),
    ("singleExposure", (args.text .exposureUs).toList, args.rounded.value .exposureUs)]
    ?_ (JsonText.objectMembers_pair (by decide) ..) literal_exposureSettings (List.cons_ne_nil _ _) fun m hm => ?_
  · exact exposurePayload_toList ..
  · simp only [List.mem_cons, List.not_mem_nil, or_false] at hm
    rcases hm with rfl | rfl
    · have hzero : Writes ['0'] (.num ((0 : Int) : Rat)) := JsonText.writes_int 0
      rw [Int.cast_zero] at hzero
      exact ⟨literal_parameters _ (by simp), hzero⟩
    · exact ⟨literal_parameters _ (by simp), writes_text args .exposureUs⟩

theorem parse_lengthPayload (args : GrabArguments) :
    parse ("\x7b\"parameters\":\x7b\"scanModeSettings\":\x7b\"scanLengthMm\":" ++ args.printed.scanLengthMm ++
      "\x7d\x7d\x7d") = some (Json.nest ["parameters", "scanModeSettings"]
        (.obj [("scanLengthMm", args.rounded.value .scanLengthMm)])) := by
  refine parse_group [("scanLengthMm", (args.text .scanLengthMm).toList, args.rounded.value .scanLengthMm)]
    ?_ rfl literal_scanModeSettings (List.cons_ne_nil _ _) fun m hm => ?_
  · exact lengthPayload_toList ..
  · rw [List.mem_singleton.1 hm]
    exact ⟨literal_parameters _ (by simp), writes_text args .scanLengthMm⟩

theorem parse_enabled : parse "\x7b\"enabled\": true\x7d" = some (Json.nest ["enabled"] (.bool true)) := by
  have htext : "\x7b\"enabled\": true\x7d".toList =
      objectText [("enabled", ' ' :: "true".toList, .bool true)] := by
    simp only [objectText, JsonText.membersText, JsonText.memberText, List.append_assoc, List.cons_append]
    rfl
  refine parse_of_writes ?_
  rw [htext]
  exact JsonText.writes_single (literal_parameters _ (by simp)) JsonText.writes_true.space

/-! ## Updates that are accepted -/

variable {rejects : String → Bool} {D : Settings.Device}

theorem update_accepted {path : String} {payload : Json} (h : accepts rejects D path = true) :
    update rejects path payload D = .ok () (patched [(path, payload)] D) := by
  obtain ⟨t, ht, hu⟩ := Settings.update_accepted payload h
  rw [hu, Settings.patched_cons [] ht, Settings.patched_nil]

theorem afterUpdates_eq {us : List (String × String)} {ps : List (String × Json)}
    (h : List.Forall₂ (fun u p => u.1 = p.1 ∧ parse u.2 = some p.2) us ps) :
    ∀ {D : Settings.Device}, (∀ p ∈ ps, accepts rejects D p.1 = true) → afterUpdates rejects us D = patched ps D := by
  induction h with
  | nil => exact fun _ => Settings.patched_nil.symm
  | @cons u p us ps hup hrest ih =>
    intro D hacc
    obtain ⟨path, payload⟩ := u
    obtain ⟨rfl, hparse⟩ := hup
    have hp := hacc p (List.mem_cons_self ..)
    simp only [afterUpdates, hparse, update_accepted hp]
    rw [ih fun q hq => by rw [Settings.accepts_patched]; exact hacc q (List.mem_cons_of_mem _ hq)]
    exact (Settings.patched_append [p] ps).symm

theorem exists_targetPath (engineId : String) (target : ParameterTarget) :
    ∃ tail, targetPath engineId target = "/scan/engines/" ++ tail := by
  have hscanner : targetPath engineId .scanner = "/scan/engines/" ++ (engineId ++ "/scanners/scanner-0") :=
    String.append_assoc
  have hsensor : targetPath engineId .sensor = targetPath engineId .scanner ++ "/sensors/sensor-0" := rfl
  cases target with
  | scanner => exact ⟨_, hscanner⟩
  | sensor => exact ⟨_, (hsensor.trans (congrArg (· ++ "/sensors/sensor-0") hscanner)).trans String.append_assoc⟩

theorem targetPath_ne_visibleSensors (engineId : String) (target : ParameterTarget) :
    targetPath engineId target ≠ "/scan/visibleSensors/" := by
  obtain ⟨tail, hpath⟩ := exists_targetPath engineId target
  intro h
  have hlist := congrArg String.toList (hpath.symm.trans h)
  have htake := congrArg (List.take 7) ((String.toList_append ..).symm.trans hlist)
  rw [List.take_append_of_le_length (by decide)] at htake
  exact absurd htake (by decide)

/-- The engine is read from a document that no parameter lives in. -/
theorem detectEngineId_patched {us : List (String × Json)} (h : ∀ u ∈ us, u.1 ≠ "/scan/visibleSensors/") :
    detectEngineId (patched us D) = detectEngineId D := by
  have hnone : Settings.patchesOf us "/scan/visibleSensors/" = [] := by
    unfold Settings.patchesOf
    rw [List.filter_eq_nil_iff.2 fun u hu => by simpa using h u hu]
    rfl
  have hread : (patched us D).read "/scan/visibleSensors/" = D.read "/scan/visibleSensors/" := by
    unfold Settings.Device.read
    rw [Settings.patched_docs, hnone]
    cases D.docs "/scan/visibleSensors/" <;> rfl
  unfold detectEngineId
  rw [hread]

/-! ## The setters -/

/-- The members that lead to the value of a parameter. -/
def Parameter.tokens : Parameter → List String
  | .scanLengthMm => ["parameters", "scanModeSettings", "scanLengthMm"]
  | .scanMode => ["parameters", "scanModeSettings", "scanMode"]
  | .exposureUs => ["parameters", "exposureSettings", "singleExposure"]
  | .intensityEnabled => ["parameters", "scanModeSettings", "intensityEnabled"]
  | .uniformSpacingEnabled => ["parameters", "scanModeSettings", "uniformSpacingEnabled"]

theorem pathTokens_path (p : Parameter) : Settings.pathTokens p.path = some p.tokens := by
  cases p <;> decide

/-- Putting a value into nothing makes the objects around it, if no name stands for a position. -/
theorem assign_null (v : Json) {tokens : List String} (h : ∀ k ∈ tokens, ¬ JsonPointer.Positional k) :
    JsonPointer.assign v tokens .null = some (Json.nest tokens v) := by
  induction tokens with
  | nil => rfl
  | cons k tokens ih =>
    rw [JsonPointer.assign, if_neg (h k (List.mem_cons_self ..)), ih fun k' hk' => h k' (List.mem_cons_of_mem _ hk')]
    rfl

theorem assign_empty (v : Json) {tokens : List String} (hne : tokens ≠ [])
    (h : ∀ k ∈ tokens, ¬ JsonPointer.Positional k) :
    JsonPointer.assign v tokens (.obj []) = some (Json.nest tokens v) := by
  obtain ⟨k, rest, rfl⟩ := List.exists_cons_of_ne_nil hne
  exact congrArg (Option.map _) (assign_null v fun k' hk' => h k' (List.mem_cons_of_mem _ hk'))

theorem parameterPatch_eq {s : String} {v : Json} (h : parse s = some v) (p : Parameter) :
    parameterPatch parse p.path s = .ok (Json.nest p.tokens v) := by
  have hassign : JsonPointer.assign v p.tokens (.obj []) = some (Json.nest p.tokens v) := by
    cases p <;> exact assign_empty v (List.cons_ne_nil _ _) (by decide)
  unfold parameterPatch Settings.setAt
  rw [h, pathTokens_path]
  simp only [Option.bind_some, hassign]

/-- What the setter of a parameter assigns. -/
def GrabArguments.assignment (engineId : String) (args : GrabArguments) (p : Parameter) : Assignment :=
  ⟨targetPath engineId p.target, p.tokens, args.rounded.value p⟩

theorem setter_eq {args : GrabArguments} {p : Parameter}
    (h : accepts rejects D (targetPath (detectEngineId D) p.target) = true) :
    args.setter true rejects p D = assigned [args.assignment (detectEngineId D) p] D := by
  unfold GrabArguments.setter setParameterValue
  rw [parameterPatch_eq (parse_of_writes (writes_text args p))]
  simp only [update_accepted h]
  rfl

theorem detectEngineId_assigned (args : GrabArguments) (engineId : String) (ps : List Parameter) :
    detectEngineId (assigned (ps.map (args.assignment engineId)) D) = detectEngineId D := by
  refine detectEngineId_patched fun u hu => ?_
  obtain ⟨a, ha, rfl⟩ := List.mem_map.1 hu
  obtain ⟨p, -, rfl⟩ := List.mem_map.1 ha
  exact targetPath_ne_visibleSensors engineId p.target

/-- The setters one after another. -/
theorem setters_eq {args : GrabArguments} : ∀ {ps : List Parameter} {D : Settings.Device},
    (∀ target, accepts rejects D (targetPath (detectEngineId D) target) = true) →
    ps.foldl (fun D p => args.setter true rejects p D) D = assigned (ps.map (args.assignment (detectEngineId D))) D
  | [], D, _ => Settings.patched_nil.symm
  | p :: ps, D, h => by
    have hengine := detectEngineId_assigned (D := D) args (detectEngineId D) [p]
    rw [List.map_singleton] at hengine
    rw [List.foldl_cons, setter_eq (h p.target), setters_eq, hengine, ← Settings.assigned_append]
    · rfl
    · intro target
      rw [hengine, assigned, Settings.accepts_patched]
      exact h target

/-! ## Configuring -/

/-- The updates that `configure` sends, as they are read. -/
def groups (engineId : String) (args : GrabArguments) : List Group :=
  [⟨targetPath engineId .scanner, ["parameters", "scanModeSettings"],
      [("intensityEnabled", args.rounded.value .intensityEnabled), ("scanMode", args.rounded.value .scanMode),
        ("uniformSpacingEnabled", args.rounded.value .uniformSpacingEnabled)]⟩,
    ⟨targetPath engineId .sensor, ["parameters", "exposureSettings"],
      [("exposureMode", .num 0), ("singleExposure", args.rounded.value .exposureUs)]⟩,
    ⟨targetPath engineId .scanner, ["parameters", "scanModeSettings"],
      [("scanLengthMm", args.rounded.value .scanLengthMm)]⟩,
    ⟨Settings.gocatorControlPath, [], [("enabled", .bool true)]⟩]

/-- What `configure` assigns. -/
def GrabArguments.assignments (engineId : String) (args : GrabArguments) : List Assignment :=
  (groups engineId args).flatMap Group.assignments

/-- What `configure` assigns beside the parameters. -/
def beside (engineId : String) : List Assignment :=
  [⟨targetPath engineId .sensor, ["parameters", "exposureSettings", "exposureMode"], .num 0⟩,
    ⟨Settings.gocatorControlPath, ["enabled"], .bool true⟩]

theorem assignments_eq (engineId : String) (args : GrabArguments) : args.assignments engineId =
    [args.assignment engineId .intensityEnabled, args.assignment engineId .scanMode,
      args.assignment engineId .uniformSpacingEnabled,
      ⟨targetPath engineId .sensor, ["parameters", "exposureSettings", "exposureMode"], .num 0⟩,
      args.assignment engineId .exposureUs, args.assignment engineId .scanLengthMm,
      ⟨Settings.gocatorControlPath, ["enabled"], .bool true⟩] := rfl

theorem scalar_assignments (engineId : String) (args : GrabArguments) :
    ∀ a ∈ args.assignments engineId, a.Scalar := by
  intro a ha
  simp only [assignments_eq, List.mem_cons, List.not_mem_nil, or_false] at ha
  rcases ha with rfl | rfl | rfl | rfl | rfl | rfl | rfl <;> exact ⟨rfl, rfl⟩

theorem apart_assignments (engineId : String) (args : GrabArguments) :
    (args.assignments engineId).Pairwise Assignment.Apart := by
  have htokens : (args.assignments engineId).map (·.tokens) = [Parameter.intensityEnabled.tokens,
      Parameter.scanMode.tokens, Parameter.uniformSpacingEnabled.tokens,
      ["parameters", "exposureSettings", "exposureMode"],
      Parameter.exposureUs.tokens, Parameter.scanLengthMm.tokens, ["enabled"]] := rfl
  refine Settings.pairwise_apart ?_
  rw [htokens]
  decide

theorem wf_groups (engineId : String) (args : GrabArguments) : ∀ g ∈ groups engineId args, g.WF := by
  have hscanMode : ["intensityEnabled", "scanMode", "uniformSpacingEnabled"].Pairwise (· < ·) := by decide
  have hexposure : ["exposureMode", "singleExposure"].Pairwise (· < ·) := by decide
  intro g hg
  simp only [groups, List.mem_cons, List.not_mem_nil, or_false] at hg
  rcases hg with rfl | rfl | rfl | rfl
  · refine .of_values hscanMode (fun v hv => ?_) (List.cons_ne_nil _ _)
    simp only [List.map_cons, List.map_nil, List.mem_cons, List.not_mem_nil, or_false] at hv
    rcases hv with rfl | rfl | rfl <;> rfl
  · refine .of_values hexposure (fun v hv => ?_) (List.cons_ne_nil _ _)
    simp only [List.map_cons, List.map_nil, List.mem_cons, List.not_mem_nil, or_false] at hv
    rcases hv with rfl | rfl <;> rfl
  · refine .of_values (List.pairwise_singleton _ _) (fun v hv => ?_) (List.cons_ne_nil _ _)
    rw [List.mem_singleton.1 hv]
    rfl
  · refine .of_values (List.pairwise_singleton _ _) (fun v hv => ?_) (List.cons_ne_nil _ _)
    rw [List.mem_singleton.1 hv]
    rfl

/-- The documents that `configure` writes to accept its updates. -/
def Accepting (rejects : String → Bool) (D : Settings.Device) : Prop :=
  (∀ target, accepts rejects D (targetPath (detectEngineId D) target) = true) ∧
    accepts rejects D Settings.gocatorControlPath = true

theorem parse_updates (engineId : String) (args : GrabArguments) :
    List.Forall₂ (fun u p => u.1 = p.1 ∧ parse u.2 = some p.2)
      (updates (configureRequests args.printed args.scanMode engineId)) ((groups engineId args).map Group.patch) := by
  have hscanMode := parse_scanModePayload args
  have hexposure := parse_exposurePayload args
  have hlength := parse_lengthPayload args
  have henabled := parse_enabled
  unfold configureRequests updates groups
  simp only [List.filterMap_cons, List.filterMap_nil, List.map_cons, List.map_nil]
  exact .cons ⟨rfl, hscanMode⟩ (.cons ⟨rfl, hexposure⟩ (.cons ⟨rfl, hlength⟩ (.cons ⟨rfl, henabled⟩ .nil)))

theorem settled_eq {args : GrabArguments} (hD : D.WF) (h : Accepting rejects D) :
    settled rejects args D = assigned (args.assignments (detectEngineId D)) D := by
  obtain ⟨htarget, hcontrol⟩ := h
  refine (afterUpdates_eq (parse_updates _ args) fun p hp => ?_).trans (Settings.patched_groups (wf_groups _ args) hD)
  simp only [groups, List.map_cons, List.map_nil, Group.patch, List.mem_cons, List.not_mem_nil, or_false] at hp
  rcases hp with rfl | rfl | rfl | rfl
  · exact htarget .scanner
  · exact htarget .sensor
  · exact htarget .scanner
  · exact hcontrol

/-- Each setter once and what `configure` assigns beside, in any order of the setters. -/
theorem perm_assignments {ps : List Parameter} (hnodup : ps.Nodup) (hall : ∀ p, p ∈ ps) (engineId : String)
    (args : GrabArguments) :
    (args.assignments engineId).Perm (ps.map (args.assignment engineId) ++ beside engineId) := by
  have hperm : [.intensityEnabled, .scanMode, .uniformSpacingEnabled, .exposureUs, .scanLengthMm].Perm ps := by
    refine (List.perm_ext_iff_of_nodup (by decide) hnodup).2 fun p => ?_
    have hmem : p ∈ [Parameter.intensityEnabled, .scanMode, .uniformSpacingEnabled, .exposureUs, .scanLengthMm] := by
      cases p <;> decide
    exact iff_of_true hmem (hall p)
  refine .trans ?_ ((hperm.map (args.assignment engineId)).append_right _)
  rw [assignments_eq]
  simp only [List.map_cons, List.map_nil, List.cons_append, List.nil_append, beside]
  refine .cons _ (.cons _ (.cons _ ?_))
  exact (@List.perm_middle Assignment _ [_, _] [_]).symm

/-- A device whose resources hold nothing. -/
def blankDevice : Settings.Device where
  docs := fun _ => some (.obj [])
  schemas := fun _ => none

def sampleArguments : GrabArguments := ⟨20, .surfaceMode, true, false, 1000⟩

theorem wf_blankDevice : blankDevice.WF := by
  rintro path j ⟨⟩
  exact Json.everywhere_obj SortedMap.sorted_nil nofun

theorem accepting_blankDevice : Accepting (fun _ => false) blankDevice := ⟨fun _ => rfl, rfl⟩

end Gocator.Features

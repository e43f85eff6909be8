/-
`configure` as a whole: the updates, and the commands that remove the outputs and add one. What a command does is the
device's, and nothing is said of the documents of the outputs; all others are left as the updates leave them.
-/
import Gocator.Lib.Exits
import Gocator.Features.Configured

namespace Gocator.Features

open Exits (answer final withState)
open Gocator.Facade (configureDevice configureRequests detectEngineId)
open Gocator.Settings (Request accepts assigned patched update)
open JsonText (parse)

/-! ## Requests -/

section

variable (command : String → Json → OnDevice) (rejects : String → Bool)

/-- One request. -/
def send : Request → OnDevice
  | .update path payload => withPayload payload (update rejects path)
  | .call path payload => withPayload payload (command path)
  | .addOutput _ payload => withPayload payload (command Settings.addOutputPath)

/-- The requests in turn, up to one that throws; what the removal of the outputs throws is caught. -/
def sendAll : List Request → OnDevice
  | [] => pure ()
  | .call path payload :: requests => do
    tryCatch (send command rejects (.call path payload)) fun _ => pure ()
    sendAll requests
  | request :: requests => do
    send command rejects request
    sendAll requests

/-- `configure`: nothing unless the facade is open, and whatever is thrown is logged. -/
def configured (isOpened : Bool) (args : GrabArguments) (D : Settings.Device) : Settings.Device :=
  if isOpened then
    final (sendAll command rejects (configureDevice D args.printed args.scanMode) D)
  else D

end

/-! ## The documents of the outputs -/

/-- The path of a resource of the outputs. -/
def OutputPath (path : String) : Prop := "/controls/gocator/outputs".toList <+: path.toList

instance (path : String) : Decidable (OutputPath path) := inferInstanceAs (Decidable (_ <+: _))

/-- The device without the documents of the outputs. -/
def withoutOutputs (D : Settings.Device) : Settings.Device :=
  { D with docs := fun path => if OutputPath path then none else D.docs path }

/-- All but the documents of the outputs is left as it was. -/
def KeepsOthers (D D' : Settings.Device) : Prop := withoutOutputs D' = withoutOutputs D

instance : Std.Refl KeepsOthers := ⟨fun _ => rfl⟩

instance : IsTrans Settings.Device KeepsOthers := ⟨fun _ _ _ h h' => h'.trans h⟩

/-- What the device promises of the commands of the outputs: returning or throwing, they change no other documents. -/
def OutputsOnly (command : String → Json → OnDevice) : Prop :=
  ∀ path payload, OutputPath path → Exits.Keeps KeepsOthers (command path payload)

variable {command : String → Json → OnDevice} {rejects : String → Bool} {D D' : Settings.Device} {path : String}

theorem withoutOutputs_docs (h : ¬ OutputPath path) (D : Settings.Device) :
    (withoutOutputs D).docs path = D.docs path :=
  if_neg h

theorem withoutOutputs_docs_of_output (h : OutputPath path) (D : Settings.Device) :
    (withoutOutputs D).docs path = none :=
  if_pos h

theorem docs_of_withoutOutputs (h : withoutOutputs D = withoutOutputs D') (hpath : ¬ OutputPath path) :
    D.docs path = D'.docs path := by
  rw [← withoutOutputs_docs hpath, h, withoutOutputs_docs hpath]

theorem wf_withoutOutputs (hD : D.WF) : (withoutOutputs D).WF := by
  intro path j hj
  by_cases h : OutputPath path
  · rw [withoutOutputs_docs_of_output h] at hj
    cases hj
  · rw [withoutOutputs_docs h] at hj
    exact hD path j hj

theorem patched_withoutOutputs (us : List (String × Json)) (D : Settings.Device) :
    patched us (withoutOutputs D) = withoutOutputs (patched us D) := by
  refine Settings.device_ext (fun path => ?_) rfl
  rw [Settings.patched_docs]
  by_cases h : OutputPath path
  · rw [withoutOutputs_docs_of_output h, withoutOutputs_docs_of_output h]
    rfl
  · rw [withoutOutputs_docs h, withoutOutputs_docs h, Settings.patched_docs]

theorem not_outputPath_target (engineId : String) (target : ParameterTarget) :
    ¬ OutputPath (targetPath engineId target) := by
  obtain ⟨tail, hpath⟩ := exists_targetPath engineId target
  intro h
  rw [OutputPath, hpath, String.toList_append] at h
  have htake := List.prefix_iff_eq_take.1 ((List.take_prefix 2 _).trans h)
  rw [List.take_append_of_le_length (by decide)] at htake
  exact absurd htake (by decide)

theorem not_outputPath_control : ¬ OutputPath Settings.gocatorControlPath := by decide

theorem detectEngineId_withoutOutputs (D : Settings.Device) : detectEngineId (withoutOutputs D) = detectEngineId D := by
  have houtput : ¬ OutputPath "/scan/visibleSensors/" := by decide
  have hdocs := withoutOutputs_docs houtput D
  unfold detectEngineId Settings.Device.read
  rw [hdocs]

theorem accepts_withoutOutputs (h : ¬ OutputPath path) :
    accepts rejects (withoutOutputs D) path = accepts rejects D path := by
  unfold accepts
  rw [withoutOutputs_docs h]

theorem accepting_withoutOutputs (h : Accepting rejects D) : Accepting rejects (withoutOutputs D) := by
  rw [Accepting, detectEngineId_withoutOutputs, accepts_withoutOutputs not_outputPath_control]
  refine ⟨fun target => ?_, h.2⟩
  rw [accepts_withoutOutputs (not_outputPath_target _ target)]
  exact h.1 target

/-! ## Requests beside the documents of the outputs -/

/-- An update elsewhere does without them what it does with them. -/
theorem update_withoutOutputs (h : ¬ OutputPath path) (payload : Json) (D : Settings.Device) :
    update rejects path payload (withoutOutputs D) =
      withState (withoutOutputs (final (update rejects path payload D))) (answer (update rejects path payload D)) := by
  unfold update
  rw [withoutOutputs_docs h]
  cases D.docs path with
  | none => rfl
  | some t =>
    dsimp only
    split
    · rfl
    · refine congrArg (EStateM.Result.ok ()) (Settings.device_ext (fun p => ?_) rfl)
      by_cases hp : p = path
      · subst hp
        rw [Settings.merged, Settings.Device.put_docs_self]
        exact ((withoutOutputs_docs h _).trans (Settings.Device.put_docs_self ..)).symm
      · rw [Settings.merged, Settings.Device.put_docs_of_ne _ _ hp]
        by_cases hout : OutputPath p
        · exact (if_pos hout).trans (if_pos hout).symm
        · rw [withoutOutputs_docs hout]
          exact ((withoutOutputs_docs hout _).trans (Settings.Device.put_docs_of_ne _ _ hp)).symm

theorem keeps_withPayload {Q : Settings.Device → Settings.Device → Prop} [Std.Refl Q] {payload : String}
    {sent : Json → OnDevice} (h : ∀ p, Exits.Keeps Q (sent p)) : Exits.Keeps Q (withPayload payload sent) := by
  unfold withPayload
  split
  · exact h _
  · exact Exits.Keeps.throw _

/-- The setter of a parameter writes no document of the outputs. -/
theorem setter_withoutOutputs (args : GrabArguments) (p : Parameter) (D : Settings.Device) :
    args.setter true rejects p (withoutOutputs D) = withoutOutputs (args.setter true rejects p D) := by
  unfold GrabArguments.setter setParameterValue
  simp only [if_true, detectEngineId_withoutOutputs]
  cases parameterPatch parse p.path (args.text p) with
  | error e => rfl
  | ok patch =>
    dsimp only
    rw [update_withoutOutputs (not_outputPath_target _ _), Exits.final_withState]

/-- The commands that remove the outputs and add one. -/
theorem keeps_commands (h : OutputsOnly command) (empty sourceId payload : String) :
    Exits.Keeps KeepsOthers
      (sendAll command rejects [.call Settings.removeAllOutputPath empty, .addOutput sourceId payload]) := by
  have hremove : Exits.Keeps KeepsOthers (send command rejects (.call Settings.removeAllOutputPath empty)) :=
    keeps_withPayload fun p => h _ p (by decide)
  have hadd : Exits.Keeps KeepsOthers (send command rejects (.addOutput sourceId payload)) :=
    keeps_withPayload fun p => h _ p (by decide)
  exact (hremove.tryCatch fun _ => Exits.Keeps.pure ()).bind fun _ => hadd.bind fun _ => Exits.Keeps.pure ()

/-- Updates elsewhere, and requests behind them that leave the other documents as they are. -/
theorem sendAll_updates {requests : List Request}
    (hrequests : Exits.Keeps KeepsOthers (sendAll command rejects requests)) :
    ∀ {us : List (String × String)} {D : Settings.Device}, (∀ u ∈ us, ¬ OutputPath u.1) →
      withoutOutputs (final (sendAll command rejects (us.map (fun u => .update u.1 u.2) ++ requests) D)) =
        afterUpdates rejects us (withoutOutputs D)
  | [], D, _ => hrequests D
  | (path, payload) :: us, D, h => by
    have hpath : ¬ OutputPath path := h _ (List.mem_cons_self ..)
    have hrun : sendAll command rejects (((path, payload) :: us).map (fun u => .update u.1 u.2) ++ requests) =
        withPayload payload (update rejects path) >>= fun _ =>
          sendAll command rejects (us.map (fun u => .update u.1 u.2) ++ requests) := rfl
    rw [hrun, afterUpdates]
    unfold withPayload
    cases parse payload with
    | none => rfl
    | some p =>
      dsimp only
      rw [update_withoutOutputs hpath]
      cases hupdate : update rejects path p D with
      | ok a D' =>
        rw [Exits.bind_ok hupdate]
        exact sendAll_updates hrequests fun u hu => h u (List.mem_cons_of_mem _ hu)
      | error e D' =>
        rw [Exits.bind_error hupdate]
        rfl

/-- Beside the outputs, `configure` leaves what its updates leave. -/
theorem configured_withoutOutputs (h : OutputsOnly command) (args : GrabArguments) (D : Settings.Device) :
    withoutOutputs (configured command rejects true args D) = settled rejects args (withoutOutputs D) := by
  have hrequests : ∀ engineId : String, configureRequests args.printed args.scanMode engineId =
      (updates (configureRequests args.printed args.scanMode engineId)).map (fun u => .update u.1 u.2) ++
        [.call Settings.removeAllOutputPath "\x7b\x7d",
         .addOutput (Facade.profileSourceForEngine engineId args.scanMode)
          ("\x7b\"source\":\"" ++ Facade.profileSourceForEngine engineId args.scanMode ++
            "\",\"outputId\":0,\"autoShift\":true\x7d")] := fun _ => rfl
  unfold configured settled configureDevice
  rw [if_pos rfl, hrequests, sendAll_updates (keeps_commands h _ _ _), detectEngineId_withoutOutputs]
  intro u hu
  simp only [configureRequests, updates, List.filterMap_cons, List.filterMap_nil, List.mem_cons, List.not_mem_nil,
    or_false] at hu
  rcases hu with rfl | rfl | rfl | rfl
  · exact not_outputPath_target _ .scanner
  · exact not_outputPath_target _ .sensor
  · exact not_outputPath_target _ .scanner
  · exact not_outputPath_control

/-! ## What is left in the documents -/

/-- With any commands of the outputs, `configure` leaves the documents of all other resources as its five setters in any
order do, with the exposure in the manual mode and the output enabled beside. -/
theorem configured_eq_setters {args : GrabArguments} {ps : List Parameter} (hcommand : OutputsOnly command) (hD : D.WF)
    (h : Accepting rejects D) (hnodup : ps.Nodup) (hall : ∀ p, p ∈ ps) {path : String} (hpath : ¬ OutputPath path) :
    (configured command rejects true args D).docs path =
      (assigned (beside (detectEngineId D)) (ps.foldl (fun D p => args.setter true rejects p D) D)).docs path := by
  have hsetters : ∀ (ps : List Parameter) (D : Settings.Device), ps.foldl (fun D p => args.setter true rejects p D)
      (withoutOutputs D) = withoutOutputs (ps.foldl (fun D p => args.setter true rejects p D) D) := by
    intro ps
    induction ps with
    | nil => exact fun _ => rfl
    | cons p ps ih =>
      intro D
      rw [List.foldl_cons, setter_withoutOutputs, ih, List.foldl_cons]
  have hwf := wf_withoutOutputs hD
  have hacc := accepting_withoutOutputs h
  refine docs_of_withoutOutputs ?_ hpath
  rw [configured_withoutOutputs hcommand, assigned, ← patched_withoutOutputs, ← hsetters, ← assigned,
    settled_eq hwf hacc,
    setters_eq hacc.1, detectEngineId_withoutOutputs, ← Settings.assigned_append]
  refine Settings.assigned_perm (perm_assignments hnodup hall _ args) hwf (fun a ha => ?_) (apart_assignments _ args)
  exact Settings.wf_of_not_obj (scalar_assignments _ args a ha).2

/-- Commands that keep one document of the outputs. -/
def sampleCommand (path : String) (payload : Json) : OnDevice := fun D =>
  .ok () (D.put "/controls/gocator/outputs/output-0" (if path = Settings.addOutputPath then payload else .null))

theorem outputsOnly_sampleCommand : OutputsOnly sampleCommand := by
  intro path payload _ D
  refine Settings.device_ext (fun p => ?_) rfl
  by_cases h : OutputPath p
  · rw [withoutOutputs_docs_of_output h, withoutOutputs_docs_of_output h]
  · rw [withoutOutputs_docs h, withoutOutputs_docs h]
    refine Settings.Device.put_docs_of_ne _ _ ?_
    rintro rfl
    exact h (by decide)

theorem configured_eq_setters_blank :
    (configured sampleCommand (fun _ => false) true sampleArguments blankDevice).docs Settings.gocatorControlPath =
      (assigned (beside (detectEngineId blankDevice))
        ([.scanLengthMm, .scanMode, .exposureUs, .intensityEnabled, .uniformSpacingEnabled].foldl
          (fun D p => sampleArguments.setter true (fun _ => false) p D) blankDevice)).docs
          Settings.gocatorControlPath :=
  configured_eq_setters outputsOnly_sampleCommand wf_blankDevice accepting_blankDevice (by decide)
    (fun p => by cases p <;> decide) not_outputPath_control

/-- The members on a path are followed by a pointer. -/
theorem resolve_of_at? {v : Json} : ∀ {tokens : List String} {j : Json}, Json.at? tokens j = some v →
    JsonPointer.resolve tokens j = some v
  | [], _, h => h
  | k :: tokens, j, h => by
    obtain ⟨w, hw, hv⟩ := Option.bind_eq_some_iff.1 h
    cases j with
    | obj ms =>
      have hget : SortedMap.get? k ms = some w := hw
      rw [JsonPointer.resolve, hget, Option.bind_some]
      exact resolve_of_at? hv
    | _ => cases hw

/-- After `configure`, with any commands of the outputs, every parameter is found in the document of its target with its
value, the scan length rounded to six places, and every place of every document of another resource that is not assigned
has its value kept. -/
theorem configured_values {args : GrabArguments} (hcommand : OutputsOnly command) (hD : D.WF)
    (h : Accepting rejects D) :
    (∀ p : Parameter, ∃ j,
      (configured command rejects true args D).docs (targetPath (detectEngineId D) p.target) = some j ∧
        Settings.valueAt j p.path = .ok (args.rounded.value p)) ∧
    ∀ path t, ¬ OutputPath path → D.docs path = some t →
      ∃ j, (configured command rejects true args D).docs path = some j ∧ ∀ tokens : List String,
        (∀ a ∈ args.assignments (detectEngineId D), a.path = path → Json.Apart a.tokens tokens) →
          Json.at? tokens j = Json.at? tokens t := by
  have hleft : withoutOutputs (configured command rejects true args D) =
      withoutOutputs (assigned (args.assignments (detectEngineId D)) D) := by
    rw [configured_withoutOutputs hcommand, settled_eq (wf_withoutOutputs hD) (accepting_withoutOutputs h),
      detectEngineId_withoutOutputs]
    exact patched_withoutOutputs _ D
  constructor
  · intro p
    rw [docs_of_withoutOutputs hleft (not_outputPath_target _ p.target)]
    have hmem : args.assignment (detectEngineId D) p ∈ args.assignments (detectEngineId D) := by
      rw [assignments_eq]
      cases p <;> simp
    obtain ⟨t, ht⟩ : ∃ t, D.docs (targetPath (detectEngineId D) p.target) = some t := by
      have hacc := h.1 p.target
      rw [accepts, Bool.and_eq_true] at hacc
      exact Option.isSome_iff_exists.1 hacc.1
    obtain ⟨j, hj, hat⟩ := Settings.at?_assigned hmem (apart_assignments _ args) (scalar_assignments _ args) ht
    refine ⟨j, hj, ?_⟩
    have hresolve : JsonPointer.resolve p.tokens j = some (args.rounded.value p) := resolve_of_at? hat
    unfold Settings.valueAt
    rw [pathTokens_path, Option.bind_some, hresolve]
  · intro path t hpath ht
    rw [docs_of_withoutOutputs hleft hpath]
    exact Settings.at?_assigned_of_apart _ ht

theorem configured_values_blank : ∃ j, (configured sampleCommand (fun _ => false) true sampleArguments blankDevice).docs
    (targetPath (detectEngineId blankDevice) Parameter.scanMode.target) = some j ∧
      Settings.valueAt j Parameter.scanMode.path = .ok (sampleArguments.rounded.value .scanMode) :=
  (configured_values outputsOnly_sampleCommand wf_blankDevice accepting_blankDevice).1 .scanMode

end Gocator.Features

/-
Any history of `configure` and the five setters. Beside the documents of the outputs each call is a list of
assignments to seven places that are apart from each other, so of what a history leaves in these documents every
place has the value written to it last, and a `configure` at the end leaves no trace of what was written before.
-/
import Gocator.Features.Outputs

namespace Gocator.Features

open Gocator.Facade (detectEngineId)
open Gocator.Settings (Assignment accepts assigned lastAssigned)

/-! ## Calls -/

/-- `configure`, or the setter of a parameter with the argument that `args` has for it. -/
inductive ScanCall where
  | configure (args : GrabArguments)
  | set (p : Parameter) (args : GrabArguments)

section

variable (command : String → Json → OnDevice) (rejects : String → Bool)

/-- One call of an open facade. -/
def ScanCall.run : ScanCall → Settings.Device → Settings.Device
  | .configure args, D => configured command rejects true args D
  | .set p args, D => args.setter true rejects p D

/-- The device after the calls. -/
def afterCalls (calls : List ScanCall) (D : Settings.Device) : Settings.Device :=
  calls.foldl (fun D c => c.run command rejects D) D

end

def ScanCall.assignments (engineId : String) : ScanCall → List Assignment
  | .configure args => args.assignments engineId
  | .set p args => [args.assignment engineId p]

/-- The value that a call writes of a parameter. -/
def ScanCall.written (p : Parameter) : ScanCall → Option Json
  | .configure args => some (args.rounded.value p)
  | .set q args => if q = p then some (args.rounded.value p) else none

/-- The value of a parameter that was written last. -/
def lastWritten (p : Parameter) (calls : List ScanCall) : Option Json := (calls.filterMap (·.written p)).getLast?

/-- The places that the calls write: those of the parameters, the exposure mode and the output. -/
def places (engineId : String) : List (String × List String) :=
  [(targetPath engineId .scanner, Parameter.intensityEnabled.tokens),
    (targetPath engineId .scanner, Parameter.scanMode.tokens),
    (targetPath engineId .scanner, Parameter.uniformSpacingEnabled.tokens),
    (targetPath engineId .sensor, ["parameters", "exposureSettings", "exposureMode"]),
    (targetPath engineId .sensor, Parameter.exposureUs.tokens),
    (targetPath engineId .scanner, Parameter.scanLengthMm.tokens), (Settings.gocatorControlPath, ["enabled"])]

/-! ## The assignments of a call -/

variable {command : String → Json → OnDevice} {rejects : String → Bool} {D : Settings.Device} {engineId : String}
  {c : ScanCall} {calls : List ScanCall}

theorem places_assignments (engineId : String) (args : GrabArguments) :
    (args.assignments engineId).map (fun a => (a.path, a.tokens)) = places engineId := rfl

theorem ScanCall.assignments_sub (a : Assignment) (ha : a ∈ c.assignments engineId) :
    ∃ args : GrabArguments, a ∈ args.assignments engineId := by
  cases c with
  | configure args => exact ⟨args, ha⟩
  | set p args =>
    refine ⟨args, ?_⟩
    rw [List.mem_singleton.1 ha, assignments_eq]
    cases p <;> simp

theorem ScanCall.scalar (a : Assignment) (ha : a ∈ c.assignments engineId) : a.Scalar := by
  obtain ⟨args, ha⟩ := ScanCall.assignments_sub a ha
  exact scalar_assignments engineId args a ha

theorem ScanCall.place_mem (a : Assignment) (ha : a ∈ c.assignments engineId) :
    (a.path, a.tokens) ∈ places engineId := by
  obtain ⟨args, ha⟩ := ScanCall.assignments_sub a ha
  rw [← places_assignments engineId args]
  exact List.mem_map_of_mem ha

/-- A place is that of a parameter or apart from it. -/
theorem tokens_apart (p : Parameter) : ∀ place ∈ places engineId, place.2 = p.tokens ∨ Json.Apart place.2 p.tokens := by
  have htokens : ∀ tokens ∈ [Parameter.intensityEnabled.tokens, Parameter.scanMode.tokens,
      Parameter.uniformSpacingEnabled.tokens, ["parameters", "exposureSettings", "exposureMode"],
      Parameter.exposureUs.tokens, Parameter.scanLengthMm.tokens, ["enabled"]],
      tokens = p.tokens ∨ Json.Apart tokens p.tokens := by
    cases p <;> decide
  intro place hplace
  exact htokens place.2 (List.mem_map_of_mem (f := Prod.snd) hplace)

theorem places_ne_visibleSensors : ∀ place ∈ places engineId, place.1 ≠ "/scan/visibleSensors/" := by
  intro place hplace
  simp only [places, List.mem_cons, List.not_mem_nil, or_false] at hplace
  rcases hplace with rfl | rfl | rfl | rfl | rfl | rfl | rfl
  · exact targetPath_ne_visibleSensors engineId .scanner
  · exact targetPath_ne_visibleSensors engineId .scanner
  · exact targetPath_ne_visibleSensors engineId .scanner
  · exact targetPath_ne_visibleSensors engineId .sensor
  · exact targetPath_ne_visibleSensors engineId .sensor
  · exact targetPath_ne_visibleSensors engineId .scanner
  · decide

theorem written_eq (engineId : String) (p : Parameter) (c : ScanCall) :
    ((c.assignments engineId).filter fun a =>
      a.path = targetPath engineId p.target ∧ a.tokens = p.tokens).map (·.value) =
      (c.written p).toList := by
  cases c with
  | configure args =>
    rw [ScanCall.assignments, assignments_eq]
    cases p <;> simp [GrabArguments.assignment, Parameter.tokens, ScanCall.written]
  | set q args =>
    by_cases hq : q = p
    · subst hq
      simp [ScanCall.assignments, GrabArguments.assignment, ScanCall.written]
    · have htokens : q.tokens ≠ p.tokens := by
        revert hq
        cases q <;> cases p <;> decide
      simp [ScanCall.assignments, GrabArguments.assignment, ScanCall.written, hq, htokens]

/-! ## Runs of calls -/

/-- A call, beside the documents of the outputs. -/
theorem run_eq (hcommand : OutputsOnly command) (hD : (withoutOutputs D).WF)
    (h : Accepting rejects (withoutOutputs D)) :
    withoutOutputs (c.run command rejects D) = assigned (c.assignments (detectEngineId D)) (withoutOutputs D) := by
  cases c with
  | configure args =>
    refine (configured_withoutOutputs hcommand args D).trans ?_
    rw [settled_eq hD h, detectEngineId_withoutOutputs]
    rfl
  | set p args =>
    refine (setter_withoutOutputs args p D).symm.trans ?_
    rw [setter_eq (h.1 p.target), detectEngineId_withoutOutputs]
    rfl

theorem detectEngineId_places {as : List Assignment} (h : ∀ a ∈ as, (a.path, a.tokens) ∈ places engineId) :
    detectEngineId (assigned as D) = detectEngineId D := by
  refine detectEngineId_patched fun u hu => ?_
  obtain ⟨a, ha, rfl⟩ := List.mem_map.1 hu
  exact places_ne_visibleSensors _ (h a ha)

theorem accepting_assigned {as : List Assignment} (h : Accepting rejects D)
    (has : ∀ a ∈ as, (a.path, a.tokens) ∈ places engineId) : Accepting rejects (assigned as D) := by
  unfold Accepting
  rw [detectEngineId_places has, assigned, Settings.accepts_patched]
  exact h

/-- A history is the assignments of its calls one after another. -/
theorem afterCalls_eq (hcommand : OutputsOnly command) : ∀ {calls : List ScanCall} {D : Settings.Device},
    (withoutOutputs D).WF → Accepting rejects (withoutOutputs D) → withoutOutputs (afterCalls command rejects calls D) =
      assigned (calls.flatMap (·.assignments (detectEngineId D))) (withoutOutputs D)
  | [], D, _, _ => Settings.patched_nil.symm
  | c :: calls, D, hD, h => by
    have hstep := run_eq (c := c) hcommand hD h
    have hplaces : ∀ a ∈ c.assignments (detectEngineId D),
        (a.path, a.tokens) ∈ places (detectEngineId (withoutOutputs D)) := fun a ha => by
      rw [detectEngineId_withoutOutputs]
      exact c.place_mem a ha
    have hengine : detectEngineId (c.run command rejects D) = detectEngineId D := by
      rw [← detectEngineId_withoutOutputs, hstep, detectEngineId_places hplaces, detectEngineId_withoutOutputs]
    have hwf : (withoutOutputs (c.run command rejects D)).WF := by
      rw [hstep]
      exact Settings.wf_assigned hD fun a ha => Settings.wf_of_not_obj (c.scalar a ha).2
    have hacc : Accepting rejects (withoutOutputs (c.run command rejects D)) := by
      rw [hstep]
      exact accepting_assigned h hplaces
    have ih : withoutOutputs (afterCalls command rejects calls (c.run command rejects D)) = _ :=
      afterCalls_eq hcommand hwf hacc
    rw [hengine, hstep, ← Settings.assigned_append] at ih
    exact ih

theorem lastAssigned_calls (engineId : String) (p : Parameter) (calls : List ScanCall) :
    lastAssigned (calls.flatMap (·.assignments engineId)) (targetPath engineId p.target) p.tokens =
      lastWritten p calls := by
  unfold lastAssigned lastWritten
  refine congrArg List.getLast? ?_
  induction calls with
  | nil => rfl
  | cons c calls ih =>
    rw [List.flatMap_cons, List.filter_append, List.map_append, ih, written_eq, List.filterMap_cons]
    cases c.written p <;> rfl

/-- Whatever the commands of the outputs do to the documents of the outputs: after any history of calls every parameter
has the value that was written to it last, or the one it had when none was; all of the other documents that is apart
from the seven places is as it was; and a `configure` at the end leaves these documents as if nothing had been called
before. -/
theorem scan_history (hcommand : OutputsOnly command) (hD : D.WF) (h : Accepting rejects D) (calls : List ScanCall) :
    (∀ (p : Parameter) t, D.docs (targetPath (detectEngineId D) p.target) = some t →
      ∃ j, (afterCalls command rejects calls D).docs (targetPath (detectEngineId D) p.target) = some j ∧
        Json.at? p.tokens j = (lastWritten p calls).or (Json.at? p.tokens t)) ∧
    (∀ path t, ¬ OutputPath path → D.docs path = some t →
      ∃ j, (afterCalls command rejects calls D).docs path = some j ∧ ∀ tokens : List String,
        (∀ place ∈ places (detectEngineId D), place.1 = path → Json.Apart place.2 tokens) →
          Json.at? tokens j = Json.at? tokens t) ∧
    ∀ (args : GrabArguments) path, ¬ OutputPath path →
      (configured command rejects true args (afterCalls command rejects calls D)).docs path =
        (configured command rejects true args D).docs path := by
  have hmem : ∀ a ∈ calls.flatMap (·.assignments (detectEngineId D)),
      (a.path, a.tokens) ∈ places (detectEngineId D) ∧ a.Scalar := by
    intro a ha
    obtain ⟨c, -, ha⟩ := List.mem_flatMap.1 ha
    exact ⟨c.place_mem a ha, c.scalar a ha⟩
  have hwf := wf_withoutOutputs hD
  have hacc := accepting_withoutOutputs h
  have hleft : withoutOutputs (afterCalls command rejects calls D) =
      withoutOutputs (assigned (calls.flatMap (·.assignments (detectEngineId D))) D) := by
    rw [afterCalls_eq hcommand hwf hacc]
    exact patched_withoutOutputs _ D
  refine ⟨fun p t ht => ?_, fun path t hpath ht => ?_, fun args path hpath => ?_⟩
  · rw [docs_of_withoutOutputs hleft (not_outputPath_target _ p.target), ← lastAssigned_calls (detectEngineId D)]
    exact Settings.at?_assigned_last (fun a ha => ⟨fun _ => tokens_apart p _ (hmem a ha).1, (hmem a ha).2⟩) ht
  · rw [docs_of_withoutOutputs hleft hpath]
    obtain ⟨j, hj, hkept⟩ := Settings.at?_assigned_of_apart (calls.flatMap (·.assignments (detectEngineId D))) ht
    exact ⟨j, hj, fun tokens hapart => hkept tokens fun a ha => hapart _ (hmem a ha).1⟩
  · have hplaces := fun a ha => (hmem a ha).1
    have hscalar := fun a ha => (hmem a ha).2
    have hwf' := Settings.wf_assigned hD fun a ha => Settings.wf_of_not_obj (hscalar a ha).2
    refine docs_of_withoutOutputs ?_ hpath
    rw [configured_withoutOutputs hcommand, configured_withoutOutputs hcommand, hleft,
      settled_eq (wf_withoutOutputs hwf') (accepting_withoutOutputs (accepting_assigned h hplaces)),
      settled_eq hwf hacc,
      detectEngineId_withoutOutputs, detectEngineId_withoutOutputs, detectEngineId_places hplaces]
    refine (patched_withoutOutputs _ _).trans ((congrArg withoutOutputs ?_).trans (patched_withoutOutputs _ _).symm)
    refine Settings.assigned_overwritten (apart_assignments _ args) (scalar_assignments _ args) hD hscalar
      fun a ha => ?_
    have hplace := hplaces a ha
    rw [← places_assignments _ args] at hplace
    obtain ⟨b, hb, hab⟩ := List.mem_map.1 hplace
    exact ⟨b, hb, (congrArg Prod.fst hab).symm, (congrArg Prod.snd hab).symm⟩

/-- The scan length is set between two configurations. -/
def sampleCalls : List ScanCall :=
  [.configure sampleArguments, .set .scanLengthMm { sampleArguments with scanLengthMm := 35 }]

theorem scan_history_blank : ∃ j, (afterCalls sampleCommand (fun _ => false) sampleCalls blankDevice).docs
    (targetPath (detectEngineId blankDevice) .scanner) = some j ∧
      Json.at? Parameter.scanLengthMm.tokens j = some (.num (Decimal.fixed 6 35)) :=
  (scan_history outputsOnly_sampleCommand wf_blankDevice accepting_blankDevice sampleCalls).1 .scanLengthMm _ rfl

end Gocator.Features

/-
Applying a configuration again. `applyConfig` stops at the first update of the scanner or the sensor that
fails and passes over the tools that reject theirs, so an attempt can leave the device half configured.
Every attempt is a sequence of merge patches taken from one plan, and the plan absorbs its own patches:
the attempt that gets furthest leaves the device as if it had been the only one.
-/
import Gocator.Lib.MergePatch
import Gocator.Settings.Restore

namespace Gocator.Settings

open Exits (bind_ok)

/-! ## The plan of a configuration -/

/-- An update to make; what it throws may be caught. -/
structure Planned where
  path : String
  payload : Json
  caught : Bool

/-- The updates of a plan in turn. -/
def runPlan (rejects : String → Bool) : List Planned → EStateM Error Device Unit
  | [] => pure ()
  | u :: us => do
    if u.caught then tryCatch (update rejects u.path u.payload) fun _ => pure ()
    else update rejects u.path u.payload
    runPlan rejects us

def planScanner (config : ParameterSet) (scanner : ScannerInfo) : List Planned :=
  match config.getParameter "scanner" with
  | .ok P => [⟨scanner.scannerPath, parametersPatch P, false⟩]
  | .error _ => []

def planScannerRoot (config : ParameterSet) (scanner : ScannerInfo) : List Planned :=
  match config.getParameter "scannerRoot" with
  | .ok R => if R.size > 0 then [⟨scanner.scannerPath, R, false⟩] else []
  | .error _ => []

def planSensor (config : ParameterSet) (scanner : ScannerInfo) : List Planned :=
  match config.getParameter "sensor" with
  | .ok P => [⟨scanner.sensorPath, parametersPatch P, false⟩]
  | .error _ => []

def planTools (config : ParameterSet) : List Planned :=
  match config.getParameter "tools" with
  | .ok T =>
    match entries T with
    | .ok tools => tools.map fun e => ⟨toolPath e.1, parametersPatch e.2, true⟩
    | .error _ => []
  | .error _ => []

/-- The updates `applyConfig` makes, if the device accepts them. -/
def plan (config : ParameterSet) (scanner : ScannerInfo) : List Planned :=
  planScanner config scanner ++ (planScannerRoot config scanner ++ (planSensor config scanner ++ planTools config))

section

variable {rejects : String → Bool} {config : ParameterSet} {scanner : ScannerInfo} {D : Device}

theorem runPlan_append (us vs : List Planned) :
    runPlan rejects (us ++ vs) = runPlan rejects us >>= fun _ => runPlan rejects vs := by
  induction us with
  | nil => rfl
  | cons u us ih =>
    simp only [List.cons_append, runPlan, ih]
    split <;> exact (bind_assoc ..).symm

theorem runPlan_single {path : String} {payload : Json} :
    runPlan rejects [⟨path, payload, false⟩] = update rejects path payload := by
  simp only [runPlan, Bool.false_eq_true, if_false]
  exact bind_pure _

theorem applyScanner_eq : applyScanner rejects config scanner = runPlan rejects (planScanner config scanner) := by
  unfold applyScanner planScanner ParameterSet.hasParameter
  cases config.getParameter "scanner" with
  | error e => rfl
  | ok P =>
    rw [runPlan_single]
    simp only [if_true, compute, pure_bind, updateParameters_eq]

theorem applyScannerRoot_eq :
    applyScannerRoot rejects config scanner = runPlan rejects (planScannerRoot config scanner) := by
  unfold applyScannerRoot planScannerRoot ParameterSet.hasParameter
  cases config.getParameter "scannerRoot" with
  | error e => rfl
  | ok R =>
    simp only [if_true, compute, pure_bind]
    split
    · rw [runPlan_single]
    · rfl

theorem applySensor_eq : applySensor rejects config scanner = runPlan rejects (planSensor config scanner) := by
  unfold applySensor planSensor ParameterSet.hasParameter
  cases config.getParameter "sensor" with
  | error e => rfl
  | ok P =>
    rw [runPlan_single]
    simp only [if_true, compute, pure_bind, updateParameters_eq]

theorem updateTools_eq (tools : List (String × Json)) :
    updateTools rejects tools = runPlan rejects (tools.map fun e => ⟨toolPath e.1, parametersPatch e.2, true⟩) := by
  induction tools with
  | nil => rfl
  | cons e tools ih => simp only [updateTools, List.map_cons, runPlan, if_true, ih, updateParameters_eq]

theorem applyTools_eq : applyTools rejects config = runPlan rejects (planTools config) := by
  unfold applyTools planTools ParameterSet.hasParameter
  cases config.getParameter "tools" with
  | error e => rfl
  | ok T =>
    simp only [if_true, compute, pure_bind]
    cases entries T with
    | error e => rfl
    | ok tools => exact updateTools_eq tools

/-- `applyConfig` runs its plan for the scanner it finds. -/
theorem applyConfig_eq (h : detectPrimaryScanner D = .ok scanner) :
    applyConfig rejects config D = runPlan rejects (plan config scanner) D := by
  have hget : (get : EStateM Error Device Device) D = .ok D D := rfl
  have hscanner : compute (detectPrimaryScanner D) D = .ok scanner D := by rw [h]; rfl
  unfold applyConfig
  rw [bind_ok hget, bind_ok hscanner, plan, runPlan_append, runPlan_append, runPlan_append, applyScanner_eq,
    applyScannerRoot_eq, applySensor_eq, applyTools_eq]

theorem applyConfig_error {e : Error} (h : detectPrimaryScanner D = .error e) :
    applyConfig rejects config D = .error e D := by
  have hget : (get : EStateM Error Device Device) D = .ok D D := rfl
  unfold applyConfig
  rw [bind_ok hget, h]
  rfl

/-! ## What a plan does to the device -/

/-- The update is accepted: the resource is there and the device does not reject it. -/
def accepts (rejects : String → Bool) (D : Device) (path : String) : Bool :=
  (D.docs path).isSome && !rejects path

/-- The patches that get into the device. -/
def done (accepted : String → Bool) : List Planned → List (String × Json)
  | [] => []
  | u :: us =>
    if accepted u.path then (u.path, u.payload) :: done accepted us
    else if u.caught then done accepted us
    else []

/-- What ends the plan early. -/
def failure (accepted : String → Bool) : List Planned → Option Error
  | [] => none
  | u :: us => if accepted u.path || u.caught then failure accepted us else some (.response u.path)

/-- The patches for one resource, in turn. -/
def patchesOf (us : List (String × Json)) (path : String) : List Json :=
  (us.filter (·.1 = path)).map (·.2)

/-- The device after these patches. -/
def patched (us : List (String × Json)) (D : Device) : Device :=
  { D with docs := fun path => (D.docs path).map fun t => Json.mergePatches t (patchesOf us path) }

theorem patched_nil : patched [] D = D := by
  show { D with docs := fun path => (D.docs path).map fun t => t } = D
  simp only [Option.map_id']

theorem patched_docs (us : List (String × Json)) (path : String) :
    (patched us D).docs path = (D.docs path).map fun t => Json.mergePatches t (patchesOf us path) := rfl

theorem device_ext {D D' : Device} (hd : ∀ path, D.docs path = D'.docs path) (hs : D.schemas = D'.schemas) :
    D = D' := by
  cases D
  cases D'
  cases funext hd
  cases hs
  rfl

theorem patched_cons {path : String} {payload t : Json} (us : List (String × Json)) (h : D.docs path = some t) :
    patched ((path, payload) :: us) D = patched us (merged D path t payload) := by
  refine device_ext (fun p => ?_) rfl
  rw [patched_docs, patched_docs]
  by_cases hp : p = path
  · rw [hp, h, merged, Device.put_docs_self]
    simp [patchesOf]
  · rw [merged, Device.put_docs_of_ne _ _ hp]
    simp [patchesOf, Ne.symm hp]

theorem accepts_merged {path : String} {payload t : Json} (h : D.docs path = some t) :
    accepts rejects (merged D path t payload) = accepts rejects D := by
  funext p
  unfold accepts
  by_cases hp : p = path
  · rw [hp, merged, Device.put_docs_self, h]
    rfl
  · rw [merged, Device.put_docs_of_ne _ _ hp]

theorem accepts_patched (us : List (String × Json)) : accepts rejects (patched us D) = accepts rejects D := by
  funext p
  unfold accepts
  rw [patched_docs, Option.isSome_map]

/-- How a run of a plan ends. -/
def ended (D : Device) : Option Error → EStateM.Result Error Device Unit
  | none => .ok () D
  | some e => .error e D

theorem update_accepted {path : String} (payload : Json) (h : accepts rejects D path = true) :
    ∃ t, D.docs path = some t ∧ update rejects path payload D = .ok () (merged D path t payload) := by
  unfold accepts at h
  rw [Bool.and_eq_true, Bool.not_eq_true'] at h
  obtain ⟨t, ht⟩ := Option.isSome_iff_exists.1 h.1
  exact ⟨t, ht, update_ok _ ht h.2⟩

theorem update_refused {path : String} (payload : Json) (h : accepts rejects D path = false) :
    update rejects path payload D = .error (.response path) D := by
  unfold update
  cases hd : D.docs path with
  | none => rfl
  | some t =>
    have hr : rejects path = true := by
      unfold accepts at h
      rw [hd] at h
      simpa using h
    simp only [hr, if_true]

/-- A run of a plan makes the patches that are accepted, up to the first failure that is not caught. -/
theorem runPlan_eq (us : List Planned) : ∀ D : Device, runPlan rejects us D =
    ended (patched (done (accepts rejects D) us) D) (failure (accepts rejects D) us) := by
  induction us with
  | nil =>
    intro D
    simp only [done, failure, patched_nil]
    rfl
  | cons u us ih =>
    intro D
    obtain ⟨path, payload, caught⟩ := u
    cases ha : accepts rejects D path with
    | true =>
      obtain ⟨t, ht, hu⟩ := update_accepted payload ha
      have hrun : runPlan rejects (⟨path, payload, caught⟩ :: us) D = runPlan rejects us (merged D path t payload) := by
        cases caught
        · simp only [runPlan, Bool.false_eq_true, if_false]
          exact bind_ok hu
        · simp only [runPlan, if_true]
          refine bind_ok (a := ()) ?_
          simp only [tryCatch, tryCatchThe, MonadExceptOf.tryCatch, EStateM.tryCatch, hu]
      rw [hrun, ih, accepts_merged ht]
      simp only [done, failure, ha, if_true, Bool.true_or, patched_cons _ ht]
    | false =>
      have hu := update_refused payload ha
      cases caught
      · simp only [runPlan, done, failure, ha, Bool.false_eq_true, if_false, Bool.or_self, patched_nil]
        simp only [bind, EStateM.bind, hu]
        rfl
      · have hrun : runPlan rejects (⟨path, payload, true⟩ :: us) D = runPlan rejects us D := by
          simp only [runPlan, if_true]
          refine bind_ok (a := ()) ?_
          simp only [tryCatch, tryCatchThe, MonadExceptOf.tryCatch, EStateM.tryCatch, hu]
          rfl
        rw [hrun, ih]
        simp only [done, failure, ha, Bool.false_eq_true, if_false, if_true, Bool.or_true]

/-! ## A plan absorbs its own patches -/

/-- What a less willing device accepts of a plan, a more willing one accepts too. -/
theorem done_mono {accepted accepted' : String → Bool} (h : ∀ path, accepted path = true → accepted' path = true) :
    ∀ us : List Planned, ∀ e ∈ done accepted us, e ∈ done accepted' us
  | [], e, he => by cases he
  | u :: us, e, he => by
    unfold done at he ⊢
    by_cases ha : accepted u.path = true
    · rw [if_pos ha] at he
      rw [if_pos (h _ ha)]
      rcases List.mem_cons.1 he with rfl | he
      · exact List.mem_cons_self ..
      · exact List.mem_cons_of_mem _ (done_mono h us e he)
    · rw [if_neg ha] at he
      by_cases hc : u.caught = true
      · rw [if_pos hc] at he
        have hrest := done_mono h us e he
        by_cases ha' : accepted' u.path = true
        · rw [if_pos ha']
          exact List.mem_cons_of_mem _ hrest
        · rw [if_neg ha', if_pos hc]
          exact hrest
      · rw [if_neg hc] at he
        cases he

theorem mem_plan_of_done {accepted : String → Bool} : ∀ {us : List Planned} {e : String × Json}, e ∈ done accepted us →
    ∃ u ∈ us, u.path = e.1 ∧ u.payload = e.2
  | u :: us, e, he => by
    have htail : e ∈ done accepted us → ∃ u' ∈ u :: us, u'.path = e.1 ∧ u'.payload = e.2 := by
      intro he
      obtain ⟨u', hu', h⟩ := mem_plan_of_done he
      exact ⟨u', List.mem_cons_of_mem _ hu', h⟩
    unfold done at he
    split at he
    · rcases List.mem_cons.1 he with rfl | he
      · exact ⟨u, List.mem_cons_self .., rfl, rfl⟩
      · exact htail he
    · split at he
      · exact htail he
      · cases he

theorem mem_patchesOf {us : List (String × Json)} {path : String} {p : Json} :
    p ∈ patchesOf us path ↔ (path, p) ∈ us := by
  unfold patchesOf
  simp only [List.mem_map, List.mem_filter, decide_eq_true_eq]
  constructor
  · rintro ⟨⟨q, v⟩, ⟨hm, rfl⟩, rfl⟩
    exact hm
  · intro hm
    exact ⟨(path, p), ⟨hm, rfl⟩, rfl⟩

/-- Patches that were made before leave no trace once all patches are made. -/
theorem patched_absorb {us vs : List (String × Json)} (hD : D.WF) (hw : ∀ e ∈ us, e.2.WF) (hv : ∀ e ∈ vs, e ∈ us) :
    patched us (patched vs D) = patched us D := by
  refine device_ext (fun path => ?_) rfl
  rw [patched_docs, patched_docs, patched_docs]
  cases hd : D.docs path with
  | none => rfl
  | some t =>
    refine congrArg some (Json.mergePatches_absorb (hD path t hd) (fun p hp => ?_) fun p hp => ?_)
    · exact hw _ (mem_patchesOf.1 hp)
    · exact mem_patchesOf.2 (hv _ (mem_patchesOf.1 hp))

theorem wf_patched {us : List (String × Json)} (hD : D.WF) (hw : ∀ e ∈ us, e.2.WF) : (patched us D).WF := by
  intro path j hj
  rw [patched_docs] at hj
  obtain ⟨t, ht, rfl⟩ := Option.map_eq_some_iff.1 hj
  exact Json.wf_mergePatches (hD path t ht) fun p hp => hw _ (mem_patchesOf.1 hp)

/-! ## The plan and the device it finds -/

/-- The primary scanner is read from one resource. -/
theorem detect_congr {D D' : Device} (h : D'.docs "/scan/visibleSensors/" = D.docs "/scan/visibleSensors/") :
    detectPrimaryScanner D' = detectPrimaryScanner D := by
  unfold detectPrimaryScanner Device.read
  rw [h]

theorem engines_ne_visibleSensors (rest : String) : "/scan/engines/" ++ rest ≠ "/scan/visibleSensors/" := by
  intro h
  have hl := congrArg String.toList h
  rw [String.toList_append] at hl
  cases hl

theorem toolPath_ne_visibleSensors (id : String) : toolPath id ≠ "/scan/visibleSensors/" := by
  intro h
  have hl := congrArg String.toList h
  simp only [toolPath, String.toList_append] at hl
  cases hl

/-- Every parameter of a well-formed configuration is well-formed. -/
theorem wf_getParameter {name : String} {v : Json} (hc : config.data.WF) (ho : config.data.isObj = true)
    (hn : JsonPointer.Plain name) (h : config.getParameter name = .ok v) : v.WF := by
  obtain ⟨data⟩ := config
  cases data with
  | obj ms =>
    unfold ParameterSet.getParameter valueAt at h
    rw [pathTokens_plain hn, Option.bind_some, JsonPointer.resolve_member] at h
    split at h <;> cases h
    rename_i hg
    exact hc.get? hg
  | _ => cases ho

theorem wf_parametersPatch {P : Json} (h : P.WF) : (parametersPatch P).WF :=
  Json.everywhere_single (List.pairwise_singleton _ _) h

/-- What the updates of a plan have in common. -/
structure Sound (u : Planned) : Prop where
  payload : u.payload.WF
  path : u.path ≠ "/scan/visibleSensors/"

theorem sound_plan (hc : config.data.WF) (ho : config.data.isObj = true)
    (hscan : detectPrimaryScanner D = .ok scanner) :
    ∀ u ∈ plan config scanner, Sound u := by
  obtain ⟨engineId, model, serialNumber, rfl⟩ := detect_ofSensor hscan
  have hscanner : (ScannerInfo.ofSensor engineId model serialNumber).scannerPath ≠ "/scan/visibleSensors/" := by
    simp only [ScannerInfo.ofSensor, String.append_assoc]
    exact engines_ne_visibleSensors _
  have hsensor : (ScannerInfo.ofSensor engineId model serialNumber).sensorPath ≠ "/scan/visibleSensors/" := by
    simp only [ScannerInfo.ofSensor, String.append_assoc]
    exact engines_ne_visibleSensors _
  have hwf : ∀ {name v}, JsonPointer.Plain name → config.getParameter name = .ok v → v.WF :=
    fun hn h => wf_getParameter hc ho hn h
  intro u hu
  simp only [plan, List.mem_append] at hu
  rcases hu with hu | hu | hu | hu
  · unfold planScanner at hu
    split at hu
    · rename_i P hP
      rw [List.mem_singleton.1 hu]
      exact ⟨wf_parametersPatch (hwf (by decide) hP), hscanner⟩
    · cases hu
  · unfold planScannerRoot at hu
    split at hu
    · rename_i R hR
      split at hu
      · rw [List.mem_singleton.1 hu]
        exact ⟨hwf (by decide) hR, hscanner⟩
      · cases hu
    · cases hu
  · unfold planSensor at hu
    split at hu
    · rename_i P hP
      rw [List.mem_singleton.1 hu]
      exact ⟨wf_parametersPatch (hwf (by decide) hP), hsensor⟩
    · cases hu
  · unfold planTools at hu
    split at hu
    · rename_i T hT
      have hw : T.WF := hwf (by decide) hT
      split at hu
      · rename_i tools ht
        obtain ⟨⟨id, P⟩, he, rfl⟩ := List.mem_map.1 hu
        refine ⟨wf_parametersPatch ?_, toolPath_ne_visibleSensors _⟩
        cases T with
        | obj ms =>
          cases ht
          exact hw.get? (SortedMap.get?_of_mem hw.here he)
        | null => cases ht; cases he
        | arr items =>
          cases items with
          | nil => cases ht; cases he
          | cons _ _ => cases ht
        | _ => cases ht
      · cases hu
    · cases hu

/-! ## Attempts -/

/-- The device after an attempt to apply a configuration, whether it succeeds or not. -/
def attempted (config : ParameterSet) (D : Device) (rejects : String → Bool) : Device :=
  match applyConfig rejects config D with
  | .ok _ D' => D'
  | .error _ D' => D'

/-- An attempt makes some of the patches of the plan. -/
theorem attempted_eq (hscan : detectPrimaryScanner D = .ok scanner) :
    attempted config D rejects = patched (done (accepts rejects D) (plan config scanner)) D := by
  unfold attempted
  rw [applyConfig_eq hscan, runPlan_eq]
  cases failure (accepts rejects D) (plan config scanner) <;> rfl

theorem sound_done (hs : ∀ u ∈ plan config scanner, Sound u) {accepted : String → Bool} :
    ∀ e ∈ done accepted (plan config scanner), e.2.WF ∧ e.1 ≠ "/scan/visibleSensors/" := by
  intro e he
  obtain ⟨u, hu, hpath, hpayload⟩ := mem_plan_of_done he
  rw [← hpath, ← hpayload]
  exact ⟨(hs u hu).payload, (hs u hu).path⟩

theorem wf_attempted (hD : D.WF) (hc : config.data.WF) (ho : config.data.isObj = true) :
    (attempted config D rejects).WF := by
  cases hscan : detectPrimaryScanner D with
  | error e =>
    unfold attempted
    rw [applyConfig_error hscan]
    exact hD
  | ok scanner =>
    rw [attempted_eq hscan]
    exact wf_patched hD fun e he => (sound_done (sound_plan hc ho hscan) e he).1

/-- An attempt after one that got no further does what it does alone: it returns or throws the same and
leaves the same device. -/
theorem applyConfig_attempted {rejects' : String → Bool} (hD : D.WF) (hc : config.data.WF)
    (ho : config.data.isObj = true) (h : ∀ path, rejects path = true → rejects' path = true) :
    applyConfig rejects config (attempted config D rejects') = applyConfig rejects config D := by
  cases hscan : detectPrimaryScanner D with
  | error e =>
    have hsame : attempted config D rejects' = D := by
      unfold attempted
      rw [applyConfig_error hscan]
    rw [hsame]
  | ok scanner =>
    have hs := sound_plan hc ho hscan
    rw [attempted_eq hscan]
    -- the first attempt has left the list of sensors alone
    have hsame : detectPrimaryScanner (patched (done (accepts rejects' D) (plan config scanner)) D) = .ok scanner := by
      rw [← hscan]
      refine detect_congr ?_
      have hnone : patchesOf (done (accepts rejects' D) (plan config scanner)) "/scan/visibleSensors/" = [] := by
        refine List.eq_nil_iff_forall_not_mem.2 fun p hp => ?_
        exact (sound_done hs _ (mem_patchesOf.1 hp)).2 rfl
      rw [patched_docs, hnone]
      exact Option.map_id'
    rw [applyConfig_eq hsame, applyConfig_eq hscan, runPlan_eq, runPlan_eq, accepts_patched]
    refine congrArg (ended · _) (patched_absorb hD (fun e he => (sound_done hs e he).1) ?_)
    refine done_mono (fun path ha => ?_) _
    unfold accepts at ha ⊢
    rw [Bool.and_eq_true, Bool.not_eq_true'] at ha ⊢
    refine ⟨ha.1, ?_⟩
    by_contra hr
    rw [h path (Bool.eq_false_iff.not_left.1 hr)] at ha
    cases ha.2

end

/-- After any number of attempts, none of which was rejected less than the last one is, the last one does
what it would have done alone: it returns or throws the same and leaves the same device. -/
theorem applyConfig_retry {rejects : String → Bool} {config : ParameterSet} (earlier : List (String → Bool))
    (hc : config.data.WF) (ho : config.data.isObj = true)
    (h : ∀ r ∈ earlier, ∀ path, rejects path = true → r path = true) : ∀ D : Device, D.WF →
    applyConfig rejects config (earlier.foldl (attempted config) D) = applyConfig rejects config D := by
  induction earlier with
  | nil => exact fun _ _ => rfl
  | cons r earlier ih =>
    intro D hD
    rw [List.foldl_cons, ih (fun r' hr' => h r' (List.mem_cons_of_mem _ hr')) _ (wf_attempted hD hc ho)]
    exact applyConfig_attempted hD hc ho (h r (List.mem_cons_self ..))

theorem wf_sampleDevice (q : Rat) : (sampleDevice (sampleDoc q) q).WF := by
  intro path j hj
  rcases sample_docs hj hj with ⟨-, hw, -⟩ | ⟨rfl, -⟩ | ⟨rfl, -⟩
  · exact hw
  · exact (replaceable_sampleDoc q q).wf
  · exact (replaceable_parameters q q).wf

/-- Parameters for the sensor and for two tools. -/
def sampleConfig : ParameterSet :=
  ⟨.obj [("sensor", .num 3), ("tools", .obj [("t0", .num 3), ("t1", .num 3)])]⟩

/-- The first attempt is stopped at the sensor, the second one passes over a tool. -/
theorem applyConfig_retry_sample :
    applyConfig (fun _ => false) sampleConfig
        ([fun path => path == sampleScanner.sensorPath, fun path => path == "/tools/t1"].foldl (attempted sampleConfig)
          (sampleDevice (sampleDoc 2) 2)) =
      applyConfig (fun _ => false) sampleConfig (sampleDevice (sampleDoc 2) 2) := by
  refine applyConfig_retry _ ?_ rfl (fun _ _ _ h => by cases h) _ (wf_sampleDevice 2)
  have hnum : ∀ {l : List (String × Json)}, SortedMap.Sorted l → (∀ e ∈ l, ∃ q, e.2 = .num q) → (Json.obj l).WF := by
    intro l hs hl
    exact (replaceable_numbers rfl hs hs hl hl).wf
  refine Json.everywhere_obj (List.pairwise_pair.2 (by show "sensor" < "tools"; decide)) fun e he => ?_
  rcases List.mem_pair.1 he with rfl | rfl
  · exact Json.everywhere_of_not_obj rfl SortedMap.sorted_nil
  · refine hnum (List.pairwise_pair.2 (by show "t0" < "t1"; decide)) fun e he => ?_
    rcases List.mem_pair.1 he with rfl | rfl <;> exact ⟨_, rfl⟩

end Gocator.Settings

/-
Restoring a snapshot. A device that has the resources of the device the snapshot was taken from,
with documents of the same shape, gets back the scanner, sensor and root settings and the
parameters of every tool it accepts an update of; nothing else changes, and the order of the two
updates of the scanner does not matter.
-/
import Gocator.Lib.Exits
import Gocator.Settings.Snapshot

namespace Gocator.Settings

open Exits (bind_ok)
open JsonPointer (Plain)

/-! ## Restoring a document -/

/-- `j` can be restored over `t`: they have the same member names wherever both hold objects, `j` holds no
null, and `j` is an object if `t` is one. -/
structure Replaceable (j t : Json) : Prop where
  wf : j.WF
  wfTarget : t.WF
  noNull : j.NoNull
  shape : j.SameShape t
  object : t.isObj = true → j.isObj = true

namespace Replaceable

theorem merge_member {j t v : Json} {k : String} (h : Replaceable j t) (hv : j.get? k = some v) :
    Json.mergePatch ((t.get? k).getD .null) v = v := by
  refine Json.mergePatch_eq v _ (Json.wf_getD h.wfTarget k) (h.wf.get? hv) (h.noNull.get? hv) ?_
  cases ht : t.get? k with
  | none => exact Json.sameShape_of_not_obj rfl
  | some w => exact h.shape.symm.get? ht hv

theorem absent {j t : Json} {k : String} (h : Replaceable j t) (hv : j.get? k = none) : t.get? k = none := by
  cases ht : t.get? k with
  | none => rfl
  | some w =>
    have hobj := Json.isObj_of_get? ht
    have hk := h.shape.keys (h.object hobj) hobj k
    simp only [Json.hasKey, hv, ht, Option.isSome_none, Option.isSome_some] at hk
    cases hk

/-- The parameters that were read replace those of the target. -/
theorem parameters {j t : Json} (h : Replaceable j t) :
    Json.mergePatch ((t.get? "parameters").getD .null) ((j.get? "parameters").getD (.obj [])) =
      (j.get? "parameters").getD (.obj []) := by
  cases hv : j.get? "parameters" with
  | none =>
    rw [h.absent hv]
    rfl
  | some v => exact h.merge_member hv

end Replaceable

/-- The document after the update with the root settings, which is left out when there are none. -/
def rootPatched (root : List (String × Json)) (t : Json) : Json :=
  if root.length > 0 then Json.mergePatch t (.obj root) else t

theorem sorted_single (P : Json) : SortedMap.Sorted [("parameters", P)] := List.pairwise_singleton _ _

theorem get?_parametersPatch {t P : Json} (hP : P.isNull = false) :
    (Json.mergePatch t (parametersPatch P)).get? "parameters" =
      some (Json.mergePatch ((t.get? "parameters").getD .null) P) := by
  rw [parametersPatch, Json.get?_mergePatch (sorted_single P), SortedMap.get?_cons_self]
  simp only [hP, Bool.false_eq_true, if_false]

theorem get?_parametersPatch_of_ne {t P : Json} {k : String} (hk : k ≠ "parameters") :
    (Json.mergePatch t (parametersPatch P)).get? k = t.get? k := by
  rw [parametersPatch, Json.get?_mergePatch (sorted_single P), SortedMap.get?_cons_of_ne hk]
  rfl

theorem get?_rootPatched {root : List (String × Json)} {t : Json} (hs : SortedMap.Sorted root) (k : String) :
    (rootPatched root t).get? k = match SortedMap.get? k root with
      | none => t.get? k
      | some v => if v.isNull then none else some (Json.mergePatch ((t.get? k).getD .null) v) := by
  unfold rootPatched
  split
  · exact Json.get?_mergePatch hs k
  · rename_i hlen
    obtain rfl : root = [] := List.length_eq_zero_iff.1 (by omega)
    rfl

/-- The two updates of the scanner commute. -/
theorem rootPatched_comm {root : List (String × Json)} {t P : Json} (ht : t.WF) (hs : SortedMap.Sorted root)
    (hroot : SortedMap.get? "parameters" root = none) :
    rootPatched root (Json.mergePatch t (parametersPatch P)) =
      Json.mergePatch (rootPatched root t) (parametersPatch P) := by
  unfold rootPatched
  split
  · refine Json.mergePatch_comm ht (sorted_single P) hs fun k => ?_
    by_cases hk : k = "parameters"
    · exact .inr (hk ▸ hroot)
    · exact .inl (SortedMap.get?_cons_of_ne hk P [])
  · rfl

/-! ## The updates of the scanner and the sensor -/

@[simp] theorem put_put (D : Device) (path : String) (a b : Json) : (D.put path a).put path b = D.put path b := by
  unfold Device.put
  congr 1
  funext p
  by_cases hp : p = path
  · simp only [hp, if_true]
  · simp only [hp, if_false]

theorem put_self {D : Device} {path : String} {t : Json} (h : D.docs path = some t) : D.put path t = D := by
  unfold Device.put
  congr 1
  funext p
  by_cases hp : p = path
  · simp only [hp, if_true, h]
  · simp only [hp, if_false]

section

variable {rejects : String → Bool} {config : ParameterSet} {scanner : ScannerInfo} {D : Device} {t P : Json}

theorem applyScanner_ok (hP : config.getParameter "scanner" = .ok P) (ht : D.docs scanner.scannerPath = some t)
    (hr : rejects scanner.scannerPath = false) :
    applyScanner rejects config scanner D =
      .ok () (D.put scanner.scannerPath (Json.mergePatch t (parametersPatch P))) := by
  unfold applyScanner ParameterSet.hasParameter
  simp only [hP, if_true, compute, pure_bind, updateParameters_eq]
  exact update_ok _ ht hr

theorem applyScannerRoot_ok {root : List (String × Json)} (hR : config.getParameter "scannerRoot" = .ok (.obj root))
    (ht : D.docs scanner.scannerPath = some t) (hr : rejects scanner.scannerPath = false) :
    applyScannerRoot rejects config scanner D = .ok () (D.put scanner.scannerPath (rootPatched root t)) := by
  unfold applyScannerRoot ParameterSet.hasParameter rootPatched
  simp only [hR, if_true, compute, pure_bind]
  by_cases hlen : root.length > 0
  · rw [if_pos (show (Json.obj root).size > 0 from hlen), if_pos hlen]
    exact update_ok _ ht hr
  · rw [if_neg (show ¬ (Json.obj root).size > 0 from hlen), if_neg hlen, put_self ht]
    rfl

theorem applySensor_ok (hP : config.getParameter "sensor" = .ok P) (ht : D.docs scanner.sensorPath = some t)
    (hr : rejects scanner.sensorPath = false) :
    applySensor rejects config scanner D =
      .ok () (D.put scanner.sensorPath (Json.mergePatch t (parametersPatch P))) := by
  unfold applySensor ParameterSet.hasParameter
  simp only [hP, if_true, compute, pure_bind, updateParameters_eq]
  exact update_ok _ ht hr

theorem applyTools_ok {tools : List (String × Json)} (hT : config.getParameter "tools" = .ok (.obj tools)) :
    applyTools rejects config D = updateTools rejects tools D := by
  unfold applyTools ParameterSet.hasParameter
  simp only [hT, if_true, compute, pure_bind]
  rfl

end

/-! ## The paths -/

theorem detect_ofSensor {D : Device} {scanner : ScannerInfo} (h : detectPrimaryScanner D = .ok scanner) :
    ∃ engineId model serialNumber, scanner = .ofSensor engineId model serialNumber := by
  unfold detectPrimaryScanner at h
  obtain ⟨sensorsRoot, -, h⟩ := bind_eq_ok h
  obtain ⟨sensors, -, h⟩ := bind_eq_ok h
  split at h
  · cases h
  · obtain ⟨_, -, h⟩ := bind_eq_ok h
    obtain ⟨sensor, -, h⟩ := bind_eq_ok h
    obtain ⟨_, -, h⟩ := bind_eq_ok h
    obtain ⟨_, -, h⟩ := bind_eq_ok h
    obtain ⟨_, -, h⟩ := bind_eq_ok h
    obtain ⟨_, -, h⟩ := bind_eq_ok h
    obtain ⟨_, -, h⟩ := bind_eq_ok h
    cases h
    exact ⟨_, _, _, rfl⟩

theorem scannerPath_ne_sensorPath (engineId model serialNumber : String) :
    (ScannerInfo.ofSensor engineId model serialNumber).scannerPath ≠
      (ScannerInfo.ofSensor engineId model serialNumber).sensorPath := by
  intro h
  have hl := congrArg String.length h
  simp only [ScannerInfo.ofSensor, String.length_append] at hl
  have : "/sensors/sensor-0".length = 17 := rfl
  omega

/-- No tool lies under `/scan`. -/
theorem toolPath_ne_scan (id rest : String) : toolPath id ≠ "/scan/engines/" ++ rest := by
  intro h
  have hl := congrArg String.toList h
  simp only [toolPath, String.toList_append] at hl
  cases hl

theorem toolPath_ne {scanner : ScannerInfo} {D : Device} (h : detectPrimaryScanner D = .ok scanner) (id : String) :
    toolPath id ≠ scanner.scannerPath ∧ toolPath id ≠ scanner.sensorPath := by
  obtain ⟨engineId, model, serialNumber, rfl⟩ := detect_ofSensor h
  simp only [ScannerInfo.ofSensor, String.append_assoc]
  exact ⟨toolPath_ne_scan _ _, toolPath_ne_scan _ _⟩

/-! ## The round trip -/

/-- `D'` has the resources of `D` that a snapshot is about, with documents over which those of `D` can be
restored. -/
structure Comparable (D D' : Device) (scanner : ScannerInfo) : Prop where
  primary : detectPrimaryScanner D' = .ok scanner
  scannerDoc : ∃ j t, D.docs scanner.scannerPath = some j ∧ D'.docs scanner.scannerPath = some t ∧ Replaceable j t
  sensorDoc : ∃ j t, D.docs scanner.sensorPath = some j ∧ D'.docs scanner.sensorPath = some t ∧ Replaceable j t
  toolDoc : ∀ id ∈ listTools D, ∃ j t,
    D.docs (toolPath id) = some j ∧ D'.docs (toolPath id) = some t ∧ Replaceable j t

/-- `D''` is `D'` with the settings of `D`, but for the tools whose update was rejected. -/
structure Restored (rejects : String → Bool) (D D' D'' : Device) (scanner : ScannerInfo) : Prop where
  scannerParameters : readParameters D'' scanner.scannerPath = readParameters D scanner.scannerPath
  sensorParameters : readParameters D'' scanner.sensorPath = readParameters D scanner.sensorPath
  rootMembers : ∀ k, rootMember D scanner.scannerPath k = true → k ≠ "parameters" →
    (D''.docs scanner.scannerPath).bind (·.get? k) = (D.docs scanner.scannerPath).bind (·.get? k)
  accepted : ∀ id ∈ listTools D, rejects (toolPath id) = false →
    readToolParameters D'' id = readToolParameters D id
  rejected : ∀ id ∈ listTools D, rejects (toolPath id) = true → D''.docs (toolPath id) = D'.docs (toolPath id)
  other : ∀ path, path ≠ scanner.scannerPath → path ≠ scanner.sensorPath →
    (∀ id ∈ listTools D, path ≠ toolPath id) → D''.docs path = D'.docs path
  schemas : D''.schemas = D'.schemas

/-- The parameters read from a document that got the parameters of `j` are those of `j`. -/
theorem readParameters_restored {D D'' : Device} {path : String} {j t u P : Json} (hj : D.docs path = some j)
    (hr : Replaceable j t) (hP : readParameters D path = .ok P) (hu : D''.docs path = some u)
    (hg : P.isNull = false → u.get? "parameters" = some (Json.mergePatch ((t.get? "parameters").getD .null) P)) :
    readParameters D'' path = readParameters D path := by
  rw [hP, readParameters_eq hu]
  rw [readParameters_eq hj] at hP
  cases hP
  have hnull : ((j.get? "parameters").getD (.obj [])).isNull = false := by
    cases hp : j.get? "parameters" with
    | none => rfl
    | some v => exact (hr.noNull.get? hp).here
  rw [hg hnull, hr.parameters]
  rfl

/-- The document of the scanner after both updates. -/
theorem root_restored {D : Device} {scanner : ScannerInfo} {config : ParameterSet} {P S j t : Json}
    {root tools : List (String × Json)} (h : Taken D scanner config P S root tools)
    (hj : D.docs scanner.scannerPath = some j) (hr : Replaceable j t) {k : String}
    (hk : rootMember D scanner.scannerPath k = true) (hne : k ≠ "parameters") :
    (rootPatched root (Json.mergePatch t (parametersPatch P))).get? k = j.get? k := by
  obtain ⟨data, hdata, hroot⟩ := h.rootRead
  cases hj.symm.trans hdata
  rw [get?_rootPatched h.rootSorted, hroot k, if_pos ⟨hne, hk⟩, get?_parametersPatch_of_ne hne]
  cases hv : j.get? k with
  | none => exact hr.absent hv
  | some v => simp only [(hr.noNull.get? hv).here, Bool.false_eq_true, if_false, hr.merge_member hv]

theorem Taken.root_parameters {D : Device} {scanner : ScannerInfo} {config : ParameterSet} {P S : Json}
    {root tools : List (String × Json)} (h : Taken D scanner config P S root tools) :
    SortedMap.get? "parameters" root = none := by
  obtain ⟨data, -, hroot⟩ := h.rootRead
  rw [hroot]
  exact if_neg fun h => h.1 rfl

/-- The four updates, as changes of the device. -/
theorem applyConfig_ok {rejects : String → Bool} {D D' : Device} {scanner : ScannerInfo} {config : ParameterSet}
    {P S j t : Json} {root tools : List (String × Json)} (h : Taken D scanner config P S root tools)
    (hscan : detectPrimaryScanner D' = .ok scanner) (hpath : scanner.scannerPath ≠ scanner.sensorPath)
    (hj : D'.docs scanner.scannerPath = some j) (ht : D'.docs scanner.sensorPath = some t) (hwf : j.WF)
    (hacc : rejects scanner.scannerPath = false) (hacc' : rejects scanner.sensorPath = false) :
    let D₂ := (D'.put scanner.scannerPath (rootPatched root (Json.mergePatch j (parametersPatch P)))).put
      scanner.sensorPath (Json.mergePatch t (parametersPatch S))
    applyConfig rejects config D' = updateTools rejects tools D₂ ∧
      applyConfigRootFirst rejects config D' = updateTools rejects tools D₂ := by
  have hget : (get : EStateM Error Device Device) D' = .ok D' D' := rfl
  have hscanner : compute (detectPrimaryScanner D') D' = .ok scanner D' := by rw [hscan]; rfl
  have hsensor : ∀ u, (D'.put scanner.scannerPath u).docs scanner.sensorPath = some t :=
    fun u => (Device.put_docs_of_ne _ _ hpath.symm).trans ht
  refine ⟨?_, ?_⟩
  · unfold applyConfig
    rw [bind_ok hget, bind_ok hscanner, bind_ok (applyScanner_ok h.scannerKept hj hacc),
      bind_ok (applyScannerRoot_ok h.rootKept (Device.put_docs_self ..) hacc), put_put,
      bind_ok (applySensor_ok h.sensorKept (hsensor _) hacc'), applyTools_ok h.toolsKept]
  · unfold applyConfigRootFirst
    rw [bind_ok hget, bind_ok hscanner, bind_ok (applyScannerRoot_ok h.rootKept hj hacc),
      bind_ok (applyScanner_ok h.scannerKept (Device.put_docs_self ..) hacc), put_put,
      bind_ok (applySensor_ok h.sensorKept (hsensor _) hacc'), applyTools_ok h.toolsKept,
      rootPatched_comm hwf h.rootSorted h.root_parameters]

/-- Restoring a snapshot of `D` on a device that is comparable with it. -/
theorem snapshot_restore {rejects : String → Bool} {D D' : Device} {scanner : ScannerInfo} {config : ParameterSet}
    (hscan : detectPrimaryScanner D = .ok scanner) (hc : Comparable D D' scanner)
    (hacc : rejects scanner.scannerPath = false) (hacc' : rejects scanner.sensorPath = false)
    (hroot : ∀ k, rootMember D scanner.scannerPath k = true → Plain k) (hids : ∀ id ∈ listTools D, Plain id)
    (hsnap : readAllConfig D = .ok config) :
    ∃ D'', applyConfig rejects config D' = .ok () D'' ∧ applyConfigRootFirst rejects config D' = .ok () D'' ∧
      Restored rejects D D' D'' scanner := by
  obtain ⟨P, S, root, tools, h⟩ := readAllConfig_ok hscan hroot hids hsnap
  obtain ⟨j, t, hj, ht, hr⟩ := hc.scannerDoc
  obtain ⟨js, ts, hjs, hts, hrs⟩ := hc.sensorDoc
  have hpath : scanner.scannerPath ≠ scanner.sensorPath := by
    obtain ⟨engineId, model, serialNumber, rfl⟩ := detect_ofSensor hscan
    exact scannerPath_ne_sensorPath _ _ _
  obtain ⟨hrun, hrun'⟩ := applyConfig_ok h hc.primary hpath ht hts hr.wfTarget hacc hacc'
  obtain ⟨D'', hD, hsch, hout, hin⟩ := @updateTools_ok rejects _ ((D'.put scanner.scannerPath
    (rootPatched root (Json.mergePatch t (parametersPatch P)))).put scanner.sensorPath
      (Json.mergePatch ts (parametersPatch S))) h.toolsSorted
  -- the loop over the tools leaves the documents under `/scan` alone
  have hscanner : D''.docs scanner.scannerPath = some (rootPatched root (Json.mergePatch t (parametersPatch P))) := by
    rw [hout _ fun e _ => .inl (toolPath_ne hscan e.1).1.symm, Device.put_docs_of_ne _ _ hpath,
      Device.put_docs_self]
  have hsensor : D''.docs scanner.sensorPath = some (Json.mergePatch ts (parametersPatch S)) := by
    rw [hout _ fun e _ => .inl (toolPath_ne hscan e.1).2.symm, Device.put_docs_self]
  have hbefore : ∀ path, path ≠ scanner.scannerPath → path ≠ scanner.sensorPath →
      ((D'.put scanner.scannerPath (rootPatched root (Json.mergePatch t (parametersPatch P)))).put
        scanner.sensorPath (Json.mergePatch ts (parametersPatch S))).docs path = D'.docs path :=
    fun path h₁ h₂ => (Device.put_docs_of_ne _ _ h₂).trans (Device.put_docs_of_ne _ _ h₁)
  have hlisted : ∀ e ∈ tools, e.1 ∈ listTools D := by
    intro e he
    by_contra hne
    have hget := SortedMap.get?_of_mem h.toolsSorted he
    rw [h.toolsOut e.1 hne] at hget
    cases hget
  refine ⟨D'', hrun.trans hD, hrun'.trans hD, ?_, ?_, ?_, ?_, ?_, ?_, hsch⟩
  · refine readParameters_restored hj hr h.scannerRead hscanner fun hP => ?_
    rw [get?_rootPatched h.rootSorted, h.root_parameters]
    exact get?_parametersPatch hP
  · exact readParameters_restored hjs hrs h.sensorRead hsensor get?_parametersPatch
  · intro k hk hne
    rw [hscanner, hj]
    exact root_restored h hj hr hk hne
  · intro id hid hrej
    obtain ⟨ji, ti, hji, hti, hri⟩ := hc.toolDoc id hid
    obtain ⟨Q, hQ, hg⟩ := h.toolsRead id hid
    have hmem := SortedMap.mem_of_get? hg
    have hdoc := hin _ hmem hrej ti ((hbefore _ (toolPath_ne hscan id).1 (toolPath_ne hscan id).2).trans hti)
    exact readParameters_restored hji hri hQ hdoc get?_parametersPatch
  · intro id hid hrej
    rw [hout _ fun e _ => .inr hrej]
    exact hbefore _ (toolPath_ne hscan id).1 (toolPath_ne hscan id).2
  · intro path h₁ h₂ h₃
    rw [hout _ fun e he => .inl (h₃ e.1 (hlisted e he))]
    exact hbefore path h₁ h₂

/-! ## A device with two tools -/

/-- A device whose scanner has this document, and whose sensor and tools have `q` as their parameters. -/
def sampleDevice (scannerDoc : Json) (q : Rat) : Device where
  docs path :=
    if path = "/scan/visibleSensors/" then
      some (.obj [("sensors", .arr [.obj [("engineId", .str "LMILaserLineProfiler"), ("model", .str "2340"),
        ("serialNumber", .str "1")]])])
    else if path = "/tools" then
      some (.obj [("_embedded", .obj [("go:item", .arr [.obj [("id", .str "t0")], .obj [("id", .str "t1")]])])])
    else if path = "/scan/engines/LMILaserLineProfiler/scanners/scanner-0" then some scannerDoc
    else if path = "/scan/engines/LMILaserLineProfiler/scanners/scanner-0/sensors/sensor-0" ∨ path = "/tools/t0" ∨
        path = "/tools/t1" then
      some (.obj [("parameters", .num q)])
    else none
  schemas path :=
    if path = "/scan/engines/LMILaserLineProfiler/scanners/scanner-0" then
      some (.obj [("properties", .obj [("name", .obj []), ("parameters", .obj [])])])
    else none

def sampleScanner : ScannerInfo := .ofSensor "LMILaserLineProfiler" "2340" "1"

theorem sample_plain_root (a : Json) (q : Rat) (k : String)
    (hk : rootMember (sampleDevice a q) sampleScanner.scannerPath k = true) : Plain k := by
  have hk : (SortedMap.get? k [("name", Json.obj []), ("parameters", Json.obj [])]).isSome = true := hk
  obtain ⟨v, hv⟩ := Option.isSome_iff_exists.1 hk
  rcases List.mem_pair.1 (SortedMap.mem_of_get? hv) with h | h <;> cases h <;> decide

theorem sample_plain_tools (a : Json) (q : Rat) (id : String) (hid : id ∈ listTools (sampleDevice a q)) : Plain id := by
  have hid : id ∈ ["t0", "t1"] := hid
  rcases List.mem_pair.1 hid with rfl | rfl <;> decide

/-- Objects of numbers are well-formed and hold no null. -/
theorem replaceable_numbers {ms ms' : List (String × Json)} (hk : ms.map Prod.fst = ms'.map Prod.fst)
    (hs : SortedMap.Sorted ms) (hs' : SortedMap.Sorted ms') (hm : ∀ e ∈ ms, ∃ q, e.2 = .num q)
    (hm' : ∀ e ∈ ms', ∃ q, e.2 = .num q) : Replaceable (.obj ms) (.obj ms') := by
  have hnum : ∀ {P : Json → Prop} {l : List (String × Json)}, (∀ e ∈ l, ∃ q, e.2 = .num q) → (∀ q, P (.num q)) →
      ∀ e ∈ l, Json.Everywhere P e.2 := by
    intro P l hl hP e he
    obtain ⟨q, hq⟩ := hl e he
    rw [hq]
    exact Json.everywhere_of_not_obj rfl (hP q)
  refine ⟨Json.everywhere_obj hs (hnum hm fun _ => SortedMap.sorted_nil),
    Json.everywhere_obj hs' (hnum hm' fun _ => SortedMap.sorted_nil), Json.everywhere_obj rfl (hnum hm fun _ => rfl),
    Json.sameShape_obj hk fun e he => ?_, fun _ => rfl⟩
  obtain ⟨q, hq⟩ := hm e he
  rw [hq]
  rfl

theorem replaceable_parameters (q q' : Rat) :
    Replaceable (.obj [("parameters", .num q)]) (.obj [("parameters", .num q')]) := by
  refine replaceable_numbers rfl (List.pairwise_singleton _ _) (List.pairwise_singleton _ _) ?_ ?_ <;>
    exact fun e he => ⟨_, congrArg Prod.snd (List.mem_singleton.1 he)⟩

/-- The document of the scanner of `sampleDevice`. -/
def sampleDoc (q : Rat) : Json := .obj [("name", .num q), ("parameters", .num q)]

theorem replaceable_sampleDoc (q q' : Rat) : Replaceable (sampleDoc q) (sampleDoc q') := by
  have hs : ∀ q : Rat, SortedMap.Sorted [("name", Json.num q), ("parameters", Json.num q)] := by
    intro q
    refine List.pairwise_pair.2 ?_
    show "name" < "parameters"
    decide
  refine replaceable_numbers rfl (hs q) (hs q') ?_ ?_ <;>
    exact fun e he => ⟨_, by rcases List.mem_pair.1 he with rfl | rfl <;> rfl⟩

/-- The second tool rejects its update, the first gets its parameters back. -/
theorem snapshot_restore_sample : ∃ config, readAllConfig (sampleDevice (sampleDoc 1) 1) = .ok config ∧
    ∃ D'', applyConfig (· == "/tools/t1") config (sampleDevice (sampleDoc 2) 2) = .ok () D'' ∧
      applyConfigRootFirst (· == "/tools/t1") config (sampleDevice (sampleDoc 2) 2) = .ok () D'' ∧
      Restored (· == "/tools/t1") (sampleDevice (sampleDoc 1) 1) (sampleDevice (sampleDoc 2) 2) D'' sampleScanner := by
  have hscan : detectPrimaryScanner (sampleDevice (sampleDoc 1) 1) = .ok sampleScanner := rfl
  refine ⟨_, rfl, snapshot_restore hscan ?_ rfl rfl (sample_plain_root _ _) (sample_plain_tools _ _) rfl⟩
  refine ⟨rfl, ⟨_, _, rfl, rfl, replaceable_sampleDoc 1 2⟩, ⟨_, _, rfl, rfl, replaceable_parameters 1 2⟩, ?_⟩
  intro id hid
  have hid : id ∈ ["t0", "t1"] := hid
  rcases List.mem_pair.1 hid with rfl | rfl <;> exact ⟨_, _, rfl, rfl, replaceable_parameters 1 2⟩

/-- The documents of two sample devices at one path. -/
theorem sample_docs {a a' j t : Json} {q q' : Rat} {path : String} (hj : (sampleDevice a q).docs path = some j)
    (ht : (sampleDevice a' q').docs path = some t) :
    (j = t ∧ j.WF ∧ j.NoNull) ∨ (j = a ∧ t = a') ∨
      (j = .obj [("parameters", .num q)] ∧ t = .obj [("parameters", .num q')]) := by
  unfold sampleDevice at hj ht
  simp only at hj ht
  by_cases h₁ : path = "/scan/visibleSensors/"
  · rw [if_pos h₁] at hj ht
    cases hj
    cases ht
    refine .inl ⟨rfl, Json.everywhere_single (List.pairwise_singleton _ _) ?_, Json.everywhere_single rfl ?_⟩ <;>
      exact Json.everywhere_of_not_obj rfl (by first | exact SortedMap.sorted_nil | rfl)
  rw [if_neg h₁] at hj ht
  by_cases h₂ : path = "/tools"
  · rw [if_pos h₂] at hj ht
    cases hj
    cases ht
    refine .inl ⟨rfl,
      Json.everywhere_single (List.pairwise_singleton _ _) (Json.everywhere_single (List.pairwise_singleton _ _) ?_),
      Json.everywhere_single rfl (Json.everywhere_single rfl ?_)⟩ <;>
      exact Json.everywhere_of_not_obj rfl (by first | exact SortedMap.sorted_nil | rfl)
  rw [if_neg h₂] at hj ht
  split at hj
  · rename_i h₃
    rw [if_pos h₃] at ht
    cases hj
    cases ht
    exact .inr (.inl ⟨rfl, rfl⟩)
  · rename_i h₃
    rw [if_neg h₃] at ht
    split at hj
    · rename_i h₄
      rw [if_pos h₄] at ht
      cases hj
      cases ht
      exact .inr (.inr ⟨rfl, rfl⟩)
    · cases hj

def exposureDoc : Json := .obj [("parameters", .obj [("exposure", .num 1)])]

theorem wf_exposureDoc : exposureDoc.WF :=
  Json.everywhere_single (List.pairwise_singleton _ _)
    (Json.everywhere_single (List.pairwise_singleton _ _) (Json.everywhere_of_not_obj rfl SortedMap.sorted_nil))

theorem noNull_exposureDoc : exposureDoc.NoNull :=
  Json.everywhere_single rfl (Json.everywhere_single rfl (Json.everywhere_of_not_obj rfl rfl))

/-- A snapshot of a scanner document that is no object holds no parameters, and merging none into those
of an object leaves them as they are. -/
theorem not_snapshot_restore : ¬ ∀ (rejects : String → Bool) (D D' : Device) (scanner : ScannerInfo)
    (config : ParameterSet), detectPrimaryScanner D = .ok scanner → detectPrimaryScanner D' = .ok scanner →
    listTools D' = listTools D → D'.schemas = D.schemas →
    (∀ path, (D'.docs path).isSome = (D.docs path).isSome) →
    (∀ path j t, D.docs path = some j → D'.docs path = some t → j.WF ∧ t.WF ∧ j.NoNull ∧ t.NoNull ∧ j.SameShape t) →
    rejects scanner.scannerPath = false → rejects scanner.sensorPath = false →
    (∀ k, rootMember D scanner.scannerPath k = true → Plain k) → (∀ id ∈ listTools D, Plain id) →
    readAllConfig D = .ok config →
    ∃ D'', applyConfig rejects config D' = .ok () D'' ∧
      readParameters D'' scanner.scannerPath = readParameters D scanner.scannerPath := by
  intro h
  have hscan : ∀ a q, detectPrimaryScanner (sampleDevice a q) = .ok sampleScanner := fun _ _ => rfl
  have hroot : ∀ k, rootMember (sampleDevice (.arr []) 1) sampleScanner.scannerPath k = true → Plain k := by
    exact sample_plain_root _ _
  have hids : ∀ id ∈ listTools (sampleDevice (.arr []) 1), Plain id := sample_plain_tools _ _
  have hres : ∀ path, ((sampleDevice exposureDoc 1).docs path).isSome =
    ((sampleDevice (.arr []) 1).docs path).isSome := by
    intro path
    unfold sampleDevice
    simp only
    split_ifs <;> rfl
  have hdocs : ∀ path j t,
    (sampleDevice (.arr []) 1).docs path = some j → (sampleDevice exposureDoc 1).docs path = some t →
      j.WF ∧ t.WF ∧ j.NoNull ∧ t.NoNull ∧ j.SameShape t := by
    intro path j t hj ht
    rcases sample_docs hj ht with ⟨rfl, hw, hn⟩ | ⟨rfl, rfl⟩ | ⟨rfl, rfl⟩
    · exact ⟨hw, hw, hn, hn, .refl j⟩
    · exact ⟨Json.everywhere_of_not_obj rfl SortedMap.sorted_nil, wf_exposureDoc, Json.everywhere_of_not_obj rfl rfl,
        noNull_exposureDoc, Json.sameShape_of_not_obj rfl⟩
    · have hr := replaceable_parameters 1 1
      exact ⟨hr.wf, hr.wfTarget, hr.noNull, hr.noNull, hr.shape⟩
  obtain ⟨rejects, hacc⟩ : ∃ rejects : String → Bool, ∀ path, rejects path = false := ⟨fun _ => false, fun _ => rfl⟩
  obtain ⟨config, hsnap⟩ : ∃ config, readAllConfig (sampleDevice (.arr []) 1) = .ok config := ⟨_, rfl⟩
  obtain ⟨D'', hrun, hread⟩ := h rejects (sampleDevice (.arr []) 1) (sampleDevice exposureDoc 1) sampleScanner config
    (hscan _ _) (hscan _ _) rfl rfl hres hdocs (hacc _) (hacc _) hroot hids hsnap
  obtain ⟨P, S, root, tools, ht⟩ := readAllConfig_ok (hscan _ _) hroot hids hsnap
  have hP : readParameters (sampleDevice (.arr []) 1) sampleScanner.scannerPath = .ok (.obj []) := rfl
  cases hP.symm.trans ht.scannerRead
  have hpath : sampleScanner.scannerPath ≠ sampleScanner.sensorPath := scannerPath_ne_sensorPath _ _ _
  have hrun' := (applyConfig_ok ht (hscan exposureDoc 1) hpath rfl rfl wf_exposureDoc (hacc _) (hacc _)).1
  obtain ⟨D₃, hrun₃, -, hout, -⟩ := updateTools_ok _ ht.toolsSorted
  cases hrun.symm.trans (hrun'.trans hrun₃)
  -- the parameters of `D'` are still there
  have hdoc := hout sampleScanner.scannerPath fun e _ => .inl (toolPath_ne (hscan exposureDoc 1) e.1).1.symm
  rw [Device.put_docs_of_ne _ _ hpath, Device.put_docs_self] at hdoc
  rw [readParameters_eq hdoc, get?_rootPatched ht.rootSorted, ht.root_parameters, get?_parametersPatch rfl, hP] at hread
  cases hread

end Gocator.Settings

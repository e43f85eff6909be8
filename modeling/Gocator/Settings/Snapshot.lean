/-
What a snapshot holds and what the updates made from it do: the loops over the schema, over the
tools that are read and over the tools that are updated, each described by the members it leaves.
-/
import Gocator.Settings.Manager

namespace Gocator.Settings

open JsonPointer (Plain)

/-! ## What reading computes -/

theorem readParameters_eq {D : Device} {path : String} {j : Json} (h : D.docs path = some j) :
    readParameters D path = .ok ((j.get? "parameters").getD (.obj [])) := by
  unfold readParameters Device.read
  rw [h]
  cases hp : j.get? "parameters" with
  | none => simp only [bind, Except.bind, Json.hasKey, hp, Option.isSome_none]; rfl
  | some v =>
    simp only [bind, Except.bind, Json.hasKey, hp, Option.isSome_some, if_true]
    have hplain : Plain "parameters" := by decide
    exact valueAt_slash hplain hp

/-- The member names the schema of a resource lists. -/
def rootMember (D : Device) (path k : String) : Bool :=
  (((D.schemas path).bind (·.get? "properties")).bind (·.get? k)).isSome

/-- The members the loop over the schema selects: those listed and present, other than `parameters`. -/
def Selected (data : Json) (es : List (String × Json)) (k : String) : Prop :=
  k ≠ "parameters" ∧ (SortedMap.get? k es).isSome ∧ data.hasKey k

instance (data : Json) (es : List (String × Json)) (k : String) : Decidable (Selected data es k) :=
  inferInstanceAs (Decidable (_ ∧ _ ∧ _))

/-- The loop over the schema copies the members it selects, if their names stand for themselves. -/
theorem rootSettings_eq {data : Json} : ∀ {es ms : List (String × Json)}, (∀ k, Selected data es k → Plain k) →
    SortedMap.Sorted ms → ∃ ms', rootSettings data es (.obj ms) = .ok (.obj ms') ∧ SortedMap.Sorted ms' ∧
      ∀ k, SortedMap.get? k ms' = if Selected data es k then data.get? k else SortedMap.get? k ms
  | [], ms, _, hs => by
    refine ⟨ms, rfl, hs, fun k => (if_neg ?_).symm⟩
    rintro ⟨-, hk, -⟩
    cases hk
  | (key, p) :: es, ms, hp, hs => by
    have htail : ∀ k, k ≠ key → (Selected data ((key, p) :: es) k ↔ Selected data es k) := by
      intro k hk
      unfold Selected
      rw [SortedMap.get?_cons_of_ne hk]
    have hsel : key ≠ "parameters" → data.hasKey key = true → Selected data ((key, p) :: es) key :=
      fun hne hkey => ⟨hne, by rw [SortedMap.get?_cons_self]; rfl, hkey⟩
    have hpes : ∀ k, Selected data es k → Plain k := by
      intro k hk
      by_cases heq : k = key
      · exact hp k (heq ▸ hsel (heq ▸ hk.1) (heq ▸ hk.2.2))
      · exact hp k ((htail k heq).2 hk)
    unfold rootSettings
    split
    · rename_i hskip
      obtain ⟨ms', hrun, hs', hg⟩ := rootSettings_eq hpes hs
      refine ⟨ms', hrun, hs', fun k => (hg k).trans ?_⟩
      by_cases hk : k = key
      · -- a member that is skipped is selected by neither list
        have hno : ∀ l, ¬ Selected data l key := by
          rintro l ⟨hne, -, hkey⟩
          rcases hskip with rfl | hf
          · exact hne rfl
          · rw [hf] at hkey
            cases hkey
        rw [hk, if_neg (hno _), if_neg (hno _)]
      · simp only [htail k hk]
    · rename_i hkeep
      rw [not_or, Bool.not_eq_false] at hkeep
      obtain ⟨v, hv⟩ := Option.isSome_iff_exists.1 hkeep.2
      have hplain : Plain key := hp key (hsel hkeep.1 hkeep.2)
      rw [valueAt_slash hplain hv]
      simp only [bind, Except.bind, setAt_slash hplain]
      obtain ⟨ms', hrun, hs', hg⟩ := rootSettings_eq hpes (SortedMap.sorted_set key v hs)
      refine ⟨ms', hrun, hs', fun k => (hg k).trans ?_⟩
      by_cases hk : k = key
      · rw [hk, if_pos (hsel hkeep.1 hkeep.2), hv, SortedMap.get?_set_self, ite_self]
      · simp only [htail k hk, SortedMap.get?_set_of_ne hk]

theorem toolSettings_ok {D : Device} : ∀ {ids : List String} {ms : List (String × Json)} {r : Json},
    (∀ id ∈ ids, Plain id) → SortedMap.Sorted ms → toolSettings D ids (.obj ms) = .ok r →
    ∃ ms', r = .obj ms' ∧ SortedMap.Sorted ms' ∧ (∀ id ∉ ids, SortedMap.get? id ms' = SortedMap.get? id ms) ∧
      ∀ id ∈ ids, ∃ P, readToolParameters D id = .ok P ∧ SortedMap.get? id ms' = some P
  | [], ms, r, _, hs, h => by
    cases h
    exact ⟨ms, rfl, hs, fun _ _ => rfl, fun _ hm => nomatch hm⟩
  | id :: ids, ms, r, hp, hs, h => by
    unfold toolSettings at h
    obtain ⟨P, hP, h⟩ := bind_eq_ok h
    rw [setAt_plain (hp id (List.mem_cons_self ..))] at h
    obtain ⟨ms', rfl, hs', hout, hin⟩ := toolSettings_ok (fun i hi => hp i (List.mem_cons_of_mem _ hi))
      (SortedMap.sorted_set id P hs) h
    refine ⟨ms', rfl, hs', fun i hi => ?_, fun i hi => ?_⟩
    · rw [List.mem_cons, not_or] at hi
      exact (hout i hi.2).trans (SortedMap.get?_set_of_ne hi.1 P ms)
    · by_cases hm : i ∈ ids
      · exact hin i hm
      · rcases List.mem_cons.1 hi with rfl | hi
        · exact ⟨P, hP, (hout i hm).trans (SortedMap.get?_set_self i P ms)⟩
        · exact absurd hi hm

/-- The snapshot of a device holds these settings. -/
structure Taken (D : Device) (scanner : ScannerInfo) (config : ParameterSet) (P S : Json)
    (root tools : List (String × Json)) : Prop where
  scannerRead : readParameters D scanner.scannerPath = .ok P
  sensorRead : readParameters D scanner.sensorPath = .ok S
  rootSorted : SortedMap.Sorted root
  rootRead : ∃ data, D.docs scanner.scannerPath = some data ∧ ∀ k, SortedMap.get? k root =
    if k ≠ "parameters" ∧ rootMember D scanner.scannerPath k then data.get? k else none
  toolsSorted : SortedMap.Sorted tools
  toolsOut : ∀ id ∉ listTools D, SortedMap.get? id tools = none
  toolsRead : ∀ id ∈ listTools D, ∃ Q, readToolParameters D id = .ok Q ∧ SortedMap.get? id tools = some Q
  scannerKept : config.getParameter "scanner" = .ok P
  sensorKept : config.getParameter "sensor" = .ok S
  rootKept : config.getParameter "scannerRoot" = .ok (.obj root)
  toolsKept : config.getParameter "tools" = .ok (.obj tools)

theorem readScannerRootSettings_ok {D : Device} {path : String} {r : Json}
    (hplain : ∀ k, rootMember D path k = true → Plain k) (h : readScannerRootSettings D path = .ok r) :
    ∃ root, r = .obj root ∧ SortedMap.Sorted root ∧ ∃ data, D.docs path = some data ∧
      ∀ k, SortedMap.get? k root = if k ≠ "parameters" ∧ rootMember D path k then data.get? k else none := by
  unfold readScannerRootSettings at h
  obtain ⟨data, hdata, h⟩ := bind_eq_ok h
  obtain ⟨resourceSchema, hschema, h⟩ := bind_eq_ok h
  have hdoc : D.docs path = some data := by
    unfold Device.read at hdata
    split at hdata <;> cases hdata
    assumption
  have hsch : D.schemas path = some resourceSchema := by
    unfold Device.schema at hschema
    split at hschema <;> cases hschema
    assumption
  cases hprops : resourceSchema.get? "properties" with
  | none =>
    have hno : ∀ k, rootMember D path k = false := by
      intro k
      simp only [rootMember, hsch, Option.bind_some, hprops, Option.bind_none, Option.isSome_none]
    rw [Json.hasKey, hprops] at h
    cases h
    exact ⟨[], rfl, SortedMap.sorted_nil, data, hdoc, fun k => by simp [hno]⟩
  | some properties =>
    have hlist : ∀ k, rootMember D path k = (properties.get? k).isSome := by
      intro k
      simp only [rootMember, hsch, Option.bind_some, hprops]
    rw [Json.hasKey, hprops] at h
    simp only [Option.isSome_some, if_true] at h
    obtain ⟨p, hp, h⟩ := bind_eq_ok h
    have hplain' : Plain "properties" := by decide
    cases hp.symm.trans (valueAt_slash hplain' hprops)
    obtain ⟨es, hes, h⟩ := bind_eq_ok h
    have hget : ∀ k, properties.get? k = SortedMap.get? k es := by
      intro k
      unfold entries at hes
      split at hes <;> cases hes <;> rfl
    have hpes : ∀ k, Selected data es k → Plain k := by
      intro k hk
      refine hplain k ?_
      rw [hlist, hget]
      exact hk.2.1
    obtain ⟨root, hrun, hs, hg⟩ := rootSettings_eq hpes SortedMap.sorted_nil
    cases hrun.symm.trans h
    refine ⟨root, rfl, hs, data, hdoc, fun k => (hg k).trans ?_⟩
    simp only [Selected, hlist, hget, SortedMap.get?_nil, Json.hasKey]
    rcases Option.eq_none_or_eq_some (data.get? k) with hd | ⟨v, hd⟩
    · simp only [hd, ite_self]
    · simp only [hd, Option.isSome_some, and_true]

theorem addParameter_ok {s s' : ParameterSet} {name : String} {v : Json} (hn : Plain name)
    (ho : s.data.isObj = true) (h : s.addParameter name v = .ok s') : s' = ⟨s.data.set name v⟩ := by
  obtain ⟨data⟩ := s
  cases data with
  | obj ms =>
    unfold ParameterSet.addParameter at h
    rw [setAt_plain hn] at h
    cases h
    rfl
  | _ => cases ho

theorem readAllConfig_ok {D : Device} {scanner : ScannerInfo} {config : ParameterSet}
    (hscan : detectPrimaryScanner D = .ok scanner)
    (hroot : ∀ k, rootMember D scanner.scannerPath k = true → Plain k) (htools : ∀ id ∈ listTools D, Plain id)
    (h : readAllConfig D = .ok config) : ∃ P S root tools, Taken D scanner config P S root tools := by
  unfold readAllConfig at h
  rw [hscan] at h
  obtain ⟨_, ⟨⟩, h⟩ := bind_eq_ok h
  obtain ⟨P, hP, h⟩ := bind_eq_ok h
  obtain ⟨c₁, h₁, h⟩ := bind_eq_ok h
  obtain ⟨S, hS, h⟩ := bind_eq_ok h
  obtain ⟨c₂, h₂, h⟩ := bind_eq_ok h
  obtain ⟨R, hR, h⟩ := bind_eq_ok h
  obtain ⟨c₃, h₃, h⟩ := bind_eq_ok h
  obtain ⟨T, hT, h₄⟩ := bind_eq_ok h
  obtain ⟨root, rfl, hrs, hrg⟩ := readScannerRootSettings_ok hroot hR
  obtain ⟨tools, rfl, hts, hto, htg⟩ := toolSettings_ok htools SortedMap.sorted_nil hT
  obtain rfl := addParameter_ok (by decide) rfl h₁
  obtain rfl := addParameter_ok (by decide) rfl h₂
  obtain rfl := addParameter_ok (by decide) rfl h₃
  obtain rfl := addParameter_ok (by decide) rfl h₄
  refine ⟨P, S, root, tools, hP, hS, hrs, hrg, hts, hto, htg, ?_, ?_, ?_, ?_⟩ <;>
    refine valueAt_plain (by decide) ?_
  · rw [Json.get?_set_of_ne _ (by decide), Json.get?_set_of_ne _ (by decide), Json.get?_set_of_ne _ (by decide),
      Json.get?_set_self]
  · rw [Json.get?_set_of_ne _ (by decide), Json.get?_set_of_ne _ (by decide), Json.get?_set_self]
  · rw [Json.get?_set_of_ne _ (by decide), Json.get?_set_self]
  · exact Json.get?_set_self ..

/-! ## Running the updates -/

/-- The payload that updates the parameters. -/
def parametersPatch (P : Json) : Json := .obj [("parameters", P)]

theorem updateParameters_eq (rejects : String → Bool) (path : String) (P : Json) :
    updateParameters rejects path P = update rejects path (parametersPatch P) := by
  unfold updateParameters
  rw [show "/parameters" = "/" ++ "parameters" from rfl, setAt_slash (by decide)]
  rfl

theorem update_ok {rejects : String → Bool} {D : Device} {path : String} {t : Json} (p : Json)
    (h : D.docs path = some t) (hr : rejects path = false) :
    update rejects path p D = .ok () (merged D path t p) := by
  unfold update
  rw [h]
  simp only [hr, Bool.false_eq_true, if_false]

/-- The device after one attempt to update the parameters of a tool. -/
def toolUpdated (rejects : String → Bool) (D : Device) (id : String) (P : Json) : Device :=
  match D.docs (toolPath id) with
  | some t => if rejects (toolPath id) then D else merged D (toolPath id) t (parametersPatch P)
  | none => D

/-- What the update of a tool throws is caught, and the next tool is updated. -/
theorem updateTools_cons (rejects : String → Bool) (id : String) (P : Json) (rest : List (String × Json))
    (D : Device) :
    updateTools rejects ((id, P) :: rest) D = updateTools rejects rest (toolUpdated rejects D id P) := by
  rw [updateTools, updateParameters_eq]
  unfold toolUpdated
  cases h : D.docs (toolPath id) with
  | none =>
    have hu : update rejects (toolPath id) (parametersPatch P) D = .error (.response (toolPath id)) D := by
      unfold update
      rw [h]
    simp only [bind, EStateM.bind, tryCatch, tryCatchThe, MonadExceptOf.tryCatch, EStateM.tryCatch, hu]
    rfl
  | some t =>
    cases hr : rejects (toolPath id) with
    | false =>
      simp only [bind, EStateM.bind, tryCatch, tryCatchThe, MonadExceptOf.tryCatch, EStateM.tryCatch,
        update_ok _ h hr]
      rfl
    | true =>
      have hu : update rejects (toolPath id) (parametersPatch P) D = .error (.response (toolPath id)) D := by
        unfold update
        rw [h]
        simp only [hr, if_true]
      simp only [bind, EStateM.bind, tryCatch, tryCatchThe, MonadExceptOf.tryCatch, EStateM.tryCatch, hu]
      rfl

theorem toolPath_injective {a b : String} (h : toolPath a = toolPath b) : a = b := by
  have hl := congrArg String.toList h
  simp only [toolPath, String.toList_append] at hl
  exact String.toList_injective (List.append_cancel_left hl)

theorem toolUpdated_of_ne {rejects : String → Bool} {D : Device} {id path : String} (P : Json)
    (h : path ≠ toolPath id ∨ rejects path = true) : (toolUpdated rejects D id P).docs path = D.docs path := by
  unfold toolUpdated
  split
  · split
    · rfl
    · rename_i hr
      refine Device.put_docs_of_ne _ _ ?_
      rintro rfl
      exact h.elim (absurd rfl) hr
  · rfl

theorem toolUpdated_self {rejects : String → Bool} {D : Device} {id : String} {t : Json} (P : Json)
    (h : D.docs (toolPath id) = some t) (hr : rejects (toolPath id) = false) :
    (toolUpdated rejects D id P).docs (toolPath id) = some (Json.mergePatch t (parametersPatch P)) := by
  unfold toolUpdated
  rw [h]
  simp only [hr, Bool.false_eq_true, if_false, merged, Device.put_docs_self]

theorem toolUpdated_schemas (rejects : String → Bool) (D : Device) (id : String) (P : Json) :
    (toolUpdated rejects D id P).schemas = D.schemas := by
  unfold toolUpdated
  split
  · split <;> rfl
  · rfl

/-- The loop over the tools: every tool whose update is accepted gets its parameters merged in, and no
other document changes. -/
theorem updateTools_ok {rejects : String → Bool} : ∀ {es : List (String × Json)} (D : Device), SortedMap.Sorted es →
    ∃ D', updateTools rejects es D = .ok () D' ∧ D'.schemas = D.schemas ∧
      (∀ path, (∀ e ∈ es, path ≠ toolPath e.1 ∨ rejects path = true) → D'.docs path = D.docs path) ∧
      ∀ e ∈ es, rejects (toolPath e.1) = false → ∀ t, D.docs (toolPath e.1) = some t →
        D'.docs (toolPath e.1) = some (Json.mergePatch t (parametersPatch e.2))
  | [], D, _ => ⟨D, rfl, rfl, fun _ _ => rfl, fun _ hm => nomatch hm⟩
  | (id, P) :: es, D, hs => by
    obtain ⟨hlt, hs⟩ := List.pairwise_cons.1 hs
    obtain ⟨D', hrun, hsch, hout, hin⟩ := updateTools_ok (toolUpdated rejects D id P) hs
    refine ⟨D', (updateTools_cons ..).trans hrun, hsch.trans (toolUpdated_schemas ..), fun path hp => ?_, ?_⟩
    · rw [hout path fun e he => hp e (List.mem_cons_of_mem _ he)]
      exact toolUpdated_of_ne P (hp _ (List.mem_cons_self ..))
    · intro e he hr t ht
      rcases List.mem_cons.1 he with rfl | he
      · -- the ids in the list are distinct, so the rest of the loop leaves this tool alone
        rw [hout _ fun e he => .inl fun h => (hlt e he).ne (toolPath_injective h)]
        exact toolUpdated_self P ht hr
      · refine hin e he hr t ?_
        rwa [toolUpdated_of_ne P (.inl fun h => (hlt e he).ne' (toolPath_injective h))]

end Gocator.Settings

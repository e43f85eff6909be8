/-
The scanner-root snapshot as a restriction of the scanner document. The loop tests a name as it stands and
reads and writes by a pointer made of it, so it copies a member exactly when its name stands for itself: what
a pointer of another name writes goes under a shorter name, and nothing writes the longest such name.
-/
import Mathlib.Algebra.Order.BigOperators.Group.List
import Gocator.Settings.Snapshot

namespace Gocator.Settings

open JsonPointer (Plain segments unescape)

/-! ## What a pointer writes -/

/-- A name that does not stand for itself is the first token of the pointers of longer names only, which do not
stand for themselves either. -/
theorem length_of_pathTokens {key k : String} {rest : List String} (h : pathTokens ("/" ++ key) = some (k :: rest))
    (hk : ¬ Plain k) : ¬ Plain key ∧ k.length < key.length := by
  have hnot : ¬ Plain key := by
    intro hplain
    rw [pathTokens_slash hplain] at h
    cases h
    exact hk hplain
  refine ⟨hnot, ?_⟩
  have hl : ("/" ++ key).toList = '/' :: key.toList := by rw [String.toList_append]; rfl
  unfold pathTokens JsonPointer.tokens at h
  simp only [hl] at h
  obtain ⟨s, ss, hs⟩ := List.exists_cons_of_ne_nil (JsonPointer.segments_ne_nil key.toList)
  rw [hs, List.mapM_cons] at h
  obtain ⟨k', hk', h⟩ := Option.bind_eq_some_iff.1 h
  obtain ⟨rest', -, h⟩ := Option.bind_eq_some_iff.1 h
  cases h
  obtain ⟨ds, hds, rfl⟩ := Option.map_eq_some_iff.1 hk'
  obtain ⟨hle, htilde⟩ := JsonPointer.unescape_length hds
  obtain ⟨hsle, hslash⟩ := JsonPointer.length_segments hs
  rw [← String.length_toList, ← String.length_toList, String.toList_ofList]
  by_contra hlt
  have hlen : s.length = key.toList.length := by omega
  obtain ⟨rfl, hno⟩ := hslash hlen
  exact hnot ⟨hno, htilde (by omega)⟩

/-- A write through a pointer sets the member that its first token names. -/
theorem setAt_obj {root v root' : Json} {path : String} (hroot : root.isObj = true)
    (h : setAt root path v = .ok root') :
    (∃ k rest u, pathTokens path = some (k :: rest) ∧ root' = root.set k u) ∨ pathTokens path = some [] := by
  unfold setAt at h
  split at h
  · rename_i w hw
    cases h
    obtain ⟨tokens, htokens, hassign⟩ := Option.bind_eq_some_iff.1 hw
    cases tokens with
    | nil => exact .inr htokens
    | cons k rest =>
      cases root with
      | obj ms =>
        rw [JsonPointer.assign] at hassign
        obtain ⟨u, -, rfl⟩ := Option.map_eq_some_iff.1 hassign
        exact .inl ⟨k, rest, u, htokens, rfl⟩
      | _ => cases hroot
  · cases h

theorem pathTokens_slash_ne_nil (key : String) : pathTokens ("/" ++ key) ≠ some [] := by
  have hl : ("/" ++ key).toList = '/' :: key.toList := by rw [String.toList_append]; rfl
  unfold pathTokens JsonPointer.tokens
  simp only [hl]
  obtain ⟨s, ss, hs⟩ := List.exists_cons_of_ne_nil (JsonPointer.segments_ne_nil key.toList)
  rw [hs, List.mapM_cons]
  intro h
  obtain ⟨k', -, h⟩ := Option.bind_eq_some_iff.1 h
  obtain ⟨rest', -, h⟩ := Option.bind_eq_some_iff.1 h
  cases h

/-- Every member that the loop leaves was there or is named by the pointer of a selected name. -/
theorem rootSettings_source {data : Json} : ∀ {es : List (String × Json)} {root r : Json}, root.isObj = true →
    rootSettings data es root = .ok r → ∀ k, r.hasKey k = true →
      root.hasKey k = true ∨ ∃ key, Selected data es key ∧ ∃ rest, pathTokens ("/" ++ key) = some (k :: rest)
  | [], root, r, _, h, k, hk => by
    cases h
    exact .inl hk
  | (key, p) :: es, root, r, hroot, h, k, hk => by
    have hlater : ∀ {root' : Json}, root'.isObj = true → rootSettings data es root' = .ok r →
        root'.hasKey k = true ∨ ∃ key', Selected data ((key, p) :: es) key' ∧
          ∃ rest, pathTokens ("/" ++ key') = some (k :: rest) := by
      intro root' hroot' h'
      rcases rootSettings_source hroot' h' k hk with hold | ⟨key', ⟨hne, hlisted, hkey⟩, hrest⟩
      · exact .inl hold
      · refine .inr ⟨key', ⟨hne, ?_, hkey⟩, hrest⟩
        by_cases heq : key' = key
        · rw [heq, SortedMap.get?_cons_self]
          rfl
        · rw [SortedMap.get?_cons_of_ne heq]
          exact hlisted
    unfold rootSettings at h
    split at h
    · exact hlater hroot h
    · rename_i hkeep
      rw [not_or, Bool.not_eq_false] at hkeep
      obtain ⟨v, hv, h⟩ := bind_eq_ok h
      obtain ⟨root', hset, h⟩ := bind_eq_ok h
      rcases setAt_obj hroot hset with ⟨k₁, rest, u, htokens, rfl⟩ | hnil
      · rcases hlater rfl h with hold | hnew
        · by_cases heq : k = k₁
          · refine .inr ⟨key, ⟨hkeep.1, by rw [SortedMap.get?_cons_self]; rfl, hkeep.2⟩, rest, ?_⟩
            rw [heq]
            exact htokens
          · rw [Json.hasKey, Json.get?_set_of_ne _ heq] at hold
            exact .inl hold
        · exact .inr hnew
      · exact absurd hnil (pathTokens_slash_ne_nil key)

/-! ## The restriction -/

/-- The members that a list of properties names, other than `parameters`. -/
def restricted (ps ms : List (String × Json)) : List (String × Json) :=
  ms.filter fun e => e.1 ≠ "parameters" ∧ (SortedMap.get? e.1 ps).isSome

theorem get?_restricted {ps ms : List (String × Json)} (hs : SortedMap.Sorted ms) (k : String) :
    SortedMap.get? k (restricted ps ms) = if Selected (.obj ms) ps k then SortedMap.get? k ms else none := by
  cases hk : SortedMap.get? k (restricted ps ms) with
  | some v =>
    obtain ⟨hmem, hsel⟩ := List.mem_filter.1 (SortedMap.mem_of_get? hk)
    obtain ⟨hne, hlisted⟩ := of_decide_eq_true hsel
    have hget := SortedMap.get?_of_mem hs hmem
    rw [if_pos ⟨hne, hlisted, by rw [Json.hasKey]; exact Option.isSome_of_eq_some hget⟩, hget]
  | none =>
    split
    · rename_i hsel
      cases hget : SortedMap.get? k ms with
      | none => rfl
      | some v =>
        have hmem : (k, v) ∈ restricted ps ms :=
          List.mem_filter.2 ⟨SortedMap.mem_of_get? hget, decide_eq_true ⟨hsel.1, hsel.2.1⟩⟩
        have hsome := SortedMap.isSome_get?_of_mem hmem
        rw [hk] at hsome
        cases hsome
    · rfl

/-- What the loop leaves is the restriction exactly when every name it selects stands for itself. -/
theorem rootSettings_eq_restricted_iff {ps ms : List (String × Json)} (hs : SortedMap.Sorted ms) :
    rootSettings (.obj ms) ps (.obj []) = .ok (.obj (restricted ps ms)) ↔ ∀ k, Selected (.obj ms) ps k → Plain k := by
  constructor
  · intro h
    by_contra hbad
    simp only [not_forall] at hbad
    obtain ⟨k, hk, hnot⟩ := hbad
    -- a selected name that does not stand for itself is written by a longer one
    have hlonger : ∀ n, ∃ k, Selected (.obj ms) ps k ∧ ¬ Plain k ∧ n ≤ k.length := by
      intro n
      induction n with
      | zero => exact ⟨k, hk, hnot, Nat.zero_le _⟩
      | succ n ih =>
        obtain ⟨k', hk', hnot', hle⟩ := ih
        have hkey : (Json.obj (restricted ps ms)).hasKey k' = true := by
          show (SortedMap.get? k' (restricted ps ms)).isSome = true
          rw [get?_restricted hs, if_pos hk']
          exact hk'.2.2
        rcases rootSettings_source rfl h k' hkey with hold | ⟨key, hsel, rest, htokens⟩
        · cases hold
        · obtain ⟨hplain, hlt⟩ := length_of_pathTokens htokens hnot'
          exact ⟨key, hsel, hplain, by omega⟩
    obtain ⟨k', hk', -, hle⟩ := hlonger ((ps.map fun e => e.1.length).sum + 1)
    obtain ⟨v, hv⟩ := Option.isSome_iff_exists.1 hk'.2.1
    have hmem : k'.length ∈ ps.map fun e => e.1.length := List.mem_map.2 ⟨_, SortedMap.mem_of_get? hv, rfl⟩
    have hsum := List.le_sum_of_mem hmem
    omega
  · intro h
    obtain ⟨ms', hrun, hs', hg⟩ := rootSettings_eq h SortedMap.sorted_nil
    have heq : ms' = restricted ps ms := by
      apply SortedMap.ext hs' (hs.filter _)
      intro k
      exact (hg k).trans (get?_restricted hs k).symm
    rw [hrun, heq]

/-- The scanner-root snapshot is the restriction of the document to the properties of the schema, without
`parameters`, exactly when the names that both have stand for themselves. -/
theorem scannerRoot_restricts_iff {D : Device} {path : String} {resourceSchema : Json} {ps ms : List (String × Json)}
    (hdata : D.docs path = some (.obj ms)) (hs : SortedMap.Sorted ms) (hschema : D.schemas path = some resourceSchema)
    (hprops : resourceSchema.get? "properties" = some (.obj ps)) :
    readScannerRootSettings D path = .ok (.obj (restricted ps ms)) ↔
      ∀ k, k ≠ "parameters" → (Json.obj ps).hasKey k = true → (Json.obj ms).hasKey k = true → Plain k := by
  have hread : readScannerRootSettings D path = rootSettings (.obj ms) ps (.obj []) := by
    have hplain : Plain "properties" := by decide
    unfold readScannerRootSettings Device.read Device.schema
    rw [hdata, hschema]
    simp only [bind, Except.bind, Json.hasKey, hprops, Option.isSome_some, if_true]
    rw [show "/properties" = "/" ++ "properties" from rfl, valueAt_slash hplain hprops]
    rfl
  rw [hread, rootSettings_eq_restricted_iff hs]
  constructor
  · exact fun h k hne hlisted hkey => h k ⟨hne, hlisted, hkey⟩
  · exact fun h k hk => h k hk.1 hk.2.1 hk.2.2

/-! ## A document with one member -/

/-- A scanner whose document has one member, which its schema names. -/
def oneMember (name : String) : Device where
  docs _ := some (.obj [(name, .num 1)])
  schemas _ := some (.obj [("properties", .obj [(name, .obj [])])])

theorem scannerRoot_restricts_motion :
    readScannerRootSettings (oneMember "motion") "/scan" =
      .ok (.obj (restricted [("motion", .obj [])] [("motion", .num 1)])) := by
  refine (scannerRoot_restricts_iff rfl (List.pairwise_singleton _ _) rfl rfl).2 ?_
  intro k _ hlisted _
  by_cases hk : k = "motion"
  · rw [hk]
    decide
  · have hnone : (Json.obj [("motion", .obj [])]).get? k = none := SortedMap.get?_cons_of_ne hk ..
    rw [Json.hasKey, hnone] at hlisted
    cases hlisted

theorem scannerRoot_slash_throws : ¬ ∀ (D : Device) (path : String) (resourceSchema : Json)
    (ps ms : List (String × Json)), D.docs path = some (.obj ms) → SortedMap.Sorted ms →
    D.schemas path = some resourceSchema → resourceSchema.get? "properties" = some (.obj ps) →
    readScannerRootSettings D path = .ok (.obj (restricted ps ms)) := by
  intro h
  have hrun := h (oneMember "motion/x") "/scan" _ _ _ rfl (List.pairwise_singleton _ _) rfl rfl
  -- the pointer looks for a member `x` of a member `motion`
  have hthrow : readScannerRootSettings (oneMember "motion/x") "/scan" = .error .json := rfl
  cases hthrow.symm.trans hrun

end Gocator.Settings

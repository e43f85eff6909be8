/-
The listings of tools and of sources. Both fill a list inside a `try` whose handler swallows what is
thrown, so that the list ends where the first malformed item stands. A listing is all or nothing
exactly when no malformed item stands behind a well-formed first one.
-/
import Gocator.Lib.Digits
import Gocator.Settings.RootSettings

namespace Gocator.Settings

open JsonPointer (Plain)

/-! ## Lists up to a fault -/

section

variable {α : Type}

/-- The values before the first fault. -/
def untilFault : List (Option α) → List α
  | some a :: rest => a :: untilFault rest
  | _ => []

/-- Every value is listed, or none is. -/
def AllOrNothing (items : List (Option α)) (listed : List α) : Prop := listed = [] ∨ items = listed.map some

/-- No fault stands behind a value that is one: the first is a fault, or none is. -/
def NoLateFault (items : List (Option α)) : Prop := items.head? = some none ∨ none ∉ items

theorem untilFault_map_some : ∀ l : List α, untilFault (l.map some) = l
  | [] => rfl
  | a :: l => congrArg (a :: ·) (untilFault_map_some l)

theorem eq_map_some : ∀ {items : List (Option α)}, none ∉ items → ∃ l : List α, items = l.map some
  | [], _ => ⟨[], rfl⟩
  | none :: items, h => absurd (List.mem_cons_self ..) h
  | some a :: items, h => by
    obtain ⟨l, rfl⟩ := eq_map_some fun hm => h (List.mem_cons_of_mem _ hm)
    exact ⟨a :: l, rfl⟩

theorem none_not_mem_map_some (l : List α) : none ∉ l.map some := by
  intro hm
  obtain ⟨a, -, ha⟩ := List.mem_map.1 hm
  cases ha

theorem allOrNothing_untilFault_iff (items : List (Option α)) :
    AllOrNothing items (untilFault items) ↔ NoLateFault items := by
  constructor
  · rintro (hnil | hall)
    · match items with
      | [] => exact .inr (List.not_mem_nil)
      | none :: rest => exact .inl rfl
      | some a :: rest => cases hnil
    · refine .inr ?_
      rw [hall]
      exact none_not_mem_map_some _
  · rintro (hfirst | hnone)
    · match items, hfirst with
      | none :: rest, _ => exact .inl rfl
    · obtain ⟨l, rfl⟩ := eq_map_some hnone
      refine .inr ?_
      rw [untilFault_map_some]

end

/-! ## The loops -/

/-- The texts read one after the other, up to the first that throws. -/
def readTexts (text : Nat → Except Error String) : List Nat → List String
  | [] => []
  | i :: is =>
    match text i with
    | .ok s => s :: readTexts text is
    | .error _ => []

/-- `listSources`: what was listed before an exception is returned. -/
def listSources (D : Device) (scannerPath : String) : List String :=
  match D.read (scannerPath ++ "/sources") with
  | .ok (.arr items) =>
    readTexts (fun i => do getString (← valueAt (.arr items) ("/" ++ toString i))) (List.range items.length)
  | _ => []

theorem itemIds_eq (items : Json) : ∀ is : List Nat,
    itemIds items is = readTexts (fun i => do getString (← valueAt items ("/" ++ toString i ++ "/id"))) is
  | [] => rfl
  | i :: is => by
    have ih := itemIds_eq items is
    exact congrArg (fun ids =>
      match (do getString (← valueAt items ("/" ++ toString i ++ "/id")) : Except Error String) with
      | .ok id => id :: ids
      | .error _ => []) ih

theorem readTexts_eq {text : Nat → Except Error String} {item : Nat → Option String}
    (h : ∀ i s, text i = .ok s ↔ item i = some s) : ∀ is : List Nat, readTexts text is = untilFault (is.map item)
  | [] => rfl
  | i :: is => by
    unfold readTexts
    rw [List.map_cons]
    cases ht : text i with
    | ok s =>
      rw [(h i s).1 ht]
      exact congrArg (s :: ·) (readTexts_eq h is)
    | error e =>
      cases hi : item i with
      | none => rfl
      | some s => rw [(h i s).2 hi] at ht; cases ht

/-! ## The items of a response -/

/-- The item at an index: an element of an array, or a member of an object under the digits. -/
def itemAt (items : Json) (i : Nat) : Option Json := JsonPointer.resolve [toString i] items

/-- The items a listing embeds. Only arrays are expected; an object has the items its members named by
numbers are. -/
def embedded : Json → List (Option Json)
  | .arr items => items.map some
  | j => (List.range j.size).map (itemAt j)

/-- The string an item is. -/
def textOf : Json → Option String
  | .str s => some s
  | _ => none

/-- The id of an item. -/
def idOf (item : Json) : Option String := (item.get? "id").bind textOf

/-- The ids of the embedded tools, in the order of the response. -/
def toolIds (D : Device) : List (Option String) :=
  match ((D.docs "/tools").bind (·.get? "_embedded")).bind (·.get? "go:item") with
  | some items => (embedded items).map (·.bind idOf)
  | none => []

/-- The strings of the sources, in the order of the response. -/
def sourceIds (D : Device) (scannerPath : String) : List (Option String) :=
  match D.docs (scannerPath ++ "/sources") with
  | some (.arr items) => items.map textOf
  | _ => []

theorem itemAt_arr (items : List Json) (i : Nat) : itemAt (.arr items) i = items[i]? := by
  unfold itemAt
  rw [JsonPointer.resolve, JsonPointer.index?_toString, Option.bind_some]
  cases items[i]? with
  | none => rfl
  | some v => rfl

/-- The items at the indices below the size are the embedded items. -/
theorem embedded_eq (items : Json) : embedded items = (List.range items.size).map (itemAt items) := by
  cases items with
  | arr items =>
    refine List.ext_getElem (by simp [embedded, Json.size]) fun i hi _ => ?_
    simp only [embedded, List.length_map] at hi
    simp only [embedded, List.getElem_map, List.getElem_range, itemAt_arr, List.getElem?_eq_getElem hi]
  | _ => rfl

theorem getString_ok_iff {j : Json} {s : String} : getString j = .ok s ↔ textOf j = some s := by
  cases j with
  | str t =>
    show Except.ok t = Except.ok s ↔ some t = some s
    rw [Except.ok.injEq, Option.some.injEq]
  | _ => exact ⟨fun h => (by cases h), fun h => (by cases h)⟩

theorem valueAt_ok_iff {j v : Json} {path : String} {tokens : List String} (h : pathTokens path = some tokens) :
    valueAt j path = .ok v ↔ JsonPointer.resolve tokens j = some v := by
  unfold valueAt
  rw [h, Option.bind_some]
  cases JsonPointer.resolve tokens j with
  | none => exact ⟨fun h => (by cases h), fun h => (by cases h)⟩
  | some w => rw [Except.ok.injEq, Option.some.injEq]

theorem pathTokens_index (i : Nat) : pathTokens ("/" ++ toString i) = some [toString i] :=
  pathTokens_slash (JsonPointer.plain_toString i)

theorem pathTokens_indexId (i : Nat) : pathTokens ("/" ++ toString i ++ "/id") = some [toString i, "id"] := by
  have h : JsonPointer.tokens ("/" ++ toString i ++ "/id") = some ([toString i] ++ ["id"]) :=
    JsonPointer.tokens_append (JsonPointer.tokens_slash (JsonPointer.plain_toString i)) (by decide)
  unfold pathTokens
  rw [String.toList_append, String.toList_append]
  exact h

/-- The text read for an index is the string the item there is. -/
theorem text_iff (items : Json) (i : Nat) (s : String) :
    (do getString (← valueAt items ("/" ++ toString i))) = .ok s ↔ (itemAt items i).bind textOf = some s := by
  constructor
  · intro h
    obtain ⟨v, hv, hs⟩ := bind_eq_ok h
    rw [valueAt_ok_iff (pathTokens_index i)] at hv
    unfold itemAt
    rw [hv]
    exact getString_ok_iff.1 hs
  · intro h
    obtain ⟨v, hv, hs⟩ := Option.bind_eq_some_iff.1 h
    rw [(valueAt_ok_iff (pathTokens_index i)).2 hv]
    exact getString_ok_iff.2 hs

/-- The text read below an index is the id of the item there. -/
theorem id_iff (items : Json) (i : Nat) (s : String) :
    (do getString (← valueAt items ("/" ++ toString i ++ "/id"))) = .ok s ↔ (itemAt items i).bind idOf = some s := by
  have hstep : ∀ v, JsonPointer.resolve [toString i, "id"] items = some v ↔
      ∃ item, itemAt items i = some item ∧ item.get? "id" = some v := by
    intro v
    rw [show [toString i, "id"] = [toString i] ++ ["id"] from rfl, JsonPointer.resolve_append,
      Option.bind_eq_some_iff]
    refine exists_congr fun item => and_congr_right fun _ => ?_
    cases item with
    | obj ms => rw [JsonPointer.resolve_member]
    | arr es => exact ⟨fun h => (by cases h), fun h => (by cases h)⟩
    | _ => exact ⟨fun h => (by cases h), fun h => (by cases h)⟩
  constructor
  · intro h
    obtain ⟨v, hv, hs⟩ := bind_eq_ok h
    rw [valueAt_ok_iff (pathTokens_indexId i), hstep] at hv
    obtain ⟨item, hitem, hid⟩ := hv
    rw [hitem, Option.bind_some, idOf, hid]
    exact getString_ok_iff.1 hs
  · intro h
    obtain ⟨item, hitem, hid⟩ := Option.bind_eq_some_iff.1 h
    obtain ⟨v, hv, hs⟩ := Option.bind_eq_some_iff.1 hid
    rw [(valueAt_ok_iff (pathTokens_indexId i)).2 ((hstep v).2 ⟨item, hitem, hv⟩)]
    exact getString_ok_iff.2 hs

/-! ## The listings -/

theorem listSources_eq (D : Device) (scannerPath : String) :
    listSources D scannerPath = untilFault (sourceIds D scannerPath) := by
  unfold listSources sourceIds Device.read
  cases D.docs (scannerPath ++ "/sources") with
  | none => rfl
  | some data =>
    cases data with
    | arr items =>
      have hitems : items.map textOf = (List.range items.length).map fun i => (itemAt (.arr items) i).bind textOf := by
        have h := congrArg (List.map (·.bind textOf)) (embedded_eq (.arr items))
        rwa [embedded, List.map_map, List.map_map] at h
      show readTexts _ _ = untilFault (items.map textOf)
      rw [hitems]
      exact readTexts_eq (text_iff (.arr items)) _
    | _ => rfl

theorem itemIds_range (items : Json) :
    itemIds items (List.range items.size) = untilFault ((embedded items).map (·.bind idOf)) := by
  rw [itemIds_eq, embedded_eq, List.map_map]
  exact readTexts_eq (id_iff items) _

theorem listTools_eq (D : Device) : listTools D = untilFault (toolIds D) := by
  unfold listTools toolIds Device.read
  cases D.docs "/tools" with
  | none => rfl
  | some data =>
    have hplain : Plain "_embedded" ∧ Plain "go:item" := by decide
    rw [Option.bind_some]
    simp only [bind, Except.bind]
    cases he : data.get? "_embedded" with
    | none => simp only [Json.hasKey, he]; rfl
    | some e =>
      rw [Option.bind_some]
      simp only [Json.hasKey, he, Option.isSome_some, if_true, show "/_embedded" = "/" ++ "_embedded" from rfl,
        valueAt_slash hplain.1 he]
      rcases Option.eq_none_or_eq_some (e.get? "go:item") with hi | ⟨items, hi⟩
      · simp only [hi, Option.isSome_none, Bool.false_eq_true, if_false]
        rfl
      · have hpath : valueAt data ("/_embedded" ++ "/go:item") = .ok items := by
          have h₁ : pathTokens "/_embedded" = some ["_embedded"] := by decide
          have h₂ : pathTokens "/go:item" = some ["go:item"] := by decide
          exact valueAt_append h₁ h₂ (by decide) (valueAt_slash hplain.1 he) (valueAt_slash hplain.2 hi)
        rw [show "/_embedded/go:item" = "/_embedded" ++ "/go:item" from rfl, hpath]
        simp only [hi, Option.isSome_some, if_true]
        exact itemIds_range items

/-! ## All or nothing -/

/-- The settings of no tool are kept, or those of every tool of the response under its id. -/
def ToolsComplete (D : Device) (config : ParameterSet) : Prop :=
  ∃ tools, config.getParameter "tools" = .ok tools ∧ (tools = .obj [] ∨
    ∀ item ∈ toolIds D, ∃ id P, item = some id ∧ readToolParameters D id = .ok P ∧ tools.get? id = some P)

/-- An id that names a member of its own: `Set` cuts a path at its slashes, undoes the escapes of a pointer, replaces
all of a document under the empty path, and takes digits or a dash for the position in an array. -/
def Keepable (id : String) : Prop := Plain id ∧ ¬ JsonPointer.Positional id

instance (id : String) : Decidable (Keepable id) := inferInstanceAs (Decidable (_ ∧ _))

theorem isObj_addParameter {s s' : ParameterSet} {name : String} {v : Json} (hn : Plain name)
    (ho : s.data.isObj = true) (h : s.addParameter name v = .ok s') : s'.data.isObj = true := by
  rw [addParameter_ok hn ho h]
  rfl

/-- The snapshot holds the settings of the tools that are listed. -/
theorem readAllConfig_tools {D : Device} {config : ParameterSet} (h : readAllConfig D = .ok config) :
    config.getParameter "tools" = toolSettings D (listTools D) (.obj []) := by
  unfold readAllConfig at h
  obtain ⟨_, -, h⟩ := bind_eq_ok h
  obtain ⟨_, -, h⟩ := bind_eq_ok h
  obtain ⟨c₁, h₁, h⟩ := bind_eq_ok h
  obtain ⟨_, -, h⟩ := bind_eq_ok h
  obtain ⟨c₂, h₂, h⟩ := bind_eq_ok h
  obtain ⟨_, -, h⟩ := bind_eq_ok h
  obtain ⟨c₃, h₃, h⟩ := bind_eq_ok h
  obtain ⟨tools, htools, h₄⟩ := bind_eq_ok h
  have ho₁ := isObj_addParameter (by decide) rfl h₁
  have ho₂ := isObj_addParameter (by decide) ho₁ h₂
  have ho₃ := isObj_addParameter (by decide) ho₂ h₃
  rw [addParameter_ok (by decide) ho₃ h₄, htools]
  exact valueAt_plain (by decide) (Json.get?_set_self ..)

theorem toolSettings_of_readAllConfig {D : Device} {config : ParameterSet} (h : readAllConfig D = .ok config) :
    ∃ tools, toolSettings D (listTools D) (.obj []) = .ok tools := by
  unfold readAllConfig at h
  obtain ⟨_, -, h⟩ := bind_eq_ok h
  obtain ⟨_, -, h⟩ := bind_eq_ok h
  obtain ⟨_, -, h⟩ := bind_eq_ok h
  obtain ⟨_, -, h⟩ := bind_eq_ok h
  obtain ⟨_, -, h⟩ := bind_eq_ok h
  obtain ⟨_, -, h⟩ := bind_eq_ok h
  obtain ⟨_, -, h⟩ := bind_eq_ok h
  obtain ⟨tools, htools, -⟩ := bind_eq_ok h
  exact ⟨tools, htools⟩

/-- Ids that can be kept are kept, all of them. -/
theorem toolsComplete {D : Device} {config : ParameterSet} (hids : ∀ id, some id ∈ toolIds D → Keepable id)
    (hlisted : AllOrNothing (toolIds D) (listTools D)) (h : readAllConfig D = .ok config) : ToolsComplete D config := by
  have htools := readAllConfig_tools h
  rcases hlisted with hnil | hall
  · rw [hnil] at htools
    exact ⟨_, htools, .inl rfl⟩
  · have hplain : ∀ id ∈ listTools D, Plain id := by
      intro id hid
      refine (hids id ?_).1
      rw [hall]
      exact List.mem_map_of_mem hid
    obtain ⟨tools, hread⟩ := toolSettings_of_readAllConfig h
    obtain ⟨ms, rfl, -, -, hkept⟩ := toolSettings_ok hplain SortedMap.sorted_nil hread
    refine ⟨_, htools.trans hread, .inr fun item hitem => ?_⟩
    rw [hall] at hitem
    obtain ⟨id, hid, rfl⟩ := List.mem_map.1 hitem
    obtain ⟨P, hP, hget⟩ := hkept id hid
    exact ⟨id, P, rfl, hP, hget⟩

theorem pathTokens_of_not_slash {path : String} (h : ∀ key, path ≠ "/" ++ key) : pathTokens path = some [path] := by
  unfold pathTokens
  split
  · rename_i cs hcs
    refine absurd ?_ (h (String.ofList cs))
    rw [← String.toList_inj, String.toList_append, hcs]
    exact congrArg ('/' :: ·) String.toList_ofList.symm
  · rfl

theorem pathTokens_ne_nil (path : String) : pathTokens path ≠ some [] := by
  by_cases h : ∃ key, path = "/" ++ key
  · obtain ⟨key, rfl⟩ := h
    exact pathTokens_slash_ne_nil key
  · rw [pathTokens_of_not_slash (not_exists.1 h)]
    exact fun heq => by cases heq

/-- Every member that the loop leaves was there or is named by the path of an id; what was there stays, and an id
leaves a member. -/
theorem toolSettings_source {D : Device} : ∀ {ids : List String} {tools r : Json}, tools.isObj = true →
    toolSettings D ids tools = .ok r →
    (∀ k, r.hasKey k = true → tools.hasKey k = true ∨ ∃ id ∈ ids, ∃ rest, pathTokens id = some (k :: rest)) ∧
      (∀ k, tools.hasKey k = true → r.hasKey k = true) ∧ (ids ≠ [] → ∃ k, r.hasKey k = true)
  | [], tools, r, _, h => by
    cases h
    exact ⟨fun k hk => .inl hk, fun k hk => hk, fun hne => absurd rfl hne⟩
  | id :: ids, tools, r, hobj, h => by
    unfold toolSettings at h
    obtain ⟨P, -, h⟩ := bind_eq_ok h
    obtain ⟨tools', hset, h⟩ := bind_eq_ok h
    rcases setAt_obj hobj hset with ⟨k₁, rest, u, htokens, rfl⟩ | hnil
    · obtain ⟨hsource, hkept, -⟩ := toolSettings_source rfl h
      have hself : (tools.set k₁ u).hasKey k₁ = true := by rw [Json.hasKey, Json.get?_set_self]; rfl
      have hother : ∀ k, k ≠ k₁ → (tools.set k₁ u).hasKey k = tools.hasKey k := by
        intro k hk
        rw [Json.hasKey, Json.get?_set_of_ne _ hk, Json.hasKey]
      refine ⟨fun k hk => ?_, fun k hk => hkept k ?_, fun _ => ⟨k₁, hkept k₁ hself⟩⟩
      · rcases hsource k hk with hk | ⟨id', hid', hrest⟩
        · by_cases heq : k = k₁
          · exact .inr ⟨id, List.mem_cons_self .., rest, by rw [heq]; exact htokens⟩
          · exact .inl (by rwa [hother k heq] at hk)
        · exact .inr ⟨id', List.mem_cons_of_mem _ hid', hrest⟩
      · by_cases heq : k = k₁
        · rw [heq]
          exact hself
        · rwa [hother k heq]
    · exact absurd hnil (pathTokens_ne_nil id)

/-- The settings of a tool whose id starts with a slash are put under another name, so they are lost under their own
unless another such id, which is longer, puts its own there: the longest is lost. -/
theorem not_toolsComplete {D : Device} {config : ParameterSet} {key : String} (hid : some ("/" ++ key) ∈ toolIds D)
    (hnone : none ∉ toolIds D) (h : readAllConfig D = .ok config) : ¬ ToolsComplete D config := by
  rintro ⟨tools, htools, hcomplete⟩
  obtain ⟨ids, hids⟩ := eq_map_some hnone
  have hlisted : listTools D = ids := by rw [listTools_eq, hids, untilFault_map_some]
  obtain ⟨r, hread⟩ := toolSettings_of_readAllConfig h
  have hkept := (readAllConfig_tools h).trans hread
  obtain rfl : tools = r := Except.ok.inj (htools.symm.trans hkept)
  rw [hlisted] at hread
  obtain ⟨hsource, -, hleft⟩ := toolSettings_source rfl hread
  have hmem : ∀ id, some id ∈ toolIds D ↔ id ∈ ids := by
    intro id
    rw [hids, List.mem_map]
    exact ⟨fun ⟨id', hid', heq⟩ => Option.some.inj heq ▸ hid', fun hid' => ⟨id, hid', rfl⟩⟩
  rcases hcomplete with rfl | hall
  · obtain ⟨k, hk⟩ := hleft (List.ne_nil_of_mem ((hmem _).1 hid))
    cases hk
  · have hlonger : ∀ n, ∃ key, "/" ++ key ∈ ids ∧ n ≤ key.length := by
      intro n
      induction n with
      | zero => exact ⟨key, (hmem _).1 hid, Nat.zero_le _⟩
      | succ n ih =>
        obtain ⟨key', hkey', hle⟩ := ih
        obtain ⟨id, P, heq, -, hget⟩ := hall _ ((hmem _).2 hkey')
        obtain rfl := Option.some.inj heq
        have hhas : tools.hasKey ("/" ++ key') = true := by rw [Json.hasKey, hget]; rfl
        rcases hsource _ hhas with hold | ⟨id, hid', rest, htokens⟩
        · cases hold
        · have hslash : '/' ∈ ("/" ++ key').toList := by
            rw [String.toList_append]
            exact List.mem_append_left _ (List.mem_singleton_self _)
          by_cases hpath : ∃ key'', id = "/" ++ key''
          · obtain ⟨key'', rfl⟩ := hpath
            obtain ⟨-, hlt⟩ := length_of_pathTokens htokens fun hplain => hplain.1 hslash
            rw [String.length_append] at hlt
            exact ⟨key'', hid', by omega⟩
          · rw [pathTokens_of_not_slash (not_exists.1 hpath)] at htokens
            cases htokens
            exact absurd ⟨key', rfl⟩ hpath
    obtain ⟨key', hkey', hle⟩ := hlonger ((ids.map fun id => id.length).sum + 1)
    have hsum := List.le_sum_of_mem (List.mem_map_of_mem (f := fun id : String => id.length) hkey')
    rw [String.length_append] at hsum
    omega

/-- A device with two tools. -/
def twoToolsDevice (id id' : String) : Device where
  docs path :=
    if path = "/scan/visibleSensors/" then
      some (.obj [("sensors", .arr [.obj [("engineId", .str "LMILaserLineProfiler"), ("model", .str "2340"),
        ("serialNumber", .str "1")]])])
    else if path = "/tools" then
      some (.obj [("_embedded", .obj [("go:item", .arr [.obj [("id", .str id)], .obj [("id", .str id')]])])])
    else some (.obj [])
  schemas _ := some (.obj [])

theorem toolIds_twoToolsDevice (id id' : String) : toolIds (twoToolsDevice id id') = [some id, some id'] := rfl

/-- A device whose listing embeds a tool with an id and one without. -/
def lateFaultDevice : Device where
  docs path :=
    if path = "/tools" then
      some (.obj [("_embedded", .obj [("go:item", .arr [.obj [("id", .str "Filter-0")], .obj []])])])
    else none
  schemas _ := none

end Gocator.Settings

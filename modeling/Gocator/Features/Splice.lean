/-
Texts that are put between quotation marks without escapes: the source id in the payload with which
`configure` adds an output, and the entry of an enumeration that `onParameterChanged` hands to
`setParameterValue`. A JSON reader finds the text again exactly when every character of it stands for itself.
-/
import Gocator.Settings.Encoding
import Gocator.Features.Session

namespace Gocator.Features

open JsonText (Literal ShortStrings parse)
open Gocator.Settings (Request outputPayload outputTail)
open Gocator.Facade (ScanMode ScanArguments configureRequests profileSourceForEngine)

/-- Every character stands for itself in a JSON string: no quotation mark, no backslash, no control character. -/
def Clean (s : String) : Prop := ∀ c ∈ s.toList, Literal c

instance (s : String) : Decidable (Clean s) := inferInstanceAs (Decidable (∀ _ ∈ _, _))

/-! ## The source of the output -/

/-- The payloads of the commands that add an output. -/
def outputPayloads (requests : List Request) : List String :=
  requests.filterMap fun
    | .addOutput _ payload => some payload
    | _ => none

/-- The source that a payload names. -/
def sourceMember (payload : String) : Option Json := (parse payload).bind (·.get? "source")

theorem outputPayloads_configure (args : ScanArguments) (mode : ScanMode) (engineId : String) :
    outputPayloads (configureRequests args mode engineId) =
      [outputPayload (profileSourceForEngine engineId mode).toList 0 true] := by
  have htext : ∀ sourceId : String, "\x7b\"source\":\"" ++ sourceId ++ "\",\"outputId\":0,\"autoShift\":true\x7d" =
      outputPayload sourceId.toList 0 true := by
    intro sourceId
    rw [← String.toList_inj]
    unfold outputPayload outputTail
    simp only [String.toList_append, String.toList_ofList, List.append_assoc]
    rfl
  rw [← htext]
  rfl

/-- What stands in a source id before and behind the engine id. -/
theorem source_cut (engineId : String) (mode : ScanMode) : ∃ tail : List Char,
    (profileSourceForEngine engineId mode).toList = "scan:".toList ++ (engineId.toList ++ tail) ∧
      (∀ c ∈ tail, Literal c) ∧ 28 ≤ tail.length ∧ tail.getLast? ≠ some '\\' := by
  have hcut : ∀ tail : String, ("scan:" ++ engineId ++ tail).toList =
      "scan:".toList ++ (engineId.toList ++ tail.toList) := by
    intro tail
    rw [String.toList_append, String.toList_append, List.append_assoc]
  unfold profileSourceForEngine
  split <;> split
  · exact ⟨_, hcut ":scanner-0:topUniformSurfaceLayer0", by decide, by decide, by decide⟩
  · exact ⟨_, hcut ":scanner-0:topUniformSurface", by decide, by decide, by decide⟩
  · exact ⟨_, hcut ":scanner-0:topUniformProfileLayer0", by decide, by decide, by decide⟩
  · exact ⟨_, hcut ":scanner-0:topUniformProfile", by decide, by decide, by decide⟩

theorem clean_source_iff (engineId : String) (mode : ScanMode) :
    Clean (profileSourceForEngine engineId mode) ↔ Clean engineId := by
  obtain ⟨tail, hsource, htail, -, -⟩ := source_cut engineId mode
  have hscan : ∀ c ∈ "scan:".toList, Literal c := by decide
  unfold Clean
  rw [hsource]
  simp only [List.mem_append]
  constructor
  · exact fun h c hc => h c (.inr (.inl hc))
  · rintro h c (hc | hc | hc)
    · exact hscan c hc
    · exact h c hc
    · exact htail c hc

/-- Every string in the payload is shorter than the source unless the source is written as itself: a string that
starts in the source ends with it, and no other text of the payload is as long. -/
theorem shortStrings_payload {source : List Char} (hlong : 32 < source.length) (hlast : source.getLast? ≠ some '\\')
    (h : ¬ ∀ c ∈ source, Literal c) : ShortStrings source.length (outputPayload source 0 true).toList := by
  have htail : ShortStrings source.length ('\x22' :: outputTail 0 true) :=
    JsonText.shortStrings_of_length (by show 32 ≤ source.length; omega)
  have hsource : ShortStrings source.length ('\x22' :: (source ++ '\x22' :: outputTail 0 true)) := by
    refine JsonText.shortStrings_cons (JsonText.shortStrings_append htail hlast (Nat.le_refl _)) ?_
    rintro - s rest hs
    obtain ⟨hle, hall⟩ := JsonText.string_within hs hlast
    exact Nat.lt_of_le_of_ne hle fun heq => h (hall heq).2
  have hcolon : ShortStrings source.length ('\x22' :: ([':'] ++ '\x22' :: (source ++ '\x22' :: outputTail 0 true))) :=
    JsonText.shortStrings_literals (by decide) (by show 1 < source.length; omega) hsource
  have hname : ShortStrings source.length ('\x22' :: ("source".toList ++ '\x22' :: ':' ::
      ('\x22' :: (source ++ '\x22' :: outputTail 0 true)))) :=
    JsonText.shortStrings_literals (by decide) (by show 6 < source.length; omega) hcolon
  unfold outputPayload
  rw [String.toList_ofList]
  exact JsonText.shortStrings_cons hname fun heq => absurd heq (by decide)

/-- The payload names its source exactly when the engine id is clean. -/
theorem sourceMember_iff (engineId : String) (mode : ScanMode) :
    sourceMember (outputPayload (profileSourceForEngine engineId mode).toList 0 true) =
      some (.str (profileSourceForEngine engineId mode)) ↔ Clean engineId := by
  rw [← clean_source_iff engineId mode]
  constructor
  · intro hmember
    by_contra hclean
    obtain ⟨tail, hsource, -, hlen, hlast⟩ := source_cut engineId mode
    have hlong : 32 < (profileSourceForEngine engineId mode).toList.length := by
      rw [hsource, List.length_append, List.length_append]
      have hscan : "scan:".toList.length = 5 := rfl
      omega
    have hend : (profileSourceForEngine engineId mode).toList.getLast? ≠ some '\\' := by
      have hne : tail ≠ [] := List.ne_nil_of_length_pos (by omega)
      rw [hsource, List.getLast?_append_of_ne_nil _ (List.append_ne_nil_of_right_ne_nil _ hne),
        List.getLast?_append_of_ne_nil _ hne]
      exact hlast
    obtain ⟨j, hj, hget⟩ := Option.bind_eq_some_iff.1 hmember
    exact absurd (JsonText.parse_short hj (shortStrings_payload hlong hend hclean) hget) (Nat.lt_irrefl _)
  · intro hclean
    rw [sourceMember, Settings.parse_outputPayload (JsonText.string_literals hclean _), Option.bind_some,
      String.ofList_toList]
    exact Settings.get?_outputValue _ 0 true

/-! ## The entry of an enumeration -/

/-- The text that `onParameterChanged` hands on for a value; how numbers are printed is left open. -/
def jsonValueStr (number : Rat → String) : Json → String
  | .bool b => Settings.boolText b
  | .num q => number q
  | .str s => "\"" ++ s ++ "\""
  | _ => ""

/-- The patch that `setParameterValue` sends, for a reader of JSON texts. -/
def parameterPatch (read : String → Option Json) (path jsonValue : String) : Except Settings.Error Json :=
  match read jsonValue with
  | some v => Settings.setAt (.obj []) path v
  | none => .error .json

/-- The text of the value is read as the value, and the patch of every path holds it. -/
def Carried (number : Rat → String) (v : Json) : Prop :=
  parse (jsonValueStr number v) = some v ∧
    ∀ path, parameterPatch parse path (jsonValueStr number v) = Settings.setAt (.obj []) path v

theorem quoted_toList (s : String) : "\"" ++ s ++ "\"" = String.ofList ('\x22' :: (s.toList ++ ['\x22'])) := by
  rw [← String.toList_inj]
  simp only [String.toList_append, String.toList_ofList]
  rfl

/-- A text that is read as itself takes up all room between its quotation marks, so nothing in it is an escape. -/
theorem parse_quoted_iff (s : String) : parse ("\"" ++ s ++ "\"") = some (.str s) ↔ Clean s := by
  rw [quoted_toList]
  constructor
  · intro h
    unfold parse at h
    rw [String.toList_ofList, JsonText.read_quote] at h
    cases hs : JsonText.string (s.toList ++ ['\x22']) with
    | none =>
      rw [hs] at h
      cases h
    | some p =>
      rw [hs, Option.map_some] at h
      dsimp only at h
      split at h
      · have hread : p.1 = s.toList := by rw [← Json.str.inj (Option.some.inj h), String.toList_ofList]
        obtain ⟨raw, hraw, -, hall⟩ := JsonText.string_raw hs
        have hlen := congrArg List.length hraw
        simp only [List.length_append, List.length_cons, List.length_nil] at hlen
        obtain ⟨heq, hlits⟩ := hall (by rw [hread]; omega)
        intro c hc
        rw [← hread, heq] at hc
        exact hlits c hc
      · cases h
  · intro h
    rw [Settings.parse_string (JsonText.string_literals h []), String.ofList_toList]

theorem carried_str_iff (number : Rat → String) (s : String) : Carried number (.str s) ↔ Clean s := by
  constructor
  · rintro ⟨hparse, -⟩
    exact (parse_quoted_iff s).1 hparse
  · intro h
    have hparse : parse (jsonValueStr number (.str s)) = some (.str s) := (parse_quoted_iff s).2 h
    refine ⟨hparse, fun path => ?_⟩
    unfold parameterPatch
    rw [hparse]

/-- What selecting an entry of a text enumeration dispatches. -/
theorem selected_iff (curVal : Option Json) (enumVals : List Json) (v : Json) :
    (∃ i e, (comboBox textItem (isCurrentText curVal) enumVals).edited (.setCurrentIndex i) = some e ∧
      onParameterChanged e = some v) ↔ ∃ entry ∈ enumVals, v = textItem entry := by
  have hedited : ∀ i, (comboBox textItem (isCurrentText curVal) enumVals).edited (.setCurrentIndex i) =
      if i < enumVals.length then some (.comboBox (enumVals.map textItem) (some i)) else none := by
    intro i
    unfold comboBox Editor.edited
    simp only [List.length_map]
  have hdispatched : ∀ (i : Nat) (entry : Json), enumVals[i]? = some entry →
      onParameterChanged (.comboBox (enumVals.map textItem) (some i)) = some (textItem entry) := by
    intro i entry hentry
    unfold onParameterChanged
    simp only [Option.bind_some, List.getElem?_map, hentry, Option.map_some, Option.getD_some]
    rfl
  constructor
  · rintro ⟨i, e, he, hv⟩
    rw [hedited] at he
    split at he
    · rename_i hi
      cases he
      rw [hdispatched i _ (List.getElem?_eq_getElem hi)] at hv
      cases hv
      exact ⟨_, List.getElem_mem hi, rfl⟩
    · cases he
  · rintro ⟨entry, hentry, rfl⟩
    obtain ⟨i, hi, rfl⟩ := List.getElem_of_mem hentry
    refine ⟨i, _, ?_, hdispatched i _ (List.getElem?_eq_getElem hi)⟩
    rw [hedited, if_pos hi]

/-! ## Both sites -/

/-- Both sites carry their texts exactly when the engine id and the entries of the enumeration hold no quotation
mark, no backslash and no control character. -/
theorem spliced_texts_iff (args : ScanArguments) (mode : ScanMode) (engineId : String) (number : Rat → String)
    (curVal : Option Json) (enumVals : List Json) :
    ((outputPayloads (configureRequests args mode engineId)).map sourceMember =
        [some (.str (profileSourceForEngine engineId mode))] ∧
      ∀ i e v, (comboBox textItem (isCurrentText curVal) enumVals).edited (.setCurrentIndex i) = some e →
        onParameterChanged e = some v → Carried number v) ↔
      Clean engineId ∧ ∀ entry ∈ enumVals, Clean (toText (some entry)) := by
  refine and_congr ?_ ?_
  · rw [outputPayloads_configure, List.map_singleton, ← sourceMember_iff engineId mode]
    simp only [List.cons.injEq, and_true]
  · constructor
    · intro h entry hentry
      obtain ⟨i, e, he, hv⟩ := (selected_iff curVal enumVals (textItem entry)).2 ⟨entry, hentry, rfl⟩
      exact (carried_str_iff number _).1 (h i e _ he hv)
    · intro h i e v he hv
      obtain ⟨entry, hentry, rfl⟩ := (selected_iff curVal enumVals v).1 ⟨i, e, he, hv⟩
      exact (carried_str_iff number _).2 (h entry hentry)

theorem spliced_quote_lost : ¬ ∀ (args : ScanArguments) (mode : ScanMode) (engineId : String) (number : Rat → String)
    (curVal : Option Json) (enumVals : List Json),
    (outputPayloads (configureRequests args mode engineId)).map sourceMember =
        [some (.str (profileSourceForEngine engineId mode))] ∧
      ∀ i e v, (comboBox textItem (isCurrentText curVal) enumVals).edited (.setCurrentIndex i) = some e →
        onParameterChanged e = some v → Carried number v := by
  intro h
  obtain ⟨hsource, -⟩ := h ⟨"20", true, true, 1000⟩ .profileMode "a\"b" (fun _ => "") none []
  rw [outputPayloads_configure, List.map_singleton] at hsource
  have hclean := (sourceMember_iff "a\"b" .profileMode).1 (List.cons.inj hsource).1
  exact absurd hclean (by decide)

end Gocator.Features

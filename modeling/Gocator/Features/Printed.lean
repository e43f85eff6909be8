/-
How the values of the feature tree are printed: a number as the double that holds it, with seventeen significant
figures, from which a reader that rounds to doubles finds it again. So the documents get what was dispatched, and an
editor whose decimals fifteen figures have room for shows it again.
-/
import Gocator.Features.Valid

namespace Gocator.Features

open Transition (Run anyStep)
open Decimal (Figures Nearest Places double significant)
open Gocator.Facade (detectEngineId)
open Gocator.Settings (accepts)
open JsonText (parse)

/-! ## The text of a value -/

theorem parse_numberText (x : Rat) : parse (numberText x) = some (.num (significant 10 .halfUp 17 x)) :=
  (JsonText.writes_general .halfUp 16 x).parse

/-- The text of a double is read as this double. -/
theorem parseDoubles_numberText {x : Rat} (h : Figures 2 53 x) :
    JsonText.parseDoubles (numberText x) = some (.num x) := by
  rw [JsonText.parseDoubles_of_parse (parse_numberText x), Json.mapNum_num, Decimal.double_significant .halfUp h]

/-! ## What an editor lets through -/

/-- The texts among the items of a combo box need no escapes. -/
def Editor.Printable : Editor → Prop
  | .comboBox items _ => ∀ s, .str s ∈ items → Clean s
  | _ => True

/-- The range of a double spin box leaves room for its decimals in fifteen figures, and the numbers among the items of a
combo box are doubles. -/
def Editor.Precise : Editor → Prop
  | .doubleSpinBox decimals minimum maximum _ _ =>
    -10 ^ 15 ≤ minimum * 10 ^ decimals ∧ maximum * 10 ^ decimals ≤ 10 ^ 15
  | .comboBox items _ => ∀ q, .num q ∈ items → Figures 2 53 q
  | _ => True

section

variable {e e' : Editor} {v : Json}

theorem printable_edited {change : Edit} (h : e.edited change = some e') : e'.Printable = e.Printable := by
  cases Editor.changes_of_edited h <;> rfl

theorem printable_refreshed (w : Json) (e : Editor) : (e.refreshed w).Printable = e.Printable := by
  cases e <;> rfl

/-- What is dispatched is read as it is held. -/
theorem read_text_of_dispatched (hs : e.Sound) (hp : e.Printable) (hv : onParameterChanged e = some v) :
    Wire.doubles.read (Wire.doubles.text v) = some (Wire.doubles.held v) := by
  have hnumber : ∀ q : Rat, Wire.doubles.read (Wire.doubles.text (.num q)) = some (Wire.doubles.held (.num q)) :=
    fun q => parseDoubles_numberText (Decimal.figures_double q)
  rcases hs.dispatched hv with ⟨b, rfl⟩ | ⟨q, rfl⟩ | ⟨s, rfl⟩
  · exact JsonText.parseDoubles_of_parse (parse_of_writes (writes_boolText b))
  · exact hnumber q
  · cases e with
    | comboBox items currentIndex =>
      exact JsonText.parseDoubles_of_parse ((parse_quoted_iff s).2 (hp s (mem_of_dispatched hv).1))
    | _ => cases hv

theorem holds_of_precise (hs : e.Sound) (hp : e.Precise) : e.Holds double := by
  cases e with
  | checkBox => trivial
  | spinBox minimum maximum value =>
    obtain ⟨hmin, hmax, -, -⟩ := hs
    intro n hlo hhi
    have hmin' : -2147483648 ≤ minimum := hmin
    have hmax' : maximum ≤ 2147483647 := hmax
    refine Decimal.double_intCast (abs_lt.2 ⟨?_, ?_⟩) <;> omega
  | doubleSpinBox decimals minimum maximum singleStep value =>
    obtain ⟨hmin, hmax⟩ := hp
    intro q hplaces hlo hhi
    refine Decimal.round_double hplaces ?_ ?_
    · calc (-10 ^ 15 : Rat) ≤ minimum * 10 ^ decimals := hmin
        _ ≤ q * 10 ^ decimals := by gcongr
    · calc q * 10 ^ decimals ≤ maximum * 10 ^ decimals := by gcongr
        _ ≤ 10 ^ 15 := hmax
  | comboBox items currentIndex =>
    intro item hitem
    rcases hs item hitem with ⟨q, rfl⟩ | ⟨s, rfl⟩
    · rw [Json.mapNum_num, Decimal.double_eq_iff.2 (hp q hitem)]
    · rfl

end

/-! ## Runs -/

variable {outside : Rat → Int32} {pending : List (String × Json)} {r : Resources} {rejects : String → Bool}
  {s s₀ : Live} {tr : List (Nat × Json)}

/-- The editors let through texts without escapes, and what was dispatched is read as it is held. -/
structure Exact (tr : List (Nat × Json)) (s : Live) : Prop where
  sound : ∀ f ∈ s.features, f.editor.Sound
  printable : ∀ f ∈ s.features, f.editor.Printable
  texts : ∀ e ∈ tr, Wire.doubles.read (Wire.doubles.text e.2) = some (Wire.doubles.held e.2)

theorem Exact.step (h : Exact tr s) {a : LiveAction} {s' : Live} {evs : List (Nat × Json)}
    (hstep : Live.step .doubles rejects s a = some (s', evs)) : Exact (tr ++ evs) s' := by
  cases a with
  | edit i change =>
    obtain ⟨f, f', v, hi, hedit, rfl, rfl⟩ := Live.step_edit hstep
    obtain ⟨editor, heditor, hv, rfl⟩ := Feature.edited_eq hedit
    have hsound := (h.sound f (List.mem_of_getElem? hi)).edited heditor
    have hprintable : editor.Printable := by
      rw [printable_edited heditor]
      exact h.printable f (List.mem_of_getElem? hi)
    refine ⟨fun g hg => ?_, fun g hg => ?_, fun e he => ?_⟩
    · rcases List.mem_or_eq_of_mem_set hg with hg | rfl
      · exact h.sound g hg
      · exact hsound
    · rcases List.mem_or_eq_of_mem_set hg with hg | rfl
      · exact h.printable g hg
      · exact hprintable
    · rcases List.mem_append.1 he with he | he
      · exact h.texts e he
      · rw [List.mem_singleton.1 he]
        exact read_text_of_dispatched hsound hprintable hv
  | updateFeatureValues =>
    obtain ⟨rfl, rfl⟩ := Prod.mk.inj (Option.some.inj hstep)
    rw [List.append_nil]
    have hrefreshed : ∀ g ∈ applyFeatureValues (featureData s.device) s.features,
      g.editor.Sound ∧ g.editor.Printable := by
      intro g hg
      obtain ⟨f, hf, rfl⟩ := List.mem_map.1 hg
      have hsound := h.sound f hf
      have hprintable := h.printable f hf
      unfold Feature.refreshed
      split
      · exact ⟨hsound, hprintable⟩
      · exact ⟨hsound, hprintable⟩
      · exact ⟨hsound.refreshed _, by rw [printable_refreshed]; exact hprintable⟩
    exact ⟨fun g hg => (hrefreshed g hg).1, fun g hg => (hrefreshed g hg).2, h.texts⟩

theorem exact_of_run (hsound : ∀ f ∈ s₀.features, f.editor.Sound) (hprintable : ∀ f ∈ s₀.features, f.editor.Printable)
    (hrun : Run (Live.step .doubles rejects) anyStep s₀ tr s) : Exact tr s := by
  refine Run.invariant ⟨hsound, hprintable, nofun⟩ ?_ hrun
  intro tr s a s' evs ih _ hstep
  exact ih.step hstep

/-- In every run of edits and refreshes, the text of a number that is dispatched is a JSON number. It denotes the double
that holds the number exactly if this has at most seventeen figures, it is read as this double, and every other double
is further from what it denotes. Where the texts among the items need no escapes, every text is read as its value is
held, so the document of every entry that was edited has the value dispatched last; and the entry shows this value if
its editor is precise. -/
theorem edits_printed (hr : r.Sound outside)
    (haccepts : ∀ target, accepts rejects s₀.device (targetPath (detectEngineId s₀.device) target) = true)
    (hfeatures : s₀.features.Perm (populateFeatures outside pending r))
    (hrun : Run (Live.step .doubles rejects) anyStep s₀ tr s) :
    (∀ e ∈ tr, ∀ q, e.2 = .num q → ∃ y, parse (Wire.doubles.text e.2) = some (.num y) ∧
      (y = double q ↔ Figures 10 17 (double q)) ∧ double y = double q ∧
        ∀ z, Figures 2 53 z → z ≠ double q → |y - double q| < |y - z|) ∧
    ((∀ f ∈ s₀.features, f.editor.Printable) →
      (∀ e ∈ tr, Wire.doubles.read (Wire.doubles.text e.2) = some (Wire.doubles.held e.2)) ∧
      ∀ i f v, s.features[i]? = some f → lastEdit tr i = some v →
        f.targetVal (featureData s.device) = some (Wire.doubles.held v) ∧
          (f.editor.Precise → onParameterChanged f.editor = some v)) := by
  constructor
  · intro e _ q hq
    have hdouble := Decimal.figures_double q
    refine ⟨significant 10 .halfUp 17 (double q), ?_, Decimal.significant_eq_iff (by decide) .halfUp 16 _,
      Decimal.double_significant .halfUp hdouble, fun z hz hne => ?_⟩
    · rw [hq]
      exact parse_numberText (double q)
    · exact Decimal.abs_significant_sub_lt_of_double .halfUp hdouble hz hne
  · intro hprintable
    have hentries := entries_populateFeatures hr hfeatures
    have htexts := (exact_of_run hentries.sound hprintable hrun).texts
    have hsynced := synced_of_run hr haccepts hentries hrun htexts
    refine ⟨htexts, fun i f v hi hlast => ⟨?_, fun hprecise => ?_⟩⟩
    · rw [hsynced.targetVal_eq hentries haccepts hr hi, hlast, Option.map_some, Option.some_or]
    · have hholds := holds_of_precise (hsynced.sound f (List.mem_of_getElem? hi)) hprecise
      exact hsynced.agree i f v hi hholds hlast

theorem printable_laser : ∀ f ∈ laserTree.features, f.editor.Printable := by
  intro f hf
  obtain ⟨propSchema, curVal, hat, hbuild⟩ := built_of_mem sound_laserResources hf
  have htype : toText (flagProperty.get? "type") = "boolean" := by decide
  rw [eq_of_leafAt_laser hat, buildEditor_boolean htype] at hbuild
  rw [← Option.some.inj hbuild]
  trivial

theorem edits_printed_laser : ∃ tr s f, Run (Live.step .doubles (fun _ => false)) anyStep laserTree tr s ∧
    f ∈ s.features ∧ f.targetVal (featureData s.device) = some (.bool false) := by
  obtain ⟨i, s, f, hrun, hf⟩ := run_laser .doubles
  have hlast : lastEdit [(i, Json.bool false)] i = some (.bool false) := by simp [lastEdit]
  obtain ⟨-, hshown⟩ :=
    (edits_printed sound_laserResources (fun _ => rfl) (List.Perm.refl _) hrun).2 printable_laser
  obtain ⟨hval, -⟩ := hshown i f _ hf hlast
  exact ⟨_, s, f, hrun, List.mem_of_getElem? hf, hval⟩

end Gocator.Features

/-
The five scan parameters: the path of each, the kind of editor its accessor can read, and what the accessor
answers when it finds none. Every accessor is one search, whatever the order of the editors.
-/
import Gocator.Features.Tree

namespace Gocator.Features

open Gocator.Facade (ScanMode)

/-! ## The first of some in any order -/

section

variable {α β : Type} {l : List α} {f : α → Option β}

theorem findSome?_none (h : ∀ a ∈ l, f a = none) : l.findSome? f = none := List.findSome?_eq_none_iff.2 h

/-- What is found first is one value in every order only if everything that can be found is. -/
theorem findSome?_perm_iff {d t : β} :
    (∀ l' : List α, l'.Perm l → (l'.findSome? f).getD d = t) ↔
      (∀ a ∈ l, ∀ x, f a = some x → x = t) ∧ ((∀ a ∈ l, f a = none) → d = t) := by
  constructor
  · intro h
    constructor
    · -- in some order it is the first
      intro a ha x hx
      obtain ⟨before, after, rfl⟩ := List.append_of_mem ha
      have hfirst := h (a :: (before ++ after)) List.perm_middle.symm
      rwa [List.findSome?_cons, hx] at hfirst
    · intro hnone
      have hl := h l (List.Perm.refl l)
      rwa [findSome?_none hnone] at hl
  · rintro ⟨hall, hnone⟩ l' hperm
    cases hfound : l'.findSome? f with
    | none =>
      apply hnone
      intro a ha
      exact List.findSome?_eq_none_iff.1 hfound a (hperm.mem_iff.2 ha)
    | some x =>
      obtain ⟨before, a, after, rfl, ha, -⟩ := List.findSome?_eq_some_iff.1 hfound
      exact hall a (hperm.mem_iff.1 (by simp)) x ha

/-- A loop that keeps what it saw last keeps what is found first from the end. -/
theorem foldl_last (g : α → Option β) (d : β) (l : List α) :
    l.foldl (fun val a => (g a).getD val) d = (l.reverse.findSome? g).getD d := by
  induction l using List.reverseRecOn with
  | nil => rfl
  | append_singleton l a ih =>
    rw [List.foldl_append, List.reverse_append, List.foldl_cons, List.foldl_nil, ih]
    cases h : g a <;> simp [h]

theorem map_found {γ : Type} (g : β → γ) (d : β) :
    g ((l.findSome? f).getD d) = (l.findSome? fun a => (f a).map g).getD (g d) := by
  induction l with
  | nil => rfl
  | cons a l ih =>
    simp only [List.findSome?_cons]
    cases f a with
    | none => exact ih
    | some x => rfl

end

/-! ## The parameters -/

/-- The five parameters with accessors of their own. -/
inductive Parameter where
  | scanLengthMm
  | scanMode
  | exposureUs
  | intensityEnabled
  | uniformSpacingEnabled
  deriving DecidableEq, Repr

namespace Parameter

def path : Parameter → String
  | .scanLengthMm => "/parameters/scanModeSettings/scanLengthMm"
  | .scanMode => "/parameters/scanModeSettings/scanMode"
  | .exposureUs => "/parameters/exposureSettings/singleExposure"
  | .intensityEnabled => "/parameters/scanModeSettings/intensityEnabled"
  | .uniformSpacingEnabled => "/parameters/scanModeSettings/uniformSpacingEnabled"

theorem path_injective : Function.Injective path := by
  intro p q h
  cases p <;> cases q <;> first | rfl | exact absurd h (by decide)

/-- The resource to which `configure` writes the parameter. -/
def target : Parameter → ParameterTarget
  | .exposureUs => .sensor
  | _ => .scanner

/-- The number that `configure` writes for a mode. -/
def modeNumber (val : Int) : Json := .num (if val = 3 then 3 else 2)

theorem modeNumber_eq (n : Int) : modeNumber n = .num 2 ∨ modeNumber n = .num 3 := by
  unfold modeNumber
  split
  · exact .inr rfl
  · exact .inl rfl

theorem variantToInt_intCast {n : Int} (h : intMin ≤ n ∧ n ≤ intMax) : variantToInt (some (.num n)) = n := by
  show (Decimal.round 0 (n : Rat)).floor.bmod (2 ^ 32) = n
  rw [Decimal.round_of_places (Decimal.places_intCast 0 n), Rat.floor_intCast]
  unfold intMin intMax at h
  exact Int.bmod_eq_of_le (by omega) (by omega)

theorem modeNumber_two : modeNumber (variantToInt (some (.num 2))) = .num 2 :=
  congrArg modeNumber (variantToInt_intCast (n := 2) (by decide))

theorem modeNumber_three : modeNumber (variantToInt (some (.num 3))) = .num 3 :=
  congrArg modeNumber (variantToInt_intCast (n := 3) (by decide))

/-- What the accessor reads from an editor of the kind it expects. -/
def read : Parameter → Editor → Option Json
  | .scanLengthMm, .doubleSpinBox _ _ _ _ value => some (.num value)
  | .scanMode, .comboBox items currentIndex =>
    some (modeNumber (variantToInt (currentIndex.bind fun i => items[i]?)))
  | .exposureUs, .spinBox _ _ value => some (.num value)
  | .intensityEnabled, .checkBox checked => some (.bool checked)
  | .uniformSpacingEnabled, .checkBox checked => some (.bool checked)
  | _, _ => none

/-- What the accessor answers when there is no such editor. -/
def fallback : Parameter → Json
  | .scanLengthMm => .num 20
  | .scanMode => .num 2
  | .exposureUs => .num 1000
  | .intensityEnabled => .bool true
  | .uniformSpacingEnabled => .bool true

/-- What the accessor makes of a pending value. -/
def fromPending : Parameter → Json → Json
  | .scanLengthMm, v => .num (toDouble (some v) 0)
  | .scanMode, v => modeNumber (toInt (some v) 0)
  | .exposureUs, v => .num (toInt (some v) 0)
  | .intensityEnabled, v => .bool (toBool (some v))
  | .uniformSpacingEnabled, v => .bool (toBool (some v))

/-- What the accessor finds at an entry. -/
def shown (p : Parameter) (f : Feature) : Option Json := if f.path = p.path then p.read f.editor else none

theorem shown_eq_some_iff {p : Parameter} {f : Feature} {x : Json} :
    p.shown f = some x ↔ f.path = p.path ∧ p.read f.editor = some x := by
  unfold shown
  split
  · next hpath => exact (and_iff_right hpath).symm
  · next hpath => exact ⟨nofun, fun h => absurd h.1 hpath⟩

/-- The order in which the accessor searches for the entry that counts. -/
def ordered (p : Parameter) (features : List Feature) : List Feature :=
  if p = .scanMode then features.reverse else features

theorem ordered_perm (p : Parameter) (features : List Feature) : (p.ordered features).Perm features := by
  unfold ordered
  split
  · exact List.reverse_perm features
  · exact List.Perm.refl features

theorem ordered_ordered (p : Parameter) (features : List Feature) : p.ordered (p.ordered features) = features := by
  unfold ordered
  split
  · exact List.reverse_reverse features
  · rfl

end Parameter

/-- What `configure` writes for a parameter. -/
def GrabArguments.value (args : GrabArguments) : Parameter → Json
  | .scanLengthMm => .num args.scanLengthMm
  | .scanMode => .num (if args.scanMode = .surfaceMode then 3 else 2)
  | .exposureUs => .num args.exposureUs
  | .intensityEnabled => .bool args.intensityEnabled
  | .uniformSpacingEnabled => .bool args.uniformSpacingEnabled

/-- Every accessor is the search for its parameter. -/
def argument (w : FeatureWidget) (p : Parameter) : Json :=
  match SortedMap.get? p.path w.pendingParams with
  | some v => p.fromPending v
  | none => ((p.ordered w.features).findSome? p.shown).getD p.fallback

theorem map_accessor {α : Type} (w : FeatureWidget) (p : Parameter) (hp : p ≠ .scanMode) (g : α → Json)
    (fromPending : Json → α) (read : Editor → Option α) (fallback : α)
    (hpending : ∀ v, g (fromPending v) = p.fromPending v) (hread : ∀ e, (read e).map g = p.read e)
    (hfallback : g fallback = p.fallback) :
    g (accessor w p.path fromPending read fallback) = argument w p := by
  unfold accessor argument
  cases SortedMap.get? p.path w.pendingParams with
  | some v => exact hpending v
  | none =>
    have hshown : (fun f : Feature => (if f.path = p.path then read f.editor else none).map g) = p.shown := by
      funext f
      unfold Parameter.shown
      split
      · exact hread f.editor
      · rfl
    have hordered : p.ordered w.features = w.features := if_neg hp
    exact (map_found g fallback).trans (by rw [hshown, hfallback, hordered])

/-- What the accessor of the mode reads from a combo box. -/
def modeRead (path : String) (f : Feature) : Option Int :=
  if f.path = path then
    match f.editor with
    | .comboBox items currentIndex => some (variantToInt (currentIndex.bind fun i => items[i]?))
    | _ => none
  else none

theorem map_modeRead (f : Feature) :
    (modeRead Parameter.scanMode.path f).map Parameter.modeNumber = Parameter.scanMode.shown f := by
  unfold modeRead Parameter.shown
  split
  · cases f.editor <;> rfl
  · rfl

theorem value_scanMode (w : FeatureWidget) : (grabArguments w).value .scanMode = argument w .scanMode := by
  have hnumber : ∀ val : Int, Json.num (if (if val = 3 then ScanMode.surfaceMode else .profileMode) = .surfaceMode
      then 3 else 2) = Parameter.modeNumber val := by
    intro val
    unfold Parameter.modeNumber
    split <;> rfl
  have hloop : (fun (val : Int) (f : Feature) => if f.path = Parameter.scanMode.path then
      match f.editor with
      | .comboBox items currentIndex => variantToInt (currentIndex.bind fun i => items[i]?)
      | _ => val
      else val) = fun val f => (modeRead Parameter.scanMode.path f).getD val := by
    funext val f
    unfold modeRead
    split
    · cases f.editor <;> rfl
    · rfl
  unfold argument
  cases hpending : SortedMap.get? Parameter.scanMode.path w.pendingParams with
  | some v =>
    have hval : scanMode w = if toInt (some v) 0 = 3 then .surfaceMode else .profileMode := by
      have hpath : SortedMap.get? "/parameters/scanModeSettings/scanMode" w.pendingParams = some v := hpending
      simp only [scanMode, hpath]
    show Json.num (if scanMode w = .surfaceMode then 3 else 2) = _
    rw [hval]
    exact hnumber _
  | none =>
    have hval : scanMode w = if (w.features.foldl (fun val f => (modeRead Parameter.scanMode.path f).getD val) 2) = 3
        then .surfaceMode else .profileMode := by
      have hpath : SortedMap.get? "/parameters/scanModeSettings/scanMode" w.pendingParams = none := hpending
      rw [← hloop]
      simp only [scanMode, hpath]
      rfl
    show Json.num (if scanMode w = .surfaceMode then 3 else 2) = _
    rw [hval, hnumber, foldl_last]
    refine (map_found Parameter.modeNumber 2).trans ?_
    simp only [map_modeRead]
    rfl

/-- Each argument of the grab buttons is what the search for its parameter finds. -/
theorem value_grabArguments (w : FeatureWidget) (p : Parameter) : (grabArguments w).value p = argument w p := by
  cases p with
  | scanLengthMm =>
    apply map_accessor w .scanLengthMm (by decide) Json.num (fun v => toDouble (some v) 0) doubleSpinValue 20
    · intro v
      rfl
    · rintro (_ | _ | _ | _) <;> rfl
    · rfl
  | scanMode => exact value_scanMode w
  | exposureUs =>
    apply map_accessor w .exposureUs (by decide) (fun n : Int => Json.num n) (fun v => toInt (some v) 0) spinValue 1000
    · intro v
      rfl
    · rintro (_ | _ | _ | _) <;> rfl
    · rfl
  | intensityEnabled =>
    apply map_accessor w .intensityEnabled (by decide) Json.bool (fun v => toBool (some v)) isChecked true
    · intro v
      rfl
    · rintro (_ | _ | _ | _) <;> rfl
    · rfl
  | uniformSpacingEnabled =>
    apply map_accessor w .uniformSpacingEnabled (by decide) Json.bool (fun v => toBool (some v)) isChecked true
    · intro v
      rfl
    · rintro (_ | _ | _ | _) <;> rfl
    · rfl

end Gocator.Features

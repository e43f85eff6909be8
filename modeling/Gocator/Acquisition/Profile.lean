/-
The loop of the profile decoders: after every round the counts, and the statistics of the ranges, are
exactly those of the points made so far.
-/
import Mathlib.Algebra.Order.Ring.Int
import Mathlib.Order.Bounds.Basic
import Gocator.Lib.Loop
import Gocator.Acquisition.Decode

namespace Gocator.Acquisition

/-! ## The ranges of a profile -/

section

variable {R : Type}

/-- The range of the point at an index: the item there, if it exists and is not null. -/
def uniformRange (profile : ProfileData R Int) (i : Nat) : Option Int :=
  (profile.ranges.bind fun ranges => ranges[i]?).filter fun range => range ≠ k16sNull

/-- The item has to be null in neither coordinate. -/
def pointCloudRange (profile : ProfileData R (Int × Int)) (i : Nat) : Option Int :=
  ((profile.ranges.bind fun ranges => ranges[i]?).filter fun source =>
    source.1 ≠ k16sNull ∧ source.2 ≠ k16sNull).map Prod.snd

end

/-- The ranges of the first `n` points. -/
def rangesBelow (rangeAt : Nat → Option Int) (n : Nat) : Set Int := {range | ∃ i < n, rangeAt i = some range}

/-! ## What a round reads and counts -/

section

variable {R ι : Type}

/-- The item a round starts from. -/
def sourceAt (reader : ItemReader R ι) (profile : ProfileData R ι) (i : Nat) : ι :=
  match profile.ranges with
  | some ranges => arrayItem ranges i reader.null
  | none => reader.null

/-- The intensity a round reads, if it reads one. -/
def intensityAt (profile : ProfileData R ι) (i : Nat) : Option Nat :=
  match profile.intensities with
  | some intensities => if i < profile.intensityWidth then some (arrayItem intensities i 0) else none
  | none => none

def countIntensity (frame : ProfileFrame R) : Option Nat → ProfileFrame R
  | some intensity =>
    if frame.hasIntensityStats then
      { frame with
        minIntensity := min frame.minIntensity intensity
        maxIntensity := max frame.maxIntensity intensity }
    else frame
  | none => frame

@[simp] theorem points_countIntensity (frame : ProfileFrame R) (intensity : Option Nat) :
    (countIntensity frame intensity).points = frame.points := by
  unfold countIntensity
  split
  · split <;> rfl
  · rfl

@[simp] theorem points_countRange (frame : ProfileFrame R) (range : Option Int) :
    (countRange frame range).points = frame.points := by
  unfold countRange
  split
  · split <;> rfl
  · rfl

@[simp] theorem points_profileStart (header : Header) (profile : ProfileData R ι) :
    (profileStart header profile).points = [] := by
  unfold profileStart
  split
  · split <;> rfl
  · rfl

/-! ## The statistics of the points so far -/

/-- The counts and the range statistics are those of the first `n` points. -/
structure RangeStats (rangeAt : Nat → Option Int) (n : Nat) (frame : ProfileFrame R) : Prop where
  length : frame.points.length = n
  total : frame.validCount + frame.nullCount = n
  counted : frame.validCount = frame.points.countP fun point => point.valid
  valid : ∀ i < n, (frame.points[i]?.map fun point => point.valid) = some (rangeAt i).isSome
  hasStats : frame.hasRangeStats = true ↔ 0 < frame.validCount
  noStats : frame.hasRangeStats = false → ∀ i < n, rangeAt i = none
  first : frame.hasRangeStats = true → ∃ i < n, rangeAt i = some frame.firstRange ∧ ∀ j < i, rangeAt j = none
  least : frame.hasRangeStats = true → IsLeast (rangesBelow rangeAt n) frame.minRange
  greatest : frame.hasRangeStats = true → IsGreatest (rangesBelow rangeAt n) frame.maxRange

variable {rangeAt : Nat → Option Int} {n : Nat} {frame : ProfileFrame R}

theorem RangeStats.ordered (h : RangeStats rangeAt n frame) (hstats : frame.hasRangeStats = true) :
    frame.minRange ≤ frame.firstRange ∧ frame.firstRange ≤ frame.maxRange := by
  obtain ⟨i, hi, hfirst, -⟩ := h.first hstats
  exact ⟨(h.least hstats).2 ⟨i, hi, hfirst⟩, (h.greatest hstats).2 ⟨i, hi, hfirst⟩⟩

theorem RangeStats.countIntensity (h : RangeStats rangeAt n frame) (intensity : Option Nat) :
    RangeStats rangeAt n (countIntensity frame intensity) := by
  unfold Acquisition.countIntensity
  split
  · split
    · exact ⟨h.length, h.total, h.counted, h.valid, h.hasStats, h.noStats, h.first, h.least, h.greatest⟩
    · exact h
  · exact h

/-- A frame without points. -/
theorem rangeStats_fresh (hpoints : frame.points = []) (hvalid : frame.validCount = 0) (hnull : frame.nullCount = 0)
    (hstats : frame.hasRangeStats = false) : RangeStats rangeAt 0 frame := by
  constructor
  case length => rw [hpoints, List.length_nil]
  case total => omega
  case counted => rw [hvalid, hpoints, List.countP_nil]
  case valid =>
    intro i hi
    omega
  case hasStats =>
    rw [hstats, hvalid]
    exact iff_of_false Bool.false_ne_true (Nat.lt_irrefl 0)
  case noStats =>
    intro _ i hi
    omega
  all_goals
    intro h
    rw [hstats] at h
    cases h

/-- The points with one more. -/
theorem RangeStats.valid_append (h : RangeStats rangeAt n frame) {point : ProfilePoint R}
    (hpoint : point.valid = (rangeAt n).isSome) :
    ∀ i < n + 1, ((frame.points ++ [point])[i]?.map fun point => point.valid) = some (rangeAt i).isSome := by
  intro i hi
  by_cases heq : i = n
  · rw [heq, ← h.length, List.getElem?_concat_length, h.length, Option.map_some, hpoint]
  · rw [List.getElem?_append_left (by rw [h.length]; omega)]
    exact h.valid i (by omega)

theorem RangeStats.of_null (h : RangeStats rangeAt n frame) (hnull : rangeAt n = none) {point : ProfilePoint R}
    (hpoint : point.valid = (rangeAt n).isSome) :
    RangeStats rangeAt (n + 1) { countRange frame none with points := frame.points ++ [point] } := by
  have hbelow : rangesBelow rangeAt (n + 1) = rangesBelow rangeAt n := Loop.readBelow_succ_none hnull
  have htotal := h.total
  constructor
  case length => simp [h.length]
  case total => simp only [countRange]; omega
  case counted =>
    rw [List.countP_append, ← h.counted, List.countP_singleton, hpoint, hnull]
    rfl
  case valid => exact h.valid_append hpoint
  case hasStats => exact h.hasStats
  case noStats =>
    intro hstats i hi
    by_cases heq : i = n
    · rw [heq, hnull]
    · exact h.noStats hstats i (by omega)
  case first =>
    intro hstats
    obtain ⟨i, hi, hfirst⟩ := h.first hstats
    exact ⟨i, by omega, hfirst⟩
  case least =>
    intro hstats
    rw [hbelow]
    exact h.least hstats
  case greatest =>
    intro hstats
    rw [hbelow]
    exact h.greatest hstats

/-- The first valid point starts the statistics, every other one extends them. -/
theorem RangeStats.of_some (h : RangeStats rangeAt n frame) {range : Int} (hrange : rangeAt n = some range)
    {point : ProfilePoint R} (hpoint : point.valid = (rangeAt n).isSome) :
    RangeStats rangeAt (n + 1) { countRange frame (some range) with points := frame.points ++ [point] } := by
  have hbelow : rangesBelow rangeAt (n + 1) = insert range (rangesBelow rangeAt n) := Loop.readBelow_succ_some hrange
  have htotal := h.total
  have hcounted : (frame.points ++ [point]).countP (fun point => point.valid) = frame.validCount + 1 := by
    rw [List.countP_append, ← h.counted, List.countP_singleton, hpoint, hrange]
    rfl
  have hlength : (frame.points ++ [point]).length = n + 1 := by simp [h.length]
  cases hstats : frame.hasRangeStats with
  | true =>
    -- an earlier point was valid: its range stays the first
    simp only [countRange, hstats, if_true]
    refine ⟨hlength, ?_, hcounted.symm, h.valid_append hpoint, ?_, ?_, ?_, ?_, ?_⟩
    · show frame.validCount + 1 + frame.nullCount = n + 1
      omega
    · exact iff_of_true rfl (Nat.succ_pos _)
    · intro hno
      cases hno
    · intro _
      obtain ⟨i, hi, hfirst⟩ := h.first hstats
      exact ⟨i, by omega, hfirst⟩
    · intro _
      rw [hbelow, min_comm]
      exact (h.least hstats).insert range
    · intro _
      rw [hbelow, max_comm]
      exact (h.greatest hstats).insert range
  | false =>
    -- no earlier point was valid: the statistics are those of this one
    have hnone := h.noStats hstats
    have hempty : rangesBelow rangeAt n = ∅ := Loop.readBelow_of_none hnone
    have hsingle : rangesBelow rangeAt (n + 1) = {range} := by rw [hbelow, hempty, insert_empty_eq]
    simp only [countRange, hstats]
    refine ⟨hlength, ?_, hcounted.symm, h.valid_append hpoint, ?_, ?_, ?_, ?_, ?_⟩
    · show frame.validCount + 1 + frame.nullCount = n + 1
      omega
    · exact iff_of_true rfl (Nat.succ_pos _)
    · intro hno
      cases hno
    · intro _
      exact ⟨n, Nat.lt_succ_self n, hrange, hnone⟩
    · intro _
      rw [hsingle]
      exact isLeast_singleton
    · intro _
      rw [hsingle]
      exact isGreatest_singleton

end

/-! ## One round -/

section

variable {R ι : Type}

theorem rangeStats_start (rangeAt : Nat → Option Int) (header : Header) (profile : ProfileData R ι) :
    RangeStats rangeAt 0 (profileStart header profile) := by
  unfold profileStart
  split
  · split
    · exact rangeStats_fresh rfl rfl rfl rfl
    · exact rangeStats_fresh rfl rfl rfl rfl
  · exact rangeStats_fresh rfl rfl rfl rfl

variable [Zero R] [Add R] [Mul R] [IntCast R]

/-- The point a round adds. -/
def pointAt (reader : ItemReader R ι) (profile : ProfileData R ι) (i : Nat) : ProfilePoint R where
  x := reader.x profile i (sourceAt reader profile i)
  z := match reader.range (sourceAt reader profile i) with
    | some range => profile.offsetZ + profile.resolutionZ * (range : R)
    | none => 0
  intensity := (intensityAt profile i).getD 0
  valid := (reader.range (sourceAt reader profile i)).isSome

/-- A round counts its range, adds its point and counts its intensity. -/
theorem profileStep_eq (reader : ItemReader R ι) (profile : ProfileData R ι) (frame : ProfileFrame R) (i : Nat) :
    profileStep reader profile frame i =
      countIntensity
        { countRange frame (reader.range (sourceAt reader profile i)) with
          points := frame.points ++ [pointAt reader profile i] }
        (intensityAt profile i) := by
  cases hint : profile.intensities with
  | none =>
    simp only [profileStep, points_countRange, hint, intensityAt, countIntensity, pointAt]
    rfl
  | some intensities =>
    by_cases hi : i < profile.intensityWidth
    · simp only [profileStep, points_countRange, hint, intensityAt, countIntensity, pointAt, if_pos hi]
      rfl
    · simp only [profileStep, points_countRange, hint, intensityAt, countIntensity, pointAt, if_neg hi]
      rfl

/-! ## Every round -/

theorem rangeStats_step {reader : ItemReader R ι} {profile : ProfileData R ι} {rangeAt : Nat → Option Int}
    (hrange : ∀ i, reader.range (sourceAt reader profile i) = rangeAt i) {n : Nat} {frame : ProfileFrame R}
    (h : RangeStats rangeAt n frame) : RangeStats rangeAt (n + 1) (profileStep reader profile frame n) := by
  have hpoint : (pointAt reader profile n).valid = (rangeAt n).isSome := by rw [← hrange]; rfl
  rw [profileStep_eq, hrange]
  apply RangeStats.countIntensity
  cases hn : rangeAt n with
  | none => exact h.of_null hn hpoint
  | some range => exact h.of_some hn hpoint

/-- The loop, by induction on the rounds. -/
theorem rangeStats_profileFrame {reader : ItemReader R ι} {profile : ProfileData R ι} {rangeAt : Nat → Option Int}
    (hrange : ∀ i, reader.range (sourceAt reader profile i) = rangeAt i) (header : Header) :
    RangeStats rangeAt profile.width (profileFrame reader header profile) := by
  apply Loop.count_invariant (I := RangeStats rangeAt)
  · exact rangeStats_start rangeAt header profile
  · intro n frame _ h
    exact rangeStats_step hrange h

/-- The points of the frame are those of the rounds. -/
theorem points_profileFrame (reader : ItemReader R ι) (header : Header) (profile : ProfileData R ι) :
    (profileFrame reader header profile).points = (List.range profile.width).map (pointAt reader profile) := by
  apply Loop.count_invariant (I := fun n (frame : ProfileFrame R) =>
    frame.points = (List.range n).map (pointAt reader profile))
  · rw [points_profileStart]
    rfl
  · intro n frame _ h
    rw [profileStep_eq, points_countIntensity, List.range_succ, List.map_append, ← h]
    rfl

end

/-! ## The decoders -/

section

variable {R : Type}

/-- An item that does not exist reads as null. -/
theorem uniformReader_range [Add R] [Mul R] [NatCast R] (profile : ProfileData R Int) (i : Nat) :
    (uniformReader : ItemReader R Int).range (sourceAt uniformReader profile i) = uniformRange profile i := by
  unfold sourceAt uniformRange
  cases profile.ranges with
  | none => rfl
  | some ranges =>
    cases hitem : ranges[i]? with
    | none => simp [arrayItem, uniformReader, hitem]
    | some item => simp [arrayItem, uniformReader, hitem, Option.filter]

theorem pointCloudReader_range [Zero R] [Add R] [Mul R] [IntCast R] (profile : ProfileData R (Int × Int)) (i : Nat) :
    (pointCloudReader : ItemReader R (Int × Int)).range (sourceAt pointCloudReader profile i) =
      pointCloudRange profile i := by
  unfold sourceAt pointCloudRange
  cases profile.ranges with
  | none => rfl
  | some ranges =>
    cases hitem : ranges[i]? with
    | none => simp [arrayItem, pointCloudReader, hitem]
    | some item => simp [arrayItem, pointCloudReader, hitem, Option.filter]

/-- Both decoders count exactly the points they make, and their range statistics are those of exactly the valid
points. -/
theorem profile_counts_exact [Zero R] [Add R] [Mul R] [NatCast R] [IntCast R] :
    (∀ (header : Header) (profile : ProfileData R Int),
      RangeStats (uniformRange profile) profile.width (uniformProfileFrame header profile) ∧
      ((uniformProfileFrame header profile).hasRangeStats = true →
        (uniformProfileFrame header profile).minRange ≤ (uniformProfileFrame header profile).firstRange ∧
        (uniformProfileFrame header profile).firstRange ≤ (uniformProfileFrame header profile).maxRange)) ∧
    (∀ (header : Header) (profile : ProfileData R (Int × Int)),
      RangeStats (pointCloudRange profile) profile.width (pointCloudProfileFrame header profile) ∧
      ((pointCloudProfileFrame header profile).hasRangeStats = true →
        (pointCloudProfileFrame header profile).minRange ≤ (pointCloudProfileFrame header profile).firstRange ∧
        (pointCloudProfileFrame header profile).firstRange ≤ (pointCloudProfileFrame header profile).maxRange)) := by
  constructor
  · intro header profile
    have h : RangeStats _ _ (uniformProfileFrame header profile) :=
      rangeStats_profileFrame (uniformReader_range profile) header
    exact ⟨h, h.ordered⟩
  · intro header profile
    have h : RangeStats _ _ (pointCloudProfileFrame header profile) :=
      rangeStats_profileFrame (pointCloudReader_range profile) header
    exact ⟨h, h.ordered⟩

end

end Gocator.Acquisition

/-
The messages that the converters accept, and the frame they make of an accepted message: the sweep
over the samples and, where they are asked for, the intensities.
-/
import Gocator.Adapter.Samples

namespace Gocator.Adapter

variable {R F ι : Type}

/-! ## Sizes -/

theorem positiveInt_of_pos {value : Nat} (h : 0 < value ∧ value ≤ intMax) : positiveInt value = some value := by
  rw [positiveInt, if_neg (by omega)]

theorem pos_of_positiveInt {value n : Nat} (h : positiveInt value = some n) :
    n = value ∧ 0 < value ∧ value ≤ intMax := by
  unfold positiveInt at h
  split at h
  · cases h
  · next hpos =>
    cases h
    exact ⟨rfl, by omega⟩

theorem pixelCount_of_pos {width height : Nat} (hw : 0 < width) (hh : 0 < height) :
    pixelCount width height = some (width * height) := by
  rw [pixelCount, if_neg (by omega)]

/-! ## Intensities -/

/-- The checks of `copyArray2Intensity`. -/
structure AcceptedIntensities (intensities : Option (Array2 Nat)) (width height : Nat) (a : Array2 Nat) : Prop where
  found : intensities = some a
  positive : 0 < width ∧ 0 < height
  length0 : height ≤ a.length0
  length1 : width ≤ a.length1
  itemSize : a.itemSize = 1 ∨ a.itemSize = 2

theorem AcceptedIntensities.count_le {intensities : Option (Array2 Nat)} {width height : Nat} {a : Array2 Nat}
    (h : AcceptedIntensities intensities width height a) : width * height ≤ a.items.length := by
  rw [a.size, Nat.mul_comm]
  exact Nat.mul_le_mul h.length0 h.length1

theorem intensityBits_eq_zero {itemSize : Nat} :
    intensityBitsFromItemSize itemSize = 0 ↔ ¬(itemSize = 1 ∨ itemSize = 2) := by
  unfold intensityBitsFromItemSize
  split
  · simp_all
  · split <;> simp_all

theorem copyItem_eq [NatCast F] (src : List Nat) :
    (copyItem src : List F → Nat → List F) = fun values i => Loop.store values i (src[i]?.map Nat.cast) := by
  funext values i
  unfold copyItem
  cases src[i]? <;> rfl

/-- However the rounds are shared. -/
theorem parallel_copyItem [NatCast F] {n : Nat} (schedule : Loop.Schedule n) (src : List Nat) (values : List F) :
    Loop.parallel schedule (copyItem src) values = Loop.fill n (fun i => src[i]?.map Nat.cast) values := by
  rw [copyItem_eq, Loop.parallel_eq]
  · rfl
  · intro i j values hij
    exact Loop.store_comm hij _ _

theorem copyArray2Intensity_of_accepted [Zero F] [NatCast F] {sharing : Sharing} {intensities : Option (Array2 Nat)}
    {width height : Nat} {a : Array2 Nat} (h : AcceptedIntensities intensities width height a) (values : List F) :
    copyArray2Intensity sharing intensities width height values =
      (intensityBitsFromItemSize a.itemSize,
        Loop.fill (width * height) (fun i => a.items[i]?.map Nat.cast) (resize values (width * height) 0)) := by
  have hlengths : ¬(a.length0 < height ∨ a.length1 < width) := by
    have := h.length0
    have := h.length1
    omega
  have hbits : intensityBitsFromItemSize a.itemSize ≠ 0 := fun hzero => intensityBits_eq_zero.1 hzero h.itemSize
  simp only [copyArray2Intensity, pixelCount_of_pos h.positive.1 h.positive.2, h.found, if_neg hlengths, if_neg hbits,
    parallel_copyItem]

/-- Nothing is copied of an array that fails a check. -/
theorem copyArray2Intensity_of_not_accepted [Zero F] [NatCast F] {sharing : Sharing}
    {intensities : Option (Array2 Nat)} {width height : Nat}
    (h : ∀ a, ¬AcceptedIntensities intensities width height a) (values : List F) :
    copyArray2Intensity sharing intensities width height values = (0, values) := by
  by_cases hpos : width = 0 ∨ height = 0
  · simp only [copyArray2Intensity, pixelCount, if_pos hpos]
  · have hcount : pixelCount width height = some (width * height) := pixelCount_of_pos (by omega) (by omega)
    cases intensities with
    | none => simp only [copyArray2Intensity, hcount]
    | some a =>
      simp only [copyArray2Intensity, hcount]
      split
      · rfl
      · next hlengths =>
        rw [if_pos]
        rw [intensityBits_eq_zero]
        intro hsize
        exact h a ⟨rfl, by omega, by omega, by omega, hsize⟩

/-! ## Acceptance -/

/-- The checks of a converter of surfaces. -/
structure AcceptedSurface (itemSize : Nat) (msg : SurfaceMsg R ι) (ranges : Array2 ι) : Prop where
  found : msg.ranges = some ranges
  width : 0 < msg.width ∧ msg.width ≤ intMax
  length : 0 < msg.length ∧ msg.length ≤ intMax
  itemSize : ranges.itemSize = itemSize
  length0 : msg.length ≤ ranges.length0
  length1 : msg.width ≤ ranges.length1

/-- The checks of a converter of profiles. -/
structure AcceptedProfile (itemSize : Nat) (msg : ProfileMsg R ι) (ranges : Array1 ι) : Prop where
  found : msg.ranges = some ranges
  width : 0 < msg.width ∧ msg.width ≤ intMax
  itemSize : ranges.itemSize = itemSize
  length : msg.width ≤ ranges.items.length

variable {itemSize : Nat}

theorem AcceptedSurface.count_pos {msg : SurfaceMsg R ι} {ranges : Array2 ι} (h : AcceptedSurface itemSize msg ranges) :
    0 < msg.width * msg.length :=
  Nat.mul_pos h.width.1 h.length.1

/-- The items that are read exist. -/
theorem AcceptedSurface.count_le {msg : SurfaceMsg R ι} {ranges : Array2 ι} (h : AcceptedSurface itemSize msg ranges) :
    msg.width * msg.length ≤ ranges.items.length := by
  rw [ranges.size, Nat.mul_comm]
  exact Nat.mul_le_mul h.length0 h.length1

theorem blank_applyCommonFrameFields [Zero R] [One R] [DecidableEq R] (width height : Nat)
    (resolution offset : Point3 R) (id : String) :
    Blank (applyCommonFrameFields width height resolution offset id : RangeFrame R F) :=
  ⟨rfl, rfl, rfl, rfl, rfl, rfl⟩

/-- The intensities are copied if they are asked for. -/
def RangeFrame.auxiliary (request : Request) (frame : RangeFrame R F) (copied : List F → Nat × List F) :
    RangeFrame R F :=
  if request.includeRangeAuxiliaryChannels then frame.withIntensity (copied frame.intensity) else frame

variable [Add R] [Mul R] [IntCast R] [Zero F]
variable {toFloat : R → F} {sharing : Sharing} {explicitXY : Bool} {reader : SampleReader ι} {stamp : StampInfo}
variable {request : Request} {frame : RangeFrame R F}

theorem Consistent.auxiliary {resolution offset : Point3 R} {src : List ι} {count : Nat}
    (h : Consistent toFloat reader resolution offset explicitXY src count frame) (copied : List F → Nat × List F) :
    Consistent toFloat reader resolution offset explicitXY src count (frame.auxiliary request copied) := by
  rw [RangeFrame.auxiliary]
  split
  · exact h.withIntensity _
  · exact h

variable [Zero R] [One R] [DecidableEq R]

section

variable (toFloat sharing explicitXY reader stamp)

/-- The sweep of a surface message with these ranges. -/
def surfaceSweep (msg : SurfaceMsg R ι) (ranges : Array2 ι) : RangeFrame R F :=
  sweep toFloat reader msg.resolution msg.offset sharing explicitXY ranges.items (msg.width * msg.length)
    (applyCommonFrameFields msg.width msg.length msg.resolution msg.offset (frameId msg.header stamp))

def profileSweep (msg : ProfileMsg R ι) (ranges : Array1 ι) : RangeFrame R F :=
  sweep toFloat reader msg.resolution msg.offset sharing explicitXY ranges.items msg.width
    { applyCommonFrameFields msg.width 1 msg.resolution msg.offset (frameId msg.header stamp) with yScale := 1 }

end

theorem consistent_surfaceSweep {msg : SurfaceMsg R ι} {ranges : Array2 ι} (h : AcceptedSurface itemSize msg ranges)
    (hexplicit : explicitXY = false → reader.x = none ∧ reader.y = none) :
    Consistent toFloat reader msg.resolution msg.offset explicitXY ranges.items (msg.width * msg.length)
      (surfaceSweep toFloat sharing explicitXY reader stamp msg ranges : RangeFrame R F) :=
  consistent_sweep (blank_applyCommonFrameFields _ _ _ _ _) h.count_pos h.count_le hexplicit

theorem consistent_profileSweep {msg : ProfileMsg R ι} {ranges : Array1 ι} (h : AcceptedProfile itemSize msg ranges)
    (hexplicit : explicitXY = false → reader.x = none ∧ reader.y = none) :
    Consistent toFloat reader msg.resolution msg.offset explicitXY ranges.items msg.width
      (profileSweep toFloat sharing explicitXY reader stamp msg ranges : RangeFrame R F) :=
  consistent_sweep ⟨rfl, rfl, rfl, rfl, rfl, rfl⟩ h.width.1 h.length hexplicit

theorem surfaceSweep_intensity (msg : SurfaceMsg R ι) (ranges : Array2 ι) :
    (surfaceSweep toFloat sharing explicitXY reader stamp msg ranges : RangeFrame R F).intensity = [] ∧
      (surfaceSweep toFloat sharing explicitXY reader stamp msg ranges : RangeFrame R F).intensityBits = 0 :=
  sweep_intensity (blank_applyCommonFrameFields _ _ _ _ _)

variable [NatCast F]

theorem surfaceFrame_of_accepted {msg : SurfaceMsg R ι} {ranges : Array2 ι} (h : AcceptedSurface itemSize msg ranges) :
    surfaceFrame toFloat sharing itemSize explicitXY reader msg stamp request =
      some ((surfaceSweep toFloat sharing explicitXY reader stamp msg ranges).auxiliary request
        (copyArray2Intensity sharing msg.intensities msg.width msg.length)) := by
  have hchecks : ¬(ranges.itemSize ≠ itemSize ∨ ranges.length0 < msg.length ∨ ranges.length1 < msg.width) := by
    have := h.itemSize
    have := h.length0
    have := h.length1
    omega
  simp only [surfaceFrame, positiveInt_of_pos h.width, positiveInt_of_pos h.length,
    pixelCount_of_pos h.width.1 h.length.1, h.found, Option.bind_eq_bind, Option.bind_some, if_neg hchecks,
    RangeFrame.auxiliary, surfaceSweep, sweep, pure]
  split <;> rfl

theorem accepted_of_surfaceFrame {msg : SurfaceMsg R ι}
    (h : surfaceFrame toFloat sharing itemSize explicitXY reader msg stamp request = some frame) :
    ∃ ranges, AcceptedSurface itemSize msg ranges := by
  simp only [surfaceFrame, Option.bind_eq_bind, Option.bind_eq_some_iff] at h
  obtain ⟨width, hwidth, height, hheight, count, hcount, ranges, hranges, h⟩ := h
  obtain ⟨rfl, hpos⟩ := pos_of_positiveInt hwidth
  obtain ⟨rfl, hpos'⟩ := pos_of_positiveInt hheight
  split at h
  · cases h
  · next hchecks => exact ⟨ranges, hranges, hpos, hpos', by omega, by omega, by omega⟩

theorem profileFrame_of_accepted {msg : ProfileMsg R ι} {ranges : Array1 ι} (h : AcceptedProfile itemSize msg ranges) :
    profileFrame toFloat sharing itemSize explicitXY reader msg stamp request =
      some ((profileSweep toFloat sharing explicitXY reader stamp msg ranges).auxiliary request
        (copyArray1Intensity sharing msg.intensities msg.width)) := by
  have hchecks : ¬(ranges.itemSize ≠ itemSize ∨ ranges.items.length < msg.width) := by
    have := h.itemSize
    have := h.length
    omega
  simp only [profileFrame, positiveInt_of_pos h.width, h.found, Option.bind_eq_bind, Option.bind_some, if_neg hchecks,
    RangeFrame.auxiliary, profileSweep, sweep, pure]
  split <;> rfl

theorem accepted_of_profileFrame {msg : ProfileMsg R ι}
    (h : profileFrame toFloat sharing itemSize explicitXY reader msg stamp request = some frame) :
    ∃ ranges, AcceptedProfile itemSize msg ranges := by
  simp only [profileFrame, Option.bind_eq_bind, Option.bind_eq_some_iff] at h
  obtain ⟨width, hwidth, ranges, hranges, h⟩ := h
  obtain ⟨rfl, hpos⟩ := pos_of_positiveInt hwidth
  split at h
  · cases h
  · next hchecks => exact ⟨ranges, hranges, hpos, by omega, by omega⟩

end Gocator.Adapter

/-
The two decoders of profiles on one message: the acquisition's, which copies item by item and knows
null items by what it copied, and the adapter's, which reads the items where they lie.
-/
import Gocator.Acquisition.Profile
import Gocator.Adapter.Consistent

namespace Gocator.Adapter

open Gocator.Acquisition (ProfileData ItemReader ProfilePoint pointAt)

variable {R F ι : Type}

/-- The message as the acquisition's decoder reads it. -/
def ProfileMsg.data (msg : ProfileMsg R ι) : ProfileData R ι where
  width := msg.width
  intensityWidth := msg.intensityWidth
  resolutionX := msg.resolution.x
  resolutionZ := msg.resolution.z
  offsetX := msg.offset.x
  offsetZ := msg.offset.z
  ranges := msg.ranges.map fun ranges => ranges.items
  intensities := msg.intensities.map fun intensities => intensities.items

/-! ## One item -/

/-- The readers of the two decoders know the same items as null, and take the same range of the others. -/
structure SameItems (theirs : ItemReader R ι) (ours : SampleReader ι) : Prop where
  range : ∀ item, theirs.range item = if ours.isNull item then none else some (ours.z item)

variable {theirs : ItemReader R ι} {ours : SampleReader ι}

theorem SameItems.valid (h : SameItems theirs ours) (item : ι) : (theirs.range item).isSome = !ours.isNull item := by
  rw [h.range]
  cases ours.isNull item <;> rfl

theorem sameItems_uniform [Add R] [Mul R] [NatCast R] :
    SameItems (Acquisition.uniformReader : ItemReader R Int) rangeReader := by
  constructor
  intro item
  by_cases hnull : item = Acquisition.k16sNull
  · simp [Acquisition.uniformReader, rangeReader, hnull]
  · simp [Acquisition.uniformReader, rangeReader, hnull]

theorem sameItems_pointCloud [Zero R] [Add R] [Mul R] [IntCast R] :
    SameItems (Acquisition.pointCloudReader : ItemReader R (Int × Int)) profilePointReader := by
  constructor
  rintro ⟨x, y⟩
  by_cases hx : x = Acquisition.k16sNull
  · simp [Acquisition.pointCloudReader, profilePointReader, hx]
  · by_cases hy : y = Acquisition.k16sNull
    · simp [Acquisition.pointCloudReader, profilePointReader, hy]
    · simp [Acquisition.pointCloudReader, profilePointReader, hx, hy]

/-! ## One message -/

section

variable {msg : ProfileMsg R ι} {ranges : Array1 ι} {i : Nat} {item : ι}

theorem sourceAt_data (hranges : msg.ranges = some ranges) (hitem : ranges.items[i]? = some item) :
    Acquisition.sourceAt theirs msg.data i = item := by
  have hdata : msg.data.ranges = some ranges.items := by rw [ProfileMsg.data, hranges]; rfl
  rw [Acquisition.sourceAt, hdata]
  show ranges.items[i]?.getD theirs.null = item
  rw [hitem]
  rfl

variable [Zero R] [Add R] [Mul R] [IntCast R]

theorem pointAt_data_valid (h : SameItems theirs ours) (hranges : msg.ranges = some ranges)
    (hitem : ranges.items[i]? = some item) : (pointAt theirs msg.data i).valid = !ours.isNull item := by
  rw [pointAt, sourceAt_data hranges hitem, h.valid]

theorem pointAt_data_z (h : SameItems theirs ours) (hranges : msg.ranges = some ranges)
    (hitem : ranges.items[i]? = some item) (hvalid : ours.isNull item = false) :
    (pointAt theirs msg.data i).z = msg.offset.z + msg.resolution.z * (ours.z item : R) := by
  have hrange : theirs.range item = some (ours.z item) := by
    rw [h.range, hvalid]
    rfl
  simp only [pointAt, sourceAt_data hranges hitem, hrange]
  rfl

/-! ## The counters -/

/-- The decoder counts the points it makes valid, the adapter the items that are not null. -/
theorem validCount_eq [Zero F] {toFloat : R → F} (h : SameItems theirs ours) (hranges : msg.ranges = some ranges)
    (hlength : msg.width ≤ ranges.items.length) {rangeAt : Nat → Option Int}
    (hrange : ∀ i, theirs.range (Acquisition.sourceAt theirs msg.data i) = rangeAt i) (sharing : Sharing)
    (frame : RangeFrame R F) :
    (Acquisition.profileFrame theirs msg.header msg.data).validCount =
      (sampleLoop toFloat ours msg.resolution msg.offset sharing ranges.items msg.width frame).2 := by
  have hstats := Acquisition.rangeStats_profileFrame hrange msg.header
  have hsame : ∀ i < msg.width, (pointAt theirs msg.data i).valid = countsAt ours ranges.items i := by
    intro i hi
    have hitem : ranges.items[i]? = some _ := List.getElem?_eq_getElem (by omega)
    rw [countsAt_eq hitem, pointAt_data_valid h hranges hitem]
  -- both counts are over the indices of the message
  rw [hstats.counted, Acquisition.points_profileFrame, sampleLoop_eq, List.countP_map]
  apply List.countP_congr
  intro i hi
  rw [Function.comp_apply, hsame i (List.mem_range.1 hi)]

end

/-! ## The decoders -/

section

variable [Zero R] [Add R] [Mul R] [IntCast R] [Zero F]

/-- A point of the acquisition and a sample of the adapter: both valid or both not, with one z coordinate. -/
structure SamePoint (toFloat : R → F) (frame : RangeFrame R F) (i : Nat) (point : ProfilePoint R) : Prop where
  valid : point.valid = frame.marksValid i
  z : point.valid = true → frame.zValues[i]? = some (toFloat point.z)

variable {toFloat : R → F} {explicitXY : Bool} {frame : RangeFrame R F} {msg : ProfileMsg R ι}

/-- A valid point of a point cloud. -/
theorem pointAt_data_x {msg : ProfileMsg R (Int × Int)} {ranges : Array1 (Int × Int)} {i : Nat} {item : Int × Int}
    (hranges : msg.ranges = some ranges) (hitem : ranges.items[i]? = some item)
    (hvalid : profilePointReader.isNull item = false) :
    (pointAt Acquisition.pointCloudReader msg.data i).x = msg.offset.x + msg.resolution.x * (item.1 : R) := by
  simp only [profilePointReader, decide_eq_false_iff_not, not_or] at hvalid
  simp only [pointAt, sourceAt_data hranges hitem]
  exact if_pos hvalid

theorem samePoint (h : SameItems theirs ours) {ranges : Array1 ι} (hranges : msg.ranges = some ranges)
    (hframe : Consistent toFloat ours msg.resolution msg.offset explicitXY ranges.items msg.width frame) {i : Nat}
    (hi : i < msg.width) : SamePoint toFloat frame i (pointAt theirs msg.data i) := by
  have hitem : ranges.items[i]? = some _ := List.getElem?_eq_getElem (Nat.lt_of_lt_of_le hi hframe.read)
  have hpoint := pointAt_data_valid h hranges hitem
  constructor
  · rw [hpoint, hframe.marksValid hi hitem]
  · intro hvalid
    rw [hpoint, Bool.not_eq_true'] at hvalid
    rw [hframe.z i _ hi hitem hvalid, pointAt_data_z h hranges hitem hvalid]

theorem getElem?_points (header : Acquisition.Header) {data : ProfileData R ι} {i : Nat} (hi : i < data.width) :
    (Acquisition.profileFrame theirs header data).points[i]? = some (pointAt theirs data i) := by
  rw [Acquisition.points_profileFrame, List.getElem?_map, List.getElem?_range hi, Option.map_some]

variable [One R] [DecidableEq R] [NatCast F]
variable {sharing : Sharing} {itemSize : Nat} {stamp : StampInfo} {request : Request}

/-- The scale and the offset of the frame in x. -/
theorem scale_profileFrame
    (h : profileFrame toFloat sharing itemSize explicitXY ours msg stamp request = some frame) :
    frame.xOffset = msg.offset.x ∧ frame.xScale = if msg.resolution.x ≠ 0 then msg.resolution.x else 1 := by
  obtain ⟨ranges, haccepted⟩ := accepted_of_profileFrame h
  rw [profileFrame_of_accepted haccepted] at h
  obtain rfl := Option.some.inj h
  rw [RangeFrame.auxiliary, profileSweep, sweep, sampleLoop_eq, clearMask]
  split <;> split <;> exact ⟨rfl, rfl⟩

/-- On every message the adapter accepts, both decoders mark the same points as valid, with the same
coordinates, and count as many. -/
theorem profile_decoders_agree [NatCast R] :
    (∀ (msg : ProfileMsg R Int) (frame : RangeFrame R F),
      uniformProfileFrame toFloat sharing msg stamp request = some frame →
      (∀ i < msg.width, ∃ point, (Acquisition.uniformProfileFrame msg.header msg.data).points[i]? = some point ∧
        SamePoint toFloat frame i point ∧
        (msg.resolution.x ≠ 0 → point.x = frame.xOffset + frame.xScale * (i : R))) ∧
      ∃ ranges, msg.ranges = some ranges ∧ ∀ start : RangeFrame R F,
        (Acquisition.uniformProfileFrame msg.header msg.data).validCount =
          (sampleLoop toFloat rangeReader msg.resolution msg.offset sharing ranges.items msg.width start).2) ∧
    (∀ (msg : ProfileMsg R (Int × Int)) (frame : RangeFrame R F),
      profilePointCloudFrame toFloat sharing msg stamp request = some frame →
      (∀ i < msg.width, ∃ point, (Acquisition.pointCloudProfileFrame msg.header msg.data).points[i]? = some point ∧
        SamePoint toFloat frame i point ∧ (point.valid = true → frame.xValues[i]? = some (toFloat point.x))) ∧
      ∃ ranges, msg.ranges = some ranges ∧ ∀ start : RangeFrame R F,
        (Acquisition.pointCloudProfileFrame msg.header msg.data).validCount =
          (sampleLoop toFloat profilePointReader msg.resolution msg.offset sharing ranges.items msg.width
            start).2) := by
  constructor
  · intro msg frame h
    obtain ⟨ranges, hranges, hframe⟩ := consistent_profileFrame (fun _ => ⟨rfl, rfl⟩) h
    obtain ⟨hoffset, hscale⟩ := scale_profileFrame h
    constructor
    · intro i hi
      refine ⟨_, getElem?_points msg.header hi, samePoint sameItems_uniform hranges hframe hi, ?_⟩
      intro hres
      -- both compute x from the index alone
      rw [hoffset, hscale, if_pos hres]
      rfl
    · refine ⟨ranges, hranges, ?_⟩
      intro start
      exact validCount_eq sameItems_uniform hranges hframe.read (Acquisition.uniformReader_range _) sharing start
  · intro msg frame h
    obtain ⟨ranges, hranges, hframe⟩ := consistent_profileFrame (by rintro ⟨⟩) h
    constructor
    · intro i hi
      refine ⟨_, getElem?_points msg.header hi, samePoint sameItems_pointCloud hranges hframe hi, ?_⟩
      intro hvalid
      have hitem : ranges.items[i]? = some _ := List.getElem?_eq_getElem (Nat.lt_of_lt_of_le hi hframe.read)
      rw [pointAt_data_valid sameItems_pointCloud hranges hitem, Bool.not_eq_true'] at hvalid
      rw [hframe.x _ rfl i _ hi hitem hvalid]
      rw [pointAt_data_x hranges hitem hvalid]
    · refine ⟨ranges, hranges, ?_⟩
      intro start
      exact validCount_eq sameItems_pointCloud hranges hframe.read (Acquisition.pointCloudReader_range _) sharing start

end

theorem profile_decoders_agree_three : ∃ frame : RangeFrame Int Int,
    profilePointCloudFrame id .sequential threePoints ⟨0, false⟩ ⟨true⟩ = some frame ∧
      ∀ i < 3, ∃ point, 
        (Acquisition.pointCloudProfileFrame threePoints.header threePoints.data).points[i]? = some point ∧
        SamePoint id frame i point ∧ (point.valid = true → frame.xValues[i]? = some point.x) := by
  have h : profilePointCloudFrame id .sequential threePoints ⟨0, false⟩ ⟨true⟩ = some (_ : RangeFrame Int Int) := rfl
  exact ⟨_, h, (profile_decoders_agree.2 _ _ h).1⟩

end Gocator.Adapter

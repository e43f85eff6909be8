/-
The converters over every way of sharing their loops: one frame for each message, whose mask,
coordinates and sizes agree with the items of the message.
-/
import Mathlib.Algebra.Order.Ring.Int
import Gocator.Adapter.Accept

namespace Gocator.Adapter

variable {R F ι : Type} [Zero R] [One R] [Add R] [Mul R] [IntCast R] [DecidableEq R] [Zero F] [NatCast F]
variable {toFloat : R → F}

/-! ## Messages that are converted -/

/-- A message of one of the four types that have a converter. -/
inductive RangeMsg (R : Type) where
  | uniformSurface (msg : SurfaceMsg R Int)
  | surfacePointCloud (msg : SurfaceMsg R (Point3 Int))
  | uniformProfile (msg : ProfileMsg R Int)
  | profilePointCloud (msg : ProfileMsg R (Int × Int))

/-- The frame the converter of the type makes, before it is checked. -/
def RangeMsg.frame (toFloat : R → F) (sharing : Sharing) (stamp : StampInfo) (request : Request) :
    RangeMsg R → Option (RangeFrame R F)
  | .uniformSurface msg => uniformSurfaceFrame toFloat sharing msg stamp request
  | .surfacePointCloud msg => surfacePointCloudFrame toFloat sharing msg stamp request
  | .uniformProfile msg => uniformProfileFrame toFloat sharing msg stamp request
  | .profilePointCloud msg => profilePointCloudFrame toFloat sharing msg stamp request

/-- The frame agrees with the items of the message. -/
def RangeMsg.Consistent (toFloat : R → F) (frame : RangeFrame R F) : RangeMsg R → Prop
  | .uniformSurface msg => ∃ ranges, msg.ranges = some ranges ∧
      Adapter.Consistent toFloat rangeReader msg.resolution msg.offset false ranges.items (msg.width * msg.length) frame
  | .surfacePointCloud msg => ∃ ranges, msg.ranges = some ranges ∧
      Adapter.Consistent toFloat surfacePointReader msg.resolution msg.offset true ranges.items
        (msg.width * msg.length) frame
  | .uniformProfile msg => ∃ ranges, msg.ranges = some ranges ∧
      Adapter.Consistent toFloat rangeReader msg.resolution msg.offset false ranges.items msg.width frame
  | .profilePointCloud msg => ∃ ranges, msg.ranges = some ranges ∧
      Adapter.Consistent toFloat profilePointReader msg.resolution msg.offset true ranges.items msg.width frame

/-! ## One frame for every sharing -/

variable {sharing : Sharing} {itemSize : Nat} {explicitXY : Bool} {reader : SampleReader ι} {stamp : StampInfo}
variable {request : Request} {frame : RangeFrame R F}

theorem copyArray1Intensity_sharing (sharing sharing' : Sharing) (intensities : Option (Array1 Nat)) (width : Nat) :
    (copyArray1Intensity sharing intensities width : List F → Nat × List F) =
      copyArray1Intensity sharing' intensities width := by
  funext values
  simp only [copyArray1Intensity, parallel_copyItem]

theorem copyArray2Intensity_sharing (sharing sharing' : Sharing) (intensities : Option (Array2 Nat))
    (width height : Nat) :
    (copyArray2Intensity sharing intensities width height : List F → Nat × List F) =
      copyArray2Intensity sharing' intensities width height := by
  funext values
  simp only [copyArray2Intensity, parallel_copyItem]

theorem surfaceFrame_sharing (sharing sharing' : Sharing) (msg : SurfaceMsg R ι) :
    (surfaceFrame toFloat sharing itemSize explicitXY reader msg stamp request : Option (RangeFrame R F)) =
      surfaceFrame toFloat sharing' itemSize explicitXY reader msg stamp request := by
  simp only [surfaceFrame, sampleLoop_eq, copyArray2Intensity_sharing sharing sharing']

theorem profileFrame_sharing (sharing sharing' : Sharing) (msg : ProfileMsg R ι) :
    (profileFrame toFloat sharing itemSize explicitXY reader msg stamp request : Option (RangeFrame R F)) =
      profileFrame toFloat sharing' itemSize explicitXY reader msg stamp request := by
  simp only [profileFrame, sampleLoop_eq, copyArray1Intensity_sharing sharing sharing']

/-! ## The frame of an accepted message -/

theorem consistent_surfaceFrame {msg : SurfaceMsg R ι}
    (hexplicit : explicitXY = false → reader.x = none ∧ reader.y = none)
    (h : surfaceFrame toFloat sharing itemSize explicitXY reader msg stamp request = some frame) :
    ∃ ranges, msg.ranges = some ranges ∧
      Consistent toFloat reader msg.resolution msg.offset explicitXY ranges.items (msg.width * msg.length) frame := by
  obtain ⟨ranges, haccepted⟩ := accepted_of_surfaceFrame h
  rw [surfaceFrame_of_accepted haccepted] at h
  obtain rfl := Option.some.inj h
  exact ⟨ranges, haccepted.found, (consistent_surfaceSweep haccepted hexplicit).auxiliary _⟩

theorem consistent_profileFrame {msg : ProfileMsg R ι}
    (hexplicit : explicitXY = false → reader.x = none ∧ reader.y = none)
    (h : profileFrame toFloat sharing itemSize explicitXY reader msg stamp request = some frame) :
    ∃ ranges, msg.ranges = some ranges ∧
      Consistent toFloat reader msg.resolution msg.offset explicitXY ranges.items msg.width frame := by
  obtain ⟨ranges, haccepted⟩ := accepted_of_profileFrame h
  rw [profileFrame_of_accepted haccepted] at h
  obtain rfl := Option.some.inj h
  exact ⟨ranges, haccepted.found, (consistent_profileSweep haccepted hexplicit).auxiliary _⟩

/-- However the loops are shared, an accepted message gives the frame of the loops run in order, and it
agrees with the items of the message. -/
theorem frame_consistent {msg : RangeMsg R} (h : msg.frame toFloat sharing stamp request = some frame) :
    msg.frame toFloat .sequential stamp request = some frame ∧ msg.Consistent toFloat frame := by
  cases msg with
  | uniformSurface msg =>
    constructor
    · exact (surfaceFrame_sharing _ _ msg).trans h
    · exact consistent_surfaceFrame (fun _ => ⟨rfl, rfl⟩) h
  | surfacePointCloud msg =>
    constructor
    · exact (surfaceFrame_sharing _ _ msg).trans h
    · exact consistent_surfaceFrame (by rintro ⟨⟩) h
  | uniformProfile msg =>
    constructor
    · exact (profileFrame_sharing _ _ msg).trans h
    · exact consistent_profileFrame (fun _ => ⟨rfl, rfl⟩) h
  | profilePointCloud msg =>
    constructor
    · exact (profileFrame_sharing _ _ msg).trans h
    · exact consistent_profileFrame (by rintro ⟨⟩) h

/-- Two threads that do the rounds from the last to the first, in turns. -/
def backwards (n : Nat) : Loop.Schedule n where
  visits := (List.range n).reverse.map fun i => (i % 2, i)
  threads := [1, 0]
  once := by
    rw [List.map_map]
    exact (List.Perm.of_eq (List.map_id _)).trans (List.reverse_perm _)
  distinct := by decide
  joined := by
    intro v hv
    obtain ⟨i, -, rfl⟩ := List.mem_map.1 hv
    rcases Nat.mod_two_eq_zero_or_one i with h | h <;> simp [h]

/-- Three points, of which one is null in x and one in z. -/
def threePoints : ProfileMsg Int (Int × Int) where
  header := ⟨"top", 7, 0, true⟩
  width := 3
  intensityWidth := 3
  resolution := ⟨2, 1, 3⟩
  offset := ⟨10, 0, 20⟩
  ranges := some ⟨4, [(1, 5), (-32768, 6), (3, -32768)]⟩
  intensities := some ⟨1, [11, 12, 13]⟩

theorem frame_consistent_three : ∃ frame : RangeFrame Int Int,
    RangeMsg.frame id ⟨backwards, backwards⟩ ⟨0, false⟩ ⟨true⟩ (.profilePointCloud threePoints) = some frame ∧
      (RangeMsg.frame id .sequential ⟨0, false⟩ ⟨true⟩ (.profilePointCloud threePoints) = some frame ∧
        RangeMsg.Consistent id frame (.profilePointCloud threePoints)) ∧
      frame.zValues = [35, 0, 0] ∧ frame.validMask = [1, 0, 0] := by
  have hsome : (RangeMsg.frame id ⟨backwards, backwards⟩ ⟨0, false⟩ ⟨true⟩ (.profilePointCloud threePoints)).isSome :=
    rfl
  have h := (Option.some_get hsome).symm
  exact ⟨_, h, frame_consistent h, rfl, rfl⟩

end Gocator.Adapter

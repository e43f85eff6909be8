/-
The converters of `GocatorDataSetGraphicsFrameAdapter`. A converter makes a range frame of one profile or
surface message; its loops over the samples are shared among threads. The coordinates are of any type
with the operations used and are cast to the float type once computed.
-/
import Gocator.Lib.Loop
import Gocator.Acquisition.Decode

namespace Gocator.Adapter

open Gocator.Acquisition (Header k16sNull)

/-! ## Messages -/

/-- The three numbers of a resolution or an offset. -/
structure Point3 (R : Type) where
  x : R
  y : R
  z : R
  deriving DecidableEq, Repr

/-- `kArray1`: items of a size in bytes. -/
structure Array1 (ι : Type) where
  itemSize : Nat
  items : List ι

/-- `kArray2`: the items of both dimensions, one row after the other. -/
structure Array2 (ι : Type) where
  itemSize : Nat
  length0 : Nat
  length1 : Nat
  items : List ι
  size : items.length = length0 * length1

/-- `kArray2_DataAt`. -/
def Array2.item {ι : Type} (a : Array2 ι) (i j : Nat) : Option ι := a.items[i * a.length1 + j]?

/-- A `GoGdpProfileUniform` or `GoGdpProfilePointCloud`; an array that is `kNULL` is `none`. -/
structure ProfileMsg (R ι : Type) where
  header : Header
  width : Nat
  intensityWidth : Nat
  resolution : Point3 R
  offset : Point3 R
  ranges : Option (Array1 ι)
  intensities : Option (Array1 Nat)

/-- A `GoGdpSurfaceUniform` or `GoGdpSurfacePointCloud`. -/
structure SurfaceMsg (R ι : Type) where
  header : Header
  width : Nat
  length : Nat
  resolution : Point3 R
  offset : Point3 R
  ranges : Option (Array2 ι)
  intensities : Option (Array2 Nat)

/-- The frame index of the stamp of a data set, if there is one. -/
structure StampInfo where
  frameIndex : Nat
  valid : Bool
  deriving DecidableEq, Repr

/-- The part of a `GraphicsFrameRequest` that the converters read. -/
structure Request where
  includeRangeAuxiliaryChannels : Bool

/-! ## Frames -/

/-- The unit of a frame. -/
inductive LengthUnit where
  | millimeter
  deriving DecidableEq, Repr

/-- Whether the values of a field are calibrated or those of the device. -/
inductive ValueDomain where
  | calibrated
  | native
  deriving DecidableEq, Repr

/-- What a sample of a field belongs to. -/
inductive SampleKind where
  | gridSample
  deriving DecidableEq, Repr

/-- The description of an auxiliary field of a frame. -/
structure Field where
  key : String
  label : String
  unit : String
  domain : ValueDomain
  kind : SampleKind
  bitsPerSample : Nat
  deriving DecidableEq, Repr

/-- What a converter sets of a `RangeFrame`; `explicitXY` tells whether `xyCoordinateMode` was set. -/
structure RangeFrame (R F : Type) where
  width : Nat
  height : Nat
  lengthUnit : LengthUnit
  xScale : R
  yScale : R
  zScale : R
  xOffset : R
  yOffset : R
  zOffset : R
  rangeField : Field
  intensityField : Field
  sensorType : String
  frameId : String
  explicitXY : Bool
  xValues : List F
  yValues : List F
  zValues : List F
  validMask : List Nat
  intensity : List F
  intensityBits : Nat

/-! ## Helpers -/

/-- `std::numeric_limits<int>::max()`. -/
def intMax : Nat := 2147483647

def positiveInt (value : Nat) : Option Nat := if value = 0 ∨ value > intMax then none else some value

def pixelCount (width height : Nat) : Option Nat := if width = 0 ∨ height = 0 then none else some (width * height)

def frameId (msg : Header) (stamp : StampInfo) : String :=
  if stamp.valid then toString stamp.frameIndex else toString msg.dataSetId

/-- `std::vector::resize`. -/
def resize {α : Type} (values : List α) (n : Nat) (value : α) : List α :=
  values.take n ++ List.replicate (n - values.length) value

@[simp] theorem resize_nil {α : Type} (n : Nat) (value : α) : resize [] n value = List.replicate n value := by
  simp [resize]

/-- How the threads share the two loops of a conversion. -/
structure Sharing where
  samples : (n : Nat) → Loop.Schedule n
  intensity : (n : Nat) → Loop.Schedule n

/-- Every loop is run in order by one thread. -/
def Sharing.sequential : Sharing := ⟨Loop.Schedule.sequential, Loop.Schedule.sequential⟩

variable {R F ι : Type}

/-- A new frame after `applyCommonFrameFields`. -/
def applyCommonFrameFields [Zero R] [One R] [DecidableEq R] (width height : Nat) (resolution offset : Point3 R)
    (id : String) : RangeFrame R F where
  width := width
  height := height
  lengthUnit := .millimeter
  xScale := if resolution.x ≠ 0 then resolution.x else 1
  yScale := if resolution.y ≠ 0 then resolution.y else 1
  zScale := 1
  xOffset := offset.x
  yOffset := offset.y
  zOffset := 0
  rangeField := ⟨"gocator.range", "Range", "mm", .calibrated, .gridSample, 16⟩
  intensityField := ⟨"gocator.intensity", "Intensity", "", .native, .gridSample, 0⟩
  sensorType := "LMI Gocator"
  frameId := id
  explicitXY := false
  xValues := []
  yValues := []
  zValues := []
  validMask := []
  intensity := []
  intensityBits := 0

def intensityBitsFromItemSize (itemSize : Nat) : Nat :=
  if itemSize = 1 then 8 else if itemSize = 2 then 16 else 0

/-- One round of the loop that copies intensities, of 8 or 16 bits. -/
def copyItem [NatCast F] (src : List Nat) (values : List F) (index : Nat) : List F :=
  match src[index]? with
  | some item => values.set index (item : F)
  | none => values

/-- The bits, and the values the vector has afterwards. -/
def copyArray1Intensity [Zero F] [NatCast F] (sharing : Sharing) (intensities : Option (Array1 Nat)) (width : Nat)
    (values : List F) : Nat × List F :=
  match intensities with
  | none => (0, values)
  | some intensities =>
    if intensities.items.length < width then (0, values)
    else
      let bits := intensityBitsFromItemSize intensities.itemSize
      if bits = 0 then (0, values)
      else (bits, Loop.parallel (sharing.intensity width) (copyItem intensities.items) (resize values width 0))

def copyArray2Intensity [Zero F] [NatCast F] (sharing : Sharing) (intensities : Option (Array2 Nat))
    (width height : Nat)
    (values : List F) : Nat × List F :=
  match pixelCount width height, intensities with
  | some count, some intensities =>
    if intensities.length0 < height ∨ intensities.length1 < width then (0, values)
    -- the rows are read without a gap, however long those of the array are
    else
      let bits := intensityBitsFromItemSize intensities.itemSize
      if bits = 0 then (0, values)
      else (bits, Loop.parallel (sharing.intensity count) (copyItem intensities.items) (resize values count 0))
  | _, _ => (0, values)

/-! ## The loop over the samples -/

/-- Which items are null, and the raw coordinates that are written for the others. -/
structure SampleReader (ι : Type) where
  isNull : ι → Bool
  x : Option (ι → Int)
  y : Option (ι → Int)
  z : ι → Int

/-- `k16s` items: the z coordinate alone. -/
def rangeReader : SampleReader Int where
  isNull raw := raw = k16sNull
  x := none
  y := none
  z raw := raw

/-- `kPoint3d16s` items. -/
def surfacePointReader : SampleReader (Point3 Int) where
  isNull point := point.x = k16sNull ∨ point.y = k16sNull ∨ point.z = k16sNull
  x := some fun point => point.x
  y := some fun point => point.y
  z point := point.z

/-- `kPoint16s` items: the y coordinate of an item is the z coordinate of the sample. -/
def profilePointReader : SampleReader (Int × Int) where
  isNull point := point.1 = k16sNull ∨ point.2 = k16sNull
  x := some fun point => point.1
  y := none
  z point := point.2

def coordinate [Add R] [Mul R] [IntCast R] (offset resolution : R) (raw : Int) : R := offset + resolution * (raw : R)

section

variable [Zero F] [Add R] [Mul R] [IntCast R]
variable (toFloat : R → F) (reader : SampleReader ι) (resolution offset : Point3 R)

/-- One round: the frame with the sample written, and what is added to `validPointCount`. -/
def sampleRound (src : List ι) (index : Nat) (frame : RangeFrame R F) : RangeFrame R F × Nat :=
  match src[index]? with
  | none => (frame, 0)
  | some item =>
    -- of a null sample only the coordinates that the loop writes are reset
    if reader.isNull item then
      ({ frame with
          xValues := Loop.store frame.xValues index (reader.x.map fun _ => 0)
          yValues := Loop.store frame.yValues index (reader.y.map fun _ => 0)
          zValues := frame.zValues.set index 0
          validMask := frame.validMask.set index 0 }, 0)
    else
      ({ frame with
          xValues := Loop.store frame.xValues index
            (reader.x.map fun x => toFloat (coordinate offset.x resolution.x (x item)))
          yValues := Loop.store frame.yValues index
            (reader.y.map fun y => toFloat (coordinate offset.y resolution.y (y item)))
          zValues := frame.zValues.set index (toFloat (coordinate offset.z resolution.z (reader.z item))) }, 1)

/-- The loop over `count` samples, with `validPointCount` at its end. -/
def sampleLoop (sharing : Sharing) (src : List ι) (count : Nat) (frame : RangeFrame R F) : RangeFrame R F × Nat :=
  Loop.parallelReduce (sharing.samples count) (sampleRound toFloat reader resolution offset src) frame

/-- The frame before the loop: the vectors it writes have `count` elements. -/
def sizeVectors (explicitXY : Bool) (count : Nat) (frame : RangeFrame R F) : RangeFrame R F :=
  { frame with
    explicitXY := explicitXY
    xValues := if explicitXY then resize frame.xValues count 0 else frame.xValues
    yValues := if explicitXY then resize frame.yValues count 0 else frame.yValues
    zValues := resize frame.zValues count 0
    validMask := resize frame.validMask count 1 }

/-- The mask is cleared when every sample is valid. -/
def clearMask (count : Nat) (loop : RangeFrame R F × Nat) : RangeFrame R F :=
  if loop.2 = count then { loop.1 with validMask := [] } else loop.1

end

/-- The frame with the intensities that were copied. -/
def RangeFrame.withIntensity (frame : RangeFrame R F) (copied : Nat × List F) : RangeFrame R F :=
  { frame with
    intensityBits := copied.1
    intensity := copied.2
    intensityField := { frame.intensityField with bitsPerSample := copied.1 } }

/-! ## The converters -/

section

variable [Zero R] [One R] [Add R] [Mul R] [IntCast R] [DecidableEq R] [Zero F] [NatCast F]
variable (toFloat : R → F) (sharing : Sharing)

/-- What the converters of surfaces have in common, up to the check that the frame is valid. -/
def surfaceFrame (itemSize : Nat) (explicitXY : Bool) (reader : SampleReader ι) (msg : SurfaceMsg R ι)
    (stamp : StampInfo) (request : Request) : Option (RangeFrame R F) := do
  let width ← positiveInt msg.width
  let height ← positiveInt msg.length
  let count ← pixelCount width height
  let ranges ← msg.ranges
  -- an array larger than the message says is accepted
  if ranges.itemSize ≠ itemSize ∨ ranges.length0 < height ∨ ranges.length1 < width then none
  else
    let frame := applyCommonFrameFields width height msg.resolution msg.offset (frameId msg.header stamp)
    let frame := sizeVectors explicitXY count frame
    let loop := sampleLoop toFloat reader msg.resolution msg.offset sharing ranges.items count frame
    let frame := clearMask count loop
    if request.includeRangeAuxiliaryChannels then
      return frame.withIntensity (copyArray2Intensity sharing msg.intensities width height frame.intensity)
    else return frame

/-- What the converters of profiles have in common. -/
def profileFrame (itemSize : Nat) (explicitXY : Bool) (reader : SampleReader ι) (msg : ProfileMsg R ι)
    (stamp : StampInfo) (request : Request) : Option (RangeFrame R F) := do
  let width ← positiveInt msg.width
  let ranges ← msg.ranges
  if ranges.itemSize ≠ itemSize ∨ ranges.items.length < width then none
  else
    let frame := applyCommonFrameFields width 1 msg.resolution msg.offset (frameId msg.header stamp)
    let frame := sizeVectors explicitXY width { frame with yScale := 1 }
    let loop := sampleLoop toFloat reader msg.resolution msg.offset sharing ranges.items width frame
    let frame := clearMask width loop
    if request.includeRangeAuxiliaryChannels then
      return frame.withIntensity (copyArray1Intensity sharing msg.intensities width frame.intensity)
    else return frame

/-- The frame of `convertUniformSurface` before it is checked; the `k16s` items have 2 bytes. -/
def uniformSurfaceFrame (msg : SurfaceMsg R Int) (stamp : StampInfo) (request : Request) : Option (RangeFrame R F) :=
  surfaceFrame toFloat sharing 2 false rangeReader msg stamp request

def surfacePointCloudFrame (msg : SurfaceMsg R (Point3 Int)) (stamp : StampInfo) (request : Request) :
    Option (RangeFrame R F) :=
  surfaceFrame toFloat sharing 6 true surfacePointReader msg stamp request

def uniformProfileFrame (msg : ProfileMsg R Int) (stamp : StampInfo) (request : Request) : Option (RangeFrame R F) :=
  profileFrame toFloat sharing 2 false rangeReader msg stamp request

def profilePointCloudFrame (msg : ProfileMsg R (Int × Int)) (stamp : StampInfo) (request : Request) :
    Option (RangeFrame R F) :=
  profileFrame toFloat sharing 4 true profilePointReader msg stamp request

/-! The frames that are returned; `isValid` is `RangeFrame::isValid`. -/

variable (isValid : RangeFrame R F → Bool)

def convertUniformSurface (msg : SurfaceMsg R Int) (stamp : StampInfo) (request : Request) :
    Option (RangeFrame R F) :=
  (uniformSurfaceFrame toFloat sharing msg stamp request).filter isValid

def convertSurfacePointCloud (msg : SurfaceMsg R (Point3 Int)) (stamp : StampInfo) (request : Request) :
    Option (RangeFrame R F) :=
  (surfacePointCloudFrame toFloat sharing msg stamp request).filter isValid

def convertUniformProfile (msg : ProfileMsg R Int) (stamp : StampInfo) (request : Request) :
    Option (RangeFrame R F) :=
  (uniformProfileFrame toFloat sharing msg stamp request).filter isValid

def convertProfilePointCloud (msg : ProfileMsg R (Int × Int)) (stamp : StampInfo) (request : Request) :
    Option (RangeFrame R F) :=
  (profilePointCloudFrame toFloat sharing msg stamp request).filter isValid

end

end Gocator.Adapter

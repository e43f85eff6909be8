/-
`GocatorAcquisition::frameFromDataSet` and the decoders it dispatches to. The arithmetic of `double`
is left open: the decoders are generic over the type of the coordinates.
-/
import Gocator.Acquisition.Message

namespace Gocator.Acquisition

/-! ## Frames -/

/-- What a decoder keeps of an image. -/
structure ImageFrame (R : Type) where
  sourceId : String
  dataSetId : Nat
  gdpId : Nat
  width : Nat
  height : Nat
  pixelSize : Nat
  pixelFormat : Int
  pixelFormatName : String
  dataSize : Nat
  hasByteStats : Bool
  minByte : UInt8
  maxByte : UInt8
  meanByte : R
  pixels : List UInt8

/-- A point of a profile in engineering units. -/
structure ProfilePoint (R : Type) where
  x : R
  z : R
  intensity : Nat
  valid : Bool

/-- What a decoder keeps of a profile: its header, the counts, the statistics and the points. -/
structure ProfileFrame (R : Type) where
  sourceId : String
  dataSetId : Nat
  gdpId : Nat
  width : Nat
  intensityWidth : Nat
  xResolution : R
  zResolution : R
  xOffset : R
  zOffset : R
  validCount : Nat
  nullCount : Nat
  hasRangeStats : Bool
  minRange : Int
  maxRange : Int
  firstRange : Int
  hasIntensityStats : Bool
  minIntensity : Nat
  maxIntensity : Nat
  points : List (ProfilePoint R)

/-- What a decoder keeps of any message. -/
structure FrameMessage where
  typeName : String
  typeValue : Nat
  sourceId : String
  dataSetId : Nat
  gdpId : Nat
  isLastMessage : Bool

/-- What a decoder keeps of a message of spots. -/
structure SpotsFrame (R : Type) where
  sourceId : String
  dataSetId : Nat
  gdpId : Nat
  pointCount : Nat
  exposure : R
  columnBased : Bool
  maxSliceCount : Nat
  spotCenterMin : Nat
  spotCenterMax : Nat

/-- A decoded data set. -/
structure Frame (R : Type) where
  messageCount : Nat
  messages : List FrameMessage
  images : List (ImageFrame R)
  profiles : List (ProfileFrame R)
  spots : List (SpotsFrame R)

/-! ## The decoders -/

variable {R : Type} [Zero R] [Add R] [Mul R] [Div R] [NatCast R] [IntCast R]

def messageInfo (m : GdpMsg R) : FrameMessage where
  typeName := m.type.name
  typeValue := m.type.value
  sourceId := m.header.dataSourceId
  dataSetId := m.header.dataSetId
  gdpId := m.header.gdpId
  isLastMessage := m.header.isLastMsg

/-- The image frame; `formatName` is `GoGdpPixelFormat::ToString`. -/
def imageFrame (formatName : Int → String) (header : Header) (image : ImageData) : ImageFrame R :=
  let frame : ImageFrame R :=
    { sourceId := header.dataSourceId
      dataSetId := header.dataSetId
      gdpId := header.gdpId
      width := image.width
      height := image.height
      pixelSize := image.pixelSize
      pixelFormat := image.pixelFormat
      pixelFormatName := formatName image.pixelFormat
      dataSize := 0
      hasByteStats := false
      minByte := 0
      maxByte := 0
      meanByte := 0
      pixels := [] }
  match image.pixels with
  | none => frame
  | some pixels =>
    match pixels.bytes with
    | some (first :: rest) =>
      let bytes := first :: rest
      let sum : Nat := bytes.foldl (fun sum value => sum + value.toNat) 0
      { frame with
        dataSize := pixels.dataSize
        pixels := bytes
        minByte := bytes.foldl min first
        maxByte := bytes.foldl max first
        meanByte := (sum : R) / (bytes.length : R)
        hasByteStats := true }
    | _ => { frame with dataSize := pixels.dataSize }

/-- `kArray1_Item`: an index out of range leaves the destination as it is. -/
def arrayItem {ι : Type} (items : List ι) (i : Nat) (dest : ι) : ι := items[i]?.getD dest

/-- How a profile decoder reads an item of the ranges array. -/
structure ItemReader (R ι : Type) where
  null : ι
  /-- The range of an item that is not null. -/
  range : ι → Option Int
  /-- The x coordinate of the point at an index. -/
  x : ProfileData R ι → Nat → ι → R

/-- The frame before the first point: the statistics of the intensities start from item 0. -/
def profileStart {ι : Type} (header : Header) (profile : ProfileData R ι) : ProfileFrame R :=
  let frame : ProfileFrame R :=
    { sourceId := header.dataSourceId
      dataSetId := header.dataSetId
      gdpId := header.gdpId
      width := profile.width
      intensityWidth := profile.intensityWidth
      xResolution := profile.resolutionX
      zResolution := profile.resolutionZ
      xOffset := profile.offsetX
      zOffset := profile.offsetZ
      validCount := 0
      nullCount := 0
      hasRangeStats := false
      minRange := 0
      maxRange := 0
      firstRange := 0
      hasIntensityStats := false
      minIntensity := 0
      maxIntensity := 0
      points := [] }
  match profile.intensities with
  | some intensities =>
    if profile.intensityWidth > 0 then
      let first := arrayItem intensities 0 0
      { frame with minIntensity := first, maxIntensity := first, hasIntensityStats := true }
    else frame
  | none => frame

/-- The frame with the range of a valid point, or a null point, counted. -/
def countRange (frame : ProfileFrame R) : Option Int → ProfileFrame R
  | some range =>
    if frame.hasRangeStats then
      { frame with
        minRange := min frame.minRange range
        maxRange := max frame.maxRange range
        validCount := frame.validCount + 1 }
    else
      { frame with
        firstRange := range
        minRange := range
        maxRange := range
        hasRangeStats := true
        validCount := frame.validCount + 1 }
  | none => { frame with nullCount := frame.nullCount + 1 }

/-- One round of the loop over the points. -/
def profileStep {ι : Type} (reader : ItemReader R ι) (profile : ProfileData R ι) (frame : ProfileFrame R) (i : Nat) :
    ProfileFrame R :=
  let source := match profile.ranges with
    | some ranges => arrayItem ranges i reader.null
    | none => reader.null
  let range := reader.range source
  let frame := countRange frame range
  let point : ProfilePoint R :=
    { x := reader.x profile i source
      z := match range with
        | some range => profile.offsetZ + profile.resolutionZ * (range : R)
        | none => 0
      intensity := 0
      valid := range.isSome }
  match profile.intensities with
  | some intensities =>
    if i < profile.intensityWidth then
      let intensity := arrayItem intensities i 0
      let frame := { frame with points := frame.points ++ [{ point with intensity := intensity }] }
      if frame.hasIntensityStats then
        { frame with
          minIntensity := min frame.minIntensity intensity
          maxIntensity := max frame.maxIntensity intensity }
      else frame
    else { frame with points := frame.points ++ [point] }
  | none => { frame with points := frame.points ++ [point] }

def profileFrame {ι : Type} (reader : ItemReader R ι) (header : Header) (profile : ProfileData R ι) : ProfileFrame R :=
  (List.range profile.width).foldl (profileStep reader profile) (profileStart header profile)

/-- `k16S_NULL`. -/
def k16sNull : Int := -32768

/-- Ranges at a fixed pitch; a point has its x coordinate whether or not it is valid. -/
def uniformReader : ItemReader R Int where
  null := k16sNull
  range range := if range ≠ k16sNull then some range else none
  x profile i _ := profile.offsetX + profile.resolutionX * (i : R)

def uniformProfileFrame (header : Header) (profile : ProfileData R Int) : ProfileFrame R :=
  profileFrame uniformReader header profile

/-- Points with both coordinates, either of which may be null. -/
def pointCloudReader : ItemReader R (Int × Int) where
  null := (k16sNull, k16sNull)
  range source := if source.1 ≠ k16sNull ∧ source.2 ≠ k16sNull then some source.2 else none
  x profile _ source :=
    if source.1 ≠ k16sNull ∧ source.2 ≠ k16sNull then profile.offsetX + profile.resolutionX * (source.1 : R) else 0

def pointCloudProfileFrame (header : Header) (profile : ProfileData R (Int × Int)) : ProfileFrame R :=
  profileFrame pointCloudReader header profile

def spotsFrame (header : Header) (spots : SpotsData R) : SpotsFrame R where
  sourceId := header.dataSourceId
  dataSetId := header.dataSetId
  gdpId := header.gdpId
  pointCount := spots.pointCount
  exposure := spots.exposure
  columnBased := spots.columnBased
  maxSliceCount := spots.maxSliceCount
  spotCenterMin := spots.spotCenterMin
  spotCenterMax := spots.spotCenterMax

/-! ## The data set -/

/-- One round of the loop over the messages. -/
def frameStep (formatName : Int → String) (frame : Frame R) (m : GdpMsg R) : Except BadCast (Frame R) := do
  let frame := { frame with messages := frame.messages ++ [messageInfo m] }
  if m.type = .image ∨ m.type = .uniformSurface then
    let image ← castTo .image m
    return { frame with images := frame.images ++ [imageFrame formatName m.header image] }
  else if m.type = .uniformProfile then
    let profile ← castTo .uniformProfile m
    return { frame with profiles := frame.profiles ++ [uniformProfileFrame m.header profile] }
  else if m.type = .profilePointCloud then
    let profile ← castTo .profilePointCloud m
    return { frame with profiles := frame.profiles ++ [pointCloudProfileFrame m.header profile] }
  else if m.type = .spots then
    let spots ← castTo .spots m
    return { frame with spots := frame.spots ++ [spotsFrame m.header spots] }
  else return frame

/-- Every message of a data set in turn, up to one whose cast fails. -/
def frameFromDataSet (formatName : Int → String) (dataSet : List (GdpMsg R)) : Except BadCast (Frame R) :=
  dataSet.foldlM (frameStep formatName)
    { messageCount := dataSet.length, messages := [], images := [], profiles := [], spots := [] }

end Gocator.Acquisition

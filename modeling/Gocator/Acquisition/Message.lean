/-
GDP messages as the SDK builds them: for each type tag an object of the class of that name, holding
the data the decoders here read. An object is read through another class only by a cast, which is
an error when the class of the object does not derive from the target.
-/
import Mathlib.Tactic.ByContra

namespace Gocator.Acquisition

/-! ## Types and classes -/

/-- `GoPxLSdk::MessageType`. -/
inductive MessageType where
  | signal
  | null
  | stamp
  | uniformProfile
  | profilePointCloud
  | uniformSurface
  | surfacePointCloud
  | image
  | spots
  | mesh
  | measurement
  | string
  | rendering
  | pointFeature
  | lineFeature
  | planeFeature
  | circleFeature
  | health
  deriving DecidableEq, Repr

namespace MessageType

def value : MessageType → Nat
  | .signal => 1
  | .null => 10
  | .stamp => 11
  | .uniformProfile => 12
  | .profilePointCloud => 13
  | .uniformSurface => 14
  | .surfacePointCloud => 15
  | .image => 16
  | .spots => 17
  | .mesh => 18
  | .measurement => 19
  | .string => 20
  | .rendering => 70
  | .pointFeature => 71
  | .lineFeature => 72
  | .planeFeature => 73
  | .circleFeature => 74
  | .health => 100

/-- `messageTypeName`. -/
def name : MessageType → String
  | .signal => "SIGNAL"
  | .null => "NULL"
  | .stamp => "STAMP"
  | .uniformProfile => "UNIFORM_PROFILE"
  | .profilePointCloud => "PROFILE_POINT_CLOUD"
  | .uniformSurface => "UNIFORM_SURFACE"
  | .surfacePointCloud => "SURFACE_POINT_CLOUD"
  | .image => "IMAGE"
  | .spots => "SPOTS"
  | .mesh => "MESH"
  | .measurement => "MEASUREMENT"
  | .string => "STRING"
  | .rendering => "RENDERING"
  | .pointFeature => "POINT_FEATURE"
  | .lineFeature => "LINE_FEATURE"
  | .planeFeature => "PLANE_FEATURE"
  | .circleFeature => "CIRCLE_FEATURE"
  | .health => "HEALTH"

end MessageType

/-- The classes of the SDK's message objects. -/
inductive GdpClass where
  | msg
  | signal
  | null
  | stamp
  | profileBase
  | profileUniform
  | profilePointCloud
  | surfaceBase
  | surfaceUniform
  | surfacePointCloud
  | image
  | spots
  | mesh
  | measurement
  | string
  | rendering
  | featurePoint
  | featureLine
  | featurePlane
  | featureCircle
  deriving DecidableEq, Repr

namespace GdpClass

/-- The bases of a class, the nearest first. -/
def bases : GdpClass → List GdpClass
  | .msg => []
  | .profileUniform | .profilePointCloud => [.profileBase, .msg]
  | .surfaceUniform | .surfacePointCloud => [.surfaceBase, .msg]
  | _ => [.msg]

def derivesFrom (c base : GdpClass) : Bool := c = base ∨ base ∈ c.bases

end GdpClass

/-- The class of the object the SDK builds for a type; health messages have none of their own. -/
def MessageType.builtAs : MessageType → GdpClass
  | .signal => .signal
  | .null => .null
  | .stamp => .stamp
  | .uniformProfile => .profileUniform
  | .profilePointCloud => .profilePointCloud
  | .uniformSurface => .surfaceUniform
  | .surfacePointCloud => .surfacePointCloud
  | .image => .image
  | .spots => .spots
  | .mesh => .mesh
  | .measurement => .measurement
  | .string => .string
  | .rendering => .rendering
  | .pointFeature => .featurePoint
  | .lineFeature => .featureLine
  | .planeFeature => .featurePlane
  | .circleFeature => .featureCircle
  | .health => .msg

/-! ## Objects -/

/-- A `kArray2` of pixels: the size in bytes and, unless the data pointer is null, that many bytes. -/
structure PixelArray where
  dataSize : Nat
  bytes : Option (List UInt8)
  sized : ∀ bs, bytes = some bs → bs.length = dataSize

/-- A `GoGdpImage`, as far as it is read. -/
structure ImageData where
  width : Nat
  height : Nat
  pixelSize : Nat
  pixelFormat : Int
  pixels : Option PixelArray

/-- A profile with items of type `ι`; an array that is `kNULL` is `none`. -/
structure ProfileData (R ι : Type) where
  width : Nat
  intensityWidth : Nat
  resolutionX : R
  resolutionZ : R
  offsetX : R
  offsetZ : R
  ranges : Option (List ι)
  intensities : Option (List Nat)

/-- The dimensions of a surface. -/
structure SurfaceData where
  length : Nat
  width : Nat

/-- A `GoGdpSpots`, as far as it is read. -/
structure SpotsData (R : Type) where
  pointCount : Nat
  exposure : R
  columnBased : Bool
  maxSliceCount : Nat
  spotCenterMin : Nat
  spotCenterMax : Nat

/-- The data of the object built for a type, as far as it is read. -/
def MessageType.Data (R : Type) : MessageType → Type
  | .uniformProfile => ProfileData R Int
  | .profilePointCloud => ProfileData R (Int × Int)
  | .uniformSurface => SurfaceData
  | .image => ImageData
  | .spots => SpotsData R
  | _ => Unit

/-- What `GoGdpMsg` holds for every type. -/
structure Header where
  dataSourceId : String
  dataSetId : Nat
  gdpId : Nat
  isLastMsg : Bool

/-- A message is the object built for its type. -/
structure GdpMsg (R : Type) where
  header : Header
  type : MessageType
  data : type.Data R

/-- A cast to a class from which the class of the object does not derive. -/
structure BadCast where
  target : GdpClass
  built : GdpClass
  deriving DecidableEq, Repr

variable {R : Type}

/-- `static_cast` to the class of a type. -/
def castTo (target : MessageType) (m : GdpMsg R) : Except BadCast (target.Data R) :=
  if h : m.type = target then .ok (h ▸ m.data) else .error ⟨target.builtAs, m.type.builtAs⟩

@[simp] theorem castTo_self (header : Header) (t : MessageType) (data : t.Data R) :
    castTo t ⟨header, t, data⟩ = .ok data :=
  dif_pos rfl

theorem castTo_of_ne {target : MessageType} {m : GdpMsg R} (h : m.type ≠ target) :
    castTo target m = .error ⟨target.builtAs, m.type.builtAs⟩ :=
  dif_neg h

/-- No class of a message object derives from that of another type, but for the base class. -/
theorem derivesFrom_builtAs {t target : MessageType} (h : target ≠ .health) :
    t.builtAs.derivesFrom target.builtAs = true ↔ t = target := by
  cases target <;> first | exact absurd rfl h | (cases t <;> decide)

/-- A cast succeeds exactly on the objects whose class derives from the target. -/
theorem castTo_ok_iff {target : MessageType} (hto : target ≠ .health) (m : GdpMsg R) :
    (∃ data, castTo target m = .ok data) ↔ m.type.builtAs.derivesFrom target.builtAs = true := by
  rw [derivesFrom_builtAs hto]
  constructor
  · intro ⟨data, hdata⟩
    by_contra hne
    rw [castTo_of_ne hne] at hdata
    cases hdata
  · intro h
    exact ⟨h ▸ m.data, dif_pos h⟩

end Gocator.Acquisition

/-
`convertGraphicsFrame` over a whole data set: the first message that its converter accepts is
published with the index of the first stamp, and every other message but a stamp is as good as absent.
-/
import Mathlib.Algebra.Order.Ring.Int
import Gocator.Adapter.Consistent

namespace Gocator.Adapter

open Gocator.Acquisition (Header)

variable {R F C : Type}

/-! ## Data sets and what is made of them -/

/-- A message of a data set, by its type; `other` stands for every type the adapter has no case for. -/
inductive DataSetMsg (R : Type) where
  | stamp (header : Header) (frameIndex : Nat)
  | range (msg : RangeMsg R)
  | other (header : Header)

def RangeMsg.header : RangeMsg R → Header
  | .uniformSurface msg => msg.header
  | .surfacePointCloud msg => msg.header
  | .uniformProfile msg => msg.header
  | .profilePointCloud msg => msg.header

def DataSetMsg.header : DataSetMsg R → Header
  | .stamp header _ => header
  | .range msg => msg.header
  | .other header => header

/-- The components that a request can ask for. -/
inductive GraphicsFrameComponent where
  | range
  | pointCloud
  deriving DecidableEq, Repr

/-- `components` is of the type of the graphics engine's component sets. -/
structure GraphicsFrameRequest (C : Type) extends Request where
  components : C

/-- A `GraphicsFrame` with the one range that `makeFrame` adds. -/
structure GraphicsFrame (R F : Type) where
  rangeId : String
  range : RangeFrame R F
  rangeLabel : String
  sourceName : String
  frameId : String
  frameIndex : Nat

def readStamp : List (DataSetMsg R) → StampInfo
  | [] => ⟨0, false⟩
  | .stamp _ frameIndex :: _ => ⟨frameIndex, true⟩
  | .range _ :: dataSet => readStamp dataSet
  | .other _ :: dataSet => readStamp dataSet

def makeFrame (frame : RangeFrame R F) (msg : Header) (stamp : StampInfo) : GraphicsFrame R F where
  rangeId := "range"
  range := frame
  rangeLabel := "Range"
  sourceName := "LMI Gocator"
  frameId := frameId msg stamp
  frameIndex := if stamp.valid then stamp.frameIndex else msg.dataSetId

section

variable [Zero R] [One R] [Add R] [Mul R] [IntCast R] [DecidableEq R] [Zero F] [NatCast F]
variable (toFloat : R → F) (isValid : RangeFrame R F → Bool)

/-- The switch over the type of a message. -/
def DataSetMsg.convert (sharing : Sharing) (stamp : StampInfo) (request : Request) :
    DataSetMsg R → Option (RangeFrame R F)
  | .range (.uniformSurface msg) => convertUniformSurface toFloat sharing isValid msg stamp request
  | .range (.surfacePointCloud msg) => convertSurfacePointCloud toFloat sharing isValid msg stamp request
  | .range (.uniformProfile msg) => convertUniformProfile toFloat sharing isValid msg stamp request
  | .range (.profilePointCloud msg) => convertProfilePointCloud toFloat sharing isValid msg stamp request
  | _ => none

/-- The loop over the messages from `index` on; `sharing i` is how the loops of message `i` are shared. -/
def convertFrom (sharing : Nat → Sharing) (stamp : StampInfo) (request : Request) :
    Nat → List (DataSetMsg R) → Option (GraphicsFrame R F)
  | _, [] => none
  | index, msg :: dataSet =>
    match msg.convert toFloat isValid (sharing index) stamp request with
    | some frame => some (makeFrame frame msg.header stamp)
    | none => convertFrom sharing stamp request (index + 1) dataSet

/-- The first message that converts, if the request asks for a range. -/
def convertGraphicsFrame (hasGraphicsFrameComponent : C → GraphicsFrameComponent → Bool) (sharing : Nat → Sharing)
    (dataSet : List (DataSetMsg R)) (request : GraphicsFrameRequest C) : Option (GraphicsFrame R F) :=
  if hasGraphicsFrameComponent request.components .range then
    convertFrom toFloat isValid sharing (readStamp dataSet) request.toRequest 0 dataSet
  else none

end

/-! ## The first stamp and the first accepted message -/

/-- The frame index a stamp carries. -/
def DataSetMsg.stampIndex : DataSetMsg R → Option Nat
  | .stamp _ frameIndex => some frameIndex
  | _ => none

/-- The frame index of the first stamp of a data set. -/
def stampIndex (dataSet : List (DataSetMsg R)) : Option Nat := dataSet.findSome? DataSetMsg.stampIndex

theorem readStamp_eq (dataSet : List (DataSetMsg R)) :
    readStamp dataSet = ⟨(stampIndex dataSet).getD 0, (stampIndex dataSet).isSome⟩ := by
  induction dataSet with
  | nil => rfl
  | cons msg dataSet ih =>
    cases msg with
    | stamp header frameIndex => rfl
    | range msg => exact ih
    | other header => exact ih

theorem makeFrame_frameIndex (dataSet : List (DataSetMsg R)) (frame : RangeFrame R F) (msg : Header) :
    (makeFrame frame msg (readStamp dataSet)).frameIndex = (stampIndex dataSet).getD msg.dataSetId := by
  rw [readStamp_eq]
  cases stampIndex dataSet <;> rfl

theorem makeFrame_frameId (frame : RangeFrame R F) (msg : Header) (stamp : StampInfo) :
    (makeFrame frame msg stamp).frameId = toString (makeFrame frame msg stamp).frameIndex := by
  unfold makeFrame frameId
  split
  · rfl
  · rfl

section

variable [Zero R] [One R] [Add R] [Mul R] [IntCast R] [DecidableEq R] [Zero F] [NatCast F]
variable {toFloat : R → F} {isValid : RangeFrame R F → Bool} {stamp : StampInfo} {request : Request}

variable (toFloat isValid stamp request) in
/-- The converter of the message's type makes a frame of it. -/
def Accepted (msg : DataSetMsg R) : Bool := (msg.convert toFloat isValid .sequential stamp request).isSome

variable (toFloat isValid stamp request) in
/-- The messages the result depends on. -/
def Relevant (msg : DataSetMsg R) : Bool := msg.stampIndex.isSome || Accepted toFloat isValid stamp request msg

variable (toFloat isValid stamp request) in
/-- What one message is published as. -/
def publish (msg : DataSetMsg R) : Option (GraphicsFrame R F) :=
  (msg.convert toFloat isValid .sequential stamp request).map fun frame => makeFrame frame msg.header stamp

theorem convert_sharing (sharing sharing' : Sharing) (msg : DataSetMsg R) :
    msg.convert toFloat isValid sharing stamp request = msg.convert toFloat isValid sharing' stamp request := by
  cases msg with
  | stamp header frameIndex => rfl
  | other header => rfl
  | range msg =>
    cases msg with
    | uniformSurface msg => exact congrArg (Option.filter isValid) (surfaceFrame_sharing _ _ msg)
    | surfacePointCloud msg => exact congrArg (Option.filter isValid) (surfaceFrame_sharing _ _ msg)
    | uniformProfile msg => exact congrArg (Option.filter isValid) (profileFrame_sharing _ _ msg)
    | profilePointCloud msg => exact congrArg (Option.filter isValid) (profileFrame_sharing _ _ msg)

/-- The loop is a search for the first message that is published. -/
theorem convertFrom_eq (sharing : Nat → Sharing) (index : Nat) (dataSet : List (DataSetMsg R)) :
    convertFrom toFloat isValid sharing stamp request index dataSet =
      dataSet.findSome? (publish toFloat isValid stamp request) := by
  induction dataSet generalizing index with
  | nil => rfl
  | cons msg dataSet ih =>
    rw [convertFrom, List.findSome?_cons, publish, convert_sharing (sharing index) .sequential]
    cases msg.convert toFloat isValid .sequential stamp request with
    | some frame => rfl
    | none => exact ih (index + 1)

theorem publish_eq_none {msg : DataSetMsg R} :
    publish toFloat isValid stamp request msg = none ↔ Accepted toFloat isValid stamp request msg = false := by
  rw [publish, Accepted]
  cases msg.convert toFloat isValid .sequential stamp request <;> simp

end

/-- Entries that a search skips may be left out. -/
theorem findSome?_filter {α β : Type} {p : α → Bool} {f : α → Option β} (h : ∀ a, p a = false → f a = none)
    (l : List α) : (l.filter p).findSome? f = l.findSome? f := by
  induction l with
  | nil => rfl
  | cons a l ih =>
    cases hp : p a with
    | true => rw [List.filter_cons_of_pos hp, List.findSome?_cons, List.findSome?_cons, ih]
    | false => rw [List.filter_cons_of_neg (by simp [hp]), List.findSome?_cons, h a hp, ih]

/-! ## The frame that is published -/

section

variable [Zero R] [One R] [Add R] [Mul R] [IntCast R] [DecidableEq R] [Zero F] [NatCast F]
variable {toFloat : R → F} {isValid : RangeFrame R F → Bool} {stamp : StampInfo} {request : Request}

theorem stampIndex_filter (dataSet : List (DataSetMsg R)) :
    stampIndex (dataSet.filter (Relevant toFloat isValid stamp request)) = stampIndex dataSet := by
  apply findSome?_filter
  intro msg hmsg
  rw [Relevant, Bool.or_eq_false_iff] at hmsg
  exact Option.not_isSome_iff_eq_none.1 (by simp [hmsg.1])

theorem publish_filter (dataSet : List (DataSetMsg R)) :
    (dataSet.filter (Relevant toFloat isValid stamp request)).findSome? (publish toFloat isValid stamp request) =
      dataSet.findSome? (publish toFloat isValid stamp request) := by
  apply findSome?_filter
  intro msg hmsg
  rw [Relevant, Bool.or_eq_false_iff] at hmsg
  exact publish_eq_none.2 hmsg.2

/-- Nothing is published iff the request lacks the range component or no message is accepted. What is
published is the first accepted message, under the index of the first stamp or, when there is none, under its
own data set. A data set with the same stamps and accepted messages, in the same order, gives the same. -/
theorem first_accepted_published (hasGraphicsFrameComponent : C → GraphicsFrameComponent → Bool)
    (toFloat : R → F) (isValid : RangeFrame R F → Bool) (sharing : Nat → Sharing) (dataSet : List (DataSetMsg R))
    (request : GraphicsFrameRequest C) :
    (convertGraphicsFrame toFloat isValid hasGraphicsFrameComponent sharing dataSet request = none ↔
      hasGraphicsFrameComponent request.components .range = false ∨
        ∀ msg ∈ dataSet, Accepted toFloat isValid (readStamp dataSet) request.toRequest msg = false) ∧
    (∀ frame, convertGraphicsFrame toFloat isValid hasGraphicsFrameComponent sharing dataSet request = some frame →
      ∃ skipped msg rest, dataSet = skipped ++ msg :: rest ∧
        (∀ m ∈ skipped, Accepted toFloat isValid (readStamp dataSet) request.toRequest m = false) ∧
        msg.convert toFloat isValid .sequential (readStamp dataSet) request.toRequest = some frame.range ∧
        frame.frameIndex = (stampIndex dataSet).getD msg.header.dataSetId ∧
        frame.frameId = toString frame.frameIndex) ∧
    (∀ sharing' dataSet',
      dataSet'.filter (Relevant toFloat isValid (readStamp dataSet) request.toRequest) =
          dataSet.filter (Relevant toFloat isValid (readStamp dataSet) request.toRequest) →
        convertGraphicsFrame toFloat isValid hasGraphicsFrameComponent sharing' dataSet' request =
          convertGraphicsFrame toFloat isValid hasGraphicsFrameComponent sharing dataSet request) := by
  unfold convertGraphicsFrame
  cases hcomponent : hasGraphicsFrameComponent request.components .range with
  | false => simp
  | true =>
    simp only [if_true, convertFrom_eq]
    refine ⟨?_, ?_, ?_⟩
    · simp only [List.findSome?_eq_none_iff, publish_eq_none]
      simp
    · intro frame hframe
      obtain ⟨skipped, msg, rest, hsplit, hmsg, hskipped⟩ := List.findSome?_eq_some_iff.1 hframe
      obtain ⟨range, hrange, rfl⟩ := Option.map_eq_some_iff.1 hmsg
      refine ⟨skipped, msg, rest, hsplit, fun m hm => publish_eq_none.1 (hskipped m hm), hrange, ?_, ?_⟩
      · exact makeFrame_frameIndex dataSet range msg.header
      · exact makeFrame_frameId range msg.header _
    · intro _ dataSet' hfilter
      -- the stamps are the same, so the messages are searched under the same stamp
      have hstamp : stampIndex dataSet' = stampIndex dataSet :=
        calc stampIndex dataSet'
            = stampIndex (dataSet'.filter (Relevant toFloat isValid (readStamp dataSet) request.toRequest)) :=
              (stampIndex_filter dataSet').symm
          _ = stampIndex (dataSet.filter (Relevant toFloat isValid (readStamp dataSet) request.toRequest)) := by
              rw [hfilter]
          _ = stampIndex dataSet := stampIndex_filter dataSet
      rw [readStamp_eq dataSet', hstamp, ← readStamp_eq dataSet, ← publish_filter dataSet', hfilter,
        publish_filter dataSet]

/-- A profile without ranges is passed over, and the stamp after the profile that is published counts. -/
example : (convertGraphicsFrame (F := Int) id (fun _ => true) (fun c _ => c) (fun _ => .sequential)
    [.range (.profilePointCloud { threePoints with ranges := none }), .range (.profilePointCloud threePoints),
      .stamp threePoints.header 5] ⟨⟨true⟩, true⟩).map (fun frame => (frame.frameIndex, frame.range.zValues)) =
        some (5, [35, 0, 0]) := by
  decide

end

end Gocator.Adapter

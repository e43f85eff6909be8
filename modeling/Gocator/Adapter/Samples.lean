/-
What the loop over the samples leaves in the frame: every element is written in the round of its
index alone, so the frame does not depend on how the threads share the rounds, and the counter ends
at the number of the samples that are not null.
-/
import Gocator.Adapter.Convert

namespace Gocator.Adapter

variable {R F ι : Type} [Zero F] [Add R] [Mul R] [IntCast R]
variable {toFloat : R → F} {reader : SampleReader ι} {resolution offset : Point3 R}

/-! ## One round -/

section

variable (toFloat reader)

/-- What an axis gets at a null sample, and at any other. -/
def SampleReader.written (offset resolution : R) (axis : ι → Int) (item : ι) : F :=
  if reader.isNull item then 0 else toFloat (coordinate offset resolution (axis item))

/-- What is written in the mask. -/
def SampleReader.mask (item : ι) : Option Nat := if reader.isNull item then some 0 else none

/-- What is written of an axis in the round of an index. -/
def axisAt (offset resolution : R) (src : List ι) (axis : Option (ι → Int)) (index : Nat) : Option F :=
  src[index]?.bind fun item => axis.map fun a => reader.written toFloat offset resolution a item

/-- Whether the counter grows in the round of an index. -/
def countsAt (src : List ι) (index : Nat) : Bool := src[index]?.any fun item => !reader.isNull item

end

theorem sampleRound_eq (src : List ι) (index : Nat) (frame : RangeFrame R F) :
    sampleRound toFloat reader resolution offset src index frame =
      ({ frame with
          xValues := Loop.store frame.xValues index (axisAt toFloat reader offset.x resolution.x src reader.x index)
          yValues := Loop.store frame.yValues index (axisAt toFloat reader offset.y resolution.y src reader.y index)
          zValues := Loop.store frame.zValues index
            (axisAt toFloat reader offset.z resolution.z src (some reader.z) index)
          validMask := Loop.store frame.validMask index (src[index]?.bind reader.mask) },
        if countsAt reader src index then 1 else 0) := by
  unfold sampleRound axisAt countsAt
  cases hitem : src[index]? with
  | none => rfl
  | some item =>
    cases hnull : reader.isNull item with
    | true => simp [SampleReader.written, SampleReader.mask, hnull]
    | false => simp [SampleReader.written, SampleReader.mask, hnull]

theorem independent_sampleRound (src : List ι) :
    Loop.Independent (sampleRound toFloat reader resolution offset src) where
  commute i j frame hij := by simp only [sampleRound_eq, Loop.store_comm hij]
  amount i j frame hij := by simp only [sampleRound_eq]

/-! ## The loop -/

/-- The frame after `n` rounds in order. -/
def filled (toFloat : R → F) (reader : SampleReader ι) (resolution offset : Point3 R) (src : List ι) (n : Nat)
    (frame : RangeFrame R F) : RangeFrame R F :=
  { frame with
    xValues := Loop.fill n (axisAt toFloat reader offset.x resolution.x src reader.x) frame.xValues
    yValues := Loop.fill n (axisAt toFloat reader offset.y resolution.y src reader.y) frame.yValues
    zValues := Loop.fill n (axisAt toFloat reader offset.z resolution.z src (some reader.z)) frame.zValues
    validMask := Loop.fill n (fun i => src[i]?.bind reader.mask) frame.validMask }

theorem reduce_sampleRound (src : List ι) (n : Nat) (frame : RangeFrame R F) :
    Loop.reduce n (sampleRound toFloat reader resolution offset src) frame =
      (filled toFloat reader resolution offset src n frame, (List.range n).countP (countsAt reader src)) := by
  induction n with
  | zero => rfl
  | succ n ih =>
    rw [Loop.reduce_succ, ih, Loop.reduceStep, sampleRound_eq, List.range_succ, List.countP_append,
      List.countP_singleton]
    simp only [filled, Loop.fill_succ]

/-- However the rounds are shared. -/
theorem sampleLoop_eq (sharing : Sharing) (src : List ι) (count : Nat) (frame : RangeFrame R F) :
    sampleLoop toFloat reader resolution offset sharing src count frame =
      (filled toFloat reader resolution offset src count frame, (List.range count).countP (countsAt reader src)) := by
  rw [sampleLoop, Loop.parallelReduce_eq (independent_sampleRound src), reduce_sampleRound]

/-! ## The elements after the loop -/

section

variable {src : List ι} {count i : Nat} {item : ι}

theorem getElem?_replicate_of_lt {α : Type} (a : α) (hi : i < count) : (List.replicate count a)[i]? = some a := by
  rw [List.getElem?_replicate, if_pos hi]

theorem axis_written (o r : R) (axis : ι → Int) (hi : i < count) (hitem : src[i]? = some item) :
    (Loop.fill count (axisAt toFloat reader o r src (some axis)) (List.replicate count 0))[i]? =
      some (reader.written toFloat o r axis item) := by
  rw [Loop.getElem?_fill hi, getElem?_replicate_of_lt _ hi, axisAt, hitem]
  rfl

/-- An axis that is not written keeps its zeros. -/
theorem axis_unwritten (o r : R) (hi : i < count) :
    (Loop.fill count (axisAt toFloat reader o r src none) (List.replicate count 0))[i]? = some 0 := by
  rw [Loop.getElem?_fill hi, getElem?_replicate_of_lt _ hi, axisAt]
  cases src[i]? <;> rfl

theorem mask_written (hi : i < count) (hitem : src[i]? = some item) :
    (Loop.fill count (fun i => src[i]?.bind reader.mask) (List.replicate count 1))[i]? =
      some (if reader.isNull item then 0 else 1) := by
  rw [Loop.getElem?_fill hi, getElem?_replicate_of_lt _ hi, hitem, Option.bind_some, SampleReader.mask]
  cases reader.isNull item <;> rfl

theorem countsAt_eq (hitem : src[i]? = some item) : countsAt reader src i = !reader.isNull item := by
  rw [countsAt, hitem]
  rfl

/-- The counter reaches the number of rounds exactly when no item is null. -/
theorem counted_all (hsrc : count ≤ src.length) :
    (List.range count).countP (countsAt reader src) = count ↔
      ∀ i item, i < count → src[i]? = some item → reader.isNull item = false := by
  have hlen : (List.range count).countP (countsAt reader src) = count ↔ ∀ i < count, countsAt reader src i = true := by
    have h := List.countP_eq_length (p := countsAt reader src) (l := List.range count)
    simpa only [List.length_range, List.mem_range] using h
  rw [hlen]
  constructor
  · intro h i item hi hitem
    have hcounts := h i hi
    rw [countsAt_eq hitem] at hcounts
    simpa using hcounts
  · intro h i hi
    have hitem : src[i]? = some src[i] := List.getElem?_eq_getElem (by omega)
    rw [countsAt_eq hitem, h i _ hi hitem]
    rfl

end

/-! ## The frame after the loop -/

section

variable (toFloat reader resolution offset)

/-- The frame of `count` items, with the mask cleared if all are valid. -/
def sweep (sharing : Sharing) (explicitXY : Bool) (src : List ι) (count : Nat) (frame : RangeFrame R F) :
    RangeFrame R F :=
  clearMask count (sampleLoop toFloat reader resolution offset sharing src count (sizeVectors explicitXY count frame))

/-- The mask and the coordinates of a frame say of every sample what its item says. -/
structure Consistent (explicitXY : Bool) (src : List ι) (count : Nat) (frame : RangeFrame R F) : Prop where
  read : count ≤ src.length
  mode : frame.explicitXY = explicitXY
  zLength : frame.zValues.length = count
  xyLength : explicitXY = true → frame.xValues.length = count ∧ frame.yValues.length = count
  maskEmpty : frame.validMask = [] ↔ ∀ i item, i < count → src[i]? = some item → reader.isNull item = false
  maskLength : frame.validMask ≠ [] → frame.validMask.length = count
  mask : frame.validMask ≠ [] → ∀ i item, i < count → src[i]? = some item →
    frame.validMask[i]? = some (if reader.isNull item then 0 else 1)
  zNull : ∀ i item, i < count → src[i]? = some item → reader.isNull item = true → frame.zValues[i]? = some 0
  xyNull : explicitXY = true → ∀ i item, i < count → src[i]? = some item → reader.isNull item = true →
    frame.xValues[i]? = some 0 ∧ frame.yValues[i]? = some 0
  z : ∀ i item, i < count → src[i]? = some item → reader.isNull item = false →
    frame.zValues[i]? = some (toFloat (offset.z + resolution.z * (reader.z item : R)))
  x : ∀ axis ∈ reader.x, ∀ i item, i < count → src[i]? = some item → reader.isNull item = false →
    frame.xValues[i]? = some (toFloat (offset.x + resolution.x * (axis item : R)))
  y : ∀ axis ∈ reader.y, ∀ i item, i < count → src[i]? = some item → reader.isNull item = false →
    frame.yValues[i]? = some (toFloat (offset.y + resolution.y * (axis item : R)))

end

section

variable {sharing : Sharing} {explicitXY : Bool} {src : List ι} {count : Nat} {frame : RangeFrame R F}

/-- Before the loop, no vector holds anything. -/
structure Blank (frame : RangeFrame R F) : Prop where
  x : frame.xValues = []
  y : frame.yValues = []
  z : frame.zValues = []
  mask : frame.validMask = []
  intensity : frame.intensity = []
  bits : frame.intensityBits = 0

theorem sweep_mask (hblank : Blank frame) :
    (sweep toFloat reader resolution offset sharing explicitXY src count frame).validMask =
      if (List.range count).countP (countsAt reader src) = count then []
      else Loop.fill count (fun i => src[i]?.bind reader.mask) (List.replicate count 1) := by
  rw [sweep, sampleLoop_eq, clearMask]
  split
  · rfl
  · simp only [filled, sizeVectors, hblank.mask, resize_nil]

theorem sweep_z (hblank : Blank frame) :
    (sweep toFloat reader resolution offset sharing explicitXY src count frame).zValues =
      Loop.fill count (axisAt toFloat reader offset.z resolution.z src (some reader.z)) (List.replicate count 0) := by
  rw [sweep, sampleLoop_eq, clearMask]
  split <;> simp only [filled, sizeVectors, hblank.z, resize_nil]

theorem sweep_x (hblank : Blank frame) :
    (sweep toFloat reader resolution offset sharing true src count frame).xValues =
      Loop.fill count (axisAt toFloat reader offset.x resolution.x src reader.x) (List.replicate count 0) := by
  rw [sweep, sampleLoop_eq, clearMask]
  split <;> simp only [filled, sizeVectors, hblank.x, resize_nil, if_true]

theorem sweep_y (hblank : Blank frame) :
    (sweep toFloat reader resolution offset sharing true src count frame).yValues =
      Loop.fill count (axisAt toFloat reader offset.y resolution.y src reader.y) (List.replicate count 0) := by
  rw [sweep, sampleLoop_eq, clearMask]
  split <;> simp only [filled, sizeVectors, hblank.y, resize_nil, if_true]

/-- The loop leaves the intensities alone. -/
theorem sweep_intensity (hblank : Blank frame) :
    (sweep toFloat reader resolution offset sharing explicitXY src count frame).intensity = [] ∧
      (sweep toFloat reader resolution offset sharing explicitXY src count frame).intensityBits = 0 := by
  rw [sweep, sampleLoop_eq, clearMask]
  split <;> exact ⟨hblank.intensity, hblank.bits⟩

/-- Of a null item an axis is zero, whether or not it is written. -/
theorem axis_null {axis : Option (ι → Int)} (o r : R) {i : Nat} {item : ι} (hi : i < count)
    (hitem : src[i]? = some item) (hnull : reader.isNull item = true) :
    (Loop.fill count (axisAt toFloat reader o r src axis) (List.replicate count 0))[i]? = some 0 := by
  cases axis with
  | none => exact axis_unwritten o r hi
  | some axis => rw [axis_written o r axis hi hitem, SampleReader.written, if_pos hnull]

theorem axis_valid {axis : ι → Int} (o r : R) {i : Nat} {item : ι} (hi : i < count)
    (hitem : src[i]? = some item) (hnull : reader.isNull item = false) :
    (Loop.fill count (axisAt toFloat reader o r src (some axis)) (List.replicate count 0))[i]? =
      some (toFloat (o + r * (axis item : R))) := by
  rw [axis_written o r axis hi hitem, SampleReader.written, if_neg (by rw [hnull]; exact Bool.false_ne_true)]
  rfl

/-- A loop that writes x or y runs over frames whose coordinates are explicit. -/
theorem consistent_sweep (hblank : Blank frame) (hcount : 0 < count) (hsrc : count ≤ src.length)
    (hexplicit : explicitXY = false → reader.x = none ∧ reader.y = none) :
    Consistent toFloat reader resolution offset explicitXY src count
      (sweep toFloat reader resolution offset sharing explicitXY src count frame) := by
  have hall : (List.range count).countP (countsAt reader src) = count ↔ _ := counted_all hsrc
  have hfill : (Loop.fill count (fun i => src[i]?.bind reader.mask) (List.replicate count 1)).length = count := by
    rw [Loop.length_fill, List.length_replicate]
  constructor
  case read => exact hsrc
  case mode =>
    rw [sweep, sampleLoop_eq, clearMask]
    split <;> rfl
  case zLength => rw [sweep_z hblank, Loop.length_fill, List.length_replicate]
  case xyLength =>
    rintro rfl
    constructor
    · rw [sweep_x hblank, Loop.length_fill, List.length_replicate]
    · rw [sweep_y hblank, Loop.length_fill, List.length_replicate]
  case maskEmpty =>
    rw [← hall, sweep_mask hblank]
    split
    · next h => exact iff_of_true rfl h
    · next h =>
      apply iff_of_false _ h
      intro hnil
      rw [hnil, List.length_nil] at hfill
      omega
  case maskLength =>
    rw [sweep_mask hblank]
    split
    · intro h
      exact absurd rfl h
    · exact fun _ => hfill
  case mask =>
    rw [sweep_mask hblank]
    split
    · intro h
      exact absurd rfl h
    · intro _ i item hi hitem
      exact mask_written hi hitem
  case zNull =>
    intro i item hi hitem hnull
    rw [sweep_z hblank]
    exact axis_null _ _ hi hitem hnull
  case xyNull =>
    rintro rfl i item hi hitem hnull
    rw [sweep_x hblank, sweep_y hblank]
    exact ⟨axis_null _ _ hi hitem hnull, axis_null _ _ hi hitem hnull⟩
  case z =>
    intro i item hi hitem hnull
    rw [sweep_z hblank]
    exact axis_valid _ _ hi hitem hnull
  case x =>
    intro axis haxis i item hi hitem hnull
    cases explicitXY with
    | false => rw [(hexplicit rfl).1] at haxis; cases haxis
    | true =>
      rw [sweep_x hblank, Option.mem_def.1 haxis]
      exact axis_valid _ _ hi hitem hnull
  case y =>
    intro axis haxis i item hi hitem hnull
    cases explicitXY with
    | false => rw [(hexplicit rfl).2] at haxis; cases haxis
    | true =>
      rw [sweep_y hblank, Option.mem_def.1 haxis]
      exact axis_valid _ _ hi hitem hnull

/-- Whether the frame marks a sample as valid. -/
def RangeFrame.marksValid (frame : RangeFrame R F) (i : Nat) : Bool :=
  frame.validMask = [] ∨ frame.validMask[i]? = some 1

theorem Consistent.marksValid (h : Consistent toFloat reader resolution offset explicitXY src count frame) {i : Nat}
    {item : ι} (hi : i < count) (hitem : src[i]? = some item) : frame.marksValid i = !reader.isNull item := by
  by_cases hempty : frame.validMask = []
  · rw [h.maskEmpty.1 hempty i item hi hitem]
    exact decide_eq_true (.inl hempty)
  · have hmask := h.mask hempty i item hi hitem
    cases hnull : reader.isNull item with
    | true => simp [RangeFrame.marksValid, hempty, hmask, hnull]
    | false => simp [RangeFrame.marksValid, hmask, hnull]

/-- The sample at a place says what an item says. -/
structure Shows (toFloat : R → F) (reader : SampleReader ι) (resolution offset : Point3 R) (frame : RangeFrame R F)
    (i : Nat) (item : ι) : Prop where
  valid : frame.marksValid i = !reader.isNull item
  z : frame.zValues[i]? = some (reader.written toFloat offset.z resolution.z reader.z item)
  x : ∀ axis ∈ reader.x, frame.xValues[i]? = some (reader.written toFloat offset.x resolution.x axis item)
  y : ∀ axis ∈ reader.y, frame.yValues[i]? = some (reader.written toFloat offset.y resolution.y axis item)

/-- Every sample says what the item at its index says. -/
theorem Consistent.shows (h : Consistent toFloat reader resolution offset explicitXY src count frame)
    (hexplicit : explicitXY = false → reader.x = none ∧ reader.y = none) {i : Nat} {item : ι} (hi : i < count)
    (hitem : src[i]? = some item) : Shows toFloat reader resolution offset frame i item := by
  have haxes : explicitXY = false → ∀ axis, axis ∉ reader.x ∧ axis ∉ reader.y := by
    intro hmode axis
    rw [(hexplicit hmode).1, (hexplicit hmode).2]
    exact ⟨Option.not_mem_none axis, Option.not_mem_none axis⟩
  constructor
  case valid => exact h.marksValid hi hitem
  case z =>
    unfold SampleReader.written
    split
    · next hnull => exact h.zNull i item hi hitem hnull
    · next hnull => exact h.z i item hi hitem (Bool.eq_false_iff.2 hnull)
  case x =>
    intro axis haxis
    unfold SampleReader.written
    split
    · next hnull =>
      cases explicitXY with
      | false => exact absurd haxis (haxes rfl axis).1
      | true => exact (h.xyNull rfl i item hi hitem hnull).1
    · next hnull => exact h.x axis haxis i item hi hitem (Bool.eq_false_iff.2 hnull)
  case y =>
    intro axis haxis
    unfold SampleReader.written
    split
    · next hnull =>
      cases explicitXY with
      | false => exact absurd haxis (haxes rfl axis).2
      | true => exact (h.xyNull rfl i item hi hitem hnull).2
    · next hnull => exact h.y axis haxis i item hi hitem (Bool.eq_false_iff.2 hnull)

theorem Consistent.withIntensity (h : Consistent toFloat reader resolution offset explicitXY src count frame)
    (copied : Nat × List F) :
    Consistent toFloat reader resolution offset explicitXY src count (frame.withIntensity copied) :=
  ⟨h.read, h.mode, h.zLength, h.xyLength, h.maskEmpty, h.maskLength, h.mask, h.zNull, h.xyNull, h.z, h.x, h.y⟩

end

end Gocator.Adapter

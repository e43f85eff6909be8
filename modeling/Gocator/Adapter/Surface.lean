/-
Rows and columns of surfaces. An array may have more columns than the message says, and then its rows
are further apart than those of the frame, while the loops read it from its start without a gap.
-/
import Gocator.Adapter.Consistent

namespace Gocator.Adapter

variable {R F ι : Type}

/-! ## The place of a sample -/

/-- The place of a row and a column is below the number of places. -/
theorem place_lt {r c width length : Nat} (hr : r < length) (hc : c < width) : r * width + c < width * length := by
  calc r * width + c < r * width + width := by omega
    _ = (r + 1) * width := (Nat.succ_mul r width).symm
    _ ≤ length * width := Nat.mul_le_mul_right width hr
    _ = width * length := Nat.mul_comm length width

/-- Rows of `width` samples begin where rows of `columns` items do. -/
def RowsFit (width length columns : Nat) : Prop := columns = width ∨ length = 1

theorem RowsFit.place {width length columns r : Nat} (h : RowsFit width length columns) (hr : r < length) (c : Nat) :
    r * columns + c = r * width + c := by
  rcases h with h | h
  · rw [h]
  · -- in a single row the place is the column
    obtain rfl : r = 0 := by omega
    omega

/-! ## What keeping the place means -/

/-- Item size and lengths of an array. -/
def Array2.shape (a : Array2 ι) : Nat × Nat × Nat := (a.itemSize, a.length0, a.length1)

/-- Two messages that differ at most in the items of their arrays, the scaling and the header. -/
structure SameShape (msg msg' : SurfaceMsg R ι) : Prop where
  width : msg'.width = msg.width
  length : msg'.length = msg.length
  ranges : msg'.ranges.map Array2.shape = msg.ranges.map Array2.shape
  intensities : msg'.intensities.map Array2.shape = msg.intensities.map Array2.shape

/-- The intensity array is asked for and accepted. -/
def Copied (request : Request) (msg : SurfaceMsg R ι) (a : Array2 Nat) : Prop :=
  request.includeRangeAuxiliaryChannels = true ∧ AcceptedIntensities msg.intensities msg.width msg.length a

/-- Every sample and every intensity of the frame is that of its row and column. -/
structure KeepsPlace [Zero F] [Add R] [Mul R] [IntCast R] [NatCast F] (toFloat : R → F) (reader : SampleReader ι)
    (request : Request) (msg : SurfaceMsg R ι) (frame : RangeFrame R F) : Prop where
  samples : ∀ ranges, msg.ranges = some ranges → ∀ r c, r < msg.length → c < msg.width →
    ∃ item, ranges.item r c = some item ∧
      Shows toFloat reader msg.resolution msg.offset frame (r * msg.width + c) item
  intensityLength : ∀ a, Copied request msg a → frame.intensity.length = msg.width * msg.length
  intensities : ∀ a, Copied request msg a → ∀ r c, r < msg.length → c < msg.width →
    ∃ item, a.item r c = some item ∧ frame.intensity[r * msg.width + c]? = some (item : F)
  noIntensities : (∀ a, ¬Copied request msg a) → frame.intensityBits = 0 ∧ frame.intensity = []

/-- The rows of the ranges, and of the intensities that are copied, are as long as those of the frame, or there
is one row only. -/
structure RowsKept (request : Request) (msg : SurfaceMsg R ι) : Prop where
  ranges : ∀ ranges, msg.ranges = some ranges → RowsFit msg.width msg.length ranges.length1
  intensities : ∀ a, Copied request msg a → RowsFit msg.width msg.length a.length1

theorem shape_eq {o o' : Option (Array2 ι)} (h : o'.map Array2.shape = o.map Array2.shape) {a : Array2 ι}
    (ha : o' = some a) : ∃ b, o = some b ∧ a.shape = b.shape := by
  rw [ha, Option.map_some] at h
  obtain ⟨b, hb, hshape⟩ := Option.map_eq_some_iff.1 h.symm
  exact ⟨b, hb, hshape.symm⟩

/-- Whether the rows fit depends on the shape alone. -/
theorem RowsKept.sameShape {request : Request} {msg msg' : SurfaceMsg R ι} (h : RowsKept request msg)
    (hshape : SameShape msg msg') : RowsKept request msg' := by
  constructor
  · intro ranges hranges
    obtain ⟨ranges', hranges', heq⟩ := shape_eq hshape.ranges hranges
    simp only [Array2.shape, Prod.mk.injEq] at heq
    rw [hshape.width, hshape.length, heq.2.2]
    exact h.ranges ranges' hranges'
  · rintro a ⟨hasked, ha⟩
    obtain ⟨a', ha', heq⟩ := shape_eq hshape.intensities ha.found
    simp only [Array2.shape, Prod.mk.injEq] at heq
    have hpositive := ha.positive
    have hlength0 := ha.length0
    have hlength1 := ha.length1
    have hsize := ha.itemSize
    rw [hshape.width, hshape.length] at hpositive
    rw [hshape.length, heq.2.1] at hlength0
    rw [hshape.width, heq.2.2] at hlength1
    rw [heq.1] at hsize
    rw [hshape.width, hshape.length, heq.2.2]
    exact h.intensities a' ⟨hasked, ha', hpositive, hlength0, hlength1, hsize⟩

/-! ## Rows that fit -/

variable [Zero R] [One R] [Add R] [Mul R] [IntCast R] [DecidableEq R] [Zero F] [NatCast F]
variable {toFloat : R → F} {sharing : Sharing} {itemSize : Nat} {explicitXY : Bool} {reader : SampleReader ι}
variable {stamp : StampInfo} {request : Request} {msg : SurfaceMsg R ι} {frame : RangeFrame R F}

/-- The frame of an accepted message shows every item that is read, at the index at which it is read. -/
theorem shows_surfaceFrame (hexplicit : explicitXY = false → reader.x = none ∧ reader.y = none)
    (h : surfaceFrame toFloat sharing itemSize explicitXY reader msg stamp request = some frame) {ranges : Array2 ι}
    (hranges : msg.ranges = some ranges) {i : Nat} (hi : i < msg.width * msg.length) :
    ∃ item, ranges.items[i]? = some item ∧ Shows toFloat reader msg.resolution msg.offset frame i item := by
  obtain ⟨ranges', hranges', hconsistent⟩ := consistent_surfaceFrame hexplicit h
  obtain rfl : ranges' = ranges := Option.some.inj (hranges'.symm.trans hranges)
  have hitem : ranges'.items[i]? = some _ := List.getElem?_eq_getElem (Nat.lt_of_lt_of_le hi hconsistent.read)
  exact ⟨_, hitem, hconsistent.shows hexplicit hi hitem⟩

/-- The intensities of the frame are the first items of the array. -/
theorem intensity_surfaceFrame {a : Array2 Nat} (ha : Copied request msg a)
    (h : surfaceFrame toFloat sharing itemSize explicitXY reader msg stamp request = some frame) :
    frame.intensity = Loop.fill (msg.width * msg.length) (fun i => a.items[i]?.map Nat.cast)
      (List.replicate (msg.width * msg.length) 0) := by
  obtain ⟨ranges, haccepted⟩ := accepted_of_surfaceFrame h
  rw [surfaceFrame_of_accepted haccepted] at h
  obtain rfl := Option.some.inj h
  rw [RangeFrame.auxiliary, if_pos ha.1, (surfaceSweep_intensity msg ranges).1,
    copyArray2Intensity_of_accepted ha.2, resize_nil]
  rfl

theorem getElem?_intensity {a : Array2 Nat} (ha : Copied request msg a)
    (h : surfaceFrame toFloat sharing itemSize explicitXY reader msg stamp request = some frame) {i : Nat}
    (hi : i < msg.width * msg.length) :
    ∃ item, a.items[i]? = some item ∧ frame.intensity[i]? = some (item : F) := by
  have hitem : a.items[i]? = some _ := List.getElem?_eq_getElem (Nat.lt_of_lt_of_le hi ha.2.count_le)
  refine ⟨_, hitem, ?_⟩
  rw [intensity_surfaceFrame ha h, Loop.getElem?_fill hi, getElem?_replicate_of_lt _ hi, hitem]
  rfl

theorem noIntensity_surfaceFrame (hnone : ∀ a, ¬Copied request msg a)
    (h : surfaceFrame toFloat sharing itemSize explicitXY reader msg stamp request = some frame) :
    frame.intensityBits = 0 ∧ frame.intensity = [] := by
  obtain ⟨ranges, haccepted⟩ := accepted_of_surfaceFrame h
  rw [surfaceFrame_of_accepted haccepted] at h
  obtain rfl := Option.some.inj h
  rw [RangeFrame.auxiliary]
  split
  · next hasked =>
    rw [copyArray2Intensity_of_not_accepted fun a ha => hnone a ⟨hasked, ha⟩]
    exact ⟨rfl, (surfaceSweep_intensity msg ranges).1⟩
  · exact (surfaceSweep_intensity msg ranges).symm

theorem keepsPlace_of_rowsKept (hexplicit : explicitXY = false → reader.x = none ∧ reader.y = none)
    (hrows : RowsKept request msg)
    (h : surfaceFrame toFloat sharing itemSize explicitXY reader msg stamp request = some frame) :
    KeepsPlace toFloat reader request msg frame := by
  constructor
  case samples =>
    intro ranges hranges r c hr hc
    rw [Array2.item, (hrows.ranges ranges hranges).place hr c]
    exact shows_surfaceFrame hexplicit h hranges (place_lt hr hc)
  case intensityLength =>
    intro a ha
    rw [intensity_surfaceFrame ha h, Loop.length_fill, List.length_replicate]
  case intensities =>
    intro a ha r c hr hc
    rw [Array2.item, (hrows.intensities a ha).place hr c]
    exact getElem?_intensity ha h (place_lt hr hc)
  case noIntensities =>
    intro hnone
    exact noIntensity_surfaceFrame hnone h

/-! ## Rows that do not fit -/

/-- The array with one item throughout, but for another at the start of the second row. -/
def Array2.marked (a : Array2 ι) (common mark : ι) : Array2 ι where
  itemSize := a.itemSize
  length0 := a.length0
  length1 := a.length1
  items := (List.replicate a.items.length common).set a.length1 mark
  size := by rw [List.length_set, List.length_replicate, a.size]

@[simp] theorem shape_marked (a : Array2 ι) (common mark : ι) : (a.marked common mark).shape = a.shape := rfl

theorem item_marked {a : Array2 ι} (common mark : ι) (h : a.length1 < a.items.length) :
    (a.marked common mark).item 1 0 = some mark := by
  rw [Array2.item, Array2.marked]
  simp only [Nat.one_mul, Nat.add_zero]
  rw [List.getElem?_set_self (by rw [List.length_replicate]; exact h)]

theorem getElem?_marked {a : Array2 ι} {common mark item : ι} {i : Nat} (hne : a.length1 ≠ i)
    (h : (a.marked common mark).items[i]? = some item) : item = common := by
  rw [Array2.marked] at h
  rw [List.getElem?_set_ne hne] at h
  exact List.eq_of_mem_replicate (List.mem_of_getElem? h)

/-- The second row exists where there are two rows of at least one item. -/
theorem second_row {a : Array2 ι} (h0 : 2 ≤ a.length0) (h1 : 0 < a.length1) : a.length1 < a.items.length := by
  rw [a.size]
  calc a.length1 < 2 * a.length1 := by omega
    _ ≤ a.length0 * a.length1 := Nat.mul_le_mul_right _ h0

theorem ranges_fit {common mark : ι} (hexplicit : explicitXY = false → reader.x = none ∧ reader.y = none)
    (hcommon : reader.isNull common = false) (hmark : reader.isNull mark = true)
    (h : surfaceFrame toFloat sharing itemSize explicitXY reader msg stamp request = some frame)
    (hkeeps : ∀ msg' frame', SameShape msg msg' →
      surfaceFrame toFloat sharing itemSize explicitXY reader msg' stamp request = some frame' →
      KeepsPlace toFloat reader request msg' frame') {ranges : Array2 ι} (hranges : msg.ranges = some ranges) :
    RowsFit msg.width msg.length ranges.length1 := by
  by_contra hfit
  obtain ⟨hcolumns, hlength⟩ := not_or.1 hfit
  obtain ⟨ranges', haccepted⟩ := accepted_of_surfaceFrame h
  obtain rfl : ranges' = ranges := Option.some.inj (haccepted.found.symm.trans hranges)
  have hwidth := haccepted.width
  have hheight := haccepted.length
  have hlength0 := haccepted.length0
  have hlength1 := haccepted.length1
  have hrow : 1 < msg.length := by omega
  have hplace : 1 * msg.width + 0 < msg.width * msg.length := place_lt hrow hwidth.1
  -- the same message, null at the start of the second row alone
  let msg' : SurfaceMsg R ι := { msg with ranges := some (ranges'.marked common mark) }
  have haccepted' : AcceptedSurface itemSize msg' (ranges'.marked common mark) :=
    ⟨rfl, haccepted.width, haccepted.length, haccepted.itemSize, haccepted.length0, haccepted.length1⟩
  obtain ⟨frame', hframe⟩ : ∃ frame', surfaceFrame toFloat sharing itemSize explicitXY reader msg' stamp request =
      some frame' := ⟨_, surfaceFrame_of_accepted haccepted'⟩
  have hshape : SameShape msg msg' := ⟨rfl, rfl, by rw [hranges]; rfl, rfl⟩
  obtain ⟨item, hitem, hshows⟩ := (hkeeps msg' _ hshape hframe).samples _ rfl 1 0 hrow hwidth.1
  obtain ⟨item', hitem', hshows'⟩ := shows_surfaceFrame hexplicit hframe rfl hplace
  rw [item_marked common mark (second_row (by omega) (by omega))] at hitem
  obtain rfl := Option.some.inj hitem
  obtain rfl := getElem?_marked (by omega) hitem'
  have hsame : (!reader.isNull mark) = !reader.isNull item' := hshows.valid.symm.trans hshows'.valid
  rw [hmark, hcommon] at hsame
  -- one sample cannot be both: the frame shows the item that follows the first row of the frame
  exact Bool.false_ne_true hsame

theorem intensities_fit (hcast : ((1 : Nat) : F) ≠ ((0 : Nat) : F))
    (h : surfaceFrame toFloat sharing itemSize explicitXY reader msg stamp request = some frame)
    (hkeeps : ∀ msg' frame', SameShape msg msg' →
      surfaceFrame toFloat sharing itemSize explicitXY reader msg' stamp request = some frame' →
      KeepsPlace toFloat reader request msg' frame') {a : Array2 Nat} (ha : Copied request msg a) :
    RowsFit msg.width msg.length a.length1 := by
  by_contra hfit
  obtain ⟨hcolumns, hlength⟩ := not_or.1 hfit
  obtain ⟨ranges, haccepted⟩ := accepted_of_surfaceFrame h
  have hwidth := haccepted.width
  have hheight := haccepted.length
  have hlength0 := ha.2.length0
  have hlength1 := ha.2.length1
  have hrow : 1 < msg.length := by omega
  have hplace : 1 * msg.width + 0 < msg.width * msg.length := place_lt hrow hwidth.1
  -- the same message, with one intensity that is not 0, at the start of the second row
  let msg' : SurfaceMsg R ι := { msg with intensities := some (a.marked 0 1) }
  have haccepted' : AcceptedSurface itemSize msg' ranges :=
    ⟨haccepted.found, haccepted.width, haccepted.length, haccepted.itemSize, haccepted.length0, haccepted.length1⟩
  have hcopied : Copied request msg' (a.marked 0 1) :=
    ⟨ha.1, rfl, ha.2.positive, ha.2.length0, ha.2.length1, ha.2.itemSize⟩
  obtain ⟨frame', hframe⟩ : ∃ frame', surfaceFrame toFloat sharing itemSize explicitXY reader msg' stamp request =
      some frame' := ⟨_, surfaceFrame_of_accepted haccepted'⟩
  have hshape : SameShape msg msg' := ⟨rfl, rfl, rfl, by rw [ha.2.found]; rfl⟩
  obtain ⟨item, hitem, hintensity⟩ := (hkeeps msg' _ hshape hframe).intensities _ hcopied 1 0 hrow hwidth.1
  obtain ⟨item', hitem', hintensity'⟩ := getElem?_intensity hcopied hframe hplace
  rw [item_marked 0 1 (second_row (by omega) (by omega))] at hitem
  obtain rfl := Option.some.inj hitem
  obtain rfl := getElem?_marked (by omega) hitem'
  exact hcast (Option.some.inj (hintensity.symm.trans hintensity'))

/-- A converter keeps the place of every item, for all items, exactly when the rows fit. -/
theorem keepsPlace_iff {common mark : ι} (hcast : ((1 : Nat) : F) ≠ ((0 : Nat) : F))
    (hexplicit : explicitXY = false → reader.x = none ∧ reader.y = none)
    (hcommon : reader.isNull common = false) (hmark : reader.isNull mark = true)
    (h : surfaceFrame toFloat sharing itemSize explicitXY reader msg stamp request = some frame) :
    (∀ msg' frame', SameShape msg msg' →
      surfaceFrame toFloat sharing itemSize explicitXY reader msg' stamp request = some frame' →
      KeepsPlace toFloat reader request msg' frame') ↔ RowsKept request msg := by
  constructor
  · intro hkeeps
    constructor
    · intro ranges hranges
      exact ranges_fit hexplicit hcommon hmark h hkeeps hranges
    · intro a ha
      exact intensities_fit hcast h hkeeps ha
  · intro hrows msg' frame' hshape hframe'
    apply keepsPlace_of_rowsKept hexplicit _ hframe'
    exact hrows.sameShape hshape

/-- For every accepted message: both converters keep the place of the items, whatever they are, exactly when
the rows of the ranges, and of the intensities that are copied, fit those of the frame. -/
theorem surfaces_keepPlace_iff (hcast : ((1 : Nat) : F) ≠ ((0 : Nat) : F)) :
    (∀ (msg : SurfaceMsg R Int) (stamp : StampInfo) (request : Request) (frame : RangeFrame R F),
      uniformSurfaceFrame toFloat sharing msg stamp request = some frame →
      ((∀ msg' frame', SameShape msg msg' → uniformSurfaceFrame toFloat sharing msg' stamp request = some frame' →
        KeepsPlace toFloat rangeReader request msg' frame') ↔ RowsKept request msg)) ∧
    (∀ (msg : SurfaceMsg R (Point3 Int)) (stamp : StampInfo) (request : Request) (frame : RangeFrame R F),
      surfacePointCloudFrame toFloat sharing msg stamp request = some frame →
      ((∀ msg' frame', SameShape msg msg' → surfacePointCloudFrame toFloat sharing msg' stamp request = some frame' →
        KeepsPlace toFloat surfacePointReader request msg' frame') ↔ RowsKept request msg)) := by
  constructor
  · intro msg stamp request frame h
    have hcommon : rangeReader.isNull 0 = false := by decide
    have hmark : rangeReader.isNull (-32768) = true := by decide
    exact keepsPlace_iff hcast (fun _ => ⟨rfl, rfl⟩) hcommon hmark h
  · intro msg stamp request frame h
    have hcommon : surfacePointReader.isNull ⟨0, 0, 0⟩ = false := by decide
    have hmark : surfacePointReader.isNull ⟨0, 0, -32768⟩ = true := by decide
    exact keepsPlace_iff hcast (by rintro ⟨⟩) hcommon hmark h

/-- Two rows of `width` samples, in an array that may have more columns. -/
def twoRows (columns : Nat) (items : List Int) (size : items.length = 2 * columns) (width : Nat) :
    SurfaceMsg Int Int where
  header := ⟨"top", 7, 0, true⟩
  width := width
  length := 2
  resolution := ⟨1, 1, 3⟩
  offset := ⟨0, 0, 20⟩
  ranges := some ⟨2, 2, columns, items, size⟩
  intensities := none

theorem surfaces_keepPlace_iff_two : ∃ frame : RangeFrame Int Int,
    uniformSurfaceFrame id .sequential (twoRows 2 [1, -32768, 3, 4] rfl 2) ⟨0, false⟩ ⟨true⟩ = some frame ∧
      KeepsPlace id rangeReader ⟨true⟩ (twoRows 2 [1, -32768, 3, 4] rfl 2) frame := by
  have hsome : (uniformSurfaceFrame id .sequential (twoRows 2 [1, -32768, 3, 4] rfl 2) ⟨0, false⟩ ⟨true⟩).isSome := rfl
  have h := (Option.some_get hsome).symm
  have hrows : RowsKept ⟨true⟩ (twoRows 2 [1, -32768, 3, 4] rfl 2) := by
    constructor
    · rintro ranges ⟨⟩
      exact .inl rfl
    · rintro a ⟨-, ha⟩
      cases ha.found
  exact ⟨_, h, ((surfaces_keepPlace_iff (by decide)).1 _ _ _ _ h).2 hrows _ _ ⟨rfl, rfl, rfl, rfl⟩ h⟩

/-- The array has a column more than the frame: its item (0, 1), which is null, becomes the sample (1, 0). -/
theorem not_surfaces_keepPlace : ¬∀ (msg : SurfaceMsg Int Int) (stamp : StampInfo) (request : Request)
    (frame : RangeFrame Int Int), uniformSurfaceFrame id .sequential msg stamp request = some frame →
    KeepsPlace id rangeReader request msg frame := by
  intro h
  have hsome : (uniformSurfaceFrame id .sequential (twoRows 2 [1, -32768, 3, 4] rfl 1) ⟨0, false⟩ ⟨true⟩).isSome := rfl
  have hframe := (Option.some_get hsome).symm
  obtain ⟨item, hitem, hshows⟩ := (h _ _ _ _ hframe).samples _ rfl 1 0 (by decide) (by decide)
  obtain rfl : 3 = item := Option.some.inj hitem
  have hvalid : false = true := hshows.valid
  cases hvalid

end Gocator.Adapter

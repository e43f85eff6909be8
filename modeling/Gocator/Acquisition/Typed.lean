/-
What `frameFromDataSet` makes of a data set. Every message is read as the object it is exactly when
the data set holds no uniform surface, which the dispatch casts to an image; the four output lists
are then the decodings of the messages, in order.
-/
import Mathlib.Algebra.Ring.Int.Defs
import Gocator.Acquisition.Decode
import Mathlib.Data.List.Basic

namespace Gocator.Acquisition

variable {R : Type} [Zero R] [Add R] [Mul R] [Div R] [NatCast R] [IntCast R]

/-! ## The decoding of one message -/

def imageOf (formatName : Int → String) : GdpMsg R → Option (ImageFrame R)
  | ⟨header, .image, image⟩ => some (imageFrame formatName header image)
  | _ => none

def profileOf : GdpMsg R → Option (ProfileFrame R)
  | ⟨header, .uniformProfile, profile⟩ => some (uniformProfileFrame header profile)
  | ⟨header, .profilePointCloud, profile⟩ => some (pointCloudProfileFrame header profile)
  | _ => none

def spotsOf : GdpMsg R → Option (SpotsFrame R)
  | ⟨header, .spots, spots⟩ => some (spotsFrame header spots)
  | _ => none

omit [Add R] [Mul R] [IntCast R] in
/-- An image frame has the dimensions its message reports. -/
theorem imageFrame_dimensions (formatName : Int → String) (header : Header) (image : ImageData) :
    (imageFrame formatName header image : ImageFrame R).width = image.width ∧
      (imageFrame formatName header image : ImageFrame R).height = image.height := by
  unfold imageFrame
  cases image.pixels with
  | none => exact ⟨rfl, rfl⟩
  | some pixels =>
    simp only
    split <;> exact ⟨rfl, rfl⟩

/-- The width and height a message of the types handled as images reports. -/
def dimensionsOf : GdpMsg R → Option (Nat × Nat)
  | ⟨_, .image, image⟩ => some (image.width, image.height)
  | ⟨_, .uniformSurface, surface⟩ => some (surface.width, surface.length)
  | _ => none

/-- The entry is that of the message: the decoding of an image, and of a uniform surface any of its dimensions. -/
def ImageEntry (formatName : Int → String) (m : GdpMsg R) (entry : ImageFrame R) : Prop :=
  dimensionsOf m = some (entry.width, entry.height) ∧ ∀ image, imageOf formatName m = some image → entry = image

/-- The frame lists the decodings of the messages in order. -/
structure Decodes (formatName : Int → String) (dataSet : List (GdpMsg R)) (frame : Frame R) : Prop where
  count : frame.messageCount = dataSet.length
  messages : frame.messages = dataSet.map messageInfo
  images : List.Forall₂ (ImageEntry formatName) (dataSet.filter (dimensionsOf · |>.isSome)) frame.images
  profiles : frame.profiles = dataSet.filterMap profileOf
  spots : frame.spots = dataSet.filterMap spotsOf

/-- Every data set has such a frame, so what keeps one from being built is a cast. -/
theorem exists_decodes (formatName : Int → String) (dataSet : List (GdpMsg R)) :
    ∃ frame : Frame R, Decodes formatName dataSet frame := by
  have hentry : ∀ m : GdpMsg R, (dimensionsOf m).isSome = true → ∃ entry, ImageEntry formatName m entry := by
    intro m hm
    obtain ⟨⟨width, height⟩, hdims⟩ := Option.isSome_iff_exists.1 hm
    cases himage : imageOf formatName m with
    | some image =>
      obtain ⟨header, type, data⟩ := m
      cases type with
      | image =>
        cases himage
        refine ⟨_, ?_, fun image h => Option.some.inj h⟩
        obtain ⟨hwidth, hheight⟩ := imageFrame_dimensions (R := R) formatName header data
        rw [hwidth, hheight]
        rfl
      | _ => cases himage
    | none =>
      refine ⟨⟨"", 0, 0, width, height, 0, 0, "", 0, false, 0, 0, 0, []⟩, hdims, fun image h => ?_⟩
      rw [himage] at h
      cases h
  have himages : ∀ l : List (GdpMsg R), (∀ m ∈ l, (dimensionsOf m).isSome = true) →
      ∃ images, List.Forall₂ (ImageEntry formatName) l images := by
    intro l h
    induction l with
    | nil => exact ⟨[], .nil⟩
    | cons m l ih =>
      obtain ⟨entry, hfirst⟩ := hentry m (h m (List.mem_cons_self ..))
      obtain ⟨images, hrest⟩ := ih fun m' hm => h m' (List.mem_cons_of_mem _ hm)
      exact ⟨entry :: images, .cons hfirst hrest⟩
  obtain ⟨images, h⟩ := himages (dataSet.filter (dimensionsOf · |>.isSome)) fun m hm => (List.mem_filter.1 hm).2
  exact ⟨⟨dataSet.length, dataSet.map messageInfo, images, dataSet.filterMap profileOf, dataSet.filterMap spotsOf⟩, rfl,
    rfl, h, rfl, rfl⟩

/-- The frame with the decodings of the messages appended. -/
def Frame.extended (formatName : Int → String) (frame : Frame R) (dataSet : List (GdpMsg R)) : Frame R :=
  { frame with
    messages := frame.messages ++ dataSet.map messageInfo
    images := frame.images ++ dataSet.filterMap (imageOf formatName)
    profiles := frame.profiles ++ dataSet.filterMap profileOf
    spots := frame.spots ++ dataSet.filterMap spotsOf }

/-! ## One round of the loop -/

theorem frameStep_ok (formatName : Int → String) (frame : Frame R) {m : GdpMsg R} (h : m.type ≠ .uniformSurface) :
    frameStep formatName frame m = .ok (frame.extended formatName [m]) := by
  obtain ⟨header, type, data⟩ := m
  unfold frameStep Frame.extended
  cases type with
  | uniformSurface => exact absurd rfl h
  | _ => simp [imageOf, profileOf, spotsOf, bind, Except.bind, pure, Except.pure]

/-- A uniform surface is cast to an image, which it is not. -/
theorem frameStep_surface (formatName : Int → String) (frame : Frame R) {m : GdpMsg R} (h : m.type = .uniformSurface) :
    frameStep formatName frame m = .error ⟨.image, .surfaceUniform⟩ := by
  unfold frameStep
  rw [if_pos (.inr h), castTo_of_ne (by rw [h]; decide), h]
  rfl

/-! ## The loop -/

theorem Frame.extended_append (formatName : Int → String) (frame : Frame R) (a b : List (GdpMsg R)) :
    (frame.extended formatName a).extended formatName b = frame.extended formatName (a ++ b) := by
  simp only [Frame.extended, List.map_append, List.filterMap_append, List.append_assoc]

theorem foldlM_ok (formatName : Int → String) : ∀ (dataSet : List (GdpMsg R)) (frame : Frame R),
    (∀ m ∈ dataSet, m.type ≠ .uniformSurface) →
    dataSet.foldlM (frameStep formatName) frame = .ok (frame.extended formatName dataSet)
  | [], frame, _ => by
    simp only [List.foldlM_nil, Frame.extended, List.map_nil, List.filterMap_nil, List.append_nil]
    rfl
  | m :: dataSet, frame, h => by
    rw [List.foldlM_cons, frameStep_ok formatName frame (h m (List.mem_cons_self ..))]
    refine (foldlM_ok formatName dataSet _ fun m' hm => h m' (List.mem_cons_of_mem _ hm)).trans ?_
    rw [Frame.extended_append, List.singleton_append]

theorem foldlM_surface (formatName : Int → String) : ∀ (dataSet : List (GdpMsg R)) (frame : Frame R),
    (∃ m ∈ dataSet, m.type = .uniformSurface) →
    dataSet.foldlM (frameStep formatName) frame = .error ⟨.image, .surfaceUniform⟩
  | [], _, h => by
    obtain ⟨m, hm, -⟩ := h
    cases hm
  | m :: dataSet, frame, h => by
    rw [List.foldlM_cons]
    by_cases hm : m.type = .uniformSurface
    · rw [frameStep_surface formatName frame hm]
      rfl
    · rw [frameStep_ok formatName frame hm]
      obtain ⟨m', hmem, hsurface⟩ := h
      rcases List.mem_cons.1 hmem with rfl | hmem
      · exact absurd hsurface hm
      · exact foldlM_surface formatName dataSet _ ⟨m', hmem, hsurface⟩

theorem frameFromDataSet_ok (formatName : Int → String) {dataSet : List (GdpMsg R)}
    (h : ∀ m ∈ dataSet, m.type ≠ .uniformSurface) :
    frameFromDataSet formatName dataSet = .ok
      { messageCount := dataSet.length
        messages := dataSet.map messageInfo
        images := dataSet.filterMap (imageOf formatName)
        profiles := dataSet.filterMap profileOf
        spots := dataSet.filterMap spotsOf } :=
  foldlM_ok formatName dataSet _ h

theorem frameFromDataSet_surface (formatName : Int → String) {dataSet : List (GdpMsg R)}
    (h : ∃ m ∈ dataSet, m.type = .uniformSurface) :
    frameFromDataSet formatName dataSet = .error ⟨.image, .surfaceUniform⟩ :=
  foldlM_surface formatName dataSet _ h

omit [Add R] [Mul R] [IntCast R] in
theorem dimensions_imageOf (formatName : Int → String) {m : GdpMsg R} (h : m.type ≠ .uniformSurface) :
    (imageOf formatName m).map (fun image => (image.width, image.height)) = dimensionsOf m := by
  obtain ⟨header, type, data⟩ := m
  cases type with
  | uniformSurface => exact absurd rfl h
  | image =>
    have hd := imageFrame_dimensions (R := R) formatName header data
    simp only [imageOf, dimensionsOf, Option.map_some, hd.1, hd.2]
  | _ => rfl

omit [Add R] [Mul R] [IntCast R] in
/-- Without uniform surfaces the decodings are the entries. -/
theorem entries_imageOf (formatName : Int → String) : ∀ {dataSet : List (GdpMsg R)},
    (∀ m ∈ dataSet, m.type ≠ .uniformSurface) →
    List.Forall₂ (ImageEntry formatName) (dataSet.filter (dimensionsOf · |>.isSome))
      (dataSet.filterMap (imageOf formatName))
  | [], _ => .nil
  | m :: dataSet, h => by
    have hdims := dimensions_imageOf formatName (h m (List.mem_cons_self ..))
    have hrest := entries_imageOf formatName fun m' hm => h m' (List.mem_cons_of_mem _ hm)
    cases himage : imageOf formatName m with
    | none =>
      rw [himage, Option.map_none] at hdims
      rw [List.filterMap_cons_none himage, List.filter_cons_of_neg (by rw [← hdims]; exact Bool.false_ne_true)]
      exact hrest
    | some image =>
      rw [himage, Option.map_some] at hdims
      rw [List.filterMap_cons_some himage, List.filter_cons_of_pos (by rw [← hdims]; rfl)]
      refine .cons ⟨hdims.symm, fun image' h' => ?_⟩ hrest
      rw [himage] at h'
      exact Option.some.inj h'

/-- The data set is decoded, every message through its own class, exactly when it holds no uniform
surface. -/
theorem frame_decodes_iff (formatName : Int → String) (dataSet : List (GdpMsg R)) :
    (∃ frame, frameFromDataSet formatName dataSet = .ok frame ∧ Decodes formatName dataSet frame) ↔
      ∀ m ∈ dataSet, m.type ≠ .uniformSurface := by
  constructor
  · rintro ⟨frame, hframe, -⟩ m hm hsurface
    rw [frameFromDataSet_surface formatName ⟨m, hm, hsurface⟩] at hframe
    cases hframe
  · intro h
    exact ⟨_, frameFromDataSet_ok formatName h, rfl, rfl, entries_imageOf formatName h, rfl, rfl⟩

/-- A data set with one uniform surface is not decoded. -/
theorem not_frame_decodes : ¬ ∀ dataSet : List (GdpMsg Int),
    ∃ frame, frameFromDataSet (fun _ => "") dataSet = .ok frame ∧ Decodes (fun _ => "") dataSet frame := by
  intro h
  obtain ⟨frame, hframe, -⟩ := h [⟨⟨"", 0, 0, true⟩, .uniformSurface, ⟨2, 3⟩⟩]
  cases hframe

end Gocator.Acquisition

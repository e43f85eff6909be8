/-
The statistics of the intensities. They start from item 0 of the array in front of the loop, where the first
round reads it again; without a round they describe an item that is no point's.
-/
import Gocator.Acquisition.Profile

namespace Gocator.Acquisition

section

variable {R ι : Type}

/-- The intensities of the first `n` points of a frame. -/
def intensitiesBelow (frame : ProfileFrame R) (n : Nat) : Set Nat :=
  {intensity | ∃ i < n, (frame.points[i]?.map fun point => point.intensity) = some intensity}

/-- The number of points that have an intensity. -/
def intensityCount (profile : ProfileData R ι) : Nat := min profile.width profile.intensityWidth

/-- There are statistics if a point has an intensity, and they are those of the points that have one; the other
points have intensity 0. -/
structure IntensityStats (profile : ProfileData R ι) (frame : ProfileFrame R) : Prop where
  hasStats : frame.hasIntensityStats = true ↔ profile.intensities ≠ none ∧ 0 < intensityCount profile
  least : frame.hasIntensityStats = true → IsLeast (intensitiesBelow frame (intensityCount profile)) frame.minIntensity
  greatest :
    frame.hasIntensityStats = true → IsGreatest (intensitiesBelow frame (intensityCount profile)) frame.maxIntensity
  others : ∀ i point, intensityCount profile ≤ i → frame.points[i]? = some point → point.intensity = 0

/-! ## The loop -/

/-- The item the statistics start from. -/
def firstIntensity (profile : ProfileData R ι) : Nat := (intensityAt profile 0).getD 0

/-- After `n` rounds: whether there are statistics was settled in front of the loop, and they are those of the first
item and of what the rounds have read. -/
structure SeenIntensities (profile : ProfileData R ι) (n : Nat) (frame : ProfileFrame R) : Prop where
  hasStats : frame.hasIntensityStats = true ↔ profile.intensities ≠ none ∧ 0 < profile.intensityWidth
  least : frame.hasIntensityStats = true →
    IsLeast (insert (firstIntensity profile) (Loop.readBelow (intensityAt profile) n)) frame.minIntensity
  greatest : frame.hasIntensityStats = true →
    IsGreatest (insert (firstIntensity profile) (Loop.readBelow (intensityAt profile) n)) frame.maxIntensity

variable {profile : ProfileData R ι} {n : Nat} {frame : ProfileFrame R}

theorem intensityAt_eq_some_iff {i intensity : Nat} : intensityAt profile i = some intensity ↔
    ∃ intensities, profile.intensities = some intensities ∧ i < profile.intensityWidth ∧
      arrayItem intensities i 0 = intensity := by
  unfold intensityAt
  cases hint : profile.intensities with
  | none => simp
  | some intensities => simp

theorem intensityAt_eq_none_iff {i : Nat} :
    intensityAt profile i = none ↔ profile.intensities = none ∨ profile.intensityWidth ≤ i := by
  unfold intensityAt
  cases hint : profile.intensities with
  | none => simp
  | some intensities => simp

/-- With a round, the first item is one that is read. -/
theorem insert_firstIntensity (hint : profile.intensities ≠ none) (hcount : 0 < intensityCount profile) :
    insert (firstIntensity profile) (Loop.readBelow (intensityAt profile) profile.width) =
      Loop.readBelow (intensityAt profile) profile.width := by
  obtain ⟨intensities, hsome⟩ := Option.ne_none_iff_exists'.1 hint
  obtain ⟨hwidth, hintensity⟩ := lt_min_iff.1 hcount
  have hread := intensityAt_eq_some_iff.2 ⟨intensities, hsome, hintensity, rfl⟩
  apply Set.insert_eq_of_mem
  refine ⟨0, hwidth, ?_⟩
  rw [firstIntensity, hread, Option.getD_some]

/-- Without rounds the first item is the only one. -/
theorem seenIntensities_start (header : Header) (profile : ProfileData R ι) :
    SeenIntensities profile 0 (profileStart header profile) := by
  have hnone : Loop.readBelow (intensityAt profile) 0 = ∅ := Loop.readBelow_of_none fun i hi => by omega
  unfold profileStart
  split
  · rename_i intensities hint
    split
    · rename_i hwidth
      have hfirst : firstIntensity profile = arrayItem intensities 0 0 := by
        have hread := intensityAt_eq_some_iff.2 ⟨intensities, hint, hwidth, rfl⟩
        rw [firstIntensity, hread, Option.getD_some]
      constructor
      · simp [hint, hwidth]
      · intro _
        rw [hnone, insert_empty_eq, hfirst]
        exact isLeast_singleton
      · intro _
        rw [hnone, insert_empty_eq, hfirst]
        exact isGreatest_singleton
    · rename_i hwidth
      constructor
      · simp [hwidth]
      · simp
      · simp
  · rename_i hint
    constructor
    · simp [hint]
    · simp
    · simp

theorem SeenIntensities.countRange (h : SeenIntensities profile n frame) (range : Option Int)
    (points : List (ProfilePoint R)) :
    SeenIntensities profile n { countRange frame range with points := points } := by
  unfold Acquisition.countRange
  split
  · split
    · exact ⟨h.hasStats, h.least, h.greatest⟩
    · exact ⟨h.hasStats, h.least, h.greatest⟩
  · exact ⟨h.hasStats, h.least, h.greatest⟩

/-- What a round reads extends the statistics. -/
theorem SeenIntensities.countIntensity (h : SeenIntensities profile n frame) :
    SeenIntensities profile (n + 1) (countIntensity frame (intensityAt profile n)) := by
  cases hn : intensityAt profile n with
  | none =>
    have hread := Loop.readBelow_succ_none hn
    constructor
    · exact h.hasStats
    · rw [hread]
      exact h.least
    · rw [hread]
      exact h.greatest
  | some intensity =>
    have hread := Loop.readBelow_succ_some hn
    cases hstats : frame.hasIntensityStats with
    | true =>
      simp only [Acquisition.countIntensity, hstats, if_true]
      constructor
      · exact iff_of_true rfl (h.hasStats.1 hstats)
      · intro _
        rw [hread, Set.insert_comm, min_comm]
        exact (h.least hstats).insert intensity
      · intro _
        rw [hread, Set.insert_comm, max_comm]
        exact (h.greatest hstats).insert intensity
    | false =>
      have hsame : Acquisition.countIntensity frame (some intensity) = frame := by
        simp [Acquisition.countIntensity, hstats]
      rw [hsame]
      constructor
      · exact h.hasStats
      · intro hsome
        rw [hstats] at hsome
        cases hsome
      · intro hsome
        rw [hstats] at hsome
        cases hsome

variable [Zero R] [Add R] [Mul R] [IntCast R]

/-- The loop, by induction on the rounds. -/
theorem seenIntensities_profileFrame (reader : ItemReader R ι) (header : Header) (profile : ProfileData R ι) :
    SeenIntensities profile profile.width (profileFrame reader header profile) := by
  apply Loop.count_invariant (I := SeenIntensities profile)
  · exact seenIntensities_start header profile
  · intro n frame _ h
    rw [profileStep_eq]
    exact (h.countRange _ _).countIntensity

/-! ## The points -/

/-- A point has the intensity that its round read, or 0. -/
theorem intensity_profileFrame (reader : ItemReader R ι) (header : Header) (profile : ProfileData R ι) {i : Nat}
    (hi : i < profile.width) :
    ((profileFrame reader header profile).points[i]?.map fun point => point.intensity) =
      some ((intensityAt profile i).getD 0) := by
  rw [points_profileFrame, List.getElem?_map, List.getElem?_range hi]
  rfl

/-- The points that have an intensity are those whose rounds read one. -/
theorem intensitiesBelow_profileFrame (reader : ItemReader R ι) (header : Header) {profile : ProfileData R ι}
    (hint : profile.intensities ≠ none) :
    intensitiesBelow (profileFrame reader header profile) (intensityCount profile) =
      Loop.readBelow (intensityAt profile) profile.width := by
  obtain ⟨intensities, hsome⟩ := Option.ne_none_iff_exists'.1 hint
  ext intensity
  constructor
  · rintro ⟨i, hi, hpoint⟩
    have hcount := lt_min_iff.1 hi
    have hread := intensityAt_eq_some_iff.2 ⟨intensities, hsome, hcount.2, rfl⟩
    rw [intensity_profileFrame reader header profile hcount.1, hread, Option.getD_some] at hpoint
    exact ⟨i, hcount.1, hread.trans hpoint⟩
  · rintro ⟨i, hi, hread⟩
    obtain ⟨-, -, hwidth, -⟩ := intensityAt_eq_some_iff.1 hread
    refine ⟨i, lt_min hi hwidth, ?_⟩
    rw [intensity_profileFrame reader header profile hi, hread, Option.getD_some]

theorem intensity_of_le (reader : ItemReader R ι) (header : Header) (profile : ProfileData R ι) (i : Nat)
    (point : ProfilePoint R) (hi : intensityCount profile ≤ i)
    (hpoint : (profileFrame reader header profile).points[i]? = some point) : point.intensity = 0 := by
  have hwidth : i < profile.width := by
    have hlength := (List.getElem?_eq_some_iff.1 hpoint).1
    rw [points_profileFrame, List.length_map, List.length_range] at hlength
    exact hlength
  have hnone : intensityAt profile i = none := by
    have hcount : profile.intensityWidth ≤ i := by
      unfold intensityCount at hi
      omega
    exact intensityAt_eq_none_iff.2 (.inr hcount)
  have hvalue := intensity_profileFrame reader header profile hwidth
  rw [hpoint, hnone] at hvalue
  exact Option.some.inj hvalue

/-! ## The statistics -/

/-- The statistics are those of the points, unless there is no point to start them from. -/
theorem intensityStats_profileFrame_iff (reader : ItemReader R ι) (header : Header) (profile : ProfileData R ι) :
    IntensityStats profile (profileFrame reader header profile) ↔
      ¬ (profile.width = 0 ∧ 0 < profile.intensityWidth ∧ profile.intensities ≠ none) := by
  have hseen := seenIntensities_profileFrame reader header profile
  constructor
  · rintro h ⟨hzero, hwidth, hint⟩
    have hcount := (h.hasStats.1 (hseen.hasStats.2 ⟨hint, hwidth⟩)).2
    unfold intensityCount at hcount
    omega
  · intro hpoints
    have hiff : profile.intensities ≠ none ∧ 0 < profile.intensityWidth ↔
        profile.intensities ≠ none ∧ 0 < intensityCount profile := by
      constructor
      · rintro ⟨hint, hwidth⟩
        have hne : profile.width ≠ 0 := fun hzero => hpoints ⟨hzero, hwidth, hint⟩
        exact ⟨hint, lt_min (Nat.pos_of_ne_zero hne) hwidth⟩
      · rintro ⟨hint, hcount⟩
        exact ⟨hint, (lt_min_iff.1 hcount).2⟩
    constructor
    case hasStats => exact hseen.hasStats.trans hiff
    case least =>
      intro hstats
      obtain ⟨hint, hcount⟩ := hiff.1 (hseen.hasStats.1 hstats)
      rw [intensitiesBelow_profileFrame reader header hint, ← insert_firstIntensity hint hcount]
      exact hseen.least hstats
    case greatest =>
      intro hstats
      obtain ⟨hint, hcount⟩ := hiff.1 (hseen.hasStats.1 hstats)
      rw [intensitiesBelow_profileFrame reader header hint, ← insert_firstIntensity hint hcount]
      exact hseen.greatest hstats
    case others => exact intensity_of_le reader header profile

end

/-- Both decoders keep the statistics of the points, except for a profile without points that has intensities. -/
theorem profile_intensityStats_iff {R : Type} [Zero R] [Add R] [Mul R] [NatCast R] [IntCast R] :
    (∀ (header : Header) (profile : ProfileData R Int),
      IntensityStats profile (uniformProfileFrame header profile) ↔
        ¬ (profile.width = 0 ∧ 0 < profile.intensityWidth ∧ profile.intensities ≠ none)) ∧
    (∀ (header : Header) (profile : ProfileData R (Int × Int)),
      IntensityStats profile (pointCloudProfileFrame header profile) ↔
        ¬ (profile.width = 0 ∧ 0 < profile.intensityWidth ∧ profile.intensities ≠ none)) :=
  ⟨intensityStats_profileFrame_iff uniformReader, intensityStats_profileFrame_iff pointCloudReader⟩

/-- A profile without points, and one intensity: the statistics are there, and describe it. -/
theorem profile_intensity_without_points :
    (uniformProfileFrame (R := Int) ⟨"scanner", 1, 0, true⟩ ⟨0, 1, 1, 1, 0, 0, some [], some [5]⟩).hasIntensityStats =
      true ∧
    ¬ IntensityStats (R := Int) (ι := Int) ⟨0, 1, 1, 1, 0, 0, some [], some [5]⟩
      (uniformProfileFrame ⟨"scanner", 1, 0, true⟩ ⟨0, 1, 1, 1, 0, 0, some [], some [5]⟩) := by
  refine ⟨rfl, fun h => ?_⟩
  have hcount := (h.hasStats.1 rfl).2
  cases hcount

end Gocator.Acquisition

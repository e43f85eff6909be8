/-
The last writer of a scan parameter: after a run none of whose steps loses an edit, the argument of the next
grab is the value of the latest setter call or dispatched edit of the parameter.
-/
import Gocator.Features.Session
import Gocator.Features.Grab

namespace Gocator.Features

/-! ## The entries that an accessor meets first -/

/-- The entries that the accessor meets before the one at a position. -/
def Parameter.before (p : Parameter) (i : Nat) (features : List Feature) : List Feature :=
  if p = .scanMode then (features.drop (i + 1)).reverse else features.take i

theorem ordered_set {p : Parameter} {i : Nat} {features : List Feature} {f : Feature} (hf : features[i]? = some f) :
    ∃ rest, ∀ f', p.ordered (features.set i f') = p.before i features ++ f' :: rest := by
  have hi : i < features.length := (List.getElem?_eq_some_iff.1 hf).1
  have hset : ∀ f', features.set i f' = features.take i ++ f' :: features.drop (i + 1) :=
    fun f' => List.set_eq_take_append_cons_drop.trans (if_pos hi)
  unfold Parameter.ordered Parameter.before
  split
  · refine ⟨(features.take i).reverse, ?_⟩
    intro f'
    rw [hset, List.reverse_append, List.reverse_cons, List.append_assoc]
    rfl
  · exact ⟨features.drop (i + 1), hset⟩

/-- Overwriting an entry that the accessor does not read by another one changes nothing. -/
theorem argument_set_of_unread {w : FeatureWidget} {p : Parameter} {i : Nat} {f f' : Feature}
    (hf : w.features[i]? = some f) (hunread : p.shown f = none) (hunread' : p.shown f' = none) :
    argument { w with features := w.features.set i f' } p = argument w p := by
  obtain ⟨rest, hordered⟩ := ordered_set (p := p) hf
  have hself : w.features.set i f = w.features := by
    obtain ⟨hi, rfl⟩ := List.getElem?_eq_some_iff.1 hf
    exact List.set_getElem_self hi
  have hsearch : (p.ordered (w.features.set i f')).findSome? p.shown = (p.ordered w.features).findSome? p.shown := by
    conv_rhs => rw [← hself]
    rw [hordered, hordered, List.findSome?_append, List.findSome?_append, List.findSome?_cons, List.findSome?_cons,
      hunread, hunread']
  unfold argument
  dsimp only
  rw [hsearch]

/-- Of an entry that the accessor reads and those that it meets before, the first that shows something counts. -/
theorem argument_set_of_read {w : FeatureWidget} {p : Parameter} {i : Nat} {f f' : Feature} {x : Json}
    (hf : w.features[i]? = some f) (hpending : SortedMap.get? p.path w.pendingParams = none)
    (hread : p.shown f' = some x) :
    argument { w with features := w.features.set i f' } p = ((p.before i w.features).findSome? p.shown).getD x := by
  obtain ⟨rest, hordered⟩ := ordered_set (p := p) hf
  unfold argument
  dsimp only
  rw [hpending, hordered, List.findSome?_append, List.findSome?_cons, hread]
  cases (p.before i w.features).findSome? p.shown <;> rfl

theorem argument_of_pending {w : FeatureWidget} {p : Parameter} {u : Json}
    (hpending : SortedMap.get? p.path w.pendingParams = some u) : argument w p = p.fromPending u := by
  unfold argument
  rw [hpending]

/-! ## Edits -/

theorem isSome_read_edited {e e' : Editor} {change : Edit} (h : e.edited change = some e') (p : Parameter) :
    (p.read e').isSome = (p.read e).isSome := by
  cases Editor.changes_of_edited h <;> cases p <;> rfl

/-- An edit leaves the path and the kind of editor; what it dispatches is the new value. -/
theorem Feature.edited_spec {f f' : Feature} {change : Edit} {v : Json} (h : f.edited change = some (f', v)) :
    (∀ p : Parameter, (p.shown f').isSome = (p.shown f).isSome) ∧ onParameterChanged f'.editor = some v := by
  unfold Feature.edited at h
  cases he : f.editor.edited change with
  | none =>
    rw [he] at h
    cases h
  | some editor =>
    rw [he] at h
    obtain ⟨v', hv, heq⟩ := Option.map_eq_some_iff.1 h
    cases heq
    refine ⟨?_, hv⟩
    intro p
    unfold Parameter.shown
    dsimp only
    split
    · exact isSome_read_edited he p
    · rfl

theorem Feature.parameter_eq_some_iff {f : Feature} {p : Parameter} :
    f.parameter = some p ↔ (p.shown f).isSome = true := by
  constructor
  · exact fun h => List.find?_some (p := fun q : Parameter => (q.shown f).isSome) h
  · intro h
    cases hfound : f.parameter with
    | none => exact absurd h (List.find?_eq_none.1 hfound p (by cases p <;> decide))
    | some q =>
      -- the path of the entry tells the two parameters apart
      have hq : (q.shown f).isSome := List.find?_some (p := fun q : Parameter => (q.shown f).isSome) hfound
      obtain ⟨x, hx⟩ := Option.isSome_iff_exists.1 h
      obtain ⟨y, hy⟩ := Option.isSome_iff_exists.1 hq
      have hpath := (Parameter.shown_eq_some_iff.1 hx).1
      have hpath' := (Parameter.shown_eq_some_iff.1 hy).1
      rw [Parameter.path_injective (hpath'.symm.trans hpath)]

theorem Parameter.shown_scanMode_mem {f : Feature} {x : Json} (h : Parameter.scanMode.shown f = some x) :
    x = .num 2 ∨ x = .num 3 := by
  obtain ⟨-, hread⟩ := Parameter.shown_eq_some_iff.1 h
  cases he : f.editor with
  | comboBox items currentIndex =>
    rw [he] at hread
    cases hread
    exact Parameter.modeNumber_eq _
  | _ =>
    rw [he] at hread
    cases hread

/-- What the accessor reads is what was dispatched, for a mode unless it is neither 2 nor 3. -/
theorem read_of_dispatched {p : Parameter} {e : Editor} {x v : Json} (hread : p.read e = some x)
    (hv : onParameterChanged e = some v) (hmode : p = .scanMode → v = .num 2 ∨ v = .num 3) : x = v := by
  cases e with
  | checkBox checked => cases p <;> cases hread <;> exact Option.some.inj hv
  | spinBox minimum maximum value =>
    cases p <;> cases hread
    exact Option.some.inj hv
  | doubleSpinBox decimals minimum maximum singleStep value =>
    cases p <;> cases hread
    exact Option.some.inj hv
  | comboBox items currentIndex =>
    cases p <;> cases hread
    unfold onParameterChanged at hv
    dsimp only at hv
    cases hdata : currentIndex.bind fun i => items[i]? with
    | none =>
      rw [hdata] at hv
      cases hv
    | some data =>
      rw [hdata, Option.getD_some] at hv
      split at hv
      · cases hv
      · cases hv
        rcases hmode rfl with rfl | rfl
        · exact Parameter.modeNumber_two
        · exact Parameter.modeNumber_three

/-! ## Steps that lose nothing -/

/-- The value is one that an edit gave to a parameter that was never set. -/
def Session.ByEdit (s : Session) (p : Parameter) (v : Json) : Prop :=
  s.last p = some v ∧ SortedMap.get? p.path s.widget.pendingParams = none

/-- The accessor will read an edited value: it is the pending one; or nothing is pending, it is a mode if it is
to be one, and the entries that the accessor meets first show nothing else. -/
def Session.Takes (s : Session) (i : Nat) (p : Parameter) (v : Json) : Prop :=
  match SortedMap.get? p.path s.widget.pendingParams with
  | some u => p.fromPending u = v
  | none => (p = .scanMode → v = .num 2 ∨ v = .num 3) ∧
    ∀ x, (p.before i s.widget.features).findSome? p.shown = some x → x = v

/-- The step loses no edit: the resources read by a rebuild show the edited values, a clear leaves only edits
to the accessors' own values, and an edit is one that the accessor takes. -/
def Lossless (outside : Rat → Int32) (s : Session) : Action → Prop
  | .set setting opened => ∀ device p v, opened = some device → p ≠ setting.parameter → s.ByEdit p v →
    device.resources.Shows outside p v
  | .populateFeatures opened => ∀ device p v, opened = some device → s.ByEdit p v → device.resources.Shows outside p v
  | .clearFeatures => ∀ p v, s.ByEdit p v → p.fallback = v
  | .edit i change => ∀ f f' v p, s.widget.features[i]? = some f → f.edited change = some (f', v) →
    f'.parameter = some p → s.Takes i p v

/-- Every parameter is read as it was last written. -/
def Session.Current (s : Session) : Prop := ∀ p v, s.last p = some v → argument s.widget p = v

theorem last_cons_self {w : FeatureWidget} {written : List (Parameter × Json)} (p : Parameter) (v : Json) :
    Session.last ⟨w, (p, v) :: written⟩ p = some v := by
  simp [Session.last]

theorem last_cons_of_ne (w w' : FeatureWidget) {written : List (Parameter × Json)} {p q : Parameter} (h : q ≠ p)
    (v : Json) : Session.last ⟨w, (p, v) :: written⟩ q = Session.last ⟨w', written⟩ q := by
  have hbeq : (q == p) = false := beq_false_of_ne h
  simp [Session.last, List.lookup_cons, hbeq]

theorem last_edited_self (s : Session) (i : Nat) {f : Feature} {p : Parameter} (h : f.parameter = some p) (v : Json) :
    (s.edited i f v).last p = some v := by
  unfold Session.edited
  rw [h]
  exact last_cons_self p v

theorem last_edited_of_ne (s : Session) (i : Nat) {f : Feature} {p : Parameter} (h : f.parameter ≠ some p) (v : Json) :
    (s.edited i f v).last p = s.last p := by
  unfold Session.edited
  cases hf : f.parameter with
  | none => rfl
  | some q =>
    rw [hf] at h
    exact last_cons_of_ne _ s.widget (fun heq => h (congrArg some heq.symm)) v

section

variable {outside : Rat → Int32}

theorem argument_populate {w : FeatureWidget} {opened : Option Device} {p : Parameter} {v : Json}
    (h : argument w p = v) (hshows : ∀ device, opened = some device →
      SortedMap.get? p.path w.pendingParams = none → device.resources.Shows outside p v) :
    argument (w.populate outside opened) p = v := by
  cases opened with
  | none => exact h
  | some device =>
    cases hpending : SortedMap.get? p.path w.pendingParams with
    | none => exact (argument_populate_iff hpending).2 (hshows device rfl hpending) _ (device.order.perm _)
    | some u =>
      rw [argument_of_pending hpending] at h
      rw [argument_of_pending (show SortedMap.get? p.path (w.populate outside (some device)).pendingParams = some u
        from hpending)]
      exact h

theorem current_set {s : Session} {setting : Setting} {opened : Option Device} (hs : s.Current)
    (hok : Lossless outside s (.set setting opened)) {s' : Session} {evs : List Unit}
    (hstep : step outside s (.set setting opened) = some (s', evs)) : s'.Current := by
  cases hstep
  intro p v hlast
  by_cases hp : p = setting.parameter
  · subst hp
    rw [last_cons_self, Option.some.injEq] at hlast
    have hset : SortedMap.get? setting.parameter.path
        (SortedMap.set setting.parameter.path setting.value s.widget.pendingParams) = some setting.value :=
      SortedMap.get?_set_self ..
    apply argument_populate
    · rw [argument_of_pending hset, setting.fromPending_value, hlast]
    · intro device _ hnone
      cases hset.symm.trans hnone
  · rw [last_cons_of_ne _ s.widget hp] at hlast
    have hpath : p.path ≠ setting.parameter.path := fun h => hp (Parameter.path_injective h)
    have hget : SortedMap.get? p.path
        (SortedMap.set setting.parameter.path setting.value s.widget.pendingParams) =
        SortedMap.get? p.path s.widget.pendingParams := SortedMap.get?_set_of_ne hpath ..
    apply argument_populate
    · have hv := hs p v hlast
      unfold argument at hv ⊢
      rw [hget]
      exact hv
    · intro device hopened hnone
      exact hok device p v hopened hp ⟨hlast, hget ▸ hnone⟩

theorem argument_clear {pending : List (String × Json)} {p : Parameter}
    (hpending : SortedMap.get? p.path pending = none) : argument ⟨pending, []⟩ p = p.fallback := by
  unfold argument Parameter.ordered
  rw [hpending, List.reverse_nil, ite_self]
  rfl

theorem current_clear {s : Session} (hs : s.Current) (hok : Lossless outside s .clearFeatures) {s' : Session}
    {evs : List Unit} (hstep : step outside s .clearFeatures = some (s', evs)) : s'.Current := by
  cases hstep
  intro p v hlast
  show argument ⟨s.widget.pendingParams, []⟩ p = v
  cases hpending : SortedMap.get? p.path s.widget.pendingParams with
  | some u =>
    have hv := hs p v hlast
    rw [argument_of_pending hpending] at hv
    exact (argument_of_pending (w := ⟨s.widget.pendingParams, []⟩) hpending).trans hv
  | none => exact (argument_clear hpending).trans (hok p v ⟨hlast, hpending⟩)

/-- An edit of another parameter, or of none, leaves what is read. -/
theorem current_edit_unread {s : Session} {i : Nat} {f f' : Feature} {p : Parameter} {v v' : Json} (hs : s.Current)
    (hf : s.widget.features[i]? = some f) (hkind : (p.shown f').isSome = (p.shown f).isSome)
    (hread : p.shown f' = none) (hlast : (s.edited i f' v').last p = some v) :
    argument (s.edited i f' v').widget p = v := by
  rw [hread] at hkind
  have hunread : p.shown f = none := Option.not_isSome_iff_eq_none.1 (by rw [← hkind]; decide)
  have hother : f'.parameter ≠ some p := by
    intro heq
    rw [Feature.parameter_eq_some_iff, hread] at heq
    cases heq
  rw [last_edited_of_ne s i hother] at hlast
  calc argument (s.edited i f' v').widget p = argument s.widget p := argument_set_of_unread hf hunread hread
    _ = v := hs p v hlast

/-- What is read after an edit is the value that was dispatched exactly if the accessor takes it. -/
theorem argument_edited_iff {s : Session} {i : Nat} {f f' : Feature} {p : Parameter} {x v : Json}
    (hf : s.widget.features[i]? = some f) (hread : p.shown f' = some x)
    (hdispatched : onParameterChanged f'.editor = some v) :
    argument (s.edited i f' v).widget p = v ↔ s.Takes i p v := by
  unfold Session.Takes
  cases hpending : SortedMap.get? p.path s.widget.pendingParams with
  | some u =>
    -- the pending value hides the editor
    rw [argument_of_pending (w := (s.edited i f' v).widget) hpending]
  | none =>
    have hargument : argument (s.edited i f' v).widget p =
        ((p.before i s.widget.features).findSome? p.shown).getD x := argument_set_of_read hf hpending hread
    rw [hargument]
    constructor
    · intro h
      constructor
      · rintro rfl
        rw [← h]
        cases hbefore : (Parameter.scanMode.before i s.widget.features).findSome? Parameter.scanMode.shown with
        | none => exact Parameter.shown_scanMode_mem hread
        | some y =>
          obtain ⟨g, -, hg⟩ := List.exists_of_findSome?_eq_some hbefore
          exact Parameter.shown_scanMode_mem hg
      · intro y hy
        rw [hy] at h
        exact h
    · rintro ⟨hmode, hbefore⟩
      cases hfirst : (p.before i s.widget.features).findSome? p.shown with
      | none => exact read_of_dispatched (Parameter.shown_eq_some_iff.1 hread).2 hdispatched hmode
      | some y => exact hbefore y hfirst

theorem current_edit {s : Session} {i : Nat} {change : Edit} (hs : s.Current)
    (hok : Lossless outside s (.edit i change)) {s' : Session} {evs : List Unit}
    (hstep : step outside s (.edit i change) = some (s', evs)) : s'.Current := by
  dsimp only [step] at hstep
  cases hedit : s.widget.features[i]?.bind fun f => f.edited change with
  | none =>
    rw [hedit] at hstep
    cases hstep
  | some r =>
    obtain ⟨f', v'⟩ := r
    rw [hedit] at hstep
    cases hstep
    obtain ⟨f, hf, hedited⟩ := Option.bind_eq_some_iff.1 hedit
    obtain ⟨hkind, hdispatched⟩ := Feature.edited_spec hedited
    intro p v hlast
    cases hread : p.shown f' with
    | none => exact current_edit_unread hs hf (hkind p) hread hlast
    | some x =>
      have hparameter : f'.parameter = some p := Feature.parameter_eq_some_iff.2 (by rw [hread]; rfl)
      rw [last_edited_self s i hparameter, Option.some.injEq] at hlast
      subst hlast
      exact (argument_edited_iff hf hread hdispatched).2 (hok f f' v' p hf hedited hparameter)

/-- A step that loses nothing leaves every parameter read as it was last written. -/
theorem current_step {s s' : Session} {a : Action} {evs : List Unit} (hs : s.Current) (hok : Lossless outside s a)
    (hstep : step outside s a = some (s', evs)) : s'.Current := by
  cases a with
  | set setting opened => exact current_set hs hok hstep
  | populateFeatures opened =>
    cases hstep
    intro p v hlast
    apply argument_populate (hs p v hlast)
    intro device hopened hnone
    exact hok device p v hopened ⟨hlast, hnone⟩
  | clearFeatures => exact current_clear hs hok hstep
  | edit i change => exact current_edit hs hok hstep

/-! ## Steps that lose an edit -/

/-- The editors that a rebuild makes may get addresses in every order. -/
theorem exists_order {features l : List Feature} (h : features.Perm l) :
    ∃ order : AddressOrder, order.arrange l = features := by
  classical
  refine ⟨⟨fun l' => if l' = l then features else l', ?_⟩, if_pos rfl⟩
  intro l'
  split
  · next heq => exact heq ▸ h
  · exact List.Perm.refl l'

/-- The action, with the editors of its rebuild at other addresses. -/
def Action.reordered (order : AddressOrder) : Action → Action
  | .set setting opened => .set setting (opened.map fun device => ⟨device.resources, order⟩)
  | .populateFeatures opened => .populateFeatures (opened.map fun device => ⟨device.resources, order⟩)
  | a => a

theorem argument_populate_ne {w : FeatureWidget} {r : Resources} {p : Parameter} {v : Json}
    (hpending : SortedMap.get? p.path w.pendingParams = none) (h : ¬ r.Shows outside p v) :
    ∃ order, argument (w.populate outside (some ⟨r, order⟩)) p ≠ v := by
  rw [← argument_populate_iff hpending] at h
  push Not at h
  obtain ⟨features, hperm, hne⟩ := h
  obtain ⟨order, horder⟩ := exists_order hperm
  refine ⟨order, ?_⟩
  show argument ⟨w.pendingParams, order.arrange _⟩ p ≠ v
  rw [horder]
  exact hne

/-- A step that is not lossless loses an edit, at some addresses of the editors it makes. -/
theorem lossy_step {s : Session} {a : Action} (h : ¬ Lossless outside s a) :
    ∃ order, ∀ s' evs, step outside s (a.reordered order) = some (s', evs) → ¬ s'.Current := by
  cases a with
  | set setting opened =>
    unfold Lossless at h
    push Not at h
    obtain ⟨device, p, v, rfl, hp, ⟨hlast, hpending⟩, hshows⟩ := h
    have hpath : p.path ≠ setting.parameter.path := fun heq => hp (Parameter.path_injective heq)
    obtain ⟨order, horder⟩ := argument_populate_ne (w := ⟨SortedMap.set setting.parameter.path setting.value
      s.widget.pendingParams, s.widget.features⟩) ((SortedMap.get?_set_of_ne hpath ..).trans hpending) hshows
    refine ⟨order, ?_⟩
    rintro s' evs ⟨⟩ hcurrent
    exact horder (hcurrent p v ((last_cons_of_ne _ s.widget hp _).trans hlast))
  | populateFeatures opened =>
    unfold Lossless at h
    push Not at h
    obtain ⟨device, p, v, rfl, ⟨hlast, hpending⟩, hshows⟩ := h
    obtain ⟨order, horder⟩ := argument_populate_ne hpending hshows
    refine ⟨order, ?_⟩
    rintro s' evs ⟨⟩ hcurrent
    exact horder (hcurrent p v hlast)
  | clearFeatures =>
    unfold Lossless at h
    push Not at h
    obtain ⟨p, v, ⟨hlast, hpending⟩, hne⟩ := h
    refine ⟨⟨id, fun _ => List.Perm.refl _⟩, ?_⟩
    rintro s' evs ⟨⟩ hcurrent
    exact hne ((argument_clear hpending).symm.trans (hcurrent p v hlast))
  | edit i change =>
    unfold Lossless at h
    push Not at h
    obtain ⟨f, f', v, p, hf, hedited, hparameter, htakes⟩ := h
    refine ⟨⟨id, fun _ => List.Perm.refl _⟩, ?_⟩
    intro s' evs hstep hcurrent
    obtain ⟨x, hx⟩ := Option.isSome_iff_exists.1 (Feature.parameter_eq_some_iff.1 hparameter)
    have hs' : s' = s.edited i f' v := by
      simp only [Action.reordered, step, hf, Option.bind_some, hedited, Option.some.injEq, Prod.mk.injEq] at hstep
      exact hstep.1.symm
    subst hs'
    exact htakes ((argument_edited_iff hf hx (Feature.edited_spec hedited).2).1
      (hcurrent p v (last_edited_self s i hparameter v)))

/-! ## An edit of the intensity -/

/-- The check box of the intensity. -/
def intensityBox (checked : Bool) : Feature := ⟨.checkBox checked, .scanner, Parameter.intensityEnabled.path⟩

def lineScannerDevice : Device := ⟨lineScanner "integer", ⟨id, fun _ => List.Perm.refl _⟩⟩

theorem intensityBox_first {pending : List (String × Json)}
    (h : SortedMap.get? Parameter.intensityEnabled.path pending = none ∨
      SortedMap.get? Parameter.intensityEnabled.path pending = some (.bool true)) :
    (populateFeatures outside pending (lineScanner "integer"))[0]? = some (intensityBox true) := by
  have hfeature : (lineScannerLeaf "integer" .intensityEnabled).feature outside pending = some (intensityBox true) := by
    unfold Leaf.feature lineScannerLeaf
    dsimp only
    rcases h with h | h <;> rw [h] <;> rfl
  unfold populateFeatures
  rw [leaves_lineScanner (by decide), List.map_cons, List.filterMap_cons, hfeature]
  rfl

theorem step_untick {s : Session} (h : s.widget.features[0]? = some (intensityBox true)) :
    step outside s (.edit 0 (.setChecked false)) = some (s.edited 0 (intensityBox false) (.bool false), []) := by
  dsimp only [step]
  rw [h]
  rfl

theorem parameter_intensityBox (checked : Bool) : (intensityBox checked).parameter = some .intensityEnabled :=
  Feature.parameter_eq_some_iff.2 rfl

def populatedSession : Session := ⟨Session.start.widget.populate (fun _ => 0) (some lineScannerDevice), []⟩

def setSession : Session :=
  ⟨FeatureWidget.populate (fun _ => 0) ⟨SortedMap.set Parameter.intensityEnabled.path (.bool true) [], []⟩
    (some lineScannerDevice), [(.intensityEnabled, .bool true)]⟩

theorem untick_run : Transition.Run (step fun _ => 0) (Lossless fun _ => 0) Session.start []
    (populatedSession.edited 0 (intensityBox false) (.bool false)) := by
  have hfirst : populatedSession.widget.features[0]? = some (intensityBox true) := intensityBox_first (.inl rfl)
  have hpopulate : Lossless (fun _ => 0) Session.start (.populateFeatures (some lineScannerDevice)) := by
    rintro device p v - ⟨hlast, -⟩
    cases hlast
  have hedit : Lossless (fun _ => 0) populatedSession (.edit 0 (.setChecked false)) := by
    intro f f' v p hf hedited hparameter
    cases hfirst.symm.trans hf
    cases hedited
    cases (parameter_intensityBox false).symm.trans hparameter
    refine ⟨by rintro ⟨⟩, ?_⟩
    rintro x ⟨⟩
  exact .snoc (.snoc .start hpopulate rfl) hedit (step_untick hfirst)

end

end Gocator.Features

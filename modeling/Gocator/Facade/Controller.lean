/-
`GocatorSourceController` over the facade, called from one thread. Its flag is written by `start` and
`stop` and by its status callback, which is told of every grab. The flag agrees with the facade's
between calls exactly when no `start` finds a facade that is neither grabbing nor able to grab:
`start` sets the flag first, and a `grab` that ends before it has set its own flag tells nobody.
-/
import Gocator.Facade.Notify

namespace Gocator.Facade

/-! ## The controller -/

/-- The facade, with the controller that has registered its status callback there. -/
structure Controlled where
  world : World
  /-- `_isGrabbing` of the controller. -/
  isGrabbing : Bool

abbrev ControllerRun := EStateM Thrown Controlled

/-- The status callback of the controller: the flag after it. -/
def statusCallback (flag : Bool) (e : Status × Bool) : Bool := if e.1 = .grabbing then e.2 else flag

/-- The flag after the notifications sent between two worlds. -/
def heard (w w' : World) (flag : Bool) : Bool := (w'.told.drop w.told.length).foldl statusCallback flag

/-- A call into the facade: the callback runs for every notification sent in it. -/
def onFacade {α : Type} (x : Run α) : ControllerRun α := fun c =>
  match x c.world with
  | .ok a w => .ok a ⟨w, heard c.world w c.isGrabbing⟩
  | .error e w => .error e ⟨w, heard c.world w c.isGrabbing⟩

/-- The calls into the controller, and those that go past it. -/
inductive ControllerCall where
  | start
  | stop
  /-- A call of the application to the facade itself, a data set, or the run of the stop worker. -/
  | facade (c : Call)
  deriving DecidableEq, Repr

def ControllerCall.run (throws : Throws) : ControllerCall → ControllerRun Unit
  | .start => do
    modify fun c => { c with isGrabbing := true }
    onFacade (Facade.grab throws 0)
  | .stop => do
    onFacade Facade.stop
    modify fun c => { c with isGrabbing := false }
  | .facade c => onFacade (c.run throws)

/-- The state after a call, whether it returns or throws. -/
def Controlled.call (c : Controlled) (call : ControllerCall × Throws) : Controlled :=
  match call.1.run call.2 c with
  | .ok _ c' => c'
  | .error _ c' => c'

/-- Controller and facade after a sequence of calls, each with the SDK calls that throw in it. -/
def controlledAfter (observers callbacks : Registry) (calls : List (ControllerCall × Throws)) : Controlled :=
  calls.foldl Controlled.call ⟨.fresh observers callbacks, false⟩

/-- The two flags agree. -/
def Mirrors (c : Controlled) : Prop := c.isGrabbing = c.world.impl.isGrabbing

/-- A `start` whose `grab` ends before it sets its flag, with no grab in progress to stop. -/
def Misled (w : World) : ControllerCall × Throws → Prop
  | (.start, throws) => w.impl.isGrabbing = false ∧
      (w.impl.isOpened = false ∨ (grabSites.find? throws).any (!·.afterFlag) = true)
  | _ => False

/-! ## What the callback hears -/

theorem heard_of_told {w w' : World} (h : w'.told = w.told) (flag : Bool) : heard w w' flag = flag := by
  unfold heard
  rw [h, List.drop_length]
  rfl

theorem heard_snoc {w w' : World} {e : Status × Bool} (h : w'.told = w.told ++ [e]) (flag : Bool) :
    heard w w' flag = statusCallback flag e := by
  unfold heard
  rw [h, List.drop_left]
  rfl

theorem heard_trans {w w₁ w₂ : World} (h : w.told <+: w₁.told) (h' : w₁.told <+: w₂.told) (flag : Bool) :
    heard w w₂ flag = heard w₁ w₂ (heard w w₁ flag) := by
  obtain ⟨l, hl⟩ := h
  obtain ⟨l', hl'⟩ := h'
  unfold heard
  rw [← hl', ← hl, List.drop_left, List.drop_left, List.append_assoc, List.drop_left, List.foldl_append]

/-- What is told between two worlds keeps a flag that agrees in agreement. -/
structure Follows (w w' : World) : Prop where
  told : w.told <+: w'.told
  heard : heard w w' w.impl.isGrabbing = w'.impl.isGrabbing

theorem Follows.trans {w w₁ w₂ : World} (h : Follows w w₁) (h' : Follows w₁ w₂) : Follows w w₂ := by
  refine ⟨h.told.trans h'.told, ?_⟩
  rw [heard_trans h.told h'.told, h.heard, h'.heard]

/-- Nothing is told, and the flag stays. -/
theorem Follows.of_told {w w' : World} (ht : w'.told = w.told) (hg : w'.impl.isGrabbing = w.impl.isGrabbing) :
    Follows w w' := by
  refine ⟨ht ▸ List.prefix_rfl, ?_⟩
  rw [heard_of_told ht, hg]

theorem follows_snoc {w w' : World} {e : Status × Bool} (ht : w'.told = w.told ++ [e])
    (hg : w'.impl.isGrabbing = statusCallback w.impl.isGrabbing e) : Follows w w' := by
  refine ⟨ht ▸ List.prefix_append .., ?_⟩
  rw [heard_snoc ht, hg]

theorem follows_stopped (w : World) : Follows w w.stopped := by
  unfold World.stopped
  split
  · exact follows_snoc rfl rfl
  · exact .of_told rfl rfl

theorem follows_ran (w : World) : Follows w w.ran := by
  unfold World.ran
  split
  · exact (follows_stopped w).trans (.of_told rfl rfl)
  · exact .of_told rfl rfl

theorem follows_joined (w : World) : Follows w w.joined := (follows_ran w).trans (.of_told rfl rfl)

theorem follows_closed (w : World) : Follows w w.closed := by
  refine ((follows_joined w).trans (follows_stopped _)).trans ?_
  unfold World.closed
  simp only
  split
  · exact follows_snoc rfl rfl
  · exact .of_told rfl rfl

theorem follows_open {throws : Throws} {address : String} {w w' : World} (h : OpenEffect throws address w w') :
    Follows w w' := by
  cases h with
  | skipped => exact .of_told rfl rfl
  | succeeded => exact follows_snoc rfl rfl
  | failed ho hs hh => exact (Follows.of_told hh.told hh.isGrabbing).trans (follows_closed _)

/-- A session that fails is stopped, which is told if its flag was set. -/
theorem heard_failed {w half : World} {site : Site} (hg : w.impl.isGrabbing = false) (hh : HalfGrabbing w half site)
    (flag : Bool) : heard w half.stopped flag = (flag && !site.afterFlag) := by
  rw [heard_trans (hh.told ▸ List.prefix_rfl) (told_stopped half), heard_of_told hh.told]
  have hflag : half.impl.isGrabbing = site.afterFlag := by rw [hh.isGrabbing, hg, Bool.false_or]
  unfold World.stopped
  rw [hflag]
  cases site.afterFlag with
  | true =>
    rw [Bool.not_true, Bool.and_false]
    exact heard_snoc (e := (.grabbing, false)) rfl flag
  | false =>
    rw [Bool.not_false, Bool.and_true]
    exact heard_of_told rfl flag

theorem follows_grab {throws : Throws} {frames : Nat} {w w' : World} (h : GrabEffect throws frames w w') :
    Follows w w' := by
  refine ⟨told_grab h, ?_⟩
  cases h with
  | skipped => exact heard_of_told rfl _
  | succeeded => exact heard_snoc (e := (.grabbing, true)) rfl _
  | failed ho hg hs hh =>
    rw [heard_failed hg hh, hg, stopped_isGrabbing]
    rfl

theorem follows_effect {c : Call} {throws : Throws} {w w' : World} (h : Effect throws w c w') : Follows w w' := by
  cases h with
  | opened h => exact follows_open h
  | grabbed h => exact (follows_joined w).trans (follows_grab h)
  | closed => exact follows_closed w
  | configured | valueSet | schemaRead | dataRead => exact .of_told rfl rfl
  | stopped => exact follows_stopped w
  | destroyed => exact (follows_closed w).trans ((follows_closed _).trans (follows_joined _))
  | delivered h => exact .of_told h.told h.isGrabbing
  | workerRan => exact follows_ran w

/-! ## One call -/

theorem onFacade_ok {α : Type} {x : Run α} {a : α} {c : Controlled} {w : World} (h : x c.world = .ok a w) :
    onFacade x c = .ok a ⟨w, heard c.world w c.isGrabbing⟩ := by
  unfold onFacade
  rw [h]

/-- With no grab in progress, joining the worker tells nothing. -/
theorem joined_told {w : World} (hg : w.impl.isGrabbing = false) : w.joined.told = w.told := by
  have hs : w.stopped = w := by
    unfold World.stopped
    rw [hg]
    rfl
  unfold World.joined World.ran
  split
  · rw [hs]
  · rfl

/-- The flag that `start` has set is wrong after a `grab` that ends before it sets its own. -/
theorem heard_start {throws : Throws} {w w' : World} (h : GrabEffect throws 0 w.joined w') :
    heard w w' true = w'.impl.isGrabbing ↔ ¬ Misled w (.start, throws) := by
  cases hg : w.impl.isGrabbing with
  | true =>
    have hf := ((follows_joined w).trans (follows_grab h)).heard
    rw [hg] at hf
    refine ⟨?_, fun _ => hf⟩
    rintro - ⟨hn, -⟩
    rw [hg] at hn
    cases hn
  | false =>
    have hj : w.joined.impl.isGrabbing = false := (joined_isGrabbing w).2 (.inl hg)
    have ho : w.joined.impl.isOpened = w.impl.isOpened := joined_isOpened w
    rw [heard_trans (told_joined w) (told_grab h), heard_of_told (joined_told hg)]
    simp only [Misled, hg, true_and, ← ho]
    cases h with
    | skipped hskip =>
      rw [heard_of_told rfl, hj]
      refine ⟨nofun, fun hn => absurd (.inl ?_) hn⟩
      exact hskip.resolve_right (by rw [hj]; nofun)
    | succeeded hopen _ hs =>
      rw [heard_snoc (e := (.grabbing, true)) rfl, hopen, hs]
      refine ⟨?_, fun _ => rfl⟩
      rintro - (h | h) <;> cases h
    | @failed site half hopen _ hs hh =>
      rw [heard_failed hj hh, stopped_isGrabbing, hopen, hs]
      cases hsite : site.afterFlag with
      | true =>
        refine ⟨?_, fun _ => rfl⟩
        rintro - (h | h)
        · cases h
        · simp only [Option.any_some, hsite] at h
          cases h
      | false =>
        refine ⟨nofun, fun hn => absurd (.inr ?_) hn⟩
        simp only [Option.any_some, hsite]
        rfl

/-- A call returns. When the flags agree before it, they agree after it exactly when it does not mislead the
controller. -/
theorem controllerCall_run {c : Controlled} (call : ControllerCall × Throws) (hw : Inv c.world) :
    Inv (c.call call).world ∧ (Mirrors c → (Mirrors (c.call call) ↔ ¬ Misled c.world call)) := by
  obtain ⟨call, throws⟩ := call
  obtain ⟨w, flag⟩ := c
  suffices h : ∃ c', call.run throws ⟨w, flag⟩ = .ok () c' ∧ Inv c'.world ∧
      (flag = w.impl.isGrabbing → (Mirrors c' ↔ ¬ Misled w (call, throws))) by
    obtain ⟨c', hrun, hI, hm⟩ := h
    unfold Controlled.call
    rw [hrun]
    exact ⟨hI, hm⟩
  cases call with
  | start =>
    obtain ⟨w', hrun, h⟩ := grab_run throws 0 hw
    exact ⟨⟨w', heard w w' true⟩, onFacade_ok (c := ⟨w, true⟩) hrun, inv_grab hw.joined h, fun _ => heard_start h⟩
  | stop =>
    have hrun : onFacade Facade.stop ⟨w, flag⟩ = .ok () ⟨w.stopped, heard w w.stopped flag⟩ := onFacade_ok (stop_run w)
    refine ⟨⟨w.stopped, false⟩, ?_, Inv.stopped hw, fun _ => ⟨fun _ => nofun, fun _ => (stopped_isGrabbing w).symm⟩⟩
    show EStateM.bind _ _ _ = _
    unfold EStateM.bind
    rw [hrun]
    rfl
  | facade fc =>
    obtain ⟨w', hrun, h⟩ := call_run fc throws hw
    refine ⟨⟨w', heard w w' flag⟩, onFacade_ok hrun, inv_effect hw h, fun hm => ⟨fun _ => nofun, fun _ => ?_⟩⟩
    show heard w w' flag = w'.impl.isGrabbing
    rw [hm]
    exact (follows_effect h).heard

/-! ## Sequences of calls -/

theorem controlledAfter_snoc (observers callbacks : Registry) (calls : List (ControllerCall × Throws))
    (call : ControllerCall × Throws) : controlledAfter observers callbacks (calls ++ [call]) =
      (controlledAfter observers callbacks calls).call call :=
  List.foldl_concat ..

theorem inv_controlledAfter (observers callbacks : Registry) (calls : List (ControllerCall × Throws)) :
    Inv (controlledAfter observers callbacks calls).world := by
  induction calls using List.reverseRecOn with
  | nil => exact inv_fresh observers callbacks
  | append_singleton calls call ih =>
    rw [controlledAfter_snoc]
    exact (controllerCall_run call ih).1

/-- The controller mirrors the facade after every call of a sequence exactly when no call misleads it. -/
theorem mirrors_iff (observers callbacks : Registry) (calls : List (ControllerCall × Throws)) :
    (∀ pre, pre <+: calls → Mirrors (controlledAfter observers callbacks pre)) ↔
      ∀ pre call post, calls = pre ++ call :: post → ¬ Misled (controlledAfter observers callbacks pre).world call := by
  have hstep := fun pre call => (controllerCall_run call (inv_controlledAfter observers callbacks pre)).2
  constructor
  · rintro h pre call post rfl
    have hpre : Mirrors (controlledAfter observers callbacks pre) := h pre (List.prefix_append ..)
    have hnext := h (pre ++ [call]) ⟨post, by simp⟩
    rw [controlledAfter_snoc] at hnext
    exact (hstep pre call hpre).1 hnext
  · intro h pre
    induction pre using List.reverseRecOn with
    | nil => exact fun _ => rfl
    | append_singleton pre call ih =>
      rintro ⟨post, rfl⟩
      rw [List.append_assoc] at h ih
      rw [controlledAfter_snoc]
      exact (hstep pre call (ih (List.prefix_append ..))).2 (h pre call post rfl)

/-- A `start` while the facade is not opened leaves the controller grabbing. -/
theorem not_mirrors : ¬ ∀ (observers callbacks : Registry) (calls : List (ControllerCall × Throws)),
    Mirrors (controlledAfter observers callbacks calls) :=
  fun h => absurd (h .empty .empty [(.start, fun _ => false)]) Bool.noConfusion

end Gocator.Facade

/-
The facade does not deadlock. A thread waits in three places: for `stopMutex`, for the worker it joins,
and for the data callback of a client it closes or destroys. In every state of every run the thread that
is waited for can itself move, so the machine comes to rest only when every call has returned, every
data set is handled and every stop worker is done.
-/
import Gocator.Threads.Status

namespace Gocator.Threads

open Gocator.Facade Transition

/-! ## Moves of the threads -/

/-- The moves of the facade's threads; `ok` is what the next SDK call does. A call, a data set and a
change of a registry come from outside. -/
def threadMoves (ok : Bool) : List Action := [.app ok, .stopWorker ok, .worker ok, .data]

/-- A thread is joined only while its `std::thread` is held. -/
def Joins (s : State) : Prop := ∀ k, s.app = .joinWait k → s.worker ≠ none

section

variable {ok : Bool} {s s' : State} {a : Action} {evs : List Event}

theorem Joins.of_app (h : ∀ k, s.app ≠ .joinWait k) : Joins s := fun k hk => absurd hk (h k)

theorem AppStep.joins (hJ : Joins s) (h : AppStep s s' evs) : Joins s' := by
  cases h with
  | fault => exact hJ
  | «open» _ _ ha hf | close _ _ ha hf =>
    refine .of_app fun k hk => ?_
    have hl := hf.app
    rw [hk] at hl
    cases hl
  | joinNone k ha | joined k ha =>
    refine .of_app fun k' hk' => ?_
    cases k <;> cases hk'
  | joinSome k pc ha hw =>
    intro k' _ hn
    cases hn
  | stopped k ha =>
    refine .of_app fun k' hk' => ?_
    cases k <;> cases hk'
  | grab n pc app evs ha hm =>
    refine .of_app fun k hk => ?_
    cases hm <;> cases hk
  | assign n ha => exact .of_app fun k hk => by cases hk
  | session n c pc m app evs ha hm =>
    refine .of_app fun k hk => ?_
    cases hm <;> cases hk

theorem joins_step (hJ : Joins s) (h : step s a = some (s', evs)) : Joins s' := by
  cases stepBy h with
  | fault hs => rw [hs]; exact hJ
  | app ok happ => exact happ.joins hJ
  | call c hi hs =>
    rw [hs]
    refine .of_app fun k hk => ?_
    cases c <;> cases hk
  | appStop ok k pc pc' m ha he hs =>
    rw [hs]
    exact .of_app fun k' hk' => by cases hk'
  | stopWorker ok pc pc' m hw he hs => rw [hs]; exact hJ
  | worker ok pc pc' m hw he hs =>
    rw [hs]
    intro k _ hn
    cases hn
  | data c pc hc hd hdata =>
    have hf := dataStep_frame hdata
    intro k hk
    rw [hf.worker]
    exact hJ k (hf.app ▸ hk)
  | dataSet c hc hd hs => rw [hs]; exact hJ
  | registries o g hs => rw [hs]; exact hJ

theorem joins_run {okay : State → Action → Prop} {observers callbacks : Registry} {tr : List Event} {s : State}
    (h : Run step okay (init observers callbacks) tr s) : Joins s :=
  h.invariant (I := fun _ s => Joins s) (.of_app fun _ hk => by cases hk) fun _ _ _ _ _ hI _ hstep =>
    joins_step hI hstep

/-! ## Each thread, when nobody holds it up -/

/-- The data thread never waits inside `handleData`. -/
theorem dataStep_isSome {c : GdpClient} {pc : DataPc} (h : pc ≠ .waiting) : (dataStep s c pc).isSome = true := by
  cases pc with
  | waiting => exact absurd rfl h
  | dispatch rest =>
    cases rest with
    | nil => rfl
    | cons cb rest =>
      simp only [dataStep]
      split <;> rfl
  | countFrame | spawnWorker =>
    simp only [dataStep]
    split <;> rfl
  | _ => rfl

/-- A thread in `stop` waits only for the lock and for the data callback. -/
theorem stopStep_isSome {m : Impl} {pc : StopPc} (hr : pc ≠ .returned) (hl : pc = .lock → m.stopMutex = false)
    (hb : m.gdpClient.any (·.busy) = false) : (stopStep ok m pc).isSome = true := by
  cases pc with
  | returned => exact absurd rfl hr
  | lock => simp [stopStep, hl rfl]
  | closeClient =>
    simp only [stopStep]
    cases hc : m.gdpClient with
    | none => rfl
    | some c =>
      rw [hc] at hb
      have hbusy : c.busy = false := hb
      cases ok <;> simp [hbusy]
  | resetClient => simp [stopStep, hb]
  | notify n =>
    simp only [stopStep]
    split <;> rfl
  | _ => rfl

theorem openStep_isSome {address : String} {pc : OpenPc} : (openStep ok s address pc).isSome = true := by
  cases pc with
  | loadOpened | makeConnection | notify =>
    simp only [openStep]
    split <;> rfl
  | connect =>
    simp only [openStep]
    split
    · rfl
    · split <;> rfl
  | _ => rfl

theorem grabStep_isSome {n : Nat} {pc : GrabPc} (hb : s.impl.gdpClient.any (·.busy) = false) :
    (grabStep ok s n pc).isSome = true := by
  cases pc with
  | assignClient => simp [grabStep, hb]
  | makeClient => rfl
  | loadOpened | loadGrabbing =>
    simp only [grabStep]
    split <;> rfl

theorem sessionStep_isSome {n c : Nat} {pc : SessionPc} : (sessionStep ok s n c pc).isSome = true := by
  cases pc with
  | connect | readPort | start | notify =>
    simp only [sessionStep]
    split <;> rfl
  | receive =>
    simp only [sessionStep]
    split
    · rfl
    · split <;> rfl
  | _ => rfl

theorem closeStep_isSome {k : CloseCaller} {pc : ClosePc} (hb : s.impl.gdpClient.any (·.busy) = false) :
    (closeStep ok s k pc).isSome = true := by
  cases pc with
  | closeClient =>
    simp only [closeStep]
    cases hc : s.impl.gdpClient with
    | none => rfl
    | some c =>
      rw [hc] at hb
      have hbusy : c.busy = false := hb
      cases ok <;> simp [hbusy]
  | resetClient => simp [closeStep, hb]
  | loadOpened | notify =>
    simp only [closeStep]
    split <;> rfl
  | _ => rfl

/-- The application thread outside `stop` waits only for the worker it joins and for the data callback. -/
theorem appStep_isSome (hi : s.app ≠ .idle) (hj : ∀ k, s.app = .joinWait k → s.worker = some .returned)
    (hs : ∀ k pc, s.app = .stop k pc → pc = .returned) (hb : s.impl.gdpClient.any (·.busy) = false) :
    (appStep ok s).isSome = true := by
  unfold appStep
  cases ha : s.app with
  | idle => exact absurd ha hi
  | «open» address pc => exact openStep_isSome
  | joinLock k =>
    simp only
    split <;> rfl
  | joinWait k => simp [hj k ha]
  | grab n pc => exact grabStep_isSome hb
  | session n c pc => exact sessionStep_isSome
  | stop k pc =>
    obtain rfl := hs k pc ha
    rfl
  | close k pc => exact closeStep_isSome hb

/-! ## The thread that is waited for -/

theorem step_data_isSome {c : GdpClient} {pc : DataPc} (hf : s.fault = false) (hc : s.impl.gdpClient = some c)
    (hd : c.data = some pc) (hp : pc ≠ .waiting) : (step s .data).isSome = true := by
  simp only [step, hf, hc, hd]
  exact dataStep_isSome hp

/-- A thread in `stop` that can take its step can move, whichever slot it is in. -/
theorem step_stop_isSome {pc : StopPc} (hf : s.fault = false) (hm : pc ∈ s.stops)
    (h : (stopStep ok s.impl pc).isSome = true) : ∃ a ∈ threadMoves ok, (step s a).isSome = true := by
  obtain ⟨r, hr⟩ := Option.isSome_iff_exists.1 h
  rcases State.mem_stops.1 hm with ha | hw | hw
  · cases happ : s.app with
    | stop k q =>
      rw [happ] at ha
      cases ha
      refine ⟨.app ok, by simp [threadMoves], ?_⟩
      simp only [step, hf, appStep, happ]
      cases pc with
      | returned => rfl
      | _ => cases r <;> simp [hr]
    | _ => rw [happ] at ha; cases ha
  · refine ⟨.stopWorker ok, by simp [threadMoves], ?_⟩
    simp only [step, hf, hw, hr]
    cases r <;> rfl
  · refine ⟨.worker ok, by simp [threadMoves], ?_⟩
    simp only [step, hf, hw, hr]
    cases r <;> rfl

/-- When a thread is in `stop` and no data callback runs, the thread inside the lock can move, or the
lock is free. -/
theorem stop_can_move (hL : LiveInv s) (hf : s.fault = false) (hb : s.impl.gdpClient.any (·.busy) = false)
    {pc : StopPc} (hm : pc ∈ s.stops) (hp : pc ≠ .returned) : ∃ a ∈ threadMoves ok, (step s a).isSome = true := by
  by_cases hin : ∃ q ∈ s.stops, q.holds = true
  · obtain ⟨q, hq, hh⟩ := hin
    have hr : q ≠ .returned := by
      rintro rfl
      cases hh
    have hl : q ≠ .lock := by
      rintro rfl
      cases hh
    exact step_stop_isSome hf hq (stopStep_isSome hr (fun h => absurd h hl) hb)
  · have hfree : s.impl.stopMutex = false := by
      have hx := hL.exclusive
      have hnil : s.inside = [] := List.filter_eq_nil_iff.2 fun q hq hh => hin ⟨q, hq, hh⟩
      rw [hnil] at hx
      cases hmx : s.impl.stopMutex
      · rfl
      · rw [hmx] at hx; cases hx
    exact step_stop_isSome hf hm (stopStep_isSome hp (fun _ => hfree) hb)

theorem can_move_of_not_quiescent (ok : Bool) (hL : LiveInv s) (hJ : Joins s) (hf : s.fault = false)
    (hq : ¬ Quiescent s) :
    ∃ a ∈ threadMoves ok, (step s a).isSome = true := by
  -- a running data callback goes on; when none runs, a thread in `stop`; when none is, the application
  by_cases hb : s.impl.gdpClient.any (·.busy) = true
  · obtain ⟨c, hc, hbusy⟩ := (Option.any_eq_true ..).1 hb
    obtain ⟨pc, hd, hp⟩ := (Option.any_eq_true ..).1 hbusy
    exact ⟨.data, by simp [threadMoves], step_data_isSome hf hc hd (of_decide_eq_true hp)⟩
  have hb := Bool.of_not_eq_true hb
  by_cases hst : ∃ pc ∈ s.stops, pc ≠ .returned
  · obtain ⟨pc, hm, hp⟩ := hst
    exact stop_can_move hL hf hb hm hp
  have hdone : ∀ pc ∈ s.stops, pc = .returned := by
    intro pc hm
    by_contra hp
    exact hst ⟨pc, hm, hp⟩
  have hslot : ∀ w : Option StopPc, (∀ pc, w = some pc → pc ∈ s.stops) → w = none ∨ w = some .returned := by
    intro w hw
    cases w with
    | none => exact .inl rfl
    | some pc => exact .inr (congrArg some (hdone pc (hw pc rfl)))
  have hsw := hslot s.stopWorker fun pc hw => State.mem_stops.2 (.inr (.inl hw))
  have hw := hslot s.worker fun pc hw => State.mem_stops.2 (.inr (.inr hw))
  have hi : s.app ≠ .idle := fun hi => hq ⟨hi, hb, hsw, hw⟩
  have hmove : (appStep ok s).isSome = true := by
    refine appStep_isSome hi (fun k hk => hw.resolve_left (hJ k hk)) (fun k pc hk => ?_) hb
    exact hdone pc (State.mem_stops.2 (.inl (by rw [hk]; rfl)))
  refine ⟨.app ok, by simp [threadMoves], ?_⟩
  simp only [step, hf]
  exact hmove

/-- Nothing moves by itself in a quiescent state. -/
theorem Quiescent.still (hL : LiveInv s) (hq : Quiescent s) : ∀ a ∈ threadMoves ok, step s a = none := by
  have hw : s.worker = none := hL.worker_none (by rw [hq.app]; exact fun _ hk => by cases hk)
  intro a ha
  unfold step
  split
  · rfl
  simp only [threadMoves, List.mem_cons, List.not_mem_nil, or_false] at ha
  rcases ha with rfl | rfl | rfl | rfl
  · simp [appStep, hq.app]
  · rcases hq.stopWorker with h | h <;> simp [h, stopStep]
  · simp [hw]
  · cases hc : s.impl.gdpClient with
    | none => rfl
    | some c =>
      have hbusy := hq.data
      rw [hc] at hbusy
      cases hd : c.data with
      | none => simp [hd]
      | some pc =>
        have hp : pc = .waiting := by
          by_contra hp
          have : c.busy = true := by simp [GdpClient.busy, hd, hp]
          rw [Option.any_some, this] at hbusy
          cases hbusy
        simp [hd, hp, dataStep]

end

/-! ## No deadlock -/

/-- In every state of every run the threads are stuck exactly when all calls have returned, the data
thread is waiting and no stop worker is left, whether the SDK calls they stand at return or throw. -/
theorem stuck_iff_quiescent {observers callbacks : Registry} {tr : List Event} {s : State} (ok : Bool)
    (h : Run step anyStep (init observers callbacks) tr s) (hf : s.fault = false) :
    (∀ a ∈ threadMoves ok, step s a = none) ↔ Quiescent s := by
  refine ⟨fun hstuck => ?_, fun hq => hq.still (liveInv_run h)⟩
  by_contra hq
  obtain ⟨a, ha, hmove⟩ := can_move_of_not_quiescent ok (liveInv_run h) (joins_run h) hf hq
  rw [hstuck a ha] at hmove
  cases hmove

/-- A bounded grab whose stop worker the application joins in `close`, in the middle of the join. -/
theorem stuck_iff_quiescent_joining : ∃ tr s, Run step anyStep (init one one) tr s ∧
    s.app = .joinWait (.close .user) ∧ ((∀ a ∈ threadMoves true, step s a = none) ↔ Quiescent s) := by
  obtain ⟨tr, s, h, ha, hf⟩ : ∃ tr s, Run step anyStep (init one one) tr s ∧ s.app = .joinWait (.close .user) ∧
      s.fault = false :=
    ⟨_, _, exec_get step anyStep (openMoves ++ grabMoves 1 ++ dataMoves ++ [.data, .data] ++ calling .close 1)
      (init one one) rfl, rfl, rfl⟩
  exact ⟨tr, s, h, ha, stuck_iff_quiescent true h hf⟩

end Gocator.Threads

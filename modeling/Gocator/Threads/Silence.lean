/-
After `stop`, silence: once a call of `stop` made by the application has returned, no grab callback
runs and no grabbing status is sent before the application calls `grab` again. The early return of
`stop` is as good as a full stop, because the flag is cleared under the mutex and the rest of the
teardown stays inside the same lock.
-/
import Gocator.Threads.Live

namespace Gocator.Threads

open Gocator.Facade Transition

/-! ## Quiet states -/

/-- The thread has found a session in `stop`, and the status of that stop is not fully sent. -/
def StopPc.acting : StopPc → Bool
  | .lock | .exchangeGrabbing | .unlock | .returned => false
  | _ => true

/-- The application thread is in `grab`. -/
def AppPc.inGrab : AppPc → Bool
  | .joinLock (.grab _) | .joinWait (.grab _) | .grab .. | .session .. | .stop (.grabCatch _) _ => true
  | _ => false

/-- The event is neither a call of a grab callback nor a grabbing status. -/
def Event.silent : Event → Bool
  | .grabCallback .. | .status .grabbing _ _ => false
  | _ => true

/-- No session is marked, none is being stopped or started, and no data thread runs. -/
structure Calm (s : State) : Prop where
  unmarked : s.impl.isGrabbing = false
  deaf : s.impl.receiving = false
  idle : ∀ pc ∈ s.stops, pc.acting = false

/-- Nothing goes on that could call a grab callback or send a grabbing status. -/
structure Quiet (s : State) : Prop extends Calm s where
  noGrab : s.app.inGrab = false

theorem StopPc.holds_of_acting {pc : StopPc} (h : pc.acting = true) : pc.holds = true := by
  cases pc <;> first | rfl | cases h

/-- A thread that finds no session in `stop` does nothing that can be seen. -/
theorem stopStep_calm {ok : Bool} {m m' : Impl} {pc pc' : StopPc} {evs : List Event}
    (h : stopStep ok m pc = some (.next m' pc' evs)) (hp : pc.acting = false) (hg : m.isGrabbing = false) :
    pc'.acting = false ∧ evs = [] ∧ m'.gdpClient = m.gdpClient ∧ m'.isGrabbing = false := by
  cases pc with
  | lock =>
    simp only [stopStep] at h
    split at h
    · cases h
    · cases h; exact ⟨rfl, rfl, rfl, hg⟩
  | exchangeGrabbing =>
    simp only [stopStep, hg] at h
    cases h
    exact ⟨rfl, rfl, rfl, rfl⟩
  | unlock =>
    simp only [stopStep] at h
    cases h
    exact ⟨rfl, rfl, rfl, hg⟩
  | returned => cases h
  | _ => cases hp

section

variable {ok : Bool} {s s' : State} {evs : List Event}

theorem Calm.kept (hC : Calm s) (hg : s'.impl.isGrabbing = false)
    (hcl : s'.impl.gdpClient = s.impl.gdpClient ∨ s'.impl.receiving = false)
    (hs : ∀ pc ∈ s'.stops, pc ∈ s.stops ∨ pc.acting = false) : Calm s' := by
  refine ⟨hg, ?_, fun pc hm => (hs pc hm).elim (hC.idle pc) id⟩
  rcases hcl with hcl | hcl
  · unfold Impl.receiving
    rw [hcl]
    exact hC.deaf
  · exact hcl

/-- The state stays calm when a thread in `stop` moves on to its next program point. -/
theorem Calm.stop {m : Impl} {pc pc' : StopPc} (hC : Calm s) (hm : pc ∈ s.stops)
    (h : stopStep ok s.impl pc = some (.next m pc' evs)) (him : s'.impl = m)
    (hs : ∀ q ∈ s'.stops, q ∈ s.stops ∨ q = pc') : Calm s' ∧ ∀ e ∈ evs, e.silent = true := by
  obtain ⟨hp', rfl, hcl, hg⟩ := stopStep_calm h (hC.idle pc hm) hC.unmarked
  subst him
  refine ⟨hC.kept hg (.inl hcl) fun q hq => ?_, by simp⟩
  rcases hs q hq with hq | rfl
  · exact .inl hq
  · exact .inr hp'

theorem AppPc.linking_inGrab {app : AppPc} (h : app.linking = true) : app.inGrab = false := by
  cases app with
  | idle | «open» | close => rfl
  | joinLock k =>
    cases k with
    | grab n => cases h
    | close k => rfl
  | _ => cases h

theorem silent_linking {e : Event} (h : e.linking = true) : e.silent = true := by
  cases e with
  | grabCallback c id seq => cases h
  | status st on o =>
    cases st with
    | grabbing => cases h
    | connection => rfl
  | _ => rfl

/-- A step of `open` or `close` outside `stop` leaves the state calm. -/
theorem Calm.link (hC : Calm s) (hf : LinkFrame s s' evs) : Quiet s' ∧ ∀ e ∈ evs, e.silent = true := by
  refine ⟨⟨hC.kept ?_ ?_ fun pc hm => .inl ?_, AppPc.linking_inGrab hf.app⟩,
    fun e he => silent_linking (hf.events e he)⟩
  · rw [hf.session.grabbing]; exact hC.unmarked
  · exact hf.client.receiving
  · rw [State.mem_stops, AppPc.linking_stopPc hf.app, hf.stopWorker, hf.worker] at hm
    exact State.mem_stops.2 (.inr (hm.resolve_left (by rintro h; cases h)))

/-- Outside `grab`, the application thread leaves a quiet state quiet. -/
theorem Calm.app (hC : Calm s) (hn : s.app.inGrab = false) (h : AppStep s s' evs) :
    Quiet s' ∧ ∀ e ∈ evs, e.silent = true := by
  have hg := hC.unmarked
  cases h with
  | fault => exact ⟨⟨⟨hC.1, hC.2, hC.3⟩, hn⟩, by simp⟩
  | «open» _ _ _ hf | close _ _ _ hf => exact hC.link hf
  | joinNone k ha =>
    cases k with
    | grab n => rw [ha] at hn; cases hn
    | close k =>
      refine ⟨⟨hC.kept hg (.inl rfl) fun pc hm => ?_, rfl⟩, by simp⟩
      rcases State.mem_stops.1 hm with hm | hm
      · cases hm; exact .inr rfl
      · exact .inl (State.mem_stops.2 (.inr hm))
  | joinSome k q ha hw =>
    cases k with
    | grab n => rw [ha] at hn; cases hn
    | close k =>
      refine ⟨⟨hC.kept hg (.inl rfl) fun pc hm => .inl ?_, rfl⟩, by simp⟩
      rcases State.mem_stops.1 hm with hm | hm | hm
      · cases hm
      · cases hm
      · exact State.mem_stops.2 (.inr (.inl (hw.trans hm)))
  | joined k ha =>
    cases k with
    | grab n => rw [ha] at hn; cases hn
    | close k =>
      refine ⟨⟨hC.kept hg (.inl rfl) fun pc hm => ?_, rfl⟩, by simp⟩
      rcases State.mem_stops.1 hm with hm | hm | hm
      · cases hm; exact .inr rfl
      · exact .inl (State.mem_stops.2 (.inr (.inl hm)))
      · cases hm
  | stopped k ha =>
    have hs : ∀ {app : AppPc}, app.stopPc = none → Calm { s with app := app } := fun hnone =>
      hC.kept hg (.inl rfl) fun pc hm => .inl (State.mem_stops.2 (.inr ((State.mem_stops.1 hm).resolve_left
        (by rw [hnone]; rintro h; cases h))))
    cases k with
    | user => exact ⟨⟨hs rfl, rfl⟩, by simp [afterStop, Event.silent]⟩
    | close k => exact ⟨⟨hs rfl, rfl⟩, by simp [afterStop]⟩
    | grabCatch n => rw [ha] at hn; cases hn
  | grab n pc app evs ha => rw [ha] at hn; cases hn
  | assign n ha => rw [ha] at hn; cases hn
  | session n c pc m app evs ha => rw [ha] at hn; cases hn

/-- Every step from a quiet state is silent and leads to a quiet state, unless it calls `grab`. -/
theorem quiet_step {a : Action} (hQ : Quiet s) (h : step s a = some (s', evs))
    (hng : ∀ n, a ≠ .call (.grab n)) : Quiet s' ∧ ∀ e ∈ evs, e.silent = true := by
  obtain ⟨hC, hg⟩ := hQ
  have hnone : ∀ c pc, s.impl.gdpClient = some c → c.data ≠ some pc := by
    intro c pc hc hd
    have := hC.deaf
    simp [Impl.receiving, hc, hd] at this
  cases stepBy h with
  | fault hs he =>
    subst hs he
    exact ⟨⟨⟨hC.1, hC.2, hC.3⟩, hg⟩, by simp⟩
  | app ok happ => exact hC.app hg happ
  | appStop ok k pc pc' m ha he hs =>
    rw [ha] at hg
    have hs' : ∀ q ∈ s'.stops, q ∈ s.stops ∨ q = pc' := by
      rw [hs]
      intro q hq
      rcases State.mem_stops.1 hq with hq | hq
      · exact .inr (Option.some.inj hq).symm
      · exact .inl (State.mem_stops.2 (.inr hq))
    obtain ⟨hC', hev⟩ := hC.stop (State.mem_stops.2 (.inl (by rw [ha]; rfl))) he (by rw [hs]) hs'
    refine ⟨⟨hC', ?_⟩, hev⟩
    rw [hs]
    cases k <;> first | rfl | cases hg
  | stopWorker ok pc pc' m hw he hs =>
    have hs' : ∀ q ∈ s'.stops, q ∈ s.stops ∨ q = pc' := by
      rw [hs]
      intro q hq
      rcases State.mem_stops.1 hq with hq | hq | hq
      · exact .inl (State.mem_stops.2 (.inl hq))
      · exact .inr (Option.some.inj hq).symm
      · exact .inl (State.mem_stops.2 (.inr (.inr hq)))
    obtain ⟨hC', hev⟩ := hC.stop (State.mem_stops.2 (.inr (.inl hw))) he (by rw [hs]) hs'
    exact ⟨⟨hC', by rw [hs]; exact hg⟩, hev⟩
  | worker ok pc pc' m hw he hs =>
    have hs' : ∀ q ∈ s'.stops, q ∈ s.stops ∨ q = pc' := by
      rw [hs]
      intro q hq
      rcases State.mem_stops.1 hq with hq | hq | hq
      · exact .inl (State.mem_stops.2 (.inl hq))
      · exact .inl (State.mem_stops.2 (.inr (.inl hq)))
      · exact .inr (Option.some.inj hq).symm
    obtain ⟨hC', hev⟩ := hC.stop (State.mem_stops.2 (.inr (.inr hw))) he (by rw [hs]) hs'
    exact ⟨⟨hC', by rw [hs]; exact hg⟩, hev⟩
  | data c pc hc hd => exact absurd hd (hnone c pc hc)
  | dataSet c hc hd => exact absurd hd (hnone c _ hc)
  | call c hi hs he hac =>
    subst hs he
    cases c with
    | grab n => exact absurd hac (hng n)
    | _ =>
      refine ⟨⟨⟨hC.1, hC.2, ?_⟩, rfl⟩, by simp [Event.silent]⟩
      have := hC.idle
      simp only [State.stops, hi, AppPc.stopPc] at this
      simpa [State.stops, enter, AppPc.stopPc, StopPc.acting] using this
  | registries o g hs he =>
    subst hs he
    exact ⟨⟨⟨hC.1, hC.2, hC.3⟩, hg⟩, by simp⟩

/-- A thread that is about to unlock the mutex leaves a calm state behind. -/
theorem calm_unlock {k : StopCaller} (hI : LiveInv s) (ha : s.app = .stop k .unlock) : Calm s := by
  have hmem : StopPc.unlock ∈ s.inside := by
    refine List.mem_filter.2 ⟨?_, rfl⟩
    simp [State.stops, ha, AppPc.stopPc]
  have hlen : s.inside.length ≤ 1 := by
    rw [hI.exclusive]
    cases s.impl.stopMutex <;> decide
  -- nobody else is inside the lock, so nobody else has found a session
  have honly : ∀ pc ∈ s.inside, pc = .unlock := by
    intro pc hm
    obtain ⟨q, hq⟩ := List.length_eq_one_iff.1 (Nat.le_antisymm hlen (List.length_pos_of_mem hmem))
    rw [hq, List.mem_singleton] at hm hmem
    rw [hm, ← hmem]
  have hg : s.impl.isGrabbing = false := hI.cleared .unlock (by rw [ha]; rfl) rfl
  have ht : s.tearing = false := by
    refine List.any_eq_false.2 fun pc hm => ?_
    rw [honly pc hm]
    decide
  refine ⟨hg, ?_, fun pc hm => ?_⟩
  · cases hr : s.impl.receiving
    · rfl
    · rcases hI.live hr with h | h
      · rw [hg] at h; cases h
      · rw [ht] at h; cases h
  · cases hacting : pc.acting
    · rfl
    · have := honly pc (List.mem_filter.2 ⟨hm, StopPc.holds_of_acting hacting⟩)
      rw [this] at hacting
      cases hacting

end

/-! ## After `stop` returns -/

/-- A call of `stop` that has released the mutex leaves the facade calm. -/
def Ended (s : State) : Prop := s.app = .stop .user .returned → Calm s

theorem quiet_of_ended {s : State} (hR : Ended s) (ha : s.app = .stop .user .returned) : Quiet s :=
  ⟨hR ha, by rw [ha]; rfl⟩

/-- Only a step inside `stop` brings the application thread to the end of `stop`. -/
theorem AppStep.ne_returned {s s' : State} {evs : List Event} {k : StopCaller} (h : AppStep s s' evs)
    (hs : s.app ≠ .stop k .returned) : s'.app ≠ .stop k .returned := by
  intro hs'
  cases h with
  | fault => exact hs hs'
  | «open» _ _ _ hf | close _ _ _ hf =>
    have happ := hf.app
    rw [hs'] at happ
    cases happ
  | joinNone j => cases j <;> cases hs'
  | joinSome j => cases hs'
  | joined j => cases j <;> cases hs'
  | stopped j => cases j <;> cases hs'
  | grab n pc app evs ha hm => cases hm <;> cases hs'
  | assign n => cases hs'
  | session n c pc m app evs ha hm => cases hm <;> cases hs'

/-- Only the unlocking step ends `stop`. -/
theorem stopStep_returned {ok : Bool} {m m' : Impl} {pc : StopPc} {evs : List Event}
    (h : stopStep ok m pc = some (.next m' .returned evs)) : pc = .unlock := by
  cases pc with
  | unlock => rfl
  | lock | resetClient =>
    simp only [stopStep] at h
    split at h <;> cases h
  | exchangeGrabbing | testClient =>
    simp only [stopStep, Option.some.injEq, StopStep.next.injEq] at h
    obtain ⟨-, h, -⟩ := h
    split at h <;> cases h
  | closeClient =>
    simp only [stopStep] at h
    split at h
    · cases h
    · split at h
      · split at h <;> cases h
      · cases h
  | notify n =>
    simp only [stopStep] at h
    split at h <;> cases h
  | _ => cases h

theorem ended_step {s s' : State} {a : Action} {evs : List Event} (hI : LiveInv s) (hR : Ended s)
    (h : step s a = some (s', evs)) : Ended s' := by
  intro ha'
  by_cases ha : s.app = .stop .user .returned
  · have hng : ∀ n, a ≠ .call (.grab n) := by
      rintro n rfl
      rw [(step_call h).1] at ha
      cases ha
    exact (quiet_step (quiet_of_ended hR ha) h hng).1.toCalm
  cases stepBy h with
  | fault hs => rw [hs] at ha'; exact absurd ha' ha
  | call c hi hs => subst hs; cases c <;> cases ha'
  | app ok happ => exact absurd ha' (happ.ne_returned ha)
  | appStop ok k pc pc' m hk he hs =>
    subst hs
    cases ha'
    -- only the unlocking step ends `stop`
    obtain rfl := stopStep_returned he
    have hC := calm_unlock hI hk
    cases he
    refine hC.kept hC.unmarked (.inl rfl) fun q hq => ?_
    rcases State.mem_stops.1 hq with hq | hq
    · cases hq; exact .inr rfl
    · exact .inl (State.mem_stops.2 (.inr hq))
  | stopWorker ok pc pc' m hw he hs => subst hs; exact absurd ha' ha
  | worker ok pc pc' m hw he hs => subst hs; exact absurd ha' ha
  | data c pc hc hd hdata => rw [(dataStep_frame hdata).app] at ha'; exact absurd ha' ha
  | dataSet c hc hd hs => subst hs; exact absurd ha' ha
  | registries o g hs => subst hs; exact absurd ha' ha

theorem ended_run {observers callbacks : Registry} {tr : List Event} {s : State}
    (h : Run step anyStep (init observers callbacks) tr s) : LiveInv s ∧ Ended s :=
  h.invariant (I := fun _ s => LiveInv s ∧ Ended s) ⟨liveInv_init observers callbacks, fun h => by cases h⟩
    fun _ _ _ _ _ hI _ hstep => ⟨liveInv_step hI.1 hstep, ended_step hI.1 hI.2 hstep⟩

theorem ret_not_mem_notify {m : Impl} {st : Status} {on : Bool} {n : Notify} {r : Option Notify} {evs : List Event}
    {c : Call} (h : notifyStep m st on n = (r, evs)) : .ret c ∉ evs := by
  intro hm
  obtain ⟨o, ho⟩ := notifyStep_status h _ hm
  cases ho

theorem AppStep.of_ret_stop {s s' : State} {evs : List Event} (h : AppStep s s' evs) (hret : .ret .stop ∈ evs) :
    s.app = .stop .user .returned := by
  cases h with
  | «open» _ _ _ hf | close _ _ _ hf => exact Bool.noConfusion (hf.events _ hret)
  | stopped k ha =>
    cases k with
    | user => exact ha
    | _ => simp [afterStop] at hret
  | grab n pc app evs ha hm => cases hm <;> simp at hret
  | session n c pc m app evs ha hm =>
    cases hm with
    | told k k' evs hn => exact absurd hret (ret_not_mem_notify hn)
    | returned k evs hn =>
      rcases List.mem_append.1 hret with hret | hret
      · exact absurd hret (ret_not_mem_notify hn)
      · simp at hret
    | countersReset => simp at hret
    | _ => cases hret
  | _ => cases hret

/-- The step in which the application returns from `stop`. -/
theorem app_of_ret_stop {s s' : State} {a : Action} {evs : List Event} (h : step s a = some (s', evs))
    (hret : .ret .stop ∈ evs) : s.app = .stop .user .returned := by
  cases stepBy h with
  | fault hs he => subst he; cases hret
  | call c hi hs he => subst he; simp at hret
  | app ok happ => exact happ.of_ret_stop hret
  | appStop ok k pc pc' m ha he hs => obtain ⟨o, ho⟩ := stopStep_status he _ hret; cases ho
  | stopWorker ok pc pc' m hw he hs => obtain ⟨o, ho⟩ := stopStep_status he _ hret; cases ho
  | worker ok pc pc' m hw he hs => obtain ⟨o, ho⟩ := stopStep_status he _ hret; cases ho
  | data c pc hc hd hdata => exact absurd (dataStep_events hdata _ hret) Bool.noConfusion
  | dataSet c hc hd hs he => subst he; cases hret
  | registries o g hs he => subst he; cases hret

theorem quiet_run {s s' : State} {tr : List Event} (hQ : Quiet s) (h : Run step anyStep s tr s')
    (hng : ∀ n, .call (.grab n) ∉ tr) : Quiet s' ∧ ∀ e ∈ tr, e.silent = true := by
  induction h with
  | start => exact ⟨hQ, by simp⟩
  | @snoc tr s₁ s₂ a evs _ _ hstep ih =>
    simp only [List.mem_append, not_or] at hng
    obtain ⟨hQ', hev⟩ := ih fun n => (hng n).1
    have hnc : ∀ n, a ≠ .call (.grab n) := by
      rintro n rfl
      exact (hng n).2 (by rw [(step_call hstep).2.2]; simp)
    obtain ⟨hQ'', hev'⟩ := quiet_step hQ' hstep hnc
    exact ⟨hQ'', fun e he => (List.mem_append.1 he).elim (hev e) (hev' e)⟩

theorem Quiet.noCallback {s : State} (hQ : Quiet s) : s.impl.inCallback = false := by
  have hd := hQ.deaf
  unfold Impl.receiving at hd
  unfold Impl.inCallback
  cases hc : s.impl.gdpClient with
  | none => rfl
  | some c =>
    rw [hc] at hd
    cases hdata : c.data with
    | none => simp [hdata]
    | some pc => simp [hdata] at hd

/-- When a call of `stop` returns, no grab callback is in progress, and until the next call of
`grab` none is invoked and no grabbing status is sent. -/
theorem stop_then_silence {observers callbacks : Registry} {tr₁ tr₂ evs : List Event} {s₀ s₁ s₂ : State} {a : Action}
    (h₁ : Run step anyStep (init observers callbacks) tr₁ s₀) (hstep : step s₀ a = some (s₁, evs))
    (hret : .ret .stop ∈ evs) (h₂ : Run step anyStep s₁ tr₂ s₂) (hng : ∀ n, .call (.grab n) ∉ tr₂) :
    s₁.impl.inCallback = false ∧ s₂.impl.inCallback = false ∧ ∀ e ∈ tr₂, e.silent = true := by
  have ha := app_of_ret_stop hstep hret
  have hnc : ∀ n, a ≠ .call (.grab n) := by
    rintro n rfl
    rw [(step_call hstep).1] at ha
    cases ha
  have hQ₁ := (quiet_step (quiet_of_ended (ended_run h₁).2 ha) hstep hnc).1
  obtain ⟨hQ₂, hev⟩ := quiet_run hQ₁ h₂ hng
  exact ⟨hQ₁.noCallback, hQ₂.noCallback, hev⟩

theorem stop_then_silence_close :
    ∃ tr₁ s₀ s₁ s₂, Run step anyStep (init one one) tr₁ s₀ ∧ .grabCallback 0 1 0 ∈ tr₁ ∧
      step s₀ (.app true) = some (s₁, [.ret .stop]) ∧
      Run step anyStep s₁ [.call .close, .status .connection false 1, .ret .close] s₂ ∧
      s₁.impl.inCallback = false ∧ s₂.impl.inCallback = false := by
  obtain ⟨tr₁, s₀, s₁, s₂, h₁, hcb, hret, h₂⟩ :
      ∃ tr₁ s₀ s₁ s₂, Run step anyStep (init one one) tr₁ s₀ ∧ .grabCallback 0 1 0 ∈ tr₁ ∧
        step s₀ (.app true) = some (s₁, [.ret .stop]) ∧
        Run step anyStep s₁ [.call .close, .status .connection false 1, .ret .close] s₂ :=
    ⟨_, _, _, _, exec_get step anyStep (openMoves ++ grabMoves 0 ++ dataMoves ++ calling .stop 12) (init one one) rfl,
      by decide, rfl, exec_run step anyStep closeMoves _ _ _ rfl⟩
  have hs := stop_then_silence h₁ hret (List.mem_singleton.2 rfl) h₂ (by simp)
  exact ⟨tr₁, s₀, s₁, s₂, h₁, hcb, hret, h₂, hs.1, hs.2.1⟩

end Gocator.Threads

/-
The shutdown of a `GocatorGraphicsFrameStream`: its constructor and destructor on one thread, against
any number of dispatches that may hold a copy of its lambda. The gate is code of the host; it is a
parameter that answers from the history of what has been done with it, and what the stream relies on
are two conditions on the answers. A token outlives its gate: the history goes on after the gate is
destroyed.
-/
import Gocator.Callbacks.Dispatch
import Mathlib.Logic.Function.Basic

namespace Gocator.Callbacks.FrameStream

open Gocator.Facade Transition

/-! ## The gate -/

/-- What is done with the gate and its tokens; a lease is named after the call that takes it. -/
inductive GateEvent where
  | lease (i : Nat) (granted : Bool)
  /-- A true lease is destroyed. -/
  | release (i : Nat)
  | beginShutdown
  | destroyed
  deriving DecidableEq, Repr

/-- A `GraphicsFrameCallbackGate`, by its answers after a history, newest event first. -/
structure CallbackGate where
  /-- A lease taken now is true. -/
  grants : List GateEvent → Bool
  /-- `waitForDrain` returns now. -/
  drained : List GateEvent → Bool

/-- The true leases that are alive. -/
def held : List GateEvent → List Nat
  | [] => []
  | .lease i granted :: h => if granted then i :: held h else held h
  | .release i :: h => (held h).filter (· ≠ i)
  | .beginShutdown :: h | .destroyed :: h => held h

/-- A lease is true only if the shutdown has not begun. -/
def CallbackGate.LeasesBeforeShutdown (gate : CallbackGate) : Prop :=
  ∀ h, gate.grants h = true → .beginShutdown ∉ h

/-- `waitForDrain` returns only when no true lease is alive. -/
def CallbackGate.DrainsWhenIdle (gate : CallbackGate) : Prop := ∀ h, gate.drained h = true → held h = []

/-! ## Program points -/

/-- Where a call stands in the stream's lambda. -/
inductive LambdaPc where
  | outside
  | lease
  | test (granted : Bool)
  | convertFrame
  | callback
  | caught
  | release
  deriving DecidableEq, Repr

/-- The call has a true lease. -/
def LambdaPc.leased : LambdaPc → Bool
  | .test granted => granted
  | .convertFrame | .callback | .caught | .release => true
  | .outside | .lease => false

/-- The call is in the members of the stream. -/
def LambdaPc.inside : LambdaPc → Bool
  | .convertFrame | .callback => true
  | _ => false

/-- The life of the stream: its constructor, then its destructor. -/
inductive StreamPc where
  | testArguments
  | register
  | assignId (id : Nat)
  | constructed
  | beginShutdown
  | deregister
  | waitForDrain
  | destroyMembers
  | destroyed
  deriving DecidableEq, Repr

/-- What `convertFrame` and the consumer do. -/
inductive Outcome where
  | throws
  | empty
  | value
  deriving DecidableEq, Repr

/-! ## The machine -/

/-- A stream over the facade, with the history of its gate. -/
structure State where
  callbacks : Callbacks.State
  history : List GateEvent
  stream : StreamPc
  /-- `_gocator` is not null and `_callback` is not empty. -/
  valid : Bool
  /-- The id the registry has given to the lambda. -/
  lambdaId : Option Nat
  /-- `_grabCallbackId`. -/
  grabCallbackId : Nat
  /-- Where each call of the dispatch machine stands in the lambda. -/
  lambda : Nat → LambdaPc

def init (callbacks : Callbacks.State) (valid : Bool) : State where
  callbacks := callbacks
  history := []
  stream := .testArguments
  valid := valid
  lambdaId := none
  grabCallbackId := 0
  lambda := fun _ => .outside

/-- The next move: of the facade, of a call inside the lambda, or of the thread that owns the stream. -/
inductive Action where
  /-- A move of the facade's dispatches and registries. -/
  | callbacks (a : Callbacks.Action)
  | lambda (i : Nat) (outcome : Outcome)
  | stream

/-- What the calls do with the members of the stream, and the end of its destructor. -/
inductive Event where
  /-- The call reads `_adapter`. -/
  | readsAdapter (i : Nat)
  /-- The call calls `_callback`. -/
  | callsCallback (i : Nat)
  /-- The destructor has returned. -/
  | destroyed
  deriving DecidableEq, Repr

/-- The call that is in the members of the stream. -/
def Event.user : Event → Option Nat
  | .readsAdapter i | .callsCallback i => some i
  | .destroyed => none

namespace State

/-- The call `i` has got to `pc` in the lambda. -/
def setLambda (s : State) (i : Nat) (pc : LambdaPc) : State := { s with lambda := Function.update s.lambda i pc }

/-- Something has been done with the gate. -/
def note (s : State) (e : GateEvent) : State := { s with history := e :: s.history }

/-- The events start the lambda. -/
def starts (s : State) (evs : List Callbacks.Event) : Bool :=
  s.lambdaId.any fun id => .invoked .grabCallbacks id ∈ evs

end State

/-- A move of the dispatches: a call in the lambda stays in its callback until the lambda returns, and a
call that calls the lambda starts it. -/
def callbacksStep (s : State) (a : Callbacks.Action) : Option (State × List Event) :=
  match a with
  | .step i =>
    if s.lambda i ≠ .outside then none
    else (Callbacks.step s.callbacks a).map fun r =>
      (if s.starts r.2 then { s with callbacks := r.1 }.setLambda i .lease else { s with callbacks := r.1 }, [])
  | _ => (Callbacks.step s.callbacks a).map fun r => ({ s with callbacks := r.1 }, [])

/-- One step of the lambda. Leaving its scope destroys the lease, whether it returns or throws. -/
def lambdaStep (gate : CallbackGate) (s : State) (i : Nat) (outcome : Outcome) : LambdaPc → Option (State × List Event)
  | .outside => none
  | .lease =>
    let granted := gate.grants s.history
    some ((s.note (.lease i granted)).setLambda i (.test granted), [])
  | .test granted =>
    if granted then some (s.setLambda i .convertFrame, [.readsAdapter i]) else some (s.setLambda i .outside, [])
  | .convertFrame =>
    match outcome with
    | .throws => some (s.setLambda i .caught, [])
    | .empty => some (s.setLambda i .release, [])
    | .value => some (s.setLambda i .callback, [.callsCallback i])
  | .callback =>
    match outcome with
    | .throws => some (s.setLambda i .caught, [])
    | _ => some (s.setLambda i .release, [])
  | .caught => some (s.setLambda i .release, [])
  | .release => some ((s.note (.release i)).setLambda i .outside, [])

/-- One step of the constructor or the destructor. -/
def streamStep (gate : CallbackGate) (s : State) : Option (State × List Event) :=
  match s.stream with
  | .testArguments => some ({ s with stream := if s.valid then .register else .constructed }, [])
  | .register =>
    let r := s.callbacks.registry .grabCallbacks
    some ({ s with
      callbacks := s.callbacks.setRegistry .grabCallbacks (r.register true)
      lambdaId := some r.nextId
      stream := .assignId r.nextId }, [])
  | .assignId id => some ({ s with grabCallbackId := id, stream := .constructed }, [])
  | .constructed => some ({ s with stream := .beginShutdown }, [])
  | .beginShutdown => some ({ s.note .beginShutdown with stream := .deregister }, [])
  | .deregister =>
    let r := s.callbacks.registry .grabCallbacks
    let callbacks := if s.valid ∧ s.grabCallbackId ≠ 0
      then s.callbacks.setRegistry .grabCallbacks (r.deregister s.grabCallbackId) else s.callbacks
    some ({ s with callbacks := callbacks, stream := .waitForDrain }, [])
  | .waitForDrain => if gate.drained s.history then some ({ s with stream := .destroyMembers }, []) else none
  | .destroyMembers => some ({ s.note .destroyed with stream := .destroyed }, [.destroyed])
  | .destroyed => none

/-- One step of the facade, of a call in the lambda, or of the thread that owns the stream. -/
def step (gate : CallbackGate) (s : State) : Action → Option (State × List Event)
  | .callbacks a => callbacksStep s a
  | .lambda i outcome => lambdaStep gate s i outcome (s.lambda i)
  | .stream => streamStep gate s

/-! ## The invariant -/

/-- The destructor has begun the shutdown of the gate. -/
def StreamPc.begun : StreamPc → Bool
  | .deregister | .waitForDrain | .destroyMembers | .destroyed => true
  | _ => false

/-- The destructor has waited for the gate to drain. -/
def StreamPc.pastDrain : StreamPc → Bool
  | .destroyMembers | .destroyed => true
  | _ => false

/-- A call inside the members holds a lease, the destructor begins the shutdown before it waits, and past the wait no
call holds one. -/
structure Inv (s : State) : Prop where
  held : ∀ i, (s.lambda i).leased = true → i ∈ held s.history
  begun : s.stream.begun = true → .beginShutdown ∈ s.history
  drained : s.stream.pastDrain = true → ∀ i, (s.lambda i).leased = false

theorem inv_init (callbacks : Callbacks.State) (valid : Bool) : Inv (init callbacks valid) := by
  constructor
  · intro i h
    cases h
  · intro h
    cases h
  · intro _ i
    rfl

section

variable {s s' : State} {i : Nat} {pc : LambdaPc}

theorem setLambda_self (s : State) (i : Nat) (pc : LambdaPc) :
    (s.setLambda i pc).lambda i = pc :=
  Function.update_self ..

theorem setLambda_of_ne {j : Nat} (h : j ≠ i) (s : State) (pc : LambdaPc) : (s.setLambda i pc).lambda j = s.lambda j :=
  Function.update_of_ne h ..

/-- A call that moves within the lambda keeps the lease it has, and takes none. -/
theorem Inv.setLambda (hI : Inv s) (h : pc.leased = true → (s.lambda i).leased = true) : Inv (s.setLambda i pc) := by
  have hle : ∀ j, ((s.setLambda i pc).lambda j).leased = true → (s.lambda j).leased = true := by
    intro j hj
    by_cases hji : j = i
    · subst hji
      rw [setLambda_self] at hj
      exact h hj
    · rwa [setLambda_of_ne hji] at hj
  constructor
  · intro j hj
    exact hI.held j (hle j hj)
  · exact hI.begun
  · intro hd j
    rw [Bool.eq_false_iff]
    intro hj
    exact Bool.eq_false_iff.1 (hI.drained hd j) (hle j hj)

/-- A lease that is granted is granted before the shutdown, so the destructor has not waited yet. -/
theorem Inv.lease {gate : CallbackGate} (hlease : gate.LeasesBeforeShutdown) (hI : Inv s) (hi : s.lambda i = .lease) :
    Inv ((s.note (.lease i (gate.grants s.history))).setLambda i (.test (gate.grants s.history))) := by
  cases hg : gate.grants s.history with
  | false =>
    apply Inv.setLambda
    · exact ⟨hI.held, fun hb => List.mem_cons_of_mem _ (hI.begun hb), hI.drained⟩
    · intro h
      cases h
  | true =>
    have hbegun : s.stream.begun = false := by
      rw [Bool.eq_false_iff]
      intro hb
      exact hlease _ hg (hI.begun hb)
    have hpast : s.stream.pastDrain = false := by
      cases hs : s.stream with
      | destroyMembers | destroyed => rw [hs] at hbegun; cases hbegun
      | _ => rfl
    constructor
    · intro j hj
      show j ∈ i :: FrameStream.held s.history
      by_cases hji : j = i
      · subst hji
        exact List.mem_cons_self ..
      · rw [setLambda_of_ne hji] at hj
        exact List.mem_cons_of_mem _ (hI.held j hj)
    · intro hb
      exact List.mem_cons_of_mem _ (hI.begun hb)
    · intro hd
      exact absurd (hpast ▸ hd) Bool.false_ne_true

theorem Inv.release (hI : Inv s) : Inv ((s.note (.release i)).setLambda i .outside) := by
  constructor
  · intro j hj
    show j ∈ (FrameStream.held s.history).filter (· ≠ i)
    by_cases hji : j = i
    · subst hji
      rw [setLambda_self] at hj
      cases hj
    · rw [setLambda_of_ne hji] at hj
      exact List.mem_filter.2 ⟨hI.held j hj, decide_eq_true hji⟩
  · intro hb
    exact List.mem_cons_of_mem _ (hI.begun hb)
  · intro hd j
    by_cases hji : j = i
    · subst hji
      rw [setLambda_self]
      rfl
    · rw [setLambda_of_ne hji]
      exact hI.drained hd j

/-- A move of the dispatches uses no member of the stream; at most it starts the lambda. -/
theorem callbacksStep_cases {a : Callbacks.Action} {evs : List Event} (h : callbacksStep s a = some (s', evs)) :
    evs = [] ∧ ∃ c, s' = { s with callbacks := c } ∨ ∃ i, s' = { s with callbacks := c }.setLambda i .lease := by
  cases a with
  | step i =>
    simp only [callbacksStep] at h
    split at h
    · cases h
    · obtain ⟨r, -, hr⟩ := Option.map_eq_some_iff.1 h
      cases hr
      refine ⟨rfl, r.1, ?_⟩
      split
      · exact .inr ⟨i, rfl⟩
      · exact .inl rfl
  | _ =>
    simp only [callbacksStep] at h
    obtain ⟨r, -, hr⟩ := Option.map_eq_some_iff.1 h
    cases hr
    exact ⟨rfl, r.1, .inl rfl⟩

theorem inv_callbacksStep {a : Callbacks.Action} {evs : List Event} (hI : Inv s)
    (h : callbacksStep s a = some (s', evs)) : Inv s' := by
  have hidle : ∀ c, Inv { s with callbacks := c } := fun c => ⟨hI.held, hI.begun, hI.drained⟩
  obtain ⟨-, c, rfl | ⟨i, rfl⟩⟩ := callbacksStep_cases h
  · exact hidle c
  · apply (hidle c).setLambda
    intro hl
    cases hl

theorem inv_lambdaStep {gate : CallbackGate} {outcome : Outcome} {evs : List Event}
    (hlease : gate.LeasesBeforeShutdown) (hI : Inv s) (h : lambdaStep gate s i outcome (s.lambda i) = some (s', evs)) :
    Inv s' := by
  cases hpc : s.lambda i with
  | outside => rw [hpc] at h; cases h
  | lease => rw [hpc] at h; cases h; exact hI.lease hlease hpc
  | test granted =>
    rw [hpc] at h
    cases granted with
    | true => cases h; exact hI.setLambda fun _ => by rw [hpc]; rfl
    | false => cases h; exact hI.setLambda fun hl => by cases hl
  | convertFrame =>
    rw [hpc] at h
    cases outcome <;> cases h <;> exact hI.setLambda fun _ => by rw [hpc]; rfl
  | callback =>
    rw [hpc] at h
    cases outcome <;> cases h <;> exact hI.setLambda fun _ => by rw [hpc]; rfl
  | caught => rw [hpc] at h; cases h; exact hI.setLambda fun _ => by rw [hpc]; rfl
  | release => rw [hpc] at h; cases h; exact hI.release

/-- A step of the constructor, or of the destructor before the wait, moves the stream and nothing that the
invariant speaks of. -/
theorem Inv.move {pc : StreamPc} (hI : Inv s) (hb : pc.begun = true → s.stream.begun = true)
    (hp : pc.pastDrain = false) (callbacks : Callbacks.State) (lambdaId : Option Nat) (grabCallbackId : Nat) :
    Inv { s with callbacks := callbacks, lambdaId := lambdaId, grabCallbackId := grabCallbackId, stream := pc } := by
  constructor
  · exact hI.held
  · intro h
    exact hI.begun (hb h)
  · intro h
    exact absurd (hp ▸ h) Bool.false_ne_true

theorem inv_streamStep {gate : CallbackGate} {evs : List Event} (hdrain : gate.DrainsWhenIdle) (hI : Inv s)
    (h : streamStep gate s = some (s', evs)) : Inv s' := by
  cases hs : s.stream with
  | testArguments =>
    simp only [streamStep, hs] at h
    cases h
    apply hI.move
    · split <;> nofun
    · split <;> rfl
  | register =>
    simp only [streamStep, hs] at h
    cases h
    exact hI.move (by rintro ⟨⟩) (by rfl) ..
  | assignId id =>
    simp only [streamStep, hs] at h
    cases h
    exact hI.move (by rintro ⟨⟩) (by rfl) ..
  | constructed =>
    simp only [streamStep, hs] at h
    cases h
    exact hI.move (by rintro ⟨⟩) (by rfl) ..
  | beginShutdown =>
    simp only [streamStep, hs] at h
    cases h
    refine ⟨hI.held, fun _ => List.mem_cons_self .., nofun⟩
  | deregister =>
    simp only [streamStep, hs] at h
    cases h
    exact hI.move (fun _ => by rw [hs]; rfl) rfl ..
  | waitForDrain =>
    simp only [streamStep, hs] at h
    split at h
    · rename_i hd
      cases h
      constructor
      · exact hI.held
      · intro _
        exact hI.begun (by rw [hs]; rfl)
      · -- no lease is alive, and a call past its lease has one
        intro _ i
        rw [Bool.eq_false_iff]
        intro hl
        have hm := hI.held i hl
        rw [hdrain _ hd] at hm
        cases hm
    · cases h
  | destroyMembers =>
    simp only [streamStep, hs] at h
    cases h
    constructor
    · exact hI.held
    · intro _
      exact List.mem_cons_of_mem _ (hI.begun (by rw [hs]; rfl))
    · intro _
      exact hI.drained (by rw [hs]; rfl)
  | destroyed =>
    simp only [streamStep, hs] at h
    cases h

theorem inv_step {gate : CallbackGate} {a : Action} {evs : List Event} (hlease : gate.LeasesBeforeShutdown)
    (hdrain : gate.DrainsWhenIdle) (hI : Inv s) (h : step gate s a = some (s', evs)) : Inv s' := by
  cases a with
  | callbacks a => exact inv_callbacksStep hI h
  | lambda i outcome => exact inv_lambdaStep hlease hI h
  | stream => exact inv_streamStep hdrain hI h

/-! ## The shutdown -/

theorem inside_leased (h : pc.inside = true) : pc.leased = true := by
  cases pc with
  | convertFrame | callback => rfl
  | _ => cases h

/-- Only a call with a lease uses the members. -/
theorem lambdaStep_user {gate : CallbackGate} {outcome : Outcome} {evs : List Event}
    (h : lambdaStep gate s i outcome pc = some (s', evs)) (hl : pc.leased = false) :
    evs = [] ∧ s'.stream = s.stream := by
  cases pc with
  | outside => cases h
  | lease => cases h; exact ⟨rfl, rfl⟩
  | test granted =>
    cases granted with
    | true => cases hl
    | false => cases h; exact ⟨rfl, rfl⟩
  | _ => cases hl

/-- Once destroyed, the stream stays so, and no step uses its members. -/
theorem destroyed_step {gate : CallbackGate} {a : Action} {evs : List Event} (hI : Inv s) (hs : s.stream = .destroyed)
    (h : step gate s a = some (s', evs)) : s'.stream = .destroyed ∧ evs = [] := by
  cases a with
  | callbacks a =>
    obtain ⟨rfl, c, rfl | ⟨i, rfl⟩⟩ := callbacksStep_cases h
    · exact ⟨hs, rfl⟩
    · exact ⟨hs, rfl⟩
  | lambda i outcome =>
    obtain ⟨hevs, hstream⟩ := lambdaStep_user h (hI.drained (by rw [hs]; rfl) i)
    exact ⟨hstream.trans hs, hevs⟩
  | stream =>
    simp only [step, streamStep, hs] at h
    cases h

/-- When the destructor has returned, no call is in the adapter or the consumer, and none gets there in
any continuation of the run. -/
theorem shutdown_safe {gate : CallbackGate} (hlease : gate.LeasesBeforeShutdown) (hdrain : gate.DrainsWhenIdle)
    {callbacks : Callbacks.State} {valid : Bool} {tr : List Event} {s : State}
    (h : Run (step gate) anyStep (init callbacks valid) tr s) (hs : s.stream = .destroyed) :
    (∀ i, (s.lambda i).inside = false) ∧
      ∀ tr' s', Run (step gate) anyStep s tr' s' → ∀ e ∈ tr', e.user = none := by
  have hI : Inv s := h.invariant (I := fun _ s => Inv s) (inv_init callbacks valid)
    fun _ _ _ _ _ hI _ hstep => inv_step hlease hdrain hI hstep
  constructor
  · intro i
    rw [Bool.eq_false_iff]
    intro hi
    exact Bool.eq_false_iff.1 (hI.drained (by rw [hs]; rfl) i) (inside_leased hi)
  · intro tr' s' h'
    suffices hJ : tr' = [] ∧ Inv s' ∧ s'.stream = .destroyed by
      rw [hJ.1]
      exact fun e he => absurd he List.not_mem_nil
    refine h'.invariant (I := fun tr' s' => tr' = [] ∧ Inv s' ∧ s'.stream = .destroyed) ⟨rfl, hI, hs⟩ ?_
    rintro tr₁ s₁ a s₂ evs ⟨rfl, hI, hs⟩ - hstep
    obtain ⟨hs', rfl⟩ := destroyed_step hI hs hstep
    exact ⟨rfl, inv_step hlease hdrain hI hstep, hs'⟩

end

/-- A gate that answers as the stream relies on. -/
def openGate : CallbackGate where
  grants h := .beginShutdown ∉ h
  drained h := held h = []

theorem openGate_leases : openGate.LeasesBeforeShutdown := fun _ h => of_decide_eq_true h

theorem openGate_drains : openGate.DrainsWhenIdle := fun _ h => of_decide_eq_true h

/-- Two dispatches copy the lambda. The first calls it, and its consumer throws while the destructor waits;
the second still has it ahead when the stream is destroyed. -/
def shutdownMoves : List Action :=
  List.replicate 3 .stream ++
    [.callbacks (.grabbing true), .callbacks (.call .handleData), .callbacks (.call .handleData)] ++
    [.callbacks (.step 0), .callbacks (.step 1), .callbacks (.step 0), .callbacks (.step 1), .callbacks (.step 0)] ++
    [.lambda 0 .value, .lambda 0 .value, .stream, .stream, .stream, .lambda 0 .value, .lambda 0 .throws] ++
    [.lambda 0 .value, .lambda 0 .value, .stream, .stream]

theorem shutdown_safe_two : ∃ tr s, Run (step openGate) anyStep (init Callbacks.init true) tr s ∧
    tr = [.readsAdapter 0, .callsCallback 0, .destroyed] ∧ s.callbacks.ahead .grabCallbacks 1 ∧
    ∀ tr' s', Run (step openGate) anyStep s tr' s' → ∀ e ∈ tr', e.user = none := by
  obtain ⟨tr, s, h, htr, hs, ha⟩ : ∃ tr s, Run (step openGate) anyStep (init Callbacks.init true) tr s ∧
      tr = [.readsAdapter 0, .callsCallback 0, .destroyed] ∧ s.stream = .destroyed ∧
      s.callbacks.ahead .grabCallbacks 1 :=
    ⟨_, _, exec_get (step openGate) anyStep shutdownMoves (init Callbacks.init true) rfl, by decide⟩
  exact ⟨tr, s, h, htr, ha, (shutdown_safe openGate_leases openGate_drains h hs).2⟩

end Gocator.Callbacks.FrameStream

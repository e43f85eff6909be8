/-
The title of a plugin session: its constructor and destructor and the host on the one side, on the other any
number of status dispatches that may hold a copy of its lambda. The lambda has the title state by a weak
pointer and the facade by a bare one. What keeps the bare pointer good is that the address is read under the
mutex which `deactivate` takes before the facade is destroyed; the callback of the host is called without it.
-/
import Gocator.Callbacks.Dispatch
import Mathlib.Logic.Function.Basic

namespace Gocator.Callbacks.SessionTitle

open Gocator.Facade Transition

/-! ## The title state -/

/-- `GocatorPluginTitleState`, but for its mutex; the callbacks of the host go by numbers. -/
structure TitleState where
  active : Bool
  title : String
  callback : Option Nat
  deriving DecidableEq

def TitleState.init : TitleState := ⟨true, "LMI Gocator Session", none⟩

def TitleState.deactivate (t : TitleState) : TitleState := { t with active := false, callback := none }

/-- What `readConnectedAddress` makes of an address that is not empty. -/
def titleOf (address : String) : String := "LMI Gocator - " ++ address

/-- The owners of the title state: the session, and the calls that have locked their weak pointer. -/
inductive Owner where
  | session
  | call (i : Nat)
  deriving DecidableEq, Repr

/-! ## Program points -/

/-- Where a call stands in the session's lambda. -/
inductive LambdaPc where
  | outside
  | test
  /-- `titleState.lock()`. -/
  | lock
  | lockRead
  /-- In `readConnectedAddress`, with the mutex. -/
  | reading
  | lockPublish (title : String)
  /-- In `publish`, with the copy of the host's callback and without the mutex. -/
  | callback (cb : Nat) (title : String)
  | inCallback
  | release
  deriving DecidableEq, Repr

/-- The call owns the title state. -/
def LambdaPc.owns : LambdaPc → Bool
  | .outside | .test | .lock => false
  | _ => true

/-- The title that the call has published and has yet to tell. -/
def LambdaPc.pending : LambdaPc → List (Nat × String)
  | .callback cb title => [(cb, title)]
  | _ => []

/-- The life of the session: its constructor, then its destructor. -/
inductive SessionPc where
  | register
  | assignId (id : Nat)
  | constructed
  | deactivate
  | deregister
  | prepareForShutdown
  | resetController
  | close
  | destroyTitleState
  | destroyGocator
  | destroyed
  deriving DecidableEq, Repr

/-- The destructor has deactivated the title state. -/
def SessionPc.inactive : SessionPc → Bool
  | .register | .assignId _ | .constructed | .deactivate => false
  | _ => true

/-- The session owns the title state. -/
def SessionPc.owns : SessionPc → Bool
  | .destroyGocator | .destroyed => false
  | _ => true

/-! ## The machine -/

/-- A session over the facade, with the title state that it shares with the lambda. -/
structure State where
  callbacks : Callbacks.State
  titleState : TitleState
  /-- The call that holds the mutex of the title state across its steps. -/
  mutex : Option Nat
  owners : List Owner
  session : SessionPc
  /-- The id the registry has given to the lambda. -/
  lambdaId : Option Nat
  /-- `_statusCallback`. -/
  statusCallback : Nat
  /-- Where each call of the dispatch machine stands in the lambda. -/
  lambda : Nat → LambdaPc

def init (callbacks : Callbacks.State) : State where
  callbacks := callbacks
  titleState := .init
  mutex := none
  owners := [.session]
  session := .register
  lambdaId := none
  statusCallback := 0
  lambda := fun _ => .outside

/-- The arguments of the lambda, and what `getConnectedAddress` returns. -/
structure Input where
  status : Status
  connected : Bool
  address : String

/-- The next move: of the facade, of a call inside the lambda, of the thread that owns the session, or of the host. -/
inductive Action where
  /-- A move of the facade's dispatches and registries. -/
  | callbacks (a : Callbacks.Action)
  | lambda (i : Nat) (input : Input)
  | session
  /-- The host calls `setTitleChangedCallback`. -/
  | setCallback (callback : Option Nat)

/-- What the lambda does, and what the destructor of the session has done. -/
inductive Event where
  /-- The call reads the address of the facade. -/
  | reads (i : Nat) (address : String)
  | published (i : Nat) (title : String) (cb : Option Nat)
  | calls (i cb : Nat) (title : String)
  | deactivated
  | gocatorDestroyed
  deriving DecidableEq, Repr

namespace State

/-- The call `i` has got to `pc` in the lambda. -/
def setLambda (s : State) (i : Nat) (pc : LambdaPc) : State := { s with lambda := Function.update s.lambda i pc }

/-- The events start the lambda. -/
def starts (s : State) (evs : List Callbacks.Event) : Bool :=
  s.lambdaId.any fun id => .invoked .statusObservers id ∈ evs

end State

/-- A move of the dispatches: a call in the lambda stays in its callback until the lambda returns, and a
call that calls the lambda starts it. -/
def callbacksStep (s : State) (a : Callbacks.Action) : Option (State × List Event) :=
  match a with
  | .step i =>
    if s.lambda i ≠ .outside then none
    else (Callbacks.step s.callbacks a).map fun r =>
      (if s.starts r.2 then { s with callbacks := r.1 }.setLambda i .test else { s with callbacks := r.1 }, [])
  | _ => (Callbacks.step s.callbacks a).map fun r => ({ s with callbacks := r.1 }, [])

/-- `if (callback) callback(title);` -/
def tell (callback : Option Nat) (title : String) : LambdaPc :=
  match callback with
  | some cb => .callback cb title
  | none => .release

/-- One step of the lambda. -/
def lambdaStep (s : State) (i : Nat) (input : Input) : LambdaPc → Option (State × List Event)
  | .outside => none
  | .test => some (s.setLambda i (if input.status ≠ .connection ∨ input.connected = false then .outside else .lock), [])
  | .lock =>
    if s.owners = [] then some (s.setLambda i .outside, [])
    else some ({ s with owners := .call i :: s.owners }.setLambda i .lockRead, [])
  | .lockRead =>
    if s.mutex ≠ none then none
    else if s.titleState.active then some ({ s with mutex := some i }.setLambda i .reading, [])
    else some (s.setLambda i .release, [])
  | .reading =>
    some ({ s with mutex := none }.setLambda i
      (if input.address = "" then .release else .lockPublish (titleOf input.address)), [.reads i input.address])
  | .lockPublish title =>
    if s.mutex ≠ none then none
    else if s.titleState.active then
      some ({ s with titleState := { s.titleState with title := title } }.setLambda i
        (tell s.titleState.callback title), [.published i title s.titleState.callback])
    else some (s.setLambda i .release, [])
  | .callback cb title => some (s.setLambda i .inCallback, [.calls i cb title])
  -- the callback of the host returns or throws
  | .inCallback => some (s.setLambda i .release, [])
  | .release => some ({ s with owners := s.owners.erase (.call i) }.setLambda i .outside, [])

/-- One step of the constructor or the destructor. What preparing the widget, resetting the controller and closing
do to the callbacks of the facade are moves of its own. -/
def sessionStep (s : State) : Option (State × List Event) :=
  match s.session with
  | .register =>
    let r := s.callbacks.registry .statusObservers
    some ({ s with
      callbacks := s.callbacks.setRegistry .statusObservers (r.register true)
      lambdaId := some r.nextId
      session := .assignId r.nextId }, [])
  | .assignId id => some ({ s with statusCallback := id, session := .constructed }, [])
  | .constructed => some ({ s with session := .deactivate }, [])
  | .deactivate =>
    if s.mutex ≠ none then none
    else some ({ s with titleState := s.titleState.deactivate, session := .deregister }, [.deactivated])
  | .deregister =>
    let r := s.callbacks.registry .statusObservers
    let callbacks := if s.statusCallback ≠ 0
      then s.callbacks.setRegistry .statusObservers (r.deregister s.statusCallback) else s.callbacks
    some ({ s with callbacks := callbacks, session := .prepareForShutdown }, [])
  | .prepareForShutdown => some ({ s with session := .resetController }, [])
  | .resetController => some ({ s with session := .close }, [])
  | .close => some ({ s with session := .destroyTitleState }, [])
  | .destroyTitleState => some ({ s with owners := s.owners.erase .session, session := .destroyGocator }, [])
  | .destroyGocator => some ({ s with session := .destroyed }, [.gocatorDestroyed])
  | .destroyed => none

/-- The host uses the session while it is constructed. -/
def setCallback (s : State) (callback : Option Nat) : Option (State × List Event) :=
  if s.session ≠ .constructed ∨ s.mutex ≠ none then none
  else some ({ s with titleState := { s.titleState with callback := callback } }, [])

/-- One step of the facade, of a call in the lambda, of the thread that owns the session, or of the host. -/
def step (s : State) : Action → Option (State × List Event)
  | .callbacks a => callbacksStep s a
  | .lambda i input => lambdaStep s i input (s.lambda i)
  | .session => sessionStep s
  | .setCallback callback => setCallback s callback

/-! ## What a step does -/

/-- The point is neither under the mutex nor has it a title in hand. -/
def LambdaPc.idle : LambdaPc → Bool
  | .reading | .lockPublish _ | .callback .. => false
  | _ => true

/-- What a step can do, with the guards under which it does it. -/
inductive Effect (s : State) : State → List Event → Prop
  | callbacks (c : Callbacks.State) : Effect s { s with callbacks := c } []
  /-- The lambda is started, left, or got a step further; a title in hand may be given up. -/
  | moved (c : Callbacks.State) (i : Nat) (pc : LambdaPc) : pc.owns = (s.lambda i).owns →
      s.lambda i ≠ .reading → (s.lambda i).pending = [] → pc.idle = true →
      Effect s ({ s with callbacks := c }.setLambda i pc) []
  | locked (i : Nat) : s.owners ≠ [] → s.lambda i = .lock →
      Effect s ({ s with owners := .call i :: s.owners }.setLambda i .lockRead) []
  | entered (i : Nat) : s.lambda i = .lockRead → s.mutex = none → s.titleState.active = true →
      Effect s ({ s with mutex := some i }.setLambda i .reading) []
  | read (i : Nat) (address : String) (pc : LambdaPc) : s.lambda i = .reading →
      pc = .release ∨ address ≠ "" ∧ pc = .lockPublish (titleOf address) →
      Effect s ({ s with mutex := none }.setLambda i pc) [.reads i address]
  | published (i : Nat) (title : String) : s.lambda i = .lockPublish title → s.mutex = none →
      s.titleState.active = true →
      Effect s ({ s with titleState := { s.titleState with title := title } }.setLambda i
        (tell s.titleState.callback title)) [.published i title s.titleState.callback]
  | called (i cb : Nat) (title : String) : s.lambda i = .callback cb title →
      Effect s (s.setLambda i .inCallback) [.calls i cb title]
  | released (i : Nat) : s.lambda i = .release →
      Effect s ({ s with owners := s.owners.erase (.call i) }.setLambda i .outside) []
  | session (pc : SessionPc) (c : Callbacks.State) (lambdaId : Option Nat) (statusCallback : Nat) :
      pc.inactive = s.session.inactive → pc.owns = s.session.owns →
      Effect s { s with session := pc, callbacks := c, lambdaId := lambdaId, statusCallback := statusCallback } []
  | deactivated : s.session = .deactivate → s.mutex = none →
      Effect s { s with titleState := s.titleState.deactivate, session := .deregister } [.deactivated]
  | titleStateDestroyed : s.session = .destroyTitleState →
      Effect s { s with owners := s.owners.erase .session, session := .destroyGocator } []
  | gocatorDestroyed : s.session = .destroyGocator →
      Effect s { s with session := .destroyed } [.gocatorDestroyed]
  | setCallback (cb : Option Nat) : s.session = .constructed → s.mutex = none →
      Effect s { s with titleState := { s.titleState with callback := cb } } []

section

variable {s s' : State} {evs : List Event}

theorem callbacksStep_effect {a : Callbacks.Action} (h : callbacksStep s a = some (s', evs)) : Effect s s' evs := by
  cases a with
  | step i =>
    simp only [callbacksStep] at h
    split at h
    · cases h
    · rename_i hout
      have hout : s.lambda i = .outside := not_not.1 hout
      obtain ⟨r, -, hr⟩ := Option.map_eq_some_iff.1 h
      cases hr
      split
      · refine .moved r.1 i .test ?_ ?_ ?_ rfl <;> rw [hout]
        · rfl
        · rintro ⟨⟩
        · rfl
      · exact .callbacks r.1
  | _ =>
    simp only [callbacksStep] at h
    obtain ⟨r, -, hr⟩ := Option.map_eq_some_iff.1 h
    cases hr
    exact .callbacks r.1

theorem lambdaStep_effect {i : Nat} {input : Input} (h : lambdaStep s i input (s.lambda i) = some (s', evs)) :
    Effect s s' evs := by
  have hmoved : ∀ pc : LambdaPc, pc.owns = (s.lambda i).owns → s.lambda i ≠ .reading →
      (s.lambda i).pending = [] → pc.idle = true → Effect s (s.setLambda i pc) [] := .moved s.callbacks i
  cases hpc : s.lambda i with
  | outside => rw [hpc] at h; cases h
  | test =>
    rw [hpc] at h hmoved
    cases h
    split <;> exact hmoved _ rfl (fun h => by cases h) rfl rfl
  | lock =>
    rw [hpc] at h hmoved
    simp only [lambdaStep] at h
    split at h <;> cases h
    · exact hmoved _ rfl (fun h => by cases h) rfl rfl
    · rename_i howners
      exact .locked i howners hpc
  | lockRead =>
    rw [hpc] at h hmoved
    simp only [lambdaStep] at h
    split at h
    · cases h
    · rename_i hmutex
      split at h <;> cases h
      · rename_i hactive
        exact .entered i hpc (not_not.1 hmutex) hactive
      · exact hmoved _ rfl (fun h => by cases h) rfl rfl
  | reading =>
    rw [hpc] at h
    cases h
    refine .read i input.address _ hpc ?_
    split
    · exact .inl rfl
    · rename_i haddress
      exact .inr ⟨haddress, rfl⟩
  | lockPublish title =>
    rw [hpc] at h hmoved
    simp only [lambdaStep] at h
    split at h
    · cases h
    · rename_i hmutex
      split at h <;> cases h
      · rename_i hactive
        exact .published i title hpc (not_not.1 hmutex) hactive
      · exact hmoved _ rfl (fun h => by cases h) rfl rfl
  | callback cb title =>
    rw [hpc] at h
    cases h
    exact .called i cb title hpc
  | inCallback =>
    rw [hpc] at h hmoved
    cases h
    exact hmoved _ rfl (fun h => by cases h) rfl rfl
  | release =>
    rw [hpc] at h
    cases h
    exact .released i hpc

theorem sessionStep_effect (h : sessionStep s = some (s', evs)) : Effect s s' evs := by
  have hmoved : ∀ pc c lambdaId statusCallback, pc.inactive = s.session.inactive → pc.owns = s.session.owns → Effect s
      { s with session := pc, callbacks := c, lambdaId := lambdaId, statusCallback := statusCallback } [] := .session
  cases hs : s.session with
  | register | assignId id | constructed | deregister | prepareForShutdown | resetController | close =>
    simp only [sessionStep, hs] at h
    rw [hs] at hmoved
    cases h
    exact hmoved _ _ _ _ rfl rfl
  | deactivate =>
    simp only [sessionStep, hs] at h
    split at h <;> cases h
    rename_i hmutex
    exact .deactivated hs (not_not.1 hmutex)
  | destroyTitleState =>
    simp only [sessionStep, hs] at h
    cases h
    exact .titleStateDestroyed hs
  | destroyGocator =>
    simp only [sessionStep, hs] at h
    cases h
    exact .gocatorDestroyed hs
  | destroyed =>
    simp only [sessionStep, hs] at h
    cases h

theorem step_effect {a : Action} (h : step s a = some (s', evs)) : Effect s s' evs := by
  cases a with
  | callbacks a => exact callbacksStep_effect h
  | lambda i input => exact lambdaStep_effect h
  | session => exact sessionStep_effect h
  | setCallback cb =>
    simp only [step, setCallback] at h
    split at h <;> cases h
    rename_i hfree
    obtain ⟨hs, hmutex⟩ := not_or.1 hfree
    exact .setCallback cb (not_not.1 hs) (not_not.1 hmutex)

end

/-! ## The mutex and the owners -/

/-- A call has the mutex while it reads the address, and reads it only before the title state is deactivated. -/
structure Guarded (s : State) : Prop where
  mutex : ∀ i, s.mutex = some i ↔ s.lambda i = .reading
  active : ∀ i, s.lambda i = .reading → s.titleState.active = true
  inactive : s.session.inactive = !s.titleState.active

/-- The title state is owned by those who work with it, once each. -/
structure Owned (s : State) : Prop where
  calls : ∀ i, .call i ∈ s.owners ↔ (s.lambda i).owns = true
  session : .session ∈ s.owners ↔ s.session.owns = true
  nodup : s.owners.Nodup

theorem guarded_init (callbacks : Callbacks.State) : Guarded (init callbacks) := by
  refine ⟨fun i => ⟨?_, ?_⟩, ?_, rfl⟩
  · rintro ⟨⟩
  · rintro ⟨⟩
  · rintro i ⟨⟩

theorem owned_init (callbacks : Callbacks.State) : Owned (init callbacks) := by
  refine ⟨fun i => iff_of_false ?_ ?_, iff_of_true (List.mem_cons_self ..) rfl, List.nodup_singleton _⟩
  · intro h
    cases List.mem_singleton.1 h
  · rintro ⟨⟩

section

variable {s s' : State} {evs : List Event} {i : Nat} {pc : LambdaPc}

/-- What holds of the call that moves and held of the others. -/
theorem forall_setLambda {P : Nat → LambdaPc → Prop} (hi : P i pc) (h : ∀ j, j ≠ i → P j (s.lambda j)) (j : Nat) :
    P j ((s.setLambda i pc).lambda j) := by
  by_cases hji : j = i
  · subst hji
    rw [show (s.setLambda j pc).lambda j = pc from Function.update_self ..]
    exact hi
  · rw [show (s.setLambda i pc).lambda j = s.lambda j from Function.update_of_ne hji ..]
    exact h j hji

/-- A call that comes neither from the mutex nor to it. -/
theorem Guarded.setLambda (hG : Guarded s) (hi : s.lambda i ≠ .reading) (hpc : pc ≠ .reading) :
    Guarded (s.setLambda i pc) := by
  constructor
  · refine forall_setLambda (P := fun j pc => s.mutex = some j ↔ pc = .reading) ?_ fun j _ => hG.mutex j
    exact iff_of_false (fun h => hi ((hG.mutex i).1 h)) hpc
  · exact forall_setLambda (P := fun _ pc => pc = .reading → s.titleState.active = true) (fun h => absurd h hpc)
      fun j _ => hG.active j
  · exact hG.inactive

/-- A call that moves and stays an owner, or stays none. -/
theorem Owned.setLambda (hO : Owned s) (h : pc.owns = (s.lambda i).owns) : Owned (s.setLambda i pc) := by
  refine ⟨?_, hO.session, hO.nodup⟩
  refine forall_setLambda (P := fun j pc => .call j ∈ s.owners ↔ pc.owns = true) ?_ fun j _ => hO.calls j
  rw [h]
  exact hO.calls i

theorem ne_reading_of_idle (h : pc.idle = true) : pc ≠ .reading := by
  rintro rfl
  cases h

theorem tell_ne_reading (callback : Option Nat) (title : String) : tell callback title ≠ .reading := by
  cases callback <;> (intro h; cases h)

theorem Guarded.not_reading (hG : Guarded s) (hmutex : s.mutex = none) (j : Nat) : s.lambda j ≠ .reading := by
  intro h
  rw [(hG.mutex j).2 h] at hmutex
  cases hmutex

theorem guarded_effect (hG : Guarded s) (h : Effect s s' evs) : Guarded s' := by
  cases h with
  | callbacks c => exact ⟨hG.mutex, hG.active, hG.inactive⟩
  | moved c i pc howns hi _ hidle =>
    have hG : Guarded { s with callbacks := c } := ⟨hG.mutex, hG.active, hG.inactive⟩
    exact hG.setLambda hi (ne_reading_of_idle hidle)
  | locked i _ hi =>
    have hG : Guarded { s with owners := .call i :: s.owners } := ⟨hG.mutex, hG.active, hG.inactive⟩
    refine hG.setLambda ?_ ?_
    · rw [hi]
      rintro ⟨⟩
    · rintro ⟨⟩
  | entered i _ hmutex hactive =>
    constructor
    · refine forall_setLambda (P := fun j pc => some i = some j ↔ pc = .reading) (iff_of_true rfl rfl) fun j hj => ?_
      exact iff_of_false (fun h => hj (Option.some.inj h).symm) (hG.not_reading hmutex j)
    · intro _ _
      exact hactive
    · exact hG.inactive
  | read i address pc hi hpc =>
    have hne : pc ≠ .reading := by
      rcases hpc with rfl | ⟨-, rfl⟩ <;> rintro ⟨⟩
    have hother : ∀ j, j ≠ i → s.lambda j ≠ .reading := by
      intro j hj hreading
      have heq := ((hG.mutex j).2 hreading).symm.trans ((hG.mutex i).2 hi)
      exact hj (Option.some.inj heq)
    constructor
    · refine forall_setLambda (P := fun j pc => none = some j ↔ pc = .reading) ?_ fun j hj => ?_
      · exact iff_of_false (fun h => by cases h) hne
      · exact iff_of_false (fun h => by cases h) (hother j hj)
    · exact forall_setLambda (P := fun _ pc => pc = .reading → s.titleState.active = true) (fun h => absurd h hne)
        fun j _ => hG.active j
    · exact hG.inactive
  | published i title hi hmutex hactive =>
    have hG : Guarded { s with titleState := { s.titleState with title := title } } :=
      ⟨hG.mutex, hG.active, hG.inactive⟩
    exact hG.setLambda (hG.not_reading hmutex i) (tell_ne_reading _ _)
  | called i cb title hi =>
    refine hG.setLambda ?_ ?_
    · rw [hi]
      rintro ⟨⟩
    · rintro ⟨⟩
  | released i hi =>
    have hG : Guarded { s with owners := s.owners.erase (.call i) } := ⟨hG.mutex, hG.active, hG.inactive⟩
    refine hG.setLambda ?_ ?_
    · rw [hi]
      rintro ⟨⟩
    · rintro ⟨⟩
  | session pc c lambdaId statusCallback hinactive =>
    exact ⟨hG.mutex, hG.active, hinactive.trans hG.inactive⟩
  | deactivated _ hmutex =>
    refine ⟨hG.mutex, fun j hj => ?_, rfl⟩
    exact absurd hj (hG.not_reading hmutex j)
  | titleStateDestroyed hs | gocatorDestroyed hs =>
    refine ⟨hG.mutex, hG.active, ?_⟩
    have h := hG.inactive
    rw [hs] at h
    exact h
  | setCallback cb _ _ => exact ⟨hG.mutex, hG.active, hG.inactive⟩

theorem owns_tell (callback : Option Nat) (title : String) : (tell callback title).owns = true := by
  cases callback <;> rfl

theorem Owned.locked (hO : Owned s) (hi : s.lambda i = .lock) :
    Owned ({ s with owners := .call i :: s.owners }.setLambda i .lockRead) := by
  have hnot : Owner.call i ∉ s.owners := by
    rw [hO.calls, hi]
    rintro ⟨⟩
  refine ⟨?_, ?_, List.nodup_cons.2 ⟨hnot, hO.nodup⟩⟩
  · refine forall_setLambda (P := fun j pc => .call j ∈ Owner.call i :: s.owners ↔ pc.owns = true) ?_ fun j hj => ?_
    · exact iff_of_true (List.mem_cons_self ..) rfl
    · exact (List.mem_cons.trans (or_iff_right fun heq => hj (Owner.call.inj heq))).trans (hO.calls j)
  · exact (List.mem_cons.trans (or_iff_right fun heq => by cases heq)).trans hO.session

theorem Owned.released (hO : Owned s) : Owned ({ s with owners := s.owners.erase (.call i) }.setLambda i .outside) := by
  refine ⟨?_, ?_, hO.nodup.erase _⟩
  · refine forall_setLambda (P := fun j pc => .call j ∈ s.owners.erase (.call i) ↔ pc.owns = true) ?_ fun j hj => ?_
    · exact iff_of_false hO.nodup.not_mem_erase (by rintro ⟨⟩)
    · exact (List.mem_erase_of_ne fun heq => hj (Owner.call.inj heq)).trans (hO.calls j)
  · exact (List.mem_erase_of_ne fun heq => by cases heq).trans hO.session

theorem owned_effect (hO : Owned s) (h : Effect s s' evs) : Owned s' := by
  have hsame : ∀ {s'}, s'.lambda = s.lambda → s'.owners = s.owners → s'.session.owns = s.session.owns → Owned s' := by
    intro s' hlambda howners hsession
    refine ⟨?_, ?_, ?_⟩
    · rw [hlambda, howners]
      exact hO.calls
    · rw [howners, hsession]
      exact hO.session
    · rw [howners]
      exact hO.nodup
  cases h with
  | callbacks | setCallback => exact hsame rfl rfl rfl
  | moved c i pc howns =>
    have hO : Owned { s with callbacks := c } := hsame rfl rfl rfl
    exact hO.setLambda howns
  | locked i _ hi => exact hO.locked hi
  | entered i hi =>
    have hO : Owned { s with mutex := some i } := hsame rfl rfl rfl
    exact hO.setLambda (congrArg LambdaPc.owns hi).symm
  | read i address pc hi hpc =>
    have hO : Owned { s with mutex := none } := hsame rfl rfl rfl
    refine hO.setLambda (.trans ?_ (congrArg LambdaPc.owns hi).symm)
    rcases hpc with rfl | ⟨-, rfl⟩ <;> rfl
  | published i title hi =>
    have hO : Owned { s with titleState := { s.titleState with title := title } } := hsame rfl rfl rfl
    exact hO.setLambda ((owns_tell _ _).trans (congrArg LambdaPc.owns hi).symm)
  | called i cb title hi => exact hO.setLambda (congrArg LambdaPc.owns hi).symm
  | released i => exact hO.released
  | session pc c lambdaId statusCallback _ howns => exact hsame rfl rfl howns
  | deactivated hs => exact hsame rfl rfl (congrArg SessionPc.owns hs).symm
  | titleStateDestroyed =>
    refine ⟨fun j => (List.mem_erase_of_ne fun heq => by cases heq).trans (hO.calls j), ?_, hO.nodup.erase _⟩
    exact iff_of_false hO.nodup.not_mem_erase (by rintro ⟨⟩)
  | gocatorDestroyed hs => exact hsame rfl rfl (congrArg SessionPc.owns hs).symm

/-- The title state is freed when nobody works with it, and not before. -/
theorem Owned.freed_iff (hO : Owned s) :
    s.owners = [] ↔ s.session.owns = false ∧ ∀ i, (s.lambda i).owns = false := by
  constructor
  · intro hnil
    refine ⟨?_, fun i => ?_⟩
    · rw [Bool.eq_false_iff, ne_eq, ← hO.session, hnil]
      exact List.not_mem_nil
    · rw [Bool.eq_false_iff, ne_eq, ← hO.calls, hnil]
      exact List.not_mem_nil
  · rintro ⟨hsession, hcalls⟩
    refine List.eq_nil_iff_forall_not_mem.2 fun owner hmem => ?_
    cases owner with
    | session => rw [hO.session, hsession] at hmem; cases hmem
    | call i => rw [hO.calls, hcalls] at hmem; cases hmem

end

/-! ## The shutdown -/

/-- The session gives something up. -/
def Event.ending : Event → Bool
  | .deactivated | .gocatorDestroyed => true
  | _ => false

/-- The facade is read, or the title changes. -/
def Event.working : Event → Bool
  | .reads .. | .published .. => true
  | _ => false

/-- After the deactivation nothing works, and before it nothing ends. -/
structure Silent (tr : List Event) (s : State) : Prop where
  active : s.titleState.active = true → ∀ e ∈ tr, e.ending = false
  apart : tr.Pairwise fun e e' => e.ending = true → e'.working = false

section

variable {s s' : State} {tr evs : List Event}

theorem Silent.append (hS : Silent tr s) (hactive : s'.titleState.active = true → s.titleState.active = true)
    (hevs : ∀ e ∈ evs, e.ending = false) (hwork : s.titleState.active = true ∨ ∀ e ∈ evs, e.working = false) :
    Silent (tr ++ evs) s' := by
  constructor
  · intro h e he
    rcases List.mem_append.1 he with he | he
    · exact hS.active (hactive h) e he
    · exact hevs e he
  · refine List.pairwise_append.2 ⟨hS.apart, ?_, fun e he e' he' hend => ?_⟩
    · refine List.pairwise_of_forall_mem_list fun e he _ _ hend => ?_
      rw [hevs e he] at hend
      cases hend
    · rcases hwork with hact | hwork
      · rw [hS.active hact e he] at hend
        cases hend
      · exact hwork e' he'

/-- The events of the destructor. -/
theorem Silent.end {e : Event} (hS : Silent tr s) (hactive : s'.titleState.active = false) (he : e.working = false) :
    Silent (tr ++ [e]) s' := by
  constructor
  · intro h
    rw [hactive] at h
    cases h
  · refine List.pairwise_append.2 ⟨hS.apart, List.pairwise_singleton .., fun _ _ e' he' _ => ?_⟩
    rw [List.mem_singleton.1 he']
    exact he

theorem silent_effect (hG : Guarded s) (hS : Silent tr s) (h : Effect s s' evs) : Silent (tr ++ evs) s' := by
  have hquiet : ∀ {s'}, s'.titleState.active = s.titleState.active → Silent (tr ++ []) s' := fun hactive =>
    hS.append (fun h => hactive ▸ h) (fun _ he => by cases he) (.inr fun _ he => by cases he)
  cases h with
  | callbacks | moved | locked | entered | released | session | titleStateDestroyed | setCallback => exact hquiet rfl
  | read i address pc hi =>
    exact hS.append (fun h => h) (fun e he => by rw [List.mem_singleton.1 he]; rfl) (.inl (hG.active i hi))
  | published i title _ _ hactive =>
    exact hS.append (fun h => h) (fun e he => by rw [List.mem_singleton.1 he]; rfl) (.inl hactive)
  | called i cb title =>
    refine hS.append (fun h => h) ?_ (.inr ?_) <;> (intro e he; rw [List.mem_singleton.1 he]; rfl)
  | deactivated => exact hS.end rfl rfl
  | gocatorDestroyed hs =>
    refine hS.end ?_ rfl
    have h := hG.inactive
    rw [hs] at h
    exact Bool.not_eq_true _ |>.mp fun htrue => by rw [htrue] at h; cases h

end

/-! ## The titles told -/

/-- The titles that a call has published while the host had a callback, with this callback. -/
def publishedBy (i : Nat) (tr : List Event) : List (Nat × String) :=
  tr.filterMap fun
    | .published j title (some cb) => if j = i then some (cb, title) else none
    | _ => none

/-- The calls of the host that a call has made. -/
def calledBy (i : Nat) (tr : List Event) : List (Nat × String) :=
  tr.filterMap fun
    | .calls j cb title => if j = i then some (cb, title) else none
    | _ => none

/-- A title is published or told. -/
def Event.telling : Event → Bool
  | .published .. | .calls .. => true
  | _ => false

/-- The title of an event that sets it. -/
def Event.title : Event → Option String
  | .published _ title _ => some title
  | _ => none

/-- The title after a run. -/
def lastTitle (tr : List Event) : String := (tr.filterMap Event.title).getLastD TitleState.init.title

/-- The title comes from an address that the call has read. -/
def FromAddress (tr : List Event) (i : Nat) (title : String) : Prop :=
  ∃ address, address ≠ "" ∧ title = titleOf address ∧ .reads i address ∈ tr

/-- What has been published has been told or is in hand, and what is published has been read. -/
structure Told (tr : List Event) (s : State) : Prop where
  told : ∀ i, publishedBy i tr = calledBy i tr ++ (s.lambda i).pending
  title : s.titleState.title = lastTitle tr
  inHand : ∀ i title, s.lambda i = .lockPublish title → FromAddress tr i title
  published : ∀ i title cb, .published i title cb ∈ tr → FromAddress tr i title

theorem told_init (callbacks : Callbacks.State) : Told [] (init callbacks) := by
  refine ⟨fun _ => rfl, rfl, ?_, ?_⟩
  · rintro i title ⟨⟩
  · rintro i title cb ⟨⟩

@[simp] theorem publishedBy_append (i : Nat) (tr evs : List Event) :
    publishedBy i (tr ++ evs) = publishedBy i tr ++ publishedBy i evs := List.filterMap_append

@[simp] theorem calledBy_append (i : Nat) (tr evs : List Event) :
    calledBy i (tr ++ evs) = calledBy i tr ++ calledBy i evs := List.filterMap_append

theorem FromAddress.append {tr : List Event} {i : Nat} {title : String} (h : FromAddress tr i title)
    (evs : List Event) : FromAddress (tr ++ evs) i title := by
  obtain ⟨address, hne, htitle, hread⟩ := h
  exact ⟨address, hne, htitle, List.mem_append_left _ hread⟩

section

variable {s s' : State} {tr evs : List Event} {i : Nat} {pc : LambdaPc}

theorem publishedBy_quiet (h : ∀ e ∈ evs, e.telling = false) (i : Nat) : publishedBy i evs = [] := by
  refine List.filterMap_eq_nil_iff.2 fun e he => ?_
  cases e with
  | published j title cb => cases h _ he
  | _ => rfl

theorem calledBy_quiet (h : ∀ e ∈ evs, e.telling = false) (i : Nat) : calledBy i evs = [] := by
  refine List.filterMap_eq_nil_iff.2 fun e he => ?_
  cases e with
  | calls j cb title => cases h _ he
  | _ => rfl

theorem lastTitle_quiet (h : ∀ e ∈ evs, e.telling = false) : lastTitle (tr ++ evs) = lastTitle tr := by
  have hnone : evs.filterMap Event.title = [] := by
    refine List.filterMap_eq_nil_iff.2 fun e he => ?_
    cases e with
    | published j title cb => cases h _ he
    | _ => rfl
  rw [lastTitle, List.filterMap_append, hnone, List.append_nil]
  rfl

/-- Events that tell nothing, and a state that differs in nothing a title depends on. -/
theorem Told.kept (hT : Told tr s) (hevs : ∀ e ∈ evs, e.telling = false) (hlambda : s'.lambda = s.lambda)
    (htitle : s'.titleState.title = s.titleState.title) : Told (tr ++ evs) s' := by
  refine ⟨fun i => ?_, ?_, fun i title h => ?_, fun i title cb h => ?_⟩
  · rw [hlambda, publishedBy_append, calledBy_append, publishedBy_quiet hevs, calledBy_quiet hevs, List.append_nil,
      List.append_nil]
    exact hT.told i
  · rw [htitle, lastTitle_quiet hevs]
    exact hT.title
  · rw [hlambda] at h
    exact (hT.inHand i title h).append evs
  · rcases List.mem_append.1 h with h | h
    · exact (hT.published i title cb h).append evs
    · cases hevs _ h

/-- A call that moves with what it has in hand. -/
theorem Told.setLambda (hT : Told tr s) (hi : pc.pending = (s.lambda i).pending)
    (hhand : ∀ title, pc = .lockPublish title → FromAddress tr i title) : Told tr (s.setLambda i pc) := by
  refine ⟨?_, hT.title, ?_, hT.published⟩
  · refine forall_setLambda (P := fun j pc => publishedBy j tr = calledBy j tr ++ pc.pending) ?_ fun j _ => hT.told j
    rw [hi]
    exact hT.told i
  · exact forall_setLambda (P := fun j pc => ∀ t, pc = .lockPublish t → FromAddress tr j t) hhand fun j _ => hT.inHand j

theorem told_published {title : String} (hT : Told tr s) (hi : s.lambda i = .lockPublish title) :
    Told (tr ++ [.published i title s.titleState.callback])
      ({ s with titleState := { s.titleState with title := title } }.setLambda i
        (tell s.titleState.callback title)) := by
  refine ⟨?_, ?_, ?_, fun j t cb h => ?_⟩
  · refine forall_setLambda (P := fun j pc => publishedBy j (tr ++ [.published i title s.titleState.callback]) =
      calledBy j (tr ++ [.published i title s.titleState.callback]) ++ pc.pending) ?_ fun j hj => ?_
    · have hbefore := hT.told i
      rw [hi] at hbefore
      rw [publishedBy_append, calledBy_append, hbefore]
      cases s.titleState.callback <;> simp [publishedBy, calledBy, tell, LambdaPc.pending]
    · have hnone : publishedBy j [.published i title s.titleState.callback] = [] := by
        cases s.titleState.callback <;> simp [publishedBy, Ne.symm hj]
      have hcalled : calledBy j [.published i title s.titleState.callback] = [] := rfl
      rw [publishedBy_append, calledBy_append, hnone, hcalled, List.append_nil, List.append_nil]
      exact hT.told j
  · show title = _
    simp [lastTitle, Event.title]
  · refine forall_setLambda (P := fun j pc => ∀ t, pc = .lockPublish t → FromAddress (tr ++ _) j t) ?_ ?_
    · intro t ht
      cases hcb : s.titleState.callback <;> (rw [hcb] at ht; cases ht)
    · exact fun j _ t ht => (hT.inHand j t ht).append _
  · rcases List.mem_append.1 h with h | h
    · exact (hT.published j t cb h).append _
    · cases List.mem_singleton.1 h
      exact (hT.inHand i title hi).append _

theorem told_called {cb : Nat} {title : String} (hT : Told tr s) (hi : s.lambda i = .callback cb title) :
    Told (tr ++ [.calls i cb title]) (s.setLambda i .inCallback) := by
  have hnone : ∀ j, publishedBy j [.calls i cb title] = [] := fun _ => rfl
  refine ⟨?_, ?_, ?_, fun j t c h => ?_⟩
  · refine forall_setLambda (P := fun j pc => publishedBy j (tr ++ [.calls i cb title]) =
      calledBy j (tr ++ [.calls i cb title]) ++ pc.pending) ?_ fun j hj => ?_
    · have hbefore := hT.told i
      rw [hi] at hbefore
      rw [publishedBy_append, calledBy_append, hbefore, hnone]
      simp [calledBy, LambdaPc.pending]
    · have hcalled : calledBy j [.calls i cb title] = [] := by simp [calledBy, Ne.symm hj]
      rw [publishedBy_append, calledBy_append, hnone, hcalled, List.append_nil, List.append_nil]
      exact hT.told j
  · rw [lastTitle, List.filterMap_append]
    exact hT.title.trans (congrArg (List.getLastD · _) (List.append_nil _).symm)
  · refine forall_setLambda (P := fun j pc => ∀ t, pc = .lockPublish t → FromAddress (tr ++ _) j t) ?_ ?_
    · intro t ht
      cases ht
    · exact fun j _ t ht => (hT.inHand j t ht).append _
  · rcases List.mem_append.1 h with h | h
    · exact (hT.published j t c h).append _
    · cases List.mem_singleton.1 h

/-- A title in hand is neither read nor told on the way. -/
theorem pending_of_idle (h : pc.idle = true) : pc.pending = [] ∧ ∀ title, pc ≠ .lockPublish title := by
  cases pc with
  | reading | lockPublish | callback => cases h
  | _ => exact ⟨rfl, fun _ h => by cases h⟩

theorem told_effect (hT : Told tr s) (h : Effect s s' evs) : Told (tr ++ evs) s' := by
  have hsame : ∀ {s'}, s'.lambda = s.lambda → s'.titleState.title = s.titleState.title → Told (tr ++ []) s' :=
    hT.kept fun _ he => by cases he
  cases h with
  | callbacks | session | titleStateDestroyed | setCallback => exact hsame rfl rfl
  | moved c i pc _ _ hpending hidle =>
    obtain ⟨hpc, hhand⟩ := pending_of_idle hidle
    have hT : Told (tr ++ []) { s with callbacks := c } := hsame rfl rfl
    exact hT.setLambda (hpc.trans hpending.symm) fun title h => absurd h (hhand title)
  | locked i _ hi =>
    have hT : Told (tr ++ []) { s with owners := .call i :: s.owners } := hsame rfl rfl
    exact hT.setLambda (congrArg LambdaPc.pending hi).symm fun title h => by cases h
  | entered i hi =>
    have hT : Told (tr ++ []) { s with mutex := some i } := hsame rfl rfl
    exact hT.setLambda (congrArg LambdaPc.pending hi).symm fun title h => by cases h
  | read i address pc hi hpc =>
    have hT : Told (tr ++ [.reads i address]) { s with mutex := none } :=
      hT.kept (fun e he => by rw [List.mem_singleton.1 he]; rfl) rfl rfl
    rcases hpc with rfl | ⟨hne, rfl⟩
    · exact hT.setLambda (congrArg LambdaPc.pending hi).symm fun title h => by cases h
    · refine hT.setLambda (congrArg LambdaPc.pending hi).symm fun title h => ?_
      cases h
      exact ⟨address, hne, rfl, List.mem_append_right _ (List.mem_singleton_self _)⟩
  | published i title hi => exact told_published hT hi
  | called i cb title hi => exact told_called hT hi
  | released i hi =>
    have hT : Told (tr ++ []) { s with owners := s.owners.erase (.call i) } := hsame rfl rfl
    exact hT.setLambda (congrArg LambdaPc.pending hi).symm fun title h => by cases h
  | deactivated | gocatorDestroyed => exact hT.kept (fun e he => by rw [List.mem_singleton.1 he]; rfl) rfl rfl

end

/-! ## Over whole runs -/

section

variable {callbacks : Callbacks.State} {tr : List Event} {s : State}

theorem guarded_run (h : Run step anyStep (init callbacks) tr s) : Guarded s :=
  h.invariant (I := fun _ s => Guarded s) (guarded_init callbacks)
    fun _ _ _ _ _ hG _ hstep => guarded_effect hG (step_effect hstep)

theorem owned_run (h : Run step anyStep (init callbacks) tr s) : Owned s :=
  h.invariant (I := fun _ s => Owned s) (owned_init callbacks)
    fun _ _ _ _ _ hO _ hstep => owned_effect hO (step_effect hstep)

theorem silent_run (h : Run step anyStep (init callbacks) tr s) : Silent tr s := by
  suffices hboth : Guarded s ∧ Silent tr s from hboth.2
  refine h.invariant (I := fun tr s => Guarded s ∧ Silent tr s) ⟨guarded_init callbacks, ?_, .nil⟩ ?_
  · rintro - e ⟨⟩
  · rintro _ _ _ _ _ ⟨hG, hS⟩ - hstep
    have heffect := step_effect hstep
    exact ⟨guarded_effect hG heffect, silent_effect hG hS heffect⟩

/-- After the title state is deactivated, and so after the facade is destroyed, the facade is not read and the title
does not change. The title state is freed once the session and the last call that works with it have left it. A call
that has the mutex reads the address, so the host is called without it. -/
theorem session_shutdown_safe (h : Run step anyStep (init callbacks) tr s) :
    (tr.Pairwise fun e e' => e.ending = true → e'.working = false) ∧
      (s.session.inactive = true → ∀ i, s.lambda i ≠ .reading) ∧
      (s.owners = [] ↔ s.session.owns = false ∧ ∀ i, (s.lambda i).owns = false) ∧
      ∀ i, s.mutex = some i ↔ s.lambda i = .reading := by
  have hG := guarded_run h
  refine ⟨(silent_run h).apart, fun hs i hi => ?_, (owned_run h).freed_iff, hG.mutex⟩
  have hinactive := hG.inactive
  rw [hs, hG.active i hi] at hinactive
  cases hinactive

/-- Every call has told the host each title it has published, once and in order, but for one in hand. The title of
the session is the one published last, and a published title has an address that the call has read. -/
theorem titles_told_once (h : Run step anyStep (init callbacks) tr s) :
    (∀ i, publishedBy i tr = calledBy i tr ++ (s.lambda i).pending) ∧ s.titleState.title = lastTitle tr ∧
      ∀ i title cb, .published i title cb ∈ tr → FromAddress tr i title := by
  have hT : Told tr s := h.invariant (I := Told) (told_init callbacks)
    fun _ _ _ _ _ hT _ hstep => told_effect hT (step_effect hstep)
  exact ⟨hT.told, hT.title, hT.published⟩

end

/-- Two dispatches of the connection start the lambda. The first has published and yet to tell the host when the
session is destroyed; the second comes to the title state after its deactivation. -/
def lateMoves : List Action :=
  let connected : Input := ⟨.connection, true, "192.168.1.10"⟩
  [.session, .session, .setCallback (some 7), .callbacks (.call .notifyStatus), .callbacks (.call .notifyStatus),
    .callbacks (.step 0), .callbacks (.step 1), .callbacks (.step 0), .callbacks (.step 1)] ++
    List.replicate 5 (.lambda 0 connected) ++ [.lambda 1 connected, .lambda 1 connected] ++
    List.replicate 7 .session ++ [.lambda 1 connected, .lambda 1 connected, .session, .lambda 0 connected]

theorem session_shutdown_safe_late : ∃ tr s, Run step anyStep (init Callbacks.init) tr s ∧
    tr = [.reads 0 "192.168.1.10", .published 0 (titleOf "192.168.1.10") (some 7), .deactivated, .gocatorDestroyed,
      .calls 0 7 (titleOf "192.168.1.10")] ∧ s.owners = [.call 0] ∧
    (s.owners = [] ↔ s.session.owns = false ∧ ∀ i, (s.lambda i).owns = false) := by
  obtain ⟨tr, s, h, htr, hs⟩ : ∃ tr s, Run step anyStep (init Callbacks.init) tr s ∧
      tr = [.reads 0 "192.168.1.10", .published 0 (titleOf "192.168.1.10") (some 7), .deactivated, .gocatorDestroyed,
        .calls 0 7 (titleOf "192.168.1.10")] ∧ s.owners = [.call 0] :=
    ⟨_, _, exec_get step anyStep lateMoves (init Callbacks.init) rfl, by decide⟩
  exact ⟨tr, s, h, htr, hs, (session_shutdown_safe h).2.2.1⟩

theorem titles_told_once_late : ∃ tr s, Run step anyStep (init Callbacks.init) tr s ∧
    calledBy 0 tr = [(7, titleOf "192.168.1.10")] ∧
    (∀ i, publishedBy i tr = calledBy i tr ++ (s.lambda i).pending) := by
  obtain ⟨tr, s, h, htr⟩ : ∃ tr s, Run step anyStep (init Callbacks.init) tr s ∧
      calledBy 0 tr = [(7, titleOf "192.168.1.10")] :=
    ⟨_, _, exec_get step anyStep lateMoves (init Callbacks.init) rfl, by decide⟩
  exact ⟨tr, s, h, htr, (titles_told_once h).1⟩

end Gocator.Callbacks.SessionTitle

/-
`GocatorAcquisition` and its `GocatorConnection` over an SDK that may answer or throw at any call, with
all calls so far in view. The calls are kept in order, and so is whether the sensor runs.
-/
import Mathlib.Algebra.Order.Ring.Int
import Gocator.Lib.Exits
import Gocator.Acquisition.Decode

namespace Gocator.Acquisition

open Exits

/-! ## The SDK -/

/-- The calls that are made of `GoSystem` and `GoGdpClient`. -/
inductive SdkCall where
  | isConnected
  | connect
  | newGdpClient
  | gdpIsConnected
  | address
  | gdpPort
  | gdpConnect (address : String) (port : Nat)
  | start
  | stop
  | clearData
  | receiveDataSync (timeout : Nat)
  | dataSet
  deriving DecidableEq, Repr

/-- What a call returns. -/
abbrev SdkCall.Answer (R : Type) : SdkCall → Type
  | .isConnected | .gdpIsConnected => Bool
  | .address => String
  | .gdpPort => Nat
  | .dataSet => List (GdpMsg R)
  | _ => Unit

/-- How the SDK behaves after the calls made so far; `E` is what it throws. -/
structure Sdk (R E : Type) where
  answer : List SdkCall → (c : SdkCall) → Except E (c.Answer R)
  /-- A start or a stop that throws has taken effect all the same. -/
  takesEffect : List SdkCall → SdkCall → Bool

/-- The acquisition and its sensor. -/
structure World where
  /-- `gdpClient_` is not null. -/
  gdpClient : Bool
  calls : List SdkCall
  running : Bool
  deriving DecidableEq, Repr

/-- What the grab functions throw. -/
inductive Thrown (E : Type) where
  | sdk (e : E)
  /-- `std::logic_error`. -/
  | gdpNotConnected
  /-- A data set that cannot be decoded. -/
  | badCast (e : BadCast)
  deriving DecidableEq, Repr

abbrev Acq (E α : Type) := EStateM (Thrown E) World α

section

variable {R E : Type}

/-- The call returns, or throws after it has taken effect. -/
def Sdk.effective (sdk : Sdk R E) (calls : List SdkCall) (c : SdkCall) : Bool :=
  match sdk.answer calls c with
  | .ok _ => true
  | .error _ => sdk.takesEffect calls c

/-- The world after a call. -/
def World.after (sdk : Sdk R E) (w : World) (c : SdkCall) : World :=
  { w with
    calls := w.calls ++ [c]
    running :=
      if sdk.effective w.calls c then
        match c with
        | .start => true
        | .stop => false
        | _ => w.running
      else w.running }

def call (sdk : Sdk R E) (c : SdkCall) : Acq E (c.Answer R) := fun w =>
  match sdk.answer w.calls c with
  | .ok answer => .ok answer (w.after sdk c)
  | .error e => .error (.sdk e) (w.after sdk c)

end

/-! ## The source's functions -/

section

variable {R E : Type} [Zero R] [Add R] [Mul R] [Div R] [NatCast R] [IntCast R]
variable (sdk : Sdk R E) (formatName : Int → String)

/-! `connect`, step by step. -/

def connectSystem : Acq E Unit := do
  if !(← call sdk .isConnected) then call sdk .connect

def makeGdpClient : Acq E Unit := do
  if !(← get).gdpClient then
    call sdk .newGdpClient
    modify fun w => { w with gdpClient := true }

def connectGdp : Acq E Unit := do
  if !(← call sdk .gdpIsConnected) then
    let address ← call sdk .address
    let port ← call sdk .gdpPort
    call sdk (.gdpConnect address port)

def connect : Acq E Unit := do
  connectSystem sdk
  makeGdpClient sdk
  connectGdp sdk

def start : Acq E Unit := call sdk .start

def stop : Acq E Unit := call sdk .stop

def stopNoThrow : Acq E Unit := tryCatch (stop sdk) fun _ => pure ()

/-- `static_cast<k64u>`. -/
def toK64u (timeoutMs : Int) : Nat := (timeoutMs % 2 ^ 64).toNat

def receiveOne (timeoutMs : Int) : Acq E (Frame R) := do
  if !(← get).gdpClient then throw .gdpNotConnected
  else if !(← call sdk .gdpIsConnected) then throw .gdpNotConnected
  else
    call sdk .clearData
    call sdk (.receiveDataSync (toK64u timeoutMs))
    let dataSet ← call sdk .dataSet
    match frameFromDataSet formatName dataSet with
    | .ok frame => return frame
    | .error e => throw (.badCast e)

/-- What every exit of a grab does. -/
def stopAfter (stopAfterReceive : Bool) : Acq E Unit := do
  if stopAfterReceive then stopNoThrow sdk

def grabOne (timeoutMs : Int) (stopAfterReceive : Bool) : Acq E (Frame R) := do
  connect sdk
  start sdk
  tryCatch
    (do
      let frame ← receiveOne sdk formatName timeoutMs
      stopAfter sdk stopAfterReceive
      return frame)
    fun e => do
      stopAfter sdk stopAfterReceive
      throw e

/-- The loop over the frames that are left; `lastFrame` is what the frame before was. -/
def grabLoop (timeoutMs : Int) (stopAfterReceive : Bool) : Nat → Frame R → Acq E (Frame R)
  | 0, lastFrame => do
    stopAfter sdk stopAfterReceive
    return lastFrame
  | left + 1, _ => do
    let lastFrame ← receiveOne sdk formatName timeoutMs
    if !lastFrame.images.isEmpty then
      stopAfter sdk stopAfterReceive
      return lastFrame
    else if lastFrame.profiles.any (·.validCount > 0) then
      stopAfter sdk stopAfterReceive
      return lastFrame
    else grabLoop timeoutMs stopAfterReceive left lastFrame

/-- A frame just constructed. -/
def Frame.empty : Frame R where
  messageCount := 0
  messages := []
  images := []
  profiles := []
  spots := []

def grabUntilValidProfile (timeoutMs maxFrames : Int) (stopAfterReceive : Bool) : Acq E (Frame R) := do
  connect sdk
  start sdk
  tryCatch (grabLoop sdk formatName timeoutMs stopAfterReceive (max 1 maxFrames).toNat .empty) fun e => do
    stopAfter sdk stopAfterReceive
    throw e

end

/-! ## What the calls leave -/

section

variable {R E : Type} {sdk : Sdk R E} {w : World} {c : SdkCall}

@[simp] theorem after_calls : (w.after sdk c).calls = w.calls ++ [c] := rfl

@[simp] theorem after_gdpClient : (w.after sdk c).gdpClient = w.gdpClient := rfl

theorem after_running (hstart : c ≠ .start) (hstop : c ≠ .stop) : (w.after sdk c).running = w.running := by
  unfold World.after
  split
  · cases c <;> first | rfl | contradiction
  · rfl

theorem final_call (sdk : Sdk R E) (c : SdkCall) (w : World) : final (call sdk c w) = w.after sdk c := by
  unfold call
  split <;> rfl

/-- Calls were made, none of them a start or a stop. -/
structure Quiet (w w' : World) : Prop where
  calls : ∃ calls, w'.calls = w.calls ++ calls ∧ .start ∉ calls ∧ .stop ∉ calls
  running : w'.running = w.running

instance : Std.Refl Quiet where
  refl w := ⟨⟨[], by simp⟩, rfl⟩

instance : IsTrans World Quiet where
  trans w w' w'' h h' := by
    obtain ⟨calls, heq, hstart, hstop⟩ := h.calls
    obtain ⟨calls', heq', hstart', hstop'⟩ := h'.calls
    refine ⟨⟨calls ++ calls', ?_, ?_, ?_⟩, h'.running.trans h.running⟩
    · rw [heq', heq, List.append_assoc]
    · simp [hstart, hstart']
    · simp [hstop, hstop']

theorem keeps_call (hstart : c ≠ .start) (hstop : c ≠ .stop) : Keeps Quiet (call sdk c) := by
  intro w
  rw [final_call]
  refine ⟨⟨[c], rfl, ?_, ?_⟩, after_running hstart hstop⟩
  · simpa using hstart.symm
  · simpa using hstop.symm

theorem keeps_setClient : Keeps Quiet (modify fun w => { w with gdpClient := true } : Acq E Unit) :=
  fun w => ⟨⟨[], (List.append_nil w.calls).symm, List.not_mem_nil, List.not_mem_nil⟩, rfl⟩

theorem keeps_connectSystem (sdk : Sdk R E) : Keeps Quiet (connectSystem sdk) := by
  refine .bind (keeps_call (by decide) (by decide)) fun connected => .ite ?_ (.pure _)
  exact keeps_call (by decide) (by decide)

theorem keeps_makeGdpClient (sdk : Sdk R E) : Keeps Quiet (makeGdpClient sdk) := by
  refine .bind .get fun w => .ite ?_ (.pure _)
  exact .bind (keeps_call (by decide) (by decide)) fun _ => keeps_setClient

theorem keeps_connectGdp (sdk : Sdk R E) : Keeps Quiet (connectGdp sdk) := by
  refine .bind (keeps_call (by decide) (by decide)) fun connected => .ite ?_ (.pure _)
  refine .bind (keeps_call (by decide) (by decide)) fun address => ?_
  refine .bind (keeps_call (by decide) (by decide)) fun port => ?_
  exact keeps_call nofun (by rintro ⟨⟩)

theorem keeps_connect (sdk : Sdk R E) : Keeps Quiet (connect sdk) :=
  .bind (keeps_connectSystem sdk) fun _ => .bind (keeps_makeGdpClient sdk) fun _ => keeps_connectGdp sdk

theorem keeps_receiveOne [Zero R] [Add R] [Mul R] [Div R] [NatCast R] [IntCast R] (sdk : Sdk R E)
    (formatName : Int → String) (timeoutMs : Int) : Keeps Quiet (receiveOne sdk formatName timeoutMs) := by
  refine .bind .get fun w => .ite (.throw _) ?_
  refine .bind (keeps_call (by decide) (by decide)) fun connected => .ite (.throw _) ?_
  refine .bind (keeps_call (by decide) (by decide)) fun _ => ?_
  refine .bind (keeps_call nofun (by rintro ⟨⟩)) fun _ => ?_
  refine .bind (keeps_call (by decide) (by decide)) fun dataSet => ?_
  cases frameFromDataSet formatName dataSet with
  | ok frame => exact .pure _
  | error e => exact .throw _

theorem stopNoThrow_run (sdk : Sdk R E) (w : World) : stopNoThrow sdk w = .ok () (w.after sdk .stop) := by
  unfold stopNoThrow stop
  cases h : call sdk .stop w with
  | ok answer w' =>
    rw [tryCatch_ok h, ← final_call, h]
    rfl
  | error e w' =>
    rw [tryCatch_error h, ← final_call, h]
    rfl

end

end Gocator.Acquisition

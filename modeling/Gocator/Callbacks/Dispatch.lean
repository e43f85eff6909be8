/-
The two callback registries of the facade in concurrent use. Any number of calls are in progress at
once, on whichever threads: of `notifyStatus`, of `handleData`, and of the functions that register,
deregister and clear callbacks. A call a callback makes is one more call in progress. A step is one
locked section, one atomic load, the start or the end of one callback, or the return of a call; a
dispatch copies the registered functions in its locked section and calls them after it.
-/
import Gocator.Lib.Run
import Gocator.Facade.Impl

namespace Gocator.Callbacks

open Gocator.Facade

/-- The registries, each under a mutex of its own. -/
inductive Kind where
  | statusObservers
  | grabCallbacks
  deriving DecidableEq, Repr

/-! ## Program points -/

/-- The functions that work on a registry: the dispatches first. -/
inductive Call where
  | notifyStatus
  | handleData
  | register (k : Kind) (callable : Bool)
  | deregister (k : Kind) (id : Nat)
  | clear (k : Kind)
  deriving DecidableEq, Repr

/-- Where a call stands. -/
inductive CallPc where
  /-- `if (!isGrabbing.load()) return;` -/
  | loadGrabbing
  /-- Before the locked section that copies the callbacks. -/
  | snapshot (k : Kind)
  | dispatch (k : Kind) (rest : List Callback)
  | inCallback (k : Kind) (id : Nat) (rest : List Callback)
  | register (k : Kind) (callable : Bool)
  | deregister (k : Kind) (id : Nat)
  | clear (k : Kind)
  /-- The callbacks with these ids have been erased, and the call is about to return. -/
  | removed (k : Kind) (ids : List Nat)
  | returned
  deriving DecidableEq, Repr

def enter : Call → CallPc
  | .notifyStatus => .snapshot .statusObservers
  | .handleData => .loadGrabbing
  | .register k callable => .register k callable
  | .deregister k id => .deregister k id
  | .clear k => .clear k

/-- The callback is in the call's copy, is not empty, and has yet to be called. -/
def CallPc.ahead (k : Kind) (id : Nat) : CallPc → Bool
  | .dispatch k' rest | .inCallback k' _ rest => k' = k ∧ ⟨id, true⟩ ∈ rest
  | _ => false

/-! ## The machine -/

/-- The registries of the facade, with every call that was begun on any thread. -/
structure State where
  isGrabbing : Bool
  registry : Kind → Registry
  /-- Every call made so far. -/
  calls : List CallPc

def init : State := ⟨false, fun _ => .empty, []⟩

/-- The next move: a call begins or goes on, or something outside the calls changes. -/
inductive Action where
  | call (c : Call)
  | step (i : Nat)
  /-- `grab` or `stop` stores the flag. -/
  | grabbing (on : Bool)
  /-- The unordered map changes its iteration order. -/
  | rehash (k : Kind) (l : List Callback)

/-- What is seen from outside: a registration, the start of a callback, a removal that is done. -/
inductive Event where
  | registered (k : Kind) (id : Nat)
  | invoked (k : Kind) (id : Nat)
  /-- `deregister` has returned true, or `clear` has returned. -/
  | removed (k : Kind) (ids : List Nat)
  deriving DecidableEq, Repr

namespace State

def setRegistry (s : State) (k : Kind) (r : Registry) : State :=
  { s with registry := Function.update s.registry k r }

/-- The call `i` has got to `pc`. -/
def setCall (s : State) (i : Nat) (pc : CallPc) : State := { s with calls := s.calls.set i pc }

/-- Some call in progress will call this callback. -/
def ahead (s : State) (k : Kind) (id : Nat) : Prop := ∃ pc ∈ s.calls, pc.ahead k id = true

instance (s : State) (k : Kind) (id : Nat) : Decidable (s.ahead k id) := by unfold ahead; infer_instance

end State

/-- One step of the call `i`. -/
def callStep (s : State) (i : Nat) : CallPc → Option (State × List Event)
  | .loadGrabbing => some (s.setCall i (if s.isGrabbing then .snapshot .grabCallbacks else .returned), [])
  | .snapshot k => some (s.setCall i (.dispatch k (s.registry k).entries), [])
  | .dispatch _ [] => some (s.setCall i .returned, [])
  | .dispatch k (cb :: rest) =>
    if cb.callable then some (s.setCall i (.inCallback k cb.id rest), [.invoked k cb.id])
    else some (s.setCall i (.dispatch k rest), [])
  -- the callback returns, or throws into its catch block
  | .inCallback k _ rest => some (s.setCall i (.dispatch k rest), [])
  | .register k callable =>
    some ((s.setRegistry k ((s.registry k).register callable)).setCall i .returned,
      [.registered k (s.registry k).nextId])
  -- `erase(id) > 0`; a call that returns false has removed nothing
  | .deregister k id =>
    let found := (s.registry k).entries.any (·.id = id)
    some ((s.setRegistry k ((s.registry k).deregister id)).setCall i (if found then .removed k [id] else .returned), [])
  | .clear k =>
    some ((s.setRegistry k (s.registry k).clear).setCall i (.removed k ((s.registry k).entries.map (·.id))), [])
  | .removed k ids => some (s.setCall i .returned, [.removed k ids])
  | .returned => none

/-- One step of a call on whatever thread, or of what goes on outside the calls. -/
def step (s : State) : Action → Option (State × List Event)
  | .call c => some ({ s with calls := s.calls ++ [enter c] }, [])
  | .step i =>
    match s.calls[i]? with
    | none => none
    | some pc => callStep s i pc
  | .grabbing on => some ({ s with isGrabbing := on }, [])
  | .rehash k l =>
    if h : l.Perm (s.registry k).entries then some (s.setRegistry k ((s.registry k).rehash l h), []) else none

/-! ## Sample moves -/

/-- The first call registers a status callback. -/
def registerMoves : List Action := [.call (.register .statusObservers true), .step 0]

/-- The second call tells it, up to the return of the callback. -/
def notifyMoves : List Action := .call .notifyStatus :: List.replicate 3 (.step 1)

end Gocator.Callbacks

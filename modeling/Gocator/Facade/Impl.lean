/-
The state of `Gocator::Impl`: its flags, its owning pointers, the two callback registries and the
frame counters, with the operations on them that every model of the facade shares.

A `GoGdpClient` is modelled with the data thread it runs once `ReceiveDataAsync` has returned: the
thread calls `handleData` serially, and `DataPc` is where it stands in that call. The registries
are `std::unordered_map`s from an id to a `std::function`; what matters of the function is whether
it is empty, because both dispatch loops skip an empty one.
-/
import Mathlib.Data.List.Nodup
import Mathlib.Data.List.Perm.Basic

namespace Gocator.Facade

/-! ## Statuses and callbacks -/

/-- `Gocator::Status`. -/
inductive Status where
  | grabbing
  | connection
  deriving DecidableEq, Repr

/-- One registered callback: its id and whether the stored function is non-empty. -/
structure Callback where
  id : Nat
  callable : Bool
  deriving DecidableEq, Repr

/-- A callback registry: the entries in the map's iteration order, and the next id to give out. -/
structure Registry where
  entries : List Callback
  nextId : Nat
  below : ∀ cb ∈ entries, cb.id < nextId
  nodup : (entries.map (·.id)).Nodup

namespace Registry

def empty : Registry := ⟨[], 1, by simp, by simp⟩

/-- `registerStatusCallback`, `registerGrabCallback`: the id is taken from the counter. -/
def register (r : Registry) (callable : Bool) : Registry where
  entries := ⟨r.nextId, callable⟩ :: r.entries
  nextId := r.nextId + 1
  below := by
    intro cb hcb
    rcases List.mem_cons.1 hcb with rfl | hcb
    · exact Nat.lt_succ_self _
    · exact Nat.lt_succ_of_lt (r.below cb hcb)
  nodup := by
    refine List.nodup_cons.2 ⟨fun hm => ?_, r.nodup⟩
    obtain ⟨cb, hcb, hid⟩ := List.mem_map.1 hm
    have hlt := r.below cb hcb
    simp only at hid
    omega

/-- `deregisterStatusCallback`, `deregisterGrabCallback`. -/
def deregister (r : Registry) (id : Nat) : Registry where
  entries := r.entries.filter (·.id ≠ id)
  nextId := r.nextId
  below := fun cb hcb => r.below cb (List.mem_filter.1 hcb).1
  nodup := (List.filter_sublist.map _).nodup r.nodup

/-- `clearStatusCallbacks`, `clearGrabCallbacks`. -/
def clear (r : Registry) : Registry := ⟨[], r.nextId, by simp, by simp⟩

/-- An insertion may reorder the iteration of an unordered map in any way. -/
def rehash (r : Registry) (l : List Callback) (h : l.Perm r.entries) : Registry where
  entries := l
  nextId := r.nextId
  below := fun cb hcb => r.below cb (h.mem_iff.1 hcb)
  nodup := (h.map _).nodup_iff.2 r.nodup

/-- A callback with this id is registered, and its function is not empty. -/
def Has (r : Registry) (id : Nat) : Prop := ⟨id, true⟩ ∈ r.entries

instance (r : Registry) (id : Nat) : Decidable (r.Has id) := by unfold Has; infer_instance

end Registry

/-! ## The GDP client and its data thread -/

/-- Where the data thread of a client stands in `handleData`. -/
inductive DataPc where
  | waiting
  | loadGrabbing
  | snapshot
  | dispatch (rest : List Callback)
  | inCallback (rest : List Callback)
  | countFrame
  | exchangeRequested
  | spawnWorker
  deriving DecidableEq, Repr

/-- The thread has counted the last frame of a bounded session and is in `requestStopFromCallback`. -/
def DataPc.requesting : DataPc → Bool
  | .exchangeRequested | .spawnWorker => true
  | _ => false

/-- A `GoGdpClient`: an identity for the object, and its data thread once it receives. -/
structure GdpClient where
  id : Nat
  data : Option DataPc
  deriving DecidableEq, Repr

/-- The client's data callback is running. -/
def GdpClient.busy (c : GdpClient) : Bool := c.data.any (· ≠ .waiting)

/-- `GocatorConnection`: the resolved address it was built with. -/
structure Connection where
  address : String
  deriving DecidableEq, Repr

/-! ## The members of `Gocator::Impl` -/

/-- The members of `Gocator::Impl` other than the stop worker. -/
structure Impl where
  ipAddress : String
  connection : Option Connection
  /-- `resources` is not null. -/
  resources : Bool
  gdpClient : Option GdpClient
  isOpened : Bool
  isGrabbing : Bool
  stopRequested : Bool
  statusObservers : Registry
  grabCallbacks : Registry
  frameSeq : Nat
  frameTarget : Nat
  /-- `dataCallback` is not empty. -/
  dataCallback : Bool
  /-- `stopMutex` is locked. -/
  stopMutex : Bool

namespace Impl

/-- A facade just built, with callbacks registered. -/
def fresh (observers callbacks : Registry) : Impl where
  ipAddress := ""
  connection := none
  resources := false
  gdpClient := none
  isOpened := false
  isGrabbing := false
  stopRequested := false
  statusObservers := observers
  grabCallbacks := callbacks
  frameSeq := 0
  frameTarget := 0
  dataCallback := false
  stopMutex := false

/-- A grab callback is in progress. -/
def inCallback (m : Impl) : Bool :=
  m.gdpClient.any fun c => match c.data with
    | some (.inCallback _) => true
    | _ => false

/-- The current client has a running data thread. -/
def receiving (m : Impl) : Bool := m.gdpClient.any (·.data.isSome)

end Impl

end Gocator.Facade

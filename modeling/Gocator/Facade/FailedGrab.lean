/-
What a `grab` that fails leaves behind. Its handler calls `stop`, which does nothing before `grab` has set
`isGrabbing`: a client that was made by then stays.
-/
import Gocator.Facade.Invariant

namespace Gocator.Facade

open Exits (bind_ok)

/-! ## The property -/

/-- No session and nothing of one, and the facade otherwise as it was. -/
structure AsBefore (m m' : Impl) : Prop where
  gdpClient : m'.gdpClient = none
  dataCallback : m'.dataCallback = false
  isGrabbing : m'.isGrabbing = false
  isOpened : m'.isOpened = m.isOpened
  connection : m'.connection = m.connection
  resources : m'.resources = m.resources
  statusObservers : m'.statusObservers = m.statusObservers
  grabCallbacks : m'.grabCallbacks = m.grabCallbacks

/-- The exception leaves no client to release, or `isGrabbing` is set when it is thrown. -/
def Site.cleanedUp : Site → Bool
  | .newGdpClient => true
  | site => site.afterFlag

/-! ## The handler -/

theorem stopped_idle {w : World} (hg : w.impl.isGrabbing = false) : w.stopped = w := if_neg (Bool.eq_false_iff.1 hg)

/-- Without a session a stop worker finds nothing to do. -/
theorem joined_idle {w : World} (hg : w.impl.isGrabbing = false) : w.joined.impl = w.impl := by
  unfold World.joined World.ran
  split
  · rw [stopped_idle hg]
  · rfl

/-- What is left of a session that fails at a site, once the handler has run. -/
theorem stopped_halfGrabbing {w : World} (frames : Nat) {site : Site} (hsite : site ∈ grabSites)
    (hg : w.impl.isGrabbing = false) (hc : w.impl.gdpClient = none) (hd : w.impl.dataCallback = false) :
    AsBefore w.impl (w.halfGrabbing frames site).stopped.impl ↔ site.cleanedUp = true := by
  simp only [grabSites, List.mem_cons, List.not_mem_nil, or_false] at hsite
  rcases hsite with rfl | rfl | rfl | rfl | rfl | rfl | rfl
  · -- nothing was made
    have hstopped : (w.halfGrabbing frames .newGdpClient).stopped = w := stopped_idle hg
    rw [hstopped]
    exact iff_of_true ⟨hc, hd, hg, rfl, rfl, rfl, rfl, rfl⟩ rfl
  case inr.inr.inr.inr.inr.inl | inr.inr.inr.inr.inr.inr =>
    -- the flag is set, so `stop` takes the session down
    exact iff_of_true ⟨rfl, rfl, rfl, rfl, rfl, rfl, rfl, rfl⟩ rfl
  all_goals
    -- `stop` returns at once, and the client is still there
    refine iff_of_false ?_ Bool.noConfusion
    intro h
    have hclient := h.gdpClient
    rw [stopped_idle] at hclient
    · cases hclient
    · exact hg

/-! ## A grab that fails -/

/-- Between calls, an opened facade without a session is as it was after a `grab` that fails exactly when the
exception comes from making the client, or once `isGrabbing` is set. -/
theorem failed_grab_restores_iff {observers callbacks : Registry} {calls : List (Call × Throws)} {w : World}
    (hw : runCalls calls (.fresh observers callbacks) = .ok () w) (ho : w.impl.isOpened = true)
    (hg : w.impl.isGrabbing = false) (hc : w.impl.gdpClient = none) (hd : w.impl.dataCallback = false)
    {throws : Throws} {site : Site} (hs : grabSites.find? throws = some site) (frames : Nat) :
    ∃ w', grab throws frames w = .ok () w' ∧ (AsBefore w.impl w'.impl ↔ site.cleanedUp = true) := by
  have hinv : Inv w := by
    obtain ⟨w₁, hrun, hinv⟩ := runCalls_run calls (inv_fresh observers callbacks)
    rw [hw] at hrun
    cases hrun
    exact hinv
  have himpl := joined_idle hg
  obtain ⟨c, hconn⟩ := Option.isSome_iff_exists.1 (hinv.connection.symm.trans ho)
  have hrun := grabSession_cutOff throws frames (himpl ▸ hconn)
  unfold CutOff at hrun
  rw [hs] at hrun
  obtain ⟨_, herror, rfl⟩ := hrun
  refine ⟨(w.joined.halfGrabbing frames site).stopped, ?_, ?_⟩
  · unfold grab
    rw [bind_ok (joinStopWorker_run w), get_bind, himpl, if_pos ⟨ho, hg⟩, catchSdk_error herror, stop_run]
  · have hbefore := stopped_halfGrabbing frames (List.mem_of_find?_eq_some hs) (himpl ▸ hg) (himpl ▸ hc) (himpl ▸ hd)
    rw [himpl] at hbefore
    exact hbefore

/-- The calls that open a facade, none of them failing. -/
def opening : List (Call × Throws) := [(.open "192.168.1.10", fun _ => false)]

/-- A sensor that does not start. -/
theorem failed_grab_restores_start : ∃ w w', runCalls opening (.fresh .empty .empty) = .ok () w ∧
    grab (· = .start) 1 w = .ok () w' ∧ (AsBefore w.impl w'.impl ↔ Site.cleanedUp .start = true) := by
  have hthrown : grabSites.find? (fun site => site = .start) = some .start := rfl
  obtain ⟨w', hrun, hiff⟩ := failed_grab_restores_iff
    (rfl : runCalls opening (.fresh .empty .empty) = .ok () _) rfl rfl rfl rfl hthrown 1
  exact ⟨_, w', rfl, hrun, hiff⟩

/-- A GDP port that refuses the connection leaves a client behind. -/
theorem not_failed_grab_restores : ∃ w w', runCalls opening (.fresh .empty .empty) = .ok () w ∧
    w.impl.gdpClient = none ∧ grab (· = .gdpConnect) 1 w = .ok () w' ∧ w'.impl.gdpClient = some ⟨0, none⟩ ∧
    ¬AsBefore w.impl w'.impl := by
  refine ⟨_, _, rfl, rfl, rfl, rfl, ?_⟩
  intro h
  cases h.gdpClient

end Gocator.Facade

/-
From the data thread to the frame consumer: `handleData` calls the frame stream, which converts the data set
and hands the frame on to the source controller, which numbers it for the consumer. Over a whole run, with
any number of sessions, the consumer gets the data sets that can be converted in the order in which they
came, each once, under consecutive numbers. What the consumer throws is caught by the stream.
-/
import Mathlib.Data.List.Basic
import Gocator.Adapter.DataSet
import Gocator.Threads.Numbering

namespace Gocator.Adapter

open Gocator.Threads
open Gocator.Facade (Registry GdpClient DataPc)
open Transition

variable {R F C : Type}

/-! ## The stream and the controller -/

/-- A data set and whether the controller has a consumer when it comes. -/
structure Arrival (R : Type) where
  dataSet : List (DataSetMsg R)
  /-- How the parallel loops over message `i` are shared. -/
  sharing : Nat → Sharing
  hasConsumer : Bool

/-- `SessionFrame`. -/
structure SessionFrame (R F : Type) where
  payload : GraphicsFrame R F
  frameSeq : Nat

/-- The controller: its `_frameSeq`, an `uint64_t`, and the frames its consumer was called with. -/
structure Controller (R F : Type) where
  frameSeq : Nat
  consumed : List (SessionFrame R F)

def Controller.init : Controller R F := ⟨0, []⟩

/-- The frame callback of the controller; `fetch_add` comes before the call of the consumer. -/
def Controller.onFrame (hasConsumer : Bool) (payload : GraphicsFrame R F) (k : Controller R F) : Controller R F :=
  if hasConsumer then ⟨(k.frameSeq + 1) % 2 ^ 64, k.consumed ++ [⟨payload, k.frameSeq⟩]⟩ else k

/-- `gocatorGraphicsFrameRequest`; `range` is the set of the range component alone. -/
def gocatorGraphicsFrameRequest (range : C) : GraphicsFrameRequest C where
  includeRangeAuxiliaryChannels := true
  components := range

section

variable [Zero R] [One R] [Add R] [Mul R] [IntCast R] [DecidableEq R] [Zero F] [NatCast F]
variable (toFloat : R → F) (isValid : RangeFrame R F → Bool)
variable (hasGraphicsFrameComponent : C → GraphicsFrameComponent → Bool) (range : C)

/-- The frame that the stream makes of a data set. The stream calls `convertFrame`, which the adapter takes from a base
class of the graphics engine; it is assumed to do no more than call the `convertGraphicsFrame` of the adapter. -/
def streamFrame (arrival : Arrival R) (sequence : Nat) : Option (GraphicsFrame R F) :=
  (convertGraphicsFrame toFloat isValid hasGraphicsFrameComponent arrival.sharing arrival.dataSet
    (gocatorGraphicsFrameRequest range)).map fun frame => { frame with frameIndex := sequence }

/-- The grab callback of the stream. -/
def Controller.onGrab (arrival : Arrival R) (sequence : Nat) (k : Controller R F) : Controller R F :=
  match streamFrame toFloat isValid hasGraphicsFrameComponent range arrival sequence with
  | some frame => k.onFrame arrival.hasConsumer frame
  | none => k

/-- What is seen of a run, as the stream registered under `id` sees it; `arrivals c n` is data set `n` of the
session on client `c`. -/
def Controller.onSeen (arrivals : Nat → Nat → Arrival R) (id : Nat) (k : Controller R F) : Seen → Controller R F
  | .event (.grabCallback c id' sequence) =>
    if id' = id then k.onGrab toFloat isValid hasGraphicsFrameComponent range (arrivals c sequence) sequence else k
  | _ => k

/-- The controller after a run. -/
def delivered (arrivals : Nat → Nat → Arrival R) (id : Nat) (tr : List Seen) : Controller R F :=
  tr.foldl (Controller.onSeen toFloat isValid hasGraphicsFrameComponent range arrivals id) .init

end

/-! ## The calls of the stream -/

/-- A call of callback `id`, by its session and its number. -/
def callOf (id : Nat) : Seen → Option (Nat × Nat)
  | .event (.grabCallback c id' sequence) => if id' = id then some (c, sequence) else none
  | _ => none

def calls (id : Nat) (tr : List Seen) : List (Nat × Nat) := tr.filterMap (callOf id)

/-- The numbers of the calls in one session. -/
def callsIn (c id : Nat) (tr : List Seen) : List Nat := ((calls id tr).filter (·.1 = c)).map (·.2)

/-- The data sets that `handleData` has accepted in a session. -/
def acceptedIn (c : Nat) (tr : List Seen) : Nat := tr.countP (· = .accepted c)

@[simp] theorem calls_append (id : Nat) (tr evs : List Seen) : calls id (tr ++ evs) = calls id tr ++ calls id evs :=
  List.filterMap_append

/-- The frames of some calls: of those whose data set is converted while there is a consumer. -/
def framesOf (frame : Arrival R → Nat → Option (GraphicsFrame R F)) (arrivals : Nat → Nat → Arrival R)
    (cs : List (Nat × Nat)) : List (GraphicsFrame R F) :=
  cs.filterMap fun c => if (arrivals c.1 c.2).hasConsumer then frame (arrivals c.1 c.2) c.2 else none

/-- Frames under consecutive numbers of 64 bits. -/
def sequenced (frames : List (GraphicsFrame R F)) : List (SessionFrame R F) :=
  frames.zipIdx.map fun f => ⟨f.1, f.2 % 2 ^ 64⟩

theorem sequenced_append_singleton (frames : List (GraphicsFrame R F)) (frame : GraphicsFrame R F) :
    sequenced (frames ++ [frame]) = sequenced frames ++ [⟨frame, frames.length % 2 ^ 64⟩] := by
  simp [sequenced, List.zipIdx_append]

/-- The controller stands behind these frames. -/
def Controller.Behind (frames : List (GraphicsFrame R F)) (k : Controller R F) : Prop :=
  k.frameSeq = frames.length % 2 ^ 64 ∧ k.consumed = sequenced frames

theorem behind_onFrame {frames : List (GraphicsFrame R F)} {k : Controller R F} (h : k.Behind frames)
    (frame : GraphicsFrame R F) : (k.onFrame true frame).Behind (frames ++ [frame]) := by
  obtain ⟨hseq, hconsumed⟩ := h
  refine ⟨?_, ?_⟩
  · simp only [Controller.onFrame, if_true, hseq, List.length_append, List.length_singleton]
    omega
  · simp only [Controller.onFrame, if_true, hseq, hconsumed, sequenced_append_singleton]

section

variable [Zero R] [One R] [Add R] [Mul R] [IntCast R] [DecidableEq R] [Zero F] [NatCast F]
variable {toFloat : R → F} {isValid : RangeFrame R F → Bool}
variable {hasGraphicsFrameComponent : C → GraphicsFrameComponent → Bool} {range : C}
variable {arrivals : Nat → Nat → Arrival R} {id : Nat} {frames : List (GraphicsFrame R F)} {k : Controller R F}

theorem behind_onGrab (h : k.Behind frames) (c n : Nat) :
    (k.onGrab toFloat isValid hasGraphicsFrameComponent range (arrivals c n) n).Behind
      (frames ++ framesOf (streamFrame toFloat isValid hasGraphicsFrameComponent range) arrivals [(c, n)]) := by
  unfold Controller.onGrab framesOf
  cases hframe : streamFrame toFloat isValid hasGraphicsFrameComponent range (arrivals c n) n with
  | none => simpa [hframe] using h
  | some frame =>
    cases hconsumer : (arrivals c n).hasConsumer with
    | true => simpa [hframe, hconsumer] using behind_onFrame h frame
    | false => simpa [hconsumer, Controller.onFrame] using h

variable (toFloat isValid hasGraphicsFrameComponent range arrivals id)

theorem behind_onSeen (h : k.Behind frames) (e : Seen) :
    (k.onSeen toFloat isValid hasGraphicsFrameComponent range arrivals id e).Behind
      (frames ++ framesOf (streamFrame toFloat isValid hasGraphicsFrameComponent range) arrivals (calls id [e])) := by
  have hother : callOf id e = none → k.Behind (frames ++
      framesOf (streamFrame toFloat isValid hasGraphicsFrameComponent range) arrivals (calls id [e])) := by
    intro hcall
    rw [calls, List.filterMap_cons_none hcall, List.filterMap_nil, framesOf, List.filterMap_nil, List.append_nil]
    exact h
  cases e with
  | accepted c => exact hother rfl
  | logged line => exact hother rfl
  | event e =>
    cases e with
    | grabCallback c id' n =>
      by_cases hid : id' = id
      · have hcalls : calls id [.event (.grabCallback c id' n)] = [(c, n)] := by simp [calls, callOf, hid]
        rw [Controller.onSeen, if_pos hid, hcalls]
        exact behind_onGrab h c n
      · rw [Controller.onSeen, if_neg hid]
        exact hother (if_neg hid)
    | _ => exact hother rfl

theorem behind_foldl : ∀ (tr : List Seen) {frames : List (GraphicsFrame R F)} {k : Controller R F}, k.Behind frames →
    (tr.foldl (Controller.onSeen toFloat isValid hasGraphicsFrameComponent range arrivals id) k).Behind
      (frames ++ framesOf (streamFrame toFloat isValid hasGraphicsFrameComponent range) arrivals (calls id tr))
  | [], _, _, h => by simpa [calls, framesOf] using h
  | e :: tr, frames, k, h => by
    have ih := behind_foldl tr (behind_onSeen toFloat isValid hasGraphicsFrameComponent range arrivals id h e)
    have hcalls : calls id (e :: tr) = calls id [e] ++ calls id tr := calls_append id [e] tr
    rw [List.foldl_cons, hcalls, framesOf, List.filterMap_append, ← List.append_assoc]
    exact ih

end

/-! ## The order of the calls -/

/-- A call that comes before another: in an earlier session, or earlier in the same one. -/
def Before (a b : Nat × Nat) : Prop := a.1 < b.1 ∨ a.1 = b.1 ∧ a.2 < b.2

/-- Sessions in order, and the numbers in order in each of them. -/
theorem pairwise_before : ∀ {cs : List (Nat × Nat)}, cs.Pairwise (·.1 ≤ ·.1) →
    (∀ c, ((cs.filter (·.1 = c)).map (·.2)).Pairwise (· < ·)) → cs.Pairwise Before
  | [], _, _ => .nil
  | a :: cs, hle, hin => by
    obtain ⟨ha, hle⟩ := List.pairwise_cons.1 hle
    refine .cons (fun b hb => ?_) (pairwise_before hle fun c => ?_)
    · rcases Nat.lt_or_eq_of_le (ha b hb) with hlt | heq
      · exact .inl hlt
      · have hfirst := hin a.1
        rw [List.filter_cons_of_pos (by simp), List.map_cons, List.pairwise_cons] at hfirst
        refine .inr ⟨heq, hfirst.1 b.2 (List.mem_map_of_mem (List.mem_filter.2 ⟨hb, ?_⟩))⟩
        exact decide_eq_true heq.symm
    · have hc := hin c
      rw [List.filter_cons] at hc
      split at hc
      · exact (List.pairwise_cons.1 hc).2
      · exact hc

/-- The number of a call. -/
def seqOf : Mark → Option Nat
  | .called n => some n
  | .accepted => none

/-- What callback `id` sees of a session, from its marks. -/
theorem callOf_mark (c id : Nat) (e : Seen) :
    ((callOf id e).filter (·.1 = c)).map (·.2) = (Seen.mark c id e).bind seqOf := by
  cases e with
  | accepted d => by_cases hd : d = c <;> simp [callOf, Seen.mark, hd, seqOf]
  | logged line => rfl
  | event e =>
    cases e with
    | grabCallback d j n => by_cases hj : j = id <;> by_cases hd : d = c <;> simp [callOf, Seen.mark, hj, hd, seqOf]
    | _ => rfl

theorem callsIn_eq (c id : Nat) (tr : List Seen) : callsIn c id tr = (marks c id tr).filterMap seqOf := by
  unfold callsIn calls marks
  rw [List.filter_filterMap, List.map_filterMap, List.filterMap_filterMap]
  exact congrArg (List.filterMap · tr) (funext (callOf_mark c id))

theorem accepted_mark (c id : Nat) (e : Seen) :
    decide (e = .accepted c) = ((Seen.mark c id e).map (decide <| · = Mark.accepted)).getD false := by
  cases e with
  | accepted d => by_cases hd : d = c <;> simp [Seen.mark, hd]
  | logged line => rfl
  | event e =>
    cases e with
    | grabCallback d j n => by_cases hdj : d = c ∧ j = id <;> simp [Seen.mark, hdj]
    | _ => rfl

theorem acceptedIn_eq (c id : Nat) (tr : List Seen) : acceptedIn c tr = (marks c id tr).countP (· = .accepted) := by
  rw [acceptedIn, marks, List.countP_filterMap]
  exact congrArg (List.countP · tr) (funext (accepted_mark c id))

theorem filterMap_numbered (n : Nat) : (numbered n).filterMap seqOf = List.range n := by
  induction n with
  | zero => rfl
  | succ n ih =>
    rw [numbered, List.filterMap_append, ih, List.range_succ]
    rfl

theorem countP_numbered (n : Nat) : (numbered n).countP (· = .accepted) = n := by
  induction n with
  | zero => rfl
  | succ n ih => simp [numbered, ih]

/-! ## Sessions over a run -/

/-- The stream stays registered while a client is there. -/
def Streamed (id : Nat) (s : State) (_ : Move) : Prop :=
  s.impl.gdpClient.isSome = true → s.impl.grabCallbacks.Has id

instance (id : Nat) (s : State) (m : Move) : Decidable (Streamed id s m) :=
  inferInstanceAs (Decidable (s.impl.gdpClient.isSome = true → s.impl.grabCallbacks.Has id))

theorem registeredIn_of_streamed {id : Nat} {s : State} {m : Move} (h : Streamed id s m) (c : Nat) :
    RegisteredIn c id s m := by
  intro hc
  apply h
  obtain ⟨g, hg, -⟩ := (Option.any_eq_true _ _).1 hc
  rw [hg]
  rfl

/-- The client is the one made last, and the calls go from session to session. -/
structure SessionInv (cs : List (Nat × Nat)) (s : State) : Prop where
  newest : ∀ g, s.impl.gdpClient = some g → g.id + 1 = s.nextClient
  made : ∀ a ∈ cs, a.1 < s.nextClient
  ordered : cs.Pairwise (·.1 ≤ ·.1)

section

variable {s s' : State} {a : Action} {evs : List Event} {cs : List (Nat × Nat)} {id : Nat}

theorem newest_step (hnew : ∀ g, s.impl.gdpClient = some g → g.id + 1 = s.nextClient)
    (h : step s a = some (s', evs)) :
    s.nextClient ≤ s'.nextClient ∧ ∀ g, s'.impl.gdpClient = some g → g.id + 1 = s'.nextClient := by
  have hkept : s'.nextClient = s.nextClient →
      (∀ g', s'.impl.gdpClient = some g' → ∃ g, s.impl.gdpClient = some g ∧ g.id = g'.id) →
      s.nextClient ≤ s'.nextClient ∧ ∀ g, s'.impl.gdpClient = some g → g.id + 1 = s'.nextClient := by
    intro hn hids
    refine ⟨by omega, fun g' hg' => ?_⟩
    obtain ⟨g, hg, hid⟩ := hids g' hg'
    have := hnew g hg
    omega
  cases frameStep h with
  | quiet _ _ _ hg hn => exact hkept hn fun g' hg' => hg.sameId hg'
  | assign n _ _ _ hg hn =>
    refine ⟨by omega, fun g' hg' => ?_⟩
    rw [hg] at hg'
    cases hg'
    exact hn.symm
  | opened n d _ _ _ _ hg hn => exact hkept hn fun g' hg' => ⟨g', by rw [← hg, hg'], rfl⟩
  | receive n d g _ _ _ _ hg hg' hn =>
    refine hkept hn fun g₁ hg₁ => ⟨g, hg, ?_⟩
    rw [hg'] at hg₁
    cases hg₁
    rfl
  | dataSet g hg _ hs =>
    subst hs
    refine hkept rfl fun g₁ hg₁ => ⟨g, hg, ?_⟩
    cases hg₁
    rfl
  | data g pc hg _ hdata =>
    refine hkept (dataStep_frame hdata).clients fun g₁ hg₁ => ⟨g, hg, ?_⟩
    obtain ⟨pc', hg'⟩ := dataStep_client hdata
    rw [hg'] at hg₁
    cases hg₁
    rfl

/-- Without marks of any session there is no call. -/
theorem calls_eq_nil {tr : List Seen} (h : ∀ c, marks c id tr = []) : calls id tr = [] := by
  apply List.eq_nil_iff_forall_not_mem.2
  rintro ⟨c, n⟩ hmem
  have hin : n ∈ callsIn c id tr :=
    List.mem_map.2 ⟨(c, n), List.mem_filter.2 ⟨hmem, decide_eq_true rfl⟩, rfl⟩
  rw [callsIn_eq, h c] at hin
  cases hin

/-- The calls of a step of the data thread are of the current session. -/
theorem calls_data {g : GdpClient} {pc : DataPc} {m : Move} (hg : s.impl.gdpClient = some g)
    (h : dataStep s g pc = some (s', evs)) : ∀ a ∈ calls id (glimpse s m ++ evs.map .event), a.1 = g.id := by
  rintro ⟨c, n⟩ hmem
  by_contra hc
  have hin : n ∈ callsIn c id (glimpse s m ++ evs.map .event) :=
    List.mem_map.2 ⟨(c, n), List.mem_filter.2 ⟨hmem, decide_eq_true rfl⟩, rfl⟩
  rw [callsIn_eq, marks_foreign hg h fun heq => hc heq.symm] at hin
  cases hin

theorem sessionInv_watch {m : Move} {tr seen : List Seen} (hI : SessionInv (calls id tr) s)
    (h : watch s m = some (s', seen)) : SessionInv (calls id (tr ++ seen)) s' := by
  obtain ⟨⟨s₁, evs⟩, hstep, heq⟩ := Option.map_eq_some_iff.1 (watch_eq s m ▸ h)
  cases heq
  obtain ⟨hle, hnew⟩ := newest_step hI.newest hstep
  rw [calls_append]
  cases ha : m.action.isData with
  | true =>
    have hact : m.action = .data := by
      cases hm : m.action <;> rw [hm] at ha <;> first | rfl | cases ha
    rw [hact] at hstep
    obtain ⟨g, pc, hg, -, hdata⟩ := step_data hstep
    have hcalls : ∀ a ∈ calls id (glimpse s m ++ evs.map .event), a.1 = g.id := calls_data hg hdata
    have hcur := hI.newest g hg
    refine ⟨hnew, fun a ha => ?_, List.pairwise_append.2 ⟨hI.ordered, ?_, fun a ha b hb => ?_⟩⟩
    · show a.1 < s₁.nextClient
      rcases List.mem_append.1 ha with ha | ha
      · have := hI.made a ha
        omega
      · rw [hcalls a ha]
        omega
    · refine List.pairwise_of_forall_mem_list fun a ha b hb => ?_
      rw [hcalls a ha, hcalls b hb]
    · have := hI.made a ha
      rw [hcalls b hb]
      omega
  | false =>
    have hnone : calls id (glimpse s m ++ evs.map .event) = [] := by
      rw [glimpse_of_ne ha, List.nil_append]
      exact calls_eq_nil fun c => marks_other hstep ha
    rw [hnone, List.append_nil]
    exact ⟨hnew, fun a ha => Nat.lt_of_lt_of_le (hI.made a ha) hle, hI.ordered⟩

theorem sessionInv_run {observers callbacks : Registry} {tr : List Seen}
    (h : Run watch (Streamed id) (init observers callbacks) tr s) : SessionInv (calls id tr) s := by
  refine h.invariant (I := fun tr s => SessionInv (calls id tr) s) ⟨?_, ?_, .nil⟩
    fun _ _ _ _ _ hI _ hwatch => sessionInv_watch hI hwatch
  · rintro g hg
    cases hg
  · rintro a ha
    cases ha

/-- Each session has passed on what it has accepted, but for the data set in hand. -/
theorem callsIn_run {observers callbacks : Registry} {tr : List Seen}
    (h : Run watch (Streamed id) (init observers callbacks) tr s) (c : Nat) :
    ∃ n, callsIn c id tr = List.range n ∧
      (acceptedIn c tr = n ∨ acceptedIn c tr = n + 1 ∧ s.ahead c id = true) := by
  have hI : NumberInv c id (marks c id tr) s :=
    h.invariant (I := fun tr s => NumberInv c id (marks c id tr) s) (numberInv_init c id observers callbacks)
      fun _ _ _ _ _ hI hs hwatch => numberInv_watch hI (registeredIn_of_streamed hs c) hwatch
  have hsettled : ∀ {n}, marks c id tr = numbered n →
      callsIn c id tr = List.range n ∧ acceptedIn c tr = n := by
    intro n hn
    rw [callsIn_eq, acceptedIn_eq c id, hn]
    exact ⟨filterMap_numbered n, countP_numbered n⟩
  by_cases hcur : ∃ g, s.impl.gdpClient = some g ∧ g.id = c
  · obtain ⟨g, hg, hid⟩ := hcur
    obtain ⟨n, hn | ⟨hn, hahead⟩⟩ := (hI.counted g hg hid).settled
    · exact ⟨n, (hsettled hn).1, .inl (hsettled hn).2⟩
    · refine ⟨n, ?_, .inr ⟨?_, by simp [State.ahead, hg, hid, hahead]⟩⟩
      · rw [callsIn_eq, hn, List.filterMap_append, filterMap_numbered]
        exact List.append_nil _
      · rw [acceptedIn_eq c id, hn, List.countP_append, countP_numbered]
        rfl
  · obtain ⟨n, hn⟩ := hI.past fun g hg hid => hcur ⟨g, hg, hid⟩
    exact ⟨n, (hsettled hn).1, .inl (hsettled hn).2⟩

end

/-! ## What the consumer has got -/

section

variable [Zero R] [One R] [Add R] [Mul R] [IntCast R] [DecidableEq R] [Zero F] [NatCast F]

/-- The consumer has got the frames of the calls, in their order, under consecutive numbers. The calls go from
session to session and in each from data set to data set, and each session has passed on every data set that it
has accepted, but for one that is still in hand. -/
theorem delivered_in_order (toFloat : R → F) (isValid : RangeFrame R F → Bool)
    (hasGraphicsFrameComponent : C → GraphicsFrameComponent → Bool) (range : C) (arrivals : Nat → Nat → Arrival R)
    {observers callbacks : Registry} {id : Nat} {tr : List Seen} {s : State}
    (h : Run watch (Streamed id) (init observers callbacks) tr s) :
    (delivered toFloat isValid hasGraphicsFrameComponent range arrivals id tr).consumed =
        sequenced (framesOf (streamFrame toFloat isValid hasGraphicsFrameComponent range) arrivals (calls id tr)) ∧
      (calls id tr).Pairwise Before ∧
      ∀ c, ∃ n, callsIn c id tr = List.range n ∧
        (acceptedIn c tr = n ∨ acceptedIn c tr = n + 1 ∧ s.ahead c id = true) := by
  refine ⟨?_, ?_, callsIn_run h⟩
  · have hinit : (Controller.init : Controller R F).Behind [] := ⟨rfl, rfl⟩
    exact (behind_foldl toFloat isValid hasGraphicsFrameComponent range arrivals id tr hinit).2
  · refine pairwise_before (sessionInv_run h).ordered fun c => ?_
    obtain ⟨n, hn, -⟩ := callsIn_run h c
    unfold callsIn at hn
    rw [hn]
    exact List.pairwise_lt_range

end

/-- Every second data set of a session is a profile without ranges. -/
def alternating (_ n : Nat) : Arrival Int where
  dataSet := [.range (.profilePointCloud { threePoints with ranges := if n % 2 = 0 then threePoints.ranges else none })]
  sharing _ := .sequential
  hasConsumer := true

theorem delivered_in_order_throws : ∃ s tr,
    exec watch (Streamed 1) throwingMoves (init one one) = some (s, tr) ∧
      calls 1 tr = [(0, 0), (0, 1), (1, 0), (1, 1)] ∧
      ((delivered (F := Int) id (fun _ => true) (fun c _ => c) true alternating 1 tr).consumed =
          sequenced (framesOf (streamFrame id (fun _ => true) (fun c _ => c) true) alternating (calls 1 tr)) ∧
        (calls 1 tr).Pairwise Before ∧
        ∀ c, ∃ n, callsIn c 1 tr = List.range n ∧
          (acceptedIn c tr = n ∨ acceptedIn c tr = n + 1 ∧ s.ahead c 1 = true)) := by
  have hsome : (exec watch (Streamed 1) throwingMoves (init one one)).isSome = true := rfl
  have h := (Option.some_get hsome).symm
  exact ⟨_, _, h, by decide, delivered_in_order id _ _ true alternating (exec_run _ _ _ _ _ _ h)⟩

end Gocator.Adapter

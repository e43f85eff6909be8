/-
The notifications of a sequence of calls. They pair up exactly when no call fails between setting its
flag and telling the observers: `open` when the GDP port cannot be read for the log line, `grab` when
the client cannot receive or the system does not start. Such a call is closed by a `false` that no
`true` precedes.
-/
import Gocator.Facade.Invariant
import Mathlib.Data.List.Induction

namespace Gocator.Facade

open Exits (bind_ok bind_error)

/-! ## Paired notifications -/

/-- The last notification of a status was `true`. -/
def toldOn (status : Status) (told : List (Status × Bool)) : Bool :=
  told.foldl (fun on e => if e.1 = status then e.2 else on) false

/-- A notification continues what was told: `true` and `false` alternate for each status, and a grab
lies within a connection. -/
def Legal (told : List (Status × Bool)) : Status × Bool → Prop
  | (.connection, true) => toldOn .connection told = false
  | (.connection, false) => toldOn .connection told = true ∧ toldOn .grabbing told = false
  | (.grabbing, true) => toldOn .grabbing told = false ∧ toldOn .connection told = true
  | (.grabbing, false) => toldOn .grabbing told = true

/-- Every notification continues those before it. -/
def Paired (told : List (Status × Bool)) : Prop := ∀ pre e post, told = pre ++ e :: post → Legal pre e

theorem toldOn_snoc (status : Status) (told : List (Status × Bool)) (e : Status × Bool) :
    toldOn status (told ++ [e]) = if e.1 = status then e.2 else toldOn status told := by
  unfold toldOn
  rw [List.foldl_append]
  rfl

theorem paired_nil : Paired [] := by
  intro pre e post h
  have := congrArg List.length h
  simp at this

theorem Paired.of_prefix {told told' : List (Status × Bool)} (h : Paired told') (hp : told <+: told') :
    Paired told := by
  obtain ⟨rest, rfl⟩ := hp
  intro pre e post heq
  exact h pre e (post ++ rest) (by rw [heq, List.append_assoc, List.cons_append])

theorem paired_snoc {told : List (Status × Bool)} {e : Status × Bool} :
    Paired (told ++ [e]) ↔ Paired told ∧ Legal told e := by
  constructor
  · exact fun h => ⟨h.of_prefix (List.prefix_append ..), h told e [] rfl⟩
  · rintro ⟨hp, hl⟩ pre e' post heq
    rcases List.eq_nil_or_concat post with rfl | ⟨post', last, rfl⟩
    · obtain ⟨rfl, he⟩ := List.append_inj' heq rfl
      cases he
      exact hl
    · rw [List.concat_eq_append, ← List.cons_append, ← List.append_assoc] at heq
      exact hp pre e' post' (List.append_inj' heq rfl).1

/-! ## What the calls tell -/

/-- What was told agrees with the flags. -/
structure Matched (w : World) : Prop where
  connection : toldOn .connection w.told = w.impl.isOpened
  grabbing : toldOn .grabbing w.told = w.impl.isGrabbing
  paired : Paired w.told

theorem matched_fresh (observers callbacks : Registry) : Matched (.fresh observers callbacks) := ⟨rfl, rfl, paired_nil⟩

theorem Matched.stopped {w : World} (h : Matched w) : Matched w.stopped := by
  unfold World.stopped
  split
  · rename_i hg
    refine ⟨?_, ?_, paired_snoc.2 ⟨h.paired, h.grabbing.trans hg⟩⟩
    · exact (toldOn_snoc ..).trans h.connection
    · exact toldOn_snoc ..
  · exact h

theorem Matched.ran {w : World} (h : Matched w) : Matched w.ran := by
  unfold World.ran
  split
  · exact ⟨h.stopped.connection, h.stopped.grabbing, h.stopped.paired⟩
  · exact h

theorem Matched.joined {w : World} (h : Matched w) : Matched w.joined :=
  ⟨h.ran.connection, h.ran.grabbing, h.ran.paired⟩

theorem Matched.closed {w : World} (h : Matched w) : Matched w.closed := by
  have hs := h.joined.stopped
  have hg : w.joined.stopped.impl.isGrabbing = false := stopped_isGrabbing _
  unfold World.closed
  simp only
  split
  · rename_i ho
    refine ⟨toldOn_snoc .., ?_, paired_snoc.2 ⟨hs.paired, hs.connection.trans ho, hs.grabbing.trans hg⟩⟩
    exact (toldOn_snoc ..).trans hs.grabbing
  · rename_i ho
    exact ⟨hs.connection.trans (Bool.not_eq_true _ |>.mp ho), hs.grabbing, hs.paired⟩

theorem joined_isOpened (w : World) : w.joined.impl.isOpened = w.impl.isOpened := by
  unfold World.joined World.ran
  split
  · exact (stopped_frame w).1
  · rfl

theorem joined_isGrabbing (w : World) :
    w.joined.impl.isGrabbing = false ↔ w.impl.isGrabbing = false ∨ w.worker = .spawned := by
  unfold World.joined World.ran
  split
  · rename_i hw
    exact ⟨fun _ => .inr hw, fun _ => stopped_isGrabbing w⟩
  · rename_i hw
    exact ⟨.inl, fun h => h.resolve_right hw⟩

/-- `stop` says nothing about the connection. -/
theorem toldOn_stopped (w : World) : toldOn .connection w.stopped.told = toldOn .connection w.told := by
  unfold World.stopped
  split
  · exact toldOn_snoc ..
  · rfl

theorem toldOn_joined (w : World) : toldOn .connection w.joined.told = toldOn .connection w.told := by
  unfold World.joined World.ran
  split
  · exact toldOn_stopped w
  · rfl

/-! ## The calls that spoil the pairing -/

/-- An `open` that fails after setting its flag and before telling the observers. -/
def OpenSpoils (w : World) (throws : Throws) : Prop :=
  w.impl.isOpened = false ∧ openSites.find? throws = some .openGdpPort

/-- A `grab` that fails after setting its flag and before telling the observers; it first joins a stop
worker, which ends a grab in progress. -/
def GrabSpoils (w : World) (throws : Throws) : Prop :=
  w.impl.isOpened = true ∧ (w.impl.isGrabbing = false ∨ w.worker = .spawned) ∧
    (grabSites.find? throws).any (·.afterFlag) = true

def Spoils (w : World) : Call × Throws → Prop
  | (.open _, throws) => OpenSpoils w throws
  | (.grab _, throws) => GrabSpoils w throws
  | _ => False

/-- The world after a call that spoils the pairing if `spoils` holds. -/
structure Ends (spoils : Prop) (w : World) : Prop where
  bad : spoils → ¬ Paired w.told
  good : ¬ spoils → Matched w

theorem Ends.of_matched {spoils : Prop} {w : World} (hm : Matched w) (h : ¬ spoils) : Ends spoils w :=
  ⟨fun hs => absurd hs h, fun _ => hm⟩

theorem ends_open {throws : Throws} {address : String} {w w' : World} (hm : Matched w)
    (h : OpenEffect throws address w w') : Ends (OpenSpoils w throws) w' := by
  cases h with
  | skipped ho =>
    refine .of_matched hm ?_
    rintro ⟨hf, -⟩
    exact absurd (ho.symm.trans hf) nofun
  | succeeded ho hs =>
    refine .of_matched ⟨toldOn_snoc .., (toldOn_snoc ..).trans hm.grabbing,
      paired_snoc.2 ⟨hm.paired, hm.connection.trans ho⟩⟩ ?_
    rintro ⟨-, hf⟩
    exact absurd (hs.symm.trans hf) nofun
  | @failed site half ho hs hh =>
    refine ⟨?_, fun hn => ?_⟩
    · rintro ⟨-, hf⟩ hp
      cases hs.symm.trans hf
      -- the connection is closed with a notification, and nothing told that it was open
      have hflag : half.joined.stopped.impl.isOpened = true := by
        rw [(stopped_frame _).1, joined_isOpened, hh.isOpened]
        exact Bool.or_true _
      have htold : toldOn .connection half.joined.stopped.told = false := by
        rw [toldOn_stopped, toldOn_joined, hh.told, hm.connection, ho]
      unfold World.closed at hp
      simp only [hflag, if_true] at hp
      exact absurd (htold.symm.trans (paired_snoc.1 hp).2.1) nofun
    · have hsite : site ≠ .openGdpPort := fun h => hn ⟨ho, h ▸ hs⟩
      refine Matched.closed ⟨?_, ?_, ?_⟩
      · rw [hh.told, hh.isOpened, hm.connection, decide_eq_false hsite, Bool.or_false]
      · rw [hh.told, hh.isGrabbing, hm.grabbing]
      · rw [hh.told]
        exact hm.paired

theorem ends_grab {throws : Throws} {frames : Nat} {w w' : World} (hm : Matched w)
    (h : GrabEffect throws frames w.joined w') : Ends (GrabSpoils w throws) w' := by
  have hj := hm.joined
  rw [GrabSpoils, ← joined_isGrabbing, ← joined_isOpened]
  cases h with
  | skipped hskip =>
    refine .of_matched hj ?_
    rintro ⟨ho, hg, -⟩
    rcases hskip with h | h
    · exact absurd (h.symm.trans ho) nofun
    · exact absurd (h.symm.trans hg) nofun
  | succeeded ho hg hs =>
    refine .of_matched ⟨(toldOn_snoc ..).trans hj.connection, toldOn_snoc ..,
      paired_snoc.2 ⟨hj.paired, hj.grabbing.trans hg, hj.connection.trans ho⟩⟩ ?_
    rintro ⟨-, -, hf⟩
    rw [hs] at hf
    cases hf
  | @failed site half ho hg hs hh =>
    rw [hs]
    refine ⟨?_, fun hn => ?_⟩
    · rintro ⟨-, -, hf⟩ hp
      have hflag : half.impl.isGrabbing = true := by
        rw [hh.isGrabbing, show site.afterFlag = true from hf, Bool.or_true]
      unfold World.stopped at hp
      rw [if_pos hflag] at hp
      have hl : toldOn .grabbing half.told = true := (paired_snoc.1 hp).2
      rw [hh.told, hj.grabbing, hg] at hl
      cases hl
    · have hflag : site.afterFlag = false := Bool.eq_false_iff.2 fun hf => hn ⟨ho, hg, hf⟩
      refine Matched.stopped ⟨?_, ?_, ?_⟩
      · rw [hh.told, hh.isOpened, hj.connection]
      · rw [hh.told, hh.isGrabbing, hflag, Bool.or_false, hj.grabbing]
      · rw [hh.told]
        exact hj.paired

theorem Matched.delivered {w w' : World} (hm : Matched w) (h : Delivered w w') : Matched w' := by
  refine ⟨?_, ?_, ?_⟩
  · rw [h.told, h.isOpened]
    exact hm.connection
  · rw [h.told, h.isGrabbing]
    exact hm.grabbing
  · rw [h.told]
    exact hm.paired

/-- One call: it spoils the pairing, or leaves what was told in agreement with the flags. -/
theorem ends_effect {c : Call} {throws : Throws} {w w' : World} (hm : Matched w) (h : Effect throws w c w') :
    Ends (Spoils w (c, throws)) w' := by
  cases h with
  | opened h => exact ends_open hm h
  | grabbed h => exact ends_grab hm h
  | closed => exact .of_matched hm.closed nofun
  | configured | valueSet | schemaRead | dataRead => exact .of_matched hm nofun
  | stopped => exact .of_matched hm.stopped nofun
  | destroyed => exact .of_matched hm.closed.closed.joined nofun
  | delivered h => exact .of_matched (hm.delivered h) nofun
  | workerRan => exact .of_matched hm.ran nofun

/-! ## What was told stays told -/

theorem told_stopped (w : World) : w.told <+: w.stopped.told := by
  unfold World.stopped
  split
  · exact List.prefix_append ..
  · exact List.prefix_rfl

theorem told_joined (w : World) : w.told <+: w.joined.told := by
  unfold World.joined World.ran
  split
  · exact told_stopped w
  · exact List.prefix_rfl

theorem told_closed (w : World) : w.told <+: w.closed.told := by
  have h := (told_joined w).trans (told_stopped _)
  unfold World.closed
  simp only
  split
  · exact h.trans (List.prefix_append ..)
  · exact h

theorem told_open {throws : Throws} {address : String} {w w' : World} (h : OpenEffect throws address w w') :
    w.told <+: w'.told := by
  cases h with
  | skipped => exact List.prefix_rfl
  | succeeded => exact List.prefix_append ..
  | failed ho hs hh =>
    rw [← hh.told]
    exact told_closed _

theorem told_grab {throws : Throws} {frames : Nat} {w w' : World} (h : GrabEffect throws frames w w') :
    w.told <+: w'.told := by
  cases h with
  | skipped => exact List.prefix_rfl
  | succeeded => exact List.prefix_append ..
  | failed ho hg hs hh =>
    rw [← hh.told]
    exact told_stopped _

theorem told_effect {c : Call} {throws : Throws} {w w' : World} (h : Effect throws w c w') : w.told <+: w'.told := by
  cases h with
  | opened h => exact told_open h
  | grabbed h => exact (told_joined w).trans (told_grab h)
  | closed => exact told_closed w
  | configured | valueSet | schemaRead | dataRead => exact List.prefix_rfl
  | stopped => exact told_stopped w
  | destroyed => exact (told_closed w).trans ((told_closed _).trans (told_joined _))
  | delivered h => exact h.told ▸ List.prefix_rfl
  | workerRan => exact told_joined w

/-! ## Sequences of calls -/

/-- The world after a sequence of calls. -/
def after (observers callbacks : Registry) (calls : List (Call × Throws)) : World :=
  match runCalls calls (.fresh observers callbacks) with
  | .ok _ w => w
  | .error _ w => w

theorem runCalls_snoc (c : Call × Throws) : ∀ (calls : List (Call × Throws)) {w w' : World},
    runCalls calls w = .ok () w' → runCalls (calls ++ [c]) w = c.1.run c.2 w'
  | [], w, w', h => by
    cases h
    show (c.1.run c.2 >>= fun _ => pure ()) w = _
    rw [bind_pure_unit]
  | (c', throws) :: calls, w, w', h => by
    have h : (c'.run throws >>= fun _ => runCalls calls) w = .ok () w' := h
    show (c'.run throws >>= fun _ => runCalls (calls ++ [c])) w = _
    cases hrun : c'.run throws w with
    | ok a w₁ =>
      rw [bind_ok hrun] at h ⊢
      exact runCalls_snoc c calls h
    | error e w₁ =>
      rw [bind_error hrun] at h
      cases h

theorem after_run (observers callbacks : Registry) (calls : List (Call × Throws)) :
    runCalls calls (.fresh observers callbacks) = .ok () (after observers callbacks calls) ∧
      Inv (after observers callbacks calls) := by
  obtain ⟨w, hrun, hw⟩ := runCalls_run calls (inv_fresh observers callbacks)
  unfold after
  rw [hrun]
  exact ⟨rfl, hw⟩

theorem after_snoc (observers callbacks : Registry) (calls : List (Call × Throws)) (c : Call × Throws) :
    Effect c.2 (after observers callbacks calls) c.1 (after observers callbacks (calls ++ [c])) := by
  obtain ⟨hrun, hw⟩ := after_run observers callbacks calls
  obtain ⟨w', hcall, h⟩ := call_run c.1 c.2 hw
  have hsnoc := (runCalls_snoc c calls hrun).trans hcall
  cases hsnoc.symm.trans (after_run observers callbacks (calls ++ [c])).1
  exact h

/-- After a sequence of calls none of which spoils the pairing, what was told agrees with the flags; after
one that has such a call, the notifications are not paired. -/
theorem ends_after (observers callbacks : Registry) (calls : List (Call × Throws)) :
    Ends (∃ pre c post, calls = pre ++ c :: post ∧ Spoils (after observers callbacks pre) c)
      (after observers callbacks calls) := by
  induction calls using List.reverseRecOn with
  | nil =>
    refine .of_matched (matched_fresh observers callbacks) ?_
    rintro ⟨pre, c, post, h, -⟩
    exact absurd (congrArg List.length h) (by simp)
  | append_singleton calls c ih =>
    have heff := after_snoc observers callbacks calls c
    refine ⟨?_, fun hn => ?_⟩
    · rintro ⟨pre, c', post, heq, hs⟩ hp
      rcases List.eq_nil_or_concat post with rfl | ⟨post', last, rfl⟩
      · -- the last call spoils it
        obtain ⟨rfl, hc⟩ := List.append_inj' heq rfl
        cases hc
        have hprev := (hp.of_prefix (told_effect heff))
        by_cases hbefore : ∃ pre c post, calls = pre ++ c :: post ∧ Spoils (after observers callbacks pre) c
        · exact ih.bad hbefore hprev
        · exact (ends_effect (ih.good hbefore) heff).bad hs hp
      · -- an earlier call has spoiled it
        rw [List.concat_eq_append, ← List.cons_append, ← List.append_assoc] at heq
        exact ih.bad ⟨pre, c', post', (List.append_inj' heq rfl).1, hs⟩ (hp.of_prefix (told_effect heff))
    · have hbefore : ¬ ∃ pre c post, calls = pre ++ c :: post ∧ Spoils (after observers callbacks pre) c := by
        rintro ⟨pre, c', post, rfl, hs⟩
        exact hn ⟨pre, c', post ++ [c], by rw [List.append_assoc, List.cons_append], hs⟩
      exact (ends_effect (ih.good hbefore) heff).good fun hs => hn ⟨calls, c, [], rfl, hs⟩

/-- The notifications pair up exactly when no call in the sequence spoils the pairing. -/
theorem paired_iff (observers callbacks : Registry) (calls : List (Call × Throws)) :
    Paired (after observers callbacks calls).told ↔
      ∀ pre c post, calls = pre ++ c :: post → ¬ Spoils (after observers callbacks pre) c := by
  have hends := ends_after observers callbacks calls
  constructor
  · intro hp pre c post heq hs
    exact hends.bad ⟨pre, c, post, heq, hs⟩ hp
  · intro h
    refine (hends.good ?_).paired
    rintro ⟨pre, c, post, heq, hs⟩
    exact h pre c post heq hs

/-- An `open` whose last read of the GDP port throws tells only that the connection is closed. -/
theorem not_paired : ¬ ∀ (observers callbacks : Registry) (calls : List (Call × Throws)),
    (∀ c ∈ calls, c.1 = .close ∨ c.1 = .stop ∨ (∃ address, c.1 = .open address) ∨ ∃ frames, c.1 = .grab frames) →
    Paired (after observers callbacks calls).told := by
  intro h
  have hp := h .empty .empty [(.open "192.168.1.10", (· = .openGdpPort))] ?_
  · have htold : (after .empty .empty [(.open "192.168.1.10", (· = .openGdpPort))]).told = [(.connection, false)] := rfl
    rw [htold] at hp
    exact absurd (hp [] _ [] rfl).1 nofun
  · intro c hc
    rw [List.mem_singleton.1 hc]
    exact .inr (.inr (.inl ⟨_, rfl⟩))

end Gocator.Facade

/-
Threads that run functions with nested calls under non-recursive mutexes, and foreign code called in
the middle of a function that may call functions again. A function is a program over atomic
statements; what these do to the store is left to their meaning. A discipline that is checked on the
text of each function gives, for every run, that no thread tries to lock a mutex it holds, as long as
foreign code keeps away from the functions that use a mutex its thread still holds.
-/
import Gocator.Lib.Run
import Mathlib.Data.List.Nodup
import Mathlib.Logic.Function.Basic

namespace Locks

/-! ## Programs -/

/-- What is left to do of a function, with mutexes `M`, functions `F` and atomic statements `A`. -/
inductive Prog (M F A : Type) where
  | done
  | lock (m : M) (k : Prog M F A)
  | unlock (m : M) (k : Prog M F A)
  | call (f : F) (k : Prog M F A)
  /-- A statement with an outcome: a test, or one that may throw. -/
  | test (a : A) (thn els : Prog M F A)
  /-- Foreign code is run as long as the statement has a next one. -/
  | each (a : A) (k : Prog M F A)

namespace Prog

variable {M F A : Type}

/-- A statement whose outcome does not matter. -/
def stmt (a : A) (k : Prog M F A) : Prog M F A := .test a k k

end Prog

/-- A frame of a call stack: a function with its local variables `L`, or foreign code. -/
inductive Frame (M F A L : Type) where
  | fn (p : Prog M F A) (l : L)
  | foreign

/-- A user thread calls functions on its own; any other thread was started for one function. -/
structure Thread (M F A L : Type) where
  user : Bool
  stack : List (Frame M F A L)

/-- The functions of a component over a store `σ`. -/
structure Code (M F A L σ : Type) where
  body : F → Prog M F A
  /-- A function that is called from outside. -/
  entry : F → Bool
  locals : L
  /-- A statement run by a thread: a flag tells whether it throws, the second number is what a new thread
  would get, the predicate which threads have ended. It gives the outcome, the store, the locals and the
  function a new thread is started for; `none` while it has to wait. -/
  exec : A → Bool → Nat → Nat → (Nat → Bool) → σ → L → Option (Bool × σ × L × Option F)

/-- The store, the owner of each mutex and the threads, in the order in which they were started. -/
structure State (M F A L σ : Type) where
  store : σ
  owner : M → Option Nat
  threads : List (Thread M F A L)

/-- The next move of a thread. -/
inductive Action (F : Type) where
  /-- An idle user thread, or the foreign code on a thread, calls a function. -/
  | call (t : Nat) (f : F)
  | step (t : Nat) (ok : Bool)
  /-- The foreign code returns. -/
  | leave (t : Nat)

variable {M F A L σ : Type} [DecidableEq M]

namespace State

/-- The thread has this stack now. -/
def setStack (s : State M F A L σ) (t : Nat) (stack : List (Frame M F A L)) : State M F A L σ :=
  { s with threads := s.threads.modify t fun th => { th with stack := stack } }

def setOwner (s : State M F A L σ) (m : M) (o : Option Nat) : State M F A L σ :=
  { s with owner := Function.update s.owner m o }

/-- A new thread is started for a function. -/
def start (s : State M F A L σ) (code : Code M F A L σ) (f : F) : State M F A L σ :=
  { s with threads := s.threads ++ [⟨false, [.fn (code.body f) code.locals]⟩] }

/-- The thread's stack is empty. -/
def ended (s : State M F A L σ) (t : Nat) : Bool :=
  match s.threads[t]? with
  | some th => th.stack.isEmpty
  | none => false

end State

/-- The thread can call a function from outside the component. -/
def Thread.free (th : Thread M F A L) : Bool :=
  match th.stack with
  | [] => th.user
  | .foreign :: _ => true
  | .fn _ _ :: _ => false

/-- One step of a thread in a function, with the frames below. -/
def progStep (code : Code M F A L σ) (s : State M F A L σ) (t : Nat) (ok : Bool) (l : L)
    (fs : List (Frame M F A L)) : Prog M F A → Option (State M F A L σ)
  | .done => some (s.setStack t fs)
  | .lock m k => if s.owner m = none then some ((s.setOwner m (some t)).setStack t (.fn k l :: fs)) else none
  | .unlock m k => some ((s.setOwner m none).setStack t (.fn k l :: fs))
  | .call f k => some (s.setStack t (.fn (code.body f) code.locals :: .fn k l :: fs))
  | .test a thn els =>
    (code.exec a ok t s.threads.length s.ended s.store l).map fun r =>
      let s' := { s with store := r.2.1 }.setStack t (.fn (if r.1 then thn else els) r.2.2.1 :: fs)
      match r.2.2.2 with
      | none => s'
      | some f => s'.start code f
  | .each a k =>
    (code.exec a ok t s.threads.length s.ended s.store l).map fun r =>
      { s with store := r.2.1 }.setStack t
        (if r.1 then .foreign :: .fn (.each a k) r.2.2.1 :: fs else .fn k r.2.2.1 :: fs)

/-- One step of a thread; there is none while the mutex that it locks is owned. -/
def step (code : Code M F A L σ) (s : State M F A L σ) : Action F → Option (State M F A L σ × List Empty)
  | .call t f =>
    match s.threads[t]? with
    | none => none
    | some th =>
      if th.free ∧ code.entry f then some (s.setStack t (.fn (code.body f) code.locals :: th.stack), []) else none
  | .step t ok =>
    match s.threads[t]? with
    | some ⟨_, .fn p l :: fs⟩ => (progStep code s t ok l fs p).map fun s' => (s', [])
    | _ => none
  | .leave t =>
    match s.threads[t]? with
    | some ⟨_, .foreign :: fs⟩ => some (s.setStack t fs, [])
    | _ => none

/-- The thread is about to lock a mutex that it holds. -/
def SelfLock (s : State M F A L σ) (t : Nat) : Prop :=
  ∃ user m k l fs, s.threads[t]? = some ⟨user, .fn (.lock m k) l :: fs⟩ ∧ s.owner m = some t

/-! ## The discipline -/

/-- The program, of a function that may use the mutexes `used`, with those in `mine` locked: it locks only
what it may use and has not locked, unlocks what it has locked, ends with nothing locked, and keeps only
mutexes of `across` locked over a call or foreign code; a called function uses no mutex that is locked. -/
def Prog.check (uses : F → List M) (across used : List M) : List M → Prog M F A → Bool
  | mine, .done => mine.isEmpty
  | mine, .lock m k => m ∈ used && m ∉ mine && check uses across used (m :: mine) k
  | mine, .unlock m k => m ∈ mine && check uses across used (mine.erase m) k
  | mine, .call f k =>
    mine.all (· ∈ across) && (uses f).all (fun m => m ∈ used && m ∉ mine) && check uses across used mine k
  | mine, .test _ thn els => check uses across used mine thn && check uses across used mine els
  | mine, .each _ k => mine.all (· ∈ across) && check uses across used mine k

/-- Every function is checked, from its start. -/
def Code.Disciplined (code : Code M F A L σ) (uses : F → List M) (across : List M) : Prop :=
  ∀ f, (code.body f).check uses across (uses f) [] = true

/-- Foreign code calls no function that uses a mutex kept locked by the functions below it. -/
def Apart (uses : F → List M) (across : List M) (s : State M F A L σ) : Action F → Prop
  | .call t f => ∀ m ∈ uses f, m ∈ across → s.owner m ≠ some t
  | _ => True

variable {uses : F → List M} {across : List M} {code : Code M F A L σ} {s s' : State M F A L σ} {t : Nat}

/-- The mutexes locked by the frames of a stack. -/
inductive Holds (uses : F → List M) (across : List M) : List (Frame M F A L) → List M → Prop
  | nil : Holds uses across [] []
  | foreign {fs : List (Frame M F A L)} {held : List M} (below : Holds uses across fs held)
      (kept : ∀ m ∈ held, m ∈ across) : Holds uses across (.foreign :: fs) held
  | fn {fs : List (Frame M F A L)} {held mine used : List M} {p : Prog M F A} {l : L}
      (below : Holds uses across fs held)
      (kept : ∀ m ∈ held, m ∈ across) (apart : ∀ m ∈ used, m ∉ held) (mineUsed : ∀ m ∈ mine, m ∈ used)
      (nodup : mine.Nodup) (check : p.check uses across used mine = true) :
      Holds uses across (.fn p l :: fs) (mine ++ held)

/-- Every stack accounts for the mutexes its thread owns, and only threads own mutexes. -/
structure Inv (uses : F → List M) (across : List M) (s : State M F A L σ) : Prop where
  accounted : ∀ t th, s.threads[t]? = some th →
    ∃ held, Holds uses across th.stack held ∧ ∀ m, s.owner m = some t ↔ m ∈ held
  owners : ∀ m t, s.owner m = some t → t < s.threads.length

/-- The thread `t` has moved, and no other thread has locked or unlocked anything. -/
theorem Inv.change {th : Thread M F A L} {fs : List (Frame M F A L)} {held : List M} (hI : Inv uses across s)
    (ht : s.threads[t]? = some th) (hthreads : s'.threads = s.threads.modify t fun th => { th with stack := fs })
    (hother : ∀ m u, u ≠ t → (s'.owner m = some u ↔ s.owner m = some u)) (hholds : Holds uses across fs held)
    (hheld : ∀ m, s'.owner m = some t ↔ m ∈ held) : Inv uses across s' := by
  have hlt : t < s.threads.length := (List.getElem?_eq_some_iff.1 ht).1
  constructor
  · intro u uh hu
    rw [hthreads] at hu
    by_cases htu : t = u
    · subst htu
      rw [List.getElem?_modify_eq, ht] at hu
      cases hu
      exact ⟨held, hholds, hheld⟩
    · rw [List.getElem?_modify_ne _ _ htu] at hu
      obtain ⟨held', hholds', hheld'⟩ := hI.accounted u uh hu
      exact ⟨held', hholds', fun m => (hother m u (Ne.symm htu)).trans (hheld' m)⟩
  · intro m u hu
    rw [hthreads, List.length_modify]
    by_cases htu : u = t
    · omega
    · exact hI.owners m u ((hother m u htu).1 hu)

/-- The thread `t` has moved and owns what it owned. -/
theorem Inv.setStack {th : Thread M F A L} {fs : List (Frame M F A L)} (hI : Inv uses across s)
    (ht : s.threads[t]? = some th) (st : σ)
    (h : ∀ held, Holds uses across th.stack held → (∀ m, s.owner m = some t ↔ m ∈ held) → Holds uses across fs held) :
    Inv uses across ({ s with store := st }.setStack t fs) := by
  obtain ⟨held, hholds, hheld⟩ := hI.accounted t th ht
  exact hI.change ht rfl (fun _ _ _ => Iff.rfl) (h held hholds hheld) hheld

/-- A function that starts on top of a stack. -/
theorem Holds.enter {fs : List (Frame M F A L)} {held : List M} (hd : code.Disciplined uses across)
    (h : Holds uses across fs held) (kept : ∀ m ∈ held, m ∈ across) {f : F} (apart : ∀ m ∈ uses f, m ∉ held) :
    Holds uses across (.fn (code.body f) code.locals :: fs) held := by
  have hnone : ∀ m ∈ ([] : List M), m ∈ uses f := fun _ hm => absurd hm List.not_mem_nil
  exact .fn h kept apart hnone List.nodup_nil (hd f)

theorem Inv.start (hd : code.Disciplined uses across) (hI : Inv uses across s) (f : F) :
    Inv uses across (s.start code f) := by
  constructor
  · intro u uh hu
    have hlen : ∀ m, s.owner m = some u → u < s.threads.length := fun m => hI.owners m u
    rw [State.start, List.getElem?_append] at hu
    split at hu
    · exact hI.accounted u uh hu
    · -- the new thread owns nothing
      rw [List.getElem?_singleton] at hu
      split at hu <;> cases hu
      refine ⟨[], Holds.enter hd .nil nofun (by simp), fun m => ⟨fun ho => ?_, nofun⟩⟩
      have := hlen m ho
      omega
  · intro m u hu
    have := hI.owners m u hu
    show u < (s.threads ++ _).length
    rw [List.length_append]
    omega

/-! ## Every step keeps the invariant -/

section

variable {user : Bool} {l : L} {p k thn els : Prog M F A} {fs : List (Frame M F A L)} {m : M}

theorem Inv.lock (hI : Inv uses across s) (ht : s.threads[t]? = some ⟨user, .fn (.lock m k) l :: fs⟩)
    (hm : s.owner m = none) : Inv uses across ((s.setOwner m (some t)).setStack t (.fn k l :: fs)) := by
  obtain ⟨held, hholds, hheld⟩ := hI.accounted t _ ht
  cases hholds with
  | @fn _ below mine used _ _ hbelow kept apart mineUsed nodup check =>
    simp only [Prog.check, Bool.and_eq_true, decide_eq_true_eq] at check
    obtain ⟨⟨hmu, hmm⟩, hk⟩ := check
    have hmine : ∀ m' ∈ m :: mine, m' ∈ used := by
      intro m' hm'
      rcases List.mem_cons.1 hm' with rfl | hm'
      · exact hmu
      · exact mineUsed m' hm'
    refine hI.change ht rfl ?_ (.fn hbelow kept apart hmine (List.nodup_cons.2 ⟨hmm, nodup⟩) hk) ?_
    · intro m' u hu
      show Function.update s.owner m (some t) m' = some u ↔ s.owner m' = some u
      by_cases hmm' : m' = m
      · subst hmm'
        rw [Function.update_self, hm]
        exact ⟨fun h => absurd (Option.some.inj h).symm hu, nofun⟩
      · rw [Function.update_of_ne hmm']
    · intro m'
      show Function.update s.owner m (some t) m' = some t ↔ m' ∈ m :: (mine ++ below)
      rw [List.mem_cons]
      by_cases hmm' : m' = m
      · subst hmm'
        rw [Function.update_self]
        exact ⟨fun _ => .inl rfl, fun _ => rfl⟩
      · rw [Function.update_of_ne hmm', hheld m']
        exact ⟨.inr, fun h => h.resolve_left hmm'⟩

theorem Inv.unlock (hI : Inv uses across s) (ht : s.threads[t]? = some ⟨user, .fn (.unlock m k) l :: fs⟩) :
    Inv uses across ((s.setOwner m none).setStack t (.fn k l :: fs)) := by
  obtain ⟨held, hholds, hheld⟩ := hI.accounted t _ ht
  cases hholds with
  | @fn _ below mine used _ _ hbelow kept apart mineUsed nodup check =>
    simp only [Prog.check, Bool.and_eq_true, decide_eq_true_eq] at check
    obtain ⟨hmm, hk⟩ := check
    have howner : s.owner m = some t := (hheld m).2 (List.mem_append_left _ hmm)
    have hmine : ∀ m' ∈ mine.erase m, m' ∈ used := fun m' hm' => mineUsed m' (List.mem_of_mem_erase hm')
    refine hI.change ht rfl ?_ (.fn hbelow kept apart hmine (nodup.erase m) hk) ?_
    · intro m' u hu
      show Function.update s.owner m none m' = some u ↔ s.owner m' = some u
      by_cases hmm' : m' = m
      · subst hmm'
        rw [Function.update_self, howner]
        exact ⟨nofun, fun h => absurd (Option.some.inj h).symm hu⟩
      · rw [Function.update_of_ne hmm']
    · intro m'
      show Function.update s.owner m none m' = some t ↔ m' ∈ mine.erase m ++ below
      rw [List.mem_append, nodup.mem_erase_iff]
      by_cases hmm' : m' = m
      · subst hmm'
        rw [Function.update_self]
        refine ⟨nofun, ?_⟩
        rintro (⟨hne, -⟩ | hb)
        · exact absurd rfl hne
        · exact absurd hb (apart m' (mineUsed m' hmm))
      · rw [Function.update_of_ne hmm', hheld m', List.mem_append]
        exact ⟨fun h => h.imp_left fun h => ⟨hmm', h⟩, fun h => h.imp_left And.right⟩

/-- The function at the top of a stack, with what is checked of it. -/
theorem Holds.top {held : List M} (h : Holds uses across (.fn p l :: fs) held) :
    ∃ mine below used, held = mine ++ below ∧ Holds uses across fs below ∧ (∀ m ∈ below, m ∈ across) ∧
      (∀ m ∈ used, m ∉ below) ∧ (∀ m ∈ mine, m ∈ used) ∧ mine.Nodup ∧ p.check uses across used mine = true := by
  cases h with
  | @fn _ below mine used _ _ hbelow kept apart mineUsed nodup check =>
    exact ⟨mine, below, used, rfl, hbelow, kept, apart, mineUsed, nodup, check⟩

theorem Holds.of_foreign {held : List M} (h : Holds uses across (.foreign :: fs : List (Frame M F A L)) held) :
    Holds uses across fs held ∧ ∀ m ∈ held, m ∈ across := by
  cases h with
  | foreign below kept => exact ⟨below, kept⟩

theorem inv_progStep {ok : Bool} (hd : code.Disciplined uses across) (hI : Inv uses across s)
    (ht : s.threads[t]? = some ⟨user, .fn p l :: fs⟩) (h : progStep code s t ok l fs p = some s') :
    Inv uses across s' := by
  cases p with
  | done =>
    cases h
    refine hI.setStack ht s.store ?_
    rintro held hholds -
    obtain ⟨mine, below, used, rfl, hbelow, -, -, -, -, check⟩ := hholds.top
    cases List.isEmpty_iff.1 check
    exact hbelow
  | lock m k =>
    simp only [progStep] at h
    split at h <;> cases h
    exact hI.lock ht ‹_›
  | unlock m k =>
    cases h
    exact hI.unlock ht
  | call f k =>
    cases h
    refine hI.setStack ht s.store ?_
    rintro held hholds -
    obtain ⟨mine, below, used, rfl, hbelow, kept, apart, mineUsed, nodup, check⟩ := hholds.top
    simp only [Prog.check, Bool.and_eq_true, List.all_eq_true, decide_eq_true_eq] at check
    obtain ⟨⟨hacross, huses⟩, hk⟩ := check
    refine Holds.enter hd (.fn hbelow kept apart mineUsed nodup hk) ?_ ?_
    · intro m hm
      exact (List.mem_append.1 hm).elim (hacross m) (kept m)
    · intro m hm hheld
      obtain ⟨hmu, hmm⟩ := huses m hm
      exact (List.mem_append.1 hheld).elim hmm (apart m hmu)
  | test a thn els =>
    obtain ⟨⟨b, st, l', o⟩, -, rfl⟩ := Option.map_eq_some_iff.1 h
    have hmoved : Inv uses across ({ s with store := st }.setStack t (.fn (if b then thn else els) l' :: fs)) := by
      refine hI.setStack ht st ?_
      rintro held hholds -
      obtain ⟨mine, below, used, rfl, hbelow, kept, apart, mineUsed, nodup, check⟩ := hholds.top
      simp only [Prog.check, Bool.and_eq_true] at check
      refine .fn hbelow kept apart mineUsed nodup ?_
      split
      · exact check.1
      · exact check.2
    cases o with
    | none => exact hmoved
    | some f => exact hmoved.start hd f
  | each a k =>
    obtain ⟨⟨b, st, l', o⟩, -, rfl⟩ := Option.map_eq_some_iff.1 h
    refine hI.setStack ht st ?_
    rintro held hholds -
    obtain ⟨mine, below, used, rfl, hbelow, kept, apart, mineUsed, nodup, check⟩ := hholds.top
    have hcheck := check
    simp only [Prog.check, Bool.and_eq_true, List.all_eq_true, decide_eq_true_eq] at check
    split
    · refine .foreign (.fn hbelow kept apart mineUsed nodup hcheck) ?_
      intro m hm
      exact (List.mem_append.1 hm).elim (check.1 m) (kept m)
    · exact .fn hbelow kept apart mineUsed nodup check.2

theorem inv_step {a : Action F} {evs : List Empty} (hd : code.Disciplined uses across) (hI : Inv uses across s)
    (ha : Apart uses across s a) (h : step code s a = some (s', evs)) : Inv uses across s' := by
  cases a with
  | call t f =>
    simp only [step] at h
    split at h
    · cases h
    · rename_i th hth
      split at h <;> cases h
      rename_i hfree
      refine hI.setStack hth s.store ?_
      intro held hholds hheld
      have hkept : ∀ m ∈ held, m ∈ across := by
        obtain ⟨user, stack⟩ := th
        rcases stack with _ | ⟨_ | _, fs⟩
        · cases hholds
          nofun
        · exact absurd hfree.1 Bool.false_ne_true
        · exact hholds.of_foreign.2
      refine hholds.enter hd hkept fun m hm hh => ?_
      exact ha m hm (hkept m hh) ((hheld m).2 hh)
  | step t ok =>
    simp only [step] at h
    split at h
    · rename_i hth
      obtain ⟨s₁, hs₁, he⟩ := Option.map_eq_some_iff.1 h
      cases he
      exact inv_progStep hd hI hth hs₁
    · cases h
  | leave t =>
    simp only [step] at h
    split at h
    · rename_i hth
      cases h
      exact hI.setStack hth s.store fun held hholds _ => hholds.of_foreign.1
    · cases h

end

/-- Idle user threads, and no mutex locked. -/
def init (store : σ) (users : Nat) : State M F A L σ := ⟨store, fun _ => none, List.replicate users ⟨true, []⟩⟩

theorem inv_init (store : σ) (users : Nat) : Inv (A := A) (L := L) uses across (init store users) := by
  constructor
  · intro t th ht
    cases List.eq_of_mem_replicate (List.mem_of_getElem? ht)
    exact ⟨[], .nil, fun m => ⟨nofun, nofun⟩⟩
  · nofun

/-- In a disciplined component no thread tries to lock a mutex that it holds, as long as foreign code keeps
apart. -/
theorem Inv.not_selfLock (hI : Inv uses across s) (t : Nat) : ¬ SelfLock s t := by
  rintro ⟨user, m, k, l, fs, ht, howner⟩
  obtain ⟨held, hholds, hheld⟩ := hI.accounted t _ ht
  obtain ⟨mine, below, used, rfl, -, -, apart, -, -, check⟩ := hholds.top
  simp only [Prog.check, Bool.and_eq_true, decide_eq_true_eq] at check
  obtain ⟨⟨hmu, hmm⟩, -⟩ := check
  exact (List.mem_append.1 ((hheld m).1 howner)).elim hmm (apart m hmu)

theorem inv_run {store : σ} {users : Nat} {tr : List Empty} (hd : code.Disciplined uses across)
    (h : Transition.Run (step code) (Apart uses across) (init store users) tr s) : Inv uses across s :=
  h.invariant (I := fun _ s => Inv uses across s) (inv_init store users)
    fun _ _ _ _ _ hI ha hstep => inv_step hd hI ha hstep

end Locks

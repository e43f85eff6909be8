/-
Counted loops, run in order or shared among threads. A round changes a shared state and adds an
amount to a reduction variable; every thread adds up its own rounds, and the sums of the threads are
combined at the end. A loop whose rounds do not depend on one another has one result. What the rounds
of a loop have read so far is a set that grows with each of them.
-/
import Mathlib.Algebra.BigOperators.Group.List.Basic
import Mathlib.Data.Set.Insert

namespace Loop

variable {σ M : Type}

/-! ## In order -/

/-- `for (i = 0; i < n; ++i)`. -/
def count (n : Nat) (body : σ → Nat → σ) (s : σ) : σ := (List.range n).foldl body s

variable {body : σ → Nat → σ} {s : σ}

@[simp] theorem count_zero : count 0 body s = s := rfl

theorem count_succ (n : Nat) : count (n + 1) body s = body (count n body s) n := by
  simp only [count, List.range_succ, List.foldl_append, List.foldl_cons, List.foldl_nil]

/-- What holds of the start and is carried from each round to the next holds after the last. -/
theorem count_invariant {I : Nat → σ → Prop} {n : Nat} (h0 : I 0 s)
    (hs : ∀ i s, i < n → I i s → I (i + 1) (body s i)) : I n (count n body s) := by
  induction n with
  | zero => exact h0
  | succ n ih =>
    rw [count_succ]
    apply hs n _ (Nat.lt_succ_self n)
    apply ih
    intro i s hi
    exact hs i s (by omega)

/-! ## What the rounds read -/

section

variable {α : Type} {f : Nat → Option α} {n : Nat}

/-- The values that the rounds below `n` read, where a round may read none. -/
def readBelow (f : Nat → Option α) (n : Nat) : Set α := {a | ∃ i < n, f i = some a}

theorem readBelow_of_none (h : ∀ i < n, f i = none) : readBelow f n = ∅ := by
  rw [Set.eq_empty_iff_forall_notMem]
  rintro a ⟨i, hi, ha⟩
  rw [h i hi] at ha
  cases ha

theorem readBelow_succ_none (h : f n = none) : readBelow f (n + 1) = readBelow f n := by
  ext a
  constructor
  · rintro ⟨i, hi, ha⟩
    have hne : i ≠ n := by
      rintro rfl
      rw [h] at ha
      cases ha
    exact ⟨i, by omega, ha⟩
  · rintro ⟨i, hi, ha⟩
    exact ⟨i, by omega, ha⟩

theorem readBelow_succ_some {a : α} (h : f n = some a) : readBelow f (n + 1) = insert a (readBelow f n) := by
  ext b
  rw [Set.mem_insert_iff]
  constructor
  · rintro ⟨i, hi, hb⟩
    by_cases heq : i = n
    · -- the value of the last round
      left
      rw [heq, h] at hb
      exact (Option.some.inj hb).symm
    · exact .inr ⟨i, by omega, hb⟩
  · rintro (rfl | ⟨i, hi, hb⟩)
    · exact ⟨n, Nat.lt_succ_self n, h⟩
    · exact ⟨i, by omega, hb⟩

end

/-! ## Elements of a vector -/

variable {α : Type} {vs : List α}

/-- `v[i] = a`, if anything is written. -/
def store (vs : List α) (i : Nat) : Option α → List α
  | some a => vs.set i a
  | none => vs

@[simp] theorem store_none (i : Nat) : store vs i none = vs := rfl

@[simp] theorem store_some (i : Nat) (a : α) : store vs i (some a) = vs.set i a := rfl

@[simp] theorem length_store (i : Nat) (a : Option α) : (store vs i a).length = vs.length := by
  cases a <;> simp

theorem store_comm {i j : Nat} (h : i ≠ j) (a b : Option α) : store (store vs i a) j b = store (store vs j b) i a := by
  cases a with
  | none => rfl
  | some a =>
    cases b with
    | none => rfl
    | some b => exact List.set_comm a b h

theorem getElem?_store_of_ne {i j : Nat} (h : i ≠ j) (a : Option α) : (store vs i a)[j]? = vs[j]? := by
  cases a with
  | none => rfl
  | some a => exact List.getElem?_set_ne h

theorem getElem?_store_self (i : Nat) (a : Option α) : (store vs i a)[i]? = vs[i]?.map a.getD := by
  by_cases h : i < vs.length
  · have hi : vs[i]? = some vs[i] := List.getElem?_eq_getElem h
    rw [hi]
    cases a with
    | none => exact hi
    | some a => exact List.getElem?_set_self h
  · have hi : vs[i]? = none := List.getElem?_eq_none (by omega)
    rw [hi]
    exact List.getElem?_eq_none (by rw [length_store]; omega)

/-- The loop that writes the elements below `n`. -/
def fill (n : Nat) (f : Nat → Option α) (vs : List α) : List α := count n (fun vs i => store vs i (f i)) vs

theorem fill_succ (n : Nat) (f : Nat → Option α) : fill (n + 1) f vs = store (fill n f vs) n (f n) := count_succ n

@[simp] theorem length_fill (n : Nat) (f : Nat → Option α) : (fill n f vs).length = vs.length := by
  induction n with
  | zero => rfl
  | succ n ih => rw [fill_succ, length_store, ih]

theorem getElem?_fill_of_le {n j : Nat} (h : n ≤ j) (f : Nat → Option α) : (fill n f vs)[j]? = vs[j]? := by
  induction n with
  | zero => rfl
  | succ n ih =>
    rw [fill_succ, getElem?_store_of_ne (by omega)]
    exact ih (by omega)

theorem getElem?_fill {n j : Nat} (hj : j < n) (f : Nat → Option α) : (fill n f vs)[j]? = vs[j]?.map (f j).getD := by
  induction n with
  | zero => omega
  | succ n ih =>
    rw [fill_succ]
    by_cases h : n = j
    · subst h
      rw [getElem?_store_self, getElem?_fill_of_le (Nat.le_refl n)]
    · rw [getElem?_store_of_ne h]
      exact ih (by omega)

/-! ## Shared among threads -/

/-- How `n` rounds may be shared: which thread does which round, in the order in which they are done,
and the order in which the sums of the threads are combined. -/
structure Schedule (n : Nat) where
  visits : List (Nat × Nat)
  threads : List Nat
  once : (visits.map Prod.snd).Perm (List.range n)
  distinct : threads.Nodup
  joined : ∀ v ∈ visits, v.1 ∈ threads

/-- One thread does all rounds in order. -/
def Schedule.sequential (n : Nat) : Schedule n where
  visits := (List.range n).map (0, ·)
  threads := [0]
  once := by rw [List.map_map]; exact .of_eq (List.map_id _)
  distinct := by simp
  joined := by simp

variable [AddCommMonoid M]

/-- A round of the loop run in order. -/
def reduceStep (round : Nat → σ → σ × M) (r : σ × M) (i : Nat) : σ × M :=
  ((round i r.1).1, r.2 + (round i r.1).2)

def reduce (n : Nat) (round : Nat → σ → σ × M) (s : σ) : σ × M := count n (reduceStep round) (s, 0)

theorem reduce_succ (n : Nat) (round : Nat → σ → σ × M) (s : σ) :
    reduce (n + 1) round s = reduceStep round (reduce n round s) n :=
  count_succ n

/-- A round done by a thread, which has a sum of its own. -/
def visit (round : Nat → σ → σ × M) (r : σ × (Nat → M)) (v : Nat × Nat) : σ × (Nat → M) :=
  ((round v.2 r.1).1, fun t => if t = v.1 then r.2 t + (round v.2 r.1).2 else r.2 t)

/-- The value of the reduction variable once the sums are combined. -/
def combine (threads : List Nat) (sums : Nat → M) : M := threads.foldl (fun m t => m + sums t) 0

def parallelReduce {n : Nat} (schedule : Schedule n) (round : Nat → σ → σ × M) (s : σ) : σ × M :=
  let r := schedule.visits.foldl (visit round) (s, fun _ => 0)
  (r.1, combine schedule.threads r.2)

/-- A round neither undoes nor reads what another one writes, nor what the other one adds. -/
structure Independent (round : Nat → σ → σ × M) : Prop where
  commute : ∀ i j s, i ≠ j → (round j (round i s).1).1 = (round i (round j s).1).1
  amount : ∀ i j s, i ≠ j → (round j (round i s).1).2 = (round j s).2

variable {round : Nat → σ → σ × M}

theorem combine_eq (threads : List Nat) (sums : Nat → M) : combine threads sums = (threads.map sums).sum := by
  have h : ∀ m, threads.foldl (fun m t => m + sums t) m = m + (threads.map sums).sum := by
    induction threads with
    | nil => intro m; simp
    | cons t ts ih => intro m; simp only [List.foldl_cons, List.map_cons, List.sum_cons, ih, add_assoc]
  rw [combine, h, zero_add]

/-- A thread adds to its sum: the combined value grows by as much. -/
theorem sum_map_add {threads : List Nat} (hnodup : threads.Nodup) {t : Nat} (ht : t ∈ threads) (sums : Nat → M)
    (a : M) :
    (threads.map fun u => if u = t then sums u + a else sums u).sum = (threads.map sums).sum + a := by
  induction threads with
  | nil => cases ht
  | cons u us ih =>
    obtain ⟨hu, hus⟩ := List.nodup_cons.1 hnodup
    simp only [List.map_cons, List.sum_cons]
    rcases List.mem_cons.1 ht with rfl | ht
    · have hrest : us.map (fun u => if u = t then sums u + a else sums u) = us.map sums := by
        apply List.map_congr_left
        intro u hmem
        rw [if_neg]
        rintro rfl
        exact hu hmem
      rw [hrest, if_pos rfl, add_right_comm]
    · have hne : u ≠ t := by
        rintro rfl
        exact hu ht
      rw [ih hus ht, if_neg hne, add_assoc]

/-- The threads together compute what one thread computes that does their rounds in the same order. -/
theorem foldl_visit {threads : List Nat} (hnodup : threads.Nodup) {visits : List (Nat × Nat)}
    (hjoined : ∀ v ∈ visits, v.1 ∈ threads) (s : σ) (sums : Nat → M) :
    ((visits.foldl (visit round) (s, sums)).1, combine threads (visits.foldl (visit round) (s, sums)).2) =
      (visits.map Prod.snd).foldl (reduceStep round) (s, combine threads sums) := by
  induction visits generalizing s sums with
  | nil => rfl
  | cons v vs ih =>
    simp only [List.foldl_cons, List.map_cons]
    rw [visit, ih fun w hw => hjoined w (List.mem_cons_of_mem v hw)]
    congr 1
    simp only [reduceStep, combine_eq]
    rw [sum_map_add hnodup (hjoined v List.mem_cons_self)]

/-- The rounds in any order. -/
theorem foldl_perm (h : Independent round) {is js : List Nat} (hperm : is.Perm js) (r : σ × M) :
    is.foldl (reduceStep round) r = js.foldl (reduceStep round) r := by
  apply hperm.foldl_eq'
  rintro i - j - ⟨s, m⟩
  by_cases hij : i = j
  · rw [hij]
  · simp only [reduceStep]
    rw [h.commute j i s (Ne.symm hij), h.amount j i s (Ne.symm hij), h.amount i j s hij, add_right_comm]

/-- A loop with independent rounds has the result of the loop run in order, however it is shared. -/
theorem parallelReduce_eq (h : Independent round) {n : Nat} (schedule : Schedule n) (s : σ) :
    parallelReduce schedule round s = reduce n round s := by
  have hsum : combine schedule.threads (fun _ => (0 : M)) = 0 := by
    rw [combine_eq, List.map_const', List.sum_replicate, nsmul_zero]
  calc parallelReduce schedule round s
      = (schedule.visits.map Prod.snd).foldl (reduceStep round) (s, combine schedule.threads fun _ => 0) :=
        foldl_visit schedule.distinct schedule.joined s _
    _ = (List.range n).foldl (reduceStep round) (s, 0) := by rw [hsum, foldl_perm h schedule.once]

/-! ## Loops without a reduction -/

/-- A loop whose rounds only write. -/
def parallel {n : Nat} (schedule : Schedule n) (body : σ → Nat → σ) (s : σ) : σ :=
  (parallelReduce schedule (fun i s => (body s i, 0)) s).1

theorem parallel_eq (h : ∀ i j s, i ≠ j → body (body s i) j = body (body s j) i) {n : Nat} (schedule : Schedule n) :
    parallel schedule body s = count n body s := by
  have hind : Independent fun i (s : σ) => (body s i, (0 : Nat)) := ⟨h, fun _ _ _ _ => rfl⟩
  have hfst : ∀ k, (count k (reduceStep fun i (s : σ) => (body s i, (0 : Nat))) (s, 0)).1 = count k body s := by
    intro k
    induction k with
    | zero => rfl
    | succ k ih => rw [count_succ, count_succ, reduceStep, ih]
  rw [parallel, parallelReduce_eq hind, reduce, hfst]

end Loop

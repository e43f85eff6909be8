/-
Merge patches of one value at a path of member names. Such a patch sets the value at its path and leaves
the values at paths that turn off before its end; patches at paths that part from each other commute, and
one patch that holds several values below a path is the sequence of those that hold one each.
-/
import Gocator.Lib.MergePatch

namespace Json

/-- The objects around a value, from the outside. -/
def nest : List String → Json → Json
  | [], v => v
  | k :: path, v => .obj [(k, nest path v)]

@[simp] theorem nest_nil (v : Json) : nest [] v = v := rfl

theorem nest_append (path path' : List String) (v : Json) : nest (path ++ path') v = nest path (nest path' v) := by
  induction path with
  | nil => rfl
  | cons k path ih => rw [List.cons_append, nest, nest, ih]

theorem sorted_single (k : String) (v : Json) : SortedMap.Sorted [(k, v)] := List.pairwise_singleton _ _

theorem wf_nest {v : Json} (hv : v.WF) (path : List String) : (nest path v).WF := by
  induction path with
  | nil => exact hv
  | cons k path ih => exact everywhere_single (sorted_single k _) ih

theorem nest_isNull {v : Json} (hv : v.isNull = false) (path : List String) : (nest path v).isNull = false := by
  cases path with
  | nil => exact hv
  | cons k path => rfl

theorem nest_isObj {path : List String} (h : path ≠ []) (v : Json) : (nest path v).isObj = true := by
  cases path with
  | nil => exact absurd rfl h
  | cons k path => rfl

theorem at?_nest (v : Json) : ∀ path : List String, at? path (nest path v) = some v
  | [] => rfl
  | k :: path => by
    have hget : (nest (k :: path) v).get? k = some (nest path v) := SortedMap.get?_cons_self ..
    rw [at?, hget]
    exact at?_nest v path

/-! ## One patch -/

theorem get?_mergePatch_nest (t : Json) (k : String) (path : List String) (v : Json) :
    (mergePatch t (nest (k :: path) v)).get? k = mergeAt (t.get? k) (nest path v) := by
  rw [nest, get?_mergePatch (sorted_single ..), SortedMap.get?_cons_self]
  rfl

theorem get?_mergePatch_nest_of_ne (t : Json) {k k' : String} (h : k' ≠ k) (path : List String) (v : Json) :
    (mergePatch t (nest (k :: path) v)).get? k' = t.get? k' := by
  rw [nest, get?_mergePatch (sorted_single ..), SortedMap.get?_cons_of_ne h]
  rfl

/-- An object is merged into the member, or into null. -/
theorem mergeAt_of_isObj {p : Json} (h : p.isObj = true) (x : Option Json) :
    mergeAt x p = some (mergePatch (x.getD .null) p) := by
  cases p with
  | obj ms => rfl
  | _ => cases h

/-- The value at the path of the patch is the merged one. -/
theorem at?_mergePatch_nest {v : Json} (hn : v.isNull = false) (hv : v.isObj = false) :
    ∀ (path : List String) (t : Json), at? path (mergePatch t (nest path v)) = some v
  | [], t => by rw [nest_nil, mergePatch_of_not_obj hv, at?]
  | k :: path, t => by
    rw [at?, get?_mergePatch_nest, mergeAt, nest_isNull hn, if_neg Bool.false_ne_true, Option.bind_some]
    exact at?_mergePatch_nest hn hv path _

/-- Neither path goes through the end of the other. -/
def Apart : List String → List String → Prop
  | k :: path, l :: path' => k ≠ l ∨ Apart path path'
  | _, _ => False

instance decidableApart : ∀ path path' : List String, Decidable (Apart path path')
  | [], _ => isFalse id
  | _ :: _, [] => isFalse id
  | k :: path, l :: path' => by
    have := decidableApart path path'
    exact inferInstanceAs (Decidable (k ≠ l ∨ Apart path path'))

theorem Apart.ne_nil {path path' : List String} (h : Apart path path') : path ≠ [] ∧ path' ≠ [] := by
  cases path with
  | nil => exact h.elim
  | cons k path =>
    cases path' with
    | nil => exact h.elim
    | cons l path' => exact ⟨List.cons_ne_nil _ _, List.cons_ne_nil _ _⟩

theorem Apart.symm : ∀ {path path' : List String}, Apart path path' → Apart path' path
  | _ :: _, _ :: _, h => h.imp Ne.symm Apart.symm

theorem Apart.irrefl : ∀ {path : List String}, ¬ Apart path path
  | [], h => h
  | _ :: _, h => h.elim (fun hne => hne rfl) Apart.irrefl

theorem at?_null {path : List String} (h : path ≠ []) : at? path .null = none := by
  cases path with
  | nil => exact absurd rfl h
  | cons k path => rfl

/-- A patch leaves the values at paths apart from its own. -/
theorem at?_mergePatch_nest_of_apart (v : Json) : ∀ {path path' : List String}, Apart path path' → ∀ t : Json,
    at? path' (mergePatch t (nest path v)) = at? path' t
  | k :: path, l :: path', h, t => by
    rw [at?, at?]
    by_cases hkl : l = k
    · subst hkl
      have hpath : Apart path path' := h.resolve_left fun hne => hne rfl
      obtain ⟨hne, hne'⟩ := hpath.ne_nil
      rw [get?_mergePatch_nest, mergeAt_of_isObj (nest_isObj hne v), Option.bind_some,
        at?_mergePatch_nest_of_apart v hpath]
      cases t.get? l with
      | none => exact at?_null hne'
      | some u => rfl
    · rw [get?_mergePatch_nest_of_ne t hkl]

/-- A sequence of patches leaves the values at paths apart from all of theirs. -/
theorem at?_mergePatches_of_apart {path : List String} : ∀ {us : List (List String × Json)},
    (∀ u ∈ us, Apart u.1 path) → ∀ t : Json, at? path (mergePatches t (us.map fun u => nest u.1 u.2)) = at? path t
  | [], _, _ => rfl
  | u :: us, h, t => by
    rw [List.map_cons, mergePatches_cons, at?_mergePatches_of_apart fun v hv => h v (List.mem_cons_of_mem _ hv)]
    exact at?_mergePatch_nest_of_apart u.2 (h u (List.mem_cons_self ..)) t

/-- Values at paths that are apart from each other are all there after the sequence. -/
theorem at?_mergePatches_of_mem {u : List String × Json} : ∀ {us : List (List String × Json)},
    us.Pairwise (fun u v => Apart u.1 v.1) → (∀ v ∈ us, v.2.isNull = false ∧ v.2.isObj = false) → u ∈ us →
    ∀ t : Json, at? u.1 (mergePatches t (us.map fun u => nest u.1 u.2)) = some u.2
  | v :: us, hap, hs, hu, t => by
    obtain ⟨hv, hap⟩ := List.pairwise_cons.1 hap
    rw [List.map_cons, mergePatches_cons]
    rcases List.mem_cons.1 hu with rfl | hu
    · rw [at?_mergePatches_of_apart fun w hw => (hv w hw).symm]
      obtain ⟨hn, ho⟩ := hs u (List.mem_cons_self ..)
      exact at?_mergePatch_nest hn ho u.1 t
    · exact at?_mergePatches_of_mem hap (fun w hw => hs w (List.mem_cons_of_mem _ hw)) hu _

/-- Of the values for one path the last one is there. -/
theorem at?_mergePatches_last {path : List String} : ∀ {us : List (List String × Json)},
    (∀ u ∈ us, (u.1 = path ∨ Apart u.1 path) ∧ u.2.isNull = false ∧ u.2.isObj = false) → ∀ t : Json,
    at? path (mergePatches t (us.map fun u => nest u.1 u.2)) =
      ((us.filter (·.1 = path)).map (·.2)).getLast?.or (at? path t)
  | [], _, _ => rfl
  | u :: us, h, t => by
    have ih := at?_mergePatches_last (fun v hv => h v (List.mem_cons_of_mem _ hv)) (mergePatch t (nest u.1 u.2))
    obtain ⟨hpath, hn, ho⟩ := h u (List.mem_cons_self ..)
    rw [List.map_cons, mergePatches_cons, ih]
    rcases hpath with hpath | hpath
    · subst hpath
      rw [List.filter_cons_of_pos (by simp), List.map_cons, List.getLast?_cons, at?_mergePatch_nest hn ho]
      cases ((us.filter (·.1 = u.1)).map (·.2)).getLast? <;> rfl
    · have hne : u.1 ≠ path := by
        rintro rfl
        exact hpath.irrefl
      rw [List.filter_cons_of_neg (by simpa using hne), at?_mergePatch_nest_of_apart u.2 hpath]

/-! ## Patches that commute -/

theorem mergePatch_obj_members {p : Json} (h : p.isObj = true) (t : Json) :
    mergePatch t p = .obj (mergePatch t p).members := by
  cases p with
  | obj ms => rw [mergePatch]; rfl
  | _ => cases h

/-- Documents after patches that are objects are equal if they have the same members. -/
theorem mergePatch_ext {t u p q : Json} (ht : t.WF) (hu : u.WF) (hp : p.WF) (hq : q.WF) (ho : p.isObj = true)
    (ho' : q.isObj = true) (h : ∀ k, (mergePatch t p).get? k = (mergePatch u q).get? k) :
    mergePatch t p = mergePatch u q := by
  rw [mergePatch_obj_members ho t, mergePatch_obj_members ho' u]
  exact congrArg Json.obj (SortedMap.ext (sorted_mergePatch ht hp) (sorted_mergePatch hu hq) h)

/-- A value that is no object takes the place of the one before. -/
theorem mergePatch_nest_over {v w : Json} (hv : v.isNull = false) (hw : w.isObj = false) (hvw : v.WF) (hww : w.WF) :
    ∀ (path : List String) {t : Json}, t.WF →
      mergePatch (mergePatch t (nest path v)) (nest path w) = mergePatch t (nest path w)
  | [], t, _ => (mergePatch_of_not_obj hw).trans (mergePatch_of_not_obj hw).symm
  | k :: path, t, ht => by
    have hp := wf_nest hvw (k :: path)
    have hq := wf_nest hww (k :: path)
    refine mergePatch_ext (wf_mergePatch _ ht hp) ht hq hq rfl rfl fun m => ?_
    by_cases hm : m = k
    · subst hm
      rw [get?_mergePatch_nest, get?_mergePatch_nest, get?_mergePatch_nest, mergeAt, mergeAt, mergeAt, nest_isNull hv,
        if_neg Bool.false_ne_true, Option.getD_some]
      split
      · rfl
      · exact congrArg some (mergePatch_nest_over hv hw hvw hww path (wf_getD ht m))
    · rw [get?_mergePatch_nest_of_ne _ hm, get?_mergePatch_nest_of_ne _ hm, get?_mergePatch_nest_of_ne _ hm]

theorem mergePatch_nest_comm {v w : Json} (hv : v.WF) (hw : w.WF) : ∀ {path path' : List String}, Apart path path' →
    ∀ {t : Json}, t.WF → mergePatch (mergePatch t (nest path v)) (nest path' w) =
      mergePatch (mergePatch t (nest path' w)) (nest path v)
  | k :: path, l :: path', h, t, ht => by
    have hp := wf_nest hv (k :: path)
    have hq := wf_nest hw (l :: path')
    refine mergePatch_ext (wf_mergePatch _ ht hp) (wf_mergePatch _ ht hq) hq hp rfl rfl fun m => ?_
    by_cases hkl : k = l
    · subst hkl
      have hpath : Apart path path' := h.resolve_left fun hne => hne rfl
      obtain ⟨hne, hne'⟩ := hpath.ne_nil
      by_cases hm : m = k
      · subst hm
        simp only [get?_mergePatch_nest, mergeAt_of_isObj (nest_isObj hne v), mergeAt_of_isObj (nest_isObj hne' w),
          Option.getD_some]
        exact congrArg some (mergePatch_nest_comm hv hw hpath (wf_getD ht m))
      · simp only [get?_mergePatch_nest_of_ne _ hm]
    · by_cases hm : m = k
      · subst hm
        rw [get?_mergePatch_nest_of_ne _ hkl, get?_mergePatch_nest, get?_mergePatch_nest,
          get?_mergePatch_nest_of_ne _ hkl]
      · by_cases hm' : m = l
        · subst hm'
          rw [get?_mergePatch_nest, get?_mergePatch_nest_of_ne _ hm, get?_mergePatch_nest_of_ne _ hm,
            get?_mergePatch_nest]
        · simp only [get?_mergePatch_nest_of_ne _ hm, get?_mergePatch_nest_of_ne _ hm']

/-- Values at paths that are apart from each other can be set in any order. -/
theorem mergePatches_perm {us vs : List (List String × Json)} (h : us.Perm vs) : (∀ u ∈ us, u.2.WF) →
    us.Pairwise (fun u v => Apart u.1 v.1) → ∀ {t : Json}, t.WF →
      mergePatches t (us.map fun u => nest u.1 u.2) = mergePatches t (vs.map fun u => nest u.1 u.2) := by
  induction h with
  | nil => exact fun _ _ _ _ => rfl
  | cons u _ ih =>
    intro hwf hap t ht
    rw [List.map_cons, List.map_cons, mergePatches_cons, mergePatches_cons]
    refine ih (fun v hv => hwf v (List.mem_cons_of_mem _ hv)) (List.pairwise_cons.1 hap).2 ?_
    exact wf_mergePatch _ ht (wf_nest (hwf u (List.mem_cons_self ..)) u.1)
  | swap u v us =>
    intro hwf hap t ht
    have huv : Apart v.1 u.1 := (List.pairwise_cons.1 hap).1 u (List.mem_cons_self ..)
    simp only [List.map_cons, mergePatches_cons]
    rw [mergePatch_nest_comm (hwf v (by simp)) (hwf u (by simp)) huv ht]
  | trans hp _ ih ih' =>
    intro hwf hap t ht
    rw [ih hwf hap ht]
    refine ih' (fun v hv => hwf v (hp.mem_iff.2 hv)) ?_ ht
    exact (hp.pairwise_iff fun h => h.symm).1 hap

/-! ## One patch of several values -/

/-- Two patches in turn that do what one does also do so below a path. -/
theorem mergePatch_nest_seq {p q r : Json} (hp : p.isObj = true) (hq : q.isObj = true) (hr : r.isObj = true)
    (hpw : p.WF) (hqw : q.WF) (hrw : r.WF) (h : ∀ t : Json, t.WF → mergePatch t r = mergePatch (mergePatch t p) q) :
    ∀ (path : List String) {t : Json}, t.WF →
      mergePatch t (nest path r) = mergePatch (mergePatch t (nest path p)) (nest path q)
  | [], t, ht => h t ht
  | k :: path, t, ht => by
    have hobj : ∀ {s : Json}, s.isObj = true → (nest path s).isObj = true := by
      intro s hs
      cases path with
      | nil => exact hs
      | cons l path => rfl
    refine mergePatch_ext ht (wf_mergePatch _ ht (wf_nest hpw _)) (wf_nest hrw _) (wf_nest hqw _) rfl rfl fun m => ?_
    by_cases hm : m = k
    · subst hm
      simp only [get?_mergePatch_nest, mergeAt_of_isObj (hobj hp), mergeAt_of_isObj (hobj hq),
        mergeAt_of_isObj (hobj hr),
        Option.getD_some]
      exact congrArg some (mergePatch_nest_seq hp hq hr hpw hqw hrw h path (wf_getD ht m))
    · simp only [get?_mergePatch_nest_of_ne _ hm]

/-- An object below a path is set member by member. -/
theorem mergePatch_nest_members (path : List String) : ∀ {ms : List (String × Json)}, (Json.obj ms).WF → ms ≠ [] →
    ∀ {t : Json}, t.WF → mergePatch t (nest path (.obj ms)) =
      mergePatches t (ms.map fun m => nest (path ++ [m.1]) m.2)
  | [m], _, _, t, _ => by
    rw [List.map_singleton, mergePatches_cons, mergePatches_nil, nest_append]
    rfl
  | m :: m' :: ms, hwf, _, t, ht => by
    have hsorted := (List.pairwise_cons.1 hwf.here).2
    have hm : m.2.WF := hwf.get? (SortedMap.get?_cons_self ..)
    have hrest : (Json.obj (m' :: ms)).WF := by
      refine everywhere_obj hsorted fun e he => ?_
      exact hwf.get? (SortedMap.get?_of_mem hwf.here (List.mem_cons_of_mem m he))
    have hsingle : (Json.obj [(m.1, m.2)]).WF := everywhere_single (sorted_single ..) hm
    have hstep := mergePatch_nest_seq (p := .obj [(m.1, m.2)]) (q := .obj (m' :: ms)) (r := .obj (m :: m' :: ms))
      rfl rfl rfl hsingle hrest hwf (fun u _ => by simp only [mergePatch, mergeMembers, members]) path ht
    have hfirst : nest path (.obj [(m.1, m.2)]) = nest (path ++ [m.1]) m.2 := by rw [nest_append]; rfl
    rw [hstep, List.map_cons, mergePatches_cons, ← hfirst]
    exact mergePatch_nest_members path hrest (List.cons_ne_nil _ _) (wf_mergePatch _ ht (wf_nest hsingle path))

end Json

/-
JSON values with objects as key-sorted lists of members, lookup along a path of member names, the
JSON pointers of RFC 6901 and the merge patch of RFC 7396. The main law of the merge patch is that
of a restore: a value without nulls, merged into one with the same member names wherever both hold
objects, replaces it.
-/
import Gocator.Lib.SortedMap
import Mathlib.Data.String.Basic
import Mathlib.Data.Rat.Defs

/-- A JSON value; the members of an object are sorted by their names where it is well formed. -/
inductive Json where
  | null
  | bool (b : Bool)
  | num (q : Rat)
  | str (s : String)
  | arr (items : List Json)
  | obj (members : List (String × Json))

namespace Json

/-! ## Members -/

def members : Json → List (String × Json)
  | .obj ms => ms
  | _ => []

def isObj : Json → Bool
  | .obj _ => true
  | _ => false

def isNull : Json → Bool
  | .null => true
  | _ => false

/-- The member with this name, of an object that has it. -/
def get? (j : Json) (k : String) : Option Json := SortedMap.get? k j.members

def hasKey (j : Json) (k : String) : Bool := (j.get? k).isSome

/-- The object with this member set; a value that is not an object is replaced by one. -/
def set (j : Json) (k : String) (v : Json) : Json := .obj (SortedMap.set k v j.members)

/-- The number of elements of an array, of members of an object; 0 for null and 1 for a scalar. -/
def size : Json → Nat
  | .null => 0
  | .arr items => items.length
  | .obj ms => ms.length
  | _ => 1

@[simp] theorem members_obj (ms : List (String × Json)) : (Json.obj ms).members = ms := rfl

@[simp] theorem get?_set_self (j : Json) (k : String) (v : Json) : (j.set k v).get? k = some v :=
  SortedMap.get?_set_self ..

theorem get?_set_of_ne (j : Json) {k k' : String} (h : k' ≠ k) (v : Json) : (j.set k v).get? k' = j.get? k' :=
  SortedMap.get?_set_of_ne h ..

theorem isObj_of_get? {j v : Json} {k : String} (h : j.get? k = some v) : j.isObj = true := by
  cases j with
  | obj ms => rfl
  | _ => cases h

theorem sizeOf_get? {j v : Json} {k : String} (h : j.get? k = some v) : sizeOf v < sizeOf j := by
  cases j with
  | obj ms =>
    have hlt := List.sizeOf_lt_of_mem (SortedMap.mem_of_get? h)
    simp only [Prod.mk.sizeOf_spec, members_obj] at hlt
    simp only [obj.sizeOf_spec]
    omega
  | _ => cases h

/-- What holds of a value when it holds of its members holds of every value. -/
theorem memberInduction {P : Json → Prop} (h : ∀ j, (∀ k v, j.get? k = some v → P v) → P j) (j : Json) : P j :=
  h j fun _ v _ => memberInduction h v
  termination_by sizeOf j
  decreasing_by exact sizeOf_get? ‹_›

/-! ## Paths of member names -/

/-- The value at a path of member names. -/
def at? : List String → Json → Option Json
  | [], j => some j
  | k :: path, j => (j.get? k).bind (at? path)

/-- The property holds of the value and of every value at a path in it. -/
def Everywhere (P : Json → Prop) (j : Json) : Prop := ∀ path v, at? path j = some v → P v

theorem Everywhere.here {P : Json → Prop} {j : Json} (h : Everywhere P j) : P j := h [] j rfl

theorem Everywhere.get? {P : Json → Prop} {j v : Json} {k : String} (h : Everywhere P j) (hg : j.get? k = some v) :
    Everywhere P v :=
  fun path w hw => h (k :: path) w (by simp only [at?, hg]; exact hw)

theorem everywhere_iff {P : Json → Prop} {j : Json} :
    Everywhere P j ↔ P j ∧ ∀ k v, j.get? k = some v → Everywhere P v := by
  constructor
  · exact fun h => ⟨h.here, fun k v hg => h.get? hg⟩
  · rintro ⟨hj, hm⟩ path v hv
    cases path with
    | nil => cases hv; exact hj
    | cons k path =>
      obtain ⟨w, hw, hv⟩ := Option.bind_eq_some_iff.1 hv
      exact hm k w hw path v hv

theorem everywhere_obj {P : Json → Prop} {ms : List (String × Json)} (h : P (.obj ms))
    (hm : ∀ e ∈ ms, Everywhere P e.2) : Everywhere P (.obj ms) :=
  everywhere_iff.2 ⟨h, fun _ _ hg => hm _ (SortedMap.mem_of_get? hg)⟩

theorem everywhere_single {P : Json → Prop} {k : String} {v : Json} (h : P (.obj [(k, v)])) (hv : Everywhere P v) :
    Everywhere P (.obj [(k, v)]) := by
  refine everywhere_obj h fun e he => ?_
  rw [List.mem_singleton.1 he]
  exact hv

theorem everywhere_of_not_obj {P : Json → Prop} {j : Json} (hobj : j.isObj = false) (h : P j) : Everywhere P j := by
  refine everywhere_iff.2 ⟨h, fun k v hg => ?_⟩
  rw [isObj_of_get? hg] at hobj
  cases hobj

/-- The members of every object are listed in increasing order of their names. -/
def WF : Json → Prop := Everywhere fun v => SortedMap.Sorted v.members

/-- No value is null. -/
def NoNull : Json → Prop := Everywhere (·.isNull = false)

/-- The two values have the same member names wherever both hold objects. -/
def SameShape (j j' : Json) : Prop :=
  ∀ path v v', at? path j = some v → at? path j' = some v' → v.isObj = true → v'.isObj = true →
    ∀ k, v.hasKey k = v'.hasKey k

theorem SameShape.refl (j : Json) : SameShape j j := by
  intro path v v' hv hv' _ _ k
  cases hv.symm.trans hv'
  rfl

theorem SameShape.get? {j j' v v' : Json} {k : String} (h : SameShape j j') (hv : j.get? k = some v)
    (hv' : j'.get? k = some v') : SameShape v v' :=
  fun path w w' hw hw' => h (k :: path) w w' (by simp only [at?, hv]; exact hw) (by simp only [at?, hv']; exact hw')

theorem SameShape.symm {j j' : Json} (h : SameShape j j') : SameShape j' j :=
  fun path v v' hv hv' ho ho' k => (h path v' v hv' hv ho' ho k).symm

theorem SameShape.keys {j j' : Json} (h : SameShape j j') (hj : j.isObj = true) (hj' : j'.isObj = true) (k : String) :
    j.hasKey k = j'.hasKey k :=
  h [] j j' rfl rfl hj hj' k

/-- A value that is not an object has the shape of every value. -/
theorem sameShape_of_not_obj {j j' : Json} (h : j.isObj = false) : SameShape j j' := by
  intro path v v' hv _ hobj
  cases path with
  | nil => cases hv; rw [h] at hobj; cases hobj
  | cons k path =>
    obtain ⟨w, hw, -⟩ := Option.bind_eq_some_iff.1 hv
    rw [isObj_of_get? hw] at h
    cases h

theorem hasKey_of_mem {ms : List (String × Json)} {k : String} (h : k ∈ ms.map Prod.fst) :
    (Json.obj ms).hasKey k = true := by
  obtain ⟨e, he, rfl⟩ := List.mem_map.1 h
  exact SortedMap.isSome_get?_of_mem he

theorem mem_of_hasKey {ms : List (String × Json)} {k : String} (h : (Json.obj ms).hasKey k = true) :
    k ∈ ms.map Prod.fst := by
  obtain ⟨v, hv⟩ := Option.isSome_iff_exists.1 h
  exact List.mem_map.2 ⟨_, SortedMap.mem_of_get? hv, rfl⟩

/-- Objects with the same member names, none of which is an object, have the same shape. -/
theorem sameShape_obj {ms ms' : List (String × Json)} (hk : ms.map Prod.fst = ms'.map Prod.fst)
    (hm : ∀ e ∈ ms, e.2.isObj = false) : SameShape (.obj ms) (.obj ms') := by
  intro path v v' hv hv' hobj hobj' k
  cases path with
  | nil =>
    cases hv
    cases hv'
    refine Bool.eq_iff_iff.2 ⟨fun h => ?_, fun h => ?_⟩
    · exact hasKey_of_mem (hk ▸ mem_of_hasKey h)
    · exact hasKey_of_mem (hk ▸ mem_of_hasKey h)
  | cons k' path =>
    obtain ⟨w, hw, hv⟩ := Option.bind_eq_some_iff.1 hv
    obtain ⟨w', -, hv'⟩ := Option.bind_eq_some_iff.1 hv'
    have hsh : SameShape w w' := sameShape_of_not_obj (hm _ (SortedMap.mem_of_get? hw))
    exact hsh path v v' hv hv' hobj hobj' k

/-! ## Merge patch -/

/-- One member of a patch: null removes, everything else sets the merged value. -/
def mergeMember (ts : List (String × Json)) (k : String) (v merged : Json) : List (String × Json) :=
  if v.isNull then SortedMap.erase k ts else SortedMap.set k merged ts

mutual

/-- RFC 7396: merge a patch into a target. -/
def mergePatch (t : Json) : Json → Json
  | .obj ms => .obj (mergeMembers t.members ms)
  | p => p

def mergeMembers (ts : List (String × Json)) : List (String × Json) → List (String × Json)
  | [] => ts
  | (k, v) :: ms => mergeMembers (mergeMember ts k v (mergePatch ((SortedMap.get? k ts).getD .null) v)) ms

end

theorem mergePatch_of_not_obj {t p : Json} (h : p.isObj = false) : mergePatch t p = p := by
  cases p with
  | obj ms => cases h
  | _ => rfl

theorem get?_mergeMember_of_ne {k k' : String} (h : k' ≠ k) (ts : List (String × Json)) (v w : Json) :
    SortedMap.get? k' (mergeMember ts k v w) = SortedMap.get? k' ts := by
  unfold mergeMember
  split
  · exact SortedMap.get?_erase_of_ne h ts
  · exact SortedMap.get?_set_of_ne h w ts

theorem sorted_mergeMember {ts : List (String × Json)} (h : SortedMap.Sorted ts) (k : String) (v w : Json) :
    SortedMap.Sorted (mergeMember ts k v w) := by
  unfold mergeMember
  split
  · exact SortedMap.sorted_erase k h
  · exact SortedMap.sorted_set k w h

/-- A member the patch does not name stays as it is. -/
theorem get?_mergeMembers_of_not_mem {k : String} : ∀ (ms ts : List (String × Json)), (∀ e ∈ ms, e.1 ≠ k) →
    SortedMap.get? k (mergeMembers ts ms) = SortedMap.get? k ts
  | [], ts, _ => by rw [mergeMembers]
  | (k', v) :: ms, ts, h => by
    rw [mergeMembers, get?_mergeMembers_of_not_mem ms _ fun e he => h e (List.mem_cons_of_mem _ he)]
    exact get?_mergeMember_of_ne (h _ (List.mem_cons_self ..)).symm ts v _

theorem sorted_mergeMembers : ∀ (ms : List (String × Json)) {ts : List (String × Json)}, SortedMap.Sorted ts →
    SortedMap.Sorted (mergeMembers ts ms)
  | [], ts, h => by rwa [mergeMembers]
  | (k, v) :: ms, ts, h => by
    rw [mergeMembers]
    exact sorted_mergeMembers ms (sorted_mergeMember h k v _)

/-- What a member of a sorted patch does to the target: null removes it, any other value is merged. -/
theorem get?_mergeMembers {k : String} {v : Json} : ∀ (ms ts : List (String × Json)), SortedMap.Sorted ms →
    SortedMap.get? k ms = some v →
    SortedMap.get? k (mergeMembers ts ms) =
      if v.isNull then none else some (mergePatch ((SortedMap.get? k ts).getD .null) v)
  | (k', v') :: ms, ts, hs, hk => by
    obtain ⟨hlt, hs⟩ := List.pairwise_cons.1 hs
    rw [mergeMembers]
    by_cases hkk : k = k'
    · subst hkk
      rw [SortedMap.get?_cons_self] at hk
      cases hk
      rw [get?_mergeMembers_of_not_mem ms _ fun e he => (hlt e he).ne']
      unfold mergeMember
      split
      · exact SortedMap.get?_erase_self k ts
      · exact SortedMap.get?_set_self ..
    · rw [SortedMap.get?_cons_of_ne hkk] at hk
      rw [get?_mergeMembers ms _ hs hk, get?_mergeMember_of_ne hkk]

theorem wf_null : WF .null := by
  refine everywhere_iff.2 ⟨SortedMap.sorted_nil, fun k v hv => ?_⟩
  cases hv

theorem wf_getD {j : Json} (h : j.WF) (k : String) : WF ((j.get? k).getD .null) := by
  cases hk : j.get? k with
  | none => exact wf_null
  | some v => exact h.get? hk

/-- The members of a patched object: those the patch does not name, and the merged ones. -/
theorem get?_mergePatch {t : Json} {ms : List (String × Json)} (hs : SortedMap.Sorted ms) (k : String) :
    (mergePatch t (.obj ms)).get? k = match SortedMap.get? k ms with
      | none => t.get? k
      | some v => if v.isNull then none else some (mergePatch ((t.get? k).getD .null) v) := by
  rw [mergePatch]
  change SortedMap.get? k (mergeMembers t.members ms) = _
  split
  · rename_i hk
    refine get?_mergeMembers_of_not_mem ms _ ?_
    rintro ⟨k', w⟩ he rfl
    rw [SortedMap.get?_of_mem hs he] at hk
    cases hk
  · rename_i v hk
    exact get?_mergeMembers ms _ hs hk

/-- A value without nulls, merged into a value that has the same member names wherever both hold
objects, replaces it. -/
theorem mergePatch_eq (p : Json) : ∀ t : Json, t.WF → p.WF → p.NoNull → SameShape t p → mergePatch t p = p := by
  induction p using memberInduction with
  | h p ih =>
    intro t ht hp hn hsh
    cases hobj : p.isObj with
    | false => exact mergePatch_of_not_obj hobj
    | true =>
      cases p with
      | obj ms =>
        have hs : SortedMap.Sorted ms := hp.here
        rw [mergePatch]
        refine congrArg Json.obj (SortedMap.ext (sorted_mergeMembers ms ht.here) hs fun k => ?_)
        have hg := get?_mergePatch (t := t) hs k
        rw [mergePatch] at hg
        change SortedMap.get? k (mergeMembers t.members ms) = _ at hg
        rw [hg]
        cases hk : SortedMap.get? k ms with
        | none =>
          -- a member the patch does not name is one the target does not have
          cases ht' : t.get? k with
          | none => rfl
          | some u =>
            have := hsh.keys (isObj_of_get? ht') rfl k
            simp only [hasKey, ht', Option.isSome_some] at this
            simp [get?, hk] at this
        | some v =>
          have hv : (Json.obj ms).get? k = some v := hk
          simp only [(hn.get? hv).here, Bool.false_eq_true, if_false, Option.some.injEq]
          refine ih k v hv _ (wf_getD ht k) (hp.get? hv) (hn.get? hv) ?_
          cases ht' : t.get? k with
          | none => exact sameShape_of_not_obj rfl
          | some u => exact hsh.get? ht' hv
      | _ => cases hobj

/-- Patches that name no common member can be merged in either order. -/
theorem mergePatch_comm {t : Json} {ms ms' : List (String × Json)} (ht : t.WF) (hs : SortedMap.Sorted ms)
    (hs' : SortedMap.Sorted ms') (hd : ∀ k, SortedMap.get? k ms = none ∨ SortedMap.get? k ms' = none) :
    mergePatch (mergePatch t (.obj ms)) (.obj ms') = mergePatch (mergePatch t (.obj ms')) (.obj ms) := by
  have hobj : ∀ (u : Json) (l : List (String × Json)), mergePatch u (.obj l) = .obj (mergePatch u (.obj l)).members :=
    fun u l => by rw [mergePatch]; rfl
  have hsort : ∀ {l l' : List (String × Json)},
    SortedMap.Sorted (mergePatch (mergePatch t (.obj l)) (.obj l')).members := by
    intro l l'
    rw [mergePatch, mergePatch]
    exact sorted_mergeMembers l' (sorted_mergeMembers l ht.here)
  rw [hobj _ ms', hobj _ ms]
  refine congrArg Json.obj (SortedMap.ext hsort hsort fun k => ?_)
  change (mergePatch (mergePatch t (.obj ms)) (.obj ms')).get? k =
    (mergePatch (mergePatch t (.obj ms')) (.obj ms)).get? k
  rw [get?_mergePatch hs', get?_mergePatch hs, get?_mergePatch hs, get?_mergePatch hs']
  rcases hd k with h | h <;> simp only [h]

end Json

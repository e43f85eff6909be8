/-
One stored path and its two readers: the lookup of `applyFeatureValues`, which strips a prefix and splits at
the slashes, and the JSON pointer of `setParameterValue`. Both lead to the member that was displayed exactly
when the names on the way stand for themselves and the first is not taken for the `parameters` envelope.
-/
import Gocator.Features.Editors
import Gocator.Features.Leaves
import Gocator.Lib.NestedPatch

namespace Gocator.Features

open Json (nest at?_nest)
open JsonPointer (Plain tokens resolve segments unescape)

/-! ## Where the path of a leaf leads -/

/-- The names that `applyFeatureValues` follows from the root of the resource. -/
def refreshNames (path : String) : List String :=
  if "/parameters".toList <+: path.toList then "parameters" :: splitSlash (withoutSlash (path.toList.drop 11))
  else splitSlash (withoutSlash path.toList)

theorem splitSlash_ne_nil (text : List Char) : splitSlash text ≠ [] :=
  fun h => JsonPointer.segments_ne_nil text (List.map_eq_nil_iff.1 h)

theorem targetVal_eq (resourceData : Json) (path : String) :
    targetVal resourceData path = follow (refreshNames path) resourceData := by
  unfold targetVal refreshNames
  split
  · rw [follow_cons (splitSlash_ne_nil _)]
  · rfl

theorem pathOf_cons_toList (name : String) (names : List String) :
    (pathOf (name :: names)).toList = '/' :: (name.toList ++ (pathOf names).toList) := by
  rw [pathOf, String.toList_append, String.toList_append]
  rfl

/-- The parts between the slashes of a path are those of its names. -/
theorem segments_pathOf (name : String) : ∀ names : List String,
    segments (name.toList ++ (pathOf names).toList) =
      segments name.toList ++ names.flatMap fun n => segments n.toList
  | [] => by
    rw [pathOf, List.flatMap_nil, List.append_nil]
    exact congrArg segments (List.append_nil _)
  | name' :: names => by
    rw [pathOf_cons_toList, JsonPointer.segments_append_slash, segments_pathOf name' names, List.flatMap_cons]

theorem tokens_pathOf (names : List String) : tokens (pathOf names) =
    (names.flatMap fun n => segments n.toList).mapM fun s => (unescape s).map String.ofList := by
  cases names with
  | nil => rfl
  | cons name names =>
    unfold tokens
    rw [pathOf_cons_toList, List.flatMap_cons, ← segments_pathOf]
    rfl

theorem splitSlash_pathOf (name : String) (names : List String) :
    splitSlash (withoutSlash (pathOf (name :: names)).toList) =
      ((name :: names).flatMap fun n => segments n.toList).map String.ofList := by
  rw [pathOf_cons_toList, withoutSlash, splitSlash, segments_pathOf, List.flatMap_cons]

/-! ## Names that both readers find -/

/-- Both readers find the names again: each stands for itself, and the first does not begin like the envelope
unless it is the envelope. -/
def PathOk (names : List String) : Prop :=
  (∀ n ∈ names, Plain n) ∧ ∀ n, names.head? = some n → "parameters".toList <+: n.toList → n = "parameters"

theorem flatMap_segments {names : List String} (h : ∀ n ∈ names, '/' ∉ n.toList) :
    (names.flatMap fun n => segments n.toList) = names.map String.toList := by
  induction names with
  | nil => rfl
  | cons name names ih =>
    rw [List.flatMap_cons, JsonPointer.segments_of_not_mem (h name (List.mem_cons_self ..)),
      ih fun n hn => h n (List.mem_cons_of_mem _ hn)]
    rfl

theorem mapM_unescape {names : List String} (h : ∀ n ∈ names, '~' ∉ n.toList) :
    ((names.map String.toList).mapM fun s => (unescape s).map String.ofList) = some names := by
  induction names with
  | nil => rfl
  | cons name names ih =>
    simp only [List.map_cons, List.mapM_cons, JsonPointer.unescape_of_not_mem (h name (List.mem_cons_self ..)),
      ih fun n hn => h n (List.mem_cons_of_mem _ hn), Option.map_some, String.ofList_toList]
    rfl

theorem tokens_of_plain {names : List String} (h : ∀ n ∈ names, Plain n) : tokens (pathOf names) = some names := by
  rw [tokens_pathOf, flatMap_segments fun n hn => (h n hn).1, mapM_unescape fun n hn => (h n hn).2]

theorem map_ofList_toList (names : List String) : (names.map String.toList).map String.ofList = names := by
  rw [List.map_map]
  exact (List.map_congr_left fun n _ => String.ofList_toList).trans (List.map_id names)

/-- The prefix of the envelope is stripped from the path exactly when the first name begins like it. -/
theorem begins_pathOf_iff (name : String) (names : List String) :
    "/parameters".toList <+: (pathOf (name :: names)).toList ↔ "parameters".toList <+: name.toList := by
  have hslash : '/' ∉ "parameters".toList := by decide
  rw [pathOf_cons_toList, show "/parameters".toList = '/' :: "parameters".toList from rfl, List.cons_prefix_cons]
  constructor
  · rintro ⟨-, h⟩
    rcases List.prefix_or_prefix_of_prefix h (List.prefix_append _ _) with h' | ⟨t, ht⟩
    · exact h'
    · rw [← ht, List.prefix_append_right_inj] at h
      -- what the name leaves of the prefix would start with a slash
      cases t with
      | nil => exact ⟨[], by rw [List.append_nil, ← ht, List.append_nil]⟩
      | cons c t =>
        cases names with
        | nil => cases List.prefix_nil.1 h
        | cons name' names =>
          rw [pathOf_cons_toList, List.cons_prefix_cons] at h
          rw [← ht, h.1] at hslash
          exact absurd (List.mem_append_right _ (List.mem_cons_self ..)) hslash
  · exact fun h => ⟨rfl, h.trans (List.prefix_append _ _)⟩

theorem refreshNames_of_ok {names : List String} (h : PathOk names) (hne : names ≠ [])
    (hlone : names ≠ ["parameters"]) :
    refreshNames (pathOf names) = names := by
  obtain ⟨name, rest, rfl⟩ := List.exists_cons_of_ne_nil hne
  have hslash : ∀ n ∈ name :: rest, '/' ∉ n.toList := fun n hn => (h.1 n hn).1
  unfold refreshNames
  split
  · rename_i hbegins
    obtain rfl := h.2 name rfl ((begins_pathOf_iff name rest).1 hbegins)
    have hrest : rest ≠ [] := fun hnil => hlone (by rw [hnil])
    obtain ⟨name', rest', rfl⟩ := List.exists_cons_of_ne_nil hrest
    have hdrop : (pathOf ("parameters" :: name' :: rest')).toList.drop 11 = (pathOf (name' :: rest')).toList := by
      rw [pathOf_cons_toList]
      rfl
    rw [hdrop, splitSlash_pathOf, flatMap_segments fun n hn => hslash n (List.mem_cons_of_mem _ hn), map_ofList_toList]
  · rw [splitSlash_pathOf, flatMap_segments hslash, map_ofList_toList]

/-! ## Names that the pointer finds -/

theorem mapM_cons_eq_some {α β : Type} {f : α → Option β} {a : α} {l : List α} {b : β} {l' : List β}
    (h : (a :: l).mapM f = some (b :: l')) : f a = some b ∧ l.mapM f = some l' := by
  rw [List.mapM_cons] at h
  obtain ⟨b', hb, h⟩ := Option.bind_eq_some_iff.1 h
  obtain ⟨l'', hl, h⟩ := Option.bind_eq_some_iff.1 h
  cases h
  exact ⟨hb, hl⟩

theorem length_mapM {α β : Type} {f : α → Option β} : ∀ {l : List α} {l' : List β}, l.mapM f = some l' →
    l.length = l'.length
  | [], l', h => by cases h; rfl
  | a :: l, [], h => by
    rw [List.mapM_cons] at h
    obtain ⟨b', -, h⟩ := Option.bind_eq_some_iff.1 h
    obtain ⟨l'', -, h⟩ := Option.bind_eq_some_iff.1 h
    cases h
  | a :: l, b :: l', h => congrArg Nat.succ (length_mapM (mapM_cons_eq_some h).2)

theorem length_le_flatMap {α β : Type} {g : α → List β} (hg : ∀ a, g a ≠ []) : ∀ l : List α,
    l.length ≤ (l.flatMap g).length
  | [] => Nat.le_refl 0
  | a :: l => by
    have hpos := List.length_pos_iff.2 (hg a)
    have hle := length_le_flatMap hg l
    rw [List.flatMap_cons, List.length_append, List.length_cons]
    omega

/-- Where the parts of names give the names back, each name is in one part. -/
theorem eq_of_flatMap_mapM {α β : Type} {g : α → List β} {f : β → Option α} (hg : ∀ a, g a ≠ []) :
    ∀ {l : List α}, (l.flatMap g).mapM f = some l → ∀ a ∈ l, ∃ b, g a = [b] ∧ f b = some a
  | [], _ => fun a hm => absurd hm List.not_mem_nil
  | a :: l, h => by
    obtain ⟨b, bs, hb⟩ := List.exists_cons_of_ne_nil (hg a)
    rw [List.flatMap_cons, hb, List.cons_append] at h
    obtain ⟨hfirst, hrest⟩ := mapM_cons_eq_some h
    have hlen := length_mapM hrest
    have hle := length_le_flatMap hg l
    rw [List.length_append] at hlen
    obtain rfl : bs = [] := List.length_eq_zero_iff.1 (by omega)
    intro a' ha'
    rcases List.mem_cons.1 ha' with rfl | ha'
    · exact ⟨b, hb, hfirst⟩
    · exact eq_of_flatMap_mapM hg hrest a' ha'

/-- The pointer reads the names from their path only if each stands for itself. -/
theorem plain_of_tokens {names : List String} (h : tokens (pathOf names) = some names) : ∀ n ∈ names, Plain n := by
  rw [tokens_pathOf] at h
  intro n hn
  obtain ⟨s, hs, hun⟩ := eq_of_flatMap_mapM (fun n : String => JsonPointer.segments_ne_nil n.toList) h n hn
  obtain ⟨rfl, hslash⟩ := JsonPointer.segments_eq_singleton hs
  obtain ⟨cs, hcs, rfl⟩ := Option.map_eq_some_iff.1 hun
  have hlen := (JsonPointer.unescape_length hcs).2 (by rw [String.toList_ofList])
  exact ⟨hslash, hlen⟩

/-! ## Values -/

/-- The value is of the type that a schema declares. Types without editors are not looked at. -/
def OfType (propType : String) (v : Json) : Prop :=
  (propType = "boolean" → ∃ b, v = .bool b) ∧ (propType = "integer" → ∃ n : Int, v = .num n) ∧
    (propType = "number" → ∃ q, v = .num q) ∧ (propType = "string" → ∃ s, v = .str s)

/-- The resource holds objects where its schema has properties, and at its leaves values of their types. Any of
them may be missing. -/
def Matches (resourceSchema resourceData : Json) : Prop :=
  resourceData.isObj = true ∧ ∀ names s, LeafAt resourceSchema names s →
    (∀ names', names' <+: names → names' ≠ names → ∀ v, Json.at? names' resourceData = some v → v.isObj = true) ∧
    ∀ v, Json.at? names resourceData = some v → OfType (toText (s.get? "type")) v

theorem follow_empty : ∀ names : List String, follow names (.obj []) = none
  | [] => rfl
  | [_] => rfl
  | _ :: name :: names => follow_empty (name :: names)

/-- Through objects the pointer finds what the lookup finds. -/
theorem resolve_eq_follow : ∀ {names : List String} {j : Json}, names ≠ [] →
    (∀ names', names' <+: names → names' ≠ names → ∀ v, Json.at? names' j = some v → v.isObj = true) →
    resolve names j = follow names j
  | [], _, hne, _ => absurd rfl hne
  | name :: names, j, _, hobj => by
    have hj := hobj [] (List.nil_prefix) (List.cons_ne_nil _ _).symm j rfl
    cases j with
    | obj ms =>
      rw [resolve]
      cases names with
      | nil =>
        show _ = SortedMap.get? name ms
        cases SortedMap.get? name ms <;> rfl
      | cons name' names =>
        rw [follow_cons (List.cons_ne_nil _ _)]
        cases hget : (Json.obj ms).get? name with
        | none =>
          rw [show SortedMap.get? name ms = none from hget]
          exact (follow_empty _).symm
        | some w =>
          have hw := hobj [name] ⟨name' :: names, rfl⟩ (by simp) w (by rw [Json.at?, hget]; rfl)
          rw [show SortedMap.get? name ms = some w from hget, Option.bind_some]
          cases w with
          | obj ms' =>
            refine resolve_eq_follow (List.cons_ne_nil _ _) fun names'' hinit hne v hv => ?_
            refine hobj (name :: names'') (List.cons_prefix_cons.2 ⟨rfl, hinit⟩)
              (fun heq => hne (List.cons.inj heq).2) v ?_
            rw [Json.at?, hget]
            exact hv
          | _ => cases hw
    | _ => cases hj

/-! ## A resource that holds one value -/

/-- A value of a type that has editors. -/
def sampleOf (propType : String) : Json :=
  if propType = "boolean" then .bool true else if propType = "string" then .str "" else .num 1

theorem ofType_sampleOf (propType : String) : OfType propType (sampleOf propType) := by
  refine ⟨?_, ?_, ?_, ?_⟩
  · rintro rfl
    exact ⟨true, rfl⟩
  · rintro rfl
    exact ⟨1, rfl⟩
  · rintro rfl
    exact ⟨1, rfl⟩
  · rintro rfl
    exact ⟨"", rfl⟩

theorem get?_nest {name name' : String} {names : List String} {v w : Json}
    (h : (nest (name :: names) v).get? name' = some w) : name' = name ∧ w = nest names v := by
  by_cases hname : name' = name
  · rw [hname] at h
    exact ⟨hname, (Option.some.inj ((SortedMap.get?_cons_self ..).symm.trans h)).symm⟩
  · have hnone : (nest (name :: names) v).get? name' = none :=
      (SortedMap.get?_cons_of_ne hname ..).trans (SortedMap.get?_nil _)
    rw [hnone] at h
    cases h

theorem follow_nest {names : List String} (hne : names ≠ []) (v : Json) : follow names (nest names v) = some v := by
  induction names with
  | nil => exact absurd rfl hne
  | cons name names ih =>
    have hget : (nest (name :: names) v).get? name = some (nest names v) := SortedMap.get?_cons_self ..
    cases names with
    | nil => exact hget
    | cons name' names =>
      rw [follow_cons (List.cons_ne_nil _ _), hget]
      exact ih (List.cons_ne_nil _ _)

section

variable {propType : String}

theorem get?_sampleOf (name : String) : (sampleOf propType).get? name = none := by
  unfold sampleOf
  split
  · rfl
  · split <;> rfl

theorem toObject_sampleOf : toObject (some (sampleOf propType)) = .obj [] := by
  unfold sampleOf
  split
  · rfl
  · split <;> rfl

theorem resolve_sampleOf (name : String) (names : List String) :
    resolve (name :: names) (sampleOf propType) = none := by
  unfold sampleOf
  split
  · rfl
  · split <;> rfl

theorem sampleOf_ne_nest (name : String) (names : List String) (v : Json) :
    sampleOf propType ≠ nest (name :: names) v := by
  intro heq
  have hget : (nest (name :: names) v).get? name = some (nest names v) := SortedMap.get?_cons_self ..
  rw [← heq, get?_sampleOf] at hget
  cases hget

/-- Only its own names lead to the value. -/
theorem eq_of_follow_nest : ∀ {names names' : List String},
    follow names' (nest names (sampleOf propType)) = some (sampleOf propType) → names' = names
  | _, [], h => by cases h
  | [], [name'], h => by
    rw [follow, nest, get?_sampleOf] at h
    cases h
  | name :: names, [name'], h => by
    obtain ⟨rfl, hv⟩ := get?_nest h
    cases names with
    | nil => rfl
    | cons name'' names => exact (sampleOf_ne_nest _ _ _ hv).elim
  | [], name' :: name'' :: names', h => by
    rw [follow_cons (List.cons_ne_nil _ _), nest, get?_sampleOf] at h
    rw [show toObject none = .obj [] from rfl, follow_empty] at h
    cases h
  | name :: names, name' :: name'' :: names', h => by
    rw [follow_cons (List.cons_ne_nil _ _)] at h
    cases hget : (nest (name :: names) (sampleOf propType)).get? name' with
    | none =>
      rw [hget, show toObject none = .obj [] from rfl, follow_empty] at h
      cases h
    | some w =>
      obtain ⟨rfl, rfl⟩ := get?_nest hget
      rw [hget] at h
      cases names with
      | nil =>
        rw [nest, toObject_sampleOf, follow_empty] at h
        cases h
      | cons name₁ names =>
        have heq : name'' :: names' = name₁ :: names := eq_of_follow_nest h
        rw [heq]

theorem eq_of_resolve_nest : ∀ {names names' : List String},
    resolve names' (nest names (sampleOf propType)) = some (sampleOf propType) → names' = names
  | [], [], _ => rfl
  | [], name' :: names', h => by
    rw [nest, resolve_sampleOf] at h
    cases h
  | name :: names, [], h => (sampleOf_ne_nest _ _ _ (Option.some.inj h).symm).elim
  | name :: names, name' :: names', h => by
    rw [nest, resolve] at h
    obtain ⟨w, hw, hrest⟩ := Option.bind_eq_some_iff.1 h
    obtain ⟨rfl, rfl⟩ := get?_nest (show (nest (name :: names) (sampleOf propType)).get? name' = some w from hw)
    rw [eq_of_resolve_nest hrest]

/-- What is there stands on the way to the value, and before the value there are objects. -/
theorem initial_of_at?_nest : ∀ {names names' : List String} {w : Json},
    Json.at? names' (nest names (sampleOf propType)) = some w →
      names' <+: names ∧ (names' ≠ names → w.isObj = true)
  | [], [], _, _ => ⟨List.nil_prefix, fun hne => absurd rfl hne⟩
  | [], name' :: names', w, h => by
    rw [nest, Json.at?, get?_sampleOf] at h
    cases h
  | name :: names, [], w, h => by
    cases h
    exact ⟨List.nil_prefix, fun _ => rfl⟩
  | name :: names, name' :: names', w, h => by
    obtain ⟨u, hu, hrest⟩ := Option.bind_eq_some_iff.1 h
    obtain ⟨rfl, rfl⟩ := get?_nest hu
    obtain ⟨hinit, hobj⟩ := initial_of_at?_nest hrest
    exact ⟨List.cons_prefix_cons.2 ⟨rfl, hinit⟩, fun hne => hobj fun heq => hne (by rw [heq])⟩

end

theorem LeafAt.ne_nil {resourceSchema s : Json} {names : List String} (h : LeafAt resourceSchema names s) :
    names ≠ [] := by
  cases h with
  | enveloped => exact List.cons_ne_nil _ _
  | root _ _ hbelow =>
    obtain ⟨names', rfl⟩ := hbelow.exists_cons
    exact List.cons_ne_nil _ _

/-- A resource with nothing but a leaf of its schema matches it. -/
theorem matches_nest {resourceSchema s : Json} {names : List String} (hwf : resourceSchema.WF)
    (h : LeafAt resourceSchema names s) :
    Matches resourceSchema (nest names (sampleOf (toText (s.get? "type")))) := by
  constructor
  · obtain ⟨name, rest, rfl⟩ := List.exists_cons_of_ne_nil h.ne_nil
    rfl
  intro names' s' h'
  constructor
  · intro init hinit hne v hv
    obtain ⟨hbefore, hobj⟩ := initial_of_at?_nest hv
    refine hobj ?_
    rintro rfl
    exact hne (h.eq_of_initial hwf h' hinit).1
  · intro v hv
    obtain ⟨rfl, rfl⟩ := h'.eq_of_initial hwf h (initial_of_at?_nest hv).1
    rw [at?_nest] at hv
    cases hv
    exact ofType_sampleOf _

theorem matches_empty (resourceSchema : Json) : Matches resourceSchema (.obj []) := by
  refine ⟨rfl, fun names s h => ⟨fun names' _ _ v hv => ?_, fun v hv => ?_⟩⟩
  · cases names' with
    | nil =>
      cases hv
      rfl
    | cons name' names' => cases hv
  · obtain ⟨name, rest, rfl⟩ := List.exists_cons_of_ne_nil h.ne_nil
    cases hv

/-! ## Leaves with an editor -/

/-- Whether a property has an editor does not depend on its value. -/
theorem isSome_buildEditor {outside : Rat → Int32} {propSchema : Json} {v : Option Json} (v' : Option Json)
    (h : (buildEditor outside propSchema v).isSome = true) : (buildEditor outside propSchema v').isSome = true := by
  obtain ⟨e, he⟩ := Option.isSome_iff_exists.1 h
  rcases kind_of_buildEditor he with htype | ⟨htype, henum⟩ | ⟨htype, henum⟩ | ⟨htype, henum⟩ | ⟨htype, henum⟩
  · rw [buildEditor_boolean htype]
    rfl
  · rw [buildEditor_numberEnum htype henum]
    rfl
  · rw [buildEditor_integer htype henum]
    rfl
  · rw [buildEditor_number htype henum]
    rfl
  · rw [buildEditor_textEnum htype henum]
    rfl

theorem isSome_feature (outside : Rat → Int32) (pending : List (String × Json)) (leaf : Leaf) :
    (leaf.feature outside pending).isSome = true ↔ (buildEditor outside leaf.propSchema none).isSome = true := by
  unfold Leaf.feature
  dsimp only
  rw [Option.isSome_map]
  exact ⟨isSome_buildEditor none, isSome_buildEditor _⟩

/-- The schema of a leaf that has an editor has members. -/
theorem members_ne_nil {outside : Rat → Int32} {s : Json} (h : (buildEditor outside s none).isSome = true) :
    s.members ≠ [] := by
  intro hnil
  have hget : ∀ k, s.get? k = none := fun k => by rw [Json.get?, hnil, SortedMap.get?_nil]
  have htype : toText (s.get? "type") = "" := by rw [hget]; rfl
  unfold buildEditor at h
  rw [htype] at h
  cases h

theorem Below.eq_of_singleton {name name' : String} {propSchema s : Json} {names : List String}
    (h : Below name propSchema names s) (hnames : names = [name']) : name = name' ∧ s = propSchema := by
  cases h with
  | leaf => exact ⟨(List.cons.inj hnames).1, rfl⟩
  | sub _ _ hbelow =>
    obtain ⟨names', rfl⟩ := hbelow.exists_cons
    cases hnames

/-- The envelope itself has no editor. -/
theorem LeafAt.ne_parameters {outside : Rat → Int32} {resourceSchema s : Json} {names : List String}
    (hwf : resourceSchema.WF) (h : LeafAt resourceSchema names s)
    (heditor : (buildEditor outside s none).isSome = true) : names ≠ ["parameters"] := by
  intro hnames
  cases h with
  | enveloped _ _ hbelow =>
    obtain ⟨names', rfl⟩ := hbelow.exists_cons
    cases hnames
  | @root e _ _ hmem hname hbelow =>
    obtain ⟨hkey, rfl⟩ := hbelow.eq_of_singleton hnames
    have hschema : parameterSchema resourceSchema = toObject (some e.2) := by
      have hget := SortedMap.get?_of_mem (wf_toObject_get? hwf "properties").here hmem
      rw [hkey] at hget
      exact congrArg toObject hget
    have hne := members_ne_nil heditor
    rw [← hschema] at hne
    exact hname hne hkey

/-! ## One path, three readers -/

/-- The member to which the pointer of `setParameterValue` leads. -/
def pointerVal (resourceData : Json) (path : String) : Option Json :=
  (tokens path).bind fun ts => resolve ts resourceData

/-- The names of every leaf with an editor can be found again. -/
def PathsOk (outside : Rat → Int32) (resourceSchema : Json) : Prop :=
  ∀ names s, LeafAt resourceSchema names s → (buildEditor outside s none).isSome = true → PathOk names

section

variable {outside : Rat → Int32} {resourceSchema : Json}

theorem agree_of_pathsOk {target : ParameterTarget} {pending : List (String × Json)} (hwf : resourceSchema.WF)
    (hok : PathsOk outside resourceSchema) {resourceData : Json}
    (hmatches : Matches resourceSchema resourceData) {leaf : Leaf}
    (hleaf : leaf ∈ addResourceCategory target resourceSchema resourceData)
    (heditor : (leaf.feature outside pending).isSome = true) :
    targetVal resourceData leaf.path = leaf.value ∧ pointerVal resourceData leaf.path = leaf.value := by
  obtain ⟨names, s, hat, rfl⟩ := mem_addResourceCategory.1 hleaf
  have hbuild := (isSome_feature ..).1 heditor
  have hnames := hok names s hat hbuild
  dsimp only
  constructor
  · rw [targetVal_eq, refreshNames_of_ok hnames hat.ne_nil (hat.ne_parameters hwf hbuild)]
  · rw [pointerVal, tokens_of_plain hnames.1, Option.bind_some]
    exact resolve_eq_follow hat.ne_nil (hmatches.2 names s hat).1

/-- Where the readers agree on the resource with nothing but a leaf, its names can be found again. -/
theorem pathOk_of_agree {names : List String} (propType : String) (hne : names ≠ [])
    (hrefresh : targetVal (nest names (sampleOf propType)) (pathOf names) = some (sampleOf propType))
    (hpointer : pointerVal (nest names (sampleOf propType)) (pathOf names) = some (sampleOf propType)) :
    PathOk names := by
  obtain ⟨ts, hts, hresolve⟩ := Option.bind_eq_some_iff.1 hpointer
  obtain rfl := eq_of_resolve_nest hresolve
  rw [targetVal_eq] at hrefresh
  have hnames := eq_of_follow_nest hrefresh
  refine ⟨plain_of_tokens hts, ?_⟩
  intro n hn hbegins
  obtain ⟨rest, rfl⟩ := List.head?_eq_some_iff.1 hn
  unfold refreshNames at hnames
  rw [if_pos ((begins_pathOf_iff n rest).2 hbegins)] at hnames
  exact (List.cons.inj hnames).1.symm

theorem pathsOk_of_agree (target : ParameterTarget) (pending : List (String × Json)) (hwf : resourceSchema.WF)
    (h : ∀ resourceData, Matches resourceSchema resourceData →
      ∀ leaf ∈ addResourceCategory target resourceSchema resourceData, (leaf.feature outside pending).isSome = true →
        targetVal resourceData leaf.path = leaf.value ∧ pointerVal resourceData leaf.path = leaf.value) :
    PathsOk outside resourceSchema := by
  intro names s hat hbuild
  have hne := hat.ne_nil
  obtain ⟨hrefresh, hpointer⟩ := h _ (matches_nest hwf hat) _ (mem_addResourceCategory.2 ⟨names, s, hat, rfl⟩)
    ((isSome_feature ..).2 hbuild)
  dsimp only at hrefresh hpointer
  rw [follow_nest hne] at hrefresh hpointer
  exact pathOk_of_agree _ hne hrefresh hpointer

end

/-- The answers to the four reads with these values. -/
def FeatureData.resources (scannerSchema sensorSchema : Json) (data : FeatureData) : Resources where
  scannerSchema := scannerSchema
  scannerData := data.scannerData
  sensorSchema := sensorSchema
  sensorData := data.sensorData

theorem target_of_mem {target : ParameterTarget} {resourceSchema resourceData : Json} {leaf : Leaf}
    (h : leaf ∈ addResourceCategory target resourceSchema resourceData) : leaf.target = target := by
  obtain ⟨names, s, -, rfl⟩ := mem_addResourceCategory.1 h
  rfl

/-- The value that a refresh looks up for the path and target of an editor, and the member that an update of this
path names, are the displayed one, for every editor and all resources that match the schemas, exactly when the
names on the way to every editor can be found again. -/
theorem paths_agree_iff (outside : Rat → Int32) (pending : List (String × Json)) {scannerSchema sensorSchema : Json}
    (hscanner : scannerSchema.WF) (hsensor : sensorSchema.WF) :
    (∀ data : FeatureData, Matches scannerSchema data.scannerData → Matches sensorSchema data.sensorData →
        ∀ leaf ∈ (data.resources scannerSchema sensorSchema).leaves, ∀ f, leaf.feature outside pending = some f →
          f.targetVal data = leaf.value ∧ pointerVal (data.of f.target) f.path = leaf.value) ↔
      PathsOk outside scannerSchema ∧ PathsOk outside sensorSchema := by
  have hfeature : ∀ {leaf : Leaf} {f : Feature}, leaf.feature outside pending = some f →
      f.target = leaf.target ∧ f.path = leaf.path := by
    intro leaf f h
    obtain ⟨editor, -, rfl⟩ := Option.map_eq_some_iff.1 h
    exact ⟨rfl, rfl⟩
  constructor
  · intro h
    constructor
    · refine pathsOk_of_agree .scanner pending hscanner fun resourceData hmatches leaf hleaf heditor => ?_
      obtain ⟨f, hf⟩ := Option.isSome_iff_exists.1 heditor
      have hagree := h ⟨resourceData, .obj []⟩ hmatches (matches_empty _) leaf (List.mem_append_left _ hleaf) f hf
      obtain ⟨htarget, hpath⟩ := hfeature hf
      rw [Feature.targetVal, htarget, hpath, target_of_mem hleaf] at hagree
      exact hagree
    · refine pathsOk_of_agree .sensor pending hsensor fun resourceData hmatches leaf hleaf heditor => ?_
      obtain ⟨f, hf⟩ := Option.isSome_iff_exists.1 heditor
      have hagree := h ⟨.obj [], resourceData⟩ (matches_empty _) hmatches leaf (List.mem_append_right _ hleaf) f hf
      obtain ⟨htarget, hpath⟩ := hfeature hf
      rw [Feature.targetVal, htarget, hpath, target_of_mem hleaf] at hagree
      exact hagree
  · rintro ⟨hscannerOk, hsensorOk⟩ data hscannerData hsensorData leaf hleaf f hf
    have heditor := Option.isSome_iff_exists.2 ⟨f, hf⟩
    obtain ⟨htarget, hpath⟩ := hfeature hf
    rw [Feature.targetVal, htarget, hpath]
    rcases List.mem_append.1 hleaf with hleaf | hleaf
    · rw [target_of_mem hleaf]
      exact agree_of_pathsOk hscanner hscannerOk hscannerData hleaf heditor
    · rw [target_of_mem hleaf]
      exact agree_of_pathsOk hsensor hsensorOk hsensorData hleaf heditor

/-! ## A resource with one check box -/

def flagProperty : Json := .obj [("type", .str "boolean")]

/-- A boolean of this name at the root of the resource. -/
def flagSchema (name : String) : Json := .obj [("properties", .obj [(name, flagProperty)])]

theorem wf_flagSchema (name : String) : (flagSchema name).WF :=
  Json.everywhere_single (List.pairwise_singleton _ _) (Json.everywhere_single (List.pairwise_singleton _ _)
    (Json.everywhere_single (List.pairwise_singleton _ _) (Json.everywhere_of_not_obj rfl SortedMap.sorted_nil)))

theorem wf_empty : (Json.obj []).WF := Json.everywhere_obj SortedMap.sorted_nil fun _ hm => absurd hm List.not_mem_nil

theorem flagProperty_not_object : toText (flagProperty.get? "type") ≠ "object" := by decide

theorem leafAt_flag {name : String} (h : name ≠ "parameters") : LeafAt (flagSchema name) [name] flagProperty :=
  LeafAt.root (e := (name, flagProperty)) (List.mem_singleton_self _) (fun _ => h) (.leaf flagProperty_not_object)

/-- The check box is the only leaf. -/
theorem eq_of_leafAt_flag {name : String} (h : name ≠ "parameters") {names : List String} {s : Json}
    (hat : LeafAt (flagSchema name) names s) : names = [name] := by
  have hnone : parameterSchema (flagSchema name) = .obj [] := by
    have hget : (Json.obj [(name, flagProperty)]).get? "parameters" = none :=
      (SortedMap.get?_cons_of_ne h.symm ..).trans (SortedMap.get?_nil _)
    unfold parameterSchema
    rw [show toObject ((flagSchema name).get? "properties") = .obj [(name, flagProperty)] from rfl, hget]
    rfl
  cases hat with
  | enveloped henvelope =>
    rw [hnone] at henvelope
    exact absurd rfl henvelope
  | root hmem _ hbelow =>
    obtain rfl := List.mem_singleton.1 hmem
    cases hbelow with
    | leaf => rfl
    | sub htype => exact absurd htype flagProperty_not_object

theorem not_leafAt_empty {names : List String} {s : Json} : ¬ LeafAt (.obj []) names s := by
  intro hat
  cases hat with
  | enveloped henvelope => exact henvelope rfl
  | root hmem => cases hmem

/-- A check box of this name that is checked, and a sensor without parameters. -/
def flagData (name : String) : FeatureData := ⟨.obj [(name, .bool true)], .obj []⟩

theorem matches_flagData {name : String} (h : name ≠ "parameters") :
    Matches (flagSchema name) (flagData name).scannerData :=
  matches_nest (wf_flagSchema name) (leafAt_flag h)

theorem mem_leaves_flag {name : String} (h : name ≠ "parameters") :
    ⟨.scanner, pathOf [name], flagProperty, some (.bool true)⟩ ∈
      ((flagData name).resources (flagSchema name) (.obj [])).leaves := by
  refine List.mem_append_left _ (mem_addResourceCategory.2 ⟨_, _, leafAt_flag h, ?_⟩)
  have hvalue : follow [name] (flagData name).scannerData = some (.bool true) := follow_nest (List.cons_ne_nil _ _) _
  exact congrArg (Leaf.mk _ _ _) hvalue.symm

theorem laser_flag_found :
    Feature.targetVal (flagData "laserOn") ⟨.checkBox true, .scanner, pathOf ["laserOn"]⟩ = some (.bool true) ∧
      pointerVal (flagData "laserOn").scannerData (pathOf ["laserOn"]) = some (.bool true) := by
  have hname : "laserOn" ≠ "parameters" := by decide
  refine (paths_agree_iff (fun _ => 0) [] (wf_flagSchema "laserOn") wf_empty).2 ⟨?_, ?_⟩ (flagData "laserOn")
    (matches_flagData hname) (matches_empty _) _ (mem_leaves_flag hname) _ rfl
  · intro names s hat _
    rw [eq_of_leafAt_flag hname hat]
    refine ⟨?_, ?_⟩
    · intro n hn
      rw [List.mem_singleton.1 hn]
      decide
    · rintro n ⟨⟩ hbegins
      exact absurd hbegins (by decide)
  · exact fun _ _ hat => absurd hat not_leafAt_empty

theorem locked_flag_lost :
    ¬ ∀ (outside : Rat → Int32) (pending : List (String × Json)) (scannerSchema sensorSchema : Json),
    scannerSchema.WF → sensorSchema.WF → ∀ data : FeatureData, Matches scannerSchema data.scannerData →
    Matches sensorSchema data.sensorData → ∀ leaf ∈ (data.resources scannerSchema sensorSchema).leaves,
    ∀ f, leaf.feature outside pending = some f →
      f.targetVal data = leaf.value ∧ pointerVal (data.of f.target) f.path = leaf.value := by
  intro h
  have hname : "parametersLocked" ≠ "parameters" := by decide
  obtain ⟨hrefresh, hpointer⟩ := h (fun _ => 0) [] _ _ (wf_flagSchema "parametersLocked") wf_empty
    (flagData "parametersLocked") (matches_flagData hname) (matches_empty _) _ (mem_leaves_flag hname)
    ⟨.checkBox true, .scanner, _⟩ rfl
  -- the path begins like the envelope, whose name the member does not have
  have hok : PathOk ["parametersLocked"] := pathOk_of_agree "boolean" (List.cons_ne_nil _ _) hrefresh hpointer
  exact hname (hok.2 "parametersLocked" rfl (by decide))

end Gocator.Features

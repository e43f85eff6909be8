/-
JSON pointers as in RFC 6901: a text is cut at its slashes into reference tokens, in which `~1`
stands for a slash and `~0` for a tilde; the tokens lead from a value through members and elements.
-/
import Gocator.Lib.Json

namespace JsonPointer

/-! ## The text of a pointer -/

/-- The parts of a text between its slashes. -/
def segments : List Char → List (List Char)
  | [] => [[]]
  | c :: cs =>
    match segments cs with
    | [] => [[c]]
    | s :: ss => if c = '/' then [] :: s :: ss else (c :: s) :: ss

/-- Undo the escapes of one token; a tilde that starts no escape is an error. -/
def unescape : List Char → Option (List Char)
  | [] => some []
  | '~' :: '0' :: cs => (unescape cs).map ('~' :: ·)
  | '~' :: '1' :: cs => (unescape cs).map ('/' :: ·)
  | '~' :: _ => none
  | c :: cs => (unescape cs).map (c :: ·)

/-- The tokens of a pointer text, which is empty or starts with a slash. -/
def tokens (text : String) : Option (List String) :=
  match text.toList with
  | [] => some []
  | '/' :: cs => (segments cs).mapM fun s => (unescape s).map String.ofList
  | _ => none

/-- A name that stands for itself as a token. -/
def Plain (name : String) : Prop := '/' ∉ name.toList ∧ '~' ∉ name.toList

instance (name : String) : Decidable (Plain name) := inferInstanceAs (Decidable (_ ∧ _))

theorem segments_of_not_mem : ∀ {cs : List Char}, '/' ∉ cs → segments cs = [cs]
  | [], _ => rfl
  | c :: cs, h => by
    simp only [List.mem_cons, not_or] at h
    rw [segments, segments_of_not_mem h.2]
    exact if_neg (Ne.symm h.1)

theorem segments_ne_nil : ∀ cs : List Char, segments cs ≠ []
  | [] => List.cons_ne_nil _ _
  | c :: cs => by
    unfold segments
    split
    · exact List.cons_ne_nil _ _
    · split <;> exact List.cons_ne_nil _ _

/-- A slash separates the parts of the two texts beside it. -/
theorem segments_append_slash (cs' : List Char) : ∀ cs : List Char,
    segments (cs ++ '/' :: cs') = segments cs ++ segments cs'
  | [] => by
    show segments ('/' :: cs') = [] :: segments cs'
    rw [segments]
    cases hs : segments cs' with
    | nil => exact absurd hs (segments_ne_nil cs')
    | cons s ss => exact if_pos rfl
  | c :: cs => by
    rw [List.cons_append, segments, segments_append_slash cs' cs, segments]
    cases hs : segments cs with
    | nil => exact absurd hs (segments_ne_nil cs)
    | cons s ss =>
      rw [List.cons_append]
      by_cases hc : c = '/'
      · simp only [hc, if_true, List.cons_append]
      · simp only [hc, if_false, List.cons_append]

theorem unescape_of_not_mem : ∀ {cs : List Char}, '~' ∉ cs → unescape cs = some cs
  | [], _ => rfl
  | c :: cs, h => by
    simp only [List.mem_cons, not_or] at h
    have ih := unescape_of_not_mem h.2
    unfold unescape
    split
    · rename_i heq; cases heq
    · rename_i heq; cases heq; exact absurd rfl h.1
    · rename_i heq; cases heq; exact absurd rfl h.1
    · rename_i heq; cases heq; exact absurd rfl h.1
    · rename_i heq; cases heq; rw [ih]; rfl

/-- A text in one part has no slash. -/
theorem segments_eq_singleton {cs s : List Char} (h : segments cs = [s]) : s = cs ∧ '/' ∉ cs := by
  induction cs generalizing s with
  | nil =>
    cases h
    exact ⟨rfl, List.not_mem_nil⟩
  | cons c cs ih =>
    rw [segments] at h
    cases hs : segments cs with
    | nil => exact absurd hs (segments_ne_nil cs)
    | cons t ts =>
      rw [hs] at h
      by_cases hc : c = '/'
      · simp only [hc, if_true] at h
        cases h
      · simp only [hc, if_false, List.cons.injEq] at h
        obtain ⟨rfl, rfl⟩ := h
        obtain ⟨rfl, hnot⟩ := ih hs
        refine ⟨rfl, ?_⟩
        rw [List.mem_cons, not_or]
        exact ⟨Ne.symm hc, hnot⟩

/-- The first part of a text with a slash is shorter than the text. -/
theorem length_segments {cs s : List Char} {ss : List (List Char)} (h : segments cs = s :: ss) :
    s.length ≤ cs.length ∧ (s.length = cs.length → s = cs ∧ '/' ∉ cs) := by
  induction cs generalizing s ss with
  | nil =>
    cases h
    exact ⟨Nat.le_refl _, fun _ => ⟨rfl, List.not_mem_nil⟩⟩
  | cons c cs ih =>
    rw [segments] at h
    cases hs : segments cs with
    | nil => exact absurd hs (segments_ne_nil cs)
    | cons t ts =>
      rw [hs] at h
      obtain ⟨hle, hall⟩ := ih hs
      simp only [List.length_cons]
      by_cases hc : c = '/'
      · simp only [hc, if_true, List.cons.injEq] at h
        rw [← h.1, List.length_nil]
        exact ⟨Nat.zero_le _, fun heq => by omega⟩
      · simp only [hc, if_false, List.cons.injEq] at h
        rw [← h.1, List.length_cons]
        refine ⟨by omega, fun heq => ?_⟩
        obtain ⟨rfl, hnot⟩ := hall (by omega)
        refine ⟨rfl, ?_⟩
        rw [List.mem_cons, not_or]
        exact ⟨Ne.symm hc, hnot⟩

/-- An escape makes a token shorter than it is written. -/
theorem unescape_length : ∀ {cs ds : List Char}, unescape cs = some ds →
    ds.length ≤ cs.length ∧ (ds.length = cs.length → '~' ∉ cs) := by
  intro cs
  fun_induction unescape cs with
  | case1 =>
    rintro ds ⟨⟩
    exact ⟨Nat.le_refl _, fun _ => List.not_mem_nil⟩
  | case2 cs ih =>
    intro ds h
    obtain ⟨es, hes, rfl⟩ := Option.map_eq_some_iff.1 h
    have hle := (ih hes).1
    simp only [List.length_cons]
    exact ⟨by omega, fun heq => by omega⟩
  | case3 cs ih =>
    intro ds h
    obtain ⟨es, hes, rfl⟩ := Option.map_eq_some_iff.1 h
    have hle := (ih hes).1
    simp only [List.length_cons]
    exact ⟨by omega, fun heq => by omega⟩
  | case4 =>
    rintro ds ⟨⟩
  | case5 c cs hzero hone htilde ih =>
    intro ds h
    obtain ⟨es, hes, rfl⟩ := Option.map_eq_some_iff.1 h
    obtain ⟨hle, hnot⟩ := ih hes
    simp only [List.length_cons]
    refine ⟨by omega, fun heq => ?_⟩
    rw [List.mem_cons, not_or]
    exact ⟨fun h => htilde h.symm, hnot (by omega)⟩

/-- A slash before a plain name is the pointer with this name as its only token. -/
theorem tokens_slash {name : String} (h : Plain name) : tokens ("/" ++ name) = some [name] := by
  have hl : ("/" ++ name).toList = '/' :: name.toList := by rw [String.toList_append]; rfl
  unfold tokens
  rw [hl]
  simp only [segments_of_not_mem h.1, List.mapM_cons, List.mapM_nil, unescape_of_not_mem h.2, Option.map_some,
    String.ofList_toList]
  rfl

/-- The tokens of a pointer that is put together of two. -/
theorem tokens_append {path path' : String} {ts ts' : List String} (h : tokens path = some ts)
    (h' : tokens path' = some ts') : tokens (path ++ path') = some (ts ++ ts') := by
  unfold tokens at *
  rw [String.toList_append]
  split at h
  · rename_i hnil
    cases h
    rw [hnil]
    exact h'
  · rename_i cs hcs
    rw [hcs]
    split at h'
    · rename_i hnil
      cases h'
      rw [hnil, List.append_nil, List.append_nil]
      exact h
    · rename_i cs' hcs'
      rw [hcs']
      simp only [List.cons_append, segments_append_slash, List.mapM_append, h, h']
      rfl
    · cases h'
  · cases h

/-! ## Following a pointer -/

/-- The index an array token denotes: decimal digits with no superfluous zero in front. -/
def index? (token : String) : Option Nat :=
  match token.toList with
  | [] => none
  | ['0'] => some 0
  | '0' :: _ => none
  | cs => if cs.all (·.isDigit) then some (cs.foldl (fun n c => 10 * n + (c.toNat - 48)) 0) else none

/-- The value the tokens lead to. -/
def resolve : List String → Json → Option Json
  | [], j => some j
  | token :: rest, .obj ms => (SortedMap.get? token ms).bind (resolve rest)
  | token :: rest, .arr items => ((index? token).bind (items[·]?)).bind (resolve rest)
  | _ :: _, _ => none

/-- A token for which an array is made where there is no value: a dash, or digits only, even if there are none. -/
def Positional (token : String) : Prop := token = "-" ∨ token.toList.all (·.isDigit) = true

instance (token : String) : Decidable (Positional token) := inferInstanceAs (Decidable (_ ∨ _))

/-- The position a token denotes in an array for writing; a dash is the one behind the last element. -/
def position? (token : String) (size : Nat) : Option Nat := if token = "-" then some size else index? token

/-- The elements with one set, and null for those that are missing in front of it. -/
def setElement (items : List Json) (i : Nat) (v : Json) : List Json :=
  (items ++ List.replicate (i + 1 - items.length) Json.null).set i v

/-- The value with `v` put where the tokens lead; members and elements that are missing are made. -/
def assign (v : Json) : List String → Json → Option Json
  | [], _ => some v
  | token :: rest, .null =>
    if Positional token then
      (position? token 0).bind fun i => (assign v rest .null).map fun w => .arr (setElement [] i w)
    else (assign v rest .null).map (Json.set (.obj []) token)
  | token :: rest, .obj ms => (assign v rest ((SortedMap.get? token ms).getD .null)).map (Json.set (.obj ms) token)
  | token :: rest, .arr items =>
    (position? token items.length).bind fun i =>
      (assign v rest (items[i]?.getD .null)).map fun w => .arr (setElement items i w)
  | _ :: _, _ => none

/-- Following a pointer in two parts. -/
theorem resolve_append : ∀ (path path' : List String) (j : Json),
    resolve (path ++ path') j = (resolve path j).bind (resolve path')
  | [], path', j => by rw [List.nil_append, resolve]; rfl
  | token :: path, path', .obj ms => by
    simp only [List.cons_append, resolve, Option.bind_assoc, funext (resolve_append path path')]
  | token :: path, path', .arr items => by
    simp only [List.cons_append, resolve, Option.bind_assoc, funext (resolve_append path path')]
  | token :: path, path', .null => rfl
  | token :: path, path', .bool b => rfl
  | token :: path, path', .num q => rfl
  | token :: path, path', .str s => rfl

theorem resolve_member {ms : List (String × Json)} (token : String) :
    resolve [token] (.obj ms) = (Json.obj ms).get? token := by
  rw [resolve]
  cases h : SortedMap.get? token ms with
  | none => exact h.symm
  | some v => exact h.symm

theorem assign_member {ms : List (String × Json)} (v : Json) (token : String) :
    assign v [token] (.obj ms) = some ((Json.obj ms).set token v) := rfl

end JsonPointer

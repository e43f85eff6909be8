/-
Texts of values that stand under names, as a program writes them from pieces: what is in front of the value, the value
and the braces at the end.
-/
import Gocator.Lib.JsonWrite
import Gocator.Lib.NestedPatch

namespace JsonText

/-- The text in front of a value under names. -/
def openText : List String → List Char
  | [] => []
  | k :: ks => '{' :: '"' :: (k.toList ++ '"' :: ':' :: openText ks)

theorem openText_append (ks ls : List String) : openText (ks ++ ls) = openText ks ++ openText ls := by
  induction ks with
  | nil => rfl
  | cons k ks ih => simp only [List.cons_append, openText, ih, List.append_assoc]

/-- The text of a value under names. -/
def nestedText (ks : List String) (cs : List Char) : List Char := openText ks ++ cs ++ ks.map fun _ => '\x7d'

theorem nestedText_cons (k : String) (ks : List String) (cs : List Char) (v : Json) :
    nestedText (k :: ks) cs = objectText [(k, nestedText ks cs, v)] := by
  have hclose : ∀ ks : List String, '\x7d' :: ks.map (fun _ => '\x7d') = ks.map (fun _ => '\x7d') ++ ['\x7d'] := by
    intro ks
    rw [List.map_const', ← List.replicate_succ, List.replicate_succ']
  simp only [nestedText, openText, objectText, membersText, memberText, List.map_cons, hclose, List.cons_append,
    List.append_assoc]

theorem writes_nested {v : Json} {cs : List Char} (hv : Writes cs v) : ∀ {ks : List String},
    (∀ k ∈ ks, ∀ c ∈ k.toList, Literal c) → Writes (nestedText ks cs) (Json.nest ks v)
  | [], _ => by
    have htext : nestedText [] cs = cs := List.append_nil cs
    rw [htext]
    exact hv
  | k :: ks, h => by
    have ih := writes_nested hv fun k hk => h k (List.mem_cons_of_mem _ hk)
    rw [nestedText_cons k ks cs (Json.nest ks v)]
    exact writes_single (h k (List.mem_cons_self ..)) ih

/-- An object with two members. -/
theorem writes_pair {k l : String} {a b : List Char} {v w : Json} (hk : ∀ c ∈ k.toList, Literal c)
    (hl : ∀ c ∈ l.toList, Literal c) (hv : Writes a v) (hw : Writes b w) :
    Writes (objectText [(k, a, v), (l, b, w)]) (.obj (objectMembers [(k, a, v), (l, b, w)])) := by
  apply writes_object (List.cons_ne_nil _ _)
  intro m hm
  simp only [List.mem_cons, List.not_mem_nil, or_false] at hm
  rcases hm with rfl | rfl
  · exact ⟨hk, hv⟩
  · exact ⟨hl, hw⟩

section

variable {k l piece next close s t : String} {ks ls : List String} {a : List Char}

/-- Two values that are streamed into an object under names. -/
theorem nested_two (v w : Json) (hpiece : piece.toList = openText (ks ++ [k]))
    (hnext : next.toList = ',' :: memberText (l, [], .null))
    (hclose : close.toList = '\x7d' :: ks.map fun _ => '\x7d') : (piece ++ s ++ next ++ t ++ close).toList =
      nestedText ks (objectText [(k, s.toList, v), (l, t.toList, w)]) := by
  simp only [String.toList_append, hpiece, hnext, hclose, openText_append, openText, nestedText, objectText,
    membersText, memberText, List.append_assoc, List.cons_append, List.nil_append]

/-- A value that is streamed under names into the second of two members. -/
theorem nested_second (v w : Json)
    (hpiece : piece.toList =
      openText ks ++ '{' :: memberText (k, a, .null) ++ ',' :: memberText (l, openText ls, .null))
    (hclose : close.toList = ls.map (fun _ => '\x7d') ++ '\x7d' :: ks.map fun _ => '\x7d') :
    (piece ++ s ++ close).toList =
      nestedText ks (objectText [(k, a, v), (l, nestedText ls s.toList, w)]) := by
  simp only [String.toList_append, hpiece, hclose, nestedText, objectText, membersText, memberText, List.append_assoc,
    List.cons_append, List.nil_append]

end

end JsonText

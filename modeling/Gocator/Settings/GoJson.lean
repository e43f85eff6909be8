/-
The operations of `GoJson` that the settings code uses. A path that starts with a slash is a JSON
pointer; any other path names a member of the value itself.
-/
import Gocator.Lib.JsonPointer

namespace Gocator.Settings

/-- What the settings code can throw. -/
inductive Error where
  /-- `GoJsonError`: a path that leads nowhere, or a value of another type. -/
  | json
  /-- A read or an update the device does not accept. -/
  | response (path : String)
  /-- `std::runtime_error("No visible Gocator sensors")`. -/
  | noVisibleSensors
  deriving DecidableEq, Repr

/-- The tokens of a `GoJson` path. -/
def pathTokens (path : String) : Option (List String) :=
  match path.toList with
  | '/' :: _ => JsonPointer.tokens path
  | _ => some [path]

/-- `GoJson::At`. -/
def valueAt (j : Json) (path : String) : Except Error Json :=
  match (pathTokens path).bind (JsonPointer.resolve · j) with
  | some v => .ok v
  | none => .error .json

/-- `GoJson::Set`. -/
def setAt (j : Json) (path : String) (v : Json) : Except Error Json :=
  match (pathTokens path).bind (JsonPointer.assign v · j) with
  | some w => .ok w
  | none => .error .json

/-- `GoJson::Get<std::string>`. -/
def getString : Json → Except Error String
  | .str s => .ok s
  | _ => .error .json

/-- What iterating from `Begin()` to `End()` yields; the elements of anything but an object have no
`Key()`. -/
def entries : Json → Except Error (List (String × Json))
  | .obj ms => .ok ms
  | .null | .arr [] => .ok []
  | _ => .error .json

/-- What succeeds is a value computed from a value that was computed. -/
theorem bind_eq_ok {α β : Type} {x : Except Error α} {f : α → Except Error β} {b : β} (h : x >>= f = .ok b) :
    ∃ a, x = .ok a ∧ f a = .ok b := by
  cases x with
  | ok a => exact ⟨a, rfl, h⟩
  | error e => cases h

theorem pathTokens_slash {name : String} (h : JsonPointer.Plain name) : pathTokens ("/" ++ name) = some [name] := by
  have hl : ("/" ++ name).toList = '/' :: name.toList := by rw [String.toList_append]; rfl
  unfold pathTokens
  rw [hl]
  exact JsonPointer.tokens_slash h

theorem pathTokens_plain {name : String} (h : JsonPointer.Plain name) : pathTokens name = some [name] := by
  unfold pathTokens
  split
  · rename_i cs hcs
    exact absurd (by rw [hcs]; exact List.mem_cons_self ..) h.1
  · rfl

/-- A slash and a plain name reach the member of that name. -/
theorem valueAt_slash {j v : Json} {name : String} (h : JsonPointer.Plain name) (hv : j.get? name = some v) :
    valueAt j ("/" ++ name) = .ok v := by
  cases j with
  | obj ms =>
    unfold valueAt
    rw [pathTokens_slash h, Option.bind_some, JsonPointer.resolve_member, hv]
  | _ => cases hv

/-- A plain name without a slash reaches the same member. -/
theorem valueAt_plain {j v : Json} {name : String} (h : JsonPointer.Plain name) (hv : j.get? name = some v) :
    valueAt j name = .ok v := by
  cases j with
  | obj ms =>
    unfold valueAt
    rw [pathTokens_plain h, Option.bind_some, JsonPointer.resolve_member, hv]
  | _ => cases hv

/-- A path that is the concatenation of two leads where the second leads from where the first leads. -/
theorem valueAt_append {path path₁ path₂ : String} {tokens₁ tokens₂ : List String}
    (h₁ : pathTokens path₁ = some tokens₁) (h₂ : pathTokens path₂ = some tokens₂)
    (h : pathTokens path = some (tokens₁ ++ tokens₂)) {j v w : Json} (hv : valueAt j path₁ = .ok v)
    (hw : valueAt v path₂ = .ok w) : valueAt j path = .ok w := by
  unfold valueAt at *
  rw [h₁, Option.bind_some] at hv
  rw [h₂, Option.bind_some] at hw
  rw [h, Option.bind_some, JsonPointer.resolve_append]
  cases hr : JsonPointer.resolve tokens₁ j with
  | none => rw [hr] at hv; cases hv
  | some u =>
    rw [hr] at hv
    cases hv
    rw [Option.bind_some]
    exact hw

theorem setAt_slash {ms : List (String × Json)} {name : String} (h : JsonPointer.Plain name) (v : Json) :
    setAt (.obj ms) ("/" ++ name) v = .ok ((Json.obj ms).set name v) := by
  unfold setAt
  rw [pathTokens_slash h, Option.bind_some, JsonPointer.assign_member]

theorem setAt_plain {ms : List (String × Json)} {name : String} (h : JsonPointer.Plain name) (v : Json) :
    setAt (.obj ms) name v = .ok ((Json.obj ms).set name v) := by
  unfold setAt
  rw [pathTokens_plain h, Option.bind_some, JsonPointer.assign_member]

end Gocator.Settings

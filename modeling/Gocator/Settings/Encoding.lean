/-
`jsonString` as an encoder: byte by byte, as the code runs it, and what a JSON reader makes of its output.
It escapes the quotation mark, the backslash and three control characters; the other control characters
it copies, which no JSON string may hold.
-/
import Gocator.Lib.JsonText
import Gocator.Settings.Outputs

namespace Gocator.Settings

open JsonText (Literal parse)

/-! ## Bytes -/

/-- The UTF-8 of a text. -/
def utf8 (cs : List Char) : List UInt8 := cs.flatMap String.utf8EncodeChar

/-- What `jsonString` writes for one `char`. -/
def jsonByte (ch : UInt8) : List UInt8 :=
  if ch = 0x5C then [0x5C, 0x5C]
  else if ch = 0x22 then [0x5C, 0x22]
  else if ch = 0x0A then [0x5C, 0x6E]
  else if ch = 0x0D then [0x5C, 0x72]
  else if ch = 0x09 then [0x5C, 0x74]
  else [ch]

/-- `jsonString`, on the bytes of the value. -/
def jsonBytes (value : List UInt8) : List UInt8 := 0x22 :: value.flatMap jsonByte ++ [0x22]

/-- The JSON value whose text these bytes are. -/
def parseBytes (bytes : List UInt8) : Option Json := (String.fromUTF8? bytes.toByteArray).bind parse

theorem jsonByte_of_le {b : UInt8} (h : 0x80 ≤ b) : jsonByte b = [b] := by
  have hne : ∀ b' : UInt8, b' < 0x80 → b ≠ b' := by
    rintro b' hlt rfl
    exact absurd h (UInt8.not_le.2 hlt)
  unfold jsonByte
  rw [if_neg (hne _ (by decide)), if_neg (hne _ (by decide)), if_neg (hne _ (by decide)), if_neg (hne _ (by decide)),
    if_neg (hne _ (by decide))]

/-- The bytes of a character outside ASCII. -/
theorem le_of_mem_utf8EncodeChar {c : Char} (hc : 0x7f < c.val.toNat) {b : UInt8} (hb : b ∈ String.utf8EncodeChar c) :
    0x80 ≤ b := by
  have hofNat : ∀ x y : Nat, y ≤ x → 0x80 ≤ y → x < 256 → (0x80 : UInt8) ≤ UInt8.ofNat x := by
    intro x y hxy hy hx
    rw [UInt8.le_iff_toNat_le, UInt8.toNat_ofNat_of_lt' hx]
    exact hy.trans hxy
  have hmod : ∀ x n m : Nat, 0 < n → n + m ≤ 256 → 0x80 ≤ m → (0x80 : UInt8) ≤ UInt8.ofNat (x % n + m) := by
    intro x n m hn hsum hm
    have hlt := Nat.mod_lt x hn
    exact hofNat _ m (by omega) hm (by omega)
  unfold String.utf8EncodeChar at hb
  dsimp only at hb
  rw [if_neg (by omega)] at hb
  split at hb
  · simp only [List.mem_cons, List.not_mem_nil, or_false] at hb
    rcases hb with rfl | rfl <;> exact hmod _ _ _ (by decide) (by decide) (by decide)
  split at hb
  · simp only [List.mem_cons, List.not_mem_nil, or_false] at hb
    rcases hb with rfl | rfl | rfl <;> exact hmod _ _ _ (by decide) (by decide) (by decide)
  · simp only [List.mem_cons, List.not_mem_nil, or_false] at hb
    rcases hb with rfl | rfl | rfl | rfl <;> exact hmod _ _ _ (by decide) (by decide) (by decide)

theorem flatMap_singleton_of {α : Type} {f : α → List α} : ∀ {l : List α}, (∀ a ∈ l, f a = [a]) → l.flatMap f = l
  | [], _ => rfl
  | a :: l, h => by
    rw [List.flatMap_cons, h a (List.mem_cons_self ..),
      flatMap_singleton_of fun b hb => h b (List.mem_cons_of_mem _ hb)]
    rfl

/-- A character that `jsonString` copies. -/
def Copied (c : Char) : Prop := c ≠ '\\' ∧ c ≠ '\x22' ∧ c ≠ '\n' ∧ c ≠ '\r' ∧ c ≠ '\t'

theorem jsonChar_of_copied {c : Char} (h : Copied c) : jsonChar c = [c] := by
  obtain ⟨h₁, h₂, h₃, h₄, h₅⟩ := h
  unfold jsonChar
  split
  · exact absurd rfl h₁
  · exact absurd rfl h₂
  · exact absurd rfl h₃
  · exact absurd rfl h₄
  · exact absurd rfl h₅
  · rfl

/-- The characters that have an escape. -/
theorem escaped_of_not_copied {c : Char} (h : ¬ Copied c) :
    c = '\\' ∨ c = '\x22' ∨ c = '\n' ∨ c = '\r' ∨ c = '\t' := by
  unfold Copied at h
  by_contra hnone
  simp only [not_or] at hnone
  exact h hnone

/-- The bytes written for the bytes of a character are those of what is written for the character. -/
theorem jsonByte_utf8EncodeChar (c : Char) : (String.utf8EncodeChar c).flatMap jsonByte = utf8 (jsonChar c) := by
  by_cases hc : 0x7f < c.val.toNat
  · have hcopied : Copied c := by
      refine ⟨?_, ?_, ?_, ?_, ?_⟩ <;>
      · rintro rfl
        exact absurd hc (by decide)
    rw [flatMap_singleton_of fun b hb => jsonByte_of_le (le_of_mem_utf8EncodeChar hc hb), jsonChar_of_copied hcopied]
    exact (List.append_nil _).symm
  · have hle : c.val.toNat < 128 := by omega
    have hencode : String.utf8EncodeChar c = [UInt8.ofNat c.val.toNat] := if_pos (by omega)
    by_cases hcopied : Copied c
    · have hne : ∀ (d : Char) (b : UInt8), d.val.toNat = b.toNat → c ≠ d → UInt8.ofNat c.val.toNat ≠ b := by
        rintro d b hd hcd rfl
        rw [UInt8.toNat_ofNat_of_lt' (by show c.val.toNat < 256; omega)] at hd
        exact hcd (Char.ext (UInt32.toNat_inj.1 hd.symm))
      have hcopy : jsonByte (UInt8.ofNat c.val.toNat) = [UInt8.ofNat c.val.toNat] := by
        unfold jsonByte
        rw [if_neg (hne '\\' _ rfl hcopied.1), if_neg (hne '\x22' _ rfl hcopied.2.1),
          if_neg (hne '\n' _ rfl hcopied.2.2.1), if_neg (hne '\r' _ rfl hcopied.2.2.2.1),
          if_neg (hne '\t' _ rfl hcopied.2.2.2.2)]
      rw [jsonChar_of_copied hcopied, hencode, List.flatMap_singleton, hcopy, ← hencode]
      exact (List.append_nil _).symm
    · rcases escaped_of_not_copied hcopied with rfl | rfl | rfl | rfl | rfl <;> rfl

/-- `jsonString` writes the UTF-8 of the text that it writes for the characters of a text. -/
theorem jsonBytes_utf8 (s : String) : jsonBytes (utf8 s.toList) = utf8 (jsonString s).toList := by
  have hflat : (utf8 s.toList).flatMap jsonByte = utf8 (s.toList.flatMap jsonChar) := by
    unfold utf8
    rw [List.flatMap_assoc, List.flatMap_assoc]
    exact congrArg (List.flatMap · s.toList) (funext jsonByte_utf8EncodeChar)
  unfold jsonBytes jsonString
  rw [hflat, String.toList_ofList, utf8, utf8, List.flatMap_append, List.flatMap_cons]
  rfl

theorem parseBytes_utf8 (s : String) : parseBytes (utf8 s.toList) = parse s := by
  have hbytes : (utf8 s.toList).toByteArray = s.toByteArray := String.utf8Encode_toList
  unfold parseBytes
  rw [hbytes, String.fromUTF8?, dif_pos s.isValidUTF8]
  rfl

/-! ## Round trip -/

/-- A character that a JSON string may hold once `jsonString` has escaped it. -/
def Encodable (c : Char) : Prop := 0x20 ≤ c.toNat ∨ c = '\n' ∨ c = '\r' ∨ c = '\t'

instance (c : Char) : Decidable (Encodable c) := inferInstanceAs (Decidable (_ ∨ _ ∨ _ ∨ _))

instance decidableEncodables (cs : List Char) : Decidable (∀ c ∈ cs, Encodable c) := List.decidableBAll _ cs

theorem jsonChar_cases (c : Char) :
    (∃ e, jsonChar c = ['\\', e] ∧ JsonText.escaped? e = some c ∧ Encodable c) ∨
      (jsonChar c = [c] ∧ c ≠ '\x22' ∧ c ≠ '\\' ∧ (Encodable c ↔ Literal c)) := by
  by_cases hcopied : Copied c
  · refine .inr ⟨jsonChar_of_copied hcopied, hcopied.2.1, hcopied.1, ?_⟩
    obtain ⟨h₁, h₂, h₃, h₄, h₅⟩ := hcopied
    constructor
    · rintro (hle | rfl | rfl | rfl)
      · exact ⟨h₂, h₁, hle⟩
      · exact absurd rfl h₃
      · exact absurd rfl h₄
      · exact absurd rfl h₅
    · exact fun h => .inl h.2.2
  · left
    rcases escaped_of_not_copied hcopied with rfl | rfl | rfl | rfl | rfl
    · exact ⟨'\\', rfl, rfl, by decide⟩
    · exact ⟨'\x22', rfl, rfl, by decide⟩
    · exact ⟨'n', rfl, rfl, by decide⟩
    · exact ⟨'r', rfl, rfl, by decide⟩
    · exact ⟨'t', rfl, rfl, by decide⟩

/-- What was escaped is read back, unless a control character was copied. -/
theorem string_flatMap_jsonChar (s rest : List Char) : JsonText.string (s.flatMap jsonChar ++ '\x22' :: rest) =
    if ∀ c ∈ s, Encodable c then some (s, rest) else none := by
  induction s with
  | nil =>
    rw [if_pos fun _ hm => absurd hm List.not_mem_nil]
    exact JsonText.string_quote rest
  | cons c s ih =>
    rw [List.flatMap_cons, List.append_assoc]
    simp only [List.forall_mem_cons]
    have hread : ∀ w, JsonText.char? (w ++ (s.flatMap jsonChar ++ '\x22' :: rest)) =
        some (c, s.flatMap jsonChar ++ '\x22' :: rest) → Encodable c →
        JsonText.string (w ++ (s.flatMap jsonChar ++ '\x22' :: rest)) =
          if Encodable c ∧ ∀ c ∈ s, Encodable c then some (c :: s, rest) else none := by
      intro w hw hc
      rw [JsonText.string_cons hw, ih]
      by_cases hs : ∀ c ∈ s, Encodable c
      · rw [if_pos hs, if_pos ⟨hc, hs⟩]
        rfl
      · rw [if_neg hs, if_neg fun h => hs h.2]
        rfl
    rcases jsonChar_cases c with ⟨e, hchar, he, hc⟩ | ⟨hchar, hquote, hbackslash, hc⟩
    · rw [hchar]
      exact hread ['\\', e] (JsonText.char?_escaped he _) hc
    · rw [hchar]
      by_cases hlit : Literal c
      · exact hread [c] (JsonText.char?_literal hlit _) (hc.2 hlit)
      · rw [if_neg fun h => hlit (hc.1 h.1), List.singleton_append]
        refine JsonText.string_none (fun rest heq => hquote (List.cons.inj heq).1) ?_
        exact JsonText.char?_none hbackslash hlit _

theorem parse_string {body : List Char} {s : List Char} (h : JsonText.string body = some (s, [])) :
    parse (String.ofList ('\x22' :: body)) = some (.str (String.ofList s)) := by
  unfold parse
  rw [String.toList_ofList, JsonText.read_quote, h]
  rfl

theorem parse_string_none {body : List Char} (h : JsonText.string body = none) :
    parse (String.ofList ('\x22' :: body)) = none := by
  unfold parse
  rw [String.toList_ofList, JsonText.read_quote, h]
  rfl

theorem parse_jsonString (s : String) :
    parse (jsonString s) = if ∀ c ∈ s.toList, Encodable c then some (.str s) else none := by
  have hstring := string_flatMap_jsonChar s.toList []
  unfold jsonString
  rw [List.cons_append]
  split at hstring
  · rename_i h
    rw [if_pos h, parse_string hstring, String.ofList_toList]
  · rename_i h
    rw [if_neg h, parse_string_none hstring]

/-! ## The payload that adds an output -/

/-- What follows the source in the payload. -/
def outputTail (outputId : Int) (autoShift : Bool) : List Char :=
  ',' :: ('\x22' :: "outputId".toList ++ '\x22' :: ':' :: ((toString outputId).toList ++
    ',' :: ('\x22' :: "autoShift".toList ++ '\x22' :: ':' :: ((boolText autoShift).toList ++ ['\x7d']))))

/-- The payload with the source as it is written between the quotation marks. -/
def outputPayload (body : List Char) (outputId : Int) (autoShift : Bool) : String :=
  String.ofList ('\x7b' :: ('\x22' :: "source".toList ++ '\x22' :: ':' ::
    ('\x22' :: (body ++ '\x22' :: outputTail outputId autoShift))))

/-- The value of the payload. -/
def outputValue (source : String) (outputId : Int) (autoShift : Bool) : Json :=
  .obj (SortedMap.set "autoShift" (.bool autoShift)
    (SortedMap.set "outputId" (.num outputId) (SortedMap.set "source" (.str source) [])))

theorem get?_outputValue (source : String) (outputId : Int) (autoShift : Bool) :
    (outputValue source outputId autoShift).get? "source" = some (.str source) := by
  unfold outputValue Json.get? Json.members
  rw [SortedMap.get?_set_of_ne (by decide), SortedMap.get?_set_of_ne (by decide), SortedMap.get?_set_self]

theorem read_bool (b : Bool) (rest : List Char) :
    JsonText.read ((boolText b).toList ++ rest) = some (.bool b, rest) := by
  cases b with
  | false => exact JsonText.read_false rest
  | true => exact JsonText.read_true rest

theorem parse_outputPayload {body s : List Char} {outputId : Int} {autoShift : Bool}
    (h : JsonText.string (body ++ '\x22' :: outputTail outputId autoShift) = some (s, outputTail outputId autoShift)) :
    parse (outputPayload body outputId autoShift) = some (outputValue (String.ofList s) outputId autoShift) := by
  have hshift : ∀ rest, JsonText.member JsonText.read ('\x22' :: "autoShift".toList ++ '\x22' :: ':' ::
      ((boolText autoShift).toList ++ rest)) = some (("autoShift", .bool autoShift), rest) :=
    fun rest => JsonText.member_eq (JsonText.name_eq (by decide) _) (read_bool autoShift rest)
  have hid : ∀ rest, JsonText.member JsonText.read ('\x22' :: "outputId".toList ++ '\x22' :: ':' ::
      ((toString outputId).toList ++ ',' :: rest)) = some (("outputId", .num outputId), ',' :: rest) :=
    fun rest => JsonText.member_eq (JsonText.name_eq (by decide) _) (JsonText.read_int outputId rest)
  have hsource : JsonText.member JsonText.read ('\x22' :: "source".toList ++ '\x22' :: ':' ::
      ('\x22' :: (body ++ '\x22' :: outputTail outputId autoShift))) =
        some (("source", .str (String.ofList s)), outputTail outputId autoShift) := by
    refine JsonText.member_eq (JsonText.name_eq (by decide) _) ?_
    rw [JsonText.read_quote, h]
    rfl
  have hread : JsonText.read (outputPayload body outputId autoShift).toList =
      some (outputValue (String.ofList s) outputId autoShift, []) := by
    unfold outputPayload
    rw [String.toList_ofList, JsonText.read_brace]
    refine (JsonText.object_eq rfl).trans ?_
    rw [JsonText.members_comma JsonText.read_takes (Nat.lt_succ_self _) hsource,
      JsonText.members_comma JsonText.read_takes (Nat.lt_succ_self _) (hid _), JsonText.members_end (hshift _)]
    rfl
  unfold parse
  rw [hread]
  rfl

/-- The text that is sent with a request. -/
def Request.payload : Request → String
  | .update _ payload => payload
  | .call _ payload => payload
  | .addOutput _ payload => payload

theorem payload_addOutput (sourceId : String) (outputId : Int) (autoShift : Bool) :
    (addOutput sourceId outputId autoShift).payload =
      outputPayload (sourceId.toList.flatMap jsonChar) outputId autoShift := by
  rw [← String.toList_inj]
  unfold addOutput Request.payload outputPayload outputTail jsonString
  simp only [String.toList_append, String.toList_ofList, List.cons_append, List.append_assoc]
  rfl

theorem parse_addOutput {sourceId : String} (h : ∀ c ∈ sourceId.toList, Encodable c) (outputId : Int)
    (autoShift : Bool) :
    parse (addOutput sourceId outputId autoShift).payload = some (outputValue sourceId outputId autoShift) := by
  have hstring := string_flatMap_jsonChar sourceId.toList (outputTail outputId autoShift)
  rw [if_pos h] at hstring
  rw [payload_addOutput, parse_outputPayload hstring, String.ofList_toList]

/-- The string literal and the payload give the source back exactly when the source holds no control
character but line feed, carriage return and tabulator. -/
theorem jsonString_roundTrip_iff (s : String) (outputId : Int) (autoShift : Bool) :
    (parseBytes (jsonBytes (utf8 s.toList)) = some (.str s) ∧
        (parse (addOutput s outputId autoShift).payload).bind (·.get? "source") = some (.str s)) ↔
      ∀ c ∈ s.toList, Encodable c := by
  rw [jsonBytes_utf8, parseBytes_utf8, parse_jsonString]
  constructor
  · rintro ⟨hliteral, -⟩
    by_contra h
    rw [if_neg h] at hliteral
    cases hliteral
  · intro h
    rw [if_pos h, parse_addOutput h]
    exact ⟨rfl, get?_outputValue s outputId autoShift⟩

theorem jsonString_copies_control : ¬ ∀ (s : String) (outputId : Int) (autoShift : Bool),
    parseBytes (jsonBytes (utf8 s.toList)) = some (.str s) ∧
      (parse (addOutput s outputId autoShift).payload).bind (·.get? "source") = some (.str s) := by
  intro h
  obtain ⟨hliteral, -⟩ := h "\x01" 0 true
  have hcontrol : ¬ ∀ c ∈ "\x01".toList, Encodable c := by decide
  rw [jsonBytes_utf8, parseBytes_utf8, parse_jsonString, if_neg hcontrol] at hliteral
  cases hliteral

end Gocator.Settings

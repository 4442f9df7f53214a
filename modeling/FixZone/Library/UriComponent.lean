import FixZone.Library.FormUrl

/-!
# Components of links

`encodeURIComponent`: of the UTF-8 bytes of a text, all but those of letters, digits and
`-_.!~*'()` stand behind a `%`. What it writes has no separator of a link in it
(`IsComponentChar`), and a reader of form parameters reads it as well, since it writes no `+`
(`decode_encode`).
-/

namespace FixZone.Library.UriComponent

/-- The bytes that are written as they are. -/
def isUnreserved (n : ℕ) : Bool :=
  (48 ≤ n && n ≤ 57) || (65 ≤ n && n ≤ 90) || (97 ≤ n && n ≤ 122) ||
    [33, 39, 40, 41, 42, 45, 46, 95, 126].contains n

/-- A byte of a component. -/
def encodeByte (b : UInt8) : List Char :=
  if isUnreserved b.toNat then [Char.ofNat b.toNat]
  else ['%', hexDigit (b.toNat / 16), hexDigit (b.toNat % 16)]

/-- `encodeURIComponent`. -/
def encode (text : String) : List Char := (utf8Bytes text).flatMap encodeByte

theorem plainBytes_of_isUnreserved : ∀ n < 256, isUnreserved n →
    Char.ofNat n ≠ '%' ∧ FormUrl.plainBytes (Char.ofNat n) = [UInt8.ofNat n] := by
  decide +kernel

/-- An encoded byte is read back. -/
theorem decodeBytes_encodeByte (b : UInt8) (cs : List Char) :
    FormUrl.decodeBytes (encodeByte b ++ cs) = b :: FormUrl.decodeBytes cs := by
  rw [encodeByte]
  split
  · next hplain =>
    obtain ⟨hne, hbytes⟩ := plainBytes_of_isUnreserved _ b.toNat_lt hplain
    rw [List.singleton_append, FormUrl.decodeBytes_cons hne, hbytes, UInt8.ofNat_toNat]
    rfl
  · exact FormUrl.decodeBytes_escape b cs

/-- An encoded text is read back, whatever follows it. -/
theorem decodeBytes_encode_append (text : String) (cs : List Char) :
    FormUrl.decodeBytes (encode text ++ cs) = utf8Bytes text ++ FormUrl.decodeBytes cs := by
  rw [encode]
  induction utf8Bytes text with
  | nil => rfl
  | cons b bytes ih =>
    rw [List.flatMap_cons, List.append_assoc, decodeBytes_encodeByte, ih, List.cons_append]

/-- Every text comes back from its encoding. -/
@[simp] theorem decode_encode (text : String) : FormUrl.decode (encode text) = some text := by
  have hbytes := decodeBytes_encode_append text []
  rw [List.append_nil, FormUrl.decodeBytes, List.append_nil] at hbytes
  rw [FormUrl.decode, hbytes, ofUtf8Bytes_utf8Bytes]

/-! ### What an encoding consists of -/

/-- The characters of an encoded component. -/
def IsComponentChar (c : Char) : Prop := c.isAlphanum = true ∨ c ∈ "-_.!~*'()%".toList

instance (c : Char) : Decidable (IsComponentChar c) := inferInstanceAs (Decidable (_ ∨ _))

theorem isComponentChar_hexDigit : ∀ n < 16, IsComponentChar (hexDigit n) := by decide

theorem isComponentChar_of_isUnreserved : ∀ n < 256, isUnreserved n →
    IsComponentChar (Char.ofNat n) := by
  decide +kernel

theorem isComponentChar_of_mem_encode {text : String} {c : Char} (h : c ∈ encode text) :
    IsComponentChar c := by
  obtain ⟨b, -, hc⟩ := List.mem_flatMap.mp h
  have hb : b.toNat < 256 := b.toNat_lt
  unfold encodeByte at hc
  split at hc
  · next hplain =>
    rw [List.mem_singleton.mp hc]
    exact isComponentChar_of_isUnreserved _ hb hplain
  · simp only [List.mem_cons, List.not_mem_nil, or_false] at hc
    obtain rfl | rfl | rfl := hc
    · decide
    · exact isComponentChar_hexDigit _ (by omega)
    · exact isComponentChar_hexDigit _ (by omega)

theorem notMem_encode {c : Char} (hc : ¬IsComponentChar c) (text : String) : c ∉ encode text :=
  fun h => hc (isComponentChar_of_mem_encode h)

/-- **Round trip.** Parameters of encoded names and values are found by the reader of a form. -/
theorem parse_params (params : List (String × String)) :
    FormUrl.parse (['&'].intercalate
      (params.map fun param => encode param.1 ++ '=' :: encode param.2)) = some params :=
  FormUrl.parse_intercalate decode_encode (notMem_encode (by decide)) (notMem_encode (by decide))
    params

end FixZone.Library.UriComponent

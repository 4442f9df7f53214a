import FixZone.Library.PosixPath
import Mathlib.Data.List.Basic

/-!
# Parameters in links

The query part of a link as `application/x-www-form-urlencoded`: the writer and the reader of
`URLSearchParams`. The writer takes the UTF-8 bytes of a name or a value one by one, so that its
round trip is that of a byte (`decodeBytes_encodeByte`) and a list of them; between the names and
the values stand only `&` and `=`, which no encoded byte contains (`IsFormChar`), so that the
reader cuts where the writer joined (`parse_serialize`).

What the writer writes needs no encoding of its own in the fragment of a link (`encodeFragment`).
-/

namespace FixZone.Library

/-- The UTF-8 bytes of a text. -/
def utf8Bytes (text : String) : List UInt8 := text.toUTF8.data.toList

/-- The text that UTF-8 bytes stand for, if they stand for one. -/
def ofUtf8Bytes (bytes : List UInt8) : Option String := String.fromUTF8? ⟨bytes.toArray⟩

@[simp] theorem ofUtf8Bytes_utf8Bytes (text : String) :
    ofUtf8Bytes (utf8Bytes text) = some text := by
  have hvalid : text.toByteArray.IsValidUTF8 := text.isValidUTF8
  simp [ofUtf8Bytes, utf8Bytes, String.fromUTF8?, String.fromUTF8, hvalid]

theorem utf8Bytes_append (text rest : String) :
    utf8Bytes (text ++ rest) = utf8Bytes text ++ utf8Bytes rest := by
  simp [utf8Bytes]

/-- A hexadecimal digit, in upper case. -/
def hexDigit (n : ℕ) : Char := Char.ofNat (if n < 10 then 48 + n else 55 + n)

theorem hexDigit?_hexDigit : ∀ n < 16, hexDigit? (hexDigit n) = some n := by decide

/-- What stands between the members of a joined list is the separator. -/
theorem of_mem_intercalate {α : Type} {sep a : α} {pieces : List (List α)}
    (h : a ∈ [sep].intercalate pieces) : a = sep ∨ ∃ piece ∈ pieces, a ∈ piece := by
  rw [List.intercalate, List.mem_flatten] at h
  obtain ⟨piece, hpiece, ha⟩ := h
  induction pieces with
  | nil => cases hpiece
  | cons first pieces ih =>
    cases pieces with
    | nil =>
      rw [List.intersperse_singleton, List.mem_singleton] at hpiece
      exact .inr ⟨first, List.mem_cons_self, hpiece ▸ ha⟩
    | cons second pieces =>
      rw [List.intersperse_cons_cons, List.mem_cons, List.mem_cons] at hpiece
      obtain rfl | rfl | hpiece := hpiece
      · exact .inr ⟨piece, List.mem_cons_self, ha⟩
      · exact .inl (List.mem_singleton.mp ha)
      · rcases ih hpiece with hsep | ⟨piece', hmem, ha'⟩
        · exact .inl hsep
        · exact .inr ⟨piece', List.mem_cons_of_mem _ hmem, ha'⟩

namespace FormUrl

/-! ### Writing -/

/-- The bytes that are written as they are: letters, digits and `*-._`. -/
def isPlain (n : ℕ) : Bool :=
  (48 ≤ n && n ≤ 57) || (65 ≤ n && n ≤ 90) || (97 ≤ n && n ≤ 122) || n = 42 || n = 45 || n = 46 ||
    n = 95

/-- A byte of a name or a value. -/
def encodeByte (b : UInt8) : List Char :=
  if b = 32 then ['+']
  else if isPlain b.toNat then [Char.ofNat b.toNat]
  else ['%', hexDigit (b.toNat / 16), hexDigit (b.toNat % 16)]

/-- A name or a value. -/
def encode (text : String) : List Char := (utf8Bytes text).flatMap encodeByte

/-- One parameter. -/
def encodePair (param : String × String) : List Char := encode param.1 ++ '=' :: encode param.2

/-- `String(new URLSearchParams(params))`. -/
def serialize (params : List (String × String)) : List Char :=
  ['&'].intercalate (params.map encodePair)

/-! ### Reading -/

/-- The bytes of a character outside an escape. -/
def plainBytes (c : Char) : List UInt8 := if c = '+' then [32] else String.utf8EncodeChar c

/-- The bytes of a name or a value, `%` and two digits standing for one byte. -/
def decodeBytes : List Char → List UInt8
  | '%' :: a :: b :: cs =>
    match hexDigit? a, hexDigit? b with
    | some x, some y => UInt8.ofNat (16 * x + y) :: decodeBytes cs
    | _, _ => 37 :: decodeBytes (a :: b :: cs)
  | c :: cs => plainBytes c ++ decodeBytes cs
  | [] => []

/-- A name or a value. -/
def decode (cs : List Char) : Option String := ofUtf8Bytes (decodeBytes cs)

/-- One parameter: the name ends at the first `=`. -/
def decodePair (cs : List Char) : Option (String × String) := do
  let name ← decode (cs.takeWhile (· ≠ '='))
  let value ← decode ((cs.dropWhile (· ≠ '=')).drop 1)
  return (name, value)

/-- `[...new URLSearchParams(text)]`. -/
def parse (cs : List Char) : Option (List (String × String)) :=
  ((cs.splitOn '&').filter fun piece => !piece.isEmpty).mapM decodePair

/-! ### The round trip of a name -/

theorem decodeBytes_cons {c : Char} (hc : c ≠ '%') (cs : List Char) :
    decodeBytes (c :: cs) = plainBytes c ++ decodeBytes cs := by
  rw [decodeBytes]
  rintro _ _ _ rfl
  exact absurd rfl hc

theorem plainBytes_of_isPlain : ∀ n < 256, isPlain n →
    Char.ofNat n ≠ '%' ∧ plainBytes (Char.ofNat n) = [UInt8.ofNat n] := by
  decide +kernel

/-- An escape is read back. -/
theorem decodeBytes_escape (b : UInt8) (cs : List Char) :
    decodeBytes (['%', hexDigit (b.toNat / 16), hexDigit (b.toNat % 16)] ++ cs) =
      b :: decodeBytes cs := by
  have hb : b.toNat < 256 := b.toNat_lt
  have hhigh := hexDigit?_hexDigit (b.toNat / 16) (by omega)
  have hlow := hexDigit?_hexDigit (b.toNat % 16) (by omega)
  have hsum : 16 * (b.toNat / 16) + b.toNat % 16 = b.toNat := by omega
  simp only [List.cons_append, List.nil_append, decodeBytes, hhigh, hlow, hsum,
    UInt8.ofNat_toNat]

/-- An encoded byte is read back. -/
theorem decodeBytes_encodeByte (b : UInt8) (cs : List Char) :
    decodeBytes (encodeByte b ++ cs) = b :: decodeBytes cs := by
  rw [encodeByte]
  split
  · next hblank =>
    rw [List.singleton_append, decodeBytes_cons (by decide), hblank]
    rfl
  · split
    · next hplain =>
      obtain ⟨hne, hbytes⟩ := plainBytes_of_isPlain _ b.toNat_lt hplain
      rw [List.singleton_append, decodeBytes_cons hne, hbytes, UInt8.ofNat_toNat]
      rfl
    · exact decodeBytes_escape b cs

theorem decodeBytes_flatMap (bytes : List UInt8) :
    decodeBytes (bytes.flatMap encodeByte) = bytes := by
  induction bytes with
  | nil => rfl
  | cons b bytes ih => rw [List.flatMap_cons, decodeBytes_encodeByte, ih]

/-- Every text comes back from its encoding. -/
@[simp] theorem decode_encode (text : String) : decode (encode text) = some text := by
  rw [decode, encode, decodeBytes_flatMap, ofUtf8Bytes_utf8Bytes]

/-! ### What an encoding consists of -/

/-- The characters of an encoded name or value. -/
def IsFormChar (c : Char) : Prop := c.isAlphanum = true ∨ c ∈ "*-._+%".toList

instance (c : Char) : Decidable (IsFormChar c) := inferInstanceAs (Decidable (_ ∨ _))

theorem isFormChar_hexDigit : ∀ n < 16, IsFormChar (hexDigit n) := by decide

theorem isFormChar_of_isPlain : ∀ n < 256, isPlain n → IsFormChar (Char.ofNat n) := by
  decide +kernel

theorem isFormChar_of_mem_encode {text : String} {c : Char} (h : c ∈ encode text) :
    IsFormChar c := by
  obtain ⟨b, -, hc⟩ := List.mem_flatMap.mp h
  have hb : b.toNat < 256 := b.toNat_lt
  unfold encodeByte at hc
  split at hc
  · rw [List.mem_singleton.mp hc]
    decide
  · split at hc
    · next hplain =>
      rw [List.mem_singleton.mp hc]
      exact isFormChar_of_isPlain _ hb hplain
    · simp only [List.mem_cons, List.not_mem_nil, or_false] at hc
      obtain rfl | rfl | rfl := hc
      · decide
      · exact isFormChar_hexDigit _ (by omega)
      · exact isFormChar_hexDigit _ (by omega)

theorem notMem_encode {c : Char} (hc : ¬IsFormChar c) (text : String) : c ∉ encode text :=
  fun h => hc (isFormChar_of_mem_encode h)

theorem of_mem_encodePair {param : String × String} {c : Char} (h : c ∈ encodePair param) :
    IsFormChar c ∨ c = '=' := by
  rcases List.mem_append.mp h with h | h
  · exact .inl (isFormChar_of_mem_encode h)
  · rcases List.mem_cons.mp h with h | h
    · exact .inr h
    · exact .inl (isFormChar_of_mem_encode h)

/-- What the writer writes: names and values, `=` and `&`. -/
theorem of_mem_serialize {params : List (String × String)} {c : Char} (h : c ∈ serialize params) :
    IsFormChar c ∨ c = '=' ∨ c = '&' := by
  rcases of_mem_intercalate h with rfl | ⟨piece, hpiece, hc⟩
  · exact .inr (.inr rfl)
  · obtain ⟨param, -, rfl⟩ := List.mem_map.mp hpiece
    exact (of_mem_encodePair hc).imp_right .inl

/-! ### The round trip of the parameters -/

section

variable {enc : String → List Char} (hdecode : ∀ text, decode (enc text) = some text)
  (heq : ∀ text, '=' ∉ enc text)
include hdecode heq

/-- One parameter is read back, if names and values are and have no `=` in them. -/
theorem decodePair_append (param : String × String) :
    decodePair (enc param.1 ++ '=' :: enc param.2) = some param := by
  have hname : ∀ c ∈ enc param.1, decide (c ≠ '=') = true := fun c hc =>
    decide_eq_true fun h => heq param.1 (h ▸ hc)
  rw [decodePair, List.takeWhile_append_of_pos hname, List.dropWhile_append_of_pos hname]
  simp [hdecode]

/-- Joined parameters are read back, if names and values have no `&` in them either. -/
theorem parse_intercalate (hamp : ∀ text, '&' ∉ enc text) (params : List (String × String)) :
    parse (['&'].intercalate (params.map fun param => enc param.1 ++ '=' :: enc param.2)) =
      some params := by
  cases params with
  | nil => rfl
  | cons param params =>
    have hcut : ∀ piece ∈ (param :: params).map (fun param => enc param.1 ++ '=' :: enc param.2),
        '&' ∉ piece := by
      intro piece hpiece hmem
      obtain ⟨param', -, rfl⟩ := List.mem_map.mp hpiece
      rcases List.mem_append.mp hmem with h | h
      · exact hamp _ h
      · exact (List.mem_cons.mp h).elim (by decide) (hamp _)
    have hfilter : ((param :: params).map fun param => enc param.1 ++ '=' :: enc param.2).filter
        (fun piece => !piece.isEmpty) =
          (param :: params).map fun param => enc param.1 ++ '=' :: enc param.2 := by
      refine List.filter_eq_self.mpr fun piece hpiece => ?_
      obtain ⟨param', -, rfl⟩ := List.mem_map.mp hpiece
      simp
    rw [parse, List.splitOn_intercalate _ hcut (by simp), hfilter, List.mapM_map]
    have hread : ∀ params : List (String × String),
        params.mapM (decodePair ∘ fun param => enc param.1 ++ '=' :: enc param.2) =
          some params := by
      intro params
      induction params with
      | nil => rfl
      | cons param params ih => simp [List.mapM_cons, ih, decodePair_append hdecode heq]
    exact hread (param :: params)

end

/-- **Round trip.** The reader finds the parameters that were written. -/
theorem parse_serialize (params : List (String × String)) :
    parse (serialize params) = some params :=
  parse_intercalate decode_encode (notMem_encode (by decide)) (notMem_encode (by decide)) params

end FormUrl

/-! ### The fragment of a link -/

/-- The characters that stay as they are in the fragment of a link. -/
def isFragmentChar (c : Char) : Bool :=
  decide (0x20 < c.toNat) && decide (c.toNat < 0x7F) && c ∉ "\"<>`".toList

theorem isFragmentChar_of_isAlphanum {c : Char} (h : c.isAlphanum = true) :
    isFragmentChar c = true := by
  have hcode : 48 ≤ c.toNat ∧ c.toNat ≤ 57 ∨ 65 ≤ c.toNat ∧ c.toNat ≤ 90 ∨
      97 ≤ c.toNat ∧ c.toNat ≤ 122 := by
    change ((decide (65 ≤ c.val ∧ c.val ≤ 90) || (decide (97 ≤ c.val) && decide (c.val ≤ 122))) ||
      (decide (48 ≤ c.val) && decide (c.val ≤ 57))) = true at h
    simp only [Bool.or_eq_true, Bool.and_eq_true, decide_eq_true_eq, UInt32.le_iff_toNat_le] at h
    change ((65 ≤ c.toNat ∧ c.toNat ≤ 90) ∨ 97 ≤ c.toNat ∧ c.toNat ≤ 122) ∨
      48 ≤ c.toNat ∧ c.toNat ≤ 57 at h
    omega
  have hmark : ∀ mark ∈ "\"<>`".toList, c ≠ mark := by
    have hall : "\"<>`".toList.all fun mark => [34, 60, 62, 96].contains mark.toNat := by decide
    rintro mark hmem rfl
    have hcodes := List.all_eq_true.mp hall c hmem
    simp only [List.contains_eq_mem, decide_eq_true_eq, List.mem_cons, List.not_mem_nil,
      or_false] at hcodes
    omega
  simp only [isFragmentChar, Bool.and_eq_true, decide_eq_true_eq]
  exact ⟨⟨by omega, by omega⟩, fun hmem => hmark c hmem rfl⟩

/-- What a character becomes there: tabs and line ends are dropped. -/
def fragmentChar (c : Char) : List Char :=
  if isFragmentChar c then [c]
  else if c ∈ ['\t', '\n', '\r'] then []
  else (String.utf8EncodeChar c).flatMap fun b =>
    ['%', hexDigit (b.toNat / 16), hexDigit (b.toNat % 16)]

/-- The fragment that `url.hash = text` leaves. -/
def encodeFragment (cs : List Char) : List Char := cs.flatMap fragmentChar

theorem encodeFragment_of_forall {cs : List Char} (h : ∀ c ∈ cs, isFragmentChar c = true) :
    encodeFragment cs = cs := by
  induction cs with
  | nil => rfl
  | cons c cs ih =>
    rw [encodeFragment, List.flatMap_cons, fragmentChar, if_pos (h c List.mem_cons_self),
      List.singleton_append]
    exact congrArg (c :: ·) (ih fun c' hc' => h c' (List.mem_cons_of_mem _ hc'))

end FixZone.Library

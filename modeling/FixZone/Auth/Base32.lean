import FixZone.Auth.Totp
import FixZone.Library.BigEndian

/-!
# Secrets in base 32

The two base 32 loops of `PrivilegedMfaService` keep their accumulator in a JavaScript number that
only bit operators touch: a signed 32-bit integer, shifted left again and again and never masked.
Here they are once more with such accumulators (`Signed32`), as patterns of 32 bits: `<<` and `|`
wrap around, `>>>` shifts zeros in.

No group that is read lies above the low 32 bits, so they compute what the loops over unbounded
numbers compute (`Signed32.base32Encode_eq`, `Signed32.base32Decode_eq`). Of those, the encoder
writes the digits in base 32 of the number of its input, padded with less than five bits, and the
decoder the bytes of the number of its letters; every secret is recovered.
-/

namespace FixZone.PrivilegedMfaService

open Library Library.BigEndian
open ReportService (HttpError)

/-! ### The loops over unbounded numbers -/

/-- The letter of five bits. -/
def base32Letter (index : ℕ) : Char := base32Alphabet.getD index 'A'

theorem findIdx?_base32Letter : ∀ index < 32,
    base32Alphabet.findIdx? (· = base32Letter index) = some index := by
  decide

/-- No letter stands for padding, and each is its own upper case. -/
theorem base32Letter_plain : ∀ index < 32,
    base32Letter index ≠ '=' ∧ upperChar (base32Letter index) = [base32Letter index] := by
  decide

/-- The groups of a value are digits of it in base 32, without the bits left over. -/
theorem base32Groups_eq (value bits : ℕ) :
    base32Groups value bits =
      (digits 32 (bits / 5) (value / 2 ^ (bits % 5))).map base32Letter := by
  induction bits using base32Groups.induct with
  | case1 bits ih =>
    have htop : value / 2 ^ (bits % 5) / 32 ^ (bits / 5) = value / 2 ^ bits := by
      rw [show (32 : ℕ) = 2 ^ 5 from rfl, ← pow_mul, Nat.div_div_eq_div_mul, ← pow_add,
        Nat.mod_add_div]
    have hgroup : (value >>> bits) &&& 31 = value / 2 ^ bits % 32 := group_eq 5 bits value
    change base32Groups value (bits + 5) =
      (digits 32 ((bits + 5) / 5) (value / 2 ^ ((bits + 5) % 5))).map base32Letter
    rw [base32Groups, ih, Nat.add_div_right bits (by decide), Nat.add_mod_right, digits_succ,
      htop, List.map_cons, hgroup, base32Letter]
  | case2 bits hbits =>
    have hfew : bits < 5 := by
      by_contra hmany
      exact hbits (bits - 5) (by omega)
    rw [base32Groups, Nat.div_eq_of_lt hfew, digits_zero, List.map_nil]
    exact hbits

/-- The encoder writes the number of its input, shifted until the last five bits are full. -/
theorem base32EncodeFrom_eq {bits value pad groups : ℕ} {input : List ℕ}
    (hinput : ∀ byte ∈ input, byte < 256) (hpad : pad < 5) (hbits : bits < 5)
    (htotal : bits + 8 * input.length + pad = 5 * groups) :
    base32EncodeFrom bits value input =
      (digits 32 groups (number 256 value input * 2 ^ pad)).map base32Letter := by
  induction input generalizing bits value groups with
  | nil =>
    rw [base32EncodeFrom]
    split
    · next hnone =>
      obtain rfl : groups = 0 := by rw [List.length_nil] at htotal; omega
      rfl
    · next hsome =>
      rw [List.length_nil] at htotal
      obtain rfl : groups = 1 := by omega
      obtain rfl : pad = 5 - bits := by omega
      rw [digits_succ, number_nil, pow_zero, Nat.div_one, digits_zero, List.map_singleton,
        base32Letter, Nat.shiftLeft_eq, show (31 : ℕ) = 2 ^ 5 - 1 from rfl,
        Nat.and_two_pow_sub_one_eq_mod]
  | cons byte rest ih =>
    have hbyte : byte < 2 ^ 8 := hinput byte List.mem_cons_self
    have hrest : ∀ byte ∈ rest, byte < 256 := fun byte h => hinput byte (List.mem_cons_of_mem _ h)
    obtain ⟨later, rfl⟩ : ∃ later, groups = (bits + 8) / 5 + later :=
      Nat.exists_eq_add_of_le (by rw [List.length_cons] at htotal; omega)
    have hlater : (bits + 8) % 5 + 8 * rest.length + pad = 5 * later := by
      rw [List.length_cons] at htotal
      omega
    have hfirst : number 256 (value * 256 + byte) rest * 2 ^ pad / 32 ^ later =
        (value * 256 + byte) / 2 ^ ((bits + 8) % 5) := by
      have hscale : (32 : ℕ) ^ later = 256 ^ rest.length * 2 ^ ((bits + 8) % 5) * 2 ^ pad := by
        rw [show (32 : ℕ) = 2 ^ 5 from rfl, show (256 : ℕ) = 2 ^ 8 from rfl, ← pow_mul, ← pow_mul,
          ← pow_add, ← pow_add, ← hlater]
        congr 1
        omega
      rw [hscale, Nat.mul_div_mul_right _ _ (Nat.two_pow_pos pad), ← Nat.div_div_eq_div_mul,
        number_div _ hrest]
    rw [base32EncodeFrom, shiftIn_eq value hbyte, base32Groups_eq,
      ih hrest (Nat.mod_lt _ (by decide)) hlater, number_cons, digits_add, hfirst, List.map_append]
    rfl

/-- The decoder reads the number of its letters, without the bits of an unfinished byte. -/
theorem base32DecodeFrom_eq {bits value pad bytes : ℕ} {indices : List ℕ}
    (hindices : ∀ index ∈ indices, index < 32) (hpad : pad < 8) (hbits : bits < 8)
    (htotal : bits + 5 * indices.length = 8 * bytes + pad) :
    base32DecodeFrom bits value (indices.map base32Letter) =
      some (digits 256 bytes (number 32 value indices / 2 ^ pad)) := by
  induction indices generalizing bits value bytes with
  | nil =>
    obtain rfl : bytes = 0 := by rw [List.length_nil] at htotal; omega
    rfl
  | cons index rest ih =>
    have hindex : index < 2 ^ 5 := hindices index List.mem_cons_self
    have hrest : ∀ index ∈ rest, index < 32 :=
      fun index h => hindices index (List.mem_cons_of_mem _ h)
    rw [List.length_cons] at htotal
    rw [List.map_cons, base32DecodeFrom, findIdx?_base32Letter index hindex, Option.bind_eq_bind,
      Option.bind_some, shiftIn_eq value hindex, number_cons]
    split
    · exact ih hrest ‹_› (by omega)
    · next hfull =>
      obtain ⟨later, rfl⟩ : ∃ later, bytes = later + 1 := ⟨bytes - 1, by omega⟩
      have hlater : bits - 3 + 5 * rest.length = 8 * later + pad := by omega
      have hfirst : number 32 (value * 2 ^ 5 + index) rest / 2 ^ pad / 256 ^ later =
          (value * 2 ^ 5 + index) / 2 ^ (bits - 3) := by
        have hscale : 2 ^ pad * (256 : ℕ) ^ later = 32 ^ rest.length * 2 ^ (bits - 3) := by
          rw [show (32 : ℕ) = 2 ^ 5 from rfl, show (256 : ℕ) = 2 ^ 8 from rfl, ← pow_mul,
            ← pow_mul, ← pow_add, ← pow_add]
          congr 1
          omega
        rw [Nat.div_div_eq_div_mul, hscale, ← Nat.div_div_eq_div_mul, number_div _ hrest]
      have hgroup : ((value * 2 ^ 5 + index) >>> (bits - 3)) &&& 255 =
          (value * 2 ^ 5 + index) / 2 ^ (bits - 3) % 256 := group_eq 8 (bits - 3) _
      have hrecursion : base32DecodeFrom (bits - 3) (value * 2 ^ 5 + index)
          (rest.map base32Letter) =
          some (digits 256 later (number 32 (value * 2 ^ 5 + index) rest / 2 ^ pad)) :=
        ih hrest (by omega) hlater
      dsimp only
      rw [hrecursion, hgroup, digits_succ]
      exact congrArg some (congrArg (· % 256 :: _) hfirst.symm)

/-- Texts of the alphabet go through the decoder's preparation unchanged. -/
theorem base32Decode_letters {indices : List ℕ} (hindices : ∀ index ∈ indices, index < 32) :
    base32Decode (String.ofList (indices.map base32Letter)) =
      orThrow (base32DecodeFrom 0 0 (indices.map base32Letter)) invalidTotpSecret := by
  have hunpadded : (indices.map base32Letter).rdropWhile (· = '=') =
      indices.map base32Letter := by
    rw [List.rdropWhile_eq_self_iff]
    intro hne
    obtain ⟨index, hindex, hlast⟩ := List.mem_map.mp (List.getLast_mem hne)
    rw [← hlast, decide_eq_true_eq]
    exact (base32Letter_plain index (hindices index hindex)).1
  have hupper : (indices.map base32Letter).flatMap upperChar = indices.map base32Letter := by
    rw [List.flatMap_map, ← List.flatMap_singleton' (indices.map base32Letter),
      List.flatMap_map]
    exact List.flatMap_congr fun index h => (base32Letter_plain index (hindices index h)).2
  rw [base32Decode, String.toList_ofList, hunpadded, toUpperCase, String.toList_ofList,
    String.toList_ofList, hupper]

/-- What was encoded is decoded to itself, over unbounded numbers. -/
theorem base32Decode_base32Encode {input : List ℕ} (hinput : ∀ byte ∈ input, byte < 256) :
    base32Decode (base32Encode input) = .ok input := by
  -- the number of groups, and how many bits fill up the last one
  obtain ⟨groups, pad, hpad, htotal⟩ :
      ∃ groups pad, pad < 5 ∧ 8 * input.length + pad = 5 * groups :=
    ⟨(8 * input.length + 4) / 5, 5 * ((8 * input.length + 4) / 5) - 8 * input.length,
      by omega, by omega⟩
  have hwhole : number 256 0 input * 2 ^ pad < 32 ^ groups := by
    rw [show (32 : ℕ) = 2 ^ 5 from rfl, ← pow_mul, ← htotal, pow_add, pow_mul]
    exact Nat.mul_lt_mul_of_pos_right (number_lt (by decide) hinput) (Nat.two_pow_pos pad)
  have hletters := digits_lt (b := 32) (by decide) groups (number 256 0 input * 2 ^ pad)
  have hread : 0 + 5 * (digits 32 groups (number 256 0 input * 2 ^ pad)).length =
      8 * input.length + pad := by
    rw [length_digits, htotal, Nat.zero_add]
  have hwritten : 0 + 8 * input.length + pad = 5 * groups := by rw [Nat.zero_add, htotal]
  rw [base32Encode, base32EncodeFrom_eq hinput hpad (by decide) hwritten,
    base32Decode_letters hletters,
    base32DecodeFrom_eq hletters (show pad < 8 by omega) (by decide) hread, number_digits,
    Nat.mod_eq_of_lt hwhole, Nat.mul_div_cancel _ (Nat.two_pow_pos pad), digits_number 0 hinput]
  rfl

/-! ### The loops over 32-bit integers -/

namespace Signed32

/-- The inner loop of `base32Encode`. -/
def base32Groups (value : BitVec 32) : ℕ → List Char
  | bits + 5 =>
    base32Alphabet.getD ((value >>> bits) &&& 31#32).toNat 'A' :: base32Groups value bits
  | _ => []

/-- The loop of `base32Encode`, and what it does with the bits that are left over. -/
def base32EncodeFrom (bits : ℕ) (value : BitVec 32) : List UInt8 → List Char
  | [] =>
    if bits = 0 then []
    else [base32Alphabet.getD ((value <<< (5 - bits)) &&& 31#32).toNat 'A']
  | byte :: rest =>
    let value := (value <<< 8) ||| byte.toBitVec.setWidth 32
    base32Groups value (bits + 8) ++ base32EncodeFrom ((bits + 8) % 5) value rest

/-- `base32Encode`. -/
def base32Encode (input : List UInt8) : String := String.ofList (base32EncodeFrom 0 0#32 input)

example : base32Encode [0x66, 0x6f, 0x6f, 0x62] = "MZXW6YQ" := by decide +kernel

/-- The loop of `base32Decode`. -/
def base32DecodeFrom (bits : ℕ) (value : BitVec 32) : List Char → Option (List UInt8)
  | [] => some []
  | char :: rest => do
    let index ← base32Alphabet.findIdx? (· = char)
    let value := (value <<< 5) ||| BitVec.ofNat 32 index
    if bits + 5 < 8 then base32DecodeFrom (bits + 5) value rest
    else
      let bytes ← base32DecodeFrom (bits - 3) value rest
      return UInt8.ofNat ((value >>> (bits - 3)) &&& 255#32).toNat :: bytes

/-- `base32Decode`. -/
def base32Decode (input : String) : Except HttpError (List UInt8) :=
  let unpadded := String.ofList (input.toList.rdropWhile (· = '='))
  orThrow (base32DecodeFrom 0 0#32 (toUpperCase unpadded).toList) invalidTotpSecret

/-- `generateTotpSecret`. -/
def generateTotpSecret (randomBytes : ℕ → List UInt8) : String := base32Encode (randomBytes 20)

/-- An accumulator of 32 bits gives the groups of the number it is the end of. -/
theorem base32Groups_eq {bits : ℕ} (value : ℕ) (hbits : bits ≤ 32) :
    base32Groups (BitVec.ofNat 32 value) bits = PrivilegedMfaService.base32Groups value bits := by
  induction bits using PrivilegedMfaService.base32Groups.induct with
  | case1 bits ih =>
    have hgroup := toNat_group (n := 5) value hbits
    rw [base32Groups, PrivilegedMfaService.base32Groups, ih (by omega)]
    exact congrArg (base32Alphabet.getD · 'A' :: _) hgroup
  | case2 bits hfew =>
    rw [base32Groups, PrivilegedMfaService.base32Groups] <;> exact hfew

theorem base32EncodeFrom_eq {bits : ℕ} (value : ℕ) (input : List UInt8) (hbits : bits < 5) :
    base32EncodeFrom bits (BitVec.ofNat 32 value) input =
      PrivilegedMfaService.base32EncodeFrom bits value (input.map UInt8.toNat) := by
  induction input generalizing bits value with
  | nil =>
    have hgroup : ((BitVec.ofNat 32 value <<< (5 - bits)) &&& 31#32).toNat =
        (value <<< (5 - bits)) &&& 31 := by
      rw [ofNat_shiftLeft]
      exact toNat_group (n := 5) (k := 0) _ (by decide)
    rw [base32EncodeFrom, hgroup]
    rfl
  | cons byte rest ih =>
    have hbyte : byte.toBitVec.setWidth 32 = BitVec.ofNat 32 byte.toNat :=
      BitVec.eq_of_toNat_eq (by
        rw [BitVec.toNat_setWidth, BitVec.toNat_ofNat, UInt8.toNat_toBitVec])
    rw [base32EncodeFrom, List.map_cons, PrivilegedMfaService.base32EncodeFrom, hbyte,
      ofNat_shiftIn, base32Groups_eq _ (by omega), ih _ (Nat.mod_lt _ (by decide))]

/-- The encoder computes what it computes over unbounded numbers. -/
theorem base32Encode_eq (input : List UInt8) :
    base32Encode input = PrivilegedMfaService.base32Encode (input.map UInt8.toNat) := by
  rw [base32Encode, PrivilegedMfaService.base32Encode,
    ← base32EncodeFrom_eq 0 input (by decide)]

theorem base32DecodeFrom_eq {bits : ℕ} (value : ℕ) (chars : List Char) (hbits : bits < 8) :
    (base32DecodeFrom bits (BitVec.ofNat 32 value) chars).map (List.map UInt8.toNat) =
      PrivilegedMfaService.base32DecodeFrom bits value chars := by
  induction chars generalizing bits value with
  | nil => rfl
  | cons char rest ih =>
    rw [base32DecodeFrom, PrivilegedMfaService.base32DecodeFrom]
    cases base32Alphabet.findIdx? (· = char) with
    | none => rfl
    | some index =>
      simp only [Option.bind_eq_bind, Option.bind_some, ofNat_shiftIn]
      split
      · exact ih _ ‹_›
      · next hfull =>
        have hgroup := toNat_group (n := 8) (k := bits - 3) (w := 32) ((value <<< 5) ||| index)
          (by omega)
        have hbyte : ((value <<< 5) ||| index) >>> (bits - 3) &&& 255 < 256 :=
          Nat.lt_succ_of_le Nat.and_le_right
        rw [← ih ((value <<< 5) ||| index) (by omega)]
        cases base32DecodeFrom (bits - 3) (BitVec.ofNat 32 ((value <<< 5) ||| index)) rest with
        | none => rfl
        | some bytes =>
          exact congrArg (some <| · :: bytes.map UInt8.toNat)
            ((UInt8.toNat_ofNat_of_lt' (hgroup ▸ hbyte)).trans hgroup)

/-- So does the decoder, for every text. -/
theorem base32Decode_eq (text : String) :
    (base32Decode text).map (List.map UInt8.toNat) = PrivilegedMfaService.base32Decode text := by
  rw [base32Decode, PrivilegedMfaService.base32Decode, ← base32DecodeFrom_eq 0 _ (by decide)]
  cases base32DecodeFrom 0 0#32 _ with
  | none => rfl
  | some bytes => rfl

/-- What was encoded is decoded to itself. -/
theorem base32Decode_base32Encode (input : List UInt8) :
    base32Decode (base32Encode input) = .ok input := by
  have hbytes : ∀ byte ∈ input.map UInt8.toNat, byte < 256 := by
    intro byte hbyte
    obtain ⟨byte, -, rfl⟩ := List.mem_map.mp hbyte
    exact byte.toNat_lt
  have hdecoded := base32Decode_eq (base32Encode input)
  rw [base32Encode_eq, PrivilegedMfaService.base32Decode_base32Encode hbytes, ← base32Encode_eq]
    at hdecoded
  cases hresult : base32Decode (base32Encode input) with
  | error e =>
    rw [hresult] at hdecoded
    cases hdecoded
  | ok bytes =>
    rw [hresult] at hdecoded
    have hsame : bytes.map UInt8.toNat = input.map UInt8.toNat := Except.ok.inj hdecoded
    rw [List.map_injective_iff.mpr (fun _ _ => UInt8.toNat_inj.mp) hsame]

/-- Whatever the bytes are, encoding them and decoding the text gives them back; so it does for
those of a generated secret. -/
theorem base32_round_trip (input : List UInt8) (randomBytes : ℕ → List UInt8) :
    base32Decode (base32Encode input) = .ok input ∧
      base32Decode (generateTotpSecret randomBytes) = .ok (randomBytes 20) :=
  ⟨base32Decode_base32Encode input, base32Decode_base32Encode (randomBytes 20)⟩

end Signed32
end FixZone.PrivilegedMfaService

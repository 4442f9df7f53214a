import FixZone.Security.UploadSecurity

/-!
# Which images are accepted

`decodeAndValidateBase64Image` takes a text that is base64 of a buffer, in the one spelling that
`toString('base64')` gives, and a buffer that begins like an image of the declared type
(`decodeAndValidateBase64Image_eq_ok`). The bytes of JPEG and PNG are compared one by one, those of
WebP through a text that has lost the highest bit of every byte. So what is accepted as WebP need
not begin with the bytes of WebP, and that is the only difference to the signatures
(`decodes_genuine_iff`).
-/

namespace FixZone.UploadSecurityService

open Library ReportService

/-- The buffer begins with the signature of the type. -/
def HasSignature (buffer : List ℕ) : SupportedImageMime → Prop
  | .jpeg => buffer.take 3 = [0xff, 0xd8, 0xff]
  | .png => buffer.take 8 = [0x89, 0x50, 0x4e, 0x47, 0x0d, 0x0a, 0x1a, 0x0a]
  | .webp => buffer.take 4 = [0x52, 0x49, 0x46, 0x46] ∧
      (buffer.drop 8).take 4 = [0x57, 0x45, 0x42, 0x50]

instance (buffer : List ℕ) (mime : SupportedImageMime) : Decidable (HasSignature buffer mime) := by
  cases mime <;> unfold HasSignature <;> infer_instance

/-- A buffer of one to 5 MiB bytes. -/
structure IsBuffer (buffer : List ℕ) : Prop where
  bytes : ∀ byte ∈ buffer, byte < 256
  nonempty : 1 ≤ buffer.length
  size : buffer.length ≤ maxDecodedImageBytes

/-! ### Base64 there and back -/

/-- The values of the digits that `toString('base64')` writes. -/
def digitsOfBytes : List ℕ → List ℕ
  | x :: y :: z :: bytes =>
    x / 4 :: (x % 4 * 16 + y / 16) :: (y % 16 * 4 + z / 64) :: z % 64 :: digitsOfBytes bytes
  | [x, y] => [x / 4, x % 4 * 16 + y / 16, y % 16 * 4]
  | [x] => [x / 4, x % 4 * 16]
  | [] => []

/-- The padding after them. -/
def paddingOfBytes : List ℕ → List Char
  | _ :: _ :: _ :: bytes => paddingOfBytes bytes
  | [_, _] => ['=']
  | [_] => ['=', '=']
  | [] => []

theorem base64OfBytes_eq (bytes : List ℕ) :
    base64OfBytes bytes = (digitsOfBytes bytes).map base64Digit ++ paddingOfBytes bytes := by
  induction bytes using digitsOfBytes.induct with
  | case1 x y z bytes ih => simp [base64OfBytes, digitsOfBytes, paddingOfBytes, ih]
  | case2 x y => rfl
  | case3 x => rfl
  | case4 => rfl

theorem digitsOfBytes_lt {bytes : List ℕ} (h : ∀ byte ∈ bytes, byte < 256) :
    ∀ digit ∈ digitsOfBytes bytes, digit < 64 := by
  induction bytes using digitsOfBytes.induct with
  | case1 x y z bytes ih =>
    simp only [List.forall_mem_cons] at h
    simp only [digitsOfBytes, List.forall_mem_cons]
    exact ⟨by omega, by omega, by omega, by omega, ih h.2.2.2⟩
  | case2 x y =>
    simp only [List.forall_mem_cons] at h
    simp only [digitsOfBytes, List.forall_mem_cons]
    exact ⟨by omega, by omega, by omega, by simp⟩
  | case3 x =>
    simp only [List.forall_mem_cons] at h
    simp only [digitsOfBytes, List.forall_mem_cons]
    exact ⟨by omega, by omega, by simp⟩
  | case4 => simp [digitsOfBytes]

/-- The digits of bytes give the bytes. -/
theorem bytesOfDigits_digitsOfBytes {bytes : List ℕ} (h : ∀ byte ∈ bytes, byte < 256) :
    bytesOfDigits (digitsOfBytes bytes) = bytes := by
  induction bytes using digitsOfBytes.induct with
  | case1 x y z bytes ih =>
    simp only [List.forall_mem_cons] at h
    rw [digitsOfBytes, bytesOfDigits, ih h.2.2.2]
    congr 1
    · omega
    · congr 1
      · omega
      · congr 1
        omega
  | case2 x y =>
    simp only [List.forall_mem_cons] at h
    rw [digitsOfBytes, bytesOfDigits]
    congr 1
    · omega
    · congr 1
      omega
  | case3 x =>
    rw [digitsOfBytes, bytesOfDigits]
    congr 1
    omega
  | case4 => rfl

theorem bytesOfDigits_lt {digits : List ℕ} (h : ∀ digit ∈ digits, digit < 64) :
    ∀ byte ∈ bytesOfDigits digits, byte < 256 := by
  induction digits using bytesOfDigits.induct with
  | case1 a b c d digits ih =>
    simp only [List.forall_mem_cons] at h
    simp only [bytesOfDigits, List.forall_mem_cons]
    exact ⟨by omega, by omega, by omega, ih h.2.2.2.2⟩
  | case2 a b c =>
    simp only [List.forall_mem_cons] at h
    simp only [bytesOfDigits, List.forall_mem_cons]
    exact ⟨by omega, by omega, by simp⟩
  | case3 a b =>
    simp only [List.forall_mem_cons] at h
    simp only [bytesOfDigits, List.forall_mem_cons]
    exact ⟨by omega, by simp⟩
  | case4 digits => simp [bytesOfDigits]

/-- Each of the 64 values has a digit of its own in the alphabet. -/
theorem base64Digit_spec {value : ℕ} (h : value < 64) :
    base64Digit value ∈ base64Alphabet ∧ base64Digit value ≠ '=' ∧
      base64Alphabet.idxOf (base64Digit value) = value := by
  have hall : ∀ value : Fin 64, base64Digit value ∈ base64Alphabet ∧ base64Digit value ≠ '=' ∧
      base64Alphabet.idxOf (base64Digit value) = value := by
    decide +kernel
  exact hall ⟨value, h⟩

/-- Padding is at most two signs, and fills up the last four characters. -/
theorem paddingOfBytes_spec (bytes : List ℕ) :
    (paddingOfBytes bytes).length ≤ 2 ∧ (∀ c ∈ paddingOfBytes bytes, c = '=') ∧
      4 ∣ (digitsOfBytes bytes).length + (paddingOfBytes bytes).length := by
  induction bytes using digitsOfBytes.induct with
  | case1 x y z bytes ih =>
    obtain ⟨hlength, hall, hdvd⟩ := ih
    refine ⟨hlength, hall, ?_⟩
    simp only [digitsOfBytes, paddingOfBytes, List.length_cons]
    omega
  | case2 x y => simp [digitsOfBytes, paddingOfBytes]
  | case3 x => simp [digitsOfBytes, paddingOfBytes]
  | case4 => simp [digitsOfBytes, paddingOfBytes]

/-- Where a text is split into data and padding. -/
theorem splitPadding_base64OfBytes {bytes : List ℕ} (h : ∀ byte ∈ bytes, byte < 256) :
    (base64OfBytes bytes).takeWhile (· ≠ '=') = (digitsOfBytes bytes).map base64Digit ∧
      (base64OfBytes bytes).dropWhile (· ≠ '=') = paddingOfBytes bytes := by
  have hdata : ∀ c ∈ (digitsOfBytes bytes).map base64Digit, decide (c ≠ '=') = true := by
    intro c hc
    obtain ⟨digit, hdigit, rfl⟩ := List.mem_map.mp hc
    exact decide_eq_true (base64Digit_spec (digitsOfBytes_lt h digit hdigit)).2.1
  have hpadding := (paddingOfBytes_spec bytes).2.1
  rw [base64OfBytes_eq, List.takeWhile_append_of_pos hdata, List.dropWhile_append_of_pos hdata]
  cases hsigns : paddingOfBytes bytes with
  | nil => simp
  | cons c signs =>
    rw [hsigns] at hpadding
    have hc := hpadding c List.mem_cons_self
    simp [hc]

/-- What is decoded from the base64 of a buffer is the buffer. -/
theorem bufferOfBase64_base64OfBytes {bytes : List ℕ} (h : ∀ byte ∈ bytes, byte < 256) :
    bufferOfBase64 (base64OfBytes bytes) = bytes := by
  rw [bufferOfBase64, (splitPadding_base64OfBytes h).1, List.map_map]
  have hdigits : (digitsOfBytes bytes).map
      ((fun c => base64Alphabet.idxOf c) ∘ base64Digit) = digitsOfBytes bytes := by
    conv_rhs => rw [← List.map_id (digitsOfBytes bytes)]
    refine List.map_congr_left fun digit hdigit => ?_
    exact (base64Digit_spec (digitsOfBytes_lt h digit hdigit)).2.2
  rw [hdigits, bytesOfDigits_digitsOfBytes h]

/-- The base64 of a buffer that is not empty is strict. -/
theorem assertStrictBase64_base64OfBytes {bytes : List ℕ} (h : ∀ byte ∈ bytes, byte < 256)
    (hne : bytes ≠ []) : assertStrictBase64 (base64OfBytes bytes) = .ok ⟨⟩ := by
  obtain ⟨hlength, hsigns, hdvd⟩ := paddingOfBytes_spec bytes
  obtain ⟨hdata, hpadding⟩ := splitPadding_base64OfBytes h
  refine throwIf_eq_ok.mpr ?_
  rw [not_or, not_or, not_not, not_not]
  refine ⟨fun hempty => hne ?_, ?_, ?_⟩
  · rw [← bufferOfBase64_base64OfBytes h, hempty]
    rfl
  · rw [base64OfBytes_eq, List.length_append, List.length_map]
    exact Nat.mod_eq_zero_of_dvd hdvd
  · rw [hasOnlyStrictBase64Characters, hdata, hpadding, Bool.and_eq_true, Bool.and_eq_true,
      decide_eq_true_eq, List.all_eq_true,
      List.all_eq_true]
    refine ⟨⟨hlength, fun c hc => decide_eq_true (hsigns c hc)⟩, fun c hc => ?_⟩
    obtain ⟨digit, hdigit, rfl⟩ := List.mem_map.mp hc
    exact decide_eq_true (base64Digit_spec (digitsOfBytes_lt h digit hdigit)).1

/-- A strict text is decoded into bytes. -/
theorem bufferOfBase64_lt {value : List Char} (h : assertStrictBase64 value = .ok ⟨⟩) :
    ∀ byte ∈ bufferOfBase64 value, byte < 256 := by
  have hstrict := throwIf_eq_ok.mp h
  rw [not_or, not_or, not_not, not_not] at hstrict
  have hdata := hstrict.2.2
  rw [hasOnlyStrictBase64Characters, Bool.and_eq_true, List.all_eq_true] at hdata
  refine bytesOfDigits_lt fun digit hdigit => ?_
  obtain ⟨c, hc, rfl⟩ := List.mem_map.mp hdigit
  exact List.idxOf_lt_length_of_mem (of_decide_eq_true (hdata.2 c hc))

/-! ### What is accepted -/

theorem contentType_mem_iff {contentType : String} :
    contentType ∈ [SupportedImageMime.jpeg, .png, .webp].map SupportedImageMime.text ↔
      ∃ mime : SupportedImageMime, mime.text = contentType := by
  rw [List.mem_map]
  constructor
  · rintro ⟨mime, -, heq⟩
    exact ⟨mime, heq⟩
  · rintro ⟨mime, heq⟩
    exact ⟨mime, by cases mime <;> simp, heq⟩

/-- An image is accepted, and returned, exactly where the text is the base64 of a buffer in which
the declared type is detected. -/
theorem decodeAndValidateBase64Image_eq_ok {imageBase64 contentType invalidSizeMessage : String}
    {buffer : List ℕ} {mime : SupportedImageMime} :
    decodeAndValidateBase64Image imageBase64 contentType invalidSizeMessage = .ok (buffer, mime) ↔
      mime.text = contentType ∧ IsBuffer buffer ∧ imageBase64.toList = base64OfBytes buffer ∧
        detectImageMime buffer = some mime := by
  constructor
  · intro h
    obtain ⟨-, h⟩ := throwIf_bind_eq_ok.mp h
    obtain ⟨hstrict, h⟩ := check_bind_eq_ok.mp h
    obtain ⟨hsize, h⟩ := throwIf_bind_eq_ok.mp h
    obtain ⟨detected, hdetected, h⟩ := orThrow_bind_eq_ok.mp h
    obtain ⟨htype, h⟩ := throwIf_bind_eq_ok.mp h
    obtain ⟨rfl, rfl⟩ := Prod.mk.inj (pure_eq_ok.mp h)
    rw [not_or, not_or, not_lt, not_not] at hsize
    obtain ⟨hne, hle, hcanonical⟩ := hsize
    exact ⟨not_not.mp htype, ⟨bufferOfBase64_lt hstrict, List.length_pos_iff.mpr hne, hle⟩,
      hcanonical.symm, hdetected⟩
  · rintro ⟨htype, hbuffer, htext, hdetected⟩
    have hne : buffer ≠ [] := List.length_pos_iff.mp hbuffer.nonempty
    unfold decodeAndValidateBase64Image
    rw [htext, bufferOfBase64_base64OfBytes hbuffer.bytes]
    refine throwIf_bind_eq_ok.mpr ⟨not_not.mpr (contentType_mem_iff.mpr ⟨mime, htype⟩),
      check_bind_eq_ok.mpr ⟨assertStrictBase64_base64OfBytes hbuffer.bytes hne,
        throwIf_bind_eq_ok.mpr ⟨?_, orThrow_bind_eq_ok.mpr ⟨mime, hdetected,
          throwIf_bind_eq_ok.mpr ⟨not_not.mpr htype, rfl⟩⟩⟩⟩⟩
    rw [not_or, not_or, not_lt, not_not]
    exact ⟨hne, hbuffer.size, rfl⟩

/-! ### Signatures -/

/-- The text in which WebP is looked for. -/
def ReadsAsWebp (buffer : List ℕ) : Prop :=
  asciiOf (buffer.take 4) = "RIFF".toList ∧ asciiOf ((buffer.drop 8).take 4) = "WEBP".toList

instance (buffer : List ℕ) : Decidable (ReadsAsWebp buffer) :=
  inferInstanceAs (Decidable (_ ∧ _))

/-- How a buffer begins that has the signature of JPEG or PNG, or reads as WebP. -/
theorem head_of_jpeg {buffer : List ℕ} (h : HasSignature buffer .jpeg) :
    buffer.head? = some 0xff := by
  cases buffer with
  | nil => cases h
  | cons first rest => exact congrArg some (List.cons.inj h).1

theorem head_of_png {buffer : List ℕ} (h : HasSignature buffer .png) :
    buffer.head? = some 0x89 := by
  cases buffer with
  | nil => cases h
  | cons first rest => exact congrArg some (List.cons.inj h).1

theorem ReadsAsWebp.head {buffer : List ℕ} (h : ReadsAsWebp buffer) :
    ∃ first, buffer.head? = some first ∧ Char.ofNat (first % 128) = 'R' := by
  cases buffer with
  | nil => cases h.1
  | cons first rest => exact ⟨first, rfl, (List.cons.inj h.1).1⟩

/-- Nothing reads as WebP that begins like JPEG or PNG. -/
theorem ReadsAsWebp.not_other {buffer : List ℕ} (h : ReadsAsWebp buffer) :
    ¬ HasSignature buffer .jpeg ∧ ¬ HasSignature buffer .png := by
  obtain ⟨first, hfirst, hchar⟩ := h.head
  constructor
  · intro hjpeg
    rw [head_of_jpeg hjpeg, Option.some.injEq] at hfirst
    subst hfirst
    exact absurd hchar (by decide)
  · intro hpng
    rw [head_of_png hpng, Option.some.injEq] at hfirst
    subst hfirst
    exact absurd hchar (by decide)

theorem readsAsWebp_of_signature {buffer : List ℕ} (h : HasSignature buffer .webp) :
    ReadsAsWebp buffer := by
  rw [ReadsAsWebp, h.1, h.2]
  decide

theorem detectImageMime_eq_some_iff {buffer : List ℕ} {mime : SupportedImageMime} :
    detectImageMime buffer = some mime ↔
      HasSignature buffer mime ∨ mime = .webp ∧ ReadsAsWebp buffer := by
  have hdetects : detectImageMime buffer = if HasSignature buffer .jpeg then some .jpeg
      else if HasSignature buffer .png then some .png
      else if ReadsAsWebp buffer then some .webp else none := rfl
  rw [hdetects]
  by_cases hjpeg : HasSignature buffer .jpeg
  · have hpng : ¬ HasSignature buffer .png := fun hpng => by
      cases (head_of_jpeg hjpeg).symm.trans (head_of_png hpng)
    have hwebp : ¬ ReadsAsWebp buffer := fun h => h.not_other.1 hjpeg
    rw [if_pos hjpeg]
    cases mime with
    | jpeg => exact iff_of_true rfl (.inl hjpeg)
    | png => simp [hpng]
    | webp => simp [hwebp, mt readsAsWebp_of_signature hwebp]
  · rw [if_neg hjpeg]
    by_cases hpng : HasSignature buffer .png
    · have hwebp : ¬ ReadsAsWebp buffer := fun h => h.not_other.2 hpng
      rw [if_pos hpng]
      cases mime with
      | jpeg => simp [hjpeg]
      | png => exact iff_of_true rfl (.inl hpng)
      | webp => simp [hwebp, mt readsAsWebp_of_signature hwebp]
    · rw [if_neg hpng]
      cases mime with
      | jpeg => simp [hjpeg]
      | png => simp [hpng]
      | webp =>
        constructor
        · intro h
          exact .inr ⟨rfl, (Option.ite_none_right_eq_some.mp h).1⟩
        · rintro (hsignature | ⟨-, hreads⟩)
          · exact if_pos (readsAsWebp_of_signature hsignature)
          · exact if_pos hreads

/-- **Genuine images.** For a text and a declared type, what is accepted are exactly the buffers
with the signature of the type, in their base64, unless the text is the base64 of a buffer that
reads as WebP and is none. -/
theorem decodes_genuine_iff (imageBase64 contentType invalidSizeMessage : String) :
    (∀ buffer mime,
      decodeAndValidateBase64Image imageBase64 contentType invalidSizeMessage = .ok (buffer, mime) ↔
        mime.text = contentType ∧ IsBuffer buffer ∧ imageBase64.toList = base64OfBytes buffer ∧
          HasSignature buffer mime) ↔
      ¬ (contentType = SupportedImageMime.webp.text ∧ ∃ buffer, IsBuffer buffer ∧
        imageBase64.toList = base64OfBytes buffer ∧ ReadsAsWebp buffer ∧
          ¬ HasSignature buffer .webp) := by
  simp only [decodeAndValidateBase64Image_eq_ok, detectImageMime_eq_some_iff]
  constructor
  · rintro h ⟨htype, buffer, hbuffer, htext, hreads, hnot⟩
    exact hnot ((h buffer .webp).mp ⟨htype.symm, hbuffer, htext, .inr ⟨rfl, hreads⟩⟩).2.2.2
  · intro h buffer mime
    refine and_congr_right fun htype => and_congr_right fun hbuffer =>
      and_congr_right fun htext => ?_
    refine ⟨fun hdetected => ?_, .inl⟩
    rcases hdetected with hsignature | ⟨rfl, hreads⟩
    · exact hsignature
    · by_contra hnot
      exact h ⟨htype.symm, buffer, hbuffer, htext, hreads, hnot⟩

namespace Example

/-- The bytes of `RIFF` and `WEBP`, the first with its highest bit set. -/
def likeWebp : List ℕ :=
  [0xd2, 0x49, 0x46, 0x46, 0x04, 0x00, 0x00, 0x00, 0x57, 0x45, 0x42, 0x50]

end Example

open Example in
/-- A buffer is accepted as WebP that does not begin with the bytes of WebP. -/
theorem likeWebp_accepted : ¬ ∀ (imageBase64 contentType invalidSizeMessage : String)
    (buffer : List ℕ) (mime : SupportedImageMime),
    decodeAndValidateBase64Image imageBase64 contentType invalidSizeMessage = .ok (buffer, mime) ↔
      mime.text = contentType ∧ IsBuffer buffer ∧ imageBase64.toList = base64OfBytes buffer ∧
        HasSignature buffer mime := by
  intro h
  have haccepted : decodeAndValidateBase64Image "0klGRgQAAABXRUJQ" "image/webp" "" =
      .ok (likeWebp, .webp) := by
    decide +kernel
  exact absurd ((h _ _ _ _ _).mp haccepted).2.2.2 (by decide)

end FixZone.UploadSecurityService

import FixZone.Security.ImageDecoding

/-!
# Base64 in links and in columns

`buffer.toString('base64url')` and `Buffer.from(text, 'base64url')`: the digits of base64 with `-`
and `_` for the last two, and without padding. A buffer comes back from its text
(`bufferOfBase64Url_base64UrlOfBytes`), and the text consists of the digits alone, so that trimming
it, or cutting at a separator, leaves it as it is.
-/

namespace FixZone.UploadSecurityService

open Library

/-- The digits of base64url. -/
def base64UrlAlphabet : List Char :=
  "ABCDEFGHIJKLMNOPQRSTUVWXYZabcdefghijklmnopqrstuvwxyz0123456789-_".toList

/-- The digit of a value. -/
def base64UrlDigit (value : ℕ) : Char := base64UrlAlphabet.getD value '='

/-- `buffer.toString('base64url')`. -/
def base64UrlOfBytes (bytes : List ℕ) : String :=
  String.ofList ((digitsOfBytes bytes).map base64UrlDigit)

/-- The value of a digit, of either alphabet. -/
def base64UrlValue? (c : Char) : Option ℕ :=
  if c = '+' then some 62 else if c = '/' then some 63 else base64UrlAlphabet.findIdx? (· = c)

/-- `Buffer.from(text, 'base64url')`, which passes over everything that is no digit. -/
def bufferOfBase64Url (text : String) : List ℕ :=
  bytesOfDigits ((text.toList.takeWhile (· ≠ '=')).filterMap base64UrlValue?)

/-- Each of the 64 values has a digit of its own, which is no blank and no colon. -/
theorem base64UrlDigit_spec {value : ℕ} (h : value < 64) :
    base64UrlDigit value ∈ base64UrlAlphabet ∧
      base64UrlValue? (base64UrlDigit value) = some value := by
  have hall : ∀ value : Fin 64, base64UrlDigit value ∈ base64UrlAlphabet ∧
      base64UrlValue? (base64UrlDigit value) = some value.val := by
    decide +kernel
  exact hall ⟨value, h⟩

theorem mem_base64UrlOfBytes {bytes : List ℕ} (hbytes : ∀ byte ∈ bytes, byte < 256) {c : Char}
    (h : c ∈ (base64UrlOfBytes bytes).toList) : c ∈ base64UrlAlphabet := by
  rw [base64UrlOfBytes, String.toList_ofList] at h
  obtain ⟨digit, hdigit, rfl⟩ := List.mem_map.mp h
  exact (base64UrlDigit_spec (digitsOfBytes_lt hbytes digit hdigit)).1

/-- **Round trip.** A buffer comes back from its text. -/
theorem bufferOfBase64Url_base64UrlOfBytes {bytes : List ℕ} (hbytes : ∀ byte ∈ bytes, byte < 256) :
    bufferOfBase64Url (base64UrlOfBytes bytes) = bytes := by
  have hall : ∀ c ∈ (digitsOfBytes bytes).map base64UrlDigit, decide (c ≠ '=') = true := by
    intro c hc
    have hmem : c ∈ base64UrlAlphabet :=
      mem_base64UrlOfBytes hbytes (by rw [base64UrlOfBytes, String.toList_ofList]; exact hc)
    exact decide_eq_true fun heq => absurd (heq ▸ hmem) (by decide)
  have hvalues : ((digitsOfBytes bytes).map base64UrlDigit).filterMap base64UrlValue? =
      digitsOfBytes bytes := by
    rw [List.filterMap_map]
    refine (List.filterMap_congr fun digit hdigit => ?_).trans (List.filterMap_some)
    exact (base64UrlDigit_spec (digitsOfBytes_lt hbytes digit hdigit)).2
  rw [bufferOfBase64Url, base64UrlOfBytes, String.toList_ofList,
    List.takeWhile_eq_self_iff.mpr hall, hvalues, bytesOfDigits_digitsOfBytes hbytes]

/-- There is nothing to trim. -/
theorem trim_base64UrlOfBytes {bytes : List ℕ} (hbytes : ∀ byte ∈ bytes, byte < 256) :
    trim (base64UrlOfBytes bytes) = base64UrlOfBytes bytes := by
  have hblank : base64UrlAlphabet.all fun c => !isJsSpace c := by decide +kernel
  have hplain (c : Char) (hc : c ∈ base64UrlAlphabet) : isJsSpace c = false := by
    simpa using List.all_eq_true.mp hblank c hc
  rw [trim, strip_of_forall fun c hc => hplain c (mem_base64UrlOfBytes hbytes hc),
    String.ofList_toList]

end FixZone.UploadSecurityService

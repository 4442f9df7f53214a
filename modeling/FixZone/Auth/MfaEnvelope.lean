import FixZone.Auth.Mfa
import FixZone.InternalAdmin.Lifecycle
import FixZone.Library.FormUrl
import FixZone.Security.Base64Url

/-!
# Secrets at rest

`encrypt` and `decrypt` of `PrivilegedMfaService`: a secret is stored as `v1:` and the
initialization vector, the tag and the ciphertext of AES-256-GCM in base64url, under the key of the
environment. Of the cipher nothing is used but that it deciphers what it has enciphered
(`Aes256Gcm.decipher_encipher`), and how long its tag and its ciphertext are: neither is empty, so
that the reader, which takes an empty part for a missing one, finds all of them
(`decrypt_of_encrypt`).
-/

namespace FixZone.PrivilegedMfaService

open Library
open ReportService (HttpError)
open InternalAdminService (ProcessEnv)
open UploadSecurityService (base64UrlOfBytes bufferOfBase64Url mem_base64UrlOfBytes
  bufferOfBase64Url_base64UrlOfBytes)

/-! ### Buffers as texts -/

/-- `buffer.toString('base64url')`. -/
def toBase64Url (buffer : List UInt8) : String := base64UrlOfBytes (buffer.map UInt8.toNat)

/-- `Buffer.from(text, 'base64url')`, and `Buffer.from(text, 'base64')`, which reads both
alphabets too. -/
def ofBase64Url (text : String) : List UInt8 := (bufferOfBase64Url text).map UInt8.ofNat

/-- `Buffer.from(text, 'hex')`: the digits in pairs, up to the first pair that is none. -/
def ofHex : List Char → List UInt8
  | a :: b :: rest =>
    match hexDigit? a, hexDigit? b with
    | some x, some y => UInt8.ofNat (16 * x + y) :: ofHex rest
    | _, _ => []
  | _ => []

theorem toNat_lt_of_mem {buffer : List UInt8} : ∀ byte ∈ buffer.map UInt8.toNat, byte < 256 := by
  intro byte hbyte
  obtain ⟨byte, -, rfl⟩ := List.mem_map.mp hbyte
  exact byte.toNat_lt

@[simp] theorem ofBase64Url_toBase64Url (buffer : List UInt8) :
    ofBase64Url (toBase64Url buffer) = buffer := by
  rw [ofBase64Url, toBase64Url, bufferOfBase64Url_base64UrlOfBytes toNat_lt_of_mem, List.map_map]
  exact (List.map_congr_left fun byte _ => UInt8.ofNat_toNat).trans (List.map_id _)

theorem toBase64Url_ne_empty {buffer : List UInt8} (h : buffer ≠ []) : toBase64Url buffer ≠ "" := by
  intro hempty
  have hback := ofBase64Url_toBase64Url buffer
  rw [hempty] at hback
  exact h hback.symm

theorem colon_notMem_toBase64Url (buffer : List UInt8) : ':' ∉ (toBase64Url buffer).toList :=
  fun h => absurd (mem_base64UrlOfBytes toNat_lt_of_mem h) (by decide)

/-! ### The cipher and its key -/

/-- AES-256-GCM, with what is known of it. -/
structure Aes256Gcm where
  /-- The ciphertext and the tag, for a key, an initialization vector and a plaintext. -/
  encipher : List UInt8 → List UInt8 → List UInt8 → List UInt8 × List UInt8
  /-- The plaintext, for a key, an initialization vector, a tag and a ciphertext, if the tag is
  that of the ciphertext. -/
  decipher : List UInt8 → List UInt8 → List UInt8 → List UInt8 → Option (List UInt8)
  decipher_encipher : ∀ key iv plaintext, key.length = 32 →
    decipher key iv (encipher key iv plaintext).2 (encipher key iv plaintext).1 = some plaintext
  length_ciphertext : ∀ key iv plaintext, (encipher key iv plaintext).1.length = plaintext.length
  length_tag : ∀ key iv plaintext, (encipher key iv plaintext).2.length = 16

/-- What `encryptionKey` throws. -/
def encryptionNotConfigured : HttpError :=
  { kind := .internal, message := "Privileged MFA encryption is not configured" }

/-- What `createCipheriv` throws for a key of another length. -/
def invalidKeyLength : HttpError := { kind := .internal, message := "Invalid key length" }

/-- What `decrypt` throws for a payload that has not its parts. -/
def invalidPayload : HttpError := { kind := .internal, message := "MFA secret payload is invalid" }

/-- What `decipher.final` throws. -/
def unauthenticated : HttpError :=
  { kind := .internal, message := "Unsupported state or unable to authenticate data" }

/-- `parseEncryptionKey`. -/
def parseEncryptionKey (raw : String) : Option (List UInt8) :=
  let isHex := raw.toList.length = 64 && raw.toList.all fun c => (hexDigit? c).isSome
  let fromHex := ofHex raw.toList
  if isHex && fromHex.length = 32 then some fromHex
  else
    let fromBase64 := ofBase64Url raw
    if fromBase64.length = 32 then some fromBase64 else none

/-- `encryptionKey`; `sha256` gives the digest in hexadecimal digits. -/
def encryptionKey (env : ProcessEnv) (sha256 : String → String) :
    Except HttpError (List UInt8) :=
  let raw := (env "PRIVILEGED_MFA_ENCRYPTION_KEY").map trim
  match (raw.filter (· ≠ "")).bind parseEncryptionKey with
  | some key => .ok key
  | none =>
    if env "NODE_ENV" = some "test" then .ok (ofHex (sha256 "fixzone-test-mfa-key").toList)
    else .error encryptionNotConfigured

/-- `createCipheriv` and `createDecipheriv` take keys of 32 bytes. -/
def cipherKey (env : ProcessEnv) (sha256 : String → String) : Except HttpError (List UInt8) := do
  let key ← encryptionKey env sha256
  throwIf (key.length ≠ 32) invalidKeyLength
  return key

/-! ### The payload -/

section Payload

variable (gcm : Aes256Gcm) (env : ProcessEnv) (sha256 : String → String)

/-- `encrypt`, with the random initialization vector. -/
def encrypt (iv : List UInt8) (plaintext : String) : Except HttpError String := do
  let key ← cipherKey env sha256
  let (ciphertext, tag) := gcm.encipher key iv (utf8Bytes plaintext)
  return "v1:" ++ toBase64Url iv ++ ":" ++ toBase64Url tag ++ ":" ++ toBase64Url ciphertext

/-- `decrypt`. What is deciphered was enciphered, so it is the encoding of a text. -/
def decrypt (payload : String) : Except HttpError String :=
  match (payload.toList.splitOn ':').map String.ofList with
  | version :: iv :: tag :: ciphertext :: _ => do
    throwIf (version ≠ "v1" ∨ iv = "" ∨ tag = "" ∨ ciphertext = "") invalidPayload
    let key ← cipherKey env sha256
    let plaintext ← orThrow
      (gcm.decipher key (ofBase64Url iv) (ofBase64Url tag) (ofBase64Url ciphertext)) unauthenticated
    return (ofUtf8Bytes plaintext).getD "�"
  | _ => .error invalidPayload

end Payload

variable {gcm : Aes256Gcm} {env : ProcessEnv} {sha256 : String → String}

/-- The reader cuts a payload where the writer joined it. -/
theorem splitOn_payload (iv tag ciphertext : List UInt8) :
    (("v1:" ++ toBase64Url iv ++ ":" ++ toBase64Url tag ++ ":" ++
      toBase64Url ciphertext).toList.splitOn ':').map String.ofList =
      ["v1", toBase64Url iv, toBase64Url tag, toBase64Url ciphertext] := by
  have hjoined : ("v1:" ++ toBase64Url iv ++ ":" ++ toBase64Url tag ++ ":" ++
      toBase64Url ciphertext).toList = [':'].intercalate ["v1".toList, (toBase64Url iv).toList,
        (toBase64Url tag).toList, (toBase64Url ciphertext).toList] := by
    simp [String.toList_append, List.intercalate]
  have hcolon : ∀ part ∈ ["v1".toList, (toBase64Url iv).toList, (toBase64Url tag).toList,
      (toBase64Url ciphertext).toList], ':' ∉ part := by
    simp only [List.forall_mem_cons]
    exact ⟨by decide, colon_notMem_toBase64Url iv, colon_notMem_toBase64Url tag,
      colon_notMem_toBase64Url ciphertext, by simp⟩
  rw [hjoined, List.splitOn_intercalate _ hcolon (by simp)]
  simp

/-- What has been encrypted is decrypted. -/
theorem decrypt_of_encrypt {iv : List UInt8} {plaintext payload : String} (hiv : iv ≠ [])
    (hplaintext : plaintext ≠ "") (h : encrypt gcm env sha256 iv plaintext = .ok payload) :
    decrypt gcm env sha256 payload = .ok plaintext := by
  obtain ⟨key, hkey, h⟩ := bind_eq_ok.mp h
  have hlength : key.length = 32 := by
    obtain ⟨key', -, hkey⟩ := bind_eq_ok.mp hkey
    obtain ⟨hne, hkey⟩ := throwIf_bind_eq_ok.mp hkey
    rw [← pure_eq_ok.mp hkey]
    exact not_not.mp hne
  have hopens := gcm.decipher_encipher key iv (utf8Bytes plaintext) hlength
  have hciphertext := gcm.length_ciphertext key iv (utf8Bytes plaintext)
  have htag := gcm.length_tag key iv (utf8Bytes plaintext)
  generalize gcm.encipher key iv (utf8Bytes plaintext) = result at *
  obtain ⟨ciphertext, tag⟩ := result
  have hbytes : utf8Bytes plaintext ≠ [] := by
    intro hnil
    have hback := ofUtf8Bytes_utf8Bytes plaintext
    rw [hnil] at hback
    exact hplaintext (Option.some.inj hback).symm
  have htagged : tag ≠ [] := by
    rintro rfl
    cases htag
  have hwritten : ciphertext ≠ [] := by
    rintro rfl
    exact hbytes (List.length_eq_zero_iff.mp hciphertext.symm)
  have hparts : ¬("v1" ≠ "v1" ∨ toBase64Url iv = "" ∨ toBase64Url tag = "" ∨
      toBase64Url ciphertext = "") := by
    simp only [not_or]
    exact ⟨fun h => h rfl, toBase64Url_ne_empty hiv, toBase64Url_ne_empty htagged,
      toBase64Url_ne_empty hwritten⟩
  rw [← pure_eq_ok.mp h, decrypt, splitOn_payload]
  dsimp only at hopens ⊢
  rw [throwIf_of_not hparts, ok_bind, hkey, ok_bind, ofBase64Url_toBase64Url,
    ofBase64Url_toBase64Url, ofBase64Url_toBase64Url, hopens, orThrow_some, ok_bind,
    ofUtf8Bytes_utf8Bytes]
  rfl

end FixZone.PrivilegedMfaService

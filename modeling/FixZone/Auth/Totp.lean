import FixZone.Report.Model

/-!
# One-time codes

The time-based codes of `PrivilegedMfaService`: the secret in base 32, the code of a
time step, and the step whose code was sent. A code is six digits cut out of an HMAC over
the number of the step; a step takes thirty seconds, and the steps before and after the
current one are taken too.

The HMAC is a parameter. Bytes and the numbers made of them are natural numbers; of the
accumulators of the two base 32 loops only the low bits are ever read.
-/

namespace FixZone.PrivilegedMfaService

open Library
open ReportService (HttpError)

/-- `base32Alphabet`. -/
def base32Alphabet : List Char := "ABCDEFGHIJKLMNOPQRSTUVWXYZ234567".toList

/-- `totpStepSeconds`. -/
def totpStepSeconds : ℤ := 30

/-- The inner loop of `base32Encode`: the groups of five bits there are in `value`. -/
def base32Groups (value : ℕ) : ℕ → List Char
  | bits + 5 => base32Alphabet.getD ((value >>> bits) &&& 31) 'A' :: base32Groups value bits
  | _ => []

/-- The loop of `base32Encode`, and what it does with the bits that are left over. -/
def base32EncodeFrom (bits value : ℕ) : List ℕ → List Char
  | [] => if bits = 0 then [] else [base32Alphabet.getD ((value <<< (5 - bits)) &&& 31) 'A']
  | byte :: rest =>
    let value := (value <<< 8) ||| byte
    base32Groups value (bits + 8) ++ base32EncodeFrom ((bits + 8) % 5) value rest

/-- `base32Encode`. -/
def base32Encode (input : List ℕ) : String := String.ofList (base32EncodeFrom 0 0 input)

/-- The loop of `base32Decode`. -/
def base32DecodeFrom (bits value : ℕ) : List Char → Option (List ℕ)
  | [] => some []
  | char :: rest => do
    let index ← base32Alphabet.findIdx? (· = char)
    let value := (value <<< 5) ||| index
    if bits + 5 < 8 then base32DecodeFrom (bits + 5) value rest
    else
      let bytes ← base32DecodeFrom (bits - 3) value rest
      return ((value >>> (bits - 3)) &&& 255) :: bytes

/-- What `base32Decode` throws. -/
def invalidTotpSecret : HttpError := { kind := .internal, message := "Invalid TOTP secret" }

/-- `base32Decode`. -/
def base32Decode (input : String) : Except HttpError (List ℕ) :=
  let unpadded := String.ofList (input.toList.rdropWhile (· = '='))
  orThrow (base32DecodeFrom 0 0 (toUpperCase unpadded).toList) invalidTotpSecret

/-- `buffer.writeBigUInt64BE(counter)`. -/
def writeBigUInt64BE (counter : ℕ) : List ℕ :=
  (List.range 8).map fun i => (counter >>> (8 * (7 - i))) &&& 255

section Code

variable (hmacSha1 : List ℕ → List ℕ → List ℕ)

/-- `generateTotpCodeForStep`. -/
def generateTotpCodeForStep (secret : String) (counter : ℕ) : Except HttpError String := do
  let key ← base32Decode secret
  let hmac := hmacSha1 key (writeBigUInt64BE counter)
  let byte i := hmac.getD i 0
  let offset := byte (hmac.length - 1) &&& 0x0f
  let binary := ((byte offset &&& 0x7f) <<< 24) ||| ((byte (offset + 1) &&& 0xff) <<< 16) |||
    ((byte (offset + 2) &&& 0xff) <<< 8) ||| (byte (offset + 3) &&& 0xff)
  return padded 6 (binary % 1000000)

/-- `/^\d{6}$/`. -/
def isSixDigits (text : String) : Bool :=
  text.toList.length = 6 && text.toList.all fun c => '0'.val ≤ c.val && c.val ≤ '9'.val

/-- `currentTotpStep`. -/
def currentTotpStep (now : Millis) : ℤ := now / 1000 / totpStepSeconds

/-- The loop of `matchTotpStep`: the first of the candidates whose code was sent. -/
def matchStepAmong (secret normalized : String) : List ℤ → Except HttpError (Option ℕ)
  | [] => .ok none
  | .negSucc _ :: rest => matchStepAmong secret normalized rest
  | .ofNat candidateStep :: rest => do
    let candidate ← generateTotpCodeForStep hmacSha1 secret candidateStep
    if candidate = normalized then return some candidateStep
    else matchStepAmong secret normalized rest

/-- `matchTotpStep`. -/
def matchTotpStep (now : Millis) (code secret : String) : Except HttpError (Option ℕ) :=
  if isSixDigits (trim code) = false then .ok none
  else
    matchStepAmong hmacSha1 secret (trim code)
      ([-1, 0, 1].map fun offset => currentTotpStep now + offset)

end Code

variable {hmacSha1 : List ℕ → List ℕ → List ℕ}

end FixZone.PrivilegedMfaService

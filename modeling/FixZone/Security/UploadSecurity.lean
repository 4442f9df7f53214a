import Mathlib.Data.Bool.AllAny
import FixZone.Library.PosixPath
import FixZone.Report.Model

/-!
# Storing an image

`UploadSecurityService` decodes an image, checks it and writes it below the upload root. The
files of the disk are those that exist, whatever they hold. What the process finds around it
is a `Storage`: the names the clock and the random generator give, and how each write ends. A
write that fails leaves nothing behind when the file could not be opened, and a file that holds
a part of the image when the disk filled up on the way.
-/

namespace FixZone.UploadSecurityService

open Library PosixPath ReportService

/-! ### Base64 -/

/-- The digits of base64. -/
def base64Alphabet : List Char :=
  "ABCDEFGHIJKLMNOPQRSTUVWXYZabcdefghijklmnopqrstuvwxyz0123456789+/".toList

/-- `Buffer.from(value, 'base64')`, on the digits before the padding. -/
def bytesOfDigits : List ℕ → List ℕ
  | a :: b :: c :: d :: digits =>
    (4 * a + b / 16) :: (b % 16 * 16 + c / 4) :: (c % 4 * 64 + d) :: bytesOfDigits digits
  | [a, b, c] => [4 * a + b / 16, b % 16 * 16 + c / 4]
  | [a, b] => [4 * a + b / 16]
  | _ => []

/-- The digit of a value. -/
def base64Digit (value : ℕ) : Char := base64Alphabet.getD value '='

/-- `buffer.toString('base64')`. -/
def base64OfBytes : List ℕ → List Char
  | x :: y :: z :: bytes =>
    base64Digit (x / 4) :: base64Digit (x % 4 * 16 + y / 16) ::
      base64Digit (y % 16 * 4 + z / 64) :: base64Digit (z % 64) :: base64OfBytes bytes
  | [x, y] =>
    [base64Digit (x / 4), base64Digit (x % 4 * 16 + y / 16), base64Digit (y % 16 * 4), '=']
  | [x] => [base64Digit (x / 4), base64Digit (x % 4 * 16), '=', '=']
  | [] => []

/-- `Buffer.from(imageBase64, 'base64')`. -/
def bufferOfBase64 (imageBase64 : List Char) : List ℕ :=
  bytesOfDigits ((imageBase64.takeWhile (· ≠ '=')).map fun c => base64Alphabet.idxOf c)

/-- `hasOnlyStrictBase64Characters`. -/
def hasOnlyStrictBase64Characters (value : List Char) : Bool :=
  let data := value.takeWhile (· ≠ '=')
  let padding := value.dropWhile (· ≠ '=')
  padding.length ≤ 2 && padding.all (· = '=') && data.all (· ∈ base64Alphabet)

/-- `assertStrictBase64`. -/
def assertStrictBase64 (value : List Char) : Except HttpError Unit :=
  throwIf (value = [] ∨ value.length % 4 ≠ 0 ∨ ¬hasOnlyStrictBase64Characters value)
    (forbidden "Malformed base64 image")

/-! ### Images -/

/-- `SupportedImageMime`. -/
inductive SupportedImageMime where
  | jpeg | png | webp
  deriving DecidableEq

/-- A type as requests declare it. -/
def SupportedImageMime.text : SupportedImageMime → String
  | .jpeg => "image/jpeg"
  | .png => "image/png"
  | .webp => "image/webp"

/-- `supportedTypes`. -/
def SupportedImageMime.extension : SupportedImageMime → String
  | .jpeg => "jpg"
  | .png => "png"
  | .webp => "webp"

/-- `MAX_DECODED_IMAGE_BYTES`. -/
def maxDecodedImageBytes : ℕ := 5 * 1024 * 1024

/-- `buffer.toString('ascii')`, which looks at seven bits of each byte. -/
def asciiOf (buffer : List ℕ) : List Char := buffer.map fun byte => Char.ofNat (byte % 128)

/-- `detectImageMime`. -/
def detectImageMime (buffer : List ℕ) : Option SupportedImageMime :=
  if buffer.take 3 = [0xff, 0xd8, 0xff] then some .jpeg
  else if buffer.take 8 = [0x89, 0x50, 0x4e, 0x47, 0x0d, 0x0a, 0x1a, 0x0a] then some .png
  else if asciiOf (buffer.take 4) = "RIFF".toList ∧ asciiOf ((buffer.drop 8).take 4) = "WEBP".toList
    then some .webp
  else none

/-- `decodeAndValidateBase64Image`: the buffer and the type. -/
def decodeAndValidateBase64Image (imageBase64 contentType invalidSizeMessage : String) :
    Except HttpError (List ℕ × SupportedImageMime) := do
  throwIf (contentType ∉ [SupportedImageMime.jpeg, .png, .webp].map SupportedImageMime.text)
    (forbidden "Unsupported image type")
  assertStrictBase64 imageBase64.toList
  let buffer := bufferOfBase64 imageBase64.toList
  throwIf (buffer = [] ∨ maxDecodedImageBytes < buffer.length ∨
      base64OfBytes buffer ≠ imageBase64.toList)
    (forbidden invalidSizeMessage)
  let detectedMime ← orThrow (detectImageMime buffer) (forbidden "Unsupported image type")
  throwIf (detectedMime.text ≠ contentType) (forbidden "Image content type mismatch")
  return (buffer, detectedMime)

/-! ### The upload root -/

/-- The condition of `assertInsideUploadRoot`, negated. -/
def insideUploadRoot (uploadRoot targetPath : AbsolutePath) : Bool :=
  let relativePath := uploadRoot.relative targetPath
  !(relativePath = [] || dotDot.isPrefixOf relativePath ||
    decide (dotDot ++ ['/'] <:+: relativePath) || uploadRoot.resolve relativePath ≠ targetPath)

/-- `assertInsideUploadRoot` lets through the paths below the root, save where a name but the last
ends with `..` or the first starts with it. -/
theorem insideUploadRoot_iff {root target : AbsolutePath} :
    insideUploadRoot root target ↔
      ∃ names ≠ [], target.names = root.names ++ names ∧ ¬dotDot <+: joined names ∧
        ∀ name ∈ names.dropLast, ¬dotDot <:+ name := by
  have hunfold : insideUploadRoot root target ↔ root.relative target ≠ [] ∧
      ¬dotDot <+: root.relative target ∧ ¬dotDot ++ ['/'] <:+: root.relative target ∧
        root.resolve (root.relative target) = target := by
    simp [insideUploadRoot, and_assoc, ← List.isPrefixOf_iff_prefix]
  rw [hunfold]
  constructor
  · rintro ⟨hne, hstart, hclimb, -⟩
    by_cases hinside : root.Inside target
    · obtain ⟨names, hnames, htarget⟩ := hinside
      have hisName : ∀ name ∈ names, IsName name := fun name hname =>
        target.isName name (by simp [htarget, hname])
      rw [AbsolutePath.relative_of_append htarget] at hstart hclimb
      rw [climb_infix_joined_iff hisName] at hclimb
      exact ⟨names, hnames, htarget, hstart, fun name hname h => hclimb ⟨name, hname, h⟩⟩
    · rcases AbsolutePath.relative_of_not_inside hinside with h | h
      · exact absurd h hne
      · exact absurd h hstart
  · rintro ⟨names, hnames, htarget, hstart, hclimb⟩
    have hisName : ∀ name ∈ names, IsName name := fun name hname =>
      target.isName name (by simp [htarget, hname])
    have hresolve := AbsolutePath.resolve_relative ⟨names, hnames, htarget⟩
    rw [AbsolutePath.relative_of_append htarget] at hresolve ⊢
    rw [climb_infix_joined_iff hisName]
    exact ⟨joined_ne_nil hisName hnames, hstart, fun ⟨name, hname, h⟩ => hclimb name hname h,
      hresolve⟩

/-- `assertInsideUploadRoot`. -/
def assertInsideUploadRoot (uploadRoot targetPath : AbsolutePath) : Except HttpError Unit :=
  throwIf (!insideUploadRoot uploadRoot targetPath) (forbidden "Invalid upload path")

/-- `assertSafePathSegment`. -/
def assertSafePathSegment (value : String) : Except HttpError Unit :=
  throwIf (value.toList = [] ∨ ¬value.toList.all fun c => c.isAlphanum || c ∈ ['_', '-'])
    (forbidden "Invalid upload path")

/-! ### Writing -/

/-- What `randomUUID()` gives: hexadecimal digits and dashes. -/
structure Uuid where
  text : String
  chars : ∀ c ∈ text.toList, c.isDigit ∨ c ∈ ['a', 'b', 'c', 'd', 'e', 'f', '-']

/-- How a write ends. -/
inductive WriteOutcome where
  /-- The file is written. -/
  | done
  /-- The folder or the file could not be opened. -/
  | refused (e : HttpError)
  /-- The file was opened, and the write failed. -/
  | broken (e : HttpError)

/-- What the process finds around a request, for the image at each index. -/
structure Storage where
  root : AbsolutePath
  now : ℕ → ℕ
  uuid : ℕ → Uuid
  write : ℕ → WriteOutcome

variable (storage : Storage)

/-- The name of the file for the image at an index. -/
def Storage.fileName (index : ℕ) (mime : SupportedImageMime) : String :=
  toString (storage.now index) ++ "-" ++ (storage.uuid index).text ++ "." ++ mime.extension

/-- `targetPath`. -/
def Storage.targetPath (folder reportId fileName : String) : AbsolutePath :=
  (storage.root.resolveAll [folder.toList, reportId.toList]).resolve fileName.toList

/-- The parameters of `saveBase64Image`. -/
structure SaveParams where
  imageBase64 : String
  contentType : String
  folder : String
  reportId : String
  invalidSizeMessage : String

/-- `saveBase64Image` before it writes: the name of the file. -/
def checkedFileName (index : ℕ) (params : SaveParams) : Except HttpError String := do
  let (_, mime) ← decodeAndValidateBase64Image params.imageBase64 params.contentType
    params.invalidSizeMessage
  assertSafePathSegment params.folder
  assertSafePathSegment params.reportId
  let fileName := storage.fileName index mime
  assertInsideUploadRoot storage.root
    (storage.root.resolveAll [params.folder.toList, params.reportId.toList])
  assertInsideUploadRoot storage.root (storage.targetPath params.folder params.reportId fileName)
  return fileName

/-- `saveBase64Image`. -/
def saveBase64Image (index : ℕ) (params : SaveParams) (files : List AbsolutePath) :
    List AbsolutePath × Except HttpError SavedEvidenceFile :=
  match checkedFileName storage index params with
  | .error e => (files, .error e)
  | .ok fileName =>
    let targetPath := storage.targetPath params.folder params.reportId fileName
    let imagePath := String.ofList
      (join [params.folder.toList, params.reportId.toList, fileName.toList])
    match storage.write index with
    | .refused e => (files, .error e)
    | .broken e => (files.insert targetPath, .error e)
    | .done => (files.insert targetPath, .ok ⟨imagePath, "/uploads/" ++ imagePath⟩)

variable {storage} {index : ℕ} {params : SaveParams}

/-! ### What is checked -/

theorem assertSafePathSegment_eq_ok {value : String} :
    assertSafePathSegment value = .ok ⟨⟩ ↔
      value.toList ≠ [] ∧ ∀ c ∈ value.toList, c.isAlphanum ∨ c = '_' ∨ c = '-' := by
  simp only [assertSafePathSegment, throwIf_eq_ok, not_or, not_not, List.all_eq_true]
  refine and_congr_right fun _ => forall₂_congr fun c _ => ?_
  simp

/-- A safe segment is a name. -/
theorem isName_of_safe {value : String} (h : assertSafePathSegment value = .ok ⟨⟩) :
    IsName value.toList := by
  obtain ⟨hne, hchars⟩ := assertSafePathSegment_eq_ok.mp h
  have hdot : '.' ∉ value.toList := fun hmem => by simpa using hchars _ hmem
  refine ⟨hne, ?_, ?_, fun hmem => by simpa using hchars _ hmem⟩
  · exact fun heq => hdot (by simp [heq])
  · exact fun heq => hdot (by simp [heq])

theorem checkedFileName_eq_ok {fileName : String}
    (h : checkedFileName storage index params = .ok fileName) :
    (∃ mime, fileName = storage.fileName index mime) ∧
      assertSafePathSegment params.folder = .ok ⟨⟩ ∧
      assertSafePathSegment params.reportId = .ok ⟨⟩ ∧
      insideUploadRoot storage.root
        (storage.targetPath params.folder params.reportId fileName) := by
  obtain ⟨⟨buffer, mime⟩, -, h⟩ := bind_eq_ok.mp h
  simp only [check_bind_eq_ok, pure_eq_ok] at h
  obtain ⟨hfolder, hreport, -, htarget, rfl⟩ := h
  rw [assertInsideUploadRoot, throwIf_eq_ok, Bool.not_eq_true', Bool.not_eq_false] at htarget
  exact ⟨⟨mime, rfl⟩, hfolder, hreport, htarget⟩

/-! ### The names of files -/

theorem fileName_toList (index : ℕ) (mime : SupportedImageMime) :
    (storage.fileName index mime).toList =
      Nat.toDigits 10 (storage.now index) ++ '-' :: ((storage.uuid index).text.toList ++
        '.' :: mime.extension.toList) := by
  simp [Storage.fileName]

/-- The characters of a file name. -/
theorem fileName_chars {mime : SupportedImageMime} {c : Char}
    (hc : c ∈ (storage.fileName index mime).toList) : c.isAlphanum ∨ c = '-' ∨ c = '.' := by
  have hhex : ∀ c ∈ ['a', 'b', 'c', 'd', 'e', 'f', '-'], c.isAlphanum ∨ c = '-' ∨ c = '.' :=
    List.all_iff_forall_prop.mp (by decide)
  rw [fileName_toList] at hc
  simp only [List.mem_append, List.mem_cons] at hc
  rcases hc with hdigit | rfl | huuid | rfl | hextension
  · have hdigit := Nat.isDigit_of_mem_toDigits (by decide) (by decide) hdigit
    simp [Char.isAlphanum, hdigit]
  · simp
  · rcases (storage.uuid index).chars c huuid with h | h
    · simp [Char.isAlphanum, h]
    · exact hhex c h
  · simp
  · have hmime : ∀ c ∈ mime.extension.toList, c.isAlphanum ∨ c = '-' ∨ c = '.' := by
      cases mime <;> exact List.all_iff_forall_prop.mp (by decide)
    exact hmime c hextension

/-- No word with an `r` occurs in a file name. -/
theorem r_notMem_fileName (index : ℕ) (mime : SupportedImageMime) :
    'r' ∉ (storage.fileName index mime).toList := by
  have hdigits : 'r' ∉ Nat.toDigits 10 (storage.now index) := fun hmem => by
    simpa using Nat.isDigit_of_mem_toDigits (by decide) (by decide) hmem
  have huuid : 'r' ∉ (storage.uuid index).text.toList := fun hmem => by
    simpa using (storage.uuid index).chars _ hmem
  have hextension : 'r' ∉ mime.extension.toList := by cases mime <;> decide
  simp [fileName_toList, hdigits, huuid, hextension]

theorem isName_fileName (index : ℕ) (mime : SupportedImageMime) :
    IsName (storage.fileName index mime).toList := by
  have hdash : '-' ∈ (storage.fileName index mime).toList := by simp [fileName_toList]
  refine ⟨?_, ?_, ?_, fun hmem => by simpa using fileName_chars hmem⟩
  · exact fun heq => by simp [heq] at hdash
  · exact fun heq => by simp [heq] at hdash
  · exact fun heq => by simp [heq] at hdash

/-- Two files of one name were given one identifier. -/
theorem uuid_of_fileName_eq {i j : ℕ} {mime mime' : SupportedImageMime}
    (h : storage.fileName i mime = storage.fileName j mime') :
    (storage.uuid i).text = (storage.uuid j).text := by
  have hdigits : ∀ n : ℕ, '-' ∉ Nat.toDigits 10 n := fun n hmem => by
    simpa using Nat.isDigit_of_mem_toDigits (by decide) (by decide) hmem
  have hdot : ∀ n, '.' ∉ (storage.uuid n).text.toList := fun n hmem => by
    simpa using (storage.uuid n).chars _ hmem
  have hlist := congrArg String.toList h
  rw [fileName_toList, fileName_toList] at hlist
  obtain ⟨-, hrest⟩ := append_cons_inj (hdigits _) (hdigits _) hlist
  exact String.toList_inj.mp (append_cons_inj (hdot i) (hdot j) hrest).1

end FixZone.UploadSecurityService

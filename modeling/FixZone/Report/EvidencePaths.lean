import FixZone.Security.UploadSecurity
import FixZone.Report.Visibility

/-!
# The paths of evidence files

What a report stores as the path or the address of its evidence is text, some of which a
client has sent. `extractLocalUploadPath` reads from it the path of a file below the upload
root, `protectedEvidenceUrl` makes a link of that path, and `openEvidenceFile` answers the
link. Every path extracted is made of names alone (`IsUploadPath`), so that decoding does
not change it, resolving it appends it to the root, and the link leads back to it.

`assertInsideUploadRoot` looks for `../` anywhere in the way from the root, and so it takes
the end of a name such as `a..` for a step up (`insideUploadRoot_iff`).
-/

namespace FixZone.ReportService

open Library PosixPath
open UploadSecurityService (insideUploadRoot insideUploadRoot_iff)

variable (cfg : Config) (env : Env) (s : Store)

/-! ### Links -/

/-- `EvidenceKind`. -/
inductive EvidenceKind where
  | reportEvidence | reportCompletion
  deriving DecidableEq

instance {P : EvidenceKind → Prop} [DecidablePred P] : Decidable (∀ kind, P kind) :=
  decidable_of_iff (P .reportEvidence ∧ P .reportCompletion)
    ⟨fun h kind => by cases kind; exacts [h.1, h.2], fun h => ⟨h _, h _⟩⟩

/-- The kind as the code writes it, which is also the folder of its files. -/
def EvidenceKind.text : EvidenceKind → String
  | .reportEvidence => "report-evidence"
  | .reportCompletion => "report-completion"

/-- The kind as the routes write it. -/
def EvidenceKind.route : EvidenceKind → String
  | .reportEvidence => "evidence"
  | .reportCompletion => "completion-evidence"

/-- `protectedEvidenceUrl`. -/
def protectedEvidenceUrl (reportId : String) (kind : EvidenceKind) (value : Option String) :
    Option String := do
  let path ← extractLocalUploadPath cfg value
  match path.toList.splitOn '/' with
  | [folder, owner, fileName] =>
    if folder = kind.text.toList ∧ owner = reportId.toList then
      some ("/api/report/" ++ reportId ++ "/" ++ kind.route ++ "/" ++ String.ofList fileName)
    else none
  | _ => none

/-- The handler that a link reaches, with its parameters: `getReportEvidence` at
`:id/evidence/:fileName` or `getCompletionEvidence` at `:id/completion-evidence/:fileName`. -/
def evidenceRoute (link : String) : Option (EvidenceKind × String × String) :=
  match link.toList.splitOn '/' with
  | [[], api, controller, id, route, fileName] =>
    if api = "api".toList ∧ controller = "report".toList ∧ id ≠ [] ∧ fileName ≠ [] then
      ([.reportEvidence, .reportCompletion].find? fun kind => kind.route.toList = route).map
        fun kind => (kind, String.ofList (percentDecode id),
          String.ofList (percentDecode fileName))
    else none
  | _ => none

/-! ### Opening a file -/

/-- A character of `/^[A-Za-z0-9._~-]+$/`. -/
def isFileNameChar (c : Char) : Bool := c.isAlphanum || c ∈ ['.', '_', '~', '-']

/-- `assertSafeEvidenceFileName`. -/
def assertSafeEvidenceFileName (fileName : String) : Except HttpError Unit :=
  throwIf (fileName.toList ≠ basename fileName.toList ∨ fileName.toList = [] ∨
    ¬fileName.toList.all isFileNameChar) (notFound "Evidence not found")

/-- `contentTypeForEvidenceFile`. -/
def contentTypeForEvidenceFile (fileName : String) : Except HttpError String :=
  let extension := toLowerCase (String.ofList (extname fileName.toList))
  if extension = ".jpg" ∨ extension = ".jpeg" then .ok "image/jpeg"
  else if extension = ".png" then .ok "image/png"
  else if extension = ".webp" then .ok "image/webp"
  else .error (notFound "Evidence not found")

/-- `assertInsideUploadRoot`. -/
def assertInsideUploadRoot (uploadRoot targetPath : AbsolutePath) : Except HttpError Unit :=
  throwIf (!insideUploadRoot uploadRoot targetPath) (notFound "Evidence not found")

/-- `reportHasEvidencePath`. -/
def reportHasEvidencePath (report : Report) (kind : EvidenceKind) (expectedPath : String) : Bool :=
  let scalarPath := match kind with
    | .reportEvidence => extractLocalUploadPath cfg report.evidenceImagePath <|>
        extractLocalUploadPath cfg report.evidenceImageUrl
    | .reportCompletion => extractLocalUploadPath cfg report.completionImagePath <|>
        extractLocalUploadPath cfg report.completionImageUrl
  scalarPath = some expectedPath || s.evidenceRecords.any fun record =>
    let recordKind : EvidenceKind :=
      if record.kind = "report-completion" then .reportCompletion else .reportEvidence
    record.relatedEntityId = report.id && recordKind = kind &&
      (extractLocalUploadPath cfg (some record.imagePath) <|>
        extractLocalUploadPath cfg (some record.fileUrl)) = some expectedPath

/-- The path that `openEvidenceFile` looks up. -/
def evidencePath (kind : EvidenceKind) (reportId fileName : String) : String :=
  String.ofList (join [kind.text.toList, reportId.toList, fileName.toList])

/-- A file opened for reading. -/
structure OpenedEvidence where
  absolutePath : AbsolutePath
  fileName : String
  contentType : String

/-- `openEvidenceFile`, where `access` tells which files can be read. -/
def openEvidenceFile (uploadRoot : AbsolutePath) (access : AbsolutePath → Bool)
    (reportId : String) (kind : EvidenceKind) (fileName : String) (user : JwtUser) :
    Except HttpError OpenedEvidence := do
  assertSafeEvidenceFileName fileName
  let report ← orThrow (s.report? reportId) (notFound "Evidence not found")
  assertCanAccessEvidence env report user
  throwIf (!reportHasEvidencePath cfg s report kind (evidencePath kind reportId fileName))
    (notFound "Evidence not found")
  let absolutePath :=
    uploadRoot.resolveAll [kind.text.toList, reportId.toList, fileName.toList]
  assertInsideUploadRoot uploadRoot absolutePath
  throwIf (!access absolutePath) (notFound "Evidence not found")
  let contentType ← contentTypeForEvidenceFile fileName
  return { absolutePath, fileName, contentType }

variable {cfg env s}

/-! ### What is extracted -/

/-- The text that `extractLocalUploadPath` reads: the path of an address, and otherwise the
value itself with its backslashes turned. -/
def evidenceText (cfg : Config) (value : Option String) : List Char :=
  ((cfg.urlPathname (trimmed value)).map String.toList).getD
    ((trimmed value).toList.map fun c => if c = '\\' then '/' else c)

/-- A path that `extractLocalUploadPath` returns. -/
structure IsUploadPath (path : List Char) : Prop where
  folder : ∃ folder ∈ ["report-completion/", "report-evidence/", "demo/"], folder.toList <+: path
  segments : ∀ segment ∈ path.splitOn '/', segment ∉ [[], dot, dotDot]
  chars : ∀ c ∈ path, isFileNameChar c ∨ c = '/'

/-- The text without the slashes it starts with and without `uploads/`. -/
def localPart (text : List Char) : List Char :=
  let rooted := text.dropWhile (· = '/')
  if "uploads/".toList.isPrefixOf rooted then rooted.drop 8 else rooted

theorem pathTest_iff (path : List Char) :
    (["report-completion/", "report-evidence/", "demo/"].any
      (fun root => root.toList.isPrefixOf path) &&
      (path.splitOn '/').all (fun segment => segment ∉ [[], ['.'], ['.', '.']]) &&
      path.all (fun c => c.isAlphanum || c ∈ ['.', '_', '~', '/', '-'])) ↔ IsUploadPath path := by
  have hchars : (path.all fun c => c.isAlphanum || c ∈ ['.', '_', '~', '/', '-']) ↔
      ∀ c ∈ path, isFileNameChar c ∨ c = '/' := by
    simp only [List.all_eq_true, isFileNameChar]
    refine forall₂_congr fun c _ => ?_
    simp
    tauto
  rw [Bool.and_eq_true, Bool.and_eq_true, hchars, List.any_eq_true, List.all_eq_true]
  simp only [List.isPrefixOf_iff_prefix, decide_eq_true_eq]
  exact ⟨fun ⟨⟨h₁, h₂⟩, h₃⟩ => ⟨h₁, h₂, h₃⟩, fun h => ⟨⟨h.folder, h.segments⟩, h.chars⟩⟩

theorem isUploadPath_iff (path : List Char) :
    ((∃ folder ∈ ["report-completion/", "report-evidence/", "demo/"], folder.toList <+: path) ∧
      (∀ segment ∈ path.splitOn '/', segment ≠ [] ∧ segment ≠ dot ∧ segment ≠ dotDot) ∧
      path.all fun c => isFileNameChar c || c = '/') ↔ IsUploadPath path := by
  have hsegments : ∀ segment : List Char, segment ∉ [[], dot, dotDot] ↔
      segment ≠ [] ∧ segment ≠ dot ∧ segment ≠ dotDot := fun segment => by simp
  simp only [← hsegments, List.all_eq_true, Bool.or_eq_true, decide_eq_true_eq]
  exact ⟨fun ⟨h₁, h₂, h₃⟩ => ⟨h₁, h₂, h₃⟩, fun h => ⟨h.folder, h.segments, h.chars⟩⟩

instance (path : List Char) : Decidable (IsUploadPath path) :=
  decidable_of_iff _ (isUploadPath_iff path)

theorem extractLocalUploadPath_eq_some {value : Option String} {path : String} :
    extractLocalUploadPath cfg value = some path ↔
      trimmed value ≠ "" ∧ localPart (evidenceText cfg value) = path.toList ∧
        IsUploadPath path.toList := by
  have hunfold : extractLocalUploadPath cfg value =
      if trimmed value = "" then none
      else if IsUploadPath (localPart (evidenceText cfg value)) then
        some (String.ofList (localPart (evidenceText cfg value)))
      else none := by
    refine if_congr Iff.rfl rfl ?_
    exact if_congr (pathTest_iff _) rfl rfl
  rw [hunfold]
  split_ifs with hempty htest
  · simp [hempty]
  · rw [Option.some_inj, ← String.toList_inj, String.toList_ofList]
    exact ⟨fun h => ⟨hempty, h, h ▸ htest⟩, fun h => h.2.1⟩
  · simp only [false_iff]
    rintro ⟨-, h, hpath⟩
    exact htest (h ▸ hpath)

theorem isFileNameChar_ascii {c : Char} (h : isFileNameChar c) :
    45 ≤ c.toNat ∧ c.toNat ≤ 126 := by
  have hcode : isFileNameChar c = (((decide (c.val ≥ 'A'.val ∧ c.val ≤ 'Z'.val) ||
      (decide (c.val ≥ 'a'.val) && decide (c.val ≤ 'z'.val))) ||
      (decide (c.val ≥ '0'.val) && decide (c.val ≤ '9'.val))) ||
      decide (c ∈ ['.', '_', '~', '-'])) := rfl
  simp only [hcode, Bool.or_eq_true, Bool.and_eq_true, decide_eq_true_eq, ge_iff_le,
    UInt32.le_iff_toNat_le, List.mem_cons, List.not_mem_nil, or_false, Char.toNat_val] at h
  rcases h with ((⟨hlow, hhigh⟩ | ⟨hlow, hhigh⟩) | ⟨hlow, hhigh⟩) | rfl | rfl | rfl | rfl
  case inr.inl | inr.inr.inl | inr.inr.inr.inl | inr.inr.inr.inr => decide
  all_goals
    simp at hlow hhigh
    omega

theorem isJsSpace_of_isFileNameChar {c : Char} (h : isFileNameChar c) : isJsSpace c = false := by
  have hascii := isFileNameChar_ascii h
  simp [isJsSpace]
  omega

/-! ### Names -/

namespace IsUploadPath

variable {path : List Char}

/-- The path, segment by segment, is made of names. -/
theorem isName (h : IsUploadPath path) : ∀ name ∈ path.splitOn '/', IsName name := by
  intro name hname
  have hsegment := h.segments name hname
  simp only [List.mem_cons, List.not_mem_nil, or_false, not_or] at hsegment
  exact ⟨hsegment.1, hsegment.2.1, hsegment.2.2, slash_notMem_of_mem_splitOn name hname⟩

theorem head (h : IsUploadPath path) : path.head? = some 'r' ∨ path.head? = some 'd' := by
  obtain ⟨folder, hfolder, tail, rfl⟩ := h.folder
  simp only [List.mem_cons, List.not_mem_nil, or_false] at hfolder
  rcases hfolder with rfl | rfl | rfl
  · exact .inl rfl
  · exact .inl rfl
  · exact .inr rfl

theorem notMem {c : Char} (h : IsUploadPath path) (hc : isFileNameChar c = false)
    (hslash : c ≠ '/') : c ∉ path := by
  intro hmem
  rcases h.chars c hmem with h | h
  · simp [hc] at h
  · exact hslash h

/-- Resolving the path appends its names to the root. -/
theorem resolve_names (h : IsUploadPath path) (root : AbsolutePath) :
    (root.resolve path).names = root.names ++ path.splitOn '/' := by
  conv_lhs => rw [← joined_splitOn path]
  exact AbsolutePath.resolve_joined h.isName (List.splitOn_ne_nil '/' path)

theorem inside_resolve (h : IsUploadPath path) (root : AbsolutePath) :
    root.Inside (root.resolve path) :=
  ⟨path.splitOn '/', List.splitOn_ne_nil '/' path, h.resolve_names root⟩

/-- Decoding the path, however often, gives the path. -/
theorem percentDecode (h : IsUploadPath path) (n : ℕ) : Library.percentDecode^[n] path = path :=
  percentDecode_iterate_of_notMem (h.notMem rfl (by decide)) n

/-- The path is what `extractLocalUploadPath` reads in the path itself. -/
theorem localPart_eq (h : IsUploadPath path) : localPart path = path := by
  have hdrop : path.dropWhile (· = '/') = path := by
    rcases path with _ | ⟨c, rest⟩
    · rfl
    · have hc := h.head
      simp only [List.head?_cons, Option.some_inj] at hc
      rcases hc with rfl | rfl <;> rfl
  have hprefix : "uploads/".toList.isPrefixOf path = false := by
    rcases path with _ | ⟨c, rest⟩
    · rfl
    · have hc := h.head
      simp only [List.head?_cons, Option.some_inj] at hc
      rcases hc with rfl | rfl <;> rfl
  simp only [localPart, hdrop, hprefix, Bool.false_eq_true, if_false]

theorem not_dotDot_prefix (h : IsUploadPath path) : ¬dotDot <+: path := by
  rintro ⟨rest, rfl⟩
  simpa using h.head

/-- A segment of the path is a safe file name. -/
theorem assertSafeEvidenceFileName_eq_ok (h : IsUploadPath path) {fileName : List Char}
    (hname : fileName ∈ path.splitOn '/') :
    assertSafeEvidenceFileName (String.ofList fileName) = .ok ⟨⟩ := by
  have hisName := h.isName fileName hname
  have hchars : ∀ c ∈ fileName, isFileNameChar c := by
    intro c hc
    have hmem : c ∈ path := joined_splitOn path ▸ mem_joined hname hc
    exact (h.chars c hmem).resolve_right fun hslash => hisName.slash (hslash ▸ hc)
  rw [assertSafeEvidenceFileName, throwIf_eq_ok]
  simpa [basename_of_isName hisName, hisName.ne_nil] using hchars

end IsUploadPath

/-- Whoever opens a file opens one below the root. -/
theorem openEvidenceFile_inside {root : AbsolutePath} {access : AbsolutePath → Bool}
    {reportId fileName : String} {kind : EvidenceKind} {user : JwtUser} {opened : OpenedEvidence}
    (h : openEvidenceFile cfg env s root access reportId kind fileName user = .ok opened) :
    root.Inside opened.absolutePath := by
  unfold openEvidenceFile at h
  simp only [check_bind_eq_ok, orThrow_bind_eq_ok] at h
  obtain ⟨-, report, -, -, -, hinside, -, h⟩ := h
  obtain ⟨contentType, -, h⟩ := bind_eq_ok.mp h
  obtain rfl := pure_eq_ok.mp h
  rw [assertInsideUploadRoot, throwIf_eq_ok, Bool.not_eq_true', Bool.not_eq_false] at hinside
  obtain ⟨names, hnames, htarget, -⟩ := insideUploadRoot_iff.mp hinside
  exact ⟨names, hnames, htarget⟩

/-! ### The link of a path -/

theorem protectedEvidenceUrl_eq_some {reportId link : String} {kind : EvidenceKind}
    {value : Option String} (h : protectedEvidenceUrl cfg reportId kind value = some link) :
    ∃ path, extractLocalUploadPath cfg value = some path ∧ ∃ fileName,
      path.toList.splitOn '/' = [kind.text.toList, reportId.toList, fileName] ∧
      link = "/api/report/" ++ reportId ++ "/" ++ kind.route ++ "/" ++ String.ofList fileName := by
  unfold protectedEvidenceUrl at h
  rw [Option.bind_eq_bind, Option.bind_eq_some_iff] at h
  obtain ⟨path, hpath, h⟩ := h
  refine ⟨path, hpath, ?_⟩
  split at h
  · rename_i folder owner fileName hsplit
    split_ifs at h with hparts
    obtain ⟨rfl, rfl⟩ := hparts
    exact ⟨fileName, hsplit, (Option.some_inj.mp h).symm⟩
  · cases h

/-- The link reaches the handler of its kind, with the names it was made of. -/
theorem evidenceRoute_link {reportId : String} {kind : EvidenceKind} {fileName : List Char}
    (hid : IsName reportId.toList) (hidDecoded : '%' ∉ reportId.toList)
    (hname : IsName fileName) (hnameDecoded : '%' ∉ fileName) :
    evidenceRoute ("/api/report/" ++ reportId ++ "/" ++ kind.route ++ "/" ++
      String.ofList fileName) = some (kind, reportId, String.ofList fileName) := by
  have hroute : '/' ∉ kind.route.toList := by cases kind <;> decide
  have hkind : [EvidenceKind.reportEvidence, .reportCompletion].find?
      (fun other => other.route.toList = kind.route.toList) = some kind := by
    cases kind <;> decide
  have hlink : ("/api/report/" ++ reportId ++ "/" ++ kind.route ++ "/" ++
      String.ofList fileName).toList = ['/'].intercalate
        [[], "api".toList, "report".toList, reportId.toList, kind.route.toList, fileName] := by
    simp
  unfold evidenceRoute
  rw [hlink, List.splitOn_intercalate '/' (by simp [hid.slash, hroute, hname.slash]) (by simp)]
  simp [hid.ne_nil, hname.ne_nil, hkind, percentDecode_of_notMem, hidDecoded, hnameDecoded]

/-! ### The law of evidence paths -/

/-- What is promised of a path extracted from a value, whatever the upload root is. -/
structure StaysBelow (cfg : Config) (root : AbsolutePath) (value : Option String)
    (path : String) : Prop where
  /-- Its segments are names, also when it is decoded, once or more often. -/
  segments : ∀ n, ∀ segment ∈ (percentDecode^[n] path.toList).splitOn '/',
    segment ∉ [[], dot, dotDot]
  /-- It resolves to a path below the root. -/
  inside : root.Inside (root.resolve path.toList)
  /-- The check of the root lets it through. -/
  accepted : assertInsideUploadRoot root (root.resolve path.toList) = .ok ⟨⟩
  /-- It is the path extracted from itself. -/
  again : extractLocalUploadPath cfg (some path) = some path
  /-- A link made of the value is answered by looking up the path. -/
  link : ∀ reportId kind link, protectedEvidenceUrl cfg reportId kind value = some link →
    ∃ fileName, evidenceRoute link = some (kind, reportId, fileName) ∧
      assertSafeEvidenceFileName fileName = .ok ⟨⟩ ∧ evidencePath kind reportId fileName = path ∧
      root.resolveAll [kind.text.toList, reportId.toList, fileName.toList] =
        root.resolve path.toList

/-- No name but the last in the text, or in the path of the address, ends with `..`. -/
def NoDotsBeforeSlash (cfg : Config) (value : Option String) : Prop :=
  ∀ segment ∈ ((evidenceText cfg value).splitOn '/').dropLast, ¬dotDot <:+ segment

instance (cfg : Config) (value : Option String) : Decidable (NoDotsBeforeSlash cfg value) :=
  inferInstanceAs (Decidable (∀ segment ∈ _, ¬dotDot <:+ segment))

theorem splitOn_dropWhile_slash (text : List Char) : ∃ k,
    text.splitOn '/' = List.replicate k [] ++ (text.dropWhile (· = '/')).splitOn '/' := by
  induction text with
  | nil => exact ⟨0, rfl⟩
  | cons c text ih =>
    by_cases hc : c = '/'
    · obtain ⟨k, ih⟩ := ih
      refine ⟨k + 1, ?_⟩
      rw [List.splitOn_cons_eq_if_modifyHead]
      simp [hc, ih, List.replicate_succ]
    · exact ⟨0, by simp [hc]⟩

/-- What is left out of the text in front of the path are empty segments and `uploads`. -/
theorem splitOn_localPart (text : List Char) : ∃ lead : List Segment,
    (∀ segment ∈ lead, ¬dotDot <:+ segment) ∧
      text.splitOn '/' = lead ++ (localPart text).splitOn '/' := by
  obtain ⟨k, hsplit⟩ := splitOn_dropWhile_slash text
  by_cases huploads : "uploads/".toList.isPrefixOf (text.dropWhile (· = '/'))
  · obtain ⟨rest, hrest⟩ := List.isPrefixOf_iff_prefix.mp huploads
    have hlocal : localPart text = rest := by
      simp only [localPart, ← hrest]
      rfl
    refine ⟨List.replicate k [] ++ ["uploads".toList], ?_, ?_⟩
    · simp only [List.mem_append, List.mem_replicate, List.mem_singleton]
      rintro segment (⟨-, rfl⟩ | rfl) <;> decide
    · have hnext : ("uploads/".toList ++ rest).splitOn '/' =
          "uploads".toList :: rest.splitOn '/' :=
        List.splitOn_append_cons_self_of_not_mem (show '/' ∉ "uploads".toList by decide) rest
      rw [hsplit, hlocal, ← hrest, hnext]
      simp
  · refine ⟨List.replicate k [], ?_, ?_⟩
    · simp only [List.mem_replicate]
      rintro segment ⟨-, rfl⟩
      decide
    · simpa only [localPart, huploads, Bool.false_eq_true, if_false] using hsplit

theorem noDotsBeforeSlash_iff {value : Option String} {path : String}
    (h : extractLocalUploadPath cfg value = some path) :
    NoDotsBeforeSlash cfg value ↔
      ∀ segment ∈ (path.toList.splitOn '/').dropLast, ¬dotDot <:+ segment := by
  obtain ⟨-, hlocal, -⟩ := extractLocalUploadPath_eq_some.mp h
  obtain ⟨lead, hlead, hsplit⟩ := splitOn_localPart (evidenceText cfg value)
  rw [NoDotsBeforeSlash, hsplit, hlocal,
    List.dropLast_append_of_ne_nil (List.splitOn_ne_nil '/' path.toList)]
  simp only [List.mem_append]
  exact ⟨fun h segment hsegment => h segment (.inr hsegment),
    fun h segment hsegment => hsegment.elim (hlead segment) (h segment)⟩

namespace IsUploadPath

variable {path : String}

/-- A path extracted again is the path, since a text without a colon is no address. -/
theorem extractLocalUploadPath_eq (h : IsUploadPath path.toList)
    (hrelative : ∀ text : String, ':' ∉ text.toList → cfg.urlPathname text = none) :
    extractLocalUploadPath cfg (some path) = some path := by
  have htrim : trimmed (some path) = path := by
    have hspace : ∀ c ∈ path.toList, isJsSpace c = false := by
      intro c hc
      rcases h.chars c hc with hchar | rfl
      · exact isJsSpace_of_isFileNameChar hchar
      · decide
    rw [trimmed, Option.getD_some, trim, strip_of_forall hspace, String.ofList_toList]
  have hcolon : ':' ∉ path.toList := h.notMem rfl (by decide)
  have hbackslash : '\\' ∉ path.toList := h.notMem rfl (by decide)
  have htext : evidenceText cfg (some path) = path.toList := by
    rw [evidenceText, htrim, hrelative path hcolon, Option.map_none, Option.getD_none]
    refine (List.map_congr_left fun c hc => ?_).trans (List.map_id _)
    exact if_neg fun (hturned : c = '\\') => hbackslash (hturned ▸ hc)
  have hne : path ≠ "" := by
    rintro rfl
    simpa using h.head
  rw [extractLocalUploadPath_eq_some, htrim, htext]
  exact ⟨hne, h.localPart_eq, h⟩

/-- The link of the path leads back to it. -/
theorem link (h : IsUploadPath path.toList) {kind : EvidenceKind} {reportId : String}
    {fileName : List Char}
    (hsplit : path.toList.splitOn '/' = [kind.text.toList, reportId.toList, fileName])
    (root : AbsolutePath) :
    evidenceRoute ("/api/report/" ++ reportId ++ "/" ++ kind.route ++ "/" ++
        String.ofList fileName) = some (kind, reportId, String.ofList fileName) ∧
      assertSafeEvidenceFileName (String.ofList fileName) = .ok ⟨⟩ ∧
      evidencePath kind reportId (String.ofList fileName) = path ∧
      root.resolveAll [kind.text.toList, reportId.toList, fileName] = root.resolve path.toList := by
  have hnames := h.isName
  have hdecoded : ∀ name ∈ path.toList.splitOn '/', '%' ∉ name := fun name hname hmem =>
    h.notMem (c := '%') rfl (by decide) (joined_splitOn path.toList ▸ mem_joined hname hmem)
  have hsafe : assertSafeEvidenceFileName (String.ofList fileName) = .ok ⟨⟩ :=
    h.assertSafeEvidenceFileName_eq_ok (by simp [hsplit])
  have hjoined : joined [kind.text.toList, reportId.toList, fileName] = path.toList := by
    rw [← hsplit, joined_splitOn]
  have hresolve := h.resolve_names root
  rw [hsplit] at hnames hdecoded hresolve
  refine ⟨evidenceRoute_link (hnames _ (by simp)) (hdecoded _ (by simp)) (hnames _ (by simp))
    (hdecoded _ (by simp)), hsafe, ?_, ?_⟩
  · rw [evidencePath, String.toList_ofList, join_of_isName hnames (by simp), hjoined,
      String.ofList_toList]
  · exact AbsolutePath.ext_names
      ((AbsolutePath.resolveAll_of_isName hnames).trans hresolve.symm)

end IsUploadPath

/-- The check of the root on a path extracted. -/
theorem accepted_iff (root : AbsolutePath) {value : Option String} {path : String}
    (h : extractLocalUploadPath cfg value = some path) :
    assertInsideUploadRoot root (root.resolve path.toList) = .ok ⟨⟩ ↔
      NoDotsBeforeSlash cfg value := by
  obtain ⟨-, -, hpath⟩ := extractLocalUploadPath_eq_some.mp h
  rw [assertInsideUploadRoot, throwIf_eq_ok, Bool.not_eq_true', Bool.not_eq_false,
    insideUploadRoot_iff, noDotsBeforeSlash_iff h, hpath.resolve_names root]
  constructor
  · rintro ⟨names, -, htarget, -, hclimb⟩
    rwa [List.append_cancel_left htarget]
  · intro hclimb
    refine ⟨_, List.splitOn_ne_nil '/' path.toList, rfl, ?_, hclimb⟩
    rw [joined_splitOn]
    exact hpath.not_dotDot_prefix

/-- **Evidence paths stay below the upload root, and the check of the root lets them through
exactly when no name before the last ends with `..`.** -/
theorem evidence_path_law_iff
    (hrelative : ∀ text : String, ':' ∉ text.toList → cfg.urlPathname text = none)
    (root : AbsolutePath) {value : Option String} {path : String}
    (h : extractLocalUploadPath cfg value = some path) :
    StaysBelow cfg root value path ↔ NoDotsBeforeSlash cfg value := by
  obtain ⟨-, -, hpath⟩ := extractLocalUploadPath_eq_some.mp h
  have haccepted := accepted_iff root h
  constructor
  · exact fun hlaw => haccepted.mp hlaw.accepted
  · intro hdots
    refine ⟨fun n => ?_, hpath.inside_resolve root, haccepted.mpr hdots,
      hpath.extractLocalUploadPath_eq hrelative, ?_⟩
    · rw [hpath.percentDecode n]
      exact hpath.segments
    · intro reportId kind link hlink
      obtain ⟨path', hpath', fileName, hsplit, rfl⟩ := protectedEvidenceUrl_eq_some hlink
      obtain rfl := Option.some_inj.mp (hpath'.symm.trans h)
      obtain ⟨hroute, hsafe, hlookup, hresolve⟩ := hpath.link hsplit root
      exact ⟨String.ofList fileName, hroute, hsafe, hlookup, by simpa using hresolve⟩

/-! ### Examples -/

namespace Example

/-- The upload root of a deployment. -/
def uploadRoot : AbsolutePath := ⟨["srv".toList, "uploads".toList], by decide⟩

end Example

/-- A stored address whose names have no dots but those of the extension. -/
theorem evidence_path_law_photo :
    StaysBelow {} Example.uploadRoot (some "/uploads/report-evidence/r-1/photo.png")
      "report-evidence/r-1/photo.png" :=
  (evidence_path_law_iff (fun _ _ => rfl) Example.uploadRoot (by decide +kernel)).mpr
    (by decide +kernel)

/-- The folder `a..` is below the root, and the check of the root refuses it. -/
theorem folder_ending_in_dots_refused :
    extractLocalUploadPath {} (some "demo/a../b.png") = some "demo/a../b.png" ∧
      Example.uploadRoot.resolve "demo/a../b.png".toList =
        ⟨["srv".toList, "uploads".toList, "demo".toList, "a..".toList, "b.png".toList],
          by decide⟩ ∧
      assertInsideUploadRoot Example.uploadRoot
        (Example.uploadRoot.resolve "demo/a../b.png".toList) =
          .error (notFound "Evidence not found") ∧
      ¬StaysBelow {} Example.uploadRoot (some "demo/a../b.png") "demo/a../b.png" := by
  have hrefused : assertInsideUploadRoot Example.uploadRoot
      (Example.uploadRoot.resolve "demo/a../b.png".toList) =
        .error (notFound "Evidence not found") := by
    decide +kernel
  refine ⟨by decide +kernel, by decide +kernel, hrefused, fun hlaw => ?_⟩
  have haccepted := hlaw.accepted
  rw [hrefused] at haccepted
  cases haccepted

end FixZone.ReportService

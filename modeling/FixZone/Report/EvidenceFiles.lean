import FixZone.Report.EvidencePaths

/-!
# The files and the records of an upload

`uploadReportEvidence` and `uploadCompletionEvidence` write the images of a request one after
the other, each with its evidence record, and when one of them fails they delete the files that
have no record yet. The loop is modelled with the files of the disk: an image may be refused,
the disk may refuse the file or fill up while it is written, and the database may refuse the
record. The audit logs are left out.

The loop keeps `Tidy`: of the files on the disk, those that the request has written are those
its records name. What a failure leaves besides is one file, which `unpersistedFiles` holds and
the cleanup deletes, unless the write itself broke: a file is noted as unpersisted only when
`saveBase64Image` has returned (`upload_atomic_iff`).
-/

namespace FixZone.ReportService.EvidenceFiles

open Library PosixPath
open UploadSecurityService (Storage SaveParams WriteOutcome saveBase64Image checkedFileName
  insideUploadRoot)

/-! ### The uploads -/

/-- What an upload changes: the rows and the files. -/
structure World where
  store : Store
  files : List AbsolutePath

/-- What the process finds around an upload. `create` tells which evidence records the database
refuses, by the index of the image. -/
structure Site extends Storage where
  create : ℕ → Option HttpError

/-- What the two uploads do differently in the loop and after it. -/
structure Upload where
  kind : EvidenceKind
  reportId : String
  invalidSizeMessage : String
  assess : ℕ → Option HttpError
  record : ℕ → EvidenceImage → SavedEvidenceFile → EvidenceRecord
  finish : List SavedEvidenceFile → Action
  record_imagePath : ∀ index image saved, (record index image saved).imagePath = saved.imagePath :=
    by intros; rfl
  record_fileUrl : ∀ index image saved, (record index image saved).fileUrl = saved.imageUrl :=
    by intros; rfl
  record_reportId : ∀ index image saved, (record index image saved).relatedEntityId = reportId :=
    by intros; rfl

/-- The variables of the loop. -/
structure Progress where
  files : List AbsolutePath
  records : List EvidenceRecord
  unpersistedFiles : List SavedEvidenceFile := []
  savedItems : List SavedEvidenceFile := []

variable (cfg : Config) (env : Env) (site : Site)

/-- The parameters of `saveBase64Image`. -/
def Upload.saveParams (upload : Upload) (image : EvidenceImage) : SaveParams where
  imageBase64 := image.imageBase64.getD ""
  contentType := image.contentType.getD ""
  folder := upload.kind.text
  reportId := upload.reportId
  invalidSizeMessage := upload.invalidSizeMessage

/-- The body of the loop, with the exception that ends it. -/
def uploadImage (upload : Upload) (index : ℕ) (image : EvidenceImage) (p : Progress) :
    Progress × Option HttpError :=
  match upload.assess index with
  | some e => (p, some e)
  | none =>
    match saveBase64Image site.toStorage index (upload.saveParams image) p.files with
    | (files, .error e) => ({ p with files }, some e)
    | (files, .ok saved) =>
      match site.create index with
      | some e => ({ p with files, unpersistedFiles := p.unpersistedFiles ++ [saved] }, some e)
      | none =>
        ({ p with
            files
            records := p.records ++ [upload.record index image saved]
            unpersistedFiles := (p.unpersistedFiles ++ [saved]).erase saved
            savedItems := p.savedItems ++ [saved] }, none)

/-- The loop over the images. -/
def uploadImages (upload : Upload) :
    ℕ → List EvidenceImage → Progress → Progress × Option HttpError
  | _, [], p => (p, none)
  | index, image :: images, p =>
    match uploadImage site upload index image p with
    | (p, some e) => (p, some e)
    | (p, none) => uploadImages upload (index + 1) images p

/-- `cleanupUnpersistedEvidenceFile`, where the deletion of a file succeeds. -/
def cleanupUnpersistedEvidenceFile (files : List AbsolutePath) (file : SavedEvidenceFile) :
    List AbsolutePath :=
  match extractLocalUploadPath cfg (some file.imagePath) with
  | none => files
  | some path =>
    let absolutePath := site.root.resolve path.toList
    if insideUploadRoot site.root absolutePath then files.filter (· ≠ absolutePath) else files

/-- `cleanupUnpersistedEvidenceFiles`. -/
def cleanupUnpersistedEvidenceFiles (unpersistedFiles : List SavedEvidenceFile)
    (files : List AbsolutePath) : List AbsolutePath :=
  unpersistedFiles.foldl (cleanupUnpersistedEvidenceFile cfg site) files

/-- What follows the loop: the cleanup after an exception, and otherwise the last write. -/
def afterLoop (upload : Upload) (s : Store) : Progress × Option HttpError → World × Option HttpError
  | (p, some e) =>
    ({ store := { s with evidenceRecords := p.records }
       files := cleanupUnpersistedEvidenceFiles cfg site p.unpersistedFiles p.files }, some e)
  | (p, none) =>
    let outcome := perform env { s with evidenceRecords := p.records } (upload.finish p.savedItems)
    ({ store := outcome.store, files := p.files }, outcome.error)

/-- An upload, once its checks have passed. -/
def runUpload (upload : Upload) (images : List EvidenceImage) (w : World) :
    World × Option HttpError :=
  afterLoop cfg env site upload w.store
    (uploadImages site upload 0 images ⟨w.files, w.store.evidenceRecords, [], []⟩)

/-- What `uploadReportEvidence` reads before it asks for the limit. -/
def reportUploadReads (s : Store) (reportId : String) (dto : UploadEvidenceDto)
    (user : JwtUser) : Except HttpError (Report × List EvidenceImage) := do
  throwIf (user.role ≠ .citizen) (forbidden "Only citizens can upload report evidence")
  let report ← orThrow (s.report? reportId) (notFound "Report not found")
  throwIf (report.citizenId ≠ user.getUserId) (forbidden "Not your report")
  let images ← reportEvidencePayloads dto
  return (report, images)

/-- What `uploadReportEvidence` checks before it stores anything. -/
def reportUploadChecks (s : Store) (reportId : String) (dto : UploadEvidenceDto)
    (user : JwtUser) : Except HttpError (Report × List EvidenceImage) := do
  let (report, images) ← reportUploadReads s reportId dto user
  assertEvidenceLimit s reportId "report-evidence" 5
    "You can upload up to 5 report evidence images."
    images.length
  return (report, images)

/-- The loop of `uploadReportEvidence` and the update after it. -/
def reportUpload (reportId : String) (user : JwtUser) (report : Report) : Upload where
  kind := .reportEvidence
  reportId := reportId
  invalidSizeMessage := "Invalid report image size"
  assess _ := none
  record index image saved :=
    { relatedEntityId := reportId, organizationId := report.organizationId,
      ownerUserId := user.getUserId
      uploadedById := user.getUserId, fileUrl := saved.imageUrl, fileType :=
      image.contentType.getD ""
      description := "Citizen report evidence", kind := "report-evidence"
      evidenceType := "CITIZEN_REPORT", imagePath := saved.imagePath, order :=
      image.order.getD index }
  finish savedItems :=
    let firstSaved :=
      if truthy report.evidenceImagePath || truthy report.evidenceImageUrl then none else
        savedItems.head?
    .update reportId none (evidenceImageData firstSaved) fun _ =>
      [uploadActivity user "REPORT_EVIDENCE_UPLOADED" report none]

/-- `uploadReportEvidence`. -/
def uploadReportEvidence (reportId : String) (dto : UploadEvidenceDto) (user : JwtUser)
    (w : World) : World × Option HttpError :=
  match reportUploadChecks w.store reportId dto user with
  | .error e => (w, some e)
  | .ok (report, images) => runUpload cfg env site (reportUpload reportId user report) images w

/-- What `uploadCompletionEvidence` reads before it asks for the limit. -/
def completionUploadReads (s : Store) (reportId : String) (dto : UploadEvidenceDto)
    (user : JwtUser) : Except HttpError (Report × List EvidenceImage) := do
  throwIf (!user.isProvider) (forbidden "Only providers allowed")
  assertActiveProvider env user.getUserId
  let report ← orThrow (s.report? reportId) (notFound "Report not found")
  throwIf (report.assignedProviderId ≠ some user.getUserId) (forbidden "Not your report")
  assertProviderCanAccessReport env user report
  throwIf (report.status ≠ .inProgress)
    (forbidden "Only in-progress jobs can receive completion evidence")
  let images ← completionEvidencePayloads dto
  return (report, images)

/-- What `uploadCompletionEvidence` checks before it stores anything. -/
def completionUploadChecks (s : Store) (reportId : String) (dto : UploadEvidenceDto)
    (user : JwtUser) : Except HttpError (Report × List EvidenceImage) := do
  let (report, images) ← completionUploadReads env s reportId dto user
  assertEvidenceLimit s reportId "report-completion" 10
    "You can upload up to 10 completion evidence images."
    images.length
  return (report, images)

/-- The loop of `uploadCompletionEvidence` and the update after it. -/
def completionUpload (reportId : String) (user : JwtUser) (report : Report) : Upload where
  kind := .reportCompletion
  reportId := reportId
  invalidSizeMessage := "Invalid completion image size"
  assess := env.assessCompletion
  record index image saved :=
    { relatedEntityId := reportId, organizationId := report.organizationId,
      ownerUserId := report.citizenId
      uploadedById := user.getUserId, fileUrl := saved.imageUrl, fileType :=
      image.contentType.getD ""
      description := "Provider completion evidence", kind := "report-completion"
      evidenceType := providerEvidenceType image.classification, imagePath := saved.imagePath
      order := image.order.getD index }
  finish savedItems :=
    let activity :=
      uploadActivity user "COMPLETION_EVIDENCE_UPLOADED" report (some user.getUserId)
    match savedItems with
    | firstSaved :: _ =>
      if truthy report.completionImagePath || truthy report.completionImageUrl then
        .emit [activity]
      else .update reportId none (completionImageData firstSaved) fun _ => [activity]
    | [] => .emit [activity]

/-- `uploadCompletionEvidence`. -/
def uploadCompletionEvidence (reportId : String) (dto : UploadEvidenceDto) (user : JwtUser)
    (w : World) : World × Option HttpError :=
  match completionUploadChecks env w.store reportId dto user with
  | .error e => (w, some e)
  | .ok (report, images) =>
    runUpload cfg env site (completionUpload env reportId user report) images w

variable {cfg env site} {upload : Upload} {index : ℕ} {image : EvidenceImage}

/-! ### What becomes of an image -/

/-- What becomes of an image in the loop. -/
inductive Fate where
  /-- Nothing of it is on the disk. -/
  | refused
  /-- The write failed after the file was opened. -/
  | broken
  /-- The file is written and the database refuses its record. -/
  | unrecorded
  /-- The file is written and has its record. -/
  | stored
  deriving DecidableEq

/-- What becomes of the image at an index, if the loop comes to it. -/
def fate (site : Site) (upload : Upload) (index : ℕ) (image : EvidenceImage) : Fate :=
  match upload.assess index, checkedFileName site.toStorage index (upload.saveParams image) with
  | none, .ok _ =>
    match site.write index, site.create index with
    | .refused _, _ => .refused
    | .broken _, _ => .broken
    | .done, some _ => .unrecorded
    | .done, none => .stored
  | _, _ => .refused

/-- The first image that is not stored is one whose write breaks. -/
def breaks (site : Site) (upload : Upload) : ℕ → List EvidenceImage → Bool
  | _, [] => false
  | index, image :: images =>
    match fate site upload index image with
    | .stored => breaks site upload (index + 1) images
    | .broken => true
    | .refused | .unrecorded => false

/-- The file that the image at an index is written to. -/
def target (site : Site) (upload : Upload) (index : ℕ)
    (mime : UploadSecurityService.SupportedImageMime) : AbsolutePath :=
  site.targetPath upload.kind.text upload.reportId (site.fileName index mime)

/-- What a saved file says of the file on the disk. -/
structure SavedAt (site : Site) (upload : Upload) (index : ℕ) (saved : SavedEvidenceFile)
    (file : AbsolutePath) : Prop where
  target : ∃ mime, file = target site upload index mime
  path : IsUploadPath saved.imagePath.toList
  resolve : site.root.resolve saved.imagePath.toList = file
  inside : insideUploadRoot site.root file

/-- What the body of the loop can do, by what becomes of the image. -/
inductive ImageStep (site : Site) (upload : Upload) (index : ℕ) (image : EvidenceImage)
    (p : Progress) : Progress × Option HttpError → Prop
  | refused (e : HttpError) (hfate : fate site upload index image = .refused) :
    ImageStep site upload index image p (p, some e)
  | broken (e : HttpError) (mime : UploadSecurityService.SupportedImageMime)
      (hfate : fate site upload index image = .broken) :
    ImageStep site upload index image p
      ({ p with files := p.files.insert (target site upload index mime) }, some e)
  | unrecorded (e : HttpError) {saved : SavedEvidenceFile} {file : AbsolutePath}
      (hfate : fate site upload index image = .unrecorded)
      (hsaved : SavedAt site upload index saved file) :
    ImageStep site upload index image p ({ p with
      files := p.files.insert file
      unpersistedFiles := p.unpersistedFiles ++ [saved] }, some e)
  | stored {saved : SavedEvidenceFile} {file : AbsolutePath}
      (hfate : fate site upload index image = .stored)
      (hsaved : SavedAt site upload index saved file) :
    ImageStep site upload index image p ({ p with
      files := p.files.insert file
      records := p.records ++ [upload.record index image saved]
      unpersistedFiles := (p.unpersistedFiles ++ [saved]).erase saved
      savedItems := p.savedItems ++ [saved] }, none)

theorem EvidenceKind.isName_text (kind : EvidenceKind) : IsName kind.text.toList := by
  cases kind <;> decide

/-- The path of a file of the service is one that `extractLocalUploadPath` returns. -/
theorem isUploadPath_joined {kind : EvidenceKind} {reportId fileName : String}
    (hreport : UploadSecurityService.assertSafePathSegment reportId = .ok ⟨⟩)
    (hname : IsName fileName.toList) (hchars : ∀ c ∈ fileName.toList, isFileNameChar c) :
    IsUploadPath (joined [kind.text.toList, reportId.toList, fileName.toList]) := by
  have hreportName := UploadSecurityService.isName_of_safe hreport
  have hnames : ∀ name ∈ [kind.text.toList, reportId.toList, fileName.toList], IsName name := by
    simp [EvidenceKind.isName_text, hreportName, hname]
  refine ⟨⟨kind.text ++ "/", by cases kind <;> simp [EvidenceKind.text], ?_⟩, ?_, ?_⟩
  · simp [joined]
  · rw [splitOn_joined hnames (by simp)]
    intro segment hsegment
    have h := hnames segment hsegment
    simp [h.ne_nil, h.ne_dot, h.ne_dotDot]
  · have hkind : ∀ c ∈ kind.text.toList, isFileNameChar c := by
      cases kind <;> exact List.all_eq_true.mp (by decide)
    have hid : ∀ c ∈ reportId.toList, isFileNameChar c := by
      intro c hc
      have hsafe := (UploadSecurityService.assertSafePathSegment_eq_ok.mp hreport).2 c hc
      rcases hsafe with h | rfl | rfl
      · simp [isFileNameChar, h]
      · decide
      · decide
    simp only [joined_cons_cons, List.mem_append, List.mem_cons]
    rintro c (hc | rfl | hc | rfl | hc)
    · exact .inl (hkind c hc)
    · exact .inr rfl
    · exact .inl (hid c hc)
    · exact .inr rfl
    · exact .inl (hchars c (by simpa [joined] using hc))

theorem savedAt_of_checked {fileName : String}
    (h : checkedFileName site.toStorage index (upload.saveParams image) = .ok fileName) :
    SavedAt site upload index
      ⟨String.ofList (join [upload.kind.text.toList, upload.reportId.toList, fileName.toList]),
        "/uploads/" ++ String.ofList
          (join [upload.kind.text.toList, upload.reportId.toList, fileName.toList])⟩
      (site.targetPath upload.kind.text upload.reportId fileName) := by
  obtain ⟨⟨mime, rfl⟩, hfolder, hreport, hinside⟩ :=
    UploadSecurityService.checkedFileName_eq_ok h
  change UploadSecurityService.assertSafePathSegment upload.reportId = .ok ⟨⟩ at hreport
  have hname : IsName (site.fileName index mime).toList :=
    UploadSecurityService.isName_fileName index mime
  have hchars : ∀ c ∈ (site.fileName index mime).toList, isFileNameChar c := by
    intro c hc
    rcases UploadSecurityService.fileName_chars hc with h | rfl | rfl
    · simp [isFileNameChar, h]
    · decide
    · decide
  have hpath : IsUploadPath (joined [upload.kind.text.toList, upload.reportId.toList,
      (site.fileName index mime).toList]) := isUploadPath_joined hreport hname hchars
  have hnames : ∀ name ∈ [upload.kind.text.toList, upload.reportId.toList,
      (site.fileName index mime).toList], IsName name := by
    simp [EvidenceKind.isName_text, UploadSecurityService.isName_of_safe hreport, hname]
  have hjoin := join_of_isName hnames (by simp)
  refine ⟨⟨mime, rfl⟩, ?_, ?_, hinside⟩
  · simpa [hjoin] using hpath
  · refine AbsolutePath.ext_names ?_
    rw [String.toList_ofList, hjoin, AbsolutePath.resolve_joined hnames (by simp)]
    exact (AbsolutePath.resolveAll_of_isName hnames).symm

theorem uploadImage_step (p : Progress) :
    ImageStep site upload index image p (uploadImage site upload index image p) := by
  unfold uploadImage
  cases hassess : upload.assess index with
  | some e => exact .refused e (by simp [fate, hassess])
  | none =>
    unfold saveBase64Image
    cases hchecked : checkedFileName site.toStorage index (upload.saveParams image) with
    | error e => exact .refused e (by simp [fate, hassess, hchecked])
    | ok fileName =>
      have hsaved := savedAt_of_checked hchecked
      cases hwrite : site.write index with
      | refused e =>
        exact .refused e (by simp [fate, hassess, hchecked, hwrite])
      | broken e =>
        obtain ⟨mime, htarget⟩ := hsaved.target
        have hstep : ImageStep site upload index image p (_, some e) :=
          .broken e mime (by simp [fate, hassess, hchecked, hwrite])
        rwa [← htarget] at hstep
      | done =>
        cases hcreate : site.create index with
        | some e => exact .unrecorded e (by simp [fate, hassess, hchecked, hwrite, hcreate]) hsaved
        | none => exact .stored (by simp [fate, hassess, hchecked, hwrite, hcreate]) hsaved

/-! ### The invariant of the loop -/

/-- The file that a record names. -/
def recordFile (root : AbsolutePath) (record : EvidenceRecord) : AbsolutePath :=
  root.resolve record.imagePath.toList

/-- Since the request began, `recorded` has been recorded and these files have been written and
kept, no more and no less. -/
structure Tidy (root : AbsolutePath) (files₀ : List AbsolutePath) (records₀ : List EvidenceRecord)
    (files : List AbsolutePath) (records recorded : List EvidenceRecord) : Prop where
  records_eq : records = records₀ ++ recorded
  kept : ∀ file ∈ files₀, file ∈ files
  file_of_record : ∀ record ∈ recorded, recordFile root record ∈ files
  record_of_file : ∀ file ∈ files, file ∉ files₀ → ∃ record ∈ recorded,
    recordFile root record = file

/-- Nobody has been given the names the request is given, and it is given none twice. -/
structure Fresh (site : Site) (kind : EvidenceKind) (reportId : String)
    (files : List AbsolutePath) : Prop where
  uuid_inj : ∀ i j, (site.uuid i).text = (site.uuid j).text → i = j
  unused : ∀ index mime,
    site.targetPath kind.text reportId (site.fileName index mime) ∉ files

/-- Where the loop stands when it comes to the image at an index. -/
structure Before (site : Site) (upload : Upload) (files₀ : List AbsolutePath)
    (records₀ : List EvidenceRecord) (index : ℕ) (p : Progress)
    (recorded : List EvidenceRecord) : Prop extends
    Tidy site.root files₀ records₀ p.files p.records recorded where
  unpersisted : p.unpersistedFiles = []
  earlier : ∀ record ∈ recorded, ∃ i < index, ∃ mime,
    recordFile site.root record = target site upload i mime

variable {files₀ : List AbsolutePath} {records₀ recorded : List EvidenceRecord} {p : Progress}

theorem target_inj (hfresh : Fresh site upload.kind upload.reportId files₀) {i j : ℕ}
    {mime mime' : UploadSecurityService.SupportedImageMime}
    (h : target site upload i mime = target site upload j mime') : i = j := by
  have hnames := congrArg AbsolutePath.names h
  simp only [target, Storage.targetPath, AbsolutePath.resolve_of_isName
    (UploadSecurityService.isName_fileName _ _)] at hnames
  have hname : site.fileName i mime = site.fileName j mime' :=
    String.toList_inj.mp (by simpa using hnames)
  exact hfresh.uuid_inj i j (UploadSecurityService.uuid_of_fileName_eq hname)

/-- The file of the next image is not on the disk. -/
theorem Before.target_notMem (h : Before site upload files₀ records₀ index p recorded)
    (hfresh : Fresh site upload.kind upload.reportId files₀)
    (mime : UploadSecurityService.SupportedImageMime) :
    target site upload index mime ∉ p.files := by
  intro hmem
  obtain ⟨record, hrecord, hfile⟩ := h.record_of_file _ hmem (hfresh.unused index mime)
  obtain ⟨i, hi, mime', hearlier⟩ := h.earlier record hrecord
  exact absurd (target_inj hfresh (hearlier.symm.trans hfile)) (by omega)

/-- A record beside its file keeps the files and the records in step. -/
theorem Before.store (h : Before site upload files₀ records₀ index p recorded)
    {saved : SavedEvidenceFile} {file : AbsolutePath}
    (hsaved : SavedAt site upload index saved file) :
    Before site upload files₀ records₀ (index + 1) { p with
      files := p.files.insert file
      records := p.records ++ [upload.record index image saved]
      unpersistedFiles := (p.unpersistedFiles ++ [saved]).erase saved
      savedItems := p.savedItems ++ [saved] }
      (recorded ++ [upload.record index image saved]) := by
  have hfile : recordFile site.root (upload.record index image saved) = file := by
    rw [recordFile, upload.record_imagePath, hsaved.resolve]
  refine ⟨⟨?_, ?_, ?_, ?_⟩, ?_, ?_⟩
  · simp [h.records_eq]
  · exact fun other hother => List.mem_insert_of_mem (h.kept other hother)
  · simp only [List.mem_append, List.mem_singleton]
    rintro record (hrecord | rfl)
    · exact List.mem_insert_of_mem (h.file_of_record record hrecord)
    · exact hfile ▸ List.mem_insert_self
  · intro other hother hnew
    rcases List.mem_insert_iff.mp hother with rfl | hother
    · exact ⟨_, by simp, hfile⟩
    · obtain ⟨record, hrecord, heq⟩ := h.record_of_file other hother hnew
      exact ⟨record, by simp [hrecord], heq⟩
  · simp [h.unpersisted]
  · simp only [List.mem_append, List.mem_singleton]
    rintro record (hrecord | rfl)
    · obtain ⟨i, hi, mime, heq⟩ := h.earlier record hrecord
      exact ⟨i, by omega, mime, heq⟩
    · obtain ⟨mime, rfl⟩ := hsaved.target
      exact ⟨index, by omega, mime, hfile⟩

/-! ### The end of the loop -/

/-- The files that are left when the unpersisted ones have been deleted. -/
abbrev Progress.settled (cfg : Config) (site : Site) (p : Progress) : List AbsolutePath :=
  cleanupUnpersistedEvidenceFiles cfg site p.unpersistedFiles p.files

theorem Before.settled (h : Before site upload files₀ records₀ index p recorded) :
    p.settled cfg site = p.files := by
  simp [h.unpersisted, cleanupUnpersistedEvidenceFiles]

/-- The file of an image that could not be recorded is deleted. -/
theorem Before.cleanup (h : Before site upload files₀ records₀ index p recorded)
    (hrelative : ∀ text : String, ':' ∉ text.toList → cfg.urlPathname text = none)
    (hfresh : Fresh site upload.kind upload.reportId files₀)
    {saved : SavedEvidenceFile} {file : AbsolutePath}
    (hsaved : SavedAt site upload index saved file) :
    cleanupUnpersistedEvidenceFiles cfg site (p.unpersistedFiles ++ [saved])
      (p.files.insert file) = p.files := by
  obtain ⟨mime, hfile⟩ := hsaved.target
  have hnew : file ∉ p.files := hfile ▸ h.target_notMem hfresh mime
  have hextract := hsaved.path.extractLocalUploadPath_eq hrelative
  have hrest : p.files.filter (· ≠ file) = p.files :=
    List.filter_eq_self.mpr fun other hother => by
      simpa using fun heq : other = file => hnew (heq ▸ hother)
  simp only [h.unpersisted, List.nil_append, cleanupUnpersistedEvidenceFiles, List.foldl_cons,
    List.foldl_nil, cleanupUnpersistedEvidenceFile, hextract, hsaved.resolve, hsaved.inside,
    if_true, List.insert_of_not_mem hnew, List.filter_cons]
  simpa using hrest

/-- The file of a broken write is nobody's. -/
theorem Before.not_tidy (h : Before site upload files₀ records₀ index p recorded)
    (hfresh : Fresh site upload.kind upload.reportId files₀)
    (mime : UploadSecurityService.SupportedImageMime) (recorded' : List EvidenceRecord) :
    ¬Tidy site.root files₀ records₀ (p.files.insert (target site upload index mime)) p.records
      recorded' := by
  intro htidy
  obtain rfl := List.append_cancel_left (h.records_eq.symm.trans htidy.records_eq)
  obtain ⟨record, hrecord, hfile⟩ :=
    htidy.record_of_file _ List.mem_insert_self (hfresh.unused index mime)
  obtain ⟨i, hi, mime', hearlier⟩ := h.earlier record hrecord
  exact absurd (target_inj hfresh (hearlier.symm.trans hfile)) (by omega)

/-- **The loop, cleaned up, leaves files and records in step exactly when it does not stop at a
write that breaks.** -/
theorem uploadImages_tidy_iff
    (hrelative : ∀ text : String, ':' ∉ text.toList → cfg.urlPathname text = none)
    (hfresh : Fresh site upload.kind upload.reportId files₀) (images : List EvidenceImage)
    (h : Before site upload files₀ records₀ index p recorded) :
    (∃ recorded', Tidy site.root files₀ records₀
      ((uploadImages site upload index images p).1.settled cfg site)
      (uploadImages site upload index images p).1.records recorded') ↔
        breaks site upload index images = false := by
  induction images generalizing index p recorded with
  | nil =>
    have hsettled : p.settled cfg site = p.files := h.settled
    simp only [uploadImages, breaks, hsettled, iff_true]
    exact ⟨recorded, h.toTidy⟩
  | cons image images ih =>
    have hstep : ImageStep site upload index image p (uploadImage site upload index image p) :=
      uploadImage_step p
    unfold uploadImages breaks
    generalize uploadImage site upload index image p = result at hstep ⊢
    cases hstep with
    | refused e hfate =>
      have hsettled : p.settled cfg site = p.files := h.settled
      simp only [hfate, hsettled, iff_true]
      exact ⟨recorded, h.toTidy⟩
    | broken e mime hfate =>
      have hsettled : Progress.settled cfg site
          { p with files := p.files.insert (target site upload index mime) } =
            p.files.insert (target site upload index mime) := by
        simp [h.unpersisted, cleanupUnpersistedEvidenceFiles]
      simp only [hfate, hsettled, Bool.true_eq_false, iff_false, not_exists]
      exact h.not_tidy hfresh mime
    | unrecorded e hfate hsaved =>
      simp only [hfate, iff_true, Progress.settled, h.cleanup hrelative hfresh hsaved]
      exact ⟨recorded, h.toTidy⟩
    | stored hfate hsaved =>
      simp only [hfate]
      exact ih (h.store hsaved)

/-- A loop that ends by itself has recorded every file. -/
theorem uploadImages_unpersisted (images : List EvidenceImage)
    (h : p.unpersistedFiles = [])
    (hdone : (uploadImages site upload index images p).2 = none) :
    (uploadImages site upload index images p).1.unpersistedFiles = [] := by
  induction images generalizing index p with
  | nil => exact h
  | cons image images ih =>
    have hstep : ImageStep site upload index image p (uploadImage site upload index image p) :=
      uploadImage_step p
    unfold uploadImages at hdone ⊢
    generalize uploadImage site upload index image p = result at hstep hdone ⊢
    cases hstep with
    | refused | broken | unrecorded => cases hdone
    | stored => exact ih (by simp [h]) hdone

/-! ### Whole requests -/

/-- What follows the loop adds no evidence record, and changes no report if it fails. -/
structure Finishes (env : Env) (upload : Upload) : Prop where
  evidenceRecords : ∀ savedItems s,
    (perform env s (upload.finish savedItems)).store.evidenceRecords = s.evidenceRecords
  reports : ∀ savedItems s, (perform env s (upload.finish savedItems)).error ≠ none →
    (perform env s (upload.finish savedItems)).store.reports = s.reports

theorem runUpload_tidy_iff (hfinishes : Finishes env upload)
    (hrelative : ∀ text : String, ':' ∉ text.toList → cfg.urlPathname text = none)
    (images : List EvidenceImage) (w : World)
    (hfresh : Fresh site upload.kind upload.reportId w.files) :
    (∃ recorded, Tidy site.root w.files w.store.evidenceRecords
      (runUpload cfg env site upload images w).1.files
      (runUpload cfg env site upload images w).1.store.evidenceRecords recorded) ↔
        breaks site upload 0 images = false := by
  have hstart : Before site upload w.files w.store.evidenceRecords 0
      ⟨w.files, w.store.evidenceRecords, [], []⟩ [] :=
    ⟨⟨by simp, fun _ h => h, by simp, fun _ h hnew => absurd h hnew⟩, rfl, by simp⟩
  rw [← uploadImages_tidy_iff hrelative hfresh images hstart]
  have hdone : (uploadImages site upload 0 images ⟨w.files, w.store.evidenceRecords, [], []⟩).2 =
      none → (uploadImages site upload 0 images
        ⟨w.files, w.store.evidenceRecords, [], []⟩).1.unpersistedFiles = [] :=
    uploadImages_unpersisted images rfl
  unfold runUpload
  generalize uploadImages site upload 0 images ⟨w.files, w.store.evidenceRecords, [], []⟩ = result
    at hdone ⊢
  rcases result with ⟨p, _ | e⟩
  · have hunpersisted : p.unpersistedFiles = [] := hdone rfl
    have hsettled : p.settled cfg site = p.files := by
      simp [hunpersisted, cleanupUnpersistedEvidenceFiles]
    simp only [afterLoop, hfinishes.evidenceRecords, hsettled]
  · rfl

theorem runUpload_reports (hfinishes : Finishes env upload) (images : List EvidenceImage)
    (w : World) (hfailed : (runUpload cfg env site upload images w).2 ≠ none) :
    (runUpload cfg env site upload images w).1.store.reports = w.store.reports := by
  unfold runUpload at hfailed ⊢
  generalize uploadImages site upload 0 images ⟨w.files, w.store.evidenceRecords, [], []⟩ = result
    at hfailed ⊢
  rcases result with ⟨p, _ | e⟩
  · exact hfinishes.reports _ _ hfailed
  · rfl

/-- The upload of a kind. -/
def uploadEvidence (cfg : Config) (env : Env) (site : Site) :
    EvidenceKind → String → UploadEvidenceDto → JwtUser → World → World × Option HttpError
  | .reportEvidence => uploadReportEvidence cfg env site
  | .reportCompletion => uploadCompletionEvidence cfg env site

/-- What the upload of a kind checks. -/
def uploadChecks (env : Env) (s : Store) :
    EvidenceKind → String → UploadEvidenceDto → JwtUser →
      Except HttpError (Report × List EvidenceImage)
  | .reportEvidence => reportUploadChecks s
  | .reportCompletion => completionUploadChecks env s

/-- The loop of the upload of a kind. -/
def uploadOf (env : Env) : EvidenceKind → String → JwtUser → Report → Upload
  | .reportEvidence => reportUpload
  | .reportCompletion => completionUpload env

theorem uploadEvidence_eq (kind : EvidenceKind) (reportId : String) (dto : UploadEvidenceDto)
    (user : JwtUser) (w : World) :
    uploadEvidence cfg env site kind reportId dto user w =
      match uploadChecks env w.store kind reportId dto user with
      | .error e => (w, some e)
      | .ok (report, images) =>
        runUpload cfg env site (uploadOf env kind reportId user report) images w := by
  cases kind <;> rfl

theorem finishes_update (id : String) (data : Patch Report.id) (row : ReportActivity) (s : Store) :
    (perform env s (.update id none data fun _ => [.activity row])).store.evidenceRecords =
        s.evidenceRecords ∧
      ((perform env s (.update id none data fun _ => [.activity row])).error ≠ none →
        (perform env s (.update id none data fun _ => [.activity row])).store.reports =
          s.reports) := by
  simp only [perform]
  split
  · exact ⟨rfl, fun _ => rfl⟩
  · exact ⟨rfl, fun h => absurd rfl h⟩

theorem finishes_uploadOf (env env' : Env) (kind : EvidenceKind) (reportId : String)
    (user : JwtUser) (report : Report) :
    Finishes env' (uploadOf env kind reportId user report) := by
  have hfinish : ∀ savedItems s,
      (perform env' s
      ((uploadOf env kind reportId user report).finish savedItems)).store.evidenceRecords
          = s.evidenceRecords ∧
        ((perform env' s ((uploadOf env kind reportId user report).finish savedItems)).error ≠
          none →
          (perform env' s
          ((uploadOf env kind reportId user report).finish savedItems)).store.reports
            = s.reports) := by
    intro savedItems s
    cases kind with
    | reportEvidence => exact finishes_update _ _ _ s
    | reportCompletion =>
      simp only [uploadOf, completionUpload]
      rcases savedItems with _ | ⟨firstSaved, savedItems⟩
      · exact ⟨rfl, fun _ => rfl⟩
      · split_ifs
        · exact ⟨rfl, fun _ => rfl⟩
        · exact finishes_update _ _ _ s
  exact ⟨fun savedItems s => (hfinish savedItems s).1, fun savedItems s => (hfinish savedItems s).2⟩

/-- The upload passes its checks and stops at an image whose write breaks. -/
def stopsAtBrokenWrite (env : Env) (site : Site) (kind : EvidenceKind) (reportId : String)
    (dto : UploadEvidenceDto) (user : JwtUser) (w : World) : Bool :=
  match uploadChecks env w.store kind reportId dto user with
  | .error _ => false
  | .ok (report, images) => breaks site (uploadOf env kind reportId user report) 0 images

/-- What an upload promises for each of its files, however far it comes. -/
structure AtomicPerFile (root : AbsolutePath) (kind : EvidenceKind) (w : World)
    (result : World × Option HttpError) : Prop where
  /-- The request's files have records and its records have files; nothing earlier is lost. -/
  tidy : ∃ recorded, Tidy root w.files w.store.evidenceRecords result.1.files
    result.1.store.evidenceRecords recorded
  /-- A failed completion upload changes no report. -/
  reports : kind = .reportCompletion → result.2 ≠ none →
    result.1.store.reports = w.store.reports

/-- **An upload is atomic per file exactly when it does not stop at a write that breaks.** -/
theorem upload_atomic_iff
    (hrelative : ∀ text : String, ':' ∉ text.toList → cfg.urlPathname text = none)
    (kind : EvidenceKind) (reportId : String) (dto : UploadEvidenceDto) (user : JwtUser)
    (w : World) (hfresh : Fresh site kind reportId w.files) :
    AtomicPerFile site.root kind w (uploadEvidence cfg env site kind reportId dto user w) ↔
      stopsAtBrokenWrite env site kind reportId dto user w = false := by
  rw [uploadEvidence_eq, stopsAtBrokenWrite]
  rcases uploadChecks env w.store kind reportId dto user with e | ⟨report, images⟩
  · simp only [iff_true]
    exact ⟨⟨[], by simp, fun _ h => h, by simp, fun _ h hnew => absurd h hnew⟩, fun _ _ => rfl⟩
  · have hfinishes : Finishes env (uploadOf env kind reportId user report) :=
      finishes_uploadOf env env kind reportId user report
    have hfresh' : Fresh site (uploadOf env kind reportId user report).kind
        (uploadOf env kind reportId user report).reportId w.files := by
      cases kind <;> exact hfresh
    rw [← runUpload_tidy_iff hfinishes hrelative images w hfresh']
    exact ⟨fun h => h.tidy, fun h => ⟨h, fun _ => runUpload_reports hfinishes images w⟩⟩

/-! ### The uploads without their files

The uploads of the report service are these, seen without the disk: when the database takes
every record, and the answers given for the images are those of `saveBase64Image`, they write
the same rows. -/

/-- The answer of `saveBase64Image` for an image. -/
def savedImage (site : Site) (upload : Upload) (index : ℕ) (image : EvidenceImage) :
    Except HttpError SavedEvidenceFile :=
  (saveBase64Image site.toStorage index (upload.saveParams image) []).2

theorem saveBase64Image_snd (files : List AbsolutePath) :
    (saveBase64Image site.toStorage index (upload.saveParams image) files).2 =
      savedImage site upload index image := by
  unfold savedImage saveBase64Image
  cases checkedFileName site.toStorage index (upload.saveParams image) with
  | error e => rfl
  | ok fileName => cases site.write index <;> rfl

/-- What an upload writes after the files saved before. -/
def Upload.writes (upload : Upload) (before : List SavedEvidenceFile) :
    List Action × Except HttpError (List SavedEvidenceFile) → List Action
  | (actions, .error e) => actions ++ [.throw e]
  | (actions, .ok savedItems) => actions ++ [upload.finish (before ++ savedItems)]

/-- What a loop comes to, with the write after it. -/
def Upload.outcome (env : Env) (upload : Upload) (s : Store) :
    Progress × Option HttpError → Outcome
  | (p, some e) => ⟨{ s with evidenceRecords := p.records }, some e⟩
  | (p, none) => perform env { s with evidenceRecords := p.records } (upload.finish p.savedItems)

theorem runUpload_outcome {images : List EvidenceImage} {w : World} :
    upload.outcome env w.store
        (uploadImages site upload 0 images ⟨w.files, w.store.evidenceRecords, [], []⟩) =
      ⟨(runUpload cfg env site upload images w).1.store,
        (runUpload cfg env site upload images w).2⟩ := by
  unfold runUpload
  generalize uploadImages site upload 0 images ⟨w.files, w.store.evidenceRecords, [], []⟩ = result
  rcases result with ⟨p, _ | e⟩ <;> rfl

theorem performAll_singleton (env : Env) (action : Action) (s : Store) :
    performAll env [action] s = perform env s action := by
  rw [performAll, Outcome.andThen]
  rcases perform env s action with ⟨store, _ | e⟩ <;> rfl

theorem performAll_writes (hcreate : ∀ i, site.create i = none) {images : List EvidenceImage}
    (hsaves : ∀ k image, images[k]? = some image →
      env.saveImage (index + k) = savedImage site upload (index + k) image) (s : Store) :
    performAll env
        (upload.writes p.savedItems (saveImages env upload.assess upload.record index images))
        { s with evidenceRecords := p.records } =
      upload.outcome env s (uploadImages site upload index images p) := by
  induction images generalizing index p with
  | nil => simp [saveImages, uploadImages, Upload.writes, Upload.outcome, performAll_singleton]
  | cons image images ih =>
    have hsave : env.saveImage index = savedImage site upload index image := by
      simpa using hsaves 0 image rfl
    have hsaved : (saveBase64Image site.toStorage index (upload.saveParams image) p.files).2 =
        savedImage site upload index image := saveBase64Image_snd p.files
    unfold saveImages uploadImages uploadImage
    rw [hsave, ← hsaved]
    cases hassess : upload.assess index with
    | some e => rfl
    | none =>
      rcases saveBase64Image site.toStorage index (upload.saveParams image) p.files with
        ⟨files, e | saved⟩
      · rfl
      · have hrest : ∀ k other, images[k]? = some other →
            env.saveImage (index + 1 + k) = savedImage site upload (index + 1 + k) other := by
          intro k other hother
          have h := hsaves (k + 1) other hother
          rwa [show index + (k + 1) = index + 1 + k by omega] at h
        simp only [hcreate]
        rw [← ih hrest]
        rcases saveImages env upload.assess upload.record (index + 1) images with
          ⟨actions, e | savedItems⟩
        · rfl
        · simp only [Except.map, Upload.writes, List.append_assoc, List.singleton_append]
          rfl

/-- The upload of a kind, without its files. -/
def uploadRows (env : Env) (s : Store) :
    EvidenceKind → String → UploadEvidenceDto → JwtUser → Except HttpError (List Action)
  | .reportEvidence => ReportService.uploadReportEvidence env s
  | .reportCompletion => ReportService.uploadCompletionEvidence env s

theorem uploadRows_eq (env : Env) (s : Store) (kind : EvidenceKind) (reportId : String)
    (dto : UploadEvidenceDto) (user : JwtUser) :
    uploadRows env s kind reportId dto user =
      uploadChecks env s kind reportId dto user >>= fun (report, images) =>
        let upload := uploadOf env kind reportId user report
        .ok (upload.writes [] (saveImages env upload.assess upload.record 0 images)) := by
  cases kind with
  | reportEvidence =>
    simp only [uploadRows, uploadChecks, ReportService.uploadReportEvidence, reportUploadChecks,
      reportUploadReads, bind_assoc, pure_bind]
    refine bind_congr fun _ => bind_congr fun report => bind_congr fun _ => bind_congr fun images =>
      bind_congr fun _ => ?_
    simp only [uploadOf, reportUpload]
    rcases saveImages env (fun _ => none) _ 0 images with ⟨actions, e | savedItems⟩ <;> rfl
  | reportCompletion =>
    simp only [uploadRows, uploadChecks, ReportService.uploadCompletionEvidence,
      completionUploadChecks, completionUploadReads, bind_assoc, pure_bind]
    refine bind_congr fun _ => bind_congr fun _ => bind_congr fun report => bind_congr fun _ =>
      bind_congr fun _ => bind_congr fun _ => bind_congr fun images => bind_congr fun _ => ?_
    simp only [uploadOf, completionUpload]
    rcases saveImages env env.assessCompletion _ 0 images with
      ⟨actions, e | _ | ⟨firstSaved, savedItems⟩⟩
    · rfl
    · rfl
    · simp only [Upload.writes, List.nil_append]
      split_ifs <;> rfl

/-- An upload with its files writes the rows of the upload without them. -/
theorem uploadEvidence_commit (hcreate : ∀ i, site.create i = none) (kind : EvidenceKind)
    (reportId : String) (dto : UploadEvidenceDto) (user : JwtUser) (w : World)
    (hsaves : ∀ report images, uploadChecks env w.store kind reportId dto user =
      .ok (report, images) →
      ∀ index image, images[index]? = some image →
        env.saveImage index = savedImage site
        (uploadOf env kind reportId user report) index image) :
    commit env w.store (uploadRows env w.store kind reportId dto user) =
      ⟨(uploadEvidence cfg env site kind reportId dto user w).1.store,
        (uploadEvidence cfg env site kind reportId dto user w).2⟩ := by
  rw [uploadRows_eq, uploadEvidence_eq]
  rcases hchecks : uploadChecks env w.store kind reportId dto user with e | ⟨report, images⟩
  · rfl
  · have hanswers : ∀ k image, images[k]? = some image → env.saveImage (0 + k) =
        savedImage site (uploadOf env kind reportId user report) (0 + k) image := by
      simpa using hsaves report images hchecks
    exact (performAll_writes hcreate hanswers w.store).trans runUpload_outcome

/-! ### Examples -/

namespace Example

/-- The report of a citizen. -/
def report : Report where
  id := "report-1"
  category := "Roads"
  organizationId := "org-1"
  citizenId := "citizen-1"

/-- The rows before an upload. -/
def world : World where
  store := { Store.empty with reports := (Table.empty Report.id).insert report }
  files := []

/-- The citizen. -/
def citizen : JwtUser := { id := "citizen-1", role := .citizen }

/-- A picture: the first three bytes of a JPEG. -/
def picture : EvidenceImage where
  contentType := some "image/jpeg"
  imageBase64 := some "/9j/"

/-- Two pictures. -/
def pictures : UploadEvidenceDto := { images := [picture, picture] }

/-- A deployment, by how the writes and the records of its images end. -/
def siteWith (write : ℕ → WriteOutcome) (create : ℕ → Option HttpError) : Site where
  root := ReportService.Example.uploadRoot
  now _ := 1700000000000
  uuid index := ⟨String.ofList (List.replicate (index + 1) 'a'), by simp +decide⟩
  write
  create

/-- The database refuses the record of the second image. -/
def secondUnrecorded : Site := siteWith (fun _ => .done) fun index =>
  if index = 1 then some { kind := .internal, message := "EvidenceRecord insert failed" } else none

/-- The disk fills up while the second image is written. -/
def diskFull : Site := siteWith
  (fun index => if index = 1 then .broken { kind := .internal, message := "ENOSPC" } else .done)
  fun _ => none

/-- The file of the picture at an index. -/
def file (name : String) : AbsolutePath :=
  ReportService.Example.uploadRoot.resolve ("report-evidence/report-1/" ++ name).toList

end Example

/-- The first image keeps its file and its record, and of the second nothing is left. -/
theorem upload_atomic_unrecorded :
    AtomicPerFile Example.secondUnrecorded.root .reportEvidence Example.world
      (uploadEvidence {} {} Example.secondUnrecorded .reportEvidence "report-1" Example.pictures
        Example.citizen Example.world) :=
  (upload_atomic_iff (fun _ _ => rfl) .reportEvidence "report-1" Example.pictures Example.citizen
    Example.world
    ⟨fun i j h =>
      by simpa [Example.secondUnrecorded, Example.siteWith] using congrArg String.length h,
      fun _ _ h => by cases h⟩).mpr (by decide +kernel)

/-- The disk fills up while the second image is written: the rest of its file stays on the disk,
and no record names it. -/
theorem broken_write_leaves_file :
    let result := uploadEvidence {} {} Example.diskFull .reportEvidence "report-1"
      Example.pictures Example.citizen Example.world
    result.2 = some { kind := .internal, message := "ENOSPC" } ∧
      result.1.files = [Example.file "1700000000000-aa.jpg", Example.file "1700000000000-a.jpg"] ∧
      result.1.store.evidenceRecords.map (recordFile Example.diskFull.root) =
        [Example.file "1700000000000-a.jpg"] ∧
      ¬AtomicPerFile Example.diskFull.root .reportEvidence Example.world result := by
  intro result
  have hfiles : result.1.files =
      [Example.file "1700000000000-aa.jpg", Example.file "1700000000000-a.jpg"] := by
    decide +kernel
  have hrecords : result.1.store.evidenceRecords.map (recordFile Example.diskFull.root) =
      [Example.file "1700000000000-a.jpg"] := by
    decide +kernel
  refine ⟨by decide +kernel, hfiles, hrecords, fun hatomic => ?_⟩
  obtain ⟨recorded, htidy⟩ := hatomic.tidy
  have hrecorded : result.1.store.evidenceRecords = recorded := htidy.records_eq
  obtain ⟨record, hrecord, hfile⟩ := htidy.record_of_file (Example.file "1700000000000-aa.jpg")
    (by simp [hfiles]) (by simp [Example.world])
  have hmem := List.mem_map_of_mem (f := recordFile Example.diskFull.root) (hrecorded ▸ hrecord)
  rw [hrecords, List.mem_singleton, hfile] at hmem
  exact absurd hmem (by decide +kernel)

end FixZone.ReportService.EvidenceFiles

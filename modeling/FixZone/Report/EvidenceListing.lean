import FixZone.Library.KeepFirst
import FixZone.Report.EvidencePaths

/-!
# The list of a report's evidence

`reportEvidenceItems` goes through the evidence records of a report and then through the
columns of its two images, and leaves out what has the key of an image listed before. An item
with a protected link is always opened through it. The key is the kind with the path, or with
the address of an image that has no path below the upload root, in lower case, while
`reportHasEvidencePath` and the files tell `A.jpg` from `a.jpg`: of two paths that differ in
letter case only, the list has the first.

No path has a letter outside ASCII. Of the addresses listed as they stand, those that differ
only in the case of such a letter are told apart here.
-/

namespace FixZone.ReportService

open Library PosixPath

variable {ν : Type} (cfg : Config)

/-! ### Rows and items -/

/-- A row of `evidenceRecord.findMany`, with the columns that only the listing reads and, of its
metadata, the classification and the two lists of `geoTrust`. -/
structure EvidenceRow (ν : Type) extends EvidenceRecord where
  uploadedAt : Option Millis := none
  classification : Option String := none
  geoLatitude : Option ν := none
  geoLongitude : Option ν := none
  geoAccuracyMeters : Option ν := none
  geoCapturedAt : Option Millis := none
  geoReceivedAt : Option Millis := none
  geoSource : Option String := none
  geoCaptureMethod : Option String := none
  geoPermissionState : Option String := none
  geoValidationOutcome : Option String := none
  geoDistanceMeters : Option ν := none
  geoTrustOutcome : Option String := none
  geoSchemaVersion : Option ℤ := some 1
  warnings : List String := []
  validationReasons : List String := []

/-- `EvidenceGeoTrustPayload`. -/
structure EvidenceGeoTrustPayload (ν : Type) where
  schemaVersion : ℤ
  source : String
  captureMethod : String
  permissionState : String
  validationOutcome : String
  trustOutcome : String
  distanceMeters : Option ν
  accuracyMeters : Option ν
  capturedAt : Option Millis
  receivedAt : Option Millis
  warnings : List String
  validationReasons : List String
  coordinates : Option (ν × ν)

/-- `evidenceGeoTrustPayload`. -/
def evidenceGeoTrustPayload (record : EvidenceRow ν) : Option (EvidenceGeoTrustPayload ν) :=
  if ¬truthy record.geoTrustOutcome ∧ ¬truthy record.geoValidationOutcome then none
  else some {
    schemaVersion := record.geoSchemaVersion.getD 1
    source := record.geoSource.getD "UNAVAILABLE"
    captureMethod := record.geoCaptureMethod.getD "NOT_PROVIDED"
    permissionState := record.geoPermissionState.getD "UNKNOWN"
    validationOutcome := record.geoValidationOutcome.getD "INSUFFICIENT_LOCATION_DATA"
    trustOutcome := record.geoTrustOutcome.getD "INSUFFICIENT_LOCATION_DATA"
    distanceMeters := record.geoDistanceMeters
    accuracyMeters := record.geoAccuracyMeters
    capturedAt := record.geoCapturedAt
    receivedAt := record.geoReceivedAt
    warnings := record.warnings
    validationReasons := record.validationReasons
    coordinates := do
      let latitude ← record.geoLatitude
      let longitude ← record.geoLongitude
      return (latitude, longitude) }

/-- Where an item comes from. -/
inductive EvidenceSource where
  | citizenReport | providerCompletion
  deriving DecidableEq

/-- An item of the list. -/
structure EvidenceItem (ν : Type) where
  id : String
  kind : EvidenceKind
  source : EvidenceSource
  url : String
  imageUrl : String
  imagePath : Option String
  filename : Option String
  mimeType : Option String
  uploadedAt : Option Millis
  uploadedByRole : UserRole
  classification : Option String
  order : Option ℕ
  geoTrust : Option (EvidenceGeoTrustPayload ν)

/-- `withProtectedEvidenceUrls`, the priority and the payload of the location apart. -/
def withProtectedEvidenceUrls (report : Report) : Report :=
  { report with
    evidenceImageUrl :=
      protectedEvidenceUrl cfg report.id .reportEvidence
        (report.evidenceImagePath <|> report.evidenceImageUrl) <|> report.evidenceImageUrl
    completionImageUrl :=
      protectedEvidenceUrl cfg report.id .reportCompletion
        (report.completionImagePath <|> report.completionImageUrl) <|> report.completionImageUrl }

/-- `safeEvidenceContentType`. -/
def safeEvidenceContentType (fileName : String) : Option String :=
  (contentTypeForEvidenceFile fileName).toOption

/-! ### The loop -/

/-- An image that is offered to the list: the arguments of `add`. -/
structure EvidenceImageEntry (ν : Type) where
  kind : EvidenceKind
  imageUrl : Option String
  imagePath : Option String
  source : EvidenceSource
  uploadedAt : Option Millis
  uploadedByRole : UserRole
  storedImageUrl : Option String
  classification : Option String := none
  order : Option ℕ := none
  geoTrust : Option (EvidenceGeoTrustPayload ν) := none

namespace EvidenceImageEntry

variable (e : EvidenceImageEntry ν)

/-- The address without the white space around it. -/
def url : Option String := e.imageUrl.map trim

/-- The path below the upload root, the first that one of the three texts gives. -/
def path : Option String :=
  extractLocalUploadPath cfg e.imagePath <|> extractLocalUploadPath cfg e.storedImageUrl <|>
    extractLocalUploadPath cfg e.url

/-- Neither an address nor a path. -/
def isEmpty : Bool := !truthy e.url && (e.path cfg).isNone

/-- The path, or the address where there is none. -/
def text : String := (e.path cfg <|> e.url).getD ""

/-- The key under which the image is listed once. -/
def key : String := toLowerCase (e.kind.text ++ ":" ++ e.text cfg)

/-- The item of the image. -/
def item (reportId : String) : EvidenceItem ν :=
  let path := e.path cfg
  let filename := path.bind fun path => (path.toList.splitOn '/').getLast?.map String.ofList
  let canonicalUrl := (protectedEvidenceUrl cfg reportId e.kind (path <|> e.url) <|> e.url).getD
    ("/uploads/" ++ path.getD "")
  { id := e.key cfg
    kind := e.kind
    source := e.source
    url := canonicalUrl
    imageUrl := canonicalUrl
    imagePath := path
    filename
    mimeType := filename.bind safeEvidenceContentType
    uploadedAt := e.uploadedAt
    uploadedByRole := e.uploadedByRole
    classification := e.classification
    order := e.order
    geoTrust := e.geoTrust }

end EvidenceImageEntry

/-- The list so far, and the keys met. -/
structure EvidenceListing (ν : Type) where
  seen : List String := []
  items : List (EvidenceItem ν) := []

/-- `add`. -/
def EvidenceListing.add (reportId : String) (l : EvidenceListing ν) (e : EvidenceImageEntry ν) :
    EvidenceListing ν :=
  if e.isEmpty cfg then l
  else if e.key cfg ∈ l.seen then l
  else { seen := e.key cfg :: l.seen, items := l.items ++ [e.item cfg reportId] }

/-- The kind of a record. -/
def EvidenceRecord.evidenceKind (record : EvidenceRecord) : EvidenceKind :=
  if record.kind = "report-completion" then .reportCompletion else .reportEvidence

/-- What the loop over the records offers. -/
def recordEntry (record : EvidenceRow ν) : EvidenceImageEntry ν :=
  let kind := record.evidenceKind
  { kind
    imageUrl := some record.fileUrl
    imagePath := some record.imagePath
    source := if kind = .reportCompletion then .providerCompletion else .citizenReport
    uploadedAt := record.uploadedAt
    uploadedByRole := if kind = .reportCompletion then .provider else .citizen
    storedImageUrl := some record.fileUrl
    classification := record.classification
    order := some record.order
    geoTrust := evidenceGeoTrustPayload record }

/-- The columns of the image of the citizen. -/
def evidenceColumns (report storedReport : Report) : EvidenceImageEntry ν where
  kind := .reportEvidence
  imageUrl := report.evidenceImageUrl
  imagePath := report.evidenceImagePath <|> storedReport.evidenceImagePath
  source := .citizenReport
  uploadedAt := some report.createdAt
  uploadedByRole := .citizen
  storedImageUrl := storedReport.evidenceImageUrl

/-- The columns of the image of the completion. -/
def completionColumns (report storedReport : Report) : EvidenceImageEntry ν where
  kind := .reportCompletion
  imageUrl := report.completionImageUrl
  imagePath := report.completionImagePath <|> storedReport.completionImagePath
  source := .providerCompletion
  uploadedAt := report.completedByProviderAt
  uploadedByRole := .provider
  storedImageUrl := storedReport.completionImageUrl

/-- All that is offered, in the order of the code. -/
def evidenceEntries (report storedReport : Report) (evidenceRecords : List (EvidenceRow ν)) :
    List (EvidenceImageEntry ν) :=
  evidenceRecords.map recordEntry ++
    [evidenceColumns report storedReport, completionColumns report storedReport]

/-- `reportEvidenceItems`. -/
def reportEvidenceItems (report storedReport : Report) (evidenceRecords : List (EvidenceRow ν)) :
    List (EvidenceItem ν) :=
  ((evidenceEntries report storedReport evidenceRecords).foldl
    (EvidenceListing.add cfg report.id) {}).items

variable {cfg}

/-! ### What is listed -/

/-- The list has the first image of each key. -/
theorem items_foldl_add (reportId : String) (entries : List (EvidenceImageEntry ν))
    (l : EvidenceListing ν) :
    (entries.foldl (EvidenceListing.add cfg reportId) l).items =
      l.items ++ (keepFirst (·.key cfg) l.seen (entries.filter fun e => !e.isEmpty cfg)).map
        (·.item cfg reportId) := by
  induction entries generalizing l with
  | nil => simp [keepFirst]
  | cons e entries ih =>
    rw [List.foldl_cons, ih, EvidenceListing.add]
    by_cases hempty : e.isEmpty cfg
    · simp [hempty]
    · by_cases hseen : e.key cfg ∈ l.seen
      · simp [hempty, hseen, keepFirst]
      · simp [hempty, hseen, keepFirst]

/-- The images among all that is offered. -/
def evidenceImages (cfg : Config) (report storedReport : Report)
    (evidenceRecords : List (EvidenceRow ν)) : List (EvidenceImageEntry ν) :=
  (evidenceEntries report storedReport evidenceRecords).filter fun e => !e.isEmpty cfg

theorem reportEvidenceItems_eq (report storedReport : Report) (records : List (EvidenceRow ν)) :
    reportEvidenceItems cfg report storedReport records =
      (keepFirst (·.key cfg) [] (evidenceImages cfg report storedReport records)).map
        (·.item cfg report.id) :=
  items_foldl_add report.id _ {}

/-- The kinds are told apart by their eighth letter. -/
theorem eighth_of_key (kind : EvidenceKind) (rest : List Char) :
    (kind.text.toList.flatMap lowerChar ++ rest)[7]? =
      some (if kind = .reportEvidence then 'e' else 'c') := by
  have hlength : 7 < (kind.text.toList.flatMap lowerChar).length := by
    cases kind <;> decide +kernel
  rw [List.getElem?_append_left hlength]
  cases kind <;> decide +kernel

/-- The path of a file is in ASCII, and so without a sigma in lower case. -/
theorem IsUploadPath.lower {path : List Char} (h : IsUploadPath path) :
    ∀ c ∈ path.flatMap lowerChar, c ≠ 'σ' ∧ c ≠ 'ς' := by
  intro c hc
  obtain ⟨d, hd, hlower⟩ := List.mem_flatMap.mp hc
  refine ne_sigma_of_mem_lowerChar ?_ hlower
  rcases h.chars d hd with hname | rfl
  · exact (isFileNameChar_ascii hname).2.trans_lt (by decide)
  · decide

/-- The key of the image of a file is that of the images of its kind which are the same up to
letter case. -/
theorem toLowerCase_key_eq_iff {kind kind' : EvidenceKind} {t path : String}
    (hpath : IsUploadPath path.toList) :
    toLowerCase (kind.text ++ ":" ++ t) = toLowerCase (kind'.text ++ ":" ++ path) ↔
      kind = kind' ∧ toLowerCase t = toLowerCase path := by
  have hplain : ∀ c ∈ (kind'.text ++ ":" ++ path).toList.flatMap lowerChar, c ≠ 'σ' ∧ c ≠ 'ς' := by
    rw [String.toList_append, List.flatMap_append, List.forall_mem_append]
    refine ⟨ne_sigma_of_not_mem ?_, hpath.lower⟩
    cases kind' <;> decide +kernel
  rw [toLowerCase_eq_iff hplain, toLowerCase_eq_iff hpath.lower]
  simp only [String.toList_append, List.flatMap_append]
  constructor
  · intro h
    have hkind : kind = kind' := by
      have heighth := congrArg (·[7]?) h
      simp only [List.append_assoc, eighth_of_key] at heighth
      cases kind <;> cases kind' <;> first | rfl | simp at heighth
    subst hkind
    exact ⟨rfl, List.append_cancel_left h⟩
  · rintro ⟨rfl, h⟩
    rw [h]

namespace EvidenceImageEntry

variable {e : EvidenceImageEntry ν} {path : String}

theorem text_eq_of_path (h : e.path cfg = some path) : e.text cfg = path := by
  simp [text, h]

theorem isEmpty_eq_false_of_path (h : e.path cfg = some path) : e.isEmpty cfg = false := by
  simp [isEmpty, h]

end EvidenceImageEntry

/-! ### The files of a report -/

theorem extractLocalUploadPath_map_trim (value : Option String) :
    extractLocalUploadPath cfg (value.map trim) = extractLocalUploadPath cfg value := by
  have htrim : trimmed (value.map trim) = trimmed value := by
    cases value with
    | none => rfl
    | some value => exact trim_trim value
  unfold extractLocalUploadPath
  rw [htrim]

/-- Texts that give no path have no protected link, so the address is shown as it is stored. -/
theorem extract_shownUrl (reportId : String) (kind : EvidenceKind) {path url : Option String}
    (hpath : extractLocalUploadPath cfg path = none)
    (hurl : extractLocalUploadPath cfg url = none) :
    extractLocalUploadPath cfg
      (protectedEvidenceUrl cfg reportId kind (path <|> url) <|> url) = none := by
  have hboth : extractLocalUploadPath cfg (path <|> url) = none := by
    cases path with
    | none => exact hurl
    | some path => exact hpath
  have hlink : protectedEvidenceUrl cfg reportId kind (path <|> url) = none := by
    rw [protectedEvidenceUrl, hboth]
    rfl
  rw [hlink]
  exact hurl

/-- The path of an image whose address is shown as it is stored, or as its protected link. -/
theorem EvidenceImageEntry.path_eq {e : EvidenceImageEntry ν} {path url : Option String}
    (hpath : e.imagePath = path) (hstored : e.storedImageUrl = url)
    (hshown : e.imageUrl = url ∨ ∃ reportId, e.imageUrl =
      (protectedEvidenceUrl cfg reportId e.kind (path <|> url) <|> url)) :
    e.path cfg = (extractLocalUploadPath cfg path <|> extractLocalUploadPath cfg url) := by
  rw [EvidenceImageEntry.path, hpath, hstored, EvidenceImageEntry.url,
    extractLocalUploadPath_map_trim]
  simp only [Option.orElse_eq_orElse, Option.orElse_eq_or] at hshown ⊢
  cases hfirst : extractLocalUploadPath cfg path with
  | some found => rw [Option.some_or, Option.some_or]
  | none =>
    rw [Option.none_or, Option.none_or]
    cases hsecond : extractLocalUploadPath cfg url with
    | some found => rw [Option.some_or]
    | none =>
      rw [Option.none_or]
      rcases hshown with hsame | ⟨reportId, hlink⟩
      · rw [hsame, hsecond]
      · have hnone := extract_shownUrl reportId e.kind hfirst hsecond
        simp only [Option.orElse_eq_orElse, Option.orElse_eq_or] at hnone
        rw [hlink, hnone]

variable {s : Store} {report shown : Report} {records : List (EvidenceRow ν)}

theorem recordEntry_path (record : EvidenceRow ν) : (recordEntry record).path cfg =
    (extractLocalUploadPath cfg (some record.imagePath) <|>
      extractLocalUploadPath cfg (some record.fileUrl)) :=
  EvidenceImageEntry.path_eq rfl rfl (.inl rfl)

theorem evidenceColumns_path
    (hshown : shown = report ∨ shown = withProtectedEvidenceUrls cfg report) :
    (evidenceColumns shown report : EvidenceImageEntry ν).path cfg =
      (extractLocalUploadPath cfg report.evidenceImagePath <|>
        extractLocalUploadPath cfg report.evidenceImageUrl) := by
  have hself : (report.evidenceImagePath <|> report.evidenceImagePath) =
      report.evidenceImagePath := by simp
  rcases hshown with rfl | rfl
  · exact EvidenceImageEntry.path_eq hself rfl (.inl rfl)
  · exact EvidenceImageEntry.path_eq hself rfl (.inr ⟨report.id, rfl⟩)

theorem completionColumns_path
    (hshown : shown = report ∨ shown = withProtectedEvidenceUrls cfg report) :
    (completionColumns shown report : EvidenceImageEntry ν).path cfg =
      (extractLocalUploadPath cfg report.completionImagePath <|>
        extractLocalUploadPath cfg report.completionImageUrl) := by
  have hself : (report.completionImagePath <|> report.completionImagePath) =
      report.completionImagePath := by simp
  rcases hshown with rfl | rfl
  · exact EvidenceImageEntry.path_eq hself rfl (.inl rfl)
  · exact EvidenceImageEntry.path_eq hself rfl (.inr ⟨report.id, rfl⟩)

/-- The records of the store under the report are those that are listed. -/
theorem any_evidenceRecord_iff
    (hrecords : (records.map (·.toEvidenceRecord)).Perm
      (s.evidenceRecords.filter (·.relatedEntityId = report.id)))
    {kind : EvidenceKind} {path : String} :
    (s.evidenceRecords.any fun record => record.relatedEntityId = report.id &&
      record.evidenceKind = kind && (extractLocalUploadPath cfg (some record.imagePath) <|>
        extractLocalUploadPath cfg (some record.fileUrl)) = some path) ↔
      ∃ record ∈ records, (recordEntry record).kind = kind ∧
        (recordEntry record).path cfg = some path := by
  have hmem : ∀ record : EvidenceRecord, (∃ row ∈ records, row.toEvidenceRecord = record) ↔
      record ∈ s.evidenceRecords ∧ record.relatedEntityId = report.id := by
    intro record
    simpa using hrecords.mem_iff (a := record)
  simp only [List.any_eq_true, Bool.and_eq_true, decide_eq_true_eq]
  constructor
  · rintro ⟨record, hstored, ⟨hid, hkind⟩, hpath⟩
    obtain ⟨row, hrow, rfl⟩ := (hmem record).mpr ⟨hstored, hid⟩
    exact ⟨row, hrow, hkind, (recordEntry_path row).trans hpath⟩
  · rintro ⟨row, hrow, hkind, hpath⟩
    obtain ⟨hstored, hid⟩ := (hmem _).mp ⟨row, hrow, rfl⟩
    exact ⟨_, hstored, ⟨hid, hkind⟩, (recordEntry_path row).symm.trans hpath⟩

/-- An image with a path is never passed over as empty. -/
theorem exists_evidenceImage_iff {kind : EvidenceKind} {path : String} :
    (∃ e ∈ evidenceImages cfg shown report records, e.kind = kind ∧ e.path cfg = some path) ↔
      ∃ e ∈ evidenceEntries shown report records, e.kind = kind ∧ e.path cfg = some path := by
  simp only [evidenceImages, List.mem_filter, Bool.not_eq_true']
  constructor
  · rintro ⟨e, ⟨he, -⟩, hfile⟩
    exact ⟨e, he, hfile⟩
  · rintro ⟨e, he, hfile⟩
    exact ⟨e, ⟨he, e.isEmpty_eq_false_of_path hfile.2⟩, hfile⟩

/-- The files that the report may open are those among its images. -/
theorem reportHasEvidencePath_iff
    (hshown : shown = report ∨ shown = withProtectedEvidenceUrls cfg report)
    (hrecords : (records.map (·.toEvidenceRecord)).Perm
      (s.evidenceRecords.filter (·.relatedEntityId = report.id)))
    {kind : EvidenceKind} {path : String} :
    reportHasEvidencePath cfg s report kind path ↔
      ∃ e ∈ evidenceImages cfg shown report records, e.kind = kind ∧ e.path cfg = some path := by
  have hevidence : (evidenceColumns shown report : EvidenceImageEntry ν).path cfg = _ :=
    evidenceColumns_path hshown
  have hcompletion : (completionColumns shown report : EvidenceImageEntry ν).path cfg = _ :=
    completionColumns_path hshown
  have hrecord : _ ↔ ∃ record ∈ records, (recordEntry record).kind = kind ∧
      (recordEntry record).path cfg = some path := any_evidenceRecord_iff hrecords
  rw [exists_evidenceImage_iff]
  unfold reportHasEvidencePath
  rw [Bool.or_eq_true, decide_eq_true_eq]
  simp only [evidenceEntries, List.mem_append, List.mem_map, List.mem_cons, List.not_mem_nil,
    or_false]
  constructor
  · rintro (hscalar | hstored)
    · cases kind with
      | reportEvidence => exact ⟨_, .inr (.inl rfl), rfl, hevidence.trans hscalar⟩
      | reportCompletion => exact ⟨_, .inr (.inr rfl), rfl, hcompletion.trans hscalar⟩
    · obtain ⟨row, hrow, hfile⟩ := hrecord.mp hstored
      exact ⟨_, .inl ⟨row, hrow, rfl⟩, hfile⟩
  · rintro ⟨e, ⟨row, hrow, rfl⟩ | rfl | rfl, rfl, hpath⟩
    · exact .inr (hrecord.mpr ⟨row, hrow, rfl, hpath⟩)
    · exact .inl (hevidence.symm.trans hpath)
    · exact .inl (hcompletion.symm.trans hpath)

/-! ### The law of the list -/

/-- What is promised of the list of a report's evidence. -/
structure ListsEvidence (cfg : Config) (s : Store) (report : Report)
    (items : List (EvidenceItem ν)) : Prop where
  /-- Each file of the report has one item. -/
  once : ∀ kind path, reportHasEvidencePath cfg s report kind path →
    items.countP (fun item => item.kind = kind ∧ item.imagePath = some path) = 1
  /-- The file of an item with a protected link is opened by that link. -/
  opens : ∀ item ∈ items,
    protectedEvidenceUrl cfg report.id item.kind item.imagePath = some item.url →
    ∃ fileName, evidenceRoute item.url = some (item.kind, report.id, fileName) ∧
      assertSafeEvidenceFileName fileName = .ok ⟨⟩ ∧
      reportHasEvidencePath cfg s report item.kind (evidencePath item.kind report.id fileName)

/-- For each path of an image, the first image of the kind whose path, or whose address where it
has no path, is the same up to letter case has the very path. -/
def FirstOfItsCase (cfg : Config) (images : List (EvidenceImageEntry ν)) : Prop :=
  ∀ e ∈ images, ∀ path ∈ e.path cfg,
    (images.find? fun other => other.kind = e.kind ∧
      toLowerCase (other.text cfg) = toLowerCase path).bind (·.path cfg) = some path

instance (cfg : Config) (images : List (EvidenceImageEntry ν)) :
    Decidable (FirstOfItsCase cfg images) :=
  inferInstanceAs (Decidable (∀ e ∈ images, ∀ path ∈ e.path cfg, _ = some path))

/-- The items of a file are counted by the first image of its key. -/
theorem countP_items_eq_one_iff (images : List (EvidenceImageEntry ν)) (reportId : String)
    (kind : EvidenceKind) {path : String} (hupload : IsUploadPath path.toList) :
    ((keepFirst (·.key cfg) [] images).map (·.item cfg reportId)).countP
        (fun item => item.kind = kind ∧ item.imagePath = some path) = 1 ↔
      (images.find? fun other => other.kind = kind ∧
        toLowerCase (other.text cfg) = toLowerCase path).bind (·.path cfg) = some path := by
  have hkey : ∀ e : EvidenceImageEntry ν, e.key cfg = toLowerCase (kind.text ++ ":" ++ path) ↔
      e.kind = kind ∧ toLowerCase (e.text cfg) = toLowerCase path :=
    fun e => toLowerCase_key_eq_iff hupload
  have hfile : ∀ e : EvidenceImageEntry ν, e.kind = kind ∧ e.path cfg = some path →
      e.key cfg = toLowerCase (kind.text ++ ":" ++ path) := by
    rintro e ⟨hkind, hpath⟩
    exact (hkey e).mpr ⟨hkind, by rw [e.text_eq_of_path hpath]⟩
  rw [List.countP_map]
  refine (countP_keepFirst_eq_one_iff List.not_mem_nil
    fun e he => hfile e (of_decide_eq_true he)).trans ?_
  simp only [hkey, Option.bind_eq_some_iff]
  constructor
  · rintro ⟨first, hfirst, hp⟩
    exact ⟨first, hfirst, (of_decide_eq_true hp).2⟩
  · rintro ⟨first, hfirst, hpath⟩
    have hmatch := List.find?_some hfirst
    exact ⟨first, hfirst, decide_eq_true ⟨(of_decide_eq_true hmatch).1, hpath⟩⟩

theorem EvidenceImageEntry.isUploadPath {e : EvidenceImageEntry ν} {path : String}
    (h : e.path cfg = some path) : IsUploadPath path.toList := by
  have hextracted : ∃ value, extractLocalUploadPath cfg value = some path := by
    simp only [EvidenceImageEntry.path, Option.orElse_eq_orElse, Option.orElse_eq_or,
      Option.or_eq_some_iff] at h
    rcases h with h | ⟨-, h | ⟨-, h⟩⟩
    · exact ⟨_, h⟩
    · exact ⟨_, h⟩
    · exact ⟨_, h⟩
  obtain ⟨value, hvalue⟩ := hextracted
  exact (extractLocalUploadPath_eq_some.mp hvalue).2.2

/-- The protected link of an image leads back to its path. -/
theorem EvidenceImageEntry.opens {e : EvidenceImageEntry ν} {link : String}
    (hrelative : ∀ text : String, ':' ∉ text.toList → cfg.urlPathname text = none)
    (hlink : protectedEvidenceUrl cfg report.id e.kind (e.path cfg) = some link)
    (hhas : ∀ path, e.path cfg = some path → reportHasEvidencePath cfg s report e.kind path) :
    ∃ fileName, evidenceRoute link = some (e.kind, report.id, fileName) ∧
      assertSafeEvidenceFileName fileName = .ok ⟨⟩ ∧
      reportHasEvidencePath cfg s report e.kind (evidencePath e.kind report.id fileName) := by
  obtain ⟨path, hextract, fileName, hsplit, rfl⟩ := protectedEvidenceUrl_eq_some hlink
  cases hpath : e.path cfg with
  | none =>
    rw [hpath] at hextract
    cases hextract
  | some found =>
    have hupload := e.isUploadPath hpath
    have hsame : extractLocalUploadPath cfg (e.path cfg) = some found := by
      rw [hpath]
      exact hupload.extractLocalUploadPath_eq hrelative
    obtain rfl := Option.some_inj.mp (hextract.symm.trans hsame)
    obtain ⟨hroute, hsafe, hlookup, -⟩ := hupload.link hsplit ⟨[], by simp⟩
    refine ⟨String.ofList fileName, hroute, hsafe, ?_⟩
    rw [hlookup]
    exact hhas path hpath

/-- **The list has each file of the report once, and its protected links open, exactly when no
file comes after another image of its kind that is the same up to letter case.** -/
theorem lists_evidence_iff
    (hrelative : ∀ text : String, ':' ∉ text.toList → cfg.urlPathname text = none)
    (hshown : shown = report ∨ shown = withProtectedEvidenceUrls cfg report)
    (hrecords : (records.map (·.toEvidenceRecord)).Perm
      (s.evidenceRecords.filter (·.relatedEntityId = report.id))) :
    ListsEvidence cfg s report (reportEvidenceItems cfg shown report records) ↔
      FirstOfItsCase cfg (evidenceImages cfg shown report records) := by
  have hhas : ∀ kind path, reportHasEvidencePath cfg s report kind path ↔
      ∃ e ∈ evidenceImages cfg shown report records, e.kind = kind ∧ e.path cfg = some path :=
    fun kind path => reportHasEvidencePath_iff hshown hrecords
  rw [reportEvidenceItems_eq]
  constructor
  · intro hlists e he path hpath
    exact (countP_items_eq_one_iff _ shown.id e.kind (e.isUploadPath hpath)).mp
      (hlists.once e.kind path ((hhas e.kind path).mpr ⟨e, he, rfl, hpath⟩))
  · intro hfirst
    refine ⟨fun kind path hhasPath => ?_, fun item hitem hlink => ?_⟩
    · obtain ⟨e, he, rfl, hpath⟩ := (hhas kind path).mp hhasPath
      exact (countP_items_eq_one_iff _ shown.id e.kind (e.isUploadPath hpath)).mpr
        (hfirst e he path hpath)
    · obtain ⟨e, he, rfl⟩ := List.mem_map.mp hitem
      exact e.opens hrelative hlink fun path hpath =>
        (hhas e.kind path).mpr ⟨e, mem_of_mem_keepFirst he, rfl, hpath⟩

/-! ### Examples -/

namespace Example

/-- A report with evidence. -/
def photographed : Report where
  id := "r1"
  category := "Roads"
  organizationId := "org-1"
  citizenId := "citizen-1"

/-- The record of a photo of the report, by its file. -/
def photoRow (fileName : String) : EvidenceRow ℕ where
  relatedEntityId := "r1"
  organizationId := "org-1"
  ownerUserId := "citizen-1"
  uploadedById := "citizen-1"
  fileUrl := "/uploads/report-evidence/r1/" ++ fileName
  fileType := "image/jpeg"
  description := "Citizen report evidence"
  kind := "report-evidence"
  evidenceType := "CITIZEN_REPORT"
  imagePath := "report-evidence/r1/" ++ fileName
  order := 0

/-- The store with such records. -/
def albumStore (rows : List (EvidenceRow ℕ)) : Store :=
  { Store.empty with evidenceRecords := rows.map (·.toEvidenceRecord) }

end Example

/-- Two photos of different names are listed, and open. -/
theorem lists_evidence_two_photos :
    ListsEvidence {} (Example.albumStore [Example.photoRow "1.jpg", Example.photoRow "2.jpg"])
      Example.photographed
      (reportEvidenceItems {} (withProtectedEvidenceUrls {} Example.photographed)
        Example.photographed [Example.photoRow "1.jpg", Example.photoRow "2.jpg"]) :=
  (lists_evidence_iff (fun _ _ => rfl) (.inr rfl) (.of_eq rfl)).mpr (by decide +kernel)

/-- The photo `a.jpg` can be opened, and is not listed after `A.jpg`. -/
theorem photo_swallowed :
    reportHasEvidencePath {}
      (Example.albumStore [Example.photoRow "A.jpg", Example.photoRow "a.jpg"])
      Example.photographed .reportEvidence "report-evidence/r1/a.jpg" ∧
    (reportEvidenceItems {} (withProtectedEvidenceUrls {} Example.photographed)
      Example.photographed [Example.photoRow "A.jpg", Example.photoRow "a.jpg"]).map
        (·.imagePath) = [some "report-evidence/r1/A.jpg"] ∧
    ¬ListsEvidence {}
      (Example.albumStore [Example.photoRow "A.jpg", Example.photoRow "a.jpg"])
      Example.photographed
      (reportEvidenceItems {} (withProtectedEvidenceUrls {} Example.photographed)
        Example.photographed [Example.photoRow "A.jpg", Example.photoRow "a.jpg"]) := by
  have hhas : reportHasEvidencePath {}
      (Example.albumStore [Example.photoRow "A.jpg", Example.photoRow "a.jpg"])
      Example.photographed .reportEvidence "report-evidence/r1/a.jpg" := by
    decide +kernel
  -- the items are computed once for what they show and for what they leave out
  obtain ⟨hpaths, hmissing⟩ : (reportEvidenceItems {}
        (withProtectedEvidenceUrls {} Example.photographed) Example.photographed
        [Example.photoRow "A.jpg", Example.photoRow "a.jpg"]).map
          (·.imagePath) = [some "report-evidence/r1/A.jpg"] ∧
      ¬ (reportEvidenceItems {} (withProtectedEvidenceUrls {} Example.photographed)
        Example.photographed [Example.photoRow "A.jpg", Example.photoRow "a.jpg"]).countP
          (fun item => item.kind = .reportEvidence ∧
            item.imagePath = some "report-evidence/r1/a.jpg") = 1 := by
    decide +kernel
  exact ⟨hhas, hpaths, fun hlists => hmissing (hlists.once _ _ hhas)⟩

end FixZone.ReportService

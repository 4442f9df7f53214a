import FixZone.Library.Reservation
import FixZone.Report.EvidenceFiles

/-!
# The limits of evidence, step by step

The two uploads as calls whose steps interleave: what they read, the count of
`assertEvidenceLimit`, and for each image the file and then its record. The count is made once,
before the first file, and nothing looks at it again, so two uploads that count side by side
both find room for their images. What an upload that has counted may still record is what it
holds (`UploadCall.held`), and the limits are kept where every upload that counts finds room for
its images beside those held by the others (`limits_kept_of_room`).
-/

namespace FixZone.ReportService.EvidenceFiles

open Library PosixPath
open UploadSecurityService (saveBase64Image checkedFileName)

/-! ### Calls -/

/-- `evidenceLimitFor`. -/
def evidenceLimitFor : EvidenceKind → ℕ
  | .reportEvidence => 5
  | .reportCompletion => 10

/-- The message of `assertEvidenceLimit`. -/
def evidenceLimitMessage : EvidenceKind → String
  | .reportEvidence => "You can upload up to 5 report evidence images."
  | .reportCompletion => "You can upload up to 10 completion evidence images."

/-- The call of `assertEvidenceLimit` in an upload. -/
def Upload.assertLimit (upload : Upload) (s : Store) (images : List EvidenceImage) :
    Except HttpError Unit :=
  assertEvidenceLimit s upload.reportId upload.kind.text (evidenceLimitFor upload.kind)
    (evidenceLimitMessage upload.kind) images.length

/-- A request to upload. -/
structure UploadRequest where
  kind : EvidenceKind
  reportId : String
  dto : UploadEvidenceDto
  user : JwtUser

/-- A call: a request, an upload that is about to count, one that is about to write the file of
its next image, or one that is about to record the file it has written. -/
inductive UploadCall where
  | request (request : UploadRequest)
  | counting (upload : Upload) (images : List EvidenceImage)
  | saving (upload : Upload) (index : ℕ) (images : List EvidenceImage)
      (savedItems : List SavedEvidenceFile)
  | recording (upload : Upload) (index : ℕ) (image : EvidenceImage) (images : List EvidenceImage)
      (savedItems : List SavedEvidenceFile) (saved : SavedEvidenceFile)

/-- What a step finds around it. -/
structure UploadInput where
  env : Env
  site : Site

/-- What the upload of a kind reads before it counts. -/
def uploadReads (env : Env) (s : Store) :
    EvidenceKind → String → UploadEvidenceDto → JwtUser →
      Except HttpError (Report × List EvidenceImage)
  | .reportEvidence => reportUploadReads s
  | .reportCompletion => completionUploadReads env s

variable (cfg : Config)

/-- The next step of an upload. -/
def advanceUpload (input : UploadInput) :
    UploadCall → World → World × Next UploadCall (Except HttpError Unit)
  | .request request, w =>
    orThrows w (uploadReads input.env w.store request.kind request.reportId request.dto
      request.user) fun (report, images) =>
        (w, .goesOn (.counting
          (uploadOf input.env request.kind request.reportId request.user report) images))
  | .counting upload images, w =>
    orThrows w (upload.assertLimit w.store images) fun _ =>
      (w, .goesOn (.saving upload 0 images []))
  | .saving upload _ [] savedItems, w =>
    let outcome := perform input.env w.store (upload.finish savedItems)
    ({ w with store := outcome.store },
      .returns (match outcome.error with
        | some e => .error e
        | none => .ok ()))
  | .saving upload index (image :: images) savedItems, w =>
    match upload.assess index with
    | some e => (w, .returns (.error e))
    | none =>
      match saveBase64Image input.site.toStorage index (upload.saveParams image) w.files with
      | (files, .error e) => ({ w with files }, .returns (.error e))
      | (files, .ok saved) =>
        ({ w with files }, .goesOn (.recording upload index image images savedItems saved))
  | .recording upload index image images savedItems saved, w =>
    match input.site.create index with
    | some e =>
      ({ w with files := cleanupUnpersistedEvidenceFiles cfg input.site [saved] w.files },
        .returns (.error e))
    | none =>
      ({ w with store := { w.store with
          evidenceRecords := w.store.evidenceRecords ++ [upload.record index image saved] } },
        .goesOn (.saving upload (index + 1) images (savedItems ++ [saved])))

/-- Uploads that run side by side. -/
def uploads : Protocol World UploadRequest UploadCall UploadInput (Except HttpError Unit) where
  init := .request
  advance := advanceUpload cfg

/-! ### The limits -/

/-- No report has more evidence records of a kind than its limit allows. -/
def WithinLimits (s : Store) : Prop :=
  ∀ reportId kind, evidenceCount s reportId (EvidenceKind.text kind) ≤ evidenceLimitFor kind

/-- The files of an upload count for their kind, and for another that the id of the report
mentions. -/
def Upload.CountsFor (upload : Upload) (kind : EvidenceKind) : Prop :=
  upload.kind = kind ∨ includes upload.reportId kind.text

instance (upload : Upload) (kind : EvidenceKind) : Decidable (upload.CountsFor kind) :=
  inferInstanceAs (Decidable (_ ∨ _))

/-- How many records of a report and a kind a call may still make. -/
def UploadCall.held (reportId : String) (kind : EvidenceKind) : UploadCall → ℕ
  | .request _ | .counting _ _ => 0
  | .saving upload _ images _ =>
    if upload.reportId = reportId ∧ upload.CountsFor kind then images.length else 0
  | .recording upload _ _ images _ _ =>
    if upload.reportId = reportId ∧ upload.CountsFor kind then images.length + 1 else 0

variable {cfg} {ι : Type*} [DecidableEq ι] [Fintype ι]

/-- An upload whose images `assertEvidenceLimit` lets through finds room for them beside what
the uploads of the other workers hold. -/
def FindsRoom (st : Calls World ι UploadCall) (i : ι) : UploadCall → Prop
  | .counting upload images =>
    (upload.assertLimit st.state.store images).isOk → ∀ kind, upload.CountsFor kind →
      evidenceCount st.state.store upload.reportId (EvidenceKind.text kind) + images.length +
        st.reservedBesides (UploadCall.held upload.reportId kind) i ≤ evidenceLimitFor kind
  | .request _ | .saving _ _ _ _ | .recording _ _ _ _ _ _ => True

instance (st : Calls World ι UploadCall) (i : ι) : DecidablePred (FindsRoom st i)
  | .counting _ _ => inferInstanceAs (Decidable (_ → ∀ _, _))
  | .request _ | .saving _ _ _ _ | .recording _ _ _ _ _ _ => isTrue trivial

/-- The step of a turn, if it is a count, finds room. -/
def RoomLeft (st : Calls World ι UploadCall) : Turn ι UploadRequest UploadInput → Prop
  | .start _ _ => True
  | .advance i _ => ∀ call ∈ st.running i, FindsRoom st i call

instance (st : Calls World ι UploadCall) : DecidablePred (RoomLeft st)
  | .start _ _ => isTrue trivial
  | .advance i _ => inferInstanceAs (Decidable (∀ call ∈ st.running i, FindsRoom st i call))

/-! ### What a step adds -/

variable {upload : Upload} {index : ℕ} {image : EvidenceImage} {w : World}

/-- A file that is written counts for no other kind than its upload does. -/
theorem countsFor_of_saved {site : Site} {files : List AbsolutePath} {saved : SavedEvidenceFile}
    (h : (saveBase64Image site.toStorage index (upload.saveParams image) files).2 = .ok saved)
    {kind : EvidenceKind} (hurl : includes saved.imageUrl kind.text) : upload.CountsFor kind := by
  obtain ⟨fileName, hchecked, himageUrl⟩ : ∃ fileName,
      checkedFileName site.toStorage index (upload.saveParams image) = .ok fileName ∧
      saved.imageUrl = "/uploads/" ++ String.ofList
        (join [upload.kind.text.toList, upload.reportId.toList, fileName.toList]) := by
    unfold saveBase64Image at h
    cases hchecked : checkedFileName site.toStorage index (upload.saveParams image) with
    | error e => simp [hchecked] at h
    | ok fileName =>
      cases hwrite : site.write index with
      | refused e => simp [hchecked, hwrite] at h
      | broken e => simp [hchecked, hwrite] at h
      | done =>
        simp only [hchecked, hwrite, Except.ok.injEq] at h
        exact ⟨fileName, rfl, by rw [← h]; rfl⟩
  obtain ⟨⟨mime, rfl⟩, -, hreport, -⟩ := UploadSecurityService.checkedFileName_eq_ok hchecked
  have hid : IsName upload.reportId.toList := UploadSecurityService.isName_of_safe hreport
  have hnames : ∀ name ∈ [upload.kind.text.toList, upload.reportId.toList,
      (site.fileName index mime).toList], IsName name := by
    simp [EvidenceKind.isName_text, UploadSecurityService.isName_fileName,
      hid]
  have hsegments : saved.imageUrl.toList = joined [[], "uploads".toList, upload.kind.text.toList,
      upload.reportId.toList, (site.fileName index mime).toList] := by
    rw [himageUrl, join_of_isName hnames (by simp)]
    simp [joined]
  have hword : '/' ∉ kind.text.toList ∧ kind.text.toList ≠ [] ∧ 'r' ∈ kind.text.toList := by
    cases kind <;> decide
  rw [includes, decide_eq_true_eq, hsegments, infix_joined_iff hword.1 hword.2.1] at hurl
  simp only [List.mem_cons, List.not_mem_nil, or_false, exists_eq_or_imp, exists_eq_left] at hurl
  rcases hurl with h | h | h | h | h
  · simp [hword.2.1] at h
  · exact absurd h (by cases kind <;> decide)
  · have hkind : ∀ other : EvidenceKind, kind.text.toList <:+: other.text.toList →
        other = kind := by
      intro other
      cases kind <;> cases other <;> decide
    exact .inl (hkind _ h)
  · exact .inr (by simpa [includes] using h)
  · exact absurd (h.subset hword.2.2) (UploadSecurityService.r_notMem_fileName index mime)

/-- What is known of a call under way: its upload adds no record after the loop, and the file it
is about to record counts for no other kind than the upload. -/
def UploadCall.Sound : UploadCall → Prop
  | .request _ => True
  | .counting upload _ | .saving upload _ _ _ => ∀ env, Finishes env upload
  | .recording upload _ _ _ _ saved => (∀ env, Finishes env upload) ∧
    ∀ kind, includes saved.imageUrl (EvidenceKind.text kind) → upload.CountsFor kind

theorem sound_of_goesOn {input : UploadInput} {call call' : UploadCall} (hsound : call.Sound)
    (h : (advanceUpload cfg input call w).2 = .goesOn call') : call'.Sound := by
  cases call with
  | request request =>
    simp only [advanceUpload, orThrows] at h
    split at h
    · cases h
    · cases h
      exact fun env => finishes_uploadOf _ env _ _ _ _
  | counting upload images =>
    simp only [advanceUpload, orThrows] at h
    split at h
    · cases h
    · cases h
      exact hsound
  | saving upload index images savedItems =>
    rcases images with _ | ⟨image, images⟩
    · cases h
    · simp only [advanceUpload] at h
      split at h
      · cases h
      · split at h
        · cases h
        · next hsaved =>
          cases h
          exact ⟨hsound, fun kind hurl => countsFor_of_saved (congrArg Prod.snd hsaved) hurl⟩
  | recording upload index image images savedItems saved =>
    simp only [advanceUpload] at h
    split at h
    · cases h
    · cases h
      exact hsound.1

/-- An upload whose count has found room books its images, for the kinds they count for. -/
def Books (reportId : String) (kind : EvidenceKind) (_ : UploadInput) (call : UploadCall)
    (w : World) : Prop :=
  ∃ upload images, call = .counting upload images ∧ upload.assertLimit w.store images = .ok ⟨⟩ ∧
    upload.reportId = reportId ∧ upload.CountsFor kind

theorem evidenceCount_append (s : Store) (record : EvidenceRecord) (reportId kind : String) :
    evidenceCount { s with evidenceRecords := s.evidenceRecords ++ [record] } reportId kind =
      evidenceCount s reportId kind +
        if record.relatedEntityId = reportId ∧ includes record.fileUrl kind then 1 else 0 := by
  simp [evidenceCount, List.countP_cons]

/-- Every step but a booking adds no more than its call gives up. -/
theorem advance_spends {input : UploadInput} {call : UploadCall} (hsound : call.Sound)
    {reportId : String} {kind : EvidenceKind} (hbooks : ¬Books reportId kind input call w) :
    evidenceCount (advanceUpload cfg input call w).1.store reportId kind.text +
        (advanceUpload cfg input call w).2.call?.elim 0 (UploadCall.held reportId kind) ≤
      evidenceCount w.store reportId kind.text + call.held reportId kind := by
  cases call with
  | request request =>
    simp only [advanceUpload, orThrows]
    split
    · exact Nat.le_refl _
    · exact Nat.le_refl _
  | counting upload images =>
    simp only [advanceUpload, orThrows]
    split
    · exact Nat.le_refl _
    · next hlimit =>
      have hother : ¬(upload.reportId = reportId ∧ upload.CountsFor kind) := fun h =>
        hbooks ⟨upload, images, rfl, hlimit, h⟩
      simp [Next.call?, UploadCall.held, hother]
  | saving upload index images savedItems =>
    rcases images with _ | ⟨image, images⟩
    · have hrecords := (hsound input.env).evidenceRecords savedItems w.store
      simp [advanceUpload, Next.call?, evidenceCount, hrecords]
    · simp only [advanceUpload]
      split
      · simp [Next.call?]
      · split
        · simp [Next.call?]
        · exact Nat.le_refl _
  | recording upload index image images savedItems saved =>
    simp only [advanceUpload]
    split
    · simp [Next.call?]
    · have hcounts : upload.reportId = reportId ∧ includes saved.imageUrl kind.text →
          upload.reportId = reportId ∧ upload.CountsFor kind :=
        fun h => ⟨h.1, hsound.2 kind h.2⟩
      rw [evidenceCount_append, upload.record_reportId, upload.record_fileUrl]
      simp only [Next.call?, Option.elim_some, UploadCall.held]
      by_cases hcounted : upload.reportId = reportId ∧ includes saved.imageUrl kind.text
      · rw [if_pos hcounted, if_pos (hcounts hcounted), if_pos (hcounts hcounted)]
        omega
      · rw [if_neg hcounted]
        split_ifs <;> omega

/-! ### Runs -/

/-- What a booking adds to what is held. -/
theorem advance_books {input : UploadInput} {images : List EvidenceImage}
    (hlimit : upload.assertLimit w.store images = .ok ⟨⟩) :
    advanceUpload cfg input (.counting upload images) w =
      (w, .goesOn (.saving upload 0 images [])) := by
  simp only [advanceUpload, hlimit, orThrows]

/-- **The limits are kept in every interleaving in which each upload that counts finds room beside
what the others still hold.** -/
theorem limits_kept_of_room (cfg : Config) {w : World} (hstart : WithinLimits w.store)
    {turns : List (Turn ι UploadRequest UploadInput)}
    (hroom : Along (uploads cfg).step RoomLeft (Calls.quiet w) turns) :
    Throughout (uploads cfg).step (fun st => WithinLimits st.state.store) (Calls.quiet w)
      turns := by
  refine throughout_iff.mpr fun pre post hturns reportId kind => ?_
  have hkept := (uploads cfg).throughout_count_le
    (fun w => evidenceCount w.store reportId kind.text) (UploadCall.held reportId kind)
    (evidenceLimitFor kind) UploadCall.Sound (Books reportId kind)
    (fun request => ⟨rfl, trivial⟩) (fun input call w call' hsound => sound_of_goesOn hsound)
    (fun input call w hsound => advance_spends hsound) (hstart reportId kind)
    (hroom.mono fun st turn hleft i input call hadvances hbooks => ?_)
  · exact throughout_iff.mp hkept pre post hturns
  · obtain ⟨upload, images, rfl, hlimit, rfl, hcounts⟩ := hbooks
    obtain ⟨rfl, hrunning⟩ := hadvances
    have hroom := hleft (.counting upload images) hrunning (by rw [hlimit]; rfl) kind hcounts
    rw [show (uploads cfg).advance = advanceUpload cfg from rfl, advance_books hlimit]
    simpa [Next.call?, UploadCall.held, hcounts] using hroom

/-! ### An upload alone -/

theorem uploadChecks_eq (env : Env) (s : Store) (kind : EvidenceKind) (reportId : String)
    (dto : UploadEvidenceDto) (user : JwtUser) :
    uploadChecks env s kind reportId dto user =
      uploadReads env s kind reportId dto user >>= fun (report, images) =>
        (uploadOf env kind reportId user report).assertLimit s images >>= fun _ =>
          .ok (report, images) := by
  cases kind <;> rfl

omit [Fintype ι] in
/-- A worker without a call does nothing. -/
theorem run_idle {st : Calls World ι UploadCall} {i : ι} (h : st.running i = none)
    (input : UploadInput) (n : ℕ) :
    run (uploads cfg).step st (List.replicate n (.advance i input)) = st := by
  induction n with
  | zero => rfl
  | succ n ih =>
    have hstep : (uploads cfg).step (.advance i input) st = st := by
      simp only [Protocol.step, h]
    rw [List.replicate_succ, run_cons, hstep, ih]

omit [Fintype ι] in
/-- The next step of the call of a worker. -/
theorem step_update (w : World) (running : ι → Option UploadCall) (i : ι) (call : UploadCall)
    (input : UploadInput) :
    (uploads cfg).step (.advance i input) ⟨w, Function.update running i (some call)⟩ =
      ⟨(advanceUpload cfg input call w).1,
        Function.update running i (advanceUpload cfg input call w).2.call?⟩ := by
  rw [(uploads cfg).step_of_advances ⟨rfl, Function.update_self i (some call) running⟩,
    Function.update_idem]
  rfl

/-- The records are those of the loop, whatever the store held. -/
theorem afterLoop_records (env : Env) (site : Site) (s : Store) (records : List EvidenceRecord)
    (result : Progress × Option HttpError) :
    afterLoop cfg env site upload { s with evidenceRecords := records } result =
      afterLoop cfg env site upload s result := by
  rcases result with ⟨p, _ | e⟩ <;> rfl

omit [Fintype ι] in
/-- Alone, the steps of an upload come to what its loop comes to. -/
theorem run_saving (input : UploadInput) (running : ι → Option UploadCall) (i : ι)
    (images : List EvidenceImage) {savedItems : List SavedEvidenceFile} :
    run (uploads cfg).step
        ⟨w, Function.update running i (some (.saving upload index images savedItems))⟩
        (List.replicate (2 * images.length + 1) (.advance i input)) =
      ⟨(afterLoop cfg input.env input.site upload w.store (uploadImages input.site upload index
          images ⟨w.files, w.store.evidenceRecords, [], savedItems⟩)).1,
        Function.update running i none⟩ := by
  have hidle : ∀ (w : World) (n : ℕ), run (uploads cfg).step ⟨w, Function.update running i none⟩
      (List.replicate n (.advance i input)) = ⟨w, Function.update running i none⟩ :=
    fun w n => run_idle (Function.update_self i none running) input n
  induction images generalizing w index savedItems with
  | nil =>
    rw [List.length_nil, Nat.mul_zero, Nat.zero_add, List.replicate_one, run_cons, run_nil,
      step_update]
    rfl
  | cons image images ih =>
    rw [show 2 * (image :: images).length + 1 = (2 * images.length + 1) + 1 + 1 by
      rw [List.length_cons]; omega, List.replicate_succ, run_cons, step_update]
    unfold uploadImages uploadImage
    simp only [advanceUpload]
    cases upload.assess index with
    | some e => exact hidle w _
    | none =>
      rcases saveBase64Image input.site.toStorage index (upload.saveParams image) w.files with
        ⟨files, e | saved⟩
      · exact hidle _ _
      · dsimp only [Next.call?]
        rw [List.replicate_succ, run_cons, step_update]
        simp only [advanceUpload]
        cases input.site.create index with
        | some e => exact hidle _ _
        | none =>
          have hunpersisted : ([] ++ [saved] : List SavedEvidenceFile).erase saved = [] := by simp
          rw [hunpersisted]
          exact ih.trans (by rw [afterLoop_records])

omit [Fintype ι] in
/-- An upload whose steps no other call's come between is the upload of the service. -/
theorem run_alone (input : UploadInput) (i : ι) (request : UploadRequest) (w : World) : ∃ n,
    run (uploads cfg).step (Calls.quiet w) (.start i request ::
        List.replicate n (.advance i input)) =
      Calls.quiet (uploadEvidence cfg input.env input.site request.kind request.reportId request.dto
        request.user w).1 := by
  have hquiet : ∀ w : World,
      (⟨w, Function.update (fun _ => none) i none⟩ : Calls World ι UploadCall) =
      Calls.quiet w := fun w => by rw [Function.update_eq_self]; rfl
  have hstart : (uploads cfg).step (.start i request) (Calls.quiet w) =
      ⟨w, Function.update (fun _ => none) i (some (.request request))⟩ := rfl
  rw [uploadEvidence_eq, uploadChecks_eq]
  cases hreads : uploadReads input.env w.store request.kind request.reportId request.dto
      request.user with
  | error e =>
    refine ⟨1, ?_⟩
    rw [run_cons, hstart, List.replicate_one, run_cons, step_update, run_nil]
    simp only [advanceUpload, hreads, orThrows, Next.call?]
    exact hquiet w
  | ok read =>
    obtain ⟨report, images⟩ := read
    cases hlimit : (uploadOf input.env request.kind request.reportId request.user
        report).assertLimit w.store images with
    | error e =>
      refine ⟨2, ?_⟩
      rw [run_cons, hstart, List.replicate_succ, run_cons, step_update]
      simp only [advanceUpload, hreads, orThrows, Next.call?]
      rw [List.replicate_one, run_cons, step_update, run_nil]
      simp only [advanceUpload, hlimit, orThrows, Next.call?]
      rw [ok_bind]
      simp only [hlimit]
      exact hquiet w
    | ok =>
      refine ⟨2 * images.length + 1 + 1 + 1, ?_⟩
      rw [run_cons, hstart, List.replicate_succ, run_cons, step_update]
      simp only [advanceUpload, hreads, orThrows, Next.call?]
      rw [List.replicate_succ, run_cons, step_update, advance_books hlimit]
      simp only [Next.call?]
      rw [run_saving, hquiet, ok_bind]
      simp only [hlimit]
      rfl

/-! ### Examples -/

namespace Example

/-- The citizen uploads some pictures of the report. -/
def pictureRequest (count : ℕ) : UploadRequest where
  kind := .reportEvidence
  reportId := "report-1"
  dto := { images := List.replicate count picture }
  user := citizen

/-- A deployment where everything is written. -/
def found : UploadInput := ⟨{}, siteWith (fun _ => .done) fun _ => none⟩

/-- Two uploads of so many pictures, step by step in turn. -/
def sideBySide (count : ℕ) : List (Turn (Fin 2) UploadRequest UploadInput) :=
  [.start 0 (pictureRequest count), .start 1 (pictureRequest count)] ++
    (List.replicate (2 + 2 * count) [.advance 0 found, .advance 1 found]).flatten

theorem withinLimits_world : WithinLimits world.store := fun _ _ => Nat.zero_le _

end Example

/-- Two uploads of two pictures find room beside each other. -/
theorem limits_kept_two_and_two :
    Throughout (uploads {}).step (fun st => WithinLimits st.state.store)
      (Calls.quiet Example.world) (Example.sideBySide 2) :=
  limits_kept_of_room {} Example.withinLimits_world (by decide +kernel)

/-- Two uploads of three pictures both count none, and leave six. -/
theorem six_pictures_recorded :
    evidenceCount (run (uploads {}).step (Calls.quiet Example.world)
        (Example.sideBySide 3)).state.store "report-1" "report-evidence" = 6 ∧
      ¬∀ (cfg : Config) (w : World) (turns : List (Turn (Fin 2) UploadRequest UploadInput)),
        WithinLimits w.store → Throughout (uploads cfg).step
          (fun st => WithinLimits st.state.store) (Calls.quiet w) turns := by
  have hsix : evidenceCount (run (uploads {}).step (Calls.quiet Example.world)
      (Example.sideBySide 3)).state.store "report-1" "report-evidence" = 6 := by
    decide +kernel
  refine ⟨hsix, fun h => ?_⟩
  have hlast := throughout_iff.mp (h {} Example.world (Example.sideBySide 3)
    Example.withinLimits_world) (Example.sideBySide 3) [] (List.append_nil _).symm
  have hfive := hlast "report-1" .reportEvidence
  rw [EvidenceKind.text, hsix] at hfive
  exact absurd hfive (by decide)

end FixZone.ReportService.EvidenceFiles

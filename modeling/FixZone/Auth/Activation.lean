import FixZone.Auth.SingleUse

/-!
# An active second factor stays the one

Once a user has an active enrollment, every login of theirs is to be completed with it,
and a session that was opened before is not to start or activate another. Nothing takes
the status of an active enrollment away, and a challenge is made with the active one only;
but a session for enrollment stays one after the activation, and the two methods that take
it do not ask whether there is an active enrollment by now. So nothing is bypassed exactly
as long as no session older than an activation starts an enrollment, and none is activated
while the user has an active one (`no_bypass_iff`).
-/

namespace FixZone.AuthService

open Library Accounts PrivilegedMfaService

/-- An enrollment of a user was activated. -/
def Activated (history : List Happening) (userId enrollmentId : String) : Prop :=
  ∃ sessionId step, .activated sessionId userId enrollmentId step ∈ history

/-- A session of a user was opened. -/
def Opened (history : List Happening) (sessionId userId : String) : Prop :=
  ∃ epoch, .opened sessionId userId epoch ∈ history

/-- A session was opened before an enrollment of its user was activated. -/
def Stale (history : List Happening) (sessionId userId : String) : Prop :=
  ∃ since before, history = since ++ before ∧
    (∃ enrollmentId, Activated since userId enrollmentId) ∧
    Opened before sessionId userId

/-- What happens after an activation keeps to the enrollment that was activated. -/
def KeepsTo (before : List Happening) : Happening → Prop
  | .started sessionId userId _ => ¬ Stale before sessionId userId
  | .activated sessionId userId enrollmentId _ => ¬ Stale before sessionId userId ∧
      ∀ active, Activated before userId active → enrollmentId = active
  | .challenged _ userId factor =>
      ∀ active, Activated before userId active → factor.enrollmentId = active
  | _ => True

/-- An enrollment of a user is active. -/
def IsActive (enrollments : Table PrivilegedMfaEnrollment.id) (enrollmentId userId : String) :
    Prop :=
  ∃ row, enrollments.find? enrollmentId = some row ∧ row.userId = userId ∧ row.status = .active

/-- No user has two active enrollments. -/
def OneActive (enrollments : Table PrivilegedMfaEnrollment.id) : Prop :=
  ∀ enrollmentId other userId, IsActive enrollments enrollmentId userId →
    IsActive enrollments other userId → enrollmentId = other

/-- The second factor of no user was bypassed or replaced. -/
structure NoBypass (w : World) : Prop where
  history : ∀ since happening before, w.history = since ++ happening :: before →
    KeepsTo before happening
  oneActive : OneActive w.store.enrollments

/-- The write of `startEnrollment` goes through. -/
def StartsEnrollment (d : Deployment) (input : Input) (w : World) : Prop :=
  (∃ text, d.crypto.encrypt input.iv (base32Encode input.secretBytes) = .ok text) ∧
    w.store.enrollments.find? input.newId = none

/-- A step starts no enrollment in a session older than an activation, and activates none for a
user who has an active one. -/
def RespectsActive (d : Deployment) (input : Input) (call : Call) (w : World) : Prop :=
  match call with
  | .storeEnrollment validated =>
      StartsEnrollment d input w → ¬ Stale w.history validated.sessionId validated.user.id
  | .activate validated enrollmentId step =>
      completion d input w (.activate validated enrollmentId step) ≠ none →
        ∀ active, ¬ IsActive w.store.enrollments active validated.user.id
  | _ => True

/-! ### Histories -/

variable {history : List Happening} {happening : Happening} {sessionId userId enrollmentId : String}

theorem Activated.cons (h : Activated history userId enrollmentId) :
    Activated (happening :: history) userId enrollmentId := by
  obtain ⟨sessionId, step, hmem⟩ := h
  exact ⟨sessionId, step, List.mem_cons_of_mem _ hmem⟩

theorem Opened.cons (h : Opened history sessionId userId) :
    Opened (happening :: history) sessionId userId := by
  obtain ⟨epoch, hmem⟩ := h
  exact ⟨epoch, List.mem_cons_of_mem _ hmem⟩

theorem Stale.cons (h : Stale history sessionId userId) :
    Stale (happening :: history) sessionId userId := by
  obtain ⟨since, before, rfl, ⟨enrollmentId, hactivated⟩, hopened⟩ := h
  exact ⟨happening :: since, before, rfl, ⟨enrollmentId, hactivated.cons⟩, hopened⟩

/-- An activation makes every session of the user stale that was opened before. -/
theorem stale_of_activated (hopened : Opened history sessionId userId) (own : String) (step : ℕ) :
    Stale (.activated own userId enrollmentId step :: history) sessionId userId :=
  ⟨[_], history, rfl, ⟨enrollmentId, own, step, List.mem_singleton_self _⟩, hopened⟩

theorem Stale.activated (h : Stale history sessionId userId) :
    ∃ enrollmentId, Activated history userId enrollmentId := by
  obtain ⟨since, before, rfl, ⟨enrollmentId, own, step, hmem⟩, -⟩ := h
  exact ⟨enrollmentId, own, step, List.mem_append_left _ hmem⟩

/-- What has to be asked after one more thing has happened. -/
theorem NoBypass.write_iff {w : World} (h : NoBypass w) (s : AuthStore) :
    NoBypass (w.write s happening) ↔ KeepsTo w.history happening ∧ OneActive s.enrollments := by
  constructor
  · intro h'
    exact ⟨h'.history [] happening w.history rfl, h'.oneActive⟩
  · rintro ⟨hkeeps, hone⟩
    refine ⟨fun since next before heq => ?_, hone⟩
    cases since with
    | nil =>
      obtain ⟨rfl, rfl⟩ := List.cons.inj heq
      exact hkeeps
    | cons first since => exact h.history since next before (List.cons.inj heq).2

/-! ### What a step does to enrollments and sessions -/

/-- An enrollment is one of a user. -/
def HasEnrollment (enrollments : Table PrivilegedMfaEnrollment.id)
    (enrollmentId userId : String) : Prop :=
  ∃ row, enrollments.find? enrollmentId = some row ∧ row.userId = userId

/-- A session is one of a user. -/
def HasSession (sessions : Table PrivilegedMfaPreAuthSession.id) (sessionId userId : String) :
    Prop :=
  ∃ row, sessions.find? sessionId = some row ∧ row.userId = userId

/-- What holds of the world whatever has happened: an enrollment that was activated is active, and
a session has been opened. -/
structure Recorded (w : World) : Prop where
  active : ∀ userId enrollmentId, Activated w.history userId enrollmentId →
    IsActive w.store.enrollments enrollmentId userId
  opened : ∀ sessionId userId, HasSession w.store.sessions sessionId userId →
    Opened w.history sessionId userId

/-- What a call has found out about sessions and enrollments, and what of it still holds. -/
def Knows : Call → World → Prop
  | .storeEnrollment validated, w | .confirmCode validated _, w =>
      Opened w.history validated.sessionId validated.user.id
  | .activate validated enrollmentId _, w =>
      Opened w.history validated.sessionId validated.user.id ∧
        HasEnrollment w.store.enrollments enrollmentId validated.user.id ∧
        (IsActive w.store.enrollments enrollmentId validated.user.id →
          Stale w.history validated.sessionId validated.user.id)
  | .consumeTotp validated enrollmentId _, w | .findRecoveryCode validated enrollmentId _, w
  | .consumeCode validated enrollmentId _, w =>
      IsActive w.store.enrollments enrollmentId validated.user.id
  | _, _ => True

variable {d : Deployment} {input : Input} {w : World} {call call' : Call}

/-- A step activates an enrollment of a user. -/
def Activates (d : Deployment) (input : Input) (call : Call) (w : World)
    (userId enrollmentId : String) : Prop :=
  ∃ sessionId step, completion d input w call =
    some (.activated sessionId userId enrollmentId step)

theorem isActive_startedStore {now : Millis} {s : AuthStore} {row : PrivilegedMfaEnrollment}
    (hfree : s.enrollments.find? row.id = none) (hpending : row.status = .pending) :
    IsActive (startedStore now s row).enrollments enrollmentId userId ↔
      IsActive s.enrollments enrollmentId userId := by
  have hfree' : (replacePending now s row.userId).find? row.id = none :=
    Table.find?_modifyWhere_eq_none hfree _ _
  unfold IsActive startedStore
  rw [Table.find?_insert_of_free hfree']
  split
  · next hid =>
    rw [hid, hfree]
    simp [hpending]
  · rw [replacePending, Table.find?_modifyWhere]
    cases s.enrollments.find? enrollmentId with
    | none => exact Iff.rfl
    | some found =>
      by_cases hreplaced : found.userId = row.userId ∧ found.status = .pending
      · simp [hreplaced.1, hreplaced.2]
      · simp [hreplaced]

theorem isActive_activated {t : Table PrivilegedMfaEnrollment.id} {now : Millis} {own : String}
    {row : PrivilegedMfaEnrollment} (hrow : t.find? own = some row) :
    IsActive (t.modify own (activatedData now)) enrollmentId userId ↔
      IsActive t enrollmentId userId ∨ enrollmentId = own ∧ row.userId = userId := by
  unfold IsActive
  rw [Table.find?_modify]
  split
  · next hown => simp +contextual [hown, hrow]
  · next hother => rw [or_iff_left fun h => hother h.1]

theorem isActive_verified {t : Table PrivilegedMfaEnrollment.id} {step : ℕ} {own : String} :
    IsActive (t.modify own (verifiedData step)) enrollmentId userId ↔
      IsActive t enrollmentId userId := by
  unfold IsActive
  rw [Table.find?_modify]
  split
  · cases t.find? enrollmentId <;> simp
  · exact Iff.rfl

/-- The enrollments that are active after a step. -/
theorem isActive_advance (h : Knows call w) :
    IsActive (advance d input w call).1.store.enrollments enrollmentId userId ↔
      IsActive w.store.enrollments enrollmentId userId ∨
        Activates d input call w userId enrollmentId := by
  unfold Activates
  cases hcompletes : completion d input w call with
  | none =>
    rw [or_iff_left (by simp)]
    have heffect := advance_effect hcompletes
    generalize (advance d input w call).1 = w' at heffect
    cases heffect with
    | started validated row hid huser hpending hunverified hfree =>
      exact isActive_startedStore hfree hpending
    | _ => exact Iff.rfl
  | some happening =>
    rw [advance_of_completion hcompletes]
    cases completes_of_completion hcompletes with
    | activated validated own step hfound hsession =>
      obtain ⟨-, ⟨row, hrow, huser⟩, -⟩ := h
      refine (isActive_activated hrow).trans (or_congr_right ?_)
      rw [huser]
      constructor
      · rintro ⟨rfl, rfl⟩
        exact ⟨_, _, rfl⟩
      · rintro ⟨sessionId, step', heq⟩
        cases heq
        exact ⟨rfl, rfl⟩
    | totp validated own step hnew hsession =>
      exact isActive_verified.trans (or_iff_left (by simp)).symm
    | recoveryCode validated own backupCode hunused hsession =>
      exact (or_iff_left (by simp)).symm

/-- The activations after a step. -/
theorem activated_advance :
    Activated (advance d input w call).1.history userId enrollmentId ↔
      Activated w.history userId enrollmentId ∨ Activates d input call w userId enrollmentId := by
  unfold Activates Activated
  cases hcompletes : completion d input w call with
  | none =>
    rw [or_iff_left (by simp)]
    have heffect := advance_effect hcompletes
    generalize (advance d input w call).1 = w' at heffect
    cases heffect <;> simp [World.write, World.setAccounts]
  | some happening =>
    rw [advance_of_completion hcompletes]
    simp only [World.write, List.mem_cons, Option.some.injEq, exists_or, eq_comm (a := happening)]
    exact or_comm

/-- A history only grows. -/
theorem history_advance (d : Deployment) (input : Input) (w : World) (call : Call) :
    (advance d input w call).1.history = w.history ∨ ∃ happening,
      (advance d input w call).1.history = happening :: w.history := by
  cases hcompletes : completion d input w call with
  | none =>
    have heffect := advance_effect hcompletes
    generalize (advance d input w call).1 = w' at heffect
    cases heffect with
    | reads => exact .inl rfl
    | accounts => exact .inl rfl
    | failed => exact .inl rfl
    | _ => exact .inr ⟨_, rfl⟩
  | some happening =>
    rw [advance_of_completion hcompletes]
    exact .inr ⟨happening, rfl⟩

theorem opened_advance (h : Opened w.history sessionId userId) :
    Opened (advance d input w call).1.history sessionId userId := by
  obtain hsame | ⟨happening, hgrown⟩ := history_advance d input w call
  · rwa [hsame]
  · rw [hgrown]
    exact h.cons

theorem stale_advance (h : Stale w.history sessionId userId) :
    Stale (advance d input w call).1.history sessionId userId := by
  obtain hsame | ⟨happening, hgrown⟩ := history_advance d input w call
  · rwa [hsame]
  · rw [hgrown]
    exact h.cons

theorem hasEnrollment_modify {t : Table PrivilegedMfaEnrollment.id} {own : String}
    {data : Patch PrivilegedMfaEnrollment.id} (hdata : ∀ row, (data.apply row).userId = row.userId)
    (h : HasEnrollment t enrollmentId userId) :
    HasEnrollment (t.modify own data) enrollmentId userId := by
  obtain ⟨row, hrow, huser⟩ := h
  unfold HasEnrollment
  rw [Table.find?_modify, hrow]
  split
  · exact ⟨_, rfl, (hdata row).trans huser⟩
  · exact ⟨row, rfl, huser⟩

theorem hasEnrollment_startedStore {now : Millis} {s : AuthStore} {new : PrivilegedMfaEnrollment}
    (h : HasEnrollment s.enrollments enrollmentId userId) :
    HasEnrollment (startedStore now s new).enrollments enrollmentId userId := by
  obtain ⟨row, hrow, huser⟩ := h
  have hreplaced := Table.find?_modifyWhere s.enrollments
    (fun row => row.userId = new.userId && row.status = .pending) (replacedData now) enrollmentId
  rw [hrow, Option.map_some] at hreplaced
  refine ⟨_, Table.find?_insert_of_some hreplaced, ?_⟩
  split <;> exact huser

theorem hasEnrollment_advance (h : HasEnrollment w.store.enrollments enrollmentId userId) :
    HasEnrollment (advance d input w call).1.store.enrollments enrollmentId userId := by
  cases hcompletes : completion d input w call with
  | none =>
    have heffect := advance_effect hcompletes
    generalize (advance d input w call).1 = w' at heffect
    cases heffect with
    | started validated new =>
      exact hasEnrollment_startedStore h
    | _ => exact h
  | some happening =>
    rw [advance_of_completion hcompletes]
    cases completes_of_completion hcompletes with
    | activated => exact hasEnrollment_modify (fun _ => rfl) h
    | totp => exact hasEnrollment_modify (fun _ => rfl) h
    | recoveryCode => exact h

theorem hasSession_of_modify {t : Table PrivilegedMfaPreAuthSession.id} {own : String}
    {data : Patch PrivilegedMfaPreAuthSession.id}
    (hdata : ∀ row, (data.apply row).userId = row.userId)
    (h : HasSession (t.modify own data) sessionId userId) : HasSession t sessionId userId := by
  obtain ⟨row, hrow, huser⟩ := h
  rw [Table.find?_modify] at hrow
  split at hrow
  · obtain ⟨before, hbefore, rfl⟩ := Option.map_eq_some_iff.mp hrow
    exact ⟨before, hbefore, (hdata before).symm.trans huser⟩
  · exact ⟨row, hrow, huser⟩

/-- A session that is there after a step was there before, or is opened by it. -/
theorem hasSession_of_advance
    (h : HasSession (advance d input w call).1.store.sessions sessionId userId) :
    HasSession w.store.sessions sessionId userId ∨
      Opened (advance d input w call).1.history sessionId userId := by
  cases hcompletes : completion d input w call with
  | none =>
    have heffect := advance_effect hcompletes
    generalize (advance d input w call).1 = w' at heffect h
    cases heffect with
    | opened user purpose epoch hfree =>
      obtain ⟨row, hrow, huser⟩ := h
      have hfind := Table.find?_insert_of_free (r := preAuthSession d.crypto input.now input.newId
        input.rawToken user.id purpose) hfree sessionId
      split at hfind
      · next hid =>
        obtain rfl := Option.some.inj (hfind.symm.trans hrow)
        refine .inr ⟨epoch, ?_⟩
        rw [← huser, hid]
        exact List.mem_cons_self
      · exact .inl ⟨row, hfind.symm.trans hrow, huser⟩
    | failed validated => exact .inl (hasSession_of_modify (fun _ => rfl) h)
    | _ => exact .inl h
  | some happening =>
    rw [advance_of_completion hcompletes] at h
    cases completes_of_completion hcompletes <;>
      exact .inl (hasSession_of_modify (fun _ => rfl) h)

/-! ### What a call knows -/

theorem Recorded.advance (h : Recorded w) (hknows : Knows call w) :
    Recorded (advance d input w call).1 := by
  constructor
  · intro userId enrollmentId hactivated
    exact (isActive_advance hknows).mpr ((activated_advance.mp hactivated).imp_left
      (h.active userId enrollmentId))
  · intro sessionId userId hsession
    rcases hasSession_of_advance hsession with hbefore | hopened
    · exact opened_advance (h.opened sessionId userId hbefore)
    · exact hopened

/-- What a call knows still holds after a step of any other. -/
theorem Knows.advance (h : Knows call w) (h' : Knows call' w) :
    Knows call' (advance d input w call).1 := by
  have hactive : ∀ {enrollmentId userId}, IsActive w.store.enrollments enrollmentId userId →
      IsActive (AuthService.advance d input w call).1.store.enrollments enrollmentId userId :=
    fun hbefore => (isActive_advance h).mpr (.inl hbefore)
  cases call' with
  | storeEnrollment | confirmCode => exact opened_advance h'
  | activate validated enrollmentId step =>
    obtain ⟨hopened, henrollment, hstale⟩ := h'
    refine ⟨opened_advance hopened, hasEnrollment_advance henrollment, fun hnow => ?_⟩
    rcases (isActive_advance h).mp hnow with hbefore | ⟨own, step', hcompletes⟩
    · exact stale_advance (hstale hbefore)
    · rw [advance_of_completion hcompletes]
      exact stale_of_activated hopened own step'
  | consumeTotp | findRecoveryCode | consumeCode => exact hactive h'
  | _ => trivial

theorem opened_of_validatePreAuth {preAuthToken : String} {purpose : PrivilegedMfaPreAuthPurpose}
    {validated : PreAuthValidation} (h : Recorded w)
    (hvalid : validatePreAuth d.crypto input.now w.store preAuthToken purpose = .ok validated) :
    Opened w.history validated.sessionId validated.user.id := by
  obtain ⟨session, hsession, huser, -⟩ := validatePreAuth_eq_ok hvalid
  exact h.opened _ _ ⟨session, hsession, huser⟩

/-- What a call goes on with is what it has found. -/
theorem knows_of_goes (h : Recorded w) (hknows : Knows call w) (hgoes : Goes d input w call call') :
    Knows call' w := by
  cases hgoes with
  | startMfaEnrollment preAuthToken validated hvalid => exact opened_of_validatePreAuth h hvalid
  | confirmMfaEnrollment preAuthToken code validated hvalid =>
    exact opened_of_validatePreAuth h hvalid
  | activate validated code enrollment step hpending =>
    obtain ⟨hrow, huser, hstatus⟩ := pendingEnrollment_eq_some hpending
    refine ⟨hknows, ⟨enrollment, hrow, huser⟩, ?_⟩
    rintro ⟨row, hrow', -, hactive⟩
    rw [hrow] at hrow'
    rw [← Option.some.inj hrow', hstatus] at hactive
    cases hactive
  | consumeTotp validated code enrollment step hactive =>
    exact ⟨enrollment, activeEnrollment_eq_some hactive⟩
  | findRecoveryCode validated code enrollment hactive =>
    exact ⟨enrollment, activeEnrollment_eq_some hactive⟩
  | consumeCode validated enrollmentId codeDigest backupCode => exact hknows
  | _ => trivial

/-! ### No bypass -/

theorem oneActive_advance (h : Knows call w) (hone : OneActive w.store.enrollments)
    (hnone : ∀ userId enrollmentId, ¬ Activates d input call w userId enrollmentId) :
    OneActive (advance d input w call).1.store.enrollments := by
  intro enrollmentId other userId hactive hother
  rw [isActive_advance h, or_iff_left (hnone _ _)] at hactive hother
  exact hone enrollmentId other userId hactive hother

variable (d input w) in
/-- The write of `startEnrollment`, or nothing. -/
theorem storeEnrollment_advance (validated : PreAuthValidation) :
    (¬ StartsEnrollment d input w ∧
        (advance d input w (.storeEnrollment validated)).1 = w) ∨
      (StartsEnrollment d input w ∧ ∃ s enrollmentId,
        (advance d input w (.storeEnrollment validated)).1 =
          w.write s (.started validated.sessionId validated.user.id enrollmentId)) := by
  unfold advance storeEnrollmentStep StartsEnrollment
  dsimp only
  cases htext : d.crypto.encrypt input.iv (base32Encode input.secretBytes) with
  | error e =>
    refine .inl ⟨?_, rfl⟩
    rintro ⟨⟨text, h⟩, -⟩
    cases h
  | ok text =>
    rw [orThrows]
    cases hcreate : createEnrollment input.now w.store _ with
    | error e =>
      refine .inl ⟨fun h => ?_, rfl⟩
      rw [createEnrollment_eq_ok.mpr ⟨h.2, rfl⟩] at hcreate
      cases hcreate
    | ok s =>
      exact .inr ⟨⟨⟨text, rfl⟩, (createEnrollment_eq_ok.mp hcreate).1⟩, s, input.newId, rfl⟩

/-- Where no login is completed and no enrollment started, nothing is bypassed. -/
theorem noBypass_of_effect {w' : World} (heffect : Effect d input w call w')
    (hcall : ∀ validated, call ≠ .storeEnrollment validated) (h : NoBypass w)
    (hone : OneActive w'.store.enrollments) : NoBypass w' := by
  cases heffect with
  | started validated => exact absurd rfl (hcall validated)
  | reads => exact h
  | accounts => exact ⟨h.history, hone⟩
  | failed => exact ⟨h.history, hone⟩
  | opened => exact (h.write_iff _).mpr ⟨trivial, hone⟩
  | issued => exact (h.write_iff _).mpr ⟨trivial, hone⟩
  | password => exact (h.write_iff _).mpr ⟨trivial, hone⟩
  | revocation => exact (h.write_iff _).mpr ⟨trivial, hone⟩

/-- A challenge is made with the active enrollment of the user. -/
theorem noBypass_challenged {validated : PreAuthValidation} {factor : Factor} {s : AuthStore}
    (h : Recorded w) (hkeeps : NoBypass w)
    (hactive : IsActive w.store.enrollments factor.enrollmentId validated.user.id)
    (hone : OneActive s.enrollments) :
    NoBypass (w.write s (.challenged validated.sessionId validated.user.id factor)) :=
  (hkeeps.write_iff _).mpr ⟨fun active hactivated => hkeeps.oneActive _ _ _ hactive
    (h.active _ active hactivated), hone⟩

/-- An activation bypasses nothing if and only if the user has no active enrollment. -/
theorem noBypass_activated {validated : PreAuthValidation} {own : String} {step : ℕ}
    (h : Recorded w) (hknows : Knows (.activate validated own step) w) (hkeeps : NoBypass w)
    (hcompletes : completion d input w (.activate validated own step) =
      some (.activated validated.sessionId validated.user.id own step)) :
    NoBypass (w.write (completedStore d input w (.activate validated own step))
        (.activated validated.sessionId validated.user.id own step)) ↔
      ∀ active, ¬ IsActive w.store.enrollments active validated.user.id := by
  have hafter : ∀ enrollmentId userId, IsActive
      (completedStore d input w (.activate validated own step)).enrollments enrollmentId userId ↔
      IsActive w.store.enrollments enrollmentId userId ∨
        enrollmentId = own ∧ validated.user.id = userId := by
    obtain ⟨-, ⟨row, hrow, huser⟩, -⟩ := hknows
    intro enrollmentId userId
    rw [← huser]
    exact isActive_activated hrow
  obtain ⟨-, -, hstale⟩ := hknows
  rw [hkeeps.write_iff]
  constructor
  · rintro ⟨⟨hfresh, -⟩, hone⟩ active hactive
    obtain rfl : active = own := hone _ _ _ ((hafter _ _).mpr (.inl hactive))
      ((hafter _ _).mpr (.inr ⟨rfl, rfl⟩))
    exact hfresh (hstale hactive)
  · intro hnone
    refine ⟨⟨fun hstale => ?_, fun active hactivated => ?_⟩, fun enrollmentId other userId => ?_⟩
    · obtain ⟨active, hactivated⟩ := hstale.activated
      exact hnone active (h.active _ _ hactivated)
    · exact absurd (h.active _ _ hactivated) (hnone active)
    · rw [hafter, hafter]
      rintro (hactive | ⟨rfl, rfl⟩) (hother | ⟨rfl, huser⟩)
      · exact hkeeps.oneActive _ _ _ hactive hother
      · exact absurd (huser ▸ hactive) (hnone _)
      · exact absurd hother (hnone _)
      · rfl

theorem noBypass_advance (h : Recorded w) (hknows : Knows call w) (hkeeps : NoBypass w) :
    NoBypass (advance d input w call).1 ↔ RespectsActive d input call w := by
  have hone : (∀ userId enrollmentId, ¬ Activates d input call w userId enrollmentId) →
      OneActive (advance d input w call).1.store.enrollments :=
    oneActive_advance hknows hkeeps.oneActive
  cases hcompletes : completion d input w call with
  | none =>
    replace hone := hone (by simp [Activates, hcompletes])
    cases call with
    | storeEnrollment validated =>
      unfold RespectsActive
      dsimp only
      rcases storeEnrollment_advance d input w validated with
        ⟨hnot, hsame⟩ | ⟨hstarts, s, enrollmentId, hwrite⟩
      · rw [hsame]
        exact iff_of_true hkeeps fun hstarts => absurd hstarts hnot
      · rw [hwrite] at hone ⊢
        rw [hkeeps.write_iff]
        exact ⟨fun hfresh _ => hfresh.1, fun hfresh => ⟨hfresh hstarts, hone⟩⟩
    | activate validated own step =>
      exact iff_of_true (noBypass_of_effect (advance_effect hcompletes) (by simp) hkeeps hone)
        fun hne => absurd hcompletes hne
    | _ =>
      exact iff_of_true (noBypass_of_effect (advance_effect hcompletes) (by simp) hkeeps hone)
        trivial
  | some happening =>
    rw [advance_of_completion hcompletes] at hone ⊢
    cases completes_of_completion hcompletes with
    | activated validated own step hfound hsession =>
      rw [noBypass_activated h hknows hkeeps hcompletes]
      have hne : completion d input w (.activate validated own step) ≠ none := by
        rw [hcompletes]
        exact Option.some_ne_none _
      exact ⟨fun hnone _ => hnone, fun hnone => hnone hne⟩
    | totp validated own step hnew hsession =>
      exact iff_of_true (noBypass_challenged h hkeeps hknows
        (hone (by simp [Activates, hcompletes]))) trivial
    | recoveryCode validated own backupCode hunused hsession =>
      exact iff_of_true (noBypass_challenged h hkeeps hknows
        (hone (by simp [Activates, hcompletes]))) trivial

theorem start_recorded (accounts : Store) (resetTokens : Table PasswordResetToken.id) :
    Recorded (.start accounts resetTokens) := by
  constructor
  · rintro userId enrollmentId ⟨sessionId, step, hmem⟩
    cases hmem
  · rintro sessionId userId ⟨row, hrow, -⟩
    cases hrow

theorem start_noBypass (accounts : Store) (resetTokens : Table PasswordResetToken.id) :
    NoBypass (.start accounts resetTokens) := by
  constructor
  · intro since happening before heq
    cases since <;> cases heq
  · rintro enrollmentId other userId ⟨row, hrow, -⟩
    cases hrow

/-- **No bypass.** Over all interleavings of the requests, whatever follows the activation of an
enrollment keeps to it exactly as long as no enrollment is started in a session that is older than
an activation, and none is activated for a user who has an active one. -/
theorem no_bypass_iff (d : Deployment) (accounts : Store)
    (resetTokens : Table PasswordResetToken.id) {ι : Type} [DecidableEq ι]
    (turns : List (Turn ι Request Input)) :
    Throughout (protocol d).step (fun st => NoBypass st.state)
        (.quiet (.start accounts resetTokens)) turns ↔
      Along (protocol d).step (Calls.StepMeets (RespectsActive d))
        (.quiet (.start accounts resetTokens)) turns :=
  (protocol d).throughout_iff (fun _ _ _ => trivial)
    (fun _ _ _ hG hL _ _ => hG.advance hL)
    (fun _ _ _ hG hL _ hgoes => hL.advance (knows_of_goes hG hL (advance_goes hgoes)))
    (fun _ _ _ _ hL _ hL' => hL.advance hL')
    (fun _ _ _ hG hL hI => noBypass_advance hG hL hI)
    (start_recorded accounts resetTokens) (start_noBypass accounts resetTokens) turns

/-! ### A second enrollment -/

namespace Example

/-- A second session is opened before the enrollment is confirmed in the first. -/
def opensTwo : List (Turn ℕ Request Input) :=
  .start 1 (.login { email := some "admin@fixzone.ng", password := "Password1" }) ::
    goOn 1 3 "other" ++ enrolls ++
    .start 0 (.confirmMfaEnrollment "session" "287082") :: goOn 0 4 "first"

/-- Another enrollment is started and confirmed in the second. -/
def enrollsAgain : List (Turn ℕ Request Input) :=
  opensTwo ++ .start 1 (.startMfaEnrollment "other") :: goOn 1 2 "replacement" ++
    .start 1 (.confirmMfaEnrollment "other" "287082") :: goOn 1 4 "second"

/-- The active enrollments of a user. -/
def activeEnrollments (st : Calls World ℕ Call) (userId : String) : List String :=
  (st.state.store.enrollments.rows.filter fun row =>
    row.userId = userId && row.status = .active).map PrivilegedMfaEnrollment.id

theorem isActive_of_mem {st : Calls World ℕ Call} {enrollmentId userId : String}
    (h : enrollmentId ∈ activeEnrollments st userId) :
    IsActive st.state.store.enrollments enrollmentId userId := by
  obtain ⟨row, hmem, rfl⟩ := List.mem_map.mp h
  rw [List.mem_filter, Bool.and_eq_true, decide_eq_true_eq, decide_eq_true_eq] at hmem
  exact ⟨row, Table.mem_rows_iff.mp hmem.1, hmem.2⟩

end Example

open Example in
/-- A session from before the activation gets the user a second active enrollment. -/
theorem stale_session_replaces_enrollment : ¬ ∀ (d : Deployment) (accounts : Store)
    (resetTokens : Table PasswordResetToken.id) (turns : List (Turn ℕ Request Input)),
    Throughout (protocol d).step (fun st => NoBypass st.state)
      (.quiet (.start accounts resetTokens)) turns := by
  intro h
  have hone := (throughout_iff.mp (h deployment accounts (Table.empty _) enrollsAgain)
    enrollsAgain [] (List.append_nil _).symm).oneActive
  have hboth : activeEnrollments (run (protocol deployment).step
      (.quiet (.start accounts (Table.empty _))) enrollsAgain) "admin" =
        ["enrollment", "replacement"] := by
    decide +kernel
  have hactive : ∀ enrollmentId ∈ ["enrollment", "replacement"], IsActive _ enrollmentId "admin" :=
    fun enrollmentId hmem => isActive_of_mem (hboth ▸ hmem)
  exact absurd (hone _ _ _ (hactive "enrollment" (by simp)) (hactive "replacement" (by simp)))
    (by decide)

end FixZone.AuthService

import FixZone.InternalAdmin.Lifecycle
import FixZone.Library.Protocol
import FixZone.Users.Administration

/-!
# The last super administrator

Four operations of two services can put a super administrator out of action, and they
differ in what they ask. `setUserStatus` counts the other active super administrators, and
writes later; `suspendAdministrator` counts platform super administrators with them;
`updateUser` gives a super administrator another role without counting; and `removeRole`
counts, but writes no user. Here they are calls whose steps interleave. An active super
administrator remains exactly as long as every write that puts one out of action finds
another (`super_admin_remains_iff`).
-/

namespace FixZone.UsersService

open Library Accounts
open ReportService (HttpError)
open InternalAdminService (ProcessEnv)

/-! ### The calls -/

/-- The requests, with their actor as `JwtStrategy` has found them. -/
inductive LifecycleRequest where
  | setUserStatus (actor : User) (id : String) (status : AccountStatus)
  | updateUser (actor : User) (id : String) (dto : UpdateUserDto)
  | suspendAdministrator (actor : User) (targetUserId : String)
  | removeRole (actor : User) (assignmentId : String)

/-- A call: a request none of whose steps is made, a count, or a write. -/
inductive LifecycleCall where
  | request (request : LifecycleRequest)
  | countSuperAdmins (id : String) (status : AccountStatus)
  | writeStatus (id : String) (status : AccountStatus)
  | writeUpdate (id : String) (data : UserUpdateInput)
  | countForSuspension (targetUserId : String)
  | countForRemoval (assignment : InternalRoleAssignment)
  | writeRemoval (assignmentId : String)

/-- What a step makes of the store, and of its call. -/
abbrev LifecycleStep := Store × Next LifecycleCall (Except HttpError Unit)

section Steps

variable (env : ProcessEnv) (now : Millis) (s : Store)

/-- What a request reads and checks first. -/
def lifecycleRequestStep : LifecycleRequest → LifecycleStep
  | .setUserStatus actor id status =>
      orThrows s (setUserStatusTarget s actor id status) fun counts =>
        if counts then (s, .goesOn (.countSuperAdmins id status))
        else (s, .goesOn (.writeStatus id status))
  | .updateUser actor id dto =>
      orThrows s (updateUserInput s actor id dto) fun data => (s, .goesOn (.writeUpdate id data))
  | .suspendAdministrator actor targetUserId =>
      orThrows s (InternalAdminService.assertMaySuspend env now s actor targetUserId)
        fun (_ : Unit) => (s, .goesOn (.countForSuspension targetUserId))
  | .removeRole actor assignmentId =>
      orThrows s (InternalAdminService.removableAssignment env now s actor assignmentId)
        fun assignment =>
          if InternalAdminService.isSuperAdminRole assignment.role then
            (s, .goesOn (.countForRemoval assignment))
          else (s, .goesOn (.writeRemoval assignment.id))

/-- The next step of a call. -/
def lifecycleAdvance : LifecycleCall → LifecycleStep
  | .request request => lifecycleRequestStep env now s request
  | .countSuperAdmins id status =>
      orThrows s (assertNotFinalSuperAdmin s id) fun (_ : Unit) =>
        (s, .goesOn (.writeStatus id status))
  | .writeStatus id status =>
      orThrows s (writeUserStatus s id status) fun s' => (s', .returns (.ok ⟨⟩))
  | .writeUpdate id data =>
      orThrows s (writeUserUpdate s id data) fun s' => (s', .returns (.ok ⟨⟩))
  | .countForSuspension targetUserId =>
      orThrows s (InternalAdminService.assertNotFinalActiveSuperAdmin s targetUserId)
        fun (_ : Unit) => (s, .goesOn (.writeStatus targetUserId .suspended))
  | .countForRemoval assignment =>
      orThrows s (InternalAdminService.assertNotFinalActiveSuperAdmin s assignment.userId)
        fun (_ : Unit) => (s, .goesOn (.writeRemoval assignment.id))
  | .writeRemoval assignmentId =>
      orThrows s (InternalAdminService.revokeAssignment s assignmentId) fun s' =>
        (s', .returns (.ok ⟨⟩))

end Steps

/-- The interleavings of these calls; a step finds the clock. -/
def lifecycleProtocol (env : ProcessEnv) :
    Protocol Store LifecycleRequest LifecycleCall Millis (Except HttpError Unit) where
  init := .request
  advance now call s := lifecycleAdvance env now s call

/-! ### Active super administrators -/

/-- The user is an active super administrator. -/
def IsSuperAdmin (s : Store) (id : String) : Prop :=
  ∃ row, s.user? id = some row ∧ isActiveSuperAdmin row = true

/-- There is an active super administrator. -/
def HasSuperAdmin (s : Store) : Prop := ∃ id, IsSuperAdmin s id

/-- A write that puts an active super administrator out of action, by the status or by the role,
finds another. -/
def LeavesSuperAdmin (_ : Millis) (call : LifecycleCall) (s : Store) : Prop :=
  match call with
  | .writeStatus id status => status ≠ .active → IsSuperAdmin s id →
      ∃ other, other ≠ id ∧ IsSuperAdmin s other
  | .writeUpdate id data => (∃ s', writeUserUpdate s id data = .ok s') →
      (∃ role, data.role = some role ∧ role ≠ .superAdmin) → IsSuperAdmin s id →
        ∃ other, other ≠ id ∧ IsSuperAdmin s other
  | _ => True

variable {env : ProcessEnv} {now : Millis} {s : Store} {id : String} {row : User}

theorem isSuperAdmin_updateUser (data : Patch User.id) (hrow : s.user? id = some row)
    (other : String) : IsSuperAdmin (s.updateUser id data) other ↔
      if other = id then isActiveSuperAdmin (data.apply row) = true else IsSuperAdmin s other := by
  unfold IsSuperAdmin Store.updateUser Store.user?
  rw [Table.find?_modify]
  split
  · next hid =>
    subst hid
    rw [show s.users.find? other = some row from hrow, Option.map_some]
    simp
  · exact Iff.rfl

/-- A write to a user leaves an active super administrator if and only if it leaves the user one
or there is another, where the user was one. -/
theorem hasSuperAdmin_updateUser (h : HasSuperAdmin s) (data : Patch User.id)
    (hrow : s.user? id = some row) : HasSuperAdmin (s.updateUser id data) ↔
      (isActiveSuperAdmin row = true → isActiveSuperAdmin (data.apply row) = false →
        ∃ other, other ≠ id ∧ IsSuperAdmin s other) := by
  constructor
  · rintro ⟨other, hother⟩ - hout
    rw [isSuperAdmin_updateUser data hrow] at hother
    split at hother
    · rw [hout] at hother
      cases hother
    · next hne => exact ⟨other, hne, hother⟩
  · intro hleaves
    by_cases hstays : isActiveSuperAdmin (data.apply row) = true
    · exact ⟨id, (isSuperAdmin_updateUser data hrow id).mpr (by rwa [if_pos rfl])⟩
    · rw [Bool.not_eq_true] at hstays
      have hanother : ∃ other, other ≠ id ∧ IsSuperAdmin s other := by
        by_cases hwas : isActiveSuperAdmin row = true
        · exact hleaves hwas hstays
        · obtain ⟨other, found, hfound, hother⟩ := h
          refine ⟨other, ?_, found, hfound, hother⟩
          rintro rfl
          obtain rfl := Option.some.inj (hrow.symm.trans hfound)
          exact hwas hother
      obtain ⟨other, hne, hother⟩ := hanother
      exact ⟨other, (isSuperAdmin_updateUser data hrow other).mpr (by rwa [if_neg hne])⟩

/-! ### What remains -/

/-- The users are the same. -/
def SameUsers (s s' : Store) : Prop := ∀ id, s'.user? id = s.user? id

theorem lifecycleRequestStep_sameUsers (request : LifecycleRequest) :
    SameUsers s (lifecycleRequestStep env now s request).1 := by
  cases request with
  | setUserStatus =>
    refine orThrows_state (P := SameUsers s) (fun _ => rfl) fun counts _ => ?_
    cases counts <;> exact fun _ => rfl
  | updateUser => exact orThrows_state (P := SameUsers s) (fun _ => rfl) fun _ _ _ => rfl
  | suspendAdministrator =>
    exact orThrows_state (P := SameUsers s) (fun _ => rfl) fun _ _ _ => rfl
  | removeRole =>
    refine orThrows_state (P := SameUsers s) (fun _ => rfl) fun assignment _ => ?_
    split <;> exact fun _ => rfl

/-- A step that is no write to a user leaves the users alone. -/
theorem lifecycleAdvance_sameUsers {call : LifecycleCall}
    (hstatus : ∀ id status, call ≠ .writeStatus id status)
    (hupdate : ∀ id data, call ≠ .writeUpdate id data) :
    SameUsers s (lifecycleAdvance env now s call).1 := by
  cases call with
  | request request => exact lifecycleRequestStep_sameUsers request
  | writeStatus own status => exact absurd rfl (hstatus own status)
  | writeUpdate own data => exact absurd rfl (hupdate own data)
  | writeRemoval assignmentId =>
    refine orThrows_state (P := SameUsers s) (fun _ => rfl) fun s' hs' => ?_
    unfold InternalAdminService.revokeAssignment at hs'
    obtain ⟨-, hs'⟩ := throwIf_bind_eq_ok.mp hs'
    rw [← pure_eq_ok.mp hs']
    exact fun _ => rfl
  | _ => exact orThrows_state (P := SameUsers s) (fun _ => rfl) fun _ _ _ => rfl

theorem hasSuperAdmin_writeStatus (h : HasSuperAdmin s) (status : AccountStatus) :
    HasSuperAdmin (lifecycleAdvance env now s (.writeStatus id status)).1 ↔
      LeavesSuperAdmin now (.writeStatus id status) s := by
  unfold lifecycleAdvance LeavesSuperAdmin writeUserStatus IsSuperAdmin
  dsimp only
  cases hrow : s.user? id with
  | none =>
    refine iff_of_true h fun _ hsuper => ?_
    obtain ⟨row, hfound, -⟩ := hsuper
    cases hfound
  | some row =>
    refine (hasSuperAdmin_updateUser h (statusData status) hrow).trans ?_
    have hout : isActiveSuperAdmin row = true →
        (isActiveSuperAdmin ((statusData status).apply row) = false ↔ status ≠ .active) := by
      intro hsuper
      rw [isActiveSuperAdmin, Bool.and_eq_true, decide_eq_true_eq] at hsuper
      simp [isActiveSuperAdmin, hsuper.1]
    constructor
    · rintro hleaves hstatus ⟨found, hfound, hsuper⟩
      obtain rfl := Option.some.inj hfound
      exact hleaves hsuper ((hout hsuper).mpr hstatus)
    · exact fun hleaves hsuper hfalse => hleaves ((hout hsuper).mp hfalse) ⟨row, rfl, hsuper⟩

theorem hasSuperAdmin_writeUpdate (h : HasSuperAdmin s) (data : UserUpdateInput) :
    HasSuperAdmin (lifecycleAdvance env now s (.writeUpdate id data)).1 ↔
      LeavesSuperAdmin now (.writeUpdate id data) s := by
  unfold lifecycleAdvance LeavesSuperAdmin IsSuperAdmin
  dsimp only
  cases hwrite : writeUserUpdate s id data with
  | error e =>
    refine iff_of_true h fun hok => ?_
    obtain ⟨s', hok⟩ := hok
    cases hok
  | ok s' =>
    obtain ⟨hfound, rfl⟩ := writeUserUpdate_eq_ok hwrite
    obtain ⟨row, hrow⟩ := Option.isSome_iff_exists.mp hfound
    refine (hasSuperAdmin_updateUser h data.patch hrow).trans ?_
    have hout : isActiveSuperAdmin row = true →
        (isActiveSuperAdmin (data.patch.apply row) = false ↔
          ∃ role, data.role = some role ∧ role ≠ .superAdmin) := by
      intro hsuper
      rw [isActiveSuperAdmin, Bool.and_eq_true, decide_eq_true_eq, decide_eq_true_eq] at hsuper
      cases hrole : data.role <;> simp [isActiveSuperAdmin, hrole, hsuper.1, hsuper.2]
    constructor
    · rintro hleaves - hrole ⟨found, hfound, hsuper⟩
      obtain rfl := Option.some.inj (hrow.symm.trans hfound)
      exact hleaves hsuper ((hout hsuper).mpr hrole)
    · exact fun hleaves hsuper hfalse =>
        hleaves ⟨_, rfl⟩ ((hout hsuper).mp hfalse) ⟨row, hrow, hsuper⟩

theorem hasSuperAdmin_advance (h : HasSuperAdmin s) (call : LifecycleCall) :
    HasSuperAdmin (lifecycleAdvance env now s call).1 ↔ LeavesSuperAdmin now call s := by
  cases call with
  | writeStatus id status => exact hasSuperAdmin_writeStatus h status
  | writeUpdate id data => exact hasSuperAdmin_writeUpdate h data
  | _ =>
    refine iff_of_true ?_ trivial
    obtain ⟨id, row, hrow, hsuper⟩ := h
    exact ⟨id, row, (lifecycleAdvance_sameUsers (by simp) (by simp) id).trans hrow, hsuper⟩

/-- **A super administrator remains.** From a store with an active super administrator there is
one throughout every interleaving of the requests exactly as long as every write that puts one out
of action finds another. -/
theorem super_admin_remains_iff (env : ProcessEnv) {s : Store} (hs : HasSuperAdmin s) {ι : Type}
    [DecidableEq ι] (turns : List (Turn ι LifecycleRequest Millis)) :
    Throughout (lifecycleProtocol env).step (fun st => HasSuperAdmin st.state) (.quiet s) turns ↔
      Along (lifecycleProtocol env).step (Calls.StepMeets LeavesSuperAdmin) (.quiet s) turns :=
  (lifecycleProtocol env).throughout_iff (G := fun _ => True) (L := fun _ _ => True)
    (I := HasSuperAdmin) (Q := LeavesSuperAdmin)
    (fun _ _ _ => trivial) (fun _ _ _ _ _ _ _ => trivial) (fun _ _ _ _ _ _ _ => trivial)
    (fun _ _ _ _ _ _ _ => trivial) (fun _ call _ _ _ hI => hasSuperAdmin_advance hI call) trivial
    hs turns

/-! ### The only one, and one of two -/

namespace Example

def firstAdmin : User := { id := "first", role := .superAdmin }

def secondAdmin : User := { id := "second", role := .superAdmin }

def oneAdmin : Store := .ofUsers ⟨[firstAdmin], List.nodup_singleton _⟩ (Table.empty _)

def twoAdmins : Store := .ofUsers ⟨[firstAdmin, secondAdmin], by decide⟩ (Table.empty _)

/-- The only super administrator becomes a citizen. -/
def demotesItself : List (Turn ℕ LifecycleRequest Millis) :=
  [.start 0 (.updateUser firstAdmin "first" { role := some (.str "CITIZEN") }), .advance 0 0,
    .advance 0 0]

/-- One of two suspends the other. -/
def suspendsOther : List (Turn ℕ LifecycleRequest Millis) :=
  [.start 0 (.setUserStatus firstAdmin "second" .suspended), .advance 0 0, .advance 0 0,
    .advance 0 0]

end Example

open Example in
/-- Where one of two is suspended, every write finds another. -/
theorem suspension_leaves_other :
    Along (lifecycleProtocol fun _ => none).step (Calls.StepMeets LeavesSuperAdmin)
      (.quiet twoAdmins) suspendsOther := by
  have hfirst : ∀ s : Store, s.user? "first" = some firstAdmin → HasSuperAdmin s :=
    fun s hrow => ⟨"first", firstAdmin, hrow, rfl⟩
  refine (super_admin_remains_iff (fun _ => none) (hfirst twoAdmins rfl) suspendsOther).mp ?_
  exact ⟨hfirst _ rfl, hfirst _ rfl, hfirst _ rfl, hfirst _ rfl, hfirst _ rfl⟩

open Example in
/-- The only super administrator can give itself another role. -/
theorem only_super_admin_demoted : ¬ ∀ (env : ProcessEnv) (s : Store), HasSuperAdmin s →
    ∀ turns : List (Turn ℕ LifecycleRequest Millis),
      Throughout (lifecycleProtocol env).step (fun st => HasSuperAdmin st.state)
        (.quiet s) turns := by
  intro h
  obtain ⟨id, row, hrow, hsuper⟩ := throughout_iff.mp
    (h (fun _ => none) oneAdmin ⟨"first", firstAdmin, rfl, rfl⟩ demotesItself) demotesItself []
    (List.append_nil _).symm
  have hnone : (run (lifecycleProtocol fun _ => none).step (.quiet oneAdmin)
      demotesItself).state.users.rows.all (fun row => !isActiveSuperAdmin row) = true := by
    decide +kernel
  have hrowNot := List.all_eq_true.mp hnone row (Table.mem_of_find? hrow)
  rw [hsuper] at hrowNot
  cases hrowNot

end FixZone.UsersService

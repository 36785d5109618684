import SaasFoundation.Auth.Uniformity
import SaasFoundation.Users.Alone

/-!
# What a link in a request comes to

The subject of a link is looked up before its signature is checked.  Every
link is applied or rejected, except for those whose subject is no identifier of
an integer column.
-/

namespace SaasFoundation

open Relational Transaction Tx

variable {runtime : Runtime} {moment : Moment} {hash : String}

/-- Unique indexes and foreign keys of `"user"`. -/
def UserConstraints (runtime : Runtime) (db : Db) : Prop :=
  ∀ row ∈ db.users, userViolation runtime db row = none

/-- A row that has only another address can only be refused for it. -/
theorem userViolation_of_valid {db : Db} {old new : UserRow}
    (valid : userViolation runtime db old = none) (id : new.id = old.id)
    (photo : new.photoId = old.photoId) (username : new.username = old.username)
    (role : new.roleId = old.roleId) :
    userViolation runtime db new = none ∨
      userViolation runtime db new =
        some (.query .uniqueViolation (some .userEmail)) := by
  unfold userViolation at *
  by_cases taken : takenEmail db new
  · exact .inr (if_pos taken)
  · left
    have samePhoto : takenPhoto db new ↔ takenPhoto db old := by
      simp only [takenPhoto, photo, id]
    have sameName : takenUsername runtime db new ↔
        takenUsername runtime db old := by
      simp only [takenUsername, username, id]
    rw [if_neg taken]
    split at valid
    · cases valid
    · simp only [samePhoto, sameName, photo, role]
      exact valid

/-- Only an address that somebody else has keeps such changes from being
saved. -/
theorem saveRefusal_of_modest {db : Db} {row : UserRow} {changes : UserChanges}
    {now : Nat} {failure : Failure}
    (valid : userViolation runtime db row = none) (live : row.deletedAt = none)
    (photo : changes.photo = none) (role : changes.role = none)
    (status : changes.status = none ∨ changes.status = some StatusId.active)
    (refused : UserRepository.saveRefusal runtime db changes now row =
      some failure) :
    failure = .query .uniqueViolation (some .userEmail) := by
  have activates : (changes.applyTo row).statusId ≠ row.statusId →
      UserRow.Active { changes.applyTo row with updatedAt := now } := by
    intro changed
    rw [UserChanges.applyTo_eq] at changed ⊢
    rcases status with same | active
    · simp [same] at changed
    · exact ⟨live, by simp [active]⟩
  unfold UserRepository.saveRefusal updateRefusal at refused
  split at refused
  · exact nomatch refused
  · rw [if_neg (by
      rintro ⟨changed, inactive, _⟩
      exact inactive (activates (of_decide_eq_true changed)))] at refused
    have violation : userViolation runtime db
        { changes.applyTo row with updatedAt := now } = none ∨ _ :=
      userViolation_of_valid valid (by rw [UserChanges.applyTo_eq])
        (by simp [UserChanges.applyTo_eq, photo])
        (by simp [UserChanges.applyTo_eq])
        (by simp [UserChanges.applyTo_eq, role])
    rcases violation with none | email
    · rw [none] at refused
      exact nomatch refused
    · rw [email] at refused
      exact (Option.some.inj refused).symm

namespace AuthService

/-- The requests that carry a link. -/
inductive LinkRequest where
  | confirmEmail
  | confirmNewEmail
  | resetPassword (password : String)
  deriving DecidableEq, Repr

namespace LinkRequest

def program (runtime : Runtime) (hash : String) : LinkRequest → Tx Unit
  | .confirmEmail => AuthService.confirmEmail runtime hash
  | .confirmNewEmail => AuthService.confirmNewEmail runtime hash
  | .resetPassword password => AuthService.resetPassword runtime hash password

/-- The claim that names the account. -/
def field : LinkRequest → LinkClaims → Option ClaimValue
  | .confirmEmail => (·.confirmEmailUserId)
  | .confirmNewEmail => (·.confirmEmailUserId)
  | .resetPassword _ => (·.forgotUserId)

/-- The subject of the link, unverified. -/
def subject (runtime : Runtime) (hash : String) (link : LinkRequest) :
    Option ClaimValue :=
  (runtime.decode hash).bind link.field

/-- The check of a link against the locked account. -/
def prepare (runtime : Runtime) (hash : String) :
    LinkRequest → User → Tx (Mutation UpdateUserDto)
  | .confirmEmail, user => do
      let newEmail ← readConfirmation runtime hash user
      if (given newEmail).isSome ∨
          user.status ≠ some StatusId.pendingVerification then
        Tx.throw invalidConfirmation
      else pure { changes := { status := some StatusId.active } }
  | .confirmNewEmail, user => do
      let newEmail ← readConfirmation runtime hash user
      match given newEmail with
      | none => Tx.throw invalidConfirmation
      | some newEmail =>
          if user.status ≠ some StatusId.active then
            Tx.throw invalidConfirmation
          else
            pure { changes := { email := some (some newEmail) }
                   revokeSessions := some none }
  | .resetPassword password, user =>
      match runtime.verify hash (getForgotSecret user) with
      | none => Tx.throw invalidHash
      | some _ =>
          pure { changes := { password := some password }
                 revokeSessions := some none }

theorem program_eq (link : LinkRequest) :
    link.program runtime hash =
      linkSubject runtime hash link.field >>= fun id =>
        consumeLink runtime id (link.prepare runtime hash) := by
  cases link <;> rfl

/-- What is known when the check has passed. -/
def Asks (runtime : Runtime) (hash : String) (user : User)
    (mutation : Mutation UpdateUserDto) : LinkRequest → Prop
  | .confirmEmail =>
      user.status = some StatusId.pendingVerification ∧
        (∃ claims, runtime.verify hash (confirmationSecret user) =
          some claims ∧ given claims.newEmail = none) ∧
        mutation = { changes := { status := some StatusId.active } }
  | .confirmNewEmail => ∃ email,
      user.status = some StatusId.active ∧
        (∃ claims, runtime.verify hash (confirmationSecret user) =
          some claims ∧ given claims.newEmail = some email) ∧
        mutation =
          { changes := { email := some (some email) }
            revokeSessions := some none }
  | .resetPassword password =>
      (runtime.verify hash (getForgotSecret user)).isSome ∧
        mutation =
          { changes := { password := some password }
            revokeSessions := some none }

theorem quiet_prepare (link : LinkRequest) (user : User) :
    (link.prepare runtime hash user).Quiet
      fun mutation => link.Asks runtime hash user mutation := by
  cases link with
  | confirmEmail =>
      refine quiet_readConfirmation.bind fun newEmail read => ?_
      obtain ⟨claims, verified, rfl⟩ := read
      split
      · trivial
      · rename_i passed
        push Not at passed
        exact ⟨passed.2, ⟨claims, verified, by simpa using passed.1⟩, rfl⟩
  | confirmNewEmail =>
      refine quiet_readConfirmation.bind fun newEmail read => ?_
      obtain ⟨claims, verified, rfl⟩ := read
      cases found : given claims.newEmail with
      | none => trivial
      | some email =>
          dsimp only
          split
          · trivial
          · rename_i active
            exact ⟨email, of_not_not active, ⟨claims, verified, found⟩, rfl⟩
  | resetPassword password =>
      cases verified : runtime.verify hash (getForgotSecret user) with
      | none =>
          simp only [prepare, verified]
          trivial
      | some claims =>
          simp only [prepare, verified]
          exact ⟨by simp [verified], rfl⟩

theorem failsWith_prepare (link : LinkRequest) (user : User) :
    (link.prepare runtime hash user).FailsWith UsersService.Unprocessable := by
  have reads : (readConfirmation runtime hash user).FailsWith
      UsersService.Unprocessable := by
    unfold readConfirmation
    split
    · rfl
    · trivial
  cases link with
  | confirmEmail =>
      refine reads.bind fun newEmail => ?_
      split
      · rfl
      · trivial
  | confirmNewEmail =>
      refine reads.bind fun newEmail => ?_
      split
      · rfl
      · split
        · rfl
        · trivial
  | resetPassword password =>
      dsimp only [prepare]
      split
      · rfl
      · trivial

/-- A link leaves the photo and the role alone, and activates or leaves the
status alone. -/
theorem Asks.modest {link : LinkRequest} {user : User}
    {mutation : Mutation UpdateUserDto} {changes : UserChanges}
    (asked : link.Asks runtime hash user mutation)
    (prepared : UsersService.Prepares runtime mutation.changes changes) :
    changes.photo = none ∧ changes.role = none ∧
      (changes.status = none ∨ changes.status = some StatusId.active) := by
  obtain ⟨password, _, rfl⟩ := prepared
  cases link with
  | confirmEmail =>
      obtain ⟨_, _, rfl⟩ := asked
      exact ⟨rfl, rfl, .inr rfl⟩
  | confirmNewEmail =>
      obtain ⟨_, _, _, rfl⟩ := asked
      exact ⟨rfl, rfl, .inl rfl⟩
  | resetPassword =>
      obtain ⟨_, rfl⟩ := asked
      exact ⟨rfl, rfl, .inl rfl⟩

/-- The change a valid link makes of its account. -/
def Changes (runtime : Runtime) (hash : String) (row : UserRow)
    (mutation : Mutation UserChanges) : LinkRequest → Prop
  | .confirmEmail =>
      row.statusId = some StatusId.pendingVerification ∧
        Confirms runtime hash row none ∧
        mutation = { changes := { status := some StatusId.active } }
  | .confirmNewEmail => ∃ email,
      row.statusId = some StatusId.active ∧
        Confirms runtime hash row (some email) ∧
        mutation =
          { changes := { email := some (some email) }
            revokeSessions := some none }
  | .resetPassword password => ∃ stored,
      Resets runtime hash row ∧ Hashed runtime (some password) stored ∧
        mutation =
          { changes := { password := stored }, revokeSessions := some none }

/-- What the check passed and the request prepared is the change of the
link. -/
theorem Asks.changes {link : LinkRequest} {row : UserRow}
    {mutation : Mutation UpdateUserDto} {changes : UserChanges}
    (asked : link.Asks runtime hash (UserMapper.toDomain row) mutation)
    (prepared : UsersService.Prepares runtime mutation.changes changes)
    (subject : link.subject runtime hash = some (.integer row.id)) :
    link.Changes runtime hash row
      { changes, revokeSessions := mutation.revokeSessions } := by
  obtain ⟨password, hashed, rfl⟩ := prepared
  cases link with
  | confirmEmail =>
      obtain ⟨pending, signed, rfl⟩ := asked
      obtain rfl : password = none := hashed
      exact ⟨pending, ⟨subject, signed⟩, rfl⟩
  | confirmNewEmail =>
      obtain ⟨email, active, signed, rfl⟩ := asked
      obtain rfl : password = none := hashed
      exact ⟨email, active, ⟨subject, signed⟩, rfl⟩
  | resetPassword text =>
      obtain ⟨signed, rfl⟩ := asked
      exact ⟨password, ⟨subject, signed⟩, hashed, rfl⟩

end LinkRequest

/-- The change of the link is made, or the request is rejected with status 422
and nothing has changed. -/
def Consumes (runtime : Runtime) (moment : Moment) (link : LinkRequest)
    (hash : String) : Except Failure Unit × Db → Prop
  | (.ok (), after) => ∃ row mutation,
      UserRepository.liveUser moment.db row.id = some row ∧
        link.Changes runtime hash row mutation ∧
        after = UserRepository.mutated moment.db moment.clock row mutation
  | (.error failure, after) => failure.status = 422 ∧ after = moment.db

/-- The subject is no number, no valid identifier, or one that fits the
column. -/
def SubjectFits (runtime : Runtime) (link : LinkRequest) (hash : String) :
    Prop :=
  ∀ id, link.subject runtime hash = some (.integer id) → 1 ≤ id →
    id ≤ maxSafeInteger → id < 2 ^ 31

theorem serially_linkSubject {field : LinkClaims → Option ClaimValue}
    {clock : Nat} {post : Nat → Stand Db Writes → Prop}
    {failed : Failure → Db → Prop} {stand : Stand Db Writes}
    (invalid : failed invalidHash stand.db)
    (valid : ∀ id : Nat, 1 ≤ id → (id : Int) ≤ maxSafeInteger →
      (runtime.decode hash).bind field = some (.integer id) → post id stand) :
    (linkSubject runtime hash field).serially clock post failed stand := by
  unfold linkSubject
  split
  · rename_i id subject
    split
    · rename_i safe
      obtain ⟨number, rfl⟩ := Int.eq_ofNat_of_zero_le (by omega : 0 ≤ id)
      exact valid number (by omega) safe.2 subject
    · exact invalid
  · exact invalid

theorem linkError_unprocessable {failure : Failure}
    (unprocessable : UsersService.Unprocessable failure) :
    linkError failure = failure := by
  unfold linkError
  split
  · cases unprocessable
  · rfl

/-- The lookup of a subject beyond the column fails in the database. -/
theorem LinkRequest.outcome_of_unfit (link : LinkRequest) {id : Nat}
    (subject : link.subject runtime hash = some (.integer id))
    (positive : 1 ≤ (id : Int)) (safe : (id : Int) ≤ maxSafeInteger)
    (large : ¬(id : Int) < 2 ^ 31) :
    moment.outcome (link.program runtime hash) =
      (.error (.query .numericValueOutOfRange none), moment.db) := by
  rw [Moment.outcome_iff (· = _), link.program_eq, Program.serially_bind]
  have unfit : fitsInteger id = false := by
    simp only [fitsInteger, decide_eq_false_iff_not]
    omega
  unfold LinkRequest.subject at subject
  simp only [linkSubject, subject, if_pos (And.intro positive safe),
    Program.serially_pure, Int.toNat_natCast]
  simp [consumeLink, UsersService.updateAtomically,
    UserRepository.updateAtomically, UserRepository.lockUser, serially_execute,
    unfit]
  rfl

/-- Two ways a request with a link ends. -/
private theorem serially_consumeLink {link : LinkRequest} {id : Nat}
    (constraints : UserConstraints runtime moment.db)
    (subject : link.subject runtime hash = some (.integer id))
    (fits : id < 2 ^ 31) :
    (consumeLink runtime id (link.prepare runtime hash)).serially moment.clock
      (fun value later => Consumes runtime moment link hash
        (.ok value, later.db))
      (fun failure db => Consumes runtime moment link hash
        (.error failure, db)) moment.stand := by
  unfold consumeLink
  rw [Program.serially_mapError, Program.serially_bind]
  refine UsersService.serially_updateAtomically
    (fun user => link.quiet_prepare user) (fun user => link.failsWith_prepare user)
    ?_ ⟨rfl, rfl⟩ ?_ ?_ ?_
  · intro unfit
    simp only [fitsInteger, decide_eq_false_iff_not] at unfit
    exact absurd fits unfit
  · intro failure rejected
    rw [linkError_unprocessable rejected]
    exact ⟨rejected, rfl⟩
  · intro row mutation changes failure found asked prepared refused
    rw [Moment.view_stand] at found refused
    obtain ⟨stored, _, live⟩ := UserRepository.liveUser_eq_some.mp found
    obtain ⟨photo, role, status⟩ := asked.modest prepared
    obtain rfl := saveRefusal_of_modest (constraints row stored) live photo
      role status refused
    exact ⟨rfl, rfl⟩
  · intro row mutation changes later found asked prepared _ same _
    rw [Moment.view_stand] at found same
    obtain ⟨_, rfl, _⟩ := UserRepository.liveUser_eq_some.mp found
    exact ⟨row, _, found, asked.changes prepared subject, same⟩

/-- A link is applied or rejected exactly when its subject may be looked up. -/
theorem consumes_iff (runtime : Runtime) (moment : Moment)
    (link : LinkRequest) (hash : String)
    (constraints : UserConstraints runtime moment.db) :
    Consumes runtime moment link hash
        (moment.outcome (link.program runtime hash)) ↔
      SubjectFits runtime link hash := by
  constructor
  · intro consumes id subject positive safe
    obtain ⟨number, rfl⟩ := Int.eq_ofNat_of_zero_le (by omega : 0 ≤ id)
    by_contra large
    rw [link.outcome_of_unfit subject positive safe large] at consumes
    exact nomatch consumes.1
  · intro fits
    rw [Moment.outcome_iff (Consumes runtime moment link hash), link.program_eq,
      Program.serially_bind]
    refine serially_linkSubject ⟨rfl, rfl⟩ fun id positive safe subject => ?_
    refine serially_consumeLink constraints subject ?_
    have bounded := fits id subject (by exact_mod_cast positive) safe
    exact_mod_cast bounded

/-- A reset link of account 2. -/
def resetLink : Runtime :=
  { Sample.runtime with
    decode := fun _ => some { forgotUserId := some (.integer 2) }
    verify := fun _ secret =>
      if secret = .forgot "b" then
        some { forgotUserId := some (.integer 2) }
      else none }

theorem consumes_iff_resetLink :
    Consumes resetLink present (.resetPassword "new") "link"
      (present.outcome
        (LinkRequest.program resetLink "link" (.resetPassword "new"))) :=
  (consumes_iff resetLink present (.resetPassword "new") "link"
    (by unfold UserConstraints; decide)).mpr (by
      intro id subject _ _
      obtain rfl : (2 : Int) = id := by
        simpa [LinkRequest.subject, LinkRequest.field, resetLink] using subject
      decide)

/-- An unsigned token with the payload `confirmEmailUserId: 2147483648`. -/
def forgedToken : String :=
  "eyJhbGciOiJIUzI1NiIsInR5cCI6IkpXVCJ9." ++
    "eyJjb25maXJtRW1haWxVc2VySWQiOjIxNDc0ODM2NDh9."

def forging : Runtime :=
  { Sample.runtime with
    decode := fun hash =>
      if hash = forgedToken then
        some { confirmEmailUserId := some (.integer 2147483648) }
      else none }

/-- The forged token is answered with status 500. -/
theorem forged_subject_escapes :
    present.response (confirmEmail forging forgedToken) =
        .error (.query .numericValueOutOfRange none) ∧
      ¬Consumes forging present .confirmEmail forgedToken
        (present.outcome (confirmEmail forging forgedToken)) := by
  have subject : LinkRequest.subject forging forgedToken .confirmEmail =
      some (.integer (2147483648 : Nat)) := by
    decide
  have answered : present.outcome (confirmEmail forging forgedToken) =
      (.error (.query .numericValueOutOfRange none), present.db) :=
    LinkRequest.outcome_of_unfit .confirmEmail subject (by decide) (by decide)
      (by decide)
  rw [Moment.response, answered]
  refine ⟨rfl, fun consumes => ?_⟩
  cases consumes.1

end AuthService

end SaasFoundation

import SaasFoundation.Transaction.Atomic
import SaasFoundation.Users.History

/-!
# Account links

No link is stored.  What ends a link is that the row it was signed for gets
another version: confirmation and email-change links are signed with the
`updatedAt` of the row, reset links with its password hash.
-/

namespace SaasFoundation

open Relational Transaction Api

variable {runtime : Runtime} {drawn : Prop} {commit : DbCommit}
  {earlier : List DbCommit}

/-- A link, with the account as it was when the link was signed.  An
email-change link is for another address than the stored one. -/
inductive AccountLink where
  | confirmation (user : User)
  | emailChange (user : User) (newEmail : String)
      (differs : some newEmail ≠ user.email)
  | reset (user : User)

namespace AccountLink

def user : AccountLink → User
  | .confirmation user => user
  | .emailChange user _ _ => user
  | .reset user => user

def isReset : AccountLink → Bool
  | .reset _ => true
  | _ => false

def claims : AccountLink → LinkClaims
  | .confirmation user => AuthService.confirmationClaims user
  | .emailChange user newEmail _ =>
      { AuthService.confirmationClaims user with newEmail := some newEmail }
  | .reset user => { forgotUserId := some (.integer user.id) }

def secret : AccountLink → LinkSecret
  | .confirmation user => AuthService.confirmationSecret user
  | .emailChange user _ _ => AuthService.confirmationSecret user
  | .reset user => AuthService.getForgotSecret user

def hash (runtime : Runtime) (link : AccountLink) : String :=
  runtime.sign link.claims link.secret

/-- The row has what the secret of the link was made of. -/
structure Matches (link : AccountLink) (row : UserRow) : Prop where
  id : row.id = link.user.id
  updatedAt : link.isReset = false → row.updatedAt = link.user.updatedAt
  password : link.isReset = true →
    row.password.getD "" = link.user.password.getD ""

end AccountLink

/-- What is known of `JwtService`: a token is accepted under the secret it was
signed with only, and decoding reads the claims that were signed. -/
structure Signatures (runtime : Runtime) : Prop where
  exact : ∀ claims secret other read,
    runtime.verify (runtime.sign claims secret) other = some read →
      other = secret ∧ read = claims
  decoded : ∀ hash secret claims,
    runtime.verify hash secret = some claims → runtime.decode hash = some claims

/-- The link a request brings along. -/
def Request.consumedLink : Request → Option String
  | .auth (.confirmEmail hash) => some hash
  | .auth (.confirmNewEmail hash) => some hash
  | .auth (.resetPassword hash _) => some hash
  | _ => none

/-- The account a request sets the password of. -/
def Request.passwordOf (runtime : Runtime) : Request → Option Nat
  | .account (.save _ dto _ id) => (AuthService.given dto.password).bind fun _ => id
  | .auth (.resetPassword hash password) =>
      (AuthService.given (some password)).bind fun _ =>
        match (runtime.decode hash).bind (·.forgotUserId) with
        | some (.integer id) => some id.toNat
        | _ => none
  | .auth (.update payload dto) =>
      (AuthService.given dto.password).map fun _ => payload.id
  | _ => none

/-- Every update of an account gives the row its own `updatedAt`, and every
password that is set is hashed to a value no version of the row had. -/
structure FreshVersions (runtime : Runtime) (commits : List DbCommit) :
    Prop where
  updatedAt : Legal (fun commit earlier => ∀ row,
    .put row ∈ commit.writes.users → Fresh (·.updatedAt) commit earlier row)
    commits
  password : Legal (fun commit earlier => ∀ row ∈ commit.after.users,
    commit.request.core.passwordOf runtime = some row.id →
      Fresh (·.password.getD "") commit earlier row) commits

private theorem call_mails (runtime : Runtime) (config : AuthConfig)
    (other : Mail → Bool)
    (same : ∀ recipient (link : AccountLink),
      other ⟨recipient, link.hash runtime⟩ =
        runtime.deliver ⟨recipient, link.hash runtime⟩) (call : AuthCall) :
    call.program { runtime with deliver := other } config =
      call.program runtime config := by
  have sent (recipient : String) (link : AccountLink) :
      AuthService.mailLink { runtime with deliver := other } recipient
        link.claims link.secret =
      AuthService.mailLink runtime recipient link.claims link.secret := by
    have agrees := same recipient link
    simp only [AccountLink.hash] at agrees
    simp only [AuthService.mailLink, agrees]
  cases call with
  | register dto =>
      have mail := fun user => sent dto.email (.confirmation user)
      simp only [AccountLink.claims, AccountLink.secret] at mail
      simp only [AuthCall.program, AuthService.register, mail]
      rfl
  | resendConfirmation email =>
      have mail := fun user => sent email (.confirmation user)
      simp only [AccountLink.claims, AccountLink.secret] at mail
      simp only [AuthCall.program, AuthService.resendConfirmation, mail]
  | forgotPassword email =>
      have mail := fun user => sent email (.reset user)
      simp only [AccountLink.claims, AccountLink.secret] at mail
      simp only [AuthCall.program, AuthService.forgotPassword, mail]
  | update payload dto =>
      refine congrArg (fun service : Tx User => service.reply .user) ?_
      refine bind_congr fun updated => ?_
      cases requested : AuthService.requestedEmail dto updated with
      | none => rfl
      | some newEmail =>
          have differs : some newEmail ≠ updated.email := by
            simpa using (Option.filter_eq_some_iff.mp requested).2
          have mail := sent newEmail (.emailChange updated newEmail differs)
          simp only [AccountLink.claims, AccountLink.secret] at mail
          simp only [AuthService.mailNewEmail, mail]
  | _ => rfl

/-- Whatever the transport does with other messages, the requests hand only
account links to it. -/
theorem program_mails (environment : Environment) (other : Mail → Bool)
    (same : ∀ recipient (link : AccountLink),
      other ⟨recipient, link.hash environment.runtime⟩ =
        environment.runtime.deliver ⟨recipient, link.hash environment.runtime⟩)
    (request : Request) :
    request.program
        { environment with
          runtime := { environment.runtime with deliver := other } } =
      request.program environment := by
  have calls := call_mails environment.runtime environment.config other same
  cases request with
  | auth call => exact calls call
  | guarded payload call =>
      refine bind_congr fun identity => ?_
      cases call with
      | update dto =>
          exact congrArg (fun handler : Tx Reply =>
            if (GuardedCall.update dto).permitted identity then handler
            else Tx.throw (.forbidden "Forbidden resource"))
            (calls (.update identity.payload dto))
      | save | remove | softDelete => rfl
  | _ => rfl

theorem inside_protectOwned {userId : Nat} {owned : List Nat} :
    (protectOwned userId owned).Inside := by
  induction owned with
  | nil => trivial
  | cons id rest ih =>
      refine Program.Inside.bind (.run _) fun _ =>
        Program.Inside.bind (.run _) fun other => ?_
      split
      · exact ih
      · trivial

theorem inside_updateUser {id : Nat} {lifecycle : Bool}
    {change : Nat → UserRow → UserRow} :
    (updateUser runtime id lifecycle change).Inside := by
  refine Program.Inside.bind (.run _) fun locked => ?_
  cases locked with
  | none => trivial
  | some rows =>
      have stored : (do
          storeUser runtime (some rows.1) rows.2
          pure (some rows.2) : Tx (Option UserRow)).Inside :=
        Program.Inside.bind (.run _) fun _ => trivial
      have guarded : (protectWorkspaceOwner rows.1 (some rows.2)).Inside := by
        unfold protectWorkspaceOwner
        split
        · trivial
        · exact Program.Inside.bind (.run _) fun _ => inside_protectOwned
      dsimp only
      split
      · exact guarded.bind fun _ => stored
      · exact stored

theorem inside_findByEmail {email : String} :
    (UserRepository.findByEmail email).Inside := by
  unfold UserRepository.findByEmail
  split
  · trivial
  · exact .run _

theorem inside_checkEmail {email : Option (Option String)} {id : Option Nat} :
    (UsersService.checkEmail email id).Inside := by
  unfold UsersService.checkEmail
  split
  · trivial
  · refine inside_findByEmail.bind fun found => ?_
    split
    · trivial
    · split <;> trivial

theorem inside_hashGiven {password : Option String} {tooLong : Failure} :
    (hashGiven runtime password tooLong).Inside := by
  unfold hashGiven
  split
  · trivial
  · unfold hashPassword
    split
    · trivial
    · exact fun _ => trivial

theorem inside_checkPhoto {photo : Option (Option Nat)} :
    (UsersService.checkPhoto photo).Inside := by
  unfold UsersService.checkPhoto
  split
  · trivial
  · refine Program.Inside.bind (.run _) fun found => ?_
    split <;> trivial

theorem inside_prepareChanges {dto : UpdateUserDto} {id : Option Nat} :
    (UsersService.prepareChanges runtime dto id).Inside := by
  refine inside_checkEmail.bind fun _ => inside_hashGiven.bind fun _ =>
    inside_checkPhoto.bind fun _ => ?_
  split
  · trivial
  · split <;> trivial

theorem atomic_updateAtomically {id : Nat}
    {prepare : User → Tx (Mutation UpdateUserDto)}
    (inside : ∀ user, (prepare user).Inside) :
    (UsersService.updateAtomically runtime id prepare).Atomic := by
  have prepared (current : User) : (do
      let mutation ← prepare current
      let changes ← UsersService.prepareChanges runtime mutation.changes (some id)
      pure { changes, revokeSessions := mutation.revokeSessions } :
        Tx (Mutation UserChanges)).Inside :=
    (inside current).bind fun _ => inside_prepareChanges.bind fun _ => trivial
  have saved (stored : UserRow) (entity : User) :
      (UserRepository.save runtime stored entity).Inside := by
    unfold UserRepository.save
    dsimp only
    split
    · trivial
    · exact inside_updateUser.bind fun _ => trivial
  have revoked (requested : Option (Option Nat)) :
      (UserRepository.revokeRequested id requested).Inside := by
    cases requested with
    | none => trivial
    | some exclude => exact .run _
  refine ((Program.Atomic.transaction ?_).mapError _).mapError _
  refine Program.Inside.bind (.run _) fun locked => ?_
  split
  · trivial
  · refine Program.Inside.bind (.run _) fun found => ?_
    cases found with
    | none => trivial
    | some entity =>
        exact (prepared _).bind fun _ => (saved _ _).bind fun _ =>
          (revoked _).bind fun _ => trivial

/-- The three requests that bring a link along. -/
theorem atomic_of_consumedLink (environment : Environment) (request : Request)
    (consumes : request.consumedLink.isSome) :
    (request.program environment).Atomic := by
  have subject (hash : String) (field : LinkClaims → Option ClaimValue) :
      (AuthService.linkSubject environment.runtime hash field).Inside := by
    unfold AuthService.linkSubject
    split
    · split <;> trivial
    · trivial
  have confirmation (hash : String) (user : User) :
      (AuthService.readConfirmation environment.runtime hash user).Inside := by
    unfold AuthService.readConfirmation
    split <;> trivial
  have consumed (id : Nat) (prepare : User → Tx (Mutation UpdateUserDto))
      (inside : ∀ user, (prepare user).Inside) :
      (AuthService.consumeLink environment.runtime id prepare).Atomic :=
    ((atomic_updateAtomically inside).map _).mapError _
  unfold Request.consumedLink at consumes
  split at consumes
  · rename_i hash
    refine Program.Atomic.map ((subject _ _).atomic fun id => consumed id _ ?_) _
    refine fun user => (confirmation _ _).bind fun newEmail => ?_
    split <;> trivial
  · rename_i hash
    refine Program.Atomic.map ((subject _ _).atomic fun id => consumed id _ ?_) _
    refine fun user => (confirmation _ _).bind fun newEmail => ?_
    split
    · trivial
    · split <;> trivial
  · rename_i hash password
    refine Program.Atomic.map ((subject _ _).atomic fun id => consumed id _ ?_) _
    intro user
    split <;> trivial
  · simp at consumes

theorem given_of_hashed {password stored : Option String}
    (hashed : Hashed runtime password stored) (stores : stored ≠ none) :
    ∃ text, AuthService.given password = some text := by
  unfold Hashed at hashed
  cases found : password.filter fun password => password ≠ "" with
  | none =>
      rw [found] at hashed
      exact absurd hashed stores
  | some text => exact ⟨text, found⟩

theorem applyTo_password {changes : UserChanges} {row : UserRow}
    (none : changes.password = none) :
    (changes.applyTo row).password = row.password := by
  rw [UserChanges.applyTo_eq, none]
  rfl

/-- Only a request that sets the password of the account changes it. -/
theorem password_of_step {old new : UserRow}
    (step : RowStep runtime commit earlier old new)
    (changed : new.password ≠ old.password) :
    commit.request.core.passwordOf runtime = some old.id := by
  cases step with
  | same unchanged => exact absurd (congrArg _ unchanged) changed
  | updated type dto actor id changes core updated =>
      obtain ⟨stored, hashed, requested⟩ := updated.requested
      have stores : stored ≠ none := by
        rintro rfl
        have unset : changes.password = none := by
          rw [requested]
          rfl
        rcases updated.stored with ⟨_, _, rfl⟩ | ⟨_, rfl⟩
        · exact changed rfl
        · simp [AccountsService.AccountChanges.applyTo, unset] at changed
      obtain ⟨text, given⟩ := given_of_hashed hashed stores
      simp [core, Request.passwordOf, given, updated.id]
  | removed type id actor core removed =>
      exact absurd (congrArg _ removed.deleted) changed
  | deleted payload core deleted =>
      exact absurd (congrArg _ deleted.deleted) changed
  | profile call exclude changes core asked profile =>
      have set : changes.password ≠ none := by
        intro unset
        rcases profile.saved with ⟨_, rfl, _⟩ | ⟨_, rfl⟩
        · exact changed rfl
        · exact changed (applyTo_password unset)
      cases asked with
      | confirmEmail | confirmNewEmail => exact absurd rfl set
      | resetPassword hash password stored hashed resets =>
          obtain ⟨text, given⟩ := given_of_hashed hashed set
          simp [core, Request.passwordOf, given, resets.subject]
      | update payload dto stored caller hashed =>
          obtain ⟨text, given⟩ := given_of_hashed hashed set
          simp [core, Request.passwordOf, given, caller]

theorem keptOrFresh_password (effect : Effect runtime drawn commit earlier)
    (kept : UsersKept earlier commit.before)
    (fresh : ∀ row ∈ commit.after.users,
      commit.request.core.passwordOf runtime = some row.id →
        Fresh (·.password.getD "") commit earlier row) :
    KeptOrFresh (·.password.getD "") commit earlier := by
  intro row put
  rcases user_put (users_of_effect effect) put with
    ⟨old, stored, same, member⟩ | inserted
  · by_cases changed : row.password = old.password
    · exact .inl ⟨old, stored, same, congrArg (·.getD "") changed⟩
    · have asked := password_of_step
        (rowStep effect stored member same.symm) changed
      exact .inr (fresh row member (same ▸ asked))
  · right
    intro state past old stored sameId
    have absent : ∀ id, (commit.before.users.find id).isSome → id ≠ row.id := by
      rintro id present rfl
      simp [inserted.fresh] at present
    rcases List.mem_cons.mp past with rfl | older
    · exact absurd sameId (absent _ (Table.find_isSome.mpr ⟨old, stored, rfl⟩))
    · obtain ⟨logged, member, rfl⟩ := List.mem_map.mp older
      exact absurd sameId (absent _ (kept logged member old stored))

/-- Only requests as such bring a link along. -/
theorem core_of_consumedLink {request : Request} {hash : String}
    (consumes : request.consumedLink = some hash) : request.core = request := by
  cases request with
  | auth call => rfl
  | _ => simp [Request.consumedLink] at consumes

theorem confirmationSecret_eq {left right : User}
    (same : AuthService.confirmationSecret left =
      AuthService.confirmationSecret right) :
    left.id = right.id ∧ left.email = right.email ∧
      left.updatedAt = right.updatedAt := by
  injection same with id email password updatedAt
  exact ⟨id, email, updatedAt⟩

theorem matches_of_confirms (signatures : Signatures runtime)
    {link : AccountLink} {old : UserRow} {newEmail : Option String}
    (confirms : Confirms runtime (link.hash runtime) old newEmail) :
    link.isReset = false ∧ link.Matches old ∧
      old.email = link.user.email ∧
      AuthService.given link.claims.newEmail = newEmail := by
  obtain ⟨claims, verified, given⟩ := confirms.signed
  obtain ⟨secret, rfl⟩ := signatures.exact _ _ _ _ verified
  cases link with
  | confirmation user =>
      obtain ⟨id, email, updatedAt⟩ := confirmationSecret_eq secret
      exact ⟨rfl, ⟨id, fun _ => updatedAt, nofun⟩, email, given⟩
  | emailChange user address differs =>
      obtain ⟨id, email, updatedAt⟩ := confirmationSecret_eq secret
      exact ⟨rfl, ⟨id, fun _ => updatedAt, nofun⟩, email, given⟩
  | reset user => cases secret

theorem matches_of_resets (signatures : Signatures runtime)
    {link : AccountLink} {old : UserRow}
    (resets : Resets runtime (link.hash runtime) old) :
    link.isReset = true ∧ link.Matches old := by
  obtain ⟨claims, verified⟩ := Option.isSome_iff_exists.mp resets.signed
  obtain ⟨secret, rfl⟩ := signatures.exact _ _ _ _ verified
  cases link with
  | confirmation | emailChange => cases secret
  | reset user =>
      have subject := resets.subject
      rw [signatures.decoded _ _ _ verified] at subject
      have same : user.id = old.id := by
        simpa [AccountLink.claims] using subject
      injection secret with password
      exact ⟨rfl, ⟨same.symm, nofun, fun _ => password⟩⟩

/-- A consumed link was signed for the row the commit replaces. -/
theorem matches_of_consumed (signatures : Signatures runtime)
    (effect : Effect runtime drawn commit earlier)
    (fresh : ∀ row ∈ commit.after.users,
      commit.request.core.passwordOf runtime = some row.id →
        Fresh (·.password.getD "") commit earlier row)
    (nonempty : ∀ hash password,
      commit.request = .auth (.resetPassword hash password) → password ≠ "")
    {link : AccountLink}
    (consumes : commit.request.consumedLink = some (link.hash runtime)) :
    ∃ old ∈ commit.before.users, link.Matches old ∧
      (∃ new, .put new ∈ commit.writes.users ∧ new.id = old.id) ∧
      (link.isReset = true →
        commit.request.core.passwordOf runtime = some old.id) := by
  have core := core_of_consumedLink consumes
  have puts {old new : UserRow} {exclude : Option Nat} {changes : UserChanges}
      (profile : ProfileChanged commit old new exclude changes)
      (differs : changes.applyTo old ≠ old) :
      ∃ new, .put new ∈ commit.writes.users ∧ new.id = old.id := by
    rcases profile.saved with ⟨_, _, unchanged⟩ | ⟨users, _⟩
    · exact absurd unchanged differs
    · exact ⟨new, by simp [users], profile.changed.same⟩
  unfold Request.consumedLink at consumes
  split at consumes
  · rename_i hash request
    cases consumes
    unfold Effect at effect
    rw [core, request] at effect
    obtain ⟨old, new, profile, pending, confirms⟩ := effect
    obtain ⟨isReset, isMatch, _⟩ := matches_of_confirms signatures confirms
    refine ⟨old, profile.changed.stored, isMatch, puts profile ?_,
      fun reset => absurd (isReset.symm.trans reset) nofun⟩
    intro unchanged
    have status := congrArg UserRow.statusId unchanged
    rw [UserChanges.applyTo_eq, pending] at status
    have same : some StatusId.active = some StatusId.pendingVerification :=
      status
    exact absurd same (by decide)
  · rename_i hash request
    cases consumes
    unfold Effect at effect
    rw [core, request] at effect
    obtain ⟨old, new, address, profile, _, confirms, _⟩ := effect
    obtain ⟨isReset, isMatch, sameEmail, given⟩ :=
      matches_of_confirms signatures confirms
    refine ⟨old, profile.changed.stored, isMatch, puts profile ?_,
      fun reset => absurd (isReset.symm.trans reset) nofun⟩
    intro unchanged
    have email := congrArg UserRow.email unchanged
    rw [UserChanges.applyTo_eq, sameEmail] at email
    have asked : some address = link.user.email := email
    cases link with
    | confirmation user => cases given
    | emailChange user newEmail differs =>
        obtain ⟨same, _⟩ := Option.filter_eq_some_iff.mp given
        exact differs (same.trans asked)
    | reset user => cases isReset
  · rename_i hash password request
    cases consumes
    unfold Effect at effect
    rw [core, request] at effect
    obtain ⟨old, new, stored, profile, hashed, resets, _⟩ := effect
    obtain ⟨isReset, isMatch⟩ := matches_of_resets signatures resets
    have given : AuthService.given (some password) = some password :=
      Option.filter_eq_some_iff.mpr
        ⟨rfl, by simpa using nonempty _ _ request⟩
    have asked : commit.request.core.passwordOf runtime = some old.id := by
      rw [core, request]
      simp [Request.passwordOf, given, resets.subject]
    refine ⟨old, profile.changed.stored, isMatch, puts profile ?_,
      fun _ => asked⟩
    intro unchanged
    have member : new ∈ commit.after.users :=
      (mem_users_changed profile.changed).mpr (.inl rfl)
    have differs := fresh new member (profile.changed.same ▸ asked)
      commit.before List.mem_cons_self old profile.changed.stored
      profile.changed.same.symm
    apply differs
    rcases profile.saved with ⟨_, rfl, _⟩ | ⟨_, rfl⟩
    · rfl
    · exact congrArg (·.password.getD "") unchanged
  · cases consumes

/-- What a request does to the status of an account. -/
theorem status_of_step {old new : UserRow}
    (step : RowStep runtime commit earlier old new) :
    (∀ hash, commit.request = .auth (.confirmEmail hash) → new = old ∨
      old.statusId = some StatusId.pendingVerification ∧
        new = { old with
          statusId := some StatusId.active, updatedAt := commit.started }) ∧
    (old.statusId = some StatusId.inactive →
      new.statusId ≠ some StatusId.inactive →
        ∃ type dto actor,
          commit.request.core = .account (.save type dto actor (some old.id))) := by
  cases step with
  | same unchanged =>
      exact ⟨fun _ _ => .inl unchanged,
        fun inactive left => absurd (unchanged ▸ inactive) left⟩
  | updated type dto actor id changes core updated =>
      refine ⟨fun hash request => ?_, fun _ _ => ?_⟩
      · rw [request] at core
        cases core
      · exact ⟨type, dto, actor, updated.id ▸ core⟩
  | removed type id actor core removed =>
      refine ⟨fun hash request => ?_, fun inactive left => ?_⟩
      · rw [request] at core
        cases core
      · rw [removed.deleted] at left
        exact absurd inactive left
  | deleted payload core deleted =>
      refine ⟨fun hash request => ?_, fun inactive left => ?_⟩
      · rw [request] at core
        cases core
      · rw [deleted.deleted] at left
        exact absurd inactive left
  | profile call exclude changes core asked profile =>
      have kept (status : changes.status = none) :
          new.statusId = old.statusId := by
        rcases profile.saved with ⟨_, rfl, _⟩ | ⟨_, rfl⟩
        · rfl
        · rw [UserChanges.applyTo_eq, status]
          rfl
      cases asked with
      | confirmEmail hash pending =>
          refine ⟨fun _ _ => ?_, fun inactive => ?_⟩
          · rcases profile.saved with ⟨_, same, _⟩ | ⟨_, same⟩
            · exact .inl same
            · rw [UserChanges.applyTo_eq] at same
              exact .inr ⟨pending, same⟩
          · exact absurd (pending.symm.trans inactive) (by decide)
      | confirmNewEmail | resetPassword | update =>
          refine ⟨fun hash request => ?_, fun inactive left => ?_⟩
          · rw [request] at core
            cases core
          · exact absurd ((kept rfl).trans inactive) left

/-- What the results about links need of a log. -/
structure LinkLog (runtime : Runtime) (commits : List DbCommit) : Prop where
  effects : Legal (fun commit earlier =>
    Effect runtime False commit earlier ∧ Sound commit.before) commits
  versions : FreshVersions runtime commits
  nonempty : ∀ commit ∈ commits, ∀ hash password,
    commit.request = .auth (.resetPassword hash password) → password ≠ ""

theorem LinkLog.suffix {commits part : List DbCommit}
    (log : LinkLog runtime commits) (suffix : part <:+ commits) :
    LinkLog runtime part where
  effects := log.effects.suffix suffix
  versions :=
    ⟨log.versions.updatedAt.suffix suffix, log.versions.password.suffix suffix⟩
  nonempty commit member := log.nonempty commit (suffix.subset member)

theorem usersKept_of_log {initial state : Db} {commits : List DbCommit}
    (leads : Leads initial commits state) (log : LinkLog runtime commits) :
    UsersKept commits state :=
  Leads.induction leads log.effects (fun _ member => absurd member List.not_mem_nil)
    fun _ _ _ kept effect => usersKept_of_effect effect.1 kept

theorem keptOrFresh_of_log {initial state : Db} {commits : List DbCommit}
    (leads : Leads initial commits state) (log : LinkLog runtime commits) :
    Legal (KeptOrFresh (·.password.getD "")) commits := by
  refine legal_iff.mpr fun commit earlier suffix => ?_
  have part := log.suffix ((List.suffix_cons commit earlier).trans suffix)
  exact keptOrFresh_password (legal_iff.mp log.effects _ _ suffix).1
    (usersKept_of_log (leads.of_suffix suffix) part)
    (legal_iff.mp log.versions.password _ _ suffix)

/-- Once the row of a link has been replaced, no later version matches. -/
theorem outlived {initial state : Db} {commits : List DbCommit}
    (leads : Leads initial commits state) (log : LinkLog runtime commits)
    {past : DbCommit} {older : List DbCommit} (suffix : past :: older <:+ commits)
    {link : AccountLink} {seen : Db} (before : seen ∈ statesBefore past older)
    {version : UserRow} (stored : version ∈ seen.users)
    (isMatch : link.Matches version)
    (written : ∃ new, .put new ∈ past.writes.users ∧ new.id = version.id)
    (password : link.isReset = true →
      past.request.core.passwordOf runtime = some version.id)
    {now : UserRow} (member : now ∈ state.users) : ¬link.Matches now := by
  intro again
  have same : now.id = version.id := again.id.trans isMatch.id.symm
  cases isReset : link.isReset with
  | false =>
      have moves : Legal (KeptOrFresh (·.updatedAt)) commits :=
        legal_iff.mpr fun commit earlier inside row put =>
          .inr (legal_iff.mp log.versions.updatedAt _ _ inside row put)
      have fresh := fresh_later leads moves suffix written
        (fun row put _ => legal_iff.mp log.versions.updatedAt _ _ suffix row put)
        member same
      exact fresh seen before version stored same.symm
        ((again.updatedAt isReset).trans (isMatch.updatedAt isReset).symm)
  | true =>
      have asked := password isReset
      have effect := (legal_iff.mp log.effects _ _ suffix).1
      have fresh := fresh_later leads (keptOrFresh_of_log leads log) suffix
        written (fun row put sameId => by
          have after : row ∈ past.after.users := by
            rcases user_put (users_of_effect effect) put with
              ⟨_, _, _, after⟩ | inserted
            · exact after
            · exact (mem_users_inserted inserted).mpr (.inl rfl)
          exact legal_iff.mp log.versions.password _ _ suffix row after
            (sameId ▸ asked))
        member same
      exact fresh seen before version stored same.symm
        ((again.password isReset).trans (isMatch.password isReset).symm)

/-- A commit that consumes a link finds a row it was signed for. -/
theorem consumed_of_log {commits : List DbCommit}
    (signatures : Signatures runtime) (log : LinkLog runtime commits)
    (suffix : commit :: earlier <:+ commits) {link : AccountLink}
    (consumes : commit.request.consumedLink = some (link.hash runtime)) :
    ∃ old ∈ commit.before.users, link.Matches old ∧
      (∃ new, .put new ∈ commit.writes.users ∧ new.id = old.id) ∧
      (link.isReset = true →
        commit.request.core.passwordOf runtime = some old.id) :=
  matches_of_consumed signatures (legal_iff.mp log.effects _ _ suffix).1
    (legal_iff.mp log.versions.password _ _ suffix)
    (log.nonempty commit (suffix.subset List.mem_cons_self)) consumes

/-- The link was signed for a version of the account in one of the states. -/
def AccountLink.SignedIn (link : AccountLink) (states : List Db) (id : Nat) :
    Prop :=
  ∃ state ∈ states, ∃ row ∈ state.users,
    row.id = id ∧ link.user = UserMapper.toDomain row

/-- The changes that have to end a link. -/
def AccountLink.EndedBy (link : AccountLink) (old new : UserRow) : Prop :=
  new.password ≠ old.password ∨ link.isReset = false ∧ new.email ≠ old.email

theorem AccountLink.matches_signed {link : AccountLink} {row : UserRow}
    (signed : link.user = UserMapper.toDomain row) : link.Matches row := by
  have id : link.user.id = row.id := congrArg User.id signed
  have updatedAt : link.user.updatedAt = row.updatedAt :=
    congrArg User.updatedAt signed
  have password : link.user.password = row.password :=
    congrArg User.password signed
  exact ⟨id.symm, fun _ => updatedAt.symm, fun _ => by rw [password]⟩

/-- Account links in a run.  A link takes effect once; confirming moves a
pending account to active and nothing else lifts a suspension but
`AccountsService.save`; a new email or password ends the links signed before;
a request that fails to consume its link has written nothing. -/
theorem links_of_reachable (environment : Environment)
    (admits : Request → Bool) (world : DbWorld) (config : DbConfig)
    (validated : ∀ hash password,
      admits (.auth (.resetPassword hash password)) = true → password ≠ "")
    (signatures : Signatures environment.runtime) (begins : Begins world)
    (reachable : (system environment admits).Reachable (.idle world) config)
    (versions : FreshVersions environment.runtime config.world.commits) :
    (∀ link : AccountLink, ∀ commit earlier,
      commit :: earlier <:+ config.world.commits →
        commit.request.consumedLink = some (link.hash environment.runtime) →
          ∀ past ∈ earlier, past.request.consumedLink ≠
            some (link.hash environment.runtime)) ∧
    (∀ commit ∈ config.world.commits, ∀ old ∈ commit.before.users,
      ∀ new ∈ commit.after.users, new.id = old.id →
        (∀ hash, commit.request = .auth (.confirmEmail hash) → new = old ∨
          old.statusId = some StatusId.pendingVerification ∧
            new = { old with
              statusId := some StatusId.active
              updatedAt := commit.started }) ∧
        (old.statusId = some StatusId.inactive →
          new.statusId ≠ some StatusId.inactive →
            ∃ type dto actor, commit.request.core =
              .account (.save type dto actor (some old.id)))) ∧
    (∀ change older, ∀ old ∈ change.before.users,
      ∀ new ∈ change.after.users, new.id = old.id →
        ∀ link : AccountLink, link.EndedBy old new →
          link.SignedIn (statesBefore change older) old.id →
            ∀ commit earlier, commit :: earlier <:+ config.world.commits →
              change :: older <:+ earlier →
                commit.request.consumedLink ≠
                  some (link.hash environment.runtime)) ∧
    ∀ thread ∈ config.threads,
      thread.context.request.consumedLink.isSome →
        (∀ failure, thread.program = .fail failure →
          ∀ commit ∈ config.world.commits, commit.tid ≠ thread.context.tid) ∧
        ∀ reply, thread.program = .done reply →
          ∃ commit ∈ config.world.commits, commit.tid = thread.context.tid ∧
            commit.request = thread.context.request := by
  have run : Run environment False world.db config :=
    .of_reachable begins False.elim reachable
  have requests := reachable.admitted begins.unlogged
    (motive := fun request => ∀ hash password,
      request = .auth (.resetPassword hash password) → password ≠ "")
    fun state request starts => by
      rintro hash password rfl
      simp only [system, Bool.and_eq_true] at starts
      exact validated hash password starts.1
  have log : LinkLog environment.runtime config.world.commits :=
    ⟨run.legal, versions, requests.2⟩
  refine ⟨?_, ?_, ?_, ?_⟩
  · intro link commit earlier suffix consumes past member again
    have part := log.suffix ((List.suffix_cons commit earlier).trans suffix)
    obtain ⟨old, stored, isMatch, _⟩ :=
      consumed_of_log signatures log suffix consumes
    obtain ⟨older, inside, _⟩ := part.effects.mem member
    obtain ⟨version, wasStored, matched, written, password⟩ :=
      consumed_of_log signatures part inside again
    exact outlived (run.leads.of_suffix suffix) part inside List.mem_cons_self
      wasStored matched written password stored isMatch
  · intro commit member old stored new after same
    obtain ⟨earlier, _, effect, _⟩ := run.legal.mem member
    exact status_of_step (rowStep effect stored after same)
  · intro change older old stored new after same link ended signed commit
      earlier suffix inside consumes
    have part := log.suffix ((List.suffix_cons commit earlier).trans suffix)
    obtain ⟨now, member, isMatch, _⟩ :=
      consumed_of_log signatures log suffix consumes
    obtain ⟨seen, before, version, wasStored, sameId, signed⟩ := signed
    have written : ∃ row, .put row ∈ change.writes.users ∧
        row.id = version.id := by
      rcases Table.mem_of_mem_applyAll after with put | ⟨unchanged, _⟩
      · exact ⟨new, put, same.trans sameId.symm⟩
      · have rows : new = old := Table.eq_of_key unchanged stored same
        rw [rows] at ended
        exact absurd ended (by simp [AccountLink.EndedBy])
    have password (isReset : link.isReset = true) :
        change.request.core.passwordOf environment.runtime =
          some version.id := by
      have changed : new.password ≠ old.password := by
        rcases ended with changed | ⟨notReset, _⟩
        · exact changed
        · exact absurd (isReset.symm.trans notReset) (by simp)
      rw [sameId]
      exact password_of_step (rowStep
        (legal_iff.mp part.effects _ _ inside).1 stored after same) changed
    exact outlived (run.leads.of_suffix suffix) part inside before wasStored
      (AccountLink.matches_signed signed) written password member isMatch
  · intro thread member consumes
    have one := reachable.atomic begins.unlogged
      (atomic_of_consumedLink environment) member consumes
    exact ⟨one.1, one.2⟩

namespace Sample

/-- Account 4 waits for the confirmation of its address. -/
def pendingUser : UserRow :=
  { user 4 RoleId.user "d" with statusId := some StatusId.pendingVerification }

def link : AccountLink := .confirmation (UserMapper.toDomain pendingUser)

/-- The only token there is belongs to account 4. -/
def linkRuntime : Runtime :=
  { Sample.runtime with
    decode hash := if hash = "link" then some link.claims else none
    verify hash secret :=
      if hash = "link" ∧ secret = link.secret then some link.claims else none
    sign claims secret :=
      if claims = link.claims ∧ secret = link.secret then "link" else "" }

theorem signatures : Signatures linkRuntime := by
  constructor
  · intro claims secret other read verified
    simp only [linkRuntime, Option.ite_none_right_eq_some,
      Option.some.injEq] at verified
    obtain ⟨⟨isLink, rfl⟩, rfl⟩ := verified
    split at isLink
    · rename_i signed
      exact ⟨signed.2.symm, signed.1.symm⟩
    · exact absurd isLink (by decide)
  · intro hash secret claims verified
    simp only [linkRuntime, Option.ite_none_right_eq_some] at verified ⊢
    exact ⟨verified.1.1, verified.2⟩

def linkWorld : DbWorld :=
  { world with db := { world.db with users := world.db.users.put pendingUser } }

/-- The second submission fails. -/
def confirmTwice : List (Choice Request) :=
  serve (.auth (.confirmEmail "link")) 0 7 ++
    serve (.auth (.confirmEmail "link")) 0 3

def confirmed : DbConfig :=
  (Api.system { environment with runtime := linkRuntime } fun request =>
      request = .auth (.confirmEmail "link")).after
    confirmTwice (.idle linkWorld)

theorem confirmed_log : ∃ commit, confirmed.world.commits = [commit] ∧
    commit.request = .auth (.confirmEmail "link") ∧
    commit.before = linkWorld.db ∧
    commit.writes.users = [.put { pendingUser with
      statusId := some StatusId.active, updatedAt := 5 }] :=
  ⟨_, rfl, rfl, rfl, rfl⟩

theorem linkBegins : Begins linkWorld := by
  refine ⟨?_, rfl⟩
  constructor <;> exact fun _ member => absurd member (Table.not_mem_empty _)

theorem confirmed_versions : FreshVersions linkRuntime confirmed.world.commits := by
  obtain ⟨commit, log, request, before, users⟩ := confirmed_log
  rw [log]
  constructor
  · refine ⟨fun row put state member old stored _ => ?_, trivial⟩
    obtain rfl : state = commit.before := by simpa [statesBefore] using member
    have initial : ∀ old ∈ linkWorld.db.users, old.updatedAt = 0 := by decide
    rw [users, List.mem_singleton] at put
    cases put
    simp [initial old (before ▸ stored)]
  · refine ⟨fun row _ asked => ?_, trivial⟩
    rw [request] at asked
    cases asked

end Sample

theorem links_of_reachable_confirmed :
    Sample.confirmed.world.commits.map (·.request.consumedLink) =
        [some (Sample.link.hash Sample.linkRuntime)] ∧
      Sample.confirmed.threads.length = 1 ∧
      ∀ thread ∈ Sample.confirmed.threads,
        thread.context.request.consumedLink.isSome →
          (∀ failure, thread.program = .fail failure →
            ∀ commit ∈ Sample.confirmed.world.commits,
              commit.tid ≠ thread.context.tid) ∧
          ∀ reply, thread.program = .done reply →
            ∃ commit ∈ Sample.confirmed.world.commits,
              commit.tid = thread.context.tid ∧
              commit.request = thread.context.request :=
  ⟨by decide, by decide, (links_of_reachable _ _ _ _ (by simp) Sample.signatures
    Sample.linkBegins (System.reachable_after _ _ _)
    Sample.confirmed_versions).2.2.2⟩

end SaasFoundation

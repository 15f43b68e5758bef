import OrgMembership.Lifecycle.Patch
import OrgMembership.Repository.Member
import OrgMembership.Repository.Tenant
import OrgMembership.Service.Provisioning

/-!
# Invitation service

P-6 `Invite`, I-3 `AddFromRegister`, P-31 `Revoke` and the expiry sweep.  The
Realm Provisioner's answer to a request for a user, and whether a user is a
service account, are arguments.
-/

namespace OrgMembership

open Concurrency Relational

variable {σ : Type}

/-- The limits of the service; 0 switches one off.  Durations are in
nanoseconds. -/
structure InvitationConfig where
  expiryDays : Int
  reinviteCooldown : Int
  maxPerHour : Nat
  maxPerActorPerHour : Nat
  deriving DecidableEq

/-- The body of P-6. -/
structure InvitationInput where
  email : String
  fullName : String
  initialTenantRoles : List TenantRoleCode
  initialDeptMappings : List InvitationDeptMapping
  deriving DecidableEq

/-- What an invited user has to do first. -/
inductive RequiredAction
  | verifyEmail
  | updatePassword
  | configureTOTP
  deriving DecidableEq

/-- What the Realm Provisioner is asked to create. -/
structure CreateInvitedUserRequest where
  tenantID : Uuid
  email : String
  fullName : String
  requiredActions : List RequiredAction
  tenantSlug : String
  deriving DecidableEq

/-- The other services as the invitation service sees them; the Realm
Provisioner may be unavailable. -/
structure InvitationPeers where
  createInvitedUser : CreateInvitedUserRequest → Option Uuid
  isServiceAccount : Uuid → Bool

/-- `strings.ToLower(strings.TrimSpace(s))`. -/
def normalizeEmail (email : String) : String :=
  Text.toLower (Text.trimSpace email)

/-- Exactly one `@`, between non-empty parts. -/
def isValidEmail (email : String) : Bool :=
  match email.toList.span (· ≠ '@') with
  | (localPart, _ :: domain) =>
      !localPart.isEmpty && !domain.isEmpty && !domain.contains '@'
  | _ => false

/-! ## P-6 -/

/-- The checks of P-6 that need no database.  The name is measured in bytes. -/
def checkInvitation (input : InvitationInput) : Except Failure Unit := do
  if input.email = "" then
    throw (newError .validation "email is required")
  if isValidEmail input.email = false then
    throw (newError .validation "email is not a valid address")
  if input.fullName = "" then
    throw (newError .validation "full_name is required")
  if 512 < input.fullName.utf8ByteSize then
    throw (newError .validation "full_name must not exceed 512 characters")
  if input.initialTenantRoles.any fun code => !code.isElevated then
    throw (newErrorWith .validation "initial role must be elevated (not 'member')"
      [("code", .text "invalid_role")])

/-- One pending invitation per email. -/
def checkNotInvited (tenantID : Uuid) (email : String) : DbM σ Unit := do
  match ← withPool (InvitationRepository.findPendingByEmail tenantID email) with
  | none => return ()
  | some _ =>
      throw (newError .invitationAlreadyExists "invitation already exists for this email")

/-- PI-11: the cooldown of an email. -/
def checkCooldown (config : InvitationConfig) (tenantID : Uuid) (email : String) :
    DbM σ Unit :=
  if 0 < config.reinviteCooldown then do
    match ← withPool (InvitationRepository.mostRecentCreatedAt tenantID email) with
    | none => return ()
    | some mostRecent => do
        let now ← timeNow
        if now - mostRecent < config.reinviteCooldown then
          throw (newErrorWith .reinviteTooSoon "re-invite too soon"
            [("retry_after_seconds",
              .int ((config.reinviteCooldown - (now - mostRecent)) / 1000000000))])
        else
          return ()
  else
    return ()

/-- An hourly ceiling on the invitations that `count` sees. -/
def checkHourlyRate (limit : Nat) (message : String) (count : Int → DbM σ Nat) : DbM σ Unit :=
  if 0 < limit then do
    let now ← timeNow
    let created ← withPool (count (now - 3600000000000))
    if limit ≤ created then
      throw (newErrorWith .inviteRateLimited message [("retry_after_seconds", .int 3600)])
    else
      return ()
  else
    return ()

/-- The refusal that reports the seats. -/
def seatLimitError (licensedSeats active pending : Int) : Failure :=
  newErrorWith .seatLimitReached "seat limit reached"
    [("licensed_seats", .int licensedSeats), ("active_users", .int active),
      ("pending_invitations", .int pending)]

/-- The advisory check before the Realm Provisioner is called. -/
def preflightSeatCheck (tenantID : Uuid) : DbM σ Tenant := do
  let tenant ← withPool (TenantRepository.findByID tenantID)
  let active ← withPool (MembershipRepository.countActive tenantID)
  let pending ← withPool (InvitationRepository.countPending tenantID)
  if tenant.licensedSeats ≤ active + pending then
    throw (seatLimitError tenant.licensedSeats active pending)
  else
    return tenant

/-- Users with power over others need a second factor. -/
def requiredActions (input : InvitationInput) : List RequiredAction :=
  [.verifyEmail, .updatePassword] ++
    if (input.initialTenantRoles.any fun code => code = .tenantAdmin || code = .tenantOwner) ||
        input.initialDeptMappings.any fun mapping => mapping.level = .approver then
      [.configureTOTP]
    else
      []

/-- The row that remembers a user to clean up after the seats ran out. -/
def orphanInvitation (tenantID : Uuid) (input : InvitationInput) (actorID keycloakUserID : Uuid)
    (now : Int) : InvitationInsert where
  tenantID
  email := input.email
  fullName := input.fullName
  initialTenantRoles := []
  initialDeptMappings := []
  invitedBy := actorID
  keycloakUserID := some keycloakUserID
  status := .revoked
  expiresAt := now

/-- The row of a new invitation. -/
def newInvitation (config : InvitationConfig) (tenantID : Uuid) (input : InvitationInput)
    (actorID keycloakUserID : Uuid) (now : Int) : InvitationInsert where
  tenantID
  email := input.email
  fullName := input.fullName
  initialTenantRoles := input.initialTenantRoles
  initialDeptMappings := input.initialDeptMappings
  invitedBy := actorID
  keycloakUserID := some keycloakUserID
  status := .pending
  expiresAt := now + days config.expiryDays

/-- The transaction of `Invite`: the seats are counted under the tenant row
lock.  Without a free seat it commits the row for the clean-up. -/
def inviteTx (config : InvitationConfig) (tenantID : Uuid) (input : InvitationInput)
    (actorID keycloakUserID : Uuid) : DbM σ (Except Failure PendingInvitation) := do
  let licensedSeats ← TenantRepository.licensedSeatsForUpdate tenantID
  let active ← MembershipRepository.countActive tenantID
  let pending ← InvitationRepository.countPending tenantID
  let now ← timeNow
  if licensedSeats ≤ active + pending then do
    let row ← InvitationRepository.insert
      (orphanInvitation tenantID input actorID keycloakUserID now)
    InvitationRepository.setKCCleanupPending tenantID row.id true row.recordVersion
    return .error (seatLimitError licensedSeats active pending)
  else do
    let row ← InvitationRepository.insert
      (newInvitation config tenantID input actorID keycloakUserID now)
    return .ok row

/-- Delete the Keycloak user of a failed invitation; a failure is only logged. -/
def compensate (tenantID keycloakUserID : Uuid) : DbM σ Unit := do
  let _ ← (callRealm (.deleteUser tenantID keycloakUserID)).observe
  return ()

/-- The local part of `Invite`, once the Keycloak user exists. -/
def recordInvitation (config : InvitationConfig) (tenantID : Uuid) (input : InvitationInput)
    (actorID keycloakUserID : Uuid) : DbM σ PendingInvitation := do
  match ← (runInTx (inviteTx config tenantID input actorID keycloakUserID)).observe with
  | .ok (.ok row) => return row
  | .ok (.error seatLimit) =>
      compensate tenantID keycloakUserID
      throw seatLimit
  | .error failure =>
      compensate tenantID keycloakUserID
      throw failure

/-- P-6 `Invite`. -/
@[irreducible]
def invite (config : InvitationConfig) (peers : InvitationPeers) (tenantID : Uuid)
    (input : InvitationInput) (actorID : Uuid) : DbM σ PendingInvitation :=
  let input := { input with email := normalizeEmail input.email }
  match checkInvitation input with
  | .error failure => throw failure
  | .ok _ => do
      checkNotInvited tenantID input.email
      checkCooldown config tenantID input.email
      checkHourlyRate config.maxPerHour "invite rate limit reached"
        (InvitationRepository.countCreatedInWindow tenantID)
      checkHourlyRate config.maxPerActorPerHour "actor invite rate limit reached"
        (InvitationRepository.countCreatedInWindowByActor tenantID actorID)
      let tenant ← preflightSeatCheck tenantID
      match peers.createInvitedUser
          ⟨tenantID, input.email, input.fullName, requiredActions input, tenant.slug⟩ with
      | none => throw (newError .realmProvisionerUnavailable "realm provisioner unavailable")
      | some keycloakUserID =>
          if peers.isServiceAccount keycloakUserID then
            throw (newError .serviceAccountNotGrantable
              "service accounts cannot be invited as tenant members")
          else
            recordInvitation config tenantID input actorID keycloakUserID

/-- `Invite` up to the Keycloak user it creates. -/
@[irreducible]
def createInvited (config : InvitationConfig) (peers : InvitationPeers) (tenantID : Uuid)
    (input : InvitationInput) (actorID : Uuid) : DbM σ Uuid :=
  match checkInvitation input with
  | .error failure => throw failure
  | .ok _ => do
      checkNotInvited tenantID input.email
      checkCooldown config tenantID input.email
      checkHourlyRate config.maxPerHour "invite rate limit reached"
        (InvitationRepository.countCreatedInWindow tenantID)
      checkHourlyRate config.maxPerActorPerHour "actor invite rate limit reached"
        (InvitationRepository.countCreatedInWindowByActor tenantID actorID)
      let tenant ← preflightSeatCheck tenantID
      match peers.createInvitedUser
          ⟨tenantID, input.email, input.fullName, requiredActions input, tenant.slug⟩ with
      | none => throw (newError .realmProvisionerUnavailable "realm provisioner unavailable")
      | some keycloakUserID => return keycloakUserID

/-- `Invite` around the Keycloak user. -/
theorem invite_eq {config : InvitationConfig} {peers : InvitationPeers} {tenantID : Uuid}
    {input : InvitationInput} {actorID : Uuid} :
    (invite config peers tenantID input actorID : DbM σ _) =
      let input := { input with email := normalizeEmail input.email }
      createInvited config peers tenantID input actorID >>= fun keycloakUserID =>
        if peers.isServiceAccount keycloakUserID then
          throw (newError .serviceAccountNotGrantable
            "service accounts cannot be invited as tenant members")
        else
          recordInvitation config tenantID input actorID keycloakUserID := by
  rw [invite]
  dsimp only
  rw [createInvited]
  cases checkInvitation { input with email := normalizeEmail input.email } with
  | error failure => rfl
  | ok _ =>
      simp only [bind_assoc]
      -- the five checks are the same on both sides
      iterate 5 refine congrArg _ (funext fun _ => ?_)
      split
      · rfl
      · exact (pure_bind _ _).symm

/-! ## I-3 -/

/-- The pending invitation of a registering user: by Keycloak user, then by
email. -/
def findPendingFor (tenantID keycloakUserID : Uuid) (email : String) :
    DbM σ (Option PendingInvitation) := do
  match ← withPool (InvitationRepository.findPendingByKeycloakUser tenantID keycloakUserID) with
  | some pending => return some pending
  | none =>
      if email = "" then
        return none
      else
        withPool (InvitationRepository.findPendingByEmail tenantID email)

/-- The pending invitation of a Keycloak user. -/
def pendingOf (tenantID keycloakUserID : Uuid) (db : Db) : Option PendingInvitation :=
  db.invitations.first? fun row =>
    row.tenantID = tenantID && row.keycloakUserID = some keycloakUserID && row.status = .pending

/-- The pending invitation to an address. -/
def pendingTo (tenantID : Uuid) (email : String) (db : Db) : Option PendingInvitation :=
  db.invitations.first? fun row =>
    row.tenantID = tenantID && row.email = email && row.status = .pending

/-- The invitation that I-3 finds for a registering user. -/
def candidateOf (tenantID keycloakUserID : Uuid) (email : String) (db : Db) :
    Option PendingInvitation :=
  match pendingOf tenantID keycloakUserID db with
  | some pending => some pending
  | none =>
      if email = "" then
        none
      else
        pendingTo tenantID email db

/-- An expired invitation holds no seat any more, so accepting it needs a free
one. -/
def recheckExpired (tenantID : Uuid) (locked : PendingInvitation) (now : Int) : DbM σ Unit :=
  if locked.expiresAt ≤ now then do
    let licensed ← TenantRepository.licensedSeatsForUpdate tenantID
    let active ← MembershipRepository.countActive tenantID
    let pending ← InvitationRepository.countPending tenantID
    if licensed ≤ active + pending then
      throw (newError .seatLimitReached
        "seat limit reached; expired invitation cannot be honoured")
    else
      return ()
  else
    return ()

/-- Look at the candidate again under its row lock.  One that is no longer
pending is forgotten, also by later attempts. -/
def relockPending (tenantID : Uuid) :
    DbM (Option PendingInvitation) (Option PendingInvitation) := do
  match ← get with
  | none => return none
  | some pending =>
      match ← InvitationRepository.lockByID pending.id with
      | none =>
          modify fun _ => none
          return none
      | some locked =>
          if locked.status ≠ .pending then do
            modify fun _ => none
            return none
          else do
            let now ← timeNow
            recheckExpired tenantID locked now
            let refreshed := { pending with recordVersion := locked.recordVersion }
            modify fun _ => some refreshed
            return some refreshed

/-- Grant one role the invitation queued. -/
def grantInitial (tenantID userID membershipID invitedBy : Uuid) (code : TenantRoleCode) :
    DbM σ Unit := do
  let role ← TenantRoleRepository.grant tenantID userID membershipID code invitedBy
  enqueue ⟨tenantID, userID, .tenantRoleGranted userID tenantID role.roleCode invitedBy⟩

/-- Assign one department the invitation queued. -/
def assignInitial (tenantID userID membershipID invitedBy : Uuid)
    (mapping : InvitationDeptMapping) : DbM σ Unit := do
  let (row, _) ← DeptMembershipRepository.assign tenantID userID mapping.departmentID membershipID
    mapping.level invitedBy
  enqueue ⟨tenantID, userID, .departmentMembershipGranted userID tenantID row.departmentID
    row.roleLevel invitedBy⟩

/-- Flip the invitation to accepted and apply what it queued. -/
def acceptInvitation (tenantID userID membershipID : Uuid) (pending : PendingInvitation) :
    DbM σ Unit := do
  let _ ← InvitationRepository.setStatus tenantID pending.id .accepted pending.recordVersion
  (pending.initialTenantRoles.filter TenantRoleCode.isElevated).forM
    (grantInitial tenantID userID membershipID pending.invitedBy)
  pending.initialDeptMappings.forM (assignInitial tenantID userID membershipID pending.invitedBy)

/-- The transaction of `AddFromRegister`.  The captured variable is the
candidate invitation. -/
def addFromRegisterTx (tenantID userID : Uuid) :
    DbM (Option PendingInvitation) TenantMembership := do
  TenantRepository.lockByID tenantID
  let pending ← relockPending tenantID
  let membership ← MembershipRepository.insert tenantID userID .active
  match pending with
  | none => return membership
  | some pending =>
      acceptInvitation tenantID userID membership.id pending
      return membership

/-- Erase the personal data of a settled invitation; a failure is only logged. -/
def erasePIIBestEffort (tenantID id : Uuid) : DbM σ Unit := do
  let _ ← (withPool (InvitationRepository.erasePII tenantID id)).observe
  return ()

/-- I-3 `AddFromRegister`.  The invitation found before the transaction is a captured variable. -/
def addFromRegister (tenantID userID keycloakUserID : Uuid) (email : String)
    (isServiceAccount : Bool) : DbM σ TenantMembership :=
  if keycloakUserID ≠ 0 ∧ isServiceAccount then
    throw (newError .serviceAccountNotGrantable
      "service accounts cannot be enrolled as tenant members")
  else
    let email := normalizeEmail email
    if email ≠ "" ∧ email.toList.contains '@' = false then
      throw (newError .validation "invalid email address")
    else do
      let pending ← findPendingFor tenantID keycloakUserID email
      let (membership, accepted) ←
        Fallible.capturing pending (runInTx (addFromRegisterTx tenantID userID))
      accepted.toList.forM fun invitation => erasePIIBestEffort tenantID invitation.id
      return membership

/-! ## P-31 and the expiry sweep -/

/-- P-31 `Revoke`, in three transactions. -/
def revoke (tenantID id : Uuid) (expectedVersion : Int) : DbM σ PendingInvitation := do
  let row ← withPool (InvitationRepository.setStatus tenantID id .revoked expectedVersion)
  withPool (InvitationRepository.setKCCleanupPending tenantID id true row.recordVersion)
  erasePIIBestEffort tenantID id
  return row

/-- One batch of the `InvitationExpiry` job. -/
def expireInvitations (limit : Nat) : DbM σ Nat :=
  withPool (InvitationRepository.expireOverdue limit)

/-- An example: a tenant with five seats, without members and invitations. -/
def loneTenant : Db :=
  { Db.empty with tenants := .singleton { trialRow with licensedSeats := 5 } }

end OrgMembership

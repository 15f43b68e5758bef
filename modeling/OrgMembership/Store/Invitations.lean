import Mathlib.Data.List.Sort
import OrgMembership.Store.Access

/-!
# Queries on invitations

The statements of the invitation repository.  The expiry sweep is two steps: the
sub-select that picks the overdue rows, and the update of each picked row, which
does not look at the row's status again.
-/

namespace OrgMembership

open Relational

/-- A pending invitation that holds a seat at `now`. -/
def PendingInvitation.holdsSeat (tenantID : Uuid) (now : Int) (row : PendingInvitation) : Bool :=
  row.tenantID = tenantID && row.status = .pending && now < row.expiresAt

/-- The columns an `INSERT INTO pending_invitations` sets. -/
structure InvitationInsert where
  tenantID : Uuid
  email : String
  fullName : String
  initialTenantRoles : List TenantRoleCode
  initialDeptMappings : List InvitationDeptMapping
  invitedBy : Uuid
  keycloakUserID : Option Uuid
  status : InvitationStatus
  expiresAt : Int
  deriving DecidableEq

/-- The row an `INSERT INTO pending_invitations` would add. -/
def InvitationInsert.row (id : Uuid) (now : Int) (values : InvitationInsert) :
    PendingInvitation where
  id
  tenantID := values.tenantID
  email := values.email
  fullName := values.fullName
  initialTenantRoles := values.initialTenantRoles
  initialDeptMappings := values.initialDeptMappings
  invitedBy := values.invitedBy
  keycloakUserID := values.keycloakUserID
  status := values.status
  expiresAt := pgTime values.expiresAt
  acceptedAt := none
  kcCleanupPending := false
  recordVersion := 1
  createdAt := now
  updatedAt := now

/-- The CHECK constraints of the table. -/
def invitationChecks (row : PendingInvitation) : List (Constraint × Bool) :=
  [(.chkPiAcceptedAtOnlyIfAccepted, row.acceptedAt.isNone || row.status = .accepted),
    (.chkPiAcceptedRequiresAt, row.status ≠ .accepted || row.acceptedAt.isSome),
    (.piFullNameNotEmpty, row.fullName ≠ "")]

/-- No other pending invitation has the row's tenant and email. -/
def invitationUnique (db : Db) (row : PendingInvitation) : List (Constraint × Bool) :=
  [(.uqPiPending,
    row.status ≠ .pending ||
      (db.invitations.first? fun other =>
        other.id ≠ row.id && other.status = .pending && other.tenantID = row.tenantID &&
          other.email = row.email).isNone)]

/-- The new version of an invitation under the trigger and the constraints. -/
def updateInvitation (now : Int) (db : Db) (old new : PendingInvitation) :
    Except PgError PendingInvitation :=
  let row := old.touch now new
  match firstViolated (invitationChecks row ++ invitationUnique db row) with
  | none => .ok row
  | some error => .error error

/-- The statements on `pending_invitations`. -/
inductive InvitationQuery
  | findByID (tenantID id : Uuid)
  | findPendingByEmail (tenantID : Uuid) (email : String)
  | findPendingByKeycloakUser (tenantID keycloakUserID : Uuid)
  | mostRecentCreatedAt (tenantID : Uuid) (email : String)
  | countCreatedInWindow (tenantID : Uuid) (since : Int)
  | countCreatedInWindowByActor (tenantID actorID : Uuid) (since : Int)
  | countPending (tenantID : Uuid)
  | lockByID (id : Uuid)
  | insert (values : InvitationInsert)
  | setStatus (tenantID id : Uuid) (status : InvitationStatus) (expectedVersion : Int)
  | setKCCleanupPending (tenantID id : Uuid) (pending : Bool) (expectedVersion : Int)
  | erasePII (tenantID id : Uuid)
  | listPendingKCCleanup (limit : Nat)
  | clearKCCleanupPendingByID (id : Uuid)
  | scanOverdue (limit : Nat)
  | expire (id : Uuid)
  | scanTenant (tenantID : Uuid)
  | delete (id : Uuid)

/-- What they return. -/
abbrev InvitationQuery.Result : InvitationQuery → Type
  | findByID _ _ => Option PendingInvitation
  | findPendingByEmail _ _ => Option PendingInvitation
  | findPendingByKeycloakUser _ _ => Option PendingInvitation
  | mostRecentCreatedAt _ _ => Option Int
  | countCreatedInWindow _ _ => Nat
  | countCreatedInWindowByActor _ _ _ => Nat
  | countPending _ => Nat
  | lockByID _ => Option PendingInvitation
  | insert _ => Option PendingInvitation
  | setStatus _ _ _ _ => Option PendingInvitation
  | setKCCleanupPending _ _ _ _ => Option PendingInvitation
  | erasePII _ _ => Unit
  | listPendingKCCleanup _ => List PendingInvitation
  | clearKCCleanupPendingByID _ => Unit
  | scanOverdue _ => List Uuid
  | expire _ => Option PendingInvitation
  | scanTenant _ => List Uuid
  | delete _ => Unit

namespace InvitationQuery

/-- What each statement does. -/
def effect : (query : InvitationQuery) → Context → Db → DbEffect query.Result
  | findByID tenantID id, _, db =>
      .read ((db.invitations.find? id).filter fun row => row.tenantID = tenantID)
  | findPendingByEmail tenantID email, _, db =>
      .read (db.invitations.first? fun row =>
        row.tenantID = tenantID && row.email = email && row.status = .pending)
  | findPendingByKeycloakUser tenantID keycloakUserID, _, db =>
      .read (db.invitations.first? fun row =>
        row.tenantID = tenantID && row.keycloakUserID = some keycloakUserID &&
          row.status = .pending)
  | mostRecentCreatedAt tenantID email, _, db =>
      .read (((db.invitations.select fun row => row.tenantID = tenantID && row.email = email).map
        PendingInvitation.createdAt).max?)
  | countCreatedInWindow tenantID since, _, db =>
      .read (db.invitations.count fun row => row.tenantID = tenantID && since ≤ row.createdAt)
  -- the statement filters on a column the table does not have
  | countCreatedInWindowByActor _ _ _, _, _ => .refuse .undefinedColumn
  | countPending tenantID, context, db =>
      .read (db.invitations.count (·.holdsSeat tenantID (txNow context)))
  | lockByID id, _, db => invitationAccess.lockRow db id fun _ => true
  | insert values, context, db =>
      let row := values.row context.fresh (txNow context)
      invitationAccess.insertRow db row (fun _ => false)
        (firstViolated
          ([(Constraint.piExpiresAt, decide (txNow context < row.expiresAt))] ++
            invitationChecks row ++ [(.primaryKey, (db.invitations.find? row.id).isNone)] ++
            invitationUnique db row ++ [(.fkTenant, (db.tenants.find? row.tenantID).isSome)]))
        [.tenant values.tenantID]
  | setStatus tenantID id status expectedVersion, context, db =>
      invitationAccess.updateRow db id
        (fun row => row.tenantID = tenantID && row.recordVersion = expectedVersion &&
          row.status = .pending)
        fun row => updateInvitation (txNow context) db row
          { row with
            status
            acceptedAt := if status = .accepted then some (txNow context) else row.acceptedAt }
  | setKCCleanupPending tenantID id pending expectedVersion, context, db =>
      invitationAccess.updateRow db id
        (fun row => row.tenantID = tenantID && row.recordVersion = expectedVersion)
        fun row => updateInvitation (txNow context) db row { row with kcCleanupPending := pending }
  | erasePII tenantID id, context, db =>
      (invitationAccess.updateRow db id (fun row => row.tenantID = tenantID)
        fun row => updateInvitation (txNow context) db row
          { row with email := "", fullName := "redacted" }).map fun _ => ()
  | listPendingKCCleanup limit, _, db =>
      .read ((db.invitations.select PendingInvitation.kcCleanupPending).take limit)
  | clearKCCleanupPendingByID id, context, db =>
      (invitationAccess.updateRow db id (fun _ => true)
        fun row => updateInvitation (txNow context) db row
          { row with kcCleanupPending := false }).map fun _ => ()
  | scanOverdue limit, context, db =>
      .read ((((db.invitations.select fun row =>
        row.status = .pending && row.expiresAt < txNow context).insertionSort
          fun first second => first.expiresAt ≤ second.expiresAt).map PendingInvitation.id).take
            limit)
  | expire id, context, db =>
      invitationAccess.updateRow db id (fun _ => true)
        fun row => updateInvitation (txNow context) db row
          { row with
            status := .expired, kcCleanupPending := true, email := "", fullName := "redacted" }
  | scanTenant tenantID, _, db => invitationAccess.scan db fun row => row.tenantID = tenantID
  | delete id, _, db =>
      (invitationAccess.deleteRow db id (fun _ => true) fun _ => none).map fun _ => ()

end InvitationQuery

end OrgMembership

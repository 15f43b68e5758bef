import OrgMembership.Store.Dialect

/-!
# Member repositories

The methods of the repositories of memberships, tenant roles, department
memberships and invitations, as they run inside a transaction.
-/

namespace OrgMembership

open Concurrency Relational

variable {σ α : Type}

namespace MembershipRepository

/-- The live membership of the user. -/
def findByUserID (tenantID userID : Uuid) : DbM σ TenantMembership := do
  match ← membershipQuery (.findByUserID tenantID userID) with
  | some row => return row
  | none => throw (newError .memberNotFound "member not found")

/-- The existing row is returned unchanged, whatever its status. -/
def insert (tenantID userID : Uuid) (status : MembershipStatus) : DbM σ TenantMembership := do
  match ← membershipQuery (.insert tenantID userID status) with
  | some created => return created
  | none =>
      match ← membershipQuery (.findByUserID tenantID userID) with
      | some winner => return winner
      | none => throw (.pg .noRows)

/-- Why an optimistically locked update changed nothing. -/
def probeMembership (tenantID userID : Uuid) : DbM σ α := do
  match ← membershipQuery (.findByUserID tenantID userID) with
  | some row =>
      throw (newErrorWith .optimisticLockConflict "record version conflict"
        [("record_version", .int row.recordVersion)])
  | none => throw (newError .memberNotFound "member not found")

/-- An `UPDATE` of one version of the live row; a miss is explained by a probe. -/
def setStatus (tenantID userID : Uuid) (status : MembershipStatus) (expectedVersion : Int) :
    DbM σ TenantMembership := do
  let ids ← membershipQuery (.scan tenantID userID expectedVersion)
  match ← visitEach
      (fun id => membershipQuery (.setStatus id tenantID userID status expectedVersion)) ids with
  | row :: _ => return row
  | [] => probeMembership tenantID userID

/-- The same with the row deleted. -/
def softDelete (tenantID userID : Uuid) (expectedVersion : Int) : DbM σ Unit := do
  let ids ← membershipQuery (.scan tenantID userID expectedVersion)
  match ← visitEach
      (fun id => membershipQuery (.softDelete id tenantID userID expectedVersion)) ids with
  | _ :: _ => return ()
  | [] => probeMembership tenantID userID

/-- The members that take a seat. -/
def countActive (tenantID : Uuid) : DbM σ Nat :=
  membershipQuery (.countActive tenantID)

end MembershipRepository

namespace TenantRoleRepository

/-- The live grants of the user. -/
def listByUser (tenantID userID : Uuid) : DbM σ (List TenantRole) :=
  roleQuery (.listByUser tenantID userID)

/-- The live grants of `tenant_owner`. -/
def countActiveOwners (tenantID : Uuid) : DbM σ Nat :=
  roleQuery (.countActiveOwners tenantID)

/-- Insert the grant, or return the live one that is there. -/
def grant (tenantID userID membershipID : Uuid) (roleCode : TenantRoleCode) (grantedBy : Uuid) :
    DbM σ TenantRole := do
  match ← roleQuery (.insert tenantID userID membershipID roleCode grantedBy) with
  | some created => return created
  | none =>
      match ← roleQuery (.find tenantID userID roleCode) with
      | some winner => return winner
      | none => throw (.pg .noRows)

/-- Delete the live grant of one role. -/
def revoke (tenantID userID : Uuid) (roleCode : TenantRoleCode) : DbM σ TenantRole := do
  let ids ← roleQuery (.scan (.grant tenantID userID roleCode))
  match ← visitEach
      (fun id => roleQuery (.softDelete (.grant tenantID userID roleCode) id)) ids with
  | row :: _ => return row
  | [] => throw (newError .memberNotFound "role grant not found")

/-- Delete all live grants of the user. -/
def softDeleteAllForUser (tenantID userID : Uuid) : DbM σ (List TenantRole) := do
  let ids ← roleQuery (.scan (.user tenantID userID))
  visitEach (fun id => roleQuery (.softDelete (.user tenantID userID) id)) ids

end TenantRoleRepository

namespace DeptMembershipRepository

/-- The live assignments of the user. -/
def listByUser (tenantID userID : Uuid) : DbM σ (List DeptMembership) :=
  deptQuery (.listByUser tenantID userID)

/-- Insert the assignment, or return the one a concurrent caller inserted. -/
def insertAssignment (tenantID userID departmentID membershipID : Uuid) (level : DeptRole)
    (grantedBy : Uuid) : DbM σ DeptMembership := do
  match ← deptQuery (.insert tenantID userID departmentID membershipID level grantedBy) with
  | some created => return created
  | none =>
      match ← deptQuery (.find tenantID userID departmentID) with
      | some winner => return winner
      | none => throw (.pg .noRows)

/-- The current row and the live row there was before. -/
def assign (tenantID userID departmentID membershipID : Uuid) (level : DeptRole)
    (grantedBy : Uuid) : DbM σ (DeptMembership × Option DeptMembership) := do
  deptQuery (.lockAssign tenantID userID departmentID)
  let ids ← deptQuery (.scan (.assignment tenantID userID departmentID))
  let found ← visitEach
    (fun id => deptQuery (.lock (.assignment tenantID userID departmentID) id)) ids
  match found with
  | [] =>
      let row ← insertAssignment tenantID userID departmentID membershipID level grantedBy
      return (row, none)
  | existing :: _ =>
      if existing.roleLevel = level then
        return (existing, some existing)
      else do
        let _ ← deptQuery (.softDelete .row existing.id)
        let row ← insertAssignment tenantID userID departmentID membershipID level grantedBy
        return (row, some existing)

/-- Delete the live assignment to one department. -/
def remove (tenantID userID departmentID : Uuid) : DbM σ DeptMembership := do
  let ids ← deptQuery (.scan (.assignment tenantID userID departmentID))
  match ← visitEach
      (fun id => deptQuery (.softDelete (.assignment tenantID userID departmentID) id)) ids with
  | row :: _ => return row
  | [] => throw (newError .memberNotFound "dept membership not found")

/-- Delete all live assignments of the user. -/
def softDeleteAllForUser (tenantID userID : Uuid) : DbM σ (List DeptMembership) := do
  let ids ← deptQuery (.scan (.user tenantID userID))
  visitEach (fun id => deptQuery (.softDelete (.user tenantID userID) id)) ids

end DeptMembershipRepository

namespace InvitationRepository

/-- `SELECT … FOR UPDATE` of one invitation. -/
def lockByID (id : Uuid) : DbM σ (Option PendingInvitation) :=
  invitationQuery (.lockByID id)

/-- The pending invitation of an email. -/
def findPendingByEmail (tenantID : Uuid) (email : String) : DbM σ (Option PendingInvitation) :=
  invitationQuery (.findPendingByEmail tenantID email)

/-- The pending invitation of a Keycloak user. -/
def findPendingByKeycloakUser (tenantID keycloakUserID : Uuid) :
    DbM σ (Option PendingInvitation) :=
  invitationQuery (.findPendingByKeycloakUser tenantID keycloakUserID)

/-- When the email was last invited, in whatever status that invitation is. -/
def mostRecentCreatedAt (tenantID : Uuid) (email : String) : DbM σ (Option Int) :=
  invitationQuery (.mostRecentCreatedAt tenantID email)

/-- The tenant's invitations since a moment. -/
def countCreatedInWindow (tenantID : Uuid) (since : Int) : DbM σ Nat :=
  invitationQuery (.countCreatedInWindow tenantID since)

/-- The actor's invitations since a moment, which the schema cannot count. -/
def countCreatedInWindowByActor (tenantID actorID : Uuid) (since : Int) : DbM σ Nat :=
  invitationQuery (.countCreatedInWindowByActor tenantID actorID since)

/-- The invitations that hold a seat. -/
def countPending (tenantID : Uuid) : DbM σ Nat :=
  invitationQuery (.countPending tenantID)

/-- A second pending invitation of an email is a conflict. -/
def insert (values : InvitationInsert) : DbM σ PendingInvitation := do
  let inserting : DbM σ (Option PendingInvitation) := invitationQuery (.insert values)
  let created ← inserting.mapError fun failure =>
    if failure = .pg (.violation .uqPiPending) ∨ failure = .pg (.violation .primaryKey) then
      newError .invitationAlreadyExists "invitation already exists for this email"
    else
      failure
  match created with
  | some row => return row
  | none => throw (.pg .noRows)

/-- Only one version of a pending invitation changes; a miss is explained by a second read. -/
def setStatus (tenantID id : Uuid) (status : InvitationStatus) (expectedVersion : Int) :
    DbM σ PendingInvitation := do
  match ← invitationQuery (.setStatus tenantID id status expectedVersion) with
  | some row => return row
  | none =>
      match ← invitationQuery (.findByID tenantID id) with
      | none => throw (newError .invitationNotFound "invitation not found")
      | some row =>
          if row.status = .pending then
            throw (newErrorWith .optimisticLockConflict "record version conflict"
              [("record_version", .int row.recordVersion)])
          else
            throw (newError .invitationNotFound "invitation not found")

/-- Mark the Keycloak user of one version of the invitation for the clean-up, or unmark it. -/
def setKCCleanupPending (tenantID id : Uuid) (pending : Bool) (expectedVersion : Int) :
    DbM σ Unit := do
  match ← invitationQuery (.setKCCleanupPending tenantID id pending expectedVersion) with
  | some _ => return ()
  | none =>
      match ← invitationQuery (.findByID tenantID id) with
      | none => throw (newError .invitationNotFound "invitation not found")
      | some row =>
          throw (newErrorWith .optimisticLockConflict "record version conflict"
            [("record_version", .int row.recordVersion)])

/-- Blank the email and redact the name. -/
def erasePII (tenantID id : Uuid) : DbM σ Unit :=
  invitationQuery (.erasePII tenantID id)

/-- The invitations whose Keycloak user is to be deleted. -/
def listPendingKCCleanup (limit : Nat) : DbM σ (List PendingInvitation) :=
  invitationQuery (.listPendingKCCleanup limit)

/-- The user is deleted. -/
def clearKCCleanupPendingByID (id : Uuid) : DbM σ Unit :=
  invitationQuery (.clearKCCleanupPendingByID id)

/-- The number of invitations it expired. -/
def expireOverdue (limit : Nat) : DbM σ Nat := do
  let ids ← invitationQuery (.scanOverdue limit)
  let rows ← visitEach (fun id => invitationQuery (.expire id)) ids
  return rows.length

end InvitationRepository

end OrgMembership

import OrgMembership.Service.Department
import OrgMembership.Service.Invitation
import OrgMembership.Store.Writes

/-!
# Footprints

The statements that the repository methods and the steps of the services can
issue, whatever the database answers.
-/

namespace OrgMembership

open Concurrency Relational Fallible

variable {σ α : Type} {allowed : Query → Prop} {tenantID userID : Uuid}

/-- The event is about the grants or the membership of a user. -/
def DomainEvent.personal (event : DomainEvent) : Bool :=
  match event.data with
  | .tenantRoleGranted .. | .tenantRoleRevoked .. | .departmentMembershipGranted ..
  | .departmentMembershipRevoked .. | .departmentMembershipLevelChanged ..
  | .membershipRevoked .. => true
  | _ => false

theorem personal_of_mem_assignmentEvent {departmentID actorID : Uuid} {level : DeptRole}
    {previous : Option DeptMembership} {event : DomainEvent}
    (mem : event ∈ (assignmentEvent tenantID userID departmentID actorID level previous).toList) :
    event.personal = true := by
  have made := Option.mem_toList.mp mem
  cases previous with
  | none =>
      cases made
      rfl
  | some row =>
      rw [assignmentEvent] at made
      split at made
      · cases made
      · cases made
        rfl

theorem issues_visitEach_of_mem {Row Id : Type} {visit : Id → DbM σ (Option Row)} {ids : List Id}
    (each : ∀ id ∈ ids, Issues (Only allowed) (visit id)) :
    Issues (Only allowed) (visitEach visit ids) := by
  induction ids with
  | nil => exact issues_pure _
  | cons id ids ih =>
      have rest := ih fun other mem => each other (List.mem_cons_of_mem id mem)
      exact (each id List.mem_cons_self).bind fun _ => rest.bind fun _ => issues_pure _

theorem issues_visitEach {Row Id : Type} {visit : Id → DbM σ (Option Row)}
    (each : ∀ id, Issues (Only allowed) (visit id)) (ids : List Id) :
    Issues (Only allowed) (visitEach visit ids) :=
  issues_visitEach_of_mem fun id _ => each id

namespace MembershipRepository

theorem issues_findByUserID (find : allowed (.membership (.findByUserID tenantID userID))) :
    Issues (Only allowed) (findByUserID tenantID userID : DbM σ _) := by
  refine (issues_send find).bind fun found => ?_
  cases found with
  | none => exact issues_throw _
  | some row => exact issues_pure _

theorem issues_insert {status : MembershipStatus}
    (insert : allowed (.membership (.insert tenantID userID status)))
    (find : allowed (.membership (.findByUserID tenantID userID))) :
    Issues (Only allowed) (MembershipRepository.insert tenantID userID status : DbM σ _) := by
  refine (issues_send insert).bind fun created => ?_
  cases created with
  | some row => exact issues_pure _
  | none =>
      refine (issues_send find).bind fun found => ?_
      cases found with
      | none => exact issues_throw _
      | some row => exact issues_pure _

theorem issues_probeMembership (find : allowed (.membership (.findByUserID tenantID userID))) :
    Issues (Only allowed) (probeMembership tenantID userID : DbM σ α) := by
  refine (issues_send find).bind fun found => ?_
  cases found <;> exact issues_throw _

variable {version : Int}

theorem issues_setStatus {status : MembershipStatus}
    (scan : allowed (.membership (.scan tenantID userID version)))
    (update : ∀ id, allowed (.membership (.setStatus id tenantID userID status version)))
    (find : allowed (.membership (.findByUserID tenantID userID))) :
    Issues (Only allowed)
      (MembershipRepository.setStatus tenantID userID status version : DbM σ _) := by
  refine (issues_send scan).bind fun ids => ?_
  refine (issues_visitEach (fun id => issues_send (update id)) ids).bind fun rows => ?_
  cases rows with
  | nil => exact issues_probeMembership find
  | cons => exact issues_pure _

theorem issues_softDelete (scan : allowed (.membership (.scan tenantID userID version)))
    (update : ∀ id, allowed (.membership (.softDelete id tenantID userID version)))
    (find : allowed (.membership (.findByUserID tenantID userID))) :
    Issues (Only allowed) (softDelete tenantID userID version : DbM σ _) := by
  refine (issues_send scan).bind fun ids => ?_
  refine (issues_visitEach (fun id => issues_send (update id)) ids).bind fun rows => ?_
  cases rows with
  | nil => exact issues_probeMembership find
  | cons => exact issues_pure _

end MembershipRepository

namespace TenantRoleRepository

theorem issues_grant {membershipID grantedBy : Uuid} {code : TenantRoleCode}
    (insert : allowed (.role (.insert tenantID userID membershipID code grantedBy)))
    (find : allowed (.role (.find tenantID userID code))) :
    Issues (Only allowed) (grant tenantID userID membershipID code grantedBy : DbM σ _) := by
  refine (issues_send insert).bind fun created => ?_
  cases created with
  | some row => exact issues_pure _
  | none =>
      refine (issues_send find).bind fun found => ?_
      cases found with
      | none => exact issues_throw _
      | some row => exact issues_pure _

theorem issues_revoke {code : TenantRoleCode}
    (scan : allowed (.role (.scan (.grant tenantID userID code))))
    (update : ∀ id, allowed (.role (.softDelete (.grant tenantID userID code) id))) :
    Issues (Only allowed) (TenantRoleRepository.revoke tenantID userID code : DbM σ _) := by
  refine (issues_send scan).bind fun ids => ?_
  refine (issues_visitEach (fun id => issues_send (update id)) ids).bind fun rows => ?_
  cases rows with
  | nil => exact issues_throw _
  | cons => exact issues_pure _

theorem issues_softDeleteAllForUser (scan : allowed (.role (.scan (.user tenantID userID))))
    (update : ∀ id, allowed (.role (.softDelete (.user tenantID userID) id))) :
    Issues (Only allowed) (softDeleteAllForUser tenantID userID : DbM σ _) :=
  (issues_send scan).bind fun ids => issues_visitEach (fun id => issues_send (update id)) ids

end TenantRoleRepository

namespace DeptMembershipRepository

theorem issues_softDeleteAllForUser (scan : allowed (.dept (.scan (.user tenantID userID))))
    (update : ∀ id, allowed (.dept (.softDelete (.user tenantID userID) id))) :
    Issues (Only allowed) (softDeleteAllForUser tenantID userID : DbM σ _) :=
  (issues_send scan).bind fun ids => issues_visitEach (fun id => issues_send (update id)) ids

end DeptMembershipRepository

theorem issues_grantRole {membershipID actorID : Uuid} {code : TenantRoleCode}
    (insert : allowed (.role (.insert tenantID userID membershipID code actorID)))
    (find : allowed (.role (.find tenantID userID code)))
    (publish : ∀ event : DomainEvent, event.personal = true → allowed (.event (.enqueue event))) :
    Issues (Only allowed) (grantRole tenantID userID membershipID actorID code) :=
  (TenantRoleRepository.issues_grant insert find).bind fun _ =>
    (issues_modify _).bind fun _ => issues_send (publish _ rfl)

theorem issues_revokeRole {actorID : Uuid} {code : TenantRoleCode}
    (scan : allowed (.role (.scan (.grant tenantID userID code))))
    (update : ∀ id, allowed (.role (.softDelete (.grant tenantID userID code) id)))
    (publish : ∀ event : DomainEvent, event.personal = true → allowed (.event (.enqueue event))) :
    Issues (Only allowed) (revokeRole tenantID userID actorID code) :=
  (TenantRoleRepository.issues_revoke scan update).bind fun _ =>
    (issues_modify _).bind fun _ => issues_send (publish _ rfl)

/-- The statements of a removal. -/
structure RemovalAllowed (allowed : Query → Prop) (tenantID userID : Uuid) (version : Int) :
    Prop where
  scanRoles : allowed (.role (.scan (.user tenantID userID)))
  revokeRole : ∀ id, allowed (.role (.softDelete (.user tenantID userID) id))
  scanDepts : allowed (.dept (.scan (.user tenantID userID)))
  revokeDept : ∀ id, allowed (.dept (.softDelete (.user tenantID userID) id))
  scanMemberships : allowed (.membership (.scan tenantID userID version))
  endMembership : ∀ id, allowed (.membership (.softDelete id tenantID userID version))
  probe : allowed (.membership (.findByUserID tenantID userID))
  publish : ∀ event : DomainEvent, event.personal = true → allowed (.event (.enqueue event))

theorem issues_cascadeRemoval {actors : RemovalActors} {version : Int}
    (permitted : RemovalAllowed allowed tenantID userID version) :
    Issues (Only allowed) (cascadeRemoval tenantID userID actors version : DbM σ _) := by
  refine (TenantRoleRepository.issues_softDeleteAllForUser permitted.scanRoles
    permitted.revokeRole).bind fun roles => ?_
  refine (Issues.forM fun _ _ => issues_send (permitted.publish _ rfl)).bind fun _ => ?_
  refine (DeptMembershipRepository.issues_softDeleteAllForUser permitted.scanDepts
    permitted.revokeDept).bind fun depts => ?_
  refine (Issues.forM fun _ _ => issues_send (permitted.publish _ rfl)).bind fun _ => ?_
  refine (issues_send (permitted.publish _ rfl)).bind fun _ => ?_
  exact MembershipRepository.issues_softDelete permitted.scanMemberships permitted.endMembership
    permitted.probe

/-! ## Guards -/

theorem TenantRepository.issues_lockByID (lock : allowed (.tenant (.lockLive tenantID))) :
    Issues (Only allowed) (lockByID tenantID : DbM σ _) := by
  refine (issues_send lock).bind fun found => ?_
  cases found with
  | none => exact issues_throw _
  | some tenant => exact issues_pure _

theorem TenantRepository.issues_licensedSeatsForUpdate
    (lock : allowed (.tenant (.lockLive tenantID))) :
    Issues (Only allowed) (licensedSeatsForUpdate tenantID : DbM σ _) := by
  refine (issues_send lock).bind fun found => ?_
  cases found with
  | none => exact issues_throw _
  | some tenant => exact issues_pure _

theorem issues_guardLastOwner {message : String} (lock : allowed (.tenant (.lockLive tenantID)))
    (count : allowed (.role (.countActiveOwners tenantID))) :
    Issues (Only allowed) (guardLastOwner tenantID message : DbM σ _) := by
  refine (TenantRepository.issues_lockByID lock).bind fun _ => (issues_send count).bind fun _ => ?_
  split
  · exact issues_throw _
  · exact issues_pure _

theorem issues_guardStripping {strippingOwner : Bool}
    (lock : allowed (.tenant (.lockLive tenantID)))
    (count : allowed (.role (.countActiveOwners tenantID))) :
    Issues (Only allowed) (guardStripping tenantID strippingOwner : DbM σ _) := by
  rw [guardStripping]
  split
  · exact issues_guardLastOwner lock count
  · exact issues_pure _

theorem issues_guardOwnerRemoval {roles : List TenantRole}
    (count : allowed (.role (.countActiveOwners tenantID))) :
    Issues (Only allowed) (guardOwnerRemoval tenantID roles : DbM σ _) := by
  rw [guardOwnerRemoval]
  split
  · refine (issues_send count).bind fun _ => ?_
    split
    · exact issues_throw _
    · exact issues_pure _
  · exact issues_pure _

theorem issues_escalateOwnerless {wasOwner : Bool}
    (count : allowed (.role (.countActiveOwners tenantID)))
    (mark : allowed (.tenant (.markOwnerlessIfUnset tenantID))) :
    Issues (Only allowed) (escalateOwnerless tenantID wasOwner : DbM σ _) := by
  rw [escalateOwnerless]
  split
  · refine (issues_send count).bind fun _ => ?_
    split
    · exact issues_send mark
    · exact issues_pure _
  · exact issues_pure _

/-- What the removals read besides their cascade. -/
structure GuardAllowed (allowed : Query → Prop) (tenantID userID : Uuid) : Prop where
  lock : allowed (.tenant (.lockLive tenantID))
  find : allowed (.membership (.findByUserID tenantID userID))
  list : allowed (.role (.listByUser tenantID userID))
  count : allowed (.role (.countActiveOwners tenantID))

theorem issues_removeUserTx {actorID : Uuid} (guards : GuardAllowed allowed tenantID userID)
    (removes : ∀ version, RemovalAllowed allowed tenantID userID version) :
    Issues (Only allowed) (removeUserTx tenantID userID actorID : DbM σ _) := by
  refine (TenantRepository.issues_lockByID guards.lock).bind fun _ => ?_
  refine (MembershipRepository.issues_findByUserID guards.find).bind fun membership => ?_
  refine (issues_send guards.list).bind fun roles => ?_
  exact (issues_guardOwnerRemoval guards.count).bind fun _ => issues_cascadeRemoval (removes _)

theorem issues_deleteMemberTx (guards : GuardAllowed allowed tenantID userID)
    (removes : ∀ version, RemovalAllowed allowed tenantID userID version)
    (mark : allowed (.tenant (.markOwnerlessIfUnset tenantID))) :
    Issues (Only allowed) (deleteMemberTx tenantID userID : DbM σ _) := by
  refine (MembershipRepository.issues_findByUserID guards.find).observe.bind fun found => ?_
  cases found with
  | error failure =>
      dsimp only
      split
      · exact issues_pure _
      · exact issues_throw _
  | ok membership =>
      refine (issues_send guards.list).bind fun roles => ?_
      exact (issues_cascadeRemoval (removes _)).bind fun _ =>
        issues_escalateOwnerless guards.count mark

/-! ## Assignments -/

/-- The statements of an assignment of the user to departments. -/
structure AssignAllowed (allowed : Query → Prop) (tenantID userID : Uuid) : Prop where
  lockAssign : ∀ departmentID, allowed (.dept (.lockAssign tenantID userID departmentID))
  scan : ∀ departmentID, allowed (.dept (.scan (.assignment tenantID userID departmentID)))
  lock : ∀ departmentID id,
    allowed (.dept (.lock (.assignment tenantID userID departmentID) id))
  revoke : ∀ id, allowed (.dept (.softDelete .row id))
  insert : ∀ departmentID membershipID level grantedBy,
    allowed (.dept (.insert tenantID userID departmentID membershipID level grantedBy))
  find : ∀ departmentID, allowed (.dept (.find tenantID userID departmentID))
  publish : ∀ event : DomainEvent, event.personal = true → allowed (.event (.enqueue event))

/-- The statements of an assignment of the user to one department. -/
structure AssignmentAllowed (allowed : Query → Prop) (tenantID userID departmentID : Uuid) :
    Prop where
  lockAssign : allowed (.dept (.lockAssign tenantID userID departmentID))
  scan : allowed (.dept (.scan (.assignment tenantID userID departmentID)))
  lock : ∀ id, allowed (.dept (.lock (.assignment tenantID userID departmentID) id))
  revoke : ∀ id, allowed (.dept (.softDelete .row id))
  insert : ∀ membershipID level grantedBy,
    allowed (.dept (.insert tenantID userID departmentID membershipID level grantedBy))
  find : allowed (.dept (.find tenantID userID departmentID))

theorem AssignAllowed.at (permitted : AssignAllowed allowed tenantID userID)
    (departmentID : Uuid) : AssignmentAllowed allowed tenantID userID departmentID :=
  ⟨permitted.lockAssign _, permitted.scan _, permitted.lock _, permitted.revoke,
    permitted.insert _, permitted.find _⟩

section Assign

variable {departmentID membershipID grantedBy : Uuid} {level : DeptRole}

theorem DeptMembershipRepository.issues_insertAssignment
    (permitted : AssignmentAllowed allowed tenantID userID departmentID) :
    Issues (Only allowed) (insertAssignment tenantID userID departmentID membershipID level
      grantedBy : DbM σ _) := by
  refine (issues_send (permitted.insert _ _ _)).bind fun created => ?_
  cases created with
  | some row => exact issues_pure _
  | none =>
      refine (issues_send permitted.find).bind fun found => ?_
      cases found with
      | none => exact issues_throw _
      | some row => exact issues_pure _

theorem DeptMembershipRepository.issues_assign
    (permitted : AssignmentAllowed allowed tenantID userID departmentID) :
    Issues (Only allowed)
      (assign tenantID userID departmentID membershipID level grantedBy : DbM σ _) := by
  refine (issues_send permitted.lockAssign).bind fun _ => ?_
  refine (issues_send permitted.scan).bind fun ids => ?_
  refine (issues_visitEach (fun id => issues_send (permitted.lock id)) ids).bind fun found => ?_
  cases found with
  | nil => exact (issues_insertAssignment permitted).bind fun _ => issues_pure _
  | cons existing rest =>
      dsimp only
      split
      · exact issues_pure _
      · exact (issues_send (permitted.revoke _)).bind fun _ =>
          (issues_insertAssignment permitted).bind fun _ => issues_pure _

theorem issues_assignTx {actorID : Uuid} (permitted : AssignAllowed allowed tenantID userID) :
    Issues (Only allowed)
      (assignTx tenantID userID departmentID membershipID actorID level : DbM σ _) :=
  (DeptMembershipRepository.issues_assign (permitted.at _)).bind fun _ =>
    (Issues.forM fun _ mem => issues_send (permitted.publish _
      (personal_of_mem_assignmentEvent mem))).bind fun _ => issues_pure _

theorem issues_assignResolved {target : Uuid × DeptRole}
    (permitted : AssignAllowed allowed tenantID userID) :
    Issues (Only allowed) (assignResolved tenantID userID membershipID target) :=
  (DeptMembershipRepository.issues_assign (permitted.at _)).bind fun _ =>
    (issues_modify _).bind fun _ => Issues.forM fun _ mem =>
      issues_send (permitted.publish _ (personal_of_mem_assignmentEvent mem))

theorem issues_assignInitial {mapping : InvitationDeptMapping}
    (permitted : AssignAllowed allowed tenantID userID) :
    Issues (Only allowed)
      (assignInitial tenantID userID membershipID grantedBy mapping : DbM σ _) :=
  (DeptMembershipRepository.issues_assign (permitted.at _)).bind fun _ =>
    issues_send (permitted.publish _ rfl)

end Assign

/-- The statements of a grant of roles to the user. -/
structure GrantAllowed (allowed : Query → Prop) (tenantID userID : Uuid) : Prop where
  insert : ∀ membershipID code grantedBy,
    allowed (.role (.insert tenantID userID membershipID code grantedBy))
  find : ∀ code, allowed (.role (.find tenantID userID code))
  publish : ∀ event : DomainEvent, event.personal = true → allowed (.event (.enqueue event))

theorem issues_grantResolved {membershipID : Uuid} {code : TenantRoleCode}
    (permitted : GrantAllowed allowed tenantID userID) :
    Issues (Only allowed) (grantResolved tenantID userID membershipID code) :=
  (TenantRoleRepository.issues_grant (permitted.insert _ _ _) (permitted.find _)).bind fun _ =>
    (issues_modify _).bind fun _ => issues_send (permitted.publish _ rfl)

theorem issues_grantInitial {membershipID grantedBy : Uuid} {code : TenantRoleCode}
    (permitted : GrantAllowed allowed tenantID userID) :
    Issues (Only allowed) (grantInitial tenantID userID membershipID grantedBy code : DbM σ _) :=
  (TenantRoleRepository.issues_grant (permitted.insert _ _ _) (permitted.find _)).bind fun _ =>
    issues_send (permitted.publish _ rfl)

theorem issues_assignFromGroupsTx {membershipID : Uuid} {targets : List (Uuid × DeptRole)}
    {roles : TenantRoleCode → Bool} {order : MapOrder}
    (assigns : AssignAllowed allowed tenantID userID)
    (grants : GrantAllowed allowed tenantID userID)
    (list : allowed (.role (.listByUser tenantID userID))) :
    Issues (Only allowed)
      (assignFromGroupsTx tenantID userID membershipID targets roles order) :=
  (Issues.forM fun _ _ => issues_assignResolved assigns).bind fun _ =>
    (issues_send list).bind fun _ => Issues.forM fun _ _ => issues_grantResolved grants

/-! ## Invitations -/

theorem InvitationRepository.issues_setStatus {id : Uuid} {status : InvitationStatus}
    {version : Int} (update : allowed (.invitation (.setStatus tenantID id status version)))
    (find : allowed (.invitation (.findByID tenantID id))) :
    Issues (Only allowed)
      (InvitationRepository.setStatus tenantID id status version : DbM σ _) := by
  refine (issues_send update).bind fun updated => ?_
  cases updated with
  | some row => exact issues_pure _
  | none =>
      refine (issues_send find).bind fun found => ?_
      cases found with
      | none => exact issues_throw _
      | some row =>
          dsimp only
          split <;> exact issues_throw _

theorem InvitationRepository.issues_insert {values : InvitationInsert}
    (insert : allowed (.invitation (.insert values))) :
    Issues (Only allowed) (InvitationRepository.insert values : DbM σ _) := by
  refine (issues_send insert).mapError.bind fun created => ?_
  cases created with
  | some row => exact issues_pure _
  | none => exact issues_throw _

theorem InvitationRepository.issues_setKCCleanupPending {id : Uuid} {flag : Bool} {version : Int}
    (update : allowed (.invitation (.setKCCleanupPending tenantID id flag version)))
    (find : allowed (.invitation (.findByID tenantID id))) :
    Issues (Only allowed)
      (InvitationRepository.setKCCleanupPending tenantID id flag version : DbM σ _) := by
  refine (issues_send update).bind fun updated => ?_
  cases updated with
  | some row => exact issues_pure _
  | none =>
      refine (issues_send find).bind fun found => ?_
      cases found <;> exact issues_throw _

theorem InvitationRepository.issues_expireOverdue {limit : Nat}
    (scan : allowed (.invitation (.scanOverdue limit)))
    (expire : ∀ id, allowed (.invitation (.expire id))) :
    Issues (Only allowed) (InvitationRepository.expireOverdue limit : DbM σ _) :=
  (issues_send scan).bind fun _ =>
    (issues_visitEach (fun id => issues_send (expire id)) _).bind fun _ => issues_pure _

/-- The transaction of P-6, with every read. -/
theorem issues_inviteTx {config : InvitationConfig} {input : InvitationInput}
    {actorID keycloakUserID : Uuid} (reads : ∀ query : Query, query.writesTo = [] → allowed query)
    (insert : ∀ values, allowed (.invitation (.insert values)))
    (flag : ∀ id version, allowed (.invitation (.setKCCleanupPending tenantID id true version))) :
    Issues (Only allowed) (inviteTx config tenantID input actorID keycloakUserID : DbM σ _) := by
  refine (TenantRepository.issues_licensedSeatsForUpdate (reads _ rfl)).bind fun _ => ?_
  refine (issues_send (reads _ rfl)).bind fun _ => ?_
  refine (issues_send (reads _ rfl)).bind fun _ => ?_
  refine (issues_send (reads _ rfl)).bind fun _ => ?_
  split
  · refine (InvitationRepository.issues_insert (insert _)).bind fun row => ?_
    exact (InvitationRepository.issues_setKCCleanupPending (flag _ _) (reads _ rfl)).bind
      fun _ => issues_pure _
  · exact (InvitationRepository.issues_insert (insert _)).bind fun _ => issues_pure _

/-! ## Captured variables

The steps of an acceptance leave the captured invitation alone. -/

section Captured

theorem preserves_visitEach {Row Id : Type} {visit : Id → DbM σ (Option Row)}
    (each : ∀ id, (visit id).Preserves) (ids : List Id) : (visitEach visit ids).Preserves := by
  induction ids with
  | nil => exact preserves_pure _
  | cons id ids ih => exact (each id).bind fun _ => ih.bind fun _ => preserves_pure _

theorem TenantRepository.preserves_lockByID :
    (TenantRepository.lockByID tenantID : DbM σ _).Preserves := by
  refine preserves_send.bind fun found => ?_
  cases found with
  | none => exact preserves_throw _
  | some tenant => exact preserves_pure _

theorem TenantRepository.preserves_licensedSeatsForUpdate :
    (licensedSeatsForUpdate tenantID : DbM σ _).Preserves := by
  refine preserves_send.bind fun found => ?_
  cases found with
  | none => exact preserves_throw _
  | some tenant => exact preserves_pure _

theorem preserves_recheckExpired {locked : PendingInvitation} {now : Int} :
    (recheckExpired tenantID locked now : DbM σ _).Preserves := by
  rw [recheckExpired]
  split
  · refine TenantRepository.preserves_licensedSeatsForUpdate.bind fun _ => ?_
    refine preserves_send.bind fun _ => preserves_send.bind fun _ => ?_
    split
    · exact preserves_throw _
    · exact preserves_pure _
  · exact preserves_pure _

theorem MembershipRepository.preserves_insert {status : MembershipStatus} :
    (MembershipRepository.insert tenantID userID status : DbM σ _).Preserves := by
  refine preserves_send.bind fun created => ?_
  cases created with
  | some row => exact preserves_pure _
  | none =>
      refine preserves_send.bind fun found => ?_
      cases found with
      | none => exact preserves_throw _
      | some row => exact preserves_pure _

theorem InvitationRepository.preserves_setStatus {id : Uuid} {status : InvitationStatus}
    {version : Int} :
    (InvitationRepository.setStatus tenantID id status version : DbM σ _).Preserves := by
  refine preserves_send.bind fun updated => ?_
  cases updated with
  | some row => exact preserves_pure _
  | none =>
      refine preserves_send.bind fun found => ?_
      cases found with
      | none => exact preserves_throw _
      | some row =>
          dsimp only
          split <;> exact preserves_throw _

theorem TenantRoleRepository.preserves_grant {membershipID grantedBy : Uuid}
    {code : TenantRoleCode} :
    (grant tenantID userID membershipID code grantedBy : DbM σ _).Preserves := by
  refine preserves_send.bind fun created => ?_
  cases created with
  | some row => exact preserves_pure _
  | none =>
      refine preserves_send.bind fun found => ?_
      cases found with
      | none => exact preserves_throw _
      | some row => exact preserves_pure _

theorem preserves_grantInitial {membershipID grantedBy : Uuid} {code : TenantRoleCode} :
    (grantInitial tenantID userID membershipID grantedBy code : DbM σ _).Preserves :=
  TenantRoleRepository.preserves_grant.bind fun _ => preserves_send

theorem DeptMembershipRepository.preserves_insertAssignment
    {departmentID membershipID grantedBy : Uuid} {level : DeptRole} :
    (insertAssignment tenantID userID departmentID membershipID level grantedBy :
      DbM σ _).Preserves := by
  refine preserves_send.bind fun created => ?_
  cases created with
  | some row => exact preserves_pure _
  | none =>
      refine preserves_send.bind fun found => ?_
      cases found with
      | none => exact preserves_throw _
      | some row => exact preserves_pure _

theorem DeptMembershipRepository.preserves_assign {departmentID membershipID grantedBy : Uuid}
    {level : DeptRole} :
    (DeptMembershipRepository.assign tenantID userID departmentID membershipID level grantedBy :
      DbM σ _).Preserves := by
  refine preserves_send.bind fun _ => preserves_send.bind fun ids => ?_
  refine (preserves_visitEach (fun _ => preserves_send) ids).bind fun found => ?_
  cases found with
  | nil =>
      exact DeptMembershipRepository.preserves_insertAssignment.bind fun _ => preserves_pure _
  | cons existing rest =>
      dsimp only
      split
      · exact preserves_pure _
      · exact preserves_send.bind fun _ =>
          DeptMembershipRepository.preserves_insertAssignment.bind fun _ => preserves_pure _

theorem preserves_assignInitial {membershipID grantedBy : Uuid} {mapping : InvitationDeptMapping} :
    (assignInitial tenantID userID membershipID grantedBy mapping : DbM σ _).Preserves :=
  DeptMembershipRepository.preserves_assign.bind fun _ => preserves_send

theorem preserves_acceptInvitation {membershipID : Uuid} {pending : PendingInvitation} :
    (acceptInvitation tenantID userID membershipID pending : DbM σ _).Preserves :=
  InvitationRepository.preserves_setStatus.bind fun _ =>
    (Preserves.forM fun _ _ => preserves_grantInitial).bind fun _ =>
      Preserves.forM fun _ _ => preserves_assignInitial

end Captured

/-! ## Failures -/

section Failures

variable {kind : Failure → Prop}

theorem raises_withPool {α : Type} {body : DbM σ α} (faults : ∀ fault, kind (.pg fault))
    (wraps : ∀ failure, kind failure → kind (wrapConnErr failure)) (raises : body.Raises kind) :
    (withPool body).Raises kind :=
  (raises_transaction faults raises).mapError wraps

theorem raises_runInTx {α : Type} {body : DbM σ α} (faults : ∀ fault, kind (.pg fault))
    (wraps : ∀ failure, kind failure → kind (wrapConnErr failure)) (raises : body.Raises kind) :
    (runInTx body).Raises kind :=
  (raises_retrying 2 (raises_transaction faults raises)).mapError wraps

theorem raises_visitEach {Row Id : Type} {visit : Id → DbM σ (Option Row)}
    (each : ∀ id, (visit id).Raises kind) (ids : List Id) : (visitEach visit ids).Raises kind := by
  induction ids with
  | nil => exact raises_pure _
  | cons id ids ih => exact (each id).bind fun _ => ih.bind fun _ => raises_pure _

/-- An assignment fails only as the database does. -/
theorem DeptMembershipRepository.raises_assign {departmentID membershipID grantedBy : Uuid}
    {level : DeptRole} (faults : ∀ fault, kind (.pg fault)) :
    (DeptMembershipRepository.assign tenantID userID departmentID membershipID level grantedBy :
      DbM σ _).Raises kind := by
  have inserts : (insertAssignment tenantID userID departmentID membershipID level grantedBy :
      DbM σ _).Raises kind := by
    refine (raises_send faults).bind fun created => ?_
    cases created with
    | some row => exact raises_pure _
    | none =>
        refine (raises_send faults).bind fun found => ?_
        cases found with
        | none => exact raises_throw (faults _)
        | some row => exact raises_pure _
  refine (raises_send faults).bind fun _ => (raises_send faults).bind fun ids => ?_
  refine (raises_visitEach (fun _ => raises_send faults) ids).bind fun found => ?_
  cases found with
  | nil => exact inserts.bind fun _ => raises_pure _
  | cons existing rest =>
      dsimp only
      split
      · exact raises_pure _
      · exact (raises_send faults).bind fun _ => inserts.bind fun _ => raises_pure _

end Failures

/-- What accepting an invitation queued is applied with. -/
theorem issues_acceptInvitation {membershipID : Uuid} {pending : PendingInvitation}
    (update : allowed (.invitation
      (.setStatus tenantID pending.id .accepted pending.recordVersion)))
    (find : allowed (.invitation (.findByID tenantID pending.id)))
    (assigns : AssignAllowed allowed tenantID userID)
    (grants : GrantAllowed allowed tenantID userID) :
    Issues (Only allowed) (acceptInvitation tenantID userID membershipID pending : DbM σ _) :=
  (InvitationRepository.issues_setStatus update find).bind fun _ =>
    (Issues.forM fun _ _ => issues_grantInitial grants).bind fun _ =>
      Issues.forM fun _ _ => issues_assignInitial assigns

/-- The statements that look at an invitation again before it is accepted. -/
structure RelockAllowed (allowed : Query → Prop) (tenantID : Uuid) : Prop where
  lockByID : ∀ id, allowed (.invitation (.lockByID id))
  clock : allowed (.event .clock)
  lockTenant : allowed (.tenant (.lockLive tenantID))
  countActive : allowed (.membership (.countActive tenantID))
  countPending : allowed (.invitation (.countPending tenantID))

theorem issues_recheckExpired {locked : PendingInvitation} {now : Int}
    (permitted : RelockAllowed allowed tenantID) :
    Issues (Only allowed) (recheckExpired tenantID locked now : DbM σ _) := by
  rw [recheckExpired]
  split
  · refine (TenantRepository.issues_licensedSeatsForUpdate permitted.lockTenant).bind fun _ => ?_
    refine (issues_send permitted.countActive).bind fun _ => ?_
    refine (issues_send permitted.countPending).bind fun _ => ?_
    split
    · exact issues_throw _
    · exact issues_pure _
  · exact issues_pure _

theorem issues_relockPending (permitted : RelockAllowed allowed tenantID) :
    Issues (Only allowed) (relockPending tenantID) := by
  refine issues_get.bind fun candidate => ?_
  cases candidate with
  | none => exact issues_pure _
  | some pending =>
      refine (issues_send (permitted.lockByID _)).bind fun found => ?_
      cases found with
      | none => exact (issues_modify _).bind fun _ => issues_pure _
      | some locked =>
          dsimp only
          split
          · exact (issues_modify _).bind fun _ => issues_pure _
          · exact (issues_send permitted.clock).bind fun _ =>
              (issues_recheckExpired permitted).bind fun _ =>
                (issues_modify _).bind fun _ => issues_pure _

/-- The statements of I-3. -/
structure RegisterAllowed (allowed : Query → Prop) (tenantID userID : Uuid) : Prop where
  relock : RelockAllowed allowed tenantID
  member : allowed (.membership (.insert tenantID userID .active))
  findMember : allowed (.membership (.findByUserID tenantID userID))
  accept : ∀ id version, allowed (.invitation (.setStatus tenantID id .accepted version))
  findInvitation : ∀ id, allowed (.invitation (.findByID tenantID id))
  assigns : AssignAllowed allowed tenantID userID
  grants : GrantAllowed allowed tenantID userID

theorem issues_addFromRegisterTx (permitted : RegisterAllowed allowed tenantID userID) :
    Issues (Only allowed) (addFromRegisterTx tenantID userID) := by
  refine (TenantRepository.issues_lockByID permitted.relock.lockTenant).bind fun _ => ?_
  refine (issues_relockPending permitted.relock).bind fun pending => ?_
  refine (MembershipRepository.issues_insert permitted.member permitted.findMember).bind
    fun membership => ?_
  cases pending with
  | none => exact issues_pure _
  | some pending =>
      exact (issues_acceptInvitation (permitted.accept _ _) (permitted.findInvitation _)
        permitted.assigns permitted.grants).bind fun _ => issues_pure _

/-- I-3 within a class of statements that has every read and every write to
departments, roles and the outbox. -/
theorem registerAllowed
    (off : ∀ query : Query, query.writesTo ⊆ [.depts, .roles, .outbox] → allowed query)
    (member : allowed (.membership (.insert tenantID userID .active)))
    (accept : ∀ id version, allowed (.invitation (.setStatus tenantID id .accepted version))) :
    RegisterAllowed allowed tenantID userID where
  relock := ⟨fun _ => off _ (by simp), off _ (by simp), off _ (by simp), off _ (by simp),
    off _ (by simp)⟩
  member := member
  findMember := off _ (by simp)
  accept := accept
  findInvitation _ := off _ (by simp)
  assigns := ⟨fun _ => off _ (by simp), fun _ => off _ (by simp), fun _ _ => off _ (by simp),
    fun _ => off _ (by simp), fun _ _ _ _ => off _ (by simp), fun _ => off _ (by simp),
    fun _ _ => off _ (by simp)⟩
  grants := ⟨fun _ _ _ => off _ (by simp), fun _ => off _ (by simp), fun _ _ => off _ (by simp)⟩

/-! ## I-1 -/

/-- The statements that seed a new tenant. -/
structure SeedAllowed (allowed : Query → Prop) (tenantID ownerUserID : Uuid) : Prop where
  activate : ∀ departmentID, allowed (.tenant (.activateDept tenantID departmentID))
  labels : allowed (.tenant (.seedLabels tenantID))
  member : allowed (.membership (.insert tenantID ownerUserID .active))
  findMember : allowed (.membership (.findByUserID tenantID ownerUserID))
  grant : ∀ membershipID,
    allowed (.role (.insert tenantID ownerUserID membershipID .tenantOwner ownerUserID))
  findGrant : allowed (.role (.find tenantID ownerUserID .tenantOwner))
  enqueue : ∀ event, allowed (.event (.enqueue event))

theorem issues_seedTenant {input : TrialSignupInput} {trialEnds : Int} {trialDeptIDs : List Uuid}
    (seeds : SeedAllowed allowed input.tenantID input.ownerUserID) :
    Issues (Only allowed) (seedTenant input trialEnds trialDeptIDs : DbM σ _) := by
  refine Issues.bind (Issues.forM fun departmentID _ => ?_) fun _ => ?_
  · refine Issues.bind ((issues_send (seeds.activate departmentID)).bind fun row => ?_)
      fun _ => issues_pure _
    cases row with
    | none => exact issues_throw _
    | some row => exact issues_pure _
  refine Issues.bind (issues_send seeds.labels) fun _ => ?_
  refine Issues.bind (MembershipRepository.issues_insert seeds.member seeds.findMember)
    fun membership => ?_
  refine Issues.bind (TenantRoleRepository.issues_grant (seeds.grant membership.id)
    seeds.findGrant) fun _ => ?_
  exact (issues_send (seeds.enqueue _)).bind fun _ => (issues_send (seeds.enqueue _)).bind fun _ =>
    issues_send (seeds.enqueue _)

theorem issues_claimHash {hash : String}
    (claims : allowed (.tenant (.claimEmailHash hash tenantID))) :
    Issues (Only allowed) (claimHash hash tenantID : DbM σ _) := by
  rw [claimHash]
  split
  · exact issues_pure _
  · refine Issues.bind (issues_send claims) fun holder => ?_
    split
    · exact issues_pure _
    · exact issues_throw _

end OrgMembership

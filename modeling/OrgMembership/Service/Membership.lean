import OrgMembership.Repository.Member
import OrgMembership.Repository.Tenant

/-!
# Membership service

P-7 `SetStatus`, P-28 `ReconcileRoles` and P-8 `RemoveUser`, with the removal
cascade that I-5 `DeleteMember` shares.  What other services answer, and the
order in which Go visits a map, are arguments.
-/

namespace OrgMembership

open Concurrency Relational

variable {σ : Type}

/-- The delegations of a user that active workflows depend on. -/
structure DelegateImpact where
  activeWorkflows : Nat
  workflowIDs : List Uuid
  deriving DecidableEq

/-- The answer of the Workflow Service. -/
inductive WorkflowAnswer
  | unwired
  | unavailable
  | impact (impact : DelegateImpact)
  deriving DecidableEq

/-- The user holds the owner role. -/
def holdsOwner (roles : List TenantRole) : Bool :=
  roles.any fun row => row.roleCode = .tenantOwner

/-- Take the tenant row lock and refuse to go on for the last owner. -/
def guardLastOwner (tenantID : Uuid) (message : String) : DbM σ Unit := do
  TenantRepository.lockByID tenantID
  let owners ← TenantRoleRepository.countActiveOwners tenantID
  if owners ≤ 1 then
    throw (newError .lastOwnerRemoval message)
  else
    return ()

/-! ## P-7 -/

/-- What a suspension reports about workflows. -/
structure DelegateImpactAdvisory where
  checked : Bool
  activeWorkflows : Nat
  workflowIDs : List Uuid
  deriving DecidableEq

/-- What P-7 answers. -/
structure SetStatusResult where
  membership : TenantMembership
  delegateImpact : Option DelegateImpactAdvisory
  deriving DecidableEq

/-- The advisory that rides on a suspension. -/
def delegateAdvisory (status : MembershipStatus) : WorkflowAnswer → Option DelegateImpactAdvisory
  | .unwired => none
  | .unavailable => if status = .suspended then some ⟨false, 0, []⟩ else none
  | .impact impact =>
      if status = .suspended ∧ 0 < impact.activeWorkflows then
        some ⟨true, impact.activeWorkflows, impact.workflowIDs⟩
      else
        none

/-- The transaction that suspends an owner. -/
def suspendOwner (tenantID userID : Uuid) (status : MembershipStatus) (expectedVersion : Int) :
    DbM σ TenantMembership := do
  guardLastOwner tenantID "cannot suspend the last tenant_owner"
  MembershipRepository.setStatus tenantID userID status expectedVersion

/-- The status change of `SetStatus`. -/
def changeStatus (tenantID userID : Uuid) (status : MembershipStatus) (expectedVersion : Int) :
    DbM σ TenantMembership :=
  if status = .suspended then do
    let roles ← withPool (TenantRoleRepository.listByUser tenantID userID)
    if holdsOwner roles then
      runInTx (suspendOwner tenantID userID status expectedVersion)
    else
      withPool (MembershipRepository.setStatus tenantID userID status expectedVersion)
  else
    withPool (MembershipRepository.setStatus tenantID userID status expectedVersion)

/-- P-7 `SetStatus`. -/
def setStatus (tenantID userID : Uuid) (status : MembershipStatus) (expectedVersion : Int)
    (workflow : WorkflowAnswer) : DbM σ SetStatusResult := do
  let membership ← changeStatus tenantID userID status expectedVersion
  return ⟨membership, delegateAdvisory status workflow⟩

/-! ## P-28 -/

/-- An order in which Go visits a map keyed by role codes. -/
structure MapOrder where
  codes : List TenantRoleCode
  nodup : codes.Nodup
  complete : ∀ code, code ∈ codes

/-- The order in which the codes are declared. -/
def MapOrder.declared : MapOrder where
  codes := [.tenantOwner, .tenantAdmin, .tenderAdmin, .member]
  nodup := by decide
  complete code := by cases code <;> decide

/-- The keys of a set in that order. -/
def MapOrder.visit (order : MapOrder) (keys : TenantRoleCode → Bool) : List TenantRoleCode :=
  order.codes.filter keys

/-- The roles one call granted and revoked. -/
structure ReconcileResult where
  granted : List TenantRole
  revoked : List TenantRole
  deriving DecidableEq

/-- The errors of a desired role list. -/
def checkDesired : List TenantRoleCode → Except Failure Unit
  | [] => .ok ()
  | code :: codes =>
      if code = .member then
        .error (newErrorWith .invalidRole "member cannot be granted; it is derived"
          [("code", .text "invalid_role")])
      else
        checkDesired codes

/-- Grant one role and publish it. -/
def grantRole (tenantID userID membershipID actorID : Uuid) (code : TenantRoleCode) :
    DbM ReconcileResult Unit := do
  let role ← TenantRoleRepository.grant tenantID userID membershipID code actorID
  modify fun result => { result with granted := result.granted ++ [role] }
  enqueue ⟨tenantID, userID, .tenantRoleGranted userID tenantID code actorID⟩

/-- Revoke one role and publish it. -/
def revokeRole (tenantID userID actorID : Uuid) (code : TenantRoleCode) :
    DbM ReconcileResult Unit := do
  let role ← TenantRoleRepository.revoke tenantID userID code
  modify fun result => { result with revoked := result.revoked ++ [role] }
  enqueue ⟨tenantID, userID, .tenantRoleRevoked userID tenantID code actorID⟩

/-- The authoritative last-owner check of `ReconcileRoles`. -/
def guardStripping (tenantID : Uuid) (strippingOwner : Bool) : DbM σ Unit :=
  if strippingOwner then
    guardLastOwner tenantID "cannot remove the last tenant_owner"
  else
    return ()

/-- The transaction of `ReconcileRoles`. -/
def reconcileTx (tenantID userID membershipID actorID : Uuid) (strippingOwner : Bool)
    (grants revokes : List TenantRoleCode) : DbM ReconcileResult Unit := do
  guardStripping tenantID strippingOwner
  grants.forM (grantRole tenantID userID membershipID actorID)
  revokes.forM (revokeRole tenantID userID actorID)

/-- Refuse to strip the last owner before taking any lock. -/
def precheckLastOwner (tenantID : Uuid) (strippingOwner : Bool) : DbM σ Unit :=
  if strippingOwner then do
    let owners ← withPool (TenantRoleRepository.countActiveOwners tenantID)
    if owners ≤ 1 then
      throw (newError .lastOwnerRemoval "cannot remove the last tenant_owner")
    else
      return ()
  else
    return ()

/-- P-28 `ReconcileRoles`: the elevated roles of a member become the desired ones. -/
def reconcileRoles (tenantID userID : Uuid) (desired : List TenantRoleCode) (actorID : Uuid)
    (isServiceAccount : Bool) (grantOrder revokeOrder : MapOrder) : DbM σ ReconcileResult :=
  if isServiceAccount then
    throw (newError .serviceAccountNotGrantable "service accounts cannot be granted a tenant role")
  else
    match checkDesired desired with
    | .error failure => throw failure
    | .ok _ => do
        let membership ← withPool (MembershipRepository.findByUserID tenantID userID)
        let current ← withPool (TenantRoleRepository.listByUser tenantID userID)
        let held := fun code => current.any fun row => row.roleCode = code
        let wanted := fun code => desired.contains code
        let strippingOwner := held .tenantOwner && !wanted .tenantOwner
        precheckLastOwner tenantID strippingOwner
        let (_, result) ← Fallible.capturing ⟨[], []⟩
          (runInTx (reconcileTx tenantID userID membership.id actorID strippingOwner
            (grantOrder.visit fun code => wanted code && !held code)
            (revokeOrder.visit fun code => held code && !wanted code)))
        return result

/-! ## P-8 -/

/-- The actors that the events of a removal name. -/
structure RemovalActors where
  role : Uuid
  dept : Uuid
  membership : Uuid
  deriving DecidableEq

/-- Revoke every role and department of the user, publish each revocation, then
close the membership. -/
def cascadeRemoval (tenantID userID : Uuid) (actors : RemovalActors) (expectedVersion : Int) :
    DbM σ Unit := do
  let roles ← TenantRoleRepository.softDeleteAllForUser tenantID userID
  roles.forM fun row =>
    enqueue ⟨tenantID, userID, .tenantRoleRevoked userID tenantID row.roleCode actors.role⟩
  let depts ← DeptMembershipRepository.softDeleteAllForUser tenantID userID
  depts.forM fun row =>
    enqueue ⟨tenantID, userID,
      .departmentMembershipRevoked userID tenantID row.departmentID actors.dept⟩
  enqueue ⟨tenantID, userID, .membershipRevoked tenantID userID actors.membership⟩
  MembershipRepository.softDelete tenantID userID expectedVersion

/-- The last-owner check of `RemoveUser`, under the tenant row lock. -/
def guardOwnerRemoval (tenantID : Uuid) (roles : List TenantRole) : DbM σ Unit :=
  if holdsOwner roles then do
    let owners ← TenantRoleRepository.countActiveOwners tenantID
    if owners ≤ 1 then
      throw (newError .lastOwnerRemoval "cannot remove the last tenant_owner")
    else
      return ()
  else
    return ()

/-- The transaction of `RemoveUser`. -/
def removeUserTx (tenantID userID actorID : Uuid) : DbM σ Unit := do
  TenantRepository.lockByID tenantID
  let membership ← MembershipRepository.findByUserID tenantID userID
  let roles ← TenantRoleRepository.listByUser tenantID userID
  guardOwnerRemoval tenantID roles
  cascadeRemoval tenantID userID ⟨actorID, actorID, actorID⟩ membership.recordVersion

/-- P-8 `RemoveUser`.  Without an answer of Workflow nobody is removed. -/
def removeUser (tenantID userID actorID : Uuid) (workflow : WorkflowAnswer) : DbM σ Unit :=
  match workflow with
  | .unavailable => throw (newError .workflowServiceUnavailable "workflow service unavailable")
  | .unwired => runInTx (removeUserTx tenantID userID actorID)
  | .impact impact =>
      if 0 < impact.activeWorkflows then
        throw (newErrorWith .workflowResolutionRequired "active workflows depend on this delegate"
          [("active_workflows", .int impact.activeWorkflows),
            ("workflow_ids", .ids impact.workflowIDs),
            ("allowed_actions", .texts ["replace_delegate", "stop_workflows"])])
      else
        runInTx (removeUserTx tenantID userID actorID)

end OrgMembership

import OrgMembership.Repository.Member
import OrgMembership.Repository.Tenant

/-!
# Operator service

O-7 `ReassignOwner`.
-/

namespace OrgMembership

open Concurrency Relational

variable {σ : Type}

/-- The member that an operator may make the owner.  Every failure of the lookup is
answered alike. -/
def findOwnerCandidate (tenantID userID : Uuid) : DbM σ TenantMembership := do
  match ← (withPool (MembershipRepository.findByUserID tenantID userID)).observe with
  | .ok membership =>
      if membership.status = .active then
        return membership
      else
        throw (newError .invalidOwnerCandidate "new owner is not an active member")
  | .error _ => throw (newError .invalidOwnerCandidate "new owner is not an active member")

/-- The transaction of `ReassignOwner`. -/
def reassignOwnerTx (tenantID newOwnerUserID membershipID actorID : Uuid) : DbM σ TenantRole := do
  let granted ← TenantRoleRepository.grant tenantID newOwnerUserID membershipID .tenantOwner actorID
  TenantRepository.clearOwnerlessSince tenantID
  enqueue ⟨tenantID, newOwnerUserID,
    .tenantRoleGranted newOwnerUserID tenantID .tenantOwner actorID⟩
  return granted

/-- O-7 `ReassignOwner`. -/
def reassignOwner (tenantID newOwnerUserID actorID : Uuid) : DbM σ TenantRole := do
  let tenant ← withPool (TenantRepository.findByID tenantID)
  if tenant.status = .offboarded then
    throw (newError .tenantOffboarded "tenant is offboarded")
  else do
    let membership ← findOwnerCandidate tenantID newOwnerUserID
    runInTx (reassignOwnerTx tenantID newOwnerUserID membership.id actorID)

end OrgMembership

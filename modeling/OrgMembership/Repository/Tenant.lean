import OrgMembership.Lifecycle.Projection
import OrgMembership.Store.Dialect

/-!
# Tenant repositories

The methods of the repositories of tenants, their departments, labels, parked
events, the inbox and the outbox, as they run inside a transaction.
-/

namespace OrgMembership

open Concurrency Relational

variable {σ α : Type}

/-- What is read under the lock of the tenants row. -/
structure SeatOccupancy where
  licensedSeats : Int
  overageSince : Option Int
  active : Nat
  pending : Nat
  deriving DecidableEq

namespace TenantRepository

/-- The live tenant. -/
def findByID (id : Uuid) : DbM σ Tenant := do
  match ← tenantQuery (.findByID id) with
  | some tenant => return tenant
  | none => throw (newError .tenantNotFound "tenant not found")

/-- The tenant, deleted or not. -/
def findByIDIncludingDeleted (id : Uuid) : DbM σ Tenant := do
  match ← tenantQuery (.findByIDIncludingDeleted id) with
  | some tenant => return tenant
  | none => throw (newError .tenantNotFound "tenant not found")

/-- The row it returns, and whether it was created. -/
def insert (values : TenantInsert) : DbM σ (Tenant × Bool) := do
  let inserting : DbM σ (Option Tenant) := tenantQuery (.insert values)
  let created ← inserting.mapError fun failure =>
    if failure = .pg (.violation .uqTenantsSlug) then
      newError .slugAlreadyTaken "slug already taken"
    else
      failure
  match created with
  | some tenant => return (tenant, true)
  | none =>
      match ← tenantQuery (.findByID values.id) with
      | some existing => return (existing, false)
      | none => throw (.pg .noRows)

/-- Lock the live tenant. -/
def lockByID (id : Uuid) : DbM σ Unit := do
  match ← tenantQuery (.lockLive id) with
  | some _ => return ()
  | none => throw (newError .tenantNotFound "tenant not found")

/-- Lock the live tenant and read its seats; a missing one is `pgx.ErrNoRows`. -/
def licensedSeatsForUpdate (id : Uuid) : DbM σ Int := do
  match ← tenantQuery (.lockLive id) with
  | some tenant => return tenant.licensedSeats
  | none => throw (.pg .noRows)

/-- Lock the row and count the seats in use. -/
def lockSeatOccupancy (id : Uuid) : DbM σ SeatOccupancy := do
  match ← tenantQuery (.lockLive id) with
  | some tenant => do
      let active ← membershipQuery (.countActive id)
      let pending ← invitationQuery (.countPending id)
      return ⟨tenant.licensedSeats, tenant.overageSince, active, pending⟩
  | none => throw (.pg .noRows)

/-- A tenant that is gone is not an error. -/
def setOverageSince (id : Uuid) (since : Option Int) : DbM σ Unit := do
  let _ ← tenantQuery (.update id (.setOverageSince since))
  return ()

/-- Lock the live tenant and read what the projection compares. -/
def lockForProjection (id : Uuid) : DbM σ (Option TenantProjectionLock) := do
  let tenant ← tenantQuery (.lockLive id)
  return tenant.map Tenant.projectionLock

/-- Whether the mark was set now. -/
def markOwnerlessIfUnset (id : Uuid) : DbM σ Bool :=
  tenantQuery (.markOwnerlessIfUnset id)

/-- A tenant that is gone is not an error. -/
def clearOwnerlessSince (id : Uuid) : DbM σ Unit := do
  let _ ← tenantQuery (.update id .clearOwnerlessSince)
  return ()

/-- An update of the row with an expected version.  When it finds no such row, a second
statement tells a missing row from one with another version. -/
def updateVersioned (id : Uuid) (change : TenantUpdate) (probe : DbM σ (Option Tenant))
    (details : Tenant → List (String × Detail)) : DbM σ Tenant := do
  match ← tenantQuery (.update id change) with
  | some updated => return updated
  | none =>
      match ← probe with
      | none => throw (newError .tenantNotFound "tenant not found")
      | some current =>
          throw (newErrorWith .optimisticLockConflict "record version conflict" (details current))

/-- The probe of an update that takes any error for a missing row. -/
def probed (query : DbM σ (Option Tenant)) : DbM σ (Option Tenant) :=
  query.mapError fun _ => newError .tenantNotFound "tenant not found"

/-- P-2: a request that changes nothing is a read. -/
def update (id : Uuid) (patch : TenantPatch) : DbM σ Tenant :=
  if patch.isEmpty then
    findByID id
  else
    updateVersioned id (.patch patch) (tenantQuery (.findByID id)) fun current =>
      [("record_version", .int current.recordVersion), ("updated_at", .int current.updatedAt)]

/-- Replace the flags of one version of the tenant. -/
def setFeatureFlags (id : Uuid) (flags : String) (expectedVersion : Int) : DbM σ Unit := do
  let _ ← updateVersioned id (.setFeatureFlags flags expectedVersion)
    (probed (tenantQuery (.findByID id))) fun current =>
      [("record_version", .int current.recordVersion)]
  return ()

/-- Offboarded tenants are updated too. -/
def setRealmFields (id : Uuid) (realmID : String) (realmType : RealmType)
    (keycloakShard : String) (recordVersion : Int) : DbM σ Unit := do
  let _ ← updateVersioned id (.setRealmFields realmID realmType keycloakShard recordVersion)
    (probed (tenantQuery (.findByIDIncludingDeleted id))) fun current =>
      [("record_version", .int current.recordVersion)]
  return ()

/-- Remember the moment of the last event. -/
def setLastEventAt (id : Uuid) (timestamp : Int) : DbM σ Unit :=
  tenantQuery (.setLastEventAt id timestamp)

/-- How many rows the patch changed. -/
def applyLifecyclePatch (id : Uuid) (patch : LifecyclePatch) : DbM σ Nat :=
  tenantQuery (.applyLifecyclePatch id patch)

/-- `DELETE` of the tenant, with all rows that reference it. -/
def hardDeleteTenant (id : Uuid) : DbM σ Unit :=
  tenantQuery (.hardDeleteTenant id)

/-- Delete the rows of the tenant, table by table in the order of
`gdprWipeTables`. -/
def wipeTenantChildren (id : Uuid) : DbM σ Unit := do
  let invitations ← invitationQuery (.scanTenant id)
  invitations.forM fun row => invitationQuery (.delete row)
  let depts ← deptQuery (.scan (.tenant id))
  depts.forM fun row => deptQuery (.delete row)
  let roles ← roleQuery (.scan (.tenant id))
  roles.forM fun row => roleQuery (.delete row)
  let memberships ← membershipQuery (.scanTenant id)
  memberships.forM fun row => membershipQuery (.delete row)
  let labels ← tenantQuery (.scanLabels id)
  labels.forM fun row => tenantQuery (.deleteLabel row)
  let tenantDepts ← tenantQuery (.scanDepts id)
  tenantDepts.forM fun row => tenantQuery (.deleteDept row)

end TenantRepository

/-- `ReconcilerStore.ListSeatOverageCandidates`: the live tenants, in an order of the server's. -/
def listSeatOverageCandidates (order : RowOrder) (limit : Nat) : DbM σ (List Uuid) :=
  tenantQuery (.listSeatOverageCandidates order limit)

/-- `ReconcilerStore.ListExpiredTrialTenants`. -/
def listExpiredTrialTenants (graceDays : Int) (limit : Nat) : DbM σ (List Uuid) :=
  tenantQuery (.listExpiredTrialTenants graceDays limit)

namespace TenantDepartmentRepository

/-- The department of the tenant, active or not. -/
def find (tenantID departmentID : Uuid) : DbM σ TenantDepartment := do
  match ← tenantQuery (.findDept tenantID departmentID) with
  | some row => return row
  | none => throw (newError .departmentNotFound "department not found for tenant")

/-- A second activation is a conflict. -/
def activate (tenantID departmentID : Uuid) : DbM σ TenantDepartment := do
  match ← tenantQuery (.activateDept tenantID departmentID) with
  | some row => return row
  | none =>
      throw (newError .departmentAlreadyActivated "department is already activated for this tenant")

end TenantDepartmentRepository

/-- `DeptRoleLabelRepository.Seed`; the labels it lists are not used. -/
def seedLabelsFor (tenantID : Uuid) : DbM σ Unit :=
  tenantQuery (.seedLabels tenantID)

/-- `TrialSignupLedgerRepository.ClaimEmailHash`. -/
def claimEmailHashFor (emailHash : String) (tenantID : Uuid) : DbM σ Unit := do
  let holder ← tenantQuery (.claimEmailHash emailHash tenantID)
  if holder = some tenantID then
    return ()
  else
    throw (newError .trialAlreadyUsed "this email address has already been used for a trial")

namespace ParkedTenantEventRepository

/-- The advisory lock that orders signup and parking. -/
def lockTenantProvisioning (tenantID : Uuid) : DbM σ Unit :=
  eventQuery (.lockTenantProvisioning tenantID)

/-- Keep an event for a tenant that is not there yet. -/
def park (tenantID : Uuid) (envelope : Envelope) : DbM σ Unit :=
  eventQuery (.park tenantID envelope)

/-- The parked events of the tenant, the oldest first. -/
def listForTenant (tenantID : Uuid) : DbM σ (List ParkedTenantEvent) :=
  eventQuery (.listForTenant tenantID)

/-- Whether the parked event was still there to delete. -/
def claim (eventID : Uuid) : DbM σ Bool :=
  eventQuery (.claim eventID)

end ParkedTenantEventRepository

/-- `Publisher.Enqueue`: the row of an event in the outbox, under the lock that
orders the events of one subject. -/
def enqueue (event : DomainEvent) : DbM σ Unit :=
  eventQuery (.enqueue event)

/-- `time.Now()`. -/
def timeNow : DbM σ Int :=
  eventQuery .clock

/-- A call to the Realm Provisioner.  The request is carried out at one moment, if at
all, which the commit on the provisioner's log stands for; then the answer may still
be lost. -/
def callRealm (call : RealmCall) : DbM σ Unit := do
  transaction .pg (eventQuery (.realm call))
  eventQuery .answer

/-- `Inbox.ProcessOnce`: claim the event and run `body` in one transaction; a
duplicate skips `body`. -/
def processOnce (eventID : Uuid) (body : DbM σ Unit) : DbM σ Unit :=
  withPool do
    if ← eventQuery (.claimProcessed eventID) then
      body

end OrgMembership

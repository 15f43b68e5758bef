import OrgMembership.Domain.Error
import OrgMembership.Domain.Event
import OrgMembership.Relational.Effect

/-!
# The database

The tables of the service, the writes a transaction collects, and the keys its
queries lock.  Two logs are not tables of the service.  The journal records, for
proofs only, how the consumer settled each event, in the transaction that
settled it.  The realm log is the state of another service: what the Realm
Provisioner has been told and has carried out.
-/

namespace OrgMembership

open Relational

/-- How the consumer settled an event. -/
inductive Settlement
  | applied
  | skipped
  /-- Dropped on finding a tenants row, which was or was not soft-deleted. -/
  | droppedFound (softDeleted : Bool)
  /-- Dropped because there was no tenant to offboard. -/
  | droppedAbsent
  /-- Acknowledged without being understood. -/
  | acknowledged
  /-- Recorded when its tenant had a row. -/
  | provisioned
  deriving DecidableEq

/-- A line of the journal. -/
structure JournalEntry where
  eventID : Uuid
  kind : MessageKind
  settlement : Settlement
  deriving DecidableEq

/-- A request that the Realm Provisioner has carried out. -/
inductive RealmCall
  | deleteUser (tenantID keycloakUserID : Uuid)
  | patchRealmConfig (tenantID : Uuid) (localAccountsEnabled : Bool)
  deriving DecidableEq

/-- The committed rows. -/
structure Db where
  tenants : Table Tenant.id
  memberships : Table TenantMembership.id
  roles : Table TenantRole.id
  depts : Table DeptMembership.id
  tenantDepts : Table fun row : TenantDepartment => (row.tenantID, row.departmentID)
  labels : Table DeptRoleLabel.id
  invitations : Table PendingInvitation.id
  ledger : Table TrialSignupRecord.emailHash
  processed : Table ProcessedEvent.eventID
  parked : Table ParkedTenantEvent.eventID
  outbox : List DomainEvent
  journal : List JournalEntry
  realm : List RealmCall
  deriving DecidableEq

/-- No rows. -/
def Db.empty : Db :=
  ⟨∅, ∅, ∅, ∅, ∅, ∅, ∅, ∅, ∅, ∅, [], [], []⟩

/-- One change of the database. -/
inductive Write
  | tenant (change : Change Tenant Uuid)
  | membership (change : Change TenantMembership Uuid)
  | role (change : Change TenantRole Uuid)
  | dept (change : Change DeptMembership Uuid)
  | tenantDept (change : Change TenantDepartment (Uuid × Uuid))
  | label (change : Change DeptRoleLabel Uuid)
  | invitation (change : Change PendingInvitation Uuid)
  | ledger (change : Change TrialSignupRecord String)
  | processed (change : Change ProcessedEvent Uuid)
  | parked (change : Change ParkedTenantEvent Uuid)
  | publish (event : DomainEvent)
  | settle (entry : JournalEntry)
  | realm (call : RealmCall)

/-- What the queries lock: rows, entries of unique indexes, and the advisory
locks of the service. -/
inductive LockKey
  | tenant (id : Uuid)
  | membership (id : Uuid)
  | role (id : Uuid)
  | dept (id : Uuid)
  | tenantDept (tenantID departmentID : Uuid)
  | label (id : Uuid)
  | invitation (id : Uuid)
  | ledger (emailHash : String)
  | processed (eventID : Uuid)
  | parked (eventID : Uuid)
  | tenantsPkey (id : Uuid)
  | uqTenantsSlug (slug : String)
  | uqTenantsRealmIDDedicated (realmID : String)
  | uqTmActiveUser (tenantID userID : Uuid)
  | uqTenantRolesActive (tenantID userID : Uuid) (roleCode : TenantRoleCode)
  | uqDmActiveMembership (tenantID userID departmentID : Uuid)
  | tenantDepartmentsPkey (tenantID departmentID : Uuid)
  | uqDeptRoleLabels (tenantID : Uuid) (roleCode : DeptRole)
  | uqPiPending (tenantID : Uuid) (email : String)
  | trialSignupLedgerPkey (emailHash : String)
  | processedEventsPkey (eventID : Uuid)
  | pendingTenantEventsPkey (eventID : Uuid)
  | tenantProvisioning (tenantID : Uuid)
  | deptAssign (tenantID userID departmentID : Uuid)
  | outboxOrder (tenantID subject : Uuid)
  deriving DecidableEq

/-- Apply one write. -/
def Write.apply (write : Write) (db : Db) : Db :=
  match write with
  | tenant change => { db with tenants := db.tenants.apply change }
  | membership change => { db with memberships := db.memberships.apply change }
  | role change => { db with roles := db.roles.apply change }
  | dept change => { db with depts := db.depts.apply change }
  | tenantDept change => { db with tenantDepts := db.tenantDepts.apply change }
  | label change => { db with labels := db.labels.apply change }
  | invitation change => { db with invitations := db.invitations.apply change }
  | ledger change => { db with ledger := db.ledger.apply change }
  | processed change => { db with processed := db.processed.apply change }
  | parked change => { db with parked := db.parked.apply change }
  | publish event => { db with outbox := db.outbox ++ [event] }
  | settle entry => { db with journal := db.journal ++ [entry] }
  | realm call => { db with realm := db.realm ++ [call] }

/-- The effect of a query on this database. -/
abbrev DbEffect (α : Type) : Type :=
  Effect Write LockKey PgError α

/-- The first constraint that is violated. -/
def firstViolated (checks : List (Constraint × Bool)) : Option PgError :=
  (checks.find? fun check => !check.2).map fun check => .violation check.1

theorem firstViolated_eq_none {checks : List (Constraint × Bool)} :
    firstViolated checks = none ↔ ∀ check ∈ checks, check.2 = true := by
  simp [firstViolated]

end OrgMembership

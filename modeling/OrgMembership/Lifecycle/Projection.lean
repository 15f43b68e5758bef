import OrgMembership.Domain.Event
import OrgMembership.Lifecycle.Patch

/-!
# Projection of an event onto a locked tenants row

`applyProjection` and `project` are written against the operations they use, so
that the same code runs on a single row here and inside database transactions.
-/

namespace OrgMembership

/-- The operations `project` performs on the locked tenant. -/
structure ProjectionOps (m : Type → Type) where
  applyLifecyclePatch : LifecyclePatch → m Nat
  setLastEventAt : Int → m Unit
  enqueue : DomainEvent → m Unit
  wipeTenantChildren : m Unit

/-- The columns read under the row lock. -/
structure TenantProjectionLock where
  status : SubscriptionStatus
  plan : TenantPlan
  lastEventAt : Option Int
  deriving DecidableEq

/-- The columns that the projection reads under its lock. -/
def Tenant.projectionLock (tenant : Tenant) : TenantProjectionLock :=
  ⟨tenant.status, tenant.plan, tenant.lastEventAt⟩

section Code

variable {m : Type → Type} [Monad m] (ops : ProjectionOps m)

/-- Apply one event; the answer is the status and plan it settles on. -/
def applyProjection (event : ConsumedEvent) (prevStatus : SubscriptionStatus)
    (prevPlan : TenantPlan) (trialDurationDays : Int) : m (SubscriptionStatus × TenantPlan) :=
  match event with
  | .tenantRealmReady realm keycloakShard => do
      let _ ← ops.applyLifecyclePatch (.setRealm realm .dedicated keycloakShard)
      return (prevStatus, prevPlan)
  | .tenantConverted plan => do
      let newPlan := plan.getD prevPlan
      let _ ← ops.applyLifecyclePatch (.activatePaid newPlan)
      return (.active, newPlan)
  | .directPaidSignup plan => do
      let newPlan := plan.getD prevPlan
      let _ ← ops.applyLifecyclePatch (.activatePaid newPlan)
      return (.active, newPlan)
  | .trialExpired => do
      let _ ← ops.applyLifecyclePatch (.setStatusClearSuspension .trialExpired)
      return (.trialExpired, prevPlan)
  | .trialReactivated => do
      let rows ← ops.applyLifecyclePatch (.trialReactivate trialDurationDays)
      -- the reactivation cap leaves the tenant as it is
      if rows = 0 then
        return (prevStatus, prevPlan)
      else
        return (.trial, prevPlan)
  | .tenantSuspended source => do
      let _ ← ops.applyLifecyclePatch
        (if source = .operator then .suspendOperator else .suspendBillingLapse)
      return (.suspended, prevPlan)
  | .tenantOffboarded => do
      let _ ← ops.applyLifecyclePatch .offboard
      return (.offboarded, prevPlan)
  | .tenantPlanChanged plan => do
      let newPlan := plan.getD prevPlan
      let _ ← ops.applyLifecyclePatch (.setPlan newPlan)
      return (prevStatus, newPlan)
  | .tenantPaymentPastDue => do
      let _ ← ops.applyLifecyclePatch (.setStatusClearSuspension .pastDue)
      return (.pastDue, prevPlan)
  | .tenantSubscriptionCancelled => do
      let _ ← ops.applyLifecyclePatch .cancel
      return (.cancelled, prevPlan)
  | .tenantReactivated =>
      if prevStatus = .offboarded then
        return (prevStatus, prevPlan)
      else do
        let rows ← ops.applyLifecyclePatch .reactivatePaid
        if 0 < rows then
          return (.active, prevPlan)
        else do
          let _ ← ops.applyLifecyclePatch .reactivateTrial
          return (.trial, prevPlan)
  | .tenantSeatsChanged licensedSeats => do
      let _ ← ops.applyLifecyclePatch (.setLicensedSeats licensedSeats)
      return (prevStatus, prevPlan)

/-- The recency guard: an event at or before the last applied one is stale. -/
def TenantProjectionLock.stale (locked : TenantProjectionLock) (timestamp : Int) : Bool :=
  match locked.lastEventAt with
  | none => false
  | some last => timestamp ≤ last

/-- What `project` publishes once an event is applied: the settled state if it
changed, and the purge of a tenant that is now offboarded.  The answer says
whether the tenant's rows were wiped. -/
def relay (tenantID : Uuid) (env : Envelope) (prevStatus : SubscriptionStatus)
    (prevPlan : TenantPlan) (newStatus : SubscriptionStatus) (newPlan : TenantPlan) :
    m Bool := do
  if newStatus ≠ prevStatus ∨ newPlan ≠ prevPlan then
    ops.enqueue ⟨tenantID, tenantID, .tenantStateChanged tenantID newStatus prevStatus
      newPlan prevPlan env.timestamp env.event.type⟩
  if prevStatus ≠ .offboarded ∧ newStatus = .offboarded then
    ops.wipeTenantChildren
    ops.enqueue ⟨tenantID, tenantID, .tenantMembershipsPurged tenantID systemActorID⟩
    return true
  else
    return false

/-- Run the recency guard, the projection and the relays for one event against a
locked row. -/
def project (tenantID : Uuid) (env : Envelope) (locked : TenantProjectionLock)
    (trialDurationDays : Int) : m Bool :=
  if locked.stale env.timestamp then
    return false
  else do
    let (newStatus, newPlan) ←
      applyProjection ops env.event locked.status locked.plan trialDurationDays
    ops.setLastEventAt env.timestamp
    relay ops tenantID env locked.status locked.plan newStatus newPlan

end Code

/-! ## On one row -/

/-- A tenants row with what projecting onto it has published and wiped. -/
structure ProjectedRow where
  tenant : Tenant
  published : List DomainEvent
  wiped : Bool
  deriving DecidableEq

/-- Projections of a row that fail on a constraint of the table. -/
abbrev RowM : Type → Type :=
  StateT ProjectedRow (Except PgError)

/-- The high-water mark an applied event leaves on its row. -/
def Tenant.markEvent (timestamp : Int) (tenant : Tenant) : Tenant :=
  { tenant with lastEventAt := some (pgTime timestamp) }

/-- The operations on a single row, in a transaction started at `now`. -/
def rowOps (now : Int) : ProjectionOps RowM where
  applyLifecyclePatch patch := fun row =>
    (execLifecyclePatch now row.tenant patch).map fun result =>
      (result.2, { row with tenant := result.1 })
  setLastEventAt timestamp := fun row =>
    (row.tenant.update now (Tenant.markEvent timestamp)).map fun updated =>
      ((), { row with tenant := updated })
  enqueue event := fun row => .ok ((), { row with published := row.published ++ [event] })
  wipeTenantChildren := fun row => .ok ((), { row with wiped := true })

/-- Project one event onto a row in a transaction started at `now`. -/
def projectRow (now : Int) (trialDurationDays : Int) (env : Envelope) (tenant : Tenant) :
    Except PgError ProjectedRow :=
  (project (rowOps now) tenant.id env tenant.projectionLock trialDurationDays
    ⟨tenant, [], false⟩).map Prod.snd

theorem projectRow_eq_ok {now : Int} {trialDurationDays : Int} {env : Envelope}
    {tenant : Tenant} {projected : ProjectedRow} :
    projectRow now trialDurationDays env tenant = .ok projected ↔
      ∃ wiped, project (rowOps now) tenant.id env tenant.projectionLock trialDurationDays
        ⟨tenant, [], false⟩ = .ok (wiped, projected) := by
  rw [projectRow]
  cases project (rowOps now) tenant.id env tenant.projectionLock trialDurationDays
      ⟨tenant, [], false⟩ with
  | error error => simp [Except.map]
  | ok out =>
      rcases out with ⟨wiped, row⟩
      simp [Except.map]

end OrgMembership

import OrgMembership.Repository.Tenant

/-!
# Event consumer

`Handle` of the membership event consumer for the lifecycle and billing events,
the parking of events whose tenant does not exist yet, and the replay of parked
events.  The plan catalog is an argument.  Each transaction that settles an
event says so in the journal.
-/

namespace OrgMembership

open Concurrency Relational

variable {σ : Type}

/-- The trial length of a plan, as the catalog answers it. -/
abbrev PlanCatalog : Type :=
  TenantPlan → Except Failure Int

/-- `project` runs its operations on the tenant's rows. -/
def tenantOps (tenantID : Uuid) : ProjectionOps (DbM σ) where
  applyLifecyclePatch := TenantRepository.applyLifecyclePatch tenantID
  setLastEventAt := TenantRepository.setLastEventAt tenantID
  enqueue := enqueue
  wipeTenantChildren := TenantRepository.wipeTenantChildren tenantID

/-- Record how an event was settled. -/
def settle (env : Envelope) (settlement : Settlement) : DbM σ Unit :=
  eventQuery (.settle ⟨env.id, .lifecycle env.event, settlement⟩)

/-- Project an event onto the locked row.  The answer says whether the tenant's
rows were wiped. -/
def projectLocked (tenantID : Uuid) (env : Envelope) (locked : TenantProjectionLock)
    (trialDurationDays : Int) : DbM σ Bool := do
  settle env (if locked.stale env.timestamp then .skipped else .applied)
  project (tenantOps tenantID) tenantID env locked trialDurationDays

/-- The trial length a `TrialReactivated` event needs; 0 without a tenant. -/
def trialDurationDays (catalog : PlanCatalog) (tenantID : Uuid) (env : Envelope) : DbM σ Int :=
  if env.event = .trialReactivated then do
    match ← (withPool (TenantRepository.findByID tenantID)).observe with
    | .error failure =>
        if failure.is .tenantNotFound then
          return 0
        else
          throw failure
    | .ok tenant =>
        match catalog tenant.plan with
        | .error failure => throw failure
        | .ok duration => return duration
  else
    return 0

/-- Under the provisioning lock, either the tenant exists by now or the event is
parked. -/
def parkUnlessProvisioned (env : Envelope) : DbM σ (Option TenantProjectionLock) := do
  ParkedTenantEventRepository.lockTenantProvisioning env.tenantID
  match ← TenantRepository.lockForProjection env.tenantID with
  | some locked => return some locked
  | none =>
      ParkedTenantEventRepository.park env.tenantID env
      return none

/-- What happens to an event whose tenant has no live row. -/
def tenantAbsent (env : Envelope) : DbM σ (Option TenantProjectionLock) :=
  if env.event = .tenantOffboarded then do
    settle env .droppedAbsent
    return none
  else do
    match ← (TenantRepository.findByIDIncludingDeleted env.tenantID).observe with
    | .ok tenant =>
        settle env (.droppedFound !tenant.live)
        return none
    | .error failure =>
        if failure.is .tenantNotFound then
          parkUnlessProvisioned env
        else
          throw failure

/-- The transaction of `Handle`, after the claim of the event. -/
def handleTx (env : Envelope) (duration : Int) : DbM σ Unit := do
  match ← TenantRepository.lockForProjection env.tenantID with
  | some locked =>
      let _ ← projectLocked env.tenantID env locked duration
      return ()
  | none =>
      match ← tenantAbsent env with
      | none => return ()
      | some locked =>
          -- the duration was looked up while the tenant was missing
          if env.event = .trialReactivated then
            throw .tenantNotYetProvisioned
          else do
            let _ ← projectLocked env.tenantID env locked duration
            return ()

/-- The handler of one delivery.  An event that is too far ahead of the clock is a poison pill. -/
def handle (skew : Int) (catalog : PlanCatalog) (env : Envelope) : DbM σ Unit := do
  let now ← timeNow
  if now + skew < env.timestamp then
    throw .poisonPill
  else do
    let duration ← trialDurationDays catalog env.tenantID env
    processOnce env.id (handleTx env duration)

/-! ## Replay -/

/-- A claimed event whose tenant has no live row: dropped if the tenant was
soft-deleted, and parked again by the rollback if there is none. -/
def replayAbsent (tenantID : Uuid) (env : Envelope) : DbM σ Unit := do
  match ← (TenantRepository.findByIDIncludingDeleted tenantID).observe with
  | .ok tenant => settle env (.droppedFound !tenant.live)
  | .error failure =>
      if failure.is .tenantNotFound then
        throw .tenantNotYetProvisioned
      else
        throw failure

/-- The transaction that replays one event.  The captured variable says whether
an attempt came to project it. -/
def replayTx (tenantID : Uuid) (parked : ParkedTenantEvent) (duration : Int) :
    DbM Bool Unit := do
  if ← ParkedTenantEventRepository.claim parked.eventID then
    match ← TenantRepository.lockForProjection tenantID with
    | some locked =>
        modify fun _ => true
        let _ ← projectLocked tenantID parked.envelope locked duration
        return ()
    | none => replayAbsent tenantID parked.envelope
  else
    return ()

/-- Replay the listed events in order, up to the first failure; the answer
counts the projected ones. -/
def replayEach (catalog : PlanCatalog) (tenantID : Uuid) :
    List ParkedTenantEvent → Nat → DbM σ Nat
  | [], replayed => return replayed
  | parked :: rest, replayed => do
      let duration ← trialDurationDays catalog tenantID parked.envelope
      let replay : DbM σ (Unit × Bool) :=
        Fallible.capturing false (runInTx (replayTx tenantID parked duration))
      match ← replay.observe with
      | .ok (_, applied) =>
          replayEach catalog tenantID rest (if applied then replayed + 1 else replayed)
      | .error failure =>
          if failure = .tenantNotYetProvisioned then
            return replayed
          else
            throw failure

/-- `ReplayParked` and `ReplayParkedSweep`. -/
def replayParked (catalog : PlanCatalog) (tenantID : Uuid) : DbM σ Nat := do
  let pending ← withPool (ParkedTenantEventRepository.listForTenant tenantID)
  replayEach catalog tenantID pending 0

end OrgMembership

import OrgMembership.Lifecycle.Projection

/-!
# Which events a valid row accepts

A row that passes the CHECK constraints accepts an event exactly when the
columns the event leaves alone agree with the status it sets.
-/

namespace OrgMembership

variable {env : Envelope} {now : Int} {patch : LifecyclePatch} {row : ProjectedRow}
  {tenant : Tenant}

/-! ## CHECK constraints under updates -/

/-- What the columns of a valid row must be like for the patched row to be valid. -/
def LifecyclePatch.fits (tenant : Tenant) : LifecyclePatch → Bool
  | setRealm realmID _ keycloakShard => keycloakShard ≠ "" && realmID ≠ ""
  | activatePaid _ => tenant.cancelledAt.isNone
  | setStatusClearSuspension status =>
      match status with
      | .trial | .trialExpired => tenant.cancelledAt.isNone && tenant.trialEndsAt.isSome
      | .active | .pastDue => tenant.cancelledAt.isNone && tenant.subscriptionStartedAt.isSome
      | .cancelled => tenant.cancelledAt.isSome && tenant.subscriptionStartedAt.isSome
      | .offboarded =>
          tenant.cancelledAt.isSome && tenant.deletedAt.isSome &&
            tenant.subscriptionStartedAt.isSome
      | .suspended => false
  | trialReactivate _ => tenant.cancelledAt.isNone && tenant.trialReactivationCount < 1
  | suspendBillingLapse => true
  | suspendOperator => true
  | offboard => tenant.subscriptionStartedAt.isSome
  | setPlan _ => true
  | cancel => tenant.subscriptionStartedAt.isSome
  | reactivatePaid => tenant.subscriptionStartedAt.isSome
  | reactivateTrial => tenant.trialEndsAt.isSome
  | setLicensedSeats licensedSeats => 0 < licensedSeats

/-- A row that passes the checks of its table and is offboarded is soft-deleted. -/
theorem Tenant.deleted_of_offboarded (valid : tenant.Valid) (ended : tenant.status = .offboarded) :
    tenant.deletedAt.isSome = true := by
  have deleted := valid .chkOffboardedSoftDeleted
  simpa [Tenant.passes, ended] using deleted

/-! ## Events on a row -/

/-- What the columns of a row must be like for an event to apply. -/
def ConsumedEvent.fits (tenant : Tenant) : ConsumedEvent → Bool
  | .tenantConverted _ => tenant.cancelledAt.isNone
  | .directPaidSignup _ => tenant.cancelledAt.isNone
  | .trialExpired => tenant.trialEndsAt.isSome && tenant.cancelledAt.isNone
  | .trialReactivated => 1 ≤ tenant.trialReactivationCount || tenant.cancelledAt.isNone
  | .tenantOffboarded => tenant.subscriptionStartedAt.isSome
  | .tenantPaymentPastDue => tenant.subscriptionStartedAt.isSome && tenant.cancelledAt.isNone
  | .tenantSubscriptionCancelled => tenant.subscriptionStartedAt.isSome
  | .tenantReactivated => tenant.subscriptionStartedAt.isSome || tenant.trialEndsAt.isSome
  | .tenantSeatsChanged licensedSeats => 0 < licensedSeats && licensedSeats ≤ 2147483647
  | .tenantRealmReady _ _ | .tenantSuspended _ | .tenantPlanChanged _ => true

theorem RowM.bind_eq_ok {α β : Type} {first : RowM α} {rest : α → RowM β} {out : β × ProjectedRow} :
    (first >>= rest) row = .ok out ↔
      ∃ value middle, first row = .ok (value, middle) ∧ rest value middle = .ok out := by
  change Except.bind (first row) (fun result => rest result.1 result.2) = .ok out ↔ _
  cases first row with
  | error error => simp [Except.bind]
  | ok result =>
      rcases result with ⟨value, middle⟩
      constructor
      · intro ran
        exact ⟨value, middle, rfl, ran⟩
      · rintro ⟨_, _, ⟨⟩, ran⟩
        exact ran

theorem RowM.bind_of_ok {α β : Type} {first : RowM α} {middle : ProjectedRow} {value : α}
    (ran : first row = .ok (value, middle)) (rest : α → RowM β) :
    (first >>= rest) row = rest value middle := by
  change Except.bind (first row) (fun result => rest result.1 result.2) = _
  rw [ran]
  rfl

theorem RowM.pure_eq_ok {α : Type} {value : α} {out : α × ProjectedRow} :
    (pure value : RowM α) row = .ok out ↔ out = (value, row) := by
  change Except.ok (value, row) = .ok out ↔ _
  simp [eq_comm]

theorem rowOps_applyLifecyclePatch_eq_ok {row' : ProjectedRow} {rows : Nat} :
    (rowOps now).applyLifecyclePatch patch row = .ok (rows, row') ↔
      ∃ tenant, execLifecyclePatch now row.tenant patch = .ok (tenant, rows) ∧
        row' = { row with tenant := tenant } := by
  simp only [rowOps]
  cases execLifecyclePatch now row.tenant patch with
  | error error => simp [Except.map]
  | ok result =>
      rcases result with ⟨tenant, affected⟩
      simp only [Except.map, Except.ok.injEq, Prod.mk.injEq]
      constructor
      · rintro ⟨rfl, rfl⟩
        exact ⟨tenant, ⟨rfl, rfl⟩, rfl⟩
      · rintro ⟨_, ⟨rfl, rfl⟩, rfl⟩
        exact ⟨rfl, rfl⟩

/-- A property of the row that a successful computation on it keeps. -/
def RowM.Keeps {α : Type} (property : ProjectedRow → Prop) (action : RowM α) : Prop :=
  ∀ row out, property row → action row = .ok out → property out.2

namespace RowM.Keeps

variable {α β : Type} {property : ProjectedRow → Prop}

theorem pure (value : α) : Keeps property (Pure.pure value) := by
  intro row out holds ran
  rw [RowM.pure_eq_ok.mp ran]
  exact holds

theorem bind {first : RowM α} {rest : α → RowM β} (keepsFirst : Keeps property first)
    (keepsRest : ∀ value, Keeps property (rest value)) : Keeps property (first >>= rest) := by
  intro row out holds ran
  obtain ⟨value, middle, ranFirst, ranRest⟩ := RowM.bind_eq_ok.mp ran
  exact keepsRest value middle out (keepsFirst row _ holds ranFirst) ranRest

theorem ite {condition : Prop} [Decidable condition] {first second : RowM α}
    (keepsFirst : condition → Keeps property first)
    (keepsSecond : ¬ condition → Keeps property second) :
    Keeps property (if condition then first else second) := by
  split
  case isTrue holds => exact keepsFirst holds
  case isFalse fails => exact keepsSecond fails

end RowM.Keeps

/-- The patches that end a cancellation. -/
def LifecyclePatch.reactivates : LifecyclePatch → Bool
  | .reactivatePaid | .reactivateTrial => true
  | _ => false

/-- What every patch keeps that an event asks for, `applyProjection` keeps. -/
theorem applyProjection_keeps {property : ProjectedRow → Prop} (event : ConsumedEvent)
    (prevStatus : SubscriptionStatus) (prevPlan : TenantPlan) (trialDurationDays : Int)
    (keepsPatch : ∀ patch : LifecyclePatch,
      (patch.reactivates = true → event = .tenantReactivated ∧ prevStatus ≠ .offboarded) →
        RowM.Keeps property ((rowOps now).applyLifecyclePatch patch)) :
    RowM.Keeps property
      (applyProjection (rowOps now) event prevStatus prevPlan trialDurationDays) := by
  cases event with
  | trialReactivated =>
      exact (keepsPatch _ (by rintro ⟨⟩)).bind fun rows => .ite (fun _ => .pure _) fun _ => .pure _
  | tenantReactivated =>
      refine .ite (fun _ => .pure _) fun live => ?_
      exact (keepsPatch _ fun _ => ⟨rfl, live⟩).bind fun rows =>
        .ite (fun _ => .pure _) fun _ => (keepsPatch _ fun _ => ⟨rfl, live⟩).bind fun _ => .pure _
  | tenantSuspended source =>
      refine (keepsPatch _ fun reactivates => ?_).bind fun _ => .pure _
      split at reactivates <;> cases reactivates
  | _ => exact (keepsPatch _ (by rintro ⟨⟩)).bind fun _ => .pure _

/-- A computation that succeeds from every row with the property and keeps it. -/
def RowM.Total {α : Type} (property : ProjectedRow → Prop) (action : RowM α) : Prop :=
  ∀ row, property row → ∃ out, action row = .ok out ∧ property out.2

namespace RowM.Total

variable {α β : Type} {property : ProjectedRow → Prop}

theorem pure (value : α) : Total property (Pure.pure value) :=
  fun row holds => ⟨(value, row), RowM.pure_eq_ok.mpr rfl, holds⟩

theorem bind {first : RowM α} {rest : α → RowM β} (totalFirst : Total property first)
    (totalRest : ∀ value, Total property (rest value)) : Total property (first >>= rest) := by
  intro row holds
  obtain ⟨⟨value, middle⟩, ranFirst, holdsMiddle⟩ := totalFirst row holds
  rw [RowM.bind_of_ok ranFirst]
  exact totalRest value middle holdsMiddle

theorem ite {condition : Prop} [Decidable condition] {first second : RowM α}
    (totalFirst : Total property first) (totalSecond : Total property second) :
    Total property (if condition then first else second) := by
  split
  · exact totalFirst
  · exact totalSecond

end RowM.Total

/-- The relays of a projection leave the row alone. -/
theorem relay_keeps_tenant (now : Int) (tenantID : Uuid) (env : Envelope) (tenant : Tenant)
    (prevStatus newStatus : SubscriptionStatus) (prevPlan newPlan : TenantPlan) :
    RowM.Keeps (fun row => row.tenant = tenant)
      (relay (rowOps now) tenantID env prevStatus prevPlan newStatus newPlan) := by
  have enqueues (event : DomainEvent) :
      RowM.Keeps (fun row => row.tenant = tenant) ((rowOps now).enqueue event) := by
    rintro row _ holds ⟨⟩
    exact holds
  have wipes : RowM.Keeps (fun row => row.tenant = tenant) (rowOps now).wipeTenantChildren := by
    rintro row _ holds ⟨⟩
    exact holds
  have purge := wipes.bind fun _ => (enqueues
    ⟨tenantID, tenantID, .tenantMembershipsPurged tenantID systemActorID⟩).bind fun _ =>
      .pure true
  exact .ite (fun _ => (enqueues _).bind fun _ => .ite (fun _ => purge) fun _ => .pure _)
    fun _ => .ite (fun _ => purge) fun _ => .pure _

/-- Marking an event updates its mark only. -/
theorem setLastEventAt_eq_ok {timestamp : Int} {out : Unit × ProjectedRow}
    (ran : (rowOps now).setLastEventAt timestamp row = .ok out) :
    out.2 = { row with tenant := out.2.tenant } ∧
      row.tenant.update now (Tenant.markEvent timestamp) = .ok out.2.tenant := by
  simp only [rowOps] at ran
  cases updated : row.tenant.update now (Tenant.markEvent timestamp) with
  | error error => simp [updated, Except.map] at ran
  | ok tenant =>
      rw [updated] at ran
      cases ran
      exact ⟨rfl, rfl⟩

/-- A stale event leaves the row as it is. -/
theorem projectRow_of_stale {trialDurationDays : Int}
    (stale : tenant.projectionLock.stale env.timestamp = true) :
    projectRow now trialDurationDays env tenant = .ok ⟨tenant, [], false⟩ := by
  rw [projectRow, project, if_pos stale]
  rfl

/-- Past the recency guard the row is what `applyProjection` makes of it, with
the event as its high-water mark. -/
theorem projectRow_of_recent {trialDurationDays : Int} {projected : ProjectedRow}
    (recent : tenant.projectionLock.stale env.timestamp = false)
    (ran : projectRow now trialDurationDays env tenant = .ok projected) :
    ∃ settled middle, applyProjection (rowOps now) env.event tenant.status tenant.plan
        trialDurationDays ⟨tenant, [], false⟩ = .ok (settled, middle) ∧
      middle.tenant.update now (Tenant.markEvent env.timestamp) = .ok projected.tenant := by
  obtain ⟨wiped, ran⟩ := projectRow_eq_ok.mp ran
  rw [project, recent] at ran
  obtain ⟨⟨newStatus, newPlan⟩, middle, applied, ran⟩ := RowM.bind_eq_ok.mp ran
  obtain ⟨_, marked, mark, relayed⟩ := RowM.bind_eq_ok.mp ran
  refine ⟨_, middle, applied, ?_⟩
  rw [relay_keeps_tenant now tenant.id env marked.tenant _ _ _ _ marked _ rfl relayed]
  exact (setLastEventAt_eq_ok mark).2

/-- A paid tenant that has cancelled. -/
def cancelledRow : Tenant :=
  { trialRow with status := .cancelled, subscriptionStartedAt := some 0, cancelledAt := some 0 }

end OrgMembership

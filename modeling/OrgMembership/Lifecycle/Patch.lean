import OrgMembership.Domain.Error

/-!
# Lifecycle patches of a tenants row

The CHECK constraints of the `tenants` table, the row trigger, and the twelve
partial updates through which events change a row.
-/

namespace OrgMembership

/-! ## CHECK constraints -/

/-- Whether a row passes a CHECK constraint.  A comparison with NULL passes, as
in SQL; the residency-mode constraint is the type of the column. -/
def Tenant.passes (tenant : Tenant) : TenantCheck → Bool
  | .chkCancelledAtRequired =>
      match tenant.status with
      | .cancelled | .offboarded => tenant.cancelledAt.isSome
      | .suspended => tenant.suspensionSource ≠ some .billingLapse || tenant.cancelledAt.isSome
      | _ => tenant.cancelledAt.isNone
  | .chkOffboardedSoftDeleted => tenant.status ≠ .offboarded || tenant.deletedAt.isSome
  | .chkSubscriptionStartedRequired =>
      tenant.status = .trial || tenant.status = .trialExpired || tenant.status = .suspended ||
        tenant.subscriptionStartedAt.isSome
  | .chkSuspensionSourceRequired =>
      (tenant.status = .suspended : Bool) == tenant.suspensionSource.isSome
  | .chkTrialEndsAtRequired =>
      (tenant.status ≠ .trial && tenant.status ≠ .trialExpired) || tenant.trialEndsAt.isSome
  | .keycloakShardNotEmpty => tenant.keycloakShard ≠ ""
  | .licensedSeatsPositive => 0 < tenant.licensedSeats
  | .mfaFreshnessRange => 60 ≤ tenant.mfaFreshnessSeconds && tenant.mfaFreshnessSeconds ≤ 900
  | .nameNotEmpty => tenant.name ≠ ""
  | .reactivationRange =>
      0 ≤ tenant.trialReactivationCount && tenant.trialReactivationCount ≤ 1
  | .realmIDNotEmpty => tenant.realmID ≠ ""
  | .recordVersionPositive => 0 < tenant.recordVersion
  | .slugNotEmpty => tenant.slug ≠ ""

/-- The constraints in the order Postgres checks them. -/
def TenantCheck.all : List TenantCheck :=
  [.chkCancelledAtRequired, .chkOffboardedSoftDeleted, .chkSubscriptionStartedRequired,
    .chkSuspensionSourceRequired, .chkTrialEndsAtRequired, .keycloakShardNotEmpty,
    .licensedSeatsPositive, .mfaFreshnessRange, .nameNotEmpty, .reactivationRange,
    .realmIDNotEmpty, .recordVersionPositive, .slugNotEmpty]

theorem TenantCheck.mem_all (check : TenantCheck) : check ∈ TenantCheck.all := by
  cases check <;> decide

/-- The row satisfies every CHECK constraint. -/
def Tenant.Valid (tenant : Tenant) : Prop :=
  ∀ check, tenant.passes check = true

/-- The first constraint the row violates. -/
def Tenant.violated (tenant : Tenant) : Option TenantCheck :=
  TenantCheck.all.find? fun check => !tenant.passes check

theorem Tenant.violated_eq_none {tenant : Tenant} :
    tenant.violated = none ↔ tenant.Valid := by
  simp only [violated, List.find?_eq_none, Bool.not_eq_true', Bool.not_eq_false, Valid]
  exact ⟨fun passes check => passes check check.mem_all, fun valid check _ => valid check⟩

instance (tenant : Tenant) : Decidable tenant.Valid :=
  decidable_of_iff _ Tenant.violated_eq_none

/-! ## Updates -/

/-- `touch_row` on the tenants table. -/
def Tenant.touch (now : Int) : Tenant → Tenant → Tenant :=
  touchRow Tenant.recordVersion fun version row =>
    { row with updatedAt := now, recordVersion := version }

/-- What the trigger leaves alone. -/
theorem Tenant.touch_proj {γ : Type} (field : Tenant → γ)
    (unstamped : ∀ now version row,
      field { row with updatedAt := now, recordVersion := version } = field row)
    (now : Int) (old new : Tenant) : field (old.touch now new) = field new :=
  touchRow_proj field (unstamped now) old new

/-- The trigger counts an update that changes the row. -/
theorem Tenant.recordVersion_touch {now : Int} {old new : Tenant} (changed : new ≠ old) :
    (old.touch now new).recordVersion = old.recordVersion + 1 := by
  rw [Tenant.touch, touchRow, if_neg changed]

/-- Update a row under the trigger and the CHECK constraints. -/
def Tenant.update (now : Int) (set : Tenant → Tenant) (tenant : Tenant) :
    Except PgError Tenant :=
  let updated := tenant.touch now (set tenant)
  match updated.violated with
  | none => .ok updated
  | some check => .error (.violation (.tenantCheck check))

theorem Tenant.update_eq_ok {now : Int} {set : Tenant → Tenant} {tenant updated : Tenant} :
    tenant.update now set = .ok updated ↔
      updated = tenant.touch now (set tenant) ∧ updated.Valid := by
  simp only [update]
  split
  case h_1 passed =>
    constructor
    · rintro ⟨rfl⟩
      exact ⟨rfl, violated_eq_none.mp passed⟩
    · rintro ⟨rfl, _⟩
      rfl
  case h_2 check failed =>
    constructor
    · intro impossible
      cases impossible
    · rintro ⟨rfl, valid⟩
      rw [violated_eq_none.mpr valid] at failed
      cases failed

/-- A partial update of a tenants row, with its arguments. -/
inductive LifecyclePatch
  | setRealm (realmID : String) (realmType : RealmType) (keycloakShard : String)
  | activatePaid (plan : TenantPlan)
  | setStatusClearSuspension (status : SubscriptionStatus)
  | trialReactivate (trialDurationDays : Int)
  | suspendBillingLapse
  | suspendOperator
  | offboard
  | setPlan (plan : TenantPlan)
  | cancel
  | reactivatePaid
  | reactivateTrial
  | setLicensedSeats (licensedSeats : Int)
  deriving DecidableEq

namespace LifecyclePatch

/-- The arguments fit the column types: `licensed_seats` is a 32-bit integer. -/
def encodes : LifecyclePatch → Bool
  | setLicensedSeats licensedSeats => -2147483648 ≤ licensedSeats && licensedSeats ≤ 2147483647
  | _ => true

/-- The condition of the update besides the row's id. -/
def selects (tenant : Tenant) : LifecyclePatch → Bool
  | trialReactivate _ => tenant.trialReactivationCount < 1
  | reactivatePaid => tenant.subscriptionStartedAt.isSome
  | reactivateTrial => tenant.subscriptionStartedAt.isNone
  | _ => true

/-- The columns the update sets. -/
def set (now : Int) (tenant : Tenant) : LifecyclePatch → Tenant
  | setRealm realmID realmType keycloakShard =>
      { tenant with realmID, realmType, keycloakShard }
  | activatePaid plan =>
      { tenant with
        status := .active, subscriptionStartedAt := some now, plan, suspensionSource := none }
  | setStatusClearSuspension status =>
      { tenant with status, suspensionSource := none }
  | trialReactivate trialDurationDays =>
      { tenant with
        status := .trial
        trialEndsAt := some (now + days trialDurationDays)
        trialReactivationCount := tenant.trialReactivationCount + 1
        suspensionSource := none }
  | suspendBillingLapse =>
      { tenant with
        status := .suspended
        suspensionSource := some .billingLapse
        cancelledAt := some (tenant.cancelledAt.getD now) }
  | suspendOperator =>
      { tenant with status := .suspended, suspensionSource := some .operator }
  | offboard =>
      { tenant with
        status := .offboarded
        deletedAt := some now
        cancelledAt := some (tenant.cancelledAt.getD now)
        suspensionSource := none }
  | setPlan plan => { tenant with plan }
  | cancel =>
      { tenant with
        status := .cancelled
        cancelledAt := some (tenant.cancelledAt.getD now)
        suspensionSource := none }
  | reactivatePaid =>
      { tenant with status := .active, cancelledAt := none, suspensionSource := none }
  | reactivateTrial =>
      { tenant with status := .trial, cancelledAt := none, suspensionSource := none }
  | setLicensedSeats licensedSeats => { tenant with licensedSeats }

@[simp]
theorem set_id (now : Int) (tenant : Tenant) (patch : LifecyclePatch) :
    (patch.set now tenant).id = tenant.id := by
  cases patch <;> rfl

end LifecyclePatch

/-- Run a patch on its row: the row afterwards and the number of rows the
update selected. -/
def execLifecyclePatch (now : Int) (tenant : Tenant) (patch : LifecyclePatch) :
    Except PgError (Tenant × Nat) :=
  if patch.encodes then
    if patch.selects tenant then
      (tenant.update now (patch.set now)).map fun updated => (updated, 1)
    else
      .ok (tenant, 0)
  else
    .error .numericValueOutOfRange

/-- A patch that runs either updates the row it selects or leaves it alone. -/
theorem execLifecyclePatch_eq_ok {now : Int} {tenant updated : Tenant} {patch : LifecyclePatch}
    {rows : Nat} :
    execLifecyclePatch now tenant patch = .ok (updated, rows) ↔
      patch.encodes = true ∧
        (patch.selects tenant = true ∧ tenant.update now (patch.set now) = .ok updated ∧ rows = 1 ∨
          patch.selects tenant = false ∧ updated = tenant ∧ rows = 0) := by
  rw [execLifecyclePatch]
  by_cases encodes : patch.encodes = true
  · rw [if_pos encodes]
    by_cases selects : patch.selects tenant = true
    · rw [if_pos selects]
      cases tenant.update now (patch.set now) with
      | error error => simp [Except.map, selects]
      | ok row => simp [Except.map, encodes, selects, eq_comm]
    · simp [encodes, selects, eq_comm]
  · simp [encodes]

/-- A tenant in its first trial, as signup creates it. -/
def trialRow : Tenant where
  id := 1
  slug := "acme"
  name := "Acme"
  plan := .starter
  status := .trial
  trialEndsAt := some (days 30)
  trialReactivationCount := 0
  subscriptionStartedAt := none
  cancelledAt := none
  suspensionSource := none
  lastEventAt := none
  realmID := "trial"
  realmType := .shared
  keycloakShard := "shard-0"
  mfaFreshnessSeconds := 300
  localAccountsEnabled := true
  realmSyncPending := false
  defaultLocale := "en-US"
  licensedSeats := 10
  ownerlessSince := none
  overageSince := none
  residencyMode := .standard
  recordVersion := 1
  createdAt := 0
  updatedAt := 0
  deletedAt := none

end OrgMembership

import OrgMembership.Repository.Member
import OrgMembership.Repository.Tenant

/-!
# Reconciler jobs

`TrialCleanup`, which deletes the tenants of expired trials, `InvitationKCCleanup`, which
deletes the Keycloak users of invitations that came to nothing, and `SeatOverageReconcile`,
which marks the tenants that use more seats than they have licensed.
-/

namespace OrgMembership

open Concurrency Relational

variable {σ : Type}

/-- The counts a job reports. -/
structure JobResult where
  attempted : Nat
  succeeded : Nat
  failed : Nat
  skipped : Nat
  deriving DecidableEq

/-- The transaction of `deleteOneTrial`. -/
def deleteTrialTx (tenantID : Uuid) : DbM σ Unit := do
  TenantRepository.hardDeleteTenant tenantID
  enqueue ⟨tenantID, tenantID, .tenantMembershipsPurged tenantID systemActorID⟩

/-- One tenant is one transaction. -/
def deleteOneTrial (tenantID : Uuid) : DbM σ Unit :=
  runInTx (deleteTrialTx tenantID)

/-- Delete the candidates one by one; a failed one is counted and left. -/
def deleteTrials : List Uuid → JobResult → DbM σ JobResult
  | [], result => return result
  | tenantID :: candidates, result => do
      match ← (deleteOneTrial tenantID).observe with
      | .ok _ =>
          deleteTrials candidates
            { result with attempted := result.attempted + 1, succeeded := result.succeeded + 1 }
      | .error _ =>
          deleteTrials candidates
            { result with attempted := result.attempted + 1, failed := result.failed + 1 }

/-- The `TrialCleanup` job. -/
def trialCleanup (graceDays : Int) (limit : Nat) : DbM σ JobResult := do
  let candidates ← withPool (listExpiredTrialTenants graceDays limit)
  deleteTrials candidates ⟨0, 0, 0, 0⟩

/-- Delete the users one by one and clear their marks; a failed one keeps its mark. -/
def cleanUpUsers : List PendingInvitation → JobResult → DbM σ JobResult
  | [], result => return result
  | target :: targets, result => do
      let result := { result with attempted := result.attempted + 1 }
      match target.keycloakUserID with
      | none =>
          match ← (withPool (InvitationRepository.clearKCCleanupPendingByID target.id)).observe with
          | .ok _ => cleanUpUsers targets { result with skipped := result.skipped + 1 }
          | .error _ => cleanUpUsers targets { result with failed := result.failed + 1 }
      | some keycloakUserID =>
          match ← (callRealm (.deleteUser target.tenantID keycloakUserID)).observe with
          | .error _ => cleanUpUsers targets { result with failed := result.failed + 1 }
          | .ok _ =>
              match ←
                (withPool (InvitationRepository.clearKCCleanupPendingByID target.id)).observe with
              | .ok _ => cleanUpUsers targets { result with succeeded := result.succeeded + 1 }
              | .error _ => cleanUpUsers targets { result with failed := result.failed + 1 }

/-- The `InvitationKCCleanup` job. -/
def invitationKCCleanup (limit : Nat) : DbM σ JobResult := do
  let targets ← withPool (InvitationRepository.listPendingKCCleanup limit)
  cleanUpUsers targets ⟨0, 0, 0, 0⟩

/-! ## Seat overage -/

/-- More seats are in use than licensed. -/
def SeatOccupancy.overCap (occupancy : SeatOccupancy) : Bool :=
  occupancy.licensedSeats < occupancy.active + occupancy.pending

/-- The transaction of `reconcileOneTenant`. -/
def reconcileTenantTx (tenantID : Uuid) : DbM σ Unit := do
  let occupancy ← TenantRepository.lockSeatOccupancy tenantID
  match occupancy.overCap, occupancy.overageSince with
  | true, none => do
      let now ← timeNow
      TenantRepository.setOverageSince tenantID (some now)
      enqueue ⟨tenantID, tenantID, .tenantSeatOverageStarted tenantID occupancy.licensedSeats
        occupancy.active occupancy.pending now⟩
  | false, some _ => do
      let now ← timeNow
      TenantRepository.setOverageSince tenantID none
      enqueue ⟨tenantID, tenantID, .tenantSeatOverageResolved tenantID now⟩
  | _, _ => return ()

/-- One tenant is one transaction. -/
def reconcileOneTenant (tenantID : Uuid) : DbM σ Unit :=
  runInTx (reconcileTenantTx tenantID)

/-- Reconcile the candidates one by one; a failed one is counted and left. -/
def reconcileTenants : List Uuid → JobResult → DbM σ JobResult
  | [], result => return result
  | tenantID :: candidates, result => do
      match ← (reconcileOneTenant tenantID).observe with
      | .ok _ =>
          reconcileTenants candidates
            { result with attempted := result.attempted + 1, succeeded := result.succeeded + 1 }
      | .error _ =>
          reconcileTenants candidates
            { result with attempted := result.attempted + 1, failed := result.failed + 1 }

/-- The `SeatOverageReconcile` job. -/
def seatOverageReconcile (order : RowOrder) (limit : Nat) : DbM σ JobResult := do
  let candidates ← withPool (listSeatOverageCandidates order limit)
  reconcileTenants candidates ⟨0, 0, 0, 0⟩

/-! ## Accounting -/

/-- The items counted so far as succeeded, failed or skipped. -/
def JobResult.settled (result : JobResult) : Nat :=
  result.succeeded + result.failed + result.skipped

/-- The job returns, and has counted each of its items as attempted and as exactly one of
succeeded, failed and skipped. -/
def Accounts (total : Nat) (outcome : Except Failure JobResult) : Prop :=
  ∃ final, outcome = .ok final ∧ final.attempted = total ∧ final.settled = total

/-- A loop that counts each item once accounts for all of them. -/
theorem accounts_of_counts {α : Type} {loop : List α → JobResult → DbM σ JobResult}
    (ends : ∀ result, loop [] result = pure result)
    (counts : ∀ item items result post,
      (∀ next : JobResult, next.attempted = result.attempted + 1 →
        next.settled = result.settled + 1 → (loop items next).Returns post) →
          (loop (item :: items) result).Returns post) (items : List α) :
    (loop items ⟨0, 0, 0, 0⟩).Returns (Accounts items.length) := by
  suffices ∀ total result, result.attempted + items.length = total →
      result.settled + items.length = total → (loop items result).Returns (Accounts total) from
    this _ _ (Nat.zero_add _) (Nat.zero_add _)
  intro total
  induction items with
  | nil =>
      intro result attempted settled
      rw [ends]
      exact fun _ => ⟨result, rfl, attempted, settled⟩
  | cons item items ih =>
      intro result attempted settled
      rw [List.length_cons] at attempted settled
      exact counts item items result _ fun next more more' => ih next (by omega) (by omega)

/-- Whatever the database and the Realm Provisioner answer to each statement, a failed item
stops no job, and every item a job has listed is counted once. -/
theorem jobs_account (candidates : List Uuid) (targets : List PendingInvitation) :
    (deleteTrials candidates ⟨0, 0, 0, 0⟩ : DbM σ _).Returns (Accounts candidates.length) ∧
      (cleanUpUsers targets ⟨0, 0, 0, 0⟩ : DbM σ _).Returns (Accounts targets.length) ∧
        (reconcileTenants candidates ⟨0, 0, 0, 0⟩ : DbM σ _).Returns
          (Accounts candidates.length) := by
  refine ⟨accounts_of_counts (fun _ => rfl) ?_ _, accounts_of_counts (fun _ => rfl) ?_ _,
    accounts_of_counts (fun _ => rfl) ?_ _⟩
  · intro tenantID candidates result post next
    refine Fallible.returns_observe_bind fun outcome => ?_
    cases outcome <;> exact next _ rfl (by simp only [JobResult.settled]; omega)
  · intro target targets result post next
    rw [cleanUpUsers]
    split
    · refine Fallible.returns_observe_bind fun cleared => ?_
      cases cleared <;> exact next _ rfl (by simp only [JobResult.settled]; omega)
    · refine Fallible.returns_observe_bind fun deleted => ?_
      cases deleted with
      | error => exact next _ rfl (by simp only [JobResult.settled]; omega)
      | ok =>
          refine Fallible.returns_observe_bind fun cleared => ?_
          cases cleared <;> exact next _ rfl (by simp only [JobResult.settled]; omega)
  · intro tenantID candidates result post next
    refine Fallible.returns_observe_bind fun outcome => ?_
    cases outcome <;> exact next _ rfl (by simp only [JobResult.settled]; omega)

end OrgMembership

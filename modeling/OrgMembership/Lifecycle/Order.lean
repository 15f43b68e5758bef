import Mathlib.Data.List.Nodup
import OrgMembership.Lifecycle.Totality

/-!
# Delivery order and the recency guard

Deliveries of one set of events may come in any order, each in a transaction of
its own.  The recency guard keeps one mark for all columns and lets an event
through only if it is newer than all that were let through before it.  So the
newest event is applied in every order, and nothing is applied after it: what it
sets of the row is the same after every order, while a column that only older
events set depends on which of them came before it.
-/

namespace OrgMembership

/-- One delivery: the start of its transaction, the trial length looked up for
it, and the message. -/
structure Delivery where
  now : Int
  trialDurationDays : Int
  env : Envelope
  deriving DecidableEq

/-- An event reaches the projection of a live row past the recency guard. -/
def Tenant.admits (tenant : Tenant) (env : Envelope) : Bool :=
  tenant.deletedAt.isNone && !tenant.projectionLock.stale env.timestamp

/-- Deliver one event to the row: a soft-deleted row drops it, the recency guard
skips it, or it is projected. -/
def deliver (delivery : Delivery) (tenant : Tenant) : Except PgError Tenant :=
  if tenant.deletedAt.isSome then
    .ok tenant
  else
    (projectRow delivery.now delivery.trialDurationDays delivery.env tenant).map
      ProjectedRow.tenant

/-- Deliver in order, stopping at the first database error. -/
def deliverAll : List Delivery → Tenant → Except PgError Tenant
  | [], tenant => .ok tenant
  | delivery :: deliveries, tenant =>
      match deliver delivery tenant with
      | .ok tenant' => deliverAll deliveries tenant'
      | .error error => .error error

theorem deliver_eq_ok {delivery : Delivery} {tenant tenant' : Tenant}
    (ran : deliver delivery tenant = .ok tenant') :
    tenant.admits delivery.env = false ∧ tenant' = tenant ∨
      tenant.admits delivery.env = true ∧ ∃ projected, projectRow delivery.now
        delivery.trialDurationDays delivery.env tenant = .ok projected ∧
          tenant' = projected.tenant := by
  rw [deliver] at ran
  split at ran
  case isTrue deleted =>
    cases ran
    exact .inl ⟨by simp [Tenant.admits, ← Option.not_isSome, deleted], rfl⟩
  case isFalse live =>
    cases stale : tenant.projectionLock.stale delivery.env.timestamp with
    | true =>
        rw [projectRow_of_stale stale] at ran
        cases ran
        exact .inl ⟨by simp [Tenant.admits, stale], rfl⟩
    | false =>
        cases projected :
            projectRow delivery.now delivery.trialDurationDays delivery.env tenant with
        | error error => simp [projected, Except.map] at ran
        | ok row =>
            rw [projected] at ran
            cases ran
            exact .inr ⟨by simpa [Tenant.admits, stale] using live, row, rfl, rfl⟩

theorem deliverAll_cons_eq_ok {delivery : Delivery} {deliveries : List Delivery}
    {tenant final : Tenant} :
    deliverAll (delivery :: deliveries) tenant = .ok final ↔
      ∃ tenant', deliver delivery tenant = .ok tenant' ∧
        deliverAll deliveries tenant' = .ok final := by
  rw [deliverAll]
  cases deliver delivery tenant <;> simp

theorem deliverAll_append_eq_ok {first second : List Delivery} {tenant final : Tenant} :
    deliverAll (first ++ second) tenant = .ok final ↔
      ∃ middle, deliverAll first tenant = .ok middle ∧ deliverAll second middle = .ok final := by
  induction first generalizing tenant with
  | nil => simp [deliverAll]
  | cons delivery first ih =>
      simp only [List.cons_append, deliverAll_cons_eq_ok, ih]
      constructor
      · rintro ⟨tenant', delivered, middle, ranFirst, ranSecond⟩
        exact ⟨middle, ⟨tenant', delivered, ranFirst⟩, ranSecond⟩
      · rintro ⟨middle, ⟨tenant', delivered, ranFirst⟩, ranSecond⟩
        exact ⟨tenant', delivered, middle, ranFirst, ranSecond⟩

/-! ## What an event makes of a row -/

/-- The update that an event makes of the row, if it makes one. -/
def ConsumedEvent.patch (trialDurationDays : Int) (tenant : Tenant) :
    ConsumedEvent → Option LifecyclePatch
  | .tenantRealmReady realm keycloakShard => some (.setRealm realm .dedicated keycloakShard)
  | .tenantConverted plan | .directPaidSignup plan => some (.activatePaid (plan.getD tenant.plan))
  | .trialExpired => some (.setStatusClearSuspension .trialExpired)
  | .trialReactivated =>
      if tenant.trialReactivationCount < 1 then some (.trialReactivate trialDurationDays) else none
  | .tenantSuspended source =>
      some (if source = .operator then .suspendOperator else .suspendBillingLapse)
  | .tenantOffboarded => some .offboard
  | .tenantPlanChanged plan => some (.setPlan (plan.getD tenant.plan))
  | .tenantPaymentPastDue => some (.setStatusClearSuspension .pastDue)
  | .tenantSubscriptionCancelled => some .cancel
  | .tenantReactivated =>
      if tenant.status = .offboarded then none
      else if tenant.subscriptionStartedAt.isSome then some .reactivatePaid
      else some .reactivateTrial
  | .tenantSeatsChanged licensedSeats => some (.setLicensedSeats licensedSeats)

/-- The row with the columns that the event sets. -/
def ConsumedEvent.onto (now trialDurationDays : Int) (tenant : Tenant) (event : ConsumedEvent) :
    Tenant :=
  (event.patch trialDurationDays tenant).elim tenant (LifecyclePatch.set now tenant)

section Onto

variable {now trialDurationDays : Int} {row row' : ProjectedRow} {event : ConsumedEvent}
  {settled : SubscriptionStatus × TenantPlan}

theorem touch_of_patch {patch : LifecyclePatch} {rows : Nat}
    (ran : (rowOps now).applyLifecyclePatch patch row = .ok (rows, row')) :
    patch.selects row.tenant = true ∧
        row'.tenant = row.tenant.touch now (patch.set now row.tenant) ∧ rows = 1 ∨
      patch.selects row.tenant = false ∧ row' = row ∧ rows = 0 := by
  obtain ⟨tenant, executed, rfl⟩ := rowOps_applyLifecyclePatch_eq_ok.mp ran
  obtain ⟨_, ⟨selected, updated, rfl⟩ | ⟨skipped, rfl, rfl⟩⟩ := execLifecyclePatch_eq_ok.mp executed
  · exact .inl ⟨selected, (Tenant.update_eq_ok.mp updated).1, rfl⟩
  · exact .inr ⟨skipped, rfl, rfl⟩

theorem touch_of_one_patch {α : Type} {patch : LifecyclePatch} {rest : Nat → RowM α} {value : α}
    (ran : ((rowOps now).applyLifecyclePatch patch >>= rest) row = .ok (value, row'))
    (keeps : ∀ rows row, RowM.Keeps (· = row) (rest rows))
    (selects : patch.selects row.tenant = true) :
    row'.tenant = row.tenant.touch now (patch.set now row.tenant) := by
  obtain ⟨rows, middle, patched, rested⟩ := RowM.bind_eq_ok.mp ran
  have same : row' = middle := keeps rows middle middle _ rfl rested
  rcases touch_of_patch patched with ⟨_, touched, _⟩ | ⟨skipped, _⟩
  · rw [same, touched]
  · rw [selects] at skipped
    cases skipped

theorem Tenant.touch_self (now : Int) (tenant : Tenant) : tenant.touch now tenant = tenant := by
  rw [Tenant.touch, touchRow, if_pos rfl]

/-- An event updates the row with what it sets, under the trigger. -/
theorem applyProjection_onto
    (ran : applyProjection (rowOps now) event row.tenant.status row.tenant.plan trialDurationDays
      row = .ok (settled, row')) :
    row'.tenant = row.tenant.touch now (event.onto now trialDurationDays row.tenant) := by
  have ends : ∀ {value : SubscriptionStatus × TenantPlan} row,
      RowM.Keeps (· = row) (pure value : RowM _) := fun _ => .pure _
  cases event with
  | trialReactivated =>
      obtain ⟨rows, middle, patched, rested⟩ := RowM.bind_eq_ok.mp ran
      have same : row' = middle :=
        RowM.Keeps.ite (fun _ => ends middle) (fun _ => ends middle) middle _ rfl rested
      rw [same, ConsumedEvent.onto, ConsumedEvent.patch]
      rcases touch_of_patch patched with ⟨below, touched, _⟩ | ⟨capped, rfl, _⟩
      · rw [if_pos (of_decide_eq_true below)]
        exact touched
      · rw [if_neg (of_decide_eq_false capped)]
        exact (Tenant.touch_self now _).symm
  | tenantReactivated =>
      rw [applyProjection] at ran
      rw [ConsumedEvent.onto, ConsumedEvent.patch]
      split at ran
      case isTrue ended =>
        cases RowM.pure_eq_ok.mp ran
        rw [if_pos ended]
        exact (Tenant.touch_self now _).symm
      case isFalse going =>
        rw [if_neg going]
        obtain ⟨rows, middle, patched, rested⟩ := RowM.bind_eq_ok.mp ran
        rcases touch_of_patch patched with ⟨paid, touched, rfl⟩ | ⟨unpaid, rfl, rfl⟩
        · rw [if_pos Nat.zero_lt_one] at rested
          cases RowM.pure_eq_ok.mp rested
          rw [if_pos (show row.tenant.subscriptionStartedAt.isSome = true from paid)]
          exact touched
        · rw [if_neg (Nat.lt_irrefl 0)] at rested
          have unpaid : middle.tenant.subscriptionStartedAt.isSome = false := unpaid
          rw [unpaid]
          exact touch_of_one_patch rested (fun _ => ends)
            (by simpa [LifecyclePatch.selects] using unpaid)
  | tenantRealmReady | tenantConverted | directPaidSignup | trialExpired | tenantOffboarded |
    tenantPlanChanged | tenantPaymentPastDue | tenantSubscriptionCancelled | tenantSeatsChanged =>
      exact touch_of_one_patch ran (fun _ => ends) rfl
  | tenantSuspended source =>
      exact touch_of_one_patch ran (fun _ => ends) (by cases source <;> rfl)

variable {env : Envelope} {tenant : Tenant} {projected : ProjectedRow}

/-- Past the recency guard the row has what the event sets, and the event's time. -/
theorem projectRow_onto (recent : tenant.projectionLock.stale env.timestamp = false)
    (ran : projectRow now trialDurationDays env tenant = .ok projected) :
    ∃ middle : Tenant, middle = tenant.touch now (env.event.onto now trialDurationDays tenant) ∧
      projected.tenant = middle.touch now (middle.markEvent env.timestamp) ∧
      projected.tenant.Valid := by
  obtain ⟨_, middle, applied, marked⟩ := projectRow_of_recent recent ran
  obtain ⟨stamped, valid⟩ := Tenant.update_eq_ok.mp marked
  have start : (⟨tenant, [], false⟩ : ProjectedRow).tenant = tenant := rfl
  rw [← start] at applied
  exact ⟨middle.tenant, applyProjection_onto applied, stamped, valid⟩

/-- Past the recency guard an event leaves its own time, as it is stored. -/
theorem lastEventAt_of_recent (recent : tenant.projectionLock.stale env.timestamp = false)
    (ran : projectRow now trialDurationDays env tenant = .ok projected) :
    projected.tenant.lastEventAt = some (pgTime env.timestamp) := by
  obtain ⟨middle, _, stamped, _⟩ := projectRow_onto recent ran
  rw [stamped, Tenant.touch_proj Tenant.lastEventAt fun _ _ _ => rfl]
  rfl

/-- Only offboarding soft-deletes a row. -/
theorem deletedAt_onto (goesOn : event ≠ .tenantOffboarded) :
    (event.onto now trialDurationDays tenant).deletedAt = tenant.deletedAt := by
  rw [ConsumedEvent.onto]
  cases patched : event.patch trialDurationDays tenant with
  | none => rfl
  | some patch =>
      cases patch with
      | offboard =>
          cases event <;> simp_all [ConsumedEvent.patch] <;> grind
      | setRealm | activatePaid | setStatusClearSuspension | trialReactivate | suspendBillingLapse |
        suspendOperator | setPlan | cancel | reactivatePaid | reactivateTrial | setLicensedSeats =>
          rfl

theorem deletedAt_of_projectRow (goesOn : env.event ≠ .tenantOffboarded)
    (recent : tenant.projectionLock.stale env.timestamp = false)
    (ran : projectRow now trialDurationDays env tenant = .ok projected) :
    projected.tenant.deletedAt = tenant.deletedAt := by
  obtain ⟨middle, rfl, stamped, _⟩ := projectRow_onto recent ran
  rw [stamped, Tenant.touch_proj Tenant.deletedAt fun _ _ _ => rfl, Tenant.markEvent,
    Tenant.touch_proj Tenant.deletedAt fun _ _ _ => rfl, deletedAt_onto goesOn]

end Onto

/-! ## Columns -/

/-- What projections read and write of a row, besides the mark. -/
inductive Column
  | status
  | plan
  | licensedSeats
  | realmID
  | realmType
  | keycloakShard
  | suspensionSource
  | trialReactivationCount
  | subscriptionStarted
  deriving DecidableEq

/-- The rows have the same value in the column; of `subscription_started_at` only whether it is
set. -/
def Tenant.Agrees (first second : Tenant) : Column → Prop
  | .status => first.status = second.status
  | .plan => first.plan = second.plan
  | .licensedSeats => first.licensedSeats = second.licensedSeats
  | .realmID => first.realmID = second.realmID
  | .realmType => first.realmType = second.realmType
  | .keycloakShard => first.keycloakShard = second.keycloakShard
  | .suspensionSource => first.suspensionSource = second.suspensionSource
  | .trialReactivationCount => first.trialReactivationCount = second.trialReactivationCount
  | .subscriptionStarted =>
      first.subscriptionStartedAt.isSome = second.subscriptionStartedAt.isSome

/-- The columns that an event may write. -/
def ConsumedEvent.writes : ConsumedEvent → List Column
  | .tenantRealmReady _ _ => [.realmID, .realmType, .keycloakShard]
  | .tenantConverted plan | .directPaidSignup plan =>
      [.status, .suspensionSource, .subscriptionStarted] ++ if plan.isSome then [.plan] else []
  | .trialExpired | .tenantPaymentPastDue | .tenantSuspended _ | .tenantSubscriptionCancelled
  | .tenantReactivated | .tenantOffboarded => [.status, .suspensionSource]
  | .trialReactivated => [.status, .suspensionSource, .trialReactivationCount]
  | .tenantPlanChanged plan => if plan.isSome then [.plan] else []
  | .tenantSeatsChanged _ => [.licensedSeats]

/-- The columns on which it depends what a column is after an event: none if the event sets the
column, itself if the event leaves it alone. -/
def ConsumedEvent.reads (event : ConsumedEvent) (column : Column) : List Column :=
  if column ∈ event.writes then
    match event with
    | .trialReactivated => [column, .trialReactivationCount]
    | .tenantReactivated => if column = .status then [.subscriptionStarted] else []
    | _ => []
  else
    [column]

section Columns

variable {now now' days days' : Int} {event : ConsumedEvent} {column : Column}
  {tenant first second third : Tenant}

theorem Tenant.Agrees.refl (tenant : Tenant) (column : Column) : tenant.Agrees tenant column := by
  cases column <;> rfl

theorem Tenant.Agrees.symm (agrees : first.Agrees second column) :
    second.Agrees first column := by
  cases column <;> exact Eq.symm agrees

theorem Tenant.Agrees.trans (agrees : first.Agrees second column)
    (agrees' : second.Agrees third column) : first.Agrees third column := by
  cases column <;> exact Eq.trans agrees agrees'

theorem touch_agrees (now : Int) (old new : Tenant) (column : Column) :
    (old.touch now new).Agrees new column := by
  rw [Tenant.touch, touchRow]
  split
  case isTrue same => exact same ▸ .refl _ _
  case isFalse => cases column <;> rfl

theorem markEvent_agrees (timestamp : Int) (tenant : Tenant) (column : Column) :
    (tenant.markEvent timestamp).Agrees tenant column := by
  cases column <;> rfl

/-- An event leaves alone what it does not write. -/
theorem onto_agrees (off : column ∉ event.writes) :
    (event.onto now days tenant).Agrees tenant column := by
  cases event with
  | trialReactivated =>
      rw [ConsumedEvent.onto, ConsumedEvent.patch]
      split <;> cases column <;> simp_all [ConsumedEvent.writes, Tenant.Agrees, LifecyclePatch.set]
  | tenantReactivated =>
      rw [ConsumedEvent.onto, ConsumedEvent.patch]
      split
      · exact .refl _ _
      · split <;> cases column <;>
          simp_all [ConsumedEvent.writes, Tenant.Agrees, LifecyclePatch.set]
  | tenantSuspended source =>
      cases source <;> cases column <;> first | rfl | simp [ConsumedEvent.writes] at off
  | tenantConverted plan | directPaidSignup plan | tenantPlanChanged plan =>
      cases plan <;> cases column <;> first | rfl | simp [ConsumedEvent.writes] at off
  | tenantRealmReady | trialExpired | tenantOffboarded | tenantPaymentPastDue |
    tenantSubscriptionCancelled | tenantSeatsChanged =>
      cases column <;> first | rfl | simp [ConsumedEvent.writes] at off

/-- What a column is after an event is decided by the columns that the event reads for it. -/
theorem onto_agrees_onto (going : first.status ≠ .offboarded) (going' : second.status ≠ .offboarded)
    (agrees : ∀ other ∈ event.reads column, first.Agrees second other) :
    (event.onto now days first).Agrees (event.onto now' days' second) column := by
  unfold ConsumedEvent.reads at agrees
  by_cases written : column ∈ event.writes
  · rw [if_pos written] at agrees
    cases event with
    | trialReactivated =>
        have count := agrees .trialReactivationCount (by simp)
        have same := agrees column (by simp)
        simp only [Tenant.Agrees] at count
        rw [ConsumedEvent.onto, ConsumedEvent.onto, ConsumedEvent.patch, ConsumedEvent.patch, count]
        split
        · cases column <;> simp_all [ConsumedEvent.writes, Tenant.Agrees, LifecyclePatch.set]
        · exact same
    | tenantReactivated =>
        rw [ConsumedEvent.onto, ConsumedEvent.onto, ConsumedEvent.patch, ConsumedEvent.patch,
          if_neg going, if_neg going']
        cases column with
        | status =>
            have started := agrees .subscriptionStarted (by simp)
            simp only [Tenant.Agrees] at started
            rw [started]
            split <;> rfl
        | suspensionSource => split <;> split <;> rfl
        | plan | licensedSeats | realmID | realmType | keycloakShard | trialReactivationCount |
          subscriptionStarted => simp [ConsumedEvent.writes] at written
    | tenantSuspended source =>
        cases source <;> cases column <;> first | rfl | simp [ConsumedEvent.writes] at written
    | tenantConverted plan | directPaidSignup plan | tenantPlanChanged plan =>
        cases plan <;> cases column <;> first | rfl | simp [ConsumedEvent.writes] at written
    | tenantRealmReady | trialExpired | tenantOffboarded | tenantPaymentPastDue |
      tenantSubscriptionCancelled | tenantSeatsChanged =>
        cases column <;> first | rfl | simp [ConsumedEvent.writes] at written
  · rw [if_neg written] at agrees
    exact (onto_agrees written).trans
      ((agrees column List.mem_cons_self).trans (onto_agrees written).symm)

end Columns

/-! ## Deliveries -/

section Deliveries

variable {delivery : Delivery} {deliveries : List Delivery} {tenant tenant' final : Tenant}
  {newest : Envelope} {column : Column} {mark : Int}

theorem admits_iff {env : Envelope} : tenant.admits env = true ↔
    tenant.deletedAt.isSome = false ∧ tenant.projectionLock.stale env.timestamp = false := by
  rw [Tenant.admits, Bool.and_eq_true, Bool.not_eq_true', ← Option.not_isSome, Bool.not_eq_true']

theorem status_of_admits (valid : tenant.Valid) (admits : tenant.admits newest = true) :
    tenant.status ≠ .offboarded := by
  intro ended
  rw [admits_iff, tenant.deleted_of_offboarded valid ended] at admits
  cases admits.1

/-- A column of the row after a projection is what the event makes of it. -/
theorem agrees_onto {env : Envelope} {now days : Int} {projected : ProjectedRow}
    (recent : tenant.projectionLock.stale env.timestamp = false)
    (ran : projectRow now days env tenant = .ok projected) (column : Column) :
    projected.tenant.Agrees (env.event.onto now days tenant) column := by
  obtain ⟨middle, rfl, stamped, _⟩ := projectRow_onto recent ran
  rw [stamped]
  exact (touch_agrees _ _ _ _).trans ((markEvent_agrees _ _ _).trans (touch_agrees _ _ _ _))

/-- A delivery leaves alone what its event does not write. -/
theorem deliver_agrees (ran : deliver delivery tenant = .ok tenant')
    (off : column ∉ delivery.env.event.writes) : tenant'.Agrees tenant column := by
  obtain ⟨_, rfl⟩ | ⟨admits, projected, projects, rfl⟩ := deliver_eq_ok ran
  · exact .refl _ _
  · exact (agrees_onto (admits_iff.mp admits).2 projects column).trans (onto_agrees off)

theorem deliverAll_agrees (ran : deliverAll deliveries tenant = .ok final)
    (off : ∀ delivery ∈ deliveries, column ∉ delivery.env.event.writes) :
    final.Agrees tenant column := by
  induction deliveries generalizing tenant with
  | nil =>
      cases ran
      exact .refl _ _
  | cons delivery deliveries ih =>
      obtain ⟨tenant', delivered, rest⟩ := deliverAll_cons_eq_ok.mp ran
      exact (ih rest fun other mem => off other (List.mem_cons_of_mem _ mem)).trans
        (deliver_agrees delivered (off delivery List.mem_cons_self))

theorem lt_pgTime {time : Int} (older : pgTime time < pgTime mark) : time < pgTime mark := by
  unfold pgTime at *
  omega

/-- What admits the newest event still does so after an older one. -/
theorem deliver_older (valid : tenant.Valid) (admits : tenant.admits newest = true)
    (older : pgTime delivery.env.timestamp < pgTime newest.timestamp)
    (goesOn : delivery.env.event ≠ .tenantOffboarded)
    (ran : deliver delivery tenant = .ok tenant') :
    tenant'.Valid ∧ tenant'.admits newest = true := by
  obtain ⟨_, rfl⟩ | ⟨admitted, projected, projects, rfl⟩ := deliver_eq_ok ran
  · exact ⟨valid, admits⟩
  · have recent := (admits_iff.mp admitted).2
    obtain ⟨_, _, _, validAfter⟩ := projectRow_onto recent projects
    have kept := deletedAt_of_projectRow goesOn recent projects
    refine ⟨validAfter, admits_iff.mpr ⟨kept ▸ (admits_iff.mp admits).1, ?_⟩⟩
    rw [TenantProjectionLock.stale, Tenant.projectionLock, lastEventAt_of_recent recent projects]
    have before : pgTime delivery.env.timestamp < newest.timestamp := by
      unfold pgTime at *
      omega
    exact decide_eq_false (Int.not_le.mpr before)

theorem deliverAll_older (valid : tenant.Valid) (admits : tenant.admits newest = true)
    (older : ∀ delivery ∈ deliveries, pgTime delivery.env.timestamp < pgTime newest.timestamp)
    (goesOn : ∀ delivery ∈ deliveries, delivery.env.event ≠ .tenantOffboarded)
    (ran : deliverAll deliveries tenant = .ok final) :
    final.Valid ∧ final.admits newest = true := by
  induction deliveries generalizing tenant with
  | nil =>
      cases ran
      exact ⟨valid, admits⟩
  | cons delivery deliveries ih =>
      obtain ⟨tenant', delivered, rest⟩ := deliverAll_cons_eq_ok.mp ran
      obtain ⟨validNext, admitsNext⟩ := deliver_older valid admits
        (older delivery List.mem_cons_self) (goesOn delivery List.mem_cons_self) delivered
      exact ih validNext admitsNext (fun other mem => older other (List.mem_cons_of_mem _ mem))
        (fun other mem => goesOn other (List.mem_cons_of_mem _ mem)) rest

/-- A row that admits none of the events stays as it is. -/
theorem deliverAll_unadmitted
    (none : ∀ delivery ∈ deliveries, tenant.admits delivery.env = false)
    (ran : deliverAll deliveries tenant = .ok final) : final = tenant := by
  induction deliveries with
  | nil =>
      cases ran
      rfl
  | cons delivery deliveries ih =>
      obtain ⟨tenant', delivered, rest⟩ := deliverAll_cons_eq_ok.mp ran
      obtain ⟨_, rfl⟩ | ⟨admits, _⟩ := deliver_eq_ok delivered
      · exact ih (fun other mem => none other (List.mem_cons_of_mem _ mem)) rest
      · rw [none delivery List.mem_cons_self] at admits
        cases admits

/-- A row that does not admit an event admits none that is older. -/
theorem unadmitted_of_le {env : Envelope} (older : env.timestamp ≤ newest.timestamp)
    (unadmitted : tenant.admits newest = false) : tenant.admits env = false := by
  rw [← Bool.not_eq_true, admits_iff] at unadmitted ⊢
  refine fun ⟨live, recent⟩ => unadmitted ⟨live, ?_⟩
  rw [TenantProjectionLock.stale] at recent ⊢
  split at recent
  · rfl
  · exact decide_eq_false fun stale => of_decide_eq_false recent (Int.le_trans older stale)

/-- The database keeps the newest event apart from all others. -/
theorem older_of_nodup {before after : List Delivery} {last : Delivery}
    (distinct : ((before ++ last :: after).map fun delivery =>
      pgTime delivery.env.timestamp).Nodup)
    (isNewest : ∀ delivery ∈ before ++ last :: after,
      delivery.env.timestamp ≤ last.env.timestamp) :
    ∀ delivery ∈ before ++ after,
      pgTime delivery.env.timestamp < pgTime last.env.timestamp := by
  intro delivery other
  have le := isNewest delivery ((List.mem_append.mp other).elim (List.mem_append_left _)
    fun mem => List.mem_append_right _ (List.mem_cons_of_mem _ mem))
  rw [List.map_append, List.map_cons, List.nodup_middle, List.nodup_cons,
    ← List.map_append] at distinct
  have ne : pgTime delivery.env.timestamp ≠ pgTime last.env.timestamp :=
    fun same => distinct.1 (List.mem_map.mpr ⟨delivery, other, same⟩)
  unfold pgTime at *
  omega

/-- The newest event is the last that is applied, if any is. -/
theorem deliverAll_newest (valid : tenant.Valid)
    (distinct : (deliveries.map fun delivery => pgTime delivery.env.timestamp).Nodup)
    (listed : newest ∈ deliveries.map Delivery.env)
    (isNewest : ∀ delivery ∈ deliveries, delivery.env.timestamp ≤ newest.timestamp)
    (lasts : ∀ delivery ∈ deliveries, delivery.env.event = .tenantOffboarded →
      delivery.env = newest)
    (ran : deliverAll deliveries tenant = .ok final) :
    tenant.admits newest = false ∧ final = tenant ∨
      tenant.admits newest = true ∧ ∃ now days middle projected,
        middle.status ≠ .offboarded ∧ middle.projectionLock.stale newest.timestamp = false ∧
        projectRow now days newest middle = .ok projected ∧ final = projected.tenant ∧
        ∀ column, (∀ delivery ∈ deliveries, delivery.env ≠ newest →
          column ∉ delivery.env.event.writes) → middle.Agrees tenant column := by
  cases admits : tenant.admits newest with
  | false =>
      exact .inl ⟨rfl, deliverAll_unadmitted (fun delivery mem =>
        unadmitted_of_le (isNewest delivery mem) admits) ran⟩
  | true =>
      refine .inr ⟨rfl, ?_⟩
      obtain ⟨last, mem, rfl⟩ := List.mem_map.mp listed
      obtain ⟨before, after, rfl⟩ := List.append_of_mem mem
      have older := older_of_nodup distinct isNewest
      obtain ⟨middle, ranBefore, ranAfter⟩ := deliverAll_append_eq_ok.mp ran
      obtain ⟨next, delivered, rest⟩ := deliverAll_cons_eq_ok.mp ranAfter
      have apart : ∀ delivery ∈ before, delivery.env ≠ last.env := fun delivery mem same =>
        Int.lt_irrefl _ (same ▸ older delivery (List.mem_append_left _ mem))
      have goesOn : ∀ delivery ∈ before, delivery.env.event ≠ .tenantOffboarded :=
        fun delivery mem ends =>
          apart delivery mem (lasts delivery (List.mem_append_left _ mem) ends)
      obtain ⟨validMiddle, admitsMiddle⟩ := deliverAll_older valid admits
        (fun delivery mem => older delivery (List.mem_append_left _ mem)) goesOn ranBefore
      have recent := (admits_iff.mp admitsMiddle).2
      obtain ⟨skips, _⟩ | ⟨_, projected, projects, rfl⟩ := deliver_eq_ok delivered
      · rw [admitsMiddle] at skips
        cases skips
      · refine ⟨_, _, middle, projected, status_of_admits validMiddle admitsMiddle, recent,
          projects, deliverAll_unadmitted (fun delivery mem => ?_) rest, fun column off => ?_⟩
        · -- the mark of the newest event stops what comes after it
          rw [← Bool.not_eq_true, admits_iff, TenantProjectionLock.stale, Tenant.projectionLock,
            lastEventAt_of_recent recent projects]
          exact fun admitted => of_decide_eq_false admitted.2
            (Int.le_of_lt (lt_pgTime (older delivery (List.mem_append_right _ mem))))
        · exact deliverAll_agrees ranBefore fun delivery mem =>
            off delivery (List.mem_append_left _ mem) (apart delivery mem)

end Deliveries

/-- Two delivery orders of one set of events leave a column with the same value, if no older
event writes what the newest event's outcome in that column depends on.  So what the newest
event sets is the same after every order, and so is what no event writes.  An older offboarding
would make the row drop the newest event. -/
theorem deliverAll_newest_decides (tenant final final' : Tenant) (first second : List Delivery)
    (newest : Envelope) (column : Column) (valid : tenant.Valid)
    (sameSet : (first.map Delivery.env).Perm (second.map Delivery.env))
    (distinct : (first.map fun delivery => pgTime delivery.env.timestamp).Nodup)
    (listed : newest ∈ first.map Delivery.env)
    (isNewest : ∀ delivery ∈ first, delivery.env.timestamp ≤ newest.timestamp)
    (ran : deliverAll first tenant = .ok final) (ran' : deliverAll second tenant = .ok final')
    (lasts : column ∈ newest.event.writes → ∀ delivery ∈ first,
      delivery.env.event = .tenantOffboarded → delivery.env = newest)
    (settles : ∀ delivery ∈ first, delivery.env ≠ newest →
      ∀ other ∈ newest.event.reads column, other ∉ delivery.env.event.writes) :
    final.Agrees final' column := by
  have listed' : newest ∈ second.map Delivery.env := sameSet.mem_iff.mp listed
  have both : ∀ claim : Envelope → Prop, (∀ delivery ∈ first, claim delivery.env) →
      ∀ delivery ∈ second, claim delivery.env := by
    intro claim holds delivery mem
    obtain ⟨other, memOther, same⟩ := List.mem_map.mp
      (sameSet.mem_iff.mpr (List.mem_map_of_mem mem))
    exact same ▸ holds other memOther
  by_cases written : column ∈ newest.event.writes
  · have distinct' : (second.map fun delivery => pgTime delivery.env.timestamp).Nodup := by
      have stamps := (sameSet.map fun env => pgTime env.timestamp).nodup_iff
      simpa [List.map_map, Function.comp_def, distinct] using stamps
    have lasts := lasts written
    rcases deliverAll_newest valid distinct listed isNewest lasts ran with
        ⟨admits, rfl⟩ |
          ⟨admits, now, days, middle, projected, going, recent, projects, rfl, kept⟩ <;>
      rcases deliverAll_newest valid distinct' listed'
          (both (fun env => env.timestamp ≤ newest.timestamp) isNewest)
          (both (fun env => env.event = .tenantOffboarded → env = newest) lasts) ran' with
        ⟨admits', rfl⟩ |
          ⟨admits', now', days', middle', projected', going', recent', projects', rfl, kept'⟩
    · exact .refl _ _
    · rw [admits] at admits'
      cases admits'
    · rw [admits] at admits'
      cases admits'
    · refine (agrees_onto recent projects column).trans
        (.trans ?_ (agrees_onto recent' projects' column).symm)
      refine onto_agrees_onto going going' fun other read =>
        (kept other ?_).trans (kept' other ?_).symm
      · exact fun delivery mem apart => settles delivery mem apart other read
      · exact both (fun env => env ≠ newest → other ∉ env.event.writes)
          fun delivery mem apart => settles delivery mem apart other read
  · -- nobody writes the column
    have off : ∀ delivery ∈ first, column ∉ delivery.env.event.writes := by
      intro delivery mem
      by_cases same : delivery.env = newest
      · rw [same]
        exact written
      · refine settles delivery mem same column ?_
        unfold ConsumedEvent.reads
        rw [if_neg written]
        exact List.mem_cons_self
    exact (deliverAll_agrees ran off).trans
      (deliverAll_agrees ran' (both (fun env => column ∉ env.event.writes) off)).symm

/-- A paying tenant. -/
def paidRow : Tenant :=
  { trialRow with status := .active, subscriptionStartedAt := some 0 }

/-- The plan is changed at one millisecond. -/
def planChange : Delivery :=
  ⟨0, 0, ⟨11, 1, 1000000, .tenantPlanChanged (some .pro)⟩⟩

/-- The seats are changed at two milliseconds. -/
def seatChange : Delivery :=
  ⟨0, 0, ⟨12, 1, 2000000, .tenantSeatsChanged 5⟩⟩

/-- The plan is changed again at three milliseconds. -/
def laterPlanChange : Delivery :=
  ⟨0, 0, ⟨13, 1, 3000000, .tenantPlanChanged (some .enterprise)⟩⟩

/-- The operator suspends the tenant at three milliseconds. -/
def operatorSuspension : Delivery :=
  ⟨0, 0, ⟨14, 1, 3000000, .tenantSuspended .operator⟩⟩

/-- The newest plan wins in both orders, and the seats depend on the order. -/
theorem newest_plan_decides :
    ∃ final final',
      deliverAll [planChange, seatChange, laterPlanChange] paidRow = .ok final ∧
      deliverAll [laterPlanChange, planChange, seatChange] paidRow = .ok final' ∧
      final.Agrees final' .plan ∧ final.plan = .enterprise ∧
      final.licensedSeats ≠ final'.licensedSeats :=
  ⟨_, _, rfl, rfl, deliverAll_newest_decides paidRow _ _ [planChange, seatChange, laterPlanChange]
    [laterPlanChange, planChange, seatChange] laterPlanChange.env .plan (by decide) (by decide)
    (by decide) (by decide) (by decide) rfl rfl (by decide) (by decide), rfl, by decide⟩

/-- The delivery order decides: a plan change that arrives after a newer suspension is skipped, of
two plan changes in one microsecond both are applied in any order, and an offboarded row drops a
newer event. -/
theorem deliverAll_depends_on_order :
    ((deliverAll [planChange, operatorSuspension] paidRow).map Tenant.plan = .ok .pro ∧
      (deliverAll [operatorSuspension, planChange] paidRow).map Tenant.plan = .ok .starter) ∧
    ((deliverAll [⟨0, 0, ⟨15, 1, 1200, .tenantPlanChanged (some .pro)⟩⟩,
        ⟨0, 0, ⟨16, 1, 1500, .tenantPlanChanged (some .starter)⟩⟩] paidRow).map Tenant.plan =
          .ok .starter ∧
      (deliverAll [⟨0, 0, ⟨16, 1, 1500, .tenantPlanChanged (some .starter)⟩⟩,
        ⟨0, 0, ⟨15, 1, 1200, .tenantPlanChanged (some .pro)⟩⟩] paidRow).map Tenant.plan =
          .ok .pro) ∧
    (deliverAll [⟨0, 0, ⟨17, 1, 500000, .tenantOffboarded⟩⟩, planChange] paidRow).map Tenant.plan =
        .ok .starter ∧
      (deliverAll [planChange, ⟨0, 0, ⟨17, 1, 500000, .tenantOffboarded⟩⟩] paidRow).map
        Tenant.plan = .ok .pro :=
  ⟨⟨rfl, rfl⟩, ⟨rfl, rfl⟩, rfl, rfl⟩

end OrgMembership

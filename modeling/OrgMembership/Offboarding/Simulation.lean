import OrgMembership.Lifecycle.Relay
import OrgMembership.Offboarding.Wipe

/-!
# Projections in the database

Under the lock of its row, a transaction that projects an event does to the tenants row
and the outbox, statement by statement, what `projectRow` does to a single row.  So what
holds of the projection of a row holds of every commit of such a transaction.
-/

namespace OrgMembership

open Concurrency Relational

/-- The first statement of `WipeTenantChildren`. -/
def Query.wipes : Query → Bool
  | .invitation (.scanTenant _) => true
  | _ => false

/-- The session has locked the tenant, committed as `base`, and has made of it what the
projection of a single row has made. -/
structure Projected (tenantID : Uuid) (now : Int) (base : Tenant) (row : ProjectedRow)
    (server : DbServer) (session : DbSession) : Prop where
  inside : session.inTx = true
  started : pgTime session.startedAt = now
  locked : TenantLocked tenantID session
  committed : base ∈ server.db.tenants
  baseID : base.id = tenantID
  seen : row.tenant ∈ (dialect.view server session).tenants
  seenID : row.tenant.id = tenantID
  published : session.writes.filterMap Write.published = row.published
  wiped : session.hasSent Query.wipes = row.wiped

section Statements

variable {tenantID : Uuid} {now : Int} {base : Tenant} {row : ProjectedRow} {server : DbServer}
  {session : DbSession}

/-- The row of a tenant is the one that was projected onto. -/
theorem Projected.eq_of_id (projected : Projected tenantID now base row server session)
    {tenant : Tenant} (mem : tenant ∈ (dialect.view server session).tenants)
    (same : tenant.id = tenantID) : tenant = row.tenant :=
  Table.eq_of_key_eq mem projected.seen (same.trans projected.seenID.symm)

/-- Nobody else changes the row while it is locked. -/
theorem Projected.of_committed {actor : DbSession} (guarded : Disciplined server actor)
    (compatible : Compatible actor.locks session.locks)
    (projected : Projected tenantID now base row server session) :
    Projected tenantID now base row (dialect.committed server actor) session := by
  have kept : ∀ tenant : Tenant, tenant.id = tenantID →
      (tenant ∈ (dialect.committed server actor).db.tenants ↔ tenant ∈ server.db.tenants) := by
    intro tenant same
    apply tenantLawful.mem_committed_iff guarded.tenantsGuarded compatible
    rw [show tenantAccess.key tenant = tenantID from same]
    exact .inr projected.locked
  exact { projected with
    committed := (kept base projected.baseID).mpr projected.committed
    seen := tenantLawful.mem_view_of_mem (kept row.tenant projected.seenID).mpr projected.seen }

variable {query : Query} {result : query.Result} {locks : List (Lock LockKey)}
  {writes : List Write} {context : Context}

/-- What a statement makes of the row. -/
theorem Projected.extended (projected : Projected tenantID now base row server session)
    {row' : ProjectedRow}
    (seen : row'.tenant ∈ (dialect.view server session).tenants.applyAll
      (writes.filterMap Write.tenantChange))
    (same : row'.tenant.id = tenantID)
    (published : row'.published = row.published ++ writes.filterMap Write.published)
    (wiped : row'.wiped = (query.wipes || row.wiped)) :
    Projected tenantID now base row' server (session.extended query result locks writes) where
  inside := projected.inside
  started := projected.started
  locked := List.mem_append_left _ projected.locked
  committed := projected.committed
  baseID := projected.baseID
  seen := by
    change row'.tenant ∈ tenantAccess.table (dialect.view server _)
    rw [tenantLawful.table_extended]
    exact seen
  seenID := same
  published := by
    rw [Session.extended, List.filterMap_append, projected.published, published]
  wiped := by
    rw [Session.hasSent_extended, projected.inside, Bool.true_and, projected.wiped, wiped]

/-- A statement that writes neither tenants nor events. -/
theorem Projected.quiet (projected : Projected tenantID now base row server session)
    (yields : (query.effect context (dialect.view server session)).Yields result writes)
    (off : .tenants ∉ query.writesTo) (silent : .outbox ∉ query.writesTo) :
    Projected tenantID now base { row with wiped := query.wipes || row.wiped } server
      (session.extended query result locks writes) := by
  have unchanged : writes.filterMap Write.tenantChange = [] :=
    Query.filterMap_eq_nil yields off
      fun write other => by cases write <;> first | rfl | exact absurd rfl other
  have unpublished : writes.filterMap Write.published = [] :=
    Query.filterMap_eq_nil yields silent
      fun write other => by cases write <;> first | rfl | exact absurd rfl other
  refine projected.extended ?_ projected.seenID ?_ rfl
  · rw [unchanged]
    exact projected.seen
  · rw [unpublished, List.append_nil]

/-- An update of the row that selects or misses it. -/
theorem Projected.updated (projected : Projected tenantID now base row server session)
    {tenant : Tenant} (same : tenant.id = tenantID) (unwiping : query.wipes = false) :
    Projected tenantID now base { row with tenant } server
      (session.extended query result locks [.tenant (.put tenant)]) :=
  projected.extended (Table.mem_put.mpr (.inl rfl)) same (List.append_nil _).symm
    (by rw [unwiping, Bool.false_or])

theorem Projected.missed (projected : Projected tenantID now base row server session)
    (unwiping : query.wipes = false) :
    Projected tenantID now base row server (session.extended query result locks []) :=
  projected.extended projected.seen projected.seenID (List.append_nil _).symm
    (by rw [unwiping, Bool.false_or])

/-- The same with a fact of the session. -/
abbrev Held (tenantID : Uuid) (now : Int) (base : Tenant) (row : ProjectedRow)
    (own : DbSession → Prop) : Assertion DbServer DbSession :=
  fun server session => Projected tenantID now base row server session ∧ own session

/-- The session has not written to the child tables unless it has wiped them, and then it sees
no row of the tenant there. -/
abbrev Carried (tenantID : Uuid) (now : Int) (base : Tenant) (row : ProjectedRow) :
    Assertion DbServer DbSession :=
  During
    (Held tenantID now base row fun session => row.wiped = false →
      ∀ write ∈ session.writes, write.table ∉ gdprWipeTables)
    fun db => row.wiped = true → Childless tenantID db

theorem shrinking_childless {wiped : Bool} :
    Shrinking fun db => wiped = true → Childless tenantID db :=
  fun _ _ shrinks childless wipes => (childless wipes).shrunk shrinks

/-- A statement that writes to none of the child tables. -/
theorem During.aside (carried : Carried tenantID now base row server session)
    (yields : (query.effect context (dialect.view server session)).Yields result writes)
    (off : ∀ table ∈ gdprWipeTables, table ∉ query.writesTo) {row' : ProjectedRow}
    (same : row'.wiped = row.wiped)
    (projected : Projected tenantID now base row' server
      (session.extended query result locks writes)) :
    Carried tenantID now base row' server (session.extended query result locks writes) := by
  have aside : ∀ write ∈ writes, write.table ∉ gdprWipeTables :=
    fun write mem child => off _ child (Query.table_mem_writesTo yields mem)
  refine ⟨⟨projected, fun unwiped write mem => ?_⟩, fun write mem => ?_, fun wiped => ?_⟩
  · rcases List.mem_append.mp mem with old | new
    · exact carried.holds.2 (same ▸ unwiped) write old
    · exact aside write new
  · rcases List.mem_append.mp mem with old | new
    · exact carried.erasing write old
    · exact adds_of_aside (aside write new)
  · rw [Dialect.view_extended]
    exact (carried.kept (same ▸ wiped)).shrunk
      (shrinks_applyAll fun write mem => adds_of_aside (aside write mem))

end Statements

/-! ## Simulation -/

variable {σ α β : Type} {protocol : DbProtocol}

/-- Code that does in the database what the action does to a row. -/
def Simulates (protocol : DbProtocol)
    (holds : ProjectedRow → Assertion DbServer DbSession) (program : DbM σ α) (action : RowM α) :
    Prop :=
  ∀ row, Within protocol (holds row) program fun value server session =>
    ∃ row', action row = .ok (value, row') ∧ holds row' server session

section Rules

variable {holds : ProjectedRow → Assertion DbServer DbSession}

theorem simulates_pure (value : α) :
    Simulates protocol holds (pure value : DbM σ α) (pure value) :=
  fun row => Attempt.pure fun _ _ _ now => ⟨row, rfl, now⟩

theorem Simulates.bind {program : DbM σ α} {action : RowM α} {rest : α → DbM σ β}
    {further : α → RowM β} (first : Simulates protocol holds program action)
    (next : ∀ value, Simulates protocol holds (rest value) (further value)) :
    Simulates protocol holds (program >>= rest) (action >>= further) := by
  intro row
  refine Attempt.bind (first row) fun value => ?_
  refine Attempt.of_exists fun middle => Attempt.of_fact fun ran => ?_
  refine Attempt.relax (next value middle) ?_
  rintro answer server session _ ⟨row', ranRest, now⟩
  exact ⟨row', RowM.bind_eq_ok.mpr ⟨value, middle, ran, ranRest⟩, now⟩

theorem simulates_ite {condition : Prop} [Decidable condition] {first second : DbM σ α}
    {action other : RowM α} (holding : Simulates protocol holds first action)
    (failing : Simulates protocol holds second other) :
    Simulates protocol holds (if condition then first else second)
      (if condition then action else other) := by
  by_cases met : condition
  · rw [if_pos met, if_pos met]
    exact holding
  · rw [if_neg met, if_neg met]
    exact failing

/-- The operations of a projection in the database do what those on a row do. -/
structure SimulatesOps (protocol : DbProtocol)
    (holds : ProjectedRow → Assertion DbServer DbSession) (ops : ProjectionOps (DbM σ))
    (rows : ProjectionOps RowM) : Prop where
  applyLifecyclePatch : ∀ patch,
    Simulates protocol holds (ops.applyLifecyclePatch patch) (rows.applyLifecyclePatch patch)
  setLastEventAt : ∀ timestamp,
    Simulates protocol holds (ops.setLastEventAt timestamp) (rows.setLastEventAt timestamp)
  enqueue : ∀ event, Simulates protocol holds (ops.enqueue event) (rows.enqueue event)
  wipeTenantChildren : Simulates protocol holds ops.wipeTenantChildren rows.wipeTenantChildren

variable {ops : ProjectionOps (DbM σ)} {rows : ProjectionOps RowM}
  (simulates : SimulatesOps protocol holds ops rows)

include simulates

theorem simulates_applyProjection (event : ConsumedEvent) (prevStatus : SubscriptionStatus)
    (prevPlan : TenantPlan) (duration : Int) :
    Simulates protocol holds (applyProjection ops event prevStatus prevPlan duration)
      (applyProjection rows event prevStatus prevPlan duration) := by
  cases event with
  | trialReactivated =>
      refine (simulates.applyLifecyclePatch _).bind fun rows => ?_
      exact simulates_ite (simulates_pure _) (simulates_pure _)
  | tenantReactivated =>
      refine simulates_ite (simulates_pure _) ?_
      refine (simulates.applyLifecyclePatch _).bind fun rows => ?_
      refine simulates_ite (simulates_pure _) ?_
      exact (simulates.applyLifecyclePatch _).bind fun _ => simulates_pure _
  | tenantRealmReady | tenantConverted | directPaidSignup | trialExpired | tenantSuspended |
    tenantOffboarded | tenantPlanChanged | tenantPaymentPastDue | tenantSubscriptionCancelled |
    tenantSeatsChanged => exact (simulates.applyLifecyclePatch _).bind fun _ => simulates_pure _

theorem simulates_relay (tenantID : Uuid) (env : Envelope) (prevStatus : SubscriptionStatus)
    (prevPlan : TenantPlan) (newStatus : SubscriptionStatus) (newPlan : TenantPlan) :
    Simulates protocol holds (relay ops tenantID env prevStatus prevPlan newStatus newPlan)
      (relay rows tenantID env prevStatus prevPlan newStatus newPlan) := by
  have purges : Simulates protocol holds
      (do
        ops.wipeTenantChildren
        ops.enqueue ⟨tenantID, tenantID, .tenantMembershipsPurged tenantID systemActorID⟩
        return true)
      (do
        rows.wipeTenantChildren
        rows.enqueue ⟨tenantID, tenantID, .tenantMembershipsPurged tenantID systemActorID⟩
        return true) :=
    simulates.wipeTenantChildren.bind fun _ =>
      (simulates.enqueue _).bind fun _ => simulates_pure _
  refine simulates_ite ?_ ?_
  · exact (simulates.enqueue _).bind fun _ => simulates_ite purges (simulates_pure _)
  · exact simulates_ite purges (simulates_pure _)

theorem simulates_project (tenantID : Uuid) (env : Envelope) (locked : TenantProjectionLock)
    (duration : Int) :
    Simulates protocol holds (project ops tenantID env locked duration)
      (project rows tenantID env locked duration) := by
  refine simulates_ite (simulates_pure _) ?_
  refine (simulates_applyProjection simulates _ _ _ _).bind fun answer => ?_
  exact (simulates.setLastEventAt _).bind fun _ => simulates_relay simulates _ _ _ _ _ _

end Rules

/-! ## The operations in the database -/

section Operations

variable {tenantID : Uuid} {now : Int} {base : Tenant} (lenient : Lenient protocol)
  (stable : ∀ row own kept, Shrinking kept →
    protocol.Stable (During (Held tenantID now base row own) kept))

include lenient stable

theorem simulates_applyLifecyclePatch (patch : LifecyclePatch) :
    Simulates protocol (Carried tenantID now base)
      (TenantRepository.applyLifecyclePatch tenantID patch : DbM σ _)
      ((rowOps now).applyLifecyclePatch patch) := by
  intro row
  apply within_send lenient (stable row _ _ shrinking_childless)
  intro server session fresh rows writes _ carried _ yields
  have off : ∀ table ∈ gdprWipeTables,
      table ∉ (Query.tenant (.applyLifecyclePatch tenantID patch)).writesTo := by
    simp [gdprWipeTables]
  have evaluated := yields
  have projected := carried.holds.1
  simp only [Query.effect, TenantQuery.effect] at yields
  split at yields
  case isFalse => exact absurd yields Effect.not_yields_refuse
  case isTrue encodes =>
    obtain ⟨result, updates, rfl⟩ := Effect.yields_map.mp yields
    have time : txNow (Dialect.context server session fresh) = now := projected.started
    rw [time] at updates
    rcases Access.updateRow_cases updates with
      ⟨rfl, rfl, skipped⟩ | ⟨tenant, mem, updated, same, selected, computed, rfl, rfl, _⟩
    · refine ⟨row, rowOps_applyLifecyclePatch_eq_ok.mpr ⟨row.tenant, ?_, rfl⟩,
        carried.aside evaluated off rfl (projected.missed rfl)⟩
      have missed := skipped row.tenant projected.seen projected.seenID
      exact execLifecyclePatch_eq_ok.mpr ⟨encodes, .inr ⟨missed, rfl, rfl⟩⟩
    · cases projected.eq_of_id mem same
      have updates := updateTenant_patch_eq_ok encodes selected computed
      have executed : execLifecyclePatch now row.tenant patch = .ok (updated, 1) :=
        execLifecyclePatch_eq_ok.mpr ⟨encodes, .inl ⟨selected, updates, rfl⟩⟩
      refine ⟨{ row with tenant := updated },
        rowOps_applyLifecyclePatch_eq_ok.mpr ⟨updated, executed, rfl⟩,
        carried.aside evaluated off rfl (projected.updated ?_ rfl)⟩
      rw [(Tenant.update_eq_ok.mp updates).1, Tenant.touch_proj Tenant.id fun _ _ _ => rfl,
        LifecyclePatch.set_id]
      exact projected.seenID

theorem simulates_setLastEventAt (timestamp : Int) :
    Simulates protocol (Carried tenantID now base)
      (TenantRepository.setLastEventAt tenantID timestamp : DbM σ _)
      ((rowOps now).setLastEventAt timestamp) := by
  intro row
  apply within_send lenient (stable row _ _ shrinking_childless)
  intro server session fresh done writes _ carried _ yields
  have evaluated := yields
  have projected := carried.holds.1
  obtain ⟨result, updates, _⟩ := Effect.yields_map.mp yields
  have time : txNow (Dialect.context server session fresh) = now := projected.started
  rw [time] at updates
  rcases Access.updateRow_cases updates with
    ⟨rfl, rfl, skipped⟩ | ⟨tenant, mem, updated, same, _, computed, rfl, rfl, _⟩
  · exact absurd (skipped row.tenant projected.seen projected.seenID) (by simp)
  · cases projected.eq_of_id mem same
    have marked := updateTenant_eq_ok computed
    refine ⟨{ row with tenant := updated }, ?_, carried.aside evaluated (by simp [gdprWipeTables])
      rfl (projected.updated ?_ rfl)⟩
    · change (row.tenant.update now (Tenant.markEvent timestamp)).map _ = _
      rw [show row.tenant.update now (Tenant.markEvent timestamp) = .ok updated from marked]
      rfl
    · rw [(Tenant.update_eq_ok.mp marked).1, Tenant.touch_proj Tenant.id fun _ _ _ => rfl]
      exact projected.seenID

theorem simulates_enqueue (event : DomainEvent) :
    Simulates protocol (Carried tenantID now base) (enqueue event : DbM σ _)
      ((rowOps now).enqueue event) := by
  intro row
  apply within_send lenient (stable row _ _ shrinking_childless)
  intro server session fresh done writes _ carried _ yields
  have evaluated := yields
  have projected := carried.holds.1
  cases yields
  exact ⟨_, rfl, carried.aside evaluated (by simp [gdprWipeTables]) rfl
      (projected.extended projected.seen projected.seenID rfl rfl)⟩

theorem simulates_wipeTenantChildren :
    Simulates protocol (Carried tenantID now base)
      (TenantRepository.wipeTenantChildren tenantID : DbM σ _)
      (rowOps now).wipeTenantChildren := by
  intro row
  have wipes : Within protocol (Carried tenantID now base row)
      (TenantRepository.wipeTenantChildren tenantID : DbM σ _)
      fun _ => During (Held tenantID now base { row with wiped := true } fun _ => True)
        fun db => (row.wiped = true → Childless tenantID db) ∧ Childless tenantID db := by
    refine within_wipe
      ⟨lenient, fun kept => stable { row with wiped := true } (fun _ => True) kept, ?_⟩
      shrinking_childless (stable row _ _ shrinking_childless) ?_
    · intro query wiping server session context result locks writes holds yields
      have elsewhere : .tenants ∉ query.writesTo ∧ .outbox ∉ query.writesTo := by
        unfold Wipes at wiping
        split at wiping <;> simp_all
      rw [← Bool.or_true query.wipes]
      exact ⟨holds.1.quiet yields elsewhere.1 elsewhere.2, trivial⟩
    · intro server session context result locks writes holds yields
      exact ⟨holds.1.quiet yields (by simp) (by simp), trivial⟩
  refine Attempt.relax wipes fun _ _ _ _ during => ⟨_, rfl, ?_⟩
  exact ⟨⟨during.holds.1, nofun⟩, during.erasing, fun _ => during.kept.2⟩

theorem simulates_tenantOps :
    SimulatesOps protocol (Carried tenantID now base) (tenantOps tenantID : ProjectionOps (DbM σ))
      (rowOps now) where
  applyLifecyclePatch := simulates_applyLifecyclePatch lenient stable
  setLastEventAt := simulates_setLastEventAt lenient stable
  enqueue := simulates_enqueue lenient stable
  wipeTenantChildren := simulates_wipeTenantChildren lenient stable

omit stable in
/-- Under the lock of the live row, the consumer projects the event as `projectRow`
does. -/
theorem within_projectRow (tenant : Tenant)
    (steady : ∀ row own kept, Shrinking kept →
      protocol.Stable (During (Held tenantID now tenant row own) kept))
    (env : Envelope) (duration : Int) :
    Within protocol (Carried tenantID now tenant ⟨tenant, [], false⟩)
      (projectLocked tenantID env tenant.projectionLock duration : DbM σ _)
      fun _ server session => ∃ row, projectRow now duration env tenant = .ok row ∧
        Carried tenantID now tenant row server session := by
  have settles : ∀ settlement, Within protocol (Carried tenantID now tenant ⟨tenant, [], false⟩)
      (settle env settlement : DbM σ _)
      fun _ => Carried tenantID now tenant ⟨tenant, [], false⟩ := by
    intro settlement
    apply within_send lenient (steady _ _ _ shrinking_childless)
    intro server session fresh result writes _ carried _ yields
    exact carried.aside yields (by simp [gdprWipeTables]) rfl
      (carried.holds.1.quiet yields (by simp) (by simp))
  refine Attempt.bind (settles _) fun _ => ?_
  have ops : SimulatesOps protocol (Carried tenantID now tenant)
      (tenantOps tenantID : ProjectionOps (DbM σ)) (rowOps now) :=
    simulates_tenantOps lenient steady
  refine Attempt.relax (simulates_project ops tenantID env tenant.projectionLock duration
    ⟨tenant, [], false⟩) ?_
  rintro wiped server session _ ⟨row, ran, carried⟩
  refine ⟨row, projectRow_eq_ok.mpr ⟨wiped, ?_⟩, carried⟩
  rw [carried.holds.1.baseID]
  exact ran

end Operations

end OrgMembership

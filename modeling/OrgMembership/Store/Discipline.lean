import OrgMembership.Relational.Discipline
import OrgMembership.Store.Writes

/-!
# The lock discipline of the database

The tables of the service under the row-lock discipline: who changes a row holds
its lock, rows keep their identity from version to version, and a soft-deleted
row stays deleted.
-/

namespace OrgMembership

open Concurrency Relational

/-! ## Changes of one table -/

/-- What the write does to `tenants`. -/
def Write.tenantChange : Write → Option (Change Tenant Uuid)
  | tenant change => some change
  | _ => none

/-- What the write does to `tenant_memberships`. -/
def Write.membershipChange : Write → Option (Change TenantMembership Uuid)
  | membership change => some change
  | _ => none

/-- What the write does to `tenant_roles`. -/
def Write.roleChange : Write → Option (Change TenantRole Uuid)
  | role change => some change
  | _ => none

/-- What the write does to `dept_memberships`. -/
def Write.deptChange : Write → Option (Change DeptMembership Uuid)
  | dept change => some change
  | _ => none

/-- What the write does to `pending_invitations`. -/
def Write.invitationChange : Write → Option (Change PendingInvitation Uuid)
  | invitation change => some change
  | _ => none

/-- What the write does to `processed_events`. -/
def Write.processedChange : Write → Option (Change ProcessedEvent Uuid)
  | processed change => some change
  | _ => none

/-- What the write does to `pending_tenant_events`. -/
def Write.parkedChange : Write → Option (Change ParkedTenantEvent Uuid)
  | parked change => some change
  | _ => none

/-- The event that the write publishes. -/
def Write.published : Write → Option DomainEvent
  | publish event => some event
  | _ => none

/-- The call that the write records. -/
def Write.realmCall : Write → Option RealmCall
  | realm call => some call
  | _ => none

theorem published_eq_nil {query : Query} {context : Context} {db : Db} {result : query.Result}
    {writes : List Write} (silent : .outbox ∉ query.writesTo)
    (yields : (query.effect context db).Yields result writes) :
    writes.filterMap Write.published = [] := by
  refine Query.filterMap_eq_nil yields silent fun write away => ?_
  cases write <;> first | rfl | exact absurd rfl away

/-- A statement publishes nothing, or the event it enqueues. -/
theorem published_cases {query : Query} {context : Context} {db : Db} {result : query.Result}
    {writes : List Write} (yields : (query.effect context db).Yields result writes) :
    writes.filterMap Write.published = [] ∨
      ∃ event, query = .event (.enqueue event) ∧ writes = [.publish event] := by
  by_cases silent : .outbox ∈ query.writesTo
  · obtain ⟨event, rfl⟩ : ∃ event, query = .event (.enqueue event) := by
      cases query with
      | event query =>
          cases query <;> simp [Query.writesTo, EventQuery.writesTo] at silent
          exact ⟨_, rfl⟩
      | tenant query => cases query <;> simp [Query.writesTo, TenantQuery.writesTo] at silent
      | membership query =>
          cases query <;> simp [Query.writesTo, MembershipQuery.writesTo] at silent
      | role query => cases query <;> simp [Query.writesTo, RoleQuery.writesTo] at silent
      | dept query => cases query <;> simp [Query.writesTo, DeptQuery.writesTo] at silent
      | invitation query =>
          cases query <;> simp [Query.writesTo, InvitationQuery.writesTo] at silent
    cases yields
    exact .inr ⟨event, rfl, rfl⟩
  · exact .inl (published_eq_nil silent yields)

theorem outbox_applyAll (writes : List Write) (db : Db) :
    (dialect.applyAll writes db).outbox = db.outbox ++ writes.filterMap Write.published :=
  dialect.log_applyAll Db.outbox Write.published (fun write _ => by cases write <;> simp [dialect,
    Dialect.ofEffects, Write.apply, Write.published]) writes db

theorem realm_applyAll (writes : List Write) (db : Db) :
    (dialect.applyAll writes db).realm = db.realm ++ writes.filterMap Write.realmCall :=
  dialect.log_applyAll Db.realm Write.realmCall (fun write _ => by cases write <;> simp [dialect,
    Dialect.ofEffects, Write.apply, Write.realmCall]) writes db

/-- A session without requests leaves the realm log alone. -/
theorem realm_committed_of_quiet {server : DbServer} {session : DbSession}
    (quiet : ∀ call, .realm call ∉ session.writes) :
    (dialect.committed server session).db.realm = server.db.realm := by
  change (dialect.applyAll session.writes server.db).realm = _
  rw [realm_applyAll, List.append_right_eq_self, List.filterMap_eq_nil_iff]
  intro write mem
  cases write with
  | realm call => exact absurd mem (quiet call)
  | _ => rfl

/-! ## Row locks of the writers -/

section Guards

variable {context : Context} {db : Db} {query : Query} {result : query.Result}
  {writes : List Write}

/-- A hard delete locks every row it deletes. -/
theorem hardDeleteTenant_kept {id : Uuid} {done : Unit} {write : Write}
    (yields : (hardDeleteTenant db id).Yields done writes) (mem : write ∈ writes) :
    ⟨.tenant id, .update⟩ ∈ (hardDeleteTenant db id).kept ∧
      (∀ row ∈ db.memberships, row.tenantID = id →
        ⟨.membership row.id, .update⟩ ∈ (hardDeleteTenant db id).kept) ∧
      (∀ row ∈ db.roles, row.tenantID = id →
        ⟨.role row.id, .update⟩ ∈ (hardDeleteTenant db id).kept) ∧
      (∀ row ∈ db.depts, row.tenantID = id →
        ⟨.dept row.id, .update⟩ ∈ (hardDeleteTenant db id).kept) ∧
      (∀ row ∈ db.invitations, row.tenantID = id →
        ⟨.invitation row.id, .update⟩ ∈ (hardDeleteTenant db id).kept) := by
  have locked : ∀ {Row Id : Type} (access : Access Db Write LockKey Row Id)
      (tenantOf : Row → Uuid) (row : Row), row ∈ access.table db → tenantOf row = id →
        (⟨access.rowKey (access.key row), .update⟩ : Lock LockKey) ∈
          (cascade access db tenantOf id).2 := by
    intro Row Id access tenantOf row memRow ofTenant
    exact List.mem_flatMap.mpr ⟨row, Table.mem_select.mpr ⟨memRow, decide_eq_true ofTenant⟩,
      List.mem_cons_self⟩
  rw [hardDeleteTenant] at yields ⊢
  split at yields
  case h_1 => exact absurd mem (not_mem_of_yields_read yields)
  case h_2 row found =>
    obtain ⟨_, rfl⟩ := Table.find?_eq_some.mp found
    simp only [List.flatMap_cons, List.flatMap_nil, List.append_nil, List.mem_append]
    exact ⟨.inl List.mem_cons_self,
      fun row memRow ofTenant => .inr (.inr (.inl (locked membershipAccess _ row memRow ofTenant))),
      fun row memRow ofTenant =>
        .inr (.inr (.inr (.inl (locked roleAccess _ row memRow ofTenant)))),
      fun row memRow ofTenant =>
        .inr (.inr (.inr (.inr (.inl (locked deptAccess _ row memRow ofTenant))))),
      fun row memRow ofTenant =>
        .inr (.inr (.inr (.inr (.inr (.inr (locked invitationAccess _ row memRow ofTenant))))))⟩

theorem membership_guarded {change : Change TenantMembership Uuid}
    (yields : (query.effect context db).Yields result writes)
    (mem : .membership change ∈ writes) :
    Exclusive (query.effect context db).kept
      (.membership (change.target TenantMembership.id)) := by
  cases membership_write yields mem with
  | insert => exact Access.exclusive_of_insertRow yields mem
  | setStatus =>
      rw [Change.target, TenantMembership.withStatus_id]
      exact Access.exclusive_of_updateRow yields mem
  | softDelete =>
      rw [Change.target, TenantMembership.ended_id]
      exact Access.exclusive_of_updateRow yields mem
  | delete =>
      obtain ⟨_, yields, _⟩ := Effect.yields_map.mp yields
      exact Access.exclusive_of_deleteRow yields mem
  | cascade memRow => exact .inr ((hardDeleteTenant_kept yields mem).2.1 _ memRow rfl)

theorem role_guarded {change : Change TenantRole Uuid}
    (yields : (query.effect context db).Yields result writes) (mem : .role change ∈ writes) :
    Exclusive (query.effect context db).kept (.role (change.target TenantRole.id)) := by
  cases role_write yields mem with
  | insert => exact Access.exclusive_of_insertRow yields mem
  | softDelete =>
      rw [Change.target, TenantRole.revoked_id]
      exact Access.exclusive_of_updateRow yields mem
  | delete =>
      obtain ⟨_, yields, _⟩ := Effect.yields_map.mp yields
      exact Access.exclusive_of_deleteRow yields mem
  | cascade memRow => exact .inr ((hardDeleteTenant_kept yields mem).2.2.1 _ memRow rfl)

theorem dept_guarded {change : Change DeptMembership Uuid}
    (yields : (query.effect context db).Yields result writes) (mem : .dept change ∈ writes) :
    Exclusive (query.effect context db).kept (.dept (change.target DeptMembership.id)) := by
  cases dept_write yields mem with
  | insert =>
      have inEnum := DeptQuery.inEnum_of_yields_insert yields
      rw [Query.effect, DeptQuery.effect_insert inEnum] at yields ⊢
      exact Access.exclusive_of_insertRow yields mem
  | softDelete =>
      rw [Change.target, DeptMembership.revoked_id]
      exact Access.exclusive_of_updateRow yields mem
  | delete =>
      obtain ⟨_, yields, _⟩ := Effect.yields_map.mp yields
      exact Access.exclusive_of_deleteRow yields mem
  | cascade memRow => exact .inr ((hardDeleteTenant_kept yields mem).2.2.2.1 _ memRow rfl)

theorem invitation_guarded {change : Change PendingInvitation Uuid}
    (yields : (query.effect context db).Yields result writes)
    (mem : .invitation change ∈ writes) :
    Exclusive (query.effect context db).kept
      (.invitation (change.target PendingInvitation.id)) := by
  cases invitation_write yields mem with
  | insert => exact Access.exclusive_of_insertRow yields mem
  | setStatus | setKCCleanupPending | expire =>
      rw [Change.target, PendingInvitation.touch_proj PendingInvitation.id fun _ _ _ => rfl]
      exact Access.exclusive_of_updateRow yields mem
  | erasePII | clearKCCleanupPendingByID =>
      obtain ⟨_, yields, _⟩ := Effect.yields_map.mp yields
      rw [Change.target, PendingInvitation.touch_proj PendingInvitation.id fun _ _ _ => rfl]
      exact Access.exclusive_of_updateRow yields mem
  | delete =>
      obtain ⟨_, yields, _⟩ := Effect.yields_map.mp yields
      exact Access.exclusive_of_deleteRow yields mem
  | cascade memRow => exact .inr ((hardDeleteTenant_kept yields mem).2.2.2.2 _ memRow rfl)

theorem tenant_guarded {change : Change Tenant Uuid}
    (yields : (query.effect context db).Yields result writes) (mem : .tenant change ∈ writes) :
    Exclusive (query.effect context db).kept (.tenant (change.target Tenant.id)) := by
  cases tenant_write yields mem with
  | insert =>
      simp only [Query.effect, TenantQuery.effect] at yields ⊢
      split at yields
      case isFalse => exact absurd yields Effect.not_yields_refuse
      case isTrue fits =>
        rw [if_pos fits]
        split at yields
        · exact absurd yields Effect.not_yields_refuse
        · exact Access.exclusive_of_insertRow yields mem
  | patch memRow patch =>
      rw [Change.target, Tenant.touch_proj Tenant.id fun _ _ _ => rfl, LifecyclePatch.set_id]
      simp only [Query.effect, TenantQuery.effect] at yields ⊢
      split at yields
      case isFalse => exact absurd yields Effect.not_yields_refuse
      case isTrue encodes =>
        rw [if_pos encodes]
        obtain ⟨_, yields, _⟩ := Effect.yields_map.mp yields
        exact Access.exclusive_of_updateRow yields mem
  | setLastEventAt | markOwnerless =>
      rw [Change.target, Tenant.touch_proj Tenant.id fun _ _ _ => rfl]
      obtain ⟨_, yields, _⟩ := Effect.yields_map.mp yields
      exact Access.exclusive_of_updateRow yields mem
  | update =>
      rw [Change.target, Tenant.touch_proj Tenant.id fun _ _ _ => rfl, TenantUpdate.set_id]
      exact Access.exclusive_of_updateRow yields mem
  | delete => exact .inr (hardDeleteTenant_kept yields mem).1

theorem processed_guarded {change : Change ProcessedEvent Uuid}
    (yields : (query.effect context db).Yields result writes)
    (mem : .processed change ∈ writes) :
    Exclusive (query.effect context db).kept
      (.processed (change.target ProcessedEvent.eventID)) := by
  cases processed_write yields mem with
  | claim =>
      obtain ⟨_, yields, _⟩ := Effect.yields_map.mp yields
      exact Access.exclusive_of_insertRow yields mem

theorem parked_guarded {change : Change ParkedTenantEvent Uuid}
    (yields : (query.effect context db).Yields result writes)
    (mem : .parked change ∈ writes) :
    Exclusive (query.effect context db).kept
      (.parked (change.target ParkedTenantEvent.eventID)) := by
  cases parked_write yields mem with
  | park =>
      obtain ⟨_, yields, _⟩ := Effect.yields_map.mp yields
      exact Access.exclusive_of_insertRow yields mem
  | claim =>
      obtain ⟨_, yields, _⟩ := Effect.yields_map.mp yields
      exact Access.exclusive_of_deleteRow yields mem

end Guards

/-! ## The tables -/

theorem tenantLawful : tenantAccess.Lawful dialect Write.tenantChange where
  inverse write change := by cases write <;> simp [Write.tenantChange, tenantAccess]
  table_write write db := by cases write <;> rfl
  guarded query context db result writes evaluated change mem := by
    obtain ⟨write, memWrite, found⟩ := List.mem_filterMap.mp mem
    cases write <;> cases found
    exact tenant_guarded evaluated memWrite

theorem membershipLawful : membershipAccess.Lawful dialect Write.membershipChange where
  inverse write change := by cases write <;> simp [Write.membershipChange, membershipAccess]
  table_write write db := by cases write <;> rfl
  guarded query context db result writes evaluated change mem := by
    obtain ⟨write, memWrite, found⟩ := List.mem_filterMap.mp mem
    cases write <;> cases found
    exact membership_guarded evaluated memWrite

theorem roleLawful : roleAccess.Lawful dialect Write.roleChange where
  inverse write change := by cases write <;> simp [Write.roleChange, roleAccess]
  table_write write db := by cases write <;> rfl
  guarded query context db result writes evaluated change mem := by
    obtain ⟨write, memWrite, found⟩ := List.mem_filterMap.mp mem
    cases write <;> cases found
    exact role_guarded evaluated memWrite

theorem deptLawful : deptAccess.Lawful dialect Write.deptChange where
  inverse write change := by cases write <;> simp [Write.deptChange, deptAccess]
  table_write write db := by cases write <;> rfl
  guarded query context db result writes evaluated change mem := by
    obtain ⟨write, memWrite, found⟩ := List.mem_filterMap.mp mem
    cases write <;> cases found
    exact dept_guarded evaluated memWrite

theorem invitationLawful : invitationAccess.Lawful dialect Write.invitationChange where
  inverse write change := by cases write <;> simp [Write.invitationChange, invitationAccess]
  table_write write db := by cases write <;> rfl
  guarded query context db result writes evaluated change mem := by
    obtain ⟨write, memWrite, found⟩ := List.mem_filterMap.mp mem
    cases write <;> cases found
    exact invitation_guarded evaluated memWrite

theorem processedLawful : processedAccess.Lawful dialect Write.processedChange where
  inverse write change := by cases write <;> simp [Write.processedChange, processedAccess]
  table_write write db := by cases write <;> rfl
  guarded query context db result writes evaluated change mem := by
    obtain ⟨write, memWrite, found⟩ := List.mem_filterMap.mp mem
    cases write <;> cases found
    exact processed_guarded evaluated memWrite

theorem parkedLawful : parkedAccess.Lawful dialect Write.parkedChange where
  inverse write change := by cases write <;> simp [Write.parkedChange, parkedAccess]
  table_write write db := by cases write <;> rfl
  guarded query context db result writes evaluated change mem := by
    obtain ⟨write, memWrite, found⟩ := List.mem_filterMap.mp mem
    cases write <;> cases found
    exact parked_guarded evaluated memWrite

/-! ## Versions of a row -/

/-- A deleted tenant stays deleted. -/
structure Tenant.Evolves (old new : Tenant) : Prop where
  live : new.live = true → old.live = true

/-- A membership stays with its user, and a deleted one stays deleted. -/
structure TenantMembership.Evolves (old new : TenantMembership) : Prop where
  tenantID : new.tenantID = old.tenantID
  userID : new.userID = old.userID
  createdAt : new.createdAt = old.createdAt
  live : new.live = true → old.live = true

/-- A grant keeps its role and its membership, and a deleted one stays deleted. -/
structure TenantRole.Evolves (old new : TenantRole) : Prop where
  tenantID : new.tenantID = old.tenantID
  userID : new.userID = old.userID
  tenantMembershipID : new.tenantMembershipID = old.tenantMembershipID
  roleCode : new.roleCode = old.roleCode
  live : new.live = true → old.live = true

/-- A row keeps its membership, and a deleted one stays deleted. -/
structure DeptMembership.Evolves (old new : DeptMembership) : Prop where
  tenantID : new.tenantID = old.tenantID
  userID : new.userID = old.userID
  tenantMembershipID : new.tenantMembershipID = old.tenantMembershipID
  live : new.live = true → old.live = true

/-- An invitation keeps its expiry and its Keycloak user, and does not become pending again. -/
structure PendingInvitation.Evolves (old new : PendingInvitation) : Prop where
  tenantID : new.tenantID = old.tenantID
  keycloakUserID : new.keycloakUserID = old.keycloakUserID
  expiresAt : new.expiresAt = old.expiresAt
  pending : new.status = .pending → old.status = .pending

theorem Tenant.evolves_touch {now : Int} {old new : Tenant}
    (live : new.live = true → old.live = true) : old.Evolves (old.touch now new) where
  live := by rwa [Tenant.touch_proj Tenant.live fun _ _ _ => rfl]

theorem PendingInvitation.evolves_touch {now : Int} {old new : PendingInvitation}
    (evolves : old.Evolves new) : old.Evolves (old.touch now new) where
  tenantID := (touch_proj PendingInvitation.tenantID (fun _ _ _ => rfl) now old new).trans
    evolves.tenantID
  keycloakUserID := (touch_proj PendingInvitation.keycloakUserID (fun _ _ _ => rfl) now old
    new).trans evolves.keycloakUserID
  expiresAt := (touch_proj PendingInvitation.expiresAt (fun _ _ _ => rfl) now old new).trans
    evolves.expiresAt
  pending := by
    rw [touch_proj PendingInvitation.status fun _ _ _ => rfl]
    exact evolves.pending

/-- A written version of an invitation is a new row or evolves from the row it
replaces. -/
theorem InvitationWrite.origin {context : Context} {db : Db} {query : Query}
    {row : PendingInvitation} (write : InvitationWrite context db query (.put row)) :
    (∃ values, query = .invitation (.insert values) ∧
        row = values.row context.fresh (txNow context)) ∨
      ∃ old ∈ db.invitations, old.id = row.id ∧ old.Evolves row := by
  have touched : ∀ (old new : PendingInvitation), new.id = old.id →
      old.id = (old.touch (txNow context) new).id := fun old new same =>
    (same.symm.trans
      (PendingInvitation.touch_proj PendingInvitation.id (fun _ _ _ => rfl) _ old new).symm)
  cases write with
  | insert unused => exact .inl ⟨_, rfl, rfl⟩
  | setStatus mem pending =>
      exact .inr ⟨_, mem, touched _ _ rfl,
        PendingInvitation.evolves_touch ⟨rfl, rfl, rfl, fun _ => pending⟩⟩
  | setKCCleanupPending mem | erasePII mem | clearKCCleanupPendingByID mem =>
      exact .inr ⟨_, mem, touched _ _ rfl, PendingInvitation.evolves_touch ⟨rfl, rfl, rfl, id⟩⟩
  | expire mem =>
      exact .inr ⟨_, mem, touched _ _ rfl, PendingInvitation.evolves_touch ⟨rfl, rfl, rfl, nofun⟩⟩

/-- `SetKCCleanupPending` marks one invitation, or nothing. -/
theorem setKCCleanupPending_cases {context : Context} {db : Db} {tenantID id : Uuid} {flag : Bool}
    {version : Int} {result : Option PendingInvitation} {writes : List Write}
    (yields : ((InvitationQuery.setKCCleanupPending tenantID id flag version).effect context
      db).Yields result writes) :
    (result = none ∧ writes = []) ∨
      ∃ old ∈ db.invitations, ∃ row, old.id = id ∧
        row = old.touch (txNow context) { old with kcCleanupPending := flag } ∧
        result = some row ∧ writes = [.invitation (.put row)] := by
  rcases Access.updateRow_cases yields with
    ⟨rfl, rfl, _⟩ | ⟨old, mem, updated, key, _, computed, rfl, rfl, _⟩
  · exact .inl ⟨rfl, rfl⟩
  · exact .inr ⟨old, mem, updated, key, updateInvitation_eq_ok computed, rfl, rfl⟩

theorem tenantEvolution : tenantAccess.Evolution dialect Write.tenantChange Tenant.Evolves where
  trans first second third early late := ⟨early.live ∘ late.live⟩
  authored query context db result writes evaluated row mem old memOld keyEq := by
    cases tenant_write evaluated (tenantLawful.mem_filterMap.mp mem) with
    | insert unused => exact absurd keyEq (unused old memOld)
    | patch memRow patch =>
        have keyEq : old.id = _ :=
          keyEq.trans (Tenant.touch_proj Tenant.id (fun _ _ _ => rfl) _ _ _)
        rw [LifecyclePatch.set_id] at keyEq
        cases Table.eq_of_key_eq memOld memRow keyEq
        apply Tenant.evolves_touch
        cases patch <;> simp [LifecyclePatch.set, Tenant.live]
    | setLastEventAt memRow | markOwnerless memRow =>
        cases Table.eq_of_key_eq memOld memRow
          (keyEq.trans (Tenant.touch_proj Tenant.id (fun _ _ _ => rfl) _ _ _))
        exact Tenant.evolves_touch id
    | update memRow update =>
        have keyEq : old.id = _ :=
          keyEq.trans (Tenant.touch_proj Tenant.id (fun _ _ _ => rfl) _ _ _)
        rw [TenantUpdate.set_id] at keyEq
        cases Table.eq_of_key_eq memOld memRow keyEq
        exact Tenant.evolves_touch fun live => by rwa [TenantUpdate.set_live] at live

theorem membershipEvolution :
    membershipAccess.Evolution dialect Write.membershipChange TenantMembership.Evolves where
  trans first second third early late :=
    ⟨late.tenantID.trans early.tenantID, late.userID.trans early.userID,
      late.createdAt.trans early.createdAt, early.live ∘ late.live⟩
  authored query context db result writes evaluated row mem old memOld keyEq := by
    cases membership_write evaluated (membershipLawful.mem_filterMap.mp mem) with
    | insert unused => exact absurd keyEq (unused old memOld)
    | setStatus memRow =>
        cases Table.eq_of_key_eq memOld memRow
          (keyEq.trans (TenantMembership.withStatus_id _ _ _))
        exact ⟨by simp, by simp, by simp, by simp⟩
    | softDelete memRow =>
        cases Table.eq_of_key_eq memOld memRow (keyEq.trans (TenantMembership.ended_id _ _))
        exact ⟨by simp, by simp, by simp, by simp⟩

theorem roleEvolution : roleAccess.Evolution dialect Write.roleChange TenantRole.Evolves where
  trans first second third early late :=
    ⟨late.tenantID.trans early.tenantID, late.userID.trans early.userID,
      late.tenantMembershipID.trans early.tenantMembershipID,
      late.roleCode.trans early.roleCode, early.live ∘ late.live⟩
  authored query context db result writes evaluated row mem old memOld keyEq := by
    cases role_write evaluated (roleLawful.mem_filterMap.mp mem) with
    | insert unused => exact absurd keyEq (unused old memOld)
    | softDelete memRow =>
        cases Table.eq_of_key_eq memOld memRow (keyEq.trans (TenantRole.revoked_id _ _))
        exact ⟨by simp, by simp, by simp, by simp, by simp⟩

theorem deptEvolution : deptAccess.Evolution dialect Write.deptChange DeptMembership.Evolves where
  trans first second third early late :=
    ⟨late.tenantID.trans early.tenantID, late.userID.trans early.userID,
      late.tenantMembershipID.trans early.tenantMembershipID, early.live ∘ late.live⟩
  authored query context db result writes evaluated row mem old memOld keyEq := by
    cases dept_write evaluated (deptLawful.mem_filterMap.mp mem) with
    | insert unused => exact absurd keyEq (unused old memOld)
    | softDelete memRow =>
        cases Table.eq_of_key_eq memOld memRow (keyEq.trans (DeptMembership.revoked_id _ _))
        exact ⟨by simp, by simp, by simp, by simp⟩

theorem invitationEvolution :
    invitationAccess.Evolution dialect Write.invitationChange PendingInvitation.Evolves where
  trans first second third early late :=
    ⟨late.tenantID.trans early.tenantID, late.keycloakUserID.trans early.keycloakUserID,
      late.expiresAt.trans early.expiresAt, early.pending ∘ late.pending⟩
  authored query context db result writes evaluated row mem old memOld keyEq := by
    have write := invitation_write evaluated (invitationLawful.mem_filterMap.mp mem)
    rcases write.origin with ⟨values, rfl, rfl⟩ | ⟨origin, memOrigin, same, evolves⟩
    · cases write with
      | insert unused => exact absurd keyEq (unused old memOld)
    · rwa [Table.eq_of_key_eq memOld memOrigin (keyEq.trans same.symm)]

/-! ## The index of live grants -/

theorem mem_roleEntries {row : TenantRole} {entry : LockKey} :
    entry ∈ roleAccess.entries row ↔
      row.live = true ∧ entry = .uqTenantRolesActive row.tenantID row.userID row.roleCode := by
  simp only [roleAccess]
  split <;> simp_all

theorem role_putsOnly {context : Context} {db : Db} {query : Query} {result : query.Result}
    {writes : List Write} {row : TenantRole}
    (yields : (query.effect context db).Yields result writes) (put : .role (.put row) ∈ writes) :
    roleAccess.PutsOnly writes (query.effect context db).kept row := by
  cases role_write yields put with
  | insert => exact roleLawful.putsOnly_of_insertRow yields put
  | softDelete => exact roleLawful.putsOnly_of_updateRow yields put

/-- A put row with an index entry is a new grant that no stored grant opposes. -/
theorem role_indexed {context : Context} {db : Db} {query : Query} {result : query.Result}
    {writes : List Write} {row other : TenantRole} {entry : LockKey}
    (yields : (query.effect context db).Yields result writes) (put : .role (.put row) ∈ writes)
    (mem : other ∈ db.roles) (memEntry : entry ∈ roleAccess.entries row) :
    entry ∉ roleAccess.entries other := by
  intro memEntry'
  obtain ⟨live, rfl⟩ := mem_roleEntries.mp memEntry
  obtain ⟨live', same⟩ := mem_roleEntries.mp memEntry'
  cases role_write yields put with
  | softDelete => simp at live
  | insert _ unopposed =>
      simp only [newRole, LockKey.uqTenantRolesActive.injEq] at same
      have opposed := unopposed other mem
      simp [RoleFilter.selects, ← same.1, ← same.2.1, ← same.2.2, live'] at opposed

theorem roleIndexed : roleAccess.Indexed dialect Write.roleChange :=
  roleLawful.indexed role_putsOnly fun yields put _ mem memEntry memEntry' =>
    absurd memEntry' (role_indexed yields put mem memEntry)

/-! ## The index of live assignments -/

theorem mem_deptEntries {row : DeptMembership} {entry : LockKey} :
    entry ∈ deptAccess.entries row ↔ row.live = true ∧
      entry = .uqDmActiveMembership row.tenantID row.userID row.departmentID := by
  simp only [deptAccess]
  split <;> simp_all

/-! ## Every run -/

/-- What every session keeps to, whatever it runs. -/
structure Disciplined (server : DbServer) (session : DbSession) : Prop where
  tenantsGuarded : tenantAccess.Guarded Write.tenantChange session
  membershipsGuarded : membershipAccess.Guarded Write.membershipChange session
  rolesGuarded : roleAccess.Guarded Write.roleChange session
  deptsGuarded : deptAccess.Guarded Write.deptChange session
  invitationsGuarded : invitationAccess.Guarded Write.invitationChange session
  processedGuarded : processedAccess.Guarded Write.processedChange session
  parkedGuarded : parkedAccess.Guarded Write.parkedChange session
  tenants : tenantAccess.Faithful Write.tenantChange Tenant.Evolves server session
  memberships :
    membershipAccess.Faithful Write.membershipChange TenantMembership.Evolves server session
  roles : roleAccess.Faithful Write.roleChange TenantRole.Evolves server session
  depts : deptAccess.Faithful Write.deptChange DeptMembership.Evolves server session
  invitations :
    invitationAccess.Faithful Write.invitationChange PendingInvitation.Evolves server session

theorem disciplined_blank (server : DbServer) {session : DbSession} (blank : session.writes = []) :
    Disciplined server session := by
  constructor <;> intro row mem <;> simp [Session.changes, blank] at mem

theorem Disciplined.extended {server : DbServer} {session : DbSession} {query : Query}
    {context : Context} {result : query.Result} {writes : List Write}
    (disciplined : Disciplined server session)
    (evaluated : dialect.eval query context (dialect.view server session) = .ok (result, writes)) :
    Disciplined server (session.extended query result
      (dialect.kept query context (dialect.view server session)) writes) where
  tenantsGuarded := tenantLawful.guarded_extended disciplined.tenantsGuarded evaluated
  membershipsGuarded := membershipLawful.guarded_extended disciplined.membershipsGuarded evaluated
  rolesGuarded := roleLawful.guarded_extended disciplined.rolesGuarded evaluated
  deptsGuarded := deptLawful.guarded_extended disciplined.deptsGuarded evaluated
  invitationsGuarded := invitationLawful.guarded_extended disciplined.invitationsGuarded evaluated
  processedGuarded := processedLawful.guarded_extended disciplined.processedGuarded evaluated
  parkedGuarded := parkedLawful.guarded_extended disciplined.parkedGuarded evaluated
  tenants := tenantLawful.faithful_extended tenantEvolution disciplined.tenants evaluated
  memberships :=
    membershipLawful.faithful_extended membershipEvolution disciplined.memberships evaluated
  roles := roleLawful.faithful_extended roleEvolution disciplined.roles evaluated
  depts := deptLawful.faithful_extended deptEvolution disciplined.depts evaluated
  invitations :=
    invitationLawful.faithful_extended invitationEvolution disciplined.invitations evaluated

theorem Disciplined.committed {server : DbServer} {actor session : DbSession}
    (compatible : Compatible actor.locks session.locks) (acting : Disciplined server actor)
    (disciplined : Disciplined server session) :
    Disciplined (dialect.committed server actor) session where
  tenantsGuarded := disciplined.tenantsGuarded
  membershipsGuarded := disciplined.membershipsGuarded
  rolesGuarded := disciplined.rolesGuarded
  deptsGuarded := disciplined.deptsGuarded
  invitationsGuarded := disciplined.invitationsGuarded
  processedGuarded := disciplined.processedGuarded
  parkedGuarded := disciplined.parkedGuarded
  tenants := tenantLawful.faithful_committed acting.tenantsGuarded compatible
    disciplined.tenantsGuarded disciplined.tenants
  memberships := membershipLawful.faithful_committed acting.membershipsGuarded compatible
    disciplined.membershipsGuarded disciplined.memberships
  roles := roleLawful.faithful_committed acting.rolesGuarded compatible
    disciplined.rolesGuarded disciplined.roles
  depts := deptLawful.faithful_committed acting.deptsGuarded compatible
    disciplined.deptsGuarded disciplined.depts
  invitations := invitationLawful.faithful_committed acting.invitationsGuarded compatible
    disciplined.invitationsGuarded disciplined.invitations

section Run

variable {Call Outcome : Type} {code : Call → Program (Reply Query.Result PgError) Outcome}
  {permits : Config (Reply Query.Result PgError) Call DbServer DbSession Outcome →
    Action Call (Chance PgError) Nat → Prop} {start : DbServer}
  {config : Config (Reply Query.Result PgError) Call DbServer DbSession Outcome}

/-- Every session of every run is disciplined. -/
theorem disciplined_of_reaches
    (reaches : server.Reaches code permits (Config.initial start) config) :
    ∀ process ∈ config.processes, Disciplined config.shared process.loc := by
  refine (Dialect.each_of_reaches (fun _ => True) Disciplined reaches trivial ?_ ?_ ?_ ?_ ?_).2
  · exact fun server session _ blank => disciplined_blank server blank
  · exact fun server session query context result writes disciplined evaluated =>
      disciplined.extended evaluated
  · exact fun _ _ _ _ => trivial
  · exact fun server actor session compatible acting disciplined =>
      Disciplined.committed compatible acting disciplined
  · intro server session now disciplined
    exact { disciplined with }

/-- The index of live grants holds in what every session sees. -/
theorem distinctRoles_of_reaches
    (reaches : server.Reaches code permits (Config.initial start) config)
    (initially : start.db.roles.DistinctBy roleAccess.entries) :
    ∀ process ∈ config.processes,
      roleAccess.Distinct dialect Write.roleChange config.shared process.loc :=
  (roleLawful.distinct_of_reaches roleIndexed reaches initially).2

/-- What is known of a session that executes a statement, and of every other
session at that moment. -/
theorem facts_of_executes (reaches : server.Reaches code permits (Config.initial start) config)
    {index : Nat} {choice : Chance PgError} {config' : DbConfig Call Outcome} {call : Call}
    {session : DbSession} {statement : Statement Query}
    {next : Reply Query.Result PgError statement → DbProgram Outcome}
    (executes : server.Executes config index choice config' call session statement next) :
    Disciplined config.shared session ∧
      ∀ position other, position ≠ index → config.processes[position]? = some other →
        Compatible session.locks other.loc.locks ∧ Disciplined config.shared other.loc := by
  have disciplined := disciplined_of_reaches reaches
  refine ⟨disciplined _ (List.mem_of_getElem? executes.current),
    fun position other apart found => ?_⟩
  exact ⟨Dialect.compatible_of_reaches reaches (Ne.symm apart) executes.current found,
    disciplined other (List.mem_of_getElem? found)⟩

end Run

end OrgMembership

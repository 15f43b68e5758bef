import OrgMembership.Store.Dialect

/-!
# What statements write

Which tables a statement writes to, and, table by table, what its writes are:
the one place where the statements are inspected for their effect on a table.
-/

namespace OrgMembership

open Relational

variable {query : Query} {result : query.Result}

/-- The tables, and the places outside the database that are written to. -/
inductive TableName
  | tenants
  | memberships
  | roles
  | depts
  | tenantDepts
  | labels
  | invitations
  | ledger
  | processed
  | parked
  | outbox
  | journal
  | realm
  deriving DecidableEq

/-- Where a write goes. -/
def Write.table : Write → TableName
  | tenant _ => .tenants
  | membership _ => .memberships
  | role _ => .roles
  | dept _ => .depts
  | tenantDept _ => .tenantDepts
  | label _ => .labels
  | invitation _ => .invitations
  | ledger _ => .ledger
  | processed _ => .processed
  | parked _ => .parked
  | publish _ => .outbox
  | settle _ => .journal
  | realm _ => .realm

/-- The tables a statement may write to. -/
@[simp]
def TenantQuery.writesTo : TenantQuery → List TableName
  | insert _ => [.tenants]
  | applyLifecyclePatch _ _ => [.tenants]
  | setLastEventAt _ _ => [.tenants]
  | markOwnerlessIfUnset _ => [.tenants]
  | update _ _ => [.tenants]
  | hardDeleteTenant _ =>
      [.tenants, .tenantDepts, .memberships, .roles, .depts, .labels, .invitations]
  | activateDept _ _ => [.tenantDepts]
  | deleteDept _ => [.tenantDepts]
  | seedLabels _ => [.labels]
  | deleteLabel _ => [.labels]
  | claimEmailHash _ _ => [.ledger]
  | _ => []

/-- Where a statement may write. -/
@[simp]
def MembershipQuery.writesTo : MembershipQuery → List TableName
  | insert _ _ _ => [.memberships]
  | setStatus _ _ _ _ _ => [.memberships]
  | softDelete _ _ _ _ => [.memberships]
  | delete _ => [.memberships]
  | _ => []

/-- Where a statement may write. -/
@[simp]
def RoleQuery.writesTo : RoleQuery → List TableName
  | insert _ _ _ _ _ => [.roles]
  | softDelete _ _ => [.roles]
  | delete _ => [.roles]
  | _ => []

/-- Where a statement may write. -/
@[simp]
def DeptQuery.writesTo : DeptQuery → List TableName
  | insert _ _ _ _ _ _ => [.depts]
  | softDelete _ _ => [.depts]
  | delete _ => [.depts]
  | _ => []

/-- Where a statement may write. -/
@[simp]
def InvitationQuery.writesTo : InvitationQuery → List TableName
  | insert _ => [.invitations]
  | setStatus _ _ _ _ => [.invitations]
  | setKCCleanupPending _ _ _ _ => [.invitations]
  | erasePII _ _ => [.invitations]
  | clearKCCleanupPendingByID _ => [.invitations]
  | expire _ => [.invitations]
  | delete _ => [.invitations]
  | _ => []

/-- Where a statement may write. -/
@[simp]
def EventQuery.writesTo : EventQuery → List TableName
  | claimProcessed _ => [.processed]
  | park _ _ => [.parked]
  | claim _ => [.parked]
  | enqueue _ => [.outbox]
  | settle _ => [.journal]
  | realm _ => [.realm]
  | _ => []

/-- Where a statement may write. -/
@[simp]
def Query.writesTo : Query → List TableName
  | tenant query => query.writesTo
  | membership query => query.writesTo
  | role query => query.writesTo
  | dept query => query.writesTo
  | invitation query => query.writesTo
  | event query => query.writesTo

section

variable {context : Context} {db : Db} {write : Write} {writes : List Write}

theorem not_mem_of_yields_read {α : Type} {value result : α}
    (yields : (Effect.read value : DbEffect α).Yields result writes) : write ∉ writes := by
  rw [(Effect.yields_read.mp yields).2]
  exact List.not_mem_nil

theorem writes_of_cascade {Row Id : Type} {access : Access Db Write LockKey Row Id}
    {tenantOf : Row → Uuid} {tenantID : Uuid}
    (mem : write ∈ (cascade access db tenantOf tenantID).1) :
    ∃ row ∈ access.table db, tenantOf row = tenantID ∧
      write = access.change (.delete (access.key row)) := by
  simp only [cascade, List.mem_map, Table.mem_select, decide_eq_true_eq] at mem
  obtain ⟨row, ⟨memRow, ofTenant⟩, rfl⟩ := mem
  exact ⟨row, memRow, ofTenant, rfl⟩

/-- A hard delete writes the deletion of the tenant and of every row that
belongs to it. -/
theorem hardDeleteTenant_writes {id : Uuid} {result : Unit}
    (yields : (hardDeleteTenant db id).Yields result writes) (mem : write ∈ writes) :
    write = .tenant (.delete id) ∨
      (∃ row ∈ db.tenantDepts, row.tenantID = id ∧
        write = .tenantDept (.delete (row.tenantID, row.departmentID))) ∨
      (∃ row ∈ db.memberships, row.tenantID = id ∧ write = .membership (.delete row.id)) ∨
      (∃ row ∈ db.roles, row.tenantID = id ∧ write = .role (.delete row.id)) ∨
      (∃ row ∈ db.depts, row.tenantID = id ∧ write = .dept (.delete row.id)) ∨
      (∃ row ∈ db.labels, row.tenantID = id ∧ write = .label (.delete row.id)) ∨
      (∃ row ∈ db.invitations, row.tenantID = id ∧ write = .invitation (.delete row.id)) := by
  rw [hardDeleteTenant] at yields
  split at yields
  · exact absurd mem (not_mem_of_yields_read yields)
  · obtain ⟨_, rfl⟩ := Prod.mk.inj (Except.ok.inj yields)
    simp only [List.mem_cons, List.flatMap_cons, List.flatMap_nil, List.append_nil,
      List.mem_append] at mem
    rcases mem with rfl | mem | mem | mem | mem | mem | mem
    · exact .inl rfl
    · exact .inr (.inl (writes_of_cascade mem))
    · exact .inr (.inr (.inl (writes_of_cascade mem)))
    · exact .inr (.inr (.inr (.inl (writes_of_cascade mem))))
    · exact .inr (.inr (.inr (.inr (.inl (writes_of_cascade mem)))))
    · exact .inr (.inr (.inr (.inr (.inr (.inl (writes_of_cascade mem))))))
    · exact .inr (.inr (.inr (.inr (.inr (.inr (writes_of_cascade mem))))))

theorem TenantQuery.table_mem_writesTo {query : TenantQuery} {result : query.Result}
    (yields : (query.effect context db).Yields result writes) (mem : write ∈ writes) :
    write.table ∈ query.writesTo := by
  cases query with
  | findByID | findByIDIncludingDeleted | listRealmSyncPending | listSeatOverageCandidates |
    listExpiredTrialTenants | findDept
  | scanDepts | scanLabels => exact absurd mem (not_mem_of_yields_read yields)
  | lockLive id => exact absurd mem (Access.writes_of_lockRow yields)
  | insert values =>
      simp only [effect] at yields
      split at yields
      · split at yields
        · exact absurd yields Effect.not_yields_refuse
        · rw [Access.writes_of_insertRow yields mem]
          exact List.mem_singleton_self _
      · exact absurd yields Effect.not_yields_refuse
  | applyLifecyclePatch id patch =>
      simp only [effect] at yields
      split at yields
      · obtain ⟨_, yields, _⟩ := Effect.yields_map.mp yields
        obtain ⟨change, rfl⟩ := Access.writes_of_updateRow yields mem
        exact List.mem_singleton_self _
      · exact absurd yields Effect.not_yields_refuse
  | setLastEventAt id timestamp =>
      obtain ⟨_, yields, _⟩ := Effect.yields_map.mp yields
      obtain ⟨change, rfl⟩ := Access.writes_of_updateRow yields mem
      exact List.mem_singleton_self _
  | markOwnerlessIfUnset id =>
      obtain ⟨_, yields, _⟩ := Effect.yields_map.mp yields
      obtain ⟨change, rfl⟩ := Access.writes_of_updateRow yields mem
      exact List.mem_singleton_self _
  | update id update =>
      obtain ⟨change, rfl⟩ := Access.writes_of_updateRow yields mem
      exact List.mem_singleton_self _
  | hardDeleteTenant id =>
      rcases hardDeleteTenant_writes yields mem with
        rfl | ⟨_, _, _, rfl⟩ | ⟨_, _, _, rfl⟩ | ⟨_, _, _, rfl⟩ | ⟨_, _, _, rfl⟩ | ⟨_, _, _, rfl⟩ |
          ⟨_, _, _, rfl⟩ <;> simp [Write.table, writesTo]
  | activateDept tenantID departmentID =>
      rw [Access.writes_of_insertRow yields mem]
      exact List.mem_singleton_self _
  | deleteDept id =>
      obtain ⟨_, yields, _⟩ := Effect.yields_map.mp yields
      rw [Access.writes_of_deleteRow yields mem]
      exact List.mem_singleton_self _
  | seedLabels tenantID =>
      simp only [effect, OrgMembership.seedLabels] at yields
      split at yields
      · cases yields
      · obtain ⟨_, rfl⟩ := Prod.mk.inj (Except.ok.inj yields)
        obtain ⟨row, _, rfl⟩ := List.mem_map.mp mem
        exact List.mem_singleton_self _
  | deleteLabel id =>
      obtain ⟨_, yields, _⟩ := Effect.yields_map.mp yields
      rw [Access.writes_of_deleteRow yields mem]
      exact List.mem_singleton_self _
  | claimEmailHash emailHash tenantID =>
      simp only [effect, OrgMembership.claimEmailHash] at yields
      split at yields
      · obtain ⟨_, rfl⟩ := Prod.mk.inj (Except.ok.inj yields)
        exact absurd mem List.not_mem_nil
      · obtain ⟨_, rfl⟩ := Prod.mk.inj (Except.ok.inj yields)
        rw [List.mem_singleton.mp mem]
        exact List.mem_singleton_self _

theorem MembershipQuery.table_mem_writesTo {query : MembershipQuery} {result : query.Result}
    (yields : (query.effect context db).Yields result writes) (mem : write ∈ writes) :
    write.table ∈ query.writesTo := by
  cases query with
  | findByUserID | countActive | scan | scanTenant =>
      exact absurd mem (not_mem_of_yields_read yields)
  | insert =>
      rw [Access.writes_of_insertRow yields mem]
      exact List.mem_singleton_self _
  | setStatus | softDelete =>
      obtain ⟨change, rfl⟩ := Access.writes_of_updateRow yields mem
      exact List.mem_singleton_self _
  | delete =>
      obtain ⟨_, yields, _⟩ := Effect.yields_map.mp yields
      rw [Access.writes_of_deleteRow yields mem]
      exact List.mem_singleton_self _

theorem RoleQuery.table_mem_writesTo {query : RoleQuery} {result : query.Result}
    (yields : (query.effect context db).Yields result writes) (mem : write ∈ writes) :
    write.table ∈ query.writesTo := by
  cases query with
  | listByUser | countActiveOwners | find | scan =>
      exact absurd mem (not_mem_of_yields_read yields)
  | insert =>
      rw [Access.writes_of_insertRow yields mem]
      exact List.mem_singleton_self _
  | softDelete =>
      obtain ⟨change, rfl⟩ := Access.writes_of_updateRow yields mem
      exact List.mem_singleton_self _
  | delete =>
      obtain ⟨_, yields, _⟩ := Effect.yields_map.mp yields
      rw [Access.writes_of_deleteRow yields mem]
      exact List.mem_singleton_self _

theorem DeptQuery.table_mem_writesTo {query : DeptQuery} {result : query.Result}
    (yields : (query.effect context db).Yields result writes) (mem : write ∈ writes) :
    write.table ∈ query.writesTo := by
  cases query with
  | lockAssign =>
      rw [Effect.yields_advisory.mp yields] at mem
      exact absurd mem List.not_mem_nil
  | listByUser | find | scan => exact absurd mem (not_mem_of_yields_read yields)
  | lock => exact absurd mem (Access.writes_of_lockRow yields)
  | insert =>
      rw [DeptQuery.effect_insert (DeptQuery.inEnum_of_yields_insert yields)] at yields
      rw [Access.writes_of_insertRow yields mem]
      exact List.mem_singleton_self _
  | softDelete =>
      obtain ⟨change, rfl⟩ := Access.writes_of_updateRow yields mem
      exact List.mem_singleton_self _
  | delete =>
      obtain ⟨_, yields, _⟩ := Effect.yields_map.mp yields
      rw [Access.writes_of_deleteRow yields mem]
      exact List.mem_singleton_self _

theorem InvitationQuery.table_mem_writesTo {query : InvitationQuery} {result : query.Result}
    (yields : (query.effect context db).Yields result writes) (mem : write ∈ writes) :
    write.table ∈ query.writesTo := by
  cases query with
  | findByID | findPendingByEmail | findPendingByKeycloakUser | mostRecentCreatedAt |
    countCreatedInWindow | countPending | listPendingKCCleanup | scanOverdue | scanTenant =>
      exact absurd mem (not_mem_of_yields_read yields)
  | countCreatedInWindowByActor => exact absurd yields Effect.not_yields_refuse
  | lockByID => exact absurd mem (Access.writes_of_lockRow yields)
  | insert =>
      rw [Access.writes_of_insertRow yields mem]
      exact List.mem_singleton_self _
  | setStatus | setKCCleanupPending | expire =>
      obtain ⟨change, rfl⟩ := Access.writes_of_updateRow yields mem
      exact List.mem_singleton_self _
  | erasePII | clearKCCleanupPendingByID =>
      obtain ⟨_, yields, _⟩ := Effect.yields_map.mp yields
      obtain ⟨change, rfl⟩ := Access.writes_of_updateRow yields mem
      exact List.mem_singleton_self _
  | delete =>
      obtain ⟨_, yields, _⟩ := Effect.yields_map.mp yields
      rw [Access.writes_of_deleteRow yields mem]
      exact List.mem_singleton_self _

theorem EventQuery.table_mem_writesTo {query : EventQuery} {result : query.Result}
    (yields : (query.effect context db).Yields result writes) (mem : write ∈ writes) :
    write.table ∈ query.writesTo := by
  cases query with
  | claimProcessed | park =>
      obtain ⟨_, yields, _⟩ := Effect.yields_map.mp yields
      rw [Access.writes_of_insertRow yields mem]
      exact List.mem_singleton_self _
  | claim =>
      obtain ⟨_, yields, _⟩ := Effect.yields_map.mp yields
      rw [Access.writes_of_deleteRow yields mem]
      exact List.mem_singleton_self _
  | lockTenantProvisioning =>
      rw [Effect.yields_advisory.mp yields] at mem
      exact absurd mem List.not_mem_nil
  | enqueue | settle | realm =>
      obtain ⟨_, rfl⟩ := Prod.mk.inj (Except.ok.inj yields)
      rw [List.mem_singleton.mp mem]
      exact List.mem_singleton_self _
  | listForTenant | clock | answer | sighted =>
      exact absurd mem (not_mem_of_yields_read yields)

/-- A statement writes to no other tables than it names. -/
theorem Query.table_mem_writesTo (yields : (query.effect context db).Yields result writes)
    (mem : write ∈ writes) :
    write.table ∈ query.writesTo := by
  cases query with
  | tenant => exact TenantQuery.table_mem_writesTo yields mem
  | membership => exact MembershipQuery.table_mem_writesTo yields mem
  | role => exact RoleQuery.table_mem_writesTo yields mem
  | dept => exact DeptQuery.table_mem_writesTo yields mem
  | invitation => exact InvitationQuery.table_mem_writesTo yields mem
  | event => exact EventQuery.table_mem_writesTo yields mem

theorem Query.writes_eq_nil (yields : (query.effect context db).Yields result writes)
    (reads : query.writesTo = []) :
    writes = [] := by
  refine List.eq_nil_iff_forall_not_mem.mpr fun write mem => ?_
  have table := Query.table_mem_writesTo yields mem
  rw [reads] at table
  exact List.not_mem_nil table

/-- A query adds nothing to a table it does not write to. -/
theorem Query.filterMap_eq_nil {α : Type} {part : Write → Option α} {table : TableName}
    (yields : (query.effect context db).Yields result writes) (off : table ∉ query.writesTo)
    (about : ∀ write, write.table ≠ table → part write = none) :
    writes.filterMap part = [] := by
  refine List.filterMap_eq_nil_iff.mpr fun write mem => about write fun same => ?_
  exact off (same ▸ Query.table_mem_writesTo yields mem)

/-- A query leaves a table alone that it does not write to. -/
theorem Query.part_eq {Part : Type} (part : Db → Part) {table : TableName}
    (yields : (query.effect context db).Yields result writes) (off : table ∉ query.writesTo)
    (about : ∀ (write : Write) (db : Db), write.table ≠ table → part (write.apply db) = part db) :
    part (dialect.applyAll writes db) = part db :=
  dialect.part_applyAll part (fun write mem db => about write db fun same =>
    off (same ▸ Query.table_mem_writesTo yields mem)) db

theorem Query.depts_eq (yields : (query.effect context db).Yields result writes)
    (off : .depts ∉ query.writesTo) :
    (dialect.applyAll writes db).depts = db.depts :=
  Query.part_eq Db.depts yields off fun write _ apart => by
    cases write <;> first | rfl | exact absurd rfl apart

theorem Query.memberships_eq (yields : (query.effect context db).Yields result writes)
    (off : .memberships ∉ query.writesTo) :
    (dialect.applyAll writes db).memberships = db.memberships :=
  Query.part_eq Db.memberships yields off fun write _ apart => by
    cases write <;> first | rfl | exact absurd rfl apart

theorem Query.tenantDepts_eq (yields : (query.effect context db).Yields result writes)
    (off : .tenantDepts ∉ query.writesTo) :
    (dialect.applyAll writes db).tenantDepts = db.tenantDepts :=
  Query.part_eq Db.tenantDepts yields off fun write _ apart => by
    cases write <;> first | rfl | exact absurd rfl apart

/-! ## Table by table -/

/-- The changes of `tenant_memberships`. -/
inductive MembershipWrite (context : Context) (db : Db) :
    Query → Change TenantMembership Uuid → Prop
  | insert {tenantID userID : Uuid} {status : MembershipStatus}
      (unused : ∀ other ∈ db.memberships, other.id ≠ context.fresh)
      (unopposed : ∀ other ∈ db.memberships, other.isOf tenantID userID = false) :
      MembershipWrite context db (.membership (.insert tenantID userID status))
        (.put (newMembership context tenantID userID status))
  | setStatus {tenantID userID : Uuid} {status : MembershipStatus} {version : Int}
      {row : TenantMembership} (mem : row ∈ db.memberships)
      (selected : row.isVersionOf tenantID userID version = true) :
      MembershipWrite context db (.membership (.setStatus row.id tenantID userID status version))
        (.put (row.withStatus (txNow context) status))
  | softDelete {tenantID userID : Uuid} {version : Int} {row : TenantMembership}
      (mem : row ∈ db.memberships) (selected : row.isVersionOf tenantID userID version = true) :
      MembershipWrite context db (.membership (.softDelete row.id tenantID userID version))
        (.put (row.ended (txNow context)))
  | delete (id : Uuid) : MembershipWrite context db (.membership (.delete id)) (.delete id)
  | cascade {row : TenantMembership} (mem : row ∈ db.memberships) :
      MembershipWrite context db (.tenant (.hardDeleteTenant row.tenantID)) (.delete row.id)

/-- The changes of `tenant_roles`. -/
inductive RoleWrite (context : Context) (db : Db) : Query → Change TenantRole Uuid → Prop
  | insert {tenantID userID membershipID : Uuid} {code : TenantRoleCode} {grantedBy : Uuid}
      (unused : ∀ other ∈ db.roles, other.id ≠ context.fresh)
      (unopposed : ∀ other ∈ db.roles,
        RoleFilter.selects other (.grant tenantID userID code) = false)
      (parent : membershipExists db membershipID tenantID userID = true) :
      RoleWrite context db (.role (.insert tenantID userID membershipID code grantedBy))
        (.put (newRole context tenantID userID membershipID code grantedBy))
  | softDelete {filter : RoleFilter} {row : TenantRole} (mem : row ∈ db.roles)
      (selected : RoleFilter.selects row filter = true) :
      RoleWrite context db (.role (.softDelete filter row.id)) (.put (row.revoked (txNow context)))
  | delete (id : Uuid) : RoleWrite context db (.role (.delete id)) (.delete id)
  | cascade {row : TenantRole} (mem : row ∈ db.roles) :
      RoleWrite context db (.tenant (.hardDeleteTenant row.tenantID)) (.delete row.id)

/-- The changes of `dept_memberships`. -/
inductive DeptWrite (context : Context) (db : Db) : Query → Change DeptMembership Uuid → Prop
  | insert {tenantID userID departmentID membershipID : Uuid} {level : DeptRole}
      {grantedBy : Uuid} (unused : ∀ other ∈ db.depts, other.id ≠ context.fresh)
      (parent : membershipExists db membershipID tenantID userID = true) :
      DeptWrite context db
        (.dept (.insert tenantID userID departmentID membershipID level grantedBy))
        (.put (newDept context tenantID userID departmentID membershipID level grantedBy))
  | softDelete {filter : DeptFilter} {row : DeptMembership} (mem : row ∈ db.depts)
      (selected : DeptFilter.selects row filter = true) :
      DeptWrite context db (.dept (.softDelete filter row.id)) (.put (row.revoked (txNow context)))
  | delete (id : Uuid) : DeptWrite context db (.dept (.delete id)) (.delete id)
  | cascade {row : DeptMembership} (mem : row ∈ db.depts) :
      DeptWrite context db (.tenant (.hardDeleteTenant row.tenantID)) (.delete row.id)

/-- The changes of `tenants`. -/
inductive TenantWrite (context : Context) (db : Db) : Query → Change Tenant Uuid → Prop
  | insert {values : TenantInsert} (unused : ∀ other ∈ db.tenants, other.id ≠ values.id) :
      TenantWrite context db (.tenant (.insert values)) (.put (values.row (txNow context)))
  | patch {row : Tenant} (mem : row ∈ db.tenants) (patch : LifecyclePatch) :
      TenantWrite context db (.tenant (.applyLifecyclePatch row.id patch))
        (.put (row.touch (txNow context) (patch.set (txNow context) row)))
  | setLastEventAt {row : Tenant} (mem : row ∈ db.tenants) (timestamp : Int) :
      TenantWrite context db (.tenant (.setLastEventAt row.id timestamp))
        (.put (row.touch (txNow context) { row with lastEventAt := some (pgTime timestamp) }))
  | markOwnerless {row : Tenant} (mem : row ∈ db.tenants) :
      TenantWrite context db (.tenant (.markOwnerlessIfUnset row.id))
        (.put (row.touch (txNow context) { row with ownerlessSince := some (txNow context) }))
  | update {row : Tenant} (mem : row ∈ db.tenants) (update : TenantUpdate)
      (selected : update.selects row = true) :
      TenantWrite context db (.tenant (.update row.id update))
        (.put (row.touch (txNow context) (update.set row)))
  | delete (id : Uuid) : TenantWrite context db (.tenant (.hardDeleteTenant id)) (.delete id)

/-- The changes of `pending_invitations`. -/
inductive InvitationWrite (context : Context) (db : Db) :
    Query → Change PendingInvitation Uuid → Prop
  | insert {values : InvitationInsert}
      (unused : ∀ other ∈ db.invitations, other.id ≠ context.fresh) :
      InvitationWrite context db (.invitation (.insert values))
        (.put (values.row context.fresh (txNow context)))
  | setStatus {row : PendingInvitation} {status : InvitationStatus} (mem : row ∈ db.invitations)
      (selected : row.status = .pending) :
      InvitationWrite context db
        (.invitation (.setStatus row.tenantID row.id status row.recordVersion))
        (.put (row.touch (txNow context)
          { row with
            status
            acceptedAt := if status = .accepted then some (txNow context) else row.acceptedAt }))
  | setKCCleanupPending {row : PendingInvitation} {pending : Bool} (mem : row ∈ db.invitations) :
      InvitationWrite context db
        (.invitation (.setKCCleanupPending row.tenantID row.id pending row.recordVersion))
        (.put (row.touch (txNow context) { row with kcCleanupPending := pending }))
  | erasePII {row : PendingInvitation} (mem : row ∈ db.invitations) :
      InvitationWrite context db (.invitation (.erasePII row.tenantID row.id))
        (.put (row.touch (txNow context) { row with email := "", fullName := "redacted" }))
  | clearKCCleanupPendingByID {row : PendingInvitation} (mem : row ∈ db.invitations) :
      InvitationWrite context db (.invitation (.clearKCCleanupPendingByID row.id))
        (.put (row.touch (txNow context) { row with kcCleanupPending := false }))
  | expire {row : PendingInvitation} (mem : row ∈ db.invitations) :
      InvitationWrite context db (.invitation (.expire row.id))
        (.put (row.touch (txNow context)
          { row with
            status := .expired, kcCleanupPending := true, email := "", fullName := "redacted" }))
  | delete (id : Uuid) : InvitationWrite context db (.invitation (.delete id)) (.delete id)
  | cascade {row : PendingInvitation} (mem : row ∈ db.invitations) :
      InvitationWrite context db (.tenant (.hardDeleteTenant row.tenantID)) (.delete row.id)

/-- The changes of `processed_events`. -/
inductive ProcessedWrite (context : Context) (db : Db) :
    Query → Change ProcessedEvent Uuid → Prop
  | claim {eventID : Uuid} (unused : ∀ other ∈ db.processed, other.eventID ≠ eventID) :
      ProcessedWrite context db (.event (.claimProcessed eventID)) (.put ⟨eventID, txNow context⟩)

/-- The row that parks an event. -/
def parkedEvent (context : Context) (tenantID : Uuid) (envelope : Envelope) : ParkedTenantEvent :=
  { eventID := envelope.id, tenantID, occurredAt := pgTime envelope.timestamp, envelope,
    parkedAt := txNow context }

/-- The changes of `pending_tenant_events`. -/
inductive ParkedWrite (context : Context) (db : Db) :
    Query → Change ParkedTenantEvent Uuid → Prop
  | park {tenantID : Uuid} {envelope : Envelope}
      (unused : ∀ other ∈ db.parked, other.eventID ≠ envelope.id) :
      ParkedWrite context db (.event (.park tenantID envelope))
        (.put (parkedEvent context tenantID envelope))
  | claim {row : ParkedTenantEvent} (mem : row ∈ db.parked) :
      ParkedWrite context db (.event (.claim row.eventID)) (.delete row.eventID)

theorem membership_write {change : Change TenantMembership Uuid}
    (yields : (query.effect context db).Yields result writes) (mem : .membership change ∈ writes) :
    MembershipWrite context db query change := by
  have table := Query.table_mem_writesTo yields mem
  cases query with
  | tenant query =>
      cases query <;> simp [Write.table, Query.writesTo, TenantQuery.writesTo] at table
      rcases hardDeleteTenant_writes yields mem with
        h | ⟨_, _, _, h⟩ | ⟨row, memRow, rfl, h⟩ | ⟨_, _, _, h⟩ | ⟨_, _, _, h⟩ | ⟨_, _, _, h⟩ |
          ⟨_, _, _, h⟩ <;> cases h
      exact .cascade memRow
  | membership query =>
      cases query with
      | findByUserID | countActive | scan | scanTenant =>
          exact absurd mem (not_mem_of_yields_read yields)
      | insert =>
          rcases Access.insertRow_cases yields with
            ⟨_, rfl, _⟩ | ⟨unopposed, allowed, _, rfl, _⟩
          · exact absurd mem List.not_mem_nil
          · cases List.mem_singleton.mp mem
            simp [firstViolated_eq_none] at allowed
            exact .insert (Table.find?_eq_none.mp allowed.1) unopposed
      | setStatus =>
          rcases Access.updateRow_cases yields with
            ⟨_, rfl, _⟩ | ⟨row, memRow, updated, rfl, selected, computed, _, rfl, _⟩
          · exact absurd mem List.not_mem_nil
          · cases List.mem_singleton.mp mem
            cases computed
            exact .setStatus memRow selected
      | softDelete =>
          rcases Access.updateRow_cases yields with
            ⟨_, rfl, _⟩ | ⟨row, memRow, updated, rfl, selected, computed, _, rfl, _⟩
          · exact absurd mem List.not_mem_nil
          · cases List.mem_singleton.mp mem
            cases computed
            exact .softDelete memRow selected
      | delete id =>
          obtain ⟨_, yields, _⟩ := Effect.yields_map.mp yields
          cases Access.writes_of_deleteRow yields mem
          exact .delete id
  | role query =>
      cases query <;> simp [Write.table, Query.writesTo, RoleQuery.writesTo] at table
  | dept query =>
      cases query <;> simp [Write.table, Query.writesTo, DeptQuery.writesTo] at table
  | invitation query =>
      cases query <;> simp [Write.table, Query.writesTo, InvitationQuery.writesTo] at table
  | event query => cases query <;> simp [Write.table, Query.writesTo, EventQuery.writesTo] at table

theorem role_write {change : Change TenantRole Uuid}
    (yields : (query.effect context db).Yields result writes) (mem : .role change ∈ writes) :
    RoleWrite context db query change := by
  have table := Query.table_mem_writesTo yields mem
  cases query with
  | tenant query =>
      cases query <;> simp [Write.table, Query.writesTo, TenantQuery.writesTo] at table
      rcases hardDeleteTenant_writes yields mem with
        h | ⟨_, _, _, h⟩ | ⟨_, _, _, h⟩ | ⟨row, memRow, rfl, h⟩ | ⟨_, _, _, h⟩ | ⟨_, _, _, h⟩ |
          ⟨_, _, _, h⟩ <;> cases h
      exact .cascade memRow
  | role query =>
      cases query with
      | listByUser | countActiveOwners | find | scan =>
          exact absurd mem (not_mem_of_yields_read yields)
      | insert =>
          rcases Access.insertRow_cases yields with
            ⟨_, rfl, _⟩ | ⟨unopposed, allowed, _, rfl, _⟩
          · exact absurd mem List.not_mem_nil
          · cases List.mem_singleton.mp mem
            simp [firstViolated_eq_none] at allowed
            exact .insert (Table.find?_eq_none.mp allowed.2.1) unopposed allowed.2.2.2
      | softDelete =>
          rcases Access.updateRow_cases yields with
            ⟨_, rfl, _⟩ | ⟨row, memRow, updated, rfl, selected, computed, _, rfl, _⟩
          · exact absurd mem List.not_mem_nil
          · cases List.mem_singleton.mp mem
            cases computed
            exact .softDelete memRow selected
      | delete id =>
          obtain ⟨_, yields, _⟩ := Effect.yields_map.mp yields
          cases Access.writes_of_deleteRow yields mem
          exact .delete id
  | membership query =>
      cases query <;> simp [Write.table, Query.writesTo, MembershipQuery.writesTo] at table
  | dept query =>
      cases query <;> simp [Write.table, Query.writesTo, DeptQuery.writesTo] at table
  | invitation query =>
      cases query <;> simp [Write.table, Query.writesTo, InvitationQuery.writesTo] at table
  | event query => cases query <;> simp [Write.table, Query.writesTo, EventQuery.writesTo] at table

theorem dept_write {change : Change DeptMembership Uuid}
    (yields : (query.effect context db).Yields result writes) (mem : .dept change ∈ writes) :
    DeptWrite context db query change := by
  have table := Query.table_mem_writesTo yields mem
  cases query with
  | tenant query =>
      cases query <;> simp [Write.table, Query.writesTo, TenantQuery.writesTo] at table
      rcases hardDeleteTenant_writes yields mem with
        h | ⟨_, _, _, h⟩ | ⟨_, _, _, h⟩ | ⟨_, _, _, h⟩ | ⟨row, memRow, rfl, h⟩ | ⟨_, _, _, h⟩ |
          ⟨_, _, _, h⟩ <;> cases h
      exact .cascade memRow
  | dept query =>
      cases query with
      | lockAssign =>
          rw [Effect.yields_advisory.mp yields] at mem
          exact absurd mem List.not_mem_nil
      | listByUser | find | scan => exact absurd mem (not_mem_of_yields_read yields)
      | lock => exact absurd mem (Access.writes_of_lockRow yields)
      | insert =>
          rw [Query.effect, DeptQuery.effect_insert (DeptQuery.inEnum_of_yields_insert yields)]
            at yields
          rcases Access.insertRow_cases yields with ⟨_, rfl, _⟩ | ⟨_, allowed, _, rfl, _⟩
          · exact absurd mem List.not_mem_nil
          · cases List.mem_singleton.mp mem
            simp [firstViolated_eq_none] at allowed
            exact .insert (Table.find?_eq_none.mp allowed.1) allowed.2.2.2
      | softDelete =>
          rcases Access.updateRow_cases yields with
            ⟨_, rfl, _⟩ | ⟨row, memRow, updated, rfl, selected, computed, _, rfl, _⟩
          · exact absurd mem List.not_mem_nil
          · cases List.mem_singleton.mp mem
            cases computed
            exact .softDelete memRow selected
      | delete id =>
          obtain ⟨_, yields, _⟩ := Effect.yields_map.mp yields
          cases Access.writes_of_deleteRow yields mem
          exact .delete id
  | membership query =>
      cases query <;> simp [Write.table, Query.writesTo, MembershipQuery.writesTo] at table
  | role query =>
      cases query <;> simp [Write.table, Query.writesTo, RoleQuery.writesTo] at table
  | invitation query =>
      cases query <;> simp [Write.table, Query.writesTo, InvitationQuery.writesTo] at table
  | event query => cases query <;> simp [Write.table, Query.writesTo, EventQuery.writesTo] at table

theorem processed_write {change : Change ProcessedEvent Uuid}
    (yields : (query.effect context db).Yields result writes) (mem : .processed change ∈ writes) :
    ProcessedWrite context db query change := by
  have table := Query.table_mem_writesTo yields mem
  cases query with
  | tenant query =>
      cases query <;> simp [Write.table, Query.writesTo, TenantQuery.writesTo] at table
  | membership query =>
      cases query <;> simp [Write.table, Query.writesTo, MembershipQuery.writesTo] at table
  | role query =>
      cases query <;> simp [Write.table, Query.writesTo, RoleQuery.writesTo] at table
  | dept query =>
      cases query <;> simp [Write.table, Query.writesTo, DeptQuery.writesTo] at table
  | invitation query =>
      cases query <;> simp [Write.table, Query.writesTo, InvitationQuery.writesTo] at table
  | event query =>
      cases query <;> simp [Write.table, Query.writesTo, EventQuery.writesTo] at table
      obtain ⟨_, yields, _⟩ := Effect.yields_map.mp yields
      rcases Access.insertRow_cases yields with ⟨_, rfl, _⟩ | ⟨unopposed, _, _, rfl, _⟩
      · exact absurd mem List.not_mem_nil
      · cases List.mem_singleton.mp mem
        exact .claim fun other memOther => of_decide_eq_false (unopposed other memOther)

theorem parked_write {change : Change ParkedTenantEvent Uuid}
    (yields : (query.effect context db).Yields result writes) (mem : .parked change ∈ writes) :
    ParkedWrite context db query change := by
  have table := Query.table_mem_writesTo yields mem
  cases query with
  | tenant query =>
      cases query <;> simp [Write.table, Query.writesTo, TenantQuery.writesTo] at table
  | membership query =>
      cases query <;> simp [Write.table, Query.writesTo, MembershipQuery.writesTo] at table
  | role query =>
      cases query <;> simp [Write.table, Query.writesTo, RoleQuery.writesTo] at table
  | dept query =>
      cases query <;> simp [Write.table, Query.writesTo, DeptQuery.writesTo] at table
  | invitation query =>
      cases query <;> simp [Write.table, Query.writesTo, InvitationQuery.writesTo] at table
  | event query =>
      cases query <;> simp [Write.table, Query.writesTo, EventQuery.writesTo] at table
      case park =>
        obtain ⟨_, yields, _⟩ := Effect.yields_map.mp yields
        rcases Access.insertRow_cases yields with ⟨_, rfl, _⟩ | ⟨unopposed, _, _, rfl, _⟩
        · exact absurd mem List.not_mem_nil
        · cases List.mem_singleton.mp mem
          exact .park fun other memOther => of_decide_eq_false (unopposed other memOther)
      case claim =>
        obtain ⟨_, yields, _⟩ := Effect.yields_map.mp yields
        rcases Access.deleteRow_cases yields with ⟨_, rfl, _⟩ | ⟨row, memRow, rfl, _, _, _, rfl, _⟩
        · exact absurd mem List.not_mem_nil
        · cases List.mem_singleton.mp mem
          exact .claim memRow

theorem updateTenant_eq_ok {computed : Except PgError Tenant} {updated : Tenant}
    (updates : updateTenant db computed = .ok updated) : computed = .ok updated := by
  simp only [updateTenant] at updates
  split at updates
  · cases updates
  · split at updates <;> cases updates
    rfl

/-- A lifecycle patch updates the row that it selects. -/
theorem updateTenant_patch_eq_ok {now : Int} {row updated : Tenant} {patch : LifecyclePatch}
    (encodes : patch.encodes = true) (selected : patch.selects row = true)
    (updates : updateTenant db ((execLifecyclePatch now row patch).map Prod.fst) = .ok updated) :
    row.update now (patch.set now) = .ok updated := by
  have executed := updateTenant_eq_ok updates
  rw [execLifecyclePatch, if_pos encodes, if_pos selected] at executed
  cases computed : row.update now (patch.set now) with
  | error => simp [computed, Except.map] at executed
  | ok new => simpa [computed, Except.map] using executed

theorem updateInvitation_eq_ok {now : Int} {old new updated : PendingInvitation}
    (updates : updateInvitation now db old new = .ok updated) : updated = old.touch now new := by
  simp only [updateInvitation] at updates
  split at updates <;> cases updates
  rfl

/-- `INSERT INTO tenants … ON CONFLICT (id) DO NOTHING`: the tenant is there, or it
is added. -/
theorem tenantInsert_cases {values : TenantInsert} {result : Option Tenant}
    (yields : ((TenantQuery.insert values).effect context db).Yields result writes) :
    (result = none ∧ writes = [] ∧ db.tenants.Has values.id) ∨
      (result = some (values.row (txNow context)) ∧
        writes = [.tenant (.put (values.row (txNow context)))] ∧ ¬db.tenants.Has values.id) := by
  simp only [TenantQuery.effect] at yields
  split at yields
  case isFalse => exact absurd yields Effect.not_yields_refuse
  case isTrue =>
    split at yields
    · exact absurd yields Effect.not_yields_refuse
    · rcases Access.insertRow_cases yields with
        ⟨rfl, rfl, other, mem, same⟩ | ⟨unused, _, rfl, rfl, _⟩
      · exact .inl ⟨rfl, rfl, other, mem, of_decide_eq_true same⟩
      · refine .inr ⟨rfl, rfl, ?_⟩
        rintro ⟨other, mem, same⟩
        exact absurd (unused other mem) (by simp [same])

theorem tenant_write {change : Change Tenant Uuid}
    (yields : (query.effect context db).Yields result writes) (mem : .tenant change ∈ writes) :
    TenantWrite context db query change := by
  have table := Query.table_mem_writesTo yields mem
  cases query with
  | tenant query =>
      cases query <;> simp [Write.table, Query.writesTo, TenantQuery.writesTo] at table
      case insert values =>
        simp only [Query.effect, TenantQuery.effect] at yields
        split at yields
        · split at yields
          · exact absurd yields Effect.not_yields_refuse
          · rcases Access.insertRow_cases yields with ⟨_, rfl, _⟩ | ⟨unopposed, _, _, rfl, _⟩
            · exact absurd mem List.not_mem_nil
            · cases List.mem_singleton.mp mem
              exact .insert fun other memOther => of_decide_eq_false (unopposed other memOther)
        · exact absurd yields Effect.not_yields_refuse
      case applyLifecyclePatch id patch =>
        simp only [Query.effect, TenantQuery.effect] at yields
        split at yields
        case isFalse => exact absurd yields Effect.not_yields_refuse
        case isTrue encodes =>
          obtain ⟨_, yields, _⟩ := Effect.yields_map.mp yields
          rcases Access.updateRow_cases yields with
            ⟨_, rfl, _⟩ | ⟨row, memRow, updated, rfl, selected, computed, _, rfl, _⟩
          · exact absurd mem List.not_mem_nil
          · cases List.mem_singleton.mp mem
            have updates := updateTenant_patch_eq_ok encodes selected computed
            rw [(Tenant.update_eq_ok.mp updates).1]
            exact .patch memRow patch
      case setLastEventAt id timestamp =>
        obtain ⟨_, yields, _⟩ := Effect.yields_map.mp yields
        rcases Access.updateRow_cases yields with
          ⟨_, rfl, _⟩ | ⟨row, memRow, updated, rfl, _, computed, _, rfl, _⟩
        · exact absurd mem List.not_mem_nil
        · cases List.mem_singleton.mp mem
          rw [(Tenant.update_eq_ok.mp (updateTenant_eq_ok computed)).1]
          exact .setLastEventAt memRow timestamp
      case markOwnerlessIfUnset id =>
        obtain ⟨_, yields, _⟩ := Effect.yields_map.mp yields
        rcases Access.updateRow_cases yields with
          ⟨_, rfl, _⟩ | ⟨row, memRow, updated, rfl, _, computed, _, rfl, _⟩
        · exact absurd mem List.not_mem_nil
        · cases List.mem_singleton.mp mem
          rw [(Tenant.update_eq_ok.mp (updateTenant_eq_ok computed)).1]
          exact .markOwnerless memRow
      case update id update =>
        rcases Access.updateRow_cases yields with
          ⟨_, rfl, _⟩ | ⟨row, memRow, updated, rfl, selected, computed, _, rfl, _⟩
        · exact absurd mem List.not_mem_nil
        · cases List.mem_singleton.mp mem
          rw [(Tenant.update_eq_ok.mp (updateTenant_eq_ok computed)).1]
          exact .update memRow update selected
      case hardDeleteTenant id =>
        rcases hardDeleteTenant_writes yields mem with
          h | ⟨_, _, _, h⟩ | ⟨_, _, _, h⟩ | ⟨_, _, _, h⟩ | ⟨_, _, _, h⟩ | ⟨_, _, _, h⟩ |
            ⟨_, _, _, h⟩ <;> cases h
        exact .delete id
  | membership query =>
      cases query <;> simp [Write.table, Query.writesTo, MembershipQuery.writesTo] at table
  | role query =>
      cases query <;> simp [Write.table, Query.writesTo, RoleQuery.writesTo] at table
  | dept query =>
      cases query <;> simp [Write.table, Query.writesTo, DeptQuery.writesTo] at table
  | invitation query =>
      cases query <;> simp [Write.table, Query.writesTo, InvitationQuery.writesTo] at table
  | event query => cases query <;> simp [Write.table, Query.writesTo, EventQuery.writesTo] at table

theorem invitation_write {change : Change PendingInvitation Uuid}
    (yields : (query.effect context db).Yields result writes) (mem : .invitation change ∈ writes) :
    InvitationWrite context db query change := by
  have table := Query.table_mem_writesTo yields mem
  cases query with
  | tenant query =>
      cases query <;> simp [Write.table, Query.writesTo, TenantQuery.writesTo] at table
      rcases hardDeleteTenant_writes yields mem with
        h | ⟨_, _, _, h⟩ | ⟨_, _, _, h⟩ | ⟨_, _, _, h⟩ | ⟨_, _, _, h⟩ | ⟨_, _, _, h⟩ |
          ⟨row, memRow, rfl, h⟩ <;> cases h
      exact .cascade memRow
  | invitation query =>
      cases query with
      | findByID | findPendingByEmail | findPendingByKeycloakUser | mostRecentCreatedAt |
        countCreatedInWindow | countPending | listPendingKCCleanup | scanOverdue | scanTenant =>
          exact absurd mem (not_mem_of_yields_read yields)
      | countCreatedInWindowByActor => exact absurd yields Effect.not_yields_refuse
      | lockByID => exact absurd mem (Access.writes_of_lockRow yields)
      | insert values =>
          rcases Access.insertRow_cases yields with ⟨_, rfl, _⟩ | ⟨_, allowed, _, rfl, _⟩
          · exact absurd mem List.not_mem_nil
          · cases List.mem_singleton.mp mem
            have unused := firstViolated_eq_none.mp allowed
              (.primaryKey, (db.invitations.find? context.fresh).isNone)
              (by simp [InvitationInsert.row])
            exact .insert (Table.find?_eq_none.mp (Option.isNone_iff_eq_none.mp unused))
      | setStatus =>
          rcases Access.updateRow_cases yields with
            ⟨_, rfl, _⟩ | ⟨row, memRow, updated, rfl, selected, computed, _, rfl, _⟩
          · exact absurd mem List.not_mem_nil
          · cases List.mem_singleton.mp mem
            simp only [Bool.and_eq_true, decide_eq_true_eq] at selected
            obtain ⟨⟨rfl, rfl⟩, pending⟩ := selected
            rw [updateInvitation_eq_ok computed]
            exact .setStatus memRow pending
      | setKCCleanupPending =>
          rcases Access.updateRow_cases yields with
            ⟨_, rfl, _⟩ | ⟨row, memRow, updated, rfl, selected, computed, _, rfl, _⟩
          · exact absurd mem List.not_mem_nil
          · cases List.mem_singleton.mp mem
            simp only [Bool.and_eq_true, decide_eq_true_eq] at selected
            obtain ⟨rfl, rfl⟩ := selected
            rw [updateInvitation_eq_ok computed]
            exact .setKCCleanupPending memRow
      | expire =>
          rcases Access.updateRow_cases yields with
            ⟨_, rfl, _⟩ | ⟨row, memRow, updated, rfl, _, computed, _, rfl, _⟩
          · exact absurd mem List.not_mem_nil
          · cases List.mem_singleton.mp mem
            rw [updateInvitation_eq_ok computed]
            exact .expire memRow
      | erasePII =>
          obtain ⟨_, yields, _⟩ := Effect.yields_map.mp yields
          rcases Access.updateRow_cases yields with
            ⟨_, rfl, _⟩ | ⟨row, memRow, updated, rfl, selected, computed, _, rfl, _⟩
          · exact absurd mem List.not_mem_nil
          · cases List.mem_singleton.mp mem
            cases of_decide_eq_true selected
            rw [updateInvitation_eq_ok computed]
            exact .erasePII memRow
      | clearKCCleanupPendingByID =>
          obtain ⟨_, yields, _⟩ := Effect.yields_map.mp yields
          rcases Access.updateRow_cases yields with
            ⟨_, rfl, _⟩ | ⟨row, memRow, updated, rfl, _, computed, _, rfl, _⟩
          · exact absurd mem List.not_mem_nil
          · cases List.mem_singleton.mp mem
            rw [updateInvitation_eq_ok computed]
            exact .clearKCCleanupPendingByID memRow
      | delete id =>
          obtain ⟨_, yields, _⟩ := Effect.yields_map.mp yields
          cases Access.writes_of_deleteRow yields mem
          exact .delete id
  | membership query =>
      cases query <;> simp [Write.table, Query.writesTo, MembershipQuery.writesTo] at table
  | role query =>
      cases query <;> simp [Write.table, Query.writesTo, RoleQuery.writesTo] at table
  | dept query =>
      cases query <;> simp [Write.table, Query.writesTo, DeptQuery.writesTo] at table
  | event query => cases query <;> simp [Write.table, Query.writesTo, EventQuery.writesTo] at table

end

/-- An update of one tenants row finds nothing, or replaces the row that it selects. -/
theorem tenantUpdate_cases {context : Context} {db : Db} {id : Uuid} {change : TenantUpdate}
    {result : Option Tenant} {writes : List Write}
    (yields : ((Query.tenant (.update id change)).effect context db).Yields result writes) :
    (result = none ∧ writes = [] ∧
        ∀ row, db.tenants.find? id = some row → change.selects row = false) ∨
      ∃ row, db.tenants.find? id = some row ∧ change.selects row = true ∧
        result = some (row.touch (txNow context) (change.set row)) ∧
        writes = [.tenant (.put (row.touch (txNow context) (change.set row)))] := by
  rcases Access.updateRow_cases yields with
    ⟨absent, unwritten, missing⟩ | ⟨row, mem, updated, same, selected, computed, found, written, _⟩
  · refine .inl ⟨absent, unwritten, fun row found => ?_⟩
    obtain ⟨mem, same⟩ := Table.find?_eq_some.mp found
    exact missing row mem same
  · rw [(Tenant.update_eq_ok.mp (updateTenant_eq_ok computed)).1] at found written
    exact .inr ⟨row, Table.find?_eq_some.mpr ⟨mem, same⟩, selected, found, written⟩

end OrgMembership

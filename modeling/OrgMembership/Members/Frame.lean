import OrgMembership.Departments.Assigning
import OrgMembership.Service.Alone
import OrgMembership.Service.Reads

/-!
# Calls about one user

The calls that change the membership, the roles or the departments of a user leave the rows
of every other user alone.
-/

namespace OrgMembership

open Concurrency Relational

variable {σ α : Type} {tenantID userID : Uuid} {base db : Db}

/-- The rows of the other users are as they were, and so are the tenants there are. -/
structure Framed (tenantID userID : Uuid) (base db : Db) : Prop where
  others : ∀ otherTenant otherUser, (otherTenant, otherUser) ≠ (tenantID, userID) →
    rowsOf otherTenant otherUser db = rowsOf otherTenant otherUser base
  tenants : ∀ id, db.tenants.Has id ↔ base.tenants.Has id

theorem Framed.refl (tenantID userID : Uuid) (db : Db) : Framed tenantID userID db db :=
  ⟨fun _ _ _ => rfl, fun _ => Iff.rfl⟩

/-- The statement writes no membership, role or department of another user, and no new
tenant. -/
def Own (tenantID userID : Uuid) : Query → Prop
  | .membership (.insert tenant user _) => tenant = tenantID ∧ user = userID
  | .membership (.setStatus _ tenant user _ _) => tenant = tenantID ∧ user = userID
  | .membership (.softDelete _ tenant user _) => tenant = tenantID ∧ user = userID
  | .role (.insert tenant user _ _ _) => tenant = tenantID ∧ user = userID
  | .role (.softDelete (.grant tenant user _) _) => tenant = tenantID ∧ user = userID
  | .role (.softDelete (.user tenant user) _) => tenant = tenantID ∧ user = userID
  | .dept (.insert tenant user _ _ _ _) => tenant = tenantID ∧ user = userID
  | .dept (.softDelete (.assignment tenant user _) _) => tenant = tenantID ∧ user = userID
  | .dept (.softDelete (.user tenant user) _) => tenant = tenantID ∧ user = userID
  | .tenant (.markOwnerlessIfUnset _) => True
  | .tenant (.update _ _) => True
  | query => ∀ table ∈ [TableName.tenants, .memberships, .roles, .depts], table ∉ query.writesTo

section Changes

variable {Row : Type} {key : Row → Uuid} {table : Table key} {owner : Row → Uuid × Uuid}
  {change : Change Row Uuid}

/-- A change of a row of this user. -/
def OwnChange (tenantID userID : Uuid) (owner : Row → Uuid × Uuid) (table : Table key)
    (change : Change Row Uuid) : Prop :=
  (∀ row, change = .put row → owner row = (tenantID, userID)) ∧
    ∀ row ∈ table, key row = change.target key → owner row = (tenantID, userID)

theorem ownChange_put_fresh {row : Row} (mine : owner row = (tenantID, userID))
    (unused : ∀ other ∈ table, key other ≠ key row) :
    OwnChange tenantID userID owner table (.put row) :=
  ⟨by rintro _ ⟨⟩; exact mine, fun other mem same => absurd same (unused other mem)⟩

theorem ownChange_put_over {row updated : Row} (mem : row ∈ table)
    (mine : owner row = (tenantID, userID)) (sameKey : key updated = key row)
    (same : owner updated = owner row) : OwnChange tenantID userID owner table (.put updated) := by
  refine ⟨?_, fun other memOther about => ?_⟩
  · rintro _ ⟨⟩
    rw [same, mine]
  · rw [Table.eq_of_key_eq memOther mem (about.trans sameKey), mine]

/-- Changes of this user's rows leave a selection of another user's rows alone. -/
theorem select_of_ownChanges {changes : List (Change Row Uuid)} {condition : Row → Bool}
    (own : ∀ change ∈ changes, OwnChange tenantID userID owner table change)
    (apart : ∀ row, owner row = (tenantID, userID) → condition row = false) :
    (table.applyAll changes).select condition = table.select condition :=
  Table.select_applyAll_of_apart (fun row put => apart row ((own _ put).1 row rfl))
    fun change mem row memRow about => apart row ((own change mem).2 row memRow about)

end Changes

/-! ## What a statement changes -/

/-- The tenant and the user of a row. -/
def TenantMembership.owner (row : TenantMembership) : Uuid × Uuid :=
  (row.tenantID, row.userID)

/-- The tenant and the user of a row. -/
def TenantRole.owner (row : TenantRole) : Uuid × Uuid :=
  (row.tenantID, row.userID)

/-- The tenant and the user of a row. -/
def DeptMembership.owner (row : DeptMembership) : Uuid × Uuid :=
  (row.tenantID, row.userID)

/-- Writes of this user's rows only, and of tenants that exist. -/
structure OwnWrites (tenantID userID : Uuid) (db : Db) (writes : List Write) : Prop where
  memberships : ∀ change, .membership change ∈ writes →
    OwnChange tenantID userID TenantMembership.owner db.memberships change
  roles : ∀ change, .role change ∈ writes →
    OwnChange tenantID userID TenantRole.owner db.roles change
  depts : ∀ change, .dept change ∈ writes →
    OwnChange tenantID userID DeptMembership.owner db.depts change
  tenants : ∀ change, .tenant change ∈ writes → ∃ row, change = .put row ∧ db.tenants.Has row.id

theorem Framed.write (framed : Framed tenantID userID base db) {writes : List Write}
    (own : OwnWrites tenantID userID db writes) :
    Framed tenantID userID base (dialect.applyAll writes db) where
  others otherTenant otherUser other := by
    rw [← framed.others otherTenant otherUser other, rowsOf, rowsOf, MemberRows.mk.injEq]
    have memberships : (dialect.applyAll writes db).memberships = _ :=
      dialect.table_applyAll membershipAccess.table _ membershipLawful.table_write writes db
    have roles : (dialect.applyAll writes db).roles = _ :=
      dialect.table_applyAll roleAccess.table _ roleLawful.table_write writes db
    have depts : (dialect.applyAll writes db).depts = _ :=
      dialect.table_applyAll deptAccess.table _ deptLawful.table_write writes db
    rw [memberships, roles, depts]
    refine ⟨?_, ?_, ?_⟩
    · exact select_of_ownChanges
        (fun change mem => own.memberships change (membershipLawful.mem_filterMap.mp mem))
        fun row mine => apart_of_ne other (Prod.mk.inj mine)
    · exact select_of_ownChanges
        (fun change mem => own.roles change (roleLawful.mem_filterMap.mp mem))
        fun row mine => apart_of_ne other (Prod.mk.inj mine)
    · exact select_of_ownChanges
        (fun change mem => own.depts change (deptLawful.mem_filterMap.mp mem))
        fun row mine => apart_of_ne other (Prod.mk.inj mine)
  tenants id := by
    have table : (dialect.applyAll writes db).tenants = _ :=
      dialect.table_applyAll tenantAccess.table _ tenantLawful.table_write writes db
    have undeleted : .delete id ∉ writes.filterMap Write.tenantChange := by
      intro deleted
      obtain ⟨row, put, _⟩ := own.tenants _ (tenantLawful.mem_filterMap.mp deleted)
      cases put
    rw [← framed.tenants id, table]
    refine (Table.has_applyAll undeleted).trans ⟨?_, .inr⟩
    rintro (⟨row, put, rfl⟩ | had)
    · obtain ⟨_, ⟨⟩, has⟩ := own.tenants _ (tenantLawful.mem_filterMap.mp put)
      exact has
    · exact had

variable {query : Query} {context : Context}

theorem own_membership {change : Change TenantMembership Uuid} (own : Own tenantID userID query)
    (write : MembershipWrite context db query change) :
    OwnChange tenantID userID TenantMembership.owner db.memberships change := by
  cases write with
  | insert unused _ =>
      obtain ⟨rfl, rfl⟩ := own
      exact ownChange_put_fresh rfl unused
  | setStatus mem selected =>
      obtain ⟨rfl, rfl⟩ := own
      simp only [TenantMembership.isVersionOf, TenantMembership.isOf, Bool.and_eq_true,
        decide_eq_true_eq] at selected
      exact ownChange_put_over mem (Prod.ext selected.1.1.1 selected.1.1.2) (by simp)
        (by simp [TenantMembership.owner])
  | softDelete mem selected =>
      obtain ⟨rfl, rfl⟩ := own
      simp only [TenantMembership.isVersionOf, TenantMembership.isOf, Bool.and_eq_true,
        decide_eq_true_eq] at selected
      exact ownChange_put_over mem (Prod.ext selected.1.1.1 selected.1.1.2) (by simp)
        (by simp [TenantMembership.owner])
  | delete => exact absurd (List.mem_singleton_self _) (own .memberships (by simp))
  | cascade => exact absurd (by simp) (own .memberships (by simp))

theorem own_role {change : Change TenantRole Uuid} (own : Own tenantID userID query)
    (write : RoleWrite context db query change) :
    OwnChange tenantID userID TenantRole.owner db.roles change := by
  cases write with
  | insert unused _ _ =>
      obtain ⟨rfl, rfl⟩ := own
      exact ownChange_put_fresh rfl unused
  | @softDelete filter row mem selected =>
      have mine : row.owner = (tenantID, userID) := by
        cases filter with
        | grant tenant user code =>
            obtain ⟨rfl, rfl⟩ := own
            simp only [RoleFilter.selects, Bool.and_eq_true, decide_eq_true_eq] at selected
            exact Prod.ext selected.1.1.1 selected.1.1.2
        | user tenant user =>
            obtain ⟨rfl, rfl⟩ := own
            have about := (RoleFilter.selects_user.mp selected).1
            exact Prod.ext about.1 about.2
        | tenant => exact absurd (List.mem_singleton_self _) (own .roles (by simp))
      exact ownChange_put_over mem mine (by simp) (by simp [TenantRole.owner])
  | delete => exact absurd (List.mem_singleton_self _) (own .roles (by simp))
  | cascade => exact absurd (by simp) (own .roles (by simp))

theorem own_dept {change : Change DeptMembership Uuid} (own : Own tenantID userID query)
    (write : DeptWrite context db query change) :
    OwnChange tenantID userID DeptMembership.owner db.depts change := by
  cases write with
  | insert unused _ =>
      obtain ⟨rfl, rfl⟩ := own
      exact ownChange_put_fresh rfl unused
  | @softDelete filter row mem selected =>
      have mine : row.owner = (tenantID, userID) := by
        cases filter with
        | assignment tenant user department =>
            obtain ⟨rfl, rfl⟩ := own
            simp only [DeptFilter.selects, Bool.and_eq_true, decide_eq_true_eq] at selected
            exact Prod.ext selected.1.1.1 selected.1.1.2
        | user tenant user =>
            obtain ⟨rfl, rfl⟩ := own
            have about := (DeptFilter.selects_user.mp selected).1
            exact Prod.ext about.1 about.2
        | tenant => exact absurd (List.mem_singleton_self _) (own .depts (by simp))
        | row => exact absurd (List.mem_singleton_self _) (own .depts (by simp))
      exact ownChange_put_over mem mine (by simp) (by simp [DeptMembership.owner])
  | delete => exact absurd (List.mem_singleton_self _) (own .depts (by simp))
  | cascade => exact absurd (by simp) (own .depts (by simp))

theorem own_tenant {change : Change Tenant Uuid} (own : Own tenantID userID query)
    (write : TenantWrite context db query change) :
    ∃ row, change = .put row ∧ db.tenants.Has row.id := by
  cases write with
  | markOwnerless mem =>
      refine ⟨_, rfl, _, mem, ?_⟩
      rw [Tenant.touch_proj Tenant.id (fun _ _ _ => rfl)]
  | update mem update _ =>
      refine ⟨_, rfl, _, mem, ?_⟩
      rw [Tenant.touch_proj Tenant.id (fun _ _ _ => rfl), TenantUpdate.set_id]
  | insert | patch | setLastEventAt =>
      exact absurd (List.mem_singleton_self _) (own .tenants (by simp))
  | delete => exact absurd (by simp) (own .tenants (by simp))

theorem Framed.kept {result : query.Result} {writes : List Write} (own : Own tenantID userID query)
    (framed : Framed tenantID userID base db)
    (yields : (query.effect context db).Yields result writes) :
    Framed tenantID userID base (dialect.applyAll writes db) :=
  framed.write
    { memberships := fun _ mem => own_membership own (membership_write yields mem)
      roles := fun _ mem => own_role own (role_write yields mem)
      depts := fun _ mem => own_dept own (dept_write yields mem)
      tenants := fun _ mem => own_tenant own (tenant_write yields mem) }

theorem confines_framed : Confines (Own tenantID userID) (Framed tenantID userID base) :=
  fun _ own _ _ _ _ framed yields => framed.kept own yields

theorem inside_framed {program : DbM σ α} {start : Db}
    (issues : Fallible.Issues (Only (Own tenantID userID)) program) :
    Inside start (Framed tenantID userID base) program fun _ => Framed tenantID userID base :=
  inside_only confines_framed issues

theorem own_of_writesTo
    (off : ∀ table ∈ [TableName.tenants, .memberships, .roles, .depts], table ∉ query.writesTo) :
    Own tenantID userID query := by
  unfold Own
  split
  case h_1 | h_2 | h_3 => exact absurd (List.mem_singleton_self _) (off .memberships (by simp))
  case h_4 | h_5 | h_6 => exact absurd (List.mem_singleton_self _) (off .roles (by simp))
  case h_7 | h_8 | h_9 => exact absurd (List.mem_singleton_self _) (off .depts (by simp))
  case h_10 | h_11 => trivial
  case h_12 => exact off

theorem own_of_reads (reads : query.writesTo = []) : Own tenantID userID query :=
  own_of_writesTo fun _ _ => by
    rw [reads]
    exact List.not_mem_nil

theorem own_enqueue (event : DomainEvent) : Own tenantID userID (.event (.enqueue event)) :=
  own_of_writesTo (by simp)

/-! ## The transactions -/

variable {start : Db} {membershipID actorID departmentID : Uuid} {level : DeptRole}

theorem owner_of_assignment {row : DeptMembership}
    (mem : row ∈ assignmentsOf tenantID userID departmentID start) :
    row ∈ start.depts ∧ row.owner = (tenantID, userID) := by
  obtain ⟨here, selected⟩ := Table.mem_select.mp mem
  simp only [DeptFilter.selects, Bool.and_eq_true, decide_eq_true_eq] at selected
  exact ⟨here, Prod.ext selected.1.1.1 selected.1.1.2⟩

/-- One department row of this user is written. -/
theorem Framed.putDept (framed : Framed tenantID userID base start) {row : DeptMembership}
    (own : OwnChange tenantID userID DeptMembership.owner start.depts (.put row)) :
    Framed tenantID userID base { start with depts := start.depts.put row } := by
  have writes : OwnWrites tenantID userID start [.dept (.put row)] :=
    { memberships := by simp
      roles := by simp
      depts := by
        intro change mem
        cases List.mem_singleton.mp mem
        exact own
      tenants := by simp }
  exact framed.write writes

theorem Framed.assigned {result : DeptMembership × Option DeptMembership} {grantedBy : Uuid}
    (framed : Framed tenantID userID base start)
    (assigned : Assigned tenantID userID departmentID membershipID level grantedBy start result
      db) : Framed tenantID userID base db := by
  have revokes : ∀ {existing rest} now,
      assignmentsOf tenantID userID departmentID start = existing :: rest →
      Framed tenantID userID base
        { start with depts := start.depts.put (existing.revoked now) } := by
    intro existing rest now found
    obtain ⟨here, mine⟩ := owner_of_assignment (found ▸ List.mem_cons_self)
    exact framed.putDept (ownChange_put_over here mine (by simp) (by simp [DeptMembership.owner]))
  cases assigned with
  | fresh context _ unused => exact framed.putDept (ownChange_put_fresh rfl unused)
  | held => exact framed
  | moved existing now context found _ unused =>
      refine (revokes now found).putDept (ownChange_put_fresh rfl fun other mem => ?_)
      rcases Table.mem_put.mp mem with rfl | ⟨old, _⟩
      · rw [DeptMembership.revoked_id]
        exact unused existing (owner_of_assignment (found ▸ List.mem_cons_self)).1
      · exact unused other old
  | absorbed existing winner rest now found => exact revokes now found

theorem inside_framed_assign {grantedBy : Uuid} :
    Inside start (Framed tenantID userID base) (DeptMembershipRepository.assign tenantID userID
      departmentID membershipID level grantedBy : DbM σ _) fun _ => Framed tenantID userID base :=
  inside_of_start fun _ framed => DeptMembershipRepository.inside_assign.weaken
    (fun _ same => same) fun _ _ assigned => framed.assigned assigned

theorem grantAllowed_own : GrantAllowed (Own tenantID userID) tenantID userID :=
  ⟨fun _ _ _ => ⟨rfl, rfl⟩, fun _ => own_of_reads rfl, fun _ _ => own_enqueue _⟩

theorem removalAllowed_own (version : Int) :
    RemovalAllowed (Own tenantID userID) tenantID userID version :=
  ⟨own_of_reads rfl, fun _ => ⟨rfl, rfl⟩, own_of_reads rfl, fun _ => ⟨rfl, rfl⟩, own_of_reads rfl,
    fun _ => ⟨rfl, rfl⟩, own_of_reads rfl, fun _ _ => own_enqueue _⟩

theorem issues_own_reconcileTx {strippingOwner : Bool} {grants revokes : List TenantRoleCode} :
    Fallible.Issues (Only (Own tenantID userID))
      (reconcileTx tenantID userID membershipID actorID strippingOwner grants revokes) := by
  refine (issues_guardStripping (own_of_reads rfl) (own_of_reads rfl)).bind fun _ => ?_
  refine (Fallible.Issues.forM fun _ _ =>
    issues_grantRole ⟨rfl, rfl⟩ (own_of_reads rfl) fun _ _ => own_enqueue _).bind fun _ => ?_
  exact Fallible.Issues.forM fun _ _ =>
    issues_revokeRole (own_of_reads rfl) (fun _ => ⟨rfl, rfl⟩) fun _ _ => own_enqueue _

theorem issues_own_removeTx :
    Fallible.Issues (Only (Own tenantID userID))
      (removeTx tenantID userID departmentID actorID : DbM σ _) := by
  have removes : Fallible.Issues (Only (Own tenantID userID))
      (DeptMembershipRepository.remove tenantID userID departmentID : DbM σ _) := by
    refine (issues_send (own_of_reads rfl)).bind fun ids => ?_
    refine (issues_visitEach (fun id => issues_send ⟨rfl, rfl⟩) ids).bind fun rows => ?_
    cases rows with
    | nil => exact Fallible.issues_throw _
    | cons row rows => exact Fallible.issues_pure _
  exact removes.bind fun row => (issues_send (own_enqueue _)).bind fun _ => Fallible.issues_pure _

theorem issues_own_reassignOwnerTx :
    Fallible.Issues (Only (Own tenantID userID))
      (reassignOwnerTx tenantID userID membershipID actorID : DbM σ _) := by
  have clears : Fallible.Issues (Only (Own tenantID userID))
      (TenantRepository.clearOwnerlessSince tenantID : DbM σ _) :=
    (issues_send trivial).bind fun _ => Fallible.issues_pure _
  refine (TenantRoleRepository.issues_grant ⟨rfl, rfl⟩ (own_of_reads rfl)).bind fun granted => ?_
  exact clears.bind fun _ => (issues_send (own_enqueue _)).bind fun _ => Fallible.issues_pure _

theorem inside_framed_enqueueEach {events : List DomainEvent} :
    Inside start (Framed tenantID userID base) (events.forM fun event => (enqueue event : DbM σ _))
      fun _ => Framed tenantID userID base :=
  inside_framed (Fallible.Issues.forM fun _ _ => issues_send (own_enqueue _))

theorem inside_framed_assignTx :
    Inside start (Framed tenantID userID base)
      (assignTx tenantID userID departmentID membershipID actorID level : DbM σ _)
      fun _ => Framed tenantID userID base :=
  Inside.bind inside_framed_assign fun _ => Inside.bind inside_framed_enqueueEach fun _ =>
    inside_pure fun _ framed => framed

theorem inside_framed_assignFromGroupsTx {targets : List (Uuid × DeptRole)}
    {roles : TenantRoleCode → Bool} {order : MapOrder} :
    Inside start (Framed tenantID userID base)
      (assignFromGroupsTx tenantID userID membershipID targets roles order)
      fun _ => Framed tenantID userID base := by
  have resolves : ∀ target, Inside start (Framed tenantID userID base)
      (assignResolved tenantID userID membershipID target) fun _ => Framed tenantID userID base :=
    fun target => Inside.bind inside_framed_assign fun _ =>
      Inside.bind (inside_framed (Fallible.issues_modify _)) fun _ => inside_framed_enqueueEach
  refine Inside.bind (Attempt.forM fun target _ => resolves target) fun _ => ?_
  refine Inside.bind (inside_framed (issues_send (own_of_reads rfl))) fun existing => ?_
  exact inside_framed (Fallible.Issues.forM fun _ _ => issues_grantResolved grantAllowed_own)

theorem inside_framed_addFromRegisterTx :
    Inside start (Framed tenantID userID base) (addFromRegisterTx tenantID userID)
      fun _ => Framed tenantID userID base := by
  have relocks : Inside start (Framed tenantID userID base) (relockPending tenantID)
      fun _ => Framed tenantID userID base :=
    inside_framed (issues_relockPending ⟨fun _ => own_of_reads rfl, own_of_reads rfl,
      own_of_reads rfl, own_of_reads rfl, own_of_reads rfl⟩)
  have assigns : ∀ membershipID invitedBy mapping, Inside start (Framed tenantID userID base)
      (assignInitial tenantID userID membershipID invitedBy mapping :
        DbM (Option PendingInvitation) _)
      fun _ => Framed tenantID userID base :=
    fun _ _ _ => Inside.bind inside_framed_assign fun _ =>
      inside_framed (issues_send (own_enqueue _))
  refine Inside.bind (inside_framed (TenantRepository.issues_lockByID (own_of_reads rfl)))
    fun _ => ?_
  refine Inside.bind relocks fun pending => ?_
  refine Inside.bind (inside_framed (MembershipRepository.issues_insert ⟨rfl, rfl⟩
    (own_of_reads rfl))) fun membership => ?_
  cases pending with
  | none => exact inside_pure fun _ framed => framed
  | some pending =>
      have accepts : Inside start (Framed tenantID userID base)
          (acceptInvitation tenantID userID membership.id pending :
            DbM (Option PendingInvitation) _)
          fun _ => Framed tenantID userID base := by
        refine Inside.bind (inside_framed (InvitationRepository.issues_setStatus
          (own_of_writesTo (by simp)) (own_of_reads rfl))) fun _ => ?_
        refine Inside.bind (inside_framed (Fallible.Issues.forM fun _ _ =>
          issues_grantInitial grantAllowed_own)) fun _ => ?_
        exact Attempt.forM fun mapping _ => assigns _ _ mapping
      exact Inside.bind accepts fun _ => inside_pure fun _ framed => framed

/-! ## The calls -/

section Calls

variable {given : Chance PgError → Bool} {pre : Db → Prop}

/-- The calls of the services leave the other users alone when they go through. -/
abbrev Frames (given : Chance PgError → Bool) (tenantID userID : Uuid) (base : Db)
    (pre : Db → Prop) (program : DbM σ α) : Prop :=
  AloneBy given pre program (fun _ => Framed tenantID userID base) fun _ => pre

variable (restores : Restores given pre (Framed tenantID userID base))

include restores

theorem frames_setStatus {status : MembershipStatus} {version : Int} {workflow : WorkflowAnswer} :
    Frames given tenantID userID base pre
      (setStatus tenantID userID status version workflow : DbM σ _) :=
  alone_setStatus confines_framed restores (fun _ => own_of_reads) fun _ => ⟨rfl, rfl⟩

theorem frames_setMembershipStatus {status : MembershipStatus} {version : Int} :
    Frames given tenantID userID base pre
      (setMembershipStatus tenantID userID status version : DbM σ _) :=
  alone_setMembershipStatus confines_framed restores (fun _ => own_of_reads) fun _ => ⟨rfl, rfl⟩

theorem frames_reconcileRoles {desired : List TenantRoleCode} {isServiceAccount : Bool}
    {grantOrder revokeOrder : MapOrder} :
    Frames given tenantID userID base pre (reconcileRoles tenantID userID desired actorID
      isServiceAccount grantOrder revokeOrder : DbM σ _) := by
  have reconciles : ∀ membershipID strippingOwner grants revokes,
      Frames given tenantID userID base pre (runInTx
        (reconcileTx tenantID userID membershipID actorID strippingOwner grants revokes)) :=
    fun _ _ _ _ => alone_runInTx_keeping restores fun _ => inside_framed issues_own_reconcileTx
  exact atomic_reconcileRoles (reader_solo pre) fun _ _ _ _ _ _ => reconciles _ _ _ _

theorem frames_removeUser {workflow : WorkflowAnswer} :
    Frames given tenantID userID base pre
      (removeUser tenantID userID actorID workflow : DbM σ _) :=
  alone_removeUser confines_framed restores (fun _ => own_of_reads) removalAllowed_own

theorem frames_deleteMember :
    Frames given tenantID userID base pre (deleteMember tenantID userID : DbM σ _) :=
  alone_deleteMember confines_framed restores (fun _ => own_of_reads) removalAllowed_own trivial

theorem frames_assign {level : DeptRole} {answers : AssignAnswers} :
    Frames given tenantID userID base pre
      (assign tenantID userID departmentID level actorID answers : DbM σ _) := by
  have assigns : ∀ membershipID, Frames given tenantID userID base pre
      (runInTx (assignTx tenantID userID departmentID membershipID actorID level) : DbM σ _) :=
    fun _ => alone_runInTx_keeping restores fun _ => inside_framed_assignTx
  exact atomic_assign (reader_solo pre) assigns

theorem frames_remove {impact : Option DelegateImpact} :
    Frames given tenantID userID base pre
      (remove tenantID userID departmentID actorID impact : DbM σ _) := by
  have removes : Frames given tenantID userID base pre
      (runInTx (removeTx tenantID userID departmentID actorID) : DbM σ _) :=
    alone_runInTx_keeping restores fun _ => inside_framed issues_own_removeTx
  exact attempt_remove (fun _ _ _ here => here) removes

theorem frames_assignFromGroups {groups : List String} {mappings : GroupMappings}
    {order : MapOrder} :
    Frames given tenantID userID base pre
      (assignFromGroups tenantID userID groups mappings order : DbM σ _) := by
  have assigns : ∀ membershipID, Frames given tenantID userID base pre
      (runInTx (assignFromGroupsTx tenantID userID membershipID
        (resolveDeptRoles mappings groups) (resolvesRole mappings groups) order)) :=
    fun _ => alone_runInTx_keeping restores fun _ => inside_framed_assignFromGroupsTx
  exact atomic_assignFromGroups (reader_solo pre)
    (fun _ _ here => ⟨here.1, restores.holds _ here.2⟩) assigns

theorem frames_addFromRegister {keycloakUserID : Uuid} {email : String}
    {isServiceAccount : Bool} :
    Frames given tenantID userID base pre
      (addFromRegister tenantID userID keycloakUserID email isServiceAccount : DbM σ _) :=
  alone_addFromRegister confines_framed restores
    (fun _ => inside_framed_addFromRegisterTx) fun _ => own_of_writesTo (by simp)

theorem frames_reassignOwner :
    Frames given tenantID userID base pre
      (reassignOwner tenantID userID actorID : DbM σ _) := by
  have reassigns : ∀ membershipID, Frames given tenantID userID base pre
      (runInTx (reassignOwnerTx tenantID userID membershipID actorID) : DbM σ _) :=
    fun _ => alone_runInTx_keeping restores fun _ => inside_framed issues_own_reassignOwnerTx
  exact atomic_reassignOwner (reader_solo pre) reassigns

theorem frames_performCall {call : UserCall} :
    Frames given tenantID userID base pre (performCall tenantID userID call) := by
  have drop : ∀ {β : Type} {program : DbM Unit β}, Frames given tenantID userID base pre program →
      Frames given tenantID userID base pre (program >>= fun _ => pure ()) :=
    fun frames => AloneBy.bind frames fun _ => alone_pure fun _ framed => framed
  cases call with
  | setStatus => exact drop (frames_setStatus restores)
  | reconcileRoles => exact drop (frames_reconcileRoles restores)
  | removeUser => exact frames_removeUser restores
  | setMembershipStatus => exact drop (frames_setMembershipStatus restores)
  | deleteMember => exact drop (frames_deleteMember restores)
  | assign => exact drop (frames_assign restores)
  | remove => exact drop (frames_remove restores)
  | assignFromGroups => exact drop (frames_assignFromGroups restores)
  | addFromRegister => exact drop (frames_addFromRegister restores)
  | reassignOwner => exact drop (frames_reassignOwner restores)

end Calls

end OrgMembership

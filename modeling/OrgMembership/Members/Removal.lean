import OrgMembership.Repository.Alone
import OrgMembership.Service.Calls
import OrgMembership.Service.Reads

/-!
# The removal cascade

With no concurrent writer, P-8 `RemoveUser` and I-5 `DeleteMember` end every live row of
the user, publish one event for each of them, and change no row of anyone else.  I-5
answers for a user without a live membership that the removal is done, so that its caller
can repeat it, and then looks no further: rows that such a user still has stay.
-/

namespace OrgMembership

open Concurrency Relational

variable {σ : Type} {given : Chance PgError → Bool}

namespace Removal

/-- What a removal publishes. -/
def events (tenantID userID : Uuid) (actors : RemovalActors) (db : Db) : List DomainEvent :=
  ((rolesOf tenantID userID db).map fun row =>
      ⟨tenantID, userID, .tenantRoleRevoked userID tenantID row.roleCode actors.role⟩) ++
    ((deptsOf tenantID userID db).map fun row =>
      ⟨tenantID, userID,
        .departmentMembershipRevoked userID tenantID row.departmentID actors.dept⟩) ++
    [⟨tenantID, userID, .membershipRevoked tenantID userID actors.membership⟩]

end Removal

open Removal in
/-- The user is gone, every live row that there was has been announced, and no row of anyone
else has changed. -/
structure Removed (tenantID userID : Uuid) (actors : RemovalActors) (before after : Db) : Prop where
  gone : isMember tenantID userID after = false
  roleless : rolesOf tenantID userID after = []
  deptless : deptsOf tenantID userID after = []
  published : after.outbox = before.outbox ++ events tenantID userID actors before
  others : ∀ otherTenant otherUser, (otherTenant, otherUser) ≠ (tenantID, userID) →
    rowsOf otherTenant otherUser after = rowsOf otherTenant otherUser before
  tenantDepts : after.tenantDepts = before.tenantDepts
  labels : after.labels = before.labels
  invitations : after.invitations = before.invitations
  ledger : after.ledger = before.ledger
  processed : after.processed = before.processed
  parked : after.parked = before.parked
  tenants : after.tenants.select (·.id ≠ tenantID) = before.tenants.select (·.id ≠ tenantID)
  realm : after.realm = before.realm

namespace Removal

variable {tenantID userID : Uuid} {base start : Db}

/-! ## The statements of the cascade -/

theorem applyAll_roles (rows : List TenantRole) (db : Db) :
    dialect.applyAll (rows.map fun row => roleAccess.change (.put row)) db =
      { db with roles := db.roles.applyAll (rows.map .put) } := by
  induction rows generalizing db with
  | nil => rfl
  | cons row rows ih => exact ih _

theorem applyAll_depts (rows : List DeptMembership) (db : Db) :
    dialect.applyAll (rows.map fun row => deptAccess.change (.put row)) db =
      { db with depts := db.depts.applyAll (rows.map .put) } := by
  induction rows generalizing db with
  | nil => rfl
  | cons row rows ih => exact ih _

theorem applyAll_memberships (rows : List TenantMembership) (db : Db) :
    dialect.applyAll (rows.map fun row => membershipAccess.change (.put row)) db =
      { db with memberships := db.memberships.applyAll (rows.map .put) } := by
  induction rows generalizing db with
  | nil => rfl
  | cons row rows ih => exact ih _

/-- A row and its revocation. -/
abbrev RoleRevoked : TenantRole → TenantRole → Prop :=
  Replaces fun context row => row.revoked (txNow context)

/-- A department row and what its removal makes of it. -/
abbrev DeptRevoked : DeptMembership → DeptMembership → Prop :=
  Replaces fun context row => row.revoked (txNow context)

/-- A membership and what its removal makes of it. -/
abbrev MembershipEnded : TenantMembership → TenantMembership → Prop :=
  Replaces fun context row => row.ended (txNow context)

theorem inside_revokeRoles :
    Inside base (· = start)
      (TenantRoleRepository.softDeleteAllForUser tenantID userID : DbM σ _)
      fun rows db => List.Forall₂ RoleRevoked (rolesOf tenantID userID start) rows ∧
        db = { start with roles := start.roles.applyAll (rows.map .put) } := by
  have scans : Scans base roleAccess (RoleFilter.selects · (.user tenantID userID))
      (roleQuery (.scan (.user tenantID userID)) : DbM σ _) :=
    fun start => inside_read (fun _ _ => rfl) fun _ db same => same ▸ ⟨rfl, rfl⟩
  have visits : Updates base roleAccess (RoleFilter.selects · (.user tenantID userID))
      (fun context row => row.revoked (txNow context))
      (fun id => roleQuery (.softDelete (.user tenantID userID) id) : Uuid → DbM σ _) :=
    fun id _ _ evaluates => show Inside base _ (send .pg (.role (.softDelete _ id))) _ from
      inside_send evaluates
  refine (inside_update roleLawful (fun _ _ => TenantRole.revoked_id _ _) scans visits).weaken
    (fun _ same => same) fun rows db after => ⟨after.1, ?_⟩
  rw [after.2, applyAll_roles]

theorem inside_revokeDepts :
    Inside base (· = start)
      (DeptMembershipRepository.softDeleteAllForUser tenantID userID : DbM σ _)
      fun rows db => List.Forall₂ DeptRevoked (deptsOf tenantID userID start) rows ∧
        db = { start with depts := start.depts.applyAll (rows.map .put) } := by
  have scans : Scans base deptAccess (DeptFilter.selects · (.user tenantID userID))
      (deptQuery (.scan (.user tenantID userID)) : DbM σ _) :=
    fun start => inside_read (fun _ _ => rfl) fun _ db same => same ▸ ⟨rfl, rfl⟩
  have visits : Updates base deptAccess (DeptFilter.selects · (.user tenantID userID))
      (fun context row => row.revoked (txNow context))
      (fun id => deptQuery (.softDelete (.user tenantID userID) id) : Uuid → DbM σ _) :=
    fun id _ _ evaluates => show Inside base _ (send .pg (.dept (.softDelete _ id))) _ from
      inside_send evaluates
  refine (inside_update deptLawful (fun _ _ => DeptMembership.revoked_id _ _) scans visits).weaken
    (fun _ same => same) fun rows db after => ⟨after.1, ?_⟩
  rw [after.2, applyAll_depts]

theorem inside_endMembership {version : Int} :
    Inside base (· = start) (MembershipRepository.softDelete tenantID userID version : DbM σ _)
      fun _ db => ∃ rows, List.Forall₂ MembershipEnded
          (start.memberships.select (·.isVersionOf tenantID userID version)) rows ∧
        db = { start with memberships := start.memberships.applyAll (rows.map .put) } := by
  have scans : Inside base (· = start)
      (membershipQuery (.scan tenantID userID version) : DbM σ _) fun ids db =>
        ids = (start.memberships.select (·.isVersionOf tenantID userID version)).map
          TenantMembership.id ∧ db = start :=
    inside_read (fun _ _ => rfl) fun _ db same => same ▸ ⟨rfl, rfl⟩
  have visits : Updates base membershipAccess (·.isVersionOf tenantID userID version)
      (fun context row => row.ended (txNow context))
      (fun id => membershipQuery (.softDelete id tenantID userID version) : Uuid → DbM σ _) :=
    fun id _ _ evaluates =>
      show Inside base _ (send .pg (.membership (.softDelete id _ _ _))) _ from
        inside_send evaluates
  refine Inside.bind scans fun ids => inside_of_fact fun found => ?_
  rw [found]
  refine Inside.bind (inside_visitEach membershipLawful
    (fun _ _ => TenantMembership.ended_id _ _) visits) fun rows => ?_
  cases rows with
  | nil =>
      have looks : Inside base (fun _ => True)
          (membershipQuery (.findByUserID tenantID userID) : DbM σ _) fun _ _ => True :=
        inside_read (fun _ _ => rfl) fun _ _ _ => trivial
      refine Inside.bind (looks.weaken (fun _ _ => trivial) fun _ _ _ => trivial) fun found => ?_
      cases found with
      | none => exact inside_throw
      | some row => exact inside_throw
  | cons row rows =>
      refine inside_pure fun db after => ⟨row :: rows, after.1, ?_⟩
      rw [after.2, applyAll_memberships]

/-! ## The cascade -/

section Replaced

variable {roles : List TenantRole} {depts : List DeptMembership}
  {memberships : List TenantMembership}

theorem rolesOf_replaced
    (replaced : List.Forall₂ RoleRevoked (rolesOf tenantID userID start) roles) :
    (start.roles.applyAll (roles.map .put)).select
      (RoleFilter.selects · (.user tenantID userID)) = [] := by
  apply Table.select_eq_nil
  intro row mem
  rcases Table.mem_replaced (fun _ _ ⟨_, made⟩ => made ▸ TenantRole.revoked_id _ _) replaced mem
    with ⟨old, context, rfl⟩ | ⟨_, missed⟩
  · simp [RoleFilter.selects]
  · exact missed

theorem deptsOf_replaced
    (replaced : List.Forall₂ DeptRevoked (deptsOf tenantID userID start) depts) :
    (start.depts.applyAll (depts.map .put)).select
      (DeptFilter.selects · (.user tenantID userID)) = [] := by
  apply Table.select_eq_nil
  intro row mem
  rcases Table.mem_replaced (fun _ _ ⟨_, made⟩ => made ▸ DeptMembership.revoked_id _ _) replaced
      mem with ⟨old, context, rfl⟩ | ⟨_, missed⟩
  · simp [DeptFilter.selects]
  · exact missed

/-- The unique index of live memberships lets the version of the one found select it. -/
theorem first?_replaced {membership : TenantMembership}
    (unique : start.memberships.DistinctBy membershipAccess.entries)
    (mem : membership ∈ start.memberships) (isOf : membership.isOf tenantID userID = true)
    (replaced : List.Forall₂ MembershipEnded
      (start.memberships.select (·.isVersionOf tenantID userID membership.recordVersion))
      memberships) :
    (start.memberships.applyAll (memberships.map .put)).first? (·.isOf tenantID userID) = none := by
  rw [Table.first?_eq_none]
  intro row memRow
  rcases Table.mem_replaced (fun _ _ ⟨_, made⟩ => made ▸ TenantMembership.ended_id _ _) replaced
      memRow with ⟨old, context, rfl⟩ | ⟨old, missed⟩
  · simp [TenantMembership.isOf]
  · by_contra found
    rw [Bool.not_eq_false] at found
    have entry : ∀ row : TenantMembership, row.isOf tenantID userID = true →
        LockKey.uqTmActiveUser tenantID userID ∈ membershipAccess.entries row := by
      intro row isOf
      simp only [TenantMembership.isOf, Bool.and_eq_true, decide_eq_true_eq] at isOf
      simp [membershipAccess, isOf]
    have same := unique row old membership mem _ (entry row found) (entry membership isOf)
    simp [same, TenantMembership.isVersionOf, isOf] at missed

theorem rowsOf_replaced {version : Int} {otherTenant otherUser : Uuid} {after : Db}
    (other : (otherTenant, otherUser) ≠ (tenantID, userID))
    (rolesReplaced : List.Forall₂ RoleRevoked (rolesOf tenantID userID start) roles)
    (deptsReplaced : List.Forall₂ DeptRevoked (deptsOf tenantID userID start) depts)
    (membershipsReplaced : List.Forall₂ MembershipEnded
      (start.memberships.select (·.isVersionOf tenantID userID version)) memberships)
    (rolesAfter : after.roles = start.roles.applyAll (roles.map .put))
    (deptsAfter : after.depts = start.depts.applyAll (depts.map .put))
    (membershipsAfter :
      after.memberships = start.memberships.applyAll (memberships.map .put)) :
    rowsOf otherTenant otherUser after = rowsOf otherTenant otherUser start := by
  rw [rowsOf, rowsOf, rolesAfter, deptsAfter, membershipsAfter, MemberRows.mk.injEq]
  refine ⟨?_, ?_, ?_⟩
  · apply Table.select_replaced (fun _ _ ⟨_, made⟩ => made ▸ TenantMembership.ended_id _ _)
      membershipsReplaced
    · intro row selected
      simp only [TenantMembership.isVersionOf, TenantMembership.isOf, Bool.and_eq_true,
        decide_eq_true_eq] at selected
      exact apart_of_ne other selected.1.1
    · rintro old _ ⟨context, rfl⟩ missed
      simpa using missed
  · apply Table.select_replaced (fun _ _ ⟨_, made⟩ => made ▸ TenantRole.revoked_id _ _)
      rolesReplaced
    · exact fun row selected => apart_of_ne other (RoleFilter.selects_user.mp selected).1
    · rintro old _ ⟨context, rfl⟩ missed
      simpa using missed
  · apply Table.select_replaced (fun _ _ ⟨_, made⟩ => made ▸ DeptMembership.revoked_id _ _)
      deptsReplaced
    · exact fun row selected => apart_of_ne other (DeptFilter.selects_user.mp selected).1
    · rintro old _ ⟨context, rfl⟩ missed
      simpa using missed

end Replaced

theorem inside_cascadeRemoval {actors : RemovalActors} {membership : TenantMembership}
    (unique : start.memberships.DistinctBy membershipAccess.entries)
    (mem : membership ∈ start.memberships) (isOf : membership.isOf tenantID userID = true) :
    Inside base (· = start)
      (cascadeRemoval tenantID userID actors membership.recordVersion : DbM σ _)
      fun _ => Removed tenantID userID actors start := by
  refine Inside.bind inside_revokeRoles fun roles => inside_of_fact fun rolesReplaced => ?_
  refine Inside.bind (inside_enqueueEach _) fun _ => ?_
  refine Inside.bind inside_revokeDepts fun depts => inside_of_fact fun deptsReplaced => ?_
  refine Inside.bind (inside_enqueueEach _) fun _ => Inside.bind inside_enqueue fun _ => ?_
  refine inside_endMembership.weaken (fun _ same => same) ?_
  rintro _ _ ⟨memberships, membershipsReplaced, rfl⟩
  have roleEvents : (roles.map fun row => (⟨tenantID, userID,
      .tenantRoleRevoked userID tenantID row.roleCode actors.role⟩ : DomainEvent)) = _ :=
    Table.map_of_forall₂ (by
      rintro old _ ⟨context, rfl⟩
      rw [TenantRole.revoked_roleCode]) rolesReplaced
  have deptEvents : (depts.map fun row => (⟨tenantID, userID,
      .departmentMembershipRevoked userID tenantID row.departmentID actors.dept⟩ :
        DomainEvent)) = _ :=
    Table.map_of_forall₂ (by
      rintro old _ ⟨context, rfl⟩
      rw [DeptMembership.revoked_departmentID]) deptsReplaced
  exact
    { gone := by
        rw [isMember, first?_replaced unique mem isOf membershipsReplaced]
        rfl
      roleless := rolesOf_replaced rolesReplaced
      deptless := deptsOf_replaced deptsReplaced
      published := by
        simp only [roleEvents, deptEvents, events, List.append_assoc]
        rfl
      others := fun _ _ other => rowsOf_replaced other rolesReplaced deptsReplaced
        membershipsReplaced rfl rfl rfl
      tenantDepts := rfl
      labels := rfl
      invitations := rfl
      ledger := rfl
      processed := rfl
      parked := rfl
      tenants := rfl
      realm := rfl }

/-- I-5 may mark the tenant. -/
theorem inside_escalateOwnerless {actors : RemovalActors} {wasOwner : Bool} :
    Inside base (Removed tenantID userID actors start)
      (escalateOwnerless tenantID wasOwner : DbM σ _)
      fun _ => Removed tenantID userID actors start := by
  rw [escalateOwnerless]
  split
  · have counts : Inside base (Removed tenantID userID actors start)
        (TenantRoleRepository.countActiveOwners tenantID : DbM σ _)
        fun _ => Removed tenantID userID actors start :=
      inside_read (fun _ _ => rfl) fun _ _ removed => removed
    refine Inside.bind counts fun owners => ?_
    split
    · refine inside_send fun context db result writes removed yields => ?_
      obtain ⟨found, yields, _⟩ := Effect.yields_map.mp yields
      rcases Access.updateRow_cases yields with
        ⟨_, rfl, _⟩ | ⟨row, _, updated, about, _, computed, _, rfl, _⟩
      · exact removed
      · have same : updated.id = tenantID := by
          rw [(Tenant.update_eq_ok.mp (updateTenant_eq_ok computed)).1, ← about]
          exact Tenant.touch_proj Tenant.id (fun _ _ _ => rfl) _ _ _
        have kept : (db.tenants.apply (.put updated)).select (·.id ≠ tenantID) =
            db.tenants.select (·.id ≠ tenantID) :=
          Table.select_apply_of_apart
            (by
              rintro _ ⟨⟩
              simp [same])
            fun other _ sameKey => by simp [sameKey, Change.target, same]
        exact { removed with tenants := kept.trans removed.tenants }
    · exact inside_pure fun _ removed => removed
  · exact inside_pure fun _ removed => removed

/-! ## The calls -/

/-- What a failed lookup tells. -/
def Unfound (tenantID userID : Uuid) (start : Db) (failure : Failure) : Prop :=
  failure.is .memberNotFound = true ∧ isMember tenantID userID start = false ∨
    ∃ fault, failure = .pg fault

theorem attempt_findByUserID :
    Attempt server solo (Seen base (· = start))
      (MembershipRepository.findByUserID tenantID userID : DbM σ _)
      (fun membership => Seen base fun db =>
        (membership ∈ start.memberships ∧ membership.isOf tenantID userID = true) ∧ db = start)
      fun failure => Seen base fun db => Unfound tenantID userID start failure ∧ db = start := by
  have looks : Attempt server solo (Seen base (· = start))
      (membershipQuery (.findByUserID tenantID userID) : DbM σ _)
      (fun found => Seen base fun db =>
        found = start.memberships.first? (·.isOf tenantID userID) ∧ db = start)
      fun failure => Seen base fun db => Unfound tenantID userID start failure ∧ db = start := by
    apply attempt_read lenient_solo stable_seen (fun _ _ => rfl)
    · rintro server session fresh _ ⟨committed, same⟩ _
      rw [same]
      refine ⟨committed, rfl, ?_⟩
      rw [Dialect.view_extended, same]
      rfl
    · exact fun fault _ _ _ seen => ⟨seen.1, .inr ⟨fault, rfl⟩, seen.2⟩
  refine Attempt.bind looks fun found => ?_
  cases found with
  | none =>
      refine Attempt.throw fun server session _ seen => ⟨seen.1, .inl ⟨rfl, ?_⟩, seen.2.2⟩
      rw [isMember, ← seen.2.1]
      rfl
  | some membership =>
      exact Attempt.pure fun server session _ seen =>
        ⟨seen.1, Table.first?_some seen.2.1.symm, seen.2.2⟩

theorem isMember_of_mem {membership : TenantMembership} (mem : membership ∈ start.memberships)
    (isOf : membership.isOf tenantID userID = true) : isMember tenantID userID start = true := by
  rw [isMember, Option.isSome_iff_ne_none]
  intro absent
  rw [Table.first?_eq_none.mp absent membership mem] at isOf
  cases isOf

theorem inside_removeUserTx {actorID : Uuid} (unique : isMember tenantID userID start = true →
      start.memberships.DistinctBy membershipAccess.entries) :
    Inside base (· = start) (removeUserTx tenantID userID actorID : DbM σ _)
      fun _ db => isMember tenantID userID start = true ∧
        Removed tenantID userID ⟨actorID, actorID, actorID⟩ start db := by
  have finds : Inside base (· = start)
      (MembershipRepository.findByUserID tenantID userID : DbM σ _) fun membership db =>
        (membership ∈ start.memberships ∧ membership.isOf tenantID userID = true) ∧ db = start :=
    Attempt.weaken attempt_findByUserID (fun _ _ _ seen => seen) (fun _ _ _ _ seen => seen)
      fun _ _ _ _ seen => seen.1
  refine Inside.bind (inside_reads (TenantRepository.issues_lockByID rfl)) fun _ => ?_
  refine Inside.bind finds fun membership => inside_of_fact fun found => ?_
  refine Inside.bind (inside_reads (issues_send rfl)) fun roles => ?_
  refine Inside.bind (inside_reads (issues_guardOwnerRemoval rfl)) fun _ => ?_
  have member := isMember_of_mem found.1 found.2
  exact (inside_cascadeRemoval (unique member) found.1 found.2).weaken (fun _ same => same)
    fun _ _ removed => ⟨member, removed⟩

/-- A user who is gone is left alone, and only the server can fail. -/
theorem attempt_deleteMemberTx (unique : isMember tenantID userID start = true →
      start.memberships.DistinctBy membershipAccess.entries) :
    Attempt server solo (Seen base (· = start)) (deleteMemberTx tenantID userID : DbM σ _)
      (fun _ => Seen base fun db =>
        (isMember tenantID userID start = true →
          Removed tenantID userID ⟨0, 0, systemActorID⟩ start db) ∧
        (isMember tenantID userID start = false → db = start))
      fun failure server _ => server.db = base ∧
        (isMember tenantID userID start = false → ∃ fault, failure = .pg fault) := by
  refine Attempt.bind (Attempt.observe attempt_findByUserID) fun found => ?_
  cases found with
  | error failure =>
      dsimp only
      split
      case isTrue missing =>
        refine Attempt.pure fun server session _ seen =>
          ⟨seen.1, fun member => ?_, fun _ => seen.2.2⟩
        rcases seen.2.1 with ⟨_, absent⟩ | ⟨fault, rfl⟩
        · rw [absent] at member
          cases member
        · cases missing
      case isFalse other =>
        refine Attempt.throw fun server session _ seen => ⟨seen.1, fun _ => ?_⟩
        rcases seen.2.1 with ⟨missing, _⟩ | faulted
        · exact absurd missing other
        · exact faulted
  | ok membership =>
      have removes : (membership ∈ start.memberships ∧ membership.isOf tenantID userID = true) →
          Inside base (· = start) (do
            let roles ← TenantRoleRepository.listByUser tenantID userID
            cascadeRemoval tenantID userID ⟨0, 0, systemActorID⟩ membership.recordVersion
            escalateOwnerless tenantID (holdsOwner roles) : DbM σ Bool)
            fun _ => Removed tenantID userID ⟨0, 0, systemActorID⟩ start := fun found =>
        Inside.bind (inside_reads (issues_send rfl)) fun _ =>
          Inside.bind (inside_cascadeRemoval (unique (isMember_of_mem found.1 found.2)) found.1
            found.2) fun _ => inside_escalateOwnerless
      refine Attempt.strengthen (Attempt.of_fact fun found =>
        Attempt.weaken (removes found) (fun _ _ _ seen => seen) ?_ ?_)
        fun _ _ _ seen => ⟨seen.2.1, seen.1, seen.2.2⟩
      · intro _ server session _ seen
        refine ⟨seen.1, fun _ => seen.2, fun absent => ?_⟩
        rw [isMember_of_mem found.1 found.2] at absent
        cases absent
      · intro _ server session _ same
        refine ⟨same, fun absent => ?_⟩
        rw [isMember_of_mem found.1 found.2] at absent
        cases absent

/-- The two ways to remove a user. -/
inductive Call
  | removeUser (actorID : Uuid) (workflow : WorkflowAnswer)
  | deleteMember
  deriving DecidableEq

/-- The code of a removal. -/
def code (tenantID userID : Uuid) : Call → DbM Unit Unit
  | .removeUser actorID workflow => removeUser tenantID userID actorID workflow
  | .deleteMember => do
      let _ ← deleteMember tenantID userID
      return ()

/-- The actors that the events of a call name. -/
def Call.actors : Call → RemovalActors
  | .removeUser actorID _ => ⟨actorID, actorID, actorID⟩
  | .deleteMember => ⟨0, 0, systemActorID⟩

/-- A failure that stems from the server, not from the code. -/
def ServerFault (failure : Failure) : Prop :=
  ∃ fault, failure = wrapConnErr (.pg fault)

/-- The rows after a removal that went through. -/
def Done (tenantID userID : Uuid) (call : Call) (before after : Db) : Prop :=
  (isMember tenantID userID before = true →
    Removed tenantID userID call.actors before after) ∧
  (isMember tenantID userID before = false → call = .deleteMember ∧ after = before)

/-- The rows after a removal that failed, or of which the caller was not told. -/
def Undone (given : Chance PgError → Bool) (tenantID userID : Uuid) (call : Call) (before : Db)
    (failure : Failure) (after : Db) : Prop :=
  Aborted given (· = before) (Done tenantID userID call before) failure after ∧
    (call = .deleteMember → isMember tenantID userID before = false → ServerFault failure)

theorem alone_code {call : Call} (unique : isMember tenantID userID base = true →
      base.memberships.DistinctBy membershipAccess.entries) :
    AloneBy given (· = base) (code tenantID userID call)
      (fun _ => Done tenantID userID call base) (Undone given tenantID userID call base) := by
  cases call with
  | removeUser actorID workflow =>
      have done : ∀ db, isMember tenantID userID base = true ∧
          Removed tenantID userID ⟨actorID, actorID, actorID⟩ base db →
            Done tenantID userID (.removeUser actorID workflow) base db := by
        rintro db ⟨member, removed⟩
        refine ⟨fun _ => removed, fun absent => ?_⟩
        rw [member] at absent
        cases absent
      have commits : AloneBy given (· = base)
          (runInTx (removeUserTx tenantID userID actorID) : DbM Unit _)
          (fun _ db => isMember tenantID userID base = true ∧
            Removed tenantID userID ⟨actorID, actorID, actorID⟩ base db)
          (Aborted given (· = base) fun db => isMember tenantID userID base = true ∧
            Removed tenantID userID ⟨actorID, actorID, actorID⟩ base db) :=
        alone_runInTx_from (inside_removeUserTx unique)
      have removes : AloneBy given (· = base)
          (runInTx (removeUserTx tenantID userID actorID) : DbM Unit _)
          (fun _ => Done tenantID userID (.removeUser actorID workflow) base)
          (Undone given tenantID userID (.removeUser actorID workflow) base) :=
        commits.weaken (fun _ same => same) (fun _ => done) fun _ db aborted =>
          ⟨aborted.mono id (done db), nofun⟩
      exact attempt_removeUser (fun _ _ _ same => ⟨same.1, .inl same.2, nofun⟩) removes
  | deleteMember =>
      have attempts : AloneBy given (· = base)
          (transaction .pg (deleteMemberTx tenantID userID) : DbM Unit _)
          (fun _ => Done tenantID userID .deleteMember base)
          fun failure => Undone given tenantID userID .deleteMember base (wrapConnErr failure) := by
        apply alone_transaction_breaking fun failure =>
          isMember tenantID userID base = false → ∃ fault, failure = .pg fault
        · intro start same
          rw [same]
          refine Attempt.relax (attempt_deleteMemberTx unique) fun _ server session _ seen => ?_
          exact ⟨seen.1, seen.2.1, fun absent => ⟨rfl, seen.2.2 absent⟩⟩
        · rintro failure _ broken rfl
          refine ⟨.inl rfl, fun _ absent => ?_⟩
          obtain ⟨fault, rfl⟩ := broken absent
          exact ⟨fault, rfl⟩
        · exact fun fault _ same => ⟨.inl same, fun _ _ => ⟨fault, rfl⟩⟩
        · exact fun granted _ _ done => ⟨.inr ⟨granted, rfl, done⟩, fun _ _ => ⟨_, rfl⟩⟩
      have deletes : AloneBy given (· = base) (deleteMember tenantID userID : DbM Unit _)
          (fun _ => Done tenantID userID .deleteMember base)
          (Undone given tenantID userID .deleteMember base) :=
        attempt_runInTx attempts fun _ _ _ retries _ undone =>
          ⟨undone.1, (undone.2.1.again retries :)⟩
      exact AloneBy.bind deletes fun _ => alone_pure fun _ done => done

end Removal

open Removal in
/-- A removal of a member ends exactly the rows of that member and announces each of them; a
removal of nobody changes nothing; one that fails changes nothing either, unless it was
committed and the answer got lost, which leaves the rows of a success; and I-5 can be
repeated. -/
theorem removal_exact {tenantID userID : Uuid} {call : Call} {before after : DbServer}
    {outcome : Except Failure Unit}
    (unique : before.db.memberships.DistinctBy membershipAccess.entries)
    (completes : server.Completes (code tenantID userID call).run before outcome after) :
    (outcome = .ok () → isMember tenantID userID before.db = true →
      Removed tenantID userID call.actors before.db after.db) ∧
    (outcome = .ok () → isMember tenantID userID before.db = false →
      call = .deleteMember ∧ after.db = before.db) ∧
    (∀ failure, outcome = .error failure →
      (after.db = before.db ∨
        failure = lostAnswer ∧ Done tenantID userID call before.db after.db) ∧
      (server.CompletesBy Chance.isAnswered (code tenantID userID call).run before outcome after →
        after.db = before.db)) ∧
    (outcome = .ok () → ∀ later final again, later.db = after.db →
      server.Completes (code tenantID userID .deleteMember).run later again final →
      final.db = after.db ∧ (again = .ok () ∨ ∃ failure, again = .error failure ∧
        ServerFault failure)) := by
  have ended := (alone_code fun _ => unique).ended completes rfl
  have gone : outcome = .ok () → isMember tenantID userID after.db = false := by
    rintro rfl
    cases member : isMember tenantID userID before.db with
    | true => exact (ended.1 member).gone
    | false => rw [(ended.2 member).2, member]
  refine ⟨?_, ?_, ?_, ?_⟩
  · rintro rfl member
    exact ended.1 member
  · rintro rfl absent
    exact ended.2 absent
  · rintro failure rfl
    refine ⟨ended.1.imp id And.right, fun answered => ?_⟩
    exact ((alone_code fun _ => unique).ended answered rfl).1.answered
  · intro succeeded later final again same repeats
    have absent : isMember tenantID userID later.db = false := same ▸ gone succeeded
    have endedAgain := (alone_code fun member => by simp [absent] at member).ended repeats rfl
    cases again with
    | ok _ => exact ⟨(endedAgain.2 absent).2.trans same, .inl rfl⟩
    | error failure =>
        refine ⟨?_, .inr ⟨failure, rfl, endedAgain.2 rfl absent⟩⟩
        exact (endedAgain.1.elim id fun done => (done.2 absent).2).trans same

namespace Removal

/-- User 102 is a member with a role and a department. -/
def staffed : Db :=
  { Db.empty with
    memberships := .singleton (newMembership ⟨0, 0, 12⟩ 1 102 .active)
    roles := .singleton (newRole ⟨0, 0, 22⟩ 1 102 12 .tenantAdmin 101)
    depts := .singleton (newDept ⟨0, 0, 32⟩ 1 102 7 12 .preparator 101) }

theorem removed_staff :
    ∃ after, server.Completes (code 1 102 .deleteMember).run ⟨staffed, 0⟩ (.ok ()) after ∧
      Removed 1 102 ⟨0, 0, systemActorID⟩ staffed after.db := by
  obtain ⟨outcome, after, completes, passed⟩ := server.exists_completes_of_endsAs
    (code 1 102 .deleteMember).run ⟨staffed, 0⟩ (List.replicate 13 (.step 0 (.proceed 100)))
    (fun outcome _ => outcome.isOk) (by decide +kernel)
  cases outcome with
  | error failure => cases passed
  | ok _ => exact ⟨after, completes, (removal_exact (by decide) completes).1 rfl rfl⟩

/-- The membership of user 102 has ended, but a role row is live. -/
def orphaned : Db :=
  { staffed with
    memberships := .singleton ((newMembership ⟨0, 0, 12⟩ 1 102 .active).ended 0)
    depts := ∅ }

/-- I-5 goes through and leaves the live role, without an event. -/
theorem exists_live_role_after_deletion :
    orphaned.memberships.DistinctBy membershipAccess.entries ∧
    ∃ after, server.Completes (code 1 102 .deleteMember).run ⟨orphaned, 0⟩ (.ok ()) after ∧
      rolesOf 1 102 after.db ≠ [] ∧ after.db.outbox = [] := by
  refine ⟨by decide, ?_⟩
  obtain ⟨outcome, after, completes, passed⟩ := server.exists_completes_of_endsAs
    (code 1 102 .deleteMember).run ⟨orphaned, 0⟩ (List.replicate 3 (.step 0 (.proceed 100)))
    (fun outcome after => outcome.isOk && decide (rolesOf 1 102 after.db ≠ []) &&
      decide (after.db.outbox = [])) (by decide +kernel)
  simp only [Bool.and_eq_true, decide_eq_true_eq] at passed
  cases outcome with
  | error failure => cases passed.1.1
  | ok _ => exact ⟨after, completes, passed.1.2, passed.2⟩

end Removal

end OrgMembership

import OrgMembership.Authz.Visible
import OrgMembership.Departments.Assignable
import OrgMembership.Members.Removal

/-!
# The departments of users who left or are suspended

A removal ends the department rows of the user together with the membership.  A change of the
status changes the membership only, so a membership that I-4 sets to `left` keeps its department
rows.  P-10 assigns departments to active members only; I-10 and I-3 look at no status.
-/

namespace OrgMembership

open Concurrency Relational Assignable

namespace Holding

variable {σ : Type} {tenantID userID : Uuid} {base db : Db}
variable {ending : Prop} {query : Query} {row : TenantMembership} {membershipID : Uuid}

/-- The user has a membership that has not ended. -/
def Belongs (tenantID userID : Uuid) (db : Db) : Prop :=
  ∃ row ∈ membershipsOf tenantID userID db, row.status ≠ .left

/-- A user with a department belongs to the tenant. -/
def Anchored (tenantID userID : Uuid) (db : Db) : Prop :=
  deptsOf tenantID userID db ≠ [] → Belongs tenantID userID db

/-- The membership of the user is suspended. -/
def Suspended (tenantID userID : Uuid) (db : Db) : Prop :=
  ∃ row, db.memberships.first? (·.isOf tenantID userID) = some row ∧ row.status = .suspended

/-- The user has the same departments as before, save some that were removed. -/
structure Retains (tenantID userID : Uuid) (removed : Uuid → Prop) (base db : Db) : Prop where
  old : ∀ row ∈ deptsOf tenantID userID db, row ∈ deptsOf tenantID userID base
  kept : ∀ row ∈ deptsOf tenantID userID base, ¬removed row.departmentID →
    row ∈ deptsOf tenantID userID db

theorem Retains.of_eq {removed : Uuid → Prop}
    (same : deptsOf tenantID userID db = deptsOf tenantID userID base) :
    Retains tenantID userID removed base db where
  old row mem := by rwa [same] at mem
  kept row mem _ := by rwa [same]

theorem mem_deptsOf {row : DeptMembership} : row ∈ deptsOf tenantID userID db ↔
    row ∈ db.depts ∧ row.tenantID = tenantID ∧ row.userID = userID ∧ row.live = true := by
  simp [deptsOf, Table.mem_select, DeptFilter.selects, and_assoc]

theorem mem_membershipsOf : row ∈ membershipsOf tenantID userID db ↔
    row ∈ db.memberships ∧ row.isOf tenantID userID = true :=
  Table.mem_select

theorem deptsOf_congr (same : db.depts = base.depts) :
    deptsOf tenantID userID db = deptsOf tenantID userID base := by
  rw [deptsOf, deptsOf, same]

theorem Belongs.congr (belongs : Belongs tenantID userID base)
    (same : db.memberships = base.memberships) : Belongs tenantID userID db := by
  rwa [Belongs, membershipsOf, same]

theorem belongs_of_active (active : Assignee.IsActive tenantID userID db) :
    Belongs tenantID userID db := by
  obtain ⟨member, mem, is, status⟩ := active
  refine ⟨member, mem_membershipsOf.mpr ⟨mem, is⟩, ?_⟩
  rw [status]
  decide

/-! ## Calls that leave the departments alone -/

/-- A statement that writes no department row and, unless the membership is to end, writes
memberships of the user that have not ended. -/
structure Spares (tenantID userID : Uuid) (ending : Prop) (query : Query) : Prop where
  depts : .depts ∉ query.writesTo
  members : .memberships ∈ query.writesTo → ¬ending →
    query = .membership (.insert tenantID userID .active) ∨
      ∃ id status version, status ≠ .left ∧
        query = .membership (.setStatus id tenantID userID status version)

theorem spares_of_plain (depts : .depts ∉ query.writesTo)
    (members : .memberships ∉ query.writesTo) : Spares tenantID userID ending query :=
  ⟨depts, fun mem => absurd mem members⟩

theorem spares_of_reads (reads : query.writesTo = []) :
    Spares tenantID userID ending query := by
  apply spares_of_plain <;> rw [reads] <;> exact List.not_mem_nil

/-- The departments are as they were, and so is whether the user belongs to the tenant. -/
def Spared (tenantID userID : Uuid) (ending : Prop) (base db : Db) : Prop :=
  db.depts = base.depts ∧
    (¬ending → Belongs tenantID userID base → Belongs tenantID userID db)

theorem spared_refl : Spared tenantID userID ending base base :=
  ⟨rfl, fun _ belongs => belongs⟩

theorem belongs_put (is : row.isOf tenantID userID = true) (stays : row.status ≠ .left) :
    Belongs tenantID userID { db with memberships := db.memberships.put row } :=
  ⟨row, mem_membershipsOf.mpr ⟨Table.mem_put.mpr (.inl rfl), is⟩, stays⟩

theorem confines_spared :
    Confines (Spares tenantID userID ending) (Spared tenantID userID ending base) := by
  intro query spares context db result writes spared yields
  refine ⟨(Query.depts_eq yields spares.depts).trans spared.1, fun stays belongs => ?_⟩
  have here := spared.2 stays belongs
  by_cases off : .memberships ∈ query.writesTo
  · rcases spares.members off stays with rfl | ⟨id, status, version, lasting, rfl⟩
    · rcases Access.insertRow_cases yields with ⟨_, rfl, _⟩ | ⟨_, _, _, rfl, _⟩
      · exact here
      · apply belongs_put
        · simp [TenantMembership.isOf, newMembership, TenantMembership.live]
        · simp [newMembership]
    · rcases Access.updateRow_cases yields with
        ⟨_, rfl, _⟩ | ⟨row, _, _, _, selected, computed, _, rfl, _⟩
      · exact here
      · cases computed
        simp only [TenantMembership.isVersionOf, Bool.and_eq_true] at selected
        apply belongs_put
        · simpa [TenantMembership.isOf] using selected.1
        · simpa using lasting
  · exact here.congr (Query.memberships_eq yields off)

/-- What a call makes of the departments of its user. -/
def Treated (tenantID userID : Uuid) (removed : Uuid → Prop) (base db : Db) : Prop :=
  (Anchored tenantID userID base → Anchored tenantID userID db) ∧
    (Suspended tenantID userID base → Retains tenantID userID removed base db)

theorem treated_refl {removed : Uuid → Prop} : Treated tenantID userID removed base base :=
  ⟨fun anchored => anchored, fun _ => .of_eq rfl⟩

theorem Spared.treated {removed : Uuid → Prop} (spared : Spared tenantID userID ending base db)
    (free : ending → deptsOf tenantID userID base = []) :
    Treated tenantID userID removed base db := by
  have same : deptsOf tenantID userID db = deptsOf tenantID userID base := deptsOf_congr spared.1
  refine ⟨fun anchored holds => ?_, fun _ => .of_eq same⟩
  rw [same] at holds
  exact spared.2 (fun ends => holds (free ends)) (anchored holds)

section Sparing

variable {removed : Uuid → Prop} {status : MembershipStatus} {version : Int} {actorID : Uuid}

/-- A call that fails removes no department, unless the answer to its commit got lost. -/
def TreatedAt (tenantID userID : Uuid) (removed : Uuid → Prop) (base : Db) (failure : Failure)
    (db : Db) : Prop :=
  Treated tenantID userID (fun departmentID => failure = lostAnswer ∧ removed departmentID) base db

/-- The call treats the departments of its user as it should. -/
abbrev Treats (tenantID userID : Uuid) (removed : Uuid → Prop) (base : Db) {α : Type}
    (program : DbM σ α) : Prop :=
  Alone (· = base) program (fun _ => Treated tenantID userID removed base)
    (TreatedAt tenantID userID removed base)

theorem treats_of_spares {α : Type} {program : DbM σ α}
    (alone : Alone (Spared tenantID userID ending base) program
      (fun _ => Spared tenantID userID ending base) fun _ => Spared tenantID userID ending base)
    (free : ending → deptsOf tenantID userID base = []) :
    Treats tenantID userID removed base program := by
  unfold Treats
  refine alone.weaken ?_ (fun _ _ spared => spared.treated free) fun _ _ spared =>
    spared.treated free
  rintro _ rfl
  exact spared_refl

/-- A call that commits at most once. -/
theorem treats_of_committed {α : Type} {program : DbM σ α} {left : Db → Prop}
    (alone : Alone (· = base) program (fun _ => left) (Aborted (fun _ => true) (· = base) left))
    (treats : ∀ db, left db → Treated tenantID userID removed base db) :
    Treats tenantID userID removed base program := by
  refine alone.weaken (fun _ same => same) (fun _ => treats) ?_
  rintro failure db (same | ⟨_, lost, after⟩)
  · rw [same]
    exact treated_refl
  · obtain ⟨anchored, retains⟩ := treats db after
    exact ⟨anchored, fun suspended => ⟨(retains suspended).old, fun row mem stays =>
      (retains suspended).kept row mem fun removed => stays ⟨lost, removed⟩⟩⟩

theorem treats_runInTx {α : Type} {body : DbM σ α} {left : Db → Prop}
    (inside : Inside base (· = base) body fun _ => left)
    (treats : ∀ db, left db → Treated tenantID userID removed base db) :
    Treats tenantID userID removed base (runInTx body) :=
  treats_of_committed (alone_runInTx_from inside) treats

theorem spares_setStatus (id : Uuid) : Spares tenantID userID (status = .left)
    (.membership (.setStatus id tenantID userID status version)) :=
  ⟨by simp, fun _ stays => .inr ⟨id, status, version, stays, rfl⟩⟩

theorem treats_setStatus {workflow : WorkflowAnswer}
    (free : status = .left → deptsOf tenantID userID base = []) :
    Treats tenantID userID removed base
      (setStatus tenantID userID status version workflow : DbM σ _) :=
  treats_of_spares (alone_setStatus confines_spared restores_refl (fun _ => spares_of_reads)
    spares_setStatus) free

theorem treats_setMembershipStatus
    (free : status = .left → deptsOf tenantID userID base = []) :
    Treats tenantID userID removed base
      (setMembershipStatus tenantID userID status version : DbM σ _) :=
  treats_of_spares (alone_setMembershipStatus confines_spared restores_refl
    (fun _ => spares_of_reads) spares_setStatus) free

theorem grant_spares :
    GrantAllowed (Spares tenantID userID ending) tenantID userID where
  insert _ _ _ := spares_of_plain (by simp) (by simp)
  find _ := spares_of_reads rfl
  publish _ _ := spares_of_plain (by simp) (by simp)

theorem issues_spares_reconcileTx {strippingOwner : Bool} {grants revokes : List TenantRoleCode} :
    Fallible.Issues (Only (Spares tenantID userID False))
      (reconcileTx tenantID userID membershipID actorID strippingOwner grants revokes) := by
  refine (issues_guardStripping (spares_of_reads rfl) (spares_of_reads rfl)).bind fun _ => ?_
  refine (Fallible.Issues.forM fun _ _ => issues_grantRole (grant_spares.insert _ _ _)
    (grant_spares.find _) grant_spares.publish).bind fun _ => ?_
  exact Fallible.Issues.forM fun _ _ => issues_revokeRole (spares_of_reads rfl)
    (fun _ => spares_of_plain (by simp) (by simp)) grant_spares.publish

theorem treats_reconcileRoles {desired : List TenantRoleCode} {isServiceAccount : Bool}
    {grantOrder revokeOrder : MapOrder} :
    Treats tenantID userID removed base (reconcileRoles tenantID userID desired actorID
      isServiceAccount grantOrder revokeOrder : DbM σ _) := by
  have reconciles : Alone (Spared tenantID userID False base)
      (reconcileRoles tenantID userID desired actorID isServiceAccount grantOrder revokeOrder :
        DbM σ _) (fun _ => Spared tenantID userID False base)
      fun _ => Spared tenantID userID False base :=
    atomic_reconcileRoles (reader_solo _) fun _ _ _ _ _ _ =>
      keeps_runInTx fun _ => inside_only confines_spared issues_spares_reconcileTx
  exact treats_of_spares reconciles False.elim

theorem issues_spares_reassignOwnerTx :
    Fallible.Issues (Only (Spares tenantID userID False))
      (reassignOwnerTx tenantID userID membershipID actorID : DbM σ _) := by
  have clears : Fallible.Issues (Only (Spares tenantID userID False))
      (TenantRepository.clearOwnerlessSince tenantID : DbM σ _) :=
    (issues_send (spares_of_plain (by simp) (by simp))).bind fun _ => Fallible.issues_pure _
  refine (TenantRoleRepository.issues_grant (grant_spares.insert _ _ _)
    (grant_spares.find _)).bind fun granted => ?_
  exact clears.bind fun _ => (issues_send (grant_spares.publish _ rfl)).bind fun _ =>
    Fallible.issues_pure _

theorem treats_reassignOwner :
    Treats tenantID userID removed base (reassignOwner tenantID userID actorID : DbM σ _) := by
  have reassigns : Alone (Spared tenantID userID False base)
      (reassignOwner tenantID userID actorID : DbM σ _)
      (fun _ => Spared tenantID userID False base) fun _ => Spared tenantID userID False base :=
    atomic_reassignOwner (reader_solo _) fun _ =>
      keeps_runInTx fun _ => inside_only confines_spared issues_spares_reassignOwnerTx
  exact treats_of_spares reassigns False.elim

end Sparing

/-! ## Removals -/

section Removing

variable {start : Db} {actorID departmentID : Uuid}

theorem inside_cascadeRemoval {actors : RemovalActors} {version : Int} :
    Inside base (· = start) (cascadeRemoval tenantID userID actors version : DbM σ _)
      fun _ db => deptsOf tenantID userID db = [] := by
  refine Inside.bind Removal.inside_revokeRoles fun roles => inside_of_fact fun _ => ?_
  refine Inside.bind (inside_enqueueEach _) fun _ => ?_
  refine Inside.bind Removal.inside_revokeDepts fun depts => inside_of_fact fun replaced => ?_
  refine Inside.bind (inside_enqueueEach _) fun _ => ?_
  refine Inside.bind inside_enqueue fun _ => ?_
  refine Removal.inside_endMembership.weaken (fun _ same => same) ?_
  rintro _ _ ⟨memberships, _, rfl⟩
  exact Removal.deptsOf_replaced replaced

theorem treated_of_deptless (deptless : deptsOf tenantID userID db = []) :
    Treated tenantID userID (fun _ => True) base db := by
  refine ⟨fun _ holds => absurd deptless holds, fun _ => ⟨fun row mem => ?_, fun _ _ stays => ?_⟩⟩
  · rw [deptless] at mem
    cases mem
  · exact absurd trivial stays

theorem treats_removeUser {workflow : WorkflowAnswer} :
    Treats tenantID userID (fun _ => True) base
      (removeUser tenantID userID actorID workflow : DbM σ _) := by
  have removes : Inside base (· = base) (removeUserTx tenantID userID actorID : DbM σ _)
      fun _ db => deptsOf tenantID userID db = [] := by
    refine Inside.bind (inside_reads (TenantRepository.issues_lockByID rfl)) fun _ => ?_
    refine Inside.bind (inside_reads (MembershipRepository.issues_findByUserID rfl)) fun _ => ?_
    refine Inside.bind (inside_reads (issues_send rfl)) fun roles => ?_
    refine Inside.bind (inside_reads (issues_guardOwnerRemoval rfl)) fun _ => ?_
    exact inside_cascadeRemoval
  exact attempt_removeUser (fun _ _ _ here => ⟨here.1, here.2 ▸ treated_refl⟩)
    (treats_runInTx removes fun _ => treated_of_deptless)

theorem inside_escalateOwnerless {wasOwner : Bool} :
    Inside start (fun db => deptsOf tenantID userID db = [])
      (escalateOwnerless tenantID wasOwner : DbM σ _)
      fun _ db => deptsOf tenantID userID db = [] := by
  have confines : Confines (fun query => .depts ∉ query.writesTo)
      fun db => deptsOf tenantID userID db = [] := by
    intro query off context db result writes deptless yields
    rw [deptsOf_congr (Query.depts_eq yields off), deptless]
  exact inside_only confines (issues_escalateOwnerless (by simp) (by simp))

theorem inside_deleteMemberTx :
    Inside start (· = start) (deleteMemberTx tenantID userID : DbM σ _)
      fun _ db => db = start ∨ deptsOf tenantID userID db = [] := by
  refine Attempt.bind (Attempt.observe Removal.attempt_findByUserID) fun found => ?_
  cases found with
  | error failure =>
      dsimp only
      split
      · exact Attempt.pure fun _ _ _ seen => ⟨seen.1, .inl seen.2.2⟩
      · exact Attempt.throw fun _ _ _ seen => seen.1
  | ok membership =>
      have removes : Inside start (· = start) (do
          let roles ← TenantRoleRepository.listByUser tenantID userID
          cascadeRemoval tenantID userID ⟨0, 0, systemActorID⟩ membership.recordVersion
          escalateOwnerless tenantID (holdsOwner roles) : DbM σ Bool)
          fun _ db => deptsOf tenantID userID db = [] :=
        Inside.bind (inside_reads (issues_send rfl)) fun _ =>
          Inside.bind inside_cascadeRemoval fun _ => inside_escalateOwnerless
      exact Attempt.weaken removes (fun _ _ _ seen => ⟨seen.1, seen.2.2⟩)
        (fun _ _ _ _ seen => ⟨seen.1, .inr seen.2⟩) fun _ _ _ _ same => same

theorem treats_deleteMember :
    Treats tenantID userID (fun _ => True) base (deleteMember tenantID userID : DbM σ _) := by
  refine treats_runInTx inside_deleteMemberTx ?_
  rintro db (rfl | deptless)
  · exact treated_refl
  · exact treated_of_deptless deptless

/-- A statement that ends rows of one assignment. -/
structure Drops (tenantID userID departmentID : Uuid) (query : Query) : Prop where
  members : .memberships ∉ query.writesTo
  depts : .depts ∈ query.writesTo →
    ∃ id, query = .dept (.softDelete (.assignment tenantID userID departmentID) id)

theorem drops_of_plain (depts : .depts ∉ query.writesTo) (members : .memberships ∉ query.writesTo) :
    Drops tenantID userID departmentID query :=
  ⟨members, fun mem => absurd mem depts⟩

/-- The memberships are as they were, and the departments too, save the one removed. -/
def Dropped (tenantID userID departmentID : Uuid) (base db : Db) : Prop :=
  db.memberships = base.memberships ∧ Retains tenantID userID (· = departmentID) base db

theorem confines_dropped : Confines (Drops tenantID userID departmentID)
    (Dropped tenantID userID departmentID base) := by
  intro query drops context db result writes dropped yields
  refine ⟨(Query.memberships_eq yields drops.members).trans dropped.1, ?_⟩
  by_cases off : .depts ∈ query.writesTo
  · obtain ⟨id, rfl⟩ := drops.depts off
    rcases Access.updateRow_cases yields with
      ⟨_, rfl, _⟩ | ⟨row, mem, _, _, selected, computed, _, rfl, _⟩
    · exact dropped.2
    · cases computed
      constructor
      · intro other memOther
        obtain ⟨here, about⟩ := mem_deptsOf.mp memOther
        rcases Table.mem_put.mp here with rfl | ⟨here, _⟩
        · simp at about
        · exact dropped.2.old other (mem_deptsOf.mpr ⟨here, about⟩)
      · intro other memOther stays
        obtain ⟨here, about⟩ := mem_deptsOf.mp (dropped.2.kept other memOther stays)
        refine mem_deptsOf.mpr ⟨Table.mem_put.mpr (.inr ⟨here, fun same => stays ?_⟩), about⟩
        rw [Table.eq_of_key_eq here mem (same.trans (DeptMembership.revoked_id _ _))]
        simp only [DeptFilter.selects, Bool.and_eq_true, decide_eq_true_eq] at selected
        exact selected.1.2
  · have same : deptsOf tenantID userID (dialect.applyAll writes db) = deptsOf tenantID userID db :=
      deptsOf_congr (Query.depts_eq yields off)
    refine ⟨fun row mem => dropped.2.old row ?_, fun row mem stays => ?_⟩
    · rwa [same] at mem
    · rw [same]
      exact dropped.2.kept row mem stays

theorem issues_drops_removeTx : Fallible.Issues (Only (Drops tenantID userID departmentID))
    (removeTx tenantID userID departmentID actorID : DbM σ _) := by
  have removes : Fallible.Issues (Only (Drops tenantID userID departmentID))
      (DeptMembershipRepository.remove tenantID userID departmentID : DbM σ _) := by
    refine (issues_send (drops_of_plain (by simp) (by simp))).bind fun ids => ?_
    refine (issues_visitEach (fun id => issues_send ⟨by simp, fun _ => ⟨id, rfl⟩⟩) ids).bind
      fun rows => ?_
    cases rows with
    | nil => exact Fallible.issues_throw _
    | cons row rows => exact Fallible.issues_pure _
  exact removes.bind fun row =>
    (issues_send (drops_of_plain (by simp) (by simp))).bind fun _ => Fallible.issues_pure _

theorem Dropped.treated (dropped : Dropped tenantID userID departmentID base db) :
    Treated tenantID userID (· = departmentID) base db := by
  refine ⟨fun anchored holds => ?_, fun _ => dropped.2⟩
  obtain ⟨row, mem⟩ := List.exists_mem_of_ne_nil _ holds
  exact (anchored (List.ne_nil_of_mem (dropped.2.old row mem))).congr dropped.1

theorem treats_remove {impact : Option DelegateImpact} :
    Treats tenantID userID (· = departmentID) base
      (remove tenantID userID departmentID actorID impact : DbM σ _) := by
  have removes : Inside base (· = base)
      (removeTx tenantID userID departmentID actorID : DbM σ _)
      fun _ => Dropped tenantID userID departmentID base :=
    (inside_only confines_dropped issues_drops_removeTx).weaken
      (fun _ same => same ▸ ⟨rfl, .of_eq rfl⟩) fun _ _ dropped => dropped
  exact attempt_remove (fun _ _ _ here => ⟨here.1, here.2 ▸ treated_refl⟩)
    (treats_runInTx removes fun _ => Dropped.treated)

end Removing

/-! ## Assignments -/

section Assigning

variable {departmentID actorID keycloakUserID : Uuid} {level : DeptRole} {answers : AssignAnswers}
  {groups : List String} {mappings : GroupMappings} {order : MapOrder} {email : String}
  {isServiceAccount : Bool} {removed : Uuid → Prop}

theorem not_suspended (found : base.memberships.first? (·.isOf tenantID userID) = some row)
    (active : row.status = .active) : ¬Suspended tenantID userID base := by
  rintro ⟨other, same, suspended⟩
  cases found.symm.trans same
  rw [active] at suspended
  cases suspended

/-- Whatever membership the user has is active. -/
def Standing (tenantID userID : Uuid) (db : Db) : Prop :=
  ∀ member ∈ db.memberships, member.isOf tenantID userID = true → member.status = .active

/-- The departments that the groups map to. -/
def Resolved (mappings : GroupMappings) (groups : List String) (departmentID : Uuid) : Prop :=
  ∃ level, (departmentID, level) ∈ resolveDeptRoles mappings groups

/-- The departments that the invitation queues. -/
def Queued (candidate : Option PendingInvitation) (departmentID : Uuid) : Prop :=
  ∃ pending mapping, candidate = some pending ∧ mapping ∈ pending.initialDeptMappings ∧
    mapping.departmentID = departmentID

theorem not_suspended_of_standing (standing : Standing tenantID userID base) :
    ¬Suspended tenantID userID base := by
  rintro ⟨row, found, suspended⟩
  obtain ⟨mem, is⟩ := Table.first?_some found
  rw [standing row mem is] at suspended
  cases suspended

theorem joins_of_standing (standing : Standing tenantID userID base) :
    Joins tenantID userID base := by
  by_cases known : ∃ member ∈ base.memberships, member.isOf tenantID userID = true
  · obtain ⟨member, mem, is⟩ := known
    exact .inl ⟨member, mem, is, standing member mem is⟩
  · exact .inr fun member mem => Bool.eq_false_iff.mpr fun is => known ⟨member, mem, is⟩

/-- Departments are assigned to active members only. -/
theorem treated_of_applied {targets : List (Uuid × DeptRole)} {joins : Prop}
    (applied : Applied tenantID userID targets joins base db)
    (vetted : ∀ target ∈ targets, joins ∧ ¬Suspended tenantID userID base) :
    Treated tenantID userID removed base db := by
  cases targets with
  | nil =>
      obtain ⟨_, _, _, same, unassigned, depts⟩ := applied.depts
      rw [unassigned.of_nil rfl, same] at depts
      refine ⟨fun anchored holds => ?_, fun _ => .of_eq (deptsOf_congr depts)⟩
      rw [deptsOf_congr depts] at holds
      obtain ⟨row, mem, stays⟩ := anchored holds
      rw [mem_membershipsOf] at mem
      exact ⟨row, mem_membershipsOf.mpr ⟨applied.kept row mem.1, mem.2⟩, stays⟩
  | cons target rest =>
      obtain ⟨joins, active⟩ := vetted target List.mem_cons_self
      exact ⟨fun _ _ => belongs_of_active (applied.member.mpr joins),
        fun suspended => absurd suspended active⟩

theorem treats_assign :
    Treats tenantID userID removed base
      (assign tenantID userID departmentID level actorID answers : DbM σ _) := by
  refine treats_of_committed alone_assign fun db ⟨checked, applied⟩ => ?_
  obtain ⟨row, found, active⟩ := checked.member
  exact treated_of_applied applied fun _ _ => ⟨checked.isActive, not_suspended found active⟩

theorem treats_assignFromGroups
    (vetted : ∀ departmentID, Resolved mappings groups departmentID →
      Standing tenantID userID base) :
    Treats tenantID userID removed base
      (assignFromGroups tenantID userID groups mappings order : DbM σ _) := by
  refine treats_of_committed OrgMembership.alone_assignFromGroups fun db fromGroups => ?_
  refine treated_of_applied (FromGroups.applied fromGroups) fun target resolved => ?_
  have standing := vetted target.1 ⟨target.2, resolved⟩
  obtain ⟨group, listed, _⟩ := mem_resolveDeptRoles.mp resolved
  obtain ⟨row, found⟩ := fromGroups.1 (List.ne_nil_of_mem listed)
  obtain ⟨mem, is⟩ := Table.first?_some found
  exact ⟨isActive_of_first? found (standing row mem is), not_suspended_of_standing standing⟩

theorem treats_addFromRegister
    (vetted : ∀ departmentID, Queued (candidateOf tenantID keycloakUserID
      (normalizeEmail email) base) departmentID → Standing tenantID userID base) :
    Treats tenantID userID removed base
      (addFromRegister tenantID userID keycloakUserID email isServiceAccount : DbM σ _) := by
  refine treats_of_committed Assignable.alone_addFromRegister fun db applied => ?_
  refine treated_of_applied applied fun target queued => ?_
  unfold queue at queued
  split at queued
  · cases queued
  case h_2 pending found =>
    obtain ⟨mapping, mem, rfl⟩ := List.mem_map.mp queued
    have standing := vetted mapping.departmentID ⟨pending, mapping, found, mem, rfl⟩
    exact ⟨joins_of_standing standing, not_suspended_of_standing standing⟩

end Assigning

/-! ## Every sequence of calls -/

/-- A call about one user. -/
structure Request where
  tenantID : Uuid
  userID : Uuid
  call : UserCall

/-- The code of a request. -/
def Request.program (request : Request) : DbM Unit Unit :=
  performCall request.tenantID request.userID request.call

/-- The departments that a call removes from its user. -/
def Request.removes (request : Request) (departmentID : Uuid) : Prop :=
  match request.call with
  | .remove removed _ _ => departmentID = removed
  | .removeUser _ _ | .deleteMember => True
  | _ => False

/-- A membership with departments is not set to `left`, and I-10 and I-3 give departments to
active members only. -/
def Request.Mindful (request : Request) (db : Db) : Prop :=
  match request.call with
  | .setStatus status _ _ | .setMembershipStatus status _ =>
      status = .left → deptsOf request.tenantID request.userID db = []
  | .assignFromGroups groups mappings _ => ∀ departmentID,
      Resolved mappings groups departmentID → Standing request.tenantID request.userID db
  | .addFromRegister keycloakUserID email _ => ∀ departmentID,
      Queued (candidateOf request.tenantID keycloakUserID (normalizeEmail email) db)
        departmentID → Standing request.tenantID request.userID db
  | _ => True

theorem treats_program {request : Request} (mindful : request.Mindful base) :
    Treats request.tenantID request.userID request.removes base request.program := by
  obtain ⟨tenantID, userID, call⟩ := request
  have drop : ∀ {α : Type} {program : DbM Unit α} {removed : Uuid → Prop},
      Treats tenantID userID removed base program →
      Treats tenantID userID removed base (program >>= fun _ => pure ()) := by
    intro _ _ _ treats
    unfold Treats at treats
    exact AloneBy.bind treats fun _ => alone_pure fun _ treated => treated
  cases call with
  | setStatus => exact drop (treats_setStatus mindful)
  | reconcileRoles => exact drop treats_reconcileRoles
  | removeUser => exact treats_removeUser
  | setMembershipStatus => exact drop (treats_setMembershipStatus mindful)
  | deleteMember => exact drop treats_deleteMember
  | assign => exact drop treats_assign
  | remove => exact drop treats_remove
  | assignFromGroups => exact drop (treats_assignFromGroups mindful)
  | addFromRegister => exact drop (treats_addFromRegister mindful)
  | reassignOwner => exact drop treats_reassignOwner

/-- Whether a call that was made removed the department from the user.  It may have done so
although the answer to its commit got lost. -/
def Removes (tenantID userID departmentID : Uuid) (made : Request × Except Failure Unit) : Prop :=
  made.1.tenantID = tenantID ∧ made.1.userID = userID ∧
    (made.2 = .ok () ∨ made.2 = .error lostAnswer) ∧ made.1.removes departmentID

theorem Framed.treated {otherTenant otherUser : Uuid} {removed : Uuid → Prop}
    (framed : Framed tenantID userID base db)
    (other : (otherTenant, otherUser) ≠ (tenantID, userID)) :
    Treated otherTenant otherUser removed base db := by
  have rows := framed.others otherTenant otherUser other
  have depts : deptsOf otherTenant otherUser db = deptsOf otherTenant otherUser base := by
    rw [AuthZRepository.deptsOf_eq_filter, AuthZRepository.deptsOf_eq_filter, rows]
  have members : membershipsOf otherTenant otherUser db =
      membershipsOf otherTenant otherUser base := by
    rw [AuthZRepository.membershipsOf_eq_filter, AuthZRepository.membershipsOf_eq_filter, rows]
  refine ⟨fun anchored holds => ?_, fun _ => .of_eq depts⟩
  rw [depts] at holds
  rw [Belongs, members]
  exact anchored holds

/-- What one call makes of the departments of any user. -/
theorem treated_of_completes {request : Request} {before after : DbServer}
    {outcome : Except Failure Unit} (mindful : request.Mindful before.db)
    (completes : server.Completes request.program.run before outcome after) :
    Treated tenantID userID (Removes tenantID userID · (request, outcome)) before.db after.db := by
  by_cases mine : (tenantID, userID) = (request.tenantID, request.userID)
  · cases mine
    have treats := treats_program mindful
    unfold Treats at treats
    have own := treats.ended completes rfl
    cases outcome with
    | error failure =>
        exact ⟨own.1, fun suspended => ⟨(own.2 suspended).old, fun row mem stays =>
          (own.2 suspended).kept row mem fun removed =>
            stays ⟨rfl, rfl, .inr (congrArg _ removed.1), removed.2⟩⟩⟩
    | ok =>
        exact ⟨own.1, fun suspended => ⟨(own.2 suspended).old, fun row mem stays =>
          (own.2 suspended).kept row mem fun removed => stays ⟨rfl, rfl, .inl rfl, removed⟩⟩⟩
  · have ended := (frames_performCall restores_refl).ended completes
      (Framed.refl request.tenantID request.userID before.db)
    cases outcome with
    | error => exact Framed.treated ended mine
    | ok => exact Framed.treated ended mine

/-- Departments end with the membership, and a suspended member keeps exactly the departments
that no call removes. -/
theorem departments_follow_membership (start : DbServer) :
    (∀ log after, (∀ tenantID userID, Anchored tenantID userID start.db) →
      server.Serial (fun request : Request => request.program.run)
        (fun server request => request.Mindful server.db) start log after →
      ∀ tenantID userID, Anchored tenantID userID after.db) ∧
    ∀ tenantID userID log after,
      server.Serial (fun request : Request => request.program.run)
        (fun server request => request.Mindful server.db ∧ Suspended tenantID userID server.db)
        start log after →
      Retains tenantID userID
        (fun departmentID => ∃ made ∈ log, Removes tenantID userID departmentID made)
        start.db after.db := by
  constructor
  · intro log after anchored serial
    apply serial.inv (fun _ server => ∀ tenantID userID, Anchored tenantID userID server.db)
      anchored
    intro _ before request outcome after anchored mindful completes tenantID userID
    exact (treated_of_completes mindful completes).1 (anchored tenantID userID)
  · intro tenantID userID log after serial
    apply serial.inv (fun log server => Retains tenantID userID
      (fun departmentID => ∃ made ∈ log, Removes tenantID userID departmentID made)
      start.db server.db) (.of_eq rfl)
    rintro log before request outcome after retains ⟨mindful, suspended⟩ completes
    have here := (treated_of_completes mindful completes).2 suspended
    refine ⟨fun row mem => retains.old row (here.old row mem), fun row mem stays => ?_⟩
    refine here.kept row (retains.kept row mem ?_) fun removed => stays ⟨_, by simp, removed⟩
    rintro ⟨made, mem, removed⟩
    exact stays ⟨made, List.mem_append_left _ mem, removed⟩

/-- A member with a department. -/
def holder (status : MembershipStatus) : Db :=
  { Groups.joined with
    memberships := .singleton (newMembership ⟨0, 0, 12⟩ 1 102 status)
    depts := .singleton (newDept ⟨0, 0, 32⟩ 1 102 31 12 .reviewer 101) }

/-- I-4 sets the status of the member. -/
def sets (status : MembershipStatus) : Request :=
  ⟨1, 102, .setMembershipStatus status 1⟩

theorem anchored_holder (tenantID userID : Uuid) : Anchored tenantID userID (holder .active) := by
  intro holds
  obtain ⟨row, mem⟩ := List.exists_mem_of_ne_nil _ holds
  obtain ⟨here, rfl, rfl, _⟩ := mem_deptsOf.mp mem
  cases List.mem_singleton.mp here
  exact ⟨newMembership ⟨0, 0, 12⟩ 1 102 .active,
    mem_membershipsOf.mpr ⟨List.mem_singleton.mpr rfl, rfl⟩, nofun⟩

theorem departments_follow_holder :
    (∃ log after, log ≠ [] ∧ server.Serial (fun request : Request => request.program.run)
        (fun server request => request.Mindful server.db) ⟨holder .active, 0⟩ log after ∧
      deptsOf 1 102 after.db ≠ [] ∧ Belongs 1 102 after.db) ∧
    ∃ log after, log ≠ [] ∧ server.Serial (fun request : Request => request.program.run)
        (fun server request => request.Mindful server.db ∧ Suspended 1 102 server.db)
        ⟨holder .suspended, 0⟩ log after ∧
      newDept ⟨0, 0, 32⟩ 1 102 31 12 .reviewer 101 ∈ deptsOf 1 102 after.db := by
  constructor
  · obtain ⟨outcome, after, completes, passed⟩ := server.exists_completes_of_endsAs
      (sets .suspended).program.run ⟨holder .active, 0⟩ (proceeding 100 4)
      (fun outcome after => outcome.toOption.any fun _ => deptsOf 1 102 after.db ≠ [])
      (by decide +kernel)
    obtain ⟨_, rfl, holds⟩ := ok_of_any passed
    have serial : server.Serial (fun request : Request => request.program.run)
        (fun server request => request.Mindful server.db) ⟨holder .active, 0⟩ _ after :=
      .snoc .nil (by nofun) completes
    exact ⟨_, after, by simp, serial, holds, (departments_follow_membership ⟨holder .active, 0⟩).1
      _ after anchored_holder serial 1 102 holds⟩
  · obtain ⟨outcome, after, completes, passed⟩ := server.exists_completes_of_endsAs
      (sets .active).program.run ⟨holder .suspended, 0⟩ (proceeding 100 4)
      (fun outcome _ => outcome.toOption.any fun _ => true) (by decide +kernel)
    have serial : server.Serial (fun request : Request => request.program.run)
        (fun server request => request.Mindful server.db ∧ Suspended 1 102 server.db)
        ⟨holder .suspended, 0⟩ _ after :=
      .snoc .nil ⟨by nofun, _, rfl, rfl⟩ completes
    refine ⟨_, after, by simp, serial,
      ((departments_follow_membership ⟨holder .suspended, 0⟩).2 1 102 _ after serial).kept _ ?_ ?_⟩
    · exact mem_deptsOf.mpr ⟨List.mem_singleton.mpr rfl, rfl, rfl, rfl⟩
    · rintro ⟨made, mem, _, _, _, removed⟩
      cases List.mem_singleton.mp mem
      exact removed

/-- I-4 lets a member with a department leave the tenant, who keeps the department; and I-10
gives a department to a suspended member. -/
theorem departments_outlive_membership :
    (∃ after, server.Completes (sets .left).program.run ⟨holder .active, 0⟩ (.ok ()) after ∧
      (∀ tenantID userID, Anchored tenantID userID (holder .active)) ∧
      ¬Anchored 1 102 after.db) ∧
    ∃ after, server.Completes (Request.program ⟨1, 102, .assignFromGroups ["reviewers"]
        Groups.reviewers .declared⟩).run ⟨suspended, 0⟩ (.ok ()) after ∧
      Suspended 1 102 suspended ∧ Suspended 1 102 after.db ∧
      ∀ removed, ¬Retains 1 102 removed suspended after.db := by
  constructor
  · obtain ⟨outcome, after, completes, passed⟩ := server.exists_completes_of_endsAs
      (sets .left).program.run ⟨holder .active, 0⟩ (proceeding 100 4)
      (fun outcome after => outcome.toOption.any fun _ => deptsOf 1 102 after.db ≠ [] ∧
        ∀ row ∈ membershipsOf 1 102 after.db, row.status = .left) (by decide +kernel)
    obtain ⟨_, rfl, holds, ended⟩ := ok_of_any passed
    refine ⟨after, completes, anchored_holder, fun anchored => ?_⟩
    obtain ⟨row, mem, stays⟩ := anchored holds
    exact stays (ended row mem)
  · obtain ⟨outcome, after, completes, passed⟩ := server.exists_completes_of_endsAs
      (Request.program ⟨1, 102, .assignFromGroups ["reviewers"] Groups.reviewers .declared⟩).run
      ⟨suspended, 0⟩ (proceeding 100 12)
      (fun outcome after => outcome.toOption.any fun _ => deptsOf 1 102 after.db ≠ [] ∧
        ∃ row ∈ after.db.memberships.first? (·.isOf 1 102), row.status = .suspended)
      (by decide +kernel)
    obtain ⟨_, rfl, holds, member, found, stays⟩ := ok_of_any passed
    refine ⟨after, completes, ⟨_, rfl, rfl⟩, ⟨member, found, stays⟩, fun removed retains => ?_⟩
    obtain ⟨row, mem⟩ := List.exists_mem_of_ne_nil _ holds
    cases retains.old row mem

end Holding

end OrgMembership

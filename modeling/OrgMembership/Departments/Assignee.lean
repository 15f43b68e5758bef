import OrgMembership.Service.Alone
import OrgMembership.Service.Assignee
import OrgMembership.Store.Discipline

/-!
# The two checks of an assignee

I-13 looks for an assignment at the required level, and I-19 asks besides whether the
department is active for the tenant.  They agree on departments that are, as far as the
actor's roles go with an active membership.
-/

namespace OrgMembership

open Concurrency Relational

namespace Assignee

/-- A request to override the assignee of a tender. -/
structure Request where
  tenantID : Uuid
  tenderID : Uuid
  newUserID : Uuid
  departmentID : Uuid
  requiredLevel : DeptRole
  actorID : Uuid

variable {request : Request} {base db : Db}

/-- I-13 for the request. -/
def override (request : Request) : DbM Unit Unit :=
  validateAndEmitAssigneeOverride request.tenantID request.tenderID request.newUserID
    request.departmentID request.requiredLevel request.actorID

/-- I-19 for the assignee, the department and the level of the request. -/
def check (request : Request) : DbM Unit AssigneeEligibility :=
  checkEligibility request.tenantID request.newUserID request.departmentID request.requiredLevel

/-- `TenderAssigneeOverridden`. -/
def overridden (request : Request) : DomainEvent :=
  ⟨request.tenantID, request.tenderID, .tenderAssigneeOverridden request.tenderID
    request.tenantID request.newUserID request.actorID⟩

/-! ## What the checks look at -/

/-- The user is an active member. -/
def IsActive (tenantID userID : Uuid) (db : Db) : Prop :=
  ∃ row ∈ db.memberships, row.isOf tenantID userID = true ∧ row.status = .active

/-- The actor has a role that allows overrides. -/
def HoldsElevated (request : Request) (db : Db) : Prop :=
  ∃ role ∈ db.roles, role.tenantID = request.tenantID ∧ role.userID = request.actorID ∧
    role.live = true ∧
    (role.roleCode = .tenderAdmin ∨ role.roleCode = .tenantAdmin ∨ role.roleCode = .tenantOwner)

/-- The department is active for the tenant. -/
def Offered (request : Request) (db : Db) : Prop :=
  ∃ row, db.tenantDepts.find? (request.tenantID, request.departmentID) = some row ∧
    row.isActive = true

/-- The live assignments of the assignee. -/
def assignments (request : Request) (db : Db) : List DeptMembership :=
  db.depts.select (DeptFilter.selects · (.user request.tenantID request.newUserID))

/-- The assignee is an active member with the required level in the department. -/
def Qualifies (request : Request) (db : Db) : Prop :=
  ∃ row, db.memberships.first? (·.isOf request.tenantID request.newUserID) = some row ∧
    row.status = .active ∧
    isAssignable request.departmentID request.requiredLevel (assignments request db) = true

theorem hasElevated_iff :
    hasElevated (db.roles.select (RoleFilter.selects · (.user request.tenantID request.actorID))) =
        true ↔ HoldsElevated request db := by
  simp only [hasElevated, List.any_eq_true, Table.mem_select, HoldsElevated, RoleFilter.selects]
  constructor
  · rintro ⟨role, ⟨mem, selected⟩, code⟩
    simp only [Bool.and_eq_true, Bool.or_eq_true, decide_eq_true_eq] at selected code
    exact ⟨role, mem, by grind⟩
  · rintro ⟨role, mem, tenant, user, live, code⟩
    exact ⟨role, ⟨mem, by simp [tenant, user, live]⟩, by grind⟩

/-- With one row for the department, the first one decides. -/
theorem levelEligibility_eligible {departmentID : Uuid} {level : DeptRole}
    {rows : List DeptMembership}
    (only : ∀ first ∈ rows, ∀ second ∈ rows, first.departmentID = departmentID →
      second.departmentID = departmentID → first = second) :
    (levelEligibility departmentID level rows).eligible = isAssignable departmentID level rows := by
  induction rows with
  | nil => rfl
  | cons row rest ih =>
      have later := ih fun first memFirst second memSecond =>
        only first (.tail _ memFirst) second (.tail _ memSecond)
      simp only [isAssignable, List.any_cons] at later ⊢
      by_cases same : row.departmentID = departmentID
      · cases enough : row.roleLevel.satisfies level with
        | true => simp [levelEligibility, same, enough]
        | false =>
            -- another row of the department would be this one
            simp only [levelEligibility, same, enough]
            symm
            simp only [ne_eq, not_true_eq_false, ↓reduceIte, Bool.and_false, Bool.false_or,
              List.any_eq_false, Bool.and_eq_true, decide_eq_true_eq, not_and]
            intro other mem there
            rw [← only row List.mem_cons_self other (.tail _ mem) same there, enough]
            exact Bool.false_ne_true
      · simp [levelEligibility, same, later]

/-! ## How the calls end -/

section Calls

variable {σ : Type} {tenantID userID departmentID : Uuid}

theorem alone_findDept :
    Alone (· = base) (withPool (TenantDepartmentRepository.find tenantID departmentID) : DbM σ _)
      (fun row db => base.tenantDepts.find? (tenantID, departmentID) = some row ∧ db = base)
      fun _ db => db = base := by
  apply alone_lookup
  have reads : Inside base (· = base) (tenantQuery (.findDept tenantID departmentID) : DbM σ _)
      fun found db => found = base.tenantDepts.find? (tenantID, departmentID) ∧ db = base :=
    inside_read (fun _ _ => rfl) fun _ _ same => same ▸ ⟨rfl, rfl⟩
  refine Inside.bind reads fun found => inside_of_fact fun first => ?_
  cases found with
  | none => exact inside_throw
  | some row => exact inside_pure fun _ same => ⟨first.symm, same⟩

theorem turns_findByUserID {row : TenantMembership}
    (found : base.memberships.first? (·.isOf tenantID userID) = some row) :
    Turns dialect calm (· = base) (MembershipRepository.findByUserID tenantID userID : DbM σ _)
      fun answer db => answer = row ∧ db = base := by
  refine Turns.bind (turns_read (.membership (.findByUserID tenantID userID))
    (fun db => db.memberships.first? (·.isOf tenantID userID)) fun _ _ => rfl) fun answer => ?_
  refine Turns.given fun read => ?_
  rw [read, found]
  exact Turns.pure fun _ same => ⟨rfl, same⟩

theorem turns_findDept {row : TenantDepartment}
    (found : base.tenantDepts.find? (tenantID, departmentID) = some row) :
    Turns dialect calm (· = base) (TenantDepartmentRepository.find tenantID departmentID : DbM σ _)
      fun answer db => answer = row ∧ db = base := by
  refine Turns.bind (turns_read (.tenant (.findDept tenantID departmentID))
    (fun db => db.tenantDepts.find? (tenantID, departmentID)) fun _ _ => rfl) fun answer => ?_
  refine Turns.given fun read => ?_
  rw [read, found]
  exact Turns.pure fun _ same => ⟨rfl, same⟩

end Calls

theorem alone_listAssignments :
    Alone (· = base)
      (withPool (DeptMembershipRepository.listByUser request.tenantID request.newUserID) :
        DbM Unit _)
      (fun found db => found = assignments request base ∧ db = base) fun _ db => db = base :=
  alone_read (.dept (.listByUser request.tenantID request.newUserID)) (assignments request)
    fun _ _ => rfl

theorem completes_listAssignments :
    Completes dialect calm (fun _ => (· = base))
      (withPool (DeptMembershipRepository.listByUser request.tenantID request.newUserID) :
        DbM Unit _)
      fun found _ db => found = assignments request base ∧ db = base :=
  completes_calm_withPool (turns_read (.dept (.listByUser request.tenantID request.newUserID))
    (assignments request) fun _ _ => rfl)

/-- The event of the override is published. -/
structure Emitted (request : Request) (base db : Db) : Prop where
  elevated : HoldsElevated request base
  qualifies : Qualifies request base
  published : db = { base with outbox := base.outbox ++ [overridden request] }

/-- An override that is accepted publishes its event, and one that is refused changes
nothing. -/
theorem alone_override :
    Alone (· = base) (override request) (fun _ => Emitted request base)
      fun _ db => db = base ∨ Emitted request base db := by
  have reading : ∀ {α : Type} {program : DbM Unit α} {post : α → Db → Prop},
      Alone (· = base) program post (fun _ db => db = base) →
      Alone (· = base) program post fun _ db => db = base ∨ Emitted request base db :=
    fun alone => alone.weaken (fun _ same => same) (fun _ _ after => after) fun _ _ => .inl
  have roles : Alone (· = base)
      (withPool (TenantRoleRepository.listByUser request.tenantID request.actorID) : DbM Unit _)
      (fun found db => found = base.roles.select
        (RoleFilter.selects · (.user request.tenantID request.actorID)) ∧ db = base)
      fun _ db => db = base :=
    alone_read (.role (.listByUser request.tenantID request.actorID)) (fun db => db.roles.select
      (RoleFilter.selects · (.user request.tenantID request.actorID))) fun _ _ => rfl
  refine AloneBy.bind (reading roles) fun found => alone_of_fact fun listed => ?_
  by_cases elevated : hasElevated found = false
  · rw [if_pos elevated]
    exact alone_throw fun _ => .inl
  rw [if_neg elevated]
  have holds : HoldsElevated request base :=
    hasElevated_iff.mp (listed ▸ Bool.not_eq_false _ ▸ elevated)
  have member : Alone (· = base)
      ((withPool (MembershipRepository.findByUserID request.tenantID
        request.newUserID)).mapError fun _ => newError .assigneeIneligible
          "assignee is not a member of this tenant" : DbM Unit _)
      (fun row db => base.memberships.first? (·.isOf request.tenantID request.newUserID) =
        some row ∧ db = base) fun _ db => db = base :=
    Attempt.mapError alone_findByUserID
  refine AloneBy.bind (reading member) fun row => alone_of_fact fun found => ?_
  by_cases active : row.status = .active
  · rw [if_neg (not_not.mpr active)]
    refine AloneBy.bind (reading alone_listAssignments) fun rows => alone_of_fact fun listed => ?_
    by_cases enough : isAssignable request.departmentID request.requiredLevel rows = true
    · rw [if_pos enough]
      have qualifies : Qualifies request base := ⟨row, found, active, listed ▸ enough⟩
      have emits : Alone (· = base)
          (runInTx (eventQuery (.enqueue (overridden request))) : DbM Unit Unit)
          (fun _ => Emitted request base)
          (Aborted (fun _ => true) (· = base) (Emitted request base)) := by
        apply alone_runInTx_from
        apply inside_send
        rintro context _ _ _ rfl yields
        cases yields
        exact ⟨holds, qualifies, rfl⟩
      exact emits.weaken (fun _ same => same) (fun _ _ after => after)
        fun _ _ aborted => aborted.elim .inl .inr
    · rw [if_neg enough]
      exact alone_throw fun _ => .inl
  · rw [if_pos active]
    exact alone_throw fun _ => .inl

/-- An override by an elevated actor for a qualified assignee is accepted. -/
theorem completes_override (elevated : HoldsElevated request base)
    (qualifies : Qualifies request base) :
    Completes dialect calm (fun _ => (· = base)) (override request)
      fun _ _ db => db = { base with outbox := base.outbox ++ [overridden request] } := by
  obtain ⟨row, found, active, enough⟩ := qualifies
  have roles : Completes dialect calm (fun _ => (· = base))
      (withPool (TenantRoleRepository.listByUser request.tenantID request.actorID) : DbM Unit _)
      fun found _ db => found = base.roles.select
        (RoleFilter.selects · (.user request.tenantID request.actorID)) ∧ db = base :=
    completes_calm_withPool (turns_read (.role (.listByUser request.tenantID request.actorID))
      (fun db => db.roles.select
        (RoleFilter.selects · (.user request.tenantID request.actorID))) fun _ _ => rfl)
  refine Succeeds.bind roles fun listed => completes_given fun same => ?_
  subst same
  rw [if_neg (Bool.not_eq_false _ ▸ hasElevated_iff.mpr elevated)]
  have member := completes_calm_withPool (turns_findByUserID (σ := Unit) found)
  refine Succeeds.bind (Succeeds.mapError member) fun answer => completes_given fun same => ?_
  subst same
  rw [if_neg (not_not.mpr active)]
  refine Succeeds.bind completes_listAssignments fun rows => completes_given fun same => ?_
  subst same
  rw [if_pos enough]
  refine completes_calm_runInTx (turns_send ?_)
  rintro context _ _ _ rfl
  exact ⟨(), _, rfl, rfl⟩

/-- An assignee is only reported eligible when qualified, for a department that is active. -/
theorem alone_check :
    Alone (· = base) (check request)
      (fun report db => (report.eligible = true → Offered request base ∧
        ∃ row, base.memberships.first? (·.isOf request.tenantID request.newUserID) = some row ∧
          row.status = .active ∧ (levelEligibility request.departmentID request.requiredLevel
            (assignments request base)).eligible = true) ∧ db = base)
      fun _ db => db = base := by
  have unequal : ∀ {claim : Prop}, false = true → claim := fun wrong =>
    absurd wrong Bool.false_ne_true
  unfold check checkEligibility
  split
  · exact alone_throw fun _ same => same
  refine AloneBy.bind alone_findByUserID.observe fun found => ?_
  cases found with
  | error failure =>
      dsimp only
      split
      · exact alone_pure fun _ same => ⟨unequal, same⟩
      · exact alone_throw fun _ same => same
  | ok row =>
      refine alone_of_fact fun found => ?_
      by_cases active : row.status = .active
      · dsimp only
        rw [if_neg (not_not.mpr active)]
        refine AloneBy.bind alone_findDept.observe fun dept => ?_
        cases dept with
        | error failure =>
            dsimp only
            split
            · exact alone_pure fun _ same => ⟨unequal, same⟩
            · exact alone_throw fun _ same => same
        | ok dept =>
            refine alone_of_fact fun listed => ?_
            cases offered : dept.isActive with
            | false =>
                simp only [offered]
                exact alone_pure fun _ same => ⟨unequal, same⟩
            | true =>
                simp only [offered]
                refine AloneBy.bind alone_listAssignments fun rows => alone_of_fact fun same => ?_
                subst same
                exact alone_pure fun _ same =>
                  ⟨fun eligible => ⟨⟨dept, listed, offered⟩, row, found, active, eligible⟩, same⟩
      · dsimp only
        rw [if_pos active]
        exact alone_pure fun _ same => ⟨unequal, same⟩

/-- A qualified assignee is reported eligible for a department that is active. -/
theorem completes_check (valid : 0 ≤ request.requiredLevel.rank) (offered : Offered request base)
    {row : TenantMembership}
    (found : base.memberships.first? (·.isOf request.tenantID request.newUserID) = some row)
    (active : row.status = .active) :
    Completes dialect calm (fun _ => (· = base)) (check request)
      fun report _ db => report = levelEligibility request.departmentID request.requiredLevel
        (assignments request base) ∧ db = base := by
  obtain ⟨dept, listed, isActive⟩ := offered
  unfold check checkEligibility
  rw [if_neg (Int.not_lt.mpr valid)]
  have member := completes_calm_withPool (turns_findByUserID (σ := Unit) found)
  refine Succeeds.bind (completes_observe member) fun answer => completes_given fun same => ?_
  subst same
  dsimp only
  rw [if_neg (not_not.mpr active)]
  have finds := completes_calm_withPool (turns_findDept (σ := Unit) listed)
  refine Succeeds.bind (completes_observe finds) fun answer => completes_given fun same => ?_
  subst same
  dsimp only
  rw [if_neg (Bool.not_eq_false _ ▸ isActive)]
  refine Succeeds.bind completes_listAssignments fun rows => completes_given fun same => ?_
  subst same
  exact Succeeds.pure fun _ _ _ here => ⟨here.1, rfl, here.2⟩

/-- The unique index on live assignments leaves one for a department. -/
theorem assignments_only (distinct : db.depts.DistinctBy deptAccess.entries)
    {first second : DeptMembership} (memFirst : first ∈ assignments request db)
    (memSecond : second ∈ assignments request db)
    (same : first.departmentID = second.departmentID) : first = second := by
  obtain ⟨memFirst, isFirst⟩ := Table.mem_select.mp memFirst
  obtain ⟨memSecond, isSecond⟩ := Table.mem_select.mp memSecond
  simp only [DeptFilter.selects, Bool.and_eq_true, decide_eq_true_eq] at isFirst isSecond
  refine distinct first memFirst second memSecond _ (mem_deptEntries.mpr ⟨isFirst.2, rfl⟩)
    (mem_deptEntries.mpr ⟨isSecond.2, ?_⟩)
  rw [same, isFirst.1.1, isFirst.1.2, isSecond.1.1, isSecond.1.2]

theorem levelEligibility_iff (distinct : db.depts.DistinctBy deptAccess.entries) :
    (levelEligibility request.departmentID request.requiredLevel
        (assignments request db)).eligible = true ↔
      isAssignable request.departmentID request.requiredLevel (assignments request db) = true := by
  rw [levelEligibility_eligible fun first memFirst second memSecond atFirst atSecond =>
    assignments_only distinct memFirst memSecond (atFirst.trans atSecond.symm)]

/-! ## Agreement -/

/-- I-13 accepts the request and enqueues its event. -/
def Accepts (request : Request) (before : DbServer) : Prop :=
  server.Delivers Chance.isProceed (override request).run before fun outcome after =>
    outcome = .ok () ∧ after.db.outbox = before.db.outbox ++ [overridden request]

/-- I-19 reports the assignee eligible. -/
def ReportsEligible (request : Request) (before : DbServer) : Prop :=
  server.Delivers Chance.isProceed (check request).run before fun outcome _ =>
    ∃ report, outcome = .ok report ∧ report.eligible = true

theorem accepts_iff {before : DbServer} :
    Accepts request before ↔ HoldsElevated request before.db ∧ Qualifies request before.db := by
  constructor
  · intro accepts
    obtain ⟨outcome, after, completes, rfl, _⟩ := accepts.exists_completes
    have emitted := alone_override.ended completes rfl
    exact ⟨emitted.elevated, emitted.qualifies⟩
  · rintro ⟨elevated, qualifies⟩
    obtain ⟨returns, always⟩ := delivers_of_completes (completes_override elevated qualifies)
      (show before.db = before.db from rfl)
    refine ⟨returns, fun outcome after completes => ?_⟩
    obtain ⟨_, rfl, same⟩ := always outcome after completes
    exact ⟨rfl, by rw [same]⟩

theorem reportsEligible_iff {before : DbServer} (valid : 0 ≤ request.requiredLevel.rank)
    (distinct : before.db.depts.DistinctBy deptAccess.entries) :
    ReportsEligible request before ↔ Offered request before.db ∧ Qualifies request before.db := by
  constructor
  · intro reports
    obtain ⟨outcome, after, completes, report, rfl, eligible⟩ := reports.exists_completes
    obtain ⟨offered, row, found, active, enough⟩ :=
      (alone_check.ended completes rfl).1 eligible
    exact ⟨offered, row, found, active, (levelEligibility_iff distinct).mp enough⟩
  · rintro ⟨offered, row, found, active, enough⟩
    obtain ⟨returns, always⟩ := delivers_of_completes (completes_check valid offered found active)
      (show before.db = before.db from rfl)
    refine ⟨returns, fun outcome after completes => ?_⟩
    obtain ⟨report, rfl, same, _⟩ := always outcome after completes
    exact ⟨report, rfl, same ▸ (levelEligibility_iff distinct).mpr enough⟩

/-- The two checks agree, and nobody but an active member overrides, exactly if an elevated
actor can only choose a qualified assignee of a department that is active for the tenant, and
is an active member then. -/
theorem override_iff_eligible (request : Request) (before : DbServer)
    (valid : 0 ≤ request.requiredLevel.rank)
    (distinct : before.db.depts.DistinctBy deptAccess.entries) :
    ((IsActive request.tenantID request.actorID before.db →
        (Accepts request before ↔
          HoldsElevated request before.db ∧ ReportsEligible request before)) ∧
      (¬IsActive request.tenantID request.actorID before.db →
        ∀ outcome after, server.Completes (override request).run before outcome after →
          after.db.outbox = before.db.outbox)) ↔
    (HoldsElevated request before.db → Qualifies request before.db →
      IsActive request.tenantID request.actorID before.db ∧ Offered request before.db) := by
  rw [accepts_iff, reportsEligible_iff valid distinct]
  constructor
  · rintro ⟨agree, silent⟩ elevated qualifies
    have active : IsActive request.tenantID request.actorID before.db := by
      by_contra inactive
      obtain ⟨outcome, after, completes, _, published⟩ :=
        (accepts_iff.mpr ⟨elevated, qualifies⟩).exists_completes
      have same := silent inactive outcome after completes
      simp [published] at same
    exact ⟨active, ((agree active).mp ⟨elevated, qualifies⟩).2.1⟩
  · intro condition
    refine ⟨fun _ => ⟨fun ⟨elevated, qualifies⟩ => ?_, fun ⟨elevated, _, qualifies⟩ => ?_⟩,
      fun inactive outcome after completes => ?_⟩
    · exact ⟨elevated, (condition elevated qualifies).2, qualifies⟩
    · exact ⟨elevated, qualifies⟩
    · have quiet : ¬Emitted request before.db after.db := fun emitted =>
        inactive (condition emitted.elevated emitted.qualifies).1
      have ended := alone_override.ended completes rfl
      cases outcome with
      | ok => exact absurd ended quiet
      | error failure => rw [ended.resolve_right quiet]

/-- The actor 101, a tenant admin of the given status, and the assignee 102, a reviewer in
department 7. -/
def staff (status : MembershipStatus) (isActive : Bool) : Db :=
  { Db.empty with
    tenants := .singleton trialRow
    tenantDepts := .singleton ⟨1, 7, isActive, 1, 0, 0⟩
    memberships := ⟨[newMembership ⟨0, 0, 11⟩ 1 101 status,
      newMembership ⟨0, 0, 12⟩ 1 102 .active], by simp [newMembership]⟩
    roles := .singleton (newRole ⟨0, 0, 21⟩ 1 101 11 .tenantAdmin 101)
    depts := .singleton (newDept ⟨0, 0, 32⟩ 1 102 7 12 .reviewer 101) }

/-- The actor 101 gives tender 5 to the assignee 102, who has to be a preparator at least. -/
def handover : Request :=
  ⟨1, 5, 102, 7, .preparator, 101⟩

theorem holdsElevated_staff (status : MembershipStatus) (isActive : Bool) :
    HoldsElevated handover (staff status isActive) :=
  ⟨newRole ⟨0, 0, 21⟩ 1 101 11 .tenantAdmin 101, List.mem_singleton.mpr rfl, rfl, rfl, rfl,
    .inr (.inl rfl)⟩

theorem qualifies_staff (status : MembershipStatus) (isActive : Bool) :
    Qualifies handover (staff status isActive) :=
  ⟨newMembership ⟨0, 0, 12⟩ 1 102 .active, rfl, rfl, rfl⟩

theorem isActive_staff (isActive : Bool) : IsActive 1 101 (staff .active isActive) :=
  ⟨newMembership ⟨0, 0, 11⟩ 1 101 .active, List.mem_cons_self, rfl, rfl⟩

theorem distinct_staff (status : MembershipStatus) (isActive : Bool) :
    (staff status isActive).depts.DistinctBy deptAccess.entries := by
  intro first memFirst second memSecond _ _ _
  rw [List.mem_singleton.mp memFirst, List.mem_singleton.mp memSecond]

theorem handover_eligible :
    IsActive 1 101 (staff .active true) ∧
      (Accepts handover ⟨staff .active true, 0⟩ ↔
        HoldsElevated handover (staff .active true) ∧
          ReportsEligible handover ⟨staff .active true, 0⟩) :=
  ⟨isActive_staff true,
    ((override_iff_eligible handover ⟨staff .active true, 0⟩ (by decide)
      (distinct_staff .active true)).mpr fun _ _ => ⟨isActive_staff true, _, rfl, rfl⟩).1
      (isActive_staff true)⟩

/-- An override to a department that was deactivated is accepted, though its assignees are
not eligible; and a suspended tenant admin can override. -/
theorem handover_ineligible :
    (staff .active false).depts.DistinctBy deptAccess.entries ∧
      IsActive 1 101 (staff .active false) ∧ Accepts handover ⟨staff .active false, 0⟩ ∧
      ¬ReportsEligible handover ⟨staff .active false, 0⟩ ∧
      ¬IsActive 1 101 (staff .suspended true) ∧ Accepts handover ⟨staff .suspended true, 0⟩ := by
  refine ⟨distinct_staff .active false, isActive_staff false,
    accepts_iff.mpr ⟨holdsElevated_staff .active false, qualifies_staff .active false⟩, ?_, ?_,
    accepts_iff.mpr ⟨holdsElevated_staff .suspended true, qualifies_staff .suspended true⟩⟩
  · rw [reportsEligible_iff (by decide) (distinct_staff .active false)]
    rintro ⟨⟨row, found, isActive⟩, _⟩
    cases found
    cases isActive
  · rintro ⟨row, mem, is, active⟩
    rcases List.mem_cons.mp mem with rfl | mem
    · cases active
    · cases List.mem_singleton.mp mem
      cases is

end Assignee

end OrgMembership

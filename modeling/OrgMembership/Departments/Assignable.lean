import OrgMembership.Departments.Assignee
import OrgMembership.Departments.Groups
import OrgMembership.Service.Alone

/-!
# Which departments get assigned

P-10 looks at the catalog, at the department of the tenant and at the membership before it
assigns a department.  I-10 and I-3 look at nothing, and the foreign keys ask less: that the
tenant has a row for the department, whether it is active or not.
-/

namespace OrgMembership

open Concurrency Relational Assignee

namespace Assignable

variable {σ : Type} {tenantID userID : Uuid} {base db : Db} {catalog : Uuid → Bool}

/-- The department is in the catalog and active for the tenant. -/
def Open (catalog : Uuid → Bool) (tenantID : Uuid) (db : Db) (departmentID : Uuid) : Prop :=
  catalog departmentID = true ∧
    ∃ dept, db.tenantDepts.find? (tenantID, departmentID) = some dept ∧ dept.isActive = true

/-- The user is an active member, and the department is active for the tenant and in the
catalog. -/
def MayHold (catalog : Uuid → Bool) (db : Db) (tenantID userID departmentID : Uuid) : Prop :=
  IsActive tenantID userID db ∧ Open catalog tenantID db departmentID

/-- The live department rows that are new may all be held. -/
def Sound (catalog : Uuid → Bool) (base db : Db) : Prop :=
  ∀ row ∈ db.depts, row.live = true → row ∉ base.depts →
    MayHold catalog db row.tenantID row.userID row.departmentID

/-! ## What the calls make of the rows -/

/-- Departments were assigned to the user, memberships were at most added, and the user is now
an active member iff a condition holds. -/
structure Applied (tenantID userID : Uuid) (targets : List (Uuid × DeptRole)) (joins : Prop)
    (base db : Db) : Prop where
  depts : ∃ granter start mid, start.depts = base.depts ∧
    DeptsApplied tenantID userID granter start targets mid ∧ db.depts = mid.depts
  tenantDepts : db.tenantDepts = base.tenantDepts
  kept : ∀ row ∈ base.memberships, row ∈ db.memberships
  member : IsActive tenantID userID db ↔ joins

section Applied

variable {targets : List (Uuid × DeptRole)} {joins : Prop} {granter : Granter} {start : Db}

theorem applied_refl (tenantID userID : Uuid) (db : Db) :
    Applied tenantID userID [] (IsActive tenantID userID db) db db :=
  ⟨⟨⟨0, 0, fun _ _ => []⟩, db, db, rfl, .nil, rfl⟩, rfl, fun _ mem => mem, Iff.rfl⟩

theorem Applied.assign (joined : Applied tenantID userID [] joins base start)
    (assigned : DeptsApplied tenantID userID granter start targets db) :
    Applied tenantID userID targets joins base db := by
  obtain ⟨_, members, tenantDepts⟩ := assigned.frame
  obtain ⟨_, _, _, same, unassigned, depts⟩ := joined.depts
  rw [unassigned.of_nil rfl] at depts
  exact
    { depts := ⟨granter, start, db, depts.trans same, assigned, rfl⟩
      tenantDepts := tenantDepts.trans joined.tenantDepts
      kept := fun row mem => members ▸ joined.kept row mem
      member := by rw [IsActive, members]; exact joined.member }

/-- Writes to other tables do not show. -/
theorem Applied.congr (applied : Applied tenantID userID targets joins base start)
    (depts : db.depts = start.depts) (members : db.memberships = start.memberships)
    (tenantDepts : db.tenantDepts = start.tenantDepts) :
    Applied tenantID userID targets joins base db where
  depts := depts ▸ applied.depts
  tenantDepts := tenantDepts.trans applied.tenantDepts
  kept row mem := members ▸ applied.kept row mem
  member := by rw [IsActive, members]; exact applied.member

/-- A statement that writes none of the three tables. -/
def Apart (query : Query) : Prop :=
  .depts ∉ query.writesTo ∧ .memberships ∉ query.writesTo ∧ .tenantDepts ∉ query.writesTo

theorem confines_applied : Confines Apart (Applied tenantID userID targets joins base) :=
  fun _ ⟨depts, members, tenantDepts⟩ _ _ _ _ applied yields =>
    applied.congr (Query.depts_eq yields depts) (Query.memberships_eq yields members)
      (Query.tenantDepts_eq yields tenantDepts)

/-- The new rows may be held iff every target that asks for a level not held is for an active
member and an open department. -/
theorem Applied.sound_iff (unique : base.depts.DistinctBy deptAccess.entries)
    (applied : Applied tenantID userID targets joins base db) :
    Sound catalog base db ↔ ∀ target ∈ targets,
      target.2 ∉ levelsOf tenantID userID target.1 base →
        joins ∧ Open catalog tenantID base target.1 := by
  obtain ⟨granter, start, mid, same, assigned, final⟩ := applied.depts
  have single : Single tenantID userID start := by
    intro departmentID
    rw [assignmentsOf, same]
    exact length_assignmentsOf_le unique
  have levels : ∀ departmentID, levelsOf tenantID userID departmentID start =
      levelsOf tenantID userID departmentID base := by
    intro departmentID
    rw [levelsOf, levelsOf, assignmentsOf, assignmentsOf, same]
  have created := assigned.forall_new_iff single (P := MayHold catalog db)
  rw [Sound, final, ← same, created]
  simp only [MayHold, Open, levels, applied.member, applied.tenantDepts]

end Applied

/-! ## P-10 -/

section Assign

variable {departmentID actorID : Uuid} {level : DeptRole} {answers : AssignAnswers}

theorem alone_checkTenantDept :
    Alone (· = base) (withPool (checkTenantDept tenantID departmentID) : DbM σ _)
      (fun _ db => (∃ dept, base.tenantDepts.find? (tenantID, departmentID) = some dept ∧
        dept.isActive = true) ∧ db = base) fun _ db => db = base := by
  refine alone_lookup ?_
  have reads : Inside base (· = base) (tenantQuery (.findDept tenantID departmentID) : DbM σ _)
      fun found db => found = base.tenantDepts.find? (tenantID, departmentID) ∧ db = base :=
    inside_read (fun _ _ => rfl) fun _ _ same => same ▸ ⟨rfl, rfl⟩
  refine Inside.bind reads fun found => inside_of_fact fun first => ?_
  cases found with
  | none => exact inside_throw
  | some dept =>
      dsimp only
      split
      case isTrue isActive => exact inside_pure fun _ same => ⟨⟨dept, first.symm, isActive⟩, same⟩
      case isFalse => exact inside_throw

theorem isActive_of_first? {row : TenantMembership}
    (found : base.memberships.first? (·.isOf tenantID userID) = some row)
    (active : row.status = .active) : IsActive tenantID userID base :=
  ⟨row, (Table.first?_some found).1, (Table.first?_some found).2, active⟩

theorem alone_findActiveMember :
    Alone (· = base) (withPool (findActiveMember tenantID userID) : DbM σ _)
      (fun row db => (base.memberships.first? (·.isOf tenantID userID) = some row ∧
        row.status = .active) ∧ db = base) fun _ db => db = base := by
  refine alone_lookup ?_
  have reads : Inside base (· = base) (membershipQuery (.findByUserID tenantID userID) : DbM σ _)
      fun found db => found = base.memberships.first? (·.isOf tenantID userID) ∧ db = base :=
    inside_read (fun _ _ => rfl) fun _ _ same => same ▸ ⟨rfl, rfl⟩
  refine Inside.bind reads fun found => inside_of_fact fun first => ?_
  cases found with
  | none => exact inside_throw
  | some row =>
      dsimp only
      split
      case isTrue active => exact inside_pure fun _ same => ⟨⟨first.symm, active⟩, same⟩
      case isFalse => exact inside_throw

/-- What P-10 has seen before it assigns. -/
structure Checked (tenantID userID departmentID : Uuid) (answers : AssignAnswers) (db : Db) :
    Prop where
  catalog : checkCatalog answers.catalog = .ok ()
  offered : ∃ dept, db.tenantDepts.find? (tenantID, departmentID) = some dept ∧
    dept.isActive = true
  member : ∃ row, db.memberships.first? (·.isOf tenantID userID) = some row ∧ row.status = .active

theorem Checked.isActive (checked : Checked tenantID userID departmentID answers base) :
    IsActive tenantID userID base := by
  obtain ⟨row, found, active⟩ := checked.member
  exact isActive_of_first? found active

theorem inside_assignTx {start : Db} {membershipID : Uuid} :
    Inside base (· = start)
      (assignTx tenantID userID departmentID membershipID actorID level : DbM σ _)
      fun _ => Applied tenantID userID [(departmentID, level)] (IsActive tenantID userID start)
        start := by
  refine Inside.bind DeptMembershipRepository.inside_assign fun ⟨row, previous⟩ =>
    inside_of_start fun after assigned => ?_
  refine Inside.bind (inside_enqueueEach fun event => event) fun _ =>
    inside_pure fun db published => ?_
  let granter : Granter := ⟨membershipID, actorID, fun _ previous =>
    (assignmentEvent tenantID userID departmentID actorID level previous).toList⟩
  have applied : DeptsApplied tenantID userID granter start ([] ++ [(departmentID, level)]) _ :=
    .snoc .nil assigned
  rw [published, List.map_id']
  exact (applied_refl tenantID userID start).assign applied

/-- What P-10 makes of the rows when it goes through. -/
def Assigns (tenantID userID departmentID : Uuid) (level : DeptRole) (answers : AssignAnswers)
    (base db : Db) : Prop :=
  Checked tenantID userID departmentID answers base ∧
    Applied tenantID userID [(departmentID, level)] (IsActive tenantID userID base) base db

theorem alone_assign :
    Alone (· = base) (assign tenantID userID departmentID level actorID answers : DbM σ _)
      (fun _ => Assigns tenantID userID departmentID level answers base)
      (Aborted (fun _ => true) (· = base)
        (Assigns tenantID userID departmentID level answers base)) := by
  rw [assign]
  split
  · exact alone_throw fun _ same => .inl same
  split
  · exact alone_throw fun _ same => .inl same
  split
  · exact alone_throw fun _ same => .inl same
  case h_2 catalog =>
    refine AloneBy.bind (.before alone_checkTenantDept) fun _ => alone_of_fact fun offered => ?_
    refine AloneBy.bind (.before alone_findActiveMember) fun membership =>
      alone_of_fact fun found => ?_
    have gates : Alone (· = base)
        (demotionGate tenantID userID departmentID level answers : DbM σ _)
        (fun _ db => db = base) fun _ db => db = base :=
      keeps_demotionGate (reader_solo (· = base))
    refine AloneBy.bind (.before gates) fun _ => ?_
    exact alone_runInTx_from (inside_assignTx.weaken (fun _ same => same)
      fun _ _ applied => ⟨⟨catalog, offered, membership, found⟩, applied⟩)

/-- The catalog answers the truth, if it answers. -/
def Consulted (catalog : Uuid → Bool) (departmentID : Uuid) (answers : AssignAnswers) : Prop :=
  ∃ answer, answers.catalog = some answer ∧
    ∀ isActive, answer = .ok isActive → isActive = catalog departmentID

theorem Consulted.listed (consulted : Consulted catalog departmentID answers)
    (checked : checkCatalog answers.catalog = .ok ()) : catalog departmentID = true := by
  obtain ⟨answer, wired, honest⟩ := consulted
  rw [wired] at checked
  cases answer with
  | error failure => cases checked
  | ok isActive =>
      rw [← honest isActive rfl]
      cases isActive with
      | true => rfl
      | false => cases checked

end Assign

/-! ## I-10 -/

theorem FromGroups.applied {groups : List String} {mappings : GroupMappings} {order : MapOrder}
    (fromGroups : FromGroups tenantID userID groups mappings order base db) :
    Applied tenantID userID (resolveDeptRoles mappings groups) (IsActive tenantID userID base)
      base db := by
  obtain ⟨_, _, mid, assigned, granted⟩ := fromGroups
  obtain ⟨depts, members, tenantDepts⟩ := granted.frame
  exact ((applied_refl tenantID userID base).assign assigned).congr depts members tenantDepts

/-! ## I-3 -/

section Register

variable {keycloakUserID : Uuid} {email : String} {isServiceAccount : Bool}

/-- The departments that the invitation queues. -/
def queue (candidate : Option PendingInvitation) : List (Uuid × DeptRole) :=
  match candidate with
  | none => []
  | some pending => pending.initialDeptMappings.map fun mapping =>
      (mapping.departmentID, mapping.level)

/-- The user is an active member or none yet. -/
def Joins (tenantID userID : Uuid) (db : Db) : Prop :=
  IsActive tenantID userID db ∨ ∀ member ∈ db.memberships, member.isOf tenantID userID = false

theorem inside_insert :
    Inside base (· = base) (MembershipRepository.insert tenantID userID .active : DbM σ _)
      fun _ => Applied tenantID userID [] (Joins tenantID userID base) base := by
  have unwritten := (applied_refl tenantID userID base).depts
  have inserts : Inside base (· = base)
      (membershipQuery (.insert tenantID userID .active) : DbM σ _)
      fun _ => Applied tenantID userID [] (Joins tenantID userID base) base := by
    refine inside_send fun context db result writes same yields => ?_
    subst same
    rcases Access.insertRow_cases yields with
      ⟨_, rfl, member, mem, is⟩ | ⟨unopposed, allowed, _, rfl, _⟩
    · refine ⟨unwritten, rfl, fun _ mem => mem, .inl, ?_⟩
      rintro (active | none)
      · exact active
      · rw [none member mem] at is
        cases is
    · simp only [firstViolated_eq_none, List.mem_cons, forall_eq_or_imp] at allowed
      have unused : ∀ row ∈ db.memberships, row.id ≠ context.fresh :=
        Table.find?_eq_none.mp (Option.isNone_iff_eq_none.mp allowed.1)
      refine ⟨unwritten, rfl, fun row mem => Table.mem_put.mpr (.inr ⟨mem, unused row mem⟩),
        fun _ => .inr unopposed, fun _ => ?_⟩
      refine ⟨newMembership context tenantID userID .active, Table.mem_put.mpr (.inl rfl), ?_, rfl⟩
      simp [TenantMembership.isOf, newMembership, TenantMembership.live]
  refine Inside.bind inserts fun created => ?_
  cases created with
  | some row => exact inside_pure fun _ applied => applied
  | none =>
      refine Inside.bind (inside_reads (issues_send rfl)) fun found => ?_
      cases found with
      | none => exact inside_throw
      | some winner => exact inside_pure fun _ applied => applied

theorem inside_assignInitial {start : Db} {membershipID invitedBy : Uuid}
    {done : List InvitationDeptMapping} {mapping : InvitationDeptMapping} {granter : Granter}
    (acts : granter = ⟨membershipID, invitedBy, fun row _ => [⟨tenantID, userID,
      .departmentMembershipGranted userID tenantID row.departmentID row.roleLevel invitedBy⟩]⟩) :
    Inside base (DeptsApplied tenantID userID granter start
        (done.map fun mapping => (mapping.departmentID, mapping.level)))
      (assignInitial tenantID userID membershipID invitedBy mapping : DbM σ _)
      fun _ => DeptsApplied tenantID userID granter start
        ((done ++ [mapping]).map fun mapping => (mapping.departmentID, mapping.level)) := by
  subst acts
  refine inside_of_start fun mid applied => ?_
  refine Inside.bind DeptMembershipRepository.inside_assign fun ⟨row, previous⟩ =>
    inside_of_start fun after assigned => ?_
  refine inside_enqueue.weaken (fun _ here => here) fun _ db published => ?_
  rw [published, List.map_append]
  exact applied.snoc assigned

theorem inside_acceptInvitation {membershipID : Uuid} {pending : PendingInvitation} {joins : Prop} :
    Inside base (Applied tenantID userID [] joins base)
      (acceptInvitation tenantID userID membershipID pending : DbM σ _)
      fun _ => Applied tenantID userID (queue (some pending)) joins base := by
  have apart : ∀ query : Query, query.writesTo ⊆ [.roles, .outbox, .invitations] → Apart query := by
    intro query plain
    refine ⟨fun mem => ?_, fun mem => ?_, fun mem => ?_⟩ <;> simpa using plain mem
  refine Inside.bind (inside_only confines_applied (InvitationRepository.issues_setStatus
    (apart _ (by simp)) (apart _ (by simp)))) fun _ => ?_
  refine Inside.bind (inside_only confines_applied (Fallible.Issues.forM fun _ _ =>
    issues_grantInitial ⟨fun _ _ _ => apart _ (by simp), fun _ => apart _ (by simp),
      fun _ _ => apart _ (by simp)⟩)) fun _ => inside_of_start fun start joined => ?_
  refine Inside.weaken (Attempt.forM_along (fun done => Seen base (DeptsApplied tenantID userID _
    start (done.map fun mapping => (mapping.departmentID, mapping.level))))
    (fun _ _ _ => inside_assignInitial rfl) []) (fun _ same => same ▸ .nil) ?_
  exact fun _ _ assigned => joined.assign assigned

/-- What I-3 makes of the rows when it goes through. -/
abbrev Registers (tenantID userID keycloakUserID : Uuid) (email : String) (base db : Db) : Prop :=
  Applied tenantID userID
    (queue (candidateOf tenantID keycloakUserID (normalizeEmail email) base))
    (Joins tenantID userID base) base db

theorem alone_addFromRegister :
    Alone (· = base)
      (addFromRegister tenantID userID keycloakUserID email isServiceAccount : DbM σ _)
      (fun _ => Registers tenantID userID keycloakUserID email base)
      (Aborted (fun _ => true) (· = base)
        (Registers tenantID userID keycloakUserID email base)) := by
  apply alone_register inside_insert
  · intro none db joined
    unfold Registers
    rw [none]
    exact joined
  · intro membershipID pending found
    unfold Registers
    rw [found]
    exact inside_acceptInvitation
  · exact fun _ _ _ => inside_only confines_applied
      (issues_send ⟨by simp, by simp, by simp⟩)

end Register

/-! ## The calls -/

/-- The calls that assign departments. -/
inductive Call
  | assign (tenantID userID departmentID : Uuid) (level : DeptRole) (actorID : Uuid)
      (answers : AssignAnswers)
  | assignFromGroups (tenantID userID : Uuid) (groups : List String) (mappings : GroupMappings)
      (order : MapOrder)
  | addFromRegister (tenantID userID keycloakUserID : Uuid) (email : String)
      (isServiceAccount : Bool)

/-- The call, whatever it answers. -/
def Call.program : Call → DbM Unit Unit
  | .assign tenantID userID departmentID level actorID answers =>
      (fun _ => ()) <$> OrgMembership.assign tenantID userID departmentID level actorID answers
  | .assignFromGroups tenantID userID groups mappings order =>
      (fun _ => ()) <$> OrgMembership.assignFromGroups tenantID userID groups mappings order
  | .addFromRegister tenantID userID keycloakUserID email isServiceAccount =>
      (fun _ => ()) <$> OrgMembership.addFromRegister tenantID userID keycloakUserID email
        isServiceAccount

/-- P-10 has a catalog to ask. -/
def Wired (catalog : Uuid → Bool) : Call → Prop
  | .assign _ _ departmentID _ _ answers => Consulted catalog departmentID answers
  | _ => True

/-- The targets of I-10 and I-3 that ask for a level the user does not hold are open departments,
and the user is an active member or, for I-3, none yet. -/
def Vetted (catalog : Uuid → Bool) (db : Db) : Call → Prop
  | .assign .. => True
  | .assignFromGroups tenantID userID groups mappings _ =>
      ∀ target ∈ resolveDeptRoles mappings groups,
        target.2 ∉ levelsOf tenantID userID target.1 db →
          IsActive tenantID userID db ∧ Open catalog tenantID db target.1
  | .addFromRegister tenantID userID keycloakUserID email _ =>
      ∀ target ∈ queue (candidateOf tenantID keycloakUserID (normalizeEmail email) db),
        target.2 ∉ levelsOf tenantID userID target.1 db →
          Joins tenantID userID db ∧ Open catalog tenantID db target.1

theorem alone_program {call : Call} (unique : base.depts.DistinctBy deptAccess.entries)
    (wired : Wired catalog call) :
    Alone (· = base) call.program
      (fun _ db => Sound catalog base db ↔ Vetted catalog base call)
      (Aborted (fun _ => true) (· = base)
        fun db => Sound catalog base db ↔ Vetted catalog base call) := by
  have exactly : ∀ {α : Type} {program : DbM Unit α} {left : Db → Prop},
      (∀ db, left db → (Sound catalog base db ↔ Vetted catalog base call)) →
      Alone (· = base) program (fun _ => left) (Aborted (fun _ => true) (· = base) left) →
      Alone (· = base) ((fun _ => ()) <$> program)
        (fun _ db => Sound catalog base db ↔ Vetted catalog base call)
        (Aborted (fun _ => true) (· = base)
          fun db => Sound catalog base db ↔ Vetted catalog base call) :=
    fun tells alone => AloneBy.map (alone.weaken (fun _ same => same) (fun _ db => tells db)
      fun _ db aborted => aborted.mono (fun same => same) (tells db))
  cases call with
  | assign =>
      refine exactly (fun db ⟨checked, applied⟩ => iff_of_true ?_ trivial) alone_assign
      refine (applied.sound_iff unique).mpr fun target mem _ => ?_
      cases List.mem_singleton.mp mem
      exact ⟨checked.isActive, wired.listed checked.catalog, checked.offered⟩
  | assignFromGroups =>
      exact exactly (fun _ applied => (FromGroups.applied applied).sound_iff unique)
        OrgMembership.alone_assignFromGroups
  | addFromRegister =>
      exact exactly (fun _ applied => applied.sound_iff unique) alone_addFromRegister

/-- The department rows that a call creates are of active members in departments that are
active for the tenant and in the catalog iff the call is vetted.  A call that fails creates
none, unless the answer to its commit got lost. -/
theorem assigned_mayHold (catalog : Uuid → Bool) (call : Call) (before after : DbServer)
    (outcome : Except Failure Unit) (unique : before.db.depts.DistinctBy deptAccess.entries)
    (wired : Wired catalog call)
    (completes : server.Completes call.program.run before outcome after) :
    (∃ failure, outcome = .error failure ∧ after.db = before.db) ∨
      (Sound catalog before.db after.db ↔ Vetted catalog before.db call) := by
  have ended := (alone_program unique wired).ended completes rfl
  cases outcome with
  | ok => exact .inr ended
  | error failure =>
      rcases ended with same | ⟨_, _, exactly⟩
      · exact .inl ⟨failure, rfl, same⟩
      · exact .inr exactly

/-- User 102 signs in as a reviewer of department 31. -/
def signsIn : Call :=
  .assignFromGroups 1 102 ["reviewers"] Groups.reviewers .declared

theorem assigned_mayHold_of_signIn :
    ∃ after row, server.Completes signsIn.program.run ⟨Groups.joined, 0⟩ (.ok ()) after ∧
      row ∈ after.db.depts ∧ row.live = true ∧ row ∉ Groups.joined.depts ∧
        Sound (fun _ => true) Groups.joined after.db := by
  obtain ⟨outcome, after, completes, passed⟩ := server.exists_completes_of_endsAs
    signsIn.program.run ⟨Groups.joined, 0⟩ (proceeding 100 12)
    (fun outcome after => outcome.toOption.any fun _ =>
      ∃ row ∈ after.db.depts.rows, row.live = true) (by decide +kernel)
  obtain ⟨_, rfl, row, mem, live⟩ := ok_of_any passed
  have vetted : Vetted (fun _ => true) Groups.joined signsIn := by
    intro target resolved _
    cases List.mem_singleton.mp resolved
    exact ⟨⟨_, List.mem_singleton.mpr rfl, rfl, rfl⟩, rfl, _, rfl, rfl⟩
  have exactly := assigned_mayHold (fun _ => true) signsIn ⟨Groups.joined, 0⟩ after (.ok ())
    (by decide) trivial completes
  exact ⟨after, row, completes, mem, live, List.not_mem_nil,
    (exactly.resolve_left nofun).mpr vetted⟩

/-- The member is suspended. -/
def suspended : Db :=
  { Groups.joined with
    memberships := .singleton (newMembership ⟨0, 0, 12⟩ 1 102 .suspended) }

/-- An invitation of user 102 as owner and as approver of department 7. -/
def invitationB : PendingInvitation where
  id := 42
  tenantID := 1
  email := "b@acme"
  fullName := "B"
  initialTenantRoles := [.tenantOwner]
  initialDeptMappings := [⟨7, .approver⟩]
  invitedBy := 101
  keycloakUserID := some 102
  status := .pending
  expiresAt := days 7
  acceptedAt := none
  kcCleanupPending := false
  recordVersion := 1
  createdAt := 0
  updatedAt := 0

/-- The tenant before user 102 joins. -/
def invitedB : Db :=
  { Db.empty with
    tenants := .singleton trialRow
    tenantDepts := .singleton ⟨1, 7, true, 1, 0, 0⟩
    invitations := .singleton invitationB }

/-- The department that the invitation queues was deactivated. -/
def deactivated : Db :=
  { invitedB with tenantDepts := .singleton ⟨1, 7, false, 1, 0, 0⟩ }

/-- I-10 assigns a department to a suspended member, and I-3 assigns a department that was
deactivated for the tenant. -/
theorem assigned_not_mayHold :
    (∃ after, server.Completes signsIn.program.run ⟨suspended, 0⟩ (.ok ()) after ∧
      ∀ catalog, ¬Sound catalog suspended after.db) ∧
    ∃ after, server.Completes (Call.addFromRegister 1 102 102 "" false).program.run
        ⟨deactivated, 0⟩ (.ok ()) after ∧
      ∀ catalog, ¬Sound catalog deactivated after.db := by
  constructor
  · obtain ⟨outcome, after, completes, passed⟩ := server.exists_completes_of_endsAs
      signsIn.program.run ⟨suspended, 0⟩ (proceeding 100 12)
      (fun outcome after => outcome.toOption.any fun _ =>
        (∃ row ∈ after.db.depts.rows, row.live = true) ∧
          ∀ member ∈ after.db.memberships.rows, member.status ≠ .active) (by decide +kernel)
    obtain ⟨_, rfl, ⟨row, mem, live⟩, inactive⟩ := ok_of_any passed
    refine ⟨after, completes, fun catalog sound => ?_⟩
    obtain ⟨member, present, _, active⟩ := (sound row mem live List.not_mem_nil).1
    exact inactive member present active
  · obtain ⟨outcome, after, completes, passed⟩ := server.exists_completes_of_endsAs
      (Call.addFromRegister 1 102 102 "" false).program.run ⟨deactivated, 0⟩
      (proceeding 100 19)
      (fun outcome after => outcome.toOption.any fun _ =>
        (∃ row ∈ after.db.depts.rows, row.live = true) ∧
          ∀ dept ∈ after.db.tenantDepts.rows, dept.isActive = false) (by decide +kernel)
    obtain ⟨_, rfl, ⟨row, mem, live⟩, inactive⟩ := ok_of_any passed
    refine ⟨after, completes, fun catalog sound => ?_⟩
    obtain ⟨dept, found, isActive⟩ := (sound row mem live List.not_mem_nil).2.2
    rw [inactive dept (Table.find?_eq_some.mp found |>.1)] at isActive
    cases isActive

end Assignable

end OrgMembership

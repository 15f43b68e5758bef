import Mathlib.Data.List.Dedup
import OrgMembership.Departments.Assigning
import OrgMembership.Lifecycle.Patch
import OrgMembership.Members.Granting
import OrgMembership.Service.Alone

/-!
# I-10 with no concurrent writer

`AssignFromGroups` assigns the departments that the groups of a user resolve to, one after the
other, and then grants the resolved roles that the user does not hold.  The rows this leaves
are described first, and from them what the call makes of the user's levels and roles, and
what a second call does.
-/

namespace OrgMembership

open Concurrency Relational

variable {σ : Type} {tenantID userID membershipID : Uuid} {base start db : Db}

/-- On whose membership departments are assigned, by whom, and what is published of it. -/
structure Granter where
  membershipID : Uuid
  grantedBy : Uuid
  publish : DeptMembership → Option DeptMembership → List DomainEvent

/-- Departments have been assigned one after the other. -/
inductive DeptsApplied (tenantID userID : Uuid) (granter : Granter) (start : Db) :
    List (Uuid × DeptRole) → Db → Prop
  | nil : DeptsApplied tenantID userID granter start [] start
  | snoc {done : List (Uuid × DeptRole)} {mid after : Db} {target : Uuid × DeptRole}
      {row : DeptMembership} {previous : Option DeptMembership}
      (earlier : DeptsApplied tenantID userID granter start done mid)
      (assigned : Assigned tenantID userID target.1 granter.membershipID target.2 granter.grantedBy
        mid (row, previous) after) :
      DeptsApplied tenantID userID granter start (done ++ [target])
        { after with outbox := after.outbox ++ granter.publish row previous }

/-- Roles have been granted one after the other. -/
inductive RolesApplied (tenantID userID membershipID : Uuid) (start : Db) :
    List TenantRoleCode → Db → Prop
  | nil : RolesApplied tenantID userID membershipID start [] start
  | snoc {done : List TenantRoleCode} {mid after : Db} {code : TenantRoleCode} {row : TenantRole}
      (earlier : RolesApplied tenantID userID membershipID start done mid)
      (granted : Granted tenantID userID membershipID code 0 mid row after) :
      RolesApplied tenantID userID membershipID start (done ++ [code])
        { after with
          outbox := after.outbox ++
            [⟨tenantID, userID, .tenantRoleGranted userID tenantID row.roleCode 0⟩] }

/-! ## Levels -/

section Levels

variable {granter : Granter} {done : List (Uuid × DeptRole)} {departmentID : Uuid}

theorem DeptsApplied.frame (applied : DeptsApplied tenantID userID granter start done db) :
    db.roles = start.roles ∧ db.memberships = start.memberships ∧
      db.tenantDepts = start.tenantDepts := by
  induction applied with
  | nil => exact ⟨rfl, rfl, rfl⟩
  | snoc _ assigned ih => cases assigned <;> exact ih

theorem DeptsApplied.others (applied : DeptsApplied tenantID userID granter start done db)
    (apart : departmentID ∉ done.map Prod.fst) :
    assignmentsOf tenantID userID departmentID db =
      assignmentsOf tenantID userID departmentID start := by
  induction applied with
  | nil => rfl
  | snoc _ assigned ih =>
      rw [List.map_append, List.mem_append, not_or, List.map_singleton, List.mem_singleton] at apart
      exact (assigned.others apart.2).trans (ih apart.1)

/-- The department of the next target is as it was at the start. -/
theorem DeptsApplied.next {target : Uuid × DeptRole}
    (applied : DeptsApplied tenantID userID granter start done db)
    (nodup : ((done ++ [target]).map Prod.fst).Nodup) :
    assignmentsOf tenantID userID target.1 db = assignmentsOf tenantID userID target.1 start := by
  apply applied.others
  rw [List.map_append, List.nodup_append] at nodup
  exact fun again => nodup.2.2 _ again target.1 (by simp) rfl

/-- At most one row of each assignment is live. -/
def Single (tenantID userID : Uuid) (db : Db) : Prop :=
  ∀ departmentID, (assignmentsOf tenantID userID departmentID db).length ≤ 1

theorem DeptsApplied.levels (single : Single tenantID userID start)
    (nodup : (done.map Prod.fst).Nodup)
    (applied : DeptsApplied tenantID userID granter start done db)
    {target : Uuid × DeptRole} (mem : target ∈ done) :
    levelsOf tenantID userID target.1 db = [target.2] := by
  induction applied with
  | nil => cases mem
  | @snoc done mid after last row previous earlier assigned ih =>
      rcases List.mem_append.mp mem with old | here
      · have parts := nodup
        rw [List.map_append, List.nodup_append] at parts
        have apart : target.1 ≠ last.1 :=
          parts.2.2 _ (List.mem_map_of_mem old) last.1 (by simp)
        rw [← ih parts.1 old]
        exact congrArg (List.map DeptMembership.roleLevel) (assigned.others apart)
      · rw [List.mem_singleton.mp here]
        apply assigned.levels
        rw [earlier.next nodup]
        exact single last.1

theorem DeptsApplied.single (applied : DeptsApplied tenantID userID granter start done db)
    (single : Single tenantID userID start) : Single tenantID userID db := by
  induction applied with
  | nil => exact single
  | @snoc done mid after target row previous earlier assigned ih =>
      intro departmentID
      by_cases same : departmentID = target.1
      · subst same
        have one := congrArg List.length (assigned.levels (ih target.1))
        rw [levelsOf, List.length_map] at one
        exact one.le
      · exact (congrArg List.length (assigned.others same)).trans_le (ih departmentID)

theorem DeptsApplied.of_nil (applied : DeptsApplied tenantID userID granter start done db)
    (nothing : done = []) : db = start := by
  cases applied with
  | nil => rfl
  | snoc => simp at nothing

theorem DeptsApplied.has (applied : DeptsApplied tenantID userID granter start done db) {id : Uuid}
    (has : start.depts.Has id) : db.depts.Has id := by
  induction applied with
  | nil => exact has
  | snoc _ assigned ih => exact assigned.has ih

/-- A department has a new row iff a target asks for a level that was not held.  Otherwise it is
as it was. -/
theorem DeptsApplied.renewed_iff (single : Single tenantID userID start)
    (applied : DeptsApplied tenantID userID granter start done db) (departmentID : Uuid) :
    ((∃ row ∈ assignmentsOf tenantID userID departmentID db, row ∉ start.depts) ↔
        ∃ target ∈ done, target.1 = departmentID ∧
          target.2 ∉ levelsOf tenantID userID departmentID start) ∧
      ((∃ row ∈ assignmentsOf tenantID userID departmentID db, row ∉ start.depts) ∨
        assignmentsOf tenantID userID departmentID db =
          assignmentsOf tenantID userID departmentID start) := by
  induction applied with
  | nil =>
      exact ⟨⟨fun ⟨_, here, new⟩ => absurd (mem_assignmentsOf.mp here).1 new, by simp⟩, .inr rfl⟩
  | @snoc done mid after target row previous earlier assigned ih =>
      change ((∃ row ∈ assignmentsOf tenantID userID departmentID after, row ∉ start.depts) ↔ _) ∧
        ((∃ row ∈ assignmentsOf tenantID userID departmentID after, row ∉ start.depts) ∨
          assignmentsOf tenantID userID departmentID after = _)
      simp only [List.mem_append, List.mem_singleton, or_and_right, exists_or, exists_eq_left]
      rw [← ih.1]
      by_cases same : target.1 = departmentID
      · subst same
        -- an unchanged department is held at the levels of the start
        have unchanged : ¬(∃ row ∈ assignmentsOf tenantID userID target.1 mid, row ∉ start.depts) →
            levelsOf tenantID userID target.1 mid = levelsOf tenantID userID target.1 start :=
          fun old => congrArg (List.map DeptMembership.roleLevel) (ih.2.resolve_left old)
        rcases assigned.renews (earlier.single single target.1) with
          ⟨held, rfl⟩ | ⟨unheld, new, here, unused⟩
        · refine ⟨⟨.inl, ?_⟩, ih.2⟩
          rintro (renewed | ⟨_, asked⟩)
          · exact renewed
          · by_contra old
            exact asked (unchanged old ▸ held)
        · have renewed : ∃ row ∈ assignmentsOf tenantID userID target.1 after,
              row ∉ start.depts := by
            refine ⟨new, here, fun mem => ?_⟩
            obtain ⟨other, known, id⟩ := earlier.has ⟨new, mem, rfl⟩
            exact unused other known id
          refine ⟨⟨fun _ => ?_, fun _ => renewed⟩, .inl renewed⟩
          by_contra none
          rw [not_or, not_and, not_not] at none
          exact unheld (unchanged none.1 ▸ none.2 rfl)
      · rw [assigned.others (Ne.symm same)]
        exact ⟨by simp [same], ih.2⟩

/-- Every new live row is of the user. -/
theorem DeptsApplied.owned (applied : DeptsApplied tenantID userID granter start done db)
    {row : DeptMembership} (mem : row ∈ db.depts) (live : row.live = true)
    (new : row ∉ start.depts) : row.tenantID = tenantID ∧ row.userID = userID := by
  induction applied with
  | nil => exact absurd mem new
  | snoc _ assigned ih =>
      rcases assigned.owned mem live with old | made
      · exact ih old
      · exact ⟨(mem_assignmentsOf.mp made).2.1, (mem_assignmentsOf.mp made).2.2.1⟩

/-- What all new live rows have is what the targets have that ask for a level not held. -/
theorem DeptsApplied.forall_new_iff (single : Single tenantID userID start)
    (applied : DeptsApplied tenantID userID granter start done db)
    {P : Uuid → Uuid → Uuid → Prop} :
    (∀ row ∈ db.depts, row.live = true → row ∉ start.depts →
        P row.tenantID row.userID row.departmentID) ↔
      ∀ target ∈ done, target.2 ∉ levelsOf tenantID userID target.1 start →
        P tenantID userID target.1 := by
  constructor
  · intro fits target asked unheld
    obtain ⟨row, made, new⟩ :=
      (applied.renewed_iff single target.1).1.mpr ⟨target, asked, rfl, unheld⟩
    obtain ⟨mem, rfl, rfl, same, live⟩ := mem_assignmentsOf.mp made
    exact same ▸ fits row mem live new
  · intro fits row mem live new
    obtain ⟨rfl, rfl⟩ := applied.owned mem live new
    obtain ⟨target, asked, same, unheld⟩ := (applied.renewed_iff single row.departmentID).1.mp
      ⟨row, mem_assignmentsOf.mpr ⟨mem, rfl, rfl, rfl, live⟩, new⟩
    exact same ▸ fits target asked (same ▸ unheld)

/-- Departments that are held at the resolved levels are left alone. -/
theorem DeptsApplied.idle (silent : ∀ row, granter.publish row (some row) = [])
    (applied : DeptsApplied tenantID userID granter start done db)
    (held : ∀ target ∈ done, levelsOf tenantID userID target.1 start = [target.2]) :
    db = start := by
  induction applied with
  | nil => rfl
  | @snoc done mid after target row previous _ assigned ih =>
      have same : mid = start := ih fun target mem => held target (List.mem_append_left _ mem)
      subst same
      have level := held target (by simp)
      rw [levelsOf] at level
      cases assigned with
      | fresh context none unused =>
          rw [none] at level
          cases level
      | held existing rest found same => rw [silent, List.append_nil]
      | moved existing now context found differs unused =>
          rw [found, List.map_singleton] at level
          exact absurd (List.cons.inj level).1 differs
      | absorbed existing winner rest now found differs mem =>
          rw [found, List.map_cons] at level
          exact absurd (List.cons.inj level).1 differs

end Levels

/-! ## Roles -/

section Roles

variable {done : List TenantRoleCode} {code other : TenantRoleCode} {row : TenantRole}
  {grantedBy : Uuid}

theorem Granted.others
    (granted : Granted tenantID userID membershipID code grantedBy start row db)
    (apart : other ≠ code) :
    grantsOf tenantID userID other db = grantsOf tenantID userID other start := by
  cases granted with
  | fresh context none unused =>
      exact grantsOf_put (Ne.symm apart) fun old mem same => absurd same (unused old mem)
  | held row mem => rfl

theorem Granted.mem (granted : Granted tenantID userID membershipID code grantedBy start row db) :
    row ∈ grantsOf tenantID userID code db := by
  cases granted with
  | fresh context none unused =>
      exact mem_grantsOf.mpr ⟨Table.mem_put.mpr (.inl rfl), rfl, rfl, rfl, rfl⟩
  | held row mem => exact mem

theorem RolesApplied.frame (applied : RolesApplied tenantID userID membershipID start done db) :
    db.depts = start.depts ∧ db.memberships = start.memberships ∧
      db.tenantDepts = start.tenantDepts := by
  induction applied with
  | nil => exact ⟨rfl, rfl, rfl⟩
  | snoc _ granted ih => cases granted <;> exact ih

theorem RolesApplied.idle (applied : RolesApplied tenantID userID membershipID start done db)
    (nothing : done = []) : db = start := by
  cases applied with
  | nil => rfl
  | snoc _ _ => simp at nothing

theorem RolesApplied.held_iff (applied : RolesApplied tenantID userID membershipID start done db) :
    grantsOf tenantID userID code db ≠ [] ↔
      grantsOf tenantID userID code start ≠ [] ∨ code ∈ done := by
  induction applied with
  | nil => simp
  | @snoc done mid after last row earlier granted ih =>
      change grantsOf tenantID userID code after ≠ [] ↔ _
      rw [List.mem_append, List.mem_singleton, ← or_assoc, ← ih]
      by_cases same : code = last
      · subst same
        exact ⟨fun _ => .inr rfl, fun _ => List.ne_nil_of_mem granted.mem⟩
      · simp [granted.others same, same]

end Roles

/-! ## The transaction -/

section Transaction

variable {done targets : List (Uuid × DeptRole)} {roles : TenantRoleCode → Bool} {order : MapOrder}

/-- The resolved roles that the user does not hold. -/
def grantable (tenantID userID : Uuid) (roles : TenantRoleCode → Bool) (order : MapOrder)
    (db : Db) : List TenantRoleCode :=
  order.visit fun code => roles code && (grantsOf tenantID userID code db).isEmpty

/-- I-10 acts for nobody and publishes each change. -/
def jitGranter (tenantID userID membershipID : Uuid) : Granter where
  membershipID
  grantedBy := 0
  publish row previous :=
    (assignmentEvent tenantID userID row.departmentID 0 row.roleLevel previous).toList

/-- What the transaction makes of the rows. -/
def JITApplied (tenantID userID membershipID : Uuid) (targets : List (Uuid × DeptRole))
    (roles : TenantRoleCode → Bool) (order : MapOrder) (start db : Db) : Prop :=
  ∃ mid, DeptsApplied tenantID userID (jitGranter tenantID userID membershipID) start targets mid ∧
    RolesApplied tenantID userID membershipID mid (grantable tenantID userID roles order start) db

theorem inside_assignResolved {target : Uuid × DeptRole} :
    Inside base
      (DeptsApplied tenantID userID (jitGranter tenantID userID membershipID) start done)
      (assignResolved tenantID userID membershipID target) fun _ =>
        DeptsApplied tenantID userID (jitGranter tenantID userID membershipID) start
          (done ++ [target]) := by
  refine inside_of_start fun mid applied => ?_
  refine Inside.bind DeptMembershipRepository.inside_assign fun ⟨row, previous⟩ => ?_
  refine Inside.bind Attempt.assign fun _ => inside_of_start fun after assigned => ?_
  refine (inside_enqueueEach fun event => event).weaken (fun _ here => here)
    fun _ db published => ?_
  rw [published, List.map_id']
  exact applied.snoc assigned

theorem inside_grantResolved {codes : List TenantRoleCode} {code : TenantRoleCode} :
    Inside base (RolesApplied tenantID userID membershipID start codes)
      (grantResolved tenantID userID membershipID code)
      fun _ => RolesApplied tenantID userID membershipID start (codes ++ [code]) := by
  refine inside_of_start fun mid applied => ?_
  refine Inside.bind TenantRoleRepository.inside_grant fun row => ?_
  refine Inside.bind Attempt.assign fun _ => inside_of_start fun after granted => ?_
  refine inside_enqueue.weaken (fun _ here => here) fun _ db published => ?_
  rw [published]
  exact applied.snoc granted

theorem inside_applied :
    Inside base (· = start) (assignFromGroupsTx tenantID userID membershipID targets roles order)
      fun _ => JITApplied tenantID userID membershipID targets roles order start := by
  have assigning : Inside base (· = start)
      (targets.forM (assignResolved tenantID userID membershipID))
      fun _ => DeptsApplied tenantID userID (jitGranter tenantID userID membershipID) start
        targets :=
    Inside.weaken (Attempt.forM_along (fun done => Seen base
        (DeptsApplied tenantID userID (jitGranter tenantID userID membershipID) start done))
      (fun _ _ _ => inside_assignResolved) [])
      (fun _ same => same ▸ .nil) fun _ _ after => after
  refine Inside.bind assigning fun _ => inside_of_start fun mid applied => ?_
  have lists : Inside base (· = mid)
      (TenantRoleRepository.listByUser tenantID userID : DbM JITResult _)
      fun existing db => existing = mid.roles.select
        (RoleFilter.selects · (.user tenantID userID)) ∧ db = mid :=
    inside_read (fun _ _ => rfl) fun _ _ same => same ▸ ⟨rfl, rfl⟩
  refine Inside.bind lists fun existing => inside_of_fact fun listed => ?_
  have visited : (order.visit fun code => roles code &&
      !existing.any fun row => decide (row.roleCode = code)) =
        grantable tenantID userID roles order start := by
    simp only [listed, applied.frame.1, any_listed_eq, Bool.not_not]
    rfl
  rw [visited]
  refine Inside.weaken (Attempt.forM_along
    (fun done => Seen base (RolesApplied tenantID userID membershipID mid done))
    (fun _ _ _ => inside_grantResolved) []) (fun _ same => same ▸ .nil) ?_
  exact fun _ _ after => ⟨mid, applied, after⟩

end Transaction

/-! ## The call -/

section Call

variable {groups : List String} {mappings : GroupMappings} {order : MapOrder}

/-- No groups resolve to nothing, so the call that returns at once does what the others do. -/
theorem applied_nil :
    JITApplied tenantID userID membershipID (resolveDeptRoles mappings [])
      (resolvesRole mappings []) order start start := by
  have nothing : grantable tenantID userID (resolvesRole mappings []) order start = [] := by
    apply List.filter_eq_nil_iff.mpr
    simp [resolvesRole]
  have unresolved : resolveDeptRoles mappings [] = [] := by
    have unmapped :
        (mappings.depts.filter fun dept => ([] : List String).contains dept.1) = [] := by
      simp
    rw [resolveDeptRoles, unmapped]
    rfl
  rw [JITApplied, unresolved, nothing]
  exact ⟨start, .nil, .nil⟩

/-- What a call that goes through makes of the rows. -/
def FromGroups (tenantID userID : Uuid) (groups : List String) (mappings : GroupMappings)
    (order : MapOrder) (start db : Db) : Prop :=
  (groups ≠ [] → ∃ row, start.memberships.first? (·.isOf tenantID userID) = some row) ∧
    ∃ membershipID, JITApplied tenantID userID membershipID (resolveDeptRoles mappings groups)
      (resolvesRole mappings groups) order start db

theorem alone_assignFromGroups :
    Alone (· = base) (assignFromGroups tenantID userID groups mappings order : DbM σ _)
      (fun _ => FromGroups tenantID userID groups mappings order base)
      (Aborted (fun _ => true) (· = base)
        (FromGroups tenantID userID groups mappings order base)) := by
  rw [assignFromGroups]
  split
  case isTrue empty =>
    rw [List.isEmpty_iff.mp empty]
    exact alone_pure fun _ same => ⟨fun nonempty => absurd rfl nonempty, 0, same ▸ applied_nil⟩
  case isFalse =>
    refine AloneBy.bind (.before alone_findByUserID) fun membership =>
      alone_of_fact fun found => ?_
    have commits : Alone (· = base) (runInTx (assignFromGroupsTx tenantID userID membership.id
          (resolveDeptRoles mappings groups) (resolvesRole mappings groups) order))
        (fun _ => FromGroups tenantID userID groups mappings order base)
        (Aborted (fun _ => true) (· = base)
          (FromGroups tenantID userID groups mappings order base)) :=
      alone_runInTx_from (inside_applied.weaken (fun _ same => same) fun _ _ applied =>
        ⟨fun _ => ⟨membership, found⟩, membership.id, applied⟩)
    exact AloneBy.bind (Attempt.capturing commits) fun _ => alone_pure fun _ after => after

end Call

namespace Groups

/-- A tenant with a member and a department. -/
def joined : Db :=
  { Db.empty with
    tenants := .singleton trialRow
    memberships := .singleton (newMembership ⟨0, 0, 12⟩ 1 102 .active)
    tenantDepts := .singleton ⟨1, 31, true, 1, 0, 0⟩ }

/-- One group that makes its users reviewers of the department and tender admins. -/
def reviewers : GroupMappings where
  depts := [("reviewers", 31)]
  levels := [("reviewers", .reviewer)]
  roles := [("reviewers", .tenderAdmin)]

end Groups

/-! ## The order of the mappings, and a second call -/

section Settled

variable {groups : List String} {mappings : GroupMappings}

/-- The same mapping rows in another order. -/
structure GroupMappings.Perm (first second : GroupMappings) : Prop where
  depts : first.depts.Perm second.depts
  levels : first.levels.Perm second.levels
  roles : first.roles.Perm second.roles

theorem mem_resolveDeptRoles {target : Uuid × DeptRole} :
    target ∈ resolveDeptRoles mappings groups ↔
      ∃ group ∈ groups,
        (group, target.1) ∈ mappings.depts ∧ (group, target.2) ∈ mappings.levels := by
  simp only [resolveDeptRoles, List.mem_reverse, List.mem_dedup, List.mem_flatMap, List.mem_map,
    List.mem_filter, List.contains_iff_mem, decide_eq_true_eq]
  constructor
  · rintro ⟨⟨group, departmentID⟩, ⟨dept, listed⟩, ⟨_, level⟩, ⟨leveled, rfl⟩, rfl⟩
    exact ⟨_, listed, dept, leveled⟩
  · rintro ⟨group, listed, dept, leveled⟩
    exact ⟨(group, target.1), ⟨dept, listed⟩, (group, target.2), ⟨leveled, rfl⟩, rfl⟩

theorem nodup_resolveDeptRoles : (resolveDeptRoles mappings groups).Nodup :=
  List.nodup_reverse.mpr (List.nodup_dedup _)

theorem resolvesRole_eq_true {code : TenantRoleCode} :
    resolvesRole mappings groups code = true ↔
      code ≠ .member ∧ ∃ group ∈ groups, (group, code) ∈ mappings.roles := by
  simp only [resolvesRole, Bool.and_eq_true, decide_eq_true_eq, List.any_eq_true,
    List.contains_iff_mem]
  constructor
  · rintro ⟨granted, ⟨group, _⟩, mem, listed, rfl⟩
    exact ⟨granted, group, listed, mem⟩
  · rintro ⟨granted, group, listed, mem⟩
    exact ⟨granted, (group, code), mem, listed, rfl⟩

section Order

variable {mappings' : GroupMappings} {groups' : List String}

theorem mem_resolveDeptRoles_of_perm (rows : mappings.Perm mappings') (names : groups.Perm groups')
    {target : Uuid × DeptRole} :
    target ∈ resolveDeptRoles mappings' groups' ↔ target ∈ resolveDeptRoles mappings groups := by
  simp only [mem_resolveDeptRoles, names.mem_iff, rows.depts.mem_iff, rows.levels.mem_iff]

theorem resolvesRole_of_perm (rows : mappings.Perm mappings') (names : groups.Perm groups') :
    resolvesRole mappings' groups' = resolvesRole mappings groups := by
  funext code
  rw [Bool.eq_iff_iff, resolvesRole_eq_true, resolvesRole_eq_true]
  simp only [names.mem_iff, rows.roles.mem_iff]

end Order

/-- No department is resolved at two levels. -/
def OneLevel (targets : List (Uuid × DeptRole)) : Prop :=
  ∀ first ∈ targets, ∀ second ∈ targets, first.1 = second.1 → first = second

instance (targets : List (Uuid × DeptRole)) : Decidable (OneLevel targets) :=
  inferInstanceAs (Decidable (∀ first ∈ targets, ∀ second ∈ targets,
    first.1 = second.1 → first = second))

theorem OneLevel.nodup {targets : List (Uuid × DeptRole)} (oneLevel : OneLevel targets)
    (nodup : targets.Nodup) : (targets.map Prod.fst).Nodup :=
  List.Nodup.map_on oneLevel nodup

variable {targets : List (Uuid × DeptRole)} {roles : TenantRoleCode → Bool} {order : MapOrder}

theorem JITApplied.levels_of_mem (single : Single tenantID userID start)
    (nodup : (targets.map Prod.fst).Nodup)
    (applied : JITApplied tenantID userID membershipID targets roles order start db)
    {target : Uuid × DeptRole} (mem : target ∈ targets) :
    levelsOf tenantID userID target.1 db = [target.2] := by
  obtain ⟨mid, assigned, granted⟩ := applied
  rw [levelsOf, assignmentsOf, granted.frame.1]
  exact assigned.levels single nodup mem

theorem JITApplied.levels_of_not_mem
    (applied : JITApplied tenantID userID membershipID targets roles order start db)
    {departmentID : Uuid} (apart : departmentID ∉ targets.map Prod.fst) :
    levelsOf tenantID userID departmentID db = levelsOf tenantID userID departmentID start := by
  obtain ⟨mid, assigned, granted⟩ := applied
  rw [levelsOf, assignmentsOf, granted.frame.1]
  exact congrArg (List.map DeptMembership.roleLevel) (assigned.others apart)

theorem JITApplied.held_iff
    (applied : JITApplied tenantID userID membershipID targets roles order start db)
    {code : TenantRoleCode} :
    grantsOf tenantID userID code db ≠ [] ↔
      grantsOf tenantID userID code start ≠ [] ∨ roles code = true := by
  obtain ⟨mid, assigned, granted⟩ := applied
  rw [granted.held_iff, grantsOf, assigned.frame.1, ← grantsOf]
  simp only [grantable, MapOrder.visit, List.mem_filter, Bool.and_eq_true, List.isEmpty_iff,
    order.complete, true_and]
  tauto

/-- What is already held as resolved is left alone. -/
theorem JITApplied.idle
    (applied : JITApplied tenantID userID membershipID targets roles order start db)
    (held : ∀ target ∈ targets, levelsOf tenantID userID target.1 start = [target.2])
    (granted : ∀ code, roles code = true → grantsOf tenantID userID code start ≠ []) :
    db = start := by
  obtain ⟨mid, assigned, grants⟩ := applied
  have nothing : grantable tenantID userID roles order start = [] := by
    apply List.filter_eq_nil_iff.mpr
    intro code _ asked
    rw [Bool.and_eq_true, List.isEmpty_iff] at asked
    exact granted code asked.1 asked.2
  rw [grants.idle nothing, assigned.idle (fun row => by simp [jitGranter, assignmentEvent]) held]

section Order

variable {mappings' : GroupMappings} {groups' : List String} {order order' : MapOrder} {after : Db}

theorem FromGroups.order_insensitive (single : Single tenantID userID start)
    (oneLevel : OneLevel (resolveDeptRoles mappings groups))
    (applied : FromGroups tenantID userID groups mappings order start db)
    (rows : mappings.Perm mappings') (names : groups.Perm groups')
    (applied' : FromGroups tenantID userID groups' mappings' order' start after) :
    (∀ departmentID, levelsOf tenantID userID departmentID after =
        levelsOf tenantID userID departmentID db) ∧
      ∀ code, grantsOf tenantID userID code after ≠ [] ↔ grantsOf tenantID userID code db ≠ [] := by
  obtain ⟨_, _, applied⟩ := applied
  obtain ⟨_, _, applied'⟩ := applied'
  have same : ∀ target, target ∈ resolveDeptRoles mappings' groups' ↔
      target ∈ resolveDeptRoles mappings groups := fun _ => mem_resolveDeptRoles_of_perm rows names
  have oneLevel' : OneLevel (resolveDeptRoles mappings' groups') :=
    fun first mem second mem' => oneLevel first ((same first).mp mem) second ((same second).mp mem')
  constructor
  · intro departmentID
    by_cases resolved : departmentID ∈ (resolveDeptRoles mappings groups).map Prod.fst
    · obtain ⟨target, mem, rfl⟩ := List.mem_map.mp resolved
      rw [applied.levels_of_mem single (oneLevel.nodup nodup_resolveDeptRoles) mem,
        applied'.levels_of_mem single (oneLevel'.nodup nodup_resolveDeptRoles)
          ((same target).mpr mem)]
    · have unresolved : departmentID ∉ (resolveDeptRoles mappings' groups').map Prod.fst := by
        simpa only [List.mem_map, same] using resolved
      rw [applied.levels_of_not_mem resolved, applied'.levels_of_not_mem unresolved]
  · intro code
    rw [applied.held_iff, applied'.held_iff, resolvesRole_of_perm rows names]

theorem FromGroups.repeated (single : Single tenantID userID start)
    (oneLevel : OneLevel (resolveDeptRoles mappings groups))
    (applied : FromGroups tenantID userID groups mappings order start db)
    (again : FromGroups tenantID userID groups mappings order' db after) : after = db := by
  obtain ⟨_, _, applied⟩ := applied
  obtain ⟨_, _, again⟩ := again
  exact again.idle
    (fun _ mem => applied.levels_of_mem single (oneLevel.nodup nodup_resolveDeptRoles) mem)
    fun _ asked => applied.held_iff.mpr (.inr asked)

/-- A call that changed nothing found every department at the one level it resolves. -/
theorem FromGroups.oneLevel (single : Single tenantID userID start)
    (applied : FromGroups tenantID userID groups mappings order start db) (idle : db = start) :
    OneLevel (resolveDeptRoles mappings groups) := by
  obtain ⟨_, _, mid, assigned, granted⟩ := applied
  have depts : mid.depts = start.depts := by rw [← granted.frame.1, idle]
  have held : ∀ target ∈ resolveDeptRoles mappings groups,
      target.2 ∈ levelsOf tenantID userID target.1 start := by
    intro target asked
    by_contra unheld
    obtain ⟨row, made, new⟩ :=
      (assigned.renewed_iff single target.1).1.mpr ⟨target, asked, rfl, unheld⟩
    exact new (depts ▸ (mem_assignmentsOf.mp made).1)
  intro first mem second mem' same
  have few := single second.1
  have here := held first mem
  have there := held second mem'
  rw [same] at here
  rw [levelsOf] at here there
  rw [← List.length_map DeptMembership.roleLevel] at few
  rcases Nat.le_one_iff_eq_zero_or_eq_one.mp few with none | one
  · rw [List.length_eq_zero_iff.mp none] at here
    cases here
  · obtain ⟨level, one⟩ := List.length_eq_one_iff.mp one
    rw [one, List.mem_singleton] at here there
    exact Prod.ext same (here.trans there.symm)

theorem FromGroups.single (single : Single tenantID userID start)
    (applied : FromGroups tenantID userID groups mappings order start db) :
    Single tenantID userID db := by
  obtain ⟨_, _, mid, assigned, granted⟩ := applied
  intro departmentID
  rw [assignmentsOf, granted.frame.1]
  exact assigned.single single departmentID

end Order

end Settled

/-- A call that goes through and can be repeated is insensitive to the order of the mapping rows
and of the groups, and idempotent, iff the groups resolve no department at two levels.  A call
that fails changes nothing. -/
theorem assignFromGroups_settles {tenantID userID : Uuid} {before : DbServer}
    {groups : List String} {mappings : GroupMappings}
    (unique : before.db.depts.DistinctBy deptAccess.entries) :
    (∀ order failure after, failure ≠ lostAnswer →
      server.Completes (assignFromGroups tenantID userID groups mappings order).run before
        (.error failure) after → after.db = before.db) ∧
    ∀ order result after,
      server.Completes (assignFromGroups tenantID userID groups mappings order).run before
        (.ok result) after →
      (∃ order' result' again, server.Completes
        (assignFromGroups tenantID userID groups mappings order').run after (.ok result') again) →
      ((∀ mappings' groups' order' result' after', mappings.Perm mappings' →
          groups.Perm groups' →
          server.Completes (assignFromGroups tenantID userID groups' mappings' order').run before
            (.ok result') after' →
          (∀ departmentID, levelsOf tenantID userID departmentID after'.db =
            levelsOf tenantID userID departmentID after.db) ∧
          ∀ code, grantsOf tenantID userID code after'.db ≠ [] ↔
            grantsOf tenantID userID code after.db ≠ []) ∧
        (∀ order' outcome again,
          server.Completes (assignFromGroups tenantID userID groups mappings order').run after
            outcome again → again.db = after.db) ↔
      OneLevel (resolveDeptRoles mappings groups)) := by
  have single : Single tenantID userID before.db := fun _ => length_assignmentsOf_le unique
  constructor
  · intro order failure after known completes
    exact (AloneBy.ended alone_assignFromGroups completes rfl).resolve_right
      fun lost => known lost.2.1
  · intro order result after completes repeats
    have applied : FromGroups tenantID userID groups mappings order before.db after.db :=
      AloneBy.ended alone_assignFromGroups completes rfl
    constructor
    · rintro ⟨_, idempotent⟩
      obtain ⟨order', result', again, repeated⟩ := repeats
      exact FromGroups.oneLevel (applied.single single)
        (AloneBy.ended alone_assignFromGroups repeated rfl)
        (idempotent order' (.ok result') again repeated)
    · intro oneLevel
      constructor
      · intro mappings' groups' order' result' after' rows names completes'
        exact applied.order_insensitive single oneLevel rows names
          (AloneBy.ended alone_assignFromGroups completes' rfl)
      · intro order' outcome again repeated
        have ended := AloneBy.ended alone_assignFromGroups repeated rfl
        cases outcome with
        | ok => exact applied.repeated single oneLevel ended
        | error failure =>
            rcases ended with same | ⟨_, _, committed⟩
            · exact same
            · exact applied.repeated single oneLevel committed

namespace Groups

/-- The reviewers are assigned and given their role, and the same call finds nothing to do. -/
theorem reviewers_settle :
    ∃ result after result' again,
      server.Completes (assignFromGroups 1 102 ["reviewers"] reviewers .declared).run ⟨joined, 0⟩
        (.ok result) after ∧
      server.Completes (assignFromGroups 1 102 ["reviewers"] reviewers .declared).run after
        (.ok result') again ∧
      levelsOf 1 102 31 again.db = [.reviewer] ∧ again.db = after.db := by
  obtain ⟨outcome, after, completes, passed⟩ := server.exists_completes_of_endsAs
    (assignFromGroups 1 102 ["reviewers"] reviewers .declared).run ⟨joined, 0⟩
    (List.replicate 12 (.step 0 (.proceed 100)))
    (fun outcome after => outcome.toOption.any fun _ => server.endsAs
      (assignFromGroups 1 102 ["reviewers"] reviewers .declared).run after
      (List.replicate 9 (.step 0 (.proceed 101)))
      fun outcome again => outcome.toOption.any fun _ => levelsOf 1 102 31 again.db = [.reviewer])
    (by decide +kernel)
  cases outcome with
  | error failure => cases passed
  | ok result =>
      obtain ⟨outcome, again, repeated, passed⟩ :=
        server.exists_completes_of_endsAs _ _ _ _ (Option.any_some ▸ passed)
      obtain ⟨result', rfl, reviewer⟩ := ok_of_any passed
      have settled := ((assignFromGroups_settles (by decide)).2 _ _ _ completes
        ⟨_, _, _, repeated⟩).mpr (by decide)
      exact ⟨result, after, result', again, completes, repeated, reviewer,
        settled.2 _ _ _ repeated⟩

/-- Two groups that map the department at different levels. -/
def clashing (depts : List (String × Uuid)) : GroupMappings where
  depts := depts
  levels := [("preparators", .preparator), ("reviewers", .reviewer)]
  roles := []

/-- The call for a user of both groups. -/
def clash (depts : List (String × Uuid)) : DbM Unit JITResult :=
  assignFromGroups 1 102 ["preparators", "reviewers"] (clashing depts) .declared

/-- The group whose mapping row comes last decides the level, and the same call once more moves
the user down and up again. -/
theorem level_depends_on_order :
    (clashing [("preparators", 31), ("reviewers", 31)]).Perm
      (clashing [("reviewers", 31), ("preparators", 31)]) ∧
    ∃ result after result' after',
      server.Completes (clash [("preparators", 31), ("reviewers", 31)]).run ⟨joined, 0⟩ (.ok result)
        after ∧
      server.Completes (clash [("reviewers", 31), ("preparators", 31)]).run ⟨joined, 0⟩
        (.ok result') after' ∧
      levelsOf 1 102 31 after'.db ≠ levelsOf 1 102 31 after.db ∧
      ∃ outcome again,
        server.Completes (clash [("preparators", 31), ("reviewers", 31)]).run after outcome again ∧
        after.db.outbox.length < again.db.outbox.length := by
  refine ⟨⟨List.Perm.swap .., .refl _, .refl _⟩, ?_⟩
  obtain ⟨outcome, after, completes, passed⟩ := server.exists_completes_of_endsAs
    (clash [("preparators", 31), ("reviewers", 31)]).run ⟨joined, 0⟩ (proceeding 100 16)
    (fun outcome after => outcome.toOption.any fun _ =>
      decide (levelsOf 1 102 31 after.db = [.reviewer]) && server.endsAs
        (clash [("preparators", 31), ("reviewers", 31)]).run after (proceeding 200 18)
        fun _ again => after.db.outbox.length < again.db.outbox.length) (by decide +kernel)
  obtain ⟨outcome', after', completes', passed'⟩ := server.exists_completes_of_endsAs
    (clash [("reviewers", 31), ("preparators", 31)]).run ⟨joined, 0⟩ (proceeding 100 16)
    (fun outcome after => outcome.toOption.any fun _ =>
      levelsOf 1 102 31 after.db = [.preparator]) (by decide +kernel)
  obtain ⟨result', rfl, prepares⟩ := ok_of_any passed'
  cases outcome with
  | error failure => cases passed
  | ok result =>
      rw [Except.toOption, Option.any_some, Bool.and_eq_true, decide_eq_true_eq] at passed
      obtain ⟨outcome, again, repeated, more⟩ :=
        server.exists_completes_of_endsAs _ _ _ _ passed.2
      refine ⟨result, after, result', after', completes, completes', ?_, outcome, again, repeated,
        of_decide_eq_true more⟩
      rw [prepares, passed.1]
      decide

end Groups

end OrgMembership

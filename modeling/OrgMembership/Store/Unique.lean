import OrgMembership.Relational.Versioned
import OrgMembership.Store.Discipline

/-!
# What the schema guarantees

The partial unique indexes of the schema and the history of its rows, under any code: nothing
is asked of the programs that issue the statements, of their transactions or of the order in
which they run.
-/

namespace OrgMembership

open Concurrency Relational

variable {context : Context} {db : Db} {query : Query} {result : query.Result}
  {writes : List Write}

/-! ## The index of live memberships -/

theorem mem_membershipEntries {row : TenantMembership} {entry : LockKey} :
    entry ∈ membershipAccess.entries row ↔
      row.live = true ∧ entry = .uqTmActiveUser row.tenantID row.userID := by
  simp only [membershipAccess]
  split <;> simp_all

theorem membership_putsOnly {row : TenantMembership}
    (yields : (query.effect context db).Yields result writes)
    (put : .membership (.put row) ∈ writes) :
    membershipAccess.PutsOnly writes (query.effect context db).kept row := by
  cases membership_write yields put with
  | insert => exact membershipLawful.putsOnly_of_insertRow yields put
  | setStatus | softDelete => exact membershipLawful.putsOnly_of_updateRow yields put

/-- A stored row that shares the entry of a put row is the row it replaces. -/
theorem membership_indexed {row other : TenantMembership} {entry : LockKey}
    (yields : (query.effect context db).Yields result writes)
    (put : .membership (.put row) ∈ writes)
    (distinct : db.memberships.DistinctBy membershipAccess.entries) (mem : other ∈ db.memberships)
    (memEntry : entry ∈ membershipAccess.entries row)
    (memEntry' : entry ∈ membershipAccess.entries other) : row.id = other.id := by
  obtain ⟨live, rfl⟩ := mem_membershipEntries.mp memEntry
  cases membership_write yields put with
  | insert _ unopposed =>
      obtain ⟨live', same⟩ := mem_membershipEntries.mp memEntry'
      simp only [newMembership, LockKey.uqTmActiveUser.injEq] at same
      have opposed := unopposed other mem
      simp [TenantMembership.isOf, ← same.1, ← same.2, live'] at opposed
  | setStatus memOld =>
      rw [TenantMembership.withStatus_id]
      rw [TenantMembership.withStatus_live] at live
      rw [distinct _ memOld other mem _ (mem_membershipEntries.mpr ⟨live, rfl⟩)
        (by simpa using memEntry')]
  | softDelete => simp at live

theorem membershipIndexed : membershipAccess.Indexed dialect Write.membershipChange :=
  membershipLawful.indexed membership_putsOnly membership_indexed

/-! ## The index of live assignments -/

theorem dept_putsOnly {row : DeptMembership}
    (yields : (query.effect context db).Yields result writes) (put : .dept (.put row) ∈ writes) :
    deptAccess.PutsOnly writes (query.effect context db).kept row := by
  cases dept_write yields put with
  | insert =>
      have inEnum := DeptQuery.inEnum_of_yields_insert yields
      rw [Query.effect, DeptQuery.effect_insert inEnum] at yields ⊢
      exact deptLawful.putsOnly_of_insertRow yields put
  | softDelete => exact deptLawful.putsOnly_of_updateRow yields put

/-- A put row with an entry is a new assignment that no stored assignment opposes. -/
theorem dept_indexed {row other : DeptMembership} {entry : LockKey}
    (yields : (query.effect context db).Yields result writes) (put : .dept (.put row) ∈ writes)
    (mem : other ∈ db.depts) (memEntry : entry ∈ deptAccess.entries row) :
    entry ∉ deptAccess.entries other := by
  intro memEntry'
  obtain ⟨live, rfl⟩ := mem_deptEntries.mp memEntry
  obtain ⟨live', same⟩ := mem_deptEntries.mp memEntry'
  cases dept_write yields put with
  | softDelete => simp at live
  | insert =>
      rw [Query.effect, DeptQuery.effect_insert (DeptQuery.inEnum_of_yields_insert yields)]
        at yields
      rcases Access.insertRow_cases yields with ⟨_, rfl, _⟩ | ⟨unopposed, _⟩
      · exact absurd put List.not_mem_nil
      · simp only [newDept, LockKey.uqDmActiveMembership.injEq] at same
        have opposed := unopposed other mem
        simp [newDept, DeptFilter.selects, ← same.1, ← same.2.1, ← same.2.2, live'] at opposed

theorem deptIndexed : deptAccess.Indexed dialect Write.deptChange :=
  deptLawful.indexed dept_putsOnly fun yields put _ mem memEntry memEntry' =>
    absurd memEntry' (dept_indexed yields put mem memEntry)

/-! ## The index of pending invitations -/

theorem mem_invitationEntries {row : PendingInvitation} {entry : LockKey} :
    entry ∈ invitationAccess.entries row ↔
      row.status = .pending ∧ entry = .uqPiPending row.tenantID row.email := by
  simp only [invitationAccess]
  split <;> simp_all

theorem invitation_putsOnly {row : PendingInvitation}
    (yields : (query.effect context db).Yields result writes)
    (put : .invitation (.put row) ∈ writes) :
    invitationAccess.PutsOnly writes (query.effect context db).kept row := by
  cases invitation_write yields put with
  | insert => exact invitationLawful.putsOnly_of_insertRow yields put
  | setStatus | setKCCleanupPending | expire =>
      exact invitationLawful.putsOnly_of_updateRow yields put
  | erasePII | clearKCCleanupPendingByID =>
      obtain ⟨_, yields, _⟩ := Effect.yields_map.mp yields
      exact invitationLawful.putsOnly_of_updateRow yields put

/-- What the check of `uq_pi_pending` says. -/
theorem entry_of_invitationUnique {row other : PendingInvitation} {entry : LockKey}
    (passed : ∀ check ∈ invitationUnique db row, check.2 = true) (mem : other ∈ db.invitations)
    (memEntry : entry ∈ invitationAccess.entries row)
    (memEntry' : entry ∈ invitationAccess.entries other) : row.id = other.id := by
  obtain ⟨pending, rfl⟩ := mem_invitationEntries.mp memEntry
  obtain ⟨pending', same⟩ := mem_invitationEntries.mp memEntry'
  by_contra apart
  have unopposed := passed _ List.mem_cons_self
  simp only [pending, ne_eq, not_true_eq_false, decide_false, Bool.false_or,
    Option.isNone_iff_eq_none, Table.first?_eq_none] at unopposed
  have opposed := unopposed other mem
  simp only [LockKey.uqPiPending.injEq] at same
  simp [Ne.symm apart, pending', same.1, same.2] at opposed

theorem invitationUnique_of_updateRow {id : Uuid} {condition : PendingInvitation → Bool} {now : Int}
    {set : PendingInvitation → PendingInvitation} {result : Option PendingInvitation}
    {row : PendingInvitation}
    (yields : (invitationAccess.updateRow db id condition fun row =>
      updateInvitation now db row (set row)).Yields result writes)
    (put : .invitation (.put row) ∈ writes) :
    ∀ check ∈ invitationUnique db row, check.2 = true := by
  rcases Access.updateRow_cases yields with ⟨_, rfl, _⟩ | ⟨_, _, _, _, _, computed, _, rfl, _⟩
  · exact absurd put List.not_mem_nil
  · cases List.mem_singleton.mp put
    simp only [updateInvitation] at computed
    split at computed
    case h_2 => cases computed
    case h_1 passed =>
      cases computed
      exact fun check mem =>
        firstViolated_eq_none.mp passed check (List.mem_append_right _ mem)

/-- Every row that is put has passed the check. -/
theorem invitation_unique {row : PendingInvitation}
    (yields : (query.effect context db).Yields result writes)
    (put : .invitation (.put row) ∈ writes) :
    ∀ check ∈ invitationUnique db row, check.2 = true := by
  cases invitation_write yields put with
  | insert =>
      rcases Access.insertRow_cases yields with ⟨_, rfl, _⟩ | ⟨_, passed, _⟩
      · exact absurd put List.not_mem_nil
      · exact fun check mem => firstViolated_eq_none.mp passed check (by simp [mem])
  | setStatus | setKCCleanupPending | expire => exact invitationUnique_of_updateRow yields put
  | erasePII | clearKCCleanupPendingByID =>
      obtain ⟨_, yields, _⟩ := Effect.yields_map.mp yields
      exact invitationUnique_of_updateRow yields put

theorem invitationIndexed : invitationAccess.Indexed dialect Write.invitationChange :=
  invitationLawful.indexed invitation_putsOnly fun yields put _ mem =>
    entry_of_invitationUnique (invitation_unique yields put) mem

/-! ## Every run -/

/-- At most one live membership of a user in a tenant, one live grant of each role, one live
assignment to each department, and one pending invitation of an address. -/
structure Db.Unique (db : Db) : Prop where
  membership : ∀ first ∈ db.memberships, ∀ second ∈ db.memberships,
    first.live = true → second.live = true →
      first.tenantID = second.tenantID ∧ first.userID = second.userID → first = second
  role : ∀ first ∈ db.roles, ∀ second ∈ db.roles, first.live = true → second.live = true →
    first.tenantID = second.tenantID ∧ first.userID = second.userID ∧
      first.roleCode = second.roleCode → first = second
  dept : ∀ first ∈ db.depts, ∀ second ∈ db.depts, first.live = true → second.live = true →
    first.tenantID = second.tenantID ∧ first.userID = second.userID ∧
      first.departmentID = second.departmentID → first = second
  invitation : ∀ first ∈ db.invitations, ∀ second ∈ db.invitations,
    first.status = .pending → second.status = .pending →
      first.tenantID = second.tenantID ∧ first.email = second.email → first = second

/-- The indexes say so. -/
theorem Db.unique_iff : db.Unique ↔
    db.memberships.DistinctBy membershipAccess.entries ∧
      db.roles.DistinctBy roleAccess.entries ∧ db.depts.DistinctBy deptAccess.entries ∧
        db.invitations.DistinctBy invitationAccess.entries := by
  rw [Table.distinctBy_iff fun _ _ => mem_membershipEntries,
    Table.distinctBy_iff fun _ _ => mem_roleEntries,
    Table.distinctBy_iff fun _ _ => mem_deptEntries,
    Table.distinctBy_iff fun _ _ => mem_invitationEntries]
  simp only [LockKey.uqTmActiveUser.injEq, LockKey.uqTenantRolesActive.injEq,
    LockKey.uqDmActiveMembership.injEq, LockKey.uqPiPending.injEq]
  exact ⟨fun ⟨membership, role, dept, invitation⟩ => ⟨membership, role, dept, invitation⟩,
    fun ⟨membership, role, dept, invitation⟩ => ⟨membership, role, dept, invitation⟩⟩

section Run

variable {Call Outcome : Type} {code : Call → DbProgram Outcome}
  {permits : DbConfig Call Outcome → Action Call (Chance PgError) Nat → Prop} {start : DbServer}
  {config later : DbConfig Call Outcome}

/-- In every state that any programs reach, and in what every open transaction sees, the live
rows are unique. -/
theorem unique_of_reaches (reaches : server.Reaches code permits (Config.initial start) config)
    (initially : start.db.Unique) :
    config.shared.db.Unique ∧
      ∀ process ∈ config.processes, (dialect.view config.shared process.loc).Unique := by
  obtain ⟨memberships, roles, depts, invitations⟩ := Db.unique_iff.mp initially
  have ofMemberships := membershipLawful.distinct_of_reaches membershipIndexed reaches memberships
  have ofRoles := roleLawful.distinct_of_reaches roleIndexed reaches roles
  have ofDepts := deptLawful.distinct_of_reaches deptIndexed reaches depts
  have ofInvitations := invitationLawful.distinct_of_reaches invitationIndexed reaches invitations
  refine ⟨Db.unique_iff.mpr ⟨ofMemberships.1, ofRoles.1, ofDepts.1, ofInvitations.1⟩,
    fun process mem => Db.unique_iff.mpr ?_⟩
  exact ⟨(ofMemberships.2 process mem).seen, (ofRoles.2 process mem).seen,
    (ofDepts.2 process mem).seen, (ofInvitations.2 process mem).seen⟩

/-! ## Histories -/

/-- The change deletes a row instead of marking it. -/
def Write.erases : Write → Bool
  | .membership (.delete _) | .role (.delete _) => true
  | .dept (.delete _) | .invitation (.delete _) => true
  | _ => false

/-- The action does not commit a transaction that erases rows. -/
def sparesRows (config : DbConfig Call Outcome) : Action Call (Chance PgError) Nat → Bool
  | .step index _ =>
      match config.processes[index]? with
      | some ⟨_, session, .call .commit _⟩ => session.writes.all fun write => !write.erases
      | _ => true
  | _ => true

/-- Every row has a later version, unless a commit erases it. -/
theorem versions_of_reaches {Row : Type} {access : Access Db Write LockKey Row Uuid}
    {changeOf : Write → Option (Change Row Uuid)} {related : Row → Row → Prop}
    (lawful : access.Lawful dialect changeOf)
    (evolution : access.Evolution dialect changeOf related)
    (refl : ∀ row, related row row) (erases : ∀ id, (access.change (.delete id)).erases = true)
    (reaches : server.Reaches code permits (Config.initial start) config)
    (further : server.Reaches code
      (fun config action => permits config action ∧ sparesRows config action = true) config later) :
    ∀ row ∈ access.table config.shared.db, ∃ version ∈ access.table later.shared.db,
      access.key version = access.key row ∧ related row version := by
  intro row mem
  refine lawful.evolves_of_reaches evolution refl reaches mem (further.mono
    fun config action allowed => ⟨allowed.1, ?_⟩)
  cases action with
  | start | crash | signal => trivial
  | step index chance =>
      intro call session next current deleted
      have spares := allowed.2
      simp only [sparesRows, current, List.all_eq_true] at spares
      have kept := spares _ (lawful.mem_filterMap.mp deleted)
      rw [erases] at kept
      cases kept

/-- Every row of the old state has a version in the new one: the same tenant, user, role or
Keycloak user, live or pending only if it was before. -/
structure Db.Evolves (old new : Db) : Prop where
  memberships : ∀ row ∈ old.memberships, ∃ version ∈ new.memberships,
    version.id = row.id ∧ row.Evolves version
  roles : ∀ row ∈ old.roles, ∃ version ∈ new.roles, version.id = row.id ∧ row.Evolves version
  depts : ∀ row ∈ old.depts, ∃ version ∈ new.depts, version.id = row.id ∧ row.Evolves version
  invitations : ∀ row ∈ old.invitations, ∃ version ∈ new.invitations,
    version.id = row.id ∧ row.Evolves version

/-- From every reachable state on, whatever runs: a removed membership, a revoked grant or
assignment and a settled invitation stay so, and no row passes to another owner. -/
theorem rows_evolve (reaches : server.Reaches code permits (Config.initial start) config)
    (further : server.Reaches code
      (fun config action => permits config action ∧ sparesRows config action = true) config later) :
    config.shared.db.Evolves later.shared.db where
  memberships := versions_of_reaches membershipLawful membershipEvolution
    (fun _ => ⟨rfl, rfl, rfl, id⟩) (fun _ => rfl) reaches further
  roles := versions_of_reaches roleLawful roleEvolution
    (fun _ => ⟨rfl, rfl, rfl, rfl, id⟩) (fun _ => rfl) reaches further
  depts := versions_of_reaches deptLawful deptEvolution
    (fun _ => ⟨rfl, rfl, rfl, id⟩) (fun _ => rfl) reaches further
  invitations := versions_of_reaches invitationLawful invitationEvolution
    (fun _ => ⟨rfl, rfl, rfl, id⟩) (fun _ => rfl) reaches further

end Run

/-! ## Two registrations of one user -/

namespace Registering

/-- A transaction that inserts a membership. -/
def code (userID : Uuid) : DbProgram Unit :=
  .call .begin fun _ =>
    .call (.query (.membership (.insert 1 userID .active))) fun _ =>
      .call .commit fun _ => .ret ()

/-- Two members of a tenant. -/
def start : DbServer :=
  ⟨{ Db.empty with tenants := .singleton trialRow, memberships := twoMembers }, 0⟩

theorem start_unique : start.db.Unique :=
  Db.unique_iff.mpr (by decide)

/-- Both transactions are open at once; the second waits for the first. -/
def actions : List (Action Uuid (Chance PgError) Nat) :=
  [.start 103, .start 103, .step 0 (.proceed 0), .step 1 (.proceed 0), .step 0 (.proceed 13),
    .step 0 (.proceed 0), .step 1 (.proceed 14), .step 1 (.proceed 0)]

/-- Both have returned, and the user has a membership. -/
def registered (config : DbConfig Uuid Unit) : Bool :=
  config.processes.all Process.returned &&
    (config.shared.db.memberships.first? (·.isOf 1 103)).isSome

theorem exists_reaches_registered : ∃ final, server.Reaches code
      (fun config action => True ∧ sparesRows config action = true) (Config.initial start) final ∧
    registered final = true :=
  System.exists_reaches_of_run server code _ actions (Config.initial start) registered (by decide)

theorem registered_once : ∃ final, registered final = true ∧ final.shared.db.Unique := by
  obtain ⟨final, reaches, done⟩ := exists_reaches_registered
  exact ⟨final, done, (unique_of_reaches reaches start_unique).1⟩

theorem members_kept : ∃ final, registered final = true ∧ start.db.Evolves final.shared.db := by
  obtain ⟨final, reaches, done⟩ := exists_reaches_registered
  exact ⟨final, done, rows_evolve .refl reaches⟩

end Registering

end OrgMembership

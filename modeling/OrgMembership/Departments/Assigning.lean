import OrgMembership.Repository.Alone
import OrgMembership.Service.Department

/-!
# Assignments with no concurrent writer

What `DeptMembershipRepository.Assign` makes of the rows when nobody else writes: a new row,
the row that was there, or a new row in its place.
-/

namespace OrgMembership

open Concurrency Relational

variable {σ : Type} {tenantID userID departmentID membershipID grantedBy : Uuid} {level : DeptRole}
  {base start : Db}

/-- The live rows of an assignment: at most one, by the unique index. -/
def assignmentsOf (tenantID userID departmentID : Uuid) (db : Db) : List DeptMembership :=
  db.depts.select (DeptFilter.selects · (.assignment tenantID userID departmentID))

/-- The rows after an assignment, with the row it returns and the one it found. -/
inductive Assigned (tenantID userID departmentID membershipID : Uuid) (level : DeptRole)
    (grantedBy : Uuid) (start : Db) : DeptMembership × Option DeptMembership → Db → Prop
  | fresh (context : Context) (none : assignmentsOf tenantID userID departmentID start = [])
      (unused : ∀ other ∈ start.depts, other.id ≠ context.fresh) :
      Assigned tenantID userID departmentID membershipID level grantedBy start
        (newDept context tenantID userID departmentID membershipID level grantedBy, .none)
        { start with
          depts := start.depts.put
            (newDept context tenantID userID departmentID membershipID level grantedBy) }
  | held (existing : DeptMembership) (rest : List DeptMembership)
      (found : assignmentsOf tenantID userID departmentID start = existing :: rest)
      (same : existing.roleLevel = level) :
      Assigned tenantID userID departmentID membershipID level grantedBy start
        (existing, some existing) start
  | moved (existing : DeptMembership) (now : Int) (context : Context)
      (found : assignmentsOf tenantID userID departmentID start = [existing])
      (differs : existing.roleLevel ≠ level)
      (unused : ∀ other ∈ start.depts, other.id ≠ context.fresh) :
      Assigned tenantID userID departmentID membershipID level grantedBy start
        (newDept context tenantID userID departmentID membershipID level grantedBy, some existing)
        { start with
          depts := (start.depts.put (existing.revoked now)).put
            (newDept context tenantID userID departmentID membershipID level grantedBy) }
  /-- Another live row of the assignment absorbs the insert. -/
  | absorbed (existing winner : DeptMembership) (rest : List DeptMembership) (now : Int)
      (found : assignmentsOf tenantID userID departmentID start = existing :: rest)
      (differs : existing.roleLevel ≠ level) (other : winner ∈ rest) :
      Assigned tenantID userID departmentID membershipID level grantedBy start
        (winner, some existing) { start with depts := start.depts.put (existing.revoked now) }

namespace DeptMembershipRepository

theorem inside_insertAssignment :
    Inside base (· = start)
      (insertAssignment tenantID userID departmentID membershipID level grantedBy : DbM σ _)
      fun row db =>
        (assignmentsOf tenantID userID departmentID start = [] ∧
          ∃ context : Context, (∀ other ∈ start.depts, other.id ≠ context.fresh) ∧
            row = newDept context tenantID userID departmentID membershipID level grantedBy ∧
            db = { start with depts := start.depts.put row }) ∨
        row ∈ assignmentsOf tenantID userID departmentID start ∧ db = start := by
  have inserts : Inside base (· = start)
      (deptQuery (.insert tenantID userID departmentID membershipID level grantedBy) : DbM σ _)
      fun created db => match created with
        | some row => assignmentsOf tenantID userID departmentID start = [] ∧
            ∃ context : Context, (∀ other ∈ start.depts, other.id ≠ context.fresh) ∧
              row = newDept context tenantID userID departmentID membershipID level grantedBy ∧
              db = { start with depts := start.depts.put row }
        | none => db = start := by
    refine inside_send fun context db result writes same yields => ?_
    subst same
    have inserted : (insertDept db (newDept context tenantID userID departmentID membershipID level
        grantedBy)).Yields result writes := by
      rw [← DeptQuery.effect_insert (DeptQuery.inEnum_of_yields_insert yields)]
      exact yields
    rcases Access.insertRow_cases inserted with ⟨rfl, rfl, _⟩ | ⟨unopposed, allowed, rfl, rfl, _⟩
    · rfl
    · simp only [firstViolated_eq_none, List.mem_cons, forall_eq_or_imp] at allowed
      refine ⟨Table.select_eq_nil unopposed, context, ?_, rfl, rfl⟩
      exact Table.find?_eq_none.mp (Option.isNone_iff_eq_none.mp allowed.1)
  refine Inside.bind inserts fun created => ?_
  cases created with
  | some row => exact inside_pure fun _ made => .inl made
  | none =>
      have finds : Inside base (· = start)
          (deptQuery (.find tenantID userID departmentID) : DbM σ _) fun found db =>
            found = start.depts.first?
              (DeptFilter.selects · (.assignment tenantID userID departmentID)) ∧ db = start :=
        inside_read (fun _ _ => rfl) fun _ db same => same ▸ ⟨rfl, rfl⟩
      refine Inside.bind finds fun found => inside_of_fact fun winner => ?_
      cases found with
      | none => exact inside_throw
      | some row =>
          exact inside_pure fun _ same =>
            .inr ⟨Table.mem_select.mpr (Table.first?_some winner.symm), same⟩

/-- The assignment rows that are left when one of them has been revoked. -/
theorem assignmentsOf_revoked {existing : DeptMembership} {rest : List DeptMembership} {now : Int}
    (found : assignmentsOf tenantID userID departmentID start = existing :: rest)
    {row : DeptMembership} :
    row ∈ assignmentsOf tenantID userID departmentID
        { start with depts := start.depts.put (existing.revoked now) } ↔ row ∈ rest := by
  have distinct : ((existing :: rest).map DeptMembership.id).Nodup := by
    rw [← found]
    exact (List.filter_sublist.map _).nodup start.depts.nodup
  have listed : row ∈ existing :: rest ↔ row ∈ start.depts ∧
      DeptFilter.selects row (.assignment tenantID userID departmentID) = true := by
    rw [← found]
    exact Table.mem_select
  rw [List.map_cons, List.nodup_cons] at distinct
  rw [assignmentsOf, Table.mem_select, Table.mem_put, DeptMembership.revoked_id]
  constructor
  · rintro ⟨rfl | ⟨mem, apart⟩, selected⟩
    · simp [DeptFilter.selects] at selected
    · rcases List.mem_cons.mp (listed.mpr ⟨mem, selected⟩) with rfl | later
      · exact absurd rfl apart
      · exact later
  · intro later
    obtain ⟨mem, selected⟩ := listed.mp (List.mem_cons_of_mem _ later)
    refine ⟨.inr ⟨mem, fun same => distinct.1 ?_⟩, selected⟩
    rw [← same]
    exact List.mem_map_of_mem later

theorem inside_assign :
    Inside base (· = start)
      (DeptMembershipRepository.assign tenantID userID departmentID membershipID level grantedBy :
        DbM σ _)
      (Assigned tenantID userID departmentID membershipID level grantedBy start) := by
  have serialises : Inside base (· = start)
      (deptQuery (.lockAssign tenantID userID departmentID) : DbM σ _) fun _ => (· = start) :=
    inside_reads (issues_send rfl)
  have scans : Scans base deptAccess
      (DeptFilter.selects · (.assignment tenantID userID departmentID))
      (deptQuery (.scan (.assignment tenantID userID departmentID)) : DbM σ _) :=
    fun start => inside_read (fun _ _ => rfl) fun _ db same => same ▸ ⟨rfl, rfl⟩
  have locks : Locks base deptAccess
      (DeptFilter.selects · (.assignment tenantID userID departmentID))
      (fun id => deptQuery (.lock (.assignment tenantID userID departmentID) id) :
        Uuid → DbM σ _) :=
    fun id _ _ evaluates => show Inside base _ (send .pg (.dept (.lock _ id))) _ from
      inside_send fun _ => evaluates
  refine Inside.bind serialises fun _ => Inside.bind (scans start) fun ids =>
    inside_of_fact fun scanned => ?_
  rw [scanned]
  refine Inside.bind (inside_lockEach locks) fun rows => inside_of_fact fun locked => ?_
  cases rows with
  | nil =>
      refine Inside.bind inside_insertAssignment fun row => inside_pure fun db inserted => ?_
      rcases inserted with ⟨_, context, unused, rfl, rfl⟩ | ⟨mem, _⟩
      · exact .fresh context locked.symm unused
      · rw [show assignmentsOf tenantID userID departmentID start = [] from locked.symm] at mem
        exact absurd mem List.not_mem_nil
  | cons existing rest =>
      have found : assignmentsOf tenantID userID departmentID start = existing :: rest :=
        locked.symm
      have here : existing ∈ start.depts := by
        have mem : existing ∈ assignmentsOf tenantID userID departmentID start := by simp [found]
        exact (Table.mem_select.mp mem).1
      dsimp only
      split
      case isTrue same =>
        refine inside_pure fun db unchanged => ?_
        rw [unchanged]
        exact .held existing rest found same
      case isFalse differs =>
        have revokes : Inside base (· = start)
            (deptQuery (.softDelete .row existing.id) : DbM σ _) fun _ db =>
              ∃ now, db = { start with depts := start.depts.put (existing.revoked now) } := by
          refine inside_send fun context db result writes same yields => ?_
          subst same
          have updated : (deptAccess.updateRow db existing.id (DeptFilter.selects · .row)
              fun row => .ok (row.revoked (txNow context)) : DbEffect _).Yields
                (some (existing.revoked (txNow context)))
                [deptAccess.change (.put (existing.revoked (txNow context)))] :=
            Access.updateRow_found here rfl rfl
          obtain ⟨rfl, rfl⟩ := Prod.mk.inj (Except.ok.inj (yields.symm.trans updated))
          exact ⟨_, rfl⟩
        refine Inside.bind revokes fun _ => inside_of_exists fun now => ?_
        refine Inside.bind inside_insertAssignment fun row => inside_pure fun db inserted => ?_
        rcases inserted with ⟨none, context, unused, rfl, rfl⟩ | ⟨mem, rfl⟩
        · have last : rest = [] := List.eq_nil_iff_forall_not_mem.mpr fun row mem => by
            rw [← assignmentsOf_revoked found, none] at mem
            exact absurd mem List.not_mem_nil
          subst last
          refine .moved existing now context found differs fun other mem => ?_
          by_cases same : other.id = existing.id
          · rw [same, ← DeptMembership.revoked_id now existing]
            exact unused _ (Table.mem_put.mpr (.inl rfl))
          · exact unused other (Table.mem_put.mpr (.inr ⟨mem, by simpa using same⟩))
        · exact .absorbed existing row rest now found differs ((assignmentsOf_revoked found).mp mem)

end DeptMembershipRepository

/-! ## What an assignment is to each department -/

section Levels

variable {other : Uuid} {answer : DeptMembership × Option DeptMembership} {db : Db}

theorem length_assignmentsOf_le (unique : db.depts.DistinctBy deptAccess.entries) :
    (assignmentsOf tenantID userID departmentID db).length ≤ 1 := by
  have indexed : ∀ row, DeptFilter.selects row (.assignment tenantID userID departmentID) = true →
      LockKey.uqDmActiveMembership tenantID userID departmentID ∈ deptAccess.entries row := by
    intro row selected
    simp only [DeptFilter.selects, Bool.and_eq_true, decide_eq_true_eq] at selected
    obtain ⟨⟨⟨rfl, rfl⟩, rfl⟩, live⟩ := selected
    simp [deptAccess, live]
  exact unique.length_select_le indexed

/-- The levels at which the user holds the department. -/
def levelsOf (tenantID userID departmentID : Uuid) (db : Db) : List DeptRole :=
  (assignmentsOf tenantID userID departmentID db).map DeptMembership.roleLevel

/-- A written row that is not of an assignment, over none that is, leaves the assignment
alone. -/
theorem assignmentsOf_put_missed {row : DeptMembership}
    (misses : DeptFilter.selects row (.assignment tenantID userID departmentID) = false)
    (above : ∀ old ∈ start.depts, old.id = row.id →
      DeptFilter.selects old (.assignment tenantID userID departmentID) = false) :
    assignmentsOf tenantID userID departmentID { start with depts := start.depts.put row } =
      assignmentsOf tenantID userID departmentID start := by
  have kept : (start.depts.apply (.put row)).select
      (DeptFilter.selects · (.assignment tenantID userID departmentID)) = _ :=
    Table.select_apply_of_apart (by rintro _ ⟨⟩; exact misses) above
  exact kept

theorem assignmentsOf_put {row : DeptMembership} (apart : row.departmentID ≠ other)
    (above : ∀ old ∈ start.depts, old.id = row.id → old.departmentID ≠ other) :
    assignmentsOf tenantID userID other { start with depts := start.depts.put row } =
      assignmentsOf tenantID userID other start := by
  have missed : ∀ old : DeptMembership, old.departmentID ≠ other →
      DeptFilter.selects old (.assignment tenantID userID other) = false := by
    intro old apart
    simp [DeptFilter.selects, apart]
  exact assignmentsOf_put_missed (missed row apart) fun old mem same =>
    missed old (above old mem same)

theorem mem_assignmentsOf {row : DeptMembership} :
    row ∈ assignmentsOf tenantID userID departmentID db ↔ row ∈ db.depts ∧
      row.tenantID = tenantID ∧ row.userID = userID ∧ row.departmentID = departmentID ∧
        row.live = true := by
  simp [assignmentsOf, Table.mem_select, DeptFilter.selects, and_assoc]

theorem assignmentsOf_put_fresh (start : Db) {context : Context}
    (unused : ∀ row ∈ start.depts, row.id ≠ context.fresh) :
    assignmentsOf tenantID userID departmentID
        { start with
          depts := start.depts.put
            (newDept context tenantID userID departmentID membershipID level grantedBy) } =
      assignmentsOf tenantID userID departmentID start ++
        [newDept context tenantID userID departmentID membershipID level grantedBy] :=
  Table.select_put_fresh unused (by simp [DeptFilter.selects, newDept, DeptMembership.live])

theorem unused_revoked {existing : DeptMembership} {now : Int} {id : Uuid}
    (here : existing ∈ assignmentsOf tenantID userID departmentID start)
    (unused : ∀ row ∈ start.depts, row.id ≠ id) :
    ∀ row ∈ start.depts.put (existing.revoked now), row.id ≠ id := by
  intro row mem
  rcases Table.mem_put.mp mem with rfl | ⟨old, _⟩
  · rw [DeptMembership.revoked_id]
    exact unused existing (mem_assignmentsOf.mp here).1
  · exact unused row old

/-- An assignment is about one department. -/
theorem Assigned.others
    (assigned : Assigned tenantID userID departmentID membershipID level grantedBy start answer db)
    (apart : other ≠ departmentID) :
    assignmentsOf tenantID userID other db = assignmentsOf tenantID userID other start := by
  have fresh : ∀ (start : Db) {context : Context},
      (∀ row ∈ start.depts, row.id ≠ context.fresh) →
      assignmentsOf tenantID userID other
          { start with
            depts := start.depts.put
              (newDept context tenantID userID departmentID membershipID level grantedBy) } =
        assignmentsOf tenantID userID other start :=
    fun _ _ unused => assignmentsOf_put (Ne.symm apart)
      fun old mem same => absurd same (unused old mem)
  have ended : ∀ {existing : DeptMembership} {rest : List DeptMembership} {now : Int},
      assignmentsOf tenantID userID departmentID start = existing :: rest →
      assignmentsOf tenantID userID other
          { start with depts := start.depts.put (existing.revoked now) } =
        assignmentsOf tenantID userID other start := by
    intro existing rest now found
    have here : existing ∈ assignmentsOf tenantID userID departmentID start := by simp [found]
    rw [mem_assignmentsOf] at here
    apply assignmentsOf_put
    · rw [DeptMembership.revoked_departmentID, here.2.2.2.1]
      exact Ne.symm apart
    · intro old mem same
      rw [DeptMembership.revoked_id] at same
      rw [Table.eq_of_key_eq mem here.1 same, here.2.2.2.1]
      exact Ne.symm apart
  cases assigned with
  | fresh context none unused => exact fresh start unused
  | held existing rest found same => rfl
  | moved existing now context found differs unused =>
      have here : existing ∈ assignmentsOf tenantID userID departmentID start := by simp [found]
      exact (fresh { start with depts := start.depts.put (existing.revoked now) }
        (unused_revoked here unused)).trans (ended found)
  | absorbed existing winner rest now found differs mem => exact ended found

theorem Assigned.levels (few : (assignmentsOf tenantID userID departmentID start).length ≤ 1)
    (assigned : Assigned tenantID userID departmentID membershipID level grantedBy start answer
      db) :
    levelsOf tenantID userID departmentID db = [level] := by
  rw [levelsOf]
  cases assigned with
  | fresh context none unused =>
      rw [assignmentsOf_put_fresh start unused, none]
      rfl
  | held existing rest found same =>
      rw [found, List.length_cons] at few
      have alone : rest = [] := List.length_eq_zero_iff.mp (by omega)
      rw [found, alone, List.map_singleton, same]
  | moved existing now context found differs unused =>
      have ended : assignmentsOf tenantID userID departmentID
          { start with depts := start.depts.put (existing.revoked now) } = [] :=
        List.eq_nil_iff_forall_not_mem.mpr fun row mem =>
          List.not_mem_nil ((DeptMembershipRepository.assignmentsOf_revoked found).mp mem)
      have here : existing ∈ assignmentsOf tenantID userID departmentID start := by simp [found]
      refine (congrArg (List.map DeptMembership.roleLevel) (assignmentsOf_put_fresh
        { start with depts := start.depts.put (existing.revoked now) }
        (unused_revoked here unused))).trans ?_
      rw [ended]
      rfl
  | absorbed existing winner rest now found differs mem =>
      rw [found, List.length_cons] at few
      have alone : rest = [] := List.length_eq_zero_iff.mp (by omega)
      rw [alone] at mem
      cases mem

/-- An assignment at a level that is held changes nothing, and any other makes a new row. -/
theorem Assigned.renews (few : (assignmentsOf tenantID userID departmentID start).length ≤ 1)
    (assigned : Assigned tenantID userID departmentID membershipID level grantedBy start answer
      db) :
    level ∈ levelsOf tenantID userID departmentID start ∧ db = start ∨
      level ∉ levelsOf tenantID userID departmentID start ∧
        ∃ row ∈ assignmentsOf tenantID userID departmentID db,
          ∀ other ∈ start.depts, other.id ≠ row.id := by
  rw [levelsOf]
  cases assigned with
  | fresh context none unused =>
      rw [none]
      exact .inr ⟨List.not_mem_nil, _, mem_assignmentsOf.mpr
        ⟨Table.mem_put.mpr (.inl rfl), rfl, rfl, rfl, rfl⟩, unused⟩
  | held existing rest found same => exact .inl ⟨by simp [found, same], rfl⟩
  | moved existing now context found differs unused =>
      rw [found]
      exact .inr ⟨by simpa using Ne.symm differs, _, mem_assignmentsOf.mpr
        ⟨Table.mem_put.mpr (.inl rfl), rfl, rfl, rfl, rfl⟩, unused⟩
  | absorbed existing winner rest now found differs mem =>
      rw [found, List.length_cons] at few
      rw [List.length_eq_zero_iff.mp (by omega : rest.length = 0)] at mem
      cases mem

/-- Every live row was there before or is of the assignment. -/
theorem Assigned.owned
    (assigned : Assigned tenantID userID departmentID membershipID level grantedBy start answer db)
    {row : DeptMembership} (mem : row ∈ db.depts) (live : row.live = true) :
    row ∈ start.depts ∨ row ∈ assignmentsOf tenantID userID departmentID db := by
  have made : ∀ {context : Context} {table : Table DeptMembership.id},
      row ∈ table.put (newDept context tenantID userID departmentID membershipID level grantedBy) →
      row.tenantID = tenantID ∧ row.userID = userID ∧ row.departmentID = departmentID ∨
        row ∈ table := by
    intro context table mem
    rcases Table.mem_put.mp mem with rfl | ⟨old, _⟩
    · exact .inl ⟨rfl, rfl, rfl⟩
    · exact .inr old
  have ended : ∀ {existing : DeptMembership} {now : Int},
      row ∈ start.depts.put (existing.revoked now) → row ∈ start.depts := by
    intro existing now mem
    rcases Table.mem_put.mp mem with rfl | ⟨old, _⟩
    · simp at live
    · exact old
  cases assigned with
  | fresh context none unused =>
      exact (made mem).symm.imp id fun ⟨tenant, user, dept⟩ =>
        mem_assignmentsOf.mpr ⟨mem, tenant, user, dept, live⟩
  | held existing rest found same => exact .inl mem
  | moved existing now context found differs unused =>
      exact (made mem).symm.imp ended fun ⟨tenant, user, dept⟩ =>
        mem_assignmentsOf.mpr ⟨mem, tenant, user, dept, live⟩
  | absorbed existing winner rest now found differs other => exact .inl (ended mem)

/-- No row is taken away. -/
theorem Assigned.has
    (assigned : Assigned tenantID userID departmentID membershipID level grantedBy start answer db)
    {id : Uuid} (has : start.depts.Has id) : db.depts.Has id := by
  cases assigned with
  | fresh => exact Table.has_put.mpr (.inr has)
  | held => exact has
  | moved => exact Table.has_put.mpr (.inr (Table.has_put.mpr (.inr has)))
  | absorbed => exact Table.has_put.mpr (.inr has)

end Levels

end OrgMembership

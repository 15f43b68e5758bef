import OrgMembership.Service.Reads

/-!
# Departments of the I-8 projection

The query of I-8 aggregates over a join of the membership with two independent relations.
The roles are aggregated without duplicates, the departments are not: each of them appears
once for every live role.  With at most one role the list is the one that P-4 and P-5 give.
-/

namespace OrgMembership

open Relational

namespace AuthZRepository

variable {tenantID userID : Uuid} {db : Db} {membership : TenantMembership} {tenant : Tenant}

@[simp]
theorem filterMap_leftJoin {α : Type} (rows : List α) : (leftJoin rows).filterMap id = rows := by
  cases rows with
  | nil => rfl
  | cons row rows => simp [leftJoin, List.filterMap_map]

@[simp]
theorem length_leftJoin {α : Type} (rows : List α) :
    (leftJoin rows).length = max 1 rows.length := by
  cases rows with
  | nil => rfl
  | cons row rows =>
      rw [leftJoin, List.length_map, List.length_cons]
      omega

theorem leftJoin_ne_nil {α : Type} (rows : List α) : leftJoin rows ≠ [] := by
  rw [← List.length_pos_iff, length_leftJoin]
  omega

/-- Pairing the rows of one relation with those of another repeats them. -/
theorem filterMap_product {α β γ : Type} (first : List α) (second : List β)
    (pair : α → Option β → γ) (back : γ → Option β) (inverse : ∀ a b, back (pair a b) = b) :
    (first.flatMap fun a => (leftJoin second).map (pair a)).filterMap back =
      (List.replicate first.length second).flatten := by
  induction first with
  | nil => rfl
  | cons a first ih =>
      rw [List.flatMap_cons, List.filterMap_append, ih, List.filterMap_map, List.length_cons,
        List.replicate_succ, List.flatten_cons]
      congr 1
      have same : (fun b => back (pair a b)) = id := funext fun b => inverse a b
      exact (congrArg (fun f => (leftJoin second).filterMap f) same).trans (filterMap_leftJoin _)

/-! ## The join -/

/-- What the schema guarantees of a member: one live membership, of a tenant that exists. -/
structure IsMember (tenantID userID : Uuid) (db : Db) (membership : TenantMembership)
    (tenant : Tenant) : Prop where
  unique : db.memberships.DistinctBy membershipAccess.entries
  memMembership : membership ∈ db.memberships
  isOf : membership.isOf tenantID userID = true
  memTenant : tenant ∈ db.tenants
  about : tenant.id = tenantID

theorem isOf_iff {row : TenantMembership} :
    row.isOf tenantID userID = true ↔
      (row.tenantID = tenantID ∧ row.userID = userID) ∧ row.live = true := by
  simp [TenantMembership.isOf]

section Member

variable (member : IsMember tenantID userID db membership tenant)

include member

theorem IsMember.only {row : TenantMembership} (mem : row ∈ db.memberships)
    (isOf : row.isOf tenantID userID = true) : row = membership := by
  have entry : ∀ row : TenantMembership, row.isOf tenantID userID = true →
      LockKey.uqTmActiveUser tenantID userID ∈ membershipAccess.entries row := by
    intro row isOf
    obtain ⟨⟨rfl, rfl⟩, live⟩ := isOf_iff.mp isOf
    simp [membershipAccess, live]
  exact member.unique row mem membership member.memMembership _ (entry row isOf)
    (entry membership member.isOf)

theorem IsMember.joined_eq :
    joined tenantID userID db = (leftJoin (rolesOf tenantID userID db)).flatMap fun role =>
      (leftJoin (deptsOf tenantID userID db)).map fun dept => ⟨membership, tenant, role, dept⟩ := by
  obtain ⟨⟨rightTenant, rightUser⟩, _⟩ := isOf_iff.mp member.isOf
  have one : membershipsOf tenantID userID db = [membership] :=
    Table.select_eq_singleton member.memMembership member.isOf fun _ mem isOf =>
      member.only mem isOf
  have its : db.tenants.select (·.id = membership.tenantID) = [tenant] := by
    apply Table.select_eq_singleton member.memTenant
    · rw [decide_eq_true_eq, rightTenant]
      exact member.about
    · intro other mem same
      rw [decide_eq_true_eq, rightTenant] at same
      exact Table.eq_of_key_eq mem member.memTenant (same.trans member.about.symm)
  rw [joined, one, List.flatMap_singleton, its, List.flatMap_singleton, rightTenant, rightUser]

/-- The whole join is one group. -/
theorem IsMember.find_eq :
    ∃ key, findMembershipProjection tenantID userID db =
      some ⟨key, aggregateRoles (joined tenantID userID db),
        aggregateDepartments (joined tenantID userID db)⟩ := by
  have grouped : ∀ row ∈ joined tenantID userID db,
      row.group = (JoinedRow.mk membership tenant none none).group := by
    intro row mem
    rw [member.joined_eq, List.mem_flatMap] at mem
    obtain ⟨role, _, mem⟩ := mem
    obtain ⟨dept, _, rfl⟩ := List.mem_map.mp mem
    rfl
  cases shape : joined tenantID userID db with
  | nil =>
      rw [member.joined_eq, List.flatMap_eq_nil_iff] at shape
      obtain ⟨role, memRole⟩ :=
        List.exists_mem_of_ne_nil _ (leftJoin_ne_nil (rolesOf tenantID userID db))
      exact absurd (List.map_eq_nil_iff.mp (shape role memRole)) (leftJoin_ne_nil _)
  | cons first rest =>
      refine ⟨first.group, ?_⟩
      have all : ((first :: rest).filter fun row => decide (row.group = first.group)) =
          first :: rest := by
        rw [List.filter_eq_self]
        intro row mem
        rw [decide_eq_true_eq, grouped row (shape ▸ mem),
          grouped first (shape ▸ List.mem_cons_self)]
      rw [findMembershipProjection, shape]
      dsimp only
      rw [all]

/-- Each department is listed once for every live role, and once without any. -/
theorem IsMember.departments_perm :
    (aggregateDepartments (joined tenantID userID db)).Perm
      ((List.replicate (max 1 (rolesOf tenantID userID db).length)
        (deptsOf tenantID userID db)).flatten.map DeptMembership.view) := by
  refine (List.perm_insertionSort _ _).trans ?_
  rw [member.joined_eq, filterMap_product _ _ _ _ fun _ _ => rfl, length_leftJoin]

/-- Each department is listed once exactly if there is nothing to repeat it for. -/
theorem IsMember.departments_once_iff :
    (aggregateDepartments (joined tenantID userID db)).Perm
        ((deptsOf tenantID userID db).map DeptMembership.view) ↔
      (rolesOf tenantID userID db).length ≤ 1 ∨ deptsOf tenantID userID db = [] := by
  constructor
  · intro once
    -- The two lists have the same length only if the number of copies is one.
    have copies := member.departments_perm.length_eq.symm.trans once.length_eq
    rw [List.length_map, List.length_map, List.length_flatten, List.map_replicate,
      List.sum_replicate_nat] at copies
    rcases Nat.eq_zero_or_pos (deptsOf tenantID userID db).length with none | some
    · exact .inr (List.length_eq_zero_iff.mp none)
    · have one := Nat.mul_right_cancel some (copies.trans (Nat.one_mul _).symm)
      exact .inl (by omega)
  · intro few
    refine member.departments_perm.trans (List.Perm.of_eq (congrArg _ ?_))
    rcases few with one | none
    · rw [Nat.max_eq_left one]
      simp
    · simp [none]

theorem IsMember.first?_eq :
    db.memberships.first? (·.isOf tenantID userID) = some membership := by
  cases first : db.memberships.first? (·.isOf tenantID userID) with
  | none =>
      have missed := Table.first?_eq_none.mp first membership member.memMembership
      rw [member.isOf] at missed
      cases missed
  | some row => rw [member.only (Table.first?_some first).1 (Table.first?_some first).2]

end Member

end AuthZRepository

namespace MembershipService

variable {tenantID userID : Uuid} {db : Db}

/-- What P-4 lists of a user who is on the page. -/
theorem departments_perm_of_mem {cursor : Option MembershipListCursor} {limit : Int}
    {item : MembershipListItem} (mem : item ∈ (list tenantID cursor limit db).items)
    (about : item.membership.userID = userID) :
    item.departments.Perm ((deptsOf tenantID userID db).map DeptMembership.view) := by
  obtain ⟨membership, onPage, rfl⟩ := List.mem_map.mp mem
  subst about
  apply List.Perm.map
  refine ((List.perm_insertionSort _ _).filter _).trans (List.Perm.of_eq ?_)
  rw [Table.select, List.filter_filter, deptsOf, Table.select]
  refine List.filter_congr fun row _ => ?_
  have batched : ((pageOf tenantID cursor limit db).1.map TenantMembership.userID).contains
      membership.userID = true := List.contains_iff_mem.mpr (List.mem_map_of_mem onPage)
  by_cases same : row.userID = membership.userID
  · simp only [DeptFilter.selects, same, batched, decide_true, Bool.and_true, Bool.true_and]
  · simp [DeptFilter.selects, same]

end MembershipService

open AuthZRepository MembershipService in
/-- I-8 lists each live department row of a member once, as P-4 and P-5 do, exactly if the
member has at most one live role, or no department. -/
theorem projection_departments_exact {tenantID userID : Uuid} {db : Db}
    {membership : TenantMembership} {tenant : Tenant}
    (member : IsMember tenantID userID db membership tenant) :
    ∃ row, findMembershipProjection tenantID userID db = some row ∧
      ((row.departments.Perm ((deptsOf tenantID userID db).map DeptMembership.view) ∧
          (∃ item, get tenantID userID db = .ok item ∧ row.departments.Perm item.departments) ∧
          ∀ cursor limit, ∀ item ∈ (list tenantID cursor limit db).items,
            item.membership.userID = userID → row.departments.Perm item.departments) ↔
        (rolesOf tenantID userID db).length ≤ 1 ∨ deptsOf tenantID userID db = []) := by
  obtain ⟨key, found⟩ := member.find_eq
  refine ⟨_, found, fun exact => member.departments_once_iff.mp exact.1, fun few => ?_⟩
  have listed := member.departments_once_iff.mpr few
  refine ⟨listed, ?_, fun cursor limit item mem about =>
    listed.trans (departments_perm_of_mem mem about).symm⟩
  have got : get tenantID userID db = .ok ⟨membership,
      .member :: ((rolesOf tenantID userID db).insertionSort TenantRole.before).map
        TenantRole.roleCode,
      ((deptsOf tenantID userID db).map DeptMembership.view).insertionSort
        DeptMembershipView.before⟩ := by
    rw [MembershipService.get, member.first?_eq]
  exact ⟨_, got, listed.trans (List.perm_insertionSort _ _).symm⟩

namespace AuthZRepository

/-- User 102 has one role and two departments. -/
def assigned : Db :=
  { Db.empty with
    tenants := .singleton trialRow
    memberships := .singleton (newMembership ⟨0, 0, 12⟩ 1 102 .active)
    roles := .singleton (newRole ⟨0, 0, 22⟩ 1 102 12 .tenantAdmin 101)
    depts := ⟨[newDept ⟨0, 0, 32⟩ 1 102 7 12 .preparator 101,
      newDept ⟨0, 0, 33⟩ 1 102 6 12 .approver 101], by decide⟩ }

theorem projection_of_assigned :
    ∃ row, findMembershipProjection 1 102 assigned = some row ∧
      row.departments.Perm [⟨7, "", .preparator⟩, ⟨6, "", .approver⟩] := by
  have member : IsMember 1 102 assigned (newMembership ⟨0, 0, 12⟩ 1 102 .active) trialRow :=
    ⟨by decide, List.mem_singleton.mpr rfl, by decide, List.mem_singleton.mpr rfl, rfl⟩
  obtain ⟨row, found, exact_iff⟩ := projection_departments_exact member
  exact ⟨row, found, (exact_iff.mpr (.inl (by decide))).1⟩

/-- A second role lists the department twice. -/
theorem departments_repeated_for_roles :
    findMembershipProjection 1 102
        { assigned with
          roles := ⟨[newRole ⟨0, 0, 22⟩ 1 102 12 .tenantAdmin 101,
            newRole ⟨0, 0, 23⟩ 1 102 12 .tenderAdmin 101], by decide⟩
          depts := .singleton (newDept ⟨0, 0, 32⟩ 1 102 7 12 .preparator 101) } =
      some ⟨⟨.active, trialRow.status, trialRow.plan, trialRow.defaultLocale,
          trialRow.mfaFreshnessSeconds, trialRow.localAccountsEnabled, trialRow.residencyMode,
          trialRow.featureFlags⟩,
        [.tenantAdmin, .tenderAdmin], [⟨7, "", .preparator⟩, ⟨7, "", .preparator⟩]⟩ := by
  decide +kernel

end AuthZRepository

end OrgMembership

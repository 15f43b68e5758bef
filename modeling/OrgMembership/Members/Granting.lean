import OrgMembership.Repository.Alone

/-!
# Grants with no concurrent writer

What `TenantRoleRepository.Grant` makes of the rows when nobody else writes.
-/

namespace OrgMembership

open Concurrency Relational

variable {σ : Type} {tenantID userID membershipID grantedBy : Uuid} {code : TenantRoleCode}
  {base start db : Db}

/-- The live rows of a grant: at most one, by the unique index. -/
def grantsOf (tenantID userID : Uuid) (code : TenantRoleCode) (db : Db) : List TenantRole :=
  db.roles.select (RoleFilter.selects · (.grant tenantID userID code))

/-- The rows after a grant, with the row it returns. -/
inductive Granted (tenantID userID membershipID : Uuid) (code : TenantRoleCode) (grantedBy : Uuid)
    (start : Db) : TenantRole → Db → Prop
  | fresh (context : Context) (none : grantsOf tenantID userID code start = [])
      (unused : ∀ other ∈ start.roles, other.id ≠ context.fresh) :
      Granted tenantID userID membershipID code grantedBy start
        (newRole context tenantID userID membershipID code grantedBy)
        { start with
          roles := start.roles.put (newRole context tenantID userID membershipID code grantedBy) }
  | held (row : TenantRole) (mem : row ∈ grantsOf tenantID userID code start) :
      Granted tenantID userID membershipID code grantedBy start row start

namespace TenantRoleRepository

theorem inside_grant :
    Inside base (· = start) (grant tenantID userID membershipID code grantedBy : DbM σ _)
      (Granted tenantID userID membershipID code grantedBy start) := by
  have inserts : Inside base (· = start)
      (roleQuery (.insert tenantID userID membershipID code grantedBy) : DbM σ _)
      fun created db => match created with
        | some row => Granted tenantID userID membershipID code grantedBy start row db
        | none => db = start := by
    refine inside_send fun context db result writes same yields => ?_
    subst same
    rcases Access.insertRow_cases yields with ⟨rfl, rfl, _⟩ | ⟨unopposed, allowed, rfl, rfl, _⟩
    · rfl
    · simp only [firstViolated_eq_none, List.mem_cons, forall_eq_or_imp] at allowed
      exact .fresh context (Table.select_eq_nil unopposed)
        (Table.find?_eq_none.mp (Option.isNone_iff_eq_none.mp allowed.2.1))
  refine Inside.bind inserts fun created => ?_
  cases created with
  | some row => exact inside_pure fun _ made => made
  | none =>
      have finds : Inside base (· = start) (roleQuery (.find tenantID userID code) : DbM σ _)
          fun found db => found = start.roles.first?
            (RoleFilter.selects · (.grant tenantID userID code)) ∧ db = start :=
        inside_read (fun _ _ => rfl) fun _ db same => same ▸ ⟨rfl, rfl⟩
      refine Inside.bind finds fun found => inside_of_fact fun winner => ?_
      cases found with
      | none => exact inside_throw
      | some row =>
          refine inside_pure fun _ same => ?_
          subst same
          exact .held row (Table.mem_select.mpr (Table.first?_some winner.symm))

end TenantRoleRepository

theorem mem_grantsOf {row : TenantRole} :
    row ∈ grantsOf tenantID userID code db ↔ row ∈ db.roles ∧ row.tenantID = tenantID ∧
      row.userID = userID ∧ row.roleCode = code ∧ row.live = true := by
  simp [grantsOf, Table.mem_select, RoleFilter.selects, and_assoc]

/-- Whether a role is among those listed for the user. -/
theorem any_listed_eq :
    ((db.roles.select (RoleFilter.selects · (.user tenantID userID))).any
      fun row => decide (row.roleCode = code)) = !(grantsOf tenantID userID code db).isEmpty := by
  rw [Bool.eq_iff_iff, List.any_eq_true, Bool.not_eq_true', Bool.eq_false_iff, Ne,
    List.isEmpty_iff]
  constructor
  · rintro ⟨row, listed, same⟩ none
    rw [Table.mem_select, RoleFilter.selects_user] at listed
    have here : row ∈ grantsOf tenantID userID code db :=
      mem_grantsOf.mpr ⟨listed.1, by simpa [and_assoc, of_decide_eq_true same] using listed.2⟩
    rw [none] at here
    cases here
  · intro some
    obtain ⟨row, here⟩ := List.exists_mem_of_ne_nil _ some
    rw [mem_grantsOf] at here
    refine ⟨row, Table.mem_select.mpr ⟨here.1, ?_⟩, by simp [here]⟩
    simp [RoleFilter.selects, here]

section Written

variable {row : TenantRole}

/-- A written row that is not of a grant, over none that is, leaves the grant alone. -/
theorem grantsOf_put_missed
    (misses : RoleFilter.selects row (.grant tenantID userID code) = false)
    (above : ∀ old ∈ start.roles, old.id = row.id →
      RoleFilter.selects old (.grant tenantID userID code) = false) :
    grantsOf tenantID userID code { start with roles := start.roles.put row } =
      grantsOf tenantID userID code start := by
  have kept : (start.roles.apply (.put row)).select
      (RoleFilter.selects · (.grant tenantID userID code)) = _ :=
    Table.select_apply_of_apart (by rintro _ ⟨⟩; exact misses) above
  exact kept

theorem grantsOf_put (apart : row.roleCode ≠ code)
    (above : ∀ old ∈ start.roles, old.id = row.id → old.roleCode ≠ code) :
    grantsOf tenantID userID code { start with roles := start.roles.put row } =
      grantsOf tenantID userID code start := by
  have missed : ∀ old : TenantRole, old.roleCode ≠ code →
      RoleFilter.selects old (.grant tenantID userID code) = false := by
    intro old apart
    simp [RoleFilter.selects, apart]
  exact grantsOf_put_missed (missed row apart) fun old mem same => missed old (above old mem same)

end Written

end OrgMembership

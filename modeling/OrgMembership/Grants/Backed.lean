import OrgMembership.Service.Calls

/-!
# Grants without a membership

Every live role and department of a user names a live membership of that user.
Removals and grants keep this in every run in which a grant names a membership
that is live when it is inserted, and no removal outside the tenant lock
overlaps an uncommitted grant.
-/

namespace OrgMembership

open Concurrency Relational

variable {db : Db} {body : DbM σ α} {dept : DeptMembership} {role : TenantRole}
  {roleLeft : Uuid → Prop}

/-- A live membership of the user has this identifier. -/
def LiveMember (tenantID userID membershipID : Uuid) (db : Db) : Prop :=
  ∃ row ∈ db.memberships, row.id = membershipID ∧ row.isOf tenantID userID = true

/-- Every live grant of the user names a live membership. -/
structure Backed (tenantID userID : Uuid) (db : Db) : Prop where
  roles : ∀ role ∈ db.roles, RoleFilter.selects role (.user tenantID userID) = true →
    LiveMember tenantID userID role.tenantMembershipID db
  depts : ∀ dept ∈ db.depts, DeptFilter.selects dept (.user tenantID userID) = true →
    LiveMember tenantID userID dept.tenantMembershipID db

/-- The user holds neither a role nor a department. -/
def Ungranted (tenantID userID : Uuid) (db : Db) : Prop :=
  (∀ role ∈ db.roles, RoleFilter.selects role (.user tenantID userID) = false) ∧
    ∀ dept ∈ db.depts, DeptFilter.selects dept (.user tenantID userID) = false

/-- A user who is no member holds nothing, so nothing comes back when they
rejoin. -/
theorem Backed.ungranted {tenantID userID : Uuid} (backed : Backed tenantID userID db)
    (gone : ∀ row ∈ db.memberships, row.isOf tenantID userID = false) :
    Ungranted tenantID userID db := by
  have nobody : ∀ id, ¬LiveMember tenantID userID id db := by
    rintro id ⟨row, mem, _, live⟩
    rw [gone row mem] at live
    cases live
  constructor
  · exact fun role mem => Bool.eq_false_iff.mpr fun live => nobody _ (backed.roles role mem live)
  · exact fun dept mem => Bool.eq_false_iff.mpr fun live => nobody _ (backed.depts dept mem live)

namespace Grants

/-- The operations on one user. -/
inductive Call
  | removeUser (actorID : Uuid) (workflow : WorkflowAnswer)
  | deleteMember
  | reconcileRoles (desired : List TenantRoleCode) (actorID : Uuid) (isServiceAccount : Bool)
      (grantOrder revokeOrder : MapOrder)
  | assign (departmentID : Uuid) (level : DeptRole) (actorID : Uuid) (answers : AssignAnswers)
  | assignFromGroups (groups : List String) (mappings : GroupMappings) (order : MapOrder)
  | addFromRegister (keycloakUserID : Uuid) (email : String) (isServiceAccount : Bool)

/-- The call, with its result dropped. -/
def code (tenantID userID : Uuid) : Call → DbProgram (Except Failure Unit)
  | .removeUser actorID workflow => (removeUser tenantID userID actorID workflow).run
  | .deleteMember =>
      Fallible.run do
        let _ ← deleteMember tenantID userID
        return ()
  | .reconcileRoles desired actorID isServiceAccount grantOrder revokeOrder =>
      Fallible.run do
        let _ ← reconcileRoles tenantID userID desired actorID isServiceAccount grantOrder
          revokeOrder
        return ()
  | .assign departmentID level actorID answers =>
      Fallible.run do
        let _ ← assign tenantID userID departmentID level actorID answers
        return ()
  | .assignFromGroups groups mappings order =>
      Fallible.run do
        let _ ← assignFromGroups tenantID userID groups mappings order
        return ()
  | .addFromRegister keycloakUserID email isServiceAccount =>
      Fallible.run do
        let _ ← addFromRegister tenantID userID keycloakUserID email isServiceAccount
        return ()

/-! ## The condition on runs -/

section Condition

variable (tenantID userID : Uuid)

/-- The write is a live grant of the user. -/
def grants : Write → Bool
  | .role (.put row) => RoleFilter.selects row (.user tenantID userID)
  | .dept (.put row) => DeptFilter.selects row (.user tenantID userID)
  | _ => false

/-- The session has an uncommitted grant of the user. -/
def granting (session : DbSession) : Bool :=
  session.writes.any (grants tenantID userID)

/-- The current transaction has looked for the user's roles in order to revoke
them. -/
def scanned : List (Entry Query.Result) → Bool
  | .issued (.role (.scan (.user tenant user))) _ :: history =>
      (tenant = tenantID && user = userID) || scanned history
  | .issued _ _ :: history => scanned history
  | _ => false

/-- The session is in the middle of removing the user. -/
def removing (session : DbSession) : Bool :=
  session.inTx && scanned tenantID userID session.history

/-- A removal without the tenant lock overlaps an uncommitted grant. -/
def overlaps (remover granter : DbSession) : Bool :=
  removing tenantID userID remover && !decide (TenantLocked tenantID remover) &&
    granting tenantID userID granter

/-- A grant names a membership that is live when it is inserted. -/
def namesLive (server : DbServer) (session : DbSession) : Statement Query → Bool
  | .query (.role (.insert _ _ membershipID _ _)) =>
      ((dialect.view server session).memberships.find? membershipID).any TenantMembership.live
  | .query (.dept (.insert _ _ _ membershipID _ _)) =>
      ((dialect.view server session).memberships.find? membershipID).any TenantMembership.live
  | _ => true

/-- The runs in which every executed statement meets the condition. -/
def runs : DbConfig Call (Except Failure Unit) → Action Call (Chance PgError) Nat → Bool :=
  allows (fun _ => true) fun config index _ statement session =>
    namesLive config.shared session statement &&
      (config.processes.eraseIdx index).all fun other =>
        !overlaps tenantID userID session other.loc && !overlaps tenantID userID other.loc session

end Condition

variable {tenantID userID : Uuid}

theorem granting_of_role {session : DbSession} (put : .role (.put role) ∈ session.writes)
    (live : RoleFilter.selects role (.user tenantID userID) = true) :
    granting tenantID userID session = true :=
  List.any_eq_true.mpr ⟨_, put, live⟩

theorem granting_of_dept {session : DbSession} (put : .dept (.put dept) ∈ session.writes)
    (live : DeptFilter.selects dept (.user tenantID userID) = true) :
    granting tenantID userID session = true :=
  List.any_eq_true.mpr ⟨_, put, live⟩

theorem scanned_issued {query : Query} {result : query.Result}
    {history : List (Entry Query.Result)} (before : scanned tenantID userID history = true) :
    scanned tenantID userID (.issued query result :: history) = true := by
  rw [scanned.eq_def]
  split
  · rename_i equal
    cases equal
    simp [before]
  · rename_i equal
    cases equal
    exact before
  · rename_i other
    exact absurd rfl (other _ _ _)

/-! ## The protocol -/

section Protocol

variable (tenantID userID : Uuid)

/-- The live memberships of the user stay live. -/
def KeepsMembers (before after : Db) : Prop :=
  ∀ id, LiveMember tenantID userID id before → LiveMember tenantID userID id after

/-- The user gets no new live grant. -/
structure GrantsNothing (before after : Db) : Prop where
  roles : ∀ role ∈ after.roles, RoleFilter.selects role (.user tenantID userID) = true →
    role ∈ before.roles
  depts : ∀ dept ∈ after.depts, DeptFilter.selects dept (.user tenantID userID) = true →
    dept ∈ before.depts

/-- Only a removal ends memberships and only a grant adds grants, and the two do
not run side by side. -/
def protocol : DbProtocol where
  Inv server := Backed tenantID userID server.db
  Admits statement server session :=
    Disciplined server session ∧ namesLive server session statement = true
  Coexist _ actor other :=
    (removing tenantID userID actor = true → granting tenantID userID other = false) ∧
      (removing tenantID userID other = true → granting tenantID userID actor = false)
  Guar actor before after := before = after ∨
    (removing tenantID userID actor = true ∨ KeepsMembers tenantID userID before.db after.db) ∧
      (granting tenantID userID actor = true ∨ GrantsNothing tenantID userID before.db after.db)
  Drift before after := before.db = after.db

/-- The write ends no membership. -/
def Tame : Write → Prop
  | .membership (.put row) => row.live = true
  | .membership (.delete _) => False
  | _ => True

/-- The session ends no membership, and what it grants names a live one. -/
structure Grounded (server : DbServer) (session : DbSession) : Prop where
  tame : ∀ write ∈ session.writes, Tame write
  roles : ∀ role, .role (.put role) ∈ session.writes →
    RoleFilter.selects role (.user tenantID userID) = true →
      LiveMember tenantID userID role.tenantMembershipID (dialect.view server session)
  depts : ∀ dept, .dept (.put dept) ∈ session.writes →
    DeptFilter.selects dept (.user tenantID userID) = true →
      LiveMember tenantID userID dept.tenantMembershipID (dialect.view server session)

/-- A removal that has still to revoke at most these roles and departments. -/
structure Sweeping (roleLeft deptLeft : Uuid → Prop) (server : DbServer) (session : DbSession) :
    Prop where
  removing : removing tenantID userID session = true
  roles : ∀ role ∈ (dialect.view server session).roles,
    RoleFilter.selects role (.user tenantID userID) = true → roleLeft role.id
  depts : ∀ dept ∈ (dialect.view server session).depts,
    DeptFilter.selects dept (.user tenantID userID) = true → deptLeft dept.id

variable {tenantID userID}

theorem lenient : Lenient (protocol tenantID userID) :=
  fun _ _ => .inl rfl

/-- A live membership a session sees stays one while the committed ones stay
live. -/
theorem liveMember_view {before after : DbServer} {session : DbSession} {id : Uuid}
    (keeps : KeepsMembers tenantID userID before.db after.db)
    (member : LiveMember tenantID userID id (dialect.view before session)) :
    LiveMember tenantID userID id (dialect.view after session) := by
  obtain ⟨row, mem, rfl, live⟩ := member
  have seen : row ∈ membershipAccess.table (dialect.view before session) := mem
  rw [membershipLawful.table_view] at seen
  rcases Table.mem_applyAll seen with put | ⟨old, untouched⟩
  · refine ⟨row, ?_, rfl, live⟩
    change row ∈ membershipAccess.table (dialect.view after session)
    rw [membershipLawful.table_view]
    exact Table.mem_applyAll_of_touched ⟨_, put, rfl⟩ seen
  · obtain ⟨kept, memKept, sameID, liveKept⟩ := keeps row.id ⟨row, old, rfl, live⟩
    refine ⟨kept, ?_, sameID, liveKept⟩
    change kept ∈ membershipAccess.table (dialect.view after session)
    rw [membershipLawful.table_view]
    refine Table.mem_applyAll_of_untouched memKept fun change mem => ?_
    have apart : change.target membershipAccess.key ≠ row.id := untouched change mem
    exact fun same => apart (same.trans sameID)

/-- A grant keeps its membership: no removal ends it before the commit. -/
theorem stable_grounded : (protocol tenantID userID).Stable (Grounded tenantID userID) := by
  intro before after session _ _ rely grounded
  have keeps : granting tenantID userID session = true →
      KeepsMembers tenantID userID before.db after.db := by
    intro active
    rcases rely with ⟨actor, coexist, rfl | ⟨ends | keeps, _⟩⟩ | drift
    · exact fun _ member => member
    · rw [coexist.1 ends] at active
      cases active
    · exact keeps
    · exact fun _ member => drift ▸ member
  refine ⟨grounded.tame, fun role put live => ?_, fun dept put live => ?_⟩
  · exact liveMember_view (keeps (granting_of_role put live)) (grounded.roles role put live)
  · exact liveMember_view (keeps (granting_of_dept put live)) (grounded.depts dept put live)

/-- A removal sees no new grant after its scan. -/
theorem stable_sweeping (roleLeft deptLeft : Uuid → Prop) :
    (protocol tenantID userID).Stable (Sweeping tenantID userID roleLeft deptLeft) := by
  intro before after session _ _ rely sweeping
  have nothing : GrantsNothing tenantID userID before.db after.db := by
    rcases rely with ⟨actor, coexist, rfl | ⟨_, active | nothing⟩⟩ | drift
    · exact ⟨fun _ mem _ => mem, fun _ mem _ => mem⟩
    · rw [coexist.2 sweeping.removing] at active
      cases active
    · exact nothing
    · exact ⟨fun _ mem _ => drift ▸ mem, fun _ mem _ => drift ▸ mem⟩
  refine ⟨sweeping.removing, fun role mem live => ?_, fun dept mem live => ?_⟩
  · exact sweeping.roles role
      (roleLawful.mem_view_of_mem (fun new => nothing.roles role new live) mem) live
  · exact sweeping.depts dept
      (deptLawful.mem_view_of_mem (fun new => nothing.depts dept new live) mem) live

end Protocol

/-! ## Commits -/

section Commit

variable {server : DbServer} {session : DbSession}

theorem role_origin (mem : role ∈ (dialect.committed server session).db.roles) :
    .role (.put role) ∈ session.writes ∨ role ∈ server.db.roles := by
  have seen : role ∈ roleAccess.table (dialect.view server session) := mem
  rw [roleLawful.table_view] at seen
  exact (Table.mem_applyAll seen).imp roleLawful.mem_changes.mp And.left

theorem dept_origin (mem : dept ∈ (dialect.committed server session).db.depts) :
    .dept (.put dept) ∈ session.writes ∨ dept ∈ server.db.depts := by
  have seen : dept ∈ deptAccess.table (dialect.view server session) := mem
  rw [deptLawful.table_view] at seen
  exact (Table.mem_applyAll seen).imp deptLawful.mem_changes.mp And.left

/-- Tame writes keep every live membership. -/
theorem keepsMembers_of_tame (disciplined : Disciplined server session)
    (tame : ∀ write ∈ session.writes, Tame write) :
    KeepsMembers tenantID userID server.db (dialect.committed server session).db := by
  rintro id ⟨row, mem, rfl, live⟩
  obtain ⟨version, memVersion, sameID, rfl | ⟨put, evolves⟩⟩ :=
    membershipLawful.version_committed disciplined.memberships mem
      fun deleted => tame _ (membershipLawful.mem_changes.mp deleted)
  · exact ⟨version, memVersion, rfl, live⟩
  · refine ⟨version, memVersion, sameID, ?_⟩
    have stays : version.live = true := tame _ (membershipLawful.mem_changes.mp put)
    simp only [TenantMembership.isOf, Bool.and_eq_true, decide_eq_true_eq] at live ⊢
    rw [evolves.tenantID, evolves.userID]
    exact ⟨live.1, stays⟩

theorem commits_grounded (inv : (protocol tenantID userID).Inv server)
    (grounded : Grounded tenantID userID server session)
    (admits : (protocol tenantID userID).Admits .commit server session) :
    (protocol tenantID userID).Inv (dialect.committed server session) ∧
      (protocol tenantID userID).Guar session server (dialect.committed server session) ∧
      session.closed.Idle := by
  have keeps : KeepsMembers tenantID userID server.db (dialect.committed server session).db :=
    keepsMembers_of_tame admits.1 grounded.tame
  refine ⟨⟨fun role mem live => ?_, fun dept mem live => ?_⟩, .inr ⟨.inr keeps, ?_⟩,
    session.idle_closed⟩
  · rcases role_origin mem with put | old
    · exact grounded.roles role put live
    · exact keeps _ (inv.roles role old live)
  · rcases dept_origin mem with put | old
    · exact grounded.depts dept put live
    · exact keeps _ (inv.depts dept old live)
  · cases active : granting tenantID userID session with
    | true => exact .inl rfl
    | false =>
        refine .inr ⟨fun role mem live => ?_, fun dept mem live => ?_⟩
        · refine (role_origin mem).resolve_left fun put => ?_
          rw [granting_of_role put live] at active
          cases active
        · refine (dept_origin mem).resolve_left fun put => ?_
          rw [granting_of_dept put live] at active
          cases active

/-- A finished sweep leaves no grant that could lose its membership. -/
theorem commits_swept
    (swept : Sweeping tenantID userID (fun _ => False) (fun _ => False) server session) :
    (protocol tenantID userID).Inv (dialect.committed server session) ∧
      (protocol tenantID userID).Guar session server (dialect.committed server session) ∧
      session.closed.Idle :=
  ⟨⟨fun role mem live => (swept.roles role mem live).elim,
      fun dept mem live => (swept.depts dept mem live).elim⟩,
    .inr ⟨.inl swept.removing, .inr ⟨fun role mem live => (swept.roles role mem live).elim,
      fun dept mem live => (swept.depts dept mem live).elim⟩⟩, session.idle_closed⟩

end Commit

/-! ## Granting -/

section Granting

variable {σ α : Type}

/-- The statement ends no membership; if it writes one, it inserts it. -/
def Granter (tenantID userID : Uuid) (query : Query) : Prop :=
  .memberships ∉ query.writesTo ∨
    ∃ status, query = .membership (.insert tenantID userID status)

theorem membership_put_of_granter {query : Query} {context : Context} {result : query.Result}
    {writes : List Write} (granter : Granter tenantID userID query)
    (yields : (query.effect context db).Yields result writes)
    {change : Change TenantMembership Uuid} (mem : .membership change ∈ writes) :
    ∃ row, change = .put row ∧ row.live = true ∧ ∀ other ∈ db.memberships, other.id ≠ row.id := by
  rcases granter with untouched | ⟨status, rfl⟩
  · exact absurd (Query.table_mem_writesTo yields mem) untouched
  · cases membership_write yields mem with
    | insert unused => exact ⟨_, rfl, rfl, unused⟩

theorem liveMember_extended {server : DbServer} {session : DbSession} {query : Query}
    {context : Context} {result : query.Result} {locks : List (Lock LockKey)}
    {writes : List Write} {id : Uuid} (granter : Granter tenantID userID query)
    (yields : (query.effect context (dialect.view server session)).Yields result writes)
    (member : LiveMember tenantID userID id (dialect.view server session)) :
    LiveMember tenantID userID id
      (dialect.view server (session.extended query result locks writes)) := by
  obtain ⟨row, mem, rfl, live⟩ := member
  refine ⟨row, ?_, rfl, live⟩
  change row ∈ membershipAccess.table _
  rw [membershipLawful.table_extended]
  refine Table.mem_applyAll_of_untouched mem fun change memChange => ?_
  obtain ⟨new, rfl, _, unused⟩ :=
    membership_put_of_granter granter yields (membershipLawful.mem_filterMap.mp memChange)
  exact (unused row mem).symm

/-- What the condition on grants says about the named membership. -/
theorem liveMember_of_namesLive {membershipID : Uuid}
    (live : (db.memberships.find? membershipID).any TenantMembership.live = true)
    (parent : membershipExists db membershipID tenantID userID = true) :
    LiveMember tenantID userID membershipID db := by
  simp only [membershipExists, Option.any_eq_true] at live parent
  obtain ⟨row, found, live⟩ := live
  obtain ⟨other, found', ofUser⟩ := parent
  cases found.symm.trans found'
  obtain ⟨mem, sameID⟩ := Table.find?_eq_some.mp found
  exact ⟨row, mem, sameID, by simp_all [TenantMembership.isOf]⟩

/-- A statement that ends no membership keeps the session grounded, if what it
grants names a live membership. -/
theorem grounded_extended {server : DbServer} {session : DbSession} {query : Query}
    {context : Context} {result : query.Result} {writes : List Write}
    (granter : Granter tenantID userID query)
    (grounded : Grounded tenantID userID server session)
    (named : namesLive server session (.query query) = true)
    (evaluated : dialect.eval query context (dialect.view server session) = .ok (result, writes)) :
    Grounded tenantID userID server (session.extended query result
      (dialect.kept query context (dialect.view server session)) writes) where
  tame write mem := by
    rcases List.mem_append.mp mem with old | new
    · exact grounded.tame write old
    · cases write with
      | membership change =>
          obtain ⟨row, rfl, live, _⟩ := membership_put_of_granter granter evaluated new
          exact live
      | _ => trivial
  roles role mem live := by
    apply liveMember_extended granter evaluated
    rcases List.mem_append.mp mem with old | new
    · exact grounded.roles role old live
    · cases role_write evaluated new with
      | insert _ _ parent =>
          obtain ⟨⟨rfl, rfl⟩, _⟩ := RoleFilter.selects_user.mp live
          exact liveMember_of_namesLive named parent
      | softDelete => simp [RoleFilter.selects_user] at live
  depts dept mem live := by
    apply liveMember_extended granter evaluated
    rcases List.mem_append.mp mem with old | new
    · exact grounded.depts dept old live
    · cases dept_write evaluated new with
      | insert _ parent =>
          obtain ⟨⟨rfl, rfl⟩, _⟩ := DeptFilter.selects_user.mp live
          exact liveMember_of_namesLive named parent
      | softDelete => simp [DeptFilter.selects_user] at live

/-- Code that ends no membership stays grounded. -/
theorem within_grounded (issues : Fallible.Issues (Only (Granter tenantID userID)) body) :
    Within (protocol tenantID userID) (Grounded tenantID userID) body
      (fun _ => Grounded tenantID userID) :=
  within_only lenient stable_grounded
    (fun _ granter _ _ _ _ _ _ grounded admits evaluated =>
      grounded_extended granter grounded admits.2 evaluated) issues

theorem grounded_of_unwritten {server : DbServer} {session : DbSession}
    (unwritten : session.writes = []) : Grounded tenantID userID server session := by
  constructor <;> simp [unwritten]

/-- What a transaction is committed with. -/
def Ready (tenantID userID : Uuid) (server : DbServer) (session : DbSession) : Prop :=
  Grounded tenantID userID server session ∨
    Sweeping tenantID userID (fun _ => False) (fun _ => False) server session

theorem stable_ready : (protocol tenantID userID).Stable (Ready tenantID userID) := by
  intro before after session inv inv' rely ready
  exact ready.imp (stable_grounded before after session inv inv' rely)
    (stable_sweeping _ _ before after session inv inv' rely)

/-- A transaction whose body gets ready keeps the protocol. -/
theorem idles_ready (runs : Within (protocol tenantID userID) (fun _ session => session.Blank) body
      (fun _ => Ready tenantID userID)) :
    Idles (protocol tenantID userID) (transaction .pg body) := by
  refine attempt_idle_transaction lenient (fun _ => stable_ready) runs ?_
  intro value server session inv ready admits
  rcases ready with grounded | swept
  · exact commits_grounded inv grounded admits
  · exact commits_swept swept

/-- A transaction that ends no membership keeps the protocol. -/
theorem idles_granter (issues : Fallible.Issues (Only (Granter tenantID userID)) body) :
    Idles (protocol tenantID userID) (transaction .pg body) :=
  idles_ready (Within.weaken (within_grounded issues)
    (fun _ _ _ blank => grounded_of_unwritten blank.unwritten)
    fun _ _ _ _ grounded => .inl grounded)

end Granting

/-! ## Removing -/

section Removing

variable {σ α : Type}

theorem removing_extended {session : DbSession} {query : Query} {result : query.Result}
    {locks : List (Lock LockKey)} {writes : List Write}
    (active : removing tenantID userID session = true) :
    removing tenantID userID (session.extended query result locks writes) = true := by
  simp only [removing, Bool.and_eq_true] at active ⊢
  exact ⟨active.1, scanned_issued active.2⟩

section Extended

variable {server : DbServer} {session : DbSession} {query : Query} {context : Context}
  {result : query.Result} {locks : List (Lock LockKey)} {writes : List Write}

theorem mem_roles_of_extended (untouched : .roles ∉ query.writesTo)
    (yields : (query.effect context (dialect.view server session)).Yields result writes)
    (mem : role ∈ (dialect.view server (session.extended query result locks writes)).roles) :
    role ∈ (dialect.view server session).roles := by
  change role ∈ roleAccess.table _ at mem
  rw [roleLawful.table_extended] at mem
  rcases Table.mem_applyAll mem with put | ⟨old, _⟩
  · exact absurd (Query.table_mem_writesTo yields (roleLawful.mem_filterMap.mp put)) untouched
  · exact old

theorem mem_depts_of_extended (untouched : .depts ∉ query.writesTo)
    (yields : (query.effect context (dialect.view server session)).Yields result writes)
    (mem : dept ∈ (dialect.view server (session.extended query result locks writes)).depts) :
    dept ∈ (dialect.view server session).depts := by
  change dept ∈ deptAccess.table _ at mem
  rw [deptLawful.table_extended] at mem
  rcases Table.mem_applyAll mem with put | ⟨old, _⟩
  · exact absurd (Query.table_mem_writesTo yields (deptLawful.mem_filterMap.mp put)) untouched
  · exact old

end Extended

/-- The statement writes no grant. -/
def Bystander (query : Query) : Prop :=
  .roles ∉ query.writesTo ∧ .depts ∉ query.writesTo

theorem within_bystander {deptLeft : Uuid → Prop} (issues : Fallible.Issues (Only Bystander) body) :
    Within (protocol tenantID userID) (Sweeping tenantID userID roleLeft deptLeft) body
      (fun _ => Sweeping tenantID userID roleLeft deptLeft) := by
  refine within_only lenient (stable_sweeping _ _) ?_ issues
  intro query bystander server session fresh result writes _ sweeping _ evaluated
  refine ⟨removing_extended sweeping.removing, fun role mem live => ?_, fun dept mem live => ?_⟩
  · exact sweeping.roles role (mem_roles_of_extended bystander.1 evaluated mem) live
  · exact sweeping.depts dept (mem_depts_of_extended bystander.2 evaluated mem) live

/-- The scan finds every role there is to revoke. -/
theorem within_scanRoles :
    Within (protocol tenantID userID) (fun _ session => session.inTx = true)
      (roleQuery (.scan (.user tenantID userID)) : DbM σ _)
      (fun ids => Sweeping tenantID userID (· ∈ ids) fun _ => True) := by
  refine within_read lenient (Protocol.stable_local _) (fun _ _ => rfl) ?_
  intro server session fresh _ inside _
  refine ⟨by simp [removing, scanned, Session.extended, inside], fun role mem live => ?_,
    fun _ _ _ => trivial⟩
  rw [Dialect.view_extended_nil] at mem
  exact List.mem_map_of_mem (Table.mem_select.mpr ⟨mem, live⟩)

theorem within_revokeRole {deptLeft : Uuid → Prop} (id : Uuid) (ids : List Uuid) :
    Within (protocol tenantID userID)
      (Sweeping tenantID userID (· ∈ id :: ids) deptLeft)
      (roleQuery (.softDelete (.user tenantID userID) id) : DbM σ _)
      (fun _ => Sweeping tenantID userID (· ∈ ids) deptLeft) := by
  refine within_send lenient (stable_sweeping _ _) ?_
  intro server session fresh result writes _ sweeping _ evaluated
  refine ⟨removing_extended sweeping.removing, fun role mem live => ?_, fun dept mem live => ?_⟩
  · change role ∈ roleAccess.table _ at mem
    rw [roleLawful.table_extended] at mem
    obtain ⟨old, apart⟩ := roleLawful.mem_of_updateRow evaluated (fun row updated ended => by
      cases ended
      exact ⟨TenantRole.revoked_id _ _, by simp [RoleFilter.selects]⟩) mem live
    exact (List.mem_cons.mp (sweeping.roles role old live)).resolve_left apart
  · exact sweeping.depts dept (mem_depts_of_extended (by simp) evaluated mem) live

theorem within_scanDepts :
    Within (protocol tenantID userID)
      (Sweeping tenantID userID roleLeft fun _ => True)
      (deptQuery (.scan (.user tenantID userID)) : DbM σ _)
      (fun ids => Sweeping tenantID userID roleLeft (· ∈ ids)) := by
  refine within_read lenient (stable_sweeping _ _) (fun _ _ => rfl) ?_
  intro server session fresh _ sweeping _
  refine ⟨removing_extended sweeping.removing, fun role mem live => ?_, fun dept mem live => ?_⟩
  · rw [Dialect.view_extended_nil] at mem
    exact sweeping.roles role mem live
  · rw [Dialect.view_extended_nil] at mem
    exact List.mem_map_of_mem (Table.mem_select.mpr ⟨mem, live⟩)

theorem within_revokeDept (id : Uuid) (ids : List Uuid) :
    Within (protocol tenantID userID)
      (Sweeping tenantID userID roleLeft (· ∈ id :: ids))
      (deptQuery (.softDelete (.user tenantID userID) id) : DbM σ _)
      (fun _ => Sweeping tenantID userID roleLeft (· ∈ ids)) := by
  refine within_send lenient (stable_sweeping _ _) ?_
  intro server session fresh result writes _ sweeping _ evaluated
  refine ⟨removing_extended sweeping.removing, fun role mem live => ?_, fun dept mem live => ?_⟩
  · exact sweeping.roles role (mem_roles_of_extended (by simp) evaluated mem) live
  · change dept ∈ deptAccess.table _ at mem
    rw [deptLawful.table_extended] at mem
    obtain ⟨old, apart⟩ := deptLawful.mem_of_updateRow evaluated (fun row updated ended => by
      cases ended
      exact ⟨DeptMembership.revoked_id _ _, by simp [DeptFilter.selects]⟩) mem live
    exact (List.mem_cons.mp (sweeping.depts dept old live)).resolve_left apart

theorem issues_enqueue {event : DomainEvent} :
    Fallible.Issues (Only Bystander) (enqueue event : DbM σ _) :=
  issues_send ⟨by simp, by simp⟩

/-- The cascade revokes everything the user holds before it ends the
membership. -/
theorem within_cascadeRemoval {actors : RemovalActors} {version : Int} :
    Within (protocol tenantID userID) (fun _ session => session.inTx = true)
      (cascadeRemoval tenantID userID actors version : DbM σ _)
      (fun _ => Sweeping tenantID userID (fun _ => False) fun _ => False) := by
  have revokeRoles : Within (protocol tenantID userID)
      (fun _ session => session.inTx = true)
      (TenantRoleRepository.softDeleteAllForUser tenantID userID : DbM σ _)
      (fun _ => Sweeping tenantID userID (· ∈ []) fun _ => True) :=
    Attempt.bind within_scanRoles fun ids => attempt_visitEach
      (fun left => Sweeping tenantID userID (· ∈ left) fun _ => True) within_revokeRole ids
  have revokeDepts : Within (protocol tenantID userID)
      (Sweeping tenantID userID (· ∈ []) fun _ => True)
      (DeptMembershipRepository.softDeleteAllForUser tenantID userID : DbM σ _)
      (fun _ => Sweeping tenantID userID (· ∈ []) (· ∈ [])) :=
    Attempt.bind within_scanDepts fun ids => attempt_visitEach
      (fun left => Sweeping tenantID userID (· ∈ []) (· ∈ left)) within_revokeDept ids
  refine Attempt.bind revokeRoles fun roles => ?_
  refine Attempt.bind (within_bystander (Fallible.Issues.forM fun _ _ => issues_enqueue))
    fun _ => ?_
  refine Attempt.bind revokeDepts fun depts => ?_
  refine Attempt.bind (within_bystander (Fallible.Issues.forM fun _ _ => issues_enqueue))
    fun _ => ?_
  refine Attempt.bind (within_bystander issues_enqueue) fun _ => ?_
  refine Attempt.relax (within_bystander (MembershipRepository.issues_softDelete
    ⟨by simp, by simp⟩ (fun _ => ⟨by simp, by simp⟩) ⟨by simp, by simp⟩)) fun _ _ _ _ swept => ?_
  exact ⟨swept.removing, fun role mem live => absurd (swept.roles role mem live) List.not_mem_nil,
    fun dept mem live => absurd (swept.depts dept mem live) List.not_mem_nil⟩

theorem within_removeUserTx {actorID : Uuid} :
    Within (protocol tenantID userID) (fun _ session => session.Blank)
      (removeUserTx tenantID userID actorID : DbM σ _) (fun _ => Ready tenantID userID) := by
  refine Attempt.bind (Attempt.strengthen (within_reading lenient
    (TenantRepository.issues_lockByID (confined_of_reads rfl)))
    fun _ _ _ => reading_of_blank) fun _ => ?_
  refine Attempt.bind (within_reading lenient
    (MembershipRepository.issues_findByUserID (confined_of_reads rfl))) fun membership => ?_
  refine Attempt.bind (within_reading lenient (issues_send (confined_of_reads rfl)))
    fun roles => ?_
  refine Attempt.bind (within_reading lenient (issues_guardOwnerRemoval (confined_of_reads rfl)))
    fun _ => ?_
  exact Within.weaken within_cascadeRemoval (fun _ _ _ reading => reading.inside)
    fun _ _ _ _ swept => .inr swept

theorem within_deleteMemberTx :
    Within (protocol tenantID userID) (fun _ session => session.Blank)
      (deleteMemberTx tenantID userID : DbM σ _) (fun _ => Ready tenantID userID) := by
  refine Attempt.bind (Attempt.strengthen (Attempt.observe (attempt_reading lenient
    (MembershipRepository.issues_findByUserID (confined_of_reads rfl))))
    fun _ _ _ => reading_of_blank) fun found => ?_
  cases found with
  | error failure =>
      dsimp only
      split
      · exact Attempt.pure fun _ _ _ reading => .inl (grounded_of_unwritten reading.unwritten)
      · exact within_throw
  | ok membership =>
      refine Attempt.bind (within_reading lenient (issues_send (confined_of_reads rfl)))
        fun roles => ?_
      refine Attempt.bind (Attempt.strengthen within_cascadeRemoval
        fun _ _ _ reading => reading.inside) fun _ => ?_
      exact Attempt.relax (within_bystander (issues_escalateOwnerless
        ⟨by simp, by simp⟩ ⟨by simp, by simp⟩)) fun _ _ _ _ swept => .inr swept

end Removing

/-! ## The calls -/

section Calls

variable {σ α : Type}

theorem granter_of_off {query : Query} (off : query.writesTo ⊆ [.depts, .roles, .outbox]) :
    Granter tenantID userID query :=
  .inl fun mem => by simpa using off mem

theorem assignAllowed : AssignAllowed (Granter tenantID userID) tenantID userID where
  lockAssign _ := .inl (by simp)
  scan _ := .inl (by simp)
  lock _ _ := .inl (by simp)
  revoke _ := .inl (by simp)
  insert _ _ _ _ := .inl (by simp)
  find _ := .inl (by simp)
  publish _ _ := .inl (by simp)

theorem grantAllowed : GrantAllowed (Granter tenantID userID) tenantID userID where
  insert _ _ _ := .inl (by simp)
  find _ := .inl (by simp)
  publish _ _ := .inl (by simp)

theorem issues_reconcileTx {membershipID actorID : Uuid} {strippingOwner : Bool}
    {grants revokes : List TenantRoleCode} :
    Fallible.Issues (Only (Granter tenantID userID))
      (reconcileTx tenantID userID membershipID actorID strippingOwner grants revokes) := by
  refine (issues_guardStripping (.inl (by simp)) (.inl (by simp))).bind fun _ => ?_
  refine (Fallible.Issues.forM fun _ _ => issues_grantRole (.inl (by simp)) (.inl (by simp))
    fun _ _ => .inl (by simp)).bind fun _ => ?_
  exact Fallible.Issues.forM fun _ _ => issues_revokeRole (.inl (by simp))
    (fun _ => .inl (by simp)) fun _ _ => .inl (by simp)

end Calls

/-! ## Every run -/

theorem verified :
    Verified server (protocol tenantID userID) (code tenantID userID) (fun _ => True)
      fun _ _ _ session => session.Idle where
  triple call _ := by
    cases call with
    | removeUser actorID workflow =>
        exact triple_of_idles (idles_removeUser (idles_ready within_removeUserTx))
    | deleteMember =>
        exact triple_of_idles (Idles.drop (idles_runInTx (idles_ready within_deleteMemberTx)))
    | reconcileRoles desired actorID isServiceAccount grantOrder revokeOrder =>
        exact triple_of_idles (idles_reconcileRoles lenient fun _ _ _ _ _ =>
          idles_granter issues_reconcileTx).drop
    | assign departmentID level actorID answers =>
        exact triple_of_idles (idles_assign lenient fun _ =>
          idles_granter (issues_assignTx assignAllowed)).drop
    | assignFromGroups groups mappings order =>
        exact triple_of_idles (idles_assignFromGroups lenient fun _ _ _ =>
          idles_granter (issues_assignFromGroupsTx assignAllowed grantAllowed
            (.inl (by simp)))).drop
    | addFromRegister keycloakUserID email isServiceAccount =>
        exact triple_of_idles (idles_addFromRegister lenient
          (idles_granter (issues_addFromRegisterTx (registerAllowed
            (fun _ => granter_of_off) (.inr ⟨_, rfl⟩) fun _ _ => .inl (by simp)))) fun _ =>
            idles_granter (issues_send (.inl (by simp)))).drop
  settled _ _ := fun _ _ _ _ _ _ holds => holds
  drift _ _ inv := ⟨inv, rfl⟩

section Run

variable {start : DbServer} {config : DbConfig Call (Except Failure Unit)}

/-- Whoever inserts a grant shares the tenants row until the transaction ends. -/
theorem locks_of_granting {permits : DbConfig Call (Except Failure Unit) →
    Action Call (Chance PgError) Nat → Prop}
    (reaches : server.Reaches (code tenantID userID) permits (Config.initial start) config) :
    ∀ process ∈ config.processes, granting tenantID userID process.loc = true →
      ⟨.tenant tenantID, .keyShare⟩ ∈ process.loc.locks := by
  refine (Dialect.each_of_reaches (fun _ => True)
    (fun _ session => granting tenantID userID session = true →
      ⟨.tenant tenantID, .keyShare⟩ ∈ session.locks) reaches trivial ?_ ?_ ?_ ?_ ?_).2
  · intro server session _ blank active
    simp [granting, blank] at active
  · intro server session query context result writes shares evaluated active
    obtain ⟨write, mem, grant⟩ := List.any_eq_true.mp active
    rcases List.mem_append.mp mem with old | new
    · exact List.mem_append_left _ (shares (List.any_eq_true.mpr ⟨write, old, grant⟩))
    · apply List.mem_append_right
      cases write with
      | role change =>
          cases role_write evaluated new with
          | insert =>
              obtain ⟨⟨rfl, _⟩, _⟩ := RoleFilter.selects_user.mp grant
              exact Access.parent_of_insertRow evaluated new List.mem_cons_self
          | softDelete => simp [grants, RoleFilter.selects_user] at grant
          | delete => cases grant
          | cascade => cases grant
      | dept change =>
          cases dept_write evaluated new with
          | insert =>
              have inEnum := DeptQuery.inEnum_of_yields_insert evaluated
              obtain ⟨⟨rfl, _⟩, _⟩ := DeptFilter.selects_user.mp grant
              simp only [dialect, Dialect.ofEffects, Query.effect, DeptQuery.effect_insert inEnum]
                at evaluated ⊢
              exact Access.parent_of_insertRow evaluated new List.mem_cons_self
          | softDelete => simp [grants, DeptFilter.selects_user] at grant
          | delete => cases grant
          | cascade => cases grant
      | _ => cases grant
  · exact fun _ _ _ _ => trivial
  · exact fun _ _ _ _ _ shares => shares
  · exact fun _ _ _ shares => shares

/-- A removal and a grant do not run side by side: the tenant lock keeps them
apart, or the condition on the run does. -/
theorem apart_of_not_overlaps {remover granter : DbSession}
    (apart : overlaps tenantID userID remover granter = false)
    (compatible : Compatible remover.locks granter.locks)
    (shares : granting tenantID userID granter = true →
      ⟨.tenant tenantID, .keyShare⟩ ∈ granter.locks)
    (active : removing tenantID userID remover = true) :
    granting tenantID userID granter = false := by
  cases grants : granting tenantID userID granter with
  | false => rfl
  | true =>
      by_cases locked : TenantLocked tenantID remover
      · exact absurd rfl (compatible.key_ne locked (shares grants))
      · simp [overlaps, active, grants, locked] at apart

theorem enforces :
    Enforces server (protocol tenantID userID) (code tenantID userID) (fun _ => True)
      (fun config action => runs tenantID userID config action = true) (Config.initial start) where
  admits _ _ _ := trivial
  executes config index choice config' call session statement next reaches permitted executes := by
    have condition := executes_of_allows permitted executes.current
    rw [Bool.and_eq_true] at condition
    obtain ⟨disciplined, others⟩ := facts_of_executes reaches executes
    have shares := locks_of_granting reaches
    refine ⟨⟨disciplined, condition.1⟩, fun position other apart found _ => ?_⟩
    have remaining : other ∈ config.processes.eraseIdx index :=
      List.mem_eraseIdx_iff_getElem?.mpr ⟨position, apart, found⟩
    have separate := List.all_eq_true.mp condition.2 other remaining
    simp only [Bool.and_eq_true, Bool.not_eq_true'] at separate
    have compatible := (others position other apart found).1
    exact ⟨apart_of_not_overlaps separate.1 compatible (shares other (List.mem_of_getElem? found)),
      apart_of_not_overlaps separate.2 compatible.symm
        (shares _ (List.mem_of_getElem? executes.current))⟩

/-- In every run in which grants name live memberships when they are inserted and
no removal outside the tenant lock overlaps an uncommitted grant, every live
grant of the user names a live membership; and once the user is no member, no
grant of theirs is left. -/
theorem backed_of_reaches (backed : Backed tenantID userID start.db)
    (reaches : server.Reaches (code tenantID userID)
      (fun config action => runs tenantID userID config action = true)
      (Config.initial start) config) :
    Backed tenantID userID config.shared.db ∧
      ((∀ row ∈ config.shared.db.memberships, row.isOf tenantID userID = false) →
        Ungranted tenantID userID config.shared.db) := by
  have inv : Backed tenantID userID config.shared.db := reaches.inv verified enforces backed
  exact ⟨inv, inv.ungranted⟩

/-- A member, the user 102, of a tenant that the user 101 owns. -/
def oneMember : Db :=
  { Db.empty with
    tenants := .singleton trialRow
    memberships := twoMembers
    roles := .singleton (newRole ⟨0, 0, 21⟩ 1 101 11 .tenantOwner 101) }

theorem oneMember_backed : Backed 1 102 oneMember where
  roles role mem live := by
    cases List.mem_singleton.mp mem
    cases live
  depts dept mem := absurd mem (Table.not_mem_empty dept)

/-- Go through the codes as they are declared. -/
def codeOrder : MapOrder :=
  .declared

/-- The user becomes an administrator and is then removed. -/
theorem backed_after_removal :
    ∃ config, server.Reaches (code 1 102) (fun config action => runs 1 102 config action = true)
        (Config.initial ⟨oneMember, 0⟩) config ∧
      (config.shared.db.roles.rows.any fun role => role.userID = 102) = true ∧
      Ungranted 1 102 config.shared.db := by
  obtain ⟨config, reaches, passed⟩ := server.exists_reaches_of_run (code 1 102)
    (fun config action => runs 1 102 config action = true)
    ([.start (.reconcileRoles [.tenantAdmin] 101 false codeOrder codeOrder),
        .start (.removeUser 101 .unwired)] ++
      List.replicate 10 (.step 0 (.proceed 100)) ++ List.replicate 12 (.step 1 (.proceed 101)))
    (Config.initial ⟨oneMember, 0⟩)
    (fun config => (config.shared.db.roles.rows.any fun role => role.userID = 102) &&
      config.shared.db.memberships.rows.all fun row => !row.isOf 1 102) (by decide +kernel)
  rw [Bool.and_eq_true] at passed
  refine ⟨config, reaches, passed.1, (backed_of_reaches oneMember_backed reaches).2 ?_⟩
  exact fun row mem => by simpa using List.all_eq_true.mp passed.2 row mem

/-- The removal falls between P-28's reads and its transaction: the new role names
the ended membership. -/
theorem exists_dangling_grant :
    Backed 1 102 oneMember ∧
      ∃ config, server.Reaches (code 1 102) (fun _ _ => True) (Config.initial ⟨oneMember, 0⟩)
        config ∧ ¬Backed 1 102 config.shared.db := by
  refine ⟨oneMember_backed, ?_⟩
  obtain ⟨config, reaches, passed⟩ := server.exists_reaches_of_run (code 1 102) (fun _ _ => True)
    ([.start (.reconcileRoles [.tenantAdmin] 101 false codeOrder codeOrder),
        .start (.removeUser 101 .unwired)] ++
      List.replicate 6 (.step 0 (.proceed 100)) ++ List.replicate 10 (.step 1 (.proceed 101)) ++
      List.replicate 4 (.step 0 (.proceed 102)))
    (Config.initial ⟨oneMember, 0⟩)
    (fun config =>
      (config.shared.db.roles.rows.any fun role => RoleFilter.selects role (.user 1 102)) &&
        config.shared.db.memberships.rows.all fun row => !row.isOf 1 102) (by decide +kernel)
  rw [Bool.and_eq_true] at passed
  obtain ⟨role, mem, live⟩ := List.any_eq_true.mp passed.1
  refine ⟨config, reaches, fun backed => ?_⟩
  obtain ⟨row, memRow, _, member⟩ := backed.roles role mem live
  have gone := List.all_eq_true.mp passed.2 row memRow
  simp [member] at gone

end Run

end Grants

end OrgMembership

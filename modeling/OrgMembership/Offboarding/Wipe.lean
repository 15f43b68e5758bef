import OrgMembership.Service.Projecting

/-!
# The wipe of a tenant

`WipeTenantChildren` visits the six tables of its list one after the other and deletes the rows
of the tenant that it finds there.  While nobody adds rows to these tables, no row of the tenant
is left.
-/

namespace OrgMembership

open Concurrency Relational

/-- `gdprWipeTables`. -/
def gdprWipeTables : List TableName :=
  [.invitations, .depts, .roles, .memberships, .labels, .tenantDepts]

/-- The rows of these tables. -/
def Db.children (db : Db) :=
  (db.invitations, db.depts, db.roles, db.memberships, db.labels, db.tenantDepts)

/-- None of these tables has a row of the tenant. -/
structure Childless (tenantID : Uuid) (db : Db) : Prop where
  invitations : ∀ row ∈ db.invitations, row.tenantID ≠ tenantID
  depts : ∀ row ∈ db.depts, row.tenantID ≠ tenantID
  roles : ∀ row ∈ db.roles, row.tenantID ≠ tenantID
  memberships : ∀ row ∈ db.memberships, row.tenantID ≠ tenantID
  labels : ∀ row ∈ db.labels, row.tenantID ≠ tenantID
  tenantDepts : ∀ row ∈ db.tenantDepts, row.tenantID ≠ tenantID

/-- These tables have no row that they did not have before. -/
structure Shrinks (before after : Db) : Prop where
  invitations : ∀ row ∈ after.invitations, row ∈ before.invitations
  depts : ∀ row ∈ after.depts, row ∈ before.depts
  roles : ∀ row ∈ after.roles, row ∈ before.roles
  memberships : ∀ row ∈ after.memberships, row ∈ before.memberships
  labels : ∀ row ∈ after.labels, row ∈ before.labels
  tenantDepts : ∀ row ∈ after.tenantDepts, row ∈ before.tenantDepts

/-- The write puts a row into one of these tables. -/
def Write.adds : Write → Bool
  | .invitation (.put _) | .dept (.put _) | .role (.put _) | .membership (.put _)
  | .label (.put _) | .tenantDept (.put _) => true
  | _ => false

variable {before after db : Db} {tenantID : Uuid} {writes : List Write} {write : Write}

theorem Shrinks.refl (db : Db) : Shrinks db db :=
  ⟨fun _ mem => mem, fun _ mem => mem, fun _ mem => mem, fun _ mem => mem, fun _ mem => mem,
    fun _ mem => mem⟩

theorem Shrinks.trans {middle : Db} (first : Shrinks before middle)
    (second : Shrinks middle after) : Shrinks before after where
  invitations row mem := first.invitations row (second.invitations row mem)
  depts row mem := first.depts row (second.depts row mem)
  roles row mem := first.roles row (second.roles row mem)
  memberships row mem := first.memberships row (second.memberships row mem)
  labels row mem := first.labels row (second.labels row mem)
  tenantDepts row mem := first.tenantDepts row (second.tenantDepts row mem)

theorem Shrinks.of_children (same : after.children = before.children) : Shrinks before after := by
  simp only [Db.children, Prod.mk.injEq] at same
  obtain ⟨invitations, depts, roles, memberships, labels, tenantDepts⟩ := same
  exact ⟨by rw [invitations]; simp, by rw [depts]; simp, by rw [roles]; simp,
    by rw [memberships]; simp, by rw [labels]; simp, by rw [tenantDepts]; simp⟩

theorem Childless.shrunk (childless : Childless tenantID before)
    (shrinks : Shrinks before after) : Childless tenantID after where
  invitations row mem := childless.invitations row (shrinks.invitations row mem)
  depts row mem := childless.depts row (shrinks.depts row mem)
  roles row mem := childless.roles row (shrinks.roles row mem)
  memberships row mem := childless.memberships row (shrinks.memberships row mem)
  labels row mem := childless.labels row (shrinks.labels row mem)
  tenantDepts row mem := childless.tenantDepts row (shrinks.tenantDepts row mem)

theorem shrinks_write (unadding : write.adds = false) : Shrinks db (write.apply db) := by
  have kept := Shrinks.refl db
  cases write with
  | invitation change =>
      cases change with
      | put => cases unadding
      | delete => exact { kept with invitations := fun _ mem => (Table.mem_erase.mp mem).1 }
  | dept change =>
      cases change with
      | put => cases unadding
      | delete => exact { kept with depts := fun _ mem => (Table.mem_erase.mp mem).1 }
  | role change =>
      cases change with
      | put => cases unadding
      | delete => exact { kept with roles := fun _ mem => (Table.mem_erase.mp mem).1 }
  | membership change =>
      cases change with
      | put => cases unadding
      | delete => exact { kept with memberships := fun _ mem => (Table.mem_erase.mp mem).1 }
  | label change =>
      cases change with
      | put => cases unadding
      | delete => exact { kept with labels := fun _ mem => (Table.mem_erase.mp mem).1 }
  | tenantDept change =>
      cases change with
      | put => cases unadding
      | delete => exact { kept with tenantDepts := fun _ mem => (Table.mem_erase.mp mem).1 }
  | tenant | ledger | processed | parked | publish | settle | realm => exact { kept with }

theorem shrinks_applyAll (unadding : ∀ write ∈ writes, write.adds = false) :
    Shrinks db (dialect.applyAll writes db) := by
  induction writes generalizing db with
  | nil => exact .refl db
  | cons write writes ih =>
      rw [Dialect.applyAll_cons]
      exact (shrinks_write (unadding write List.mem_cons_self)).trans
        (ih fun other mem => unadding other (List.mem_cons_of_mem _ mem))

/-- The same change keeps what one table has of the other. -/
theorem mem_apply_of_subset {Row Key : Type} [DecidableEq Key] {key : Row → Key}
    {first second : Table key} (subset : ∀ row ∈ second, row ∈ first)
    (change : Change Row Key) : ∀ row ∈ second.apply change, row ∈ first.apply change := by
  intro row mem
  rcases Table.mem_apply.mp mem with put | ⟨old, apart⟩
  · exact Table.mem_apply.mpr (.inl put)
  · exact Table.mem_apply.mpr (.inr ⟨subset row old, apart⟩)

theorem Shrinks.apply (shrinks : Shrinks before after) (write : Write) :
    Shrinks (write.apply before) (write.apply after) := by
  cases write with
  | invitation change =>
      exact { shrinks with invitations := mem_apply_of_subset shrinks.invitations change }
  | dept change => exact { shrinks with depts := mem_apply_of_subset shrinks.depts change }
  | role change => exact { shrinks with roles := mem_apply_of_subset shrinks.roles change }
  | membership change =>
      exact { shrinks with memberships := mem_apply_of_subset shrinks.memberships change }
  | label change => exact { shrinks with labels := mem_apply_of_subset shrinks.labels change }
  | tenantDept change =>
      exact { shrinks with tenantDepts := mem_apply_of_subset shrinks.tenantDepts change }
  | tenant | ledger | processed | parked | publish | settle | realm => exact { shrinks with }

/-- A session sees no row that it did not see, if none is committed. -/
theorem Shrinks.view {server server' : DbServer} (shrinks : Shrinks server.db server'.db)
    (session : DbSession) :
    Shrinks (dialect.view server session) (dialect.view server' session) := by
  have along : ∀ (writes : List Write) {before after : Db}, Shrinks before after →
      Shrinks (dialect.applyAll writes before) (dialect.applyAll writes after) := by
    intro writes
    induction writes with
    | nil => exact fun shrinks => shrinks
    | cons write writes ih => exact fun shrinks => ih (shrinks.apply write)
  exact along session.writes shrinks

/-- A session that writes to none of these tables sees them as they are committed. -/
theorem children_view {server : DbServer} {session : DbSession}
    (aside : ∀ write ∈ session.writes, write.table ∉ gdprWipeTables) :
    (dialect.view server session).children = server.db.children := by
  have along : ∀ (writes : List Write) (db : Db),
      (∀ write ∈ writes, write.table ∉ gdprWipeTables) →
      (dialect.applyAll writes db).children = db.children := by
    intro writes
    induction writes with
    | nil => exact fun _ _ => rfl
    | cons write writes ih =>
        intro db aside
        rw [Dialect.applyAll_cons, ih _ fun other mem => aside other (List.mem_cons_of_mem _ mem)]
        have off := aside write List.mem_cons_self
        cases write with
        | invitation | dept | role | membership | label | tenantDept =>
            exact absurd (by simp [Write.table, gdprWipeTables]) off
        | tenant | ledger | processed | parked | publish | settle | realm => rfl
  exact along session.writes server.db aside

theorem adds_of_aside (aside : write.table ∉ gdprWipeTables) : write.adds = false := by
  cases write with
  | invitation | dept | role | membership | label | tenantDept =>
      exact absurd (by simp [Write.table, gdprWipeTables]) aside
  | tenant | ledger | processed | parked | publish | settle | realm => rfl

/-! ## One table -/

section Table

variable {Row Id : Type} [DecidableEq Id] {access : Access Db Write LockKey Row Id}
  {about : Row → Bool} {ids done : List Id} {id : Id}

/-- The rows to delete are among those that the scan found, and some of these are gone. -/
def Among (access : Access Db Write LockKey Row Id) (about : Row → Bool) (ids done : List Id)
    (db : Db) : Prop :=
  ∀ row ∈ access.table db, about row = true → access.key row ∈ ids ∧ access.key row ∉ done

omit [DecidableEq Id] in
theorem among_of_scan (yields : (access.scan db about : DbEffect _).Yields ids writes) :
    Among access about ids [] db := by
  obtain ⟨rfl, _⟩ := Effect.yields_read.mp yields
  exact fun row mem found =>
    ⟨List.mem_map.mpr ⟨row, Table.mem_select.mpr ⟨mem, found⟩, rfl⟩, List.not_mem_nil⟩

theorem Among.deleted (among : Among access about ids done db)
    (erases : access.table ((access.change (.delete id)).apply db) = (access.table db).erase id)
    {refusal : Row → Option PgError} {result : Option Row}
    (yields : (access.deleteRow db id (fun _ => true) refusal).Yields result writes) :
    Among access about ids (done ++ [id]) (dialect.applyAll writes db) := by
  have old : ∀ row ∈ access.table (dialect.applyAll writes db),
      row ∈ access.table db ∧ access.key row ≠ id := by
    intro row mem
    rcases Access.deleteRow_cases yields with ⟨_, rfl, absent⟩ | ⟨_, _, _, _, _, _, rfl, _⟩
    · exact ⟨mem, fun same => Bool.false_ne_true (absent row mem same).symm⟩
    · change row ∈ access.table ((access.change (.delete id)).apply db) at mem
      rw [erases] at mem
      exact Table.mem_erase.mp mem
  intro row mem found
  obtain ⟨stood, apart⟩ := old row mem
  obtain ⟨listed, left⟩ := among row stood found
  refine ⟨listed, fun gone => ?_⟩
  rcases List.mem_append.mp gone with earlier | now
  · exact left earlier
  · exact apart (List.mem_singleton.mp now)

end Table

/-! ## The statements -/

/-- A fact of the rows that the deletion of rows keeps. -/
def Shrinking (kept : Db → Prop) : Prop :=
  ∀ before after, Shrinks before after → kept before → kept after

/-- Inside a wipe: the session adds no rows, and sees that those of some tables are gone. -/
structure During (holds : Assertion DbServer DbSession) (kept : Db → Prop) (server : DbServer)
    (session : DbSession) : Prop where
  holds : holds server session
  erasing : ∀ write ∈ session.writes, write.adds = false
  kept : kept (dialect.view server session)

variable {query : Query} {result : query.Result} {context : Context}

theorem adds_of_wipes (wipes : Wipes query)
    (yields : (query.effect context db).Yields result writes) (mem : write ∈ writes) :
    write.adds = false := by
  unfold Wipes at wipes
  split at wipes
  case h_13 => cases wipes
  all_goals first
    | (obtain ⟨_, deletes, _⟩ := Effect.yields_map.mp yields
       rw [Access.writes_of_deleteRow deletes mem]
       rfl)
    | (rw [Query.writes_eq_nil yields rfl] at mem
       cases mem)

section Statements

variable {σ : Type} {protocol : DbProtocol} {holds starting : Assertion DbServer DbSession}
  {kept : Db → Prop}

theorem During.extended {kept' : Db → Prop} {server : DbServer} {session : DbSession}
    {locks : List (Lock LockKey)} (during : During starting kept server session)
    (wipes : Wipes query)
    (yields : (query.effect context (dialect.view server session)).Yields result writes)
    (moved : holds server (session.extended query result locks writes))
    (left : kept' (dialect.applyAll writes (dialect.view server session))) :
    During holds kept' server (session.extended query result locks writes) where
  holds := moved
  erasing write mem := by
    rcases List.mem_append.mp mem with old | new
    · exact during.erasing write old
    · exact adds_of_wipes wipes yields new
  kept := by
    rw [Dialect.view_extended]
    exact left

/-- The statement takes a session from one place to another. -/
def Moves (query : Query) (starting holds : Assertion DbServer DbSession) : Prop :=
  ∀ server session context result locks writes, starting server session →
    (query.effect context (dialect.view server session)).Yields result writes →
      holds server (session.extended query result locks writes)

/-- What the wipe asks of a protocol, and of the place where a session wipes. -/
structure Wiping (protocol : DbProtocol) (holds : Assertion DbServer DbSession) : Prop where
  lenient : Lenient protocol
  stable : ∀ kept, Shrinking kept → protocol.Stable (During holds kept)
  keeps : ∀ query, Wipes query → Moves query holds holds

/-- A statement of the wipe. -/
theorem within_wiping {extra : query.Result → Db → Prop} (lenient : Lenient protocol)
    (wipes : Wipes query) (shrinking : Shrinking kept)
    (steady : protocol.Stable (During starting kept)) (moves : Moves query starting holds)
    (gains : ∀ context db result writes, kept db →
      (query.effect context db).Yields result writes → extra result (dialect.applyAll writes db)) :
    Within protocol (During starting kept) (send .pg query : DbM σ _)
      fun result => During holds fun db => kept db ∧ extra result db := by
  apply within_send lenient steady
  intro server session fresh result writes _ during _ yields
  refine during.extended wipes yields (moves _ _ _ _ _ _ during.holds yields) ⟨?_, ?_⟩
  · exact shrinking _ _ (shrinks_applyAll fun _ mem => adds_of_wipes wipes yields mem) during.kept
  · exact gains _ _ _ _ during.kept yields

section Table

variable {Row Id : Type} {access : Access Db Write LockKey Row Id} {about : Row → Bool}
  {ids done : List Id}

/-- The rows of one table are found. -/
theorem within_scanning {read : query.Result → List Id}
    (access : Access Db Write LockKey Row Id) (about : Row → Bool) (lenient : Lenient protocol)
    (wipes : Wipes query) (shrinking : Shrinking kept)
    (steady : protocol.Stable (During starting kept)) (moves : Moves query starting holds)
    (scans : ∀ context db result writes, (query.effect context db).Yields result writes →
      (access.scan db about : DbEffect _).Yields (read result) writes) :
    Within protocol (During starting kept) (send .pg query : DbM σ _)
      fun result => During holds fun db => kept db ∧ Among access about (read result) [] db := by
  refine within_wiping lenient wipes shrinking steady moves ?_
  intro context db result writes _ yields
  have scanned := scans context db result writes yields
  rw [(Effect.yields_read.mp scanned).2]
  exact among_of_scan scanned

variable [DecidableEq Id]

/-- A table of the wipe. -/
structure Child (access : Access Db Write LockKey Row Id) : Prop where
  subset : ∀ before after, Shrinks before after →
    ∀ row ∈ access.table after, row ∈ access.table before
  erases : ∀ id db,
    access.table ((access.change (.delete id)).apply db) = (access.table db).erase id

/-- One of the rows is deleted. -/
theorem Wiping.deleting {id : Id} (wiping : Wiping protocol holds) (child : Child access)
    (shrinking : Shrinking kept) (wipes : Wipes query)
    (deletes : ∀ context db result writes, (query.effect context db).Yields result writes →
      ∃ refusal row,
        (access.deleteRow db id (fun _ => true) refusal : DbEffect _).Yields row writes) :
    Within protocol (During holds fun db => kept db ∧ Among access about ids done db)
      (send .pg query : DbM σ _)
      fun _ => During holds fun db => kept db ∧ Among access about ids (done ++ [id]) db := by
  have shrunk : Shrinking fun db => kept db ∧ Among access about ids done db :=
    fun before after shrinks ⟨kept, among⟩ => ⟨shrinking before after shrinks kept,
      fun row mem => among row (child.subset before after shrinks row mem)⟩
  refine Attempt.relax (within_wiping wiping.lenient wipes shrunk (wiping.stable _ shrunk)
    (wiping.keeps query wipes) fun context db result writes ⟨_, among⟩ yields => ?_)
    fun _ _ _ _ during => { during with kept := ⟨during.kept.1.1, during.kept.2⟩ }
  obtain ⟨_, _, deleted⟩ := deletes context db result writes yields
  exact among.deleted (child.erases id db) deleted

/-- All of them are deleted, and the wipe goes on. -/
theorem within_clearing {delete : Id → DbM σ Unit} {rest : DbM σ Unit}
    {post : Unit → Assertion DbServer DbSession} (child : Child access)
    (shrinking : Shrinking kept)
    (deletes : ∀ done id,
      Within protocol (During holds fun db => kept db ∧ Among access about ids done db) (delete id)
        fun _ => During holds fun db => kept db ∧ Among access about ids (done ++ [id]) db)
    (goesOn : (Shrinking fun db => kept db ∧ ∀ row ∈ access.table db, about row = false) →
      Within protocol
        (During holds fun db => kept db ∧ ∀ row ∈ access.table db, about row = false) rest post) :
    Within protocol (During holds fun db => kept db ∧ Among access about ids [] db)
      (ids.forM delete >>= fun _ => rest) post := by
  have shrunk : Shrinking fun db => kept db ∧ ∀ row ∈ access.table db, about row = false :=
    fun before after shrinks ⟨kept, cleared⟩ => ⟨shrinking before after shrinks kept,
      fun row mem => cleared row (child.subset before after shrinks row mem)⟩
  refine Attempt.bind (Attempt.relax (Attempt.forM_along
    (fun done => During holds fun db => kept db ∧ Among access about ids done db)
    (fun done id _ => deletes done id) []) ?_) fun _ => goesOn shrunk
  intro _ server session _ during
  refine ⟨during.holds, during.erasing, during.kept.1, fun row mem => ?_⟩
  refine Bool.eq_false_iff.mpr fun found => ?_
  obtain ⟨listed, left⟩ := during.kept.2 row mem found
  exact left listed

end Table

/-- The wipe leaves no row of the tenant. -/
theorem within_wipe (wiping : Wiping protocol holds) (shrinking : Shrinking kept)
    (steady : protocol.Stable (During starting kept))
    (starts : Moves (.invitation (.scanTenant tenantID)) starting holds) :
    Within protocol (During starting kept)
      (TenantRepository.wipeTenantChildren tenantID : DbM σ _)
      fun _ => During holds fun db => kept db ∧ Childless tenantID db := by
  have deleted : ∀ {α : Type} {effect : DbEffect α} {result : Unit} {writes : List Write},
      (effect.map fun _ => ()).Yields result writes → ∃ value, effect.Yields value writes :=
    fun yields =>
      let ⟨value, deletes, _⟩ := Effect.yields_map.mp yields
      ⟨value, deletes⟩
  have invitations : Child invitationAccess := ⟨fun _ _ => Shrinks.invitations, fun _ _ => rfl⟩
  have depts : Child deptAccess := ⟨fun _ _ => Shrinks.depts, fun _ _ => rfl⟩
  have roles : Child roleAccess := ⟨fun _ _ => Shrinks.roles, fun _ _ => rfl⟩
  have memberships : Child membershipAccess := ⟨fun _ _ => Shrinks.memberships, fun _ _ => rfl⟩
  have labels : Child labelAccess := ⟨fun _ _ => Shrinks.labels, fun _ _ => rfl⟩
  have tenantDepts : Child tenantDeptAccess := ⟨fun _ _ => Shrinks.tenantDepts, fun _ _ => rfl⟩
  rw [TenantRepository.wipeTenantChildren]
  refine Attempt.bind (within_scanning invitationAccess (fun row => row.tenantID = tenantID)
    wiping.lenient trivial shrinking steady starts fun _ _ _ _ yields => yields) fun _ => ?_
  refine within_clearing invitations shrinking (fun _ _ => wiping.deleting invitations shrinking
    trivial fun _ _ _ _ yields => ⟨_, deleted yields⟩) fun shrinking => ?_
  refine Attempt.bind (within_scanning deptAccess (DeptFilter.selects · (.tenant tenantID))
    wiping.lenient trivial shrinking (wiping.stable _ shrinking) (wiping.keeps _ trivial)
    fun _ _ _ _ yields => yields) fun _ => ?_
  refine within_clearing depts shrinking (fun _ _ => wiping.deleting depts shrinking trivial
    fun _ _ _ _ yields => ⟨_, deleted yields⟩) fun shrinking => ?_
  refine Attempt.bind (within_scanning roleAccess (RoleFilter.selects · (.tenant tenantID))
    wiping.lenient trivial shrinking (wiping.stable _ shrinking) (wiping.keeps _ trivial)
    fun _ _ _ _ yields => yields) fun _ => ?_
  refine within_clearing roles shrinking (fun _ _ => wiping.deleting roles shrinking trivial
    fun _ _ _ _ yields => ⟨_, deleted yields⟩) fun shrinking => ?_
  refine Attempt.bind (within_scanning membershipAccess (fun row => row.tenantID = tenantID)
    wiping.lenient trivial shrinking (wiping.stable _ shrinking) (wiping.keeps _ trivial)
    fun _ _ _ _ yields => yields) fun _ => ?_
  refine within_clearing memberships shrinking (fun _ _ => wiping.deleting memberships shrinking
    trivial fun _ _ _ _ yields => ⟨_, deleted yields⟩) fun shrinking => ?_
  refine Attempt.bind (within_scanning labelAccess (fun row => row.tenantID = tenantID)
    wiping.lenient trivial shrinking (wiping.stable _ shrinking) (wiping.keeps _ trivial)
    fun _ _ _ _ yields => yields) fun _ => ?_
  refine within_clearing labels shrinking (fun _ _ => wiping.deleting labels shrinking trivial
    fun _ _ _ _ yields => ⟨_, deleted yields⟩) fun shrinking => ?_
  refine Attempt.bind (within_scanning tenantDeptAccess (fun row => row.tenantID = tenantID)
    wiping.lenient trivial shrinking (wiping.stable _ shrinking) (wiping.keeps _ trivial)
    fun _ _ _ _ yields => yields) fun ids => ?_
  rw [← bind_pure_unit (x := ids.forM _)]
  refine within_clearing tenantDepts shrinking (fun _ _ => wiping.deleting tenantDepts shrinking
    trivial fun _ _ _ _ yields => ⟨_, deleted yields⟩) fun _ => Attempt.pure ?_
  intro server session _ during
  obtain ⟨holds, erasing, ⟨⟨⟨⟨⟨⟨kept, invitations⟩, depts⟩, roles⟩, memberships⟩, labels⟩,
    tenantDepts⟩⟩ := during
  have about : ∀ {id : Uuid}, decide (id = tenantID) = false → id ≠ tenantID :=
    fun other same => by simp [same] at other
  exact ⟨holds, erasing, kept,
    { invitations := fun row mem => about (invitations row mem)
      depts := fun row mem => about (depts row mem)
      roles := fun row mem => about (roles row mem)
      memberships := fun row mem => about (memberships row mem)
      labels := fun row mem => about (labels row mem)
      tenantDepts := fun row mem => about (tenantDepts row mem) }⟩

end Statements

end OrgMembership

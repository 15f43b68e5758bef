import OrgMembership.Relational.Versioned
import OrgMembership.Store.Discipline

/-!
# Record versions

`touch_row` stamps every change of a tenants or tenant_memberships row.  So a version stands for
the content of the row, whatever calls are interleaved, and of the updates that expect one
version at most one changes the row.
-/

namespace OrgMembership

open Concurrency Relational

/-- What the trigger makes of a row is the same or has a higher version. -/
theorem versioned_touchRow {Row : Type} [DecidableEq Row] {version : Row → Int}
    {stamp : Int → Row → Row} (stamps : ∀ next row, version (stamp next row) = next)
    (old new : Row) : Versioned version old (touchRow version stamp old new) := by
  rw [touchRow]
  split
  · exact .refl old
  · refine .inr ?_
    rw [stamps]
    omega

theorem Tenant.versioned_touch (now : Int) (old new : Tenant) :
    Versioned Tenant.recordVersion old (old.touch now new) :=
  versioned_touchRow (fun _ _ => rfl) old new

theorem TenantMembership.versioned_touch (now : Int) (old new : TenantMembership) :
    Versioned TenantMembership.recordVersion old (old.touch now new) :=
  versioned_touchRow (fun _ _ => rfl) old new

/-! ## Every statement -/

theorem tenantVersions :
    tenantAccess.Evolution dialect Write.tenantChange (Versioned Tenant.recordVersion) where
  trans _ _ _ := Versioned.trans
  authored query context db result writes evaluated row mem old memOld keyEq := by
    have touched : ∀ {base new : Tenant}, base ∈ db.tenants → new.id = base.id →
        old.id = (base.touch (txNow context) new).id →
          Versioned Tenant.recordVersion old (base.touch (txNow context) new) := by
      intro base new memBase same about
      rw [Tenant.touch_proj Tenant.id fun _ _ _ => rfl, same] at about
      cases Table.eq_of_key_eq memOld memBase about
      exact old.versioned_touch _ new
    cases tenant_write evaluated (tenantLawful.mem_filterMap.mp mem) with
    | insert unused => exact absurd keyEq (unused old memOld)
    | patch memRow patch => exact touched memRow (LifecyclePatch.set_id _ _ _) keyEq
    | setLastEventAt memRow | markOwnerless memRow => exact touched memRow rfl keyEq
    | update memRow update => exact touched memRow (TenantUpdate.set_id _ _) keyEq

theorem membershipVersions :
    membershipAccess.Evolution dialect Write.membershipChange
      (Versioned TenantMembership.recordVersion) where
  trans _ _ _ := Versioned.trans
  authored query context db result writes evaluated row mem old memOld keyEq := by
    cases membership_write evaluated (membershipLawful.mem_filterMap.mp mem) with
    | insert unused => exact absurd keyEq (unused old memOld)
    | setStatus memRow =>
        cases Table.eq_of_key_eq memOld memRow
          (keyEq.trans (TenantMembership.withStatus_id _ _ _))
        exact old.versioned_touch _ _
    | softDelete memRow =>
        cases Table.eq_of_key_eq memOld memRow (keyEq.trans (TenantMembership.ended_id _ _))
        exact old.versioned_touch _ _

/-! ## The updates with an expected version -/

/-- The version that an update of a tenants row expects. -/
def TenantUpdate.expected : TenantUpdate → Option Int
  | patch values => some values.recordVersion
  | setFeatureFlags _ expectedVersion | setRealmFields _ _ _ expectedVersion =>
      some expectedVersion
  | setRealmSyncPending | clearRealmSyncPending | clearOwnerlessSince | setOverageSince _ => none

/-- The tenants row that an answered statement has changed, and the version it expected.  An
update that changes nothing returns the row with the expected version. -/
def tenantExpects : (query : Query) → query.Result → Option (Uuid × Int)
  | .tenant (.update id change), some updated =>
      change.expected.bind fun expected =>
        if updated.recordVersion = expected then none else some (id, expected)
  | _, _ => none

/-- The membership that an answered statement has changed, and the version it expected. -/
def membershipExpects : (query : Query) → query.Result → Option (Uuid × Int)
  | .membership (.setStatus id _ _ _ expected), some updated
  | .membership (.softDelete id _ _ expected), some updated =>
      if updated.recordVersion = expected then none else some (id, expected)
  | _, _ => none

/-- Such an update selects a row with the expected version. -/
theorem TenantUpdate.recordVersion_of_selects {change : TenantUpdate} {expected : Int}
    {tenant : Tenant} (expects : change.expected = some expected)
    (selected : change.selects tenant = true) : tenant.recordVersion = expected := by
  cases change <;> cases expects <;> simp [TenantUpdate.selects] at selected <;> simp [selected]

theorem tenantConditional :
    tenantAccess.Conditional dialect Write.tenantChange Tenant.recordVersion tenantExpects where
  changes query context db result writes id expected evaluated expects := by
    unfold tenantExpects at expects
    split at expects
    case h_2 => cases expects
    case h_1 target change updated =>
      obtain ⟨version, versioned, expects⟩ := Option.bind_eq_some_iff.mp expects
      split at expects
      case isTrue => cases expects
      case isFalse changed =>
        cases expects
        rcases tenantUpdate_cases evaluated with ⟨absent, _⟩ | ⟨row, found, selected, same, rfl⟩
        · cases absent
        · obtain ⟨mem, rfl⟩ := Table.find?_eq_some.mp found
          have before := TenantUpdate.recordVersion_of_selects versioned selected
          cases same
          have key : (row.touch (txNow context) (change.set row)).id = row.id := by
            rw [Tenant.touch_proj Tenant.id fun _ _ _ => rfl, TenantUpdate.set_id]
          refine ⟨⟨row, mem, rfl, before⟩, ⟨_, List.mem_singleton_self _, key⟩, ?_⟩
          intro new put _
          cases List.mem_singleton.mp put
          rcases row.versioned_touch (txNow context) (change.set row) with same | higher
          · exact absurd ((congrArg Tenant.recordVersion same).trans before) changed
          · rwa [before] at higher

/-- One row of `tenant_memberships` with an expected version. -/
theorem membershipUpdate_changes {db : Db} {id tenantID userID : Uuid} {expected : Int}
    {set : TenantMembership → TenantMembership} {updated : TenantMembership}
    {writes : List Write} (sets : ∀ row, Versioned TenantMembership.recordVersion row (set row))
    (keyed : ∀ row, (set row).id = row.id)
    (yields : (membershipAccess.updateRow db id (·.isVersionOf tenantID userID expected)
      fun row => .ok (set row) : DbEffect _).Yields (some updated) writes)
    (changed : updated.recordVersion ≠ expected) :
    (∃ old ∈ db.memberships, old.id = id ∧ old.recordVersion = expected) ∧
      (∃ new, .put new ∈ writes.filterMap Write.membershipChange ∧ new.id = id) ∧
        ∀ new, .put new ∈ writes.filterMap Write.membershipChange → new.id = id →
          expected < new.recordVersion := by
  rcases Access.updateRow_cases yields with
    ⟨absent, _⟩ | ⟨row, mem, made, key, selected, computed, found, rfl, _⟩
  · cases absent
  · cases computed
    cases found
    have before : row.recordVersion = expected := by
      rw [TenantMembership.isVersionOf, Bool.and_eq_true, decide_eq_true_eq] at selected
      exact selected.2
    refine ⟨⟨row, mem, key, before⟩, ⟨_, List.mem_singleton_self _, (keyed row).trans key⟩, ?_⟩
    intro new put _
    cases List.mem_singleton.mp put
    rcases sets row with same | higher
    · exact absurd ((congrArg TenantMembership.recordVersion same).trans before) changed
    · rwa [before] at higher

theorem membershipConditional :
    membershipAccess.Conditional dialect Write.membershipChange TenantMembership.recordVersion
      membershipExpects where
  changes query context db result writes id expected evaluated expects := by
    unfold membershipExpects at expects
    split at expects
    case h_3 => cases expects
    case h_1 target tenantID userID status version updated =>
      split at expects
      case isTrue => cases expects
      case isFalse changed =>
        cases expects
        exact membershipUpdate_changes (fun row => row.versioned_touch _ _)
          (TenantMembership.withStatus_id (txNow context) status) evaluated changed
    case h_2 target tenantID userID version updated =>
      split at expects
      case isTrue => cases expects
      case isFalse changed =>
        cases expects
        exact membershipUpdate_changes (fun row => row.versioned_touch _ _)
          (TenantMembership.ended_id (txNow context)) evaluated changed

/-! ## Every run -/

/-- The process is about to commit a transaction that has changed the row at an expected
version. -/
def CommitsUpdate {Call Outcome : Type}
    (expects : (query : Query) → query.Result → Option (Uuid × Int)) (id : Uuid) (expected : Int)
    (config : DbConfig Call Outcome) (index : Nat) : Prop :=
  ∃ call session next, config.processes[index]? = some ⟨call, session, .call .commit next⟩ ∧
    session.Updated expects id expected

/-- What a version says of the rows of a table, in every run of some calls. -/
structure VersionIdentifies {Row Call Outcome : Type} (access : Access Db Write LockKey Row Uuid)
    (changeOf : Write → Option (Change Row Uuid)) (version : Row → Int)
    (expects : (query : Query) → query.Result → Option (Uuid × Int))
    (code : Call → DbProgram Outcome) : Prop where
  /-- As long as nobody deletes a row, its version does not decrease, and while its version is
  the same its content is. -/
  content : ∀ start config later row row',
    server.Reaches code (fun _ _ => True) (Config.initial start) config →
    server.Reaches code (fun config action => access.Spares changeOf (access.key row) config action)
      config later →
    row ∈ access.table config.shared.db → row' ∈ access.table later.shared.db →
      access.key row' = access.key row →
        version row ≤ version row' ∧ (version row' = version row → row' = row)
  /-- A transaction changes a row at an expected version at most once. -/
  single : ∀ start config id expected,
    server.Reaches code (fun _ _ => True) (Config.initial start) config →
    ∀ process ∈ config.processes, .delete id ∉ process.loc.changes changeOf →
      process.loc.current.countP (Entry.updates expects id expected) ≤ 1
  /-- When a transaction has committed that changed the row at an expected version, no other
  one that did commits, unless one has deleted the row. -/
  once : ∀ start before after later index index' chance chance' id expected,
    chance.takesEffect = true →
    server.Reaches code (fun _ _ => True) (Config.initial start) before →
    CommitsUpdate expects id expected before index →
    access.Spares changeOf id before (.step index chance) →
    server.act code (.step index chance) before = some after →
    server.Reaches code (fun config action => access.Spares changeOf id config action) after later →
    access.Spares changeOf id later (.step index' chance') →
      ¬CommitsUpdate expects id expected later index'

theorem versionIdentifies {Row Call Outcome : Type} {access : Access Db Write LockKey Row Uuid}
    {changeOf : Write → Option (Change Row Uuid)} {version : Row → Int}
    {expects : (query : Query) → query.Result → Option (Uuid × Int)}
    (lawful : access.Lawful dialect changeOf)
    (evolution : access.Evolution dialect changeOf (Versioned version))
    (conditional : access.Conditional dialect changeOf version expects)
    (code : Call → DbProgram Outcome) :
    VersionIdentifies access changeOf version expects code where
  content start config later row row' reaches further mem mem' key := by
    obtain ⟨current, here, same, evolved⟩ := lawful.evolves_of_reaches evolution Versioned.refl
      reaches mem (further.mono fun _ _ spared => ⟨trivial, spared⟩)
    rw [Table.eq_of_key_eq mem' here (key.trans same.symm)]
    exact ⟨evolved.le, evolved.eq⟩
  single start config id expected reaches process mem :=
    (conditional.careful_of_reaches lawful evolution reaches process mem).once
  once start before after later index index' chance chance' id expected effective reaches commits
      spared acted further spared' commits' := by
    obtain ⟨call, session, next, current, updated⟩ := commits
    obtain ⟨call', session', next', current', updated'⟩ := commits'
    refine spared' call' session' next' current' ?_
    exact conditional.once lawful evolution reaches effective current updated trivial spared acted
      (further.mono fun _ _ spared => ⟨trivial, spared⟩) current' updated'

/-- In every run of whatever calls, the version of a tenants row and of a tenant_memberships row
stands for its content: it never decreases, committed states with one version are the same, and
of the updates that expect one version at most one changes the row. -/
theorem version_identifies_content {Call Outcome : Type} (code : Call → DbProgram Outcome) :
    VersionIdentifies tenantAccess Write.tenantChange Tenant.recordVersion tenantExpects code ∧
      VersionIdentifies membershipAccess Write.membershipChange TenantMembership.recordVersion
        membershipExpects code :=
  ⟨versionIdentifies tenantLawful tenantVersions tenantConditional code,
    versionIdentifies membershipLawful membershipVersions membershipConditional code⟩

end OrgMembership

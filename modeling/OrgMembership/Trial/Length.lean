import OrgMembership.Inbox.Settlement

/-!
# The length of a reactivated trial

A `TrialReactivated` looks up the tenant's plan, asks the catalog for the trial
length, and only then opens the transaction that locks and updates the row.  So
the trial gets the length of the stored plan, if that plan is still the one that
was looked up.
-/

namespace OrgMembership

open Concurrency Relational

namespace TrialLength

open Inbox (Call code)

variable {σ α : Type} {length : TenantPlan → Int} {reactivates : Bool} {tenantID : Uuid}

/-! ## The runs -/

/-- Where the catalog answers, it answers with these lengths. -/
def answers (length : TenantPlan → Int) (catalog : PlanCatalog) : Bool :=
  [.starter, .pro, .enterprise].all fun plan =>
    match catalog plan with
    | .ok duration => duration = length plan
    | .error _ => true

theorem length_of_answers {catalog : PlanCatalog} {plan : TenantPlan} {duration : Int}
    (agrees : answers length catalog = true) (answered : catalog plan = .ok duration) :
    duration = length plan := by
  have mem : plan ∈ [TenantPlan.starter, .pro, .enterprise] := by cases plan <;> simp
  have agreed := List.all_eq_true.mp agrees plan mem
  rw [answered] at agreed
  exact of_decide_eq_true agreed

/-- The calls of one catalog. -/
def priced (length : TenantPlan → Int) : Call → Bool
  | .handle _ catalog _ | .trialSignup catalog _ _ | .replayParked catalog _ =>
      answers length catalog

/-- The plan that the session has last read of a tenant. -/
def planRead (session : DbSession) (id : Uuid) : Option TenantPlan :=
  (session.history.findSome? fun
    | .issued (.tenant (.findByID asked)) found =>
        if asked = id then some (found.map Tenant.plan) else none
    | _ => none).join

/-- The update of a reactivated trial finds the plan that was read for it. -/
def keepsPlan (server : DbServer) (session : DbSession) : Statement Query → Bool
  | .query (.tenant (.applyLifecyclePatch id (.trialReactivate _))) =>
      (dialect.view server session).tenants.rows.all fun row =>
        row.id ≠ id || planRead session id = some row.plan
  | _ => true

/-- The runs with one catalog in which every update of a reactivated trial finds the
plan that was read for it. -/
def runs (length : TenantPlan → Int) :
    DbConfig Call (Except Failure Bool) → Action Call (Chance PgError) Nat → Bool :=
  allows (priced length) fun config _ _ statement session =>
    keepsPlan config.shared session statement

/-! ## The protocol -/

/-- A reactivation at this time gives the trial the length of the stored plan. -/
def Lengths (length : TenantPlan → Int) (startedAt : Int) (before after : Db) : Prop :=
  ∀ row ∈ before.tenants, ∀ row' ∈ after.tenants, row'.id = row.id →
    row'.trialReactivationCount ≠ row.trialReactivationCount →
      row'.trialEndsAt = some (pgTime startedAt + days (length row'.plan))

/-- No transaction changes a plan under a reactivation, and each commit gives the trial its length.
-/
def protocol (length : TenantPlan → Int) : DbProtocol where
  Inv _ := True
  Admits statement server session := keepsPlan server session statement = true
  Coexist _ actor other :=
    Compatible actor.locks other.locks ∧ tenantAccess.Guarded Write.tenantChange actor
  Guar actor before after := before = after ∨ after = dialect.committed before actor ∧
    Lengths length actor.startedAt before.db after.db
  Drift before after := before.db = after.db

theorem lenient : Lenient (protocol length) :=
  fun _ _ => .inl rfl

/-- What a transaction that started at this time makes of a tenant: one that
reactivates trials changes no plan, and the others reactivate nothing. -/
def Ages (length : TenantPlan → Int) (reactivates : Bool) (startedAt : Int) (old new : Tenant) :
    Prop :=
  if reactivates then
    new.plan = old.plan ∧
      (new.trialReactivationCount = old.trialReactivationCount ∧
          new.trialEndsAt = old.trialEndsAt ∨
        new.trialEndsAt = some (pgTime startedAt + days (length new.plan)))
  else
    new.trialReactivationCount = old.trialReactivationCount

theorem Ages.trans {startedAt : Int} (first second third : Tenant)
    (early : Ages length reactivates startedAt first second)
    (late : Ages length reactivates startedAt second third) :
    Ages length reactivates startedAt first third := by
  cases reactivates with
  | false => exact Eq.trans late early
  | true =>
      obtain ⟨plan, early⟩ := early
      obtain ⟨plan', late⟩ := late
      refine ⟨plan'.trans plan, ?_⟩
      rcases late with ⟨count', ends'⟩ | priced
      · rcases early with ⟨count, ends⟩ | priced
        · exact .inl ⟨count'.trans count, ends'.trans ends⟩
        · rw [ends', priced, plan']
          exact .inr rfl
      · exact .inr priced

/-- An update that leaves plan and trial alone. -/
theorem ages_of_same {startedAt : Int} {old new : Tenant} (plan : new.plan = old.plan)
    (count : new.trialReactivationCount = old.trialReactivationCount)
    (ends : new.trialEndsAt = old.trialEndsAt) :
    Ages length reactivates startedAt old new := by
  cases reactivates with
  | false => exact count
  | true => exact ⟨plan, .inl ⟨count, ends⟩⟩

/-- The trigger changes nothing that matters here. -/
theorem ages_touch {startedAt now : Int} {old new : Tenant}
    (ages : Ages length reactivates startedAt old new) :
    Ages length reactivates startedAt old (old.touch now new) := by
  unfold Ages at ages ⊢
  rwa [Tenant.touch_proj Tenant.plan fun _ _ _ => rfl,
    Tenant.touch_proj Tenant.trialReactivationCount fun _ _ _ => rfl,
    Tenant.touch_proj Tenant.trialEndsAt fun _ _ _ => rfl]

/-- The pending versions of the tenants. -/
structure Aging (length : TenantPlan → Int) (reactivates : Bool) (server : DbServer)
    (session : DbSession) : Prop where
  guarded : tenantAccess.Guarded Write.tenantChange session
  undeleted : ∀ id, .tenant (.delete id) ∉ session.writes
  ages : tenantAccess.Faithful Write.tenantChange (Ages length reactivates session.startedAt)
    server session

theorem stable_aging : (protocol length).Stable (Aging length reactivates) := by
  intro before after session _ _ rely aging
  refine ⟨aging.guarded, aging.undeleted, ?_⟩
  rcases rely with ⟨actor, ⟨compatible, guarded⟩, rfl | ⟨rfl, _⟩⟩ | same
  · exact aging.ages
  · exact tenantLawful.faithful_committed guarded compatible aging.guarded aging.ages
  · intro row put kept base mem
    rw [← show before.db = after.db from same] at mem
    exact aging.ages row put kept base mem

theorem aging_blank {server : DbServer} {session : DbSession} (blank : session.writes = []) :
    Aging length reactivates server session := by
  constructor
  · intro change mem
    simp [Session.changes, blank] at mem
  · intro id mem
    simp [blank] at mem
  · intro row mem
    simp [Session.changes, blank] at mem

theorem commits_aging {server : DbServer} {session : DbSession}
    (aging : Aging length reactivates server session) :
    (protocol length).Inv (dialect.committed server session) ∧
      (protocol length).Guar session server (dialect.committed server session) := by
  refine ⟨trivial, .inr ⟨rfl, fun row mem row' mem' same raised => ?_⟩⟩
  rcases tenantLawful.mem_view mem' with put | ⟨old, _⟩
  · have kept : .delete row'.id ∉ session.changes Write.tenantChange :=
      fun deleted => aging.undeleted _ (tenantLawful.mem_changes.mp deleted)
    have ages := aging.ages row' (tenantLawful.mem_changes.mpr put) kept row mem same.symm
    cases reactivates with
    | false => exact absurd ages raised
    | true =>
        rcases ages.2 with ⟨count, _⟩ | priced
        · exact absurd count raised
        · exact priced
  · rw [Table.eq_of_key_eq old mem same] at raised
    exact absurd rfl raised

/-! ## Statements -/

/-- A statement of a transaction ages the tenants if its patch does. -/
theorem Aging.extended {server : DbServer} {session : DbSession} {fresh : Nat} {query : Query}
    {result : query.Result} {writes : List Write} (aging : Aging length reactivates server session)
    (yields : dialect.eval query (Dialect.context server session fresh)
      (dialect.view server session) = .ok (result, writes))
    (keeps : ∀ id, query ≠ .tenant (.hardDeleteTenant id))
    (unset : ∀ id update, query ≠ .tenant (.update id update))
    (patches : ∀ id patch, query = .tenant (.applyLifecyclePatch id patch) →
      ∀ row ∈ (dialect.view server session).tenants, row.id = id →
        Ages length reactivates session.startedAt row (patch.set (pgTime session.startedAt) row)) :
    Aging length reactivates server (session.extended query result (dialect.kept query
      (Dialect.context server session fresh) (dialect.view server session)) writes) := by
  refine ⟨tenantLawful.guarded_extended aging.guarded yields, ?_, ?_⟩
  · intro id mem
    rcases List.mem_append.mp mem with old | new
    · exact aging.undeleted id old
    · cases tenant_write yields new with
      | delete => exact keeps id rfl
  · refine tenantLawful.faithful_extended_of Ages.trans aging.ages fun row put old mem same => ?_
    cases tenant_write yields (tenantLawful.mem_filterMap.mp put) with
    | insert unused => exact absurd same (unused old mem)
    | patch memRow patch =>
        have same : old.id = _ := same.trans (Tenant.touch_proj Tenant.id (fun _ _ _ => rfl) _ _ _)
        rw [LifecyclePatch.set_id] at same
        cases Table.eq_of_key_eq mem memRow same
        exact ages_touch (patches _ patch rfl old memRow rfl)
    | setLastEventAt memRow | markOwnerless memRow =>
        cases Table.eq_of_key_eq mem memRow
          (same.trans (Tenant.touch_proj Tenant.id (fun _ _ _ => rfl) _ _ _))
        exact ages_touch (ages_of_same rfl rfl rfl)
    | update memRow update => exact absurd rfl (unset _ update)

/-! ## The consumer -/

/-- The trial length is that of the plan last read. -/
def Priced (length : TenantPlan → Int) (tenantID : Uuid) (env : Envelope) (duration : Int)
    (session : DbSession) : Prop :=
  env.event = .trialReactivated → ∀ plan, planRead session tenantID = some plan →
    duration = length plan

theorem planRead_extended {session : DbSession} {query : Query} {result : query.Result}
    {locks : List (Lock LockKey)} {writes : List Write} {id : Uuid}
    (unread : ∀ asked, query ≠ .tenant (.findByID asked)) :
    planRead (session.extended query result locks writes) id = planRead session id := by
  unfold planRead
  rw [Session.extended, List.findSome?_cons_of_isNone]
  split
  case h_1 asked found entry =>
    cases entry
    exact absurd rfl (unread asked)
  case h_2 => rfl

/-- A transaction of the consumer. -/
def Projecting (length : TenantPlan → Int) (tenantID : Uuid) (env : Envelope) (duration : Int) :
    Assertion DbServer DbSession :=
  fun server session => Aging length (env.event = .trialReactivated) server session ∧
    Priced length tenantID env duration session

section Consumer

variable {env : Envelope} {duration : Int} {catalog : PlanCatalog}

theorem stable_projecting :
    (protocol length).Stable (Projecting length tenantID env duration) :=
  stable_aging.and (Protocol.stable_local _)

theorem keeps_delivers {query : Query} (delivers : Delivers tenantID query)
    (carries : Carries env duration query) :
    Keeps (protocol length) (Projecting length tenantID env duration)
      (send .pg query : DbM σ _) := by
  apply attempt_send lenient stable_projecting
  · rintro server session fresh result writes _ ⟨aging, priced⟩ admitted yields
    refine ⟨aging.extended yields ?_ ?_ ?_, ?_⟩
    · rintro id rfl
      exact delivers
    · rintro id update rfl
      exact delivers
    · rintro id patch rfl row mem rfl
      obtain rfl : row.id = tenantID := delivers
      cases patch with
      | trialReactivate days =>
          obtain ⟨named, rfl⟩ := carries
          have read := List.all_eq_true.mp (show keepsPlan server session _ = true from admitted)
            row mem
          simp only [ne_eq, not_true_eq_false, decide_false, Bool.false_or,
            decide_eq_true_eq] at read
          rw [priced named row.plan read, named]
          exact ⟨rfl, .inr rfl⟩
      | _ =>
          rw [decide_eq_false (show env.event ≠ _ from carries)]
          rfl
    · intro named plan read
      rw [planRead_extended (by rintro asked rfl; exact delivers)] at read
      exact priced named plan read
  · exact fun _ _ _ _ holds => holds

/-- A transaction of the consumer commits reactivations of the right length. -/
theorem attempt_projecting {body : DbM σ α}
    (keeps : Keeps (protocol length) (Projecting length tenantID env duration) body) :
    Keeps (protocol length)
      (fun _ session => session.Idle ∧ Priced length tenantID env duration session)
      (transaction .pg body) := by
  apply attempt_transaction lenient (Protocol.stable_local _) (fun _ => stable_projecting)
    (fun _ => stable_projecting) _ keeps
  · intro _ server session _ projecting _
    obtain ⟨inv, guar⟩ := commits_aging projecting.1
    exact ⟨inv, guar, session.idle_closed, projecting.2⟩
  · exact fun _ _ _ session _ projecting => ⟨session.idle_closed, projecting.2⟩
  · exact fun _ _ _ _ _ after => after
  · exact fun _ _ session _ projecting => ⟨session.idle_closed, projecting.2⟩
  · exact fun _ _ _ _ holds => holds
  · exact fun _ _ _ holds => ⟨aging_blank rfl, holds.2⟩

/-- No fault of the database looks like a missing tenant. -/
theorem wrapConnErr_pg_is (fault : PgError) :
    (wrapConnErr (.pg fault)).is .tenantNotFound = false := by
  cases fault <;> rfl

/-- Looking up the tenant remembers its plan. -/
theorem attempt_findByID :
    Attempt server (protocol length) (fun _ session => session.Idle)
      (withPool (TenantRepository.findByID tenantID) : DbM σ Tenant)
      (fun tenant _ session => session.Idle ∧ planRead session tenantID = some tenant.plan)
      fun failure _ session => session.Idle ∧
        (failure.is .tenantNotFound = true → planRead session tenantID = none) := by
  have reads : Attempt server (protocol length) (fun _ session => session.writes = [])
      (tenantQuery (.findByID tenantID) : DbM σ (Option Tenant))
      (fun found _ session => session.writes = [] ∧
        planRead session tenantID = found.map Tenant.plan)
      fun failure _ session =>
        (wrapConnErr failure).is .tenantNotFound = true → planRead session tenantID = none := by
    apply attempt_read lenient (Protocol.stable_local _) fun _ _ => rfl
    · intro server session fresh _ unwritten _
      exact ⟨by simp [Session.extended, unwritten], by simp [planRead, Session.extended]⟩
    · intro fault _ _ _ _ missing
      simp [wrapConnErr_pg_is] at missing
  have finds : Attempt server (protocol length) (fun _ session => session.writes = [])
      (TenantRepository.findByID tenantID : DbM σ Tenant)
      (fun tenant _ session => session.writes = [] ∧
        planRead session tenantID = some tenant.plan)
      fun failure _ session =>
        (wrapConnErr failure).is .tenantNotFound = true → planRead session tenantID = none := by
    refine Attempt.bind reads fun found => ?_
    cases found with
    | none => exact Attempt.throw fun _ _ _ holds _ => holds.2
    | some tenant => exact Attempt.pure fun _ _ _ holds => holds
  apply attempt_withPool
  apply attempt_transaction lenient (Protocol.stable_local _) (fun _ => Protocol.stable_local _)
    (fun _ => Protocol.stable_local _) _ finds
  · rintro tenant server session _ ⟨unwritten, read⟩ _
    rw [committed_of_unwritten unwritten]
    exact ⟨trivial, .inl rfl, session.idle_closed, read⟩
  · intro fault tenant _ session _ _
    exact ⟨session.idle_closed, fun missing => by simp [wrapConnErr_pg_is] at missing⟩
  · intro tenant _ session _ _ _
    exact ⟨session.idle_closed, fun missing => by simp [wrapConnErr_pg_is] at missing⟩
  · exact fun _ _ session _ absent => ⟨session.idle_closed, absent⟩
  · intro fault _ session _ idle
    exact ⟨idle, fun missing => by simp [wrapConnErr_pg_is] at missing⟩
  · exact fun _ _ _ _ => rfl

/-- The trial length that is looked up is that of the plan. -/
theorem attempt_trialDurationDays (agrees : answers length catalog = true) :
    Attempt server (protocol length) (fun _ session => session.Idle)
      (trialDurationDays catalog tenantID env : DbM σ Int)
      (fun duration _ session => session.Idle ∧ Priced length tenantID env duration session)
      fun _ _ session => session.Idle := by
  rw [trialDurationDays]
  split
  · refine Attempt.bind (Attempt.observe attempt_findByID) fun answer => ?_
    rcases answer with failure | tenant
    · dsimp only
      split
      case isTrue missing =>
        refine Attempt.pure fun _ session _ holds => ⟨holds.1, fun _ plan read => ?_⟩
        rw [holds.2 missing] at read
        cases read
      case isFalse => exact Attempt.throw fun _ _ _ holds => holds.1
    · dsimp only
      cases answered : catalog tenant.plan with
      | error failure => exact Attempt.throw fun _ _ _ holds => holds.1
      | ok duration =>
          refine Attempt.pure fun _ session _ holds => ⟨holds.1, fun _ plan read => ?_⟩
          rw [holds.2] at read
          cases read
          exact length_of_answers agrees answered
  case isFalse other =>
    exact Attempt.pure fun _ _ _ idle => ⟨idle, fun named => absurd named other⟩

theorem idles_handle (skew : Int) (env : Envelope) (agrees : answers length catalog = true) :
    Idles (protocol length) (handle skew catalog env : DbM σ _) := by
  refine Attempt.bind (idles_timeNow lenient) fun now => ?_
  split
  · exact idles_throw
  · refine Attempt.bind (attempt_trialDurationDays agrees) fun duration => ?_
    have delivers : Keeps (protocol length)
        (fun _ session => session.Idle ∧ Priced length env.tenantID env duration session)
        (processOnce env.id (handleTx env duration) : DbM σ Unit) :=
      attempt_withPool (attempt_projecting (keeps_claimed (fun _ delivers carries =>
        keeps_delivers delivers carries) rfl))
    exact Attempt.weaken delivers (fun _ _ _ holds => holds) (fun _ _ _ _ holds => holds.1)
      fun _ _ _ _ holds => holds.1

theorem idles_replayParked (agrees : answers length catalog = true) (tenantID : Uuid) :
    Idles (protocol length) (replayParked catalog tenantID : DbM σ _) := by
  refine Attempt.bind ((reader_idle lenient).withPool (issues_send (confined_of_reads rfl)))
    fun pending => ?_
  refine keeps_replayEach_of pending 0 (fun _ _ => attempt_trialDurationDays agrees)
    fun parked _ duration => ?_
  have replays : Keeps (protocol length)
      (fun _ session => session.Idle ∧ Priced length tenantID parked.envelope duration session)
      (runInTx (replayTx tenantID parked duration)) :=
    attempt_runInTx (attempt_projecting (keeps_replayTx fun _ settles carries =>
      keeps_delivers (delivers_of_settles settles) carries)) fun _ _ _ _ _ holds => holds
  exact Attempt.weaken replays (fun _ _ _ holds => holds) (fun _ _ _ _ holds => holds.1)
    fun _ _ _ _ holds => holds.1

/-- The statements that change no existing tenant. -/
def Founds : Query → Prop
  | .tenant (.applyLifecyclePatch _ _) | .tenant (.hardDeleteTenant _) | .tenant (.update _ _) =>
      False
  | _ => True

theorem keeps_founds {body : DbM σ α} (issues : Fallible.Issues (Only Founds) body) :
    Keeps (protocol length) (Aging length false) body := by
  refine attempt_only lenient stable_aging ?_ issues fun _ _ _ aging => aging
  intro query founds server session fresh result writes _ aging _ yields
  refine aging.extended yields ?_ ?_ ?_
  · rintro id rfl
    exact founds
  · rintro id update rfl
    exact founds
  · rintro id patch rfl
    exact founds.elim

theorem idles_trialSignup (agrees : answers length catalog = true)
    (departments : Except Failure (List CatalogDepartment)) (input : TrialSignupInput) :
    Idles (protocol length) (trialSignup catalog departments input : DbM σ _) := by
  have signs : SignupAllowed Founds input :=
    { activate := fun _ => trivial
      labels := trivial
      member := trivial
      findMember := trivial
      grant := fun _ => trivial
      findGrant := trivial
      enqueue := fun _ => trivial
      lock := trivial
      insert := fun _ _ => trivial
      findTenant := trivial
      claim := fun _ => trivial }
  refine keeps_trialSignup (reader_idle lenient) (fun hash seats trialEnds trialDeptIDs => ?_)
    (idles_replayParked agrees input.tenantID)
  apply idles_runInTx
  apply attempt_idle_transaction lenient (fun _ => stable_aging)
  · exact Attempt.weaken (keeps_trialSignupTx signs keeps_founds)
      (fun _ _ _ blank => aging_blank blank.unwritten) (fun _ _ _ _ aging => aging)
      fun _ _ _ _ _ => trivial
  · intro _ server session _ aging _
    obtain ⟨inv, guar⟩ := commits_aging aging
    exact ⟨inv, guar, session.idle_closed⟩

end Consumer

/-! ## Every run -/

theorem verified : Verified server (protocol length) code (fun call => priced length call = true)
    fun _ _ _ session => session.Idle where
  triple call agrees := by
    cases call with
    | handle skew catalog env =>
        exact triple_of_idles (Attempt.bind (idles_handle skew env agrees) fun _ => idles_pure)
    | trialSignup catalog departments input =>
        exact triple_of_idles (Attempt.bind (idles_trialSignup agrees departments input)
          fun _ => idles_pure)
    | replayParked catalog tenantID =>
        exact triple_of_idles (Attempt.bind (idles_read lenient fun _ _ => rfl) fun _ =>
          Attempt.bind (idles_replayParked agrees tenantID) fun _ => idles_pure)
  settled _ _ := fun _ _ _ _ _ _ idle => idle
  drift _ _ _ := ⟨trivial, rfl⟩

theorem enforces {start : DbServer} :
    Enforces server (protocol length) code (fun call => priced length call = true)
      (fun config action => runs length config action = true) (Config.initial start) where
  admits _ _ permitted := permitted
  executes config index choice config' call session statement next reaches permitted executes := by
    obtain ⟨disciplined, others⟩ := facts_of_executes reaches executes
    refine ⟨executes_of_allows permitted executes.current, fun position other apart found _ => ?_⟩
    exact ⟨(others position other apart found).1, disciplined.tenantsGuarded⟩

/-- A step that applies a `TrialReactivated` gives the trial the length of the stored
plan, from the start of its transaction, in every run in which every such update
finds the plan that was read for it. -/
theorem length_of_stored_plan {start : DbServer}
    {config config' : DbConfig Call (Except Failure Bool)} {index : Nat}
    {choice : Chance PgError}
    {process : Process (Reply Query.Result PgError) Call DbSession (Except Failure Bool)}
    (reaches : server.Reaches code (fun config action => runs length config action = true)
      (Config.initial start) config)
    (permitted : runs length config (.step index choice) = true)
    (acted : server.act code (.step index choice) config = some config')
    (current : config.processes[index]? = some process) :
    ∀ row ∈ config.shared.db.tenants, ∀ row' ∈ config'.shared.db.tenants, row'.id = row.id →
      row'.trialReactivationCount ≠ row.trialReactivationCount →
        row'.trialEndsAt = some (pgTime process.loc.startedAt + days (length row'.plan)) := by
  intro row mem row' mem' same raised
  obtain ⟨actor, found, guar⟩ := reaches.guarantees verified enforces trivial permitted acted
  cases Option.some.inj (found.symm.trans current)
  rcases guar with unchanged | ⟨_, lengths⟩
  · rw [← unchanged] at mem'
    rw [Table.eq_of_key_eq mem' mem same] at raised
    exact absurd rfl raised
  · exact lengths row mem row' mem' same raised

/-- Trials of the starter plan last 30 days, the others 14. -/
def tiered : TenantPlan → Int
  | .starter => 30
  | .pro | .enterprise => 14

/-- A tenant of the starter plan whose trial has expired. -/
def expired : Db :=
  { Db.empty with
    tenants := .singleton { trialRow with status := .trialExpired, trialEndsAt := some 0 } }

/-- Tenant 1 reactivates its trial. -/
def reactivation : Call :=
  .handle 5000 (fun plan => .ok (tiered plan)) ⟨7, 1, 2000, .trialReactivated⟩

/-- The next step of the process reactivates a trial, with these start and row. -/
def reactivating (index : Nat) (test : Int → Tenant → Bool)
    (config : DbConfig Call (Except Failure Bool)) : Bool :=
  (server.act code (.step index (.proceed 1)) config).any fun config' =>
    config.processes[index]?.any fun process =>
      config.shared.db.tenants.rows.any fun row => config'.shared.db.tenants.rows.any fun row' =>
        row'.id = row.id && row'.trialReactivationCount ≠ row.trialReactivationCount &&
          test process.loc.startedAt row'

theorem exists_of_reactivating {index : Nat} {test : Int → Tenant → Bool}
    {config : DbConfig Call (Except Failure Bool)}
    (reactivates : reactivating index test config = true) :
    ∃ config' process, server.act code (.step index (.proceed 1)) config = some config' ∧
      config.processes[index]? = some process ∧
      ∃ row ∈ config.shared.db.tenants, ∃ row' ∈ config'.shared.db.tenants, row'.id = row.id ∧
        row'.trialReactivationCount ≠ row.trialReactivationCount ∧
        test process.loc.startedAt row' = true := by
  obtain ⟨config', acted, found⟩ := (Option.any_eq_true _ _).mp reactivates
  obtain ⟨process, current, found⟩ := (Option.any_eq_true _ _).mp found
  obtain ⟨row, mem, found⟩ := List.any_eq_true.mp found
  obtain ⟨row', mem', found⟩ := List.any_eq_true.mp found
  simp only [Bool.and_eq_true, decide_eq_true_eq] at found
  exact ⟨config', process, acted, current, row, mem, row', mem', found.1.1, found.1.2, found.2⟩

/-- Undisturbed, the trial is reactivated for the 30 days of the starter plan. -/
theorem starter_reactivated :
    ∃ config config' process row',
      server.Reaches code (fun config action => runs tiered config action = true)
        (Config.initial ⟨expired, 1000⟩) config ∧
      server.act code (.step 0 (.proceed 1)) config = some config' ∧
      config.processes[0]? = some process ∧ row' ∈ config'.shared.db.tenants ∧
      row'.trialReactivationCount = 1 ∧ row'.plan = .starter ∧
      row'.trialEndsAt = some (pgTime process.loc.startedAt + days (tiered row'.plan)) := by
  obtain ⟨config, reaches, passed⟩ := server.exists_reaches_of_run code
    (fun config action => runs tiered config action = true)
    (.start reactivation :: List.replicate 11 (.step 0 (.proceed 1)))
    (Config.initial ⟨expired, 1000⟩)
    (fun config => runs tiered config (.step 0 (.proceed 1)) &&
      reactivating 0 (fun _ row' => row'.trialReactivationCount = 1 && row'.plan = .starter) config)
    (by decide +kernel)
  rw [Bool.and_eq_true] at passed
  obtain ⟨config', process, acted, current, row, mem, row', mem', same, raised, test⟩ :=
    exists_of_reactivating passed.2
  rw [Bool.and_eq_true, decide_eq_true_eq, decide_eq_true_eq] at test
  exact ⟨config, config', process, row', reaches, acted, current, mem', test.1, test.2,
    length_of_stored_plan reaches passed.1 acted current row mem row' mem' same raised⟩

/-- The plan changes between the look-up and the update: the trial of a pro tenant gets
the 30 days of the starter plan. -/
theorem exists_wrong_length :
    ∃ config config' process row row',
      server.Reaches code (fun config action =>
          allows (priced tiered) (fun _ _ _ _ _ => true) config action = true)
        (Config.initial ⟨expired, 1000⟩) config ∧
      server.act code (.step 0 (.proceed 1)) config = some config' ∧
      config.processes[0]? = some process ∧
      row ∈ config.shared.db.tenants ∧ row' ∈ config'.shared.db.tenants ∧ row'.id = row.id ∧
      row'.trialReactivationCount ≠ row.trialReactivationCount ∧ row'.plan = .pro ∧
      row'.trialEndsAt ≠ some (pgTime process.loc.startedAt + days (tiered row'.plan)) := by
  obtain ⟨config, reaches, passed⟩ := server.exists_reaches_of_run code
    (fun config action => allows (priced tiered) (fun _ _ _ _ _ => true) config action = true)
    ([.start reactivation,
        .start (.handle 5000 (fun plan => .ok (tiered plan))
          ⟨8, 1, 1000, .tenantPlanChanged (some .pro)⟩)] ++
      List.replicate 4 (.step 0 (.proceed 1)) ++ List.replicate 9 (.step 1 (.proceed 1)) ++
      List.replicate 7 (.step 0 (.proceed 1)))
    (Config.initial ⟨expired, 1000⟩)
    (fun config => reactivating 0 (fun startedAt row' => row'.plan = .pro &&
      row'.trialEndsAt ≠ some (pgTime startedAt + days (tiered row'.plan))) config)
    (by decide +kernel)
  obtain ⟨config', process, acted, current, row, mem, row', mem', same, raised, test⟩ :=
    exists_of_reactivating passed
  rw [Bool.and_eq_true, decide_eq_true_eq, decide_eq_true_eq] at test
  exact ⟨config, config', process, row, row', reaches, acted, current, mem, mem', same, raised,
    test.1, test.2⟩

end TrialLength

end OrgMembership

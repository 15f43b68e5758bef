import OrgMembership.Service.Jobs
import OrgMembership.Service.Projecting

/-!
# Trial clean-up

`TrialCleanup` lists the trials that ended before the grace period and deletes
them one by one, each in a transaction of its own that does not look at the row
again.  So it deletes lapsed trials only, if no event changes a listed tenant
while the job is running.
-/

namespace OrgMembership

open Concurrency Relational

namespace TrialCleanup

variable {locks : List (Lock LockKey)} {candidates : List Uuid} {writes : List Write}
  {query : Query} {id : Uuid} {result : query.Result}

/-- The consumer and the job. -/
inductive Call
  | handle (skew : Int) (catalog : PlanCatalog) (env : Envelope)
  | replayParked (catalog : PlanCatalog) (tenantID : Uuid)
  | trialCleanup (limit : Nat)

/-- The program of a call. -/
def code (graceDays : Int) : Call → DbProgram (Except Failure Unit)
  | .handle skew catalog env => (handle skew catalog env).run
  | .replayParked catalog tenantID =>
      Fallible.run do
        let _ ← replayParked catalog tenantID
        return ()
  | .trialCleanup limit =>
      Fallible.run do
        let _ ← trialCleanup graceDays limit
        return ()

/-- A candidate of the job that this session runs. -/
def listed (session : DbSession) (id : Uuid) : Bool :=
  session.history.any fun
    | .issued (.tenant (.listExpiredTrialTenants _ _)) ids => ids.contains id
    | _ => false

/-- What the writes make of the candidates: only lapsed trials. -/
def spares (graceDays now : Int) (candidate : Uuid → Bool) (writes : List Write) : Bool :=
  writes.all fun
    | .tenant (.put row) => !candidate row.id || row.trialLapsed graceDays now
    | _ => true

/-- The runs in which no transaction changes a tenant that a running job has listed
into anything but a lapsed trial. -/
def runs (graceDays : Int) : DbConfig Call (Except Failure Unit) →
    Action Call (Chance PgError) Nat → Bool :=
  allows (fun _ => true) fun config index _ _ session =>
    (config.processes.eraseIdx index).all fun other =>
      other.returned || spares graceDays config.shared.now (listed other.loc) session.writes

/-! ## The protocol -/

/-- Every tenant that vanishes was a lapsed trial. -/
def Lapsed (graceDays now : Int) (before after : Db) : Prop :=
  ∀ row ∈ before.tenants, ¬after.tenants.Has row.id → row.trialLapsed graceDays now = true

section Protocol

variable (graceDays : Int)

/-- A commit deletes lapsed trials only, and spares what another job has listed. -/
def protocol : DbProtocol where
  Inv _ := True
  Admits _ _ _ := True
  Coexist server actor other :=
    spares graceDays server.now (listed other) actor.writes = true
  Guar actor before after := before = after ∨ after = dialect.committed before actor ∧
    Lapsed graceDays before.now before.db after.db
  Drift before after := before.db = after.db ∧ before.now ≤ after.now

/-- The candidates of the session are still lapsed trials. -/
def Tidy (server : DbServer) (session : DbSession) : Prop :=
  ∀ row ∈ server.db.tenants, listed session row.id = true →
    row.trialLapsed graceDays server.now = true

/-- The job between two transactions. -/
structure Waiting (candidates : List Uuid) (server : DbServer) (session : DbSession) : Prop where
  idle : session.Idle
  tidy : Tidy graceDays server session
  candidates : ∀ id ∈ candidates, listed session id = true

/-- The job inside a transaction: it only deletes tenants, and only candidates. -/
structure Deleting (candidates : List Uuid) (server : DbServer) (session : DbSession) :
    Prop where
  tidy : Tidy graceDays server session
  candidates : ∀ id ∈ candidates, listed session id = true
  unchanged : ∀ row, .tenant (.put row) ∉ session.writes
  deletes : ∀ id, .tenant (.delete id) ∈ session.writes → listed session id = true

/-- A transaction that deletes no tenant. -/
def Keeping (session : DbSession) : Prop :=
  ∀ id, .tenant (.delete id) ∉ session.writes

variable {graceDays}

theorem lenient : Lenient (protocol graceDays) :=
  fun _ _ => .inl rfl

theorem trialLapsed_mono {row : Tenant} {now now' : Int} (later : now ≤ now')
    (lapsed : row.trialLapsed graceDays now = true) : row.trialLapsed graceDays now' = true := by
  simp only [Tenant.trialLapsed, Bool.and_eq_true, Option.any_eq_true, decide_eq_true_eq]
    at lapsed ⊢
  obtain ⟨expired, ends, found, before⟩ := lapsed
  exact ⟨expired, ends, found, by omega⟩

theorem tidy_of_rely {before after : DbServer} {session : DbSession}
    (rely : (protocol graceDays).Rely session before after)
    (tidy : Tidy graceDays before session) : Tidy graceDays after session := by
  intro row mem candidate
  rcases rely with ⟨actor, apart, rfl | ⟨rfl, _⟩⟩ | ⟨same, later⟩
  · exact tidy row mem candidate
  · change row ∈ tenantAccess.table (dialect.view before actor) at mem
    rw [tenantLawful.table_view] at mem
    rcases Table.mem_applyAll mem with put | ⟨old, _⟩
    · have spared : spares graceDays before.now (listed session) actor.writes = true := apart
      rw [spares, List.all_eq_true] at spared
      have lapsed := spared _ (tenantLawful.mem_changes.mp put)
      simp only [tenantAccess, candidate, Bool.not_true, Bool.false_or] at lapsed
      exact lapsed
    · exact tidy row old candidate
  · rw [← same] at mem
    exact trialLapsed_mono later (tidy row mem candidate)

theorem stable_waiting (candidates : List Uuid) :
    (protocol graceDays).Stable (Waiting graceDays candidates) :=
  fun _ _ _ _ _ rely waiting => ⟨waiting.idle, tidy_of_rely rely waiting.tidy, waiting.candidates⟩

theorem stable_deleting (candidates : List Uuid) :
    (protocol graceDays).Stable (Deleting graceDays candidates) :=
  fun _ _ _ _ _ rely deleting => ⟨tidy_of_rely rely deleting.tidy, deleting.candidates,
    deleting.unchanged, deleting.deletes⟩

end Protocol

/-! ## Commits -/

section Commit

variable {graceDays : Int} {server : DbServer} {session : DbSession}

/-- A tenant that a commit removes is one the session has deleted. -/
theorem deleted_of_committed {row : Tenant} (mem : row ∈ server.db.tenants)
    (gone : ¬(dialect.committed server session).db.tenants.Has row.id) :
    .tenant (.delete row.id) ∈ session.writes := by
  by_contra kept
  apply gone
  change (tenantAccess.table (dialect.view server session)).Has row.id
  rw [tenantLawful.table_view]
  refine (Table.has_applyAll fun deleted => ?_).mpr (.inr ⟨row, mem, rfl⟩)
  exact kept (tenantLawful.mem_changes.mp deleted)

theorem commits_keeping (keeping : Keeping session) :
    (protocol graceDays).Inv (dialect.committed server session) ∧
      (protocol graceDays).Guar session server (dialect.committed server session) ∧
      session.closed.Idle := by
  refine ⟨trivial, .inr ⟨rfl, fun row mem gone => ?_⟩, session.idle_closed⟩
  exact absurd (deleted_of_committed mem gone) (keeping row.id)

theorem commits_deleting (deleting : Deleting graceDays candidates server session) :
    (protocol graceDays).Inv (dialect.committed server session) ∧
      (protocol graceDays).Guar session server (dialect.committed server session) ∧
      Waiting graceDays candidates (dialect.committed server session) session.closed := by
  refine ⟨trivial, .inr ⟨rfl, fun row mem gone => ?_⟩, session.idle_closed, ?_,
    deleting.candidates⟩
  · exact deleting.tidy row mem (deleting.deletes row.id (deleted_of_committed mem gone))
  · intro row mem candidate
    change row ∈ tenantAccess.table (dialect.view server session) at mem
    rw [tenantLawful.table_view] at mem
    rcases Table.mem_applyAll mem with put | ⟨old, _⟩
    · exact absurd (tenantLawful.mem_changes.mp put) (deleting.unchanged row)
    · exact deleting.tidy row old candidate

end Commit

/-! ## The consumer -/

section Consumer

variable {σ α : Type} {graceDays : Int} {tenantID : Uuid}

theorem keeps_delivers (delivers : Delivers tenantID query) :
    Keeps (protocol graceDays) (fun _ => Keeping) (send .pg query : DbM σ _) := by
  apply attempt_send lenient (Protocol.stable_local _)
  · intro server session fresh result writes _ keeping _ yields id mem
    rcases List.mem_append.mp mem with old | new
    · exact keeping id old
    · cases tenant_write yields new with
      | delete => exact delivers
  · exact fun _ _ _ _ keeping => keeping

/-- A transaction of the consumer deletes no tenant. -/
theorem idles_keeping {body : DbM σ α}
    (keeps : Keeps (protocol graceDays) (fun _ => Keeping) body) :
    Idles (protocol graceDays) (transaction .pg body) := by
  apply attempt_idle_transaction lenient (fun _ => Protocol.stable_local Keeping)
  · refine Attempt.weaken keeps (fun _ session _ blank => ?_) (fun _ _ _ _ keeping => keeping)
      fun _ _ _ _ _ => trivial
    intro id mem
    rw [blank.unwritten] at mem
    exact List.not_mem_nil mem
  · exact fun _ _ _ _ keeping _ => commits_keeping keeping

theorem idles_handled (skew : Int) (catalog : PlanCatalog) (env : Envelope) :
    Idles (protocol graceDays) (handle skew catalog env : DbM σ _) :=
  idles_handle lenient fun _ =>
    idles_keeping (keeps_claimed (fun _ delivers _ => keeps_delivers delivers) rfl)

theorem idles_replayed (catalog : PlanCatalog) (tenantID : Uuid) :
    Idles (protocol graceDays) (replayParked catalog tenantID : DbM σ _) :=
  idles_replayParked lenient fun _ _ =>
    idles_keeping (keeps_replayTx fun _ settles _ =>
      keeps_delivers (delivers_of_settles settles))

end Consumer

/-! ## The job -/

section Job

variable {σ : Type} {graceDays : Int}

/-- What a session has listed stays listed. -/
theorem listed_extended {session : DbSession} (before : listed session id = true) :
    listed (session.extended query result locks writes) id = true := by
  rw [listed, Session.extended, List.any_cons, Bool.or_eq_true]
  exact .inr before

/-- Only a listing lists. -/
theorem listed_of_extended {session : DbSession}
    (other : ∀ graceDays limit, query ≠ .tenant (.listExpiredTrialTenants graceDays limit))
    (after : listed (session.extended query result locks writes) id = true) :
    listed session id = true := by
  rw [listed, Session.extended, List.any_cons, Bool.or_eq_true] at after
  rcases after with new | old
  · split at new
    · cases ‹Entry.issued _ _ = _›
      exact absurd rfl (other _ _)
    · exact absurd new Bool.false_ne_true
  · exact old

theorem Deleting.extended {server : DbServer} {session : DbSession}
    (deleting : Deleting graceDays candidates server session)
    (other : ∀ graceDays limit, query ≠ .tenant (.listExpiredTrialTenants graceDays limit))
    (puts : ∀ row, .tenant (.put row) ∉ writes)
    (deletes : ∀ id, .tenant (.delete id) ∈ writes → listed session id = true) :
    Deleting graceDays candidates server (session.extended query result locks writes) where
  tidy row mem candidate := deleting.tidy row mem (listed_of_extended other candidate)
  candidates id mem := listed_extended (deleting.candidates id mem)
  unchanged row mem := (List.mem_append.mp mem).elim (deleting.unchanged row) (puts row)
  deletes id mem := by
    rcases List.mem_append.mp mem with old | new
    · exact listed_extended (deleting.deletes id old)
    · exact listed_extended (deletes id new)

theorem Deleting.closed {server : DbServer} {session : DbSession}
    (deleting : Deleting graceDays candidates server session) :
    Waiting graceDays candidates server session.closed :=
  ⟨session.idle_closed, deleting.tidy, deleting.candidates⟩

theorem Waiting.opened {server : DbServer} {session : DbSession}
    (waiting : Waiting graceDays candidates server session) :
    Deleting graceDays candidates server (session.opened server.now) :=
  ⟨waiting.tidy, waiting.candidates, fun _ => List.not_mem_nil,
    fun _ mem => absurd mem List.not_mem_nil⟩

theorem keeps_hardDelete (candidate : id ∈ candidates) :
    Keeps (protocol graceDays) (Deleting graceDays candidates)
      (TenantRepository.hardDeleteTenant id : DbM σ _) := by
  apply attempt_send lenient (stable_deleting candidates)
  · intro server session fresh result writes _ deleting _ yields
    refine deleting.extended (by simp) (fun row mem => ?_) fun other mem => ?_
    · cases tenant_write yields mem
    · cases tenant_write yields mem
      exact deleting.candidates id candidate
  · exact fun _ _ _ _ deleting => deleting

theorem keeps_enqueue {event : DomainEvent} :
    Keeps (protocol graceDays) (Deleting graceDays candidates) (enqueue event : DbM σ _) := by
  apply attempt_send lenient (stable_deleting candidates)
  · intro server session fresh result writes _ deleting _ yields
    refine deleting.extended (by simp) (fun row mem => ?_) fun other mem => ?_
    · cases tenant_write yields mem
    · cases tenant_write yields mem
  · exact fun _ _ _ _ deleting => deleting

/-- A transaction of the job leaves the candidates as they are, whether it succeeds
or not. -/
theorem keeps_transaction {α : Type} {body : DbM σ α}
    (keeps : Keeps (protocol graceDays) (Deleting graceDays candidates) body) :
    Keeps (protocol graceDays) (Waiting graceDays candidates) (transaction .pg body) := by
  apply attempt_transaction lenient (stable_waiting candidates)
    (fun _ => stable_deleting candidates) (fun _ => stable_deleting candidates) _ keeps
  · exact fun _ _ _ _ deleting _ => commits_deleting deleting
  · exact fun _ _ _ _ _ deleting => deleting.closed
  · exact fun _ _ _ _ _ after => after
  · exact fun _ _ _ _ deleting => deleting.closed
  · exact fun _ _ _ _ waiting => waiting
  · exact fun _ _ _ waiting => waiting.opened

theorem keeps_deleteOneTrial (candidate : id ∈ candidates) :
    Keeps (protocol graceDays) (Waiting graceDays candidates) (deleteOneTrial id : DbM σ _) :=
  attempt_runInTx
    (keeps_transaction (Attempt.bind (keeps_hardDelete candidate) fun _ => keeps_enqueue))
    fun _ _ _ _ _ waiting => waiting

theorem keeps_deleteTrials (candidates : List Uuid) (result : JobResult) :
    Attempt server (protocol graceDays) (Waiting graceDays candidates)
      (deleteTrials candidates result : DbM σ _) (fun _ _ session => session.Idle)
      fun _ _ session => session.Idle := by
  induction candidates generalizing result with
  | nil => exact Attempt.pure fun _ _ _ waiting => waiting.idle
  | cons id candidates ih =>
      refine Attempt.bind (Attempt.observe (keeps_deleteOneTrial List.mem_cons_self))
        fun outcome => ?_
      have fewer : ∀ result, Attempt server (protocol graceDays)
          (Waiting graceDays (id :: candidates)) (deleteTrials candidates result : DbM σ _)
          (fun _ _ session => session.Idle) fun _ _ session => session.Idle := fun result =>
        Attempt.strengthen (ih result) fun _ _ _ waiting => ⟨waiting.idle, waiting.tidy,
          fun other mem => waiting.candidates other (List.mem_cons_of_mem _ mem)⟩
      cases outcome with
      | ok _ => exact fewer _
      | error failure => exact fewer _

/-- The transaction of the listing has just begun. -/
structure Listing (graceDays : Int) (server : DbServer) (session : DbSession) : Prop
    extends Deleting graceDays [] server session where
  unwritten : session.writes = []
  began : session.startedAt ≤ server.now

theorem stable_listing : (protocol graceDays).Stable (Listing graceDays) := by
  intro before after session inv inv' rely listing
  refine ⟨stable_deleting [] before after session inv inv' rely listing.toDeleting,
    listing.unwritten, listing.began.trans ?_⟩
  rcases rely with ⟨actor, _, rfl | ⟨rfl, _⟩⟩ | ⟨_, later⟩
  · exact le_rfl
  · exact le_rfl
  · exact later

/-- The listing finds lapsed trials. -/
theorem attempt_listing {limit : Nat} :
    Attempt server (protocol graceDays) (Listing graceDays)
      (listExpiredTrialTenants graceDays limit : DbM σ _) (Deleting graceDays)
      fun _ => Listing graceDays := by
  apply attempt_read lenient stable_listing fun _ _ => rfl
  · intro server session fresh _ listing _
    rw [view_of_unwritten listing.unwritten]
    constructor
    · intro row mem candidate
      rw [listed, Session.extended, List.any_cons, Bool.or_eq_true] at candidate
      rcases candidate with new | old
      · obtain ⟨found, memFound, same⟩ :=
          List.mem_map.mp (List.mem_of_mem_take (List.contains_iff_mem.mp new))
        rw [Table.mem_select, Bool.and_eq_true] at memFound
        rw [← Table.eq_of_key_eq memFound.1 mem same]
        exact trialLapsed_mono ((pgTime_le _).trans listing.began) memFound.2.1
      · exact listing.tidy row mem old
    · intro id mem
      rw [listed, Session.extended, List.any_cons, Bool.or_eq_true]
      exact .inl (List.contains_iff_mem.mpr mem)
    · intro row mem
      exact listing.unchanged row (by simpa [Session.extended] using mem)
    · intro id mem
      exact listed_extended (listing.deletes id (by simpa [Session.extended] using mem))
  · exact fun _ _ _ _ listing => listing

theorem attempt_trialCleanup (limit : Nat) :
    Attempt server (protocol graceDays) (Waiting graceDays [])
      (trialCleanup graceDays limit : DbM σ _) (fun _ _ session => session.Idle)
      fun _ _ session => session.Idle := by
  have lists : Attempt server (protocol graceDays) (Waiting graceDays [])
      (withPool (listExpiredTrialTenants graceDays limit) : DbM σ _) (Waiting graceDays)
      fun _ _ session => session.Idle := by
    apply attempt_withPool
    apply attempt_transaction lenient (stable_waiting []) (fun ids => stable_deleting ids)
      (fun _ => stable_listing) _ attempt_listing
    · exact fun _ _ _ _ deleting _ => commits_deleting deleting
    · exact fun _ _ _ session _ _ => session.idle_closed
    · exact fun _ _ session _ _ _ => session.idle_closed
    · exact fun _ _ session _ _ => session.idle_closed
    · exact fun _ _ _ _ waiting => waiting.idle
    · exact fun _ _ _ waiting => ⟨waiting.opened, rfl, le_rfl⟩
  exact Attempt.bind lists fun ids => keeps_deleteTrials ids ⟨0, 0, 0, 0⟩

end Job

/-! ## Every run -/

variable {graceDays : Int}

theorem verified : Verified server (protocol graceDays) (code graceDays) (fun _ => True)
    fun _ _ _ session => session.Idle where
  triple call _ := by
    cases call with
    | handle skew catalog env => exact triple_of_idles (idles_handled skew catalog env)
    | replayParked catalog tenantID =>
        exact triple_of_idles (idles_replayed catalog tenantID).drop
    | trialCleanup limit =>
        have cleans : Attempt server (protocol graceDays) (Waiting graceDays [])
            (trialCleanup graceDays limit >>= fun _ => pure () : DbM Unit Unit)
            (fun _ _ session => session.Idle) fun _ _ session => session.Idle :=
          Attempt.bind (attempt_trialCleanup limit) fun _ => Attempt.pure fun _ _ _ idle => idle
        refine Triple.weaken (Attempt.run cleans) ?_ fun result _ _ _ idle => ?_
        · rintro server session _ rfl
          exact ⟨Session.idle_fresh, fun _ _ candidate => absurd candidate Bool.false_ne_true,
            nofun⟩
        · cases result <;> exact idle
  settled _ _ := fun _ _ _ _ _ _ holds => holds
  drift elapsed server _ := ⟨trivial, rfl, Int.le_add_of_nonneg_right (Int.natCast_nonneg elapsed)⟩

theorem enforces {start : DbServer} :
    Enforces server (protocol graceDays) (code graceDays) (fun _ => True)
      (fun config action => runs graceDays config action = true) (Config.initial start) where
  admits _ _ _ := trivial
  executes config index choice config' call session statement next _ permitted executes := by
    refine ⟨trivial, fun position other apart found running => ?_⟩
    have permits := List.all_eq_true.mp (executes_of_allows permitted executes.current) other
      (List.mem_eraseIdx_iff_getElem?.mpr ⟨position, apart, found⟩)
    rw [Bool.or_eq_true] at permits
    rcases permits with returned | spared
    · exact absurd running (Process.not_running_of_returned returned)
    · exact spared

/-- Every tenants row that a step removes was, right before, a trial that had ended
before the grace period, in every run in which no transaction changes a tenant that
a running job has listed into anything but a lapsed trial. -/
theorem lapsed_of_reaches {start : DbServer} {config config' : DbConfig Call (Except Failure Unit)}
    {action : Action Call (Chance PgError) Nat}
    (reaches : server.Reaches (code graceDays)
      (fun config action => runs graceDays config action = true) (Config.initial start) config)
    (permitted : runs graceDays config action = true)
    (acted : server.act (code graceDays) action config = some config') :
    ∀ row ∈ config.shared.db.tenants, ¬config'.shared.db.tenants.Has row.id →
      row.trialLapsed graceDays config.shared.now = true := by
  intro row mem gone
  cases action with
  | step index choice =>
      obtain ⟨_, _, same | ⟨_, lapsed⟩⟩ :=
        reaches.guarantees verified enforces trivial permitted acted
      · rw [← same] at gone
        exact absurd ⟨row, mem, rfl⟩ gone
      · exact lapsed row mem gone
  | start | crash | signal =>
      cases acted
      exact absurd ⟨row, mem, rfl⟩ gone

/-- A trial that ended at time 0. -/
def endedTrial : Db :=
  { Db.empty with
    tenants := .singleton { trialRow with status := .trialExpired, trialEndsAt := some 0 } }

/-- The step of the process deletes every tenant. -/
def clears (index : Nat) (config : DbConfig Call (Except Failure Unit)) : Bool :=
  (server.act (code 30) (.step index (.proceed 1)) config).any fun config' =>
    config'.shared.db.tenants.rows.isEmpty

theorem gone_of_clears {index : Nat} {config : DbConfig Call (Except Failure Unit)}
    (cleared : clears index config = true) :
    ∃ config', server.act (code 30) (.step index (.proceed 1)) config = some config' ∧
      ∀ id, ¬config'.shared.db.tenants.Has id := by
  obtain ⟨config', acted, empty⟩ := (Option.any_eq_true _ _).mp cleared
  refine ⟨config', acted, ?_⟩
  rintro id ⟨row, mem, _⟩
  change row ∈ config'.shared.db.tenants.rows at mem
  rw [List.isEmpty_iff.mp empty] at mem
  exact List.not_mem_nil mem

/-- The job deletes the trial 31 days after its end. -/
theorem lapsed_when_deleted :
    ∃ config config', server.Reaches (code 30) (fun config action => runs 30 config action = true)
        (Config.initial ⟨endedTrial, days 31⟩) config ∧
      server.act (code 30) (.step 0 (.proceed 1)) config = some config' ∧
      config.shared.db.tenants.Has 1 ∧ ¬config'.shared.db.tenants.Has 1 ∧
      ∀ row ∈ config.shared.db.tenants, row.trialLapsed 30 config.shared.now = true := by
  obtain ⟨config, reaches, ready⟩ := server.exists_reaches_of_run (code 30)
    (fun config action => runs 30 config action = true)
    (.start (.trialCleanup 10) :: List.replicate 6 (.step 0 (.proceed 1)))
    (Config.initial ⟨endedTrial, days 31⟩)
    (fun config => clears 0 config && decide (config.shared.db.tenants.Has 1) &&
      runs 30 config (.step 0 (.proceed 1))) (by decide +kernel)
  simp only [Bool.and_eq_true, decide_eq_true_eq] at ready
  obtain ⟨config', acted, gone⟩ := gone_of_clears ready.1.1
  exact ⟨config, config', reaches, acted, ready.1.2, gone 1,
    fun row mem => lapsed_of_reaches reaches ready.2 acted row mem (gone row.id)⟩

/-- The tenant is listed, converts, and is deleted as a paying customer. -/
theorem exists_paid_deletion :
    ∃ config config', server.Reaches (code 30) (fun _ _ => True)
        (Config.initial ⟨endedTrial, days 31⟩) config ∧
      server.act (code 30) (.step 0 (.proceed 1)) config = some config' ∧
      ∃ row ∈ config.shared.db.tenants, ¬config'.shared.db.tenants.Has row.id ∧
        row.status = .active ∧ row.trialLapsed 30 config.shared.now = false := by
  obtain ⟨config, reaches, ready⟩ := server.exists_reaches_of_run (code 30) (fun _ _ => True)
    ([.start (.trialCleanup 10),
        .start (.handle 0 (fun _ => .ok 0) ⟨7, 1, days 31, .tenantConverted none⟩)] ++
      List.replicate 3 (.step 0 (.proceed 1)) ++ List.replicate 9 (.step 1 (.proceed 1)) ++
      List.replicate 3 (.step 0 (.proceed 1)))
    (Config.initial ⟨endedTrial, days 31⟩)
    (fun config => clears 0 config && config.shared.db.tenants.rows.any fun row =>
      row.status = .active && !row.trialLapsed 30 config.shared.now) (by decide +kernel)
  rw [Bool.and_eq_true, List.any_eq_true] at ready
  obtain ⟨cleared, row, mem, paid⟩ := ready
  obtain ⟨config', acted, gone⟩ := gone_of_clears cleared
  rw [Bool.and_eq_true, decide_eq_true_eq, Bool.not_eq_true'] at paid
  exact ⟨config, config', reaches, acted, row, mem, gone row.id, paid⟩

end TrialCleanup

end OrgMembership

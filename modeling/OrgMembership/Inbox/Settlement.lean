import OrgMembership.Inbox.Replay

/-!
# Events are settled once

Deliveries, I-1 calls and replay sweeps in any interleaving.  The projection of
an event commits at most once; and in the runs in which no look-up after a failed
lock finds a live tenant, every event whose `Handle` succeeded is parked, applied,
skipped or rightly dropped, and a replay that began after the tenant was created
leaves none of its events parked.
-/

namespace OrgMembership

open Concurrency Relational

namespace Inbox

variable {σ : Type} {strict : Bool} {tenantID : Uuid}

/-! ## I-1 -/

/-- The tenant exists once the session commits. -/
def Founds (tenantID : Uuid) (server : DbServer) (session : DbSession) : Prop :=
  (∃ row, .tenant (.put row) ∈ session.writes ∧ row.id = tenantID) ∨
    server.db.tenants.Has tenantID

theorem Founded.has_view {server : DbServer} {session : DbSession}
    (founded : Founded server session) :
    (dialect.view server session).tenants.Has tenantID ↔ Founds tenantID server session := by
  change (tenantAccess.table (dialect.view server session)).Has tenantID ↔ _
  rw [tenantLawful.table_view]
  refine (Table.has_applyAll fun deleted =>
    founded.undeleted tenantID (tenantLawful.mem_changes.mp deleted)).trans ?_
  exact or_congr_left (exists_congr fun row => and_congr_left fun _ => tenantLawful.mem_changes)

/-- Nothing in the ledger is pending, and the tenant will exist. -/
def Founding (tenantID : Uuid) : Assertion DbServer DbSession :=
  fun server session => Bookless server session ∧ Founds tenantID server session

theorem stable_founding : (protocol strict).Stable (Founding tenantID) := by
  refine stable_bookless.and fun before after session _ _ rely founds => ?_
  rcases rely_cases rely with same | ⟨actor, _, step⟩
  · exact founds.imp_right fun has => same ▸ has
  · exact founds.imp_right (step.keeps tenantID)

theorem within_founding {α : Type} {body : DbM σ α} (issues : Fallible.Issues (Only Steady) body) :
    Within (protocol strict) (Founding tenantID) body fun _ => Founding tenantID := by
  refine within_only lenient stable_founding ?_ issues
  intro query steady server session fresh result writes _ founding _ yields
  refine ⟨founding.1.steady steady yields, founding.2.imp_left ?_⟩
  rintro ⟨row, put, same⟩
  exact ⟨row, List.mem_append_left _ put, same⟩

theorem within_lockForSignup :
    Within (protocol strict) (fun _ session => session.Blank)
      (ParkedTenantEventRepository.lockTenantProvisioning tenantID : DbM σ _)
      fun _ server session => Bookless server session ∧ Provisions tenantID session := by
  refine within_send lenient (Protocol.stable_local _) ?_
  intro server session fresh result writes _ blank _ yields
  obtain rfl := Effect.yields_advisory.mp yields
  exact ⟨bookless_of_unwritten (by simp [Session.extended, blank.unwritten]),
    List.mem_append_right _ (List.mem_singleton.mpr rfl)⟩

/-- The insert of a tenant under the provisioning lock. -/
theorem within_insertTenant (values : TenantInsert) :
    Within (protocol strict)
      (fun server session => Bookless server session ∧ Provisions values.id session)
      (tenantQuery (.insert values) : DbM σ _) fun _ => Founding values.id := by
  refine within_send lenient (stable_bookless.and (Protocol.stable_local _)) ?_
  rintro server session fresh result writes _ ⟨bookless, provisions⟩ _ yields
  have off : OffLedger (.tenant (.insert values)) := by simp [OffLedger]
  rcases tenantInsert_cases yields with ⟨rfl, rfl, has⟩ | ⟨rfl, rfl, _⟩
  · refine ⟨⟨(pending_offLedger off yields).trans bookless.pending,
      bookless.founded.extended (by simp) (by simp)⟩, ?_⟩
    refine (bookless.founded.has_view.mp has).imp_left ?_
    rintro ⟨row, put, same⟩
    exact ⟨row, List.mem_append_left _ put, same⟩
  · refine ⟨⟨(pending_offLedger off yields).trans bookless.pending,
      bookless.founded.extended (by simp) fun row mem => .inr ?_⟩,
      .inl ⟨_, List.mem_append_right _ (List.mem_singleton.mpr rfl), rfl⟩⟩
    obtain rfl : row = values.row _ := by simpa using mem
    exact provisions

theorem within_trialSignupTx {input : TrialSignupInput} {hash : String} {seats trialEnds : Int}
    {trialDeptIDs : List Uuid} :
    Within (protocol strict) (fun _ session => session.Blank)
      (trialSignupTx input hash seats trialEnds trialDeptIDs : DbM σ _)
      fun _ => Founding input.tenantID := by
  have steady : ∀ query : Query, OffLedger query → .tenants ∉ query.writesTo → Steady query :=
    fun query off untouched => ⟨off, by rintro id rfl; simp at untouched,
      by rintro values rfl; simp at untouched⟩
  have inserts : Within (protocol strict)
      (fun server session => Bookless server session ∧ Provisions input.tenantID session)
      (TenantRepository.insert (trialTenant input trialEnds seats) : DbM σ _)
      fun _ => Founding input.tenantID := by
    refine Attempt.bind (Attempt.mapError (within_insertTenant (trialTenant input trialEnds seats)))
      fun created => ?_
    cases created with
    | some tenant => exact Attempt.pure fun _ _ _ founding => founding
    | none =>
        refine Attempt.bind
          (within_founding (issues_send (steady _ (by simp [OffLedger]) (by simp)))) fun found => ?_
        cases found with
        | none => exact within_throw
        | some existing => exact Attempt.pure fun _ _ _ founding => founding
  refine Attempt.bind within_lockForSignup fun _ => Attempt.bind inserts fun created => ?_
  refine Attempt.bind
    (within_founding (issues_claimHash (steady _ (by simp [OffLedger]) (by simp)))) fun _ => ?_
  split
  · refine Attempt.bind (within_founding (issues_seedTenant ⟨?_, ?_, ?_, ?_, ?_, ?_, ?_⟩)) fun _ =>
      Attempt.pure fun _ _ _ founding => founding
    all_goals intros; exact steady _ (by simp [OffLedger]) (by simp)
  · exact Attempt.pure fun _ _ _ founding => founding

theorem settled_has : (protocol strict).Settled fun server _ => server.db.tenants.Has tenantID := by
  intro before after _ _ _ moved has
  rcases moved with ⟨actor, same | step⟩ | drift
  · exact same ▸ has
  · exact step.keeps tenantID has
  · exact (show before.db = after.db from drift) ▸ has

/-- `TrialSignup`: the tenant exists, and the replay, if it ends without error, leaves nothing
parked. -/
theorem attempt_trialSignup {catalog : PlanCatalog}
    {departments : Except Failure (List CatalogDepartment)} {input : TrialSignupInput} :
    Attempt server (protocol strict) (fun _ session => session.Idle)
      (trialSignup catalog departments input : DbM σ _)
      (fun result server session => session.Idle ∧
        (Due result.replay.isOk input.tenantID [] server.db ∧
          server.db.tenants.Has input.tenantID))
      fun _ _ session => session.Idle := by
  have signs : ∀ hash seats trialEnds trialDeptIDs, Attempt server (protocol strict)
      (fun _ session => session.Idle)
      (runInTx (trialSignupTx input hash seats trialEnds trialDeptIDs) : DbM σ _)
      (fun _ server session => session.Idle ∧
        (true = true → server.db.tenants.Has input.tenantID))
      fun _ _ session => session.Idle := by
    intro hash seats trialEnds trialDeptIDs
    refine attempt_runInTx (attempt_idle_transaction lenient (fun _ => stable_founding)
      within_trialSignupTx ?_) fun _ _ _ _ _ idle => idle
    intro _ server session inv founding admits
    obtain ⟨inv', guar⟩ := commit_bookless inv founding.1 admits.1
    exact ⟨inv', guar, session.idle_closed, fun _ => founding.1.founded.has_view.mpr founding.2⟩
  rw [trialSignup]
  split
  · exact Attempt.throw fun _ _ _ idle => idle
  · exact Attempt.throw fun _ _ _ idle => idle
  · refine Attempt.bind (idles_timeNow lenient) fun now => ?_
    cases departments with
    | error failure => exact Attempt.throw fun _ _ _ idle => idle
    | ok departments =>
        refine Attempt.bind (signs _ _ _ _) fun created => ?_
        have replays : Attempt server (protocol strict)
            (fun server session => session.Idle ∧
              (true = true → server.db.tenants.Has input.tenantID))
            (replayParked catalog input.tenantID : DbM σ _)
            (fun _ server session => (session.Idle ∧ Due true input.tenantID [] server.db) ∧
              server.db.tenants.Has input.tenantID)
            fun _ server session => session.Idle ∧ server.db.tenants.Has input.tenantID :=
          Attempt.strengthen (Attempt.settled settled_has attempt_replayParked)
            fun _ _ _ holds => ⟨holds, holds.2 rfl⟩
        refine Attempt.bind (Attempt.observe replays) fun replay => ?_
        cases replay with
        | error failure =>
            exact Attempt.pure fun _ _ _ holds => ⟨holds.1, fun known => by
              simp [Except.isOk, Except.toBool] at known, holds.2⟩
        | ok count =>
            exact Attempt.pure fun _ _ _ holds => ⟨holds.1.1, fun _ => holds.1.2 rfl, holds.2⟩

/-! ## Every run -/

/-- The calls of a run. -/
inductive Call
  | handle (skew : Int) (catalog : PlanCatalog) (env : Envelope)
  | trialSignup (catalog : PlanCatalog)
      (departments : Except Failure (List CatalogDepartment)) (input : TrialSignupInput)
  | replayParked (catalog : PlanCatalog) (tenantID : Uuid)

/-- The tenant whose parked events the call replays. -/
def Call.replays : Call → Option Uuid
  | handle _ _ _ => none
  | trialSignup _ _ input => some input.tenantID
  | replayParked _ tenantID => some tenantID

/-- A call returns whether it has replayed, without error, the events of a tenant
that existed when the replay began. -/
def code : Call → DbProgram (Except Failure Bool)
  | .handle skew catalog env =>
      (do OrgMembership.handle skew catalog env; return false : DbM Unit Bool).run
  | .trialSignup catalog departments input =>
      (do
        let result ← OrgMembership.trialSignup catalog departments input
        return result.replay.isOk : DbM Unit Bool).run
  | .replayParked catalog tenantID =>
      (do
        let seen ← eventQuery (.sighted tenantID)
        let _ ← OrgMembership.replayParked catalog tenantID
        return seen : DbM Unit Bool).run

/-- The runs in which no look-up after a failed lock finds a live tenant. -/
def runs : DbConfig Call (Except Failure Bool) → Action Call (Chance PgError) Nat → Bool :=
  allows (fun _ => true) fun config _ _ statement session =>
    lookupSound config.shared session statement

/-- What a call that has returned leaves behind. -/
def Post : Call → Except Failure Bool → Assertion DbServer DbSession
  | .handle _ _ env, .ok _ => fun server _ => server.db.processed.Has env.id
  | .trialSignup _ _ input, .ok replayed => fun server _ => Due replayed input.tenantID [] server.db
  | .replayParked _ tenantID, .ok seen => fun server _ => Due seen tenantID [] server.db
  | _, .error _ => fun _ _ => True

theorem settled_processed {eventID : Uuid} :
    (protocol strict).Settled fun server _ => server.db.processed.Has eventID := by
  intro before after _ _ _ moved has
  rcases moved with ⟨actor, same | step⟩ | drift
  · exact same ▸ has
  · exact step.remembers eventID has
  · exact (show before.db = after.db from drift) ▸ has

theorem settled_post (call : Call) (result : Except Failure Bool) :
    (protocol strict).Settled (Post call result) := by
  cases result with
  | error failure => cases call <;> exact fun _ _ _ _ _ _ holds => holds
  | ok flag =>
      cases call with
      | handle => exact settled_processed
      | trialSignup | replayParked => exact settled_due

theorem attempt_sighted :
    Attempt server (protocol strict) (fun _ session => session.Idle)
      (eventQuery (.sighted tenantID) : DbM σ _)
      (fun seen server session => session.Idle ∧ (seen = true → server.db.tenants.Has tenantID))
      fun _ _ session => session.Idle := by
  refine attempt_read lenient (Protocol.stable_local _) (fun _ _ => rfl) ?_
    fun _ _ _ _ idle => idle
  intro server session fresh _ idle _
  refine ⟨idle.extended, fun seen => ?_⟩
  rw [view_of_unwritten idle.unwritten] at seen
  exact Table.isSome_find?.mp seen

/-- The triple of a call as a process, from its attempt. -/
theorem triple_of_attempt {program : DbM Unit Bool} {call : Call}
    (attempt : Attempt server (protocol strict) (fun _ session => session.Idle) program
      (fun flag => Post call (.ok flag)) fun _ _ _ => True) :
    Triple server (protocol strict) (fun _ session => session = server.fresh) program.run
      (Post call) := by
  refine Triple.weaken attempt.run (fun _ _ _ fresh => fresh ▸ Session.idle_fresh) ?_
  intro result _ _ _ holds
  cases result with
  | ok flag => exact holds
  | error failure => cases call <;> trivial

theorem verified : Verified server (protocol strict) code (fun _ => True) Post where
  triple call _ := by
    cases call with
    | handle skew catalog env =>
        exact triple_of_attempt (Attempt.weaken (Attempt.bind attempt_handle fun _ =>
          Attempt.pure fun _ _ _ holds => holds.2) (fun _ _ _ idle => idle)
          (fun _ _ _ _ holds => holds) fun _ _ _ _ _ => trivial)
    | trialSignup catalog departments input =>
        exact triple_of_attempt (Attempt.weaken (Attempt.bind attempt_trialSignup fun result =>
          Attempt.pure fun _ _ _ holds => holds.2.1) (fun _ _ _ idle => idle)
          (fun _ _ _ _ holds => holds) fun _ _ _ _ _ => trivial)
    | replayParked catalog tenantID =>
        exact triple_of_attempt (Attempt.weaken (Attempt.bind attempt_sighted fun seen =>
          Attempt.bind attempt_replayParked fun _ => Attempt.pure fun _ _ _ holds => holds.2)
          (fun _ _ _ idle => idle) (fun _ _ _ _ holds => holds) fun _ _ _ _ _ => trivial)
  settled := settled_post
  drift _ _ inv := ⟨inv, rfl⟩

section Enforces

variable {permits : DbConfig Call (Except Failure Bool) → Action Call (Chance PgError) Nat → Prop}
  {start : DbServer}

theorem enforces
    (sound : strict = true → ∀ config action, permits config action → runs config action = true) :
    Enforces server (protocol strict) code (fun _ => True) permits (Config.initial start) where
  admits _ _ _ := trivial
  executes config index choice config' call session statement next reaches permitted executes := by
    obtain ⟨disciplined, others⟩ := facts_of_executes reaches executes
    refine ⟨⟨disciplined, fun strictly => ?_⟩, fun position other apart found _ =>
      (others position other apart found).1⟩
    exact executes_of_allows (sound strictly _ _ permitted) executes.current

variable {config : DbConfig Call (Except Failure Bool)}

theorem sound_of_reaches (strict : Bool) (accounted : Accounted start.db)
    (justified : strict = true → ∀ entry ∈ start.db.journal, entry.justified = true)
    (sound : strict = true → ∀ config action, permits config action → runs config action = true)
    (reaches : server.Reaches code permits (Config.initial start) config) :
    Sound server (protocol strict) Post config :=
  reaches.sound verified (enforces sound) ⟨⟨accounted, justified⟩, by simp [Config.initial]⟩

end Enforces

/-- The line of an accounted event that is not parked. -/
theorem exists_situation {db : Db} (accounted : Accounted db)
    (justified : ∀ entry ∈ db.journal, entry.justified = true) {eventID : Uuid}
    (processed : db.processed.Has eventID) :
    ∃ situation, situations db eventID = [situation] ∧ situation.justified = true := by
  have once := accounted.once eventID
  rw [if_pos processed] at once
  obtain ⟨situation, only⟩ := List.length_eq_one_iff.mp once
  refine ⟨situation, only, ?_⟩
  cases situation with
  | parked => rfl
  | settled entry =>
      have mem : Situation.settled entry ∈ situations db eventID := by simp [only]
      rw [situations] at mem
      split at mem <;> simp at mem <;> exact justified entry mem.1

/-- In every run in which no look-up after a failed lock finds a live tenant, an
event whose `Handle` succeeded is in exactly one place and rightly there; and
while a tenant is live, none of its events is parked after a replay that began
when the tenant existed and ended without error. -/
theorem settled_of_reaches {start : DbServer} {config : DbConfig Call (Except Failure Bool)}
    (accounted : Accounted start.db)
    (justified : ∀ entry ∈ start.db.journal, entry.justified = true)
    (reaches : server.Reaches code (fun config action => runs config action = true)
      (Config.initial start) config) :
    (∀ process ∈ config.processes, ∀ skew catalog env flag,
      process.call = .handle skew catalog env → process.program = .ret (.ok flag) →
        ∃ situation, situations config.shared.db env.id = [situation] ∧
          situation.justified = true) ∧
    ∀ process ∈ config.processes, ∀ tenantID, process.call.replays = some tenantID →
      process.program = .ret (.ok true) → LiveTenant tenantID config.shared.db →
        ∀ row ∈ config.shared.db.parked, row.tenantID ≠ tenantID := by
  obtain ⟨⟨accounted', justified'⟩, correct⟩ :=
    sound_of_reaches true accounted (fun _ => justified) (fun _ _ _ => id) reaches
  refine ⟨fun process mem skew catalog env flag called returned => ?_,
    fun process mem tenantID replays returned live row parked same => ?_⟩
  · have post := correct process mem
    rw [called, returned] at post
    exact exists_situation accounted' (justified' rfl) post
  · have post := correct process mem
    rw [returned] at post
    rcases called : process.call with _ | _ | _ <;> rw [called] at post replays <;> cases replays
    · exact absurd ((post rfl).rest live row parked same) List.not_mem_nil
    · exact absurd ((post rfl).rest live row parked same) List.not_mem_nil

theorem accounted_empty : Accounted Db.empty :=
  ⟨fun eventID => by simp [length_situations, Db.empty], by simp [Db.empty]⟩

/-- A trial, and an event about it. -/
def acme : TrialSignupInput :=
  ⟨1, "acme", "Acme", .starter, 101, "", "", 0⟩

/-- Every plan has a trial of thirty days. -/
def monthly : PlanCatalog :=
  fun _ => .ok 30

/-- An operator suspends tenant 1. -/
def suspension : Envelope :=
  ⟨7, 1, 5, .tenantSuspended .operator⟩

/-- The process has delivered the event and succeeded. -/
def delivers (env : Envelope) (process : Process (Reply Query.Result PgError) Call DbSession
    (Except Failure Bool)) : Bool :=
  match process.call, process.program with
  | .handle _ _ delivered, .ret (.ok _) => delivered = env
  | _, _ => false

theorem exists_of_delivers {env : Envelope} {processes : List (Process
    (Reply Query.Result PgError) Call DbSession (Except Failure Bool))}
    (delivered : processes.any (delivers env) = true) :
    ∃ process ∈ processes, ∃ skew catalog flag,
      process.call = .handle skew catalog env ∧ process.program = .ret (.ok flag) := by
  obtain ⟨⟨call, loc, program⟩, mem, holds⟩ := List.any_eq_true.mp delivered
  rcases call with ⟨skew, catalog, other⟩ | _ | _ <;> rcases program with (_ | flag) | _ <;>
    simp only [delivers, Bool.false_eq_true] at holds
  exact ⟨_, mem, skew, catalog, flag, by rw [of_decide_eq_true holds], rfl⟩

/-- The process has returned a flag of this kind. -/
def returns (test : Bool → Bool) (process : Process (Reply Query.Result PgError) Call DbSession
    (Except Failure Bool)) : Bool :=
  match process.program with
  | .ret (.ok flag) => test flag
  | _ => false

/-- An event is parked, and the sign-up's replay settles it. -/
theorem settled_after_signup :
    ∃ config, server.Reaches code (fun config action => runs config action = true)
        (Config.initial ⟨Db.empty, 0⟩) config ∧ LiveTenant 1 config.shared.db ∧
      (∃ situation, situations config.shared.db 7 = [situation] ∧ situation.justified = true) ∧
      ∀ row ∈ config.shared.db.parked, row.tenantID ≠ 1 := by
  obtain ⟨config, reaches, passed⟩ := server.exists_reaches_of_run code
    (fun config action => runs config action = true)
    ([.start (.handle 300 monthly suspension), .start (.trialSignup monthly (.ok []) acme)] ++
      List.replicate 9 (.step 0 (.proceed 1)) ++ List.replicate 22 (.step 1 (.proceed 10)))
    (Config.initial ⟨Db.empty, 0⟩)
    (fun config => config.processes.any (delivers suspension) &&
      (config.shared.db.tenants.rows.any fun row => row.id = 1 && row.live) &&
      config.processes.any fun process => process.call.replays = some 1 &&
        returns id process) (by decide +kernel)
  simp only [Bool.and_eq_true] at passed
  obtain ⟨⟨delivered, live⟩, replayed⟩ := passed
  have settles := settled_of_reaches accounted_empty (by simp [Db.empty]) reaches
  obtain ⟨process, mem, skew, catalog, flag, called, returned⟩ := exists_of_delivers delivered
  obtain ⟨row, memRow, alive⟩ := List.any_eq_true.mp live
  have living : LiveTenant 1 config.shared.db := ⟨row, memRow, by simpa using alive⟩
  obtain ⟨replay, memReplay, ended⟩ := List.any_eq_true.mp replayed
  rw [Bool.and_eq_true, decide_eq_true_eq] at ended
  refine ⟨config, reaches, living,
    settles.1 process mem skew catalog suspension flag called returned,
    settles.2 replay memReplay 1 ended.1 ?_ living⟩
  have returned := ended.2
  unfold returns at returned
  rcases ending : replay.program with (_ | _ | _) | _ <;> simp [ending] at returned ⊢

/-- I-1 commits between the failed lock and the look-up, which takes the new tenant
for a soft-deleted one: the event is lost while its tenant is live. -/
theorem exists_event_lost :
    Accounted Db.empty ∧
      ∃ config, server.Reaches code (fun _ _ => True) (Config.initial ⟨Db.empty, 0⟩) config ∧
        LiveTenant 1 config.shared.db ∧
        ∃ process ∈ config.processes, ∃ skew catalog flag,
          process.call = .handle skew catalog suspension ∧ process.program = .ret (.ok flag) ∧
          situations config.shared.db suspension.id =
            [.settled ⟨7, .lifecycle suspension.event, .droppedFound false⟩] := by
  refine ⟨accounted_empty, ?_⟩
  obtain ⟨config, reaches, passed⟩ := server.exists_reaches_of_run code (fun _ _ => True)
    ([.start (.handle 300 monthly suspension), .start (.trialSignup monthly (.ok []) acme)] ++
      List.replicate 4 (.step 0 (.proceed 1)) ++ List.replicate 14 (.step 1 (.proceed 10)) ++
      List.replicate 3 (.step 0 (.proceed 1)))
    (Config.initial ⟨Db.empty, 0⟩)
    (fun config => config.processes.any (delivers suspension) &&
      (config.shared.db.tenants.rows.any fun row => row.id = 1 && row.live) &&
      decide (situations config.shared.db suspension.id =
        [.settled ⟨7, .lifecycle suspension.event, .droppedFound false⟩])) (by decide +kernel)
  simp only [Bool.and_eq_true, decide_eq_true_eq] at passed
  obtain ⟨⟨delivered, live⟩, lost⟩ := passed
  obtain ⟨process, mem, skew, catalog, flag, called, returned⟩ := exists_of_delivers delivered
  obtain ⟨row, memRow, alive⟩ := List.any_eq_true.mp live
  exact ⟨config, reaches, ⟨row, memRow, by simpa using alive⟩, process, mem, skew, catalog, flag,
    called, returned, lost⟩

/-- In every run the projection of an event commits at most once. -/
theorem projected_once_of_reaches {start : DbServer}
    {config : DbConfig Call (Except Failure Bool)} (accounted : Accounted start.db)
    (reaches : server.Reaches code (fun _ _ => True) (Config.initial start) config)
    (eventID : Uuid) :
    (config.shared.db.journal.countP fun entry =>
      entry.eventID = eventID && entry.projected) ≤ 1 := by
  obtain ⟨⟨accounted', _⟩, _⟩ := sound_of_reaches false accounted
    (fun strictly => absurd strictly (by simp)) (fun strictly => absurd strictly (by simp)) reaches
  have once := accounted'.once eventID
  rw [length_situations] at once
  have fewer : (config.shared.db.journal.countP fun entry =>
      entry.eventID = eventID && entry.projected) ≤
      config.shared.db.journal.countP fun entry => entry.eventID = eventID :=
    List.countP_mono_left fun entry _ both => by simp_all
  split at once <;> split at once <;> omega

/-- An event that is delivered twice and parked in between is projected once. -/
theorem projected_once_after_redelivery :
    ∃ config, server.Reaches code (fun _ _ => True) (Config.initial ⟨Db.empty, 0⟩) config ∧
      (config.shared.db.journal.any fun entry =>
        entry.eventID = 7 && entry.projected) = true ∧
      (config.shared.db.journal.countP fun entry =>
        entry.eventID = 7 && entry.projected) ≤ 1 := by
  obtain ⟨config, reaches, projected⟩ := server.exists_reaches_of_run code (fun _ _ => True)
    ([.start (.handle 300 monthly suspension), .start (.trialSignup monthly (.ok []) acme),
        .start (.handle 300 monthly suspension), .start (.replayParked monthly 1)] ++
      List.replicate 9 (.step 0 (.proceed 1)) ++ List.replicate 22 (.step 1 (.proceed 10)) ++
      List.replicate 4 (.step 2 (.proceed 1)) ++ List.replicate 4 (.step 3 (.proceed 1)))
    (Config.initial ⟨Db.empty, 0⟩)
    (fun config => config.processes.all (returns fun _ => true) &&
      config.shared.db.journal.any fun entry => entry.eventID = 7 && entry.projected)
    (by decide +kernel)
  rw [Bool.and_eq_true] at projected
  exact ⟨config, reaches, projected.2, projected_once_of_reaches accounted_empty reaches 7⟩

end Inbox

end OrgMembership

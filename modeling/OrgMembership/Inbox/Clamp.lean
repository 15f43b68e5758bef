import OrgMembership.Inbox.Settlement

/-!
# The recency mark stays near the clock

`Handle` refuses an event from further in the future than the skew allows.  An
event that it parks keeps its timestamp, so a later replay, which looks at no
clock, moves the recency mark no further than the delivery could have.
-/

namespace OrgMembership

open Concurrency Relational

namespace Clamp

open Inbox (Call code)

variable {σ α : Type} {skew : Int} {timestamps : List Int}

/-! ## The bound -/

/-- The recency mark of a tenant is not beyond a time. -/
def MarkedBy (limit : Int) (row : Tenant) : Prop :=
  ∀ mark, row.lastEventAt = some mark → mark ≤ limit

/-- No recency mark and no parked event is further in the future than the skew. -/
structure Bounded (skew : Int) (server : DbServer) : Prop where
  marks : ∀ row ∈ server.db.tenants, MarkedBy (server.now + skew) row
  parked : ∀ row ∈ server.db.parked, row.envelope.timestamp ≤ server.now + skew

/-- Times that the clamp has let pass. -/
def Admitted (skew : Int) (timestamps : List Int) (server : DbServer) : Prop :=
  ∀ timestamp ∈ timestamps, timestamp ≤ server.now + skew

/-- The rows that the session has written are within the bound. -/
structure Clamped (skew : Int) (timestamps : List Int) (server : DbServer) (session : DbSession) :
    Prop where
  marks : ∀ row, .tenant (.put row) ∈ session.writes → MarkedBy (server.now + skew) row
  parked : ∀ row, .parked (.put row) ∈ session.writes →
    row.envelope.timestamp ≤ server.now + skew
  admitted : Admitted skew timestamps server

/-- Nothing but the passing of time changes the bound. -/
def protocol (skew : Int) : DbProtocol where
  Inv := Bounded skew
  Admits _ _ _ := True
  Coexist _ _ _ := True
  Guar _ before after := before.now ≤ after.now
  Drift before after := before.now ≤ after.now

theorem lenient : Lenient (protocol skew) :=
  fun _ _ => le_rfl

theorem later_of_rely {before after : DbServer} {session : DbSession}
    (rely : (protocol skew).Rely session before after) : before.now ≤ after.now := by
  rcases rely with ⟨_, _, later⟩ | later
  · exact later
  · exact later

theorem MarkedBy.mono {limit limit' : Int} {row : Tenant} (marked : MarkedBy limit row)
    (later : limit ≤ limit') : MarkedBy limit' row :=
  fun mark found => (marked mark found).trans later

theorem Admitted.mono {before after : DbServer} (admitted : Admitted skew timestamps before)
    (later : before.now ≤ after.now) : Admitted skew timestamps after :=
  fun timestamp mem => (admitted timestamp mem).trans (by omega)

theorem stable_admitted :
    (protocol skew).Stable fun server _ => Admitted skew timestamps server :=
  fun _ _ _ _ _ rely admitted => admitted.mono (later_of_rely rely)

theorem stable_clamped : (protocol skew).Stable (Clamped skew timestamps) := by
  intro before after session _ _ rely clamped
  have later := later_of_rely rely
  constructor
  · exact fun row put => (clamped.marks row put).mono (by omega)
  · exact fun row put => (clamped.parked row put).trans (by omega)
  · exact clamped.admitted.mono later

theorem bounded_later {server : DbServer} (bounded : Bounded skew server) {now : Int}
    (later : server.now ≤ now) : Bounded skew { server with now } := by
  constructor
  · exact fun row mem => (bounded.marks row mem).mono (Int.add_le_add_right later skew)
  · exact fun row mem => (bounded.parked row mem).trans (Int.add_le_add_right later skew)

/-! ## Statements -/

section Statements

variable {server : DbServer} {session : DbSession}

/-- What the session sees is within the bound too. -/
theorem Clamped.view (clamped : Clamped skew timestamps server session)
    (bounded : Bounded skew server) :
    Bounded skew { server with db := dialect.view server session } := by
  constructor
  · intro row mem
    change row ∈ tenantAccess.table (dialect.view server session) at mem
    rw [tenantLawful.table_view] at mem
    rcases Table.mem_applyAll mem with put | ⟨old, _⟩
    · exact clamped.marks row (tenantLawful.mem_changes.mp put)
    · exact bounded.marks row old
  · intro row mem
    change row ∈ parkedAccess.table (dialect.view server session) at mem
    rw [parkedLawful.table_view] at mem
    rcases Table.mem_applyAll mem with put | ⟨old, _⟩
    · exact clamped.parked row (parkedLawful.mem_changes.mp put)
    · exact bounded.parked row old

/-- The times that a statement stores come from a list. -/
def Dated (timestamps : List Int) : Query → Prop
  | .tenant (.setLastEventAt _ timestamp) => timestamp ∈ timestamps
  | .event (.park _ env) => env.timestamp ∈ timestamps
  | _ => True

/-- A row that keeps its mark keeps the bound. -/
theorem markedBy_touch {limit now : Int} {row new : Tenant} (marked : MarkedBy limit row)
    (same : new.lastEventAt = row.lastEventAt) : MarkedBy limit (row.touch now new) := by
  rw [MarkedBy, Tenant.touch_proj Tenant.lastEventAt fun _ _ _ => rfl, same]
  exact marked

theorem markedBy_write {limit : Int} {context : Context} {db : Db} {query : Query} {row : Tenant}
    (marked : ∀ row ∈ db.tenants, MarkedBy limit row)
    (admitted : ∀ timestamp ∈ timestamps, timestamp ≤ limit) (dated : Dated timestamps query)
    (write : TenantWrite context db query (.put row)) : MarkedBy limit row := by
  cases write with
  | insert => exact nofun
  | patch mem patch =>
      refine markedBy_touch (marked _ mem) ?_
      cases patch <;> rfl
  | setLastEventAt mem timestamp =>
      rw [MarkedBy, Tenant.touch_proj Tenant.lastEventAt fun _ _ _ => rfl]
      rintro mark ⟨rfl⟩
      exact (pgTime_le _).trans (admitted timestamp dated)
  | markOwnerless mem => exact markedBy_touch (marked _ mem) rfl
  | update mem update =>
      refine markedBy_touch (marked _ mem) ?_
      cases update <;> rfl

/-- A statement that stores admitted times keeps the bound. -/
theorem Clamped.extended {query : Query} {fresh : Nat} {result : query.Result}
    {writes : List Write} {locks : List (Lock LockKey)}
    (clamped : Clamped skew timestamps server session) (bounded : Bounded skew server)
    (dated : Dated timestamps query)
    (yields : dialect.eval query (Dialect.context server session fresh)
      (dialect.view server session) = .ok (result, writes)) :
    Clamped skew timestamps server (session.extended query result locks writes) := by
  constructor
  · intro row mem
    rcases List.mem_append.mp mem with old | new
    · exact clamped.marks row old
    · exact markedBy_write (clamped.view bounded).marks clamped.admitted dated
        (tenant_write yields new)
  · intro row mem
    rcases List.mem_append.mp mem with old | new
    · exact clamped.parked row old
    · cases parked_write yields new with
      | park => exact clamped.admitted _ dated
  · exact clamped.admitted

end Statements

/-! ## Transactions -/

theorem keeps_clamped {body : DbM σ α} (issues : Fallible.Issues (Only (Dated timestamps)) body) :
    Keeps (protocol skew) (Clamped skew timestamps) body :=
  attempt_only lenient stable_clamped
    (fun _ dated _ _ _ _ _ bounded clamped _ yields => clamped.extended bounded dated yields)
    issues fun _ _ _ clamped => clamped

/-- A call between two transactions. -/
def Ready (skew : Int) (timestamps : List Int) : Assertion DbServer DbSession :=
  fun server session => session.Idle ∧ Admitted skew timestamps server

theorem reader : Reader (protocol skew) (Ready skew timestamps) :=
  reader_lasting lenient
    { stable := stable_admitted
      opened := fun _ _ _ admitted => admitted
      closed := fun _ _ admitted => admitted
      extended := fun _ _ _ _ _ _ admitted => admitted }

theorem keeps_transaction {body : DbM σ α}
    (keeps : Keeps (protocol skew) (Clamped skew timestamps) body) :
    Keeps (protocol skew) (Ready skew timestamps) (transaction .pg body) := by
  apply attempt_transaction lenient ((Protocol.stable_local _).and stable_admitted)
    (fun _ => stable_clamped) (fun _ => stable_clamped) _ keeps
  · intro _ server session bounded clamped _
    exact ⟨clamped.view bounded, le_rfl, session.idle_closed, clamped.admitted⟩
  · exact fun _ _ _ session _ clamped => ⟨session.idle_closed, clamped.admitted⟩
  · exact fun _ _ _ _ _ after => after
  · exact fun _ _ session _ clamped => ⟨session.idle_closed, clamped.admitted⟩
  · exact fun _ _ _ _ ready => ready
  · exact fun _ _ _ ready => ⟨fun _ mem => absurd mem List.not_mem_nil,
      fun _ mem => absurd mem List.not_mem_nil, ready.2⟩

/-- The statements of a delivery store the event's own time. -/
theorem dated_of_carries {env : Envelope} {duration : Int} {query : Query}
    (carries : Carries env duration query) (mem : env.timestamp ∈ timestamps) :
    Dated timestamps query := by
  unfold Dated
  split
  · exact (show _ = _ from carries) ▸ mem
  · exact (show _ = _ from carries) ▸ mem
  · trivial

/-! ## Calls -/

variable {tenantID : Uuid} {catalog : PlanCatalog}

theorem keeps_delivers {env : Envelope} {duration : Int} {query : Query}
    (mem : env.timestamp ∈ timestamps) (carries : Carries env duration query) :
    Keeps (protocol skew) (Clamped skew timestamps) (send .pg query : DbM σ _) :=
  keeps_clamped (issues_send (dated_of_carries carries mem))

/-- `Handle` goes on only with an event that the clamp lets pass. -/
theorem idles_handle (env : Envelope) :
    Idles (protocol skew) (handle skew catalog env : DbM σ _) := by
  have clock : Attempt server (protocol skew) (fun _ session => session.Idle) (timeNow : DbM σ Int)
      (fun now server session => session.Idle ∧ now ≤ server.now)
      fun _ _ session => session.Idle :=
    attempt_read lenient (Protocol.stable_local _) (fun _ _ => rfl)
      (fun _ _ _ _ idle _ => ⟨idle.extended, le_rfl⟩) fun _ _ _ _ idle => idle
  refine Attempt.bind clock fun now => ?_
  split
  case isTrue => exact Attempt.throw fun _ _ _ holds => holds.1
  case isFalse near =>
    have delivers : Keeps (protocol skew) (Ready skew [env.timestamp])
        (do
          let duration ← trialDurationDays catalog env.tenantID env
          processOnce env.id (handleTx env duration) : DbM σ Unit) := by
      refine Attempt.bind (keeps_trialDurationDays reader) fun duration => ?_
      refine attempt_withPool (keeps_transaction ?_)
      exact keeps_claimed (fun _ _ carries => keeps_delivers List.mem_cons_self carries) rfl
    refine Attempt.weaken delivers (fun server session _ holds => ⟨holds.1, ?_⟩)
      (fun _ _ _ _ ready => ready.1) fun _ _ _ _ ready => ready.1
    intro timestamp mem
    rw [List.mem_singleton.mp mem]
    have read := holds.2
    omega

/-- A replay lists events that the clamp has let pass. -/
theorem attempt_listForTenant :
    Attempt server (protocol skew) (fun _ session => session.Idle)
      (withPool (ParkedTenantEventRepository.listForTenant tenantID) : DbM σ _)
      (fun pending => Ready skew (pending.map fun parked => parked.envelope.timestamp))
      fun _ _ session => session.Idle := by
  have lists : Attempt server (protocol skew) (fun _ session => session.Blank)
      (ParkedTenantEventRepository.listForTenant tenantID : DbM σ _)
      (fun pending server session => session.writes = [] ∧
        Admitted skew (pending.map fun parked => parked.envelope.timestamp) server)
      fun _ _ _ => True := by
    refine attempt_read lenient (Protocol.stable_local _) (fun _ _ => rfl) ?_
      fun _ _ _ _ _ => trivial
    intro server session fresh bounded blank _
    rw [view_of_unwritten blank.unwritten]
    refine ⟨by simp [Session.extended, blank.unwritten], fun timestamp mem => ?_⟩
    obtain ⟨parked, listed, rfl⟩ := List.mem_map.mp mem
    rw [List.mem_insertionSort, Table.mem_select] at listed
    exact bounded.parked parked listed.1
  apply attempt_withPool
  apply attempt_idle_transaction lenient (fun _ => (Protocol.stable_local _).and stable_admitted)
    lists
  rintro pending server session bounded ⟨unwritten, admitted⟩ _
  rw [committed_of_unwritten unwritten]
  exact ⟨bounded, le_rfl, session.idle_closed, admitted⟩

theorem idles_replayParked (catalog : PlanCatalog) (tenantID : Uuid) :
    Idles (protocol skew) (replayParked catalog tenantID : DbM σ _) := by
  refine Attempt.bind attempt_listForTenant fun pending => ?_
  have replays : Keeps (protocol skew)
      (Ready skew (pending.map fun parked => parked.envelope.timestamp))
      (replayEach catalog tenantID pending 0 : DbM σ _) := by
    refine keeps_replayEach reader pending 0 fun parked mem duration => ?_
    refine attempt_runInTx (keeps_transaction ?_) fun _ _ _ _ _ ready => ready
    exact keeps_replayTx fun _ _ carries =>
      keeps_delivers (List.mem_map.mpr ⟨parked, mem, rfl⟩) carries
  exact Attempt.weaken replays (fun _ _ _ ready => ready) (fun _ _ _ _ ready => ready.1)
    fun _ _ _ _ ready => ready.1

theorem idles_trialSignup (catalog : PlanCatalog)
    (departments : Except Failure (List CatalogDepartment)) (input : TrialSignupInput) :
    Idles (protocol skew) (trialSignup catalog departments input : DbM σ _) := by
  have signs : SignupAllowed (Dated []) input :=
    { activate := fun _ => trivial
      labels := trivial
      member := trivial
      findMember := trivial
      grant := fun _ => trivial
      findGrant := trivial
      enqueue := fun _ => trivial
      lock := trivial
      insert := fun _ _ => trivial
      findTenant := trivial
      claim := fun _ => trivial }
  refine keeps_trialSignup (reader_idle lenient) (fun hash seats trialEnds trialDeptIDs => ?_)
    (idles_replayParked catalog input.tenantID)
  have transacts : Keeps (protocol skew) (Ready skew [])
      (transaction .pg (trialSignupTx input hash seats trialEnds trialDeptIDs) : DbM σ _) :=
    keeps_transaction (keeps_trialSignupTx signs keeps_clamped)
  exact attempt_runInTx (Attempt.weaken transacts (fun _ _ _ idle => ⟨idle, nofun⟩)
    (fun _ _ _ _ ready => ready.1) fun _ _ _ _ ready => ready.1) fun _ _ _ _ _ idle => idle

/-! ## Every run -/

/-- The deliveries of a run have one skew. -/
def skewed (skew : Int) : Call → Bool
  | .handle skew' _ _ => skew' = skew
  | .trialSignup _ _ _ | .replayParked _ _ => true

/-- The runs whose deliveries are all handled with one skew. -/
def runs (skew : Int) :
    DbConfig Call (Except Failure Bool) → Action Call (Chance PgError) Nat → Bool :=
  allows (skewed skew) fun _ _ _ _ _ => true

theorem verified : Verified server (protocol skew) code (fun call => skewed skew call = true)
    fun _ _ _ session => session.Idle where
  triple call admitted := by
    cases call with
    | handle skew' catalog env =>
        cases of_decide_eq_true admitted
        exact triple_of_idles (Attempt.bind (idles_handle env) fun _ => idles_pure)
    | trialSignup catalog departments input =>
        exact triple_of_idles (Attempt.bind (idles_trialSignup catalog departments input)
          fun _ => idles_pure)
    | replayParked catalog tenantID =>
        exact triple_of_idles (Attempt.bind (idles_read lenient fun _ _ => rfl) fun _ =>
          Attempt.bind (idles_replayParked catalog tenantID) fun _ => idles_pure)
  settled _ _ := fun _ _ _ _ _ _ idle => idle
  drift elapsed server bounded := by
    have later : server.now ≤ server.now + elapsed :=
      Int.le_add_of_nonneg_right (Int.natCast_nonneg elapsed)
    exact ⟨bounded_later bounded later, later⟩

theorem enforces {start : DbServer} :
    Enforces server (protocol skew) code (fun call => skewed skew call = true)
      (fun config action => runs skew config action = true) (Config.initial start) where
  admits _ _ permitted := permitted
  executes _ _ _ _ _ _ _ _ _ _ _ := ⟨trivial, fun _ _ _ _ _ => trivial⟩

/-- A delivery first reads the clock, and a late reading is its end. -/
theorem code_handle (skew : Int) (catalog : PlanCatalog) (env : Envelope) :
    ∃ next, code (.handle skew catalog env) = .call (.query (.event .clock)) next ∧
      (∀ now, now + skew < env.timestamp → next (.ok now) = .ret (.error .poisonPill)) ∧
      ∀ fault, next (.error fault) = .ret (.error (.pg fault)) := by
  refine ⟨_, rfl, fun now early => ?_, fun _ => rfl⟩
  have refused : (if now + skew < env.timestamp then throw .poisonPill
      else trialDurationDays catalog env.tenantID env >>= fun duration =>
        processOnce env.id (handleTx env duration) : DbM Unit Unit) = throw .poisonPill :=
    if_pos early
  exact congrArg (fun program : DbM Unit Unit =>
    (program >>= fun _ => pure false : DbM Unit Bool).run) refused

/-- In every run whose deliveries have one skew, no recency mark is ever further
in the future than the skew; and a delivery whose event is further in the future
when it reads the clock ends there with an error, and changes nothing. -/
theorem recency_clamped {start : DbServer} {config : DbConfig Call (Except Failure Bool)}
    (bounded : Bounded skew start)
    (reaches : server.Reaches code (fun config action => runs skew config action = true)
      (Config.initial start) config) :
    (∀ row ∈ config.shared.db.tenants, ∀ mark, row.lastEventAt = some mark →
      mark ≤ config.shared.now + skew) ∧
    ∀ index session catalog env choice config',
      config.processes[index]? = some ⟨.handle skew catalog env, session,
        code (.handle skew catalog env)⟩ →
      config.shared.now + skew < env.timestamp →
      server.act code (.step index choice) config = some config' →
      config'.shared = config.shared ∧ ∃ session' failure,
        config'.processes[index]? = some ⟨.handle skew catalog env, session',
          .ret (.error failure)⟩ := by
  have sound := reaches.sound verified enforces ⟨bounded, by simp [Config.initial]⟩
  refine ⟨sound.1.marks, fun index session catalog env choice config' current early acted => ?_⟩
  obtain ⟨next, called, refuses, fails⟩ := code_handle skew catalog env
  obtain ⟨call, loc, statement, next', executes⟩ := server.executes_of_act_step code acted
  have found := current.symm.trans executes.current
  rw [called] at found
  obtain ⟨rfl, rfl, rfl, rfl⟩ : Call.handle skew catalog env = call ∧ session = loc ∧
      Statement.query (.event .clock) = statement ∧ HEq next next' := by
    simpa using found
  have ended : ∃ failure, next (server.exec (.query (.event .clock)) choice config.shared
      session).1 = .ret (.error failure) := by
    cases choice with
    | fail | lose => exact ⟨_, fails _⟩
    | proceed fresh => exact ⟨_, refuses config.shared.now early⟩
  have same : (server.exec (.query (.event .clock)) choice config.shared session).2.2 =
      config.shared := by
    cases choice <;> rfl
  obtain ⟨failure, ended⟩ := ended
  rw [executes.result, ended]
  exact ⟨same, _, failure, List.getElem?_set_self (List.getElem?_eq_some_iff.mp current).1⟩

/-- An event of the tenant 1 from a time. -/
def dated (id : Uuid) (timestamp : Int) : Envelope :=
  ⟨id, 1, timestamp, .tenantSuspended .operator⟩

/-- A delivery at time 0 from beyond the skew. -/
def early : Call :=
  .handle 5000 Inbox.monthly (dated 8 5001)

/-- The early event arrives. -/
def starting (config : DbConfig Call (Except Failure Bool)) : DbConfig Call (Except Failure Bool) :=
  { config with processes := config.processes ++ [⟨early, server.fresh, code early⟩] }

theorem getElem?_starting {config : DbConfig Call (Except Failure Bool)}
    (two : config.processes.length = 2) :
    (starting config).processes[2]? = some ⟨early, server.fresh, code early⟩ := by
  rw [← two]
  exact List.getElem?_concat_length

/-- An event from the last moment that the skew allows is parked, and the sign-up's
replay sets the mark to that moment; the next event, from a moment later, is
refused. -/
theorem clamped_after_signup :
    ∃ config config', server.Reaches code (fun config action => runs 5000 config action = true)
        (Config.initial ⟨Db.empty, 0⟩) config ∧
      (∃ row ∈ config.shared.db.tenants, row.lastEventAt = some 5000 ∧
        5000 ≤ config.shared.now + 5000) ∧
      server.act code (.step 2 (.proceed 1)) config = some config' ∧
      config'.shared = config.shared := by
  have bounded : Bounded 5000 ⟨Db.empty, 0⟩ :=
    ⟨fun _ mem => absurd mem List.not_mem_nil, fun _ mem => absurd mem List.not_mem_nil⟩
  obtain ⟨config, reaches, passed⟩ := server.exists_reaches_of_run code
    (fun config action => runs 5000 config action = true)
    ([.start (.handle 5000 Inbox.monthly (dated 7 5000)),
        .start (.trialSignup Inbox.monthly (.ok []) Inbox.acme)] ++
      List.replicate 9 (.step 0 (.proceed 1)) ++ List.replicate 22 (.step 1 (.proceed 10)))
    (Config.initial ⟨Db.empty, 0⟩)
    (fun config => config.processes.length = 2 && decide (config.shared.now = 0) &&
      (server.act code (.step 2 (.proceed 1)) (starting config)).isSome &&
      config.shared.db.tenants.rows.any fun row => row.lastEventAt = some 5000)
    (by decide +kernel)
  simp only [Bool.and_eq_true, decide_eq_true_eq] at passed
  obtain ⟨⟨⟨two, now⟩, enabled⟩, marked⟩ := passed
  obtain ⟨row, mem, mark⟩ := List.any_eq_true.mp marked
  obtain ⟨config', acted⟩ := Option.isSome_iff_exists.mp enabled
  have started : server.Reaches code (fun config action => runs 5000 config action = true)
      (Config.initial ⟨Db.empty, 0⟩) (starting config) :=
    .step reaches (show runs 5000 config (.start early) = true from rfl) rfl
  have clamped := recency_clamped bounded started
  refine ⟨_, config', started, ⟨row, mem, of_decide_eq_true mark,
    clamped.1 row mem 5000 (of_decide_eq_true mark)⟩, acted, ?_⟩
  have ahead : config.shared.now + 5000 < (dated 8 5001).timestamp := by simp [now, dated]
  exact (clamped.2 2 _ _ _ _ config' (getElem?_starting two) ahead acted).1

end Clamp

end OrgMembership

import OrgMembership.Repository.Alone

/-!
# Calls with no concurrent writer, and the clock

The proof rules of code that runs alone, for assertions that speak about the clock as well:
outside a transaction about the present moment, inside one about the moment it started.
-/

namespace OrgMembership

open Concurrency Relational

variable {σ α β : Type}

/-- The contract of a call that runs alone while the clock goes on. -/
def clocked : DbProtocol :=
  Protocol.alone (Statement Query) DbSession (fun _ => true) fun before after : DbServer =>
    before.db = after.db ∧ before.now ≤ after.now

theorem lenient_clocked : Lenient clocked :=
  fun _ _ => trivial

/-- A fact that stays true as time goes by. -/
def Ages (fact : Int → Db → Prop) : Prop :=
  ∀ now later db, now ≤ later → fact now db → fact later db

variable {moment : Int} {base : Db} {pre fact : Int → Db → Prop}

theorem Ages.stable (ages : Ages fact) (session : DbSession → Prop) :
    clocked.Stable fun server loc => session loc ∧ fact server.now server.db :=
  Protocol.stable_alone fun _ _ _ drifted holds =>
    ⟨holds.1, ages _ _ _ drifted.2 (drifted.1 ▸ holds.2)⟩

/-! ## Inside a transaction -/

/-- A fact about the start of a transaction and the rows that it sees, over the committed
rows. -/
structure Looking (moment : Int) (base : Db) (fact : Int → Db → Prop) (server : DbServer)
    (session : DbSession) : Prop where
  same : server.db = base
  since : moment ≤ session.startedAt
  began : session.startedAt ≤ server.now
  sees : fact session.startedAt (dialect.view server session)

theorem stable_looking : clocked.Stable (Looking moment base fact) :=
  Protocol.stable_alone fun before after session drifted holds => by
    have seen : dialect.view after session = dialect.view before session := by
      rw [Dialect.view, Dialect.view, drifted.1]
    exact ⟨drifted.1 ▸ holds.same, holds.since, holds.began.trans drifted.2, seen ▸ holds.sees⟩

theorem Looking.mono {weaker : Int → Db → Prop} {server : DbServer} {session : DbSession}
    (looking : Looking moment base fact server session)
    (implies : ∀ started db, fact started db → weaker started db) :
    Looking moment base weaker server session :=
  ⟨looking.same, looking.since, looking.began, implies _ _ looking.sees⟩

theorem Looking.later {server : DbServer} {session : DbSession}
    (looking : Looking moment base fact server session) : moment ≤ server.now :=
  looking.since.trans looking.began

/-- Code inside a transaction that started after some moment. -/
abbrev Inner (moment : Int) (base : Db) (pre : Int → Db → Prop) (program : DbM σ α)
    (post : α → Int → Db → Prop) : Prop :=
  Attempt server clocked (Looking moment base pre) program
    (fun value => Looking moment base (post value))
    fun _ server _ => server.db = base ∧ moment ≤ server.now

section Inner

variable {program : DbM σ α} {post : α → Int → Db → Prop}

theorem Inner.bind {first : DbM σ α} {rest : α → DbM σ β} {middle : α → Int → Db → Prop}
    {post : β → Int → Db → Prop} (starts : Inner moment base pre first middle)
    (continues : ∀ value, Inner moment base (middle value) (rest value) post) :
    Inner moment base pre (first >>= rest) post :=
  Attempt.bind starts continues

theorem inner_pure {value : α} (holds : ∀ started db, pre started db → post value started db) :
    Inner moment base pre (pure value : DbM σ α) post :=
  Attempt.pure fun _ _ _ looking => looking.mono holds

theorem inner_throw {failure : Failure} :
    Inner moment base pre (throw failure : DbM σ α) post :=
  Attempt.throw fun _ _ _ looking => ⟨looking.same, looking.later⟩

theorem inner_of_fact {claim : Prop} (inner : claim → Inner moment base pre program post) :
    Inner moment base (fun started db => claim ∧ pre started db) program post :=
  Attempt.strengthen (Attempt.of_fact inner) fun _ _ _ looking =>
    ⟨looking.sees.1, looking.mono fun _ _ seen => seen.2⟩

/-- A query of such a transaction. -/
theorem inner_send {query : Query} {post : query.Result → Int → Db → Prop}
    (evaluates : ∀ context db result writes, moment ≤ context.startedAt →
      context.startedAt ≤ context.now → pre context.startedAt db →
      (query.effect context db).Yields result writes →
      post result context.startedAt (dialect.applyAll writes db)) :
    Inner moment base pre (send .pg query : DbM σ _) post := by
  apply attempt_send lenient_clocked stable_looking
  · intro server session fresh result writes _ looking _ yields
    refine ⟨looking.same, looking.since, looking.began, ?_⟩
    rw [Dialect.view_extended]
    exact evaluates _ _ _ _ looking.since looking.began looking.sees yields
  · exact fun _ _ _ _ looking => ⟨looking.same, looking.later⟩

/-- A query that only reads. -/
theorem inner_read {query : Query} {value : Context → Db → query.Result}
    {post : query.Result → Int → Db → Prop}
    (reads : ∀ context db, query.effect context db = .read (value context db))
    (answers : ∀ context db, moment ≤ context.startedAt → pre context.startedAt db →
      post (value context db) context.startedAt db) :
    Inner moment base pre (send .pg query : DbM σ _) post := by
  refine inner_send fun context db result writes since _ holds yields => ?_
  rw [reads] at yields
  obtain ⟨rfl, rfl⟩ := Effect.yields_read.mp yields
  exact answers context db since holds

end Inner

/-! ## Whole calls -/

/-- Code that starts outside a transaction and leaves none open, with what it makes of the
committed rows and when it ends. -/
abbrev Clocked (pre : Int → Db → Prop) (program : DbM σ α) (post : α → Int → Db → Prop)
    (fails : Failure → Int → Db → Prop) : Prop :=
  Attempt server clocked (fun server session => session.Idle ∧ pre server.now server.db) program
    (fun value server session => session.Idle ∧ post value server.now server.db)
    fun failure server session => session.Idle ∧ fails failure server.now server.db

section Clocked

variable {program : DbM σ α} {post : α → Int → Db → Prop} {fails : Failure → Int → Db → Prop}

/-- A transaction commits what its body made of the rows, or leaves them alone. -/
theorem clocked_transaction {body : DbM σ α} {seen : α → Int → Db → Prop} (ages : Ages pre)
    (inner : ∀ moment base, pre moment base →
      Inner moment base (fun _ db => db = base) body seen)
    (settles : ∀ value started now db, started ≤ now → seen value started db → post value now db)
    (failing : ∀ failure now db, pre now db → fails failure now db)
    (losing : ∀ value now db, post value now db → fails (.pg .connectionException) now db) :
    Clocked pre (transaction .pg body) post fails := by
  -- the committed rows and the moment are fixed when the transaction starts
  have based : ∀ moment base, pre moment base →
      Clocked (fun now db => moment ≤ now ∧ db = base) (transaction .pg body) post fails := by
    intro moment base holds
    have gone : ∀ failure now db, moment ≤ now → db = base → fails failure now db :=
      fun failure now db later same => same ▸ failing failure now base (ages _ _ _ later holds)
    have agesHere : Ages fun now db => moment ≤ now ∧ db = base :=
      fun _ _ _ later here => ⟨here.1.trans later, here.2⟩
    exact attempt_transaction lenient_clocked (agesHere.stable Session.Idle)
      (fun _ => stable_looking)
      (fun _ => Protocol.stable_alone fun _ _ _ drifted broke =>
        ⟨drifted.1 ▸ broke.1, broke.2.trans drifted.2⟩)
      (fun server session _ here => ⟨here.2.2, here.2.1, le_refl _, by
        rw [view_of_unwritten (session.blank_opened server.now).unwritten, here.2.2]⟩)
      (inner moment base holds)
      (fun value server session _ looking _ => ⟨trivial, trivial, session.idle_closed,
        settles value _ _ _ looking.began looking.sees⟩)
      (fun fault _ _ session _ looking =>
        ⟨session.idle_closed, gone _ _ _ looking.later looking.same⟩)
      (fun value _ session _ _ after => ⟨session.idle_closed, losing value _ _ after.2⟩)
      (fun failure _ session _ broke => ⟨session.idle_closed, gone _ _ _ broke.2 broke.1⟩)
      fun fault _ _ _ here => ⟨here.1, gone _ _ _ here.2.1 here.2.2⟩
  exact Attempt.strengthen
    (Attempt.of_exists fun moment => Attempt.of_exists fun base => Attempt.of_fact fun holds =>
      based moment base holds)
    fun server _ _ here => ⟨server.now, server.db, here.2, here.1, le_refl _, rfl⟩

theorem clocked_withPool {body : DbM σ α} {seen : α → Int → Db → Prop} (ages : Ages pre)
    (inner : ∀ moment base, pre moment base →
      Inner moment base (fun _ db => db = base) body seen)
    (settles : ∀ value started now db, started ≤ now → seen value started db → post value now db)
    (failing : ∀ failure now db, pre now db → fails failure now db)
    (losing : ∀ value now db, post value now db → fails lostAnswer now db) :
    Clocked pre (withPool body) post fails :=
  attempt_withPool (clocked_transaction ages inner settles (fun _ => failing _) losing)

/-- A retried transaction whose effect may also happen when it reports a failure. -/
theorem clocked_runInTx {body : DbM σ α} {seen : α → Int → Db → Prop} (ages : Ages pre)
    (inner : ∀ moment base, pre moment base →
      Inner moment base (fun _ db => db = base) body seen)
    (settles : ∀ value started now db, started ≤ now → seen value started db → post value now db)
    (losing : ∀ value now db, post value now db → pre now db) :
    Clocked pre (runInTx body) post fun _ => pre :=
  attempt_runInTx (clocked_transaction ages inner settles (fun _ _ _ holds => holds) losing)
    fun _ _ _ _ _ here => here

/-- What holds after each outcome. -/
def EndsAt (post : α → Int → Db → Prop) (fails : Failure → Int → Db → Prop) :
    Except Failure α → Int → Db → Prop
  | .ok value => post value
  | .error failure => fails failure

theorem Clocked.observe {failsMore : Failure → Int → Db → Prop}
    (runs : Clocked pre program post fails) :
    Clocked pre program.observe (EndsAt post fails) failsMore :=
  Attempt.relax (Attempt.observe runs) fun result _ _ _ holds => by cases result <;> exact holds

/-- When a call that ran alone has ended, and how. -/
theorem Clocked.ended {program : DbM Unit α} (runs : Clocked pre program post fails)
    (agesPost : ∀ value, Ages (post value)) (agesFails : ∀ failure, Ages (fails failure))
    {before after : DbServer} {outcome : Except Failure α}
    (completes : server.Completes program.run before outcome after)
    (holds : pre before.now before.db) : EndsAt post fails outcome after.now after.db := by
  have ages : ∀ outcome, Ages (EndsAt post fails outcome)
    | .ok value => agesPost value
    | .error failure => agesFails failure
  have started : wp server clocked program.run
      (fun outcome server _ => EndsAt post fails outcome server.now server.db) before
      server.fresh :=
    Triple.weaken (Attempt.run runs) (fun _ _ _ here => here)
      (fun outcome _ _ _ ended => by cases outcome <;> exact ended.2)
      before server.fresh trivial ⟨Session.idle_fresh, holds⟩
  obtain ⟨_, ended⟩ := completes.sound
    (fun elapsed before => ⟨rfl, show before.now ≤ before.now + elapsed by omega⟩)
    (fun _ => ⟨rfl, le_refl _⟩)
    (fun _ _ _ first second => ⟨first.1.trans second.1, first.2.trans second.2⟩)
    (fun outcome _ _ _ drifted ended => ages outcome _ _ _ drifted.2 (drifted.1 ▸ ended)) started
  exact ended

end Clocked

end OrgMembership

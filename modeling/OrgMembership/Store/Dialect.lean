import OrgMembership.Relational.Logic
import OrgMembership.Store.Events
import OrgMembership.Store.Invitations
import OrgMembership.Store.Members
import OrgMembership.Store.Tenants

/-!
# The database server

The queries of all repositories as one dialect, the system of concurrent clients
it gives, and the shape of client code.
-/

namespace OrgMembership

open Concurrency Relational

variable {pre : Assertion DbServer DbSession} {fails : Failure → Assertion DbServer DbSession}
  {query : Query}

/-- The statements of the service. -/
inductive Query
  | tenant (query : TenantQuery)
  | membership (query : MembershipQuery)
  | role (query : RoleQuery)
  | dept (query : DeptQuery)
  | invitation (query : InvitationQuery)
  | event (query : EventQuery)

/-- What a statement returns. -/
abbrev Query.Result : Query → Type
  | tenant query => query.Result
  | membership query => query.Result
  | role query => query.Result
  | dept query => query.Result
  | invitation query => query.Result
  | event query => query.Result

/-- What each statement does. -/
def Query.effect : (query : Query) → Context → Db → DbEffect query.Result
  | tenant query => query.effect
  | membership query => query.effect
  | role query => query.effect
  | dept query => query.effect
  | invitation query => query.effect
  | event query => query.effect

/-- The database: a client that gets no answer finds its connection broken. -/
def dialect : Dialect Query Query.Result Db Write LockKey PgError :=
  .ofEffects .connectionException Write.apply Query.effect

/-- A client's connection. -/
abbrev DbSession : Type :=
  Session Query.Result Write LockKey

/-- The committed database and the clock. -/
abbrev DbServer : Type :=
  Server Db

/-- The clients and the server. -/
abbrev server : System (Reply Query.Result PgError) DbServer DbSession (Chance PgError) Nat :=
  dialect.system

/-- The contract between the calls of a run. -/
abbrev DbProtocol : Type :=
  Protocol (Statement Query) (Chance PgError) DbServer DbSession

/-- Code that runs on a connection, with captured variables `σ`. -/
abbrev DbM (σ α : Type) : Type :=
  Client Query.Result PgError σ Failure α

/-- A call as a program against the server. -/
abbrev DbProgram (Outcome : Type) : Type :=
  Program (Reply Query.Result PgError) Outcome

/-- A state of the clients and the server. -/
abbrev DbConfig (Call Outcome : Type) : Type :=
  Config (Reply Query.Result PgError) Call DbServer DbSession Outcome

variable {σ α : Type}

/-- Send a statement about tenants. -/
abbrev tenantQuery (query : TenantQuery) : DbM σ query.Result :=
  send .pg (Query.tenant query)

/-- Send a statement about memberships. -/
abbrev membershipQuery (query : MembershipQuery) : DbM σ query.Result :=
  send .pg (Query.membership query)

/-- Send a statement about roles. -/
abbrev roleQuery (query : RoleQuery) : DbM σ query.Result :=
  send .pg (Query.role query)

/-- Send a statement about department rows. -/
abbrev deptQuery (query : DeptQuery) : DbM σ query.Result :=
  send .pg (Query.dept query)

/-- Send a statement about invitations. -/
abbrev invitationQuery (query : InvitationQuery) : DbM σ query.Result :=
  send .pg (Query.invitation query)

/-- Send a statement about events. -/
abbrev eventQuery (query : EventQuery) : DbM σ query.Result :=
  send .pg (Query.event query)

/-- A repository call outside a transaction runs in one of its own. -/
def withPool (body : DbM σ α) : DbM σ α :=
  (transaction .pg body).mapError wrapConnErr

/-- `TxRunner.RunInTx`: up to three attempts.  The closure's captured variables
keep their values from one attempt to the next. -/
def runInTx (body : DbM σ α) : DbM σ α :=
  (retrying Failure.retryable 2 (transaction .pg body)).mapError wrapConnErr

/-- Code inside a transaction.  A failure is rolled back, so nothing is asked of
it. -/
abbrev Within (protocol : DbProtocol)
    (pre : Assertion DbServer DbSession) (program : DbM σ α)
    (post : α → Assertion DbServer DbSession) : Prop :=
  Attempt server protocol pre program post fun _ _ _ => True

section Rules

variable {protocol : DbProtocol}
  {post : α → Assertion DbServer DbSession} {body : DbM σ α}

theorem Within.weaken {stronger : Assertion DbServer DbSession}
    {weaker : α → Assertion DbServer DbSession} (within : Within protocol pre body post)
    (before : ∀ server session, protocol.Inv server → stronger server session → pre server session)
    (after : ∀ value server session, protocol.Inv server → post value server session →
      weaker value server session) : Within protocol stronger body weaker :=
  Attempt.weaken within before after fun _ _ _ _ _ => trivial

theorem within_throw {failure : Failure} :
    Within protocol pre (throw failure : DbM σ α) post :=
  Attempt.throw fun _ _ _ _ => trivial

/-- The rule of a query inside a transaction. -/
theorem within_send {post : query.Result → Assertion DbServer DbSession}
    (lenient : Lenient protocol) (stable : protocol.Stable pre)
    (evaluates : ∀ server session fresh result writes, protocol.Inv server →
      pre server session → protocol.Admits (.query query) server session →
      (query.effect (Dialect.context server session fresh)
        (dialect.view server session)).Yields result writes →
      post result server (session.extended query result (dialect.kept query
        (Dialect.context server session fresh) (dialect.view server session)) writes)) :
    Within protocol pre (send .pg query : DbM σ _) post :=
  attempt_send lenient stable evaluates fun _ _ _ _ _ => trivial

/-- Inside a transaction, a program keeps what each of its queries keeps. -/
theorem within_only {program : DbM σ α} {allowed : Query → Prop} (lenient : Lenient protocol)
    (stable : protocol.Stable pre)
    (keeps : ∀ query, allowed query → ∀ server session fresh result writes, protocol.Inv server →
      pre server session → protocol.Admits (.query query) server session →
      (query.effect (Dialect.context server session fresh)
        (dialect.view server session)).Yields result writes →
      pre server (session.extended query result (dialect.kept query
        (Dialect.context server session fresh) (dialect.view server session)) writes))
    (issues : Fallible.Issues (Only allowed) program) :
    Within protocol pre program fun _ => pre :=
  attempt_only lenient stable keeps issues fun _ _ _ _ => trivial

/-- Inside a transaction, confined queries keep what absorbs their effects. -/
theorem within_confined {program : DbM σ α} {harmless : Write → Prop} {quiet : Lock LockKey → Prop}
    (lenient : Lenient protocol) (stable : protocol.Stable pre)
    (absorbs : Absorbs pre harmless quiet)
    (issues : Fallible.Issues (Only (dialect.Confined harmless quiet)) program) :
    Within protocol pre program fun _ => pre :=
  attempt_confined lenient stable absorbs issues fun _ _ _ _ => trivial

/-- The rule of a query that only reads. -/
theorem attempt_read {value : Context → Db → query.Result}
    {post : query.Result → Assertion DbServer DbSession} (lenient : Lenient protocol)
    (stable : protocol.Stable pre)
    (reads : ∀ context db, query.effect context db = .read (value context db))
    (answers : ∀ server session fresh, protocol.Inv server → pre server session →
      protocol.Admits (.query query) server session →
      post (value (Dialect.context server session fresh) (dialect.view server session)) server
        (session.extended query
          (value (Dialect.context server session fresh) (dialect.view server session)) [] []))
    (failing : ∀ fault server session, protocol.Inv server → pre server session →
      fails (.pg fault) server session) :
    Attempt server protocol pre (send .pg query : DbM σ _) post fails := by
  refine attempt_send lenient stable ?_ failing
  intro server session fresh result writes inv holds admits evaluated
  have effect := reads (Dialect.context server session fresh) (dialect.view server session)
  have yields : (query.effect (Dialect.context server session fresh)
    (dialect.view server session)).Yields result writes := evaluated
  rw [effect] at yields
  obtain ⟨rfl, rfl⟩ := Effect.yields_read.mp yields
  have kept : dialect.kept query (Dialect.context server session fresh)
      (dialect.view server session) = [] := by
    simp only [dialect, Dialect.ofEffects] at effect ⊢
    rw [effect]
    rfl
  rw [kept]
  exact answers server session fresh inv holds admits

theorem within_read {value : Context → Db → query.Result}
    {post : query.Result → Assertion DbServer DbSession} (lenient : Lenient protocol)
    (stable : protocol.Stable pre)
    (reads : ∀ context db, query.effect context db = .read (value context db))
    (answers : ∀ server session fresh, protocol.Inv server → pre server session →
      protocol.Admits (.query query) server session →
      post (value (Dialect.context server session fresh) (dialect.view server session)) server
        (session.extended query
          (value (Dialect.context server session fresh) (dialect.view server session)) [] [])) :
    Within protocol pre (send .pg query : DbM σ _) post :=
  attempt_read lenient stable reads answers fun _ _ _ _ _ => trivial

/-- A transaction of its own, failing as its one attempt fails. -/
theorem attempt_withPool (attempt : Attempt server protocol pre (transaction .pg body) post
      fun failure => fails (wrapConnErr failure)) :
    Attempt server protocol pre (withPool body) post fails :=
  attempt.mapError

/-- A retried transaction, whose retryable failures leave it where it started. -/
theorem attemptOn_runInTx {good : σ → Prop}
    (attempt : AttemptOn server protocol good pre (transaction .pg body) post
      fun failure => fails (wrapConnErr failure))
    (again : ∀ failure server session, failure.retryable = true → protocol.Inv server →
      fails (wrapConnErr failure) server session → pre server session) :
    AttemptOn server protocol good pre (runInTx body) post fails :=
  (attemptOn_retrying attempt again 2).mapError

theorem attempt_runInTx (attempt : Attempt server protocol pre (transaction .pg body) post
      fun failure => fails (wrapConnErr failure))
    (again : ∀ failure server session, failure.retryable = true → protocol.Inv server →
      fails (wrapConnErr failure) server session → pre server session) :
    Attempt server protocol pre (runInTx body) post fails :=
  AttemptOn.any_iff.mp (attemptOn_runInTx (AttemptOn.any_iff.mpr attempt) again)

end Rules

/-- The second step of an `UPDATE`, `DELETE` or `SELECT … FOR UPDATE` that scanned
for its rows: visit each, and collect the rows that still matched. -/
def visitEach {Row Id : Type} (visit : Id → DbM σ (Option Row)) : List Id → DbM σ (List Row)
  | [] => return []
  | id :: ids => do
      let row ← visit id
      let rows ← visitEach visit ids
      return row.toList ++ rows

/-- Visiting the rows one by one, with an invariant about the rows left to visit and the
rows collected. -/
theorem attempt_collecting {Row Id : Type} {visit : Id → DbM σ (Option Row)}
    {protocol : DbProtocol}
    (inv : List Id → List Row → Assertion DbServer DbSession)
    (each : ∀ id ids rows, Attempt server protocol (inv (id :: ids) rows) (visit id)
      (fun found => inv ids (rows ++ found.toList)) fails) (ids : List Id) (rows : List Row) :
    Attempt server protocol (inv ids rows) (visitEach visit ids)
      (fun found => inv [] (rows ++ found)) fails := by
  induction ids generalizing rows with
  | nil => exact Attempt.pure fun _ _ _ holds => by rwa [List.append_nil]
  | cons id ids ih =>
      refine Attempt.bind (each id ids rows) fun found => Attempt.bind (ih _) fun rest => ?_
      exact Attempt.pure fun _ _ _ holds => by rwa [List.append_assoc] at holds

/-- Visiting the rows one by one, what is left to do gets less. -/
theorem attempt_visitEach {Row Id : Type} {visit : Id → DbM σ (Option Row)}
    {protocol : DbProtocol}
    (left : List Id → Assertion DbServer DbSession)
    (each : ∀ id ids,
      Attempt server protocol (left (id :: ids)) (visit id) (fun _ => left ids) fails)
    (ids : List Id) :
    Attempt server protocol (left ids) (visitEach visit ids) (fun _ => left []) fails := by
  induction ids with
  | nil => exact Attempt.pure fun _ _ _ holds => holds
  | cons id ids ih =>
      exact Attempt.bind (each id ids) fun _ => Attempt.bind ih fun _ =>
        Attempt.pure fun _ _ _ holds => holds

end OrgMembership

import OrgMembership.Concurrency.RelyGuarantee
import OrgMembership.Relational.Lock

/-!
# Transactions at read committed

A database server runs queries of concurrent transactions.  Each query sees the
committed state at the moment it runs, overlaid with the transaction's own
writes; it waits while another transaction holds a lock it needs; its writes
become visible to others when the transaction commits, and its locks are
released when the transaction ends.  Any query, and any commit, may fail; and the
answer to a commit that was carried out may get lost.
-/

namespace Relational

open Concurrency

/-- What a query may read besides the database: the start of its transaction,
the clock, and an identifier to use for a new row. -/
structure Context where
  startedAt : Int
  now : Int
  fresh : Nat

/-- The queries of a database: the locks they take and keep, the locks they
only wait for, and their result and writes on the state they see.  A client that
gets no answer is told `lost`. -/
structure Dialect (Query : Type) (Result : Query → Type) (Db Write Key Fault : Type) where
  write : Write → Db → Db
  kept : Query → Context → Db → List (Lock Key)
  awaited : Query → Context → Db → List (Lock Key)
  eval : (query : Query) → Context → Db → Except Fault (Result query × List Write)
  lost : Fault

/-- What a client sends to the server. -/
inductive Statement (Query : Type)
  | begin
  | commit
  | rollback
  | query (query : Query)

/-- The server's reply. -/
def Reply {Query : Type} (Result : Query → Type) (Fault : Type) : Statement Query → Type
  | .begin => Except Fault Unit
  | .commit => Except Fault Unit
  | .rollback => Unit
  | .query query => Except Fault (Result query)

/-- Whether the statement runs, with the identifier a new row would get, is made
to fail, or loses its answer: then a commit has been carried out. -/
inductive Chance (Fault : Type)
  | proceed (fresh : Nat)
  | fail (fault : Fault)
  | lose

namespace Chance

variable {Fault : Type}

instance : Nonempty (Chance Fault) :=
  ⟨.lose⟩

/-- The statement goes through. -/
def isProceed : Chance Fault → Bool
  | .proceed _ => true
  | .fail _ | .lose => false

/-- A commit that gets this chance takes effect, answered or not. -/
def takesEffect : Chance Fault → Bool
  | .proceed _ | .lose => true
  | .fail _ => false

/-- A commit that gets this chance and takes effect is answered. -/
def isAnswered : Chance Fault → Bool
  | .proceed _ | .fail _ => true
  | .lose => false

end Chance

/-- The committed state and the clock. -/
structure Server (Db : Type) where
  db : Db
  now : Int
  deriving DecidableEq

/-- One line of a client's history: the start of a transaction, or a query with
its result. -/
inductive Entry {Query : Type} (Result : Query → Type)
  | began
  | issued (query : Query) (result : Result query)

/-- The statements since a transaction has last begun. -/
def Entry.sinceBegan {Query : Type} {Result : Query → Type} :
    List (Entry Result) → List (Entry Result)
  | [] | .began :: _ => []
  | .issued query result :: rest => .issued query result :: sinceBegan rest

/-- A client's connection: whether a transaction is open, when it started, the
locks it holds, its uncommitted writes, and the client's history (newest
first). -/
structure Session {Query : Type} (Result : Query → Type) (Write Key : Type) where
  inTx : Bool
  startedAt : Int
  locks : List (Lock Key)
  writes : List Write
  history : List (Entry Result)

variable {Query : Type} {Result : Query → Type} {Db Write Key Fault α : Type}

namespace Session

/-- A connection without a transaction. -/
def fresh : Session Result Write Key :=
  ⟨false, 0, [], [], []⟩

/-- No transaction is open, so nothing is locked and nothing is pending. -/
structure Idle (session : Session Result Write Key) : Prop where
  outside : session.inTx = false
  unlocked : session.locks = []
  unwritten : session.writes = []

/-- A transaction in which nothing is locked and nothing is pending yet. -/
structure Blank (session : Session Result Write Key) : Prop where
  inside : session.inTx = true
  unlocked : session.locks = []
  unwritten : session.writes = []

/-- Open a transaction. -/
def opened (session : Session Result Write Key) (now : Int) : Session Result Write Key :=
  ⟨true, now, [], [], .began :: session.history⟩

/-- End the transaction, releasing its locks. -/
def closed (session : Session Result Write Key) : Session Result Write Key :=
  ⟨false, 0, [], [], session.history⟩

/-- Add the locks, writes and result of a query. -/
def extended (session : Session Result Write Key) (query : Query) (result : Result query)
    (locks : List (Lock Key)) (writes : List Write) : Session Result Write Key :=
  { session with
    locks := session.locks ++ locks
    writes := session.writes ++ writes
    history := .issued query result :: session.history }

/-- The statements of the open transaction, newest first. -/
def current (session : Session Result Write Key) : List (Entry Result) :=
  if session.inTx then Entry.sinceBegan session.history else []

theorem idle_fresh : (fresh : Session Result Write Key).Idle :=
  ⟨rfl, rfl, rfl⟩

theorem blank_opened (session : Session Result Write Key) (now : Int) :
    (session.opened now).Blank :=
  ⟨rfl, rfl, rfl⟩

theorem idle_closed (session : Session Result Write Key) : session.closed.Idle :=
  ⟨rfl, rfl, rfl⟩

/-- A query of this kind stands in the history since the last transaction began. -/
def sentSince (test : Query → Bool) : List (Entry Result) → Bool
  | .issued query _ :: history => test query || sentSince test history
  | _ => false

/-- The current transaction has sent a query of this kind. -/
def hasSent (session : Session Result Write Key) (test : Query → Bool) : Bool :=
  session.inTx && sentSince test session.history

@[simp]
theorem hasSent_extended (session : Session Result Write Key) (test : Query → Bool) (query : Query)
    (result : Result query) (locks : List (Lock Key)) (writes : List Write) :
    (session.extended query result locks writes).hasSent test =
      (session.inTx && test query || session.hasSent test) := by
  simp [hasSent, extended, sentSince, Bool.and_or_distrib_left]

/-- Reading outside a transaction. -/
theorem Idle.extended {session : Session Result Write Key} (idle : session.Idle) {query : Query}
    {result : Result query} : (session.extended query result [] []).Idle :=
  ⟨idle.outside, by simp [Session.extended, idle.unlocked],
    by simp [Session.extended, idle.unwritten]⟩

end Session

namespace Dialect

variable (dialect : Dialect Query Result Db Write Key Fault)

/-- Apply writes in order. -/
def applyAll (writes : List Write) (db : Db) : Db :=
  writes.foldl (fun db write => dialect.write write db) db

@[simp]
theorem applyAll_nil (db : Db) : dialect.applyAll [] db = db :=
  rfl

theorem applyAll_cons (write : Write) (writes : List Write) (db : Db) :
    dialect.applyAll (write :: writes) db = dialect.applyAll writes (dialect.write write db) :=
  rfl

theorem applyAll_append (first second : List Write) (db : Db) :
    dialect.applyAll (first ++ second) db = dialect.applyAll second (dialect.applyAll first db) :=
  List.foldl_append

/-- A log to which writes append. -/
theorem log_applyAll {Line : Type} (log : Db → List Line) (lineOf : Write → Option Line)
    (appends : ∀ write db, log (dialect.write write db) = log db ++ (lineOf write).toList)
    (writes : List Write) (db : Db) :
    log (dialect.applyAll writes db) = log db ++ writes.filterMap lineOf := by
  induction writes generalizing db with
  | nil => simp
  | cons write writes ih =>
      rw [applyAll_cons, ih, appends, List.append_assoc, List.filterMap_cons]
      cases lineOf write <;> rfl

/-- What no write touches stays as it is. -/
theorem part_applyAll {Part : Type} (part : Db → Part) {writes : List Write}
    (kept : ∀ write ∈ writes, ∀ db, part (dialect.write write db) = part db) (db : Db) :
    part (dialect.applyAll writes db) = part db := by
  induction writes generalizing db with
  | nil => rfl
  | cons write writes ih =>
      rw [applyAll_cons, ih fun other mem => kept other (List.mem_cons_of_mem _ mem),
        kept write List.mem_cons_self]

/-- What a session sees: the committed state under its own writes. -/
def view (server : Server Db) (session : Session Result Write Key) : Db :=
  dialect.applyAll session.writes server.db

theorem view_extended (server : Server Db) (session : Session Result Write Key) (query : Query)
    (result : Result query) (locks : List (Lock Key)) (writes : List Write) :
    dialect.view server (session.extended query result locks writes) =
      dialect.applyAll writes (dialect.view server session) :=
  dialect.applyAll_append session.writes writes server.db

/-- A query without writes does not change what its session sees. -/
@[simp]
theorem view_extended_nil (server : Server Db) (session : Session Result Write Key) (query : Query)
    (result : Result query) (locks : List (Lock Key)) :
    dialect.view server (session.extended query result locks []) = dialect.view server session := by
  simp [view, Session.extended]

/-- The context of a query. -/
def context (server : Server Db) (session : Session Result Write Key) (fresh : Nat) : Context :=
  ⟨session.startedAt, server.now, fresh⟩

/-- The server state after a commit of the session. -/
def committed (server : Server Db) (session : Session Result Write Key) : Server Db :=
  { server with db := dialect.view server session }

/-- The effect of a statement. -/
def exec : (statement : Statement Query) → Chance Fault → Server Db →
    Session Result Write Key →
      Reply Result Fault statement × Session Result Write Key × Server Db
  | .begin, .proceed _, server, session => (.ok (), session.opened server.now, server)
  | .begin, .fail fault, server, session => (.error fault, session, server)
  | .begin, .lose, server, session => (.error dialect.lost, session, server)
  | .commit, .proceed _, server, session =>
      (.ok (), session.closed, dialect.committed server session)
  | .commit, .fail fault, server, session => (.error fault, session.closed, server)
  | .commit, .lose, server, session =>
      (.error dialect.lost, session.closed, dialect.committed server session)
  | .rollback, _, server, session => ((), session.closed, server)
  | .query query, .proceed fresh, server, session =>
      let context := context server session fresh
      let view := dialect.view server session
      match dialect.eval query context view with
      | .ok (result, writes) =>
          (.ok result, session.extended query result (dialect.kept query context view) writes,
            server)
      | .error fault => (.error fault, session, server)
  | .query _, .fail fault, server, session => (.error fault, session, server)
  | .query _, .lose, server, session => (.error dialect.lost, session, server)

variable [DecidableEq Key]

/-- A query waits while another session holds a lock that conflicts with one it
takes or waits for.  Failing needs no lock: a deadlock victim fails while it
waits. -/
def blocked : Statement Query → Chance Fault → Server Db → Session Result Write Key →
    Session Result Write Key → Bool
  | .query query, .proceed fresh, server, session, other =>
      let context := context server session fresh
      let view := dialect.view server session
      (dialect.kept query context view ++ dialect.awaited query context view).any fun lock =>
        other.locks.any lock.conflicts
  | _, _, _, _, _ => false

/-- The server as a system of interleaved clients; the outside lets time pass. -/
def system : System (Reply Result Fault) (Server Db) (Session Result Write Key)
    (Chance Fault) Nat where
  fresh := .fresh
  exec := dialect.exec
  blocked := dialect.blocked
  signal elapsed server := { server with now := server.now + elapsed }

end Dialect

/-! ## Client code -/

section Client

variable {σ Failure : Type}

/-- Programs against a database with these queries, with captured variables
`σ`. -/
abbrev Client (Result : Query → Type) (Fault σ Failure α : Type) : Type :=
  Fallible (Reply Result Fault) σ Failure α

/-- Send one statement. -/
def ask (Result : Query → Type) (Fault : Type) (statement : Statement Query) :
    Program (Reply Result Fault) (Reply Result Fault statement) :=
  Program.issue statement

variable (raise : Fault → Failure)

/-- Send one query; a fault of the server is raised as a failure. -/
def send (query : Query) : Client Result Fault σ Failure (Result query) :=
  Fallible.mk fun captured => do
    match ← ask Result Fault (.query query) with
    | .error fault => return (.error (raise fault), captured)
    | .ok result => return (.ok result, captured)

/-- Run `body` in one transaction: begin, then commit its result or roll back
its failure. -/
def transaction (body : Client Result Fault σ Failure α) : Client Result Fault σ Failure α :=
  Fallible.mk fun captured => do
    match ← ask Result Fault .begin with
    | .error fault => return (.error (raise fault), captured)
    | .ok _ =>
        match ← body.start captured with
        | (.error failure, captured) =>
            let _ ← ask Result Fault .rollback
            return (.error failure, captured)
        | (.ok value, captured) =>
            match ← ask Result Fault .commit with
            | .error fault => return (.error (raise fault), captured)
            | .ok _ => return (.ok value, captured)

/-- Attempt again, at most `attempts` more times, after a retryable failure. -/
def retrying (retryable : Failure → Bool) :
    Nat → Client Result Fault σ Failure α → Client Result Fault σ Failure α
  | 0, attempt => attempt
  | attempts + 1, attempt =>
      Fallible.mk fun captured => do
        match ← attempt.start captured with
        | (.ok value, captured) => return (.ok value, captured)
        | (.error failure, captured) =>
            if retryable failure then
              (retrying retryable attempts attempt).start captured
            else
              return (.error failure, captured)

end Client

end Relational

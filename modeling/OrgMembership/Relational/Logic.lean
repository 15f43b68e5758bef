import OrgMembership.Relational.Transaction

/-!
# Proof rules for transactions

The rely–guarantee rules of the statements a client sends.  Only a commit
changes the shared state, so a query has to preserve the client's own assertion,
and a commit the invariant and the guarantee.
-/

namespace Relational

open Concurrency

variable {Query : Type} {Result : Query → Type} {Db Write Key Fault Failure σ α : Type}
  [DecidableEq Key] {dialect : Dialect Query Result Db Write Key Fault}
  {protocol : Protocol (Statement Query) (Chance Fault) (Server Db) (Session Result Write Key)}
variable {body : Client Result Fault σ Failure α} {retryable : Failure → Bool}
  {kind : Failure → Prop} {query : Query}

/-- A protocol in which doing nothing is allowed. -/
def Lenient (protocol : Protocol (Statement Query) (Chance Fault) (Server Db)
    (Session Result Write Key)) : Prop :=
  ∀ session server, protocol.Guar session server server

namespace Dialect

/-- Running a query changes nothing but the session, and that only if it
succeeds. -/
theorem transition_query {pre : Assertion (Server Db) (Session Result Write Key)}
    {post : Result query → Assertion (Server Db) (Session Result Write Key)}
    {fails : Fault → Assertion (Server Db) (Session Result Write Key)} (lenient : Lenient protocol)
    (evaluates : ∀ server session fresh result writes, protocol.Inv server →
      pre server session → protocol.Admits (.query query) server session →
      dialect.eval query (context server session fresh) (dialect.view server session) =
        .ok (result, writes) →
      post result server (session.extended query result
        (dialect.kept query (context server session fresh) (dialect.view server session)) writes))
    (failing : ∀ fault server session, protocol.Inv server → pre server session →
      fails fault server session) :
    Transition dialect.system protocol (.query query) pre
      (outcome post fails : Except Fault (Result query) → _) := by
  intro server session chance inv holds admitted _
  cases chance with
  | fail | lose => exact ⟨inv, lenient session server, failing _ server session inv holds⟩
  | proceed fresh =>
      cases evaluated : dialect.eval query (context server session fresh)
          (dialect.view server session) with
      | error fault =>
          simp only [system, exec, evaluated]
          exact ⟨inv, lenient session server, failing fault server session inv holds⟩
      | ok result =>
          rcases result with ⟨result, writes⟩
          simp only [system, exec, evaluated]
          exact ⟨inv, lenient session server,
            evaluates server session fresh result writes inv holds admitted evaluated⟩

/-- A query keeps what its effect keeps. -/
theorem transition_keeps {pre : Assertion (Server Db) (Session Result Write Key)}
    (lenient : Lenient protocol)
    (keeps : ∀ server session fresh result writes, protocol.Inv server →
      pre server session → protocol.Admits (.query query) server session →
      dialect.eval query (context server session fresh) (dialect.view server session) =
        .ok (result, writes) →
      pre server (session.extended query result
        (dialect.kept query (context server session fresh) (dialect.view server session)) writes)) :
    Transition dialect.system protocol (.query query) pre fun _ => pre := by
  intro server session chance inv holds admitted granted
  obtain ⟨inv', guar, after⟩ := transition_query lenient keeps
    (fun _ _ _ _ holds => holds) server session chance inv holds admitted granted
  refine ⟨inv', guar, ?_⟩
  revert after
  generalize (dialect.system.exec (.query query) chance server session).1 = reply
  intro after
  cases reply <;> exact after

end Dialect

section Rules

variable {pre entered : Assertion (Server Db) (Session Result Write Key)}
  {post ready : α → Assertion (Server Db) (Session Result Write Key)}
  {fails broken : Failure → Assertion (Server Db) (Session Result Write Key)}
  {raise : Fault → Failure}

/-- The rule of a query. -/
theorem attempt_send {post : Result query → Assertion (Server Db) (Session Result Write Key)}
    (lenient : Lenient protocol) (stable : protocol.Stable pre)
    (evaluates : ∀ server session fresh result writes, protocol.Inv server →
      pre server session → protocol.Admits (.query query) server session →
      dialect.eval query (Dialect.context server session fresh) (dialect.view server session) =
        .ok (result, writes) →
      post result server (session.extended query result (dialect.kept query
        (Dialect.context server session fresh) (dialect.view server session)) writes))
    (failing : ∀ fault server session, protocol.Inv server → pre server session →
      fails (raise fault) server session) :
    Attempt dialect.system protocol pre (send raise query : Client Result Fault σ Failure _) post
      fails := by
  intro captured
  refine Triple.bind (Triple.issue stable
    (Dialect.transition_query lenient evaluates failing)) fun reply => ?_
  cases reply with
  | error fault => exact Triple.ret fun _ _ _ holds => holds
  | ok result => exact Triple.ret fun _ _ _ holds => holds

theorem triple_begin {refused : Fault → Assertion (Server Db) (Session Result Write Key)}
    (lenient : Lenient protocol) (stable : protocol.Stable pre)
    (opens : ∀ server session, protocol.Inv server → pre server session →
      entered server (session.opened server.now))
    (failing : ∀ fault server session, protocol.Inv server → pre server session →
      refused fault server session) :
    Triple dialect.system protocol pre (ask Result Fault .begin)
      (outcome (fun _ : Unit => entered) refused : Except Fault Unit → _) := by
  refine Triple.issue stable fun server session chance inv holds _ _ => ?_
  cases chance with
  | fail | lose => exact ⟨inv, lenient session server, failing _ server session inv holds⟩
  | proceed fresh => exact ⟨inv, lenient session server, opens server session inv holds⟩

theorem triple_rollback {failed : Assertion (Server Db) (Session Result Write Key)}
    (lenient : Lenient protocol) (stable : protocol.Stable pre)
    (closes : ∀ server session, protocol.Inv server → pre server session →
      failed server session.closed) :
    Triple dialect.system protocol pre (ask Result Fault .rollback) fun _ => failed := by
  refine Triple.issue stable fun server session chance inv holds _ _ => ?_
  exact ⟨inv, lenient session server, closes server session inv holds⟩

/-- The rule of a commit, the only statement that changes the shared state. -/
theorem triple_commit {done : Assertion (Server Db) (Session Result Write Key)}
    {lost : Fault → Assertion (Server Db) (Session Result Write Key)} (lenient : Lenient protocol)
    (stable : protocol.Stable pre)
    (commits : ∀ server session, protocol.Inv server → pre server session →
      protocol.Admits .commit server session →
      protocol.Inv (dialect.committed server session) ∧
        protocol.Guar session server (dialect.committed server session) ∧
        done (dialect.committed server session) session.closed)
    (failing : ∀ fault server session, protocol.Inv server → pre server session →
      lost fault server session.closed)
    (loses : ∀ server session, protocol.Grants .commit .lose session → pre server session →
      done (dialect.committed server session) session.closed →
      lost dialect.lost (dialect.committed server session) session.closed) :
    Triple dialect.system protocol pre (ask Result Fault .commit)
      (outcome (fun _ : Unit => done) lost : Except Fault Unit → _) := by
  refine Triple.issue stable fun server session chance inv holds admitted granted => ?_
  cases chance with
  | fail fault => exact ⟨inv, lenient session server, failing fault server session inv holds⟩
  | proceed fresh => exact commits server session inv holds admitted
  | lose =>
      obtain ⟨inv', guar, done⟩ := commits server session inv holds admitted
      exact ⟨inv', guar, loses server session granted holds done⟩

/-- The rule of a transaction.  Its body runs between `entered` and `ready`, or
fails in `broken`; the commit is where the protocol is at stake. -/
theorem attemptOn_transaction {good : σ → Prop} (lenient : Lenient protocol)
    (stable : protocol.Stable pre) (stableReady : ∀ value, protocol.Stable (ready value))
    (stableBroken : ∀ failure, protocol.Stable (broken failure))
    (opens : ∀ server session, protocol.Inv server → pre server session →
      entered server (session.opened server.now))
    (runs : AttemptOn dialect.system protocol good entered body ready broken)
    (commits : ∀ value server session, protocol.Inv server → ready value server session →
      protocol.Admits .commit server session →
      protocol.Inv (dialect.committed server session) ∧
        protocol.Guar session server (dialect.committed server session) ∧
        post value (dialect.committed server session) session.closed)
    (abandons : ∀ fault value server session, protocol.Inv server → ready value server session →
      fails (raise fault) server session.closed)
    (loses : ∀ value server session, protocol.Grants .commit .lose session →
      ready value server session → post value (dialect.committed server session) session.closed →
      fails (raise dialect.lost) (dialect.committed server session) session.closed)
    (closes : ∀ failure server session, protocol.Inv server → broken failure server session →
      fails failure server session.closed)
    (refuses : ∀ fault server session, protocol.Inv server → pre server session →
      fails (raise fault) server session) :
    AttemptOn dialect.system protocol good pre (transaction raise body) post fails := by
  intro captured holds
  have beginning : Triple dialect.system protocol pre (ask Result Fault .begin)
      (outcome (fun _ : Unit => entered) fun fault => fails (raise fault) :
        Except Fault Unit → _) :=
    triple_begin lenient stable opens refuses
  refine Triple.bind beginning fun began => ?_
  cases began with
  | error fault => exact Triple.ret fun _ _ _ refused => ⟨refused, holds⟩
  | ok _ =>
      refine Triple.bind (runs captured holds) fun result => ?_
      rcases result with ⟨failure | value, captured⟩ <;> refine Triple.of_fact fun kept => ?_
      · exact Triple.bind (triple_rollback lenient (stableBroken failure) (closes failure))
          fun _ => Triple.ret fun _ _ _ failed => ⟨failed, kept⟩
      · have committing : Triple dialect.system protocol (ready value) (ask Result Fault .commit)
            (outcome (fun _ : Unit => post value) fun fault => fails (raise fault) :
              Except Fault Unit → _) :=
          triple_commit lenient (stableReady value) (commits value)
            (fun fault => abandons fault value) (loses value)
        refine Triple.bind committing fun done => ?_
        cases done <;> exact Triple.ret fun _ _ _ after => ⟨after, kept⟩

theorem attempt_transaction (lenient : Lenient protocol) (stable : protocol.Stable pre)
    (stableReady : ∀ value, protocol.Stable (ready value))
    (stableBroken : ∀ failure, protocol.Stable (broken failure))
    (opens : ∀ server session, protocol.Inv server → pre server session →
      entered server (session.opened server.now))
    (runs : Attempt dialect.system protocol entered body ready broken)
    (commits : ∀ value server session, protocol.Inv server → ready value server session →
      protocol.Admits .commit server session →
      protocol.Inv (dialect.committed server session) ∧
        protocol.Guar session server (dialect.committed server session) ∧
        post value (dialect.committed server session) session.closed)
    (abandons : ∀ fault value server session, protocol.Inv server → ready value server session →
      fails (raise fault) server session.closed)
    (loses : ∀ value server session, protocol.Grants .commit .lose session →
      ready value server session → post value (dialect.committed server session) session.closed →
      fails (raise dialect.lost) (dialect.committed server session) session.closed)
    (closes : ∀ failure server session, protocol.Inv server → broken failure server session →
      fails failure server session.closed)
    (refuses : ∀ fault server session, protocol.Inv server → pre server session →
      fails (raise fault) server session) :
    Attempt dialect.system protocol pre (transaction raise body) post fails :=
  AttemptOn.any_iff.mp (attemptOn_transaction lenient stable stableReady stableBroken opens
    (AttemptOn.any_iff.mpr runs) commits abandons loses closes refuses)

/-- The rule of a transaction that starts and ends outside any other: the body starts without
locks and writes, and nothing is asked of it when it fails. -/
theorem attempt_idle_transaction (lenient : Lenient protocol)
    (stableReady : ∀ value, protocol.Stable (ready value))
    (runs : Attempt dialect.system protocol (fun _ session => session.Blank) body ready
      fun _ _ _ => True)
    (commits : ∀ value server session, protocol.Inv server → ready value server session →
      protocol.Admits .commit server session →
      protocol.Inv (dialect.committed server session) ∧
        protocol.Guar session server (dialect.committed server session) ∧
        post value (dialect.committed server session) session.closed) :
    Attempt dialect.system protocol (fun _ session => session.Idle) (transaction raise body) post
      fun _ _ session => session.Idle :=
  attempt_transaction lenient (Protocol.stable_local _) stableReady
    (fun _ => Protocol.stable_local _) (fun server session _ _ => session.blank_opened server.now)
    runs commits (fun _ _ _ session _ _ => session.idle_closed)
    (fun _ _ session _ _ _ => session.idle_closed) (fun _ _ session _ _ => session.idle_closed)
    fun _ _ _ _ idle => idle

/-- Repeated attempts need an attempt whose retryable failures leave it where it
started. -/
theorem attemptOn_retrying {good : σ → Prop}
    (attempt : AttemptOn dialect.system protocol good pre body post fails)
    (again : ∀ failure server session, retryable failure = true → protocol.Inv server →
      fails failure server session → pre server session) (attempts : Nat) :
    AttemptOn dialect.system protocol good pre (retrying retryable attempts body) post fails := by
  induction attempts with
  | zero => exact attempt
  | succ attempts ih =>
      intro captured holds
      refine Triple.bind (attempt captured holds) fun result => ?_
      rcases result with ⟨failure | value, captured⟩
      · refine Triple.of_fact fun kept => ?_
        change Triple dialect.system protocol (fails failure)
          (if retryable failure = true then _ else _) _
        split
        case isTrue retries =>
          exact Triple.weaken (ih captured kept) (fun server session inv failed =>
            again failure server session retries inv failed) fun _ _ _ _ after => after
        case isFalse => exact Triple.ret fun _ _ _ failed => ⟨failed, kept⟩
      · exact Triple.ret fun _ _ _ after => after

end Rules

/-! ## Frames -/

section Frame

/-- The statements that are queries of an allowed kind. -/
def Only (allowed : Query → Prop) : Statement Query → Prop
  | .query query => allowed query
  | _ => False

/-- Whenever the query succeeds, its writes are harmless and its locks quiet. -/
def Dialect.Confined (dialect : Dialect Query Result Db Write Key Fault) (harmless : Write → Prop)
    (quiet : Lock Key → Prop) (query : Query) : Prop :=
  ∀ context db result writes, dialect.eval query context db = .ok (result, writes) →
    (∀ write ∈ writes, harmless write) ∧ ∀ lock ∈ dialect.kept query context db, quiet lock

/-- The assertion survives harmless writes and quiet locks. -/
def Absorbs (pre : Assertion (Server Db) (Session Result Write Key)) (harmless : Write → Prop)
    (quiet : Lock Key → Prop) : Prop :=
  ∀ server session query result locks writes, (∀ write ∈ writes, harmless write) →
    (∀ lock ∈ locks, quiet lock) → pre server session →
      pre server (session.extended query result locks writes)

/-- A program keeps what each of its queries keeps. -/
theorem attempt_only {program : Client Result Fault σ Failure α} {allowed : Query → Prop}
    {pre : Assertion (Server Db) (Session Result Write Key)}
    {fails : Failure → Assertion (Server Db) (Session Result Write Key)}
    (lenient : Lenient protocol) (stable : protocol.Stable pre)
    (keeps : ∀ query, allowed query → ∀ server session fresh result writes, protocol.Inv server →
      pre server session → protocol.Admits (.query query) server session →
      dialect.eval query (Dialect.context server session fresh) (dialect.view server session) =
        .ok (result, writes) →
      pre server (session.extended query result (dialect.kept query
        (Dialect.context server session fresh) (dialect.view server session)) writes))
    (issues : Fallible.Issues (Only allowed) program)
    (failing : ∀ failure server session, pre server session → fails failure server session) :
    Attempt dialect.system protocol pre program (fun _ => pre) fails := by
  refine Attempt.weaken (Attempt.frame stable (fun statement permitted => ?_) issues)
    (fun _ _ _ holds => holds) (fun _ _ _ _ holds => holds)
    fun failure server session _ holds => failing failure server session holds
  cases statement with
  | query query => exact Dialect.transition_keeps lenient (keeps query permitted)
  | begin => exact absurd permitted id
  | commit => exact absurd permitted id
  | rollback => exact absurd permitted id

/-- A program of confined queries keeps what absorbs their effects. -/
theorem attempt_confined {program : Client Result Fault σ Failure α} {harmless : Write → Prop}
    {quiet : Lock Key → Prop} {pre : Assertion (Server Db) (Session Result Write Key)}
    {fails : Failure → Assertion (Server Db) (Session Result Write Key)}
    (lenient : Lenient protocol) (stable : protocol.Stable pre)
    (absorbs : Absorbs pre harmless quiet)
    (issues : Fallible.Issues (Only (dialect.Confined harmless quiet)) program)
    (failing : ∀ failure server session, pre server session → fails failure server session) :
    Attempt dialect.system protocol pre program (fun _ => pre) fails :=
  attempt_only lenient stable (fun query confined server session _ _ _ _ holds _ evaluated =>
    absorbs server session query _ _ _ (confined _ _ _ _ evaluated).1
      (confined _ _ _ _ evaluated).2 holds) issues failing

theorem issues_send {allowed : Query → Prop} {raise : Fault → Failure} (holds : allowed query) :
    Fallible.Issues (Only allowed) (send raise query : Client Result Fault σ Failure _) := by
  intro captured
  refine Program.Issues.bind (Program.issues_issue.mpr holds) fun reply => ?_
  cases reply <;> trivial

theorem preserves_send {raise : Fault → Failure} :
    (send raise query : Client Result Fault σ Failure _).Preserves := by
  intro captured answer
  cases answer <;> rfl

theorem raises_send {raise : Fault → Failure} (faults : ∀ fault, kind (raise fault)) :
    (send raise query : Client Result Fault σ Failure _).Raises kind := by
  intro captured answer
  cases answer with
  | error fault =>
      rintro _ ⟨⟩
      exact faults fault
  | ok value => exact fun _ failed => nomatch failed

theorem raises_transaction {raise : Fault → Failure} (faults : ∀ fault, kind (raise fault))
    (raises : body.Raises kind) : (transaction raise body).Raises kind := by
  intro captured began
  cases began with
  | error fault =>
      rintro _ ⟨⟩
      exact faults fault
  | ok _ =>
      refine (raises captured).bind fun result failing => ?_
      rcases result with ⟨failure | value, captured⟩
      · rintro _ _ ⟨⟩
        exact failing failure rfl
      · intro done
        cases done with
        | error fault =>
            rintro _ ⟨⟩
            exact faults fault
        | ok _ => exact fun _ failed => nomatch failed

theorem raises_retrying (attempts : Nat) {attempt : Client Result Fault σ Failure α}
    (raises : attempt.Raises kind) :
    (retrying retryable attempts attempt).Raises kind := by
  induction attempts with
  | zero => exact raises
  | succ attempts ih =>
      intro captured
      refine (raises captured).bind fun result failing => ?_
      rcases result with ⟨failure | value, captured⟩
      · change (if retryable failure then _ else _ : Program _ _).Returns _
        split
        · exact ih captured
        · rintro _ ⟨⟩
          exact failing failure rfl
      · exact fun _ failed => nomatch failed

end Frame

/-! ## Locks of concurrent sessions -/

namespace Dialect

theorem compatible_exec {statement : Statement Query} {chance : Chance Fault}
    {server : Server Db} {session other : Session Result Write Key}
    (free : dialect.blocked statement chance server session other = false)
    (compatible : Compatible session.locks other.locks) :
    Compatible (dialect.exec statement chance server session).2.1.locks other.locks := by
  cases statement with
  | begin =>
      cases chance with
      | proceed => exact fun _ mem => absurd mem List.not_mem_nil
      | fail | lose => exact compatible
  | commit =>
      cases chance <;> exact fun _ mem => absurd mem List.not_mem_nil
  | rollback => exact fun _ mem => absurd mem List.not_mem_nil
  | query query =>
      cases chance with
      | fail | lose => exact compatible
      | proceed fresh =>
          simp only [exec]
          split
          · refine compatible.append fun lock mem held memHeld => ?_
            simp only [blocked, List.any_append, Bool.or_eq_false_iff, List.any_eq_false] at free
            have apart := free.1 lock mem
            simp only [List.any_eq_true, not_exists, not_and, Bool.not_eq_true] at apart
            exact apart held memHeld
          · exact compatible

/-- No two sessions of a run hold conflicting locks. -/
theorem compatible_of_reaches {Call Outcome : Type}
    {code : Call → Program (Reply Result Fault) Outcome}
    {permits : Config (Reply Result Fault) Call (Server Db) (Session Result Write Key) Outcome →
      Action Call (Chance Fault) Nat → Prop} {server : Server Db}
    {config : Config (Reply Result Fault) Call (Server Db) (Session Result Write Key) Outcome}
    (reaches : dialect.system.Reaches code permits (Config.initial server) config) :
    System.Pairwise (fun first second => Compatible first.locks second.locks) config := by
  refine reaches.pairwise (System.pairwise_initial _ server) ?_ ?_ ?_
  · intro first second compatible
    exact compatible.symm
  · intro other lock mem
    exact absurd mem List.not_mem_nil
  · intro statement chance server session other free compatible
    exact compatible_exec free compatible

end Dialect

end Relational

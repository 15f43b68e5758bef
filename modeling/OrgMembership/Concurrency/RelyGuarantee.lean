import OrgMembership.Concurrency.Interleaving

/-!
# Rely–guarantee reasoning for interleaved programs

A protocol names the invariant of the shared state, what every executed
statement guarantees to the other processes, and what a process may rely on: the
others' guarantees, restricted by what is known about two processes that run at
the same time.  `wp` is the weakest precondition of a program under such
interference, and `Reaches.sound` turns one triple per call into an invariant of
every run.
-/

namespace Concurrency

/-- A property of the shared state and of one local state. -/
abbrev Assertion (Shared Local : Type) : Type :=
  Shared → Local → Prop

/-- The contract between the processes of a run. -/
structure Protocol (Stmt Choice Shared Local : Type) where
  /-- Holds of the shared state throughout. -/
  Inv : Shared → Prop
  /-- The condition under which a statement is executed at all. -/
  Admits : Stmt → Shared → Local → Prop
  /-- What is known of an acting process and any other at that moment. -/
  Coexist : Shared → Local → Local → Prop
  /-- What a step of a process, in this local state, does to the shared state. -/
  Guar : Local → Shared → Shared → Prop
  /-- What the outside does to the shared state. -/
  Drift : Shared → Shared → Prop
  /-- The choices that are made for a statement. -/
  Grants : Stmt → Choice → Local → Prop := fun _ _ _ => True

variable {Stmt : Type} {Answer : Stmt → Type}
  {Call Shared Local Choice Signal Outcome α β σ τ ε : Type}

namespace Protocol

variable (protocol : Protocol Stmt Choice Shared Local)

/-- Interference a process in local state `loc` has to reckon with. -/
def Rely (loc : Local) (before after : Shared) : Prop :=
  (∃ actor, protocol.Coexist before actor loc ∧ protocol.Guar actor before after) ∨
    protocol.Drift before after

/-- An assertion that no interference invalidates. -/
def Stable (assertion : Assertion Shared Local) : Prop :=
  ∀ before after loc, protocol.Inv before → protocol.Inv after →
    protocol.Rely loc before after → assertion before loc → assertion after loc

/-- An assertion that no step invalidates, whatever else is running. -/
def Settled (assertion : Assertion Shared Local) : Prop :=
  ∀ before after loc, protocol.Inv before → protocol.Inv after →
    ((∃ actor, protocol.Guar actor before after) ∨ protocol.Drift before after) →
    assertion before loc → assertion after loc

variable {protocol}

theorem Settled.stable {assertion : Assertion Shared Local}
    (settled : protocol.Settled assertion) : protocol.Stable assertion := by
  intro before after loc inv inv' rely holds
  refine settled before after loc inv inv' ?_ holds
  rcases rely with ⟨actor, _, guar⟩ | drift
  · exact .inl ⟨actor, guar⟩
  · exact .inr drift

theorem Stable.and {first second : Assertion Shared Local}
    (stableFirst : protocol.Stable first) (stableSecond : protocol.Stable second) :
    protocol.Stable fun shared loc => first shared loc ∧ second shared loc :=
  fun before after loc inv inv' rely holds =>
    ⟨stableFirst before after loc inv inv' rely holds.1,
      stableSecond before after loc inv inv' rely holds.2⟩

/-- Assertions about the local state alone are stable. -/
theorem stable_local (property : Local → Prop) :
    protocol.Stable fun _ loc => property loc :=
  fun _ _ _ _ _ _ holds => holds

end Protocol

section Logic

variable (sys : System Answer Shared Local Choice Signal)
  (protocol : Protocol Stmt Choice Shared Local)

/-- One execution of `stmt` from an `assertion` state keeps the invariant and
the guarantee and ends in `post` of the answer. -/
def Transition (stmt : Stmt) (assertion : Assertion Shared Local)
    (post : Answer stmt → Assertion Shared Local) : Prop :=
  ∀ shared loc choice, protocol.Inv shared → assertion shared loc →
    protocol.Admits stmt shared loc → protocol.Grants stmt choice loc →
    protocol.Inv (sys.exec stmt choice shared loc).2.2 ∧
      protocol.Guar loc shared (sys.exec stmt choice shared loc).2.2 ∧
      post (sys.exec stmt choice shared loc).1 (sys.exec stmt choice shared loc).2.2
        (sys.exec stmt choice shared loc).2.1

/-- The weakest precondition of a program under interference: before each
statement some stable assertion holds. -/
def wp : Program Answer α → (α → Assertion Shared Local) → Assertion Shared Local
  | .ret value, post => post value
  | .call stmt next, post => fun shared loc =>
      ∃ assertion, protocol.Stable assertion ∧ assertion shared loc ∧
        Transition sys protocol stmt assertion fun answer => wp (next answer) post

/-- Partial correctness of a program under interference. -/
def Triple (pre : Assertion Shared Local) (program : Program Answer α)
    (post : α → Assertion Shared Local) : Prop :=
  ∀ shared loc, protocol.Inv shared → pre shared loc → wp sys protocol program post shared loc

end Logic

section Rules

variable {sys : System Answer Shared Local Choice Signal}
  {protocol : Protocol Stmt Choice Shared Local}

theorem wp_mono {program : Program Answer α} {post weaker : α → Assertion Shared Local}
    (implies : ∀ value shared loc, protocol.Inv shared → post value shared loc →
      weaker value shared loc) {shared : Shared} {loc : Local} (inv : protocol.Inv shared)
    (holds : wp sys protocol program post shared loc) :
    wp sys protocol program weaker shared loc := by
  induction program generalizing shared loc with
  | ret value => exact implies value shared loc inv holds
  | call stmt next ih =>
      obtain ⟨assertion, stable, now, transition⟩ := holds
      refine ⟨assertion, stable, now, fun shared loc choice inv holds admitted granted => ?_⟩
      obtain ⟨inv', guar, after⟩ := transition shared loc choice inv holds admitted granted
      exact ⟨inv', guar, ih _ inv' after⟩

theorem wp_bind {first : Program Answer α} {rest : α → Program Answer β}
    {post : β → Assertion Shared Local} {shared : Shared} {loc : Local}
    (holds : wp sys protocol first (fun value => wp sys protocol (rest value) post) shared loc) :
    wp sys protocol (first >>= rest) post shared loc := by
  induction first generalizing shared loc with
  | ret value => exact holds
  | call stmt next ih =>
      obtain ⟨assertion, stable, now, transition⟩ := holds
      refine ⟨assertion, stable, now, fun shared loc choice inv holds admitted granted => ?_⟩
      obtain ⟨inv', guar, after⟩ := transition shared loc choice inv holds admitted granted
      exact ⟨inv', guar, ih _ after⟩

/-- A program keeps what no step invalidates. -/
theorem wp_settled {kept : Shared → Prop} (settled : protocol.Settled fun shared _ => kept shared)
    {program : Program Answer α} {post : α → Assertion Shared Local} {shared : Shared}
    {loc : Local} (inv : protocol.Inv shared) (now : kept shared)
    (holds : wp sys protocol program post shared loc) :
    wp sys protocol program (fun value shared loc => post value shared loc ∧ kept shared)
      shared loc := by
  induction program generalizing shared loc with
  | ret value => exact ⟨holds, now⟩
  | call stmt next ih =>
      obtain ⟨assertion, stable, here, transition⟩ := holds
      refine ⟨_, stable.and settled.stable, ⟨here, now⟩, ?_⟩
      rintro shared loc choice inv ⟨here, now⟩ admitted granted
      obtain ⟨inv', guar, after⟩ := transition shared loc choice inv here admitted granted
      exact ⟨inv', guar, ih _ inv' (settled _ _ loc inv inv' (.inl ⟨loc, guar⟩) now) after⟩

/-- What a program returns is what it can return. -/
theorem wp_returns {good : α → Prop} {program : Program Answer α}
    {post : α → Assertion Shared Local} {shared : Shared} {loc : Local}
    (returns : program.Returns good) (holds : wp sys protocol program post shared loc) :
    wp sys protocol program (fun value shared loc => post value shared loc ∧ good value)
      shared loc := by
  induction program generalizing shared loc with
  | ret value => exact ⟨holds, returns⟩
  | call stmt next ih =>
      obtain ⟨assertion, stable, here, transition⟩ := holds
      refine ⟨assertion, stable, here, fun shared loc choice inv now admitted granted => ?_⟩
      obtain ⟨inv', guar, after⟩ := transition shared loc choice inv now admitted granted
      exact ⟨inv', guar, ih _ (returns _) after⟩

/-- What is left of a process that has not returned is stable. -/
theorem stable_wp_call {stmt : Stmt} {next : Answer stmt → Program Answer α}
    {post : α → Assertion Shared Local} :
    protocol.Stable (wp sys protocol (.call stmt next) post) := by
  rintro before after loc inv inv' rely ⟨assertion, stable, now, transition⟩
  exact ⟨assertion, stable, stable before after loc inv inv' rely now, transition⟩

/-- A settled postcondition makes what is left of any process stable. -/
theorem stable_wp {program : Program Answer α} {post : α → Assertion Shared Local}
    (settled : ∀ value, protocol.Settled (post value)) :
    protocol.Stable (wp sys protocol program post) := by
  cases program with
  | ret value => exact (settled value).stable
  | call stmt next => exact stable_wp_call

namespace Triple

variable {pre stronger : Assertion Shared Local}

theorem ret {value : α} {post : α → Assertion Shared Local}
    (implies : ∀ shared loc, protocol.Inv shared → pre shared loc → post value shared loc) :
    Triple sys protocol pre (.ret value) post :=
  implies

theorem weaken {program : Program Answer α} {post weaker : α → Assertion Shared Local}
    (triple : Triple sys protocol pre program post)
    (before : ∀ shared loc, protocol.Inv shared → stronger shared loc → pre shared loc)
    (after : ∀ value shared loc, protocol.Inv shared → post value shared loc →
      weaker value shared loc) :
    Triple sys protocol stronger program weaker :=
  fun shared loc inv holds =>
    wp_mono after inv (triple shared loc inv (before shared loc inv holds))

theorem bind {first : Program Answer α} {rest : α → Program Answer β}
    {middle : α → Assertion Shared Local} {post : β → Assertion Shared Local}
    (tripleFirst : Triple sys protocol pre first middle)
    (tripleRest : ∀ value, Triple sys protocol (middle value) (rest value) post) :
    Triple sys protocol pre (first >>= rest) post := by
  intro shared loc inv holds
  refine wp_bind (wp_mono ?_ inv (tripleFirst shared loc inv holds))
  intro value shared loc inv holds
  exact tripleRest value shared loc inv holds

theorem of_fact {fact : Prop} {program : Program Answer α} {post : α → Assertion Shared Local}
    (triple : fact → Triple sys protocol pre program post) :
    Triple sys protocol (fun shared loc => pre shared loc ∧ fact) program post :=
  fun shared loc inv holds => triple holds.2 shared loc inv holds.1

theorem issue {stmt : Stmt} {post : Answer stmt → Assertion Shared Local}
    (stable : protocol.Stable pre) (transition : Transition sys protocol stmt pre post) :
    Triple sys protocol pre (.issue stmt) post :=
  fun _ _ _ holds => ⟨pre, stable, holds, transition⟩

/-- A stable assertion that every allowed statement keeps survives a program
that issues only allowed statements. -/
theorem frame {allowed : Stmt → Prop} {program : Program Answer α}
    (stable : protocol.Stable pre)
    (keeps : ∀ stmt, allowed stmt → Transition sys protocol stmt pre fun _ => pre)
    (issues : program.Issues allowed) :
    Triple sys protocol pre program fun _ => pre := by
  intro shared loc inv holds
  induction program generalizing shared loc with
  | ret value => exact holds
  | call stmt next ih =>
      refine ⟨pre, stable, holds, fun shared loc choice inv holds admitted granted => ?_⟩
      obtain ⟨inv', guar, after⟩ := keeps stmt issues.1 shared loc choice inv holds admitted granted
      exact ⟨inv', guar, ih _ (issues.2 _) _ _ inv' after⟩

end Triple

end Rules

/-! ## Programs that may fail -/

section Failing

variable {sys : System Answer Shared Local Choice Signal}
  {protocol : Protocol Stmt Choice Shared Local}

/-- Split a postcondition on the outcome of a fallible program. -/
def outcome (post : α → Assertion Shared Local) (fails : ε → Assertion Shared Local) :
    Except ε α → Assertion Shared Local
  | .ok value => post value
  | .error error => fails error

/-- A triple for a program that may fail; nothing is assumed about the captured
variables. -/
def Attempt (sys : System Answer Shared Local Choice Signal)
    (protocol : Protocol Stmt Choice Shared Local) (pre : Assertion Shared Local)
    (program : Fallible Answer σ ε α) (post : α → Assertion Shared Local)
    (fails : ε → Assertion Shared Local) : Prop :=
  ∀ captured, Triple sys protocol pre (program.start captured)
    fun result => outcome post fails result.1

namespace Attempt

variable {pre stronger : Assertion Shared Local} {post weaker : α → Assertion Shared Local}
  {fails failsMore : ε → Assertion Shared Local}

theorem pure {value : α}
    (implies : ∀ shared loc, protocol.Inv shared → pre shared loc → post value shared loc) :
    Attempt sys protocol pre (Pure.pure value : Fallible Answer σ ε α) post fails :=
  fun _ => implies

theorem throw {error : ε}
    (implies : ∀ shared loc, protocol.Inv shared → pre shared loc → fails error shared loc) :
    Attempt sys protocol pre (MonadExcept.throw error : Fallible Answer σ ε α) post fails :=
  fun _ => implies

/-- Reading the captured variables tells nothing about them. -/
theorem get : Attempt sys protocol pre (MonadState.get : Fallible Answer σ ε σ)
    (fun _ => pre) fails :=
  fun _ => Triple.ret fun _ _ _ holds => holds

theorem assign {change : σ → σ} :
    Attempt sys protocol pre (modify change : Fallible Answer σ ε PUnit)
      (fun _ => pre) fails :=
  fun _ => Triple.ret fun _ _ _ holds => holds

theorem weaken {program : Fallible Answer σ ε α}
    (attempt : Attempt sys protocol pre program post fails)
    (before : ∀ shared loc, protocol.Inv shared → stronger shared loc → pre shared loc)
    (after : ∀ value shared loc, protocol.Inv shared → post value shared loc →
      weaker value shared loc)
    (failing : ∀ error shared loc, protocol.Inv shared → fails error shared loc →
      failsMore error shared loc) :
    Attempt sys protocol stronger program weaker failsMore := by
  intro captured
  refine Triple.weaken (attempt captured) before fun result shared loc inv holds => ?_
  rcases result with ⟨error | value, captured⟩
  · exact failing error shared loc inv holds
  · exact after value shared loc inv holds

theorem strengthen {program : Fallible Answer σ ε α}
    (attempt : Attempt sys protocol pre program post fails)
    (before : ∀ shared loc, protocol.Inv shared → stronger shared loc → pre shared loc) :
    Attempt sys protocol stronger program post fails :=
  attempt.weaken before (fun _ _ _ _ holds => holds) fun _ _ _ _ holds => holds

theorem relax {program : Fallible Answer σ ε α}
    (attempt : Attempt sys protocol pre program post fails)
    (after : ∀ value shared loc, protocol.Inv shared → post value shared loc →
      weaker value shared loc) :
    Attempt sys protocol pre program weaker fails :=
  attempt.weaken (fun _ _ _ holds => holds) after fun _ _ _ _ holds => holds

/-- What a precondition asserts to exist may be assumed. -/
theorem of_exists {ι : Type} {program : Fallible Answer σ ε α} {pre : ι → Assertion Shared Local}
    (attempt : ∀ index, Attempt sys protocol (pre index) program post fails) :
    Attempt sys protocol (fun shared loc => ∃ index, pre index shared loc) program post fails :=
  fun captured shared loc inv ⟨index, holds⟩ => attempt index captured shared loc inv holds

/-- A fact of the precondition that is not about the state may be assumed. -/
theorem of_fact {fact : Prop} {program : Fallible Answer σ ε α}
    (attempt : fact → Attempt sys protocol pre program post fails) :
    Attempt sys protocol (fun shared loc => fact ∧ pre shared loc) program post fails :=
  fun captured shared loc inv holds => attempt holds.1 captured shared loc inv holds.2

theorem bind {first : Fallible Answer σ ε α} {rest : α → Fallible Answer σ ε β}
    {post : β → Assertion Shared Local} {middle : α → Assertion Shared Local}
    (attemptFirst : Attempt sys protocol pre first middle fails)
    (attemptRest : ∀ value, Attempt sys protocol (middle value) (rest value) post fails) :
    Attempt sys protocol pre (first >>= rest) post fails := by
  intro captured
  rw [Fallible.start_bind]
  refine Triple.bind (attemptFirst captured) fun result => ?_
  rcases result with ⟨error | value, captured⟩
  · exact Triple.ret fun _ _ _ holds => holds
  · exact attemptRest value captured

/-- An observed failure is a value. -/
theorem observe {program : Fallible Answer σ ε α}
    (attempt : Attempt sys protocol pre program post fails) :
    Attempt sys protocol pre program.observe (outcome post fails) failsMore := by
  intro captured
  refine Triple.bind (attempt captured) fun result => ?_
  rcases result with ⟨error | value, captured⟩ <;> exact Triple.ret fun _ _ _ holds => holds

theorem mapError {change : ε → ε} {program : Fallible Answer σ ε α}
    (attempt : Attempt sys protocol pre program post fun error => fails (change error)) :
    Attempt sys protocol pre (program.mapError change) post fails := by
  intro captured
  refine Triple.bind (attempt captured) fun result => ?_
  rcases result with ⟨error | value, captured⟩ <;> exact Triple.ret fun _ _ _ holds => holds

theorem capturing {initial : τ} {program : Fallible Answer τ ε α}
    (attempt : Attempt sys protocol pre program post fails) :
    Attempt sys protocol pre (Fallible.capturing initial program : Fallible Answer σ ε (α × τ))
      (fun value => post value.1) fails := by
  intro captured
  refine Triple.bind (attempt initial) fun result => ?_
  rcases result with ⟨error | value, final⟩ <;> exact Triple.ret fun _ _ _ holds => holds

/-- The triple of a fallible program that is run on its own. -/
theorem run {program : Fallible Answer Unit ε α}
    (attempt : Attempt sys protocol pre program post fails) :
    Triple sys protocol pre program.run (Concurrency.outcome post fails) :=
  Triple.bind (attempt ()) fun _ => Triple.ret fun _ _ _ holds => holds

/-- A loop keeps what its body keeps. -/
theorem forM {items : List β} {body : β → Fallible Answer σ ε PUnit}
    (attempt : ∀ item ∈ items, Attempt sys protocol pre (body item) (fun _ => pre) fails) :
    Attempt sys protocol pre (items.forM body) (fun _ => pre) fails := by
  induction items with
  | nil => exact Attempt.pure fun _ _ _ holds => holds
  | cons item items ih =>
      exact Attempt.bind (attempt item List.mem_cons_self) fun _ =>
        ih fun other member => attempt other (List.mem_cons_of_mem _ member)

/-- A loop with an invariant about the items it is done with. -/
theorem forM_along {items : List β} {body : β → Fallible Answer σ ε PUnit}
    (inv : List β → Assertion Shared Local)
    (attempt : ∀ done, ∀ item ∈ items,
      Attempt sys protocol (inv done) (body item) (fun _ => inv (done ++ [item])) fails)
    (done : List β) :
    Attempt sys protocol (inv done) (items.forM body) (fun _ => inv (done ++ items)) fails := by
  induction items generalizing done with
  | nil => exact Attempt.pure fun _ _ _ holds => by rwa [List.append_nil]
  | cons item items ih =>
      have rest := ih (fun done other member => attempt done other (List.mem_cons_of_mem _ member))
        (done ++ [item])
      rw [List.append_assoc] at rest
      exact Attempt.bind (attempt done item List.mem_cons_self) fun _ => rest

/-- A fallible program keeps what no step invalidates. -/
theorem settled {kept : Shared → Prop} {program : Fallible Answer σ ε α}
    (settled : protocol.Settled fun shared _ => kept shared)
    (attempt : Attempt sys protocol pre program post fails) :
    Attempt sys protocol (fun shared loc => pre shared loc ∧ kept shared) program
      (fun value shared loc => post value shared loc ∧ kept shared)
      fun error shared loc => fails error shared loc ∧ kept shared := by
  intro captured shared loc inv holds
  refine wp_mono ?_ inv (wp_settled settled inv holds.2 (attempt captured shared loc inv holds.1))
  rintro ⟨error | value, captured⟩ shared loc _ after <;> exact after

theorem frame {allowed : Stmt → Prop} {program : Fallible Answer σ ε α}
    (stable : protocol.Stable pre)
    (keeps : ∀ stmt, allowed stmt → Transition sys protocol stmt pre fun _ => pre)
    (issues : Fallible.Issues allowed program) :
    Attempt sys protocol pre program (fun _ => pre) fun _ => pre := by
  intro captured
  refine Triple.weaken (Triple.frame stable keeps (issues captured)) (fun _ _ _ holds => holds)
    fun result shared loc _ holds => ?_
  rcases result with ⟨error | value, captured⟩ <;> exact holds

end Attempt

/-- A triple for a program that may fail, whose captured variables are good before and
after. -/
def AttemptOn (sys : System Answer Shared Local Choice Signal)
    (protocol : Protocol Stmt Choice Shared Local) (good : σ → Prop) (pre : Assertion Shared Local)
    (program : Fallible Answer σ ε α) (post : α → Assertion Shared Local)
    (fails : ε → Assertion Shared Local) : Prop :=
  ∀ captured, good captured → Triple sys protocol pre (program.start captured)
    fun result shared loc => outcome post fails result.1 shared loc ∧ good result.2

namespace AttemptOn

variable {good : σ → Prop} {pre stronger : Assertion Shared Local}
  {post weaker : α → Assertion Shared Local} {fails : ε → Assertion Shared Local}

/-- A program that leaves the captured variables alone. -/
theorem of_preserves {program : Fallible Answer σ ε α} (preserves : program.Preserves)
    (attempt : Attempt sys protocol pre program post fails) :
    AttemptOn sys protocol good pre program post fails := by
  intro captured holds shared loc inv before
  refine wp_mono ?_ inv (wp_returns (preserves captured) (attempt captured shared loc inv before))
  rintro ⟨result, _⟩ shared loc _ ⟨after, rfl⟩
  exact ⟨after, holds⟩

theorem pure {value : α}
    (implies : ∀ shared loc, protocol.Inv shared → pre shared loc → post value shared loc) :
    AttemptOn sys protocol good pre (Pure.pure value : Fallible Answer σ ε α) post fails :=
  of_preserves (Fallible.preserves_pure _) (Attempt.pure implies)

theorem get : AttemptOn sys protocol good pre (MonadState.get : Fallible Answer σ ε σ)
    (fun value shared loc => good value ∧ pre shared loc) fails :=
  fun _ holds => Triple.ret fun _ _ _ before => ⟨⟨holds, before⟩, holds⟩

theorem assign {change : σ → σ} (keeps : ∀ captured, good captured → good (change captured)) :
    AttemptOn sys protocol good pre (modify change : Fallible Answer σ ε PUnit)
      (fun _ => pre) fails :=
  fun captured holds => Triple.ret fun _ _ _ before => ⟨before, keeps captured holds⟩

theorem weaken {failsMore : ε → Assertion Shared Local} {program : Fallible Answer σ ε α}
    (attempt : AttemptOn sys protocol good pre program post fails)
    (before : ∀ shared loc, protocol.Inv shared → stronger shared loc → pre shared loc)
    (after : ∀ value shared loc, protocol.Inv shared → post value shared loc →
      weaker value shared loc)
    (failing : ∀ error shared loc, protocol.Inv shared → fails error shared loc →
      failsMore error shared loc) :
    AttemptOn sys protocol good stronger program weaker failsMore := by
  intro captured holds
  refine Triple.weaken (attempt captured holds) before ?_
  rintro ⟨error | value, captured⟩ shared loc inv ⟨holds, kept⟩
  · exact ⟨failing error shared loc inv holds, kept⟩
  · exact ⟨after value shared loc inv holds, kept⟩

theorem of_exists {ι : Type} {program : Fallible Answer σ ε α} {pre : ι → Assertion Shared Local}
    (attempt : ∀ index, AttemptOn sys protocol good (pre index) program post fails) :
    AttemptOn sys protocol good (fun shared loc => ∃ index, pre index shared loc) program post
      fails :=
  fun captured holds shared loc inv ⟨index, before⟩ =>
    attempt index captured holds shared loc inv before

theorem of_fact {fact : Prop} {program : Fallible Answer σ ε α}
    (attempt : fact → AttemptOn sys protocol good pre program post fails) :
    AttemptOn sys protocol good (fun shared loc => fact ∧ pre shared loc) program post fails :=
  fun captured holds shared loc inv before =>
    attempt before.1 captured holds shared loc inv before.2

theorem bind {first : Fallible Answer σ ε α} {rest : α → Fallible Answer σ ε β}
    {middle : α → Assertion Shared Local} {post : β → Assertion Shared Local}
    (attemptFirst : AttemptOn sys protocol good pre first middle fails)
    (attemptRest : ∀ value, AttemptOn sys protocol good (middle value) (rest value) post fails) :
    AttemptOn sys protocol good pre (first >>= rest) post fails := by
  intro captured holds
  rw [Fallible.start_bind]
  refine Triple.bind (attemptFirst captured holds) fun result => ?_
  rintro shared loc inv ⟨middle, holds⟩
  rcases result with ⟨error | value, captured⟩
  · exact ⟨middle, holds⟩
  · exact attemptRest value captured holds shared loc inv middle

theorem mapError {change : ε → ε} {program : Fallible Answer σ ε α}
    (attempt : AttemptOn sys protocol good pre program post fun error => fails (change error)) :
    AttemptOn sys protocol good pre (program.mapError change) post fails := by
  intro captured holds
  refine Triple.bind (attempt captured holds) fun result => ?_
  rcases result with ⟨error | value, captured⟩ <;> exact Triple.ret fun _ _ _ after => after

/-- Nothing is asked of the captured variables. -/
theorem any_iff {program : Fallible Answer σ ε α} :
    AttemptOn sys protocol (fun _ => True) pre program post fails ↔
      Attempt sys protocol pre program post fails := by
  constructor
  · intro attempt captured
    exact Triple.weaken (attempt captured trivial) (fun _ _ _ holds => holds)
      fun _ _ _ _ after => after.1
  · intro attempt captured _
    exact Triple.weaken (attempt captured) (fun _ _ _ holds => holds)
      fun _ _ _ _ after => ⟨after, trivial⟩

/-- A program that starts with good variables of its own. -/
theorem capturing {initial : σ} {program : Fallible Answer σ ε α} (holds : good initial)
    (attempt : AttemptOn sys protocol good pre program post fails) :
    Attempt sys protocol pre (Fallible.capturing initial program : Fallible Answer τ ε (α × σ))
      (fun value shared loc => good value.2 ∧ post value.1 shared loc) fails := by
  intro captured
  refine Triple.bind (attempt initial holds) fun result => ?_
  rcases result with ⟨error | value, final⟩
  · exact Triple.ret fun _ _ _ after => after.1
  · exact Triple.ret fun _ _ _ after => ⟨after.2, after.1⟩

end AttemptOn

end Failing

/-! ## Soundness -/

section Soundness

variable {sys : System Answer Shared Local Choice Signal}
  {protocol : Protocol Stmt Choice Shared Local} {code : Call → Program Answer Outcome}
  {permits : Config Answer Call Shared Local Outcome → Action Call Choice Signal → Prop}
  {start config : Config Answer Call Shared Local Outcome}

/-- The calls of a run meet the protocol: each admitted call has a triple, its
postcondition is settled, and the outside keeps the invariant. -/
structure Verified (sys : System Answer Shared Local Choice Signal)
    (protocol : Protocol Stmt Choice Shared Local) (code : Call → Program Answer Outcome)
    (admitted : Call → Prop) (post : Call → Outcome → Assertion Shared Local) : Prop where
  triple : ∀ call, admitted call →
    Triple sys protocol (fun _ loc => loc = sys.fresh) (code call) (post call)
  settled : ∀ call value, protocol.Settled (post call value)
  drift : ∀ value shared, protocol.Inv shared →
    protocol.Inv (sys.signal value shared) ∧ protocol.Drift shared (sys.signal value shared)

/-- The permitted actions start admitted calls only, and establish what the
protocol assumes about every executed statement and every process that runs
beside it. -/
structure Enforces (sys : System Answer Shared Local Choice Signal)
    (protocol : Protocol Stmt Choice Shared Local) (code : Call → Program Answer Outcome)
    (admitted : Call → Prop)
    (permits : Config Answer Call Shared Local Outcome → Action Call Choice Signal → Prop)
    (start : Config Answer Call Shared Local Outcome) : Prop where
  admits : ∀ config call, permits config (.start call) → admitted call
  executes : ∀ config index choice config' call loc stmt next,
    sys.Reaches code permits start config → permits config (.step index choice) →
    sys.Executes config index choice config' call loc stmt next →
    protocol.Admits stmt config.shared loc ∧
      ∀ position other, position ≠ index → config.processes[position]? = some other →
        other.Running → protocol.Coexist config.shared loc other.loc
  grants : ∀ config index choice call loc stmt next, permits config (.step index choice) →
    config.processes[index]? = some ⟨call, loc, .call stmt next⟩ →
    protocol.Grants stmt choice loc := by exact fun _ _ _ _ _ _ _ _ _ => trivial

/-- The invariant holds, and what is left of every process is still correct. -/
def Sound (sys : System Answer Shared Local Choice Signal)
    (protocol : Protocol Stmt Choice Shared Local) (post : Call → Outcome → Assertion Shared Local)
    (config : Config Answer Call Shared Local Outcome) : Prop :=
  protocol.Inv config.shared ∧ ∀ process ∈ config.processes,
    wp sys protocol process.program (post process.call) config.shared process.loc

variable {admitted : Call → Prop} {post : Call → Outcome → Assertion Shared Local}

/-- An executed statement keeps the configuration sound: the acting process by
its own precondition, every other one by stability. -/
theorem Sound.executes (verified : Verified sys protocol code admitted post)
    (sound : Sound sys protocol post config) {index : Nat} {choice : Choice}
    {config' : Config Answer Call Shared Local Outcome} {call : Call} {loc : Local}
    {stmt : Stmt} {next : Answer stmt → Program Answer Outcome}
    (executes : sys.Executes config index choice config' call loc stmt next)
    (admits : protocol.Admits stmt config.shared loc) (grants : protocol.Grants stmt choice loc)
    (coexist : ∀ position other, position ≠ index → config.processes[position]? = some other →
      other.Running → protocol.Coexist config.shared loc other.loc) :
    Sound sys protocol post config' := by
  obtain ⟨inv, correct⟩ := sound
  obtain ⟨current, _, rfl⟩ := executes
  obtain ⟨assertion, _, now, transition⟩ := correct _ (List.mem_of_getElem? current)
  obtain ⟨inv', guar, after⟩ := transition _ _ choice inv now admits grants
  refine ⟨inv', fun process member => ?_⟩
  obtain ⟨position, found⟩ := List.getElem?_of_mem member
  rw [List.getElem?_set] at found
  split at found
  · split at found <;> cases found
    exact after
  case isFalse apart =>
    have left := correct process (List.mem_of_getElem? found)
    have beside := coexist position process (Ne.symm apart) found
    rcases process with ⟨call, other, value | ⟨stmt, next⟩⟩
    · exact verified.settled call value _ _ _ inv inv' (.inl ⟨loc, guar⟩) left
    · exact stable_wp_call _ _ _ inv inv' (.inl ⟨loc, beside ⟨stmt, next, rfl⟩, guar⟩) left

/-- Every configuration of a permitted run of verified calls is sound. -/
theorem System.Reaches.sound (reaches : sys.Reaches code permits start config)
    (verified : Verified sys protocol code admitted post)
    (enforces : Enforces sys protocol code admitted permits start)
    (initially : Sound sys protocol post start) :
    Sound sys protocol post config := by
  induction reaches with
  | refl => exact initially
  | @step config config' action reaches permitted acted sound =>
      cases action with
      | start call =>
          cases acted
          refine ⟨sound.1, fun process member => ?_⟩
          rcases List.mem_append.mp member with old | new
          · exact sound.2 process old
          · rw [List.mem_singleton.mp new]
            exact verified.triple call (enforces.admits config call permitted) config.shared
              sys.fresh sound.1 rfl
      | step index choice =>
          obtain ⟨call, loc, stmt, next, executes⟩ := sys.executes_of_act_step code acted
          obtain ⟨admits, coexist⟩ :=
            enforces.executes _ _ _ _ _ _ _ _ reaches permitted executes
          exact sound.executes verified executes admits
            (enforces.grants _ _ _ _ _ _ _ permitted executes.current) coexist
      | crash index =>
          cases acted
          exact ⟨sound.1, fun process member => sound.2 process (List.mem_of_mem_eraseIdx member)⟩
      | signal value =>
          cases acted
          obtain ⟨inv, drift⟩ := verified.drift value config.shared sound.1
          exact ⟨inv, fun process member => stable_wp (verified.settled process.call)
            _ _ _ sound.1 inv (.inr drift) (sound.2 process member)⟩

/-- Every executed statement of a permitted run keeps its process's guarantee. -/
theorem System.Reaches.guarantees {shared : Shared}
    (reaches : sys.Reaches code permits (Config.initial shared) config)
    (verified : Verified sys protocol code admitted post)
    (enforces : Enforces sys protocol code admitted permits (Config.initial shared))
    (initially : protocol.Inv shared) {index : Nat} {choice : Choice}
    {config' : Config Answer Call Shared Local Outcome}
    (permitted : permits config (.step index choice))
    (acted : sys.act code (.step index choice) config = some config') :
    ∃ process, config.processes[index]? = some process ∧
      protocol.Guar process.loc config.shared config'.shared := by
  obtain ⟨inv, correct⟩ :=
    reaches.sound verified enforces ⟨initially, by simp [Config.initial]⟩
  obtain ⟨call, loc, stmt, next, executes⟩ := sys.executes_of_act_step code acted
  obtain ⟨admits, _⟩ := enforces.executes _ _ _ _ _ _ _ _ reaches permitted executes
  have grants := enforces.grants _ _ _ _ _ _ _ permitted executes.current
  obtain ⟨current, _, rfl⟩ := executes
  obtain ⟨assertion, _, now, transition⟩ := correct _ (List.mem_of_getElem? current)
  exact ⟨_, current, (transition _ _ choice inv now admits grants).2.1⟩

/-- The shared state of a configuration that starts without processes keeps the
protocol's invariant along every permitted run. -/
theorem System.Reaches.inv {shared : Shared}
    (reaches : sys.Reaches code permits (Config.initial shared) config)
    (verified : Verified sys protocol code admitted post)
    (enforces : Enforces sys protocol code admitted permits (Config.initial shared))
    (initially : protocol.Inv shared) :
    protocol.Inv config.shared :=
  (reaches.sound verified enforces ⟨initially, by simp [Config.initial]⟩).1

end Soundness

end Concurrency

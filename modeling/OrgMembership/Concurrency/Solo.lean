import OrgMembership.Concurrency.Interleaving

/-!
# Programs that run alone

A total-correctness logic for one client while no other client acts.  The server
gives only choices from a set, and between two statements the shared state may
drift.  Programs are finite trees, so a client that can always go on returns.
-/

namespace Concurrency

variable {Stmt : Type} {Answer : Stmt → Type}
  {Call Shared Local Choice Signal Outcome σ ε α β : Type}
variable {program : Fallible Answer σ ε α} {loc : Local} {shared : Shared}

/-- What a client that runs alone has to expect: the choices it is given, how the
shared state drifts, and what always holds of the shared state. -/
structure Solitude (Stmt Shared Local Choice : Type) where
  calm : Shared → Prop
  drifts : Shared → Shared → Prop
  gives : Stmt → Choice → Shared → Local → Prop
  drifts_refl : ∀ shared, drifts shared shared
  drifts_trans : ∀ first second third, drifts first second → drifts second third →
    drifts first third

section Ends

variable (sys : System Answer Shared Local Choice Signal)
  (solitude : Solitude Stmt Shared Local Choice)

/-- However its statements are answered, the program ends with the postcondition. -/
def ends (post : α → Shared → Local → Prop) : Program Answer α → Shared → Local → Prop
  | .ret value, shared, loc => post value shared loc
  | .call stmt next, shared, loc => ∀ drifted choice, solitude.drifts shared drifted →
      solitude.calm drifted → solitude.gives stmt choice drifted loc →
      ends post (next (sys.exec stmt choice drifted loc).1)
        (sys.exec stmt choice drifted loc).2.2 (sys.exec stmt choice drifted loc).2.1

variable {sys solitude} {post : α → Shared → Local → Prop}

theorem ends_mono {weaker : α → Shared → Local → Prop}
    (implies : ∀ value shared loc, post value shared loc → weaker value shared loc)
    {program : Program Answer α} (holds : ends sys solitude post program shared loc) :
    ends sys solitude weaker program shared loc := by
  induction program generalizing shared loc with
  | ret value => exact implies value shared loc holds
  | call stmt next ih =>
      exact fun drifted choice drifts calm gives => ih _ (holds drifted choice drifts calm gives)

theorem ends_bind {post : β → Shared → Local → Prop} {first : Program Answer α}
    {rest : α → Program Answer β} (holds : ends sys solitude
      (fun value => ends sys solitude post (rest value)) first shared loc) :
    ends sys solitude post (first.bind rest) shared loc := by
  induction first generalizing shared loc with
  | ret value => exact holds
  | call stmt next ih =>
      exact fun drifted choice drifts calm gives => ih _ (holds drifted choice drifts calm gives)

/-- A postcondition that always holds is reached. -/
theorem ends_of_forall (always : ∀ value shared loc, post value shared loc)
    (program : Program Answer α) (shared : Shared) (loc : Local) :
    ends sys solitude post program shared loc := by
  induction program generalizing shared loc with
  | ret value => exact always value shared loc
  | call stmt next ih => exact fun _ _ _ _ _ => ih _ _ _

/-- The drift before a program does not matter, if it does not matter after it. -/
theorem ends_drift (stable : ∀ value before after loc, solitude.drifts before after →
      post value before loc → post value after loc) {program : Program Answer α} {drifted : Shared}
    (drifts : solitude.drifts shared drifted) (holds : ends sys solitude post program shared loc) :
    ends sys solitude post program drifted loc := by
  cases program with
  | ret value => exact stable value shared drifted loc drifts holds
  | call stmt next =>
      exact fun later choice further => holds later choice
        (solitude.drifts_trans _ _ _ drifts further)

end Ends

/-! ## Fallible programs -/

/-- Run alone from the precondition, the program succeeds with the
postcondition. -/
def Succeeds (sys : System Answer Shared Local Choice Signal)
    (solitude : Solitude Stmt Shared Local Choice) (pre : σ → Shared → Local → Prop)
    (program : Fallible Answer σ ε α) (post : α → σ → Shared → Local → Prop) : Prop :=
  ∀ captured shared loc, pre captured shared loc →
    ends sys solitude
      (fun result shared loc => ∃ value, result.1 = .ok value ∧ post value result.2 shared loc)
      (program.start captured) shared loc

namespace Succeeds

variable {sys : System Answer Shared Local Choice Signal}
  {solitude : Solitude Stmt Shared Local Choice} {pre : σ → Shared → Local → Prop}
  {middle : α → σ → Shared → Local → Prop} {post : β → σ → Shared → Local → Prop}

theorem pure {value : α} (holds : ∀ captured shared loc, pre captured shared loc →
      middle value captured shared loc) :
    Succeeds sys solitude pre (pure value : Fallible Answer σ ε α) middle :=
  fun captured shared loc before => ⟨value, rfl, holds captured shared loc before⟩

theorem bind {first : Fallible Answer σ ε α} {rest : α → Fallible Answer σ ε β}
    (begins : Succeeds sys solitude pre first middle)
    (goesOn : ∀ value, Succeeds sys solitude (middle value) (rest value) post) :
    Succeeds sys solitude pre (first >>= rest) post := by
  intro captured shared loc before
  rw [Fallible.start_bind]
  refine ends_bind (ends_mono ?_ (begins captured shared loc before))
  rintro ⟨_, captured⟩ shared loc ⟨value, rfl, holds⟩
  exact goesOn value captured shared loc holds

theorem weaken {stronger : σ → Shared → Local → Prop} {weaker : α → σ → Shared → Local → Prop}
    (succeeds : Succeeds sys solitude pre program middle)
    (before : ∀ captured shared loc, stronger captured shared loc → pre captured shared loc)
    (after : ∀ value captured shared loc, middle value captured shared loc →
      weaker value captured shared loc) :
    Succeeds sys solitude stronger program weaker := by
  intro captured shared loc holds
  refine ends_mono ?_ (succeeds captured shared loc (before captured shared loc holds))
  rintro result shared loc ⟨value, ok, holds⟩
  exact ⟨value, ok, after value _ shared loc holds⟩

theorem mapError {change : ε → ε} (succeeds : Succeeds sys solitude pre program middle) :
    Succeeds sys solitude pre (program.mapError change) middle := by
  intro captured shared loc before
  refine ends_bind (ends_mono ?_ (succeeds captured shared loc before))
  rintro ⟨_, captured⟩ shared loc ⟨value, rfl, holds⟩
  exact ⟨value, rfl, holds⟩

theorem observe (succeeds : Succeeds sys solitude pre program middle) :
    Succeeds sys solitude pre program.observe fun result captured shared loc =>
      ∃ value, result = .ok value ∧ middle value captured shared loc := by
  intro captured shared loc before
  refine ends_bind (ends_mono ?_ (succeeds captured shared loc before))
  rintro ⟨_, captured⟩ shared loc ⟨value, rfl, holds⟩
  exact ⟨_, rfl, value, rfl, holds⟩

/-- A program that succeeds, run on its own. -/
theorem run {pre : Unit → Shared → Local → Prop} {middle : α → Unit → Shared → Local → Prop}
    {program : Fallible Answer Unit ε α} (succeeds : Succeeds sys solitude pre program middle)
    (before : pre () shared loc) :
    ends sys solitude
      (fun outcome shared loc => ∃ value, outcome = .ok value ∧ middle value () shared loc)
      program.run shared loc := by
  refine ends_bind (ends_mono ?_ (succeeds () shared loc before))
  rintro ⟨_, captured⟩ shared loc ⟨value, rfl, holds⟩
  exact ⟨value, rfl, holds⟩

end Succeeds

/-- Run alone from anywhere, the program fails. -/
def Fails (sys : System Answer Shared Local Choice Signal)
    (solitude : Solitude Stmt Shared Local Choice) (program : Fallible Answer σ ε α) : Prop :=
  ∀ captured shared loc, ends sys solitude (fun result _ _ => ∃ error, result.1 = .error error)
    (program.start captured) shared loc

namespace Fails

variable {sys : System Answer Shared Local Choice Signal}
  {solitude : Solitude Stmt Shared Local Choice}

theorem throw (error : ε) : Fails sys solitude (throw error : Fallible Answer σ ε α) :=
  fun _ _ _ => ⟨error, rfl⟩

theorem bind (fails : Fails sys solitude program) (rest : α → Fallible Answer σ ε β) :
    Fails sys solitude (program >>= rest) := by
  intro captured shared loc
  rw [Fallible.start_bind]
  refine ends_bind (ends_mono ?_ (fails captured shared loc))
  rintro ⟨_, captured⟩ shared loc ⟨error, rfl⟩
  exact ⟨error, rfl⟩

/-- It does not matter how the program begins. -/
theorem after (program : Fallible Answer σ ε α) {rest : α → Fallible Answer σ ε β}
    (fails : ∀ value, Fails sys solitude (rest value)) :
    Fails sys solitude (program >>= rest) := by
  intro captured shared loc
  rw [Fallible.start_bind]
  refine ends_bind (ends_of_forall ?_ _ _ _)
  rintro ⟨error | value, captured⟩ shared loc
  · exact ⟨error, rfl⟩
  · exact fails value captured shared loc

theorem mapError (change : ε → ε) (fails : Fails sys solitude program) :
    Fails sys solitude (program.mapError change) := by
  intro captured shared loc
  refine ends_bind (ends_mono ?_ (fails captured shared loc))
  rintro ⟨_, captured⟩ shared loc ⟨error, rfl⟩
  exact ⟨change error, rfl⟩

theorem run {program : Fallible Answer Unit ε α} (fails : Fails sys solitude program) :
    ends sys solitude (fun outcome _ _ => ∃ error, outcome = .error error) program.run shared
      loc := by
  refine ends_bind (ends_mono ?_ (fails () shared loc))
  rintro ⟨_, captured⟩ shared loc ⟨error, rfl⟩
  exact ⟨error, rfl⟩

end Fails

/-! ## Runs -/

section Runs

/-- The condition lets one process run alone. -/
structure Secludes (sys : System Answer Shared Local Choice Signal)
    (solitude : Solitude Stmt Shared Local Choice)
    (permits : Config Answer Call Shared Local Outcome → Action Call Choice Signal → Prop)
    (index : Nat) : Prop where
  alone : ∀ config call, ¬permits config (.start call)
  stays : ∀ config position, ¬permits config (.crash position)
  only : ∀ config position choice, permits config (.step position choice) → position = index
  gives : ∀ config choice call loc stmt next, permits config (.step index choice) →
    config.processes[index]? = some ⟨call, loc, .call stmt next⟩ →
    solitude.calm config.shared ∧ solitude.gives stmt choice config.shared loc
  drifts : ∀ config value, permits config (.signal value) →
    solitude.calm (sys.signal value config.shared) ∧
      solitude.drifts config.shared (sys.signal value config.shared)

variable {sys : System Answer Shared Local Choice Signal}
  {solitude : Solitude Stmt Shared Local Choice} {code : Call → Program Answer Outcome}
  {permits : Config Answer Call Shared Local Outcome → Action Call Choice Signal → Prop}
  {index : Nat} {start config : Config Answer Call Shared Local Outcome} {call : Call}
  {post : Outcome → Shared → Local → Prop}

/-- The process is on its way to the postcondition, beside the others of the start. -/
structure OnWay (sys : System Answer Shared Local Choice Signal)
    (solitude : Solitude Stmt Shared Local Choice) (post : Outcome → Shared → Local → Prop)
    (index : Nat) (call : Call) (start config : Config Answer Call Shared Local Outcome) :
    Prop where
  others : ∀ position, position ≠ index → config.processes[position]? = start.processes[position]?
  current : ∃ loc program, config.processes[index]? = some ⟨call, loc, program⟩ ∧
    ends sys solitude post program config.shared loc

/-- A process that runs alone stays on its way. -/
theorem onWay_of_reaches (secludes : Secludes sys solitude permits index)
    (stable : ∀ value before after loc, solitude.drifts before after →
      post value before loc → post value after loc)
    (initially : OnWay sys solitude post index call start start)
    (reaches : sys.Reaches code permits start config) :
    OnWay sys solitude post index call start config := by
  induction reaches with
  | refl => exact initially
  | @step config config' action _ permitted acted ih =>
      obtain ⟨others, loc, program, current, holds⟩ := ih
      cases action with
      | start call => exact absurd permitted (secludes.alone config call)
      | crash position => exact absurd permitted (secludes.stays config position)
      | signal value =>
          cases acted
          exact ⟨others, loc, program, current,
            ends_drift stable (secludes.drifts config value permitted).2 holds⟩
      | step position choice =>
          cases secludes.only config position choice permitted
          obtain ⟨_, _, stmt, next, executes⟩ := System.executes_of_act_step sys code acted
          cases current.symm.trans executes.current
          obtain ⟨calm, gives⟩ := secludes.gives config choice _ _ stmt next permitted current
          have lt : index < config.processes.length := (List.getElem?_eq_some_iff.mp current).1
          rw [executes.result]
          refine ⟨fun position away => ?_, _, _, List.getElem?_set_self lt,
            holds _ _ (solitude.drifts_refl _) calm gives⟩
          rw [List.getElem?_set_ne (Ne.symm away)]
          exact others position away

/-- A process that can always go on returns. -/
theorem exists_returned (goes : ∀ config loc stmt next, sys.Reaches code permits start config →
      config.processes[index]? = some ⟨call, loc, .call stmt next⟩ →
      ∃ choice config', permits config (.step index choice) ∧
        sys.act code (.step index choice) config = some config')
    (reaches : sys.Reaches code permits start config) {program : Program Answer Outcome}
    (current : config.processes[index]? = some ⟨call, loc, program⟩) :
    ∃ final value loc, sys.Reaches code permits start final ∧
      final.processes[index]? = some ⟨call, loc, .ret value⟩ := by
  induction program generalizing config loc with
  | ret value => exact ⟨config, value, loc, reaches, current⟩
  | call stmt next ih =>
      obtain ⟨choice, config', permitted, acted⟩ := goes config loc stmt next reaches current
      obtain ⟨_, _, _, _, executes⟩ := System.executes_of_act_step sys code acted
      cases current.symm.trans executes.current
      have lt : index < config.processes.length := (List.getElem?_eq_some_iff.mp current).1
      have later : config'.processes[index]? =
          some ⟨call, (sys.exec stmt choice config.shared loc).2.1,
            next (sys.exec stmt choice config.shared loc).1⟩ := by
        rw [executes.result]
        exact List.getElem?_set_self lt
      exact ih _ (reaches.step permitted acted) later

/-- A process that runs alone and can always go on returns, and whenever it has
returned, the postcondition holds. -/
theorem returns_alone (secludes : Secludes sys solitude permits index)
    (stable : ∀ value before after loc, solitude.drifts before after →
      post value before loc → post value after loc)
    (initially : OnWay sys solitude post index call start start)
    (goes : ∀ config loc stmt next, sys.Reaches code permits start config →
      (∀ position, position ≠ index →
        config.processes[position]? = start.processes[position]?) →
      config.processes[index]? = some ⟨call, loc, .call stmt next⟩ →
      ∃ choice config', permits config (.step index choice) ∧
        sys.act code (.step index choice) config = some config')
    (reaches : sys.Reaches code permits start config) :
    (∃ final value loc, sys.Reaches code permits config final ∧
      final.processes[index]? = some ⟨call, loc, .ret value⟩) ∧
    ∀ value loc, config.processes[index]? = some ⟨call, loc, .ret value⟩ →
      post value config.shared loc := by
  have onWay : ∀ {later}, sys.Reaches code permits start later →
      OnWay sys solitude post index call start later :=
    onWay_of_reaches secludes stable initially
  obtain ⟨_, loc, program, current, holds⟩ := onWay reaches
  constructor
  · refine exists_returned (fun later loc stmt next further now => ?_) .refl current
    have since := reaches.trans further
    exact goes later loc stmt next since (onWay since).others now
  · intro value loc done
    cases current.symm.trans done
    exact holds

end Runs

end Concurrency

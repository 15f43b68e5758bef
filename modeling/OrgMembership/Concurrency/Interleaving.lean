import OrgMembership.Concurrency.Program

/-!
# Interleaved runs of client programs

Clients share one server state and own one local state each.  A run starts
clients, executes one statement of one client at a time, may stop a client at
any point, and may change the server state from outside (the passage of time).
A statement that some other client blocks is not executed until it is free.
-/

namespace Concurrency

/-- A server: what a statement does to the shared state and to the local state
of the client that issues it, and when another client's local state blocks it.
The choice resolves what neither the program nor the state decides. -/
structure System {Stmt : Type} (Answer : Stmt → Type) (Shared Local Choice Signal : Type) where
  /-- The local state of a client that has issued nothing. -/
  fresh : Local
  exec : (stmt : Stmt) → Choice → Shared → Local → Answer stmt × Local × Shared
  /-- `blocked stmt choice shared actor other` holds while `other` keeps the
  client in local state `actor` from executing `stmt`. -/
  blocked : Stmt → Choice → Shared → Local → Local → Bool
  signal : Signal → Shared → Shared

/-- A started call with its local state and the rest of its program. -/
structure Process {Stmt : Type} (Answer : Stmt → Type) (Call Local Outcome : Type) where
  call : Call
  loc : Local
  program : Program Answer Outcome

/-- The process has not returned. -/
def Process.Running {Stmt : Type} {Answer : Stmt → Type} {Call Local Outcome : Type}
    (process : Process Answer Call Local Outcome) : Prop :=
  ∃ stmt next, process.program = .call stmt next

/-- The process has returned. -/
def Process.returned {Stmt : Type} {Answer : Stmt → Type} {Call Local Outcome : Type}
    (process : Process Answer Call Local Outcome) : Bool :=
  match process.program with
  | .ret _ => true
  | .call _ _ => false

theorem Process.not_running_of_returned {Stmt : Type} {Answer : Stmt → Type}
    {Call Local Outcome : Type} {process : Process Answer Call Local Outcome}
    (returned : process.returned = true) : ¬process.Running := by
  rintro ⟨stmt, next, running⟩
  simp [Process.returned, running] at returned

/-- The shared state and the processes started so far, in starting order. -/
structure Config {Stmt : Type} (Answer : Stmt → Type)
    (Call Shared Local Outcome : Type) where
  shared : Shared
  processes : List (Process Answer Call Local Outcome)

/-- One move of a run. -/
inductive Action (Call Choice Signal : Type)
  | start (call : Call)
  | step (index : Nat) (choice : Choice)
  | crash (index : Nat)
  | signal (value : Signal)

variable {Stmt : Type} {Answer : Stmt → Type}
  {Call Shared Local Choice Signal Outcome : Type}

namespace Config

/-- A configuration in which no call has been started. -/
def initial (shared : Shared) : Config Answer Call Shared Local Outcome :=
  ⟨shared, []⟩

end Config

namespace System

variable (sys : System Answer Shared Local Choice Signal)
  (code : Call → Program Answer Outcome)

/-- Perform one action, if it is enabled. -/
def act : Action Call Choice Signal → Config Answer Call Shared Local Outcome →
    Option (Config Answer Call Shared Local Outcome)
  | .start call, config =>
      some { config with processes := config.processes ++ [⟨call, sys.fresh, code call⟩] }
  | .step index choice, config =>
      match config.processes[index]? with
      | some ⟨call, loc, .call stmt next⟩ =>
          if (config.processes.eraseIdx index).any fun other =>
              sys.blocked stmt choice config.shared loc other.loc then
            none
          else
            let (answer, loc', shared') := sys.exec stmt choice config.shared loc
            some ⟨shared', config.processes.set index ⟨call, loc', next answer⟩⟩
      | _ => none
  | .crash index, config =>
      some { config with processes := config.processes.eraseIdx index }
  | .signal value, config =>
      some { config with shared := sys.signal value config.shared }

/-- What an enabled statement of a process does. -/
structure Executes (config : Config Answer Call Shared Local Outcome) (index : Nat)
    (choice : Choice) (config' : Config Answer Call Shared Local Outcome)
    (call : Call) (loc : Local) (stmt : Stmt)
    (next : Answer stmt → Program Answer Outcome) : Prop where
  current : config.processes[index]? = some ⟨call, loc, .call stmt next⟩
  free : ∀ position other, position ≠ index → config.processes[position]? = some other →
    sys.blocked stmt choice config.shared loc other.loc = false
  result : config' =
    ⟨(sys.exec stmt choice config.shared loc).2.2,
      config.processes.set index ⟨call, (sys.exec stmt choice config.shared loc).2.1,
        next (sys.exec stmt choice config.shared loc).1⟩⟩

/-- The executed statement behind a `step` action. -/
theorem executes_of_act_step {index : Nat} {choice : Choice}
    {config config' : Config Answer Call Shared Local Outcome}
    (acted : sys.act code (.step index choice) config = some config') :
    ∃ call loc stmt next, sys.Executes config index choice config' call loc stmt next := by
  simp only [act] at acted
  split at acted
  case h_2 => cases acted
  case h_1 call loc stmt next current =>
    split at acted
    case isTrue => cases acted
    case isFalse unblocked =>
      refine ⟨call, loc, stmt, next, current, ?_, (Option.some.inj acted).symm⟩
      intro position other apart found
      have remaining : other ∈ config.processes.eraseIdx index :=
        List.mem_eraseIdx_iff_getElem?.mpr ⟨position, apart, found⟩
      simp only [List.any_eq_true, not_exists, not_and, Bool.not_eq_true] at unblocked
      exact unblocked other remaining

/-- A statement that nobody blocks can be executed. -/
theorem exists_act_step {index : Nat} {choice : Choice}
    {config : Config Answer Call Shared Local Outcome} {call : Call} {loc : Local} {stmt : Stmt}
    {next : Answer stmt → Program Answer Outcome}
    (current : config.processes[index]? = some ⟨call, loc, .call stmt next⟩)
    (free : ∀ position other, position ≠ index → config.processes[position]? = some other →
      sys.blocked stmt choice config.shared loc other.loc = false) :
    ∃ config', sys.act code (.step index choice) config = some config' := by
  have unblocked : ((config.processes.eraseIdx index).any fun other =>
      sys.blocked stmt choice config.shared loc other.loc) = false := by
    rw [List.any_eq_false]
    intro other remaining
    obtain ⟨position, apart, found⟩ := List.mem_eraseIdx_iff_getElem?.mp remaining
    simp [free position other apart found]
  simp [act, current, unblocked]

/-- The configurations reached from `start` by permitted actions. -/
inductive Reaches (permits : Config Answer Call Shared Local Outcome →
    Action Call Choice Signal → Prop) (start : Config Answer Call Shared Local Outcome) :
    Config Answer Call Shared Local Outcome → Prop
  | refl : Reaches permits start start
  | step {config config' : Config Answer Call Shared Local Outcome}
      {action : Action Call Choice Signal} :
      Reaches permits start config → permits config action →
      sys.act code action config = some config' → Reaches permits start config'

variable {sys code}
variable {permits : Config Answer Call Shared Local Outcome →
  Action Call Choice Signal → Prop} {start config : Config Answer Call Shared Local Outcome}

theorem Reaches.mono {weaker : Config Answer Call Shared Local Outcome →
    Action Call Choice Signal → Prop} (reaches : sys.Reaches code permits start config)
    (implies : ∀ config action, permits config action → weaker config action) :
    sys.Reaches code weaker start config := by
  induction reaches with
  | refl => exact .refl
  | step _ permitted acted ih => exact .step ih (implies _ _ permitted) acted

theorem Reaches.trans {middle : Config Answer Call Shared Local Outcome}
    (first : sys.Reaches code permits start middle)
    (second : sys.Reaches code permits middle config) : sys.Reaches code permits start config := by
  induction second with
  | refl => exact first
  | step _ permitted acted ih => exact .step ih permitted acted

/-- A property that holds at the start and that every permitted action keeps
holds in every reached configuration. -/
theorem Reaches.invariant {property : Config Answer Call Shared Local Outcome → Prop}
    (reaches : sys.Reaches code permits start config) (initially : property start)
    (keeps : ∀ config action config', property config → permits config action →
      sys.act code action config = some config' → property config') :
    property config := by
  induction reaches with
  | refl => exact initially
  | step _ permitted acted ih => exact keeps _ _ _ ih permitted acted

end System

/-! ## Executable runs -/

namespace System

variable (sys : System Answer Shared Local Choice Signal)
  (code : Call → Program Answer Outcome)

/-- Perform the actions in order, stopping at the first that is not permitted
or not enabled. -/
def run (permits : Config Answer Call Shared Local Outcome →
    Action Call Choice Signal → Prop) [∀ config action, Decidable (permits config action)] :
    List (Action Call Choice Signal) → Config Answer Call Shared Local Outcome →
      Option (Config Answer Call Shared Local Outcome)
  | [], config => some config
  | action :: actions, config =>
      if permits config action then
        (sys.act code action config).bind (run permits actions)
      else
        none

theorem Reaches.of_run {permits : Config Answer Call Shared Local Outcome →
    Action Call Choice Signal → Prop} [∀ config action, Decidable (permits config action)]
    {actions : List (Action Call Choice Signal)}
    {start config final : Config Answer Call Shared Local Outcome}
    (reaches : sys.Reaches code permits start config)
    (ran : sys.run code permits actions config = some final) :
    sys.Reaches code permits start final := by
  induction actions generalizing config with
  | nil =>
      cases ran
      exact reaches
  | cons action actions ih =>
      simp only [run] at ran
      split at ran
      case isFalse => cases ran
      case isTrue permitted =>
        obtain ⟨middle, acted, rest⟩ := Option.bind_eq_some_iff.mp ran
        exact ih (reaches.step permitted acted) rest

/-- A run whose final configuration passes a test witnesses a reachable
configuration with that property. -/
theorem exists_reaches_of_run (permits : Config Answer Call Shared Local Outcome →
    Action Call Choice Signal → Prop) [∀ config action, Decidable (permits config action)]
    (actions : List (Action Call Choice Signal))
    (start : Config Answer Call Shared Local Outcome)
    (test : Config Answer Call Shared Local Outcome → Bool)
    (passed : (sys.run code permits actions start).any test = true) :
    ∃ final, sys.Reaches code permits start final ∧ test final = true := by
  cases ran : sys.run code permits actions start with
  | none => simp [ran] at passed
  | some final =>
      rw [ran] at passed
      exact ⟨final, Reaches.of_run sys code .refl ran, passed⟩

end System

/-! ## Conditions on runs -/

/-- The actions that meet a condition on the started calls and one on the
executed statements and what is chosen for them. -/
def allows (starts : Call → Bool)
    (executes : Config Answer Call Shared Local Outcome → Nat → Choice → Stmt → Local → Bool) :
    Config Answer Call Shared Local Outcome → Action Call Choice Signal → Bool
  | _, .start call => starts call
  | config, .step index choice =>
      match config.processes[index]? with
      | some ⟨_, loc, .call stmt _⟩ => executes config index choice stmt loc
      | _ => true
  | _, _ => true

theorem executes_of_allows {starts : Call → Bool}
    {executes : Config Answer Call Shared Local Outcome → Nat → Choice → Stmt → Local → Bool}
    {config : Config Answer Call Shared Local Outcome} {index : Nat} {choice : Choice}
    (allowed : allows starts executes config
      (.step index choice : Action Call Choice Signal) = true)
    {call : Call} {loc : Local} {stmt : Stmt} {next : Answer stmt → Program Answer Outcome}
    (current : config.processes[index]? = some ⟨call, loc, .call stmt next⟩) :
    executes config index choice stmt loc = true := by
  simpa [allows, current] using allowed

/-! ## Facts about every two processes -/

namespace System

variable {sys : System Answer Shared Local Choice Signal}
  {code : Call → Program Answer Outcome}

/-- `relation` holds between the local states of any two processes. -/
def Pairwise (relation : Local → Local → Prop)
    (config : Config Answer Call Shared Local Outcome) : Prop :=
  ∀ ⦃i j : Nat⦄ ⦃p q : Process Answer Call Local Outcome⦄, i ≠ j →
    config.processes[i]? = some p → config.processes[j]? = some q → relation p.loc q.loc

theorem pairwise_initial (relation : Local → Local → Prop) (shared : Shared) :
    Pairwise relation (Config.initial shared : Config Answer Call Shared Local Outcome) := by
  intro i j p q _ found _
  simp [Config.initial] at found

/-- A symmetric relation that a fresh process has to every process, and that an
unblocked statement keeps, holds between any two processes of every run. -/
theorem Reaches.pairwise {permits : Config Answer Call Shared Local Outcome →
    Action Call Choice Signal → Prop} {start config : Config Answer Call Shared Local Outcome}
    {relation : Local → Local → Prop} (reaches : sys.Reaches code permits start config)
    (initially : Pairwise relation start)
    (symmetric : ∀ first second, relation first second → relation second first)
    (freshRelated : ∀ other, relation sys.fresh other)
    (keeps : ∀ stmt choice shared actor other,
      sys.blocked stmt choice shared actor other = false → relation actor other →
        relation (sys.exec stmt choice shared actor).2.1 other) :
    Pairwise relation config := by
  refine reaches.invariant initially ?_
  intro config action config' related _ acted
  cases action with
  | start call =>
      cases acted
      intro i j p q apart foundP foundQ
      rw [List.getElem?_append] at foundP foundQ
      split at foundP <;> split at foundQ
      · exact related apart foundP foundQ
      · rw [List.getElem?_singleton] at foundQ
        split at foundQ <;> cases foundQ
        exact symmetric _ _ (freshRelated p.loc)
      · rw [List.getElem?_singleton] at foundP
        split at foundP <;> cases foundP
        exact freshRelated q.loc
      · rw [List.getElem?_singleton] at foundP foundQ
        split at foundP <;> split at foundQ
        · omega
        all_goals contradiction
  | step index choice =>
      obtain ⟨call, loc, stmt, next, executes⟩ := executes_of_act_step sys code acted
      obtain ⟨current, free, rfl⟩ := executes
      have acting : ∀ position other, position ≠ index →
          config.processes[position]? = some other →
          relation (sys.exec stmt choice config.shared loc).2.1 other.loc :=
        fun position other away found =>
          keeps _ _ _ _ _ (free position other away found)
            (related (Ne.symm away) current found)
      intro i j p q apart foundP foundQ
      rw [List.getElem?_set] at foundP foundQ
      split at foundP <;> split at foundQ
      · omega
      · split at foundP <;> cases foundP
        exact acting j q (by omega) foundQ
      · split at foundQ <;> cases foundQ
        exact symmetric _ _ (acting i p (by omega) foundP)
      · exact related apart foundP foundQ
  | crash index =>
      cases acted
      intro i j p q apart foundP foundQ
      rw [List.getElem?_eraseIdx] at foundP foundQ
      split at foundP <;> split at foundQ
      all_goals exact related (by omega) foundP foundQ
  | signal value =>
      cases acted
      exact related

/-- If calls start only when all others have returned, no two processes of a run are
running. -/
theorem Reaches.alone {permits : Config Answer Call Shared Local Outcome →
    Action Call Choice Signal → Prop} {shared : Shared}
    {config : Config Answer Call Shared Local Outcome}
    (reaches : sys.Reaches code permits (Config.initial shared) config)
    (waits : ∀ config call, permits config (.start call) →
      config.processes.all Process.returned = true) :
    ∀ ⦃i j : Nat⦄ ⦃p q : Process Answer Call Local Outcome⦄, i ≠ j →
      config.processes[i]? = some p → config.processes[j]? = some q → p.Running → ¬q.Running := by
  induction reaches with
  | refl =>
      intro i j p q _ found
      simp [Config.initial] at found
  | @step config config' action reaches permitted acted alone =>
      cases action with
      | start call =>
          cases acted
          have finished : ∀ {position : Nat} {process : Process Answer Call Local Outcome},
              config.processes[position]? = some process → ¬process.Running := fun found =>
            Process.not_running_of_returned
              (List.all_eq_true.mp (waits config call permitted) _ (List.mem_of_getElem? found))
          intro i j p q apart foundP foundQ running
          rw [List.getElem?_append] at foundP foundQ
          split at foundP
          · exact absurd running (finished foundP)
          · split at foundQ
            · exact finished foundQ
            · rw [List.getElem?_singleton] at foundP foundQ
              split at foundP <;> split at foundQ
              · omega
              all_goals contradiction
      | step index choice =>
          obtain ⟨call, loc, stmt, next, executes⟩ := executes_of_act_step sys code acted
          obtain ⟨current, _, rfl⟩ := executes
          have others : ∀ {position : Nat} {other : Process Answer Call Local Outcome},
              position ≠ index → config.processes[position]? = some other →
                ¬other.Running := fun away found =>
            alone (Ne.symm away) current found ⟨stmt, next, rfl⟩
          intro i j p q apart foundP foundQ running
          rw [List.getElem?_set] at foundP foundQ
          split at foundQ
          · split at foundP
            · omega
            · exact absurd running (others (by omega) foundP)
          · exact others (by omega) foundQ
      | crash index =>
          cases acted
          intro i j p q apart foundP foundQ
          rw [List.getElem?_eraseIdx] at foundP foundQ
          split at foundP <;> split at foundQ
          all_goals exact alone (by omega) foundP foundQ
      | signal value =>
          cases acted
          exact alone

/-- An invariant of the shared state, and a property of the shared state and one
process, that hold at the start and of every fresh process, that the acting
process keeps, and that it keeps for the processes it is related to, hold
throughout every run. -/
theorem Reaches.each {permits : Config Answer Call Shared Local Outcome →
    Action Call Choice Signal → Prop} {shared : Shared}
    {config : Config Answer Call Shared Local Outcome} {relation : Local → Local → Prop}
    {inv : Shared → Prop} {property : Shared → Local → Prop}
    (reaches : sys.Reaches code permits (Config.initial shared) config)
    (related : ∀ {config}, sys.Reaches code permits (Config.initial shared) config →
      Pairwise relation config)
    (initially : inv shared) (fresh : ∀ shared, inv shared → property shared sys.fresh)
    (acts : ∀ stmt choice shared loc, inv shared → property shared loc →
      inv (sys.exec stmt choice shared loc).2.2 ∧
        property (sys.exec stmt choice shared loc).2.2 (sys.exec stmt choice shared loc).2.1)
    (interferes : ∀ stmt choice shared actor other, relation actor other → inv shared →
      property shared actor → property shared other →
        property (sys.exec stmt choice shared actor).2.2 other)
    (signals : ∀ value shared, inv shared → inv (sys.signal value shared) ∧
      ∀ loc, property shared loc → property (sys.signal value shared) loc) :
    inv config.shared ∧ ∀ process ∈ config.processes, property config.shared process.loc := by
  induction reaches with
  | refl => exact ⟨initially, by simp [Config.initial]⟩
  | @step config config' action reaches permitted acted ih =>
      obtain ⟨inv, ih⟩ := ih
      cases action with
      | start call =>
          cases acted
          refine ⟨inv, fun process member => ?_⟩
          rcases List.mem_append.mp member with old | new
          · exact ih process old
          · rw [List.mem_singleton.mp new]
            exact fresh _ inv
      | step index choice =>
          obtain ⟨call, loc, stmt, next, executes⟩ := executes_of_act_step sys code acted
          obtain ⟨current, free, rfl⟩ := executes
          have actor := ih _ (List.mem_of_getElem? current)
          refine ⟨(acts stmt choice _ _ inv actor).1, fun process member => ?_⟩
          obtain ⟨position, found⟩ := List.getElem?_of_mem member
          rw [List.getElem?_set] at found
          split at found
          · split at found <;> cases found
            exact (acts stmt choice _ _ inv actor).2
          case isFalse apart =>
            exact interferes stmt choice _ _ _ (related reaches apart current found) inv actor
              (ih _ (List.mem_of_getElem? found))
      | crash index =>
          cases acted
          exact ⟨inv, fun process member => ih process (List.mem_of_mem_eraseIdx member)⟩
      | signal value =>
          cases acted
          exact ⟨(signals value _ inv).1, fun process member =>
            (signals value _ inv).2 _ (ih process member)⟩

/-- What a process can still return only gets less. -/
theorem Reaches.returns {good : Outcome → Prop} {index : Nat}
    {process : Process Answer Call Local Outcome}
    (reaches : sys.Reaches code permits start config)
    (steady : ∀ config index, ¬permits config (.crash index))
    (found : start.processes[index]? = some process) (returns : process.program.Returns good) :
    ∃ loc program, config.processes[index]? = some ⟨process.call, loc, program⟩ ∧
      program.Returns good := by
  induction reaches with
  | refl => exact ⟨process.loc, process.program, found, returns⟩
  | @step config config' action _ permitted acted ih =>
      obtain ⟨loc, program, current, returns⟩ := ih
      cases action with
      | start call =>
          cases acted
          refine ⟨loc, program, ?_, returns⟩
          rw [List.getElem?_append_left (List.getElem?_eq_some_iff.mp current).1]
          exact current
      | crash position => exact absurd permitted (steady _ _)
      | signal value =>
          cases acted
          exact ⟨loc, program, current, returns⟩
      | step position choice =>
          obtain ⟨call, actor, stmt, next, executes⟩ := sys.executes_of_act_step code acted
          obtain ⟨acting, _, rfl⟩ := executes
          by_cases same : position = index
          · subst same
            cases acting.symm.trans current
            have bound := (List.getElem?_eq_some_iff.mp current).1
            exact ⟨_, _, List.getElem?_set_self bound, returns _⟩
          · exact ⟨loc, program, (List.getElem?_set_ne same).trans current, returns⟩

end System

end Concurrency

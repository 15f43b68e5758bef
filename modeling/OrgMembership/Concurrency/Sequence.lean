import OrgMembership.Concurrency.RelyGuarantee
import OrgMembership.Concurrency.Solo

/-!
# Calls that complete alone

A call that runs from its start to its end while no other process exists.  A triple under
the protocol without other processes describes how such a call can end, whatever the server
answers.
-/

namespace Concurrency

variable {Stmt : Type} {Answer : Stmt → Type}
  {Call Shared Local Choice Signal Outcome σ ε α β : Type}

/-- The contract of a process that is alone and is given choices of a kind: only the outside
changes the shared state. -/
def Protocol.alone (Stmt Local : Type) (given : Choice → Bool) (drift : Shared → Shared → Prop) :
    Protocol Stmt Choice Shared Local where
  Inv _ := True
  Admits _ _ _ := True
  Coexist _ _ _ := False
  Guar _ _ _ := True
  Drift := drift
  Grants _ choice _ := given choice = true

/-- A process that is alone and is given every choice of a kind. -/
def Solitude.free (Stmt Local : Type) (given : Choice → Bool) (drift : Shared → Shared → Prop)
    (refl : ∀ shared, drift shared shared)
    (trans : ∀ first second third, drift first second → drift second third → drift first third) :
    Solitude Stmt Shared Local Choice where
  calm _ := True
  drifts := drift
  gives _ choice _ _ := given choice = true
  drifts_refl := refl
  drifts_trans := trans

variable {sys : System Answer Shared Local Choice Signal} {given : Choice → Bool}
  {drift : Shared → Shared → Prop}
  {refl : ∀ shared, drift shared shared}
  {trans : ∀ first second third, drift first second → drift second third → drift first third}

/-- Assertions that the outside does not invalidate are stable for a process that is
alone. -/
theorem Protocol.stable_alone {assertion : Assertion Shared Local}
    (keeps : ∀ before after loc, drift before after → assertion before loc →
      assertion after loc) :
    (Protocol.alone Stmt Local given drift).Stable assertion := by
  rintro before after loc _ _ (⟨_, impossible, _⟩ | drifted) holds
  · exact impossible.elim
  · exact keeps before after loc drifted holds

/-- Fewer choices are no harder. -/
theorem wp_alone_of_all {program : Program Answer α} {post : α → Assertion Shared Local}
    {shared : Shared} {loc : Local}
    (holds : wp sys (Protocol.alone Stmt Local (fun _ => true) drift) program post shared loc) :
    wp sys (Protocol.alone Stmt Local given drift) program post shared loc := by
  induction program generalizing shared loc with
  | ret value => exact holds
  | call stmt next ih =>
      obtain ⟨assertion, stable, now, transition⟩ := holds
      refine ⟨assertion, stable, now, fun shared loc choice inv here admitted _ => ?_⟩
      obtain ⟨inv', guar, after⟩ := transition shared loc choice inv here admitted rfl
      exact ⟨inv', guar, ih _ after⟩

theorem ends_of_wp {program : Program Answer α} {post : α → Assertion Shared Local}
    {shared : Shared} {loc : Local}
    (holds : wp sys (Protocol.alone Stmt Local given drift) program post shared loc) :
    ends sys (Solitude.free Stmt Local given drift refl trans) post program shared loc := by
  induction program generalizing shared loc with
  | ret value => exact holds
  | call stmt next ih =>
      obtain ⟨assertion, stable, now, transition⟩ := holds
      intro drifted choice drifts _ granted
      have here := stable shared drifted loc trivial trivial (.inr drifts) now
      exact ih _ (transition drifted loc choice trivial here trivial granted).2.2

/-- The steps of the only process that get a choice of a kind, and what the outside does. -/
def Action.isLone (given : Choice → Bool) : Action Call Choice Signal → Bool
  | .step index choice => index = 0 && given choice
  | .signal _ => true
  | .start _ | .crash _ => false

theorem Action.isLone_step {index : Nat} {choice : Choice} :
    (.step index choice : Action Call Choice Signal).isLone given = true ↔
      index = 0 ∧ given choice = true := by
  simp [Action.isLone]

namespace System

/-- The program, run alone from one state of the server that only makes choices of a kind,
returns an outcome and leaves the server in another state. -/
def CompletesBy (sys : System Answer Shared Local Choice Signal) (given : Choice → Bool)
    (program : Program Answer Outcome) (before : Shared) (outcome : Outcome) (after : Shared) :
    Prop :=
  ∃ final loc, sys.Reaches (fun _ : Unit => program) (fun _ action => action.isLone given = true)
      ⟨before, [⟨(), sys.fresh, program⟩]⟩ final ∧
    final.processes[0]? = some ⟨(), loc, .ret outcome⟩ ∧ final.shared = after

/-- The same whatever the server does. -/
abbrev Completes (sys : System Answer Shared Local Choice Signal) :
    Program Answer Outcome → Shared → Outcome → Shared → Prop :=
  sys.CompletesBy fun _ => true

variable {program : Program Answer Outcome} {before after : Shared} {outcome : Outcome}
  {post : Outcome → Assertion Shared Local}

/-- What a triple says about the end of a call that runs alone. -/
theorem CompletesBy.sound (completes : sys.CompletesBy given program before outcome after)
    (drifts : ∀ value shared, drift shared (sys.signal value shared))
    (refl : ∀ shared, drift shared shared)
    (trans : ∀ first second third, drift first second → drift second third → drift first third)
    (keeps : ∀ value before after loc, drift before after → post value before loc →
      post value after loc)
    (holds : wp sys (Protocol.alone Stmt Local given drift) program post before sys.fresh) :
    ∃ loc, post outcome after loc := by
  obtain ⟨final, loc, reaches, returned, rfl⟩ := completes
  have secludes : Secludes sys (Solitude.free Stmt Local given drift refl trans)
      (fun (_ : Config Answer Unit Shared Local Outcome)
        (action : Action Unit Choice Signal) => action.isLone given = true) 0 :=
    { alone := fun _ _ => nofun
      stays := fun _ _ => nofun
      only := fun _ _ _ lone => (Action.isLone_step.mp lone).1
      gives := fun _ _ _ _ _ _ lone _ => ⟨trivial, (Action.isLone_step.mp lone).2⟩
      drifts := fun config value _ => ⟨trivial, drifts value config.shared⟩ }
  obtain ⟨_, loc', remaining, current, ended⟩ := onWay_of_reaches secludes keeps
    ⟨fun _ _ => rfl, sys.fresh, program, rfl, ends_of_wp holds⟩ reaches
  cases current.symm.trans returned
  exact ⟨loc, ended⟩

/-- The outcome is one that the program can return. -/
theorem CompletesBy.returned {good : Outcome → Prop}
    (completes : sys.CompletesBy given program before outcome after)
    (returns : program.Returns good) : good outcome := by
  obtain ⟨final, loc, reaches, ended, _⟩ := completes
  obtain ⟨_, _, current, returned⟩ :=
    reaches.returns (fun _ _ crashes => nomatch crashes)
      (show [_][0]? = some ⟨(), sys.fresh, program⟩ from rfl) returns
  cases ended.symm.trans current
  exact returned

theorem CompletesBy.completes (completes : sys.CompletesBy given program before outcome after) :
    sys.Completes program before outcome after := by
  obtain ⟨final, loc, reaches, ended⟩ := completes
  refine ⟨final, loc, reaches.mono fun _ action lone => ?_, ended⟩
  cases action with
  | start | crash => exact nomatch lone
  | signal => rfl
  | step index choice => exact Action.isLone_step.mpr ⟨(Action.isLone_step.mp lone).1, rfl⟩

/-- With such choices the program returns, and always as the postcondition asks. -/
def Delivers (sys : System Answer Shared Local Choice Signal) (given : Choice → Bool)
    (program : Program Answer Outcome) (before : Shared) (post : Outcome → Shared → Prop) : Prop :=
  (∃ outcome after, sys.CompletesBy given program before outcome after) ∧
    ∀ outcome after, sys.CompletesBy given program before outcome after → post outcome after

/-- A delivered result can be looked at. -/
theorem Delivers.exists_completes {post : Outcome → Shared → Prop}
    (delivers : sys.Delivers given program before post) :
    ∃ outcome after, sys.Completes program before outcome after ∧ post outcome after := by
  obtain ⟨⟨outcome, after, completes⟩, always⟩ := delivers
  exact ⟨outcome, after, completes.completes, always outcome after completes⟩

theorem delivers_of_ends {solitude : Solitude Stmt Shared Local Choice}
    (offers : ∃ choice, given choice = true)
    (gives : ∀ stmt choice shared loc, given choice = true →
      solitude.calm shared ∧ solitude.gives stmt choice shared loc)
    (drifts : ∀ value shared, solitude.calm (sys.signal value shared) ∧
      solitude.drifts shared (sys.signal value shared))
    (stable : ∀ value before after loc, solitude.drifts before after →
      post value before loc → post value after loc)
    (holds : ends sys solitude post program before sys.fresh) :
    sys.Delivers given program before fun outcome after => ∃ loc, post outcome after loc := by
  have secludes : Secludes sys solitude
      (fun (_ : Config Answer Unit Shared Local Outcome)
        (action : Action Unit Choice Signal) => action.isLone given = true) 0 :=
    { alone := fun _ _ => nofun
      stays := fun _ _ => nofun
      only := fun _ _ _ lone => (Action.isLone_step.mp lone).1
      gives := fun config choice _ loc stmt _ lone _ =>
        gives stmt choice config.shared loc (Action.isLone_step.mp lone).2
      drifts := fun config value _ => drifts value config.shared }
  let start : Config Answer Unit Shared Local Outcome := ⟨before, [⟨(), sys.fresh, program⟩]⟩
  have onWay : OnWay sys solitude post 0 () start start :=
    ⟨fun _ _ => rfl, sys.fresh, program, rfl, holds⟩
  obtain ⟨choice, allowed⟩ := offers
  -- nobody else is there to block the process
  have goes : ∀ config loc stmt next,
      sys.Reaches (fun _ : Unit => program) (fun _ action => action.isLone given = true) start
        config →
      (∀ position, position ≠ 0 → config.processes[position]? = start.processes[position]?) →
      config.processes[0]? = some ⟨(), loc, .call stmt next⟩ →
      ∃ choice config', (.step 0 choice : Action Unit Choice Signal).isLone given = true ∧
        sys.act (fun _ => program) (.step 0 choice) config = some config' := by
    intro config loc stmt next _ others current
    have free : ∀ position other, position ≠ 0 → config.processes[position]? = some other →
        sys.blocked stmt choice config.shared loc other.loc = false := by
      intro position other away found
      rw [others position away, List.getElem?_cons, if_neg away] at found
      cases found
    obtain ⟨config', acted⟩ := sys.exists_act_step (fun _ => program) current free
    exact ⟨choice, config', Action.isLone_step.mpr ⟨rfl, allowed⟩, acted⟩
  constructor
  · obtain ⟨⟨final, outcome, loc, reaches, returned⟩, _⟩ :=
      returns_alone secludes stable onWay goes .refl
    exact ⟨outcome, final.shared, final, loc, reaches, returned, rfl⟩
  · rintro outcome _ ⟨final, loc, reaches, returned, rfl⟩
    obtain ⟨_, _, _, current, ended⟩ := onWay_of_reaches secludes stable onWay reaches
    cases current.symm.trans returned
    exact ⟨loc, ended⟩

/-- Some run of a program that runs alone ends. -/
theorem exists_completes [Nonempty Choice] (sys : System Answer Shared Local Choice Signal)
    (program : Program Answer Outcome) (before : Shared) :
    ∃ outcome after, sys.Completes program before outcome after := by
  have ended : ends sys (Solitude.free Stmt Local (fun _ => true) (fun _ _ => True)
      (fun _ => trivial) fun _ _ _ _ _ => trivial) (fun _ _ _ => True) program before sys.fresh :=
    ends_of_forall (fun _ _ _ => trivial) program before sys.fresh
  exact (delivers_of_ends ⟨Classical.arbitrary Choice, rfl⟩ (fun _ _ _ _ given => ⟨trivial, given⟩)
    (fun _ _ => ⟨trivial, trivial⟩) (fun _ _ _ _ _ holds => holds) ended).1

/-- Calls that complete one after the other, each in a state that is fit for it, with what
they returned. -/
inductive Serial (sys : System Answer Shared Local Choice Signal)
    (code : Call → Program Answer Outcome) (fit : Shared → Call → Prop) (start : Shared) :
    List (Call × Outcome) → Shared → Prop
  | nil : Serial sys code fit start [] start
  | snoc {log : List (Call × Outcome)} {before after : Shared} {call : Call} {outcome : Outcome}
      (earlier : Serial sys code fit start log before) (fits : fit before call)
      (completes : sys.Completes (code call) before outcome after) :
      Serial sys code fit start (log ++ [(call, outcome)]) after

variable {code : Call → Program Answer Outcome} {fit : Shared → Call → Prop} {start : Shared}
  {log : List (Call × Outcome)}

/-- What every call keeps, whatever came before, holds at the end. -/
theorem Serial.inv (serial : Serial sys code fit start log after)
    (holds : List (Call × Outcome) → Shared → Prop) (initially : holds [] start)
    (keeps : ∀ log before call outcome after, holds log before → fit before call →
      sys.Completes (code call) before outcome after → holds (log ++ [(call, outcome)]) after) :
    holds log after := by
  induction serial with
  | nil => exact initially
  | snoc _ fits completes ih => exact keeps _ _ _ _ _ ih fits completes

/-- What the first process has returned. -/
def answer (config : Config Answer Call Shared Local Outcome) : Option Outcome :=
  match config.processes with
  | process :: _ =>
      match process.program with
      | .ret outcome => some outcome
      | .call _ _ => none
  | [] => none

/-- Whether the program, run alone by these actions with choices of a kind, ends as a test
asks. -/
def endsBy (sys : System Answer Shared Local Choice Signal) (given : Choice → Bool)
    (program : Program Answer Outcome) (before : Shared)
    (actions : List (Action Unit Choice Signal)) (test : Outcome → Shared → Bool) : Bool :=
  (sys.run (fun _ => program) (fun _ action => action.isLone given = true) actions
    ⟨before, [⟨(), sys.fresh, program⟩]⟩).any
      fun final => (answer final).any (test · final.shared)

/-- The same with any choices. -/
abbrev endsAs (sys : System Answer Shared Local Choice Signal) :
    Program Answer Outcome → Shared → List (Action Unit Choice Signal) →
      (Outcome → Shared → Bool) → Bool :=
  sys.endsBy fun _ => true

theorem exists_completesBy_of_endsBy (sys : System Answer Shared Local Choice Signal)
    (given : Choice → Bool) (program : Program Answer Outcome) (before : Shared)
    (actions : List (Action Unit Choice Signal)) (test : Outcome → Shared → Bool)
    (passed : sys.endsBy given program before actions test = true) :
    ∃ outcome after, sys.CompletesBy given program before outcome after ∧
      test outcome after = true := by
  obtain ⟨final, reaches, tested⟩ := sys.exists_reaches_of_run _ _ _ _ _ passed
  obtain ⟨outcome, answered, tested⟩ := (Option.any_eq_true _ _).mp tested
  refine ⟨outcome, final.shared, ⟨final, ?_⟩, tested⟩
  unfold answer at answered
  split at answered
  case h_2 => cases answered
  case h_1 process rest shape =>
    split at answered
    case h_2 => cases answered
    case h_1 value returned =>
      cases answered
      refine ⟨process.loc, reaches, ?_, rfl⟩
      rw [shape, ← returned]
      rfl

theorem exists_completes_of_endsAs (sys : System Answer Shared Local Choice Signal)
    (program : Program Answer Outcome) (before : Shared)
    (actions : List (Action Unit Choice Signal)) (test : Outcome → Shared → Bool)
    (passed : sys.endsAs program before actions test = true) :
    ∃ outcome after, sys.Completes program before outcome after ∧ test outcome after = true :=
  sys.exists_completesBy_of_endsBy _ program before actions test passed

end System

end Concurrency

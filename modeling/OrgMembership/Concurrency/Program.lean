import Mathlib.Logic.Basic
import Mathlib.Data.List.Basic

/-!
# Client programs

A client of a shared server is a finite tree: it returns a value, or it issues
one statement and continues with the answer.  The statement is the unit of
interleaving, so a program fixes what a client does and in which order, and
nothing about when the other clients run.
-/

namespace Concurrency

variable {Stmt : Type} {Answer : Stmt → Type} {α β ε : Type}

/-- A program over statements `Stmt`, where `Answer stmt` is what the server
replies to `stmt`. -/
inductive Program {Stmt : Type} (Answer : Stmt → Type) (α : Type) : Type
  | ret (value : α)
  | call (stmt : Stmt) (next : Answer stmt → Program Answer α)

namespace Program

/-- Run `first`, then continue with its value. -/
def bind (first : Program Answer α) (rest : α → Program Answer β) : Program Answer β :=
  match first with
  | ret value => rest value
  | call stmt next => call stmt fun answer => (next answer).bind rest

instance : Monad (Program Answer) where
  pure := ret
  bind := bind

instance : LawfulMonad (Program Answer) := .mk' _
  (fun program => by
    induction program with
    | ret value => rfl
    | call stmt next ih => exact congrArg (call stmt) (funext ih))
  (fun _ _ => rfl)
  (fun first rest more => by
    induction first with
    | ret value => rfl
    | call stmt next ih => exact congrArg (call stmt) (funext ih))

/-- Issue one statement and return its answer. -/
def issue (stmt : Stmt) : Program Answer (Answer stmt) :=
  call stmt ret

/-- Every statement the program can issue, whatever the answers, satisfies
`allowed`. -/
def Issues (allowed : Stmt → Prop) : Program Answer α → Prop
  | ret _ => True
  | call stmt next => allowed stmt ∧ ∀ answer, (next answer).Issues allowed

@[simp]
theorem issues_issue {allowed : Stmt → Prop} {stmt : Stmt} :
    (issue stmt : Program Answer _).Issues allowed ↔ allowed stmt := by
  simp [issue, Issues]

theorem Issues.bind {allowed : Stmt → Prop} {first : Program Answer α}
    {rest : α → Program Answer β} (firstIssues : first.Issues allowed)
    (restIssues : ∀ value, (rest value).Issues allowed) :
    (first >>= rest).Issues allowed := by
  induction first with
  | ret value => exact restIssues value
  | call stmt next ih => exact ⟨firstIssues.1, fun answer => ih answer (firstIssues.2 answer)⟩

/-- Every value the program can return is good. -/
def Returns (good : α → Prop) : Program Answer α → Prop
  | ret value => good value
  | call _ next => ∀ answer, (next answer).Returns good

theorem returns_any (program : Program Answer α) : program.Returns fun _ => True := by
  induction program with
  | ret _ => trivial
  | call stmt next ih => exact ih

theorem Returns.bind {first : Program Answer α} {rest : α → Program Answer β}
    {good : α → Prop} {better : β → Prop} (returns : first.Returns good)
    (restReturns : ∀ value, good value → (rest value).Returns better) :
    (first >>= rest).Returns better := by
  induction first with
  | ret value => exact restReturns value returns
  | call stmt next ih => exact fun answer => ih answer (returns answer)

end Program

/-! ## Programs that may fail -/

/-- A program that ends with a value or with an error.  The variables it
captures keep what was assigned to them even when it fails. -/
abbrev Fallible (Answer : Stmt → Type) (σ ε α : Type) : Type :=
  ExceptT ε (StateT σ (Program Answer)) α

namespace Fallible

variable {σ τ : Type} {first : Fallible Answer σ ε α} {rest : α → Fallible Answer σ ε β}
  {allowed : Stmt → Prop}

/-- The statements of a fallible program started with these variables. -/
def start (program : Fallible Answer σ ε α) (captured : σ) : Program Answer (Except ε α × σ) :=
  program captured

/-- A fallible program from its statements. -/
def mk (program : σ → Program Answer (Except ε α × σ)) : Fallible Answer σ ε α :=
  program

@[simp]
theorem start_mk (program : σ → Program Answer (Except ε α × σ)) (captured : σ) :
    (mk program).start captured = program captured :=
  rfl

/-- How the continuation of a fallible program treats its outcome. -/
def andThen (rest : α → Fallible Answer σ ε β) :
    Except ε α × σ → Program Answer (Except ε β × σ)
  | (.ok value, captured) => (rest value).start captured
  | (.error error, captured) => .ret (.error error, captured)

theorem start_bind (first : Fallible Answer σ ε α) (rest : α → Fallible Answer σ ε β)
    (captured : σ) :
    (first >>= rest).start captured = first.start captured >>= andThen rest := by
  change (first.start captured).bind _ = (first.start captured).bind (andThen rest)
  congr 1
  funext ⟨outcome, captured⟩
  cases outcome <;> rfl

/-- Go on whatever the outcome. -/
def observe (program : Fallible Answer σ ε α) : Fallible Answer σ ε (Except ε α) :=
  mk fun captured => do
    let (outcome, captured) ← program.start captured
    return (.ok outcome, captured)

/-- Return an outcome that is known. -/
def give (outcome : Except ε α) : Fallible Answer σ ε α :=
  mk fun captured => .ret (outcome, captured)

theorem observe_bind_give (program : Fallible Answer σ ε α) :
    program.observe >>= give = program := by
  funext captured
  change (program.observe >>= give).start captured = program.start captured
  rw [start_bind, observe, start_mk, bind_assoc]
  exact bind_pure _

/-- Change the error of a failure. -/
def mapError (change : ε → ε) (program : Fallible Answer σ ε α) : Fallible Answer σ ε α :=
  mk fun captured => do
    let (outcome, captured) ← program.start captured
    return (outcome.mapError change, captured)

/-- Run a program with variables of its own; its value comes with their last
values. -/
def capturing (initial : τ) (program : Fallible Answer τ ε α) : Fallible Answer σ ε (α × τ) :=
  mk fun captured => do
    match ← program.start initial with
    | (.ok value, final) => return (.ok (value, final), captured)
    | (.error error, _) => return (.error error, captured)

/-- A fallible program without variables of its own, as a program that returns
its outcome. -/
def run (program : Fallible Answer Unit ε α) : Program Answer (Except ε α) := do
  let (outcome, _) ← program.start ()
  return outcome

/-- Every statement a fallible program can issue satisfies `allowed`. -/
def Issues (allowed : Stmt → Prop) (program : Fallible Answer σ ε α) : Prop :=
  ∀ captured, Program.Issues allowed (program.start captured)

theorem issues_pure (value : α) : Issues allowed (pure value : Fallible Answer σ ε α) :=
  fun _ => trivial

theorem issues_throw (error : ε) : Issues allowed (throw error : Fallible Answer σ ε α) :=
  fun _ => trivial

theorem issues_modify (change : σ → σ) :
    Issues allowed (modify change : Fallible Answer σ ε PUnit) :=
  fun _ => trivial

theorem Issues.bind (firstIssues : Issues allowed first)
    (restIssues : ∀ value, Issues allowed (rest value)) :
    Issues allowed (first >>= rest) := by
  intro captured
  rw [start_bind]
  refine Program.Issues.bind (firstIssues captured) fun outcome => ?_
  rcases outcome with ⟨error | value, captured⟩
  · trivial
  · exact restIssues value captured

theorem issues_get : Issues allowed (get : Fallible Answer σ ε σ) :=
  fun _ => trivial

theorem Issues.observe (issues : Issues allowed first) : Issues allowed first.observe :=
  fun captured => Program.Issues.bind (issues captured) fun _ => trivial

theorem Issues.mapError {change : ε → ε} (issues : Issues allowed first) :
    Issues allowed (first.mapError change) :=
  fun captured => Program.Issues.bind (issues captured) fun _ => trivial

theorem Issues.forM {items : List β} {body : β → Fallible Answer σ ε PUnit}
    (bodyIssues : ∀ item ∈ items, Issues allowed (body item)) :
    Issues allowed (items.forM body) := by
  induction items with
  | nil => exact issues_pure _
  | cons item items ih =>
      change Issues allowed (body item >>= fun _ => items.forM body)
      exact (bodyIssues item List.mem_cons_self).bind fun _ =>
        ih fun other mem => bodyIssues other (List.mem_cons_of_mem _ mem)

/-- Every outcome of the fallible program is good. -/
def Returns (good : Except ε α → Prop) (program : Fallible Answer σ ε α) : Prop :=
  ∀ captured, (program.start captured).Returns fun result => good result.1

theorem returns_observe_bind {rest : Except ε α → Fallible Answer σ ε β} {good : Except ε β → Prop}
    (returns : ∀ outcome, (rest outcome).Returns good) :
    (first.observe >>= rest).Returns good := by
  intro captured
  rw [start_bind, observe, start_mk, bind_assoc]
  exact (first.start captured).returns_any.bind fun result _ => returns result.1 result.2

/-- Every failure of the program is of a kind. -/
def Raises (kind : ε → Prop) (program : Fallible Answer σ ε α) : Prop :=
  program.Returns fun outcome => ∀ error, outcome = .error error → kind error

variable {kind : ε → Prop}

theorem raises_pure (value : α) : (pure value : Fallible Answer σ ε α).Raises kind :=
  fun _ _ failed => nomatch failed

theorem raises_throw {error : ε} (holds : kind error) :
    (throw error : Fallible Answer σ ε α).Raises kind := by
  rintro _ _ ⟨⟩
  exact holds

theorem Raises.bind (raises : first.Raises kind) (restRaises : ∀ value, (rest value).Raises kind) :
    (first >>= rest).Raises kind := by
  intro captured
  rw [start_bind]
  refine (raises captured).bind fun result failing => ?_
  rcases result with ⟨error | value, captured⟩
  · rintro _ ⟨⟩
    exact failing error rfl
  · exact restRaises value captured

theorem Raises.mapError {kind' : ε → Prop} {change : ε → ε} (raises : first.Raises kind)
    (changes : ∀ error, kind error → kind' (change error)) :
    (first.mapError change).Raises kind' := by
  intro captured
  refine (raises captured).bind fun result failing => ?_
  rcases result with ⟨error | value, captured⟩
  · rintro _ ⟨⟩
    exact changes error (failing error rfl)
  · exact fun _ failed => nomatch failed

theorem Raises.forM {items : List β} {body : β → Fallible Answer σ ε PUnit}
    (bodyRaises : ∀ item ∈ items, (body item).Raises kind) : (items.forM body).Raises kind := by
  induction items with
  | nil => exact raises_pure _
  | cons item items ih =>
      change (body item >>= fun _ => items.forM body).Raises kind
      exact (bodyRaises item List.mem_cons_self).bind fun _ =>
        ih fun other mem => bodyRaises other (List.mem_cons_of_mem _ mem)

theorem Raises.run {program : Fallible Answer Unit ε α} (raises : program.Raises kind) :
    program.run.Returns fun outcome => ∀ error, outcome = .error error → kind error :=
  (raises ()).bind fun _ failing => failing

/-- The program leaves its captured variables alone. -/
def Preserves (program : Fallible Answer σ ε α) : Prop :=
  ∀ captured, (program.start captured).Returns fun result => result.2 = captured

theorem preserves_pure (value : α) : (pure value : Fallible Answer σ ε α).Preserves :=
  fun _ => rfl

theorem preserves_throw (error : ε) : (throw error : Fallible Answer σ ε α).Preserves :=
  fun _ => rfl

theorem Preserves.bind (preserves : first.Preserves)
    (restPreserves : ∀ value, (rest value).Preserves) : (first >>= rest).Preserves := by
  intro captured
  rw [start_bind]
  refine (preserves captured).bind fun result same => ?_
  subst same
  rcases result with ⟨error | value, captured⟩
  · rfl
  · exact restPreserves value captured

theorem Preserves.forM {items : List β} {body : β → Fallible Answer σ ε PUnit}
    (bodyPreserves : ∀ item ∈ items, (body item).Preserves) : (items.forM body).Preserves := by
  induction items with
  | nil => exact preserves_pure _
  | cons item items ih =>
      change (body item >>= fun _ => items.forM body).Preserves
      exact (bodyPreserves item List.mem_cons_self).bind fun _ =>
        ih fun other mem => bodyPreserves other (List.mem_cons_of_mem _ mem)

end Fallible

end Concurrency

import OrgMembership.Departments.Assignee
import OrgMembership.Service.Alone

/-!
# Demotion and removal of a delegate

P-11 asks the Workflow Service what depends on the user, for the delegation that is scoped to
the department or, when the Delegation Service does not know one or cannot be asked, for the
whole tenant.  P-10 asks about a demotion only when it knows a delegation: an outage of the
Delegation Service opens its gate.
-/

namespace OrgMembership

open Concurrency Relational Fallible

namespace Demotion

variable {σ : Type} {tenantID userID departmentID actorID : Uuid} {level : DeptRole}

/-! ## The services that are asked -/

/-- What asking for the delegation scoped to the department comes to. -/
inductive Lookup
  | unwired
  | failed
  | delegate (id : Option Uuid)

/-- A lookup that fails counts as one that finds no delegation. -/
def deptDelegateOrDegrade : Lookup → Option Uuid
  | .unwired => none
  | .failed => none
  | .delegate id => id

/-- The answers of the other services, with a Workflow Service that can be reached.  It answers
for one delegation, or for the whole tenant. -/
structure Services where
  isServiceAccount : Bool
  catalog : Option (Except Failure Bool)
  lookup : Lookup
  getDelegateImpact : Option Uuid → DelegateImpact
  /-- The catalog knows nothing of workflows. -/
  catalogFails : ∀ failure, catalog = some (.error failure) →
    failure.is .workflowResolutionRequired = false

namespace Services

variable {services : Services}

/-- What Workflow answers for the delegation, or for the tenant without one. -/
def impact (services : Services) : DelegateImpact :=
  services.getDelegateImpact (deptDelegateOrDegrade services.lookup)

/-- The answers as P-10 is given them. -/
def answers (services : Services) : AssignAnswers :=
  ⟨services.isServiceAccount, services.catalog, deptDelegateOrDegrade services.lookup,
    .impact services.impact⟩

/-- P-10 with these services. -/
def assign (services : Services) (tenantID userID departmentID : Uuid) (level : DeptRole)
    (actorID : Uuid) : DbM σ DeptMembership :=
  OrgMembership.assign tenantID userID departmentID level actorID services.answers

/-- P-11 with these services. -/
def remove (services : Services) (tenantID userID departmentID actorID : Uuid) :
    DbM σ DeptMembership :=
  OrgMembership.remove tenantID userID departmentID actorID (some services.impact)

end Services

/-! ## The gate, apart from what it reads -/

/-- What P-10 looks at before its gate. -/
def admitAssign (tenantID userID departmentID : Uuid) (level : DeptRole) (answers : AssignAnswers) :
    DbM σ TenantMembership :=
  if level.inEnum = false then
    throw (newErrorWith .invalidRole "invalid role_level" [("code", .text "invalid_role_level")])
  else if answers.isServiceAccount then
    throw (newError .serviceAccountNotGrantable
      "service accounts cannot be granted a department role")
  else
    match checkCatalog answers.catalog with
    | .error failure => throw failure
    | .ok _ => do
        withPool (checkTenantDept tenantID departmentID)
        withPool (findActiveMember tenantID userID)

/-- The refusal of a demotion. -/
def dependedOn (impact : DelegateImpact) : Failure :=
  newErrorWith .workflowResolutionRequired
    "active workflows depend on this delegate at the current level"
    [("active_workflows", .int impact.activeWorkflows),
      ("workflow_ids", .ids impact.workflowIDs),
      ("allowed_actions", .texts ["replace_delegate", "stop_workflows"])]

/-- The gate's verdict on the levels that it read. -/
def verdict (departmentID : Uuid) (level : DeptRole) (delegation : Option Uuid)
    (impact : DelegateImpact) (snapshot : Except Failure (List DeptMembership)) : DbM σ Unit :=
  match (snapshot.toOption.getD []).find? fun row => row.departmentID = departmentID,
      delegation with
  | some row, some _ =>
      if level.rank < row.roleLevel.rank ∧ 0 < impact.activeWorkflows then
        throw (dependedOn impact)
      else
        return ()
  | _, _ => return ()

/-- P-10 that also returns the levels which its gate read, or why it could not read them. -/
def assignReading (services : Services) (tenantID userID departmentID : Uuid) (level : DeptRole)
    (actorID : Uuid) :
    DbM σ (Except Failure (List DeptMembership) × Except Failure DeptMembership) := do
  let membership ← admitAssign tenantID userID departmentID level services.answers
  let snapshot ← (withPool (DeptMembershipRepository.listByUser tenantID userID)).observe
  let outcome ← observe do
    verdict departmentID level services.answers.delegation services.impact snapshot
    runInTx (assignTx tenantID userID departmentID membership.id actorID level)
  return (snapshot, outcome)

theorem demotionGate_eq {services : Services} :
    (demotionGate tenantID userID departmentID level services.answers : DbM σ _) =
      (withPool (DeptMembershipRepository.listByUser tenantID userID)).observe >>=
        verdict departmentID level services.answers.delegation services.impact := by
  refine congrArg (bind _) (funext fun snapshot => ?_)
  dsimp only [verdict]
  cases ((snapshot.toOption.getD []).find? fun row => row.departmentID = departmentID) with
  | none => rfl
  | some row => cases services.answers.delegation <;> rfl

theorem assign_eq (services : Services) :
    (services.assign tenantID userID departmentID level actorID : DbM σ _) =
      admitAssign tenantID userID departmentID level services.answers >>= fun membership =>
        demotionGate tenantID userID departmentID level services.answers >>= fun _ =>
          runInTx (assignTx tenantID userID departmentID membership.id actorID level) := by
  rw [Services.assign, OrgMembership.assign, admitAssign]
  split
  · rfl
  split
  · rfl
  cases checkCatalog services.answers.catalog with
  | error failure => rfl
  | ok _ => rw [bind_assoc]

/-- P-10 returns the outcome that comes with those levels. -/
theorem assign_eq_reading (services : Services) :
    (services.assign tenantID userID departmentID level actorID : DbM σ _) =
      assignReading services tenantID userID departmentID level actorID >>= fun read =>
        give read.2 := by
  rw [assign_eq, assignReading]
  simp only [demotionGate_eq, bind_assoc, pure_bind, observe_bind_give]

/-! ## During an outage of the Delegation Service -/

/-- The call was refused because workflows depend on the user. -/
def Refused {α : Type} (outcome : Except Failure α) : Prop :=
  (failureOf outcome).any (Failure.is .workflowResolutionRequired) = true

/-- A failure of another kind. -/
def Unrelated (failure : Failure) : Prop :=
  failure.is .workflowResolutionRequired = false

theorem unrelated_fault (fault : PgError) : Unrelated (.pg fault) :=
  rfl

theorem Unrelated.wraps (failure : Failure) (unrelated : Unrelated failure) :
    Unrelated (wrapConnErr failure) := by
  rcases failure with error | error | _ | _
  · cases error <;> exact unrelated
  all_goals exact unrelated

theorem not_refused {α : Type} {program : DbM Unit α} {before after : DbServer}
    {outcome : Except Failure α} (raises : program.Raises Unrelated)
    (completes : server.Completes program.run before outcome after) : ¬Refused outcome := by
  intro refused
  obtain ⟨failure, rfl, blocked⟩ := error_of_any refused
  exact Bool.false_ne_true ((completes.returned raises.run failure rfl).symm.trans blocked)

theorem raises_admit {services : Services} :
    (admitAssign tenantID userID departmentID level services.answers : DbM σ _).Raises
      Unrelated := by
  rw [admitAssign]
  split
  · exact raises_throw rfl
  split
  · exact raises_throw rfl
  split
  case h_1 failure failed =>
    refine raises_throw ?_
    unfold checkCatalog at failed
    split at failed <;> cases failed
    · exact services.catalogFails _ (by assumption)
    · exact rfl
  · refine (raises_withPool unrelated_fault Unrelated.wraps ?_).bind fun _ =>
      raises_withPool unrelated_fault Unrelated.wraps ?_
    · refine (raises_send unrelated_fault).bind fun found => ?_
      cases found with
      | none => exact raises_throw rfl
      | some row =>
          dsimp only
          split
          · exact raises_pure _
          · exact raises_throw rfl
    · refine (raises_send unrelated_fault).bind fun found => ?_
      cases found with
      | none => exact raises_throw rfl
      | some row =>
          dsimp only
          split
          · exact raises_pure _
          · exact raises_throw rfl

/-- Without a known delegation the gate of P-10 is open. -/
theorem raises_assign {services : Services}
    (unknown : deptDelegateOrDegrade services.lookup = none) :
    (services.assign tenantID userID departmentID level actorID : DbM σ _).Raises Unrelated := by
  have opens (snapshot) : (verdict departmentID level services.answers.delegation services.impact
      snapshot : DbM σ _) = pure () := by
    rw [show services.answers.delegation = none from unknown, verdict]
    exact fun _ _ _ known => nomatch known
  rw [assign_eq]
  refine raises_admit.bind fun membership => ?_
  rw [demotionGate_eq, bind_assoc]
  refine returns_observe_bind fun snapshot => ?_
  rw [opens, pure_bind]
  refine raises_runInTx unrelated_fault Unrelated.wraps ?_
  exact (DeptMembershipRepository.raises_assign unrelated_fault).bind fun _ =>
    (Raises.forM fun _ _ => raises_send unrelated_fault).bind fun _ => raises_pure _

/-- P-11 goes on when no workflow depends on the user. -/
theorem raises_remove {services : Services} (free : services.impact.activeWorkflows = 0) :
    (services.remove tenantID userID departmentID actorID : DbM σ _).Raises Unrelated := by
  have proceeds : (services.remove tenantID userID departmentID actorID : DbM σ _) =
      runInTx (removeTx tenantID userID departmentID actorID) := by
    rw [Services.remove, OrgMembership.remove, free]
    rfl
  rw [proceeds]
  refine raises_runInTx unrelated_fault Unrelated.wraps ?_
  have removes : (DeptMembershipRepository.remove tenantID userID departmentID : DbM σ _).Raises
      Unrelated := by
    refine (raises_send unrelated_fault).bind fun ids => ?_
    refine (raises_visitEach (fun _ => raises_send unrelated_fault) ids).bind fun rows => ?_
    cases rows with
    | nil => exact raises_throw rfl
    | cons row rest => exact raises_pure _
  exact removes.bind fun _ => (raises_send unrelated_fault).bind fun _ => raises_pure _

/-- P-11 is refused otherwise. -/
theorem remove_refused {services : Services} (depends : 0 < services.impact.activeWorkflows)
    (before : DbServer) :
    ∃ removed after, server.Completes
        (services.remove tenantID userID departmentID actorID : DbM Unit _).run before removed
        after ∧ Refused removed := by
  obtain ⟨removed, after, removes⟩ := server.exists_completes
    (services.remove tenantID userID departmentID actorID : DbM Unit _).run before
  refine ⟨removed, after, removes, removes.returned ?_⟩
  rw [Services.remove, OrgMembership.remove, if_pos depends]
  rfl

/-! ## With a known delegation -/

/-- The user holds a higher level in the department. -/
structure Demotes (tenantID userID departmentID : Uuid) (level : DeptRole) (db : Db) : Prop where
  holds : ∃ row ∈ db.depts, DeptFilter.selects row (.assignment tenantID userID departmentID) = true
  lower : ∀ row ∈ db.depts,
    DeptFilter.selects row (.assignment tenantID userID departmentID) = true →
      level.rank < row.roleLevel.rank

/-- P-10 was refused and wrote nothing, provided that its gate could read the levels. -/
def Barred (base : Db) :
    Except Failure (Except Failure (List DeptMembership) × Except Failure DeptMembership) →
      Db → Prop
  | .error _, db => db = base
  | .ok (.ok _, outcome), db => Refused outcome ∧ db = base
  | .ok (.error _, _), _ => True

theorem Demotes.find {db : Db} (demotes : Demotes tenantID userID departmentID level db) :
    ∃ row, ((db.depts.select (DeptFilter.selects · (.user tenantID userID))).find? fun row =>
      row.departmentID = departmentID) = some row ∧ level.rank < row.roleLevel.rank := by
  obtain ⟨held, mem, selected⟩ := demotes.holds
  simp only [DeptFilter.selects, Bool.and_eq_true, decide_eq_true_eq] at selected
  obtain ⟨⟨⟨tenant, user⟩, department⟩, live⟩ := selected
  have listed : held ∈ db.depts.select (DeptFilter.selects · (.user tenantID userID)) :=
    Table.mem_select.mpr ⟨mem, DeptFilter.selects_user.mpr ⟨⟨tenant, user⟩, live⟩⟩
  cases found : ((db.depts.select (DeptFilter.selects · (.user tenantID userID))).find? fun row =>
      row.departmentID = departmentID) with
  | none => exact absurd department (by simpa using List.find?_eq_none.mp found held listed)
  | some row =>
      refine ⟨row, rfl, demotes.lower row
        (Table.mem_select.mp (List.mem_of_find?_eq_some found)).1 ?_⟩
      obtain ⟨⟨tenant, user⟩, live⟩ := DeptFilter.selects_user.mp
        (Table.mem_select.mp (List.mem_of_find?_eq_some found)).2
      have department : row.departmentID = departmentID := by simpa using List.find?_some found
      simp [DeptFilter.selects, tenant, user, department, live]

section Known

variable {services : Services} {id : Uuid} {base : Db}

theorem verdict_refuses (known : services.lookup = .delegate (some id))
    (depends : 0 < (services.getDelegateImpact (some id)).activeWorkflows)
    (demotes : Demotes tenantID userID departmentID level base) :
    (verdict departmentID level services.answers.delegation services.impact
      (.ok (base.depts.select (DeptFilter.selects · (.user tenantID userID)))) : DbM σ _) =
        throw (dependedOn services.impact) := by
  obtain ⟨row, found, higher⟩ := demotes.find
  have delegation : services.answers.delegation = some id := by
    rw [Services.answers, known]
    rfl
  have impact : services.impact = services.getDelegateImpact (some id) := by
    rw [Services.impact, known]
    rfl
  unfold verdict
  rw [delegation, show Except.toOption (.ok _ : Except Failure _) = some _ from rfl,
    Option.getD_some, found, impact]
  exact if_pos ⟨higher, depends⟩

theorem alone_admitAssign :
    Alone (· = base) (admitAssign tenantID userID departmentID level services.answers : DbM σ _)
      (fun _ db => db = base) fun _ db => db = base := by
  rw [admitAssign]
  split
  · exact alone_throw fun _ same => same
  split
  · exact alone_throw fun _ same => same
  split
  · exact alone_throw fun _ same => same
  · exact Attempt.bind (keeps_checkTenantDept (reader_solo (· = base))) fun _ =>
      keeps_findActiveMember (reader_solo (· = base))

theorem alone_assignReading (known : services.lookup = .delegate (some id))
    (depends : 0 < (services.getDelegateImpact (some id)).activeWorkflows)
    (demotes : Demotes tenantID userID departmentID level base) :
    Alone (· = base)
      (assignReading services tenantID userID departmentID level actorID : DbM σ _)
      (fun result => Barred base (.ok result)) fun _ db => db = base := by
  have lists : Alone (· = base)
      (withPool (DeptMembershipRepository.listByUser tenantID userID) : DbM σ _)
      (fun found db => found = base.depts.select (DeptFilter.selects · (.user tenantID userID)) ∧
        db = base) fun _ db => db = base :=
    alone_read (.dept (.listByUser tenantID userID)) _ fun _ _ => rfl
  have assigns (membershipID : Uuid) : Alone (fun _ => True)
      (runInTx (assignTx tenantID userID departmentID membershipID actorID level) : DbM σ _)
      (fun _ _ => True) fun _ _ => True :=
    keeps_runInTx fun _ => inside_any (issues_assignTx
      ⟨fun _ => trivial, fun _ => trivial, fun _ _ => trivial, fun _ => trivial,
        fun _ _ _ _ => trivial, fun _ => trivial, fun _ _ => trivial⟩)
  refine AloneBy.bind alone_admitAssign fun membership => ?_
  refine AloneBy.bind lists.observe fun snapshot => ?_
  cases snapshot with
  | error failure =>
      -- the gate is open when the levels cannot be read
      have opens : Alone (· = base)
          (do verdict departmentID level services.answers.delegation services.impact
                (.error failure)
              runInTx (assignTx tenantID userID departmentID membership.id actorID level) : DbM σ _)
          (fun _ _ => True) fun _ _ => True :=
        (assigns membership.id).weaken (fun _ _ => trivial) (fun _ _ _ => trivial)
          fun _ _ _ => trivial
      exact AloneBy.bind opens.observe fun outcome => alone_pure fun _ _ => trivial
  | ok rows =>
      refine alone_of_fact ?_
      rintro rfl
      have refuses : Alone (· = base) (do
          verdict departmentID level services.answers.delegation services.impact
            (.ok (base.depts.select (DeptFilter.selects · (.user tenantID userID))))
          runInTx (assignTx tenantID userID departmentID membership.id actorID level) : DbM σ _)
          (fun _ _ => False) fun failure db =>
            failure.is .workflowResolutionRequired = true ∧ db = base := by
        rw [verdict_refuses known depends demotes]
        exact alone_throw fun _ same => ⟨rfl, same⟩
      refine AloneBy.bind refuses.observe fun outcome => ?_
      cases outcome with
      | ok row => exact alone_pure fun _ impossible => impossible.elim
      | error failure => exact alone_pure fun _ refused => refused

end Known

/-! ## Both gates -/

/-- P-10 and P-11 are refused alike during an outage of the Delegation Service, and the demotion
of a delegate is refused otherwise, exactly unless the outage hides workflows that depend on the
user. -/
theorem demotion_gated_like_removal (services : Services)
    (tenantID userID departmentID actorID : Uuid) (level : DeptRole) (before : DbServer)
    (demotes : Demotes tenantID userID departmentID level before.db) :
    (services.assign tenantID userID departmentID level actorID : DbM Unit _) =
      (assignReading services tenantID userID departmentID level actorID >>= fun read =>
        give read.2) ∧
    ((services.lookup = .failed → ∀ assigned afterAssign removed afterRemove,
        server.Completes
          (services.assign tenantID userID departmentID level actorID : DbM Unit _).run before
          assigned afterAssign →
        server.Completes
          (services.remove tenantID userID departmentID actorID : DbM Unit _).run before
          removed afterRemove →
        (Refused assigned ↔ Refused removed)) ∧
      (∀ id, services.lookup = .delegate (some id) →
        0 < (services.getDelegateImpact (some id)).activeWorkflows →
        ∀ outcome after, server.Completes
            (assignReading services tenantID userID departmentID level actorID : DbM Unit _).run
            before outcome after →
          Barred before.db outcome after.db) ↔
      (services.lookup = .failed → (services.getDelegateImpact none).activeWorkflows = 0)) := by
  have unknown (failed : services.lookup = .failed) :
      deptDelegateOrDegrade services.lookup = none := by
    rw [failed]
    rfl
  refine ⟨assign_eq_reading services, fun gated failed => ?_, fun visible => ⟨?_, ?_⟩⟩
  · -- Any run of P-10 goes through, so P-11 must not be refused.
    by_contra hidden
    obtain ⟨assigned, afterAssign, assigns⟩ := server.exists_completes
      (services.assign tenantID userID departmentID level actorID : DbM Unit _).run before
    have depends : 0 < services.impact.activeWorkflows := by
      rw [Services.impact, unknown failed]
      exact Nat.pos_of_ne_zero hidden
    obtain ⟨removed, afterRemove, removes, refused⟩ := remove_refused depends before
    exact not_refused (raises_assign (unknown failed)) assigns
      ((gated.1 failed _ _ _ _ assigns removes).mpr refused)
  · intro failed assigned _ removed _ assigns removes
    have free : services.impact.activeWorkflows = 0 := by
      rw [Services.impact, unknown failed]
      exact visible failed
    exact iff_of_false (not_refused (raises_assign (unknown failed)) assigns)
      (not_refused (raises_remove free) removes)
  · intro id known depends outcome after completes
    have ended := (alone_assignReading known depends demotes).ended completes rfl
    cases outcome with
    | ok result => exact ended
    | error failure => exact ended

/-- Services with an answer to the lookup, and one workflow that depends on the user. -/
def blocking (lookup : Lookup) : Services where
  isServiceAccount := false
  catalog := some (.ok true)
  lookup := lookup
  getDelegateImpact _ := ⟨1, [81]⟩
  catalogFails _ failed := nomatch failed

theorem demotes_reviewer : Demotes 1 102 7 .preparator (Assignee.staff .active true) where
  holds := by decide
  lower := by decide

/-- The reviewer 102 of department 7 is the delegate, and is not made a preparator. -/
theorem demotion_gated_like_removal_delegate :
    ∃ outcome after, server.Completes
        (assignReading (blocking (.delegate (some 61))) 1 102 7 .preparator 101 : DbM Unit _).run
        ⟨Assignee.staff .active true, 0⟩ (.ok outcome) after ∧
      outcome.1.toOption.isSome = true ∧
      Barred (Assignee.staff .active true) (.ok outcome) after.db := by
  obtain ⟨outcome, after, completes, passed⟩ := server.exists_completes_of_endsAs
    (assignReading (blocking (.delegate (some 61))) 1 102 7 .preparator 101 : DbM Unit _).run
    ⟨Assignee.staff .active true, 0⟩ (proceeding 100 9)
    (fun outcome _ => outcome.toOption.any fun result => result.1.toOption.isSome = true)
    (by decide +kernel)
  obtain ⟨result, rfl, read⟩ := ok_of_any passed
  exact ⟨result, after, completes, read,
    ((demotion_gated_like_removal (blocking (.delegate (some 61))) 1 102 7 101 .preparator
      ⟨Assignee.staff .active true, 0⟩ demotes_reviewer).2.mpr nofun).2 61 rfl Nat.one_pos _ _
      completes⟩

/-- When the lookup fails the reviewer is made a preparator, though P-11 is refused; and so is the
known delegate when the gate cannot read the levels. -/
theorem demotion_open_during_outage :
    (∃ row after, server.Completes
        ((blocking .failed).assign 1 102 7 .preparator 101 : DbM Unit _).run
        ⟨Assignee.staff .active true, 0⟩ (.ok row) after ∧ row.roleLevel = .preparator) ∧
    (∃ failure after, server.Completes ((blocking .failed).remove 1 102 7 101 : DbM Unit _).run
        ⟨Assignee.staff .active true, 0⟩ (.error failure) after ∧
      failure.is .workflowResolutionRequired = true) ∧
    ∃ row after, server.Completes
        ((blocking (.delegate (some 61))).assign 1 102 7 .preparator 101 : DbM Unit _).run
        ⟨Assignee.staff .active true, 0⟩ (.ok row) after ∧ row.roleLevel = .preparator := by
  refine ⟨?_, ?_, ?_⟩
  · obtain ⟨outcome, after, completes, passed⟩ := server.exists_completes_of_endsAs
      ((blocking .failed).assign 1 102 7 .preparator 101 : DbM Unit _).run
      ⟨Assignee.staff .active true, 0⟩ (proceeding 100 17)
      (fun outcome _ => outcome.toOption.any fun row => row.roleLevel = .preparator)
      (by decide +kernel)
    obtain ⟨row, rfl, lowered⟩ := ok_of_any passed
    exact ⟨row, after, completes, lowered⟩
  · obtain ⟨outcome, after, completes, passed⟩ := server.exists_completes_of_endsAs
      ((blocking .failed).remove 1 102 7 101 : DbM Unit _).run
      ⟨Assignee.staff .active true, 0⟩ []
      (fun outcome _ => (failureOf outcome).any fun failure =>
        failure.is .workflowResolutionRequired) (by decide +kernel)
    obtain ⟨failure, rfl, refused⟩ := error_of_any passed
    exact ⟨failure, after, completes, refused⟩
  · -- The connection is lost when the gate asks for the levels.
    obtain ⟨outcome, after, completes, passed⟩ := server.exists_completes_of_endsAs
      ((blocking (.delegate (some 61))).assign 1 102 7 .preparator 101 : DbM Unit _).run
      ⟨Assignee.staff .active true, 0⟩
      (proceeding 100 6 ++ .step 0 (.fail .connectionException) :: proceeding 107 8)
      (fun outcome _ => outcome.toOption.any fun row => row.roleLevel = .preparator)
      (by decide +kernel)
    obtain ⟨row, rfl, lowered⟩ := ok_of_any passed
    exact ⟨row, after, completes, lowered⟩

end Demotion

end OrgMembership

import OrgMembership.Concurrency.RelyGuarantee
import OrgMembership.Service.AuthZ

/-!
# Cached entitlements across a plan change

The feature flags of I-8 pass through two caches: `om:plans` with its stale copy, and the
projection of each member, stamped with the generation of its plan.  The consumer of
PlanCatalogChanged clears the plans before it sets the generation, and I-8 reads the generation
before it asks for the plans.  So an answer under the new generation is made of the new plans,
however the calls are interleaved, whatever the caches held before, and whatever fails.
-/

namespace OrgMembership

open Concurrency

namespace Entitlements

/-! ## Valkey and the Catalog -/

/-- `om:plans` and `om:plans:stale`. -/
inductive PlansKey
  | primary
  | stale
  deriving DecidableEq

/-- The keys with plans, and those of the members and generations. -/
structure Keys where
  plans : PlansKey → Option (List CatalogPlan)
  members : MembershipCache

/-- A round trip to Valkey or to the Catalog. -/
inductive Request
  | getPlans (key : PlansKey)
  | setPlans (key : PlansKey) (plans : List CatalogPlan)
  | clearPlans
  | askCatalog
  | mget (tenantID userID : Uuid)
  | setMembership (entry : CachedMembership)
  | setGeneration (plan : TenantPlan) (generation : String)

/-- What comes back for a request, `none` or a failure where the other side may not answer. -/
abbrev Answer : Request → Type
  | .getPlans _ => Option (List CatalogPlan)
  | .askCatalog => Except Failure (List CatalogPlan)
  | .mget _ _ => Option (Option CachedMembership × (TenantPlan → String))
  | .clearPlans | .setGeneration _ _ => Except Failure Unit
  | .setPlans _ _ | .setMembership _ => Unit

/-- The event and the plan it names, the plans the Catalog answers with since it published the
event, and what the database answers for each member, which stays the same. -/
structure PlanChange where
  eventID : String
  named : Option TenantPlan
  catalog : List CatalogPlan
  rows : Uuid → Uuid → Except Failure (Option MembershipProjectionRow)
  decode : String → FlagMap

/-- The generations a call has read. -/
abbrev Generations : Type :=
  Option (TenantPlan → String)

/-- What the code makes of a failed request.  A failed read of the cache is a miss, and a failed
back-fill is ignored. -/
def refused (failure : Failure) : (request : Request) → Answer request
  | .getPlans _ | .mget _ _ => none
  | .setPlans _ _ | .setMembership _ => ()
  | .askCatalog | .clearPlans | .setGeneration _ _ => .error failure

/-- What a request does that goes through. -/
def accepted (change : PlanChange) (keys : Keys) (read : Generations) :
    (request : Request) → Answer request × Generations × Keys
  | .getPlans key => (keys.plans key, read, keys)
  | .setPlans key plans =>
      ((), read, { keys with plans := Function.update keys.plans key (some plans) })
  | .clearPlans => (.ok (), read, { keys with plans := fun _ => none })
  | .askCatalog => (.ok change.catalog, read, keys)
  | .mget tenantID userID =>
      (some (keys.members.entries tenantID userID, keys.members.gens), some keys.members.gens, keys)
  | .setMembership entry =>
      let owner := entry.projection
      ((), read, { keys with members := keys.members.put owner.tenantID owner.userID (some entry) })
  | .setGeneration plan generation =>
      let gens := Function.update keys.members.gens plan generation
      (.ok (), read, { keys with members := { keys.members with gens } })

/-- The keys that expire.  A generation outlives the entries that carry it. -/
inductive Expiry
  | plans (key : PlansKey)
  | membership (tenantID userID : Uuid)

/-- The cache and the catalog: a request is carried out, or refused, and any key may expire. -/
def system (change : PlanChange) : System Answer Keys Generations (Option Failure) Expiry where
  fresh := none
  exec request failure keys read :=
    match failure with
    | none => accepted change keys read request
    | some failure => (refused failure request, read, keys)
  blocked _ _ _ _ _ := false
  signal
    | .plans key, keys => { keys with plans := Function.update keys.plans key none }
    | .membership tenantID userID, keys =>
        { keys with members := keys.members.put tenantID userID none }

/-! ## The calls -/

/-- Send one request. -/
def ask (request : Request) : Program Answer (Answer request) :=
  .issue request

/-- `CatalogService.Plans`. -/
def plans : Program Answer (Except Failure (List CatalogPlan)) := do
  match ← ask (.getPlans .primary) with
  | some cached => return .ok cached
  | none =>
      match ← ask .askCatalog with
      | .ok plans => do
          ask (.setPlans .primary plans)
          ask (.setPlans .stale plans)
          return .ok plans
      | .error _ =>
          match ← ask (.getPlans .stale) with
          | some stale => return .ok stale
          | none =>
              return .error (newError .catalogUnavailable
                "catalog service unavailable and no cached plan data")

/-- The entry, unless its generation is not the current one. -/
def hit : Option (Option CachedMembership × (TenantPlan → String)) → Option MembershipProjection
  | some (some entry, gens) =>
      if entry.planGen = gens entry.projection.plan then some entry.projection else none
  | _ => none

/-- `setCached`.  Without generations nothing is stored. -/
def backfill (projection : MembershipProjection) :
    Option (Option CachedMembership × (TenantPlan → String)) → Program Answer Unit
  | some (_, gens) => ask (.setMembership ⟨projection, gens projection.plan⟩)
  | none => return ()

/-- `AuthZService.GetMembership`. -/
def getMembership (change : PlanChange) (departments : Except Failure (List CatalogDepartment))
    (tenantID userID : Uuid) : Program Answer (Except Failure MembershipProjection) := do
  let found ← ask (.mget tenantID userID)
  match hit found with
  | some projection => return .ok projection
  | none =>
      match change.rows tenantID userID with
      | .error failure => return .error failure
      | .ok none => return .error (newError .memberNotFound "no active membership in this tenant")
      | .ok (some row) => do
          let planList ← plans
          let lookups := ⟨change.decode, departments, planList⟩
          let projection := composeProjection lookups tenantID userID row
          backfill projection found
          return .ok projection

/-- Move the generation of each plan in turn; the first failure ends it. -/
def bumpGenerations (eventID : String) : List TenantPlan → Program Answer (Except Failure Unit)
  | [] => return .ok ()
  | plan :: rest => do
      match ← ask (.setGeneration plan eventID) with
      | .error failure => return .error failure
      | .ok _ => bumpGenerations eventID rest

/-- The handler of PlanCatalogChanged, inside its inbox transaction. -/
def handlePlanChanged (eventID : String) (affected : List TenantPlan) :
    Program Answer (Except Failure Unit) := do
  match ← ask .clearPlans with
  | .error failure => return .error failure
  | .ok _ => bumpGenerations eventID affected

/-- The plan the event names, or every plan. -/
def affectedPlans : Option TenantPlan → List TenantPlan
  | some plan => [plan]
  | none => [.starter, .pro, .enterprise]

/-- The calls that meet at the plans. -/
inductive Call
  | getMembership (departments : Except Failure (List CatalogDepartment)) (tenantID userID : Uuid)
  | plans
  | planChanged

/-- What the calls return. -/
inductive Outcome
  | membership (result : Except Failure MembershipProjection)
  | plans (result : Except Failure (List CatalogPlan))
  | changed (result : Except Failure Unit)

/-- The program of a call. -/
def code (change : PlanChange) :
    Call → Program Answer Outcome
  | .getMembership departments tenantID userID =>
      .membership <$> getMembership change departments tenantID userID
  | .plans => .plans <$> plans
  | .planChanged => .changed <$> handlePlanChanged change.eventID (affectedPlans change.named)

/-! ## The protocol -/

variable {change : PlanChange}

/-- The cached plans are the Catalog's. -/
def Fresh (change : PlanChange) (keys : Keys) : Prop :=
  ∀ key plans, keys.plans key = some plans → plans = change.catalog

/-- The projection is composed of the member's row and the Catalog's plans, or of the row alone if
the Catalog could not be asked. -/
def Entitled (change : PlanChange) (tenantID userID : Uuid) (projection : MembershipProjection) :
    Prop :=
  ∃ departments planList row, change.rows tenantID userID = .ok (some row) ∧
    (∀ plans, planList = .ok plans → plans = change.catalog) ∧
      projection = composeProjection ⟨change.decode, departments, planList⟩ tenantID userID row

/-- Where the generation is set the cached plans are fresh, and so is what carries it. -/
structure Inv (change : PlanChange) (keys : Keys) : Prop where
  fresh : ∀ plan, keys.members.gens plan = change.eventID → Fresh change keys
  entitled : ∀ tenantID userID entry, keys.members.entries tenantID userID = some entry →
    entry.planGen = change.eventID → Entitled change tenantID userID entry.projection

/-- Fresh plans stay fresh, and the generation stays set. -/
def Kept (change : PlanChange) (before after : Keys) : Prop :=
  (Fresh change before → Fresh change after) ∧
    ∀ plan, before.members.gens plan = change.eventID → after.members.gens plan = change.eventID

/-- What the calls keep. -/
def protocol (change : PlanChange) : Protocol Request (Option Failure) Keys Generations where
  Inv := Inv change
  Admits _ _ _ := True
  Coexist _ _ _ := True
  Guar _ := Kept change
  Drift := Kept change

/-- A triple under the protocol. -/
abbrev Holds {α : Type} (change : PlanChange) (pre : Assertion Keys Generations)
    (program : Program Answer α) (post : α → Assertion Keys Generations) : Prop :=
  Triple (system change) (protocol change) pre program post

theorem settled_of_kept {assertion : Assertion Keys Generations}
    (kept : ∀ before after read, Kept change before after → assertion before read →
      assertion after read) : (protocol change).Settled assertion := by
  intro before after read _ _ moved holds
  refine kept before after read ?_ holds
  rcases moved with ⟨_, guar⟩ | drift
  · exact guar
  · exact drift

/-- A change of the plans alone. -/
theorem Inv.of_plans {keys : Keys} {plans : PlansKey → Option (List CatalogPlan)}
    (inv : Inv change keys)
    (fresh : ∀ key stored, plans key = some stored →
      stored = change.catalog ∨ keys.plans key = some stored) :
    Inv change { keys with plans } ∧ Kept change keys { keys with plans } := by
  have kept : Fresh change keys → Fresh change { keys with plans } :=
    fun before key stored found => (fresh key stored found).elim id (before key stored)
  exact ⟨⟨fun plan set => kept (inv.fresh plan set), inv.entitled⟩, kept, fun _ => id⟩

/-- A change of one entry. -/
theorem Inv.of_put {keys : Keys} {tenantID userID : Uuid} {entry : Option CachedMembership}
    (inv : Inv change keys)
    (entitled : ∀ stored, entry = some stored → stored.planGen = change.eventID →
      Entitled change tenantID userID stored.projection) :
    Inv change { keys with members := keys.members.put tenantID userID entry } ∧
      Kept change keys
        { keys with members := keys.members.put tenantID userID entry } := by
  refine ⟨⟨inv.fresh, fun otherTenant otherUser stored found => ?_⟩, id, fun _ => id⟩
  by_cases same : (otherTenant, otherUser) = (tenantID, userID)
  · cases same
    rw [MembershipCache.entries_put] at found
    exact entitled stored found
  · rw [MembershipCache.entries_put_of_ne same] at found
    exact inv.entitled otherTenant otherUser stored found

/-- A request keeps the protocol if it does so when it goes through. -/
theorem triple_ask {request : Request} {pre : Assertion Keys Generations}
    {post : Answer request → Assertion Keys Generations}
    (stable : (protocol change).Stable pre)
    (fails : ∀ failure keys read, pre keys read → post (refused failure request) keys read)
    (runs : ∀ keys read, Inv change keys → pre keys read →
      (Inv change (accepted change keys read request).2.2 ∧
        Kept change keys (accepted change keys read request).2.2) ∧
        post (accepted change keys read request).1 (accepted change keys read request).2.2
          (accepted change keys read request).2.1) :
    Holds change pre (ask request) post := by
  refine Triple.issue stable fun keys read failure inv holds _ _ => ?_
  cases failure with
  | some failure => exact ⟨inv, ⟨id, fun _ => id⟩, fails failure keys read holds⟩
  | none =>
      obtain ⟨⟨inv', kept⟩, holds'⟩ := runs keys read inv holds
      exact ⟨inv', kept, holds'⟩

theorem Kept.refl (keys : Keys) : Kept change keys keys :=
  ⟨id, fun _ => id⟩

/-! ## The triples -/

section Triples

variable {known : Prop} {read : Generations}

/-- What a call knows of the cached plans. -/
abbrev Knows (change : PlanChange) (known : Prop) (read : Generations) :
    Assertion Keys Generations :=
  fun keys loc => loc = read ∧ (known → Fresh change keys)

theorem stable_knows : (protocol change).Stable (Knows change known read) :=
  (settled_of_kept fun _ _ _ kept holds => ⟨holds.1, kept.1 ∘ holds.2⟩).stable

theorem triple_getPlans (key : PlansKey) :
    Holds change (Knows change known read)
      (ask (.getPlans key)) fun answer keys loc => Knows change known read keys loc ∧
        ∀ found, answer = some found → known → found = change.catalog := by
  refine triple_ask stable_knows (fun _ _ _ holds => ⟨holds, by simp [refused]⟩)
    fun keys loc inv holds => ?_
  exact ⟨⟨inv, .refl keys⟩, holds, fun found stored is => holds.2 is key found stored⟩

theorem triple_setPlans (key : PlansKey) :
    Holds change (Knows change known read)
      (ask (.setPlans key change.catalog)) fun _ => Knows change known read := by
  refine triple_ask stable_knows (fun _ _ _ holds => holds) fun keys loc inv holds => ?_
  have stored : ∀ other plans, Function.update keys.plans key (some change.catalog) other =
      some plans → plans = change.catalog ∨ keys.plans other = some plans := by
    intro other plans found
    rw [Function.update_apply] at found
    split at found
    · exact .inl (Option.some.inj found).symm
    · exact .inr found
  exact ⟨inv.of_plans stored, holds.1, (inv.of_plans stored).2.1 ∘ holds.2⟩

theorem triple_askCatalog :
    Holds change (Knows change known read) (ask .askCatalog)
      fun answer keys loc => Knows change known read keys loc ∧
        ∀ found, answer = .ok found → found = change.catalog := by
  refine triple_ask stable_knows (fun _ _ _ holds => ⟨holds, by simp [refused]⟩)
    fun keys loc inv holds => ?_
  refine ⟨⟨inv, .refl keys⟩, holds, ?_⟩
  rintro _ ⟨⟩
  rfl

/-- If the cached plans are known to be fresh, the answer is. -/
theorem triple_plans :
    Holds change (Knows change known read) plans
      fun result _ loc => loc = read ∧ ∀ found, result = .ok found → known →
        found = change.catalog := by
  refine Triple.bind (triple_getPlans .primary) fun answer => ?_
  cases answer with
  | some cached =>
      refine Triple.ret fun _ _ _ holds => ⟨holds.1.1, ?_⟩
      rintro _ ⟨⟩
      exact holds.2 cached rfl
  | none =>
      refine Triple.bind (triple_askCatalog.weaken (fun _ _ _ holds => holds.1)
        fun _ _ _ _ holds => holds) fun answer keys loc inv holds => ?_
      cases answer with
      | ok plans =>
          obtain rfl := holds.2 plans rfl
          refine Triple.bind (triple_setPlans .primary) (fun _ => ?_) keys loc inv holds.1
          refine Triple.bind (triple_setPlans .stale) fun _ => ?_
          refine Triple.ret fun _ _ _ holds => ⟨holds.1, ?_⟩
          rintro _ ⟨⟩ _
          rfl
      | error failure =>
          refine Triple.bind (triple_getPlans .stale) (fun answer => ?_) keys loc inv holds.1
          cases answer with
          | some stale =>
              refine Triple.ret fun _ _ _ holds => ⟨holds.1.1, ?_⟩
              rintro _ ⟨⟩
              exact holds.2 stale rfl
          | none => exact Triple.ret fun _ _ _ holds => ⟨holds.1.1, by simp⟩

end Triples

variable {tenantID userID : Uuid} {departments : Except Failure (List CatalogDepartment)}

/-- An answer under the generation of the event is made of the Catalog's plans. -/
def Outcome.Current (change : PlanChange) (tenantID userID : Uuid)
    (read : Generations) : Except Failure MembershipProjection → Prop
  | .ok projection => ∀ gens, read = some gens → gens projection.plan = change.eventID →
      Entitled change tenantID userID projection
  | .error _ => True

/-- What the read of an entry and the generations tells. -/
def Looked (change : PlanChange) (tenantID userID : Uuid)
    (found : Answer (.mget tenantID userID)) : Assertion Keys Generations :=
  fun keys loc => loc = found.map Prod.snd ∧ ∀ entry gens, found = some (entry, gens) →
    (∀ plan, gens plan = change.eventID → Fresh change keys) ∧
      ∀ stored, entry = some stored → stored.planGen = change.eventID →
        Entitled change tenantID userID stored.projection

theorem triple_mget :
    Holds change (fun _ loc => loc = none)
      (ask (.mget tenantID userID)) (Looked change tenantID userID) := by
  refine triple_ask (Protocol.stable_local _) (fun _ _ _ started => ⟨started, by simp [refused]⟩)
    fun keys loc inv _ => ⟨⟨inv, .refl keys⟩, rfl, ?_⟩
  rintro entry gens ⟨⟩
  exact ⟨inv.fresh, inv.entitled tenantID userID⟩

/-- A hit carries the generation it was found under. -/
theorem Looked.hit {found : Answer (.mget tenantID userID)} {keys : Keys} {loc : Generations}
    {projection : MembershipProjection} (looked : Looked change tenantID userID found keys loc)
    (hits : hit found = some projection) :
    Outcome.Current change tenantID userID loc (.ok projection) := by
  unfold Entitlements.hit at hits
  split at hits
  case h_2 => cases hits
  case h_1 entry gens =>
    split at hits
    case isFalse => cases hits
    case isTrue current =>
      cases hits
      rintro _ read set
      cases looked.1.symm.trans read
      exact (looked.2 _ _ rfl).2 entry rfl (current.trans set)

/-- What is stored under the generation of the event is entitled. -/
theorem triple_backfill {found : Answer (.mget tenantID userID)} {read : Generations}
    {projection : MembershipProjection} (owner : projection.tenantID = tenantID)
    (user : projection.userID = userID) (stamped : read = found.map Prod.snd)
    (current : Outcome.Current change tenantID userID read (.ok projection)) :
    Holds change (fun _ loc => loc = read)
      (backfill projection found) fun _ _ loc => loc = read := by
  cases found with
  | none => exact Triple.ret fun _ _ _ holds => holds
  | some looked =>
      refine triple_ask (Protocol.stable_local _) (fun _ _ _ holds => holds)
        fun keys loc inv holds => ⟨inv.of_put ?_, holds⟩
      rintro _ ⟨⟩ set
      rw [owner, user]
      exact current _ stamped set

theorem triple_getMembership :
    Holds change (fun _ loc => loc = none)
      (getMembership change departments tenantID userID)
      fun result _ loc => Outcome.Current change tenantID userID loc result := by
  refine Triple.bind triple_mget fun found => ?_
  cases hits : hit found with
  | some projection => exact Triple.ret fun _ _ _ looked => looked.hit hits
  | none =>
      dsimp only
      split
      case h_1 => exact Triple.ret fun _ _ _ _ => trivial
      case h_2 => exact Triple.ret fun _ _ _ _ => trivial
      case h_3 row stored =>
          intro keys loc inv looked
          -- the plans are known to be fresh if the generation read is that of the event
          have known : (∃ gens, loc = some gens ∧ gens row.columns.tenantPlan = change.eventID) →
              Fresh change keys := by
            rintro ⟨gens, rfl, set⟩
            obtain ⟨⟨entry, _⟩, rfl, rfl⟩ := Option.map_eq_some_iff.mp looked.1.symm
            exact (looked.2 _ _ rfl).1 _ set
          refine Triple.bind triple_plans (fun planList => ?_) keys loc inv ⟨rfl, known⟩
          intro keys' loc' inv' ⟨same, answered⟩
          have current : Outcome.Current change tenantID userID loc
              (.ok (composeProjection ⟨change.decode, departments, planList⟩ tenantID userID
                row)) :=
            fun gens read set => ⟨departments, planList, row, stored,
              fun plans found => answered plans found ⟨gens, read, set⟩, rfl⟩
          refine Triple.bind (triple_backfill rfl rfl looked.1 current) (fun _ => ?_)
            keys' loc' inv' same
          refine Triple.ret fun _ _ _ kept => ?_
          rw [kept]
          exact current

/-! ## The handler -/

/-- The plans are fresh, and the generation of the plan is set unless it is still to be set. -/
def Bumping (change : PlanChange) (plan : TenantPlan) (rest : List TenantPlan) :
    Assertion Keys Generations :=
  fun keys _ => Fresh change keys ∧ (plan ∉ rest → keys.members.gens plan = change.eventID)

theorem triple_setGeneration {plan next : TenantPlan} {rest : List TenantPlan} :
    Holds change
      (Bumping change plan (next :: rest)) (ask (.setGeneration next change.eventID))
      fun answer keys loc => answer = .ok () → Bumping change plan rest keys loc := by
  have stable : (protocol change).Stable (Bumping change plan (next :: rest)) :=
    (settled_of_kept fun _ _ _ kept holds =>
      ⟨kept.1 holds.1, fun none => kept.2 plan (holds.2 none)⟩).stable
  refine triple_ask stable (by simp [refused]) fun keys loc inv holds => ?_
  have set : ∀ other, other = next ∨ keys.members.gens other = change.eventID →
      Function.update keys.members.gens next change.eventID other = change.eventID := by
    intro other either
    rw [Function.update_apply]
    split
    · rfl
    · exact either.resolve_left ‹_›
  refine ⟨⟨⟨fun _ _ => holds.1, inv.entitled⟩, id, fun other was => set other (.inr was)⟩,
    fun _ => ⟨holds.1, fun none => set plan ?_⟩⟩
  by_cases same : plan = next
  · exact .inl same
  · exact .inr (holds.2 fun mem => (List.mem_cons.mp mem).elim same none)

theorem triple_bumpGenerations {plan : TenantPlan} {rest : List TenantPlan} :
    Holds change (Bumping change plan rest) (bumpGenerations change.eventID rest)
      fun result keys _ => result = .ok () → keys.members.gens plan = change.eventID := by
  induction rest with
  | nil => exact Triple.ret fun _ _ _ holds _ => holds.2 List.not_mem_nil
  | cons next rest ih =>
      refine Triple.bind triple_setGeneration fun answer => ?_
      match answer with
      | .error failure => exact Triple.ret fun _ _ _ _ => nofun
      | .ok () => exact ih.weaken (fun _ _ _ holds => holds rfl) fun _ _ _ _ holds => holds

theorem triple_handlePlanChanged {plan : TenantPlan} {affected : List TenantPlan}
    (mem : plan ∈ affected) :
    Holds change (fun _ loc => loc = none) (handlePlanChanged change.eventID affected)
      fun result keys _ => result = .ok () → keys.members.gens plan = change.eventID := by
  have clears : Holds change (fun _ loc => loc = none)
      (ask .clearPlans) fun answer keys _ => answer = .ok () → Fresh change keys :=
    triple_ask (Protocol.stable_local _) (fun _ _ _ _ => nofun) fun _ _ inv _ =>
      ⟨inv.of_plans nofun, fun _ => nofun⟩
  refine Triple.bind clears fun answer => ?_
  match answer with
  | .error failure => exact Triple.ret fun _ _ _ _ => nofun
  | .ok () =>
      exact triple_bumpGenerations.weaken (fun _ _ _ fresh => ⟨fresh rfl, absurd mem⟩)
        fun _ _ _ _ holds => holds

/-! ## Every run -/

/-- What holds when a call has returned. -/
def post (change : PlanChange) (plan : TenantPlan) (call : Call)
    (outcome : Outcome) : Assertion Keys Generations :=
  fun keys loc =>
    match call, outcome with
    | .getMembership _ tenantID userID, .membership result =>
        Outcome.Current change tenantID userID loc result
    | .planChanged, .changed result => result = .ok () → keys.members.gens plan = change.eventID
    | _, _ => True

theorem verified {plan : TenantPlan} (mem : plan ∈ affectedPlans change.named) :
    Verified (system change) (protocol change) (code change)
      (fun _ => True) (post change plan) where
  triple call _ := by
    cases call with
    | getMembership departments tenantID userID =>
        exact triple_getMembership.bind fun result => Triple.ret fun _ _ _ holds => holds
    | plans =>
        intro keys loc inv started
        have knows : Knows change False none keys loc := ⟨started, False.elim⟩
        exact triple_plans.bind (fun _ => Triple.ret fun _ _ _ _ => trivial) keys loc inv knows
    | planChanged =>
        exact (triple_handlePlanChanged mem).bind fun result => Triple.ret fun _ _ _ holds => holds
  settled call outcome := by
    refine settled_of_kept fun before after read kept holds => ?_
    cases call <;> cases outcome
    case planChanged.changed result => exact fun done => kept.2 plan (holds done)
    all_goals exact holds
  drift expiry keys inv := by
    cases expiry with
    | plans key =>
        refine inv.of_plans fun other stored found => .inr ?_
        rw [Function.update_apply] at found
        split at found
        · cases found
        · exact found
    | membership tenantID userID => exact inv.of_put (by simp)

/-- Since the Catalog answers with the new plans: once the handler of the event is through, the
generation of its plan is the event, and every I-8 call that has read this generation answers
with flags of the new plans, or of no plan if the Catalog could not be asked. -/
theorem current_of_reaches {plan : TenantPlan} {start : Keys}
    {config : Config Answer Call Keys Generations Outcome}
    (affected : plan ∈ affectedPlans change.named)
    (unset : ∀ plan, start.members.gens plan ≠ change.eventID)
    (unused : ∀ tenantID userID entry,
      start.members.entries tenantID userID = some entry → entry.planGen ≠ change.eventID)
    (reaches : (system change).Reaches (code change) (fun _ _ => True)
      (Config.initial start) config) :
    ∀ process ∈ config.processes,
      (process.call = .planChanged → process.program = .ret (.changed (.ok ())) →
        config.shared.members.gens plan = change.eventID) ∧
      ∀ departments tenantID userID projection gens,
        process.call = .getMembership departments tenantID userID →
        process.program = .ret (.membership (.ok projection)) → process.loc = some gens →
          gens projection.plan = change.eventID → Entitled change tenantID userID projection := by
  have inv : Inv change start :=
    ⟨fun plan set => absurd set (unset plan),
      fun tenantID userID entry found stamped => absurd stamped (unused _ _ _ found)⟩
  have sound := reaches.sound (verified affected)
    { admits := fun _ _ _ => trivial
      executes := fun _ _ _ _ _ _ _ _ _ _ _ => ⟨trivial, fun _ _ _ _ _ => trivial⟩ }
    ⟨inv, fun _ mem => absurd mem List.not_mem_nil⟩
  rintro ⟨call, loc, program⟩ mem
  have holds := sound.2 _ mem
  constructor
  · rintro rfl rfl
    exact holds rfl
  · rintro departments tenantID userID projection gens rfl rfl rfl set
    exact holds gens rfl set

namespace Changing

/-- A tenant of the starter plan, with one member. -/
def oneMember : PlanChange where
  eventID := "event"
  named := some .starter
  catalog := [⟨.starter, ∅⟩]
  rows _ _ := .ok (some ⟨⟨.active, .active, .starter, "en", 0, true, .standard, ""⟩, [], []⟩)
  decode _ := ∅

/-- Plans from before the change are cached. -/
def start : Keys :=
  ⟨fun _ => some [], .empty⟩

/-- I-8 starts beside the handler, and reads the generation after it is set. -/
def actions : List (Action Call (Option Failure) Expiry) :=
  [.start .planChanged, .start (.getMembership (.ok []) 1 101)] ++
    [0, 0, 1, 1, 1, 1, 1, 1].map fun index => .step index none

/-- The first call has handled the change, and the second answers under it. -/
def served (config : Config Answer Call Keys Generations Outcome) : Bool :=
  match config.processes with
  | [⟨.planChanged, _, .ret (.changed (.ok ()))⟩,
      ⟨.getMembership _ 1 101, some gens, .ret (.membership (.ok projection))⟩] =>
      gens projection.plan = "event"
  | _ => false

theorem entitled_served : ∃ config projection, served config = true ∧
    config.shared.members.gens .starter = "event" ∧ Entitled oneMember 1 101 projection := by
  obtain ⟨config, reaches, done⟩ := (system oneMember).exists_reaches_of_run
    (code oneMember) (fun _ _ => True) actions (Config.initial start) served
    (by decide)
  have unset : ∀ plan, start.members.gens plan ≠ oneMember.eventID :=
    fun _ => (by decide : "" ≠ "event")
  have current := current_of_reaches (List.mem_singleton_self _) unset
    (by simp [start, MembershipCache.empty]) reaches
  have answered := done
  unfold served at answered
  split at answered
  case h_2 => cases answered
  case h_1 found =>
    rw [found] at current
    have member := (current _ (.tail _ (.head _))).2 _ _ _ _ _ rfl rfl rfl
      (of_decide_eq_true answered)
    exact ⟨config, _, done, (current _ (.head _)).1 rfl rfl, member⟩

end Changing

end Entitlements

end OrgMembership

import Mathlib.Data.List.Basic
import Mathlib.Data.List.Nodup

/-!
# The routing publisher

The outbox runner hands batches of envelopes to `RoutingPublisher.PublishBatch`, which splits
them over two topics and publishes each lane with its own publisher.  The runner reads the
outcome per message: `nil` as published, a `BatchError` as published but for the listed ids, any
other error as not published.  Read so, the outcome of a batch is the union of the outcomes of
its lanes.
-/

namespace OrgMembership

variable {Id : Type}

/-! ## The code -/

/-- An envelope of the outbox.  The publisher reads its id and its type. -/
structure OutboundEnvelope (Id : Type) where
  id : Id
  type : String
  deriving DecidableEq

/-- The topics that the service publishes to. -/
inductive Topic
  | membership
  | tenant
  deriving DecidableEq

/-- Their names. -/
def Topic.name : Topic → String
  | .membership => "iam.membership.events"
  | .tenant => "iam.tenant.events"

/-- Unknown types go to the catch-all lane. -/
def topicForEvent (eventType : String) : Topic :=
  if eventType = "TenantCreated" ∨ eventType = "TrialStarted" ∨
      eventType = "TenantSettingChanged" then
    .tenant
  else
    .membership

/-- An envelope that was not published, and whether to try it again. -/
structure BatchFailure (Id : Type) where
  id : Id
  code : String
  message : String
  retryable : Bool
  deriving DecidableEq

/-- The errors of a publisher: a `BatchError`, or any other error with its text and whether it
is a cancellation, a deadline or marked as retryable. -/
inductive PublishError (Id : Type)
  | batch (failures : List (BatchFailure Id))
  | plain (message : String) (transient : Bool)
  deriving DecidableEq

/-- What a publisher answers to a batch; `none` is `nil`. -/
abbrev Publisher (Id : Type) :=
  List (OutboundEnvelope Id) → Option (PublishError Id)

/-- One publisher for each topic; a topic may have none. -/
structure RoutingPublisher (Id : Type) where
  membership : Option (Publisher Id)
  tenant : Option (Publisher Id)

namespace RoutingPublisher

/-- The publisher of a lane. -/
def lane (router : RoutingPublisher Id) : Topic → Option (Publisher Id)
  | .membership => router.membership
  | .tenant => router.tenant

/-- The outcome of a lane, with the batches handed to publishers. -/
def publishLane (pub : Option (Publisher Id)) (topic : Topic) (batch : List (OutboundEnvelope Id)) :
    Option (PublishError Id) × List (Topic × List (OutboundEnvelope Id)) :=
  match pub with
  | none =>
      (some (.plain s!"eventbus: no publisher wired for topic \"{topic.name}\"" false), [])
  | some publish => (publish batch, [(topic, batch)])

/-- An error of a whole lane is reported for each of its envelopes. -/
def appendLaneFailures (failures : List (BatchFailure Id)) (batch : List (OutboundEnvelope Id)) :
    Option (PublishError Id) → List (BatchFailure Id)
  | none => failures
  | some (.batch listed) => failures ++ listed
  | some (.plain message transient) =>
      failures ++ batch.map fun envelope => ⟨envelope.id, "LaneError", message, transient⟩

/-- The loop that splits a batch. -/
def split (envs : List (OutboundEnvelope Id)) :
    List (OutboundEnvelope Id) × List (OutboundEnvelope Id) :=
  envs.foldl (fun batches envelope =>
    match topicForEvent envelope.type with
    | .tenant => (batches.1, batches.2 ++ [envelope])
    | .membership => (batches.1 ++ [envelope], batches.2)) ([], [])

/-- The envelopes of each topic are published together, both topics whatever the first one does. -/
def publishBatch (router : RoutingPublisher Id) (envs : List (OutboundEnvelope Id)) :
    Option (PublishError Id) × List (Topic × List (OutboundEnvelope Id)) :=
  let (membershipBatch, tenantBatch) := split envs
  match membershipBatch, tenantBatch with
  | [], [] => (none, [])
  | _ :: _, [] => publishLane router.membership .membership membershipBatch
  | [], _ :: _ => publishLane router.tenant .tenant tenantBatch
  | _ :: _, _ :: _ =>
      let (membershipError, membershipCalls) :=
        publishLane router.membership .membership membershipBatch
      let failures := appendLaneFailures [] membershipBatch membershipError
      let (tenantError, tenantCalls) := publishLane router.tenant .tenant tenantBatch
      let failures := appendLaneFailures failures tenantBatch tenantError
      (if failures.isEmpty then none else some (.batch failures), membershipCalls ++ tenantCalls)

end RoutingPublisher

/-! ## Lanes -/

section Lanes

/-- The envelopes of a topic, in their order. -/
def laneOf (topic : Topic) (envs : List (OutboundEnvelope Id)) : List (OutboundEnvelope Id) :=
  envs.filter fun envelope => topicForEvent envelope.type = topic

theorem split_eq (envs : List (OutboundEnvelope Id)) :
    RoutingPublisher.split envs = (laneOf .membership envs, laneOf .tenant envs) := by
  -- the loop appends to what it has collected
  have collects : ∀ batches : List (OutboundEnvelope Id) × List (OutboundEnvelope Id),
      envs.foldl (fun batches envelope =>
        match topicForEvent envelope.type with
        | .tenant => (batches.1, batches.2 ++ [envelope])
        | .membership => (batches.1 ++ [envelope], batches.2)) batches =
      (batches.1 ++ laneOf .membership envs, batches.2 ++ laneOf .tenant envs) := by
    induction envs with
    | nil => simp [laneOf]
    | cons envelope envs ih =>
        intro batches
        rw [List.foldl_cons, ih]
        cases topic : topicForEvent envelope.type <;> simp [laneOf, topic]
  exact collects ([], [])

theorem mem_ids_iff {envs : List (OutboundEnvelope Id)} {id : Id} :
    id ∈ envs.map OutboundEnvelope.id ↔
      ∃ topic, id ∈ (laneOf topic envs).map OutboundEnvelope.id := by
  simp only [List.mem_map, laneOf, List.mem_filter, decide_eq_true_eq]
  constructor
  · rintro ⟨envelope, mem, rfl⟩
    exact ⟨_, envelope, ⟨mem, rfl⟩, rfl⟩
  · rintro ⟨_, envelope, ⟨mem, _⟩, rfl⟩
    exact ⟨envelope, mem, rfl⟩

/-- A batch without envelopes of one topic is the lane of the other. -/
theorem laneOf_eq_self {envs : List (OutboundEnvelope Id)} {topic other : Topic}
    (apart : topic ≠ other) (empty : laneOf other envs = []) : laneOf topic envs = envs := by
  apply List.filter_eq_self.mpr
  intro envelope mem
  have differs : topicForEvent envelope.type ≠ other := by
    simpa using List.filter_eq_nil_iff.mp empty envelope mem
  cases topic <;> cases other <;> cases here : topicForEvent envelope.type <;> simp_all

/-- With distinct ids an id is in one lane. -/
theorem topic_unique {envs : List (OutboundEnvelope Id)}
    (distinct : (envs.map OutboundEnvelope.id).Nodup) {id : Id} {first second : Topic}
    (inFirst : id ∈ (laneOf first envs).map OutboundEnvelope.id)
    (inSecond : id ∈ (laneOf second envs).map OutboundEnvelope.id) : first = second := by
  simp only [List.mem_map, laneOf, List.mem_filter, decide_eq_true_eq] at inFirst inSecond
  obtain ⟨envelope, ⟨mem, rfl⟩, rfl⟩ := inFirst
  obtain ⟨other, ⟨memOther, rfl⟩, same⟩ := inSecond
  rw [List.inj_on_of_nodup_map distinct mem memOther same.symm]

end Lanes

/-! ## Outcomes -/

section Outcomes

variable [DecidableEq Id] {envs batch : List (OutboundEnvelope Id)}

open RoutingPublisher

/-- The ids an outcome reports as published. -/
def published (batch : List (OutboundEnvelope Id)) : Option (PublishError Id) → List Id
  | none => batch.map OutboundEnvelope.id
  | some (.batch failures) =>
      (batch.map OutboundEnvelope.id).filter fun id => id ∉ failures.map BatchFailure.id
  | some (.plain _ _) => []

/-- The ids that the merged outcome lists for a lane. -/
def failedIDs (batch : List (OutboundEnvelope Id)) (error : Option (PublishError Id)) : List Id :=
  (appendLaneFailures [] batch error).map BatchFailure.id

omit [DecidableEq Id] in
theorem appendLaneFailures_eq (failures : List (BatchFailure Id))
    (error : Option (PublishError Id)) :
    appendLaneFailures failures batch error = failures ++ appendLaneFailures [] batch error := by
  rcases error with _ | ⟨listed⟩ | ⟨message, transient⟩ <;> simp [appendLaneFailures]

theorem mem_published_iff {error : Option (PublishError Id)} {id : Id} :
    id ∈ published batch error ↔
      id ∈ batch.map OutboundEnvelope.id ∧ id ∉ failedIDs batch error := by
  rcases error with _ | ⟨listed⟩ | ⟨message, transient⟩
  · simp [published, failedIDs, appendLaneFailures]
  · simp [published, failedIDs, appendLaneFailures]
  · simp [published, failedIDs, appendLaneFailures, Function.comp_def]

/-- A `BatchError` lists ids of its own batch. -/
def ListsOwn (batch : List (OutboundEnvelope Id)) (error : Option (PublishError Id)) : Prop :=
  ∀ failures, error = some (.batch failures) →
    ∀ failure ∈ failures, failure.id ∈ batch.map OutboundEnvelope.id

omit [DecidableEq Id] in
theorem ListsOwn.failed {error : Option (PublishError Id)} (own : ListsOwn batch error) {id : Id}
    (failed : id ∈ failedIDs batch error) : id ∈ batch.map OutboundEnvelope.id := by
  rcases error with _ | ⟨listed⟩ | ⟨message, transient⟩
  · simp [failedIDs, appendLaneFailures] at failed
  · simp only [failedIDs, appendLaneFailures, List.nil_append, List.mem_map] at failed
    obtain ⟨failure, mem, rfl⟩ := failed
    exact own listed rfl failure mem
  · simpa [failedIDs, appendLaneFailures] using failed

/-- The outcome of the lane of a topic. -/
def laneOutcome (router : RoutingPublisher Id) (topic : Topic)
    (envs : List (OutboundEnvelope Id)) : Option (PublishError Id) :=
  (publishLane (router.lane topic) topic (laneOf topic envs)).1

/-- The envelopes handed to the publisher of a topic, call after call. -/
def handedTo (topic : Topic) (calls : List (Topic × List (OutboundEnvelope Id))) :
    List (OutboundEnvelope Id) :=
  (calls.filter fun call => call.1 = topic).flatMap Prod.snd

omit [DecidableEq Id] in
theorem handedTo_publishLane {pub : Option (Publisher Id)} {topic other : Topic} :
    handedTo other (publishLane pub topic batch).2 =
      if other = topic then if pub.isSome then batch else [] else [] := by
  cases pub with
  | none => simp [publishLane, handedTo]
  | some publish =>
      by_cases same : topic = other
      · simp [publishLane, handedTo, same]
      · simp [publishLane, handedTo, same, Ne.symm same]

omit [DecidableEq Id] in
theorem handedTo_append {topic : Topic} {first second : List (Topic × List (OutboundEnvelope Id))} :
    handedTo topic (first ++ second) = handedTo topic first ++ handedTo topic second := by
  simp [handedTo]

/-- The ids reported for two lanes are those that neither lane lists. -/
theorem mem_published_merged {router : RoutingPublisher Id}
    (distinct : (envs.map OutboundEnvelope.id).Nodup)
    (own : ∀ topic, ListsOwn (laneOf topic envs) (laneOutcome router topic envs)) {id : Id} :
    (id ∈ envs.map OutboundEnvelope.id ∧
        ∀ topic, id ∉ failedIDs (laneOf topic envs) (laneOutcome router topic envs)) ↔
      ∃ topic, id ∈ published (laneOf topic envs) (laneOutcome router topic envs) := by
  simp only [mem_published_iff]
  constructor
  · rintro ⟨mem, unlisted⟩
    obtain ⟨topic, inLane⟩ := mem_ids_iff.mp mem
    exact ⟨topic, inLane, unlisted topic⟩
  · rintro ⟨topic, inLane, unlisted⟩
    refine ⟨mem_ids_iff.mpr ⟨topic, inLane⟩, fun other failed => ?_⟩
    -- an id that the other lane lists is in the other lane
    have same := topic_unique distinct inLane ((own other).failed failed)
    exact unlisted (same ▸ failed)

omit [DecidableEq Id] in
/-- A batch for one lane takes the outcome of that lane as it is. -/
theorem publishBatch_single {router : RoutingPublisher Id} {topic other : Topic}
    (apart : topic ≠ other) (empty : laneOf other envs = []) (nonempty : envs ≠ []) :
    router.publishBatch envs = publishLane (router.lane topic) topic (laneOf topic envs) := by
  have whole := laneOf_eq_self apart empty
  obtain ⟨envelope, rest, rfl⟩ := List.exists_cons_of_ne_nil nonempty
  rw [publishBatch, split_eq]
  cases topic <;> cases other <;> first | exact absurd rfl apart | simp only [whole, empty, lane]

omit [DecidableEq Id] in
/-- A batch for both lanes merges their outcomes. -/
theorem publishBatch_both (router : RoutingPublisher Id)
    (nonempty : ∀ topic, laneOf topic envs ≠ []) :
    ∃ failures, (router.publishBatch envs).1 =
        (if failures.isEmpty then none else some (.batch failures)) ∧
      failures.map BatchFailure.id =
        failedIDs (laneOf .membership envs) (laneOutcome router .membership envs) ++
          failedIDs (laneOf .tenant envs) (laneOutcome router .tenant envs) ∧
      (router.publishBatch envs).2 =
        (publishLane (router.lane .membership) .membership (laneOf .membership envs)).2 ++
          (publishLane (router.lane .tenant) .tenant (laneOf .tenant envs)).2 := by
  obtain ⟨first, members, memberLane⟩ := List.exists_cons_of_ne_nil (nonempty .membership)
  obtain ⟨second, tenants, tenantLane⟩ := List.exists_cons_of_ne_nil (nonempty .tenant)
  rw [publishBatch, split_eq]
  simp only [memberLane, tenantLane]
  refine ⟨_, rfl, ?_, rfl⟩
  rw [appendLaneFailures_eq, List.map_append]
  simp only [failedIDs, laneOutcome, lane, memberLane, tenantLane]

end Outcomes

open RoutingPublisher in
/-- A batch reports as published what its lanes report, and each lane is handed its envelopes
once and in their order. -/
theorem publishBatch_routes [DecidableEq Id] (router : RoutingPublisher Id)
    {envs : List (OutboundEnvelope Id)} (distinct : (envs.map OutboundEnvelope.id).Nodup)
    (own : ∀ topic, ListsOwn (laneOf topic envs) (laneOutcome router topic envs)) :
    (∀ id, id ∈ published envs (router.publishBatch envs).1 ↔
      ∃ topic, id ∈ published (laneOf topic envs) (laneOutcome router topic envs)) ∧
    ∀ topic, handedTo topic (router.publishBatch envs).2 =
      if (router.lane topic).isSome then laneOf topic envs else [] := by
  by_cases both : ∀ topic, laneOf topic envs ≠ []
  · obtain ⟨failures, merged, listed, calls⟩ := publishBatch_both router both
    constructor
    · intro id
      have reported : id ∈ published envs (router.publishBatch envs).1 ↔
          id ∈ envs.map OutboundEnvelope.id ∧ id ∉ failures.map BatchFailure.id := by
        rw [merged]
        cases failures with
        | nil => simp [published]
        | cons failure failures => simp [published]
      rw [reported, listed, ← mem_published_merged distinct own]
      refine and_congr_right fun _ => ?_
      rw [List.mem_append, not_or]
      constructor
      · rintro ⟨inMembership, inTenant⟩ (_ | _)
        · exact inMembership
        · exact inTenant
      · intro unlisted
        exact ⟨unlisted .membership, unlisted .tenant⟩
    · intro topic
      rw [calls, handedTo_append, handedTo_publishLane, handedTo_publishLane]
      cases topic <;> simp
  · simp only [not_forall, not_not] at both
    obtain ⟨other, empty⟩ := both
    obtain ⟨topic, apart⟩ : ∃ topic, topic ≠ other := by
      cases other
      · exact ⟨.tenant, nofun⟩
      · exact ⟨.membership, nofun⟩
    have whole := laneOf_eq_self apart empty
    have only : ∀ {lane : Topic}, lane ≠ topic → laneOf lane envs = [] := by
      intro lane differs
      have same : lane = other := by cases lane <;> cases other <;> cases topic <;> simp_all
      rw [same, empty]
    -- the other lane publishes nothing
    have missing : ∀ {lane : Topic}, lane ≠ topic →
        published (laneOf lane envs) (laneOutcome router lane envs) = [] := by
      intro lane differs
      apply List.eq_nil_iff_forall_not_mem.mpr
      intro id mem
      rw [mem_published_iff, only differs] at mem
      cases mem.1
    by_cases nothing : envs = []
    · subst nothing
      constructor
      · intro id
        constructor
        · intro mem
          cases mem
        · rintro ⟨topic, mem⟩
          cases (mem_published_iff.mp mem).1
      · intro lane
        exact (ite_self _).symm
    · rw [publishBatch_single apart empty nothing]
      constructor
      · intro id
        have reported : published envs (publishLane (router.lane topic) topic
            (laneOf topic envs)).1 =
              published (laneOf topic envs) (laneOutcome router topic envs) :=
          congrArg (published · _) whole.symm
        rw [reported]
        constructor
        · exact fun mem => ⟨topic, mem⟩
        · rintro ⟨lane, mem⟩
          by_cases same : lane = topic
          · exact same ▸ mem
          · rw [missing same] at mem
            cases mem
      · intro lane
        rw [handedTo_publishLane]
        by_cases same : lane = topic
        · rw [if_pos same, same]
        · rw [if_neg same, only same, ite_self]

namespace Routing

/-- Three envelopes for two topics. -/
def mixed : List (OutboundEnvelope Nat) :=
  [⟨1, "TenantCreated"⟩, ⟨2, "MembershipRevoked"⟩, ⟨3, "TrialStarted"⟩]

/-- The tenant lane fails for one envelope, and the membership lane is not wired. -/
def halfWired : RoutingPublisher Nat where
  membership := none
  tenant := some fun _ => some (.batch [⟨3, "Throttled", "slow down", true⟩])

/-- Only the envelope that the tenant lane has published is reported. -/
theorem mixed_routed :
    published mixed (halfWired.publishBatch mixed).1 = [1] ∧
      ∀ id, id ∈ published mixed (halfWired.publishBatch mixed).1 ↔
        ∃ topic, id ∈ published (laneOf topic mixed) (laneOutcome halfWired topic mixed) := by
  refine ⟨by decide, (publishBatch_routes halfWired (by decide) ?_).1⟩
  rintro (_ | _) failures here
  · cases here
  · cases here
    decide

end Routing

end OrgMembership

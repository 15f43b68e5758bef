import OrgMembership.Lifecycle.Patch

/-!
# The gates of the tenant routes

Every route under `/tenants/:id` passes three gates before its handler.  Each looks at the
request and at what one lookup returns, and lets the request go on or answers it.
-/

namespace OrgMembership.Http

/-- The identity that the gateway vouches for. -/
structure RequestContext where
  userID : Uuid
  tenantID : Uuid
  roles : List String
  deriving DecidableEq

/-- `RequestContext.HasRole`. -/
def RequestContext.hasRole (rc : RequestContext) (role : String) : Bool :=
  rc.roles.any (· = role)

/-- `RequestContext.IsOperator`. -/
def RequestContext.isOperator (rc : RequestContext) : Bool :=
  rc.hasRole "platform_operator"

/-- The principals that recover a tenant in any state. -/
def RequestContext.bypasses (rc : RequestContext) : Bool :=
  rc.hasRole "iam-system" || rc.isOperator

/-- What the gates look at in a request. -/
structure Request where
  method : String
  /-- The `:id` of the path. -/
  id : String
  identity : Option RequestContext
  deriving DecidableEq

/-- What a gate aborts a request with. -/
inductive Answer where
  /-- `HandleError` of a domain error. -/
  | problem (failure : Failure)
  /-- `problem.NewForbiddenError` -/
  | forbidden (detail : String)
  deriving DecidableEq

/-- What the gates ask, with errors of any kind. -/
structure Lookups (ε : Type) where
  parseUUID : String → Option Uuid
  /-- `errors.Is` -/
  errorIs : ErrorCode → ε → Bool
  findTenant : Uuid → Except ε Tenant
  findMembership : Uuid → Uuid → Except ε TenantMembership

variable {ε : Type}

/-- The tenant that the path names. -/
def parsePathTenant (lookups : Lookups ε) (raw : String) : Except Answer Uuid :=
  match lookups.parseUUID raw with
  | some id => .ok id
  | none =>
      .error (.problem (newErrorWith .validation "tenant id in path is not a valid UUID"
        [("code", .text "invalid_uuid")]))

/-- `RequirePathTenantMatch`: a caller stays in its own tenant. -/
def requirePathTenantMatch (lookups : Lookups ε) (request : Request) : Except Answer Unit := do
  let pathTenant ← parsePathTenant lookups request.id
  match request.identity with
  | none => .error (.problem (newError .missingIdentity "missing identity"))
  | some rc =>
      if rc.tenantID ≠ pathTenant then
        .error (.problem (newError .insufficientRole
          "tenant in path does not match the caller's tenant"))
      else
        .ok ()

/-- The methods that a cancelled tenant is refused. -/
def isWrite (method : String) : Bool :=
  method ≠ "GET" && method ≠ "HEAD" && method ≠ "OPTIONS"

/-- The verdict of `RequireActiveTenant` on a status. -/
def statusVerdict (method : String) : SubscriptionStatus → Except Answer Unit
  | .trialExpired => .error (.problem (newError .tenantTrialExpired
      "tenant trial has expired — no API access; reactivate via the emailed link (TRIAL-4)"))
  | .suspended => .error (.problem (newError .tenantSuspended "tenant is suspended"))
  | .offboarded => .error (.problem (newError .tenantNotFound "tenant not found"))
  | .cancelled =>
      if isWrite method then
        .error (.problem (newError .tenantReadOnly "cancelled tenant is read-only (§16 A53)"))
      else
        .ok ()
  | .trial | .active | .pastDue => .ok ()

/-- `RequireActiveTenant`: a lookup that fails answers the request. -/
def requireActiveTenant (lookups : Lookups ε) (request : Request) : Except Answer Unit :=
  match request.identity with
  | none => .ok ()
  | some rc =>
      if rc.bypasses then
        .ok ()
      else
        match lookups.findTenant rc.tenantID with
        | .error error =>
            if lookups.errorIs .tenantNotFound error then
              .error (.problem (newError .tenantNotFound "tenant not found"))
            else
              .error (.problem (newError .dbUnavailable "database unavailable — please retry"))
        | .ok tenant => statusVerdict request.method tenant.status

/-- `RequireActiveMembership`: a lookup that fails lets the request pass. -/
def requireActiveMembership (lookups : Lookups ε) (request : Request) : Except Answer Unit :=
  match request.identity with
  | none => .ok ()
  | some rc =>
      if rc.bypasses then
        .ok ()
      else
        match lookups.findMembership rc.tenantID rc.userID with
        | .error error =>
            if lookups.errorIs .memberNotFound error then
              .error (.forbidden "caller is not an active member of this tenant")
            else
              -- any other error is left to the handler
              .ok ()
        | .ok membership =>
            if membership.status ≠ .active then
              .error (.forbidden
                (if membership.status = .suspended then
                  "suspended members cannot access tenant APIs"
                else
                  "member is not an active member of this tenant"))
            else
              .ok ()

/-- The gates of the route group, in their order; a request that passes reaches its
handler. -/
def tenantGates (lookups : Lookups ε) (request : Request) : Except Answer Unit := do
  requirePathTenantMatch lookups request
  requireActiveTenant lookups request
  requireActiveMembership lookups request

/-! ## What a request that passes has shown -/

/-- The statuses in which a tenant may be used: a cancelled one is only read. -/
def Permits (method : String) (status : SubscriptionStatus) : Prop :=
  status = .trial ∨ status = .active ∨ status = .pastDue ∨
    status = .cancelled ∧ isWrite method = false

variable {lookups : Lookups ε} {request : Request} {rc : RequestContext}

/-- A chain of gates is passed one gate at a time. -/
theorem bind_ok_iff {α β : Type} {gate : Except Answer α} {rest : α → Except Answer β} {value : β} :
    gate >>= rest = .ok value ↔ ∃ seen, gate = .ok seen ∧ rest seen = .ok value := by
  cases gate with
  | error answer => exact iff_of_false nofun nofun
  | ok seen =>
      refine ⟨fun passes => ⟨seen, rfl, passes⟩, ?_⟩
      rintro ⟨_, ⟨⟩, passes⟩
      exact passes

theorem parsePathTenant_ok_iff {raw : String} {id : Uuid} :
    parsePathTenant lookups raw = .ok id ↔ lookups.parseUUID raw = some id := by
  rw [parsePathTenant]
  cases lookups.parseUUID raw <;> simp

theorem requirePathTenantMatch_ok_iff :
    requirePathTenantMatch lookups request = .ok () ↔
      ∃ rc, request.identity = some rc ∧ lookups.parseUUID request.id = some rc.tenantID := by
  rw [requirePathTenantMatch, bind_ok_iff]
  simp only [parsePathTenant_ok_iff]
  cases request.identity with
  | none => simp
  | some rc =>
      constructor
      · rintro ⟨pathTenant, parses, rest⟩
        have same : rc.tenantID = pathTenant := by simpa using rest
        exact ⟨rc, rfl, same ▸ parses⟩
      · rintro ⟨_, ⟨⟩, parses⟩
        exact ⟨_, parses, if_neg fun differs => differs rfl⟩

theorem statusVerdict_ok_iff {method : String} {status : SubscriptionStatus} :
    statusVerdict method status = .ok () ↔ Permits method status := by
  cases status <;> simp [statusVerdict, Permits]

theorem requireActiveTenant_ok_iff (identity : request.identity = some rc) :
    requireActiveTenant lookups request = .ok () ↔
      rc.bypasses = true ∨ ∃ tenant, lookups.findTenant rc.tenantID = .ok tenant ∧
        Permits request.method tenant.status := by
  simp only [requireActiveTenant, identity]
  cases rc.bypasses with
  | true => simp
  | false =>
      cases lookups.findTenant rc.tenantID with
      | error error => cases missing : lookups.errorIs .tenantNotFound error <;> simp [missing]
      | ok tenant => simp [statusVerdict_ok_iff]

/-- The caller's membership was read as active. -/
def ReadActive (lookups : Lookups ε) (rc : RequestContext) : Prop :=
  ∃ membership, lookups.findMembership rc.tenantID rc.userID = .ok membership ∧
    membership.status = .active

/-- The lookup of the caller's membership failed, and not because there is none. -/
def Unanswered (lookups : Lookups ε) (rc : RequestContext) : Prop :=
  ∃ error, lookups.findMembership rc.tenantID rc.userID = .error error ∧
    lookups.errorIs .memberNotFound error = false

theorem requireActiveMembership_ok_iff (identity : request.identity = some rc) :
    requireActiveMembership lookups request = .ok () ↔
      rc.bypasses = true ∨ ReadActive lookups rc ∨ Unanswered lookups rc := by
  simp only [requireActiveMembership, identity, ReadActive, Unanswered]
  cases rc.bypasses with
  | true => simp
  | false =>
      cases lookups.findMembership rc.tenantID rc.userID with
      | error error => cases missing : lookups.errorIs .memberNotFound error <;> simp [missing]
      | ok membership => simp

/-- What the gates demand of a request, with what they take as a membership. -/
def Admitted (vouched : RequestContext → Prop) (lookups : Lookups ε) (request : Request) : Prop :=
  ∃ rc, request.identity = some rc ∧ lookups.parseUUID request.id = some rc.tenantID ∧
    (rc.hasRole "iam-system" = true ∨ rc.isOperator = true ∨
      (∃ tenant, lookups.findTenant rc.tenantID = .ok tenant ∧
        Permits request.method tenant.status) ∧ vouched rc)

/-- The gates fail closed but for the membership: a caller whose lookup is not answered is let
through as well. -/
theorem tenantGates_fail_closed (lookups : Lookups ε) (request : Request) :
    tenantGates lookups request = .ok () ↔
      Admitted (fun rc => ReadActive lookups rc ∨ Unanswered lookups rc) lookups request := by
  rw [tenantGates, bind_ok_iff, Admitted]
  constructor
  · rintro ⟨_, matched, rest⟩
    obtain ⟨rc, identity, path⟩ := requirePathTenantMatch_ok_iff.mp matched
    obtain ⟨_, tenantActive, memberActive⟩ := bind_ok_iff.mp rest
    rw [requireActiveTenant_ok_iff identity] at tenantActive
    rw [requireActiveMembership_ok_iff identity] at memberActive
    refine ⟨rc, identity, path, ?_⟩
    rw [← or_assoc, ← Bool.or_eq_true]
    rcases tenantActive with bypasses | permits
    · exact .inl bypasses
    · exact memberActive.imp_right fun vouched => ⟨permits, vouched⟩
  · rintro ⟨rc, identity, path, admitted⟩
    rw [← or_assoc, ← Bool.or_eq_true] at admitted
    refine ⟨(), requirePathTenantMatch_ok_iff.mpr ⟨rc, identity, path⟩,
      bind_ok_iff.mpr ⟨(), ?_, ?_⟩⟩
    · exact (requireActiveTenant_ok_iff identity).mpr (admitted.imp_right And.left)
    · exact (requireActiveMembership_ok_iff identity).mpr (admitted.imp_right And.right)

/-- The lookups around a tenant in trial, with one answer for every membership. -/
def answering (membership : Except Failure TenantMembership) : Lookups Failure where
  parseUUID text := if text = "1" then some 1 else none
  errorIs := Failure.is
  findTenant _ := .ok trialRow
  findMembership _ _ := membership

/-- A request of the tenant's own administrator. -/
def memberRequest : Request :=
  ⟨"POST", "1", some ⟨7, 1, ["tenant_admin"]⟩⟩

/-- A connection that breaks under the membership lookup opens the gates to a caller with no
membership at all. -/
theorem tenantGates_open_on_error :
    tenantGates (answering (.error (.pg .connectionException))) memberRequest = .ok () ∧
      ¬Admitted (ReadActive (answering (.error (.pg .connectionException))))
        (answering (.error (.pg .connectionException))) memberRequest := by
  refine ⟨by decide, ?_⟩
  rintro ⟨rc, ⟨⟩, _, system | operator | ⟨_, _, found, _⟩⟩
  · exact absurd system (by decide)
  · exact absurd operator (by decide)
  · cases found

end OrgMembership.Http

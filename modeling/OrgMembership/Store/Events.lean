import Mathlib.Data.List.Sort
import OrgMembership.Store.Access

/-!
# Queries on events

The statements of the inbox, the parked events and the outbox.  Reading the
clock is a statement, so that time passes between the statements of a client,
and so is a request to the Realm Provisioner, which writes to its log; `settle`
and `sighted` are there for proofs only.
-/

namespace OrgMembership

open Relational

/-- `ORDER BY occurred_at, event_id`. -/
def ParkedTenantEvent.before (first second : ParkedTenantEvent) : Prop :=
  first.occurredAt < second.occurredAt ∨
    first.occurredAt = second.occurredAt ∧ first.eventID ≤ second.eventID

instance : DecidableRel ParkedTenantEvent.before :=
  fun _ _ => inferInstanceAs (Decidable (_ ∨ _ ∧ _))

/-- The statements of the inbox and the outbox, and what is asked outside the database. -/
inductive EventQuery
  | claimProcessed (eventID : Uuid)
  | lockTenantProvisioning (tenantID : Uuid)
  | park (tenantID : Uuid) (envelope : Envelope)
  | listForTenant (tenantID : Uuid)
  | claim (eventID : Uuid)
  | enqueue (event : DomainEvent)
  /-- `time.Now()`. -/
  | clock
  /-- A request to the Realm Provisioner. -/
  | realm (call : RealmCall)
  /-- The Realm Provisioner's answer, which may be lost. -/
  | answer
  /-- Record how an event was settled. -/
  | settle (entry : JournalEntry)
  /-- Whether the tenant has a row at this moment. -/
  | sighted (tenantID : Uuid)

/-- What they return. -/
abbrev EventQuery.Result : EventQuery → Type
  | claimProcessed _ => Bool
  | lockTenantProvisioning _ => Unit
  | park _ _ => Unit
  | listForTenant _ => List ParkedTenantEvent
  | claim _ => Bool
  | enqueue _ => Unit
  | clock => Int
  | realm _ => Unit
  | answer => Unit
  | settle _ => Unit
  | sighted _ => Bool

namespace EventQuery

/-- What each statement does. -/
def effect : (query : EventQuery) → Context → Db → DbEffect query.Result
  | claimProcessed eventID, context, db =>
      (processedAccess.insertRow db ⟨eventID, txNow context⟩ (·.eventID = eventID) none []).map
        Option.isSome
  | lockTenantProvisioning tenantID, _, _ => .advisory (.tenantProvisioning tenantID)
  | park tenantID envelope, context, db =>
      let row : ParkedTenantEvent :=
        { eventID := envelope.id, tenantID, occurredAt := pgTime envelope.timestamp, envelope,
          parkedAt := txNow context }
      (parkedAccess.insertRow db row (·.eventID = envelope.id) none []).map fun _ => ()
  | listForTenant tenantID, _, db =>
      .read ((db.parked.select fun row => row.tenantID = tenantID).insertionSort
        ParkedTenantEvent.before)
  | claim eventID, _, db =>
      (parkedAccess.deleteRow db eventID (fun _ => true) fun _ => none).map Option.isSome
  | enqueue event, _, _ =>
      ⟨.ok ((), [.publish event]), [⟨.outboxOrder event.tenantID event.subject, .update⟩], []⟩
  | clock, context, _ => .read context.now
  | realm call, _, _ => ⟨.ok ((), [.realm call]), [], []⟩
  | answer, _, _ => .read ()
  | settle entry, _, _ => ⟨.ok ((), [.settle entry]), [], []⟩
  | sighted tenantID, _, db => .read (db.tenants.find? tenantID).isSome

end EventQuery

end OrgMembership

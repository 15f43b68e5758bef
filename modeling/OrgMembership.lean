import OrgMembership.Concurrency.Program
import OrgMembership.Concurrency.Interleaving
import OrgMembership.Concurrency.RelyGuarantee
import OrgMembership.Concurrency.Solo
import OrgMembership.Relational.Table
import OrgMembership.Relational.Lock
import OrgMembership.Relational.Transaction
import OrgMembership.Relational.Logic
import OrgMembership.Relational.Effect
import OrgMembership.Relational.Discipline
import OrgMembership.Relational.Versioned
import OrgMembership.Relational.Solo
import OrgMembership.Domain.Types
import OrgMembership.Domain.Event
import OrgMembership.Domain.Error
import OrgMembership.Lifecycle.Patch
import OrgMembership.Lifecycle.Projection
import OrgMembership.Lifecycle.Totality
import OrgMembership.Lifecycle.Order
import OrgMembership.Lifecycle.Recency
import OrgMembership.Lifecycle.Relay
import OrgMembership.Eventbus.Routing
import OrgMembership.Store.Db
import OrgMembership.Store.Access
import OrgMembership.Store.Tenants
import OrgMembership.Store.Members
import OrgMembership.Store.Invitations
import OrgMembership.Store.Events
import OrgMembership.Store.Dialect
import OrgMembership.Store.Writes
import OrgMembership.Store.Discipline
import OrgMembership.Store.Unique
import OrgMembership.Versions.Content
import OrgMembership.Repository.Tenant
import OrgMembership.Repository.Member
import OrgMembership.Repository.Rules
import OrgMembership.Service.Membership
import OrgMembership.Service.Department
import OrgMembership.Service.Consumer
import OrgMembership.Service.Provisioning
import OrgMembership.Service.Invitation
import OrgMembership.Service.Jobs
import OrgMembership.Service.Footprint
import OrgMembership.Service.Calls
import OrgMembership.Service.Alone
import OrgMembership.Service.Projecting
import OrgMembership.Ownership.LastOwner
import OrgMembership.Grants.Backed
import OrgMembership.Inbox.Ledger
import OrgMembership.Inbox.Delivery
import OrgMembership.Inbox.Replay
import OrgMembership.Inbox.Clamp
import OrgMembership.Ownership.Escalation
import OrgMembership.Ownership.Marker
import OrgMembership.Seats.Occupancy
import OrgMembership.Seats.Booking
import OrgMembership.Seats.Acceptance
import OrgMembership.Seats.Cap
import OrgMembership.Seats.Overage
import OrgMembership.Seats.Signal
import OrgMembership.Seats.Reconcile
import OrgMembership.Trial.Cleanup
import OrgMembership.Trial.Length
import OrgMembership.Trial.Reactivation
import OrgMembership.Realm.Compensation
import OrgMembership.Redemption.Issue
import OrgMembership.Offboarding.Simulation
import OrgMembership.Offboarding.Terminal
import OrgMembership.Invitation.Admission
import OrgMembership.Invitation.Accounting
import OrgMembership.Departments.Assignable
import OrgMembership.Departments.Assignee
import OrgMembership.Departments.Holding
import OrgMembership.Departments.Resolution
import OrgMembership.Members.Removal
import OrgMembership.Authz.Departments
import OrgMembership.Authz.Coherence
import OrgMembership.Authz.Entitlements
import OrgMembership.Eventbus.GlueCodec
import OrgMembership.Http.Gates
import OrgMembership.Realm.Fields
import OrgMembership.Lifecycle.Retention
import OrgMembership.Lifecycle.Follower
import OrgMembership.Departments.Demotion
import OrgMembership.Service.Operator

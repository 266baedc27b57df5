import ManagedNode.Standard.Names
import ManagedNode.Topology.Dump
import ManagedNode.Topology.Storage
import ManagedNode.Broadcast.Forwarder
import ManagedNode.Machine.Lifetime
import ManagedNode.Machine.Summary
import ManagedNode.Service
import ManagedNode.Proofs.Topology.Lookup
import ManagedNode.Proofs.Topology.Edit
import ManagedNode.Proofs.Machine.Step
import ManagedNode.Proofs.Topology.Invariant
import ManagedNode.Proofs.Machine.Run
import ManagedNode.Proofs.Machine.Occupied
import ManagedNode.Proofs.Machine.Request
import ManagedNode.Proofs.Boundary.Broadcaster
import ManagedNode.Proofs.Service.Serving
import ManagedNode.Proofs.Service.Walk
import ManagedNode.Proofs.Service.Agreement
import ManagedNode.Proofs.Machine.Image
import ManagedNode.Proofs.Machine.Renewal
import ManagedNode.Proofs.Boundary.Custody
import ManagedNode.Proofs.Machine.BringUp
import ManagedNode.Proofs.Broadcast.Forwarder
import ManagedNode.Proofs.Broadcast.Relay
import ManagedNode.Proofs.Boundary.Epoch
import ManagedNode.Proofs.Machine.Lifecycle
import ManagedNode.Proofs.Service.Introspection
import ManagedNode.Proofs.Topology.Order
import ManagedNode.Proofs.Machine.Taking
import ManagedNode.Proofs.Service.Muted
import ManagedNode.Proofs.Service.Judgement
import ManagedNode.Proofs.Machine.Naming
import ManagedNode.Proofs.Topology.Registration
import ManagedNode.Proofs.Fault.Unwinding
import ManagedNode.Proofs.Machine.Failure
import ManagedNode.Proofs.Machine.Announcing
import ManagedNode.Proofs.Topology.Loading
import ManagedNode.Proofs.Topology.Stability
import ManagedNode.Proofs.Service.Gate
import ManagedNode.Proofs.Machine.Logging
import ManagedNode.Proofs.Fault.Retracing
import ManagedNode.Proofs.Topology.Dump
import ManagedNode.Proofs.Text.Loose
import ManagedNode.Proofs.Options.Reading

import BondedRelay.Coordinator
import BondedRelay.Config.Settings
import BondedRelay.Form.Config
import BondedRelay.Form.Connection
import BondedRelay.Form.Dispatch
import BondedRelay.Form.Request
import BondedRelay.Job.Outbox
import BondedRelay.Json.Document
import BondedRelay.Json.Writer
import BondedRelay.Rehearsal.Desk
import BondedRelay.Rehearsal.World
import BondedRelay.Spans
import BondedRelay.Tasks
import BondedRelay.Token.Fused
import BondedRelay.Token.Memory
import BondedRelay.Proofs.Bond.Faults
import BondedRelay.Proofs.Bond.Representation
import BondedRelay.Proofs.Coordinator.Atomic
import BondedRelay.Proofs.Coordinator.Custody
import BondedRelay.Proofs.Coordinator.DryRun
import BondedRelay.Proofs.Coordinator.ExactlyOnce
import BondedRelay.Proofs.Coordinator.Exclusion
import BondedRelay.Proofs.Coordinator.Primary
import BondedRelay.Proofs.Coordinator.Solvency
import BondedRelay.Proofs.Abi
import BondedRelay.Proofs.Job.Payload
import BondedRelay.Proofs.Coordinator.Delivered
import BondedRelay.Proofs.Dispatch.Recorded
import BondedRelay.Proofs.Ethereum.Calldata
import BondedRelay.Proofs.Dispatch.Dispatched
import BondedRelay.Proofs.Dispatch.Retries
import BondedRelay.Proofs.Coordinator.EventLog
import BondedRelay.Proofs.Coordinator.Refusal
import BondedRelay.Proofs.Operator.Attempt
import BondedRelay.Proofs.Operator.Tracking
import BondedRelay.Proofs.Operator.Dropped
import BondedRelay.Proofs.Operator.Reopened
import BondedRelay.Proofs.Coordinator.Permanence
import BondedRelay.Proofs.Operator.Missed
import BondedRelay.Proofs.Operator.Order
import BondedRelay.Proofs.Config.Document
import BondedRelay.Proofs.Job.Legible
import BondedRelay.Proofs.Job.Timeline
import BondedRelay.Proofs.Bond.Accounts
import BondedRelay.Proofs.Coordinator.Escalation
import BondedRelay.Proofs.Operator.Offer
import BondedRelay.Proofs.Config.Gas
import BondedRelay.Proofs.Dispatch.Estimate
import BondedRelay.Proofs.Pod.Schedule
import BondedRelay.Proofs.Token.Conservation
import BondedRelay.Proofs.Job.Outbox
import BondedRelay.Proofs.Dispatch.PriceRise
import BondedRelay.Proofs.Coordinator.Placement
import BondedRelay.Proofs.Config.Floor
import BondedRelay.Proofs.Json.Number
import BondedRelay.Proofs.Ethereum.Receipt
import BondedRelay.Proofs.Job.Identifier
import BondedRelay.Proofs.Job.Draws

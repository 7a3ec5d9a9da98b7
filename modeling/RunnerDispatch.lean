import RunnerDispatch.Label.Codec
import RunnerDispatch.Main
import RunnerDispatch.Proofs.Dispatch.Ledger
import RunnerDispatch.Proofs.Http.Acknowledgment
import RunnerDispatch.Proofs.Job.Message
import RunnerDispatch.Proofs.Operator.Delivery
import RunnerDispatch.Proofs.Queue.Refinement
import RunnerDispatch.Proofs.Routing.Respelling
import RunnerDispatch.Proofs.Routing.Shape
import RunnerDispatch.Proofs.Routing.Narrowing
import RunnerDispatch.Proofs.Routing.Revision
import RunnerDispatch.Proofs.Service.Transparency
import RunnerDispatch.Proofs.Dispatch.Isolation
import RunnerDispatch.Proofs.Http.Tally
import RunnerDispatch.Proofs.Service.Balance
import RunnerDispatch.Proofs.Service.Secrecy
import RunnerDispatch.Proofs.Webhook.Verdict
import RunnerDispatch.Proofs.Routing.Faults
import RunnerDispatch.Proofs.Settings.Validity
import RunnerDispatch.Proofs.Shutdown.Delivery
import RunnerDispatch.Proofs.Routing.Normalization
import RunnerDispatch.Proofs.Dispatch.Effects
import RunnerDispatch.Proofs.Json.Document
import RunnerDispatch.Proofs.Json.Fields
import RunnerDispatch.Proofs.Json.Pairs
import RunnerDispatch.Proofs.Webhook.Payload
import RunnerDispatch.Proofs.Routing.Listing
import RunnerDispatch.Proofs.Routing.Words
import RunnerDispatch.Proofs.Routing.Expansion
import RunnerDispatch.Proofs.Routing.Enumeration
import RunnerDispatch.Proofs.Operator.Addressing

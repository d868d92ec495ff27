import CallFlow.Proofs.Condition.Presence
import CallFlow.Proofs.Condition.Sides
import CallFlow.Proofs.Configuration
import CallFlow.Proofs.Flow.Reordering
import CallFlow.Proofs.Flow.Spelling
import CallFlow.Proofs.Model.Choices
import CallFlow.Proofs.Model.Messages
import CallFlow.Proofs.Model.Recovery
import CallFlow.Proofs.Path.Location
import CallFlow.Proofs.Resolution.Order
import CallFlow.Proofs.Service.TestCalls
import CallFlow.Proofs.Session.Commits
import CallFlow.Proofs.Session.Effort
import CallFlow.Proofs.Session.Lifecycle
import CallFlow.Proofs.Session.Log
import CallFlow.Proofs.Session.Pointer
import CallFlow.Proofs.Session.Silence
import CallFlow.Proofs.Session.Utterance
import CallFlow.Proofs.Session.Variables
import CallFlow.Proofs.Snippet.Inspection
import CallFlow.Proofs.Turn.Authority
import CallFlow.Proofs.Turn.Bound
import CallFlow.Proofs.Turn.Edges
import CallFlow.Proofs.Turn.Exits
import CallFlow.Proofs.Turn.Failed
import CallFlow.Proofs.Turn.Reads
import CallFlow.Proofs.Turn.Results
import CallFlow.Proofs.Turn.TimeLimits
import CallFlow.Proofs.Turn.Unbounded
import CallFlow.Proofs.Validation.Edges
import CallFlow.Proofs.Validation.Orphans
import CallFlow.Proofs.Web.Body
import CallFlow.Proofs.Yaml.Scalar
import CallFlow.Script
import CallFlow.Service

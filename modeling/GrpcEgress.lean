import GrpcEgress.Contract.Values
import GrpcEgress.Contract.Metadata
import GrpcEgress.Lib.RangeLoop
import GrpcEgress.Lib.Text
import GrpcEgress.Lib.Runs
import GrpcEgress.Lib.SerialHistory
import GrpcEgress.Lib.Walk
import GrpcEgress.Lib.Checked
import GrpcEgress.Lib.Setters
import GrpcEgress.Lib.Records
import GrpcEgress.Retry.Policy
import GrpcEgress.Retry.Classifier
import GrpcEgress.Retry.Loop
import GrpcEgress.Retry.Attempts
import GrpcEgress.Retry.Pauses
import GrpcEgress.Retry.Budget
import GrpcEgress.Retry.Calls
import GrpcEgress.Breaker.Machine
import GrpcEgress.Breaker.Client
import GrpcEgress.Breaker.Calls
import GrpcEgress.Breaker.Linearization
import GrpcEgress.Breaker.OpenCircuit
import GrpcEgress.Breaker.Evidence
import GrpcEgress.Breaker.Observed
import GrpcEgress.Interceptor.Chain
import GrpcEgress.Interceptor.Reply
import GrpcEgress.Interceptor.Stream
import GrpcEgress.Interceptor.Ending
import GrpcEgress.Breaker.Refinement
import GrpcEgress.Resilient.Requests
import GrpcEgress.Resilient.Observers
import GrpcEgress.Resilient.Stack
import GrpcEgress.Interceptor.Headers
import GrpcEgress.Identity.Context
import GrpcEgress.Cancellation.Sessions
import GrpcEgress.Lib.Panicking
import GrpcEgress.Builder.ChannelConfig
import GrpcEgress.Builder.Secure
import GrpcEgress.Builder.Order
import GrpcEgress.Health.RoundTrip
import GrpcEgress.Retry.Hint
import GrpcEgress.Builder.Dispatch
import GrpcEgress.Resilient.Load
import GrpcEgress.Auth.Bearer
import GrpcEgress.Builder.Configs
import GrpcEgress.Resilient.Config
import GrpcEgress.Resilient.Progress
import GrpcEgress.Resilient.Deployed
import GrpcEgress.Identity.Stacked
import GrpcEgress.Cancellation.Stacked
import GrpcEgress.Cancellation.Unreported
import GrpcEgress.Peer.Frames

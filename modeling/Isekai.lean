import Isekai.ReorderRunProofs
import Isekai.RnrProofs
import Isekai.SchedulerOrderProofs
import Isekai.PauseProofs
import Isekai.RouterMemoryProofs
import Isekai.FlowLabels
import Isekai.TimerRunProofs
import Isekai.XoffProofs
import Isekai.RoceSegmentation
import Isekai.RoceTimerProofs
import Isekai.RdmaDepthProofs
import Isekai.InterHostRxProofs
import Isekai.ImplicitAckProofs
import Isekai.EarlyRetransmissionProofs
import Isekai.RoceNakProofs
import Isekai.RoceAckProofs
import Isekai.BaseCountProofs
import Isekai.EligibilityProofs
import Isekai.EarlyRetransmissionLimits
import Isekai.NackLoopProofs
import Isekai.AckObligationProofs
import Isekai.ResourceCreditsProofs
import Isekai.TransactionLengthProofs
import Isekai.SwiftGuardProofs
import Isekai.RoundSharesProofs
import Isekai.PortSelection
import Isekai.NetAddress
import Isekai.IPTableProofs
import Isekai.EarlyDetection
import Isekai.RueTimes
import Isekai.EgressAccounting
import Isekai.CreditCheckRuns
import Isekai.OpCompletionRuns
import Isekai.EventLoopRuns
import Isekai.BitmapHoles
import Isekai.HostWriteSizes
import Isekai.TokenBucketProofs
import Isekai.DcqcnTimerProofs
import Isekai.TrafficShaperProofs
import Isekai.PacketBuilderLoops
import Isekai.RoceSchedulerRuns
import Isekai.IncomingSends

import UdsRs.Uds.ReadDataByIdentifier.Offsets
import UdsRs.Uds.SendAndReceive.Decisive
import UdsRs.Uds.SendAndReceive.Discipline
import UdsRs.Uds.SendAndReceive.RejectedSid
import UdsRs.Uds.SendAndReceive.RetryLimit
import UdsRs.Uds.ServiceCall.Canonical
import UdsRs.Uds.ServiceCall.Causes
import UdsRs.Uds.ServiceCall.DtcList
import UdsRs.Uds.ServiceCall.Echo
import UdsRs.Uds.ServiceCall.FixedLayout
import UdsRs.Uds.ServiceCall.MemoryRead
import UdsRs.Uds.ServiceCall.Serialise
import UdsRs.Uds.ServiceCall.Wire
import UdsRs.Uds.Interleaved
import UdsRs.Uds.Interleaved.Retransmissions
import UdsRs.Uds.Interleaved.Progress
import UdsRs.Uds.Session
import UdsRs.Uds.Session.Executed
import UdsRs.Uds.Session.ReadBack
import UdsRs.Uds.Session.InStep

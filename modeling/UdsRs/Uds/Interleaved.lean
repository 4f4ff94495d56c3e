import UdsRs.Uds.SendAndReceive.Decisive
import UdsRs.Uds.ServiceCall.Suspended

namespace uds_rs.uds

open async_sock lts rust TryFromPrimitive UdsClient Stage

namespace ServiceCall

end ServiceCall

namespace ClientNet

open ServiceCall

variable {ι : Type} {overflow_checks : Bool} {calls : ι → ServiceCall}
  {Answers : Packet → List Packet → Prop} {acts : List (Action ι Packet)} {s : ClientNet ι}

variable [DecidableEq ι]

end ClientNet

end uds_rs.uds

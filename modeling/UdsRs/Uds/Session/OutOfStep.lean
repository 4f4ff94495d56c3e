import UdsRs.AsyncSock.InFlight
import UdsRs.Uds.Interleaved.Unread
import UdsRs.Uds.Session

namespace uds_rs.uds.ClientNet

open async_sock lts rust NegativeResponseCode UdsClient Stage

section Own

variable {ι : Type} [DecidableEq ι] {overflow_checks : Bool} {calls : ι → ServiceCall}
  {acts : List (Action ι Packet)} {s : ClientNet ι}

end Own

variable {overflow_checks : Bool} {calls : ℕ → ServiceCall} {s t : ClientNet ℕ}
  {a : Action ℕ Packet} {acts acts' : List (Action ℕ Packet)} {k o : ℕ}

end uds_rs.uds.ClientNet

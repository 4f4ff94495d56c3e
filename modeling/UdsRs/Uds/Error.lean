import UdsRs.Uds.Definitions

namespace uds_rs.uds

open rust

inductive UdsCommunicationError where
  | FailedToFindCanDevice
  | SocketCanIOError
  | StdIOError
  | GeneralError
  | NotImplementedError
  | SocketCreationError
  deriving DecidableEq, Repr

structure NrcData where
  rejected_sid : UInt8
  nrc : NegativeResponseCode
  deriving DecidableEq, Repr

inductive UdsError where
  | SidMismatch (expected received : UInt8) (raw_message : Packet)
  | DidMismatch (expected received : UInt16) (raw_message : Packet)
  | InvalidLength (raw_message : Packet)
  | NRC (nrc : NrcData)
  | UnknownNRC (rejected_sid unknown_nrc : UInt8)
  | ResponseEmpty
  | UnsupportedSubfunction (unsupported_subfunction : UInt8)
  | InvalidArgument
  | ResponseIncorrect (raw_message : Packet)
  | NotImplemented
  | RequestEmpty
  | CommunicationError (error : UdsCommunicationError)
  deriving DecidableEq, Repr

/-- The `?` on a socket operation, through `impl From<UdsCommunicationError> for
UdsError`: a failed operation ends the call with that error. -/
def from_communication {α : Type} (r : Except UdsCommunicationError α) : Outcome UdsError α :=
  map_err r .CommunicationError

@[simp] theorem from_communication_ok {α : Type} (a : α) : from_communication (.ok a) = .ok a := rfl

@[simp] theorem from_communication_error {α : Type} (e : UdsCommunicationError) :
    (from_communication (.error e) : Outcome UdsError α) = err (.CommunicationError e) := rfl

end uds_rs.uds

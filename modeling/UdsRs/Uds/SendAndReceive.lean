import UdsRs.AsyncSock.Future
import UdsRs.Rust.Int
import UdsRs.Uds.Error

namespace uds_rs.uds

open async_sock rust

/-- The `async` functions of the client, which suspend at the operations of its one
socket. Whether the task is resumed is not their concern: a run may stop anywhere.
-/
abbrev UdsFuture (α : Type) : Type := Future Packet UdsCommunicationError (Stop UdsError) α

namespace UdsSocket

def send (payload : Packet) : UdsFuture (Except UdsCommunicationError Unit) :=
  .send payload fun r => pure r

def receive : UdsFuture (Except UdsCommunicationError Packet) :=
  .receive fun r => pure r

/-- `tokio::time::timeout(Duration::from_millis(millis), self.socket.receive())`.
The timer may expire at any time, whether or not a packet is on its way. -/
def receive_timeout (millis : Nat) : UdsFuture (Option (Except UdsCommunicationError Packet)) :=
  .receive_within millis fun r => pure r

end UdsSocket

def parse_for_error (raw_response : Packet) : Outcome UdsError Unit := do
  let (sid, response_iter) ← ok_or (next raw_response) .ResponseEmpty
  if sid ≠ NEGATIVE_RESPONSE_SID then
    return ()
  let (rejected_sid, response_iter) ← ok_or (next response_iter) .ResponseEmpty
  let (byte, _) ← ok_or (next response_iter) .ResponseEmpty
  let nrc ← map_err (try_from_primitive byte) fun e => .UnknownNRC rejected_sid e.number
  err (.NRC ⟨rejected_sid, nrc⟩)

namespace UdsClient

/-- The `while let Err(e) = parse_for_error(&raw_response)` loop and the
`Ok(raw_response)` after it. With `overflow_checks` an overflowing `retry_counter -=
1` panics, without it the counter wraps. The loop ends because the distance of the
counter to zero shrinks, through the wrap-around if need be. -/
def send_and_receive_loop (overflow_checks : Bool) (request : Packet)
    (retry_counter : Int32) (raw_response : Packet) : UdsFuture Packet :=
  match parse_for_error raw_response with
  | .ok () => pure raw_response
  | .error (.err (.NRC nrc)) => do
    let request_sid ← (index request 0 : Outcome UdsError UInt8)
    if nrc.rejected_sid ≠ request_sid then
      (err (.SidMismatch request_sid nrc.rejected_sid raw_response) : Outcome UdsError Packet)
    else
      match nrc.nrc with
      | .BusyRepeatRequest =>
        match _hsub : (i32_sub overflow_checks retry_counter 1 : Outcome UdsError Int32) with
        | .error stop => .ready (.error stop)
        | .ok retry_counter' =>
          if _hzero : retry_counter' = 0 then
            (err (.NRC nrc) : Outcome UdsError Packet)
          else do
            from_communication (← UdsSocket.send request)
            let raw_response' ← from_communication (← UdsSocket.receive)
            send_and_receive_loop overflow_checks request retry_counter' raw_response'
      | .RequestCorrectlyReceivedResponsePending => do
        -- `break`: the delayed response leaves the loop without another `parse_for_error`
        match ← UdsSocket.receive_timeout 2500 with
        | some delayed_response => from_communication delayed_response
        | none => (err (.NRC nrc) : Outcome UdsError Packet)
      | _ => (err (.NRC nrc) : Outcome UdsError Packet)
  | .error stop => .ready (.error stop)
termination_by (retry_counter - 1).toBitVec.toNat
decreasing_by exact i32_sub_one_lt ‹_› ‹_›

def send_and_receive (overflow_checks : Bool) (request : Packet) : UdsFuture Packet := do
  if request.isEmpty then
    (err .RequestEmpty : Outcome UdsError Packet)
  else
    from_communication (← UdsSocket.send request)
    let raw_response ← from_communication (← UdsSocket.receive)
    send_and_receive_loop overflow_checks request 0 raw_response

end UdsClient

end uds_rs.uds

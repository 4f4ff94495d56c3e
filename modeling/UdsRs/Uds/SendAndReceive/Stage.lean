import UdsRs.AsyncSock.Machine
import UdsRs.Uds.SendAndReceive.Verdict

namespace uds_rs.uds

open async_sock lts rust NegativeResponseCode UdsClient

/-- Where an exchange of a non-empty request is suspended, or what it returned.
There are three such places, and between two of them `send_and_receive` only judges
the packet it has just received. -/
inductive Stage where
  | sending (retry_counter : Int32)
  | receiving (retry_counter : Int32)
  | waiting
  | returned (result : Outcome UdsError Packet)
  deriving DecidableEq

namespace Stage

/-- Where the loop gets to after receiving `raw`: back to the send, on to the
receive under the timer, or out. -/
def judge (overflow_checks : Bool) (sid : UInt8) (retry_counter : Int32) (raw : Packet) : Stage :=
  match verdict sid raw with
  | .accept => returned (.ok raw)
  | .reject e => returned (err e)
  | .pending => waiting
  | .busy =>
    match i32_sub overflow_checks retry_counter 1 with
    | .error stop => returned (.error stop)
    | .ok retry_counter' =>
      if retry_counter' = 0 then returned (err (.NRC ⟨sid, BusyRepeatRequest⟩))
      else sending retry_counter'

/-- One completed socket operation of an exchange, successful or not, and the
judgement of what it received. -/
inductive Step (overflow_checks : Bool) (sid : UInt8) (data : Packet) :
    Stage → Event Packet UdsCommunicationError → Stage → Prop where
  | sent (retry_counter : Int32) :
      Step overflow_checks sid data (sending retry_counter) (.sent (sid :: data) (.ok ()))
        (receiving retry_counter)
  | send_failed (retry_counter : Int32) (e : UdsCommunicationError) :
      Step overflow_checks sid data (sending retry_counter) (.sent (sid :: data) (.error e))
        (returned (err (.CommunicationError e)))
  | received (retry_counter : Int32) (raw : Packet) :
      Step overflow_checks sid data (receiving retry_counter) (.received (.ok raw))
        (judge overflow_checks sid retry_counter raw)
  | receive_failed (retry_counter : Int32) (e : UdsCommunicationError) :
      Step overflow_checks sid data (receiving retry_counter) (.received (.error e))
        (returned (err (.CommunicationError e)))
  | delayed (raw : Packet) :
      Step overflow_checks sid data waiting (.waited (some (.ok raw))) (returned (.ok raw))
  | wait_failed (e : UdsCommunicationError) :
      Step overflow_checks sid data waiting (.waited (some (.error e)))
        (returned (err (.CommunicationError e)))
  | expired :
      Step overflow_checks sid data waiting (.waited none)
        (returned (err (.NRC ⟨sid, RequestCorrectlyReceivedResponsePending⟩)))

/-- The rest of `send_and_receive` from each place, in the words of the source. -/
def future (overflow_checks : Bool) (sid : UInt8) (data : Packet) : Stage → UdsFuture Packet
  | sending retry_counter => do
    from_communication (← UdsSocket.send (sid :: data))
    let raw_response ← from_communication (← UdsSocket.receive)
    send_and_receive_loop overflow_checks (sid :: data) retry_counter raw_response
  | receiving retry_counter => do
    let raw_response ← from_communication (← UdsSocket.receive)
    send_and_receive_loop overflow_checks (sid :: data) retry_counter raw_response
  | waiting => do
    match ← UdsSocket.receive_timeout 2500 with
    | some delayed_response => from_communication delayed_response
    | none =>
      (err (.NRC ⟨sid, RequestCorrectlyReceivedResponsePending⟩) : Outcome UdsError Packet)
  | returned result => .ready result

variable {overflow_checks : Bool} {sid : UInt8} {data : Packet}

theorem send_and_receive_eq_future :
    send_and_receive overflow_checks (sid :: data) = future overflow_checks sid data (sending 0) := rfl

theorem loop_eq_judge (retry_counter : Int32) (raw : Packet) :
    send_and_receive_loop overflow_checks (sid :: data) retry_counter raw =
      future overflow_checks sid data (judge overflow_checks sid retry_counter raw) := by
  rw [send_and_receive_loop]
  rcases packet_cases raw with
    rfl | ⟨first, rest, hfirst, rfl⟩ | rfl | ⟨rejected_sid, rfl⟩ | ⟨rejected_sid, code, rest, rfl⟩
  · rfl
  · simp [parse_for_error_positive hfirst, judge, verdict, hfirst, future]
  · rfl
  · rfl
  · rw [parse_for_error_negative]
    cases hcode : (try_from_primitive code : Except _ NegativeResponseCode) with
    | error e => simp [judge, verdict, hcode, future, err]
    | ok nrc =>
      by_cases hsid : rejected_sid = sid
      · subst hsid
        by_cases hbusy : nrc = BusyRepeatRequest
        · subst hbusy
          cases hsub : (i32_sub overflow_checks retry_counter 1 : Outcome UdsError Int32) with
          | error stop => simp [judge, verdict, hcode, future, err, hsub]
          | ok retry_counter' =>
            by_cases hzero : retry_counter' = 0
            · simp [judge, verdict, hcode, future, err, hsub, hzero]
            · simp [judge, verdict, hcode, future, err, hsub, hzero]
        · by_cases hpending : nrc = RequestCorrectlyReceivedResponsePending
          · subst hpending
            simp only [judge, verdict, hcode, err, index_cons_zero, Future.liftM_eq,
              Future.ready_ok_bind, ne_eq, not_true_eq_false, reduceIte, hbusy]
            rfl
          · simp [judge, verdict, hcode, future, err, hbusy, hpending]
      · simp [judge, verdict, hcode, future, err, hsid]

theorem represents (overflow_checks : Bool) (sid : UInt8) (data : Packet) :
    Represents (Step overflow_checks sid data) (future overflow_checks sid data) := by
  intro s e g
  cases s with
  | sending retry_counter =>
    apply steps_send_one_iff.trans
    constructor
    · rintro ⟨r, rfl, rfl⟩
      cases r with
      | ok => exact ⟨_, .sent retry_counter, rfl⟩
      | error e => exact ⟨_, .send_failed retry_counter e, rfl⟩
    · rintro ⟨t, hstep, rfl⟩
      cases hstep with
      | sent => exact ⟨_, rfl, rfl⟩
      | send_failed => exact ⟨_, rfl, rfl⟩
  | receiving retry_counter =>
    apply steps_receive_one_iff.trans
    constructor
    · rintro ⟨r, rfl, rfl⟩
      cases r with
      | ok raw => exact ⟨_, .received retry_counter raw, loop_eq_judge retry_counter raw⟩
      | error e => exact ⟨_, .receive_failed retry_counter e, rfl⟩
    · rintro ⟨t, hstep, rfl⟩
      cases hstep with
      | received _ raw => exact ⟨_, rfl, (loop_eq_judge retry_counter raw).symm⟩
      | receive_failed => exact ⟨_, rfl, rfl⟩
  | waiting =>
    apply steps_receive_within_one_iff.trans
    constructor
    · rintro ⟨r, rfl, rfl⟩
      rcases r with _ | e | raw
      · exact ⟨_, .expired, rfl⟩
      · exact ⟨_, .wait_failed e, rfl⟩
      · exact ⟨_, .delayed raw, rfl⟩
    · rintro ⟨t, hstep, rfl⟩
      cases hstep with
      | delayed => exact ⟨_, rfl, rfl⟩
      | wait_failed => exact ⟨_, rfl, rfl⟩
      | expired => exact ⟨_, rfl, rfl⟩
  | returned result =>
    constructor
    · exact fun h => absurd h not_steps_ready_one
    · rintro ⟨t, hstep, -⟩
      cases hstep

/-- Every run of `send_and_receive` is a run through the places, and conversely, so
that invariants of the places are proved by looking at single operations. -/
theorem steps_iff {es : List (Event Packet UdsCommunicationError)} {g : UdsFuture Packet} :
    Steps (send_and_receive overflow_checks (sid :: data)) es g ↔
      ∃ s, Reach (Step overflow_checks sid data) (sending 0) es s ∧
        g = future overflow_checks sid data s :=
  send_and_receive_eq_future ▸ (represents overflow_checks sid data).steps_iff (sending 0) es g

theorem returns_iff {es : List (Event Packet UdsCommunicationError)}
    {result : Outcome UdsError Packet} :
    Returns (send_and_receive overflow_checks (sid :: data)) es result ↔
      Reach (Step overflow_checks sid data) (sending 0) es (returned result) := by
  refine steps_iff.trans ⟨?_, fun h => ⟨_, h, rfl⟩⟩
  rintro ⟨s, hreach, hfuture⟩
  cases s with
  | returned => exact (Future.ready.inj hfuture) ▸ hreach
  | sending => cases hfuture
  | receiving => cases hfuture
  | waiting => cases hfuture

end Stage

end uds_rs.uds

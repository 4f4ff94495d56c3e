import UdsRs.Uds.SendAndReceive.RetryCounter

namespace uds_rs.uds.Stage

open async_sock rust NegativeResponseCode UdsClient

variable {overflow_checks : Bool} {sid : UInt8} {data : Packet}

theorem serve_sending (retry_counter : Int32) (raw : Packet) (stream : Stream' Packet) :
    serve (future overflow_checks sid data (sending retry_counter)) (Stream'.cons raw stream) =
      serve (future overflow_checks sid data (judge overflow_checks sid retry_counter raw)) stream :=
  congrArg (serve · stream) (loop_eq_judge retry_counter raw)

theorem transmissions_sending (retry_counter : Int32) (raw : Packet) (stream : Stream' Packet) :
    transmissions
        (transcript (future overflow_checks sid data (sending retry_counter)) (Stream'.cons raw stream)) =
      (sid :: data) :: transmissions
        (transcript (future overflow_checks sid data (judge overflow_checks sid retry_counter raw))
          stream) := by
  rw [← loop_eq_judge]
  rfl

variable (data)

/-- Every busy answer below the limit is passed over after one more request. -/
theorem serve_busy {n : Nat} {busy : List Packet} (hbusy : ∀ raw ∈ busy, Busy sid raw)
    (hlimit : n + busy.length < retry_limit overflow_checks) (stream : Stream' Packet) :
    serve (future overflow_checks sid data (sending (i32_neg n))) (busy ++ₛ stream) =
      serve (future overflow_checks sid data (sending (i32_neg (n + busy.length)))) stream ∧
    transmissions
        (transcript (future overflow_checks sid data (sending (i32_neg n))) (busy ++ₛ stream)) =
      List.replicate busy.length (sid :: data) ++ transmissions
        (transcript (future overflow_checks sid data (sending (i32_neg (n + busy.length)))) stream) := by
  induction busy generalizing n with
  | nil => exact ⟨rfl, rfl⟩
  | cons raw busy ih =>
    have hlength : n + (raw :: busy).length = n + 1 + busy.length := by
      rw [List.length_cons]
      omega
    rw [hlength] at hlimit ⊢
    have hjudge : judge overflow_checks sid (i32_neg n) raw = sending (i32_neg (n + 1)) := by
      rw [judge_busy (by omega) (hbusy raw List.mem_cons_self), if_neg (by omega)]
    obtain ⟨hserve, hsends⟩ := ih (fun p hp => hbusy p (List.mem_cons_of_mem raw hp)) hlimit
    rw [Stream'.cons_append_stream, serve_sending, transmissions_sending, hjudge, hsends]
    exact ⟨hserve, by simp [List.replicate_succ]⟩

theorem judge_accept {raw : Packet} (h : verdict sid raw = .accept) (retry_counter : Int32) :
    judge overflow_checks sid retry_counter raw = returned (.ok raw) := by
  simp only [judge, h]

theorem judge_reject {raw : Packet} {e : UdsError} (h : verdict sid raw = .reject e)
    (retry_counter : Int32) :
    judge overflow_checks sid retry_counter raw = returned (err e) := by
  simp only [judge, h]

theorem judge_pending {raw : Packet} (h : Pending sid raw) (retry_counter : Int32) :
    judge overflow_checks sid retry_counter raw = waiting := by
  simp only [judge, verdict_eq_pending_iff.mpr h]

/-- The first packet that is not busy is judged after one request for each busy
answer and one for the packet itself. -/
theorem serve_judged {busy : List Packet} (hbusy : ∀ raw ∈ busy, Busy sid raw)
    (hlimit : busy.length < retry_limit overflow_checks) (raw : Packet) (stream : Stream' Packet) :
    serve (send_and_receive overflow_checks (sid :: data)) (busy ++ₛ Stream'.cons raw stream) =
      serve (future overflow_checks sid data
        (judge overflow_checks sid (i32_neg busy.length) raw)) stream ∧
    transmissions (transcript (send_and_receive overflow_checks (sid :: data))
        (busy ++ₛ Stream'.cons raw stream)) =
      List.replicate (busy.length + 1) (sid :: data) ++ transmissions
        (transcript (future overflow_checks sid data
          (judge overflow_checks sid (i32_neg busy.length) raw)) stream) := by
  have hzero : (0 : Int32) = i32_neg 0 := rfl
  have hlength : 0 + busy.length = busy.length := Nat.zero_add _
  have hbound : 0 + busy.length < retry_limit overflow_checks := hlength.symm ▸ hlimit
  obtain ⟨hserve, hsends⟩ := serve_busy data hbusy hbound (Stream'.cons raw stream)
  rw [hlength] at hserve hsends
  rw [send_and_receive_eq_future, hzero, hserve, hsends, serve_sending, transmissions_sending]
  exact ⟨rfl, by simp [List.replicate_succ']⟩

theorem serve_returned {busy : List Packet} (hbusy : ∀ raw ∈ busy, Busy sid raw)
    (hlimit : busy.length < retry_limit overflow_checks) {raw : Packet}
    {result : Outcome UdsError Packet}
    (hjudge : ∀ retry_counter, judge overflow_checks sid retry_counter raw = returned result)
    (stream : Stream' Packet) :
    serve (send_and_receive overflow_checks (sid :: data)) (busy ++ₛ Stream'.cons raw stream) =
      result ∧
    transmissions (transcript (send_and_receive overflow_checks (sid :: data))
        (busy ++ₛ Stream'.cons raw stream)) =
      List.replicate (busy.length + 1) (sid :: data) := by
  obtain ⟨hserve, hsends⟩ := serve_judged data hbusy hlimit raw stream
  rw [hserve, hsends, hjudge]
  exact ⟨rfl, by simp [future]⟩

/-- Whatever follows a pending answer is handed out as it is, and no more is read
from the stream. -/
theorem serve_pending {busy : List Packet} (hbusy : ∀ raw ∈ busy, Busy sid raw)
    (hlimit : busy.length < retry_limit overflow_checks) {raw : Packet} (hpending : Pending sid raw)
    (delayed : Packet) (stream : Stream' Packet) :
    serve (send_and_receive overflow_checks (sid :: data))
      (busy ++ₛ Stream'.cons raw (Stream'.cons delayed stream)) = .ok delayed := by
  obtain ⟨hserve, -⟩ :=
    serve_judged data hbusy hlimit raw (Stream'.cons delayed stream)
  rw [hserve, judge_pending hpending]
  rfl

end uds_rs.uds.Stage

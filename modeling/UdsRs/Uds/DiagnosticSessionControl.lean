import UdsRs.Rust.Bytes
import UdsRs.Uds.Response
import UdsRs.Uds.SendAndReceive

namespace uds_rs.uds

open rust

def compose_diagnostic_session_control_request (session_id : UInt8) : Packet :=
  [DIAGNOSTIC_SESSION_CONTROL_SID, session_id]

def parse_diagnostic_session_control_response (raw_response : Packet) : EcuResponseResult := do
  let (sid, response_iter) ← ok_or (next raw_response) .ResponseEmpty
  if sid ≠ DIAGNOSTIC_SESSION_CONTROL_SID + SEND_RECEIVE_SID_OFFSET then
    err (.SidMismatch (DIAGNOSTIC_SESSION_CONTROL_SID + SEND_RECEIVE_SID_OFFSET) sid raw_response)
  else
    let (session, response_iter) ← ok_or (next response_iter) (.InvalidLength raw_response)
    let (p2_hi, response_iter) ← ok_or (next response_iter) (.InvalidLength raw_response)
    let (p2_lo, response_iter) ← ok_or (next response_iter) (.InvalidLength raw_response)
    let (p2s_hi, response_iter) ← ok_or (next response_iter) (.InvalidLength raw_response)
    let (p2s_lo, _) ← ok_or (next response_iter) (.InvalidLength raw_response)
    let p2 := u16_from_bytes p2_hi p2_lo
    let p2_star := u16_from_bytes p2s_hi p2s_lo
    return .DiagnosticSessionControl (.Parsed { session, p2, p2_star })

def UdsClient.diagnostic_session_control (overflow_checks : Bool) (session_id : UInt8) :
    UdsFuture UdsResponse := do
  let request := compose_diagnostic_session_control_request session_id
  let raw_response ← send_and_receive overflow_checks request
  parse_diagnostic_session_control_response raw_response

/-- The parser reads six bytes and accepts anything after them; the session it reads
is not compared with the one requested. -/
theorem parse_diagnostic_session_control_response_eq_ok_iff {raw : Packet} {v : UdsResponse} :
    parse_diagnostic_session_control_response raw = .ok v ↔
      ∃ session p2_hi p2_lo p2s_hi p2s_lo rest,
        raw = 0x50 :: session :: p2_hi :: p2_lo :: p2s_hi :: p2s_lo :: rest ∧
          v = .DiagnosticSessionControl (.Parsed
            ⟨session, u16_from_bytes p2_hi p2_lo, u16_from_bytes p2s_hi p2s_lo⟩) := by
  have hsid : DIAGNOSTIC_SESSION_CONTROL_SID + SEND_RECEIVE_SID_OFFSET = 0x50 := rfl
  rcases raw with _ | ⟨sid, rest⟩
  · simp [parse_diagnostic_session_control_response]
  · by_cases h : sid = 0x50
    · subst h
      rcases rest with _ | ⟨a, _ | ⟨b, _ | ⟨c, _ | ⟨d, _ | ⟨e, rest⟩⟩⟩⟩⟩ <;>
        simp [parse_diagnostic_session_control_response, hsid, eq_comm]
    · simp [parse_diagnostic_session_control_response, hsid, h]

end uds_rs.uds

import UdsRs.Rust.Bytes
import UdsRs.Uds.Response
import UdsRs.Uds.SendAndReceive

namespace uds_rs.uds

open rust

def compose_clear_diagnostic_information_request (group_of_dtc : UInt32) : Packet :=
  [CLEAR_DIAGNOSTIC_INFORMATION_SID, u32_high group_of_dtc, u32_middle group_of_dtc,
    u32_low group_of_dtc]

def parse_clear_diagnostic_information_response (raw_response : Packet) : EcuResponseResult := do
  let (sid, _) ← ok_or (next raw_response) .ResponseEmpty
  if sid ≠ CLEAR_DIAGNOSTIC_INFORMATION_SID + SEND_RECEIVE_SID_OFFSET then
    err (.SidMismatch (CLEAR_DIAGNOSTIC_INFORMATION_SID + SEND_RECEIVE_SID_OFFSET) sid raw_response)
  else
    return .ClearDiagnosticInformation

def UdsClient.clear_diagnostic_information (overflow_checks : Bool) (group_of_dtc : UInt32) :
    UdsFuture UdsResponse := do
  let request := compose_clear_diagnostic_information_request group_of_dtc
  let raw_response ← send_and_receive overflow_checks request
  parse_clear_diagnostic_information_response raw_response

theorem parse_clear_diagnostic_information_response_eq_ok_iff {raw : Packet} {v : UdsResponse} :
    parse_clear_diagnostic_information_response raw = .ok v ↔
      ∃ rest, raw = 0x54 :: rest ∧ v = .ClearDiagnosticInformation := by
  have hsid : CLEAR_DIAGNOSTIC_INFORMATION_SID + SEND_RECEIVE_SID_OFFSET = 0x54 := rfl
  rcases raw with _ | ⟨sid, rest⟩
  · simp [parse_clear_diagnostic_information_response]
  · by_cases h : sid = 0x54
    · subst h
      simp [parse_clear_diagnostic_information_response, hsid, eq_comm]
    · simp [parse_clear_diagnostic_information_response, hsid, h]

end uds_rs.uds

import UdsRs.Rust.Bytes
import UdsRs.Uds.Response
import UdsRs.Uds.SendAndReceive

namespace uds_rs.uds

open rust

def compose_write_data_by_identifier_request (data_identifier : UInt16) (data_record : Packet) :
    Packet :=
  [WRITE_DATA_BY_IDENTIFIER_SID, u16_msb data_identifier, u16_lsb data_identifier] ++ data_record

def parse_write_data_by_identifier_response (raw_response : Packet) : EcuResponseResult := do
  let (sid, response_iter) ← ok_or (next raw_response) .ResponseEmpty
  if sid ≠ WRITE_DATA_BY_IDENTIFIER_SID + SEND_RECEIVE_SID_OFFSET then
    err (.SidMismatch (WRITE_DATA_BY_IDENTIFIER_SID + SEND_RECEIVE_SID_OFFSET) sid raw_response)
  else
    let (msb, response_iter) ← ok_or (next response_iter) (.InvalidLength raw_response)
    let (lsb, _) ← ok_or (next response_iter) (.InvalidLength raw_response)
    let data_identifier := u16_from_bytes msb lsb
    return .WriteDataByIdentifier (.Parsed { data_identifier })

def UdsClient.write_data_by_identifier (overflow_checks : Bool) (data_identifier : UInt16)
    (data_record : Packet) : UdsFuture UdsResponse := do
  let request := compose_write_data_by_identifier_request data_identifier data_record
  let raw_response ← send_and_receive overflow_checks request
  parse_write_data_by_identifier_response raw_response

theorem parse_write_data_by_identifier_response_eq_ok_iff {raw : Packet} {v : UdsResponse} :
    parse_write_data_by_identifier_response raw = .ok v ↔
      ∃ msb lsb rest, raw = 0x6E :: msb :: lsb :: rest ∧
        v = .WriteDataByIdentifier (.Parsed ⟨u16_from_bytes msb lsb⟩) := by
  have hsid : WRITE_DATA_BY_IDENTIFIER_SID + SEND_RECEIVE_SID_OFFSET = 0x6E := rfl
  rcases raw with _ | ⟨sid, rest⟩
  · simp [parse_write_data_by_identifier_response]
  · by_cases h : sid = 0x6E
    · subst h
      rcases rest with _ | ⟨a, _ | ⟨b, rest⟩⟩ <;>
        simp [parse_write_data_by_identifier_response, hsid, eq_comm]
    · simp [parse_write_data_by_identifier_response, hsid, h]

end uds_rs.uds

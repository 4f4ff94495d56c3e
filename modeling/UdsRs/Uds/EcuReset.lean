import UdsRs.Uds.Response
import UdsRs.Uds.SendAndReceive

namespace uds_rs.uds

open rust TryFromPrimitive

def compose_ecu_reset_request (reset_type : ResetType) : Packet :=
  [ECU_RESET_SID, to_u8 reset_type]

def parse_ecu_reset_response (raw_response : Packet) : EcuResponseResult := do
  let (sid, response_iter) ← ok_or (next raw_response) .ResponseEmpty
  if sid ≠ ECU_RESET_SID + SEND_RECEIVE_SID_OFFSET then
    err (.SidMismatch (ECU_RESET_SID + SEND_RECEIVE_SID_OFFSET) sid raw_response)
  else
    let (reset_type_byte, response_iter) ← ok_or (next response_iter) (.InvalidLength raw_response)
    let reset_type ← map_err (try_from_primitive reset_type_byte) fun _ =>
      .ResponseIncorrect raw_response
    let power_down_time ←
      if reset_type = ResetType.EnableRapidPowerShutDown then do
        let (time, _) ← ok_or (next response_iter) (.InvalidLength raw_response)
        pure (some time)
      else
        pure none
    return .EcuReset (.Parsed { reset_type, power_down_time })

def UdsClient.ecu_reset (overflow_checks : Bool) (reset_type : ResetType) :
    UdsFuture UdsResponse := do
  let request := compose_ecu_reset_request reset_type
  let raw_response ← send_and_receive overflow_checks request
  parse_ecu_reset_response raw_response

/-- The bytes after the reset type that the parser reads: one for a rapid power
shutdown, none otherwise. -/
def power_down_bytes (reset_type : ResetType) : Nat :=
  if reset_type = .EnableRapidPowerShutDown then 1 else 0

theorem parse_ecu_reset_response_eq_ok_iff {raw : Packet} {v : UdsResponse} :
    parse_ecu_reset_response raw = .ok v ↔
      ∃ reset_type rest, raw = 0x51 :: to_u8 reset_type :: rest ∧
        power_down_bytes reset_type ≤ rest.length ∧
        v = .EcuReset (.Parsed ⟨reset_type,
          if reset_type = .EnableRapidPowerShutDown then rest.head? else none⟩) := by
  have hsid : ECU_RESET_SID + SEND_RECEIVE_SID_OFFSET = 0x51 := rfl
  rcases raw with _ | ⟨sid, rest⟩
  · simp [parse_ecu_reset_response]
  · by_cases h : sid = 0x51
    · subst h
      rcases rest with _ | ⟨byte, rest⟩
      · simp [parse_ecu_reset_response, hsid]
      · cases hbyte : (try_from_primitive byte : Except _ ResetType) with
        | error e =>
          have hnone := (try_from_primitive_eq_error_iff.mp hbyte).2
          simp [parse_ecu_reset_response, hsid, hbyte, Ne.symm (hnone _)]
        | ok reset_type =>
          obtain rfl := try_from_primitive_eq_ok_iff.mp hbyte
          by_cases hrapid : reset_type = .EnableRapidPowerShutDown
          · subst hrapid
            rcases rest with _ | ⟨time, rest⟩ <;>
              simp [parse_ecu_reset_response, hsid, power_down_bytes, to_u8_injective.eq_iff, eq_comm]
          · simp [parse_ecu_reset_response, hsid, power_down_bytes, hrapid,
              to_u8_injective.eq_iff, eq_comm]
    · simp [parse_ecu_reset_response, hsid, h]

end uds_rs.uds

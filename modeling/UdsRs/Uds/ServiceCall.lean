import UdsRs.AsyncSock.Steps
import UdsRs.Uds.ClearDiagnosticInformation
import UdsRs.Uds.DiagnosticSessionControl
import UdsRs.Uds.EcuReset
import UdsRs.Uds.ReadDataByIdentifier
import UdsRs.Uds.ReadDtcInformation
import UdsRs.Uds.ReadMemoryByAddress
import UdsRs.Uds.WriteDataByIdentifier

namespace uds_rs.uds

open async_sock rust

/-- A call of a service method with its arguments. The read with a table of lengths is
one of them, although it is private and serves the read of one identifier only. -/
inductive ServiceCall where
  | diagnostic_session_control (session_id : UInt8)
  | ecu_reset (reset_type : ResetType)
  | clear_diagnostic_information (group_of_dtc : UInt32)
  | report_number_of_dtc_by_status_mask (dtc_status_mask : UInt8)
  | report_dtc_by_status_mask (dtc_status_mask : UInt8)
  | report_dtc_snapshot_record_by_dtc_number (dtc_mask_record : UInt32)
      (dtc_snapshot_record_number : UInt8)
  | report_dtc_ext_data_record_by_dtc_number (dtc_mask_record : UInt32)
      (dtc_ext_data_record_number : UInt8)
  | report_most_recent_confirmed_dtc
  | read_data_by_identifier (data_identifiers : List UInt16)
  | read_data_by_identifier_tuple (data_identifiers_and_lengths : List (UInt16 × UInt32))
  | read_memory_by_address (address_and_memory_length_format_identifier : UInt8)
      (memory_address memory_size : Packet)
  | read_memory_by_address_simplified (memory_address memory_size : UInt64)
      (memory_address_len memory_size_len : Option UInt8)
  | write_data_by_identifier (data_identifier : UInt16) (data_record : Packet)
  deriving DecidableEq, Repr

namespace ServiceCall

def run (overflow_checks : Bool) : ServiceCall → UdsFuture UdsResponse
  | diagnostic_session_control session_id =>
    UdsClient.diagnostic_session_control overflow_checks session_id
  | ecu_reset reset_type => UdsClient.ecu_reset overflow_checks reset_type
  | clear_diagnostic_information group_of_dtc =>
    UdsClient.clear_diagnostic_information overflow_checks group_of_dtc
  | report_number_of_dtc_by_status_mask mask =>
    UdsClient.report_number_of_dtc_by_status_mask overflow_checks mask
  | report_dtc_by_status_mask mask => UdsClient.report_dtc_by_status_mask overflow_checks mask
  | report_dtc_snapshot_record_by_dtc_number record number =>
    UdsClient.report_dtc_snapshot_record_by_dtc_number overflow_checks record number
  | report_dtc_ext_data_record_by_dtc_number record number =>
    UdsClient.report_dtc_ext_data_record_by_dtc_number overflow_checks record number
  | report_most_recent_confirmed_dtc => UdsClient.report_most_recent_confirmed_dtc overflow_checks
  | read_data_by_identifier data_identifiers =>
    UdsClient.read_data_by_identifier overflow_checks data_identifiers
  | read_data_by_identifier_tuple table =>
    UdsClient.read_data_by_identifier_tuple overflow_checks table
  | read_memory_by_address format address size =>
    UdsClient.read_memory_by_address overflow_checks format address size
  | read_memory_by_address_simplified address size address_len size_len =>
    UdsClient.read_memory_by_address_simplified overflow_checks address size address_len size_len
  | write_data_by_identifier data_identifier data_record =>
    UdsClient.write_data_by_identifier overflow_checks data_identifier data_record

def sid : ServiceCall → UInt8
  | diagnostic_session_control _ => DIAGNOSTIC_SESSION_CONTROL_SID
  | ecu_reset _ => ECU_RESET_SID
  | clear_diagnostic_information _ => CLEAR_DIAGNOSTIC_INFORMATION_SID
  | report_number_of_dtc_by_status_mask _ | report_dtc_by_status_mask _
  | report_dtc_snapshot_record_by_dtc_number _ _ | report_dtc_ext_data_record_by_dtc_number _ _
  | report_most_recent_confirmed_dtc => READ_DTC_INFORMATION_SID
  | read_data_by_identifier _ | read_data_by_identifier_tuple _ => READ_DATA_BY_IDENTIFIER_SID
  | read_memory_by_address _ _ _ | read_memory_by_address_simplified _ _ _ _ =>
    READ_MEMORY_BY_ADDRESS_SID
  | write_data_by_identifier _ _ => WRITE_DATA_BY_IDENTIFIER_SID

/-- The bytes of the request after the SID. Only the simplified memory read can
reject its arguments. -/
def arguments (overflow_checks : Bool) : ServiceCall → Outcome UdsError Packet
  | diagnostic_session_control session_id =>
    .ok (compose_diagnostic_session_control_request session_id).tail
  | ecu_reset reset_type => .ok (compose_ecu_reset_request reset_type).tail
  | clear_diagnostic_information group_of_dtc =>
    .ok (compose_clear_diagnostic_information_request group_of_dtc).tail
  | report_number_of_dtc_by_status_mask mask =>
    .ok (compose_report_number_of_dtc_by_status_mask_request
      .ReportNumberOfDTCbyStatusMask mask).tail
  | report_dtc_by_status_mask mask =>
    .ok (compose_report_number_of_dtc_by_status_mask_request .ReportDTCByStatusMask mask).tail
  | report_dtc_snapshot_record_by_dtc_number record number =>
    .ok (compose_report_dtc_snapshot_request
      .ReportDTCSnapshotRecordByDTCNumber record number).tail
  | report_dtc_ext_data_record_by_dtc_number record number =>
    .ok (compose_report_dtc_ext_data_by_dtc_number_request
      .ReportDTCExtDataRecordByDTCNumber record number).tail
  | report_most_recent_confirmed_dtc =>
    .ok (compose_request_short .ReportMostRecentConfirmedDTC).tail
  | read_data_by_identifier data_identifiers =>
    .ok (compose_read_data_by_identifier_request data_identifiers).tail
  | read_data_by_identifier_tuple table =>
    .ok (compose_read_data_by_identifier_request (table.map Prod.fst)).tail
  | read_memory_by_address format address size =>
    .ok (formulate_request format address size).tail
  | read_memory_by_address_simplified address size address_len size_len => do
    let (format, address, size) ←
      convert_from_simple_to_normal overflow_checks address size address_len size_len
    return (formulate_request format address size).tail
  | write_data_by_identifier data_identifier data_record =>
    .ok (compose_write_data_by_identifier_request data_identifier data_record).tail

/-- The parser the method applies to the packet it was given. Only the read with a
table hands arguments of the call to it. -/
def parse : ServiceCall → Packet → EcuResponseResult
  | diagnostic_session_control _ => parse_diagnostic_session_control_response
  | ecu_reset _ => parse_ecu_reset_response
  | clear_diagnostic_information _ => parse_clear_diagnostic_information_response
  | report_number_of_dtc_by_status_mask _ => parse_report_number_of_dtc_by_status_mask_response
  | report_dtc_by_status_mask _ => parse_report_dtcs
  | report_dtc_snapshot_record_by_dtc_number _ _ =>
    parse_report_dtc_snapshot_record_by_dtc_number_response
  | report_dtc_ext_data_record_by_dtc_number _ _ =>
    parse_report_dtc_ext_data_by_dtc_number_response
  | report_most_recent_confirmed_dtc => parse_report_dtcs
  | read_data_by_identifier [data_identifier] =>
    parse_read_data_by_identifier_tuple_response [(data_identifier, u32_MAX)]
  | read_data_by_identifier _ => parse_read_data_by_identifier_response
  | read_data_by_identifier_tuple table => parse_read_data_by_identifier_tuple_response table
  | read_memory_by_address _ _ _ => parse_response
  | read_memory_by_address_simplified _ _ _ _ => parse_response
  | write_data_by_identifier _ _ => parse_write_data_by_identifier_response

variable {overflow_checks : Bool}

/-- Every method exchanges its request and parses the packet it is given, so what
holds of exchanges and of parsers carries over to all methods at once. -/
theorem run_eq (call : ServiceCall) :
    call.run overflow_checks = (do
      let data ← call.arguments overflow_checks
      let raw_response ← UdsClient.send_and_receive overflow_checks (call.sid :: data)
      call.parse raw_response) := by
  cases call with
  | read_data_by_identifier data_identifiers =>
    by_cases hone : data_identifiers.length = 1
    · obtain ⟨data_identifier, rfl⟩ := List.length_eq_one_iff.mp hone
      rfl
    · have hparse : (read_data_by_identifier data_identifiers).parse =
          parse_read_data_by_identifier_response := by
        match data_identifiers with
        | [] => rfl
        | _ :: _ :: _ => rfl
      simp only [run, UdsClient.read_data_by_identifier, if_neg hone, arguments, hparse, sid,
        compose_read_data_by_identifier_request_eq, List.tail_cons]
      rfl
  | read_data_by_identifier_tuple table =>
    simp only [run, UdsClient.read_data_by_identifier_tuple, arguments, sid, parse,
      compose_read_data_by_identifier_request_eq, List.tail_cons]
    rfl
  | read_memory_by_address_simplified address size address_len size_len =>
    simp only [run, UdsClient.read_memory_by_address_simplified, arguments, sid, parse]
    cases hconvert :
        convert_from_simple_to_normal overflow_checks address size address_len size_len with
    | error stop => rfl
    | ok request_arguments => rfl
  | _ => rfl

/-- A call that returns either rejected its arguments without touching the socket,
or parsed what the exchange of its request returned. -/
theorem returns_run_iff {call : ServiceCall} {es : List (Event Packet UdsCommunicationError)}
    {result : EcuResponseResult} :
    Returns (call.run overflow_checks) es result ↔
      (∃ stop, call.arguments overflow_checks = .error stop ∧ es = [] ∧ result = .error stop) ∨
      ∃ data inner, call.arguments overflow_checks = .ok data ∧
        Returns (UdsClient.send_and_receive overflow_checks (call.sid :: data)) es inner ∧
        result = inner >>= call.parse := by
  rw [run_eq]
  cases hdata : call.arguments overflow_checks with
  | error stop =>
    simp only [Future.liftM_eq, Future.ready_error_bind, Returns, Steps.ready_iff]
    constructor
    · rintro ⟨rfl, hresult⟩
      exact .inl ⟨stop, rfl, rfl, Future.ready.inj hresult⟩
    · rintro (⟨_, hstop, rfl, rfl⟩ | ⟨_, _, hok, -⟩)
      · cases hstop
        exact ⟨rfl, rfl⟩
      · cases hok
  | ok data =>
    apply returns_bind_ready_iff.trans
    constructor
    · rintro ⟨inner, hinner, hresult⟩
      exact .inr ⟨data, inner, rfl, hinner, hresult⟩
    · rintro (⟨_, hstop, -⟩ | ⟨_, inner, hok, hinner, hresult⟩)
      · cases hstop
      · cases hok
        exact ⟨inner, hinner, hresult⟩

end ServiceCall

end uds_rs.uds

import UdsRs.Uds.ServiceCall

namespace uds_rs.uds

open rust TryFromPrimitive

def ReportNumberOfDTCByMaskResponse.bytes (r : ReportNumberOfDTCByMaskResponse) : Packet :=
  [r.dtc_status_availability_mask, to_u8 r.dtc_format_identifier, u16_msb r.dtc_count,
    u16_lsb r.dtc_count]

def ReportDTCsResponse.bytes (r : ReportDTCsResponse) : Packet :=
  r.dtc_status_availability_mask :: r.dtc_and_status_records.flatMap DTCAndStatusRecord.bytes

def ReadDTCInformationResponse.bytes : ReadDTCInformationResponse → Packet
  | .ReportNumberOfDTCbyStatusMask r =>
    to_u8 SubFunction.ReportNumberOfDTCbyStatusMask :: r.bytes
  | .ReportDTCByStatusMask r => to_u8 SubFunction.ReportDTCByStatusMask :: r.bytes
  | .ReportNumberOfDTCBySeverityMaskRecord r =>
    to_u8 SubFunction.ReportNumberOfDTCBySeverityMaskRecord :: r.bytes
  | .ReportSupportedDTC r => to_u8 SubFunction.ReportSupportedDTC :: r.bytes
  | .ReportFirstTestFailedDTC r => to_u8 SubFunction.ReportFirstTestFailedDTC :: r.bytes
  | .ReportFirstConfirmedDTC r => to_u8 SubFunction.ReportFirstConfirmedDTC :: r.bytes
  | .ReportMostRecentTestFailedDTC r => to_u8 SubFunction.ReportMostRecentTestFailedDTC :: r.bytes
  | .ReportMostRecentConfirmedDTC r => to_u8 SubFunction.ReportMostRecentConfirmedDTC :: r.bytes
  | .ReportMirrorMemoryDTCByStatusMask r =>
    to_u8 SubFunction.ReportMirrorMemoryDTCByStatusMask :: r.bytes
  | .ReportNumberOfMirrorMemoryDTCByStatusMask r =>
    to_u8 SubFunction.ReportNumberOfMirrorMemoryDTCByStatusMask :: r.bytes
  | .ReportNumberOfEmissionsOBDDTCByStatusMask r =>
    to_u8 SubFunction.ReportNumberOfEmissionsOBDDTCByStatusMask :: r.bytes
  | .ReportEmissionsOBDDTCByStatusMask r =>
    to_u8 SubFunction.ReportEmissionsOBDDTCByStatusMask :: r.bytes
  | .ReportDTCWithPermanentStatus r => to_u8 SubFunction.ReportDTCWithPermanentStatus :: r.bytes

def DataRecord.bytes (r : DataRecord) : Packet :=
  u16_msb r.data_identifier :: u16_lsb r.data_identifier :: r.data

/-- The contents of a parsed response, or the data of a raw one. -/
def DataFormat.bytes {T : Type} (layout : T → Packet) : DataFormat T → Packet
  | .Parsed response => layout response
  | .Raw data => data

/-- The packet that a response stands for in the layout of its service: the response
SID, then the fields in order. -/
def UdsResponse.serialise : UdsResponse → Packet
  | .EcuReset response =>
    (ECU_RESET_SID + SEND_RECEIVE_SID_OFFSET) ::
      response.bytes fun r => to_u8 r.reset_type :: r.power_down_time.toList
  | .ReadDataByIdentifier response =>
    (READ_DATA_BY_IDENTIFIER_SID + SEND_RECEIVE_SID_OFFSET) ::
      response.bytes fun r => r.data_records.flatMap DataRecord.bytes
  | .ReadMemoryByAddress response =>
    (READ_MEMORY_BY_ADDRESS_SID + SEND_RECEIVE_SID_OFFSET) :: response.bytes fun r => r.data_record
  | .ReadDTCInformation response =>
    (READ_DTC_INFORMATION_SID + SEND_RECEIVE_SID_OFFSET) ::
      response.bytes ReadDTCInformationResponse.bytes
  | .ClearDiagnosticInformation => [CLEAR_DIAGNOSTIC_INFORMATION_SID + SEND_RECEIVE_SID_OFFSET]
  | .WriteDataByIdentifier response =>
    (WRITE_DATA_BY_IDENTIFIER_SID + SEND_RECEIVE_SID_OFFSET) ::
      response.bytes fun r => [u16_msb r.data_identifier, u16_lsb r.data_identifier]
  | .DiagnosticSessionControl response =>
    (DIAGNOSTIC_SESSION_CONTROL_SID + SEND_RECEIVE_SID_OFFSET) ::
      response.bytes fun r =>
        [r.session, u16_msb r.p2, u16_lsb r.p2, u16_msb r.p2_star, u16_lsb r.p2_star]

theorem report_number_of_dtc_variant_bytes {report_type : SubFunction}
    {parsed : ReportNumberOfDTCByMaskResponse} {response : ReadDTCInformationResponse}
    (h : report_number_of_dtc_variant report_type parsed = .ok response) :
    response.bytes = to_u8 report_type :: parsed.bytes := by
  cases report_type <;> cases h <;> rfl

theorem report_dtcs_variant_bytes {sub_function : SubFunction} {parsed : ReportDTCsResponse}
    {response : ReadDTCInformationResponse}
    (h : report_dtcs_variant sub_function parsed = .ok response) :
    response.bytes = to_u8 sub_function :: parsed.bytes := by
  cases sub_function <;> cases h <;> rfl

theorem Reads.bytes_eq {table : List (UInt16 × UInt32)} {bytes rest : Packet}
    {records : List DataRecord} (h : Reads table bytes records rest) :
    bytes = records.flatMap DataRecord.bytes ++ rest := by
  induction h with
  | nil => rfl
  | bounded _ _ _ ih => simp [DataRecord.bytes, ih]
  | @remaining did data rest table records htail ih =>
    have hnothing : records.flatMap DataRecord.bytes = [] ∧ rest = [] :=
      List.append_eq_nil_iff.mp ih.symm
    simp [DataRecord.bytes, hnothing]

theorem Reads.single {did : UInt16} {bytes rest : Packet} {records : List DataRecord}
    (h : Reads [(did, u32_MAX)] bytes records rest) : rest = [] := by
  obtain ⟨data, tail, records', -, -, htail, hreads⟩ := Reads.cons_iff.mp h
  rw [if_pos rfl] at htail
  subst htail
  cases hreads
  rfl

namespace ServiceCall

/-- The packet goes on after the last field that the parser of the call reads.
Parsers that read a fixed number of bytes, or a table of lengths, leave what comes
after unread. -/
inductive Excess : ServiceCall → Packet → Prop where
  | session {session_id session : UInt8} {rest : Packet} (h : 4 < rest.length) :
      Excess (diagnostic_session_control session_id) (0x50 :: session :: rest)
  | reset {reset_type other : ResetType} {rest : Packet} (h : power_down_bytes other < rest.length) :
      Excess (ecu_reset reset_type) (0x51 :: to_u8 other :: rest)
  | clear {group_of_dtc : UInt32} {rest : Packet} (h : rest ≠ []) :
      Excess (clear_diagnostic_information group_of_dtc) (0x54 :: rest)
  | number_of_dtc {mask availability_mask : UInt8} {report_type : SubFunction} {format : DTCFormat}
      {rest : Packet} (htype : report_type ∈ number_of_dtc_types) (h : 2 < rest.length) :
      Excess (report_number_of_dtc_by_status_mask mask)
        (0x59 :: to_u8 report_type :: availability_mask :: to_u8 format :: rest)
  | read_tuple {table : List (UInt16 × UInt32)} {bytes rest : Packet} {records : List DataRecord}
      (hreads : Reads table bytes records rest) (h : rest ≠ []) :
      Excess (read_data_by_identifier_tuple table) (0x62 :: bytes)
  | write {data_identifier : UInt16} {data_record : Packet} {msb lsb : UInt8} {rest : Packet}
      (h : rest ≠ []) :
      Excess (write_data_by_identifier data_identifier data_record) (0x6E :: msb :: lsb :: rest)

/-- A packet with excess bytes is accepted as if it were the shorter one. -/
theorem Excess.dropped {call : ServiceCall} {raw : Packet} (h : Excess call raw) :
    ∃ v, call.parse raw = .ok v ∧ v.serialise ≠ raw := by
  cases h with
  | @session session_id session rest hlen =>
    match rest, hlen with
    | p2_hi :: p2_lo :: p2s_hi :: p2s_lo :: extra :: rest, _ =>
      refine ⟨_, parse_diagnostic_session_control_response_eq_ok_iff.mpr
        ⟨session, p2_hi, p2_lo, p2s_hi, p2s_lo, extra :: rest, rfl, rfl⟩, ?_⟩
      intro hraw
      have hlength := congrArg List.length hraw
      simp [UdsResponse.serialise, DataFormat.bytes] at hlength
  | @reset reset_type other rest hlen =>
    refine ⟨_, parse_ecu_reset_response_eq_ok_iff.mpr
      ⟨other, rest, rfl, Nat.le_of_lt hlen, rfl⟩, ?_⟩
    intro hraw
    have hlength := congrArg List.length hraw
    unfold power_down_bytes at hlen
    split at hlen
    · next hrapid =>
      match rest, hlen with
      | time :: extra :: rest, _ =>
        simp [UdsResponse.serialise, DataFormat.bytes, hrapid] at hlength
    · next hrapid =>
      have hnothing : rest = [] := by
        simpa [UdsResponse.serialise, DataFormat.bytes, hrapid] using hlength
      simp [hnothing] at hlen
  | @clear group_of_dtc rest hrest =>
    refine ⟨_, parse_clear_diagnostic_information_response_eq_ok_iff.mpr ⟨rest, rfl, rfl⟩, ?_⟩
    intro hraw
    exact hrest (List.cons.inj hraw).2.symm
  | @number_of_dtc mask availability_mask report_type format rest htype hlen =>
    match rest, hlen with
    | msb :: lsb :: extra :: rest, _ =>
      obtain ⟨response, hresponse⟩ := report_number_of_dtc_variant_ok_iff.mpr htype
      refine ⟨_, parse_report_number_of_dtc_by_status_mask_response_eq_ok_iff.mpr
        ⟨report_type, availability_mask, format, msb, lsb, extra :: rest, response, rfl, hresponse,
          rfl⟩, ?_⟩
      intro hraw
      have hlength := congrArg List.length hraw
      simp [UdsResponse.serialise, DataFormat.bytes, report_number_of_dtc_variant_bytes hresponse,
        ReportNumberOfDTCByMaskResponse.bytes] at hlength
  | @read_tuple table bytes rest records hreads hrest =>
    refine ⟨_, parse_read_data_by_identifier_tuple_response_eq_ok_iff.mpr
      ⟨bytes, records, rest, rfl, hreads, rfl⟩, ?_⟩
    intro hraw
    have hbytes : records.flatMap DataRecord.bytes = bytes := (List.cons.inj hraw).2
    rw [hreads.bytes_eq] at hbytes
    exact hrest (List.self_eq_append_right.mp hbytes)
  | @write data_identifier data_record msb lsb rest hrest =>
    refine ⟨_, parse_write_data_by_identifier_response_eq_ok_iff.mpr
      ⟨msb, lsb, rest, rfl, rfl⟩, ?_⟩
    intro hraw
    have hlength := congrArg List.length hraw
    have hnothing : rest = [] := by
      simpa [UdsResponse.serialise, DataFormat.bytes] using hlength
    exact hrest hnothing

/-- Every other accepted packet is the serialisation of what was parsed. -/
theorem serialise_of_parse_ok {call : ServiceCall} {raw : Packet} {v : UdsResponse}
    (h : call.parse raw = .ok v) (hexcess : ¬ Excess call raw) : v.serialise = raw := by
  cases call with
  | diagnostic_session_control session_id =>
    obtain ⟨session, _, _, _, _, rest, rfl, rfl⟩ :=
      parse_diagnostic_session_control_response_eq_ok_iff.mp h
    cases rest with
    | nil =>
      simp only [UdsResponse.serialise, DataFormat.bytes, u16_msb_from_bytes, u16_lsb_from_bytes]
      rfl
    | cons extra rest => exact absurd (.session (by simp)) hexcess
  | ecu_reset reset_type =>
    obtain ⟨other, rest, rfl, hlen, rfl⟩ := parse_ecu_reset_response_eq_ok_iff.mp h
    have hlength : rest.length = power_down_bytes other :=
      Nat.le_antisymm (Nat.not_lt.mp fun hlt => hexcess (.reset hlt)) hlen
    unfold power_down_bytes at hlength
    split at hlength
    · next hrapid =>
      obtain ⟨time, rfl⟩ := List.length_eq_one_iff.mp hlength
      rw [if_pos hrapid]
      rfl
    · next hrapid =>
      obtain rfl := List.length_eq_zero_iff.mp hlength
      rw [if_neg hrapid]
      rfl
  | clear_diagnostic_information group_of_dtc =>
    obtain ⟨rest, rfl, rfl⟩ := parse_clear_diagnostic_information_response_eq_ok_iff.mp h
    cases rest with
    | nil => rfl
    | cons extra rest => exact absurd (.clear (by simp)) hexcess
  | report_number_of_dtc_by_status_mask mask =>
    obtain ⟨report_type, availability_mask, format, msb, lsb, rest, response, rfl, hresponse, rfl⟩ :=
      parse_report_number_of_dtc_by_status_mask_response_eq_ok_iff.mp h
    have htype := report_number_of_dtc_variant_ok_iff.mp ⟨response, hresponse⟩
    cases rest with
    | nil =>
      simp only [UdsResponse.serialise, DataFormat.bytes,
        report_number_of_dtc_variant_bytes hresponse, ReportNumberOfDTCByMaskResponse.bytes,
        u16_msb_from_bytes, u16_lsb_from_bytes]
      rfl
    | cons extra rest => exact absurd (.number_of_dtc htype (by simp)) hexcess
  | report_dtc_by_status_mask mask =>
    obtain ⟨_, _, _, response, rfl, -, hresponse, rfl⟩ := parse_report_dtcs_eq_ok_iff.mp h
    exact congrArg (0x59 :: ·) (report_dtcs_variant_bytes hresponse)
  | report_most_recent_confirmed_dtc =>
    obtain ⟨_, _, _, response, rfl, -, hresponse, rfl⟩ := parse_report_dtcs_eq_ok_iff.mp h
    exact congrArg (0x59 :: ·) (report_dtcs_variant_bytes hresponse)
  | report_dtc_snapshot_record_by_dtc_number record number =>
    obtain ⟨data, rfl, rfl⟩ := parse_report_dtc_snapshot_record_by_dtc_number_response_eq_ok_iff.mp h
    rfl
  | report_dtc_ext_data_record_by_dtc_number record number =>
    obtain ⟨data, rfl, rfl⟩ := parse_report_dtc_snapshot_record_by_dtc_number_response_eq_ok_iff.mp h
    rfl
  | read_data_by_identifier data_identifiers =>
    match data_identifiers with
    | [data_identifier] =>
      obtain ⟨bytes, records, rest, rfl, hreads, rfl⟩ :=
        parse_read_data_by_identifier_tuple_response_eq_ok_iff.mp h
      have hbytes := hreads.bytes_eq
      rw [hreads.single, List.append_nil] at hbytes
      exact congrArg (0x62 :: ·) hbytes.symm
    | [] =>
      obtain ⟨data, rfl, rfl⟩ := parse_read_data_by_identifier_response_eq_ok_iff.mp h
      rfl
    | _ :: _ :: _ =>
      obtain ⟨data, rfl, rfl⟩ := parse_read_data_by_identifier_response_eq_ok_iff.mp h
      rfl
  | read_data_by_identifier_tuple table =>
    obtain ⟨bytes, records, rest, rfl, hreads, rfl⟩ :=
      parse_read_data_by_identifier_tuple_response_eq_ok_iff.mp h
    have hbytes := hreads.bytes_eq
    have hrest : rest = [] := by
      by_contra hne
      exact hexcess (.read_tuple hreads hne)
    rw [hrest, List.append_nil] at hbytes
    exact congrArg (0x62 :: ·) hbytes.symm
  | read_memory_by_address format address size =>
    obtain ⟨data_record, rfl, rfl⟩ := parse_response_eq_ok_iff.mp h
    rfl
  | read_memory_by_address_simplified address size address_len size_len =>
    obtain ⟨data_record, rfl, rfl⟩ := parse_response_eq_ok_iff.mp h
    rfl
  | write_data_by_identifier data_identifier data_record =>
    obtain ⟨msb, lsb, rest, rfl, rfl⟩ := parse_write_data_by_identifier_response_eq_ok_iff.mp h
    cases rest with
    | nil =>
      simp only [UdsResponse.serialise, DataFormat.bytes, u16_msb_from_bytes, u16_lsb_from_bytes]
      rfl
    | cons extra rest => exact absurd (.write (by simp)) hexcess

/-- A parser loses no byte of a packet exactly when the packet ends with the last
field the parser reads. This is about accepted and rejected packets alike, and about
the parsers of all methods. -/
theorem serialise_iff (call : ServiceCall) (raw : Packet) :
    (∀ v, call.parse raw = .ok v → v.serialise = raw) ↔ ¬ Excess call raw := by
  constructor
  · intro hall hexcess
    obtain ⟨v, hparse, hne⟩ := hexcess.dropped
    exact hne (hall v hparse)
  · intro hexcess v hparse
    exact serialise_of_parse_ok hparse hexcess

/-- A write is acknowledged by a packet with a byte too many, and the tuple read of
one two-byte record drops the byte after it. -/
theorem not_serialise_excess :
    (¬ ∀ v, (write_data_by_identifier 0xF190 [0xAA]).parse [0x6E, 0xF1, 0x90, 0x00] = .ok v →
      v.serialise = [0x6E, 0xF1, 0x90, 0x00]) ∧
    ¬ ∀ v, (read_data_by_identifier_tuple [(0xF190, 2)]).parse
      [0x62, 0xF1, 0x90, 0x01, 0x02, 0x03] = .ok v →
        v.serialise = [0x62, 0xF1, 0x90, 0x01, 0x02, 0x03] := by
  constructor
  · intro hall
    have hparse : (write_data_by_identifier 0xF190 [0xAA]).parse [0x6E, 0xF1, 0x90, 0x00] =
        .ok (.WriteDataByIdentifier (.Parsed ⟨0xF190⟩)) := by decide
    exact absurd (hall _ hparse) (by decide)
  · intro hall
    have hparse : (read_data_by_identifier_tuple [(0xF190, 2)]).parse
        [0x62, 0xF1, 0x90, 0x01, 0x02, 0x03] =
          .ok (.ReadDataByIdentifier (.Parsed ⟨[⟨0xF190, [0x01, 0x02]⟩]⟩)) := by decide
    exact absurd (hall _ hparse) (by decide)

end ServiceCall

end uds_rs.uds

import UdsRs.Uds.ServiceCall.Panics

namespace uds_rs.uds.ServiceCall

open async_sock rust TryFromPrimitive UdsClient Stage

variable {overflow_checks : Bool} {es : List (Event Packet UdsCommunicationError)}

/-- The response carries the parameter of the call: the identifier, sub-function,
reset type or session that was requested. -/
def Echoed : ServiceCall → UdsResponse → Prop
  | diagnostic_session_control session_id, v =>
    ∃ p2 p2_star, v = .DiagnosticSessionControl (.Parsed ⟨session_id, p2, p2_star⟩)
  | ecu_reset reset_type, v => ∃ power_down_time, v = .EcuReset (.Parsed ⟨reset_type, power_down_time⟩)
  | report_number_of_dtc_by_status_mask _, v =>
    ∃ response, v = .ReadDTCInformation (.Parsed (.ReportNumberOfDTCbyStatusMask response))
  | report_dtc_by_status_mask _, v =>
    ∃ response, v = .ReadDTCInformation (.Parsed (.ReportDTCByStatusMask response))
  | report_most_recent_confirmed_dtc, v =>
    ∃ response, v = .ReadDTCInformation (.Parsed (.ReportMostRecentConfirmedDTC response))
  | report_dtc_ext_data_record_by_dtc_number _ _, v =>
    ∃ data, v = .ReadDTCInformation (.Raw (0x06 :: data))
  | read_data_by_identifier [data_identifier], v =>
    ∃ data, v = .ReadDataByIdentifier (.Parsed ⟨[⟨data_identifier, data⟩]⟩)
  | write_data_by_identifier data_identifier _, v =>
    v = .WriteDataByIdentifier (.Parsed ⟨data_identifier⟩)
  | _, _ => True

/-- The packet has the response SID of the call, but where the parameter is echoed
it has another one, or none. -/
inductive OtherEcho : ServiceCall → Packet → Prop where
  | session {session_id other : UInt8} {rest : Packet} (h : other ≠ session_id) :
      OtherEcho (diagnostic_session_control session_id) (0x50 :: other :: rest)
  | reset {reset_type : ResetType} {other : UInt8} {rest : Packet} (h : other ≠ to_u8 reset_type) :
      OtherEcho (ecu_reset reset_type) (0x51 :: other :: rest)
  | number_of_dtc {mask other : UInt8} {rest : Packet} (h : other ≠ 0x01) :
      OtherEcho (report_number_of_dtc_by_status_mask mask) (0x59 :: other :: rest)
  | dtc_by_mask {mask other : UInt8} {rest : Packet} (h : other ≠ 0x02) :
      OtherEcho (report_dtc_by_status_mask mask) (0x59 :: other :: rest)
  | most_recent {other : UInt8} {rest : Packet} (h : other ≠ 0x0E) :
      OtherEcho report_most_recent_confirmed_dtc (0x59 :: other :: rest)
  | ext_data {record : UInt32} {number : UInt8} {data : Packet} (h : data.head? ≠ some 0x06) :
      OtherEcho (report_dtc_ext_data_record_by_dtc_number record number) (0x59 :: data)
  | read {data_identifier : UInt16} {msb lsb : UInt8} {rest : Packet}
      (h : u16_from_bytes msb lsb ≠ data_identifier) :
      OtherEcho (read_data_by_identifier [data_identifier]) (0x62 :: msb :: lsb :: rest)
  | write {data_identifier : UInt16} {data_record : Packet} {msb lsb : UInt8} {rest : Packet}
      (h : u16_from_bytes msb lsb ≠ data_identifier) :
      OtherEcho (write_data_by_identifier data_identifier data_record) (0x6E :: msb :: lsb :: rest)

/-- The packet is laid out the way the parser of the call reads it. The read of a
single identifier is the only one whose layout contains the parameter. -/
inductive Layout : ServiceCall → Packet → Prop where
  | session {session_id other : UInt8} {rest : Packet} (h : 4 ≤ rest.length) :
      Layout (diagnostic_session_control session_id) (0x50 :: other :: rest)
  | reset {reset_type other : ResetType} {rest : Packet} (h : power_down_bytes other ≤ rest.length) :
      Layout (ecu_reset reset_type) (0x51 :: to_u8 other :: rest)
  | number_of_dtc {mask availability_mask : UInt8} {other : SubFunction} {format : DTCFormat}
      {rest : Packet} (htype : other ∈ number_of_dtc_types) (h : 2 ≤ rest.length) :
      Layout (report_number_of_dtc_by_status_mask mask)
        (0x59 :: to_u8 other :: availability_mask :: to_u8 format :: rest)
  | dtc_by_mask {mask availability_mask : UInt8} {other : SubFunction} {rest : Packet}
      (htype : other ∈ dtcs_types) (h : 4 ∣ rest.length) :
      Layout (report_dtc_by_status_mask mask) (0x59 :: to_u8 other :: availability_mask :: rest)
  | most_recent {availability_mask : UInt8} {other : SubFunction} {rest : Packet}
      (htype : other ∈ dtcs_types) (h : 4 ∣ rest.length) :
      Layout report_most_recent_confirmed_dtc (0x59 :: to_u8 other :: availability_mask :: rest)
  | ext_data {record : UInt32} {number : UInt8} {data : Packet} :
      Layout (report_dtc_ext_data_record_by_dtc_number record number) (0x59 :: data)
  | read {data_identifier : UInt16} {data : Packet} :
      Layout (read_data_by_identifier [data_identifier])
        (0x62 :: u16_msb data_identifier :: u16_lsb data_identifier :: data)
  | write {data_identifier : UInt16} {data_record : Packet} {msb lsb : UInt8} {rest : Packet} :
      Layout (write_data_by_identifier data_identifier data_record) (0x6E :: msb :: lsb :: rest)

theorem Layout.parse_ok {call : ServiceCall} {raw : Packet} (h : Layout call raw) :
    ∃ v, call.parse raw = .ok v := by
  cases h with
  | @session session_id other rest hlen =>
    match rest, hlen with
    | p2_hi :: p2_lo :: p2s_hi :: p2s_lo :: rest, _ =>
      exact ⟨_, parse_diagnostic_session_control_response_eq_ok_iff.mpr
        ⟨other, p2_hi, p2_lo, p2s_hi, p2s_lo, rest, rfl, rfl⟩⟩
  | @reset reset_type other rest hlen =>
    exact ⟨_, parse_ecu_reset_response_eq_ok_iff.mpr ⟨other, rest, rfl, hlen, rfl⟩⟩
  | @number_of_dtc mask availability_mask other format rest htype hlen =>
    match rest, hlen with
    | msb :: lsb :: rest, _ =>
      obtain ⟨response, hresponse⟩ := report_number_of_dtc_variant_ok_iff.mpr htype
      exact ⟨_, parse_report_number_of_dtc_by_status_mask_response_eq_ok_iff.mpr
        ⟨other, availability_mask, format, msb, lsb, rest, response, rfl, hresponse, rfl⟩⟩
  | @dtc_by_mask mask availability_mask other rest htype hlen =>
    obtain ⟨records, rfl, hsmall⟩ := exists_records_iff.mpr hlen
    obtain ⟨response, hresponse⟩ := report_dtcs_variant_ok_iff.mpr htype
    exact ⟨_, parse_report_dtcs_eq_ok_iff.mpr
      ⟨other, availability_mask, records, response, rfl, hsmall, hresponse, rfl⟩⟩
  | @most_recent availability_mask other rest htype hlen =>
    obtain ⟨records, rfl, hsmall⟩ := exists_records_iff.mpr hlen
    obtain ⟨response, hresponse⟩ := report_dtcs_variant_ok_iff.mpr htype
    exact ⟨_, parse_report_dtcs_eq_ok_iff.mpr
      ⟨other, availability_mask, records, response, rfl, hsmall, hresponse, rfl⟩⟩
  | @ext_data record number data =>
    exact ⟨_, parse_report_dtc_snapshot_record_by_dtc_number_response_eq_ok_iff.mpr ⟨data, rfl, rfl⟩⟩
  | @read data_identifier data =>
    exact ⟨_, parse_read_data_by_identifier_tuple_response_eq_ok_iff.mpr
      ⟨_, _, [], rfl, .remaining (.nil []), rfl⟩⟩
  | @write data_identifier data_record msb lsb rest =>
    exact ⟨_, parse_write_data_by_identifier_response_eq_ok_iff.mpr ⟨msb, lsb, rest, rfl, rfl⟩⟩

theorem OtherEcho.layout {call : ServiceCall} {raw : Packet} {v : UdsResponse}
    (h : OtherEcho call raw) (hparse : call.parse raw = .ok v) : Layout call raw := by
  cases h with
  | session =>
    obtain ⟨_, _, _, _, _, _, hraw, -⟩ :=
      parse_diagnostic_session_control_response_eq_ok_iff.mp hparse
    cases hraw
    exact .session (by simp)
  | reset =>
    obtain ⟨other, rest, hraw, hlen, -⟩ := parse_ecu_reset_response_eq_ok_iff.mp hparse
    cases hraw
    exact .reset hlen
  | number_of_dtc =>
    obtain ⟨other, _, format, _, _, _, response, hraw, hresponse, -⟩ :=
      parse_report_number_of_dtc_by_status_mask_response_eq_ok_iff.mp hparse
    cases hraw
    exact .number_of_dtc (report_number_of_dtc_variant_ok_iff.mp ⟨response, hresponse⟩) (by simp)
  | dtc_by_mask =>
    obtain ⟨other, _, records, response, hraw, hsmall, hresponse, -⟩ :=
      parse_report_dtcs_eq_ok_iff.mp hparse
    cases hraw
    exact .dtc_by_mask (report_dtcs_variant_ok_iff.mp ⟨response, hresponse⟩)
      (exists_records_iff.mp ⟨records, rfl, hsmall⟩)
  | most_recent =>
    obtain ⟨other, _, records, response, hraw, hsmall, hresponse, -⟩ :=
      parse_report_dtcs_eq_ok_iff.mp hparse
    cases hraw
    exact .most_recent (report_dtcs_variant_ok_iff.mp ⟨response, hresponse⟩)
      (exists_records_iff.mp ⟨records, rfl, hsmall⟩)
  | ext_data => exact .ext_data
  | read =>
    obtain ⟨_, _, _, hraw, hreads, -⟩ :=
      parse_read_data_by_identifier_tuple_response_eq_ok_iff.mp hparse
    obtain ⟨data, tail, _, -, rfl, -, -⟩ := Reads.cons_iff.mp hreads
    rw [hraw]
    exact .read
  | write => exact .write

theorem echoed_of_parse_ok {call : ServiceCall} {raw : Packet} {v : UdsResponse}
    (hparse : call.parse raw = .ok v) (hother : ¬ OtherEcho call raw) : Echoed call v := by
  cases call with
  | diagnostic_session_control session_id =>
    obtain ⟨session, _, _, _, _, _, rfl, rfl⟩ :=
      parse_diagnostic_session_control_response_eq_ok_iff.mp hparse
    have hsession : session = session_id := by
      by_contra hne
      exact hother (.session hne)
    exact ⟨_, _, by rw [hsession]⟩
  | ecu_reset reset_type =>
    obtain ⟨other, _, rfl, -, rfl⟩ := parse_ecu_reset_response_eq_ok_iff.mp hparse
    have hreset : other = reset_type := by
      by_contra hne
      exact hother (.reset fun hbyte => hne (to_u8_injective hbyte))
    exact ⟨_, by rw [hreset]⟩
  | report_number_of_dtc_by_status_mask mask =>
    obtain ⟨other, _, _, _, _, _, response, rfl, hresponse, rfl⟩ :=
      parse_report_number_of_dtc_by_status_mask_response_eq_ok_iff.mp hparse
    obtain rfl : other = .ReportNumberOfDTCbyStatusMask := by
      by_contra hne
      exact hother (.number_of_dtc fun hbyte => hne (to_u8_injective hbyte))
    cases hresponse
    exact ⟨_, rfl⟩
  | report_dtc_by_status_mask mask =>
    obtain ⟨other, _, _, response, rfl, -, hresponse, rfl⟩ := parse_report_dtcs_eq_ok_iff.mp hparse
    obtain rfl : other = .ReportDTCByStatusMask := by
      by_contra hne
      exact hother (.dtc_by_mask fun hbyte => hne (to_u8_injective hbyte))
    cases hresponse
    exact ⟨_, rfl⟩
  | report_most_recent_confirmed_dtc =>
    obtain ⟨other, _, _, response, rfl, -, hresponse, rfl⟩ := parse_report_dtcs_eq_ok_iff.mp hparse
    obtain rfl : other = .ReportMostRecentConfirmedDTC := by
      by_contra hne
      exact hother (.most_recent fun hbyte => hne (to_u8_injective hbyte))
    cases hresponse
    exact ⟨_, rfl⟩
  | report_dtc_ext_data_record_by_dtc_number record number =>
    obtain ⟨data, rfl, rfl⟩ :=
      parse_report_dtc_snapshot_record_by_dtc_number_response_eq_ok_iff.mp hparse
    have hhead : data.head? = some 0x06 := by
      by_contra hne
      exact hother (.ext_data hne)
    obtain ⟨rest, rfl⟩ := List.head?_eq_some_iff.mp hhead
    exact ⟨rest, rfl⟩
  | read_data_by_identifier data_identifiers =>
    match data_identifiers with
    | [data_identifier] =>
      obtain ⟨_, _, _, rfl, hreads, rfl⟩ :=
        parse_read_data_by_identifier_tuple_response_eq_ok_iff.mp hparse
      obtain ⟨data, _, _, rfl, -, -, htail⟩ := Reads.cons_iff.mp hreads
      cases htail
      exact ⟨data, rfl⟩
    | [] => trivial
    | _ :: _ :: _ => trivial
  | write_data_by_identifier data_identifier data_record =>
    obtain ⟨msb, lsb, _, rfl, rfl⟩ := parse_write_data_by_identifier_response_eq_ok_iff.mp hparse
    have hidentifier : u16_from_bytes msb lsb = data_identifier := by
      by_contra hne
      exact hother (.write hne)
    rw [hidentifier]
    rfl
  | clear_diagnostic_information => trivial
  | report_dtc_snapshot_record_by_dtc_number => trivial
  | read_data_by_identifier_tuple => trivial
  | read_memory_by_address => trivial
  | read_memory_by_address_simplified => trivial

theorem OtherEcho.verdict_eq_accept {call : ServiceCall} {raw : Packet} (h : OtherEcho call raw) :
    verdict call.sid raw = .accept := by
  cases h <;> exact verdict_positive (by decide) _

/-- A call whose last packet is a positive response returns what its parser makes of
it. -/
theorem result_of_last {call : ServiceCall} {result : EcuResponseResult} {raw : Packet}
    (h : Returns (call.run overflow_checks) es result)
    (hlast : (deliveries es).getLast? = some raw) (haccept : verdict call.sid raw = .accept) :
    result = call.parse raw := by
  rcases returns_run_iff.mp h with ⟨stop, -, rfl, -⟩ | ⟨data, inner, -, hinner, rfl⟩
  · cases hlast
  · rw [returns_last_positive hinner hlast haccept]
    rfl

/-- The call succeeds only with the parameter it requested, and returns `Err` on a
packet of its service that echoes another one. -/
structure Matched (call : ServiceCall) (es : List (Event Packet UdsCommunicationError))
    (result : EcuResponseResult) : Prop where
  echoed : ∀ v, result = .ok v → Echoed call v
  rejected : ∀ raw, (deliveries es).getLast? = some raw → OtherEcho call raw →
    ∃ e, result = err e

/-- A run matches its response with its request unless the last packet echoes
another parameter in a packet that is otherwise laid out as expected. Layouts and
echoes are read off the bytes, without the parsers. -/
theorem matched_iff {call : ServiceCall} {result : EcuResponseResult}
    (h : Returns (call.run overflow_checks) es result) :
    Matched call es result ↔
      ∀ raw, (deliveries es).getLast? = some raw → OtherEcho call raw → ¬ Layout call raw := by
  constructor
  · intro hmatched raw hlast hother hlayout
    obtain ⟨e, herr⟩ := hmatched.rejected raw hlast hother
    obtain ⟨v, hv⟩ := hlayout.parse_ok
    rw [result_of_last h hlast hother.verdict_eq_accept, hv] at herr
    cases herr
  · intro hlayout
    refine ⟨?_, ?_⟩
    · rintro v rfl
      obtain ⟨data, raw, -, -, hlast, hparse⟩ := exchange_of_returns_ok h
      refine echoed_of_parse_ok hparse fun hother => ?_
      exact hlayout raw hlast hother (hother.layout hparse)
    · intro raw hlast hother
      have hnonempty : raw ≠ [] := by
        rintro rfl
        cases hother
      rw [result_of_last h hlast hother.verdict_eq_accept]
      refine (noPanic_parse fun _ => hnonempty).err_of_not_ok fun v hparse => ?_
      exact hlayout raw hlast hother (hother.layout hparse)

theorem matched_iff_write :
    Matched (write_data_by_identifier 0xF190 [0xAA])
      [.sent [0x2E, 0xF1, 0x90, 0xAA] (.ok ()), .received (.ok [0x6E, 0xF1, 0x90])]
      (.ok (.WriteDataByIdentifier (.Parsed ⟨0xF190⟩))) := by
  have haccept : judge true 0x2E 0 [0x6E, 0xF1, 0x90] = returned (.ok [0x6E, 0xF1, 0x90]) := by
    decide
  have hrun : Returns ((write_data_by_identifier 0xF190 [0xAA]).run true)
      [.sent [0x2E, 0xF1, 0x90, 0xAA] (.ok ()), .received (.ok [0x6E, 0xF1, 0x90])]
      (.ok (.WriteDataByIdentifier (.Parsed ⟨0xF190⟩))) := returns_run_of_answer rfl haccept rfl
  apply (matched_iff hrun).mpr
  intro raw hlast hother
  cases hlast
  cases hother with
  | write hne => exact absurd rfl hne

/-- A write to identifier 0xF190 succeeds on the response to a write to 0xF191. -/
theorem not_matched_write :
    Returns ((write_data_by_identifier 0xF190 [0xAA]).run true)
        [.sent [0x2E, 0xF1, 0x90, 0xAA] (.ok ()), .received (.ok [0x6E, 0xF1, 0x91])]
        (.ok (.WriteDataByIdentifier (.Parsed ⟨0xF191⟩))) ∧
      ¬ Matched (write_data_by_identifier 0xF190 [0xAA])
        [.sent [0x2E, 0xF1, 0x90, 0xAA] (.ok ()), .received (.ok [0x6E, 0xF1, 0x91])]
        (.ok (.WriteDataByIdentifier (.Parsed ⟨0xF191⟩))) := by
  have haccept : judge true 0x2E 0 [0x6E, 0xF1, 0x91] = returned (.ok [0x6E, 0xF1, 0x91]) := by
    decide
  constructor
  · exact returns_run_of_answer rfl haccept rfl
  · intro hmatched
    have hechoed := hmatched.echoed _ rfl
    cases hechoed

end uds_rs.uds.ServiceCall

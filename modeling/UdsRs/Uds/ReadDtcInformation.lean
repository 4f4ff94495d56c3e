import UdsRs.Rust.Bytes
import UdsRs.Uds.Response
import UdsRs.Uds.SendAndReceive

namespace uds_rs.uds

open rust TryFromPrimitive

def compose_report_number_of_dtc_by_status_mask_request (subfunction : SubFunction)
    (dtc_status_mask : UInt8) : Packet :=
  [READ_DTC_INFORMATION_SID, to_u8 subfunction, dtc_status_mask]

def compose_report_dtc_snapshot_request (sub_function : SubFunction) (dtc_mask_record : UInt32)
    (dtc_snapshot_record_number : UInt8) : Packet :=
  [READ_DTC_INFORMATION_SID, to_u8 sub_function, u32_high dtc_mask_record,
    u32_middle dtc_mask_record, u32_low dtc_mask_record, dtc_snapshot_record_number]

def compose_request_short (sub_function : SubFunction) : Packet :=
  [READ_DTC_INFORMATION_SID, to_u8 sub_function]

def compose_report_dtc_ext_data_by_dtc_number_request (sub_function : SubFunction)
    (dtc_mask_record : UInt32) (dtc_ext_data_record_number : UInt8) : Packet :=
  [READ_DTC_INFORMATION_SID, to_u8 sub_function, u32_high dtc_mask_record,
    u32_middle dtc_mask_record, u32_low dtc_mask_record, dtc_ext_data_record_number]

/-- The dispatch of `parse_report_number_of_dtc_by_status_mask_response` on the
report type. A known type that it does not expect is reported as a mistake in the
arguments. -/
def report_number_of_dtc_variant (report_type : SubFunction)
    (parsed : ReportNumberOfDTCByMaskResponse) : Outcome UdsError ReadDTCInformationResponse :=
  match report_type with
  | .ReportNumberOfDTCbyStatusMask => return .ReportNumberOfDTCbyStatusMask parsed
  | .ReportNumberOfDTCBySeverityMaskRecord => return .ReportNumberOfDTCBySeverityMaskRecord parsed
  | .ReportNumberOfMirrorMemoryDTCByStatusMask =>
    return .ReportNumberOfMirrorMemoryDTCByStatusMask parsed
  | .ReportNumberOfEmissionsOBDDTCByStatusMask =>
    return .ReportNumberOfEmissionsOBDDTCByStatusMask parsed
  | _ => err .InvalidArgument

/-- Shared between subfunctions 0x01, 0x07, 0x11, 0x12. The report type is taken
from the packet and not compared with the one that was requested. -/
def parse_report_number_of_dtc_by_status_mask_response (raw_response : Packet) :
    EcuResponseResult := do
  let (sid, response_iter) ← ok_or (next raw_response) .ResponseEmpty
  if sid ≠ READ_DTC_INFORMATION_SID + SEND_RECEIVE_SID_OFFSET then
    err (.SidMismatch (READ_DTC_INFORMATION_SID + SEND_RECEIVE_SID_OFFSET) sid raw_response)
  else
    let (report_type_byte, response_iter) ← ok_or (next response_iter) (.InvalidLength raw_response)
    let report_type ← map_err (try_from_primitive report_type_byte) fun _ =>
      .ResponseIncorrect raw_response
    let (dtc_status_availability_mask, response_iter) ←
      ok_or (next response_iter) (.InvalidLength raw_response)
    let (dtc_format_identifier_byte, response_iter) ←
      ok_or (next response_iter) (.InvalidLength raw_response)
    let dtc_format_identifier ← map_err (try_from_primitive dtc_format_identifier_byte) fun _ =>
      .ResponseIncorrect raw_response
    let (msb, response_iter) ← ok_or (next response_iter) (.InvalidLength raw_response)
    let (lsb, _) ← ok_or (next response_iter) (.InvalidLength raw_response)
    let dtc_count := u16_from_bytes msb lsb
    let response ← report_number_of_dtc_variant report_type
      { dtc_status_availability_mask, dtc_format_identifier, dtc_count }
    return .ReadDTCInformation (.Parsed response)

/-- `while let Some(&high_byte) = response_iter.next()`. Each of the three `next`
calls for the rest of a record fails with the same error, so a list of records is
cut off nowhere else than between two of them. -/
def read_dtc_and_status_records (raw_response : Packet) :
    Packet → List DTCAndStatusRecord → Outcome UdsError (List DTCAndStatusRecord)
  | [], dtc_and_status_records => return dtc_and_status_records
  | high_byte :: middle_byte :: low_byte :: status_of_dtc :: response_iter, dtc_and_status_records =>
    let dtc := u32_from_bytes high_byte middle_byte low_byte
    read_dtc_and_status_records raw_response response_iter
      (dtc_and_status_records ++ [{ dtc, status_of_dtc }])
  | _, _ => err (.InvalidLength raw_response)

/-- The dispatch of `parse_report_dtcs` on the report type, once all of the packet
has been read. -/
def report_dtcs_variant (sub_function : SubFunction) (parsed : ReportDTCsResponse) :
    Outcome UdsError ReadDTCInformationResponse :=
  match sub_function with
  | .ReportDTCByStatusMask => return .ReportDTCByStatusMask parsed
  | .ReportSupportedDTC => return .ReportSupportedDTC parsed
  | .ReportFirstTestFailedDTC => return .ReportFirstTestFailedDTC parsed
  | .ReportFirstConfirmedDTC => return .ReportFirstConfirmedDTC parsed
  | .ReportMostRecentTestFailedDTC => return .ReportMostRecentTestFailedDTC parsed
  | .ReportMostRecentConfirmedDTC => return .ReportMostRecentConfirmedDTC parsed
  | .ReportMirrorMemoryDTCByStatusMask => return .ReportMirrorMemoryDTCByStatusMask parsed
  | .ReportEmissionsOBDDTCByStatusMask => return .ReportEmissionsOBDDTCByStatusMask parsed
  | .ReportDTCWithPermanentStatus => return .ReportDTCWithPermanentStatus parsed
  | _ => err .InvalidArgument

/-- Shared between 0x02, 0x0A, 0x0B, 0x0C, 0x0D, 0x0E, 0x0F, 0x13, 0x15. The report
type is taken from the packet and not compared with the one that was requested. -/
def parse_report_dtcs (raw_response : Packet) : EcuResponseResult := do
  let (sid, response_iter) ← ok_or (next raw_response) .ResponseEmpty
  if sid ≠ READ_DTC_INFORMATION_SID + SEND_RECEIVE_SID_OFFSET then
    err (.SidMismatch (READ_DTC_INFORMATION_SID + SEND_RECEIVE_SID_OFFSET) sid raw_response)
  else
    let (report_type, response_iter) ← ok_or (next response_iter) (.InvalidLength raw_response)
    let (dtc_status_availability_mask, response_iter) ←
      ok_or (next response_iter) (.InvalidLength raw_response)
    let dtc_and_status_records ← read_dtc_and_status_records raw_response response_iter []
    let parsed : ReportDTCsResponse := { dtc_status_availability_mask, dtc_and_status_records }
    let sub_function ← map_err (try_from_primitive report_type) fun _ =>
      .ResponseIncorrect raw_response
    let response ← report_dtcs_variant sub_function parsed
    return .ReadDTCInformation (.Parsed response)

def parse_report_dtc_snapshot_record_by_dtc_number_response (raw_response : Packet) :
    EcuResponseResult := do
  let (sid, _) ← ok_or (next raw_response) .ResponseEmpty
  if sid ≠ READ_DTC_INFORMATION_SID + SEND_RECEIVE_SID_OFFSET then
    err (.SidMismatch (READ_DTC_INFORMATION_SID + SEND_RECEIVE_SID_OFFSET) sid raw_response)
  else
    let data ← slice_from raw_response 1
    return .ReadDTCInformation (.Raw data)

def parse_report_dtc_ext_data_by_dtc_number_response (raw_response : Packet) :
    EcuResponseResult := do
  let (sid, _) ← ok_or (next raw_response) .ResponseEmpty
  if sid ≠ READ_DTC_INFORMATION_SID + SEND_RECEIVE_SID_OFFSET then
    err (.SidMismatch (READ_DTC_INFORMATION_SID + SEND_RECEIVE_SID_OFFSET) sid raw_response)
  else
    let data ← slice_from raw_response 1
    return .ReadDTCInformation (.Raw data)

namespace UdsClient

def report_number_of_dtc_by_status_mask (overflow_checks : Bool) (dtc_status_mask : UInt8) :
    UdsFuture UdsResponse := do
  let request := compose_report_number_of_dtc_by_status_mask_request
    .ReportNumberOfDTCbyStatusMask dtc_status_mask
  let raw_response ← send_and_receive overflow_checks request
  parse_report_number_of_dtc_by_status_mask_response raw_response

def report_dtc_by_status_mask (overflow_checks : Bool) (dtc_status_mask : UInt8) :
    UdsFuture UdsResponse := do
  let request := compose_report_number_of_dtc_by_status_mask_request
    .ReportDTCByStatusMask dtc_status_mask
  let raw_response ← send_and_receive overflow_checks request
  parse_report_dtcs raw_response

/-- The most significant byte of `dtc_mask_record` is dropped, as a DTC has three
bytes on the wire. -/
def report_dtc_snapshot_record_by_dtc_number (overflow_checks : Bool) (dtc_mask_record : UInt32)
    (dtc_snapshot_record_number : UInt8) : UdsFuture UdsResponse := do
  let request := compose_report_dtc_snapshot_request
    .ReportDTCSnapshotRecordByDTCNumber dtc_mask_record dtc_snapshot_record_number
  let raw_response ← send_and_receive overflow_checks request
  parse_report_dtc_snapshot_record_by_dtc_number_response raw_response

def report_dtc_ext_data_record_by_dtc_number (overflow_checks : Bool) (dtc_mask_record : UInt32)
    (dtc_ext_data_record_number : UInt8) : UdsFuture UdsResponse := do
  let request := compose_report_dtc_ext_data_by_dtc_number_request
    .ReportDTCExtDataRecordByDTCNumber dtc_mask_record dtc_ext_data_record_number
  let raw_response ← send_and_receive overflow_checks request
  parse_report_dtc_ext_data_by_dtc_number_response raw_response

def report_most_recent_confirmed_dtc (overflow_checks : Bool) : UdsFuture UdsResponse := do
  let request := compose_request_short .ReportMostRecentConfirmedDTC
  let raw_response ← send_and_receive overflow_checks request
  parse_report_dtcs raw_response

end UdsClient

def number_of_dtc_types : List SubFunction :=
  [.ReportNumberOfDTCbyStatusMask, .ReportNumberOfDTCBySeverityMaskRecord,
    .ReportNumberOfMirrorMemoryDTCByStatusMask, .ReportNumberOfEmissionsOBDDTCByStatusMask]

def dtcs_types : List SubFunction :=
  [.ReportDTCByStatusMask, .ReportSupportedDTC, .ReportFirstTestFailedDTC, .ReportFirstConfirmedDTC,
    .ReportMostRecentTestFailedDTC, .ReportMostRecentConfirmedDTC,
    .ReportMirrorMemoryDTCByStatusMask, .ReportEmissionsOBDDTCByStatusMask,
    .ReportDTCWithPermanentStatus]

theorem report_number_of_dtc_variant_ok_iff {report_type : SubFunction}
    {parsed : ReportNumberOfDTCByMaskResponse} :
    (∃ response, report_number_of_dtc_variant report_type parsed = .ok response) ↔
      report_type ∈ number_of_dtc_types := by
  cases report_type <;> simp [report_number_of_dtc_variant, number_of_dtc_types]

theorem report_dtcs_variant_ok_iff {sub_function : SubFunction} {parsed : ReportDTCsResponse} :
    (∃ response, report_dtcs_variant sub_function parsed = .ok response) ↔
      sub_function ∈ dtcs_types := by
  cases sub_function <;> simp [report_dtcs_variant, dtcs_types]

/-- The four bytes of a record: the 24-bit DTC, most significant byte first,
and the status. -/
def DTCAndStatusRecord.bytes (r : DTCAndStatusRecord) : Packet :=
  [u32_high r.dtc, u32_middle r.dtc, u32_low r.dtc, r.status_of_dtc]

theorem parse_report_number_of_dtc_by_status_mask_response_eq_ok_iff
    {raw : Packet} {v : UdsResponse} :
    parse_report_number_of_dtc_by_status_mask_response raw = .ok v ↔
      ∃ report_type mask format msb lsb rest response,
        raw = 0x59 :: to_u8 (report_type : SubFunction) :: mask :: to_u8 (format : DTCFormat) ::
          msb :: lsb :: rest ∧
        report_number_of_dtc_variant report_type ⟨mask, format, u16_from_bytes msb lsb⟩ =
          .ok response ∧
        v = .ReadDTCInformation (.Parsed response) := by
  have hsid : READ_DTC_INFORMATION_SID + SEND_RECEIVE_SID_OFFSET = 0x59 := rfl
  constructor
  · intro h
    rcases raw with _ | ⟨sid, rest⟩
    · simp [parse_report_number_of_dtc_by_status_mask_response] at h
    · by_cases hfirst : sid = 0x59
      · subst hfirst
        rcases rest with _ | ⟨type_byte, _ | ⟨mask, _ | ⟨format_byte, _ | ⟨msb, _ | ⟨lsb, rest⟩⟩⟩⟩⟩
        all_goals
          simp only [parse_report_number_of_dtc_by_status_mask_response, hsid, next_cons, next_nil,
            ok_or_some, ok_or_none, ok_bind, err_bind, ne_eq, not_true_eq_false, reduceIte,
            bind_eq_ok_iff, map_err_eq_ok_iff, err_ne_ok, and_false, exists_false] at h
        obtain ⟨report_type, htype, format, hformat, response, hresponse, hv⟩ := h
        obtain rfl := try_from_primitive_eq_ok_iff.mp htype
        obtain rfl := try_from_primitive_eq_ok_iff.mp hformat
        cases hv
        exact ⟨report_type, mask, format, msb, lsb, rest, response, rfl, hresponse, rfl⟩
      · simp [parse_report_number_of_dtc_by_status_mask_response, hsid, hfirst] at h
  · rintro ⟨report_type, mask, format, msb, lsb, rest, response, rfl, hresponse, rfl⟩
    simp [parse_report_number_of_dtc_by_status_mask_response, hsid, hresponse]

theorem read_dtc_and_status_records_eq_ok_iff {raw_response iter : Packet}
    {acc out : List DTCAndStatusRecord} :
    read_dtc_and_status_records raw_response iter acc = .ok out ↔
      ∃ records, iter = records.flatMap DTCAndStatusRecord.bytes ∧
        (∀ r ∈ records, r.dtc.toNat < 2 ^ 24) ∧ out = acc ++ records := by
  fun_induction read_dtc_and_status_records raw_response iter acc with
  | case1 acc =>
    constructor
    · intro h
      cases h
      exact ⟨[], rfl, by simp, by simp⟩
    · rintro ⟨records, hbytes, -, rfl⟩
      cases records with
      | nil => simp
      | cons r records => simp [DTCAndStatusRecord.bytes] at hbytes
  | case2 high middle low status iter acc dtc ih =>
    rw [ih]
    constructor
    · rintro ⟨records, rfl, hsmall, rfl⟩
      refine ⟨⟨dtc, status⟩ :: records, by simp [DTCAndStatusRecord.bytes, dtc], ?_, by simp⟩
      intro r hr
      rcases List.mem_cons.mp hr with rfl | hr
      · exact u32_from_bytes_lt high middle low
      · exact hsmall r hr
    · rintro ⟨records, hbytes, hsmall, rfl⟩
      cases records with
      | nil => simp at hbytes
      | cons r records =>
        simp only [List.flatMap_cons, DTCAndStatusRecord.bytes, List.cons_append, List.nil_append,
          List.cons.injEq] at hbytes
        obtain ⟨rfl, rfl, rfl, rfl, rfl⟩ := hbytes
        have hdtc : dtc = r.dtc := u32_from_bytes_high_middle_low (hsmall r List.mem_cons_self)
        exact ⟨records, rfl, fun s hs => hsmall s (List.mem_cons_of_mem r hs), by simp [hdtc]⟩
  | case3 iter acc hnil hcons =>
    simp only [err_ne_ok, false_iff]
    rintro ⟨records, rfl, -⟩
    cases records with
    | nil => exact hnil rfl
    | cons r records => exact hcons _ _ _ _ _ rfl

theorem records_length (records : List DTCAndStatusRecord) :
    (records.flatMap DTCAndStatusRecord.bytes).length = 4 * records.length := by
  induction records with
  | nil => rfl
  | cons r records ih =>
    have hrecord : r.bytes.length = 4 := rfl
    rw [List.flatMap_cons, List.length_append, hrecord, ih, List.length_cons]
    omega

/-- Four bytes make a record, so any multiple of four makes a list of them. -/
theorem exists_records_iff {bytes : Packet} :
    (∃ records : List DTCAndStatusRecord, bytes = records.flatMap DTCAndStatusRecord.bytes ∧
      ∀ r ∈ records, r.dtc.toNat < 2 ^ 24) ↔ 4 ∣ bytes.length := by
  constructor
  · rintro ⟨records, rfl, -⟩
    exact ⟨records.length, records_length records⟩
  · intro h
    match bytes, h with
    | [], _ => exact ⟨[], rfl, by simp⟩
    | [high], h => simp at h
    | [high, middle], h => simp at h
    | [high, middle, low], h => simp at h
    | high :: middle :: low :: status :: rest, h =>
      have hrest : 4 ∣ rest.length := by
        simp only [List.length_cons] at h
        omega
      obtain ⟨records, hbytes, hsmall⟩ := exists_records_iff.mpr hrest
      refine ⟨⟨u32_from_bytes high middle low, status⟩ :: records, ?_, ?_⟩
      · simp [DTCAndStatusRecord.bytes, hbytes]
      · intro r hr
        rcases List.mem_cons.mp hr with rfl | hr
        · exact u32_from_bytes_lt high middle low
        · exact hsmall r hr
termination_by bytes.length

theorem parse_report_dtcs_eq_ok_iff {raw : Packet} {v : UdsResponse} :
    parse_report_dtcs raw = .ok v ↔
      ∃ sub_function mask records response,
        raw = 0x59 :: to_u8 (sub_function : SubFunction) :: mask ::
          records.flatMap DTCAndStatusRecord.bytes ∧
        (∀ r ∈ records, r.dtc.toNat < 2 ^ 24) ∧
        report_dtcs_variant sub_function ⟨mask, records⟩ = .ok response ∧
        v = .ReadDTCInformation (.Parsed response) := by
  have hsid : READ_DTC_INFORMATION_SID + SEND_RECEIVE_SID_OFFSET = 0x59 := rfl
  constructor
  · intro h
    rcases raw with _ | ⟨sid, rest⟩
    · simp [parse_report_dtcs] at h
    · by_cases hfirst : sid = 0x59
      · subst hfirst
        rcases rest with _ | ⟨type_byte, _ | ⟨mask, iter⟩⟩
        all_goals
          simp only [parse_report_dtcs, hsid, next_cons, next_nil, ok_or_some, ok_or_none, ok_bind,
            err_bind, ne_eq, not_true_eq_false, reduceIte, bind_eq_ok_iff, map_err_eq_ok_iff,
            err_ne_ok, read_dtc_and_status_records_eq_ok_iff, List.nil_append] at h
        obtain ⟨_, ⟨records, rfl, hsmall, rfl⟩, sub_function, htype, response, hresponse, hv⟩ := h
        obtain rfl := try_from_primitive_eq_ok_iff.mp htype
        cases hv
        exact ⟨sub_function, mask, _, response, rfl, hsmall, hresponse, rfl⟩
      · simp [parse_report_dtcs, hsid, hfirst] at h
  · rintro ⟨sub_function, mask, records, response, rfl, hsmall, hresponse, rfl⟩
    have hrecords : read_dtc_and_status_records
        (0x59 :: to_u8 sub_function :: mask :: records.flatMap DTCAndStatusRecord.bytes)
        (records.flatMap DTCAndStatusRecord.bytes) [] = .ok records :=
      read_dtc_and_status_records_eq_ok_iff.mpr ⟨records, rfl, hsmall, rfl⟩
    simp [parse_report_dtcs, hsid, hrecords, hresponse]

theorem parse_report_dtc_snapshot_record_by_dtc_number_response_eq_ok_iff
    {raw : Packet} {v : UdsResponse} :
    parse_report_dtc_snapshot_record_by_dtc_number_response raw = .ok v ↔
      ∃ data, raw = 0x59 :: data ∧ v = .ReadDTCInformation (.Raw data) := by
  have hsid : READ_DTC_INFORMATION_SID + SEND_RECEIVE_SID_OFFSET = 0x59 := rfl
  rcases raw with _ | ⟨sid, rest⟩
  · simp [parse_report_dtc_snapshot_record_by_dtc_number_response]
  · by_cases h : sid = 0x59
    · subst h
      simp [parse_report_dtc_snapshot_record_by_dtc_number_response, hsid, eq_comm]
    · simp [parse_report_dtc_snapshot_record_by_dtc_number_response, hsid, h]

end uds_rs.uds

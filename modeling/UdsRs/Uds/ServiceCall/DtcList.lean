import UdsRs.Uds.ServiceCall.Serialise

namespace uds_rs.uds

open rust TryFromPrimitive

def ReadDTCInformationResponse.dtc_list :
    ReadDTCInformationResponse → Option (UInt8 × ReportDTCsResponse)
  | .ReportDTCByStatusMask parsed => some (0x02, parsed)
  | .ReportSupportedDTC parsed => some (0x0A, parsed)
  | .ReportFirstTestFailedDTC parsed => some (0x0B, parsed)
  | .ReportFirstConfirmedDTC parsed => some (0x0C, parsed)
  | .ReportMostRecentTestFailedDTC parsed => some (0x0D, parsed)
  | .ReportMostRecentConfirmedDTC parsed => some (0x0E, parsed)
  | .ReportMirrorMemoryDTCByStatusMask parsed => some (0x0F, parsed)
  | .ReportEmissionsOBDDTCByStatusMask parsed => some (0x13, parsed)
  | .ReportDTCWithPermanentStatus parsed => some (0x15, parsed)
  | _ => none

def dtc_list_bytes : List UInt8 := [0x02, 0x0A, 0x0B, 0x0C, 0x0D, 0x0E, 0x0F, 0x13, 0x15]

theorem dtc_list_eq_some_iff {response : ReadDTCInformationResponse} {byte : UInt8}
    {parsed : ReportDTCsResponse} :
    response.dtc_list = some (byte, parsed) ↔
      ∃ sub_function, to_u8 (sub_function : SubFunction) = byte ∧
        report_dtcs_variant sub_function parsed = .ok response := by
  constructor
  · intro h
    cases response with
    | ReportDTCByStatusMask =>
      cases h
      exact ⟨.ReportDTCByStatusMask, rfl, rfl⟩
    | ReportSupportedDTC =>
      cases h
      exact ⟨.ReportSupportedDTC, rfl, rfl⟩
    | ReportFirstTestFailedDTC =>
      cases h
      exact ⟨.ReportFirstTestFailedDTC, rfl, rfl⟩
    | ReportFirstConfirmedDTC =>
      cases h
      exact ⟨.ReportFirstConfirmedDTC, rfl, rfl⟩
    | ReportMostRecentTestFailedDTC =>
      cases h
      exact ⟨.ReportMostRecentTestFailedDTC, rfl, rfl⟩
    | ReportMostRecentConfirmedDTC =>
      cases h
      exact ⟨.ReportMostRecentConfirmedDTC, rfl, rfl⟩
    | ReportMirrorMemoryDTCByStatusMask =>
      cases h
      exact ⟨.ReportMirrorMemoryDTCByStatusMask, rfl, rfl⟩
    | ReportEmissionsOBDDTCByStatusMask =>
      cases h
      exact ⟨.ReportEmissionsOBDDTCByStatusMask, rfl, rfl⟩
    | ReportDTCWithPermanentStatus =>
      cases h
      exact ⟨.ReportDTCWithPermanentStatus, rfl, rfl⟩
    | _ => cases h
  · rintro ⟨sub_function, rfl, h⟩
    cases sub_function <;> cases h
    all_goals rfl

theorem mem_dtc_list_bytes_iff {byte : UInt8} :
    byte ∈ dtc_list_bytes ↔ ∃ sub_function ∈ dtcs_types, to_u8 sub_function = byte := by
  have hbytes : dtc_list_bytes = dtcs_types.map to_u8 := rfl
  rw [hbytes, List.mem_map]

/-- The packets with the layout of a DTC list: the response SID, one of nine report
types, the mask and whole records. -/
structure DtcListGrammar (raw : Packet) : Prop where
  sid : raw[0]? = some 0x59
  fields : 3 ≤ raw.length
  records : 4 ∣ raw.length - 3
  report_type : ∃ byte ∈ dtc_list_bytes, raw[1]? = some byte

/-- The response a DTC list stands for: the variant of its report type, its mask and
its records in order, none of them altered or left out. -/
structure DtcListValue (raw : Packet) (v : UdsResponse) (response : ReadDTCInformationResponse)
    (byte mask : UInt8) (records : List DTCAndStatusRecord) : Prop where
  parsed : v = .ReadDTCInformation (.Parsed response)
  variant : response.dtc_list = some (byte, ⟨mask, records⟩)
  report_type : raw[1]? = some byte
  mask : raw[2]? = some mask
  count : records.length = (raw.length - 3) / 4
  small : ∀ r ∈ records, r.dtc.toNat < 2 ^ 24
  written_back : v.serialise = raw

theorem serialise_of_dtc_list {response : ReadDTCInformationResponse} {byte mask : UInt8}
    {records : List DTCAndStatusRecord}
    (h : response.dtc_list = some (byte, ⟨mask, records⟩)) :
    UdsResponse.serialise (.ReadDTCInformation (.Parsed response)) =
      0x59 :: byte :: mask :: records.flatMap DTCAndStatusRecord.bytes := by
  obtain ⟨sub_function, rfl, hresponse⟩ := dtc_list_eq_some_iff.mp h
  exact congrArg (0x59 :: ·) (report_dtcs_variant_bytes hresponse)

theorem exists_parse_report_dtcs_iff {raw : Packet} :
    (∃ v, parse_report_dtcs raw = .ok v) ↔ DtcListGrammar raw := by
  constructor
  · rintro ⟨v, h⟩
    obtain ⟨sub_function, mask, records, response, rfl, hsmall, hresponse, -⟩ :=
      parse_report_dtcs_eq_ok_iff.mp h
    refine ⟨rfl, by simp, exists_records_iff.mp ⟨records, rfl, hsmall⟩, to_u8 sub_function, ?_, rfl⟩
    exact mem_dtc_list_bytes_iff.mpr
      ⟨sub_function, report_dtcs_variant_ok_iff.mp ⟨response, hresponse⟩, rfl⟩
  · rintro ⟨hsid, hfields, hrecords, byte, hbyte, htype⟩
    match raw, hfields with
    | sid :: report_type :: mask :: bytes, _ =>
      cases hsid
      cases htype
      obtain ⟨sub_function, hmem, rfl⟩ := mem_dtc_list_bytes_iff.mp hbyte
      obtain ⟨records, rfl, hsmall⟩ := exists_records_iff.mpr (by simpa using hrecords)
      obtain ⟨response, hresponse⟩ := report_dtcs_variant_ok_iff.mpr hmem
      exact ⟨_, parse_report_dtcs_eq_ok_iff.mpr
        ⟨sub_function, mask, records, response, rfl, hsmall, hresponse, rfl⟩⟩

theorem dtcListValue_of_parse_ok {raw : Packet} {v : UdsResponse}
    (h : parse_report_dtcs raw = .ok v) :
    ∃ response byte mask records, DtcListValue raw v response byte mask records := by
  obtain ⟨sub_function, mask, records, response, rfl, hsmall, hresponse, rfl⟩ :=
    parse_report_dtcs_eq_ok_iff.mp h
  have hvariant := dtc_list_eq_some_iff.mpr ⟨sub_function, rfl, hresponse⟩
  refine ⟨response, _, mask, records, rfl, hvariant, rfl, rfl, ?_, hsmall,
    serialise_of_dtc_list hvariant⟩
  simp only [List.length_cons, records_length]
  omega

theorem parse_serialise_dtc_list {response : ReadDTCInformationResponse} {byte mask : UInt8}
    {records : List DTCAndStatusRecord}
    (h : response.dtc_list = some (byte, ⟨mask, records⟩))
    (hsmall : ∀ r ∈ records, r.dtc.toNat < 2 ^ 24) :
    parse_report_dtcs (UdsResponse.serialise (.ReadDTCInformation (.Parsed response))) =
      .ok (.ReadDTCInformation (.Parsed response)) := by
  obtain ⟨sub_function, rfl, hresponse⟩ := dtc_list_eq_some_iff.mp h
  rw [serialise_of_dtc_list h]
  exact parse_report_dtcs_eq_ok_iff.mpr
    ⟨sub_function, mask, records, response, rfl, hsmall, hresponse, rfl⟩

/-- The loop stops inside a record exactly when the bytes are not a multiple of
four. -/
theorem read_dtc_and_status_records_truncated (raw_response : Packet) {iter : Packet}
    {acc : List DTCAndStatusRecord} (h : ¬ 4 ∣ iter.length) :
    read_dtc_and_status_records raw_response iter acc = err (.InvalidLength raw_response) := by
  fun_induction read_dtc_and_status_records raw_response iter acc with
  | case1 acc => simp at h
  | case2 high middle low status iter acc dtc ih =>
    apply ih
    simp only [List.length_cons] at h
    omega
  | case3 iter acc hnil hcons => rfl

/-- The lengths are checked before the report type is, so an incomplete list is
refused for its length even where its type is of another family. -/
theorem parse_report_dtcs_truncated {raw : Packet} (hsid : raw[0]? = some 0x59)
    (hlen : 2 ≤ raw.length) (h : raw.length = 2 ∨ ¬ 4 ∣ raw.length - 3) :
    parse_report_dtcs raw = err (.InvalidLength raw) := by
  have hexpected : READ_DTC_INFORMATION_SID + SEND_RECEIVE_SID_OFFSET = 0x59 := rfl
  match raw, hlen with
  | [sid, report_type], _ =>
    cases hsid
    rfl
  | sid :: report_type :: mask :: iter, _ =>
    cases hsid
    have hiter : ¬ 4 ∣ iter.length := by simpa using h
    simp [parse_report_dtcs, hexpected, read_dtc_and_status_records_truncated _ hiter]

/-- Parsing and serialising are inverse to each other on the DTC lists of any
length, and an incomplete list has an invalid length whatever its report type. -/
theorem parse_report_dtcs_bijection :
    (∀ raw, (∃ v, parse_report_dtcs raw = .ok v) ↔ DtcListGrammar raw) ∧
    (∀ raw v, parse_report_dtcs raw = .ok v →
      ∃ response byte mask records, DtcListValue raw v response byte mask records) ∧
    (∀ (response : ReadDTCInformationResponse) byte mask records,
      response.dtc_list = some (byte, ⟨mask, records⟩) → (∀ r ∈ records, r.dtc.toNat < 2 ^ 24) →
        parse_report_dtcs (UdsResponse.serialise (.ReadDTCInformation (.Parsed response))) =
          .ok (.ReadDTCInformation (.Parsed response))) ∧
    ∀ raw : Packet, raw[0]? = some 0x59 → 2 ≤ raw.length →
      raw.length = 2 ∨ ¬ 4 ∣ raw.length - 3 → parse_report_dtcs raw = err (.InvalidLength raw) := by
  refine ⟨fun raw => exists_parse_report_dtcs_iff, ?_, ?_, ?_⟩
  · intro raw v h
    exact dtcListValue_of_parse_ok h
  · intro response byte mask records h hsmall
    exact parse_serialise_dtc_list h hsmall
  · intro raw hsid hlen h
    exact parse_report_dtcs_truncated hsid hlen h

theorem parse_report_dtcs_bijection_one_record :
    parse_report_dtcs [0x59, 0x0E, 0xFF, 0x12, 0x34, 0x56, 0x2F] =
      .ok (.ReadDTCInformation (.Parsed (.ReportMostRecentConfirmedDTC
        ⟨0xFF, [⟨0x123456, 0x2F⟩]⟩))) := by
  have hsmall : ∀ r ∈ [(⟨0x123456, 0x2F⟩ : DTCAndStatusRecord)], r.dtc.toNat < 2 ^ 24 := by decide
  exact parse_report_dtcs_bijection.2.2.1 (.ReportMostRecentConfirmedDTC
    ⟨0xFF, [⟨0x123456, 0x2F⟩]⟩) 0x0E 0xFF _ rfl hsmall

end uds_rs.uds

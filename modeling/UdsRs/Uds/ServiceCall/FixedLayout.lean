import UdsRs.Uds.ServiceCall.Serialise

namespace uds_rs.uds

open rust TryFromPrimitive

def ReadDTCInformationResponse.number_of_dtc :
    ReadDTCInformationResponse → Option ReportNumberOfDTCByMaskResponse
  | .ReportNumberOfDTCbyStatusMask parsed => some parsed
  | .ReportNumberOfDTCBySeverityMaskRecord parsed => some parsed
  | .ReportNumberOfMirrorMemoryDTCByStatusMask parsed => some parsed
  | .ReportNumberOfEmissionsOBDDTCByStatusMask parsed => some parsed
  | _ => none

theorem number_of_dtc_eq_some_iff {response : ReadDTCInformationResponse}
    {parsed : ReportNumberOfDTCByMaskResponse} :
    response.number_of_dtc = some parsed ↔
      ∃ report_type, report_number_of_dtc_variant report_type parsed = .ok response := by
  constructor
  · intro h
    cases response with
    | ReportNumberOfDTCbyStatusMask =>
      cases h
      exact ⟨.ReportNumberOfDTCbyStatusMask, rfl⟩
    | ReportNumberOfDTCBySeverityMaskRecord =>
      cases h
      exact ⟨.ReportNumberOfDTCBySeverityMaskRecord, rfl⟩
    | ReportNumberOfMirrorMemoryDTCByStatusMask =>
      cases h
      exact ⟨.ReportNumberOfMirrorMemoryDTCByStatusMask, rfl⟩
    | ReportNumberOfEmissionsOBDDTCByStatusMask =>
      cases h
      exact ⟨.ReportNumberOfEmissionsOBDDTCByStatusMask, rfl⟩
    | _ => cases h
  · rintro ⟨report_type, h⟩
    cases report_type <;> cases h
    all_goals rfl

/-- A parser of a fixed layout and the values of its service. A power-down time
belongs to a rapid power shutdown and to no other reset. -/
inductive FixedLayout : (Packet → EcuResponseResult) → UdsResponse → Prop where
  | session (session : UInt8) (p2 p2_star : UInt16) :
      FixedLayout parse_diagnostic_session_control_response
        (.DiagnosticSessionControl (.Parsed ⟨session, p2, p2_star⟩))
  | reset {reset_type : ResetType} {power_down_time : Option UInt8}
      (h : power_down_time.isSome ↔ reset_type = .EnableRapidPowerShutDown) :
      FixedLayout parse_ecu_reset_response (.EcuReset (.Parsed ⟨reset_type, power_down_time⟩))
  | write (data_identifier : UInt16) :
      FixedLayout parse_write_data_by_identifier_response
        (.WriteDataByIdentifier (.Parsed ⟨data_identifier⟩))
  | number_of_dtc {response : ReadDTCInformationResponse}
      {parsed : ReportNumberOfDTCByMaskResponse} (h : response.number_of_dtc = some parsed) :
      FixedLayout parse_report_number_of_dtc_by_status_mask_response
        (.ReadDTCInformation (.Parsed response))

theorem serialise_of_number_of_dtc {report_type : SubFunction}
    {parsed : ReportNumberOfDTCByMaskResponse} {response : ReadDTCInformationResponse}
    (h : report_number_of_dtc_variant report_type parsed = .ok response) :
    UdsResponse.serialise (.ReadDTCInformation (.Parsed response)) =
      0x59 :: to_u8 report_type :: parsed.bytes :=
  congrArg (0x59 :: ·) (report_number_of_dtc_variant_bytes h)

theorem FixedLayout.parse_serialise {parser : Packet → EcuResponseResult} {v : UdsResponse}
    (h : FixedLayout parser v) : parser v.serialise = .ok v := by
  cases h with
  | session session p2 p2_star =>
    apply parse_diagnostic_session_control_response_eq_ok_iff.mpr
    refine ⟨session, _, _, _, _, [], rfl, ?_⟩
    rw [u16_from_bytes_msb_lsb, u16_from_bytes_msb_lsb]
  | @reset reset_type power_down_time h =>
    apply parse_ecu_reset_response_eq_ok_iff.mpr
    refine ⟨reset_type, power_down_time.toList, rfl, ?_⟩
    unfold power_down_bytes
    cases power_down_time with
    | none =>
      have hother : reset_type ≠ .EnableRapidPowerShutDown := by simpa using h
      simp [hother]
    | some time =>
      have hrapid : reset_type = .EnableRapidPowerShutDown := by simpa using h
      simp [hrapid]
  | write data_identifier =>
    apply parse_write_data_by_identifier_response_eq_ok_iff.mpr
    refine ⟨_, _, [], rfl, ?_⟩
    rw [u16_from_bytes_msb_lsb]
  | @number_of_dtc response parsed h =>
    obtain ⟨report_type, hresponse⟩ := number_of_dtc_eq_some_iff.mp h
    rw [serialise_of_number_of_dtc hresponse]
    apply parse_report_number_of_dtc_by_status_mask_response_eq_ok_iff.mpr
    refine ⟨report_type, _, parsed.dtc_format_identifier, _, _, [], response, rfl, ?_, rfl⟩
    rw [u16_from_bytes_msb_lsb]
    exact hresponse

/-- The error for a packet that ends too early, which is `InvalidLength` once there
is a first byte to read. -/
def truncated (raw : Packet) : UdsError := if raw = [] then .ResponseEmpty else .InvalidLength raw

theorem FixedLayout.parse_take {parser : Packet → EcuResponseResult} {v : UdsResponse}
    (h : FixedLayout parser v) {k : Nat} (hk : k < v.serialise.length) :
    parser (v.serialise.take k) = err (truncated (v.serialise.take k)) := by
  cases h with
  | session session p2 p2_star =>
    match k, hk with
    | 0, _ | 1, _ | 2, _ | 3, _ | 4, _ | 5, _ => rfl
  | @reset reset_type power_down_time h =>
    cases power_down_time with
    | none =>
      match k, hk with
      | 0, _ | 1, _ => rfl
    | some time =>
      obtain rfl : reset_type = .EnableRapidPowerShutDown := by simpa using h
      match k, hk with
      | 0, _ | 1, _ | 2, _ => rfl
  | write data_identifier =>
    match k, hk with
    | 0, _ | 1, _ | 2, _ => rfl
  | @number_of_dtc response parsed h =>
    obtain ⟨report_type, hresponse⟩ := number_of_dtc_eq_some_iff.mp h
    rw [serialise_of_number_of_dtc hresponse] at hk ⊢
    have hsid : READ_DTC_INFORMATION_SID + SEND_RECEIVE_SID_OFFSET = 0x59 := rfl
    match k, hk with
    | 0, _ | 1, _ => rfl
    | 2, _ | 3, _ | 4, _ | 5, _ =>
      simp [ReportNumberOfDTCByMaskResponse.bytes, truncated,
        parse_report_number_of_dtc_by_status_mask_response, hsid]

theorem power_down_time_of_parse_ok {raw : Packet} {v : UdsResponse}
    (h : parse_ecu_reset_response raw = .ok v) :
    ∃ reset_type power_down_time, v = .EcuReset (.Parsed ⟨reset_type, power_down_time⟩) ∧
      (power_down_time.isSome ↔ reset_type = .EnableRapidPowerShutDown) := by
  obtain ⟨reset_type, rest, -, hlen, rfl⟩ := parse_ecu_reset_response_eq_ok_iff.mp h
  refine ⟨reset_type, _, rfl, ?_⟩
  unfold power_down_bytes at hlen
  by_cases hrapid : reset_type = .EnableRapidPowerShutDown
  · rw [if_pos hrapid] at hlen ⊢
    cases rest with
    | nil => simp at hlen
    | cons time rest => simp [hrapid]
  · simp [hrapid]

/-- Every value of a fixed layout is read back from its serialisation, no truncation
of it is accepted, and no accepted reset response disagrees with its type about the
power-down time. -/
theorem fixed_layout_round_trip :
    (∀ parser v, FixedLayout parser v →
      parser v.serialise = .ok v ∧
        ∀ raw, raw <+: v.serialise → raw ≠ v.serialise →
          parser raw = err (truncated raw)) ∧
    ∀ raw v, parse_ecu_reset_response raw = .ok v →
      ∃ reset_type power_down_time, v = .EcuReset (.Parsed ⟨reset_type, power_down_time⟩) ∧
        (power_down_time.isSome ↔ reset_type = .EnableRapidPowerShutDown) := by
  constructor
  · intro parser v h
    refine ⟨h.parse_serialise, ?_⟩
    intro raw hraw hne
    have htake := List.prefix_iff_eq_take.mp hraw
    have hlen : raw.length < v.serialise.length := by
      apply Nat.lt_of_le_of_ne hraw.length_le
      intro heq
      exact hne (hraw.eq_of_length heq)
    have hparse := h.parse_take hlen
    rw [← htake] at hparse
    exact hparse
  · intro raw v h
    exact power_down_time_of_parse_ok h

theorem fixed_layout_round_trip_rapid_shutdown :
    parse_ecu_reset_response [0x51, 0x04, 30] =
        .ok (.EcuReset (.Parsed ⟨.EnableRapidPowerShutDown, some 30⟩)) ∧
      parse_ecu_reset_response [0x51, 0x04] = err (.InvalidLength [0x51, 0x04]) := by
  have hlayout : FixedLayout parse_ecu_reset_response
      (.EcuReset (.Parsed ⟨.EnableRapidPowerShutDown, some 30⟩)) := .reset (by simp)
  obtain ⟨hwhole, hcut⟩ := fixed_layout_round_trip.1 _ _ hlayout
  exact ⟨hwhole, hcut [0x51, 0x04] ⟨[30], rfl⟩ (by decide)⟩

end uds_rs.uds

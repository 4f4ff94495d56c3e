import UdsRs.Rust.Stops
import UdsRs.Uds.SendAndReceive.Verdict
import UdsRs.Uds.ServiceCall

namespace uds_rs.uds

open rust TryFromPrimitive

/-- The error says what is wrong with the packet and shows the packet, or the SID
and the code of the negative response it is. -/
inductive Evidence (raw : Packet) : UdsError → Prop where
  | sid_mismatch (expected received : UInt8) : Evidence raw (.SidMismatch expected received raw)
  | did_mismatch (expected received : UInt16) : Evidence raw (.DidMismatch expected received raw)
  | invalid_length : Evidence raw (.InvalidLength raw)
  | response_incorrect : Evidence raw (.ResponseIncorrect raw)
  | nrc {rejected_sid : UInt8} {nrc : NegativeResponseCode} (hsid : raw[1]? = some rejected_sid)
      (hcode : raw[2]? = some (to_u8 nrc)) : Evidence raw (.NRC ⟨rejected_sid, nrc⟩)
  | unknown_nrc {rejected_sid code : UInt8} (hsid : raw[1]? = some rejected_sid)
      (hcode : raw[2]? = some code) : Evidence raw (.UnknownNRC rejected_sid code)

/-- How a parser can fail on the packet; `other` when it is of another report
family. -/
inductive Failure (raw : Packet) (other : Prop) : Stop UdsError → Prop where
  | empty (h : raw = []) : Failure raw other (.err .ResponseEmpty)
  | evidence {e : UdsError} (h : Evidence raw e) : Failure raw other (.err e)
  | argument (h : other) : Failure raw other (.err .InvalidArgument)

variable {raw : Packet} {other : Prop}

theorem Failure.not_panic (p : Panic) : ¬ Failure raw other (.panic p) := nofun

theorem stops_bind_first {α : Type} {f : UInt8 × Packet → Outcome UdsError α}
    (hf : ∀ sid iter, raw = sid :: iter → Stops (Failure raw other) (f (sid, iter))) :
    Stops (Failure raw other) (ok_or (next raw) .ResponseEmpty >>= f) := by
  cases hraw : raw with
  | nil => exact stops_err (.empty rfl)
  | cons sid iter =>
    rw [hraw] at hf
    exact hf sid iter rfl

theorem stops_bind_next {α : Type} {iter : Packet} {f : UInt8 × Packet → Outcome UdsError α}
    (hf : ∀ byte rest, iter = byte :: rest → Stops (Failure raw other) (f (byte, rest))) :
    Stops (Failure raw other) (ok_or (next iter) (.InvalidLength raw) >>= f) := by
  cases iter with
  | nil => exact stops_err (.evidence .invalid_length)
  | cons byte rest => exact hf byte rest rfl

theorem stops_bind_enum {A α : Type} [TryFromPrimitive A] {byte : UInt8}
    {f : A → Outcome UdsError α}
    (hf : ∀ a, to_u8 a = byte → Stops (Failure raw other) (f a)) :
    Stops (Failure raw other)
      ((map_err (try_from_primitive byte) fun _ => .ResponseIncorrect raw) >>= f) := by
  cases hbyte : (try_from_primitive byte : Except _ A) with
  | error e => exact stops_err (.evidence .response_incorrect)
  | ok a => exact hf a (try_from_primitive_eq_ok_iff.mp hbyte)

theorem stops_sid_mismatch {α : Type} (expected received : UInt8) :
    Stops (Failure raw other) (err (.SidMismatch expected received raw) : Outcome UdsError α) :=
  stops_err (.evidence (.sid_mismatch expected received))

section Parsers

theorem stops_parse_diagnostic_session_control_response :
    Stops (Failure raw other) (parse_diagnostic_session_control_response raw) := by
  apply stops_bind_first
  intro sid iter _
  apply Stops.ite (fun _ => stops_sid_mismatch _ _)
  intro _
  apply stops_bind_next
  intro session iter _
  apply stops_bind_next
  intro p2_hi iter _
  apply stops_bind_next
  intro p2_lo iter _
  apply stops_bind_next
  intro p2s_hi iter _
  apply stops_bind_next
  intro p2s_lo iter _
  exact stops_ok _

theorem stops_parse_ecu_reset_response :
    Stops (Failure raw other) (parse_ecu_reset_response raw) := by
  apply stops_bind_first
  intro sid iter _
  apply Stops.ite (fun _ => stops_sid_mismatch _ _)
  intro _
  apply stops_bind_next
  intro reset_type_byte iter _
  apply stops_bind_enum
  intro reset_type _
  apply Stops.ite
  · intro _
    apply stops_bind_next
    intro time iter _
    exact stops_ok _
  · intro _
    exact stops_ok _

theorem stops_parse_write_data_by_identifier_response :
    Stops (Failure raw other) (parse_write_data_by_identifier_response raw) := by
  apply stops_bind_first
  intro sid iter _
  apply Stops.ite (fun _ => stops_sid_mismatch _ _)
  intro _
  apply stops_bind_next
  intro msb iter _
  apply stops_bind_next
  intro lsb iter _
  exact stops_ok _

theorem stops_parse_clear_diagnostic_information_response :
    Stops (Failure raw other) (parse_clear_diagnostic_information_response raw) := by
  apply stops_bind_first
  intro sid iter _
  apply Stops.ite (fun _ => stops_sid_mismatch _ _)
  intro _
  exact stops_ok _

theorem stops_bind_slice {α : Type} {sid : UInt8} {iter : Packet} {f : Packet → Outcome UdsError α}
    (hraw : raw = sid :: iter) (hf : Stops (Failure raw other) (f iter)) :
    Stops (Failure raw other) (slice_from raw 1 >>= f) := by
  have hslice : (slice_from raw 1 : Outcome UdsError Packet) = .ok iter := by
    rw [hraw, slice_from_cons_one]
  rw [hslice, ok_bind]
  exact hf

theorem stops_parse_report_dtc_snapshot_record_by_dtc_number_response :
    Stops (Failure raw other) (parse_report_dtc_snapshot_record_by_dtc_number_response raw) := by
  apply stops_bind_first
  intro sid iter hraw
  apply Stops.ite (fun _ => stops_sid_mismatch _ _)
  intro _
  exact stops_bind_slice hraw (stops_ok _)

theorem stops_parse_read_data_by_identifier_response :
    Stops (Failure raw other) (parse_read_data_by_identifier_response raw) := by
  apply stops_bind_first
  intro sid iter hraw
  apply Stops.ite (fun _ => stops_sid_mismatch _ _)
  intro _
  exact stops_bind_slice hraw (stops_ok _)

theorem stops_read_bounded_data (len : Nat) (iter data : Packet) :
    Stops (Failure raw other) (read_bounded_data raw len iter data) := by
  rw [read_bounded_data_eq]
  split
  · exact stops_ok _
  · exact stops_err (.evidence .invalid_length)

theorem stops_read_data_records (table : List (UInt16 × UInt32)) (iter : Packet)
    (acc : List DataRecord) : Stops (Failure raw other) (read_data_records raw table iter acc) := by
  induction table generalizing iter acc with
  | nil => exact stops_ok acc
  | cons entry table ih =>
    obtain ⟨did, len⟩ := entry
    apply stops_bind_next
    intro msb iter _
    apply stops_bind_next
    intro lsb iter _
    refine .ite (fun _ => stops_err (.evidence (.did_mismatch _ _))) ?_
    intro _
    apply Stops.ite
    · intro _
      apply Stops.bind (stops_read_bounded_data _ _ _)
      intro data _
      exact ih _ _
    · intro _
      exact ih _ _

theorem stops_parse_read_data_by_identifier_tuple_response (table : List (UInt16 × UInt32)) :
    Stops (Failure raw other) (parse_read_data_by_identifier_tuple_response table raw) := by
  apply stops_bind_next
  intro sid iter _
  apply Stops.ite (fun _ => stops_sid_mismatch _ _)
  intro _
  apply Stops.bind (stops_read_data_records _ _ _)
  intro records _
  exact stops_ok _

/-- The only unchecked index is safe on every packet but the empty one. -/
theorem stops_parse_response (h : raw ≠ []) :
    Stops (Failure raw other) (parse_response raw) := by
  cases raw with
  | nil => exact absurd rfl h
  | cons first rest =>
    unfold parse_response
    rw [index_cons_zero, ok_bind]
    apply Stops.ite (fun _ => stops_sid_mismatch _ _)
    intro _
    exact stops_bind_slice rfl (stops_ok _)

end Parsers

section Families

/-- A complete number-of-DTC response, but of a known report type that counts no
DTCs. -/
def OtherThanNumberOfDtc (raw : Packet) : Prop :=
  ∃ report_type mask format msb lsb rest,
    raw = 0x59 :: to_u8 (report_type : SubFunction) :: mask :: to_u8 (format : DTCFormat) ::
      msb :: lsb :: rest ∧ report_type ∉ number_of_dtc_types

/-- A complete DTC list, but of a known report type that lists no DTCs. -/
def OtherThanDtcList (raw : Packet) : Prop :=
  ∃ sub_function mask bytes,
    raw = 0x59 :: to_u8 (sub_function : SubFunction) :: mask :: bytes ∧ 4 ∣ bytes.length ∧
      sub_function ∉ dtcs_types

theorem report_number_of_dtc_variant_of_not_mem {report_type : SubFunction}
    {parsed : ReportNumberOfDTCByMaskResponse} (h : report_type ∉ number_of_dtc_types) :
    report_number_of_dtc_variant report_type parsed = err .InvalidArgument := by
  cases report_type <;> first | rfl | exact absurd (by decide) h

theorem report_dtcs_variant_of_not_mem {sub_function : SubFunction} {parsed : ReportDTCsResponse}
    (h : sub_function ∉ dtcs_types) :
    report_dtcs_variant sub_function parsed = err .InvalidArgument := by
  cases sub_function <;> first | rfl | exact absurd (by decide) h

/-- A dispatch fails as a mistake in the arguments, and only on the other report
types. -/
theorem stops_variant {types : List SubFunction} {report_type : SubFunction}
    {x : Outcome UdsError ReadDTCInformationResponse}
    (hok : (∃ response, x = .ok response) ↔ report_type ∈ types)
    (herr : report_type ∉ types → x = err .InvalidArgument) (hother : report_type ∉ types → other) :
    Stops (Failure raw other) x := by
  by_cases hmem : report_type ∈ types
  · obtain ⟨response, rfl⟩ := hok.mpr hmem
    exact stops_ok response
  · rw [herr hmem]
    exact stops_err (.argument (hother hmem))

theorem stops_parse_report_number_of_dtc_by_status_mask_response :
    Stops (Failure raw (OtherThanNumberOfDtc raw))
      (parse_report_number_of_dtc_by_status_mask_response raw) := by
  have hexpected : READ_DTC_INFORMATION_SID + SEND_RECEIVE_SID_OFFSET = 0x59 := rfl
  apply stops_bind_first
  intro sid iter hraw
  apply Stops.ite (fun _ => stops_sid_mismatch _ _)
  intro hpositive
  apply stops_bind_next
  intro type_byte iter₁ hiter
  apply stops_bind_enum
  intro report_type htype
  apply stops_bind_next
  intro mask iter₂ hiter₁
  apply stops_bind_next
  intro format_byte iter₃ hiter₂
  apply stops_bind_enum
  intro format hformat
  apply stops_bind_next
  intro msb iter₄ hiter₃
  apply stops_bind_next
  intro lsb rest hiter₄
  refine .bind (stops_variant report_number_of_dtc_variant_ok_iff
    report_number_of_dtc_variant_of_not_mem ?_) fun response _ => stops_ok _
  intro hmem
  refine ⟨report_type, mask, format, msb, lsb, rest, ?_, hmem⟩
  rw [hraw, Decidable.not_not.mp hpositive, hexpected, hiter, htype, hiter₁, hiter₂, hformat,
    hiter₃, hiter₄]

theorem stops_read_dtc_and_status_records (iter : Packet) (acc : List DTCAndStatusRecord) :
    Stops (Failure raw other) (read_dtc_and_status_records raw iter acc) := by
  fun_induction read_dtc_and_status_records raw iter acc with
  | case1 acc => exact stops_ok acc
  | case2 high middle low status iter acc dtc ih => exact ih
  | case3 iter acc hnil hcons => exact stops_err (.evidence .invalid_length)

theorem stops_parse_report_dtcs :
    Stops (Failure raw (OtherThanDtcList raw)) (parse_report_dtcs raw) := by
  have hexpected : READ_DTC_INFORMATION_SID + SEND_RECEIVE_SID_OFFSET = 0x59 := rfl
  apply stops_bind_first
  intro sid iter hraw
  apply Stops.ite (fun _ => stops_sid_mismatch _ _)
  intro hpositive
  apply stops_bind_next
  intro type_byte iter₁ hiter
  apply stops_bind_next
  intro mask bytes hiter₁
  apply Stops.bind (stops_read_dtc_and_status_records _ _)
  intro records hrecords
  apply stops_bind_enum
  intro sub_function htype
  refine .bind (stops_variant report_dtcs_variant_ok_iff report_dtcs_variant_of_not_mem ?_)
    fun response _ => stops_ok _
  intro hmem
  obtain ⟨records', hbytes, hsmall, -⟩ := read_dtc_and_status_records_eq_ok_iff.mp hrecords
  refine ⟨sub_function, mask, bytes, ?_, exists_records_iff.mp ⟨records', hbytes, hsmall⟩, hmem⟩
  rw [hraw, Decidable.not_not.mp hpositive, hexpected, hiter, htype, hiter₁]

theorem parse_report_number_of_dtc_of_other (h : OtherThanNumberOfDtc raw) :
    parse_report_number_of_dtc_by_status_mask_response raw = err .InvalidArgument := by
  have hexpected : READ_DTC_INFORMATION_SID + SEND_RECEIVE_SID_OFFSET = 0x59 := rfl
  obtain ⟨report_type, mask, format, msb, lsb, rest, rfl, hmem⟩ := h
  simp [parse_report_number_of_dtc_by_status_mask_response, hexpected,
    report_number_of_dtc_variant_of_not_mem hmem]

theorem parse_report_dtcs_of_other (h : OtherThanDtcList raw) :
    parse_report_dtcs raw = err .InvalidArgument := by
  have hexpected : READ_DTC_INFORMATION_SID + SEND_RECEIVE_SID_OFFSET = 0x59 := rfl
  obtain ⟨sub_function, mask, bytes, rfl, hlen, hmem⟩ := h
  obtain ⟨records, rfl, hsmall⟩ := exists_records_iff.mpr hlen
  have hrecords : read_dtc_and_status_records
      (0x59 :: to_u8 sub_function :: mask :: records.flatMap DTCAndStatusRecord.bytes)
      (records.flatMap DTCAndStatusRecord.bytes) [] = .ok records :=
    read_dtc_and_status_records_eq_ok_iff.mpr ⟨records, rfl, hsmall, rfl⟩
  simp [parse_report_dtcs, hexpected, hrecords, report_dtcs_variant_of_not_mem hmem]

end Families

namespace ServiceCall

/-- The packet reports on DTCs, but in another family than the parser of the call
expects. The error for it blames the arguments of the caller, although the report
type comes from the packet. -/
def WrongFamily : ServiceCall → Packet → Prop
  | report_number_of_dtc_by_status_mask _, raw => OtherThanNumberOfDtc raw
  | report_dtc_by_status_mask _, raw => OtherThanDtcList raw
  | report_most_recent_confirmed_dtc, raw => OtherThanDtcList raw
  | _, _ => False

/-- How every parser fails. The parser of a memory read indexes the packet, which
must not be empty for that. -/
theorem stops_parse {call : ServiceCall} (h : call.sid = READ_MEMORY_BY_ADDRESS_SID → raw ≠ []) :
    Stops (Failure raw (WrongFamily call raw)) (call.parse raw) := by
  cases call with
  | diagnostic_session_control => exact stops_parse_diagnostic_session_control_response
  | ecu_reset => exact stops_parse_ecu_reset_response
  | clear_diagnostic_information => exact stops_parse_clear_diagnostic_information_response
  | report_number_of_dtc_by_status_mask =>
    exact stops_parse_report_number_of_dtc_by_status_mask_response
  | report_dtc_by_status_mask => exact stops_parse_report_dtcs
  | report_dtc_snapshot_record_by_dtc_number =>
    exact stops_parse_report_dtc_snapshot_record_by_dtc_number_response
  | report_dtc_ext_data_record_by_dtc_number =>
    exact stops_parse_report_dtc_snapshot_record_by_dtc_number_response
  | report_most_recent_confirmed_dtc => exact stops_parse_report_dtcs
  | read_data_by_identifier data_identifiers =>
    match data_identifiers with
    | [data_identifier] => exact stops_parse_read_data_by_identifier_tuple_response _
    | [] => exact stops_parse_read_data_by_identifier_response
    | _ :: _ :: _ => exact stops_parse_read_data_by_identifier_response
  | read_data_by_identifier_tuple table =>
    exact stops_parse_read_data_by_identifier_tuple_response table
  | read_memory_by_address => exact stops_parse_response (h rfl)
  | read_memory_by_address_simplified => exact stops_parse_response (h rfl)
  | write_data_by_identifier => exact stops_parse_write_data_by_identifier_response

theorem WrongFamily.parse_eq {call : ServiceCall} (h : WrongFamily call raw) :
    call.parse raw = err .InvalidArgument := by
  cases call with
  | report_number_of_dtc_by_status_mask => exact parse_report_number_of_dtc_of_other h
  | report_dtc_by_status_mask => exact parse_report_dtcs_of_other h
  | report_most_recent_confirmed_dtc => exact parse_report_dtcs_of_other h
  | _ => exact h.elim

theorem evidence_of_parse_iff (call : ServiceCall) (hraw : raw ≠ []) :
    (∀ e, call.parse raw = err e → Evidence raw e) ↔ ¬ WrongFamily call raw := by
  constructor
  · intro hevidence hwrong
    cases hevidence _ hwrong.parse_eq
  · intro hfamily e herr
    have hfailure : Failure raw (WrongFamily call raw) (.err e) :=
      stops_parse (fun _ => hraw) _ herr
    cases hfailure with
    | empty hempty => exact absurd hempty hraw
    | evidence hevidence => exact hevidence
    | argument hwrong => exact absurd hwrong hfamily

end ServiceCall

/-- A negative response that ends before its code. It is reported as an empty
packet. -/
def ShortNegative (raw : Packet) : Prop :=
  raw = [NEGATIVE_RESPONSE_SID] ∨ ∃ rejected_sid, raw = [NEGATIVE_RESPONSE_SID, rejected_sid]

theorem evidence_of_parse_for_error_iff (hraw : raw ≠ []) :
    (∀ e, parse_for_error raw = err e → Evidence raw e) ↔ ¬ ShortNegative raw := by
  constructor
  · intro hevidence hshort
    have hempty : parse_for_error raw = err .ResponseEmpty := by
      rcases hshort with rfl | ⟨rejected_sid, rfl⟩ <;> rfl
    cases hevidence _ hempty
  · intro hshort e herr
    rcases packet_cases raw with rfl | ⟨first, rest, hfirst, rfl⟩ | rfl | ⟨rejected_sid, rfl⟩ |
      ⟨rejected_sid, code, rest, rfl⟩
    · exact absurd rfl hraw
    · rw [parse_for_error_positive hfirst] at herr
      cases herr
    · exact absurd (.inl rfl) hshort
    · exact absurd (.inr ⟨rejected_sid, rfl⟩) hshort
    · rw [parse_for_error_negative] at herr
      cases hcode : (try_from_primitive code : Except _ NegativeResponseCode) with
      | error unknown =>
        rw [hcode] at herr
        cases herr
        exact .unknown_nrc rfl rfl
      | ok nrc =>
        rw [hcode] at herr
        cases herr
        exact .nrc rfl (congrArg some (try_from_primitive_eq_ok_iff.mp hcode).symm)

/-- On a packet that is not empty, `parse_for_error` and every parser report what is
wrong with it, but for truncated negative responses and complete DTC reports of
another family. No other condition is put on the packet. -/
theorem evidence_iff {raw : Packet} (hraw : raw ≠ []) :
    ((∀ e, parse_for_error raw = err e → Evidence raw e) ↔ ¬ ShortNegative raw) ∧
      ∀ call : ServiceCall,
        (∀ e, call.parse raw = err e → Evidence raw e) ↔ ¬ call.WrongFamily raw := by
  constructor
  · exact evidence_of_parse_for_error_iff hraw
  · intro call
    exact call.evidence_of_parse_iff hraw

theorem evidence_iff_unknown_code : Evidence [0x7F, 0x11, 0xFF] (.UnknownNRC 0x11 0xFF) := by
  have hshort : ¬ ShortNegative [0x7F, 0x11, 0xFF] := by
    rintro (hone | ⟨_, htwo⟩)
    · cases hone
    · cases htwo
  have hparse : parse_for_error [0x7F, 0x11, 0xFF] = err (.UnknownNRC 0x11 0xFF) := by decide
  exact (evidence_iff (by decide)).1.mpr hshort _ hparse

/-- A negative response of one byte is reported as a packet of length 0, and a
number-of-DTC report given to the parser of DTC lists as a mistake in the arguments.
-/
theorem not_evidence_short_negative :
    ¬ (∀ e, parse_for_error [0x7F] = err e → Evidence [0x7F] e) ∧
      ¬ ∀ e, (ServiceCall.report_dtc_by_status_mask 0xFF).parse [0x59, 0x01, 0xFF] = err e →
        Evidence [0x59, 0x01, 0xFF] e := by
  constructor
  · intro hevidence
    cases hevidence .ResponseEmpty rfl
  · intro hevidence
    have hparse : parse_report_dtcs [0x59, 0x01, 0xFF] = err .InvalidArgument := by decide
    cases hevidence .InvalidArgument hparse

end uds_rs.uds

import UdsRs.Uds.ServiceCall.Accept

namespace uds_rs.uds

open async_sock rust TryFromPrimitive

/-- The calls whose composers take the arguments as they are. The memory reads are
not among them: one takes bytes, the other chooses the lengths of its numbers. -/
inductive Request where
  | diagnostic_session_control (session_id : UInt8)
  | ecu_reset (reset_type : ResetType)
  | clear_diagnostic_information (group_of_dtc : UInt32)
  | report_number_of_dtc_by_status_mask (dtc_status_mask : UInt8)
  | report_dtc_by_status_mask (dtc_status_mask : UInt8)
  | report_dtc_snapshot_record_by_dtc_number (dtc_mask_record : UInt32)
      (dtc_snapshot_record_number : UInt8)
  | report_dtc_ext_data_record_by_dtc_number (dtc_mask_record : UInt32)
      (dtc_ext_data_record_number : UInt8)
  | report_most_recent_confirmed_dtc
  | read_data_by_identifier (data_identifiers : List UInt16)
  | write_data_by_identifier (data_identifier : UInt16) (data_record : Packet)
  deriving DecidableEq, Repr

namespace Request

def compose : Request → Packet
  | diagnostic_session_control session_id => compose_diagnostic_session_control_request session_id
  | ecu_reset reset_type => compose_ecu_reset_request reset_type
  | clear_diagnostic_information group_of_dtc =>
    compose_clear_diagnostic_information_request group_of_dtc
  | report_number_of_dtc_by_status_mask mask =>
    compose_report_number_of_dtc_by_status_mask_request .ReportNumberOfDTCbyStatusMask mask
  | report_dtc_by_status_mask mask =>
    compose_report_number_of_dtc_by_status_mask_request .ReportDTCByStatusMask mask
  | report_dtc_snapshot_record_by_dtc_number record number =>
    compose_report_dtc_snapshot_request .ReportDTCSnapshotRecordByDTCNumber record number
  | report_dtc_ext_data_record_by_dtc_number record number =>
    compose_report_dtc_ext_data_by_dtc_number_request .ReportDTCExtDataRecordByDTCNumber record number
  | report_most_recent_confirmed_dtc => compose_request_short .ReportMostRecentConfirmedDTC
  | read_data_by_identifier data_identifiers =>
    compose_read_data_by_identifier_request data_identifiers
  | write_data_by_identifier data_identifier data_record =>
    compose_write_data_by_identifier_request data_identifier data_record

def dtc_bits (dtc : UInt32) : UInt32 := dtc % 0x1000000

/-- The request with its DTC as the 24-bit value it is documented to be. -/
def masked : Request → Request
  | clear_diagnostic_information group_of_dtc =>
    clear_diagnostic_information (dtc_bits group_of_dtc)
  | report_dtc_snapshot_record_by_dtc_number record number =>
    report_dtc_snapshot_record_by_dtc_number (dtc_bits record) number
  | report_dtc_ext_data_record_by_dtc_number record number =>
    report_dtc_ext_data_record_by_dtc_number (dtc_bits record) number
  | request => request

def decode_identifiers : Packet → Option (List UInt16)
  | [] => some []
  | msb :: lsb :: bytes => (decode_identifiers bytes).map (u16_from_bytes msb lsb :: ·)
  | [_] => none

/-- Reads a composed request back: the SID, the sub-function where there is one, and
the big-endian fields. It knows nothing of the composers but the layout they write.
-/
def decode : Packet → Option Request
  | [0x10, session_id] => some (diagnostic_session_control session_id)
  | [0x11, byte] => (try_from_primitive byte).toOption.map ecu_reset
  | [0x14, high, middle, low] =>
    some (clear_diagnostic_information (u32_from_bytes high middle low))
  | [0x19, 0x01, mask] => some (report_number_of_dtc_by_status_mask mask)
  | [0x19, 0x02, mask] => some (report_dtc_by_status_mask mask)
  | [0x19, 0x04, high, middle, low, number] =>
    some (report_dtc_snapshot_record_by_dtc_number (u32_from_bytes high middle low) number)
  | [0x19, 0x06, high, middle, low, number] =>
    some (report_dtc_ext_data_record_by_dtc_number (u32_from_bytes high middle low) number)
  | [0x19, 0x0E] => some report_most_recent_confirmed_dtc
  | 0x22 :: bytes => (decode_identifiers bytes).map read_data_by_identifier
  | 0x2E :: msb :: lsb :: data_record =>
    some (write_data_by_identifier (u16_from_bytes msb lsb) data_record)
  | _ => none

theorem u32_from_bytes_eq_dtc_bits (dtc : UInt32) :
    u32_from_bytes (u32_high dtc) (u32_middle dtc) (u32_low dtc) = dtc_bits dtc := by
  apply UInt32.toNat_inj.mp
  rw [u32_from_bytes_high_middle_low_toNat, dtc_bits, UInt32.toNat_mod]
  rfl

theorem decode_identifiers_bytes (data_identifiers : List UInt16) :
    decode_identifiers (data_identifiers.flatMap fun i => [u16_msb i, u16_lsb i]) =
      some data_identifiers := by
  induction data_identifiers with
  | nil => rfl
  | cons i data_identifiers ih =>
    rw [List.flatMap_cons, List.cons_append, List.cons_append, List.nil_append, decode_identifiers,
      ih, u16_from_bytes_msb_lsb]
    rfl

theorem decode_compose (request : Request) : decode request.compose = some request.masked := by
  cases request with
  | diagnostic_session_control session_id => rfl
  | ecu_reset reset_type => cases reset_type <;> rfl
  | clear_diagnostic_information group_of_dtc =>
    rw [masked, ← u32_from_bytes_eq_dtc_bits]
    rfl
  | report_number_of_dtc_by_status_mask mask => rfl
  | report_dtc_by_status_mask mask => rfl
  | report_dtc_snapshot_record_by_dtc_number record number =>
    rw [masked, ← u32_from_bytes_eq_dtc_bits]
    rfl
  | report_dtc_ext_data_record_by_dtc_number record number =>
    rw [masked, ← u32_from_bytes_eq_dtc_bits]
    rfl
  | report_most_recent_confirmed_dtc => rfl
  | read_data_by_identifier data_identifiers =>
    have hbytes := decode_identifiers_bytes data_identifiers
    rw [compose, compose_read_data_by_identifier_request_eq]
    exact congrArg (Option.map read_data_by_identifier) hbytes
  | write_data_by_identifier data_identifier data_record =>
    have hidentifier := u16_from_bytes_msb_lsb data_identifier
    exact congrArg (fun i => some (write_data_by_identifier i data_record)) hidentifier

theorem u32_high_dtc_bits (dtc : UInt32) : u32_high (dtc_bits dtc) = u32_high dtc := by
  rw [← u32_from_bytes_eq_dtc_bits, u32_high_from_bytes]

theorem u32_middle_dtc_bits (dtc : UInt32) : u32_middle (dtc_bits dtc) = u32_middle dtc := by
  rw [← u32_from_bytes_eq_dtc_bits, u32_middle_from_bytes]

theorem u32_low_dtc_bits (dtc : UInt32) : u32_low (dtc_bits dtc) = u32_low dtc := by
  rw [← u32_from_bytes_eq_dtc_bits, u32_low_from_bytes]

theorem compose_masked (request : Request) : request.masked.compose = request.compose := by
  cases request with
  | clear_diagnostic_information group_of_dtc =>
    simp only [masked, compose, compose_clear_diagnostic_information_request, u32_high_dtc_bits,
      u32_middle_dtc_bits, u32_low_dtc_bits]
  | report_dtc_snapshot_record_by_dtc_number record number =>
    simp only [masked, compose, compose_report_dtc_snapshot_request, u32_high_dtc_bits,
      u32_middle_dtc_bits, u32_low_dtc_bits]
  | report_dtc_ext_data_record_by_dtc_number record number =>
    simp only [masked, compose, compose_report_dtc_ext_data_by_dtc_number_request,
      u32_high_dtc_bits, u32_middle_dtc_bits, u32_low_dtc_bits]
  | _ => rfl

theorem compose_eq_iff (a b : Request) : a.compose = b.compose ↔ a.masked = b.masked := by
  constructor
  · intro h
    have hdecode := congrArg decode h
    rw [decode_compose, decode_compose] at hdecode
    exact Option.some.inj hdecode
  · intro h
    rw [← compose_masked a, h, compose_masked b]

end Request

def ServiceCall.request : ServiceCall → Option Request
  | diagnostic_session_control session_id => some (.diagnostic_session_control session_id)
  | ecu_reset reset_type => some (.ecu_reset reset_type)
  | clear_diagnostic_information group_of_dtc => some (.clear_diagnostic_information group_of_dtc)
  | report_number_of_dtc_by_status_mask mask => some (.report_number_of_dtc_by_status_mask mask)
  | report_dtc_by_status_mask mask => some (.report_dtc_by_status_mask mask)
  | report_dtc_snapshot_record_by_dtc_number record number =>
    some (.report_dtc_snapshot_record_by_dtc_number record number)
  | report_dtc_ext_data_record_by_dtc_number record number =>
    some (.report_dtc_ext_data_record_by_dtc_number record number)
  | report_most_recent_confirmed_dtc => some .report_most_recent_confirmed_dtc
  | read_data_by_identifier data_identifiers => some (.read_data_by_identifier data_identifiers)
  | read_data_by_identifier_tuple table => some (.read_data_by_identifier (table.map Prod.fst))
  | read_memory_by_address _ _ _ | read_memory_by_address_simplified _ _ _ _ => none
  | write_data_by_identifier data_identifier data_record =>
    some (.write_data_by_identifier data_identifier data_record)

theorem ServiceCall.arguments_of_request (overflow_checks : Bool) {call : ServiceCall}
    {request : Request} (h : call.request = some request) :
    ∃ data, call.arguments overflow_checks = .ok data ∧ call.sid :: data = request.compose := by
  cases call with
  | read_data_by_identifier data_identifiers =>
    cases h
    refine ⟨_, rfl, ?_⟩
    rw [Request.compose, compose_read_data_by_identifier_request_eq]
    rfl
  | read_data_by_identifier_tuple table =>
    cases h
    refine ⟨_, rfl, ?_⟩
    rw [Request.compose, compose_read_data_by_identifier_request_eq]
    rfl
  | read_memory_by_address => cases h
  | read_memory_by_address_simplified => cases h
  | _ =>
    cases h
    exact ⟨_, rfl, rfl⟩

/-- Composed requests are decoded to the calls they are for, so two of them are
equal only when the calls are, and so is whatever a run of such a call transmits. -/
theorem requests_unambiguous :
    (∀ request : Request, Request.decode request.compose = some request.masked) ∧
    (∀ a b : Request, a.compose = b.compose ↔ a.masked = b.masked) ∧
    ∀ (call : ServiceCall) (request : Request) overflow_checks es result,
      call.request = some request → Returns (call.run overflow_checks) es result →
        ∀ sent ∈ transmissions es, Request.decode sent = some request.masked := by
  refine ⟨Request.decode_compose, Request.compose_eq_iff, ?_⟩
  intro call request overflow_checks es result hrequest hrun sent hsent
  obtain ⟨data, harguments, hcompose⟩ := ServiceCall.arguments_of_request overflow_checks hrequest
  rw [ServiceCall.sent_of_returns_run harguments hrun sent hsent, hcompose, Request.decode_compose]

end uds_rs.uds

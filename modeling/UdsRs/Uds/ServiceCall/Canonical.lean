import UdsRs.Uds.ServiceCall.Accept
import UdsRs.Uds.ServiceCall.Serialise

namespace uds_rs.uds

open async_sock rust TryFromPrimitive

theorem Reads.rest_eq_nil {table : List (UInt16 × UInt32)} {bytes rest : Packet}
    {records : List DataRecord} (h : Reads table bytes records rest) {entry : UInt16 × UInt32}
    (hmem : entry ∈ table) (hmax : entry.2 = u32_MAX) : rest = [] := by
  induction h with
  | nil => exact absurd hmem List.not_mem_nil
  | bounded hne _ _ ih =>
    rcases List.mem_cons.mp hmem with rfl | htail
    · exact absurd hmax hne
    · exact ih htail
  | @remaining did data rest table records htail ih =>
    exact (List.append_eq_nil_iff.mp htail.bytes_eq.symm).2

/-- Where no entry takes the rest of the message, anything may follow the records.
-/
theorem Reads.serialised {table : List (UInt16 × UInt32)} {bytes rest : Packet}
    {records : List DataRecord} (h : Reads table bytes records rest)
    (hmax : ∀ entry ∈ table, entry.2 ≠ u32_MAX) (excess : Packet) :
    Reads table (records.flatMap DataRecord.bytes ++ excess) records excess := by
  induction h with
  | nil => exact .nil excess
  | @bounded did len data bytes rest table records hne hlen htail ih =>
    have hnext := ih fun entry hentry => hmax entry (List.mem_cons_of_mem _ hentry)
    simpa [DataRecord.bytes] using Reads.bounded hne hlen hnext
  | remaining => exact absurd rfl (hmax _ List.mem_cons_self)

namespace ServiceCall

/-- The parser of the call does not check that the packet ends where it has read its
last field. -/
def IgnoresExcess : ServiceCall → Prop
  | diagnostic_session_control _ | ecu_reset _ | clear_diagnostic_information _
  | report_number_of_dtc_by_status_mask _ | write_data_by_identifier _ _ => True
  | read_data_by_identifier_tuple table => ∀ entry ∈ table, entry.2 ≠ u32_MAX
  | report_dtc_by_status_mask _ | report_dtc_snapshot_record_by_dtc_number _ _
  | report_dtc_ext_data_record_by_dtc_number _ _ | report_most_recent_confirmed_dtc
  | read_data_by_identifier _ | read_memory_by_address _ _ _
  | read_memory_by_address_simplified _ _ _ _ => False

theorem Excess.ignored {call : ServiceCall} {raw : Packet} (h : Excess call raw) :
    call.IgnoresExcess := by
  cases h with
  | read_tuple hreads hrest => exact fun entry hmem hmax => hrest (hreads.rest_eq_nil hmem hmax)
  | session | reset | clear | number_of_dtc | write => trivial

theorem serialise_of_ignoresExcess {call : ServiceCall} {raw : Packet} {v : UdsResponse}
    (h : call.parse raw = .ok v) (hignores : call.IgnoresExcess) :
    v.serialise <+: raw ∧ ∀ excess, call.parse (v.serialise ++ excess) = .ok v := by
  cases call with
  | diagnostic_session_control session_id =>
    obtain ⟨session, p2_hi, p2_lo, p2s_hi, p2s_lo, rest, rfl, rfl⟩ :=
      parse_diagnostic_session_control_response_eq_ok_iff.mp h
    simp only [UdsResponse.serialise, DataFormat.bytes, u16_msb_from_bytes, u16_lsb_from_bytes]
    refine ⟨⟨rest, rfl⟩, fun excess => ?_⟩
    exact parse_diagnostic_session_control_response_eq_ok_iff.mpr
      ⟨session, p2_hi, p2_lo, p2s_hi, p2s_lo, excess, rfl, rfl⟩
  | ecu_reset reset_type =>
    obtain ⟨other, rest, rfl, hlen, rfl⟩ := parse_ecu_reset_response_eq_ok_iff.mp h
    unfold power_down_bytes at hlen
    by_cases hrapid : other = .EnableRapidPowerShutDown
    · rw [if_pos hrapid] at hlen ⊢
      obtain ⟨time, rest, rfl⟩ := List.exists_cons_of_length_pos hlen
      refine ⟨⟨rest, rfl⟩, fun excess => ?_⟩
      refine parse_ecu_reset_response_eq_ok_iff.mpr ⟨other, time :: excess, rfl, ?_, ?_⟩
      · rw [power_down_bytes, if_pos hrapid]
        exact Nat.succ_pos _
      · rw [if_pos hrapid]
        rfl
    · rw [if_neg hrapid]
      refine ⟨⟨rest, rfl⟩, fun excess => ?_⟩
      refine parse_ecu_reset_response_eq_ok_iff.mpr ⟨other, excess, rfl, ?_, ?_⟩
      · rw [power_down_bytes, if_neg hrapid]
        exact Nat.zero_le _
      · rw [if_neg hrapid]
  | clear_diagnostic_information group_of_dtc =>
    obtain ⟨rest, rfl, rfl⟩ := parse_clear_diagnostic_information_response_eq_ok_iff.mp h
    refine ⟨⟨rest, rfl⟩, fun excess => ?_⟩
    exact parse_clear_diagnostic_information_response_eq_ok_iff.mpr ⟨excess, rfl, rfl⟩
  | report_number_of_dtc_by_status_mask mask =>
    obtain ⟨report_type, availability_mask, format, msb, lsb, rest, response, rfl, hresponse, rfl⟩ :=
      parse_report_number_of_dtc_by_status_mask_response_eq_ok_iff.mp h
    simp only [UdsResponse.serialise, DataFormat.bytes,
      report_number_of_dtc_variant_bytes hresponse, ReportNumberOfDTCByMaskResponse.bytes,
      u16_msb_from_bytes, u16_lsb_from_bytes]
    refine ⟨⟨rest, rfl⟩, fun excess => ?_⟩
    exact parse_report_number_of_dtc_by_status_mask_response_eq_ok_iff.mpr
      ⟨report_type, availability_mask, format, msb, lsb, excess, response, rfl, hresponse, rfl⟩
  | read_data_by_identifier_tuple table =>
    obtain ⟨bytes, records, rest, rfl, hreads, rfl⟩ :=
      parse_read_data_by_identifier_tuple_response_eq_ok_iff.mp h
    refine ⟨⟨rest, congrArg (0x62 :: ·) hreads.bytes_eq.symm⟩, fun excess => ?_⟩
    exact parse_read_data_by_identifier_tuple_response_eq_ok_iff.mpr
      ⟨_, records, excess, rfl, hreads.serialised hignores excess, rfl⟩
  | write_data_by_identifier data_identifier data_record =>
    obtain ⟨msb, lsb, rest, rfl, rfl⟩ := parse_write_data_by_identifier_response_eq_ok_iff.mp h
    simp only [UdsResponse.serialise, DataFormat.bytes, u16_msb_from_bytes, u16_lsb_from_bytes]
    refine ⟨⟨rest, rfl⟩, fun excess => ?_⟩
    exact parse_write_data_by_identifier_response_eq_ok_iff.mpr ⟨msb, lsb, excess, rfl, rfl⟩
  | report_dtc_by_status_mask | report_dtc_snapshot_record_by_dtc_number
  | report_dtc_ext_data_record_by_dtc_number | report_most_recent_confirmed_dtc
  | read_data_by_identifier | read_memory_by_address | read_memory_by_address_simplified =>
    exact hignores.elim

/-- What is parsed as a value is its serialisation, followed by anything at all
where the parser of the call does not check the end and by nothing elsewhere. So
every value that is ever returned has one packet of its own, and what else stands
for it is known. -/
theorem packets_of_value {call : ServiceCall} {raw : Packet} {v : UdsResponse}
    (h : call.parse raw = .ok v) (raw' : Packet) :
    call.parse raw' = .ok v ↔
      ∃ excess, raw' = v.serialise ++ excess ∧ (excess = [] ∨ call.IgnoresExcess) := by
  have hexact : ∀ {raw}, call.parse raw = .ok v → ¬ call.IgnoresExcess → v.serialise = raw :=
    fun hparse hchecks => serialise_of_parse_ok hparse fun hexcess => hchecks hexcess.ignored
  constructor
  · intro h'
    by_cases hignores : call.IgnoresExcess
    · obtain ⟨excess, hexcess⟩ := (serialise_of_ignoresExcess h' hignores).1
      exact ⟨excess, hexcess.symm, .inr hignores⟩
    · exact ⟨[], by rw [hexact h' hignores, List.append_nil], .inl rfl⟩
  · rintro ⟨excess, rfl, hend⟩
    by_cases hignores : call.IgnoresExcess
    · exact (serialise_of_ignoresExcess h hignores).2 excess
    · rcases hend with rfl | hignored
      · rw [List.append_nil, hexact h hignores]
        exact h
      · exact absurd hignored hignores

theorem packets_of_value_reset :
    (ecu_reset .HardReset).parse [0x51, 0x01, 0xFF] =
      .ok (.EcuReset (.Parsed ⟨.HardReset, none⟩)) := by
  have hparse : (ecu_reset .HardReset).parse [0x51, 0x01] =
      .ok (.EcuReset (.Parsed ⟨.HardReset, none⟩)) := by decide
  exact (packets_of_value hparse _).mpr ⟨[0xFF], rfl, .inr trivial⟩

section TupleRead

variable {overflow_checks : Bool} {table : List (UInt16 × UInt32)}
  {es : List (Event Packet UdsCommunicationError)}

/-- The read of several identifiers, and the read with a table of their lengths,
exchange the same request. -/
theorem returns_raw_read_iff (hlength : table.length ≠ 1) {result : EcuResponseResult} :
    Returns ((read_data_by_identifier (table.map Prod.fst)).run overflow_checks) es result ↔
      ∃ inner, Returns (UdsClient.send_and_receive overflow_checks
          (compose_read_data_by_identifier_request (table.map Prod.fst))) es inner ∧
        result = inner >>= parse_read_data_by_identifier_response := by
  have hmany : (table.map Prod.fst).length ≠ 1 := by
    rwa [List.length_map]
  simp only [run, UdsClient.read_data_by_identifier, if_neg hmany]
  exact returns_bind_ready_iff

theorem returns_tuple_read_iff {result : EcuResponseResult} :
    Returns ((read_data_by_identifier_tuple table).run overflow_checks) es result ↔
      ∃ inner, Returns (UdsClient.send_and_receive overflow_checks
          (compose_read_data_by_identifier_request (table.map Prod.fst))) es inner ∧
        result = inner >>= parse_read_data_by_identifier_tuple_response table :=
  returns_bind_ready_iff

/-- On the same socket operations the read with a table ends where the raw read
does. It succeeds exactly when the raw data begin with the records of the table, and
returns these. A table of one entry is excluded, as the read of one identifier is
itself a read with a table, and the crate calls the private method with no other. -/
theorem tuple_read_agrees (overflow_checks : Bool) (hlength : table.length ≠ 1)
    (es : List (Event Packet UdsCommunicationError)) :
    ((∃ result, Returns ((read_data_by_identifier_tuple table).run overflow_checks) es result) ↔
      ∃ result, Returns ((read_data_by_identifier (table.map Prod.fst)).run overflow_checks) es
        result) ∧
    ∀ v, Returns ((read_data_by_identifier_tuple table).run overflow_checks) es (.ok v) ↔
      ∃ data records rest,
        Returns ((read_data_by_identifier (table.map Prod.fst)).run overflow_checks) es
          (.ok (.ReadDataByIdentifier (.Raw data))) ∧
        Reads table data records rest ∧ v = .ReadDataByIdentifier (.Parsed ⟨records⟩) := by
  refine ⟨?_, fun v => ?_⟩
  · constructor
    · rintro ⟨_, htuple⟩
      obtain ⟨inner, hinner, -⟩ := returns_tuple_read_iff.mp htuple
      exact ⟨_, (returns_raw_read_iff hlength).mpr ⟨inner, hinner, rfl⟩⟩
    · rintro ⟨_, hraw⟩
      obtain ⟨inner, hinner, -⟩ := (returns_raw_read_iff hlength).mp hraw
      exact ⟨_, returns_tuple_read_iff.mpr ⟨inner, hinner, rfl⟩⟩
  · constructor
    · intro htuple
      obtain ⟨inner, hinner, hok⟩ := returns_tuple_read_iff.mp htuple
      obtain ⟨raw, rfl, hparse⟩ := bind_eq_ok_iff.mp hok.symm
      obtain ⟨data, records, rest, rfl, hreads, rfl⟩ :=
        parse_read_data_by_identifier_tuple_response_eq_ok_iff.mp hparse
      have hraw : parse_read_data_by_identifier_response (0x62 :: data) =
          .ok (.ReadDataByIdentifier (.Raw data)) :=
        parse_read_data_by_identifier_response_eq_ok_iff.mpr ⟨data, rfl, rfl⟩
      exact ⟨data, records, rest,
        (returns_raw_read_iff hlength).mpr ⟨.ok (0x62 :: data), hinner, hraw.symm⟩, hreads, rfl⟩
    · rintro ⟨data, records, rest, hraw, hreads, rfl⟩
      obtain ⟨inner, hinner, hok⟩ := (returns_raw_read_iff hlength).mp hraw
      obtain ⟨raw, rfl, hparse⟩ := bind_eq_ok_iff.mp hok.symm
      obtain ⟨data', rfl, hsame⟩ := parse_read_data_by_identifier_response_eq_ok_iff.mp hparse
      cases hsame
      have htuple : parse_read_data_by_identifier_tuple_response table (0x62 :: data) =
          .ok (.ReadDataByIdentifier (.Parsed ⟨records⟩)) :=
        parse_read_data_by_identifier_tuple_response_eq_ok_iff.mpr
          ⟨data, records, rest, rfl, hreads, rfl⟩
      exact returns_tuple_read_iff.mpr ⟨.ok (0x62 :: data), hinner, htuple.symm⟩

theorem tuple_read_agrees_two_records :
    ∃ data records rest,
      Returns ((read_data_by_identifier [0x0001, 0x0002]).run true)
        [.sent [0x22, 0x00, 0x01, 0x00, 0x02] (.ok ()),
          .received (.ok [0x62, 0x00, 0x01, 0xAA, 0x00, 0x02, 0xBB])]
        (.ok (.ReadDataByIdentifier (.Raw data))) ∧
      Reads [(0x0001, 1), (0x0002, 1)] data records rest ∧
      UdsResponse.ReadDataByIdentifier (.Parsed ⟨[⟨0x0001, [0xAA]⟩, ⟨0x0002, [0xBB]⟩]⟩) =
        .ReadDataByIdentifier (.Parsed ⟨records⟩) := by
  have hlength : [((0x0001 : UInt16), (1 : UInt32)), (0x0002, 1)].length ≠ 1 := by decide
  have haccept : Stage.judge true 0x22 0 [0x62, 0x00, 0x01, 0xAA, 0x00, 0x02, 0xBB] =
      .returned (.ok [0x62, 0x00, 0x01, 0xAA, 0x00, 0x02, 0xBB]) := by decide
  have hparse : (read_data_by_identifier_tuple [(0x0001, 1), (0x0002, 1)]).parse
      [0x62, 0x00, 0x01, 0xAA, 0x00, 0x02, 0xBB] =
        .ok (.ReadDataByIdentifier (.Parsed ⟨[⟨0x0001, [0xAA]⟩, ⟨0x0002, [0xBB]⟩]⟩)) := by decide
  have hrun : Returns ((read_data_by_identifier_tuple [(0x0001, 1), (0x0002, 1)]).run true)
      [.sent [0x22, 0x00, 0x01, 0x00, 0x02] (.ok ()),
        .received (.ok [0x62, 0x00, 0x01, 0xAA, 0x00, 0x02, 0xBB])]
      (.ok (.ReadDataByIdentifier (.Parsed ⟨[⟨0x0001, [0xAA]⟩, ⟨0x0002, [0xBB]⟩]⟩))) :=
    returns_run_of_answer rfl haccept hparse.symm
  exact ((tuple_read_agrees true hlength _).2 _).mp hrun

end TupleRead

end ServiceCall

end uds_rs.uds

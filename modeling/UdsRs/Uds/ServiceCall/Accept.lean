import UdsRs.Uds.SendAndReceive.RetryCounter
import UdsRs.Uds.ServiceCall

namespace uds_rs.uds.ServiceCall

open async_sock rust UdsClient Stage

variable {overflow_checks : Bool} {es : List (Event Packet UdsCommunicationError)}

/-- Every parser accepts only packets that start with the response SID of its
service. The exchange checks no more than that a packet is not negative, and not
even that after a pending answer, so this is what keeps other services out. -/
theorem first_of_parse_ok {call : ServiceCall} {raw : Packet} {v : UdsResponse}
    (h : call.parse raw = .ok v) : ∃ rest, raw = (call.sid + SEND_RECEIVE_SID_OFFSET) :: rest := by
  cases call with
  | diagnostic_session_control session_id =>
    obtain ⟨_, _, _, _, _, _, hraw, -⟩ := parse_diagnostic_session_control_response_eq_ok_iff.mp h
    exact ⟨_, hraw⟩
  | ecu_reset reset_type =>
    obtain ⟨_, _, hraw, -⟩ := parse_ecu_reset_response_eq_ok_iff.mp h
    exact ⟨_, hraw⟩
  | clear_diagnostic_information group_of_dtc =>
    obtain ⟨_, hraw, -⟩ := parse_clear_diagnostic_information_response_eq_ok_iff.mp h
    exact ⟨_, hraw⟩
  | report_number_of_dtc_by_status_mask mask =>
    obtain ⟨_, _, _, _, _, _, _, hraw, -⟩ :=
      parse_report_number_of_dtc_by_status_mask_response_eq_ok_iff.mp h
    exact ⟨_, hraw⟩
  | report_dtc_by_status_mask mask =>
    obtain ⟨_, _, _, _, hraw, -⟩ := parse_report_dtcs_eq_ok_iff.mp h
    exact ⟨_, hraw⟩
  | report_dtc_snapshot_record_by_dtc_number record number =>
    obtain ⟨_, hraw, -⟩ := parse_report_dtc_snapshot_record_by_dtc_number_response_eq_ok_iff.mp h
    exact ⟨_, hraw⟩
  | report_dtc_ext_data_record_by_dtc_number record number =>
    obtain ⟨_, hraw, -⟩ := parse_report_dtc_snapshot_record_by_dtc_number_response_eq_ok_iff.mp h
    exact ⟨_, hraw⟩
  | report_most_recent_confirmed_dtc =>
    obtain ⟨_, _, _, _, hraw, -⟩ := parse_report_dtcs_eq_ok_iff.mp h
    exact ⟨_, hraw⟩
  | read_data_by_identifier data_identifiers =>
    match data_identifiers with
    | [data_identifier] =>
      obtain ⟨_, _, _, hraw, -⟩ := parse_read_data_by_identifier_tuple_response_eq_ok_iff.mp h
      exact ⟨_, hraw⟩
    | [] =>
      obtain ⟨_, hraw, -⟩ := parse_read_data_by_identifier_response_eq_ok_iff.mp h
      exact ⟨_, hraw⟩
    | _ :: _ :: _ =>
      obtain ⟨_, hraw, -⟩ := parse_read_data_by_identifier_response_eq_ok_iff.mp h
      exact ⟨_, hraw⟩
  | read_data_by_identifier_tuple table =>
    obtain ⟨_, _, _, hraw, -⟩ := parse_read_data_by_identifier_tuple_response_eq_ok_iff.mp h
    exact ⟨_, hraw⟩
  | read_memory_by_address format address size =>
    obtain ⟨_, hraw, -⟩ := parse_response_eq_ok_iff.mp h
    exact ⟨_, hraw⟩
  | read_memory_by_address_simplified address size address_len size_len =>
    obtain ⟨_, hraw, -⟩ := parse_response_eq_ok_iff.mp h
    exact ⟨_, hraw⟩
  | write_data_by_identifier data_identifier data_record =>
    obtain ⟨_, _, _, hraw, -⟩ := parse_write_data_by_identifier_response_eq_ok_iff.mp h
    exact ⟨_, hraw⟩

/-- The response SIDs of two services differ when their SIDs do, and none of them is
the SID of negative responses. -/
theorem sid_offset_inj {call other : ServiceCall}
    (h : call.sid + SEND_RECEIVE_SID_OFFSET = other.sid + SEND_RECEIVE_SID_OFFSET) :
    call.sid = other.sid := (UInt8.add_left_inj SEND_RECEIVE_SID_OFFSET).mp h

theorem sid_offset_ne_negative (call : ServiceCall) :
    call.sid + SEND_RECEIVE_SID_OFFSET ≠ NEGATIVE_RESPONSE_SID := by
  cases call <;> simp only [sid] <;> decide

theorem exchange_of_returns_ok {call : ServiceCall} {v : UdsResponse}
    (h : Returns (call.run overflow_checks) es (.ok v)) :
    ∃ data raw, call.arguments overflow_checks = .ok data ∧
      Returns (send_and_receive overflow_checks (call.sid :: data)) es (.ok raw) ∧
      (deliveries es).getLast? = some raw ∧ call.parse raw = .ok v := by
  rcases returns_run_iff.mp h with ⟨stop, -, -, hstop⟩ | ⟨data, inner, harguments, hinner, hparse⟩
  · cases hstop
  · obtain ⟨raw, rfl, hraw⟩ := bind_eq_ok_iff.mp hparse.symm
    obtain ⟨es', e, rfl, hdelivered⟩ := last_of_returns_ok hinner
    exact ⟨data, raw, harguments, hinner, by simp [hdelivered], hraw⟩

theorem sent_of_returns {sid : UInt8} {data : Packet} {inner : Outcome UdsError Packet}
    (h : Returns (send_and_receive overflow_checks (sid :: data)) es inner) :
    ∀ sent ∈ transmissions es, sent = sid :: data := by
  obtain ⟨sends, -, hsent⟩ := counted_of_visits (returns_iff.mp h)
  intro sent hmem
  rw [hsent] at hmem
  exact List.eq_of_mem_replicate hmem

/-- A call that has composed a request transmits it, once or more often, and nothing
else. -/
theorem sent_of_returns_run {call : ServiceCall} {data : Packet} {result : EcuResponseResult}
    (harguments : call.arguments overflow_checks = .ok data)
    (h : Returns (call.run overflow_checks) es result) :
    ∀ sent ∈ transmissions es, sent = call.sid :: data := by
  rcases returns_run_iff.mp h with ⟨stop, hstop, -⟩ | ⟨data', inner, hdata, hinner, -⟩
  · rw [harguments] at hstop
    cases hstop
  · rw [harguments] at hdata
    cases hdata
    exact sent_of_returns hinner

theorem transmissions_of_returns_ok {sid : UInt8} {data raw : Packet}
    (h : Returns (send_and_receive overflow_checks (sid :: data)) es (.ok raw)) :
    ∃ repeats, transmissions es = List.replicate (repeats + 1) (sid :: data) := by
  generalize hresult : (Except.ok raw : Outcome UdsError Packet) = result at h
  cases ending_of_returns h with
  | send_failed => cases hresult
  | judged hrun hjudge =>
    obtain ⟨n, -, htally⟩ := counted_of_visits hrun
    exact ⟨n, by simpa using htally.repeated⟩
  | receive_failed => cases hresult
  | delayed raw hrun =>
    obtain ⟨es', retry_counter, pend, rfl, -, hreceiving⟩ := visits_waiting hrun
    obtain ⟨n, -, htally⟩ := counted_of_visits hreceiving
    exact ⟨n, by simpa using htally.repeated⟩
  | wait_failed => cases hresult
  | expired => cases hresult

theorem returns_run_of_answer {call : ServiceCall} {data raw : Packet}
    {inner : Outcome UdsError Packet} {result : EcuResponseResult}
    (harguments : call.arguments overflow_checks = .ok data)
    (hjudge : judge overflow_checks call.sid 0 raw = returned inner)
    (hresult : result = inner >>= call.parse) :
    Returns (call.run overflow_checks) [.sent (call.sid :: data) (.ok ()), .received (.ok raw)]
      result := by
  have hreceived : Step overflow_checks call.sid data (receiving 0) (.received (.ok raw))
      (returned inner) := hjudge ▸ .received 0 raw
  have hexchange := returns_iff.mpr (.snoc (.snoc .nil (.sent 0)) hreceived)
  exact returns_run_iff.mpr (.inr ⟨data, inner, harguments, hexchange, hresult⟩)

theorem returns_run_of_delayed {call : ServiceCall} {data pend : Packet}
    (harguments : call.arguments overflow_checks = .ok data)
    (hpending : judge overflow_checks call.sid 0 pend = waiting) (raw : Packet) :
    Returns (call.run overflow_checks) [.sent (call.sid :: data) (.ok ()), .received (.ok pend),
      .waited (some (.ok raw))] (call.parse raw) := by
  have hreceived : Step overflow_checks call.sid data (receiving 0) (.received (.ok pend))
      waiting := hpending ▸ .received 0 pend
  have hexchange :=
    returns_iff.mpr (.snoc (.snoc (.snoc .nil (.sent 0)) hreceived) (.delayed raw))
  exact returns_run_iff.mpr (.inr ⟨data, .ok raw, harguments, hexchange, rfl⟩)

/-- A run of `call` has transmitted only `request`, and `raw`, the packet received
last, is a positive response to it: no negative one and none of another service. -/
structure OwnResponse (call : ServiceCall) (es : List (Event Packet UdsCommunicationError))
    (request raw : Packet) : Prop where
  transmitted : transmissions es ≠ []
  only : ∀ sent ∈ transmissions es, sent = request
  received : (deliveries es).getLast? = some raw
  first : ∃ sid data rest, request = sid :: data ∧ raw = (sid + SEND_RECEIVE_SID_OFFSET) :: rest
  not_negative : raw.head? ≠ some NEGATIVE_RESPONSE_SID
  not_foreign : ∀ other : ServiceCall, other.sid ≠ call.sid →
    raw.head? ≠ some (other.sid + SEND_RECEIVE_SID_OFFSET)

/-- A call of any method succeeds only on a positive response to the request it
transmitted, and no packet is accepted by the parsers of two services. That the
packet was checked by the exchange is not assumed: after a pending answer it was
not. -/
theorem success_only_on_own_response :
    (∀ (call : ServiceCall) es v, Returns (call.run overflow_checks) es (.ok v) →
      ∃ request raw, OwnResponse call es request raw) ∧
    ∀ (call other : ServiceCall) raw v w, call.parse raw = .ok v → other.parse raw = .ok w →
      call.sid = other.sid := by
  constructor
  · intro call es v h
    obtain ⟨data, raw, -, hexchange, hlast, hparse⟩ := exchange_of_returns_ok h
    obtain ⟨repeats, hsent⟩ := transmissions_of_returns_ok hexchange
    obtain ⟨rest, rfl⟩ := first_of_parse_ok hparse
    refine ⟨call.sid :: data, _, ?_, ?_, hlast, ⟨call.sid, data, rest, rfl, rfl⟩, ?_, ?_⟩
    · rw [hsent]
      simp
    · intro sent hmem
      rw [hsent] at hmem
      exact List.eq_of_mem_replicate hmem
    · intro hnegative
      exact sid_offset_ne_negative call (Option.some.inj hnegative)
    · intro other hother hhead
      exact hother (sid_offset_inj (Option.some.inj hhead)).symm
  · intro call other raw v w hcall hother
    obtain ⟨rest, rfl⟩ := first_of_parse_ok hcall
    obtain ⟨rest', hraw⟩ := first_of_parse_ok hother
    exact sid_offset_inj (List.cons.inj hraw).1

theorem success_only_on_own_response_read_memory :
    ∃ request raw, OwnResponse (read_memory_by_address 0x11 [0x10] [0x01])
      [.sent [0x23, 0x11, 0x10, 0x01] (.ok ()), .received (.ok [0x7F, 0x23, 0x78]),
        .waited (some (.ok [0x63, 0xAA]))] request raw := by
  have hrun : Returns ((read_memory_by_address 0x11 [0x10] [0x01]).run true)
      [.sent [0x23, 0x11, 0x10, 0x01] (.ok ()), .received (.ok [0x7F, 0x23, 0x78]),
        .waited (some (.ok [0x63, 0xAA]))] (.ok (.ReadMemoryByAddress (.Parsed ⟨[0xAA]⟩))) :=
    returns_run_of_delayed rfl (by decide) [0x63, 0xAA]
  exact success_only_on_own_response.1 _ _ _ hrun

end uds_rs.uds.ServiceCall

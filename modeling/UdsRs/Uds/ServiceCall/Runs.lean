import UdsRs.Uds.ReadMemoryByAddress.Lengths
import UdsRs.Uds.SendAndReceive.Rounds
import UdsRs.Uds.ServiceCall.Accept

namespace uds_rs.uds.ServiceCall

open async_sock rust UdsClient Stage

variable {overflow_checks : Bool} {es : List (Event Packet UdsCommunicationError)}
  {result : EcuResponseResult}

/-- Arguments are rejected as invalid or composed, the same way in every build. -/
theorem arguments_cases (call : ServiceCall) :
    (∀ overflow_checks, call.arguments overflow_checks = err .InvalidArgument) ∨
      ∃ data, ∀ overflow_checks, call.arguments overflow_checks = .ok data := by
  cases call with
  | read_memory_by_address_simplified address size address_len size_len =>
    by_cases hreject : Rejected address_len address ∨ Rejected size_len size
    · refine .inl fun overflow_checks => ?_
      rw [arguments, convert_from_simple_to_normal_rejected overflow_checks hreject]
      rfl
    · obtain ⟨haddress, hsize⟩ := not_or.mp hreject
      obtain ⟨format, hformat, hchecked⟩ := convert_from_simple_to_normal_sent true haddress hsize
      obtain ⟨format', hformat', hunchecked⟩ :=
        convert_from_simple_to_normal_sent false haddress hsize
      obtain rfl : format' = format := UInt8.toNat_inj.mp (hformat'.trans hformat.symm)
      refine .inr ⟨(formulate_request format' ((u64_to_be_bytes address).drop
        (8 - sent_len address_len address)) ((u64_to_be_bytes size).drop
        (8 - sent_len size_len size))).tail, fun overflow_checks => ?_⟩
      cases overflow_checks with
      | false =>
        rw [arguments, hunchecked]
        rfl
      | true =>
        rw [arguments, hchecked]
        rfl
  | _ => exact .inr ⟨_, fun _ => rfl⟩

/-- The runs of a call, operation by operation: none for rejected arguments, else
busy rounds below the limit and a closing, and the parser on the packet handed out.
Whatever the socket, the ECU and the timer do, a completed call has one of these
runs, and each of them is a run. -/
theorem returns_run_iff_rounds {call : ServiceCall} :
    Returns (call.run overflow_checks) es result ↔
      (call.arguments overflow_checks = err .InvalidArgument ∧ es = [] ∧
        result = err .InvalidArgument) ∨
      ∃ data busy last inner, call.arguments overflow_checks = .ok data ∧
        BusyRounds overflow_checks call.sid busy ∧
        es = rounds (call.sid :: data) busy ++ last ∧
        Closing overflow_checks call.sid data busy.length last inner ∧
        result = inner >>= call.parse := by
  constructor
  · intro h
    rcases returns_run_iff.mp h with ⟨stop, hstop, rfl, rfl⟩ | ⟨data, inner, hdata, hinner, rfl⟩
    · rcases call.arguments_cases with hinvalid | ⟨data, hdata⟩
      · rw [hinvalid overflow_checks] at hstop
        cases hstop
        exact .inl ⟨hinvalid overflow_checks, rfl, rfl⟩
      · rw [hdata overflow_checks] at hstop
        cases hstop
    · obtain ⟨busy, last, hbusy, hes, hlast⟩ := returns_iff_rounds.mp hinner
      exact .inr ⟨data, busy, last, inner, hdata, hbusy, hes, hlast, rfl⟩
  · rintro (⟨hinvalid, rfl, rfl⟩ | ⟨data, busy, last, inner, hdata, hbusy, hes, hlast, rfl⟩)
    · exact returns_run_iff.mpr (.inl ⟨_, hinvalid, rfl, rfl⟩)
    · have hinner := returns_iff_rounds.mpr ⟨busy, last, hbusy, hes, hlast⟩
      exact returns_run_iff.mpr (.inr ⟨data, inner, hdata, hinner, rfl⟩)

def busy_count (call : ServiceCall) (es : List (Event Packet UdsCommunicationError)) : Nat :=
  (deliveries es).countP fun raw => Busy call.sid raw

theorem busy_count_rounds {call : ServiceCall} {request : Packet} {busy : List Packet}
    (hbusy : ∀ raw ∈ busy, Busy call.sid raw) (last : List (Event Packet UdsCommunicationError)) :
    call.busy_count (rounds request busy ++ last) = busy.length + call.busy_count last := by
  have hall : busy.countP (fun raw => Busy call.sid raw) = busy.length :=
    List.countP_eq_length.mpr (by simpa using hbusy)
  rw [busy_count, busy_count, deliveries_append, deliveries_rounds, List.countP_append, hall]

/-- Only giving up depends on the build, and it takes more busy answers than these.
-/
theorem closing_of_few_busy {call : ServiceCall} {data : Packet} {n : Nat}
    {last : List (Event Packet UdsCommunicationError)} {inner : Outcome UdsError Packet}
    (h : Closing overflow_checks call.sid data n last inner)
    (hfew : n + call.busy_count last ≤ 2 ^ 31) (overflow_checks' : Bool) :
    Closing overflow_checks' call.sid data n last inner := by
  cases h with
  | send_failed e => exact .send_failed e
  | receive_failed e => exact .receive_failed e
  | accepted hverdict => exact .accepted hverdict
  | rejected hverdict => exact .rejected hverdict
  | @gave_up raw hbusy hlimit =>
    have hone : call.busy_count [.sent (call.sid :: data) (.ok ()), .received (.ok raw)] = 1 := by
      simp [busy_count, hbusy]
    have hlower := lt_retry_limit overflow_checks
    omega
  | delayed hpending raw => exact .delayed hpending raw
  | wait_failed hpending e => exact .wait_failed hpending e
  | expired hpending => exact .expired hpending

theorem returns_run_of_few_busy {call : ServiceCall}
    (h : Returns (call.run overflow_checks) es result) (hfew : call.busy_count es ≤ 2 ^ 31)
    (overflow_checks' : Bool) : Returns (call.run overflow_checks') es result := by
  rcases returns_run_iff_rounds.mp h with
    ⟨hinvalid, rfl, rfl⟩ | ⟨data, busy, last, inner, hdata, hbusy, rfl, hlast, rfl⟩
  · rcases call.arguments_cases with hall | ⟨data, hdata⟩
    · exact returns_run_iff_rounds.mpr (.inl ⟨hall overflow_checks', rfl, rfl⟩)
    · rw [hdata overflow_checks] at hinvalid
      cases hinvalid
  · rw [busy_count_rounds hbusy.all] at hfew
    rcases call.arguments_cases with hinvalid | ⟨data', hall⟩
    · rw [hinvalid overflow_checks] at hdata
      cases hdata
    · obtain rfl : data' = data := Except.ok.inj ((hall overflow_checks).symm.trans hdata)
      have hbelow : busy.length < retry_limit overflow_checks' :=
        Nat.lt_of_le_of_lt (by omega) (lt_retry_limit overflow_checks')
      exact returns_run_iff_rounds.mpr (.inr ⟨data', busy, last, inner, hall overflow_checks',
        ⟨hbusy.all, hbelow⟩, rfl, closing_of_few_busy hlast hfew overflow_checks', rfl⟩)

/-- With at most 2^31 busy answers a call runs in the same way with and without
overflow checks: its counter has not come to the end of its range by then, and no
other arithmetic of a call overflows. -/
theorem builds_agree {call : ServiceCall} (hfew : call.busy_count es ≤ 2 ^ 31) :
    Returns (call.run true) es result ↔ Returns (call.run false) es result :=
  ⟨fun h => returns_run_of_few_busy h hfew false, fun h => returns_run_of_few_busy h hfew true⟩

theorem builds_agree_write :
    Returns ((write_data_by_identifier 0xF190 [0xAA]).run false)
      [.sent [0x2E, 0xF1, 0x90, 0xAA] (.ok ()), .received (.ok [0x7F, 0x2E, 0x21]),
        .sent [0x2E, 0xF1, 0x90, 0xAA] (.ok ()), .received (.ok [0x6E, 0xF1, 0x90])]
      (.ok (.WriteDataByIdentifier (.Parsed ⟨0xF190⟩))) := by
  have hbusy : BusyRounds true 0x2E [[0x7F, 0x2E, 0x21]] := ⟨by decide, by decide⟩
  have hrun := returns_run_iff_rounds.mpr (.inr ⟨[0xF1, 0x90, 0xAA], [[0x7F, 0x2E, 0x21]], _, _,
    (rfl : (write_data_by_identifier 0xF190 [0xAA]).arguments true = _), hbusy, rfl,
    .accepted (by decide : verdict 0x2E [0x6E, 0xF1, 0x90] = .accept), rfl⟩)
  exact (builds_agree (by decide)).mp hrun

end uds_rs.uds.ServiceCall

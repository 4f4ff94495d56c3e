import UdsRs.Uds.ReadMemoryByAddress.Lengths
import UdsRs.Uds.ServiceCall.Accept
import UdsRs.Uds.ServiceCall.Errors

namespace uds_rs.uds

open async_sock rust UdsClient Stage

/-- No length makes the simplified memory read overflow or slice out of range. -/
theorem stops_convert_from_simple_to_normal (overflow_checks : Bool)
    (memory_address memory_size : UInt64) (memory_address_len memory_size_len : Option UInt8) :
    Stops (· = .err .InvalidArgument) (convert_from_simple_to_normal overflow_checks memory_address
      memory_size memory_address_len memory_size_len) := by
  by_cases hreject :
      Rejected memory_address_len memory_address ∨ Rejected memory_size_len memory_size
  · rw [convert_from_simple_to_normal_rejected overflow_checks hreject]
    exact stops_err rfl
  · obtain ⟨haddress, hsize⟩ := not_or.mp hreject
    obtain ⟨format, -, hconvert⟩ :=
      convert_from_simple_to_normal_sent overflow_checks haddress hsize
    rw [hconvert]
    exact stops_ok _

namespace ServiceCall

variable {overflow_checks : Bool} {es : List (Event Packet UdsCommunicationError)}

theorem noPanic_arguments (overflow_checks : Bool) (call : ServiceCall) :
    NoPanic (call.arguments overflow_checks) := by
  have hstops : Stops (· = .err .InvalidArgument) (call.arguments overflow_checks) := by
    cases call with
    | read_memory_by_address_simplified address size address_len size_len =>
      apply Stops.bind (stops_convert_from_simple_to_normal _ _ _ _ _)
      intro request_arguments _
      exact stops_ok _
    | _ => exact stops_ok _
  exact hstops.noPanic nofun

/-- The parser of a call is safe on every packet, that of a memory read on every
packet but the empty one. It indexes first, where the others take bytes from an
iterator or slice after they have read one. -/
theorem noPanic_parse {call : ServiceCall} {raw : Packet}
    (h : call.sid = READ_MEMORY_BY_ADDRESS_SID → raw ≠ []) : NoPanic (call.parse raw) :=
  (stops_parse h).noPanic Failure.not_panic

/-- On the empty packet the parser of a memory read panics and all others return an
error. -/
theorem parse_nil_of_memory {call : ServiceCall} (h : call.sid = READ_MEMORY_BY_ADDRESS_SID) :
    call.parse [] = .error (.panic .index_out_of_bounds) := by
  cases call with
  | read_memory_by_address => rfl
  | read_memory_by_address_simplified => rfl
  | _ => exact absurd h (by simp only [sid]; decide)

theorem parse_nil {call : ServiceCall} (h : call.sid ≠ READ_MEMORY_BY_ADDRESS_SID) :
    ∃ e, call.parse [] = err e := by
  refine NoPanic.err_of_not_ok (noPanic_parse fun hsid => absurd hsid h) ?_
  intro v hok
  obtain ⟨rest, hrest⟩ := first_of_parse_ok hok
  cases hrest

theorem exchange_index_in_range {sid : UInt8} {data : Packet} {inner : Outcome UdsError Packet}
    (h : Returns (send_and_receive overflow_checks (sid :: data)) es inner) :
    inner ≠ .error (.panic .index_out_of_bounds) := by
  intro hpanic
  cases ending_of_returns h with
  | send_failed => cases hpanic
  | judged hrun hjudge =>
    rcases judge_returned hjudge with ⟨-, rfl⟩ | ⟨e, -, rfl⟩ | ⟨-, rfl | rfl⟩
    · cases hpanic
    · cases hpanic
    · cases hpanic
    · cases hpanic
  | receive_failed => cases hpanic
  | delayed => cases hpanic
  | wait_failed => cases hpanic
  | expired => cases hpanic

/-- The call reads memory and is given an empty packet right after a pending answer,
which is the only way for the exchange to hand one out. -/
def DelayedEmpty (call : ServiceCall) (es : List (Event Packet UdsCommunicationError)) : Prop :=
  call.sid = READ_MEMORY_BY_ADDRESS_SID ∧
    ∃ before pend, deliveries es = before ++ [pend, []] ∧ Pending call.sid pend

/-- No index is out of bounds, and an empty packet makes the call return `Err`. -/
structure EmptySafe (es : List (Event Packet UdsCommunicationError)) (result : EcuResponseResult) :
    Prop where
  in_range : result ≠ .error (.panic .index_out_of_bounds)
  empty : [] ∈ deliveries es → ∃ e, result = err e

theorem panic_of_delayedEmpty {call : ServiceCall} {data : Packet}
    {inner : Outcome UdsError Packet}
    (hinner : Returns (send_and_receive overflow_checks (call.sid :: data)) es inner)
    (h : DelayedEmpty call es) :
    (inner >>= call.parse) = .error (.panic .index_out_of_bounds) := by
  obtain ⟨hmemory, before, pend, hdeliveries, hpending⟩ := h
  have hempty : [] ∈ deliveries es := by simp [hdeliveries]
  rcases returns_empty hinner hempty with ⟨-, hall⟩ | ⟨rfl, -⟩
  · rcases hall pend (by simp [hdeliveries]) with hbusy | rfl
    · exact absurd hpending hbusy.not_pending
    · cases hpending
  · exact parse_nil_of_memory hmemory

/-- In every other exchange the parser is given no packet it would panic on. -/
theorem emptySafe_of_not_delayedEmpty {call : ServiceCall} {data : Packet}
    {inner : Outcome UdsError Packet}
    (hinner : Returns (send_and_receive overflow_checks (call.sid :: data)) es inner)
    (hnot : ¬ DelayedEmpty call es) : EmptySafe es (inner >>= call.parse) := by
  constructor
  · intro hpanic
    cases inner with
    | error stop =>
      rw [error_bind] at hpanic
      cases hpanic
      exact exchange_index_in_range hinner rfl
    | ok raw =>
      have hraw : call.sid = READ_MEMORY_BY_ADDRESS_SID → raw ≠ [] := by
        rintro hmemory rfl
        obtain ⟨es', e, rfl, hdelivered⟩ := last_of_returns_ok hinner
        rcases returns_empty hinner (by simp [hdelivered]) with ⟨herr, -⟩ | ⟨-, hpending⟩
        · cases herr
        · obtain ⟨busy, pend, hdeliveries, hpend⟩ := hpending
          exact hnot ⟨hmemory, busy, pend, hdeliveries, hpend⟩
      exact noPanic_parse hraw _ hpanic
  · intro hempty
    rcases returns_empty hinner hempty with ⟨rfl, -⟩ | ⟨rfl, busy, pend, hdeliveries, hpending⟩
    · exact ⟨_, rfl⟩
    · apply parse_nil
      intro hmemory
      exact hnot ⟨hmemory, busy, pend, hdeliveries, hpending⟩

/-- A call is safe from empty packets in every run but those in which it reads
memory and the packet after a pending answer is empty. -/
theorem emptySafe_iff {call : ServiceCall} {result : EcuResponseResult}
    (h : Returns (call.run overflow_checks) es result) :
    EmptySafe es result ↔ ¬ DelayedEmpty call es := by
  rcases returns_run_iff.mp h with ⟨stop, hstop, rfl, rfl⟩ | ⟨data, inner, -, hinner, rfl⟩
  · have hnever : ¬ DelayedEmpty call [] := by
      rintro ⟨-, before, pend, hdeliveries, -⟩
      simp at hdeliveries
    have hsafe := noPanic_arguments overflow_checks call
    rw [hstop] at hsafe
    refine iff_of_true ⟨?_, by simp⟩ hnever
    intro hpanic
    cases hpanic
    exact hsafe _ rfl
  · constructor
    · intro hsafe hdelayed
      exact hsafe.in_range (panic_of_delayedEmpty hinner hdelayed)
    · exact emptySafe_of_not_delayedEmpty hinner

theorem emptySafe_iff_write :
    EmptySafe [.sent [0x2E, 0xF1, 0x90, 0xAA] (.ok ()), .received (.ok [])] (err .ResponseEmpty) := by
  have hreject : judge true 0x2E 0 [] = returned (err .ResponseEmpty) := by decide
  have hrun : Returns ((write_data_by_identifier 0xF190 [0xAA]).run true)
      [.sent [0x2E, 0xF1, 0x90, 0xAA] (.ok ()), .received (.ok [])] (err .ResponseEmpty) :=
    returns_run_of_answer rfl hreject rfl
  exact (emptySafe_iff hrun).mpr fun hdelayed => absurd hdelayed.1 (by decide)

/-- A memory read that gets a pending answer and then an empty packet panics. -/
theorem not_emptySafe_read_memory :
    Returns ((read_memory_by_address 0x11 [0x10] [0x01]).run true)
        [.sent [0x23, 0x11, 0x10, 0x01] (.ok ()), .received (.ok [0x7F, 0x23, 0x78]),
          .waited (some (.ok []))] (.error (.panic .index_out_of_bounds)) ∧
      ¬ EmptySafe [.sent [0x23, 0x11, 0x10, 0x01] (.ok ()), .received (.ok [0x7F, 0x23, 0x78]),
        .waited (some (.ok []))] (.error (.panic .index_out_of_bounds)) := by
  constructor
  · exact returns_run_of_delayed rfl (by decide) []
  · intro hsafe
    exact hsafe.in_range rfl

end ServiceCall

end uds_rs.uds

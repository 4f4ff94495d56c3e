import UdsRs.Uds.SendAndReceive.Discipline
import UdsRs.Uds.ServiceCall.Echo

namespace uds_rs.uds

open async_sock rust Stage

/-- The address and the size of a request, split by the halves of its format byte;
nothing if bytes are missing or left over. -/
def split_request : Packet → Option (Packet × Packet)
  | sid :: format :: bytes =>
    let address_len := (u8_low_nibble format).toNat
    let size_len := (u8_high_nibble format).toNat
    if sid = READ_MEMORY_BY_ADDRESS_SID ∧ bytes.length = address_len + size_len then
      some (bytes.take address_len, bytes.drop address_len)
    else
      none
  | _ => none

theorem split_request_formulate_request {format : UInt8} {memory_address memory_size : Packet}
    (haddress : memory_address.length < 16)
    (h : format.toNat = 16 * memory_size.length + memory_address.length) :
    split_request (formulate_request format memory_address memory_size) =
      some (memory_address, memory_size) := by
  have hlow : (u8_low_nibble format).toNat = memory_address.length := u8_low_nibble_toNat haddress h
  have hhigh : (u8_high_nibble format).toNat = memory_size.length := u8_high_nibble_toNat haddress h
  simp [formulate_request, split_request, hlow, hhigh]

/-- The request carries both numbers, each in the length chosen for it: the format
byte tells the lengths, and what follows is split by them without a rest. -/
structure Encodes (memory_address memory_size : UInt64)
    (memory_address_len memory_size_len : Option UInt8) (format : UInt8) (address size : Packet) :
    Prop where
  address_len : address.length = sent_len memory_address_len memory_address
  size_len : size.length = sent_len memory_size_len memory_size
  split : split_request (formulate_request format address size) = some (address, size)
  address_value : be_value address = memory_address.toNat
  size_value : be_value size = memory_size.toNat

section Convert

variable {memory_address memory_size : UInt64} {memory_address_len memory_size_len : Option UInt8}

theorem u64_bytes_sent_length (provided : Option UInt8) (x : UInt64) :
    ((u64_to_be_bytes x).drop (8 - sent_len provided x)).length = sent_len provided x := by
  have hle := sent_len_le provided x
  rw [List.length_drop, u64_to_be_bytes_length]
  omega

theorem convert_from_simple_to_normal_encodes (overflow_checks : Bool)
    (haddress : ¬ Rejected memory_address_len memory_address)
    (hsize : ¬ Rejected memory_size_len memory_size) :
    ∃ format address size,
      convert_from_simple_to_normal overflow_checks memory_address memory_size memory_address_len
        memory_size_len = .ok (format, address, size) ∧
      Encodes memory_address memory_size memory_address_len memory_size_len format address size := by
  have haddress_le := sent_len_le memory_address_len memory_address
  have hsize_le := sent_len_le memory_size_len memory_size
  have haddress_length := u64_bytes_sent_length memory_address_len memory_address
  have hsize_length := u64_bytes_sent_length memory_size_len memory_size
  obtain ⟨format, hformat, hconvert⟩ :=
    convert_from_simple_to_normal_sent overflow_checks haddress hsize
  refine ⟨format, _, _, hconvert, haddress_length, hsize_length, ?_, ?_, ?_⟩
  · apply split_request_formulate_request
    · omega
    · rw [haddress_length, hsize_length]
      exact hformat
  · exact be_value_u64_drop haddress_le (need_le_sent_len haddress)
  · exact be_value_u64_drop hsize_le (need_le_sent_len hsize)

/-- The conversion fails on rejected lengths only, always as a mistake in the
arguments. -/
theorem convert_from_simple_to_normal_eq_err_iff (overflow_checks : Bool) :
    convert_from_simple_to_normal overflow_checks memory_address memory_size memory_address_len
      memory_size_len = err .InvalidArgument ↔
        Rejected memory_address_len memory_address ∨ Rejected memory_size_len memory_size := by
  constructor
  · intro herr
    by_contra hnot
    obtain ⟨haddress, hsize⟩ := not_or.mp hnot
    obtain ⟨_, _, _, hconvert, -⟩ :=
      convert_from_simple_to_normal_encodes overflow_checks haddress hsize
    rw [hconvert] at herr
    cases herr
  · exact convert_from_simple_to_normal_rejected overflow_checks

/-- Both halves of the format byte are the lengths of what follows, between 1 and 8.
-/
def NonDegenerate (converted : Outcome UdsError (UInt8 × Packet × Packet)) : Prop :=
  ∀ format address size, converted = .ok (format, address, size) →
    ((u8_low_nibble format).toNat = address.length ∧ 1 ≤ address.length ∧ address.length ≤ 8) ∧
    (u8_high_nibble format).toNat = size.length ∧ 1 ≤ size.length ∧ size.length ≤ 8

/-- Zero without a length, or with length 0. No other number can be sent in no
bytes. -/
def SentAsNothing (provided : Option UInt8) (x : UInt64) : Prop :=
  x = 0 ∧ (provided = none ∨ provided = some 0)

theorem sent_len_eq_zero_iff {provided : Option UInt8} {x : UInt64} (h : ¬ Rejected provided x) :
    sent_len provided x = 0 ↔ SentAsNothing provided x := by
  have henough := need_le_sent_len h
  constructor
  · intro hzero
    have hneed : need x.toNat = 0 := by omega
    refine ⟨UInt64.toNat_inj.mp (need_eq_zero_iff.mp hneed), ?_⟩
    cases provided with
    | none => exact .inl rfl
    | some len =>
      have hmin : min len.toNat 8 = 0 := hzero
      have hlen : len.toNat = 0 := by omega
      exact .inr (congrArg some (UInt8.toNat_inj.mp hlen))
  · rintro ⟨rfl, rfl | rfl⟩
    · exact need_eq_zero_iff.mpr rfl
    · rfl

/-- The counting loop does not run for zero, so zero is sent in no bytes unless a
length is provided for it. -/
theorem nonDegenerate_convert_iff (overflow_checks : Bool) (memory_address memory_size : UInt64)
    (memory_address_len memory_size_len : Option UInt8) :
    NonDegenerate (convert_from_simple_to_normal overflow_checks memory_address memory_size
      memory_address_len memory_size_len) ↔
        (Rejected memory_address_len memory_address ∨ Rejected memory_size_len memory_size) ∨
          ¬ SentAsNothing memory_address_len memory_address ∧
            ¬ SentAsNothing memory_size_len memory_size := by
  by_cases hreject :
      Rejected memory_address_len memory_address ∨ Rejected memory_size_len memory_size
  · refine iff_of_true ?_ (.inl hreject)
    intro format address size hok
    rw [convert_from_simple_to_normal_rejected overflow_checks hreject] at hok
    cases hok
  · obtain ⟨haddress, hsize⟩ := not_or.mp hreject
    have haddress_le := sent_len_le memory_address_len memory_address
    have hsize_le := sent_len_le memory_size_len memory_size
    have haddress_length := u64_bytes_sent_length memory_address_len memory_address
    have hsize_length := u64_bytes_sent_length memory_size_len memory_size
    obtain ⟨format, hformat, hconvert⟩ :=
      convert_from_simple_to_normal_sent overflow_checks haddress hsize
    have hshort : sent_len memory_address_len memory_address < 16 := by omega
    rw [← sent_len_eq_zero_iff haddress, ← sent_len_eq_zero_iff hsize, hconvert]
    constructor
    · intro h
      obtain ⟨⟨-, haddress_pos, -⟩, -, hsize_pos, -⟩ := h _ _ _ rfl
      exact .inr ⟨by omega, by omega⟩
    · rintro (h | ⟨haddress_ne, hsize_ne⟩) format' address size hok
      · exact absurd h hreject
      · cases hok
        rw [haddress_length, hsize_length, u8_low_nibble_toNat hshort hformat,
          u8_high_nibble_toNat hshort hformat]
        omega

/-- The memory at address 0 is requested without an address: the conversion is given
no lengths and returns no error. -/
theorem not_nonDegenerate_address_zero :
    ¬ NonDegenerate (convert_from_simple_to_normal true 0 1 none none) := by
  have hzero : count_encode_bytes true 0 0 = .ok 0 := by
    rw [count_encode_bytes]
    rfl
  have hone : count_encode_bytes true 1 0 = .ok 1 := by
    rw [count_encode_bytes, dif_pos (by decide)]
    rw [u8_add_eq_ok true (by decide), ok_bind, count_encode_bytes]
    rfl
  have hconvert : convert_from_simple_to_normal true 0 1 none none = .ok (0x10, [], [0x01]) := by
    unfold convert_from_simple_to_normal
    rw [hzero, hone]
    rfl
  intro h
  obtain ⟨⟨-, hpos, -⟩, -⟩ := h _ _ _ hconvert
  exact absurd hpos (by decide)

end Convert

namespace ServiceCall

variable {overflow_checks : Bool} {es : List (Event Packet UdsCommunicationError)}

/-- The simplified memory read returns `InvalidArgument` and sends nothing exactly
when a length that was provided is too small for its number. Otherwise it is the
exchange of one request, sent first and whole, which carries both numbers in the
lengths chosen for them, followed by the parser of the response. -/
theorem read_memory_by_address_simplified_encodes (overflow_checks : Bool)
    (memory_address memory_size : UInt64) (memory_address_len memory_size_len : Option UInt8) :
    (convert_from_simple_to_normal overflow_checks memory_address memory_size memory_address_len
        memory_size_len = err .InvalidArgument ↔
      Rejected memory_address_len memory_address ∨ Rejected memory_size_len memory_size) ∧
    (Rejected memory_address_len memory_address ∨ Rejected memory_size_len memory_size →
      (read_memory_by_address_simplified memory_address memory_size memory_address_len
        memory_size_len).run overflow_checks = .ready (err .InvalidArgument) ∧
      ∀ es result, Returns ((read_memory_by_address_simplified memory_address memory_size
        memory_address_len memory_size_len).run overflow_checks) es result →
          es = [] ∧ result = err .InvalidArgument) ∧
    (¬ (Rejected memory_address_len memory_address ∨ Rejected memory_size_len memory_size) →
      ∃ format address size,
        convert_from_simple_to_normal overflow_checks memory_address memory_size
          memory_address_len memory_size_len = .ok (format, address, size) ∧
        Encodes memory_address memory_size memory_address_len memory_size_len format address size ∧
        (read_memory_by_address_simplified memory_address memory_size memory_address_len
          memory_size_len).run overflow_checks = (do
            let response ← UdsClient.send_and_receive overflow_checks
              (formulate_request format address size)
            parse_response response) ∧
        ∀ es result, Returns ((read_memory_by_address_simplified memory_address memory_size
          memory_address_len memory_size_len).run overflow_checks) es result →
            (∃ r, es.head? = some (.sent (formulate_request format address size) r)) ∧
            ∀ sent ∈ transmissions es, sent = formulate_request format address size) := by
  refine ⟨convert_from_simple_to_normal_eq_err_iff overflow_checks, ?_, ?_⟩
  · intro hreject
    have hrun : (read_memory_by_address_simplified memory_address memory_size
        memory_address_len memory_size_len).run overflow_checks = .ready (err .InvalidArgument) := by
      rw [run, UdsClient.read_memory_by_address_simplified,
        convert_from_simple_to_normal_rejected overflow_checks hreject]
      rfl
    refine ⟨hrun, fun es result hreturns => ?_⟩
    rw [hrun] at hreturns
    obtain ⟨rfl, hresult⟩ := Steps.ready_iff.mp hreturns
    exact ⟨rfl, Future.ready.inj hresult⟩
  · intro hnot
    obtain ⟨haddress, hsize⟩ := not_or.mp hnot
    obtain ⟨format, address, size, hconvert, hencodes⟩ :=
      convert_from_simple_to_normal_encodes overflow_checks haddress hsize
    have hrun : (read_memory_by_address_simplified memory_address memory_size
        memory_address_len memory_size_len).run overflow_checks =
        (do
          let response ← UdsClient.send_and_receive overflow_checks
            (formulate_request format address size)
          parse_response response) := by
      rw [run, UdsClient.read_memory_by_address_simplified, hconvert]
      rfl
    refine ⟨format, address, size, hconvert, hencodes, hrun, fun es result hreturns => ?_⟩
    rw [hrun] at hreturns
    obtain ⟨inner, hinner, -⟩ := returns_bind_ready_iff.mp hreturns
    exact ⟨first_of_returns hinner, sent_of_returns hinner⟩

/-- The number of bytes a memory read asks for: the value of its size, whether it is
given as a number or as bytes. -/
def requested_size : ServiceCall → Option Nat
  | read_memory_by_address _ _ memory_size => some (be_value memory_size)
  | read_memory_by_address_simplified _ memory_size _ _ => some memory_size.toNat
  | _ => none

theorem requested_size_cases {call : ServiceCall} {size : Nat}
    (h : call.requested_size = some size) :
    call.sid = READ_MEMORY_BY_ADDRESS_SID ∧ call.parse = parse_response := by
  cases call with
  | read_memory_by_address => exact ⟨rfl, rfl⟩
  | read_memory_by_address_simplified => exact ⟨rfl, rfl⟩
  | _ => cases h

/-- A memory read that succeeds returns `size` bytes, and data of another length
makes it return `Err`. -/
structure SizedRead (size : Nat) (es : List (Event Packet UdsCommunicationError))
    (result : EcuResponseResult) : Prop where
  sized : ∀ response, result = .ok (.ReadMemoryByAddress (.Parsed response)) →
    response.data_record.length = size
  rejected : ∀ data, (deliveries es).getLast? = some (0x63 :: data) → data.length ≠ size →
    ∃ e, result = err e

/-- Every positive response is accepted, so the size is right exactly when the ECU
sent as many bytes as were requested: nothing compares the data that is returned
with that size. -/
theorem sizedRead_iff {call : ServiceCall} {size : Nat} {result : EcuResponseResult}
    (hsize : call.requested_size = some size)
    (h : Returns (call.run overflow_checks) es result) :
    SizedRead size es result ↔
      ∀ data, (deliveries es).getLast? = some (0x63 :: data) → data.length = size := by
  obtain ⟨hsid, hparse⟩ := requested_size_cases hsize
  constructor
  · intro hsized data hlast
    by_contra hne
    obtain ⟨e, herr⟩ := hsized.rejected data hlast hne
    have haccept : verdict call.sid (0x63 :: data) = .accept := by
      rw [hsid]
      exact verdict_positive (by decide) _
    have hok : parse_response (0x63 :: data) = .ok (.ReadMemoryByAddress (.Parsed ⟨data⟩)) :=
      parse_response_eq_ok_iff.mpr ⟨data, rfl, rfl⟩
    rw [result_of_last h hlast haccept, hparse, hok] at herr
    cases herr
  · intro hlength
    constructor
    · rintro response rfl
      obtain ⟨_, raw, -, -, hlast, hok⟩ := exchange_of_returns_ok h
      rw [hparse] at hok
      obtain ⟨data, rfl, hresponse⟩ := parse_response_eq_ok_iff.mp hok
      cases hresponse
      exact hlength data hlast
    · intro data hlast hne
      exact absurd (hlength data hlast) hne

theorem sizedRead_iff_two_bytes :
    SizedRead 2 [.sent [0x23, 0x11, 0x10, 0x02] (.ok ()), .received (.ok [0x63, 0xAA, 0xBB])]
      (.ok (.ReadMemoryByAddress (.Parsed ⟨[0xAA, 0xBB]⟩))) := by
  have haccept : judge true 0x23 0 [0x63, 0xAA, 0xBB] = returned (.ok [0x63, 0xAA, 0xBB]) := by
    decide
  have hrun : Returns ((read_memory_by_address 0x11 [0x10] [0x02]).run true)
      [.sent [0x23, 0x11, 0x10, 0x02] (.ok ()), .received (.ok [0x63, 0xAA, 0xBB])]
      (.ok (.ReadMemoryByAddress (.Parsed ⟨[0xAA, 0xBB]⟩))) := returns_run_of_answer rfl haccept rfl
  apply (sizedRead_iff (by decide) hrun).mpr
  intro data hlast
  cases hlast
  rfl

theorem not_sizedRead_one_byte :
    (read_memory_by_address 0x11 [0x10] [0x02]).requested_size = some 2 ∧
      Returns ((read_memory_by_address 0x11 [0x10] [0x02]).run true)
        [.sent [0x23, 0x11, 0x10, 0x02] (.ok ()), .received (.ok [0x63, 0xAA])]
        (.ok (.ReadMemoryByAddress (.Parsed ⟨[0xAA]⟩))) ∧
      ¬ SizedRead 2 [.sent [0x23, 0x11, 0x10, 0x02] (.ok ()), .received (.ok [0x63, 0xAA])]
        (.ok (.ReadMemoryByAddress (.Parsed ⟨[0xAA]⟩))) := by
  have haccept : judge true 0x23 0 [0x63, 0xAA] = returned (.ok [0x63, 0xAA]) := by decide
  refine ⟨by decide, returns_run_of_answer rfl haccept rfl, ?_⟩
  intro hsized
  have hlength := hsized.sized _ rfl
  exact absurd hlength (by decide)

end ServiceCall

end uds_rs.uds

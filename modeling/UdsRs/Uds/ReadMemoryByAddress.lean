import UdsRs.Rust.Bytes
import UdsRs.Uds.Response
import UdsRs.Uds.SendAndReceive

namespace uds_rs.uds

open rust

/-- The loop `while i > 0 { i >>= 8; encode_bytes += 1; }`. It does not run for
zero, which is so counted as no byte. -/
def count_encode_bytes (overflow_checks : Bool) (i : UInt64) (encode_bytes : UInt8) :
    Outcome UdsError UInt8 :=
  if _hpos : 0 < i then do
    let encode_bytes' ← u8_add overflow_checks encode_bytes 1
    count_encode_bytes overflow_checks (i >>> 8) encode_bytes'
  else
    return encode_bytes
termination_by i.toNat
decreasing_by
  have hi : (0 : UInt64).toNat < i.toNat := UInt64.lt_iff_toNat_lt.mp ‹_›
  rw [UInt64.toNat_zero] at hi
  simp only [UInt64.toNat_shiftRight, UInt64.reduceToNat, Nat.reduceMod, Nat.shiftRight_eq_div_pow]
  omega

/-- The length of an address or a size: the provided one, at most 8, when it can
hold the value, else the number of bytes of the value. The conversion does this
twice with the same steps. -/
def provided_encode_bytes (provided : Option UInt8) (encode_bytes : UInt8) :
    Outcome UdsError UInt8 :=
  match provided with
  | none => return encode_bytes
  | some provided_len =>
    let provided_len := if provided_len > 0x8 then 0x8 else provided_len
    if provided_len < encode_bytes then err .InvalidArgument
    else if provided_len > encode_bytes then return provided_len
    else return encode_bytes

def convert_from_simple_to_normal (overflow_checks : Bool) (memory_address memory_size : UInt64)
    (memory_address_len memory_size_len : Option UInt8) :
    Outcome UdsError (UInt8 × Packet × Packet) := do
  let address_encode_bytes ← count_encode_bytes overflow_checks memory_address 0
  let size_encode_bytes ← count_encode_bytes overflow_checks memory_size 0
  let address_encode_bytes ← provided_encode_bytes memory_address_len address_encode_bytes
  let size_encode_bytes ← provided_encode_bytes memory_size_len size_encode_bytes
  let address_and_memory_length_format_identifier ←
    u8_add overflow_checks (size_encode_bytes <<< 4) address_encode_bytes
  let address_start ← usize_sub overflow_checks 8 address_encode_bytes.toNat
  let memory_address_bytes ← slice_from (u64_to_be_bytes memory_address) address_start
  let size_start ← usize_sub overflow_checks 8 size_encode_bytes.toNat
  let memory_size_bytes ← slice_from (u64_to_be_bytes memory_size) size_start
  return (address_and_memory_length_format_identifier, memory_address_bytes, memory_size_bytes)

def formulate_request (address_and_memory_length_format_identifier : UInt8)
    (memory_address memory_size : Packet) : Packet :=
  [READ_MEMORY_BY_ADDRESS_SID, address_and_memory_length_format_identifier] ++ memory_address ++
    memory_size

/-- Unlike the other parsers this one indexes the response, so an empty packet makes
it panic. -/
def parse_response (raw_response : Packet) : EcuResponseResult := do
  let sid ← index raw_response 0
  if sid ≠ READ_MEMORY_BY_ADDRESS_SID + SEND_RECEIVE_SID_OFFSET then
    err (.SidMismatch (READ_MEMORY_BY_ADDRESS_SID + SEND_RECEIVE_SID_OFFSET) sid raw_response)
  else
    let data_record ← slice_from raw_response 1
    return .ReadMemoryByAddress (.Parsed { data_record })

namespace UdsClient

def read_memory_by_address (overflow_checks : Bool)
    (address_and_memory_length_format_identifier : UInt8) (memory_address memory_size : Packet) :
    UdsFuture UdsResponse := do
  let request :=
    formulate_request address_and_memory_length_format_identifier memory_address memory_size
  let response ← send_and_receive overflow_checks request
  parse_response response

def read_memory_by_address_simplified (overflow_checks : Bool) (memory_address memory_size : UInt64)
    (memory_address_len memory_size_len : Option UInt8) : UdsFuture UdsResponse := do
  let request_arguments ← convert_from_simple_to_normal overflow_checks memory_address memory_size
    memory_address_len memory_size_len
  read_memory_by_address overflow_checks request_arguments.1 request_arguments.2.1
    request_arguments.2.2

end UdsClient

@[simp] theorem parse_response_nil :
    parse_response [] = .error (.panic .index_out_of_bounds) := rfl

theorem parse_response_eq_ok_iff {raw : Packet} {v : UdsResponse} :
    parse_response raw = .ok v ↔
      ∃ data_record, raw = 0x63 :: data_record ∧ v = .ReadMemoryByAddress (.Parsed ⟨data_record⟩) := by
  have hsid : READ_MEMORY_BY_ADDRESS_SID + SEND_RECEIVE_SID_OFFSET = 0x63 := rfl
  rcases raw with _ | ⟨sid, rest⟩
  · simp
  · by_cases h : sid = 0x63
    · subst h
      simp [parse_response, hsid, eq_comm]
    · simp [parse_response, hsid, h]

end uds_rs.uds

import UdsRs.Uds.ServiceCall.MemoryRead
import UdsRs.Uds.ServiceCall.Wire
import UdsRs.Uds.Session.Atomic

namespace uds_rs.uds

open async_sock lts rust UdsClient Stage

variable {σ : Type}

/-- Memory is read at the address, in the size, that the request encodes. What the
ECU does with other requests, and how memory changes, is left open. -/
def HoldsMemory (ecu : Ecu σ) (memory : σ → Nat → UInt8) : Prop :=
  ∀ state request address size data, split_request request = some (address, size) →
    (ecu.serve state request).2 = 0x63 :: data →
      data = (List.range (be_value size)).map fun k => memory state (be_value address + k)

/-- A record that was written is held under its identifier, and read from there.
Other requests may change it. -/
structure HoldsRecords (ecu : Ecu σ) (records : σ → UInt16 → Packet) : Prop where
  write : ∀ state data_identifier data_record rest,
    (ecu.serve state (compose_write_data_by_identifier_request data_identifier data_record)).2 =
      0x6E :: rest →
    records (ecu.serve state
      (compose_write_data_by_identifier_request data_identifier data_record)).1 data_identifier =
        data_record
  read : ∀ state data_identifier data_record,
    (ecu.serve state (compose_read_data_by_identifier_request [data_identifier])).2 =
      0x62 :: u16_msb data_identifier :: u16_lsb data_identifier :: data_record →
    data_record = records state data_identifier

namespace ServiceCall

/-- The address and the size of a memory read whose format byte fits its arguments.
A read with another format byte has none, as the ECU would split its request
elsewhere. -/
def region : ServiceCall → Option (Nat × Nat)
  | read_memory_by_address format memory_address memory_size =>
    if memory_address.length < 16 ∧ format.toNat = 16 * memory_size.length + memory_address.length
    then some (be_value memory_address, be_value memory_size) else none
  | read_memory_by_address_simplified memory_address memory_size _ _ =>
    some (memory_address.toNat, memory_size.toNat)
  | _ => none

/-- The request of a memory read encodes its region, and the response is not looked
at beyond its SID. -/
theorem split_of_region {overflow_checks : Bool} {call : ServiceCall} {data : Packet}
    {address size : Nat} (hregion : call.region = some (address, size))
    (hdata : call.arguments overflow_checks = .ok data) :
    (∃ memory_address memory_size,
      split_request (call.sid :: data) = some (memory_address, memory_size) ∧
        be_value memory_address = address ∧ be_value memory_size = size) ∧
      call.parse = parse_response := by
  cases call with
  | read_memory_by_address format memory_address memory_size =>
    simp only [region] at hregion
    split at hregion
    · next hfits =>
      cases hregion
      cases hdata
      exact ⟨⟨_, _, split_request_formulate_request hfits.1 hfits.2, rfl, rfl⟩, rfl⟩
    · cases hregion
  | read_memory_by_address_simplified memory_address memory_size address_len size_len =>
    cases hregion
    refine ⟨?_, rfl⟩
    by_cases hreject : Rejected address_len memory_address ∨ Rejected size_len memory_size
    · rw [arguments, convert_from_simple_to_normal_rejected overflow_checks hreject] at hdata
      cases hdata
    · obtain ⟨haddress, hsize⟩ := not_or.mp hreject
      obtain ⟨format, address, size, hconvert, hencodes⟩ :=
        convert_from_simple_to_normal_encodes overflow_checks haddress hsize
      rw [arguments, hconvert] at hdata
      cases hdata
      exact ⟨address, size, hencodes.split, hencodes.address_value, hencodes.size_value⟩
  | _ => cases hregion

/-- The read of one identifier accepts one record, to the end of the packet. -/
theorem read_single_parse_eq_ok_iff {data_identifier : UInt16} {raw : Packet} {v : UdsResponse} :
    (read_data_by_identifier [data_identifier]).parse raw = .ok v ↔
      ∃ data_record, raw = 0x62 :: u16_msb data_identifier :: u16_lsb data_identifier :: data_record ∧
        v = .ReadDataByIdentifier (.Parsed ⟨[⟨data_identifier, data_record⟩]⟩) := by
  refine parse_read_data_by_identifier_tuple_response_eq_ok_iff.trans ?_
  constructor
  · rintro ⟨bytes, records, rest, rfl, hreads, rfl⟩
    obtain ⟨data_record, tail, records', rfl, rfl, htail, hnil⟩ := Reads.cons_iff.mp hreads
    rw [if_pos rfl] at htail
    subst htail
    cases hnil
    exact ⟨data_record, by simp, rfl⟩
  · rintro ⟨data_record, rfl, rfl⟩
    exact ⟨_, _, [], rfl, .remaining (.nil []), rfl⟩

end ServiceCall

namespace ClientNet

variable {overflow_checks : Bool} {calls : ℕ → ServiceCall} {s : ClientNet ℕ}
  {acts : List (Action ℕ Packet)} {i k : ℕ} {ecu : Ecu σ}

theorem arguments_of_ok
    (h : Reach (Net.SequentialStep EcuAnswers) (ClientNet.start overflow_checks calls) acts s)
    {v : UdsResponse} (hi : s.tasks i = .ready (.ok v)) :
    ∃ data, (calls i).arguments overflow_checks = .ok data ∧
      request_of overflow_checks calls i = (calls i).sid :: data := by
  obtain ⟨es, hes, -⟩ := Net.run_of_reach (h.mono fun _ _ _ hseq => hseq.1) i
  rw [hi] at hes
  obtain ⟨data, -, hdata, -⟩ := ServiceCall.exchange_of_returns_ok hes
  exact ⟨data, hdata, by rw [request_of, hdata]⟩

/-- Calls made one after the other, none of which leaves an answer unread, on a
socket that does not fail. A successful memory read returns exactly the bytes that
the ECU held in the region asked for, after the requests of the earlier calls it has
carried out, although request and response are composed and parsed independently. -/
theorem reads_memory {memory : σ → Nat → UInt8}
    (h : Reach (Net.SequentialStep EcuAnswers) (ClientNet.start overflow_checks calls) acts s)
    (hleaves : ∀ a ∈ acts, LeavesNone a) (hecu : ServedBy ecu overflow_checks calls acts)
    (hmemory : HoldsMemory ecu memory) {address size : Nat}
    (hregion : (calls i).region = some (address, size)) {v : UdsResponse}
    (hi : s.tasks i = .ready (.ok v)) :
    v = .ReadMemoryByAddress (.Parsed ⟨(List.range size).map fun k =>
      memory (state_before ecu overflow_checks calls acts i) (address + k)⟩) := by
  obtain ⟨data, hdata, hrequest⟩ := arguments_of_ok h hi
  obtain ⟨⟨memory_address, memory_size, hsplit, rfl, rfl⟩, hparser⟩ :=
    ServiceCall.split_of_region hregion hdata
  obtain ⟨-, hparse⟩ := response_of_ok h hleaves hecu hi
  rw [hparser] at hparse
  obtain ⟨data_record, hresponse, rfl⟩ := parse_response_eq_ok_iff.mp hparse
  rw [hrequest] at hresponse
  rw [hmemory _ _ _ _ _ hsplit hresponse]

def memory_ecu (memory : Nat → UInt8) : Ecu Unit where
  initial := ()
  serve _ request := ((), match split_request request with
    | some (address, size) =>
      0x63 :: (List.range (be_value size)).map fun k => memory (be_value address + k)
    | none => [0x7F, 0x23, 0x31])

theorem holdsMemory_memory_ecu (memory : Nat → UInt8) :
    HoldsMemory (memory_ecu memory) fun _ => memory := by
  intro state request address size data hsplit hserve
  simp only [memory_ecu, hsplit] at hserve
  exact (List.cons.inj hserve).2.symm

theorem reads_memory_two_reads :
    ∃ s, Reach (Net.SequentialStep EcuAnswers) (ClientNet.start true successive_reads) two_reads s ∧
      UdsResponse.ReadMemoryByAddress (.Parsed ⟨[0xBB]⟩) =
        .ReadMemoryByAddress (.Parsed ⟨(List.range 1).map fun k =>
          (fun a : Nat => if a = 0x20 then 0xBB else 0xAA) (0x20 + k)⟩) := by
  obtain ⟨s, hreach, hready⟩ := reach_two_reads
  have hleaves : ∀ a ∈ two_reads, LeavesNone a := by
    simp [two_reads, LeavesNone]
  have hregion : (successive_reads 1).region = some (0x20, 1) := by decide
  exact ⟨s, hreach, reads_memory hreach hleaves (servedBy_two_reads (by decide) (by decide))
    (holdsMemory_memory_ecu fun a => if a = 0x20 then 0xBB else 0xAA) hregion hready⟩

/-- Calls made one after the other, none of which leaves an answer unread, on a
socket that does not fail. A successful read of an identifier returns the record
that an earlier successful write to it has written, where no request carried out
between the two changes that record. Only the states in which the ECU serves those
requests matter, not what they would do in others. -/
theorem reads_written {records : σ → UInt16 → Packet} {data_identifier : UInt16}
    {data_record : Packet}
    (h : Reach (Net.SequentialStep EcuAnswers) (ClientNet.start overflow_checks calls) acts s)
    (hleaves : ∀ a ∈ acts, LeavesNone a) (hecu : ServedBy ecu overflow_checks calls acts)
    (hrecords : HoldsRecords ecu records) (hik : i < k)
    (hwrite : calls i = .write_data_by_identifier data_identifier data_record)
    (hread : calls k = .read_data_by_identifier [data_identifier])
    (hkeeps : ∀ j ∈ carried_out calls acts, i < j → j < k →
      records (ecu.serve (state_before ecu overflow_checks calls acts j)
        (request_of overflow_checks calls j)).1 data_identifier =
        records (state_before ecu overflow_checks calls acts j) data_identifier)
    {w v : UdsResponse} (hi : s.tasks i = .ready (.ok w)) (hk : s.tasks k = .ready (.ok v)) :
    v = .ReadDataByIdentifier (.Parsed ⟨[⟨data_identifier, data_record⟩]⟩) := by
  obtain ⟨hmem, hwritten⟩ := response_of_ok h hleaves hecu hi
  obtain ⟨-, hparse⟩ := response_of_ok h hleaves hecu hk
  have hrequest_i : request_of overflow_checks calls i =
      compose_write_data_by_identifier_request data_identifier data_record := by
    rw [request_of, hwrite]
    rfl
  have hrequest_k : request_of overflow_checks calls k =
      compose_read_data_by_identifier_request [data_identifier] := by
    rw [request_of, hread]
    rfl
  rw [hwrite, hrequest_i] at hwritten
  obtain ⟨msb, lsb, rest, hpositive, -⟩ :=
    parse_write_data_by_identifier_response_eq_ok_iff.mp hwritten
  rw [hread, hrequest_k] at hparse
  obtain ⟨data, hresponse, rfl⟩ := ServiceCall.read_single_parse_eq_ok_iff.mp hparse
  have hheld := hrecords.read _ _ _ hresponse
  have hpairwise := carried_out_pairwise h hleaves
  have hkept := state_before_keeps (fun state => records state data_identifier) hpairwise hkeeps hik
  rw [hheld, hkept, state_before_succ ecu hpairwise, if_pos hmem, hrequest_i]
  rw [hrecords.write _ _ _ _ hpositive]

def records_ecu : Ecu (UInt16 → Packet) where
  initial _ := []
  serve records request :=
    match Request.decode request with
    | some (.write_data_by_identifier data_identifier data_record) =>
      (Function.update records data_identifier data_record,
        [0x6E, u16_msb data_identifier, u16_lsb data_identifier])
    | some (.read_data_by_identifier [data_identifier]) =>
      (records, 0x62 :: u16_msb data_identifier :: u16_lsb data_identifier :: records data_identifier)
    | _ => (records, [0x7F, 0x00, 0x11])

theorem holdsRecords_records_ecu : HoldsRecords records_ecu id := by
  constructor
  · intro state data_identifier data_record rest hserve
    have hdecode := Request.decode_compose (.write_data_by_identifier data_identifier data_record)
    simp only [Request.compose, Request.masked] at hdecode
    simp [records_ecu, hdecode]
  · intro state data_identifier data_record hserve
    have hdecode := Request.decode_compose (.read_data_by_identifier [data_identifier])
    simp only [Request.compose, Request.masked] at hdecode
    simpa [records_ecu, hdecode, eq_comm] using hserve

def written_then_read (i : ℕ) : ServiceCall :=
  match i with
  | 0 => .write_data_by_identifier 0xF190 [0xAA]
  | 1 => .write_data_by_identifier 0xF191 [0xBB]
  | _ => .read_data_by_identifier [0xF190]

def writes_and_read : List (Action ℕ Packet) :=
  [.send 0, .answer 0 [[0x6E, 0xF1, 0x90]], .receive 0,
    .send 1, .answer 1 [[0x6E, 0xF1, 0x91]], .receive 1,
    .send 2, .answer 2 [[0x62, 0xF1, 0x90, 0xAA]], .receive 2]

theorem reach_writes_and_read :
    ∃ s, Reach (Net.SequentialStep EcuAnswers) (ClientNet.start true written_then_read)
        writes_and_read s ∧
      s.tasks 0 = .ready (.ok (.WriteDataByIdentifier (.Parsed ⟨0xF190⟩))) ∧
      s.tasks 2 = .ready (.ok (.ReadDataByIdentifier (.Parsed ⟨[⟨0xF190, [0xAA]⟩]⟩))) := by
  have hanswer : ∀ sid data f, Decisive sid f → EcuAnswers (sid :: data) [f] :=
    fun _ _ _ hf => answersBy_cons_iff.mpr (.inr ⟨[], _, rfl, by simp, hf⟩)
  have hsending : ∀ i data, (written_then_read i).arguments true = .ok data →
      (ClientNet.start true written_then_read).tasks i =
        (written_then_read i).rest true data (sending 0) :=
    fun _ _ hdata => ServiceCall.run_of_arguments_ok hdata
  have hfirst := reach_round .nil (fun j hj => absurd hj (Nat.not_lt_zero j))
    (hsending 0 [0xF1, 0x90, 0xAA] rfl) rfl (hanswer 0x2E _ [0x6E, 0xF1, 0x90] (by decide)) rfl
  have hsecond := reach_round (k := 1) hfirst (fun | 0, _ => ⟨_, rfl⟩)
    (hsending 1 [0xF1, 0x91, 0xBB] rfl) rfl (hanswer 0x2E _ [0x6E, 0xF1, 0x91] (by decide)) rfl
  have hthird := reach_round (k := 2) hsecond (fun | 0, _ => ⟨_, rfl⟩ | 1, _ => ⟨_, rfl⟩)
    (hsending 2 [0xF1, 0x90] rfl) rfl (hanswer 0x22 _ [0x62, 0xF1, 0x90, 0xAA] (by decide)) rfl
  exact ⟨_, hthird, rfl, rfl⟩

theorem servedBy_writes_and_read : ServedBy records_ecu true written_then_read writes_and_read := by
  have hstart : ServedBy records_ecu true written_then_read [] := .nil records_ecu
  have hfirst : ServedBy records_ecu true written_then_read
      [.send 0, .answer 0 [[0x6E, 0xF1, 0x90]], .receive 0] := by
    refine hstart.round ?_
    rfl
  have hsecond : ServedBy records_ecu true written_then_read
      [.send 0, .answer 0 [[0x6E, 0xF1, 0x90]], .receive 0,
        .send 1, .answer 1 [[0x6E, 0xF1, 0x91]], .receive 1] := by
    refine hfirst.round ?_
    rfl
  refine hsecond.round ?_
  rfl

theorem reads_written_writes_and_read :
    ∃ s v, Reach (Net.SequentialStep EcuAnswers) (ClientNet.start true written_then_read)
        writes_and_read s ∧ s.tasks 2 = .ready (.ok v) ∧
      v = .ReadDataByIdentifier (.Parsed ⟨[⟨0xF190, [0xAA]⟩]⟩) := by
  obtain ⟨s, hreach, hwrite, hread⟩ := reach_writes_and_read
  have hleaves : ∀ a ∈ writes_and_read, LeavesNone a := by
    simp [writes_and_read, LeavesNone]
  have hkeeps : ∀ j ∈ carried_out written_then_read writes_and_read, 0 < j → j < 2 →
      id (records_ecu.serve (state_before records_ecu true written_then_read writes_and_read j)
        (request_of true written_then_read j)).1 0xF190 =
        id (state_before records_ecu true written_then_read writes_and_read j) 0xF190 := by
    rintro j - hpos hlt
    obtain rfl : j = 1 := by omega
    rfl
  exact ⟨s, _, hreach, hread, reads_written hreach hleaves servedBy_writes_and_read
    holdsRecords_records_ecu Nat.zero_lt_two rfl rfl hkeeps hwrite hread⟩

end ClientNet

end uds_rs.uds

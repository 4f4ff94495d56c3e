import UdsRs.Rust.Bytes
import UdsRs.Uds.Response
import UdsRs.Uds.SendAndReceive

namespace uds_rs.uds

open rust

/-- `u32::MAX`, the length that stands for the rest of the message. -/
def u32_MAX : UInt32 := 0xFFFFFFFF

def compose_read_data_by_identifier_request (data_identifiers : List UInt16) : Packet :=
  data_identifiers.foldl (fun request i => request ++ [u16_msb i] ++ [u16_lsb i])
    [READ_DATA_BY_IDENTIFIER_SID]

def parse_read_data_by_identifier_response (raw_response : Packet) : EcuResponseResult := do
  let (sid, _) ← ok_or (next raw_response) .ResponseEmpty
  if sid ≠ READ_DATA_BY_IDENTIFIER_SID + SEND_RECEIVE_SID_OFFSET then
    err (.SidMismatch (READ_DATA_BY_IDENTIFIER_SID + SEND_RECEIVE_SID_OFFSET) sid raw_response)
  else
    let data ← slice_from raw_response 1
    return .ReadDataByIdentifier (.Raw data)

/-- The loop `for _ in 0..len` over the bytes of one record, which fails with the
error given where the iterator ends before. -/
def read_bounded_data (raw_response : Packet) :
    Nat → Packet → Packet → Outcome UdsError (Packet × Packet)
  | 0, response_iterator, data_record => return (data_record, response_iterator)
  | len + 1, response_iterator, data_record => do
    let (x, response_iterator) ← ok_or (next response_iterator) (.InvalidLength raw_response)
    read_bounded_data raw_response len response_iterator (data_record ++ [x])

/-- The loop that takes bytes until the iterator ends, for an entry of length
u32::MAX. It cannot fail. -/
def read_remaining_data : Packet → Packet → Packet × Packet
  | [], data_record => (data_record, [])
  | x :: response_iterator, data_record => read_remaining_data response_iterator (data_record ++ [x])

/-- The loop over `data_identifiers_and_lengths`. All entries share one iterator, so
an entry starts where the one before it has ended. -/
def read_data_records (raw_response : Packet) :
    List (UInt16 × UInt32) → Packet → List DataRecord → Outcome UdsError (List DataRecord)
  | [], _, data_records => return data_records
  | (did, len) :: table, response_iterator, data_records => do
    let (msb, response_iterator) ← ok_or (next response_iterator) (.InvalidLength raw_response)
    let (lsb, response_iterator) ← ok_or (next response_iterator) (.InvalidLength raw_response)
    let response_did := u16_from_bytes msb lsb
    if did ≠ response_did then
      err (.DidMismatch did response_did raw_response)
    else
      let (data, response_iterator) ←
        if len ≠ u32_MAX then
          read_bounded_data raw_response len.toNat response_iterator []
        else
          pure (read_remaining_data response_iterator [])
      read_data_records raw_response table response_iterator
        (data_records ++ [{ data_identifier := response_did, data }])

/-- When u32::MAX is passed as data len, it reads the whole message. -/
def parse_read_data_by_identifier_tuple_response
    (data_identifiers_and_lengths : List (UInt16 × UInt32)) (raw_response : Packet) :
    EcuResponseResult := do
  let (sid, response_iterator) ← ok_or (next raw_response) (.InvalidLength raw_response)
  if sid ≠ READ_DATA_BY_IDENTIFIER_SID + SEND_RECEIVE_SID_OFFSET then
    err (.SidMismatch (READ_DATA_BY_IDENTIFIER_SID + SEND_RECEIVE_SID_OFFSET) sid raw_response)
  else
    let data_records ←
      read_data_records raw_response data_identifiers_and_lengths response_iterator []
    return .ReadDataByIdentifier (.Parsed { data_records })

namespace UdsClient

def read_data_by_identifier_tuple (overflow_checks : Bool)
    (data_identifiers_and_lengths : List (UInt16 × UInt32)) : UdsFuture UdsResponse := do
  let data_identifiers := data_identifiers_and_lengths.map Prod.fst
  let request := compose_read_data_by_identifier_request data_identifiers
  let response ← send_and_receive overflow_checks request
  parse_read_data_by_identifier_tuple_response data_identifiers_and_lengths response

def read_single_data_by_identifier (overflow_checks : Bool) (data_identifier : UInt16) :
    UdsFuture UdsResponse :=
  read_data_by_identifier_tuple overflow_checks [(data_identifier, u32_MAX)]

def read_data_by_identifier (overflow_checks : Bool) (data_identifiers : List UInt16) :
    UdsFuture UdsResponse := do
  if data_identifiers.length = 1 then
    let data_identifier ← (index data_identifiers 0 : Outcome UdsError UInt16)
    read_single_data_by_identifier overflow_checks data_identifier
  else
    let request := compose_read_data_by_identifier_request data_identifiers
    let raw_response ← send_and_receive overflow_checks request
    parse_read_data_by_identifier_response raw_response

end UdsClient

theorem compose_read_data_by_identifier_request_eq (data_identifiers : List UInt16) :
    compose_read_data_by_identifier_request data_identifiers =
      READ_DATA_BY_IDENTIFIER_SID :: data_identifiers.flatMap fun i => [u16_msb i, u16_lsb i] := by
  have hloop : ∀ request : Packet,
      data_identifiers.foldl (fun request i => request ++ [u16_msb i] ++ [u16_lsb i]) request =
        request ++ data_identifiers.flatMap fun i => [u16_msb i, u16_lsb i] := by
    induction data_identifiers with
    | nil => simp
    | cons i rest ih =>
      intro request
      rw [List.foldl_cons, ih]
      simp
  exact hloop _

theorem parse_read_data_by_identifier_response_eq_ok_iff {raw : Packet} {v : UdsResponse} :
    parse_read_data_by_identifier_response raw = .ok v ↔
      ∃ data, raw = 0x62 :: data ∧ v = .ReadDataByIdentifier (.Raw data) := by
  have hsid : READ_DATA_BY_IDENTIFIER_SID + SEND_RECEIVE_SID_OFFSET = 0x62 := rfl
  rcases raw with _ | ⟨sid, rest⟩
  · simp [parse_read_data_by_identifier_response]
  · by_cases h : sid = 0x62
    · subst h
      simp [parse_read_data_by_identifier_response, hsid, eq_comm]
    · simp [parse_read_data_by_identifier_response, hsid, h]

theorem read_bounded_data_eq (raw_response : Packet) (len : Nat) (iter data : Packet) :
    read_bounded_data raw_response len iter data =
      if len ≤ iter.length then .ok (data ++ iter.take len, iter.drop len)
      else err (.InvalidLength raw_response) := by
  induction len generalizing iter data with
  | zero => simp [read_bounded_data]
  | succ len ih =>
    cases iter with
    | nil => simp [read_bounded_data]
    | cons x iter => simp [read_bounded_data, ih]

theorem read_remaining_data_eq (iter data : Packet) :
    read_remaining_data iter data = (data ++ iter, []) := by
  induction iter generalizing data with
  | nil => simp [read_remaining_data]
  | cons x iter ih => simp [read_remaining_data, ih]

/-- The bytes after the response SID lay out the records of the table and leave
`rest` over. An entry of length u32::MAX leaves nothing for the entries after it. -/
inductive Reads : List (UInt16 × UInt32) → Packet → List DataRecord → Packet → Prop where
  | nil (rest : Packet) : Reads [] rest [] rest
  | bounded {did : UInt16} {len : UInt32} {data bytes rest : Packet}
      {table : List (UInt16 × UInt32)} {records : List DataRecord}
      (hmax : len ≠ u32_MAX) (hlen : data.length = len.toNat)
      (htail : Reads table bytes records rest) :
      Reads ((did, len) :: table) (u16_msb did :: u16_lsb did :: (data ++ bytes))
        (⟨did, data⟩ :: records) rest
  | remaining {did : UInt16} {data rest : Packet}
      {table : List (UInt16 × UInt32)} {records : List DataRecord}
      (htail : Reads table [] records rest) :
      Reads ((did, u32_MAX) :: table) (u16_msb did :: u16_lsb did :: data)
        (⟨did, data⟩ :: records) rest

theorem Reads.cons_iff {did : UInt16} {len : UInt32} {table : List (UInt16 × UInt32)}
    {bytes rest : Packet} {records : List DataRecord} :
    Reads ((did, len) :: table) bytes records rest ↔
      ∃ data tail records', records = ⟨did, data⟩ :: records' ∧
        bytes = u16_msb did :: u16_lsb did :: (data ++ tail) ∧
        (if len = u32_MAX then tail = [] else data.length = len.toNat) ∧
        Reads table tail records' rest := by
  constructor
  · intro h
    cases h with
    | bounded hmax hlen htail => exact ⟨_, _, _, rfl, rfl, by rwa [if_neg hmax], htail⟩
    | @remaining _ data _ _ _ htail => exact ⟨data, [], _, rfl, by simp, by simp, htail⟩
  · rintro ⟨data, tail, records', rfl, rfl, hlen, htail⟩
    split at hlen
    · next hmax =>
      subst hmax hlen
      simpa using Reads.remaining htail
    · next hmax => exact .bounded hmax hlen htail

theorem read_data_records_eq_ok_iff {raw_response iter : Packet}
    {table : List (UInt16 × UInt32)} {acc out : List DataRecord} :
    read_data_records raw_response table iter acc = .ok out ↔
      ∃ records rest, Reads table iter records rest ∧ out = acc ++ records := by
  induction table generalizing iter acc with
  | nil =>
    constructor
    · intro h
      cases h
      exact ⟨[], iter, .nil iter, by simp⟩
    · rintro ⟨records, rest, hreads, rfl⟩
      cases hreads
      simp [read_data_records]
  | cons entry table ih =>
    obtain ⟨did, len⟩ := entry
    simp only [Reads.cons_iff]
    rcases iter with _ | ⟨msb, _ | ⟨lsb, iter⟩⟩
    · simp [read_data_records]
    · simp [read_data_records]
    · by_cases hdid : did = u16_from_bytes msb lsb
      · subst hdid
        by_cases hmax : len = u32_MAX
        · subst hmax
          simp only [read_data_records, next_cons, ok_or_some, ok_bind, ne_eq, not_true_eq_false,
            reduceIte, read_remaining_data_eq, pure_eq_ok, List.nil_append, ih]
          constructor
          · rintro ⟨records, rest, hreads, rfl⟩
            exact ⟨_, rest, ⟨iter, [], records, rfl, by simp, rfl, hreads⟩, by simp⟩
          · rintro ⟨_, rest, ⟨data, tail, records, rfl, hbytes, rfl, hreads⟩, rfl⟩
            obtain rfl : iter = data := by simpa using hbytes
            exact ⟨records, rest, hreads, by simp⟩
        · simp only [read_data_records, next_cons, ok_or_some, ok_bind, ne_eq, not_true_eq_false,
            not_false_eq_true, hmax, reduceIte, read_bounded_data_eq, List.nil_append]
          constructor
          · intro h
            split at h
            · next hlen =>
              obtain ⟨records, rest, hreads, rfl⟩ := ih.mp h
              exact ⟨_, rest, ⟨iter.take len.toNat, iter.drop len.toNat, records, rfl, by simp,
                by simp [hlen], hreads⟩, by simp⟩
            · simp at h
          · rintro ⟨_, rest, ⟨data, tail, records, rfl, hbytes, hlen, hreads⟩, rfl⟩
            obtain rfl : iter = data ++ tail := by simpa using hbytes
            rw [if_pos (by simp [← hlen]), ok_bind, ih]
            exact ⟨records, rest, by simpa [← hlen] using hreads, by simp [← hlen]⟩
      · simp only [read_data_records, next_cons, ok_or_some, ok_bind, ne_eq, hdid, not_false_eq_true,
          reduceIte, err_ne_ok, false_iff]
        rintro ⟨_, rest, ⟨data, tail, records, rfl, hbytes, -⟩, -⟩
        simp only [List.cons.injEq] at hbytes
        exact hdid (u16_from_bytes_eq_iff.mpr ⟨hbytes.1, hbytes.2.1⟩).symm

theorem parse_read_data_by_identifier_tuple_response_eq_ok_iff
    {table : List (UInt16 × UInt32)} {raw : Packet} {v : UdsResponse} :
    parse_read_data_by_identifier_tuple_response table raw = .ok v ↔
      ∃ bytes records rest, raw = 0x62 :: bytes ∧ Reads table bytes records rest ∧
        v = .ReadDataByIdentifier (.Parsed ⟨records⟩) := by
  have hsid : READ_DATA_BY_IDENTIFIER_SID + SEND_RECEIVE_SID_OFFSET = 0x62 := rfl
  rcases raw with _ | ⟨sid, bytes⟩
  · simp [parse_read_data_by_identifier_tuple_response]
  · by_cases h : sid = 0x62
    · subst h
      simp only [parse_read_data_by_identifier_tuple_response, hsid, next_cons, ok_or_some, ok_bind,
        ne_eq, not_true_eq_false, reduceIte, bind_eq_ok_iff, read_data_records_eq_ok_iff]
      constructor
      · rintro ⟨records, ⟨_, rest, hreads, rfl⟩, hv⟩
        cases hv
        exact ⟨bytes, _, rest, rfl, hreads, rfl⟩
      · rintro ⟨_, records, rest, hraw, hreads, rfl⟩
        cases hraw
        exact ⟨records, ⟨records, rest, hreads, rfl⟩, rfl⟩
    · simp [parse_read_data_by_identifier_tuple_response, hsid, h]

end uds_rs.uds

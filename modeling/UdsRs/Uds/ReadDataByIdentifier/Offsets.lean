import UdsRs.Uds.ReadDataByIdentifier
import Mathlib.Data.Nat.Find

namespace uds_rs.uds

open rust

/-- The first byte after an entry that starts at `o`. An entry of length u32::MAX
takes every byte up to the end. -/
def next_offset (raw : Packet) (o : Nat) (entry : UInt16 × UInt32) : Nat :=
  if entry.2 = u32_MAX then raw.length else o + 2 + entry.2.toNat

/-- Where entry `i` of a table starts whose first entry starts at `start`. -/
def offset (raw : Packet) (table : List (UInt16 × UInt32)) (start i : Nat) : Nat :=
  (table.take i).foldl (next_offset raw) start

def identifier_at (raw : Packet) (o : Nat) : Option UInt16 :=
  match raw[o]?, raw[o + 1]? with
  | some msb, some lsb => some (u16_from_bytes msb lsb)
  | _, _ => none

/-- The packet has the identifier of the entry at `o`, and all of its data. -/
structure Complete (raw : Packet) (o : Nat) (entry : UInt16 × UInt32) : Prop where
  identifier : identifier_at raw o = some entry.1
  data : next_offset raw o entry ≤ raw.length

def record_at (raw : Packet) (o : Nat) (entry : UInt16 × UInt32) : DataRecord where
  data_identifier := entry.1
  data := (raw.take (next_offset raw o entry)).drop (o + 2)

/-- The records of a table whose first entry starts at `start`, in table order. -/
def records_from (raw : Packet) (table : List (UInt16 × UInt32)) (start : Nat) : List DataRecord :=
  table.mapIdx fun i entry => record_at raw (offset raw table start i) entry

/-- What an entry at `o` is rejected with, where it is not complete. -/
def fault (raw : Packet) (o : Nat) (entry : UInt16 × UInt32) : UdsError :=
  match identifier_at raw o with
  | some received =>
    if received = entry.1 then .InvalidLength raw else .DidMismatch entry.1 received raw
  | none => .InvalidLength raw

variable {raw : Packet} {table : List (UInt16 × UInt32)} {entry : UInt16 × UInt32}

theorem identifier_at_drop (raw : Packet) (o : Nat) :
    identifier_at (raw.drop o) 0 = identifier_at raw o := by
  simp only [identifier_at, List.getElem?_drop, Nat.add_zero, Nat.zero_add]

theorem identifier_at_eq_some_iff {o : Nat} {did : UInt16} :
    identifier_at raw o = some did ↔
      raw.drop o = u16_msb did :: u16_lsb did :: raw.drop (o + 2) := by
  rw [← identifier_at_drop, ← List.drop_drop]
  rcases raw.drop o with _ | ⟨msb, _ | ⟨lsb, rest⟩⟩
  · simp [identifier_at]
  · simp [identifier_at]
  · simp [identifier_at, u16_from_bytes_eq_iff]

theorem identifier_at_eq_none_iff {o : Nat} : identifier_at raw o = none ↔ raw.length < o + 2 := by
  have hlength : (raw.drop o).length = raw.length - o := List.length_drop
  rw [← identifier_at_drop]
  generalize raw.drop o = bytes at hlength
  rcases bytes with _ | ⟨msb, _ | ⟨lsb, rest⟩⟩
  · simp [identifier_at] at hlength ⊢
    omega
  · simp [identifier_at] at hlength ⊢
    omega
  · simp [identifier_at] at hlength ⊢
    omega

section Step

theorem read_data_records_complete {o : Nat} (h : Complete raw o entry) (acc : List DataRecord) :
    read_data_records raw (entry :: table) (raw.drop o) acc =
      read_data_records raw table (raw.drop (next_offset raw o entry))
        (acc ++ [record_at raw o entry]) := by
  obtain ⟨did, len⟩ := entry
  obtain ⟨hidentifier, hdata⟩ := h
  rw [identifier_at_eq_some_iff.mp hidentifier]
  by_cases hmax : len = u32_MAX
  · subst hmax
    simp [read_data_records, read_remaining_data_eq, next_offset, record_at]
  · rw [next_offset, if_neg hmax] at hdata
    have henough : len.toNat ≤ (raw.drop (o + 2)).length := by
      rw [List.length_drop]
      dsimp only at hdata
      omega
    have hrecord : (raw.drop (o + 2)).take len.toNat = (raw.take (o + 2 + len.toNat)).drop (o + 2) := by
      rw [List.drop_take]
      congr 1
      omega
    simp only [read_data_records, next_cons, ok_or_some, ok_bind, u16_from_bytes_msb_lsb, ne_eq,
      not_true_eq_false, reduceIte, hmax, not_false_eq_true, read_bounded_data_eq, if_pos henough,
      List.nil_append, List.drop_drop, hrecord, record_at, next_offset]

theorem read_data_records_incomplete {o : Nat} (h : ¬ Complete raw o entry)
    (acc : List DataRecord) :
    read_data_records raw (entry :: table) (raw.drop o) acc = err (fault raw o entry) := by
  obtain ⟨did, len⟩ := entry
  cases hidentifier : identifier_at raw o with
  | none =>
    have hshort := identifier_at_eq_none_iff.mp hidentifier
    have hlength : (raw.drop o).length = raw.length - o := List.length_drop
    rw [fault, hidentifier]
    generalize raw.drop o = rest at hlength
    rcases rest with _ | ⟨msb, _ | ⟨lsb, rest⟩⟩
    · rfl
    · rfl
    · simp only [List.length_cons] at hlength
      omega
  | some received =>
    rw [identifier_at_eq_some_iff.mp hidentifier, fault, hidentifier]
    by_cases hdid : received = did
    · subst hdid
      have hdata : ¬ next_offset raw o (received, len) ≤ raw.length :=
        fun hle => h ⟨hidentifier, hle⟩
      have hmax : len ≠ u32_MAX := by
        rintro rfl
        exact hdata (Nat.le_refl _)
      rw [next_offset, if_neg hmax] at hdata
      have hpresent : ¬ raw.length < o + 2 := by
        rw [← identifier_at_eq_none_iff, hidentifier]
        nofun
      have hshort : ¬ len.toNat ≤ (raw.drop (o + 2)).length := by
        rw [List.length_drop]
        dsimp only at hdata
        omega
      simp only [read_data_records, next_cons, ok_or_some, ok_bind, u16_from_bytes_msb_lsb, ne_eq,
        not_true_eq_false, reduceIte, hmax, not_false_eq_true, read_bounded_data_eq, if_neg hshort,
        err_bind]
    · simp [read_data_records, hdid, Ne.symm hdid]

end Step

section Run

/-- When every entry is complete the loop returns the records at the offsets, entry
after entry, although it walks a single iterator and never computes an offset. -/
theorem read_data_records_of_complete {start : Nat} (acc : List DataRecord)
    (h : ∀ i (hi : i < table.length), Complete raw (offset raw table start i) table[i]) :
    read_data_records raw table (raw.drop start) acc = .ok (acc ++ records_from raw table start) := by
  induction table generalizing start acc with
  | nil => simp [read_data_records, records_from]
  | cons entry table ih =>
    have hentry : Complete raw start entry := h 0 (Nat.zero_lt_succ _)
    have hrest : ∀ i (hi : i < table.length),
        Complete raw (offset raw table (next_offset raw start entry) i) table[i] :=
      fun i hi => h (i + 1) (Nat.succ_lt_succ hi)
    rw [read_data_records_complete hentry, ih _ hrest, List.append_assoc]
    rw [records_from, records_from, List.mapIdx_cons]
    rfl

theorem read_data_records_of_first {start : Nat} (acc : List DataRecord) {i : Nat}
    (hi : i < table.length)
    (hbefore : ∀ j (hj : j < i), Complete raw (offset raw table start j) table[j])
    (hfault : ¬ Complete raw (offset raw table start i) table[i]) :
    read_data_records raw table (raw.drop start) acc =
      err (fault raw (offset raw table start i) table[i]) := by
  induction table generalizing start acc i with
  | nil => simp at hi
  | cons entry table ih =>
    cases i with
    | zero => exact read_data_records_incomplete hfault acc
    | succ i =>
      have hentry : Complete raw start entry := hbefore 0 (Nat.zero_lt_succ _)
      rw [read_data_records_complete hentry]
      exact ih _ (Nat.lt_of_succ_lt_succ hi) (fun j hj => hbefore (j + 1) (Nat.succ_lt_succ hj)) hfault

end Run

def AllComplete (raw : Packet) (table : List (UInt16 × UInt32)) : Prop :=
  ∀ i (hi : i < table.length), Complete raw (offset raw table 1 i) table[i]

/-- The first entry that is not complete has another identifier in the packet. -/
def FirstMismatch (raw : Packet) (table : List (UInt16 × UInt32)) (expected received : UInt16) :
    Prop :=
  ∃ i, ∃ hi : i < table.length,
    (∀ j (hj : j < i), Complete raw (offset raw table 1 j) table[j]) ∧
    table[i].1 = expected ∧ identifier_at raw (offset raw table 1 i) = some received ∧
    received ≠ expected

/-- What the tuple parser returns, said with offsets: the slices of the packet at
the entries of the table, or the fault of the first entry that is not complete. -/
structure OffsetSpec (table : List (UInt16 × UInt32)) (raw : Packet) (result : EcuResponseResult) :
    Prop where
  empty : raw = [] → result = err (.InvalidLength raw)
  sid : ∀ sid rest, raw = sid :: rest → sid ≠ 0x62 → result = err (.SidMismatch 0x62 sid raw)
  ok : raw.head? = some 0x62 → ∀ v, result = .ok v ↔
    AllComplete raw table ∧ v = .ReadDataByIdentifier (.Parsed ⟨records_from raw table 1⟩)
  mismatch : raw.head? = some 0x62 → ∀ expected received raw_message,
    result = err (.DidMismatch expected received raw_message) ↔
      FirstMismatch raw table expected received ∧ raw_message = raw
  otherwise : raw.head? = some 0x62 → ¬ AllComplete raw table →
    (∀ expected received, ¬ FirstMismatch raw table expected received) →
      result = err (.InvalidLength raw)
  remaining_last : ∀ i (hi : i + 1 < table.length), table[i].2 = u32_MAX → ∀ v, result ≠ .ok v

theorem exists_first_incomplete (h : ¬ AllComplete raw table) :
    ∃ i, ∃ hi : i < table.length,
      (∀ j (hj : j < i), Complete raw (offset raw table 1 j) table[j]) ∧
      ¬ Complete raw (offset raw table 1 i) table[i] := by
  classical
  have hex : ∃ i, ∃ hi : i < table.length, ¬ Complete raw (offset raw table 1 i) table[i] := by
    by_contra hnone
    apply h
    intro i hi
    by_contra hincomplete
    exact hnone ⟨i, hi, hincomplete⟩
  obtain ⟨hi, hincomplete⟩ := Nat.find_spec hex
  refine ⟨Nat.find hex, hi, ?_, hincomplete⟩
  intro j hj
  by_contra hearlier
  exact Nat.find_min hex hj ⟨Nat.lt_trans hj hi, hearlier⟩

section Parser

variable {rest : Packet}

theorem parse_tuple_of_complete (h : AllComplete (0x62 :: rest) table) :
    parse_read_data_by_identifier_tuple_response table (0x62 :: rest) =
      .ok (.ReadDataByIdentifier (.Parsed ⟨records_from (0x62 :: rest) table 1⟩)) := by
  have hexpected : READ_DATA_BY_IDENTIFIER_SID + SEND_RECEIVE_SID_OFFSET = 0x62 := rfl
  have hread := read_data_records_of_complete [] h
  rw [List.drop_succ_cons, List.drop_zero, List.nil_append] at hread
  simp [parse_read_data_by_identifier_tuple_response, hexpected, hread]

theorem parse_tuple_of_first {i : Nat} (hi : i < table.length)
    (hbefore : ∀ j (hj : j < i), Complete (0x62 :: rest) (offset (0x62 :: rest) table 1 j) table[j])
    (hfault : ¬ Complete (0x62 :: rest) (offset (0x62 :: rest) table 1 i) table[i]) :
    parse_read_data_by_identifier_tuple_response table (0x62 :: rest) =
      err (fault (0x62 :: rest) (offset (0x62 :: rest) table 1 i) table[i]) := by
  have hexpected : READ_DATA_BY_IDENTIFIER_SID + SEND_RECEIVE_SID_OFFSET = 0x62 := rfl
  have hread := read_data_records_of_first [] hi hbefore hfault
  rw [List.drop_succ_cons, List.drop_zero] at hread
  simp [parse_read_data_by_identifier_tuple_response, hexpected, hread]

theorem parse_tuple_eq_ok_iff {v : UdsResponse} :
    parse_read_data_by_identifier_tuple_response table (0x62 :: rest) = .ok v ↔
      AllComplete (0x62 :: rest) table ∧
        v = .ReadDataByIdentifier (.Parsed ⟨records_from (0x62 :: rest) table 1⟩) := by
  constructor
  · intro hok
    by_cases hcomplete : AllComplete (0x62 :: rest) table
    · rw [parse_tuple_of_complete hcomplete] at hok
      cases hok
      exact ⟨hcomplete, rfl⟩
    · obtain ⟨i, hi, hbefore, hincomplete⟩ := exists_first_incomplete hcomplete
      rw [parse_tuple_of_first hi hbefore hincomplete] at hok
      cases hok
  · rintro ⟨hcomplete, rfl⟩
    exact parse_tuple_of_complete hcomplete

theorem fault_eq_mismatch_iff {o : Nat} {expected received : UInt16} {raw_message : Packet} :
    fault raw o entry = .DidMismatch expected received raw_message ↔
      entry.1 = expected ∧ identifier_at raw o = some received ∧ received ≠ expected ∧
        raw_message = raw := by
  unfold fault
  cases hidentifier : identifier_at raw o with
  | none => simp
  | some other =>
    by_cases hsame : other = entry.1
    · subst hsame
      simp only [reduceIte, reduceCtorEq, Option.some.injEq, false_iff]
      rintro ⟨rfl, rfl, hne, -⟩
      exact hne rfl
    · simp only [hsame, reduceIte, UdsError.DidMismatch.injEq, Option.some.injEq]
      constructor
      · rintro ⟨rfl, rfl, rfl⟩
        exact ⟨rfl, rfl, hsame, rfl⟩
      · rintro ⟨rfl, rfl, -, rfl⟩
        exact ⟨rfl, rfl, rfl⟩

theorem parse_tuple_eq_mismatch_iff {expected received : UInt16} {raw_message : Packet} :
    parse_read_data_by_identifier_tuple_response table (0x62 :: rest) =
      err (.DidMismatch expected received raw_message) ↔
        FirstMismatch (0x62 :: rest) table expected received ∧ raw_message = 0x62 :: rest := by
  constructor
  · intro herr
    by_cases hcomplete : AllComplete (0x62 :: rest) table
    · rw [parse_tuple_of_complete hcomplete] at herr
      cases herr
    · obtain ⟨i, hi, hbefore, hincomplete⟩ := exists_first_incomplete hcomplete
      rw [parse_tuple_of_first hi hbefore hincomplete, err_inj, fault_eq_mismatch_iff] at herr
      obtain ⟨hexpected, hidentifier, hne, hraw⟩ := herr
      exact ⟨⟨i, hi, hbefore, hexpected, hidentifier, hne⟩, hraw⟩
  · rintro ⟨⟨i, hi, hbefore, rfl, hidentifier, hne⟩, rfl⟩
    have hincomplete : ¬ Complete (0x62 :: rest) (offset (0x62 :: rest) table 1 i) table[i] := by
      rintro ⟨hsame, -⟩
      rw [hidentifier] at hsame
      exact hne (Option.some.inj hsame)
    rw [parse_tuple_of_first hi hbefore hincomplete, err_inj, fault_eq_mismatch_iff]
    exact ⟨rfl, hidentifier, hne, rfl⟩

theorem parse_tuple_otherwise (hcomplete : ¬ AllComplete (0x62 :: rest) table)
    (hmismatch : ∀ expected received, ¬ FirstMismatch (0x62 :: rest) table expected received) :
    parse_read_data_by_identifier_tuple_response table (0x62 :: rest) =
      err (.InvalidLength (0x62 :: rest)) := by
  obtain ⟨i, hi, hbefore, hincomplete⟩ := exists_first_incomplete hcomplete
  rw [parse_tuple_of_first hi hbefore hincomplete, fault]
  cases hidentifier : identifier_at (0x62 :: rest) (offset (0x62 :: rest) table 1 i) with
  | none => rfl
  | some received =>
    have hsame : received = table[i].1 := by
      by_contra hne
      exact hmismatch _ _ ⟨i, hi, hbefore, rfl, hidentifier, hne⟩
    simp only [if_pos hsame]

/-- After an entry of length u32::MAX there are no bytes for another identifier. -/
theorem not_allComplete_of_remaining {i : Nat} (hi : i + 1 < table.length)
    (hmax : table[i].2 = u32_MAX) : ¬ AllComplete raw table := by
  intro hcomplete
  have hidentifier := (hcomplete (i + 1) hi).identifier
  have hoffset : offset raw table 1 (i + 1) = raw.length := by
    have hget : table[i]? = some table[i] := List.getElem?_eq_getElem (Nat.lt_of_succ_lt hi)
    rw [offset, List.take_add_one, hget, Option.toList_some, List.foldl_append, List.foldl_cons,
      List.foldl_nil, next_offset, if_pos hmax]
  have hnone : identifier_at raw (offset raw table 1 (i + 1)) = none := by
    rw [hoffset, identifier_at_eq_none_iff]
    omega
  rw [hnone] at hidentifier
  cases hidentifier

end Parser

/-- The tuple parser reads what lies at the offsets of its table, and nothing else.
There is no assumption on the table, which may repeat identifiers, or on the packet,
which may go on after the last entry. -/
theorem offsetSpec_parse_tuple (table : List (UInt16 × UInt32)) (raw : Packet) :
    OffsetSpec table raw (parse_read_data_by_identifier_tuple_response table raw) := by
  have hexpected : READ_DATA_BY_IDENTIFIER_SID + SEND_RECEIVE_SID_OFFSET = 0x62 := rfl
  constructor
  · rintro rfl
    rfl
  · rintro sid rest rfl hsid
    simp [parse_read_data_by_identifier_tuple_response, hexpected, hsid]
  · intro hhead v
    obtain ⟨rest, rfl⟩ := List.head?_eq_some_iff.mp hhead
    exact parse_tuple_eq_ok_iff
  · intro hhead expected received raw_message
    obtain ⟨rest, rfl⟩ := List.head?_eq_some_iff.mp hhead
    exact parse_tuple_eq_mismatch_iff
  · intro hhead hcomplete hmismatch
    obtain ⟨rest, rfl⟩ := List.head?_eq_some_iff.mp hhead
    exact parse_tuple_otherwise hcomplete hmismatch
  · intro i hi hmax v hok
    obtain ⟨bytes, _, _, rfl, -⟩ := parse_read_data_by_identifier_tuple_response_eq_ok_iff.mp hok
    exact not_allComplete_of_remaining hi hmax (parse_tuple_eq_ok_iff.mp hok).1

end uds_rs.uds

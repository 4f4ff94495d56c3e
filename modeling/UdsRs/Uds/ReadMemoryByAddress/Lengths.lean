import UdsRs.Rust.BigEndian
import UdsRs.Uds.ReadMemoryByAddress

namespace uds_rs.uds

open rust

/-- The length provided for `x` cannot hold it. A length above 8 is replaced by 8
and never rejected. -/
def Rejected (provided : Option UInt8) (x : UInt64) : Prop :=
  ∃ len, provided = some len ∧ min len.toNat 8 < need x.toNat

/-- The length `x` is sent with: the one provided for it, at most 8, and without one
as many bytes as it needs. -/
def sent_len (provided : Option UInt8) (x : UInt64) : Nat :=
  match provided with
  | some len => min len.toNat 8
  | none => need x.toNat

theorem sent_len_le (provided : Option UInt8) (x : UInt64) : sent_len provided x ≤ 8 := by
  cases provided with
  | none => exact need_u64_le x
  | some len => exact Nat.min_le_right _ _

theorem need_le_sent_len {provided : Option UInt8} {x : UInt64} (h : ¬ Rejected provided x) :
    need x.toNat ≤ sent_len provided x := by
  cases provided with
  | none => exact Nat.le_refl _
  | some len =>
    apply Nat.le_of_not_lt
    intro hlt
    exact h ⟨len, rfl, hlt⟩

theorem count_encode_bytes_eq (overflow_checks : Bool) {i : UInt64} {encode_bytes : UInt8}
    (hroom : encode_bytes.toNat + need i.toNat < 256) :
    ∃ m, count_encode_bytes overflow_checks i encode_bytes = .ok m ∧
      m.toNat = encode_bytes.toNat + need i.toNat := by
  generalize hneed : need i.toNat = k at hroom
  induction k generalizing i encode_bytes with
  | zero =>
    have hzero : ¬ 0 < i := by
      rw [UInt64.lt_iff_toNat_lt, UInt64.toNat_zero, need_eq_zero_iff.mp hneed]
      exact Nat.lt_irrefl 0
    rw [count_encode_bytes, dif_neg hzero]
    exact ⟨encode_bytes, rfl, rfl⟩
  | succ k ih =>
    have hnat : 0 < i.toNat := by
      apply Nat.pos_of_ne_zero
      intro hi
      rw [hi, need_eq_zero_iff.mpr rfl] at hneed
      cases hneed
    have hpos : 0 < i := UInt64.lt_iff_toNat_lt.mpr hnat
    have hshift : (i >>> 8).toNat = i.toNat / 256 := by
      simp only [UInt64.toNat_shiftRight, UInt64.reduceToNat, Nat.reduceMod,
        Nat.shiftRight_eq_div_pow, Nat.reducePow]
    have hnext : need (i >>> 8).toNat = k := by
      rw [need_eq_need_div_succ hnat] at hneed
      rw [hshift]
      exact Nat.succ.inj hneed
    have hone : (encode_bytes + 1).toNat = encode_bytes.toNat + 1 := by
      rw [UInt8.toNat_add, UInt8.toNat_one]
      omega
    have hadd : (u8_add overflow_checks encode_bytes 1 : Outcome UdsError UInt8) =
        .ok (encode_bytes + 1) := by
      apply u8_add_eq_ok
      rw [UInt8.toNat_one]
      omega
    obtain ⟨m, hm, hvalue⟩ := ih hnext (by omega : (encode_bytes + 1).toNat + k < 256)
    rw [count_encode_bytes, dif_pos hpos, hadd, ok_bind]
    exact ⟨m, hm, by omega⟩

theorem count_encode_bytes_need (overflow_checks : Bool) (x : UInt64) :
    ∃ m, count_encode_bytes overflow_checks x 0 = .ok m ∧ m.toNat = need x.toNat := by
  have hneed := need_u64_le x
  have hroom : (0 : UInt8).toNat + need x.toNat < 256 := by
    rw [UInt8.toNat_zero]
    omega
  obtain ⟨m, hm, hvalue⟩ := count_encode_bytes_eq overflow_checks hroom
  rw [UInt8.toNat_zero, Nat.zero_add] at hvalue
  exact ⟨m, hm, hvalue⟩

theorem capped_toNat (len : UInt8) :
    (if len > 0x8 then (0x8 : UInt8) else len).toNat = min len.toNat 8 := by
  split
  · next hlt =>
    have h : 8 < len.toNat := UInt8.lt_iff_toNat_lt.mp hlt
    rw [Nat.min_eq_right (Nat.le_of_lt h)]
    rfl
  · next hle =>
    have h : len.toNat ≤ 8 := UInt8.le_iff_toNat_le.mp (UInt8.not_lt.mp hle)
    rw [Nat.min_eq_left h]

theorem provided_encode_bytes_rejected {provided : Option UInt8} {x : UInt64} {m : UInt8}
    (hm : m.toNat = need x.toNat) (h : Rejected provided x) :
    provided_encode_bytes provided m = err .InvalidArgument := by
  obtain ⟨len, rfl, hlt⟩ := h
  have hshort : (if len > 0x8 then (0x8 : UInt8) else len) < m := by
    rw [UInt8.lt_iff_toNat_lt, capped_toNat, hm]
    exact hlt
  unfold provided_encode_bytes
  dsimp only
  rw [if_pos hshort]

theorem provided_encode_bytes_sent {provided : Option UInt8} {x : UInt64} {m : UInt8}
    (hm : m.toNat = need x.toNat) (h : ¬ Rejected provided x) :
    ∃ len, provided_encode_bytes provided m = .ok len ∧ len.toNat = sent_len provided x := by
  cases provided with
  | none => exact ⟨m, rfl, hm⟩
  | some len =>
    have henough : need x.toNat ≤ min len.toNat 8 := need_le_sent_len h
    have hcap := capped_toNat len
    unfold provided_encode_bytes
    dsimp only
    generalize (if len > 0x8 then (0x8 : UInt8) else len) = capped at hcap
    have hlong : ¬ capped < m := by
      rw [UInt8.lt_iff_toNat_lt]
      omega
    rw [if_neg hlong]
    split
    · exact ⟨capped, rfl, hcap⟩
    · next hle =>
      -- neither longer nor shorter than needed
      have hcapped : ¬ m.toNat < capped.toNat := fun hlt => hle (UInt8.lt_iff_toNat_lt.mpr hlt)
      have hsent : m.toNat = min len.toNat 8 := by omega
      exact ⟨m, rfl, hsent⟩

theorem convert_from_simple_to_normal_rejected (overflow_checks : Bool)
    {memory_address memory_size : UInt64} {memory_address_len memory_size_len : Option UInt8}
    (h : Rejected memory_address_len memory_address ∨ Rejected memory_size_len memory_size) :
    convert_from_simple_to_normal overflow_checks memory_address memory_size memory_address_len
      memory_size_len = err .InvalidArgument := by
  obtain ⟨address_count, haddress_count, haddress⟩ :=
    count_encode_bytes_need overflow_checks memory_address
  obtain ⟨size_count, hsize_count, hsize⟩ := count_encode_bytes_need overflow_checks memory_size
  unfold convert_from_simple_to_normal
  rw [haddress_count, hsize_count, ok_bind, ok_bind]
  by_cases hreject : Rejected memory_address_len memory_address
  · rw [provided_encode_bytes_rejected haddress hreject, err_bind]
  · obtain ⟨address_len, haddress_len, -⟩ := provided_encode_bytes_sent haddress hreject
    rw [haddress_len, ok_bind, provided_encode_bytes_rejected hsize (h.resolve_left hreject),
      err_bind]

/-- The format byte has the two lengths as its halves, and each number is cut to its
length. -/
theorem convert_from_simple_to_normal_sent (overflow_checks : Bool)
    {memory_address memory_size : UInt64} {memory_address_len memory_size_len : Option UInt8}
    (haddress : ¬ Rejected memory_address_len memory_address)
    (hsize : ¬ Rejected memory_size_len memory_size) :
    ∃ format : UInt8,
      format.toNat =
        16 * sent_len memory_size_len memory_size + sent_len memory_address_len memory_address ∧
      convert_from_simple_to_normal overflow_checks memory_address memory_size memory_address_len
        memory_size_len = .ok (format,
          (u64_to_be_bytes memory_address).drop (8 - sent_len memory_address_len memory_address),
          (u64_to_be_bytes memory_size).drop (8 - sent_len memory_size_len memory_size)) := by
  have haddress_le := sent_len_le memory_address_len memory_address
  have hsize_le := sent_len_le memory_size_len memory_size
  obtain ⟨address_count, haddress_count, hvalue⟩ :=
    count_encode_bytes_need overflow_checks memory_address
  obtain ⟨address_len, haddress_len, haddress_toNat⟩ := provided_encode_bytes_sent hvalue haddress
  obtain ⟨size_count, hsize_count, hvalue⟩ := count_encode_bytes_need overflow_checks memory_size
  obtain ⟨size_len, hsize_len, hsize_toNat⟩ := provided_encode_bytes_sent hvalue hsize
  have hshift : (size_len <<< 4).toNat = 16 * size_len.toNat := by
    simp only [UInt8.toNat_shiftLeft, UInt8.reduceToNat, Nat.reduceMod, Nat.shiftLeft_eq,
      Nat.reducePow]
    omega
  have hfits : (size_len <<< 4).toNat + address_len.toNat < 256 := by omega
  refine ⟨(size_len <<< 4) + address_len, ?_, ?_⟩
  · rw [UInt8.toNat_add]
    omega
  · unfold convert_from_simple_to_normal
    rw [haddress_count, hsize_count, ok_bind, ok_bind, haddress_len, ok_bind, hsize_len, ok_bind,
      u8_add_eq_ok overflow_checks hfits, ok_bind, haddress_toNat,
      usize_sub_eq_ok overflow_checks haddress_le, ok_bind, slice_from_eq_ok (by simp), ok_bind,
      hsize_toNat, usize_sub_eq_ok overflow_checks hsize_le, ok_bind, slice_from_eq_ok (by simp),
      ok_bind]
    rfl

end uds_rs.uds

import UdsRs.Rust.Bytes
import Mathlib.Data.Nat.Digits.Defs
import Mathlib.Data.Nat.Find

namespace rust

/-- The number that a byte string of any length denotes, most significant byte
first. -/
def be_value (bytes : List UInt8) : Nat := Nat.ofDigits 256 (bytes.reverse.map UInt8.toNat)

@[simp] theorem be_value_nil : be_value [] = 0 := rfl

theorem be_value_append (high low : List UInt8) :
    be_value (high ++ low) = be_value high * 256 ^ low.length + be_value low := by
  rw [be_value, List.reverse_append, List.map_append, Nat.ofDigits_append, List.length_map,
    List.length_reverse, Nat.add_comm, Nat.mul_comm]
  rfl

theorem be_value_cons (b : UInt8) (bytes : List UInt8) :
    be_value (b :: bytes) = b.toNat * 256 ^ bytes.length + be_value bytes := by
  have happend := be_value_append [b] bytes
  have hsingle : be_value [b] = b.toNat := Nat.ofDigits_singleton
  rwa [hsingle, List.singleton_append] at happend

theorem be_value_lt (bytes : List UInt8) : be_value bytes < 256 ^ bytes.length := by
  have hdigits : ∀ d ∈ bytes.reverse.map UInt8.toNat, d < 256 := by
    intro d hd
    obtain ⟨b, -, rfl⟩ := List.mem_map.mp hd
    exact b.toNat_lt
  have hlt := Nat.ofDigits_lt_base_pow_length (by decide : 1 < 256) hdigits
  rwa [List.length_map, List.length_reverse] at hlt

theorem be_value_drop (bytes : List UInt8) (k : Nat) :
    be_value (bytes.drop k) = be_value bytes % 256 ^ (bytes.length - k) := by
  have hsplit := be_value_append (bytes.take k) (bytes.drop k)
  rw [List.take_append_drop, List.length_drop] at hsplit
  have hlt := be_value_lt (bytes.drop k)
  rw [List.length_drop] at hlt
  rw [hsplit, Nat.mul_add_mod', Nat.mod_eq_of_lt hlt]

theorem be_value_u64 (x : UInt64) : be_value (u64_to_be_bytes x) = x.toNat := by
  have hx := x.toNat_lt
  simp only [u64_to_be_bytes, be_value_cons, be_value_nil, List.length_cons, List.length_nil,
    UInt64.toNat_toUInt8, UInt64.toNat_shiftRight, UInt64.reduceToNat, Nat.reduceMod,
    Nat.shiftRight_eq_div_pow, Nat.reducePow, Nat.reduceAdd]
  omega

theorem exists_lt_pow (x : Nat) : ∃ k, x < 256 ^ k := ⟨x, Nat.lt_pow_self (by decide)⟩

/-- The least number of bytes that can hold `x`. Zero needs none, although a request
that carries zero has to spend a byte on it. -/
def need (x : Nat) : Nat := Nat.find (exists_lt_pow x)

theorem need_le_iff {x k : Nat} : need x ≤ k ↔ x < 256 ^ k := by
  constructor
  · intro hle
    exact Nat.lt_of_lt_of_le (Nat.find_spec (exists_lt_pow x))
      (Nat.pow_le_pow_right (by decide) hle)
  · exact Nat.find_min' (exists_lt_pow x)

theorem need_eq_zero_iff {x : Nat} : need x = 0 ↔ x = 0 := by
  rw [← Nat.le_zero, need_le_iff, Nat.pow_zero, Nat.lt_one_iff]

/-- Dropping the lowest byte of a number saves one byte, as each round of a
byte-counting loop does. -/
theorem need_eq_need_div_succ {x : Nat} (hpos : 0 < x) : need x = need (x / 256) + 1 := by
  apply Nat.le_antisymm
  · rw [need_le_iff, Nat.pow_succ]
    have hlt : x / 256 < 256 ^ need (x / 256) := need_le_iff.mp (Nat.le_refl _)
    omega
  · have hne : need x ≠ 0 := by
      rw [Ne, need_eq_zero_iff]
      omega
    obtain ⟨k, hk⟩ := Nat.exists_eq_succ_of_ne_zero hne
    have hlt : x < 256 ^ k * 256 := by
      rw [← Nat.pow_succ]
      exact need_le_iff.mp (Nat.le_of_eq hk)
    have hdiv : need (x / 256) ≤ k := need_le_iff.mpr (by omega)
    omega

theorem need_u64_le (x : UInt64) : need x.toNat ≤ 8 := by
  rw [need_le_iff]
  exact x.toNat_lt

/-- The last bytes of a `u64` still hold its value when there are enough of them. -/
theorem be_value_u64_drop {x : UInt64} {len : Nat} (hlen : len ≤ 8) (hneed : need x.toNat ≤ len) :
    be_value ((u64_to_be_bytes x).drop (8 - len)) = x.toNat := by
  have hkept : 8 - (8 - len) = len := by omega
  rw [be_value_drop, be_value_u64, u64_to_be_bytes_length, hkept]
  exact Nat.mod_eq_of_lt (need_le_iff.mp hneed)

def u8_high_nibble (b : UInt8) : UInt8 := b >>> 4

def u8_low_nibble (b : UInt8) : UInt8 := b &&& 0x0F

theorem u8_high_nibble_toNat {b : UInt8} {high low : Nat} (hlow : low < 16)
    (h : b.toNat = 16 * high + low) : (u8_high_nibble b).toNat = high := by
  simp only [u8_high_nibble, UInt8.toNat_shiftRight, UInt8.reduceToNat, Nat.reduceMod,
    Nat.shiftRight_eq_div_pow, Nat.reducePow]
  omega

theorem u8_low_nibble_toNat {b : UInt8} {high low : Nat} (hlow : low < 16)
    (h : b.toNat = 16 * high + low) : (u8_low_nibble b).toNat = low := by
  have hmask : b.toNat &&& 15 = b.toNat % 16 := Nat.and_two_pow_sub_one_eq_mod b.toNat 4
  simp only [u8_low_nibble, UInt8.toNat_and, UInt8.reduceToNat]
  omega

end rust

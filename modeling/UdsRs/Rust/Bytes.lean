import Mathlib.Algebra.Ring.Nat
import Mathlib.Tactic.Common

namespace rust

/-- `((msb as u16) << 8) + lsb as u16`, as the parsers assemble a field of two
bytes. The sum does not wrap. -/
def u16_from_bytes (msb lsb : UInt8) : UInt16 := (msb.toUInt16 <<< 8) + lsb.toUInt16

/-- `(x >> 8) as u8`; the other byte is `x as u8`. -/
def u16_msb (x : UInt16) : UInt8 := (x >>> 8).toUInt8

def u16_lsb (x : UInt16) : UInt8 := x.toUInt8

/-- `((high as u32) << 16) + ((middle as u32) << 8) + low as u32`. -/
def u32_from_bytes (high middle low : UInt8) : UInt32 :=
  (high.toUInt32 <<< 16) + (middle.toUInt32 <<< 8) + low.toUInt32

/-- `(x >> 16) as u8`, the first of the three bytes that the composers send of a
DTC. -/
def u32_high (x : UInt32) : UInt8 := (x >>> 16).toUInt8

def u32_middle (x : UInt32) : UInt8 := (x >>> 8).toUInt8

def u32_low (x : UInt32) : UInt8 := x.toUInt8

/-- `u64::to_be_bytes`, eight bytes of which the most significant one comes first.
-/
def u64_to_be_bytes (x : UInt64) : List UInt8 :=
  [(x >>> 56).toUInt8, (x >>> 48).toUInt8, (x >>> 40).toUInt8, (x >>> 32).toUInt8,
    (x >>> 24).toUInt8, (x >>> 16).toUInt8, (x >>> 8).toUInt8, x.toUInt8]

@[simp] theorem u64_to_be_bytes_length (x : UInt64) : (u64_to_be_bytes x).length = 8 := rfl

theorem u16_from_bytes_toNat (msb lsb : UInt8) :
    (u16_from_bytes msb lsb).toNat = msb.toNat * 256 + lsb.toNat := by
  have hmsb := msb.toNat_lt
  have hlsb := lsb.toNat_lt
  simp only [u16_from_bytes, UInt16.toNat_add, UInt16.toNat_shiftLeft, UInt8.toNat_toUInt16,
    UInt16.reduceToNat, Nat.reduceMod, Nat.shiftLeft_eq]
  omega

theorem u16_msb_toNat (x : UInt16) : (u16_msb x).toNat = x.toNat / 256 := by
  have hx := x.toNat_lt
  simp only [u16_msb, UInt16.toNat_toUInt8, UInt16.toNat_shiftRight, UInt16.reduceToNat,
    Nat.reduceMod, Nat.shiftRight_eq_div_pow]
  omega

theorem u16_lsb_toNat (x : UInt16) : (u16_lsb x).toNat = x.toNat % 256 := by
  simp only [u16_lsb, UInt16.toNat_toUInt8]

@[simp] theorem u16_msb_from_bytes (msb lsb : UInt8) : u16_msb (u16_from_bytes msb lsb) = msb := by
  apply UInt8.toNat_inj.mp
  have hlsb := lsb.toNat_lt
  rw [u16_msb_toNat, u16_from_bytes_toNat]
  omega

@[simp] theorem u16_lsb_from_bytes (msb lsb : UInt8) : u16_lsb (u16_from_bytes msb lsb) = lsb := by
  apply UInt8.toNat_inj.mp
  have hlsb := lsb.toNat_lt
  rw [u16_lsb_toNat, u16_from_bytes_toNat]
  omega

@[simp] theorem u16_from_bytes_msb_lsb (x : UInt16) : u16_from_bytes (u16_msb x) (u16_lsb x) = x := by
  apply UInt16.toNat_inj.mp
  rw [u16_from_bytes_toNat, u16_msb_toNat, u16_lsb_toNat]
  omega

/-- Two bytes assemble to the number exactly when they are the bytes it is split
into, so that splitting and assembling are inverse to each other. -/
theorem u16_from_bytes_eq_iff {msb lsb : UInt8} {x : UInt16} :
    u16_from_bytes msb lsb = x ↔ msb = u16_msb x ∧ lsb = u16_lsb x := by
  constructor
  · rintro rfl
    simp
  · rintro ⟨rfl, rfl⟩
    simp

theorem u32_from_bytes_toNat (high middle low : UInt8) :
    (u32_from_bytes high middle low).toNat =
      high.toNat * 65536 + middle.toNat * 256 + low.toNat := by
  have hhigh := high.toNat_lt
  have hmiddle := middle.toNat_lt
  have hlow := low.toNat_lt
  simp only [u32_from_bytes, UInt32.toNat_add, UInt32.toNat_shiftLeft, UInt8.toNat_toUInt32,
    UInt32.reduceToNat, Nat.reduceMod, Nat.shiftLeft_eq]
  omega

theorem u32_high_toNat (x : UInt32) : (u32_high x).toNat = x.toNat / 65536 % 256 := by
  simp only [u32_high, UInt32.toNat_toUInt8, UInt32.toNat_shiftRight, UInt32.reduceToNat,
    Nat.reduceMod, Nat.shiftRight_eq_div_pow, Nat.reducePow]

theorem u32_middle_toNat (x : UInt32) : (u32_middle x).toNat = x.toNat / 256 % 256 := by
  simp only [u32_middle, UInt32.toNat_toUInt8, UInt32.toNat_shiftRight, UInt32.reduceToNat,
    Nat.reduceMod, Nat.shiftRight_eq_div_pow, Nat.reducePow]

theorem u32_low_toNat (x : UInt32) : (u32_low x).toNat = x.toNat % 256 := by
  simp only [u32_low, UInt32.toNat_toUInt8, Nat.reducePow]

@[simp] theorem u32_high_from_bytes (high middle low : UInt8) :
    u32_high (u32_from_bytes high middle low) = high := by
  apply UInt8.toNat_inj.mp
  have hhigh := high.toNat_lt
  have hmiddle := middle.toNat_lt
  have hlow := low.toNat_lt
  rw [u32_high_toNat, u32_from_bytes_toNat]
  omega

@[simp] theorem u32_middle_from_bytes (high middle low : UInt8) :
    u32_middle (u32_from_bytes high middle low) = middle := by
  apply UInt8.toNat_inj.mp
  have hmiddle := middle.toNat_lt
  have hlow := low.toNat_lt
  rw [u32_middle_toNat, u32_from_bytes_toNat]
  omega

@[simp] theorem u32_low_from_bytes (high middle low : UInt8) :
    u32_low (u32_from_bytes high middle low) = low := by
  apply UInt8.toNat_inj.mp
  have hlow := low.toNat_lt
  rw [u32_low_toNat, u32_from_bytes_toNat]
  omega

/-- The three low bytes of a number are its value in 24 bits; what was above them is
lost. -/
theorem u32_from_bytes_high_middle_low_toNat (x : UInt32) :
    (u32_from_bytes (u32_high x) (u32_middle x) (u32_low x)).toNat = x.toNat % 2 ^ 24 := by
  rw [u32_from_bytes_toNat, u32_high_toNat, u32_middle_toNat, u32_low_toNat]
  omega

theorem u32_from_bytes_high_middle_low {x : UInt32} (h : x.toNat < 2 ^ 24) :
    u32_from_bytes (u32_high x) (u32_middle x) (u32_low x) = x := by
  apply UInt32.toNat_inj.mp
  rw [u32_from_bytes_high_middle_low_toNat, Nat.mod_eq_of_lt h]

theorem u32_from_bytes_lt (high middle low : UInt8) :
    (u32_from_bytes high middle low).toNat < 2 ^ 24 := by
  have hhigh := high.toNat_lt
  have hmiddle := middle.toNat_lt
  have hlow := low.toNat_lt
  rw [u32_from_bytes_toNat]
  omega

end rust

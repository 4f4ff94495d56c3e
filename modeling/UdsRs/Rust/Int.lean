import UdsRs.Rust.Outcome
import Mathlib.Algebra.Ring.Int.Defs
import Mathlib.Algebra.Ring.Nat

namespace rust

def i32_sub_overflows (a b : Int32) : Prop :=
  a.toInt - b.toInt < -2 ^ 31 ∨ 2 ^ 31 ≤ a.toInt - b.toInt

instance (a b : Int32) : Decidable (i32_sub_overflows a b) :=
  inferInstanceAs (Decidable (_ ∨ _))

/-- `a - b` on `i32`. As in every arithmetic operation here an overflow panics in a
build with overflow checks and wraps otherwise, so results about both builds take
the switch as a variable. -/
def i32_sub {E : Type} (overflow_checks : Bool) (a b : Int32) : Outcome E Int32 :=
  if overflow_checks ∧ i32_sub_overflows a b then .error (.panic .arithmetic_overflow) else .ok (a - b)

def u8_add {E : Type} (overflow_checks : Bool) (a b : UInt8) : Outcome E UInt8 :=
  if overflow_checks ∧ 256 ≤ a.toNat + b.toNat then .error (.panic .arithmetic_overflow)
  else .ok (a + b)

def usize_sub {E : Type} (overflow_checks : Bool) (a b : Nat) : Outcome E Nat :=
  if b ≤ a then .ok (a - b)
  else if overflow_checks then .error (.panic .arithmetic_overflow)
  else .ok (2 ^ 64 + a - b)

theorem u8_add_eq_ok {E : Type} (overflow_checks : Bool) {a b : UInt8}
    (h : a.toNat + b.toNat < 256) : (u8_add overflow_checks a b : Outcome E UInt8) = .ok (a + b) := by
  have hin : ¬ (overflow_checks ∧ 256 ≤ a.toNat + b.toNat) := by omega
  unfold u8_add
  rw [if_neg hin]

theorem usize_sub_eq_ok {E : Type} (overflow_checks : Bool) {a b : Nat} (h : b ≤ a) :
    (usize_sub overflow_checks a b : Outcome E Nat) = .ok (a - b) := by
  unfold usize_sub
  rw [if_pos h]

theorem i32_sub_eq_ok_iff {E : Type} {overflow_checks : Bool} {a b c : Int32} :
    (i32_sub overflow_checks a b : Outcome E Int32) = .ok c ↔
      c = a - b ∧ ¬ (overflow_checks ∧ i32_sub_overflows a b) := by
  unfold i32_sub
  split <;> simp_all [eq_comm]

theorem panic_of_i32_sub_eq_error {E : Type} {overflow_checks : Bool} {a b : Int32} {s : Stop E}
    (h : i32_sub overflow_checks a b = .error s) : s = .panic .arithmetic_overflow := by
  unfold i32_sub at h
  split at h
  · cases h
    rfl
  · cases h

/-- Counting down ends: unless zero is reached, the distance to it shrinks, through
the wrap-around where it comes to that. -/
theorem i32_sub_one_lt {E : Type} {overflow_checks : Bool} {a b : Int32}
    (h : (i32_sub overflow_checks a 1 : Outcome E Int32) = .ok b) (hb : b ≠ 0) :
    (b - 1).toBitVec.toNat < (a - 1).toBitVec.toNat := by
  obtain ⟨rfl, -⟩ := i32_sub_eq_ok_iff.mp h
  generalize a - 1 = c at hb
  have hc : c.toBitVec ≠ 0#32 := fun hzero => hb (Int32.toBitVec_inj.mp hzero)
  have hone : Int32.toBitVec 1 = 1#32 := rfl
  rw [Int32.toBitVec_sub, hone]
  bv_omega

/-- The `i32` counter after `n` decrements from zero, wrapped around as often as
that takes. -/
def i32_neg (n : Nat) : Int32 := Int32.ofInt (-n)

theorem i32_neg_sub_one (n : Nat) : i32_neg n - 1 = i32_neg (n + 1) := by
  apply Int32.toInt_inj.mp
  rw [Int32.toInt_sub, i32_neg, i32_neg, Int32.toInt_ofInt, Int32.toInt_ofInt]
  have h : Int32.toInt 1 = 1 := by decide
  rw [h, Int32.size, Int.bmod_sub_bmod]
  congr 1
  omega

theorem i32_neg_eq_zero_iff (n : Nat) : i32_neg n = 0 ↔ 2 ^ 32 ∣ n := by
  rw [← Int32.toInt_inj, i32_neg, Int32.toInt_ofInt, Int32.toInt_zero, Int32.size]
  constructor
  · intro h
    have hdvd := Int.dvd_of_bmod_eq_zero h
    omega
  · intro h
    apply Int.bmod_eq_zero_of_dvd
    omega

/-- Up to the next wrap-around the only decrement that overflows is the one at
`i32::MIN`. -/
theorem i32_sub_overflows_neg_iff {n : Nat} (h : n < 2 ^ 32) :
    i32_sub_overflows (i32_neg n) 1 ↔ n = 2 ^ 31 := by
  have hone : Int32.toInt 1 = 1 := by decide
  have hval : (i32_neg n).toInt = (-n : Int).bmod Int32.size := Int32.toInt_ofInt
  rw [Int32.size, Int.bmod_def] at hval
  simp only [i32_sub_overflows, hone, hval]
  split <;> omega

theorem i32_sub_neg_one {E : Type} (overflow_checks : Bool) {n : Nat} (h : n < 2 ^ 32) :
    (i32_sub overflow_checks (i32_neg n) 1 : Outcome E Int32) =
      if overflow_checks ∧ n = 2 ^ 31 then .error (.panic .arithmetic_overflow)
      else .ok (i32_neg (n + 1)) := by
  simp only [i32_sub, i32_sub_overflows_neg_iff h, i32_neg_sub_one]

end rust

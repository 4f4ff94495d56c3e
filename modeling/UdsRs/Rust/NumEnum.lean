import UdsRs.Rust.Outcome
import Mathlib.Data.List.Nodup

namespace rust

/-- A fieldless `#[repr(u8)]` enum with all its variants and their discriminants.
`num_enum` derives both conversions from these: `as u8` is the discriminant, and
`try_from` finds the variant of a discriminant or reports the byte. -/
class TryFromPrimitive (A : Type) where
  to_u8 : A → UInt8
  variants : List A
  mem_variants : ∀ a, a ∈ variants
  nodup : (variants.map to_u8).Nodup

structure TryFromPrimitiveError where
  number : UInt8
  deriving DecidableEq, Repr

open TryFromPrimitive

variable {A : Type} [TryFromPrimitive A]

def try_from_primitive (number : UInt8) : Except TryFromPrimitiveError A :=
  match variants.find? fun a : A => to_u8 a == number with
  | some a => .ok a
  | none => .error ⟨number⟩

theorem to_u8_injective : Function.Injective (to_u8 : A → UInt8) := by
  intro a b h
  exact List.inj_on_of_nodup_map nodup (mem_variants a) (mem_variants b) h

theorem try_from_primitive_eq_ok_iff {number : UInt8} {a : A} :
    try_from_primitive number = .ok a ↔ to_u8 a = number := by
  unfold try_from_primitive
  cases hfind : variants.find? fun a : A => to_u8 a == number with
  | none =>
    have hnone := List.find?_eq_none.mp hfind a (mem_variants a)
    simpa using hnone
  | some b =>
    have hb : to_u8 b = number := by simpa using List.find?_some hfind
    constructor
    · intro h
      cases h
      exact hb
    · intro h
      rw [to_u8_injective (hb.trans h.symm)]

@[simp] theorem try_from_primitive_to_u8 (a : A) : try_from_primitive (to_u8 a) = .ok a :=
  try_from_primitive_eq_ok_iff.mpr rfl

/-- The conversion fails exactly on the bytes that are no discriminant, and then
reports the byte itself. -/
theorem try_from_primitive_eq_error_iff {number : UInt8} {e : TryFromPrimitiveError} :
    (try_from_primitive number : Except _ A) = .error e ↔ e = ⟨number⟩ ∧ ∀ a : A, to_u8 a ≠ number := by
  unfold try_from_primitive
  cases hfind : variants.find? fun a : A => to_u8 a == number with
  | none =>
    have hnone : ∀ a : A, to_u8 a ≠ number := fun a => by
      simpa using List.find?_eq_none.mp hfind a (mem_variants a)
    simp [hnone, eq_comm]
  | some b =>
    have hb : to_u8 b = number := by simpa using List.find?_some hfind
    constructor
    · nofun
    · rintro ⟨_, hno⟩
      exact absurd hb (hno b)

end rust

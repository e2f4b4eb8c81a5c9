import Mathlib.Algebra.Group.Nat.Defs
import FirewallExporter.Metric.Sample

/-!
The zeros among the numbers. A number that compares equal to zero is zero with
one of the two signs, so to compare a number with zero is to ask for its bits.
-/

namespace FirewallExporter

open Float.Model

theorem exists_zero_of_beq {u : UnpackedFloat} (h : u.beq (.zero .positive) = true) :
    ∃ sign, u = .zero sign := by
  cases u with
  | zero sign => exact ⟨sign, rfl⟩
  | notANumber => cases h
  | infinity sign => cases sign <;> cases h
  | finite sign significand exponent hpos => cases sign <;> cases h

/-- A zero has neither exponent nor significand. -/
theorem eq_zero_of_unpack {spec : Format} {bits : BitVec spec.numBits} {sign : UnpackedFloat.Sign}
    (h : UnpackedFloat.unpack spec bits = .zero sign) :
    UnpackedFloat.unpackExponent bits = 0#_ ∧ UnpackedFloat.unpackMantissa bits = 0#_ := by
  unfold UnpackedFloat.unpack at h
  dsimp only at h
  by_cases hones : UnpackedFloat.unpackExponent bits = -1#_
  · rw [if_pos hones] at h
    by_cases hmantissa : UnpackedFloat.unpackMantissa bits = 0#_
    · rw [if_pos hmantissa] at h
      cases h
    · rw [if_neg hmantissa] at h
      cases h
  rw [if_neg hones] at h
  by_cases hexponent : UnpackedFloat.unpackExponent bits = 0#_
  · rw [if_pos hexponent] at h
    by_cases hmantissa : UnpackedFloat.unpackMantissa bits = 0#_
    · exact ⟨hexponent, hmantissa⟩
    · rw [dif_neg hmantissa] at h
      cases h
  · rw [if_neg hexponent] at h
    cases h

/-- What is left of it is the bit of the sign. -/
theorem toNat_of_unpack_eq_zero {bits : BitVec 64} {sign : UnpackedFloat.Sign}
    (h : UnpackedFloat.unpack Format.binary64 bits = .zero sign) :
    bits.toNat = 0 ∨ bits.toNat = 2 ^ 63 := by
  obtain ⟨hexponent, hmantissa⟩ := eq_zero_of_unpack h
  have hlow := congrArg BitVec.toNat hmantissa
  have hhigh := congrArg BitVec.toNat hexponent
  simp [UnpackedFloat.unpackMantissa, UnpackedFloat.unpackExponent,
    Nat.shiftRight_eq_div_pow] at hlow hhigh
  have hlt : bits.toNat < 2 ^ 64 := bits.isLt
  omega

theorem beq_zero_iff {x : Float} : (x == 0.0) = true ↔ x = 0.0 ∨ x = -0.0 := by
  constructor
  · intro h
    obtain ⟨sign, hsign⟩ := exists_zero_of_beq h
    obtain ⟨bits, hvalid⟩ := x
    rcases toNat_of_unpack_eq_zero hsign with hbits | hbits
    · obtain rfl : bits = 0 := UInt64.toNat_inj.mp hbits
      exact .inl rfl
    · obtain rfl : bits = 9223372036854775808 := UInt64.toNat_inj.mp hbits
      exact .inr rfl
  · rintro (rfl | rfl) <;> rfl

end FirewallExporter

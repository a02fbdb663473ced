import GuestHost.Decimal.Layout
import Mathlib
/-!
Finite doubles. All doubles but NaN and the infinities have digits.
-/
namespace GuestHost.Decimal

open Float.Model (UnpackedFloat Format)
open Float.Model.UnpackedFloat (unpackExponent)

theorem isFinite_eq_false_iff (x : Float) : x.isFinite = false ↔ x.isNaN = true ∨ x.isInf = true := by
  have hfinite : x.isFinite = x.toModel.unpack.isFinite := rfl
  have hnan : x.isNaN = x.toModel.unpack.isNaN := rfl
  have hinf : x.isInf = x.toModel.unpack.isInf := rfl
  rw [hfinite, hnan, hinf]
  cases x.toModel.unpack <;>
    simp [UnpackedFloat.isFinite, UnpackedFloat.isNaN, UnpackedFloat.isInf]

/-- The greatest exponent is that of NaN and the infinities. -/
theorem unpackExponent_ne {x : Float} (h : x.isFinite = true) :
    @unpackExponent Format.binary64 x.toBits.toBitVec ≠ -1#11 := by
  intro hexponent
  have hunpacked : (UnpackedFloat.unpack Format.binary64 x.toBits.toBitVec).isFinite = true := h
  rw [UnpackedFloat.unpack, if_pos hexponent] at hunpacked
  split at hunpacked <;> cases hunpacked

theorem toNat_unpackExponent (bits : UInt64) :
    (@unpackExponent Format.binary64 bits.toBitVec).toNat =
      bits.toNat / Binary64.leadingBit % 0x800 := by
  simp [unpackExponent, Nat.shiftRight_eq_div_pow, Binary64.leadingBit]

theorem exists_dyadic {x : Float} (h : x.isFinite = true) : ∃ d, Binary64.ofFloat x = .finite d := by
  have hexponent : x.toBits.toNat / Binary64.leadingBit % 0x800 ≠ 2047 := by
    intro heq
    apply unpackExponent_ne h
    apply BitVec.eq_of_toNat_eq
    rw [toNat_unpackExponent, heq]
    rfl
  simp only [Binary64.ofFloat, Binary64.ofBits, if_neg hexponent]
  split
  · exact ⟨_, rfl⟩
  · exact ⟨_, rfl⟩

/-- A finite double has a text with its digits. -/
theorem isSome_floatText? {x : Float} (h : x.isFinite = true) : (floatText? x).isSome := by
  obtain ⟨d, hd⟩ := exists_dyadic h
  simp [floatText?, hd]

end GuestHost.Decimal

import Calculator.Double
import Mathlib

/-!
Doubles as sign, significand and exponent. Packing undoes unpacking, and an unpacked significand has
the exponent that rounding aims at, so that rounding gives it back from any of its multiples by a
power of two. That is why one is neutral in products and quotients.
-/

namespace Calculator.Double

open Float.Model (UnpackedFloat Format totalExponent)
open Float.Model.UnpackedFloat

theorem toNat_one_append {w : Nat} (m : BitVec w) : (1#1 ++ m).toNat = 2 ^ w + m.toNat := by
  rw [BitVec.toNat_append, ← Nat.shiftLeft_add_eq_or_of_lt m.isLt, Nat.shiftLeft_eq]
  simp

theorem log2_mul_two_pow {m : Nat} (hm : 0 < m) (k : Nat) : (m * 2 ^ k).log2 = m.log2 + k := by
  induction k with
  | zero => rw [Nat.pow_zero, Nat.mul_one, Nat.add_zero]
  | succ k ih =>
    have hne : m * 2 ^ k ≠ 0 := Nat.ne_of_gt (Nat.mul_pos hm (Nat.two_pow_pos k))
    rw [Nat.pow_succ, ← Nat.mul_assoc, Nat.mul_comm _ 2, Nat.log2_two_mul hne, ih, Nat.add_assoc]

def Canonical (m : Nat) (e : Int) : Prop := Format.binary64.targetExponent (totalExponent m e) = e

theorem canonical_of_log2_lt {m : Nat} (h : m.log2 < 52) : Canonical m (-1074) := by
  have hbits : (Format.binary64.mantissaBits : Int) = 53 := rfl
  have hmin : Format.binary64.minExponent = -1074 := rfl
  rw [Canonical, Format.targetExponent, totalExponent, hbits, hmin]
  omega

theorem canonical_of_log2_eq {m : Nat} {e : Int} (h : m.log2 = 52) (he : -1074 ≤ e) :
    Canonical m e := by
  have hbits : (Format.binary64.mantissaBits : Int) = 53 := rfl
  have hmin : Format.binary64.minExponent = -1074 := rfl
  rw [Canonical, Format.targetExponent, totalExponent, hbits, hmin]
  omega

theorem canonical_of_unpack {b : BitVec Format.binary64.numBits} {s : Sign} {m : Nat} {e : Int}
    {positive : 0 < m} (h : unpack Format.binary64 b = .finite s m e positive) : Canonical m e := by
  have hlt : (unpackMantissa b).toNat < 2 ^ 52 := (unpackMantissa b).isLt
  have hbias : (Format.binary64.exponentBias : Int) = 1023 := rfl
  have hfraction : (Format.binary64.mantissaBitsWithoutImplicit : Int) = 52 := rfl
  rw [unpack] at h
  split_ifs at h with _ _ hzeros _
  · obtain ⟨-, rfl, rfl⟩ := UnpackedFloat.finite.inj h
    have he : ((unpackExponent b).toNat : Int) -
        (Format.binary64.exponentBias + Format.binary64.mantissaBitsWithoutImplicit) + 1 = -1074 := by
      rw [hzeros]
      rfl
    rw [he]
    exact canonical_of_log2_lt ((Nat.log2_lt (Nat.ne_of_gt positive)).mpr hlt)
  · obtain ⟨-, rfl, rfl⟩ := UnpackedFloat.finite.inj h
    have hpositive : 0 < (unpackExponent b).toNat := BitVec.toNat_pos_of_ne_zero hzeros
    have hone : (1#1 ++ unpackMantissa b).toNat = 2 ^ 52 + (unpackMantissa b).toNat :=
      toNat_one_append _
    have hl : (1#1 ++ unpackMantissa b).toNat.log2 = 52 :=
      (Nat.log2_eq_iff (by omega)).mpr ⟨by omega, by omega⟩
    rw [hbias, hfraction]
    exact canonical_of_log2_eq hl (by omega)

theorem shift_exact (m k : Nat) :
    (ExtendedMantissa.mk (m * 2 ^ k) false false) >>> k = ⟨m, false, false⟩ := by
  induction k generalizing m with
  | zero => simp [HShiftRight.hShiftRight, Nat.repeat]
  | succ k ih =>
    have hi : Nat.repeat ExtendedMantissa.shiftRightOne k ⟨m * 2 ^ (k + 1), false, false⟩ =
        ⟨2 * m, false, false⟩ := by
      rw [Nat.pow_succ, Nat.mul_comm _ 2, ← Nat.mul_assoc, Nat.mul_comm m 2]
      exact ih (2 * m)
    change ExtendedMantissa.shiftRightOne (Nat.repeat _ k _) = _
    rw [hi]
    simp [ExtendedMantissa.shiftRightOne]

theorem shiftToTargetExponent_exact {m : Nat} {e : Int} (hm : 0 < m) (h : Canonical m e) (k : Nat) :
    shiftToTargetExponent Format.binary64 (m * 2 ^ k) (e - k) .exact =
      (⟨m, false, false⟩, e) := by
  have ht : totalExponent (m * 2 ^ k) (e - k) = totalExponent m e := by
    simp only [totalExponent, log2_mul_two_pow hm]
    omega
  have hk : (e - (e - k)).toNat = k := by omega
  rw [shiftToTargetExponent, ht, h, shiftToExponent, hk]
  simp only [ExtendedMantissa.ofMantissaAndAccuracy, shift_exact, Prod.mk.injEq, true_and]
  omega

theorem roundWithAccuracy_exact {m : Nat} {e : Int} (hm : 0 < m) (h : Canonical m e) (s : Sign)
    (k : Nat) : roundWithAccuracy Format.binary64 s (m * 2 ^ k) (e - k) .exact =
      .finite s m e hm := by
  have hagain := shiftToTargetExponent_exact hm h 0
  simp only [Nat.pow_zero, Nat.mul_one, Int.natCast_zero, Int.sub_zero] at hagain
  have hr : (ExtendedMantissa.mk m false false).roundedMantissa = m := rfl
  simp only [roundWithAccuracy, shiftToTargetExponent_exact hm h, hr, hagain]
  rw [dif_neg (Nat.ne_of_gt hm)]

def view (x : Float) : UnpackedFloat := x.toModel.unpack

def ofView (u : UnpackedFloat) : Float := .ofModel (.pack u)

theorem ofView_view (x : Float) : ofView (view x) = x := by
  obtain ⟨bits, valid⟩ := x
  simp only [ofView, view, Float.Model.pack, Float.Model.unpack, pack_unpack_of_valid valid]

theorem view_ofView_zero (s : Sign) : view (ofView (.zero s)) = .zero s := by
  cases s <;> rfl

theorem view_one : view 1 = .finite .positive (2 ^ 52) (-52) (by decide) := rfl

theorem eq_of_view {x : Float} {u : UnpackedFloat} (h : view x = u) : x = ofView u :=
  (ofView_view x).symm.trans (congrArg ofView h)

theorem canonical_of_view {x : Float} {s : Sign} {m : Nat} {e : Int} {positive : 0 < m}
    (h : view x = .finite s m e positive) : Canonical m e := canonical_of_unpack h

theorem mul_positive (s : Sign) : s * .positive = s := by
  cases s <;> rfl

theorem positive_mul (s : Sign) : .positive * s = s := by
  cases s <;> rfl

theorem div_positive (s : Sign) : s / .positive = s := by
  cases s <;> rfl

theorem mul_one_finite (s : Sign) {m : Nat} {e : Int} (hm : 0 < m) (h : Canonical m e) :
    mul Format.binary64 (.finite s m e hm) (.finite .positive (2 ^ 52) (-52) (by decide)) =
      .finite s m e hm := by
  simp only [mul, mul_positive]
  exact roundWithAccuracy_exact hm h s 52

theorem one_mul_finite (s : Sign) {m : Nat} {e : Int} (hm : 0 < m) (h : Canonical m e) :
    mul Format.binary64 (.finite .positive (2 ^ 52) (-52) (by decide)) (.finite s m e hm) =
      .finite s m e hm := by
  simp only [mul, positive_mul]
  rw [Nat.mul_comm, Int.add_comm]
  exact roundWithAccuracy_exact hm h s 52

theorem divCore_one {m : Nat} {e : Int} (h : Canonical m e) :
    ∃ k, divCore Format.binary64 m e (2 ^ 52) (-52) = (m * 2 ^ k, e - (k : Nat), .exact) := by
  have hbits : (Format.binary64.mantissaBits : Int) = 53 := rfl
  have hmin : Format.binary64.minExponent = -1074 := rfl
  have hone : totalExponent (2 ^ 52) (-52) = 1 := rfl
  have ht : Format.binary64.targetExponent (totalExponent m e - 1) = e ∨
      Format.binary64.targetExponent (totalExponent m e - 1) = e - 1 := by
    rw [Canonical, Format.targetExponent, hbits, hmin] at h
    rw [Format.targetExponent, hbits, hmin]
    omega
  obtain ⟨k, hk⟩ : ∃ k : Nat, min (e - -52)
      (Format.binary64.targetExponent (totalExponent m e - 1)) = e - k := by
    rcases ht with ht | ht
    · exact ⟨0, by omega⟩
    · exact ⟨1, by omega⟩
  have hs : (e - -52 - (e - (k : Int))).toNat = k + 52 := by omega
  refine ⟨k, ?_⟩
  simp only [divCore, hone, hk, hs, Nat.shiftLeft_eq, Nat.pow_add, ← Nat.mul_assoc,
    Nat.mul_div_cancel _ (Nat.two_pow_pos 52), Nat.mul_mod_left, accuracyOfFraction, if_true]

theorem div_one_finite (s : Sign) {m : Nat} {e : Int} (hm : 0 < m) (h : Canonical m e) :
    div Format.binary64 (.finite s m e hm) (.finite .positive (2 ^ 52) (-52) (by decide)) =
      .finite s m e hm := by
  obtain ⟨k, hk⟩ := divCore_one h
  simp only [div, hk, div_positive]
  exact roundWithAccuracy_exact hm h s k

end Calculator.Double

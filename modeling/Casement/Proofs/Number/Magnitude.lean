import Casement.Number.Single
import Mathlib.Algebra.Order.Ring.Nat

namespace Casement

open Float.Model Float.Model.UnpackedFloat

def AtMost (n : Int) : UnpackedFloat → Prop
  | .finite _ _ e _ => e ≤ n
  | .zero _ => True
  | .infinity _ | .notANumber => False

def mantissa : UnpackedFloat → Nat
  | .finite _ m _ _ => m
  | .zero _ | .infinity _ | .notANumber => 0

variable {m k : Nat} {e n n₁ : Int} {s : Sign} {a : Accuracy} {f : UnpackedFloat} {word : UInt32}

theorem log2_le (h : m < 2 ^ (k + 1)) : m.log2 ≤ k := by
  by_cases hm : m = 0
  · simp [hm]
  · exact Nat.lt_succ_iff.mp ((Nat.log2_lt hm).mpr h)

theorem mantissa_shiftRight_le (em : ExtendedMantissa) (k : Nat) :
    (em >>> k).mantissa ≤ em.mantissa := by
  induction k with
  | zero => exact Nat.le_refl _
  | succ k ih =>
    have hstep : (em >>> (k + 1)).mantissa = (em >>> k).mantissa / 2 := rfl
    rw [hstep]
    omega

theorem roundedMantissa_le (em : ExtendedMantissa) : em.roundedMantissa ≤ em.mantissa + 1 := by
  obtain ⟨m, roundBit, stickyBit⟩ := em
  cases roundBit <;> cases stickyBit <;>
    simp only [ExtendedMantissa.roundedMantissa, ExtendedMantissa.accuracy, Accuracy.roundToNearestEven] <;>
    omega

theorem mantissa_shiftToTargetExponent_le :
    (shiftToTargetExponent Format.binary32 m e a).1.mantissa ≤ m := by
  have hshift := mantissa_shiftRight_le (ExtendedMantissa.ofMantissaAndAccuracy m a)
    (Format.binary32.targetExponent (totalExponent m e) - e).toNat
  have hmantissa : (ExtendedMantissa.ofMantissaAndAccuracy m a).mantissa = m := by
    unfold ExtendedMantissa.ofMantissaAndAccuracy
    split <;> rfl
  rw [hmantissa] at hshift
  exact hshift

theorem exponent_shiftToTargetExponent_le (hm : m < 2 ^ (k + 1)) (he : e ≤ n)
    (hk : k + e - 23 ≤ n) (hmin : -149 ≤ n) :
    (shiftToTargetExponent Format.binary32 m e a).2 ≤ n := by
  have hlog := log2_le hm
  have hbits : Format.binary32.mantissaBits = 24 := rfl
  simp only [shiftToTargetExponent, shiftToExponent, Format.targetExponent, totalExponent, hbits,
    Format.minExponent]
  omega

theorem atMost_roundWithAccuracy (hm : m < 2 ^ (k + 1)) (he : e ≤ n₁) (hk : k + e - 23 ≤ n₁)
    (hmin : -149 ≤ n₁) (hn : n₁ ≤ n) (hnext : k + 1 + n₁ - 23 ≤ n) :
    AtMost n (roundWithAccuracy Format.binary32 s m e a) := by
  have hfirst := exponent_shiftToTargetExponent_le (a := a) hm he hk hmin
  have hmantissa := mantissa_shiftToTargetExponent_le (m := m) (e := e) (a := a)
  unfold roundWithAccuracy
  generalize shiftToTargetExponent Format.binary32 m e a = first at hfirst hmantissa ⊢
  obtain ⟨em, e₁⟩ := first
  dsimp only at hfirst hmantissa ⊢
  have hrounded : em.roundedMantissa < 2 ^ (k + 1 + 1) := by
    have := roundedMantissa_le em
    rw [Nat.pow_succ]
    omega
  have hsecond : (shiftToTargetExponent Format.binary32 em.roundedMantissa e₁ .exact).2 ≤ n :=
    exponent_shiftToTargetExponent_le hrounded (by omega) (by omega) (by omega)
  generalize shiftToTargetExponent Format.binary32 em.roundedMantissa e₁ .exact = second at hsecond ⊢
  by_cases hzero : second.1.mantissa = 0
  · rw [dif_pos hzero]
    exact trivial
  · rw [dif_neg hzero]
    exact hsecond

def exponentField (word : UInt32) : Nat :=
  (@unpackExponent Format.binary32 word.toBitVec).toNat

theorem exponentField_pack (h : AtMost n f) {N : Nat} (hn : n + 150 ≤ N) (hN : N < 255) :
    exponentField (Float32.Model.pack f).toBits ≤ N := by
  have hcomponents (s : Sign) (exponent : BitVec 8) (mantissa : BitVec 23) (h : exponent.toNat ≤ N) :
      (unpackExponent (packComponents Format.binary32 s exponent mantissa)).toNat ≤ N := by
    rwa [unpackExponent_packComponents]
  change (unpackExponent (pack Format.binary32 f)).toNat ≤ N
  cases f with
  | notANumber | infinity => cases h
  | zero s => exact hcomponents s 0 0 (Nat.zero_le _)
  | finite s m e hm =>
    have hbiased : (e + 127 + 23).toNat ≤ N := by
      have : e ≤ n := h
      omega
    unfold UnpackedFloat.pack
    dsimp only
    rw [if_neg]
    · split
      · refine hcomponents s _ _ ?_
        rw [BitVec.toNat_ofNat]
        exact Nat.le_trans (Nat.mod_le _ _) hbiased
      · exact hcomponents s 0 _ (Nat.zero_le _)
    · simp only [Format.exponentBias]
      omega

theorem atMost_unpack {b : BitVec Format.binary32.numBits} {N : Nat} (h : (unpackExponent b).toNat ≤ N)
    (hpos : 0 < N) (hN : N < 255) :
    AtMost (N - 150) (unpack Format.binary32 b) ∧ mantissa (unpack Format.binary32 b) < 2 ^ 24 := by
  have hbias : Format.binary32.exponentBias = 127 := rfl
  unfold UnpackedFloat.unpack
  dsimp only
  generalize unpackExponent b = exponent at h ⊢
  rw [if_neg]
  · by_cases hzero : exponent = 0#8
    · rw [if_pos hzero]
      by_cases hm : unpackMantissa b = 0#23
      · rw [dif_pos hm]
        exact ⟨trivial, Nat.two_pow_pos 24⟩
      · rw [dif_neg hm, hzero]
        refine ⟨?_, Nat.lt_trans (unpackMantissa b).isLt (by decide)⟩
        dsimp only [AtMost, BitVec.toNat_zero]
        omega
    · rw [if_neg hzero]
      refine ⟨?_, (1#1 ++ unpackMantissa b).isLt⟩
      dsimp only [AtMost]
      omega
  · rintro rfl
    simp only [BitVec.toNat_neg, BitVec.toNat_ofNat] at h
    omega

theorem atMost_mul {f g : UnpackedFloat} {n n' : Int} {k : Nat} (hf : AtMost n f) (hg : AtMost n' g)
    (hm : mantissa f * mantissa g < 2 ^ (k + 1)) {n₁ n₂ : Int} (he : n + n' ≤ n₁)
    (hk : k + (n + n') - 23 ≤ n₁) (hmin : -149 ≤ n₁) (hn : n₁ ≤ n₂) (hnext : k + 1 + n₁ - 23 ≤ n₂) :
    AtMost n₂ (mul Format.binary32 f g) := by
  cases f with
  | notANumber | infinity => cases hf
  | zero s =>
    cases g with
    | notANumber | infinity => cases hg
    | zero | finite => exact trivial
  | finite s m e hpos =>
    cases g with
    | notANumber | infinity => cases hg
    | zero => exact trivial
    | finite s' m' e' hpos' =>
      have he₁ : e ≤ n := hf
      have he₂ : e' ≤ n' := hg
      exact atMost_roundWithAccuracy hm (by omega) (by omega) hmin hn hnext

theorem atMost_ofNat {n : Nat} (h : n < 2 ^ 23) : AtMost 0 (ofNat Format.binary32 n) := by
  unfold UnpackedFloat.ofNat UnpackedFloat.ofInt UnpackedFloat.normalize
  split
  · next hlt =>
    have := Int.compare_eq_lt.mp hlt
    omega
  · exact trivial
  · have hlog := log2_le (k := 22) h
    have htarget : Format.binary32.targetExponent (totalExponent n 0) = n.log2 - 23 := by
      have hbits : Format.binary32.mantissaBits = 24 := rfl
      simp only [Format.targetExponent, totalExponent, hbits, Format.minExponent]
      omega
    have hwidened : n <<< (23 - n.log2) < 2 ^ 24 := by
      have := Nat.lt_log2_self (n := n)
      have hsum : 24 = n.log2 + 1 + (23 - n.log2) := by omega
      rw [Nat.shiftLeft_eq, hsum, Nat.pow_add]
      exact Nat.mul_lt_mul_of_pos_right this (Nat.two_pow_pos _)
    have hshift : (0 - ((n.log2 : Int) - 23)).toNat = 23 - n.log2 := by omega
    have he : (0 : Int) - ((23 - n.log2 : Nat) : Int) ≤ -1 := by omega
    simp only [UnpackedFloat.round, decreaseExponent, Int.toNat_natCast, htarget, hshift]
    exact atMost_roundWithAccuracy (k := 23) hwidened he (by omega) (by omega) (by omega) (by omega)

theorem atMost_ofScientific {n : Nat} (hn : n ≠ 0) (h : n < 2 ^ 32) :
    AtMost 41 (ofScientific Format.binary32 n 0) := by
  have hpos : 0 < n <<< 24 := by
    rw [Nat.shiftLeft_eq]
    exact Nat.mul_pos (Nat.pos_of_ne_zero hn) (by decide)
  have hscientific : ofScientific Format.binary32 n 0 = mul Format.binary32
      (.finite .positive (n <<< 24) (-24) hpos) (.finite .positive 1 0 (by decide)) := by
    unfold UnpackedFloat.ofScientific
    rw [dif_neg hn, if_neg (by decide), if_neg (by dsimp only; omega), if_pos (Int.le_refl 0)]
    rfl
  have hmantissa : mantissa (.finite .positive (n <<< 24) (-24) hpos) *
      mantissa (.finite .positive 1 0 (by decide)) < 2 ^ (55 + 1) := by
    change n <<< 24 * 1 < 2 ^ (55 + 1)
    rw [Nat.mul_one, Nat.shiftLeft_eq]
    omega
  have hwide : AtMost (-24) (.finite .positive (n <<< 24) (-24) hpos) := Int.le_refl _
  have hunit : AtMost 0 (.finite .positive 1 0 (by decide)) := Int.le_refl _
  rw [hscientific]
  generalize UnpackedFloat.finite .positive (n <<< 24) (-24) hpos = f at hwide hmantissa ⊢
  generalize UnpackedFloat.finite .positive 1 0 _ = g at hunit hmantissa ⊢
  have hexponent : (-24 : Int) + 0 ≤ 8 := by decide
  exact atMost_mul hwide hunit hmantissa hexponent (by decide) (by decide) (by decide) (by decide)

theorem exponentField_ofNat {n : Nat} (h : n < 2 ^ 32) :
    exponentField (Float32.ofNat n).toBits ≤ 200 := by
  change exponentField (Float32.ofScientific n false 0).toBits ≤ 200
  unfold Float32.ofScientific
  split
  · next hsmall =>
    -- the product with one, the power of ten for the exponent 0
    have hfirst : exponentField (n.toUInt64.toFloat32).toBits ≤ 150 := by
      have hnat : n.toUInt64.toNat = n := Nat.mod_eq_of_lt (by omega)
      refine exponentField_pack (n := 0) ?_ (by decide) (by decide)
      rw [UnpackedFloat.ofUInt64, hnat]
      exact atMost_ofNat hsmall.1
    obtain ⟨hunpack, hmantissa⟩ := atMost_unpack (b := n.toUInt64.toFloat32.toBits.toBitVec) hfirst
      (by decide) (by decide)
    have hone : (Float32.ofBits 0x3F800000).toModel.unpack =
        .finite .positive (2 ^ 23) (-23) (by decide) := rfl
    have hproduct : AtMost 24 (mul Format.binary32 n.toUInt64.toFloat32.toModel.unpack
        (Float32.ofBits 0x3F800000).toModel.unpack) := by
      rw [hone]
      have hunit : AtMost (-23) (.finite .positive (2 ^ 23) (-23) (by decide)) := Int.le_refl _
      have hexponent : ((150 : Nat) : Int) - 150 + -23 ≤ 0 := by decide
      refine atMost_mul (k := 46) hunpack hunit ?_ hexponent (by decide) (by decide) (by decide)
        (by decide)
      exact Nat.mul_lt_mul_of_pos_right hmantissa (by decide)
    exact exponentField_pack hproduct (by decide) (by decide)
  · next hlarge =>
    have hn : n ≠ 0 := by
      rintro rfl
      exact hlarge ⟨by decide, by decide⟩
    exact exponentField_pack (atMost_ofScientific hn h) (by decide) (by decide)

theorem exponentField_neg {x : Float32} (h : exponentField x.toBits ≤ 200) :
    exponentField (Float32.neg x).toBits ≤ 200 := by
  obtain ⟨hunpack, -⟩ := atMost_unpack (b := x.toBits.toBitVec) h (by decide) (by decide)
  have hneg : AtMost 50 (neg (unpack Format.binary32 x.toBits.toBitVec)) := by
    generalize unpack Format.binary32 x.toBits.toBitVec = f at hunpack
    cases f with
    | notANumber | infinity => cases hunpack
    | zero => exact trivial
    | finite => exact hunpack
  exact exponentField_pack hneg (by decide) (by decide)

namespace Single

theorem ofInt_ne_lowest {n : Int} (h : n.natAbs < 2 ^ 32) : ofInt n ≠ lowest := by
  have hfield : exponentField (ofInt n).word ≤ 200 := by
    cases n with
    | ofNat n => exact exponentField_ofNat h
    | negSucc n => exact exponentField_neg (exponentField_ofNat h)
  intro heq
  rw [heq] at hfield
  exact absurd hfield (by decide)

end Single

end Casement

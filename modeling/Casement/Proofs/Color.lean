import Casement.Color
import Mathlib.Tactic.IntervalCases

namespace Casement.Color

variable {a b x e : UInt32} {i : Nat}

theorem byte_lt (x : UInt32) (i : Nat) : byte x i < 256 := Nat.mod_lt _ (by decide)

theorem eq_of_byte (h : ∀ i < 4, byte a i = byte b i) : a = b := by
  have h₀ := h 0 (by decide)
  have h₁ := h 1 (by decide)
  have h₂ := h 2 (by decide)
  have h₃ := h 3 (by decide)
  have ha := a.toNat_lt
  have hb := b.toNat_lt
  simp only [byte, Nat.shiftRight_eq_div_pow] at h₀ h₁ h₂ h₃
  apply UInt32.toNat_inj.mp
  omega

theorem byte_and (a b : UInt32) (i : Nat) : byte (a &&& b) i = byte a i &&& byte b i := by
  unfold byte
  rw [UInt32.toNat_and, Nat.shiftRight_and_distrib]
  exact Nat.and_mod_two_pow (n := 8)

theorem byte_or (a b : UInt32) (i : Nat) : byte (a ||| b) i = byte a i ||| byte b i := by
  unfold byte
  rw [UInt32.toNat_or, Nat.shiftRight_or_distrib]
  exact Nat.or_mod_two_pow (n := 8)

theorem byte_shiftRight (x : UInt32) (i : Nat) : byte (x >>> 16) i = byte x (i + 2) := by
  unfold byte
  rw [UInt32.toNat_shiftRight, ← Nat.shiftRight_add]
  congr 2
  change 16 + 8 * i = 8 * (i + 2)
  omega

theorem byte_shiftLeft (hx : x.toNat < 256) (hi : i < 4) :
    byte (x <<< 16) i = if i = 2 then x.toNat else 0 := by
  unfold byte
  rw [UInt32.toNat_shiftLeft, Nat.shiftLeft_eq, Nat.shiftRight_eq_div_pow]
  change x.toNat * 65536 % 4294967296 / 2 ^ (8 * i) % 256 = _
  interval_cases i
  all_goals
    simp only [reduceIte, Nat.reduceMul, Nat.reducePow, Nat.reduceEqDiff]
    omega

theorem word_lt {bytes : List Nat} (h : ∀ n ∈ bytes, n < 256) : word bytes < 256 ^ bytes.length := by
  induction bytes with
  | nil => decide
  | cons n rest ih =>
    obtain ⟨hn, hrest⟩ := List.forall_mem_cons.mp h
    have := ih hrest
    rw [word, List.length_cons, Nat.pow_succ]
    omega

theorem word_lane {bytes : List Nat} (h : ∀ n ∈ bytes, n < 256) (i : Nat) :
    word bytes / 256 ^ i % 256 = bytes.getD i 0 := by
  induction bytes generalizing i with
  | nil => simp [word]
  | cons n rest ih =>
    obtain ⟨hn, hrest⟩ := List.forall_mem_cons.mp h
    cases i with
    | zero =>
      rw [word, List.getD_cons_zero]
      omega
    | succ i =>
      have hdiv : (n + 256 * word rest) / 256 = word rest := by omega
      rw [word, List.getD_cons_succ, ← ih hrest, Nat.pow_succ', ← Nat.div_div_eq_div_mul, hdiv]

theorem byte_ofNat_word {bytes : List Nat} (hlen : bytes.length ≤ 4) (h : ∀ n ∈ bytes, n < 256)
    (i : Nat) : byte (UInt32.ofNat (word bytes)) i = bytes.getD i 0 := by
  have hlt : word bytes < 2 ^ 32 :=
    (word_lt h).trans_le (Nat.pow_le_pow_right (by decide) hlen)
  have hpow : 2 ^ (8 * i) = 256 ^ i := Nat.pow_mul 2 8 i
  unfold byte
  rw [UInt32.toNat_ofNat_of_lt' hlt, Nat.shiftRight_eq_div_pow, hpow, word_lane h]

theorem and_full {n : Nat} (h : n < 256) : n &&& 255 = n :=
  (Nat.and_two_pow_sub_one_eq_mod n 8).trans (Nat.mod_eq_of_lt h)

theorem toByte_channel {n : Nat} (h : n < 256) : toByte (channel n) = n := by
  have hall : ∀ n : Fin 256, toByte (channel n) = n := by decide +kernel
  exact hall ⟨n, h⟩

theorem pack_unpack_with (x e : UInt32) : (unpack x true).pack true e =
    UInt32.ofNat (word [byte x 0, byte x 1, byte x 2, byte x 3]) := by
  simp only [pack, unpack, if_true, toByte_channel (byte_lt x _)]

theorem pack_unpack_without (x e : UInt32) : (unpack x false).pack false e =
    UInt32.ofNat (word [byte x 0, byte x 1, byte x 2, byte e 3]) := by
  simp only [pack, unpack, Bool.false_eq_true, if_false, toByte_channel (byte_lt x _)]

theorem byte_pack_unpack_without (x e : UInt32) (i : Nat) :
    byte ((unpack x false).pack false e) i = [byte x 0, byte x 1, byte x 2, byte e 3].getD i 0 := by
  rw [pack_unpack_without]
  exact byte_ofNat_word (by simp) (by simp [byte_lt]) i

theorem byte_under (x e : UInt32) (hi : i < 4) :
    byte ((e &&& 0xFF000000) ||| (x &&& 0x00FFFFFF)) i = if i = 3 then byte e 3 else byte x i := by
  have hlanes : byte 0xFF000000 i = (if i = 3 then 255 else 0) ∧
      byte 0x00FFFFFF i = (if i = 3 then 0 else 255) := by
    interval_cases i <;> decide
  rw [byte_or, byte_and, byte_and, hlanes.1, hlanes.2]
  split
  · next h => rw [h, and_full (byte_lt e 3), Nat.and_zero, Nat.or_zero]
  · rw [and_full (byte_lt x i), Nat.and_zero, Nat.zero_or]

def exchanged (x : UInt32) : UInt32 :=
  let raised : UInt32 := (x &&& (0xFF : UInt32)) <<< (16 : UInt32)
  let lowered : UInt32 := x >>> (16 : UInt32) &&& (0xFF : UInt32)
  (x &&& 0xFF00FF00) ||| lowered ||| raised

theorem byte_exchanged (x : UInt32) (i : Nat) (hi : i < 4) :
    byte (exchanged x) i = [byte x 2, byte x 1, byte x 0, byte x 3].getD i 0 := by
  have hlowest : (x &&& 0xFF).toNat = byte x 0 :=
    (UInt32.toNat_and x 0xFF).trans (Nat.and_two_pow_sub_one_eq_mod x.toNat 8)
  have hshift := byte_shiftLeft (x := x &&& 0xFF) (hlowest ▸ byte_lt x 0) hi
  have hlanes : byte 0xFF00FF00 i = [0, 255, 0, 255].getD i 0 ∧ byte 0xFF i = [255, 0, 0, 0].getD i 0 := by
    interval_cases i <;> decide
  simp only [exchanged]
  rw [byte_or, byte_or, byte_and, byte_and, byte_shiftRight, hshift, hlowest, hlanes.1, hlanes.2]
  interval_cases i
  all_goals simp [and_full, byte_lt]

/-- What is packed after unpacking is the word itself, or its three lower bytes under the highest byte
of `e`; a theme colour of the platform that keeps red in the lowest byte comes back with red and blue
exchanged. -/
theorem packed_colors_survive (x e : UInt32) :
    (unpack x true).pack true e = x ∧
    (unpack x false).pack false e = ((e &&& 0xFF000000) ||| (x &&& 0x00FFFFFF)) ∧
    (ofTheme x .windows).pack false e = ((e &&& 0xFF000000) ||| (exchanged x &&& 0x00FFFFFF)) ∧
    (ofTheme x .macOs).pack false e = ((e &&& 0xFF000000) ||| (x &&& 0x00FFFFFF)) ∧
    (ofTheme x .linux).pack false e = ((e &&& 0xFF000000) ||| (x &&& 0x00FFFFFF)) := by
  have hplain (x : UInt32) :
      (unpack x false).pack false e = ((e &&& 0xFF000000) ||| (x &&& 0x00FFFFFF)) := by
    apply eq_of_byte
    intro i hi
    rw [byte_pack_unpack_without, byte_under x e hi]
    interval_cases i <;> rfl
  have hwith : (unpack x true).pack true e = x := by
    apply eq_of_byte
    intro i hi
    rw [pack_unpack_with, byte_ofNat_word (by simp) (by simp [byte_lt])]
    interval_cases i <;> rfl
  refine ⟨hwith, hplain x, ?_, hplain x, hplain x⟩
  change (unpack (UInt32.ofNat (word [byte x 2, byte x 1, byte x 0])) false).pack false e = _
  rw [hplain]
  apply eq_of_byte
  intro i hi
  rw [byte_under _ e hi, byte_under _ e hi, byte_ofNat_word (by simp) (by simp [byte_lt]),
    byte_exchanged x i hi]
  interval_cases i <;> rfl

end Casement.Color

import Mathlib.Tactic.Ring
import Casement.Number.Shortest

namespace Casement.Number

variable {num den r : Nat}

theorem roundDiv_eq (hden : 0 < den) (hlo : 2 * (den * r) ≤ 2 * num + den) (hhi : 2 * num ≤ 2 * (den * r) + den)
    (hodd : r % 2 = 1 → 2 * (den * r) < 2 * num + den ∧ 2 * num < 2 * (den * r) + den) : roundDiv num den = r := by
  have hsplit := Nat.div_add_mod num den
  have hlt := Nat.mod_lt num hden
  unfold roundDiv
  dsimp only
  generalize num / den = q at hsplit ⊢
  generalize num % den = m at hsplit hlt ⊢
  -- within half a unit of the fraction, only its quotient and the next number remain
  have hle : q ≤ r := by
    by_contra hgt
    have := Nat.mul_le_mul_left den (show r + 1 ≤ q by omega)
    rw [Nat.mul_succ] at this
    omega
  have hge : r ≤ q + 1 := by
    by_contra hgt
    have := Nat.mul_le_mul_left den (show q + 2 ≤ r by omega)
    rw [Nat.mul_add] at this
    omega
  rcases Nat.lt_or_eq_of_le hle with hlow | rfl
  · obtain rfl : r = q + 1 := by omega
    rw [Nat.mul_succ] at hlo hhi hodd
    split
    · omega
    · split <;> omega
  · split
    · rfl
    · split <;> omega

theorem roundDiv_mul_right {k : Nat} (hk : 0 < k) (num den : Nat) :
    roundDiv (num * k) (den * k) = roundDiv num den := by
  unfold roundDiv
  rw [Nat.mul_div_mul_right _ _ hk, Nat.mul_mod_mul_right]
  have hbelow : 2 * (num % den * k) < den * k ↔ 2 * (num % den) < den := by
    rw [← Nat.mul_assoc, Nat.mul_lt_mul_right hk]
  have habove : den * k < 2 * (num % den * k) ↔ den < 2 * (num % den) := by
    rw [← Nat.mul_assoc, Nat.mul_lt_mul_right hk]
  simp only [hbelow, habove]

namespace Format

variable {f : Format} {word : Nat}

theorem nearest_mul_right (f : Format) {k : Nat} (hk : 0 < k) (num den : Nat) :
    f.nearest (num * k) (den * k) = f.nearest num den := by
  unfold nearest
  dsimp only
  rw [Nat.mul_div_mul_right _ _ hk, Nat.mul_right_comm den k, roundDiv_mul_right hk]

def shift (f : Format) (word : Nat) : Nat := word / Nat.pow 2 f.fraction - 1

def significand (f : Format) (word : Nat) : Nat := word - f.shift word * Nat.pow 2 f.fraction

theorem pow_fraction_pos (f : Format) : 0 < Nat.pow 2 f.fraction := Nat.two_pow_pos _

theorem significand_cases (f : Format) (word : Nat) :
    f.shift word * Nat.pow 2 f.fraction + f.significand word = word ∧
      f.significand word < 2 * Nat.pow 2 f.fraction ∧
      (f.shift word = 0 ∨ Nat.pow 2 f.fraction ≤ f.significand word) := by
  have hsplit := Nat.div_add_mod word (Nat.pow 2 f.fraction)
  have hlt := Nat.mod_lt word f.pow_fraction_pos
  unfold significand shift
  cases he : word / Nat.pow 2 f.fraction with
  | zero =>
    rw [he] at hsplit
    rw [Nat.mul_zero, Nat.zero_add] at hsplit
    rw [Nat.zero_sub, Nat.zero_mul, Nat.sub_zero]
    omega
  | succ e =>
    rw [he, Nat.mul_succ, Nat.mul_comm] at hsplit
    rw [Nat.add_sub_cancel]
    omega

theorem units_eq (f : Format) (word : Nat) : f.units word = f.significand word * Nat.pow 2 (f.shift word) := by
  have hsplit := Nat.div_add_mod word (Nat.pow 2 f.fraction)
  unfold units significand shift
  cases he : word / Nat.pow 2 f.fraction with
  | zero => simp
  | succ e =>
    rw [he, Nat.mul_succ, Nat.mul_comm] at hsplit
    simp only [Nat.succ_ne_zero, if_false, Nat.add_sub_cancel]
    congr 1
    omega

/-- Half the way down to the next word, counted in quarters: less at a power of two. -/
def below (f : Format) (word : Nat) : Nat :=
  if 0 < f.shift word ∧ f.significand word = Nat.pow 2 f.fraction then Nat.pow 2 (f.shift word)
  else 2 * Nat.pow 2 (f.shift word)

theorem basin_eq (f : Format) (word : Nat) :
    f.basin word = ⟨4 * (f.significand word * Nat.pow 2 (f.shift word)) - f.below word,
      4 * (f.significand word * Nat.pow 2 (f.shift word)),
      4 * (f.significand word * Nat.pow 2 (f.shift word)) + 2 * Nat.pow 2 (f.shift word), word % 2 = 0⟩ := by
  have hpower : (1 < word / Nat.pow 2 f.fraction ∧ word % Nat.pow 2 f.fraction = 0) ↔
      (0 < f.shift word ∧ f.significand word = Nat.pow 2 f.fraction) := by
    have hsplit := Nat.div_add_mod word (Nat.pow 2 f.fraction)
    unfold significand shift
    cases he : word / Nat.pow 2 f.fraction with
    | zero => simp
    | succ e =>
      rw [he, Nat.mul_succ, Nat.mul_comm] at hsplit
      rw [Nat.add_sub_cancel]
      omega
  unfold basin below
  simp only [hpower, units_eq]
  rfl

theorem log2_sub_eq_zero {n : Nat} (h : n < 2 * Nat.pow 2 f.fraction) : n.log2 - f.fraction = 0 := by
  by_cases hn : n = 0
  · simp [hn]
  · have hlt : n < 2 ^ (f.fraction + 1) := by
      rw [Nat.pow_succ']
      exact h
    have := (Nat.log2_lt hn).mpr hlt
    omega

theorem log2_sub_eq {n s : Nat} (hlo : Nat.pow 2 f.fraction * Nat.pow 2 s ≤ n)
    (hhi : n < 2 * (Nat.pow 2 f.fraction * Nat.pow 2 s)) : n.log2 - f.fraction = s := by
  have hn : n ≠ 0 := by
    have := Nat.mul_pos f.pow_fraction_pos (Nat.two_pow_pos s)
    simp only [Nat.pow_eq] at *
    omega
  have hlo' : 2 ^ (f.fraction + s) ≤ n := by
    rw [Nat.pow_add]
    exact hlo
  have hhi' : n < 2 ^ (f.fraction + s + 1) := by
    rw [Nat.pow_succ', Nat.pow_add]
    exact hhi
  rw [(Nat.log2_eq_iff hn).mpr ⟨hlo', hhi'⟩, Nat.add_sub_cancel_left]

theorem nearest_eq {s : Nat} (hs : (num / den).log2 - f.fraction = s) (hr : roundDiv num (den * Nat.pow 2 s) = r)
    (hfin : s * Nat.pow 2 f.fraction + r ≤ f.infinity) : f.nearest num den = s * Nat.pow 2 f.fraction + r := by
  unfold nearest
  dsimp only
  rw [hs, hr, Nat.min_eq_left hfin]

/-- The bounds of a basin, and that the basins of odd words are open. -/
theorem bounds_of_holds {b : Basin} (h : b.holds num den = true) :
    (b.lower * den ≤ 4 * num ∧ 4 * num ≤ b.upper * den) ∧
      (b.closed = false → b.lower * den < 4 * num ∧ 4 * num < b.upper * den) := by
  unfold Basin.holds at h
  split at h
  · next hclosed =>
    simp only [Bool.and_eq_true, decide_eq_true_eq] at h
    exact ⟨h, fun hopen ↦ by rw [hclosed] at hopen; cases hopen⟩
  · simp only [Bool.and_eq_true, decide_eq_true_eq] at h
    exact ⟨⟨h.1.le, h.2.le⟩, fun _ ↦ h⟩

theorem nearest_of_near {s : Nat} (hden : 0 < den) (hfin : s * Nat.pow 2 f.fraction + r < f.infinity)
    (hr : r < 2 * Nat.pow 2 f.fraction) (hscale : s = 0 ∨ den * Nat.pow 2 s * Nat.pow 2 f.fraction ≤ num)
    (hlo : 4 * (den * Nat.pow 2 s * r) ≤ 4 * num + 2 * (den * Nat.pow 2 s))
    (hhi : 4 * num ≤ 4 * (den * Nat.pow 2 s * r) + 2 * (den * Nat.pow 2 s))
    (hodd : r % 2 = 1 → 4 * (den * Nat.pow 2 s * r) < 4 * num + 2 * (den * Nat.pow 2 s) ∧
      4 * num < 4 * (den * Nat.pow 2 s * r) + 2 * (den * Nat.pow 2 s)) :
    f.nearest num den = s * Nat.pow 2 f.fraction + r := by
  have hD : 0 < den * Nat.pow 2 s := Nat.mul_pos hden (Nat.two_pow_pos s)
  have hbound : num < den * (2 * (Nat.pow 2 f.fraction * Nat.pow 2 s)) := by
    have hstep := Nat.mul_le_mul_left (den * Nat.pow 2 s) (Nat.succ_le_of_lt hr)
    have heq : den * (2 * (Nat.pow 2 f.fraction * Nat.pow 2 s)) =
        den * Nat.pow 2 s * (2 * Nat.pow 2 f.fraction) := by ring
    rw [Nat.mul_succ] at hstep
    omega
  refine nearest_eq ?_ (roundDiv_eq hD (by omega) (by omega) fun h ↦ ?_) hfin.le
  · rcases hscale with rfl | hscale
    · exact log2_sub_eq_zero (Nat.div_lt_of_lt_mul (by simpa using hbound))
    · refine log2_sub_eq ((Nat.le_div_iff_mul_le hden).mpr ?_) (Nat.div_lt_of_lt_mul hbound)
      calc Nat.pow 2 f.fraction * Nat.pow 2 s * den = den * Nat.pow 2 s * Nat.pow 2 f.fraction := by ring
        _ ≤ num := hscale
  · have := hodd h
    omega

/-- Right below a power of two the scale is finer. -/
theorem nearest_of_under {s : Nat} (hden : 0 < den) (hfin : (s + 2) * Nat.pow 2 f.fraction < f.infinity)
    (hlo : 8 * (den * Nat.pow 2 s * Nat.pow 2 f.fraction) ≤ 4 * num + 2 * (den * Nat.pow 2 s))
    (hhi : num < 2 * (den * Nat.pow 2 s * Nat.pow 2 f.fraction)) :
    f.nearest num den = (s + 2) * Nat.pow 2 f.fraction := by
  have hD : 0 < den * Nat.pow 2 s := Nat.mul_pos hden (Nat.two_pow_pos s)
  have hword : (s + 2) * Nat.pow 2 f.fraction = s * Nat.pow 2 f.fraction + 2 * Nat.pow 2 f.fraction := by ring
  have htwice : den * Nat.pow 2 s * (2 * Nat.pow 2 f.fraction) = 2 * (den * Nat.pow 2 s * Nat.pow 2 f.fraction) := by
    ring
  rw [hword] at hfin ⊢
  refine nearest_eq ?_ (roundDiv_eq hD (by omega) (by omega) fun h ↦ by omega) hfin.le
  have hone := Nat.mul_le_mul_left (den * Nat.pow 2 s) f.pow_fraction_pos
  refine log2_sub_eq ((Nat.le_div_iff_mul_le hden).mpr ?_) (Nat.div_lt_of_lt_mul ?_)
  · calc Nat.pow 2 f.fraction * Nat.pow 2 s * den = den * Nat.pow 2 s * Nat.pow 2 f.fraction := by ring
      _ ≤ num := by omega
  · calc num < 2 * (den * Nat.pow 2 s * Nat.pow 2 f.fraction) := hhi
      _ = den * (2 * (Nat.pow 2 f.fraction * Nat.pow 2 s)) := by ring

theorem even_pow_fraction (hfraction : 0 < f.fraction) : Nat.pow 2 f.fraction % 2 = 0 := by
  obtain ⟨n, hn⟩ := Nat.exists_eq_succ_of_ne_zero hfraction.ne'
  rw [hn, Nat.pow_eq, Nat.pow_succ, Nat.mul_mod_left]

/-- What lies in the basin of a word is rounded to it. -/
theorem nearest_of_holds (hfraction : 0 < f.fraction) (hfin : word < f.infinity) (hden : 0 < den)
    (h : (f.basin word).holds num den = true) : f.nearest num den = word := by
  obtain ⟨hword, hlt, hnormal⟩ := f.significand_cases word
  obtain ⟨⟨hlo, hhi⟩, hopen⟩ := bounds_of_holds h
  rw [basin_eq] at hlo hhi hopen
  dsimp only at hlo hhi hopen
  -- an odd significand makes an odd word, and the basin of an odd word is open
  have hparity : f.significand word % 2 = 1 → decide (word % 2 = 0) = false := by
    intro hr
    have heven := Nat.mul_mod (f.shift word) (Nat.pow 2 f.fraction) 2
    rw [even_pow_fraction hfraction, Nat.mul_zero, Nat.zero_mod] at heven
    exact decide_eq_false (by omega)
  have hbelow : f.below word * den ≤ 2 * (den * Nat.pow 2 (f.shift word)) := by
    have hle : f.below word ≤ 2 * Nat.pow 2 (f.shift word) := by
      unfold below
      split <;> omega
    calc f.below word * den ≤ 2 * Nat.pow 2 (f.shift word) * den := Nat.mul_le_mul_right den hle
      _ = 2 * (den * Nat.pow 2 (f.shift word)) := by ring
  have hmiddle : 4 * (f.significand word * Nat.pow 2 (f.shift word)) * den =
      4 * (den * Nat.pow 2 (f.shift word) * f.significand word) := by ring
  have hulp : 2 * Nat.pow 2 (f.shift word) * den = 2 * (den * Nat.pow 2 (f.shift word)) := by ring
  rw [Nat.sub_mul, hmiddle] at hlo hopen
  rw [Nat.add_mul, hmiddle, hulp] at hhi hopen
  -- just under a power of two the units are half as large, and rounding happens there
  by_cases hunder : 0 < f.shift word ∧ num < den * Nat.pow 2 (f.shift word) * Nat.pow 2 f.fraction
  · obtain ⟨hpos, hunder⟩ := hunder
    have hsig : f.significand word = Nat.pow 2 f.fraction := by
      by_contra hne
      have hstep := Nat.mul_le_mul_left (den * Nat.pow 2 (f.shift word))
        (show Nat.pow 2 f.fraction + 1 ≤ f.significand word by omega)
      rw [Nat.mul_succ] at hstep
      omega
    obtain ⟨s, hs⟩ := Nat.exists_eq_succ_of_ne_zero hpos.ne'
    have hsmall : f.below word = Nat.pow 2 (f.shift word) := if_pos ⟨hpos, hsig⟩
    have hhalf : den * Nat.pow 2 (s + 1) = 2 * (den * Nat.pow 2 s) := by
      rw [Nat.pow_eq, Nat.pow_succ, Nat.pow_eq]
      ring
    rw [hsmall, hsig, hs, Nat.succ_eq_add_one, Nat.mul_comm (Nat.pow 2 (s + 1)) den, hhalf, Nat.mul_assoc] at hlo
    rw [hs, Nat.succ_eq_add_one, hhalf, Nat.mul_assoc] at hunder
    have hdouble : (s + 2) * Nat.pow 2 f.fraction = word := by
      rw [← hword, hsig, hs, Nat.succ_eq_add_one]
      ring
    rw [← hdouble] at hfin ⊢
    exact nearest_of_under hden hfin (by omega) hunder
  · have hscale : f.shift word = 0 ∨ den * Nat.pow 2 (f.shift word) * Nat.pow 2 f.fraction ≤ num := by omega
    rw [← hword] at hfin
    refine (nearest_of_near hden hfin hlt hscale (by omega) (by omega) fun hr ↦ ?_).trans hword
    have := hopen (hparity hr)
    omega

end Format

end Casement.Number

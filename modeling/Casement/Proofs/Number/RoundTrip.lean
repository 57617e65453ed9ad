import Casement.Proofs.Number.Digits
import Casement.Proofs.Number.Rounding

namespace Casement.Number

namespace Basin

variable {b : Basin} {num den digits : Nat}

theorem holds_of_nearest? (h : b.nearest? num den = some digits) : b.holds (digits * num) den = true ∧ digits ≠ 0 := by
  unfold nearest? at h
  dsimp only at h
  generalize b.middle * den / (4 * num) = lo at h
  generalize hloIn : b.holds (lo * num) den = loIn at h
  generalize hhiIn : b.holds ((lo + 1) * num) den = hiIn at h
  -- of the two neighbours on the grid, only one that holds is taken
  cases hiIn with
  | false =>
    cases loIn with
    | false => simp at h
    | true =>
      simp only [Bool.true_and, Bool.and_false, Bool.false_eq_true, if_false, bne_iff_ne] at h
      split at h
      · next hlo =>
        cases h
        exact ⟨hloIn, hlo⟩
      · cases h
  | true =>
    by_cases hlo : (loIn && lo != 0) = true
    · rw [hlo] at h
      obtain ⟨rfl, hne⟩ := Bool.and_eq_true_iff.mp hlo
      simp only [Bool.true_and, if_true] at h
      split at h
      · cases h
        exact ⟨hloIn, bne_iff_ne.mp hne⟩
      · cases h
        exact ⟨hhiIn, Nat.succ_ne_zero lo⟩
    · simp only [hlo, Bool.false_and, Bool.false_eq_true, if_false, if_true] at h
      cases h
      exact ⟨hhiIn, Nat.succ_ne_zero lo⟩

/-- A multiple that hits the middle is found, if no other one is. -/
theorem isSome_nearest? (hmiddle : b.middle * den = 4 * (digits * num)) (hnum : 0 < num) (hdigits : digits ≠ 0)
    (h : b.holds (digits * num) den = true) : (b.nearest? num den).isSome = true := by
  have hlo : b.middle * den / (4 * num) = digits := by
    rw [hmiddle, Nat.mul_left_comm]
    exact Nat.mul_div_left digits (by omega)
  unfold nearest?
  dsimp only
  rw [hlo, h, bne_iff_ne.mpr hdigits, Bool.true_and, Bool.true_and]
  split
  · split <;> rfl
  · rfl

end Basin

namespace Format

variable {f : Format} {word : Nat}

theorem nearest?_of_search {b : Basin} {n : Nat} {exponent : Int} {d : Decimal} (h : f.search b n exponent = some d) :
    b.nearest? (f.grid d.exponent).1 (f.grid d.exponent).2 = some d.digits := by
  induction n generalizing exponent with
  | zero => cases h
  | succ n ih =>
    unfold search at h
    dsimp only at h
    split at h
    · next digits hfound =>
      cases h
      exact hfound
    · exact ih h

theorem isSome_search {b : Basin} {n k : Nat} {exponent : Int} (hk : k < n)
    (h : (b.nearest? (f.grid (exponent - k)).1 (f.grid (exponent - k)).2).isSome = true) :
    (f.search b n exponent).isSome = true := by
  induction n generalizing exponent k with
  | zero => omega
  | succ n ih =>
    unfold search
    dsimp only
    split
    · rfl
    · next hnone =>
      cases k with
      | zero =>
        rw [Int.natCast_zero, Int.sub_zero, hnone] at h
        cases h
      | succ k =>
        refine ih (k := k) (by omega) ?_
        rwa [show exponent - 1 - (k : Int) = exponent - (k + 1 : Nat) by push_cast; ring]

/-- Formats whose finite numbers decimals of a reasonable size can reach. -/
structure Ordinary (f : Format) : Prop where
  fraction_pos : 0 < f.fraction
  two_le_exponent : 2 ≤ f.exponent
  scale_pos : 0 < f.scale
  small : Nat.pow 2 (f.scale + 1) ≤ Nat.pow 10 decimalReach.toNat
  large : Nat.pow 2 f.fraction * Nat.pow 2 (Nat.pow 2 f.exponent - 2) ≤ Nat.pow 10 decimalReach.toNat * Nat.pow 2 f.scale

theorem ordinary_single : single.Ordinary where
  fraction_pos := by decide
  two_le_exponent := by decide
  scale_pos := by decide
  small := by decide +kernel
  large := by decide +kernel

theorem ordinary_double : double.Ordinary where
  fraction_pos := by decide
  two_le_exponent := by decide
  scale_pos := by decide
  small := by decide +kernel
  large := by decide +kernel

theorem significand_pos (h : 0 < word) : 0 < f.significand word := by
  obtain ⟨hword, -, hnormal⟩ := f.significand_cases word
  have := f.pow_fraction_pos
  rcases hnormal with hzero | hnormal
  · rw [hzero, Nat.zero_mul, Nat.zero_add] at hword
    omega
  · omega

theorem below_pos (f : Format) (word : Nat) : 0 < f.below word := by
  have hpos : 0 < Nat.pow 2 (f.shift word) := Nat.two_pow_pos _
  unfold below
  split <;> omega

theorem holds_middle (h : 0 < word) {den : Nat} (hden : 0 < den) :
    (f.basin word).holds (f.units word * den) den = true := by
  have hunits : 0 < f.units word := by
    rw [units_eq]
    exact Nat.mul_pos (significand_pos h) (Nat.two_pow_pos _)
  have hpos : 0 < Nat.pow 2 (f.shift word) := Nat.two_pow_pos _
  have hlower : (4 * f.units word - f.below word) * den < 4 * (f.units word * den) := by
    rw [← Nat.mul_assoc]
    exact Nat.mul_lt_mul_of_pos_right (by have := f.below_pos word; omega) hden
  have hupper : 4 * (f.units word * den) < (4 * f.units word + 2 * Nat.pow 2 (f.shift word)) * den := by
    rw [← Nat.mul_assoc]
    exact Nat.mul_lt_mul_of_pos_right (by omega) hden
  rw [basin_eq, ← units_eq]
  unfold Basin.holds
  split
  · simp only [Bool.and_eq_true, decide_eq_true_eq]
    exact ⟨hlower.le, hupper.le⟩
  · simp only [Bool.and_eq_true, decide_eq_true_eq]
    exact ⟨hlower, hupper⟩

/-- The shortest decimal is found, and lies in the basin. -/
theorem shortest_holds (hf : f.Ordinary) (h : 0 < word) :
    let d := f.shortest word
    (f.basin word).holds (d.digits * (f.grid d.exponent).1) (f.grid d.exponent).2 = true ∧ d.digits ≠ 0 := by
  intro d
  -- on the finest grid the middle itself is a multiple
  have hgrid : f.grid (f.ceiling - (f.ceiling + f.scale : Nat)) = (Nat.pow 2 f.scale, Nat.pow 10 f.scale) := by
    have hscale := hf.scale_pos
    have hexponent : (f.ceiling : Int) - (f.ceiling + f.scale : Nat) = -(f.scale : Int) := by push_cast; ring
    unfold grid
    rw [hexponent, if_neg (by omega), Int.neg_neg, Int.toNat_natCast]
  have hten : Nat.pow 10 f.scale = Nat.pow 5 f.scale * Nat.pow 2 f.scale := by
    rw [Nat.pow_eq, Nat.pow_eq, Nat.pow_eq, ← Nat.mul_pow]
  have hmiddle : f.units word * Nat.pow 10 f.scale = f.units word * Nat.pow 5 f.scale * Nat.pow 2 f.scale := by
    rw [hten, Nat.mul_assoc]
  have hunits : 0 < f.units word := by
    rw [units_eq]
    exact Nat.mul_pos (significand_pos h) (Nat.two_pow_pos _)
  have hfive : 0 < Nat.pow 5 f.scale := Nat.pow_pos (by decide)
  have hquarters : (f.basin word).middle * Nat.pow 10 f.scale =
      4 * (f.units word * Nat.pow 5 f.scale * Nat.pow 2 f.scale) := by
    rw [← hmiddle, ← Nat.mul_assoc, basin_eq, ← units_eq]
  have hfinest : ((f.basin word).nearest? (Nat.pow 2 f.scale) (Nat.pow 10 f.scale)).isSome = true := by
    refine Basin.isSome_nearest? hquarters (Nat.two_pow_pos _) (Nat.mul_pos hunits hfive).ne' ?_
    rw [← hmiddle]
    exact holds_middle h (Nat.pow_pos (by decide))
  have hsearch : (f.search (f.basin word) f.depth f.ceiling).isSome = true := by
    refine isSome_search (k := f.ceiling + f.scale) (Nat.lt_succ_self _) ?_
    rw [hgrid]
    exact hfinest
  obtain ⟨d', hd'⟩ := Option.isSome_iff_exists.mp hsearch
  have heq : d = d' := by
    dsimp only [d]
    rw [shortest, hd', Option.getD_some]
  rw [heq]
  exact Basin.holds_of_nearest? (nearest?_of_search hd')

theorem shift_lt (hf : f.Ordinary) (hfin : word < f.infinity) : f.shift word + 1 ≤ Nat.pow 2 f.exponent - 2 := by
  have hfour : Nat.pow 2 2 ≤ Nat.pow 2 f.exponent := Nat.pow_le_pow_right (by decide) hf.two_le_exponent
  have hquot : word / Nat.pow 2 f.fraction < Nat.pow 2 f.exponent - 1 := by
    rw [Nat.div_lt_iff_lt_mul f.pow_fraction_pos]
    exact hfin
  have : Nat.pow 2 2 = 4 := rfl
  unfold shift
  omega

variable {num den : Nat}

theorem lt_of_holds (hf : f.Ordinary) (hfin : word < f.infinity) (hden : 0 < den)
    (h : (f.basin word).holds num den = true) : num < Nat.pow 10 decimalReach.toNat * Nat.pow 2 f.scale * den := by
  obtain ⟨⟨-, hhi⟩, -⟩ := bounds_of_holds h
  obtain ⟨-, hlt, -⟩ := f.significand_cases word
  rw [basin_eq] at hhi
  dsimp only at hhi
  have hP : 0 < Nat.pow 2 (f.shift word) := Nat.two_pow_pos _
  have hstep := Nat.mul_le_mul_right (Nat.pow 2 (f.shift word)) (Nat.succ_le_of_lt hlt)
  rw [Nat.succ_mul] at hstep
  -- the basin ends half a unit above the word, and so below the next power of two
  have hupper : 4 * (f.significand word * Nat.pow 2 (f.shift word)) + 2 * Nat.pow 2 (f.shift word) <
      4 * (2 * Nat.pow 2 f.fraction * Nat.pow 2 (f.shift word)) := by omega
  have hshift : Nat.pow 2 (f.shift word + 1) ≤ Nat.pow 2 (Nat.pow 2 f.exponent - 2) :=
    Nat.pow_le_pow_right (by decide) (shift_lt hf hfin)
  have hscaled : 2 * Nat.pow 2 f.fraction * Nat.pow 2 (f.shift word) ≤
      Nat.pow 10 decimalReach.toNat * Nat.pow 2 f.scale := by
    calc 2 * Nat.pow 2 f.fraction * Nat.pow 2 (f.shift word) = Nat.pow 2 f.fraction * Nat.pow 2 (f.shift word + 1) := by
          simp only [Nat.pow_eq, Nat.pow_succ]
          ring
      _ ≤ Nat.pow 2 f.fraction * Nat.pow 2 (Nat.pow 2 f.exponent - 2) := Nat.mul_le_mul_left _ hshift
      _ ≤ Nat.pow 10 decimalReach.toNat * Nat.pow 2 f.scale := hf.large
  have hquarters : 4 * num < 4 * (Nat.pow 10 decimalReach.toNat * Nat.pow 2 f.scale) * den :=
    calc 4 * num ≤ _ := hhi
      _ < 4 * (2 * Nat.pow 2 f.fraction * Nat.pow 2 (f.shift word)) * den := Nat.mul_lt_mul_of_pos_right hupper hden
      _ ≤ 4 * (Nat.pow 10 decimalReach.toNat * Nat.pow 2 f.scale) * den :=
        Nat.mul_le_mul_right den (Nat.mul_le_mul_left 4 hscaled)
  rw [Nat.mul_assoc 4] at hquarters
  exact Nat.lt_of_mul_lt_mul_left hquarters

theorem le_of_holds (hpos : 0 < word) (h : (f.basin word).holds num den = true) : den ≤ 2 * num := by
  obtain ⟨⟨hlo, -⟩, -⟩ := bounds_of_holds h
  rw [basin_eq] at hlo
  dsimp only at hlo
  have hP : 0 < Nat.pow 2 (f.shift word) := Nat.two_pow_pos _
  have hstep := Nat.mul_le_mul_right (Nat.pow 2 (f.shift word)) (significand_pos (f := f) hpos)
  have hbelow : f.below word ≤ 2 * Nat.pow 2 (f.shift word) := by
    unfold below
    split <;> omega
  have htwo := Nat.mul_le_mul_right den
    (show 2 ≤ 4 * (f.significand word * Nat.pow 2 (f.shift word)) - f.below word by omega)
  omega

theorem ten_pow_pos (n : Nat) : 0 < Nat.pow 10 n := Nat.pow_pos (by decide)

theorem lt_of_ten_pow_lt {m n : Nat} (h : Nat.pow 10 m < Nat.pow 10 n) : m < n :=
  (Nat.pow_lt_pow_iff_right (by decide)).mp h

theorem ten_pow_add (m n : Nat) : Nat.pow 10 (m + n) = Nat.pow 10 m * Nat.pow 10 n := Nat.pow_add ..

theorem reach_of_holds (hf : f.Ordinary) (hpos : 0 < word) (hfin : word < f.infinity) {digits : Nat} {exponent : Int}
    (hdigits : digits ≠ 0)
    (h : (f.basin word).holds (digits * (f.grid exponent).1) (f.grid exponent).2 = true) :
    -decimalReach ≤ exponent + (Nat.toDigits 10 digits).length ∧
      exponent + (Nat.toDigits 10 digits).length ≤ decimalReach := by
  obtain ⟨hlow, hhigh⟩ := digits_bounds hdigits
  have hlength : 0 < (Nat.toDigits 10 digits).length := Nat.length_toDigits_pos
  generalize (Nat.toDigits 10 digits).length = length at hlow hhigh hlength ⊢
  have hreach : decimalReach = decimalReach.toNat := rfl
  -- whole multiples are bounded from above only; fractions need both ends of the basin
  by_cases hexponent : 0 ≤ exponent
  · rw [grid, if_pos hexponent] at h
    have hlt := lt_of_holds hf hfin Nat.one_pos h
    dsimp only at hlt
    rw [Nat.mul_one, ← Nat.mul_assoc] at hlt
    have hpower : length - 1 + exponent.toNat < decimalReach.toNat := by
      apply lt_of_ten_pow_lt
      rw [ten_pow_add]
      exact (Nat.mul_le_mul_right _ hlow).trans_lt (Nat.lt_of_mul_lt_mul_right hlt)
    omega
  · rw [grid, if_neg hexponent] at h
    have hlt := lt_of_holds hf hfin (ten_pow_pos _) h
    have hle := le_of_holds hpos h
    dsimp only at hlt hle
    have hlower : (-exponent).toNat < decimalReach.toNat + length := by
      apply lt_of_ten_pow_lt
      rw [ten_pow_add]
      calc Nat.pow 10 (-exponent).toNat ≤ 2 * (digits * Nat.pow 2 f.scale) := hle
        _ = Nat.pow 2 (f.scale + 1) * digits := by
          simp only [Nat.pow_eq, Nat.pow_succ]
          ring
        _ ≤ Nat.pow 10 decimalReach.toNat * digits := Nat.mul_le_mul_right _ hf.small
        _ < Nat.pow 10 decimalReach.toNat * Nat.pow 10 length :=
          Nat.mul_lt_mul_of_pos_left hhigh (ten_pow_pos _)
    have hupper : length - 1 < decimalReach.toNat + (-exponent).toNat := by
      apply lt_of_ten_pow_lt
      rw [ten_pow_add]
      rw [Nat.mul_right_comm] at hlt
      exact hlow.trans_lt (Nat.lt_of_mul_lt_mul_right hlt)
    omega

variable {digits : Nat} {exponent : Int}

theorem ofDecimal_eq (f : Format) (hdigits : digits ≠ 0)
    (hlow : -decimalReach ≤ exponent + (Nat.toDigits 10 digits).length)
    (hhigh : exponent + (Nat.toDigits 10 digits).length ≤ decimalReach) (negative : Bool) :
    f.ofDecimal negative digits exponent =
      f.encode negative (digits * (f.grid exponent).1) (f.grid exponent).2 := by
  unfold ofDecimal grid
  dsimp only
  rw [if_neg (by simp [hdigits, Int.not_lt.mpr hlow]), if_neg (by omega)]
  split
  · rw [Nat.mul_assoc]
  · rfl

theorem ofDecimal_of_holds (hf : f.Ordinary) (hpos : 0 < word) (hfin : word < f.infinity) (hdigits : digits ≠ 0)
    (h : (f.basin word).holds (digits * (f.grid exponent).1) (f.grid exponent).2 = true) (negative : Bool) :
    f.ofDecimal negative digits exponent = (if negative then f.signBit else 0) + word := by
  obtain ⟨hlow, hhigh⟩ := reach_of_holds hf hpos hfin hdigits h
  have hden : 0 < (f.grid exponent).2 := by
    unfold grid
    split
    · exact Nat.one_pos
    · exact Nat.pow_pos (by decide)
  rw [ofDecimal_eq f hdigits hlow hhigh, encode, nearest_of_holds hf.fraction_pos hfin hden h]

theorem ofDecimal_of_holds_whole (hf : f.Ordinary) (hpos : 0 < word) (hfin : word < f.infinity) (hdigits : digits ≠ 0)
    (hexponent : 0 ≤ exponent)
    (h : (f.basin word).holds (digits * (f.grid exponent).1) (f.grid exponent).2 = true) (negative : Bool) :
    f.ofDecimal negative (digits * 10 ^ (exponent.toNat + 1)) (-1) = (if negative then f.signBit else 0) + word := by
  obtain ⟨hlow, hhigh⟩ := reach_of_holds hf hpos hfin hdigits h
  have hlength : (-1 : Int) + (Nat.toDigits 10 (digits * 10 ^ (exponent.toNat + 1))).length =
      exponent + (Nat.toDigits 10 digits).length := by
    rw [toDigits_mul_pow hdigits, List.length_append, List.length_replicate]
    omega
  have hwhole : digits * 10 ^ (exponent.toNat + 1) ≠ 0 := Nat.mul_ne_zero hdigits (Nat.pow_pos (by decide)).ne'
  have hgrid : f.grid exponent = (Nat.pow 10 exponent.toNat * Nat.pow 2 f.scale, 1) := if_pos hexponent
  have htenth : f.grid (-1) = (Nat.pow 2 f.scale, 10) := rfl
  have hscaled : digits * 10 ^ (exponent.toNat + 1) * Nat.pow 2 f.scale =
      digits * (Nat.pow 10 exponent.toNat * Nat.pow 2 f.scale) * 10 := by
    simp only [Nat.pow_eq, pow_succ]
    ring
  rw [← ofDecimal_of_holds hf hpos hfin hdigits h negative, ofDecimal_eq f hwhole (hlength ▸ hlow) (hlength ▸ hhigh),
    ofDecimal_eq f hdigits hlow hhigh, encode, encode, hgrid, htenth]
  dsimp only
  rw [hscaled, ← nearest_mul_right f (show 0 < 10 by decide) _ 1]

theorem nearest_units (hf : f.Ordinary) (hfin : word < f.infinity) (hden : 0 < den) :
    f.nearest (f.units word * den) den = word := by
  by_cases hzero : word = 0
  · subst hzero
    simp [units, nearest, roundDiv]
  · exact nearest_of_holds hf.fraction_pos hfin hden (holds_middle (Nat.pos_of_ne_zero hzero) hden)

theorem units_block {m k : Nat} (hm : m < 2 * Nat.pow 2 f.fraction) (hnormal : k = 0 ∨ Nat.pow 2 f.fraction ≤ m) :
    f.units (k * Nat.pow 2 f.fraction + m) = m * Nat.pow 2 k := by
  have hF := f.pow_fraction_pos
  have hshift : f.shift (k * Nat.pow 2 f.fraction + m) = k := by
    have hquot : m / Nat.pow 2 f.fraction < 2 := (Nat.div_lt_iff_lt_mul hF).mpr hm
    unfold shift
    rw [Nat.mul_comm, Nat.mul_add_div hF]
    rcases hnormal with rfl | hnormal
    · omega
    · have := (Nat.one_le_div_iff hF).mpr hnormal
      omega
  rw [units_eq, significand, hshift, Nat.add_sub_cancel_left]

theorem exists_units {m k : Nat} (hm : m < 2 * Nat.pow 2 f.fraction) (hk : k + 2 ≤ Nat.pow 2 f.exponent - 1) :
    ∃ word, word < f.infinity ∧ f.units word = m * Nat.pow 2 k := by
  induction k generalizing m with
  | zero =>
    refine ⟨0 * Nat.pow 2 f.fraction + m, ?_, units_block hm (.inl rfl)⟩
    calc 0 * Nat.pow 2 f.fraction + m < 2 * Nat.pow 2 f.fraction := by omega
      _ ≤ f.infinity := Nat.mul_le_mul_right _ hk
  | succ k ih =>
    by_cases hnormal : Nat.pow 2 f.fraction ≤ m
    · refine ⟨(k + 1) * Nat.pow 2 f.fraction + m, ?_, units_block hm (.inr hnormal)⟩
      calc (k + 1) * Nat.pow 2 f.fraction + m < (k + 1) * Nat.pow 2 f.fraction + 2 * Nat.pow 2 f.fraction :=
            Nat.add_lt_add_left hm _
        _ = (k + 1 + 2) * Nat.pow 2 f.fraction := by ring
        _ ≤ f.infinity := Nat.mul_le_mul_right _ hk
    · obtain ⟨word, hfin, hunits⟩ := ih (show 2 * m < 2 * Nat.pow 2 f.fraction by omega) (by omega)
      refine ⟨word, hfin, hunits.trans ?_⟩
      simp only [Nat.pow_eq, Nat.pow_succ]
      ring

theorem infinity_lt_signBit (f : Format) : f.infinity < f.signBit := by
  have hbit : f.signBit = Nat.pow 2 f.exponent * Nat.pow 2 f.fraction := by
    simp only [signBit, Nat.pow_eq]
    ring
  have hpos : 0 < Nat.pow 2 f.exponent := Nat.two_pow_pos _
  rw [hbit, infinity]
  exact Nat.mul_lt_mul_of_pos_right (by omega) f.pow_fraction_pos

theorem eq_sign_add (h : word < 2 * f.signBit) :
    (if decide (word / f.signBit % 2 = 1) then f.signBit else 0) + word % f.signBit = word := by
  have hpos : 0 < f.signBit := Nat.two_pow_pos _
  have hquot : word / f.signBit < 2 := (Nat.div_lt_iff_lt_mul hpos).mpr h
  have hsplit := Nat.div_add_mod word f.signBit
  generalize word / f.signBit = q at hquot hsplit ⊢
  interval_cases q
  · simpa using hsplit
  · simpa using hsplit

theorem decode_sign_add (f : Format) (negative : Bool) (hword : word ≤ f.infinity) :
    f.decode ((if negative then f.signBit else 0) + word) =
      if word < f.infinity then .finite negative (f.units word) else .infinite negative := by
  have hlt : word < f.signBit := hword.trans_lt f.infinity_lt_signBit
  have hpos : 0 < f.signBit := Nat.two_pow_pos _
  have hmod : ((if negative then f.signBit else 0) + word) % f.signBit = word := by
    split
    · rw [Nat.add_mod_left, Nat.mod_eq_of_lt hlt]
    · rw [Nat.zero_add, Nat.mod_eq_of_lt hlt]
  have hsign : decide (((if negative then f.signBit else 0) + word) / f.signBit % 2 = 1) = negative := by
    cases negative with
    | false => simp [Nat.div_eq_of_lt hlt]
    | true => simp [Nat.add_div_left _ hpos, Nat.div_eq_of_lt hlt]
  unfold decode
  dsimp only
  rw [hmod, hsign]
  split
  · rfl
  · rw [if_pos (by omega)]

structure IsNumber (f : Format) (word : Nat) : Prop where
  lt : word < 2 * f.signBit
  not_nan : ∀ negative, f.decode word ≠ .nan negative

theorem IsNumber.exists_magnitude (h : f.IsNumber word) :
    ∃ (negative : Bool) (rest : Nat), rest ≤ f.infinity ∧ word = (if negative then f.signBit else 0) + rest := by
  refine ⟨decide (word / f.signBit % 2 = 1), word % f.signBit, ?_, (eq_sign_add h.lt).symm⟩
  by_contra hgt
  refine h.not_nan (decide (word / f.signBit % 2 = 1)) ?_
  unfold decode
  dsimp only
  rw [if_neg (by omega), if_neg (by omega)]

theorem isNumber_sign_add (f : Format) (negative : Bool) {rest : Nat} (hrest : rest ≤ f.infinity) :
    f.IsNumber ((if negative then f.signBit else 0) + rest) where
  lt := by
    have := f.infinity_lt_signBit
    split <;> omega
  not_nan negative' h := by
    rw [decode_sign_add f negative hrest] at h
    split at h <;> cases h

theorem IsNumber.eq_infinity (h : f.IsNumber word) {negative : Bool} (hdecode : f.decode word = .infinite negative) :
    word = (if negative then f.signBit else 0) + f.infinity := by
  obtain ⟨negative', rest, hrest, rfl⟩ := h.exists_magnitude
  rw [decode_sign_add f negative' hrest] at hdecode
  split at hdecode
  · cases hdecode
  · cases hdecode
    rw [show rest = f.infinity by omega]

theorem convert_of_units {source target : Format} (htarget : target.Ordinary) {word word' : Nat}
    (hfin : word < source.infinity) (hfin' : word' < target.infinity)
    (hunits : target.units word' * Nat.pow 2 source.scale = source.units word * Nat.pow 2 target.scale)
    (negative : Bool) : source.convert target ((if negative then source.signBit else 0) + word) =
      (if negative then target.signBit else 0) + word' := by
  have hpos : 0 < Nat.pow 2 source.scale := Nat.two_pow_pos _
  unfold convert
  rw [decode_sign_add source negative hfin.le, if_pos hfin]
  dsimp only
  rw [encode, ← hunits, nearest_units htarget hfin' hpos]

theorem convert_infinity (source target : Format) (negative : Bool) :
    source.convert target ((if negative then source.signBit else 0) + source.infinity) =
      (if negative then target.signBit else 0) + target.infinity := by
  unfold convert
  rw [decode_sign_add source negative le_rfl, if_neg (Nat.lt_irrefl _)]

/-- Every number with single precision stands among those with double precision, and comes back. -/
theorem exists_double {rest : Nat} (hrest : rest ≤ single.infinity) (negative : Bool) :
    ∃ rest', rest' ≤ double.infinity ∧
      single.convert .double ((if negative then single.signBit else 0) + rest) =
        (if negative then double.signBit else 0) + rest' ∧
      double.convert .single ((if negative then double.signBit else 0) + rest') =
        (if negative then single.signBit else 0) + rest := by
  by_cases hfin : rest < single.infinity
  · obtain ⟨-, hlt, -⟩ := single.significand_cases rest
    have hshift := shift_lt ordinary_single hfin
    have hfraction : 2 * Nat.pow 2 single.fraction ≤ 2 * Nat.pow 2 double.fraction := by decide
    obtain ⟨gap, hgap, hroom⟩ : ∃ gap, double.scale = gap + single.scale ∧
      Nat.pow 2 single.exponent - 2 + gap + 1 ≤ Nat.pow 2 double.exponent - 1 := ⟨925, by decide, by decide⟩
    obtain ⟨rest', hfin', hunits⟩ := exists_units (f := double) (k := single.shift rest + gap)
      (hlt.trans_le hfraction) (by omega)
    have heq : double.units rest' * Nat.pow 2 single.scale = single.units rest * Nat.pow 2 double.scale := by
      rw [hunits, units_eq, hgap]
      simp only [Nat.pow_eq, Nat.pow_add]
      ring
    exact ⟨rest', hfin'.le, convert_of_units ordinary_double hfin hfin' heq negative,
      convert_of_units ordinary_single hfin' hfin heq.symm negative⟩
  · obtain rfl : rest = single.infinity := by omega
    exact ⟨double.infinity, le_rfl, convert_infinity .single .double negative, convert_infinity .double .single negative⟩

end Format

end Casement.Number

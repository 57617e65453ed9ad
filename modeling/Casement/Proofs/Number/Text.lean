import Casement.Number.Layout
import Casement.Proofs.Number.RoundTrip

namespace Casement.Number

structure Pointed (whole places : List Char) : Prop where
  whole_ne : whole ≠ []
  places_ne : places ≠ []
  digits : ∀ c ∈ whole ++ places, isDigit 10 c = true
  lead : whole = ['0'] ∨ whole.head? ≠ some '0'

theorem ofDigits_zeros (n : Nat) (cs : List Char) : ofDigits 10 (List.replicate n '0' ++ cs) = ofDigits 10 cs := by
  induction n with
  | zero => rfl
  | succ n ih => exact ih

namespace Decimal

theorem isDigit_of_mem_zeros {n : Nat} {c : Char} (hc : c ∈ zeros n) : isDigit 10 c = true := by
  rw [List.eq_of_mem_replicate hc]
  rfl

section Places

variable {n : Nat}

theorem pointed_append_zeros (hn : n ≠ 0) (k : Nat) : Pointed (Nat.toDigits 10 n ++ zeros k) ['0'] where
  whole_ne := by simp [Nat.toDigits_ne_nil]
  places_ne := by simp
  digits c hc := by
    simp only [List.mem_append, List.mem_singleton] at hc
    rcases hc with (hc | hc) | rfl
    · exact isDigit_of_mem_toDigits (by decide) (by decide) hc
    · exact isDigit_of_mem_zeros hc
    · rfl
  lead := by
    rw [List.head?_append_of_ne_nil _ Nat.toDigits_ne_nil]
    exact .inr (head_toDigits hn)

theorem pointed_take_drop (hn : n ≠ 0) {k : Nat} (hpos : 0 < k) (hlt : k < (Nat.toDigits 10 n).length) :
    Pointed ((Nat.toDigits 10 n).take k) ((Nat.toDigits 10 n).drop k) where
  whole_ne := by
    rw [ne_eq, List.take_eq_nil_iff, not_or]
    exact ⟨hpos.ne', Nat.toDigits_ne_nil⟩
  places_ne := by
    rw [ne_eq, List.drop_eq_nil_iff]
    exact Nat.not_le.mpr hlt
  digits c hc := by
    rw [List.take_append_drop] at hc
    exact isDigit_of_mem_toDigits (by decide) (by decide) hc
  lead := by
    rw [List.head?_take, if_neg hpos.ne']
    exact .inr (head_toDigits hn)

theorem pointed_zeros_append (k : Nat) : Pointed ['0'] (zeros k ++ Nat.toDigits 10 n) where
  whole_ne := by simp
  places_ne := by simp [Nat.toDigits_ne_nil]
  digits c hc := by
    simp only [List.mem_append, List.mem_singleton] at hc
    rcases hc with rfl | hc | hc
    · rfl
    · exact isDigit_of_mem_zeros hc
    · exact isDigit_of_mem_toDigits (by decide) (by decide) hc
  lead := .inl rfl

end Places

theorem positionalText_pointed (d : Decimal) (hd : d.digits ≠ 0) :
    ∃ whole places, d.positionalText true = whole ++ '.' :: places ∧ Pointed whole places ∧
      (0 ≤ d.exponent ∧ ofDigits 10 (whole ++ places) = d.digits * 10 ^ (d.exponent.toNat + 1) ∧ places.length = 1 ∨
        ofDigits 10 (whole ++ places) = d.digits ∧ (places.length : Int) = -d.exponent) := by
  have hread : ofDigits 10 (Nat.toDigits 10 d.digits) = d.digits := ofDigits_toDigits (by decide) (by decide) _
  unfold positionalText
  dsimp only
  split
  · next hwhole =>
    refine ⟨_, ['0'], rfl, pointed_append_zeros hd d.exponent.toNat, .inl ⟨hwhole, ?_, rfl⟩⟩
    rw [zeros, List.append_assoc, ← List.replicate_succ', ← toDigits_mul_pow hd,
      ofDigits_toDigits (by decide) (by decide)]
  · next hfraction =>
    split
    · next hplaces =>
      refine ⟨_, _, rfl, pointed_take_drop hd (by omega) (by omega), .inr ⟨?_, ?_⟩⟩
      · rw [List.take_append_drop, hread]
      · rw [List.length_drop]
        omega
    · refine ⟨['0'], zeros ((-d.exponent).toNat - (Nat.toDigits 10 d.digits).length) ++ Nat.toDigits 10 d.digits, rfl,
        pointed_zeros_append _, .inr ⟨?_, ?_⟩⟩
      · rw [zeros, ← List.append_assoc]
        exact (ofDigits_zeros 1 _).trans ((ofDigits_zeros _ _).trans hread)
      · rw [List.length_append, zeros, List.length_replicate]
        omega

end Decimal

namespace Format

variable {f : Format} {word : Nat}

def signText (negative : Bool) : List Char := if negative then ['-'] else []

theorem units_eq_zero_iff : f.units word = 0 ↔ word = 0 := by
  constructor
  · intro h
    by_contra hne
    rw [units_eq] at h
    have := Nat.mul_pos (significand_pos (f := f) (Nat.pos_of_ne_zero hne)) (Nat.two_pow_pos (f.shift word))
    exact this.ne' h
  · rintro rfl
    simp [units]

/-- A finite word is written as digits that are read as the word. -/
theorem write_pointed (hf : f.Ordinary) (nan : String) (hword : word < 2 * f.signBit) {negative : Bool} {units : Nat}
    (h : f.decode word = .finite negative units) :
    ∃ whole places, (f.write ⟨true, none, nan⟩ word).toList = signText negative ++ (whole ++ '.' :: places) ∧
      Pointed whole places ∧
      f.ofDecimal negative (ofDigits 10 (whole ++ places)) (-(places.length : Int)) = word := by
  have hsign := eq_sign_add hword
  have hdecode := h
  unfold decode at h
  dsimp only at h
  split at h
  · next hfin =>
    simp only [Datum.finite.injEq] at h
    obtain ⟨hneg, hunits⟩ := h
    rw [hneg] at hsign
    unfold write
    rw [hdecode]
    cases units with
    | zero =>
      have hzero := units_eq_zero_iff.mp hunits
      refine ⟨['0'], ['0'], by simp [signText], ⟨by simp, by simp, fun c hc ↦ ?_, .inl rfl⟩, ?_⟩
      · obtain rfl : c = '0' := by simpa using hc
        rfl
      rw [hzero, Nat.add_zero] at hsign
      exact hsign
    | succ units =>
      have hpos : 0 < word % f.signBit := by
        refine Nat.pos_of_ne_zero fun hzero ↦ ?_
        rw [hzero, units_eq_zero_iff.mpr rfl] at hunits
        cases hunits
      obtain ⟨hholds, hdigits⟩ := shortest_holds hf hpos
      obtain ⟨whole, places, htext, hpointed, hvalue⟩ := Decimal.positionalText_pointed _ hdigits
      refine ⟨whole, places, ?_, hpointed, ?_⟩
      · simp [signText, Decimal.text, htext]
      · rcases hvalue with ⟨hwhole, hvalue, hlength⟩ | ⟨hvalue, hlength⟩
        · rw [hvalue, hlength]
          exact (ofDecimal_of_holds_whole hf hpos hfin hdigits hwhole hholds negative).trans hsign
        · rw [hvalue, hlength, Int.neg_neg]
          exact (ofDecimal_of_holds hf hpos hfin hdigits hholds negative).trans hsign
  · split at h <;> cases h

theorem write_infinite (f : Format) (l : Layout) {negative : Bool} (h : f.decode word = .infinite negative) :
    (f.write l word).toList = signText negative ++ ['i', 'n', 'f'] := by
  unfold write
  rw [h]
  simp [signText]

end Format

end Casement.Number
